import AuthMiniGateway.Proof.ArmSteps

namespace AuthMiniGateway.Benchmark

open CutOff (Meets meets_pure meets_error preserves_ofExcept preserves_read)

namespace Campaign

variable {hash : JournalHash} {host : CampaignHost} {start core : Core} {count : Nat}

theorem finalTerminal_pass {verified : TerminalState} {disk : ExecutionDisk}
    (h : finalTerminal host verified disk = .ok .pass) : verified = .pass := by
  cases verified <;> simp_all [finalTerminal]

theorem deliverSealedCampaign_meets (h : Kept hash .campaign start core) (hsealed : core.sealed = true) :
    (deliverSealedCampaign host).Ends hash .campaign start core := by
  refine (verifiedTerminal_meets h).bind ?_
  rintro verified _ ⟨rfl, hmanifest⟩
  refine (host.ask_core _).then h fun _ => preserves_read.then h fun disk => ?_
  refine CutOff.meets_ofExcept h fun terminal hterminal => ⟨h, ?_⟩
  rintro rfl
  rw [finalTerminal_pass hterminal] at hmanifest
  exact h.pass_of_sealed hsealed hmanifest

variable {planned : PlannedArm} {requested : TerminalState} {reasons : List String}

theorem campaignState_pass {planned : Nat} {disk : ExecutionDisk} {completedArms : Nat}
    {journalRoot : Digest}
    (h : (campaignState host planned requested reasons disk completedArms journalRoot).1 = .pass) :
    partiallyStartedOrdinal disk.journal = none := by
  unfold campaignState at h
  dsimp only at h
  split at h
  · next hall => exact hall.2.2
  · split at h <;> cases h

theorem sealCampaign_meets (h : Kept hash .campaign start core) (hopen : core.sealed = false) :
    (sealCampaign hash host count requested reasons).Ends hash .campaign start core := by
  refine (parseRawArms_core _ _).then h fun arms => (host.ask_core _).then h fun _ => ?_
  refine Meets.read fun disk hdisk => Meets.ofExcept h fun journalRoot _ => ?_
  dsimp only
  refine (writeExecutionState_meets h).bind ?_
  rintro _ _ rfl
  have hwritten := h.stateWritten
  refine (writeProjectionRevision_core host _).then hwritten fun _ => (host.ask_core _).then hwritten fun _ => ?_
  refine (writeDerived_core _ _).then hwritten fun _ => (writeDerived_core _ _).then hwritten fun _ => ?_
  refine publishTerminal_meets hwritten rfl hopen ?_ fun seen => deliverSealedCampaign_meets
  intro hpass
  rw [← hdisk]
  exact campaignState_pass hpass

theorem finishCampaign_meets (h : Kept hash .campaign start core) :
    (finishCampaign hash host count requested reasons).Ends hash .campaign start core := by
  refine Meets.read fun disk hdisk => ?_
  have hsealed : disk.sealed = core.sealed := congrArg Core.sealed hdisk
  split
  · next htrue => exact deliverSealedCampaign_meets h (hsealed ▸ htrue)
  · next hfalse => exact sealCampaign_meets h (hsealed ▸ Bool.eq_false_iff.mpr hfalse)

theorem openRoot_meets (h : Unsealed hash .campaign start core) :
    (openRoot host).Keeps hash .campaign start (fun _ => Unsealed hash .campaign start) core := by
  refine Meets.read fun disk hdisk => ?_
  have hroot : disk.root = core.root := congrArg Core.root hdisk
  split
  · exact (requireInitialFiles_core host.toHost).meets h.kept fun _ => h
  · next hfalse => exact createRoot_meets h (hroot ▸ Bool.eq_false_iff.mpr hfalse)

theorem open_of_journal (h : Unsealed hash .campaign start core) (hjournal : core.journal ≠ []) :
    Open hash .campaign start 0 core := by
  obtain ⟨stage, hsound⟩ := h.kept.sound
  refine ⟨⟨stage, hsound, ?_⟩, h.unsealed, h.kept.stuck⟩
  cases stage with
  | opening count =>
    have hzero : count = 0 := Nat.lt_one_iff.mp hsound.holds.1
    subst hzero
    exact hjournal (List.map_eq_nil_iff.mp (hsound.shapes.trans rfl))
  | waiting completed | running ordinal => exact Nat.zero_le _

theorem openCampaign_meets (h : Unsealed hash .campaign start core) :
    (openCampaign hash host).Keeps hash .campaign start
      (fun _ => Open hash .campaign start 0) core := by
  refine (openRoot_meets h).bind fun _ opened hopened => ?_
  refine (writeAcceptedSignatures_core host).then hopened.kept fun _ => ?_
  have hfirst : ∀ core, (Stage.opening 0).Holds .campaign core → (Stage.waiting 0).Holds .campaign core := by
    rintro core ⟨_, hleaves, hexecuted, _⟩
    exact ⟨hleaves, hexecuted, nofun⟩
  refine (startJournal_meets hopened rfl hfirst).bind ?_
  rintro _ seen ⟨hseen, hjournal⟩
  refine (readProjectionBindings_core _).then hseen.kept fun _ => ?_
  refine (validateResumePrefix_core host).then hseen.kept fun _ => ?_
  exact (firstProjection_core host).meets hseen.kept fun _ => open_of_journal hseen hjournal

def Reached (hash : JournalHash) (start : Core) (next : Nat) : Option TerminalState → Core → Prop
  | some terminal => Ended hash .campaign start terminal
  | none => Open hash .campaign start next

theorem attemptArm_meets (h : Open hash .campaign start planned.ordinal core) :
    (attemptArm hash host count planned).Keeps hash .campaign start
      (Reached hash start (planned.ordinal + 1)) core := by
  refine CutOff.Meets.orElse (Meets.map ?_) fun error failed hfailed => Meets.map ?_
  · exact runOrRecover_meets h
  · exact finishCampaign_meets hfailed

theorem judgeArm_meets {next : Nat} (h : Open hash .campaign start next core) :
    (judgeArm hash host count planned).Keeps hash .campaign start
      (Reached hash start next) core := by
  have hend : ∀ {requested : TerminalState} {reasons : List String},
      (some <$> finishCampaign hash host count requested reasons : Execution _).Keeps hash .campaign
        start (Reached hash start next) core := by
    intro requested reasons
    refine Meets.map ?_
    exact finishCampaign_meets h.kept
  refine (rawArmByOrdinal_core _ _ _).then h.kept fun raw => ?_
  split
  · exact hend
  · exact hend
  · exact hend
  · split
    · refine (host.ask_core _).then h.kept fun _ => (host.ask_core _).then h.kept fun _ => ?_
      split
      · exact (writeProjectionRevision_core host _).then h.kept fun _ => meets_pure h
      · exact meets_pure h
    · exact hend

theorem campaignArm_meets (h : Open hash .campaign start planned.ordinal core) :
    (campaignArm hash host count planned).Keeps hash .campaign start
      (Reached hash start (planned.ordinal + 1)) core := by
  refine (host.ask_core _).then h.kept fun _ => (attemptArm_meets h).bind fun outcome seen hseen => ?_
  cases outcome with
  | some => exact meets_pure hseen
  | none => exact judgeArm_meets hseen

theorem campaignArms_meets {arms : List PlannedArm} {first : Nat} (hcounted : Counted first arms)
    (h : Open hash .campaign start first core) :
    (campaignArms hash host count arms).Keeps hash .campaign start
      (Reached hash start (first + arms.length)) core := by
  induction arms generalizing first core with
  | nil => exact meets_pure h
  | cons planned arms ih =>
    have hordinal : planned.ordinal = first := hcounted [] planned arms rfl
    have hrest : Counted (first + 1) arms := by
      intro before next rest harms
      have hnext := hcounted (planned :: before) next rest (by rw [List.cons_append, harms])
      rw [hnext, List.length_cons]
      omega
    rw [← hordinal] at h
    refine (campaignArm_meets h).bind fun outcome seen hseen => ?_
    cases outcome with
    | some => exact meets_pure hseen
    | none =>
      have hlength : first + (planned :: arms).length = first + 1 + arms.length := by
        rw [List.length_cons]
        omega
      rw [hlength]
      exact ih hrest (hordinal ▸ hseen)

theorem runOpenCampaign_meets {plan : List PlannedArm} (hcounted : Counted 0 plan)
    (h : Open hash .campaign start 0 core) :
    (runOpenCampaign hash host plan).Ends hash .campaign start core := by
  refine (campaignArms_meets hcounted h).bind fun outcome seen hseen => ?_
  cases outcome with
  | some => exact meets_pure hseen
  | none =>
    have hopen : Open hash .campaign start (0 + plan.length) seen := hseen
    refine (parseRawArms_core _ _).then hopen.kept fun _ => preserves_read.then hopen.kept fun disk => ?_
    split
    · exact finishCampaign_meets hopen.kept
    · exact finishCampaign_meets hopen.kept

theorem runCampaign_meets (h : Kept hash .campaign start core) :
    (runCampaign hash host).Ends hash .campaign start core := by
  refine (host.ask_core _).then h fun _ => (host.ask_core _).then h fun _ => ?_
  refine (host.ask_core _).then h fun _ => Meets.ofExcept h fun plan hplan => ?_
  refine Meets.read fun disk hdisk => ?_
  have hsealed : disk.sealed = core.sealed := congrArg Core.sealed hdisk
  split
  · next htrue => exact deliverSealedCampaign_meets h (hsealed ▸ htrue)
  · next hfalse =>
    have hunsealed : Unsealed hash .campaign start core :=
      ⟨h, hsealed ▸ Bool.eq_false_iff.mpr hfalse⟩
    refine (openCampaign_meets hunsealed).bind fun _ seen hseen => ?_
    refine (runOpenCampaign_meets (campaignPlan_counted hplan) hseen).orElse fun error failed hfailed => ?_
    exact (finishCampaign_meets hfailed).orElse fun finish last hlast => meets_error hlast

end Campaign

end AuthMiniGateway.Benchmark

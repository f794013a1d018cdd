import AuthMiniGateway.Proof.ArmSteps

namespace AuthMiniGateway.Benchmark

open CutOff (Meets meets_pure meets_error meets_forM meets_foldlM preserves_ofExcept preserves_read)

/-! ### The end of a calibration -/

namespace Calibration

variable {hash : JournalHash} {host : CalibrationHost} {start core : Core}

theorem deliverSealedCalibration_meets (h : Kept hash .calibration start core)
    (hsealed : core.sealed = true) :
    (deliverSealedCalibration host).Ends hash .calibration start core := by
  refine (verifiedTerminal_meets h).bind ?_
  rintro verified _ ⟨rfl, hmanifest⟩
  refine (host.ask_core _).then h fun _ => meets_pure ⟨h, ?_⟩
  rintro rfl
  exact h.pass_of_sealed hsealed hmanifest

variable {requested : TerminalState} {reasons : List String} {next first : Nat}
  {planSha256 : Digest}

theorem calibrationState_pass {disk : ExecutionDisk} {completedArms : Nat} {journalRoot : Digest}
    (h : (calibrationState host requested reasons disk completedArms journalRoot).1 = .pass) :
    partiallyStartedOrdinal disk.journal = none := by
  unfold calibrationState at h
  dsimp only at h
  split at h
  · next hboth => exact hboth.2
  · cases h

theorem sealCalibration_meets (h : Kept hash .calibration start core)
    (hopen : core.sealed = false) :
    (sealCalibration hash host requested reasons).Ends hash .calibration start core := by
  refine (parseRawArms_core _ _).then h fun arms => (host.ask_core _).then h fun _ => ?_
  refine (requireStorageAdmission_core host _).then h fun _ => (host.ask_core _).then h fun _ => ?_
  refine Meets.read fun disk hdisk => Meets.ofExcept h fun journalRoot _ => ?_
  dsimp only
  refine (writeExecutionState_meets h).bind ?_
  rintro _ _ rfl
  refine (writeProjectionFiles_core _ _).then h.stateWritten fun _ => ?_
  refine (check_core _).then h.stateWritten fun _ => ?_
  refine publishTerminal_meets h.stateWritten rfl hopen ?_ fun seen => deliverSealedCalibration_meets
  intro hpass
  rw [← hdisk]
  exact calibrationState_pass hpass

theorem finishCalibration_meets (h : Kept hash .calibration start core) :
    (finishCalibration hash host requested reasons).Ends hash .calibration start core := by
  refine Meets.read fun disk hdisk => ?_
  have hsealed : disk.sealed = core.sealed := congrArg Core.sealed hdisk
  split
  · next htrue => exact deliverSealedCalibration_meets h (hsealed ▸ htrue)
  · next hfalse => exact sealCalibration_meets h (hsealed ▸ Bool.eq_false_iff.mpr hfalse)

theorem openRoot_meets (h : Unsealed hash .calibration start core) :
    (openRoot host).Keeps hash .calibration start
      (fun _ => Unsealed hash .calibration start) core := by
  refine Meets.read fun disk hdisk => ?_
  have hroot : disk.root = core.root := congrArg Core.root hdisk
  split
  · exact (preserves_ofExcept _).then h.kept fun _ =>
      (requireInitialFiles_core host.toHost).meets h.kept fun _ => h
  · next hfalse => exact createRoot_meets h (hroot ▸ Bool.eq_false_iff.mpr hfalse)

theorem initializeTree_meets (h : Unsealed hash .calibration start core) :
    (initializeTree hash host).Keeps hash .calibration start
      (fun _ seen => Unsealed hash .calibration start seen ∧ seen.journal ≠ []) core := by
  refine (openRoot_meets h).bind fun _ opened hopened => ?_
  have hfirst : ∀ core, (Stage.opening 0).Holds .calibration core →
      (Stage.opening 1).Holds .calibration core := by
    rintro core ⟨_, hleaves, hexecuted, hsmoke⟩
    exact ⟨by simp [openingShapes], hleaves, hexecuted, fun _ => hsmoke (by simp)⟩
  refine (startJournal_meets hopened rfl hfirst).bind fun _ started hstarted => ?_
  refine (readProjectionBindings_core _).then hstarted.1.kept fun _ => ?_
  exact (validateResumePrefix_core host).meets hstarted.1.kept fun _ => hstarted

/-! ### The smoke -/

structure Ready (hash : JournalHash) (start core : Core) : Prop where
  sound : ∃ stage, Sound hash .calibration core stage ∧ (stage = .opening 1 ∨ stage.Past 0)
  unsealed : core.sealed = false
  stuck : Stuck start → SameArms start core

theorem Ready.kept (h : Ready hash start core) : Kept hash .calibration start core := by
  obtain ⟨⟨stage, hsound, _⟩, _, hstuck⟩ := h
  exact ⟨⟨stage, hsound⟩, hstuck⟩

theorem appendSmokeComplete_meets {content : Bytes} (hsound : Sound hash .calibration core (.opening 2))
    (hopen : core.sealed = false) (hsmoke : core.smoke = true) (hfree : ¬ Stuck start) :
    (appendSmokeComplete hash host content).Keeps hash .calibration start
      (fun _ => Open hash .calibration start 0) core := by
  have hholds : (Stage.waiting 0).Holds .calibration core :=
    ⟨hsound.holds.2.1, hsound.holds.2.2.1, fun _ => hsmoke⟩
  have hnext : ∀ next, Appended hash (.smokeComplete, none) core next →
      Sound hash .calibration next (.waiting 0) := fun next happended =>
    hsound.append happended hopen rfl hholds
  refine (appendJournalRecord_meets (.of_free hsound hfree)
    fun next happended => .of_free (hnext next happended) hfree).imp ?_
  intro _ next happended
  have hwaiting := hnext next happended
  obtain ⟨record, _, _, _, _, rfl⟩ := happended
  exact .of_free hwaiting (le_refl 0) hopen hfree

theorem smokeStart_iff {stage : Stage} (h : Sound hash .calibration core stage) :
    core.journal.getLast?.any (·.kind == .smokeStart) = true ↔ stage = .opening 2 := by
  have hlast : core.journal.getLast?.any (·.kind == .smokeStart) =
      (stage.shapes .calibration).getLast?.any (·.1 == .smokeStart) := by
    rw [← h.shapes, List.getLast?_map, Option.any_map]
    rfl
  rw [hlast]
  cases stage with
  | opening count =>
    have hcount : count < 3 := h.holds.1
    interval_cases count <;> simp [Stage.shapes, openingShapes]
  | waiting completed =>
    cases completed with
    | zero => simp [Stage.shapes, journalShapes, openingShapes, armShapes]
    | succ => simp [Stage.shapes, getLast?_armShapes_succ]
  | running => simp [Stage.shapes]

def Resumed (hash : JournalHash) (start : Core) : Option TerminalState → Core → Prop
  | some terminal => Ended hash .calibration start terminal
  | none => Ready hash start

theorem takeOverSmoke_meets (hsound : Sound hash .calibration core (.opening 2))
    (hopen : core.sealed = false) (hstuck : Stuck start → SameArms start core) :
    (takeOverSmoke hash host).Keeps hash .calibration start (Resumed hash start) core := by
  have hkept : Kept hash .calibration start core := ⟨⟨_, hsound⟩, hstuck⟩
  have hfree := not_stuck_start hstuck (not_stuck_of_not_started hsound.started_opening)
  refine Meets.read fun disk hdisk => ?_
  dsimp only
  split
  · refine Meets.map ?_
    exact finishCalibration_meets hkept
  · next content hcontent =>
    refine Meets.ofExcept hkept fun continues _ => ?_
    split
    · have hsmoke : core.smoke = true := by
        rw [← hdisk]
        simp [ExecutionDisk.core, hcontent]
      refine (appendSmokeComplete_meets hsound hopen hsmoke hfree).bind fun _ seen hseen => ?_
      obtain ⟨⟨stage, hstage, hpast⟩, hunsealed, hsame⟩ := hseen
      exact meets_pure ⟨⟨stage, hstage, Or.inr hpast⟩, hunsealed, hsame⟩
    · refine Meets.map ?_
      exact finishCalibration_meets hkept

theorem ready_of_sound {stage : Stage} (h : Unsealed hash .calibration start core)
    (hsound : Sound hash .calibration core stage) (hjournal : core.journal ≠ [])
    (hsmoke : stage ≠ .opening 2) : Ready hash start core := by
  refine ⟨⟨stage, hsound, ?_⟩, h.unsealed, h.kept.stuck⟩
  cases stage with
  | opening count =>
    have hcount : count < 3 := hsound.holds.1
    have hzero : count ≠ 0 := by
      rintro rfl
      exact hjournal (List.map_eq_nil_iff.mp (hsound.shapes.trans rfl))
    have htwo : count ≠ 2 := fun heq => hsmoke (heq ▸ rfl)
    have hone : count = 1 := by omega
    exact Or.inl (hone ▸ rfl)
  | waiting completed | running ordinal => exact Or.inr (Nat.zero_le _)

theorem resumeTerminalIfPartial_meets (h : Unsealed hash .calibration start core)
    (hjournal : core.journal ≠ []) :
    (resumeTerminalIfPartial hash host).Keeps hash .calibration start (Resumed hash start) core := by
  obtain ⟨stage, hsound⟩ := h.kept.sound
  refine Meets.read fun disk hdisk => ?_
  have hsame : disk.journal = core.journal := congrArg Core.journal hdisk
  rw [hsame]
  split
  · next hlast =>
    obtain rfl := (smokeStart_iff hsound).mp hlast
    exact takeOverSmoke_meets hsound h.unsealed h.kept.stuck
  · next hlast =>
    exact meets_pure (ready_of_sound h hsound hjournal fun heq => hlast ((smokeStart_iff hsound).mpr heq))

theorem smokeIntoOpenCalibration_meets (hsound : Sound hash .calibration core (.opening 2))
    (hopen : core.sealed = false) (hfree : ¬ Stuck start) :
    (smokeIntoOpenCalibration host).Keeps hash .calibration start
      (fun _ seen => Sound hash .calibration seen (.opening 2) ∧ seen.sealed = false) core := by
  refine Meets.read fun disk hdisk => ?_
  cases (host.smoke disk).1 with
  | none =>
    exact (preserves_ofExcept (.ok ())).then (.of_free hsound hfree) fun _ =>
      (preserves_ofExcept _).meets (.of_free hsound hfree) fun _ => ⟨hsound, hopen⟩
  | some =>
    refine Meets.write (.of_free hsound hfree) fun state hstate => ?_
    change Meets ExecutionDisk.core _ _ _ { state.core with smoke := true }
    rw [hstate]
    exact (preserves_ofExcept _).meets (.of_free hsound.smoked hfree) fun _ => ⟨hsound.smoked, hopen⟩

theorem startSmoke_meets (hsound : Sound hash .calibration core (.opening 1))
    (hopen : core.sealed = false) (hfree : ¬ Stuck start) :
    (startSmoke hash host).Keeps hash .calibration start
      (fun _ => Open hash .calibration start 0) core := by
  have hholds : (Stage.opening 2).Holds .calibration core :=
    ⟨by simp [openingShapes], hsound.holds.2.1, hsound.holds.2.2.1, fun hlt => absurd hlt (by simp)⟩
  have hnext : ∀ next, Appended hash (.smokeStart, none) core next →
      Sound hash .calibration next (.opening 2) := fun next happended =>
    hsound.append happended hopen rfl hholds
  refine CutOff.Meets.bind (appendJournalRecord_meets (.of_free hsound hfree)
    fun next happended => .of_free (hnext next happended) hfree) ?_
  intro _ started happended
  have hstarted := hnext started happended
  obtain ⟨record, _, _, _, _, rfl⟩ := happended
  refine (smokeIntoOpenCalibration_meets hstarted hopen hfree).bind ?_
  rintro _ smoked ⟨hsmoked, hunsealed⟩
  have hkept := Kept.of_free hsmoked hfree
  refine (host.ask_core _).then hkept fun _ => Meets.read fun disk hdisk => ?_
  split
  · next content hcontent =>
    refine appendSmokeComplete_meets hsmoked hunsealed ?_ hfree
    rw [← hdisk]
    simp [ExecutionDisk.core, hcontent]
  · exact meets_error hkept

theorem runSmoke_meets (h : Ready hash start core) :
    (runSmoke hash host).Keeps hash .calibration start
      (fun _ => Open hash .calibration start 0) core := by
  obtain ⟨stage, hsound, hstage⟩ := h.sound
  refine Meets.read fun disk hdisk => ?_
  have hsmoke : disk.topologySmoke.isSome = core.smoke := congrArg Core.smoke hdisk
  rw [hsmoke]
  split
  · next htrue =>
    refine meets_pure ⟨⟨stage, hsound, ?_⟩, h.unsealed, h.stuck⟩
    rcases hstage with rfl | hpast
    · exact absurd (htrue.symm.trans (hsound.holds.2.2.2 (by simp))) (by simp)
    · exact hpast
  · next hfalse =>
    rcases hstage with rfl | hpast
    · have hnot := not_stuck_of_not_started hsound.started_opening
      exact startSmoke_meets hsound h.unsealed (not_stuck_start h.stuck hnot)
    · refine absurd ?_ hfalse
      cases stage with
      | opening => exact hpast.elim
      | waiting => exact hsound.holds.2.2 rfl
      | running => exact hsound.holds.2 rfl

/-! ### The arms of a calibration -/

theorem runScout_meets {planned : PlannedArm} {arms : List ParsedArm}
    (h : Open hash .calibration start next core) :
    (runScout hash host planned arms next).Keeps hash .calibration start
      (fun progress => Open hash .calibration start progress.2) core := by
  refine CutOff.Meets.bind (runOrRecover_meets h) fun _ seen hseen => ?_
  refine (host.ask_core _).then hseen.kept fun _ => ?_
  refine (rawArmByOrdinal_core _ _ _).then hseen.kept fun parsed => ?_
  refine (host.ask_core _).then hseen.kept fun _ => (host.ask_core _).then hseen.kept fun _ => ?_
  exact meets_pure hseen

theorem runPanel_meets {panel : List PlannedArm} (h : Open hash .calibration start next core) :
    (runPanel hash host panel next).Keeps hash .calibration start
      (fun progress => Open hash .calibration start progress.2) core :=
  meets_foldlM h fun _ _ _ hseen => runScout_meets hseen

def Reached (hash : JournalHash) (start : Core) : Progress → Core → Prop
  | .next ordinal => Open hash .calibration start ordinal
  | .ended terminal => Ended hash .calibration start terminal

theorem scoutCell_meets {plan : List PlannedArm} {cell : Cell} {targets : List Nat}
    (h : Open hash .calibration start next core) :
    (scoutCell hash host plan cell targets next).Keeps hash .calibration start
      (Reached hash start) core := by
  induction targets generalizing next core with
  | nil => exact meets_error h.kept
  | cons _ _ ih =>
    refine (requireStorageAdmission_core host _).then h.kept fun _ => ?_
    refine (preserves_ofExcept _).then h.kept fun _ => ?_
    refine (runPanel_meets h).bind fun progress seen hseen => ?_
    dsimp only
    split
    · exact (host.ask_core _).then hseen.kept fun _ => meets_pure hseen
    · exact ih hseen
    · refine Meets.map ?_
      exact finishCalibration_meets hseen.kept

theorem scoutCells_meets {plan : List PlannedArm} {cells : List Cell}
    (h : Open hash .calibration start next core) :
    (scoutCells hash host plan cells next).Keeps hash .calibration start
      (Reached hash start) core := by
  induction cells generalizing next core with
  | nil => exact meets_pure h
  | cons _ _ ih =>
    refine (scoutCell_meets h).bind fun progress seen hseen => ?_
    cases progress with
    | next => exact ih hseen
    | ended => exact meets_pure hseen

theorem runFixedArm_meets {planned : PlannedArm}
    (h : Open hash .calibration start planned.ordinal core) :
    (runFixedArm hash host planSha256 planned).Keeps hash .calibration start
      (fun _ => Open hash .calibration start (planned.ordinal + 1)) core := by
  refine CutOff.Meets.bind (runOrRecover_meets h) fun _ seen hseen => ?_
  refine (rawArmByOrdinal_core _ _ _).then hseen.kept fun _ => (host.ask_core _).then hseen.kept fun _ => ?_
  exact (host.ask_core _).meets hseen.kept fun _ => hseen

theorem runFixedArms_meets {arms : List PlannedArm} (hcounted : Counted first arms)
    (h : Open hash .calibration start first core) :
    (runFixedArms hash host planSha256 arms).Keeps hash .calibration start
      (fun _ => Open hash .calibration start (first + arms.length)) core := by
  refine meets_forM (fun before => Open hash .calibration start (first + before.length)) h ?_
  intro before planned rest seen harms hseen
  have hordinal := hcounted before planned rest harms
  rw [← hordinal] at hseen
  have hlength : first + (before ++ [planned]).length = planned.ordinal + 1 := by
    rw [hordinal, List.length_append, List.length_singleton, Nat.add_assoc]
  rw [hlength]
  exact runFixedArm_meets hseen

theorem passPreseal_meets (h : Kept hash .calibration start core) :
    (passPreseal hash host).Ends hash .calibration start core := by
  refine preserves_read.then h fun disk => (preserves_ofExcept _).then h fun admissible => ?_
  split
  · exact finishCalibration_meets h
  · exact finishCalibration_meets h

theorem runDirect_meets {direct : List PlannedArm} (hcounted : Counted first direct)
    (h : Open hash .calibration start first core) :
    (runDirect hash host planSha256 direct).Ends hash .calibration start core := by
  refine (runFixedArms_meets hcounted h).bind fun _ seen hseen => ?_
  have hkept := hseen.kept
  refine (parseRawArms_core _ _).then hkept fun _ => (host.ask_core _).then hkept fun _ => ?_
  refine preserves_read.then hkept fun disk => (preserves_ofExcept _).then hkept fun admissible => ?_
  split
  · exact passPreseal_meets hkept
  · exact finishCalibration_meets hkept

theorem runWilliams_meets {plan : CalibrationExecutionPlan} (harms : Counted first plan.arms)
    (hdirect : Counted (first + plan.arms.length) plan.directEpochZero)
    (h : Open hash .calibration start first core) :
    (runWilliams hash host plan).Ends hash .calibration start core := by
  refine (host.ask_core _).then h.kept fun _ => preserves_read.then h.kept fun disk => ?_
  refine (writeOrRequireCanonical_core _ _).then h.kept fun _ => ?_
  refine (requireStorageAdmission_core host _).then h.kept fun _ => ?_
  refine (runFixedArms_meets harms h).bind fun _ seen hseen => ?_
  have hkept := hseen.kept
  refine (parseRawArms_core _ _).then hkept fun _ => (host.ask_core _).then hkept fun _ => ?_
  refine (selectParameters_core host).then hkept fun blocked => (host.ask_core _).then hkept fun _ => ?_
  refine preserves_read.then hkept fun disk => ?_
  refine (writeOrRequireCanonical_core _ _).then hkept fun _ => ?_
  cases blocked with
  | some => exact finishCalibration_meets hkept
  | none => exact runDirect_meets hdirect hseen

theorem runOpenCalibration_meets (h : Ready hash start core) :
    (runOpenCalibration hash host).Ends hash .calibration start core := by
  refine (host.ask_core _).then h.kept fun _ => (requireStorageAdmission_core host _).then h.kept fun _ => ?_
  refine (runSmoke_meets h).bind fun _ smoked hsmoked => ?_
  refine (preserves_ofExcept _).then hsmoked.kept fun plan => ?_
  refine (scoutCells_meets hsmoked).bind fun progress seen hseen => ?_
  cases progress with
  | ended => exact meets_pure hseen
  | next ordinal =>
    have hopen : Open hash .calibration start ordinal seen := hseen
    refine Meets.ofExcept hopen.kept fun plan hplan => ?_
    obtain ⟨harms, hdirect⟩ := calibrationPlanWithOffset_counted hplan
    exact runWilliams_meets harms hdirect hopen

theorem runCalibration_meets (h : Kept hash .calibration start core) :
    (runCalibration hash host).Ends hash .calibration start core := by
  refine (host.ask_core _).then h fun _ => Meets.read fun disk hdisk => ?_
  have hsealed : disk.sealed = core.sealed := congrArg Core.sealed hdisk
  split
  · next htrue => exact deliverSealedCalibration_meets h (hsealed ▸ htrue)
  · next hfalse =>
    have hunsealed : Unsealed hash .calibration start core :=
      ⟨h, hsealed ▸ Bool.eq_false_iff.mpr hfalse⟩
    refine (host.ask_core _).then h fun _ => (host.ask_core _).then h fun _ => ?_
    refine (initializeTree_meets hunsealed).bind ?_
    rintro _ opened ⟨hopened, hjournal⟩
    refine (resumeTerminalIfPartial_meets hopened hjournal).bind fun outcome seen hseen => ?_
    cases outcome with
    | some => exact meets_pure hseen
    | none =>
      refine (runOpenCalibration_meets hseen).orElse fun error failed hfailed => ?_
      exact (finishCalibration_meets hfailed).orElse fun finish last hlast => meets_error hlast

end Calibration

end AuthMiniGateway.Benchmark

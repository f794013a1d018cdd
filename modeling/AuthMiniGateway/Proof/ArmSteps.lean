import AuthMiniGateway.Proof.ArmFrames

namespace AuthMiniGateway.Benchmark

open CutOff (Meets meets_pure meets_error meets_ofExcept meets_write preserves_ofExcept preserves_forM)

/-! ### Trees that no process can go on with -/

/-- The last arm was started and has left no leaf. -/
def Stuck (core : Core) : Prop :=
  ∃ ordinal, partiallyStartedOrdinal core.journal = some ordinal ∧ core.leaves.length ≤ ordinal

structure SameArms (start core : Core) : Prop where
  journal : core.journal = start.journal
  leaves : core.leaves = start.leaves
  executed : core.executed = start.executed

theorem SameArms.stuck {start core : Core} (h : SameArms start core) (hstart : Stuck start) : Stuck core := by
  obtain ⟨ordinal, hstarted, hleaves⟩ := hstart
  exact ⟨ordinal, h.journal ▸ hstarted, h.leaves ▸ hleaves⟩

/-- The tree is sound, and if it was stuck at the start nothing has happened to its arms. -/
structure Kept (hash : JournalHash) (coordinator : Coordinator) (start core : Core) : Prop where
  sound : ∃ stage, Sound hash coordinator core stage
  stuck : Stuck start → SameArms start core

/-- Every ordinal before the next one has been completed or is the one that is running. -/
def Stage.Past (next : Nat) : Stage → Prop
  | .opening _ => False
  | .waiting completed => next ≤ completed
  | .running ordinal => next ≤ ordinal

structure Open (hash : JournalHash) (coordinator : Coordinator) (start : Core) (next : Nat) (core : Core) :
    Prop where
  sound : ∃ stage, Sound hash coordinator core stage ∧ stage.Past next
  unsealed : core.sealed = false
  stuck : Stuck start → SameArms start core

/-- The tree is kept wherever the program is cut off or fails, and `done` holds at its end. -/
abbrev Execution.Keeps {α : Type} (hash : JournalHash) (coordinator : Coordinator) (start : Core)
    (p : Execution α) (done : α → Core → Prop) : Core → Prop :=
  p.Meets ExecutionDisk.core (Kept hash coordinator start) done

section Arms

variable {hash : JournalHash} {coordinator : Coordinator} {host : Host} {start core next : Core}
  {wording : ArmWording} {phase : ExecutionPhase} {planSha256 : Digest} {planned : PlannedArm}
  {parsed : ParsedArm} {ordinal : Nat}

theorem Open.kept {count : Nat} (h : Open hash coordinator start count core) :
    Kept hash coordinator start core := by
  obtain ⟨⟨stage, hsound, _⟩, _, hstuck⟩ := h
  exact ⟨⟨stage, hsound⟩, hstuck⟩

theorem not_stuck_start (hstuck : Stuck start → SameArms start core) (hcore : ¬ Stuck core) :
    ¬ Stuck start := fun hstart => hcore ((hstuck hstart).stuck hstart)

variable {stage : Stage} {disk : ExecutionDisk} {journal : List ExecutionJournalRecord}
  {inv : Core → Prop} {message : String}

theorem Kept.of_free (hsound : Sound hash coordinator core stage) (hfree : ¬ Stuck start) :
    Kept hash coordinator start core := ⟨⟨stage, hsound⟩, fun hstuck => absurd hstuck hfree⟩

theorem Open.of_free {count : Nat} (hsound : Sound hash coordinator core stage)
    (hpast : stage.Past count) (hopen : core.sealed = false) (hfree : ¬ Stuck start) :
    Open hash coordinator start count core :=
  ⟨⟨stage, hsound, hpast⟩, hopen, fun hstuck => absurd hstuck hfree⟩

theorem not_stuck_of_not_started (h : partiallyStartedOrdinal core.journal = none) : ¬ Stuck core := by
  rintro ⟨ordinal, hstarted, _⟩
  simp [h] at hstarted

/-! ### The journal -/

theorem appended_of_write (hash : JournalHash) (host : Host) (input : JournalInput)
    (boottimeNs : Nat) {state : ExecutionDisk} (hstate : disk.state = some journal)
    (hsame : state.core = disk.core) :
    Appended hash (input.kind, input.ordinal) disk.core
      (ExecutionDisk.core
        { state with state := some (journal ++ [input.record hash host boottimeNs journal]) }) := by
  have hjournal : disk.core.journal = journal := by
    simp [ExecutionDisk.core, ExecutionDisk.journal, hstate]
  have hopened : disk.core.opened = true := by simp [ExecutionDisk.core, hstate]
  have hwritten : ExecutionDisk.core
      { state with state := some (journal ++ [input.record hash host boottimeNs journal]) } =
        { state.core with
          opened := true,
          journal := journal ++ [input.record hash host boottimeNs journal] } := rfl
  refine ⟨input.record hash host boottimeNs journal, rfl, ?_, ?_, hopened, ?_⟩
  · rw [hjournal]; rfl
  · rw [hjournal]; rfl
  · rw [hwritten, hsame, hjournal, hopened]

theorem openState_eq_ok (h : disk.openState = .ok journal) : disk.state = some journal := by
  unfold ExecutionDisk.openState at h
  split at h
  · next hstate => simpa [hstate] using h
  · cases h

theorem appendJournalRecord_meets {input : JournalInput} (hinv : inv core)
    (hnext : ∀ next, Appended hash (input.kind, input.ordinal) core next → inv next) :
    (appendJournalRecord hash coordinator host input).Meets ExecutionDisk.core inv
      (fun _ => Appended hash (input.kind, input.ordinal) core) core := by
  refine (host.ask_core _).then hinv fun _ => Meets.read fun disk hdisk => ?_
  subst hdisk
  refine Meets.ofExcept hinv fun journal hjournal => ?_
  refine (preserves_ofExcept _).then hinv fun _ => (preserves_ofExcept _).then hinv fun _ => ?_
  refine Meets.write hinv fun state hsame => ?_
  have happended :=
    appended_of_write hash host input (host.boottimeNs disk) (openState_eq_ok hjournal) hsame
  exact (check_core _).meets (hnext _ happended) fun _ => happended

/-! ### The leaves -/

theorem inspect_length {leaves : List RawLeaf} (h : (inspectEvidenceTree leaves).blockers = []) :
    (inspectEvidenceTree leaves).arms.length = leaves.length := by
  have hfault : ∀ leaf ∈ leaves, leaf.fault = none := by
    intro leaf hleaf
    by_contra hsome
    obtain ⟨error, herror⟩ := Option.ne_none_iff_exists'.mp hsome
    have hmem : "raw leaf `" ++ leaf.arm.leaf.text ++ "` is invalid: " ++ error ∈
        (inspectEvidenceTree leaves).blockers := by
      simp only [inspectEvidenceTree, List.mem_dedup, List.mem_insertionSort, List.mem_append,
        List.mem_filterMap]
      exact Or.inl (Or.inl (Or.inl (Or.inl ⟨leaf, hleaf, by rw [herror]; rfl⟩)))
    simp [h] at hmem
  have hall : leaves.filter (·.fault.isNone) = leaves :=
    List.filter_eq_self.mpr fun leaf hleaf => by simp [hfault leaf hleaf]
  simp [inspectEvidenceTree, sortArms, hall]

theorem parseRawArms_meets (hinv : inv core) :
    (parseRawArms host message).Meets ExecutionDisk.core inv
      (fun arms seen => seen = core ∧ arms.length = core.leaves.length) core := by
  refine (host.ask_core _).then hinv fun _ => Meets.read fun disk hdisk => ?_
  refine Meets.ofExcept hinv fun _ hempty => meets_pure ⟨rfl, ?_⟩
  rw [require_eq_ok_iff, List.isEmpty_iff] at hempty
  rw [inspect_length hempty, ← hdisk]
  rfl

/-! ### One arm -/

structure Published (hash : JournalHash) (coordinator : Coordinator) (ordinal : Nat) (core : Core) :
    Prop where
  sound : Sound hash coordinator core (.running ordinal)
  leaves : core.leaves.length = ordinal + 1
  unsealed : core.sealed = false

theorem Published.executed (h : Published hash coordinator ordinal core) :
    core.executed = (List.range (ordinal + 1)).reverse := by
  rcases h.sound.holds.1 with hbefore | hbefore | ⟨_, hexecuted⟩
  · have := hbefore.1.symm.trans h.leaves
    omega
  · have := hbefore.1.symm.trans h.leaves
    omega
  · exact hexecuted

theorem executeProcessArm_meets (hfree : ¬ Stuck start)
    (hsound : Sound hash coordinator core (.running planned.ordinal)) (hopen : core.sealed = false)
    (hleaves : core.leaves.length = planned.ordinal)
    (hexecuted : core.executed = (List.range planned.ordinal).reverse) :
    (executeProcessArm host planned).Keeps hash coordinator start
      (fun _ => Published hash coordinator planned.ordinal) core := by
  refine Meets.write (.of_free hsound hfree) fun state hstate => ?_
  have hbegun : Sound hash coordinator
      { core with executed := planned.ordinal :: core.executed } (.running planned.ordinal) :=
    hsound.execute hleaves hexecuted
  have hkept := Kept.of_free hbegun hfree
  rw [← hstate] at hbegun hkept hleaves hexecuted hopen
  refine (host.ask_core _).then hkept fun _ => Meets.read fun disk hdisk => ?_
  refine (preserves_ofExcept _).then hkept fun _ => ?_
  split
  · next leaf _ =>
    refine meets_write hkept fun state' hstate' => ?_
    have hlist : (List.range (planned.ordinal + 1)).reverse = planned.ordinal :: state.core.executed := by
      rw [hexecuted, List.range_succ, List.reverse_append, List.reverse_singleton,
        List.singleton_append]
    have hpublished := hbegun.publish hleaves hlist.symm (rfl :
      (leaf.publishedFor planned).arm.metadata.ordinal = planned.ordinal)
    have hcore : ExecutionDisk.core
        { state' with leaves := state'.leaves ++ [leaf.publishedFor planned] } =
          { state'.core with leaves := state'.core.leaves ++ [leaf.publishedFor planned] } := rfl
    rw [hcore, hstate']
    exact ⟨hpublished, by simp [ExecutionDisk.core] at hleaves ⊢; exact hleaves, hopen⟩
  · exact (retainArmFailure_core host _).then hkept fun _ => meets_error hkept

theorem appendArmComplete_meets (hfree : ¬ Stuck start)
    (h : Published hash coordinator planned.ordinal core) :
    (appendArmComplete hash coordinator host phase planSha256 planned parsed).Keeps hash coordinator start
      (fun _ => Open hash coordinator start (planned.ordinal + 1)) core := by
  have hnext : ∀ next, Appended hash (.armComplete, some planned.ordinal) core next →
      Sound hash coordinator next (.waiting (planned.ordinal + 1)) := fun next happended =>
    h.sound.append happended h.unsealed (shapes_waiting_succ coordinator planned.ordinal)
      ⟨h.leaves, h.executed, h.sound.holds.2⟩
  refine (appendJournalRecord_meets (.of_free h.sound hfree)
    fun next happended => .of_free (hnext next happended) hfree).imp ?_
  intro _ next happended
  obtain ⟨record, _, _, _, _, rfl⟩ := id happended
  exact .of_free (hnext _ happended) (le_refl _) h.unsealed hfree

theorem startArm_meets (hfree : ¬ Stuck start)
    (hsound : Sound hash coordinator core (.waiting planned.ordinal)) (hopen : core.sealed = false) :
    (startArm hash coordinator wording host phase planSha256 planned).Keeps hash coordinator start
      (fun _ => Open hash coordinator start (planned.ordinal + 1)) core := by
  have hholds : (Stage.running planned.ordinal).Holds coordinator core :=
    ⟨Or.inl ⟨hsound.holds.1, hsound.holds.2.1⟩, hsound.holds.2.2⟩
  have hnext : ∀ next, Appended hash (.armStart, some planned.ordinal) core next →
      Sound hash coordinator next (.running planned.ordinal) := fun next happended =>
    hsound.append happended hopen (shapes_running coordinator planned.ordinal) hholds
  refine CutOff.Meets.bind (appendJournalRecord_meets (.of_free hsound hfree)
    fun next happended => .of_free (hnext next happended) hfree) ?_
  intro _ started happended
  have hstarted := hnext started happended
  obtain ⟨record, _, _, _, _, rfl⟩ := happended
  refine CutOff.Meets.bind
    (executeProcessArm_meets hfree hstarted hopen hsound.holds.1 hsound.holds.2.1) ?_
  intro _ published hpublished
  have hkept := Kept.of_free hpublished.sound hfree
  refine (rawArmByOrdinal_core host wording _).then hkept fun parsed => ?_
  refine (preserves_ofExcept _).then hkept fun _ => ?_
  refine (appendArmComplete_meets hfree hpublished).bind ?_
  intro _ completed hcompleted
  exact meets_pure hcompleted

theorem checkStart_core (journal : List ExecutionJournalRecord)
    (checkStart : ExecutionJournalRecord → Except String Unit) :
    (journal.getLast?.forM fun start => CutOff.ofExcept (checkStart start) : Execution Unit).Preserves
      ExecutionDisk.core := by
  cases journal.getLast? with
  | none => exact preserves_ofExcept (.ok ())
  | some => exact preserves_ofExcept _

theorem recoverArm_meets {checkStart : ExecutionJournalRecord → Except String Unit}
    (h : Open hash coordinator start planned.ordinal core) (hleaf : planned.ordinal < core.leaves.length) :
    (recoverArm hash coordinator host phase planSha256 checkStart planned parsed).Keeps hash coordinator start
      (fun _ => Open hash coordinator start (planned.ordinal + 1)) core := by
  obtain ⟨stage, hsound, hpast⟩ := h.sound
  refine (preserves_ofExcept _).then h.kept fun _ => Meets.read fun disk hdisk => ?_
  have hjournal : disk.journal = core.journal := congrArg Core.journal hdisk
  rw [hjournal]
  dsimp only
  split
  · next hstarted =>
    obtain rfl := hsound.running_of_started hstarted
    have hnot : ¬ Stuck core := by
      rintro ⟨ordinal, hother, hfew⟩
      rw [hstarted, Option.some.injEq] at hother
      omega
    have hleaves : core.leaves.length = planned.ordinal + 1 := by
      rcases hsound.holds.1 with hcount | hcount | hcount <;> omega
    have hfree := not_stuck_start h.stuck hnot
    refine (checkStart_core core.journal checkStart).then h.kept fun _ => ?_
    refine (appendArmComplete_meets hfree ⟨hsound, hleaves, h.unsealed⟩).bind ?_
    intro _ completed hcompleted
    exact meets_pure hcompleted
  · next hstarted =>
    refine meets_pure ⟨⟨stage, hsound, ?_⟩, h.unsealed, h.stuck⟩
    cases stage with
    | opening => exact hpast
    | waiting => exact hsound.holds.1 ▸ hleaf
    | running ordinal =>
      have hne : ordinal ≠ planned.ordinal := fun heq => hstarted (heq ▸ hsound.started_running)
      exact lt_of_le_of_ne hpast hne.symm

theorem runNextArm_meets (h : Open hash coordinator start planned.ordinal core)
    (hleaf : planned.ordinal = core.leaves.length) :
    (runNextArm hash coordinator wording host phase planSha256 planned).Keeps hash coordinator start
      (fun _ => Open hash coordinator start (planned.ordinal + 1)) core := by
  obtain ⟨stage, hsound, hpast⟩ := h.sound
  refine Meets.read fun disk hdisk => ?_
  have hjournal : disk.journal = core.journal := congrArg Core.journal hdisk
  rw [hjournal]
  split
  · exact (retainInterruptedProcessArm_core host planned).then h.kept fun _ => meets_error h.kept
  · next hstarted =>
    have hwaiting : stage = .waiting planned.ordinal := by
      cases stage with
      | opening => exact hpast.elim
      | waiting => rw [hleaf, hsound.holds.1]
      | running ordinal =>
        have hle : ordinal ≤ core.leaves.length := by
          rcases hsound.holds.1 with hcount | hcount | hcount <;> omega
        have heq : ordinal = planned.ordinal := le_antisymm (hleaf ▸ hle) hpast
        exact absurd (heq ▸ hsound.started_running) hstarted
    subst hwaiting
    exact startArm_meets (not_stuck_start h.stuck (not_stuck_of_not_started hsound.started_waiting))
      hsound h.unsealed

/-- **One arm.** An arm whose turn it is comes out completed, or the tree stays sound. -/
theorem runOrRecover_meets {checkStart : ExecutionJournalRecord → Except String Unit}
    (h : Open hash coordinator start planned.ordinal core) :
    (runOrRecover hash coordinator wording host phase planSha256 checkStart planned).Meets
      ExecutionDisk.core (Kept hash coordinator start)
      (fun _ => Open hash coordinator start (planned.ordinal + 1)) core := by
  refine (parseRawArms_meets h.kept).bind ?_
  rintro existing _ ⟨rfl, hlength⟩
  split
  · next parsed hparsed =>
    obtain ⟨hlt, _⟩ := List.getElem?_eq_some_iff.mp hparsed
    exact recoverArm_meets h (hlength ▸ hlt)
  · split
    · next heq => exact runNextArm_meets h (heq.trans hlength)
    · exact meets_error h.kept

/-! ### Ending -/

/-- How a process ends: with pass only if no arm is running. -/
structure Ended (hash : JournalHash) (coordinator : Coordinator) (start : Core) (terminal : TerminalState)
    (core : Core) : Prop where
  kept : Kept hash coordinator start core
  pass : terminal = .pass → partiallyStartedOrdinal core.journal = none

abbrev Execution.Ends (hash : JournalHash) (coordinator : Coordinator) (start : Core)
    (p : Execution TerminalState) : Core → Prop :=
  p.Keeps hash coordinator start (Ended hash coordinator start)

theorem Kept.stateWritten (h : Kept hash coordinator start core) :
    Kept hash coordinator start { core with stateWritten := true } := by
  obtain ⟨⟨stage, hsound⟩, hstuck⟩ := h
  refine ⟨⟨stage, { hsound with manifest := fun _ => rfl, holds := ?_ }⟩, fun hstart => ?_⟩
  · cases stage <;> exact hsound.holds
  · exact { hstuck hstart with }

theorem Kept.withManifest (terminal : TerminalState) (h : Kept hash coordinator start core)
    (hwritten : core.stateWritten = true) (hopen : core.sealed = false) :
    Kept hash coordinator start { core with manifest := some terminal } := by
  obtain ⟨⟨stage, hsound⟩, hstuck⟩ := h
  refine ⟨⟨stage, { hsound with manifest := fun _ => hwritten, holds := ?_, pass := ?_ }⟩, fun hstart => ?_⟩
  · cases stage <;> exact hsound.holds
  · intro hsealed
    exact absurd (hopen.symm.trans hsealed) (by simp)
  · exact { hstuck hstart with }

theorem Kept.withSeal (h : Kept hash coordinator start core)
    (hpass : core.manifest = some .pass → partiallyStartedOrdinal core.journal = none) :
    Kept hash coordinator start { core with sealed := true } := by
  obtain ⟨⟨stage, hsound⟩, hstuck⟩ := h
  refine ⟨⟨stage, { hsound with holds := ?_, pass := fun _ => hpass }⟩, fun hstart => ?_⟩
  · cases stage <;> exact hsound.holds
  · exact { hstuck hstart with }

theorem Kept.pass_of_sealed (h : Kept hash coordinator start core) (hsealed : core.sealed = true)
    (hmanifest : core.manifest = some .pass) : partiallyStartedOrdinal core.journal = none := by
  obtain ⟨⟨stage, hsound⟩, _⟩ := h
  exact hsound.pass hsealed hmanifest

theorem writeNew_meets {name : String} {written : ExecutionDisk → Bool}
    {change : ExecutionDisk → ExecutionDisk} {done : Unit → Core → Prop} (hinv : inv core)
    (h : ∀ disk, disk.core = core → done () (change disk).core) :
    (writeNew name written change).Meets ExecutionDisk.core inv done core :=
  (check_core _).then hinv fun _ => meets_write hinv h

theorem writeExecutionState_meets {state : ExecutionState} (hinv : inv core) :
    (writeExecutionState host state).Meets ExecutionDisk.core inv
      (fun _ seen => seen = { core with stateWritten := true }) core := by
  refine (preserves_ofExcept _).then hinv fun _ => writeNew_meets hinv fun disk hdisk => ?_
  rw [← hdisk]
  rfl

theorem verifiedTerminal_meets (hinv : inv core) :
    (verifiedTerminal host message).Meets ExecutionDisk.core inv
      (fun verified seen => seen = core ∧ core.manifest = some verified) core := by
  refine Meets.read fun disk hdisk => Meets.ofExcept hinv fun verified _ => ?_
  refine Meets.ofExcept hinv fun _ hmanifest => meets_pure ⟨rfl, ?_⟩
  rw [require_eq_ok_iff, beq_iff_eq] at hmanifest
  rw [← hdisk]
  exact hmanifest

theorem publishTerminal_meets {name : String} {terminal : TerminalState}
    {deliver : Execution TerminalState} (h : Kept hash coordinator start core)
    (hwritten : core.stateWritten = true) (hopen : core.sealed = false)
    (hpass : terminal = .pass → partiallyStartedOrdinal core.journal = none)
    (hdeliver : ∀ seen, Kept hash coordinator start seen → seen.sealed = true →
      deliver.Ends hash coordinator start seen) :
    (do writeManifest host name terminal
        createSeal host
        requireDerived host terminal message
        deliver : Execution TerminalState).Ends hash coordinator start core := by
  have hmanifest : (writeManifest host name terminal).Keeps hash coordinator start
      (fun _ seen => seen = { core with manifest := some terminal }) core := by
    refine (host.ask_core _).then h fun _ => writeNew_meets h fun disk hdisk => ?_
    rw [← hdisk]
    rfl
  refine hmanifest.bind ?_
  rintro _ _ rfl
  have hkept := h.withManifest terminal hwritten hopen
  have hseal : (createSeal host).Keeps hash coordinator start
      (fun _ seen => seen = { core with manifest := some terminal, sealed := true })
      { core with manifest := some terminal } := by
    refine (host.ask_core _).then hkept fun _ => writeNew_meets hkept fun disk hdisk => ?_
    change { disk.core with sealed := true } = _
    rw [hdisk]
  refine hseal.bind ?_
  rintro _ _ rfl
  have hsealed := hkept.withSeal fun heq => hpass (Option.some.inj heq)
  exact (requireDerived_core host terminal message).then hsealed fun _ => hdeliver _ hsealed rfl

/-! ### Opening the tree -/

theorem Kept.withRoot (h : Kept hash coordinator start core) :
    Kept hash coordinator start { core with root := true } := by
  obtain ⟨⟨stage, hsound⟩, hstuck⟩ := h
  refine ⟨⟨stage, { hsound with holds := ?_, fresh := ?_ }⟩, fun hstart => ?_⟩
  · cases stage <;> exact hsound.holds
  · intro hroot
    cases hroot
  · exact { hstuck hstart with }

theorem Kept.withState (h : Kept hash coordinator start core) (hroot : core.root = true) :
    Kept hash coordinator start { core with opened := true } := by
  obtain ⟨⟨stage, hsound⟩, hstuck⟩ := h
  refine ⟨⟨stage, { hsound with holds := ?_, fresh := ?_, unopened := ?_ }⟩, fun hstart => ?_⟩
  · cases stage <;> exact hsound.holds
  · intro hnot
    exact absurd (hroot.symm.trans hnot) (by simp)
  · intro hnot
    cases hnot
  · exact { hstuck hstart with }

theorem Kept.journal_of_fresh (h : Kept hash coordinator start core) (hroot : core.root = false) :
    core.journal = [] := by
  obtain ⟨⟨stage, hsound⟩, _⟩ := h
  exact hsound.unopened (hsound.fresh hroot)

structure Unsealed (hash : JournalHash) (coordinator : Coordinator) (start core : Core) : Prop where
  kept : Kept hash coordinator start core
  unsealed : core.sealed = false

theorem createRoot_meets (h : Unsealed hash coordinator start core) (hroot : core.root = false) :
    (createRoot host).Keeps hash coordinator start
      (fun _ => Unsealed hash coordinator start) core := by
  have hempty := h.kept.journal_of_fresh hroot
  have hrooted := h.kept.withRoot
  have hopened := hrooted.withState rfl
  refine Meets.write h.kept fun disk hdisk => ?_
  change Meets ExecutionDisk.core _ _ _ { disk.core with root := true }
  rw [hdisk]
  have hfiles : (host.initialFiles.forM writeInitialFile).Preserves ExecutionDisk.core :=
    preserves_forM fun file _ => writeNew_core fun disk => put_core disk file.1 file.2
  refine hfiles.then hrooted fun _ => Meets.write hrooted fun disk hdisk => ?_
  have hcore : ExecutionDisk.core { disk with state := some [] } =
      { core with root := true, opened := true } := by
    change { disk.core with opened := true, journal := [] } = _
    rw [hdisk, ← hempty]
  rw [hcore]
  refine meets_write hopened fun disk hdisk => ?_
  change Unsealed hash coordinator start disk.core
  rw [hdisk]
  exact ⟨hopened, h.unsealed⟩

theorem readJournal_eq_ok (h : readJournal hash disk = .ok journal) :
    disk.state = some journal := by
  unfold readJournal at h
  simp only [Fallible.bind_eq_ok_iff] at h
  obtain ⟨records, hopen, h⟩ := h
  split at h
  · cases h
    exact openState_eq_ok hopen
  · simp only [Fallible.bind_eq_ok_iff] at h
    obtain ⟨_, _, h⟩ := h
    cases h
    exact openState_eq_ok hopen

theorem startJournal_meets (h : Unsealed hash coordinator start core)
    (hshapes : stage.shapes coordinator = [(.campaignStart, none)])
    (hholds : ∀ core, (Stage.opening 0).Holds coordinator core → stage.Holds coordinator core) :
    (startJournal hash coordinator host phase planSha256).Keeps hash coordinator start
      (fun _ seen => Unsealed hash coordinator start seen ∧ seen.journal ≠ []) core := by
  refine Meets.read fun disk hdisk => Meets.ofExcept h.kept fun journal hread => ?_
  have hjournal : core.journal = journal := by
    rw [← hdisk]
    simp [ExecutionDisk.core, ExecutionDisk.journal, readJournal_eq_ok hread]
  split
  · next hempty =>
    rw [List.isEmpty_iff] at hempty
    have hnil : core.journal = [] := hjournal.trans hempty
    obtain ⟨⟨stage', hsound⟩, hstuck⟩ := id h.kept
    have hnot : partiallyStartedOrdinal core.journal = none := by rw [hnil]; rfl
    have hfree := not_stuck_start hstuck (not_stuck_of_not_started hnot)
    obtain rfl := hsound.opening_of_nil hnil
    have hnext : ∀ next, Appended hash (.campaignStart, none) core next →
        Sound hash coordinator next stage := fun next happended =>
      hsound.append happended h.unsealed hshapes (hholds core hsound.holds)
    refine (appendJournalRecord_meets h.kept
      fun next happended => .of_free (hnext next happended) hfree).imp ?_
    intro _ next happended
    have hkept := Kept.of_free (hnext next happended) hfree
    obtain ⟨record, _, _, _, _, rfl⟩ := happended
    exact ⟨⟨hkept, h.unsealed⟩, by simp⟩
  · next hsome =>
    refine meets_pure ⟨h, ?_⟩
    rw [hjournal]
    simpa using hsome

end Arms

end AuthMiniGateway.Benchmark

import AuthMiniGateway.Benchmark.Coordinators

namespace AuthMiniGateway.Benchmark

@[ext]
structure Core where
  root : Bool
  opened : Bool
  journal : List ExecutionJournalRecord
  leaves : List RawLeaf
  executed : List Nat
  smoke : Bool
  stateWritten : Bool
  manifest : Option TerminalState
  sealed : Bool

def ExecutionDisk.core (disk : ExecutionDisk) : Core where
  root := disk.root
  opened := disk.state.isSome
  journal := disk.journal
  leaves := disk.leaves
  executed := disk.executed
  smoke := disk.topologySmoke.isSome
  stateWritten := disk.executionState.isSome
  manifest := disk.manifest
  sealed := disk.sealed

/-! ### Stages -/

abbrev Shape := ExecutionJournalKind × Option Nat

def ExecutionJournalRecord.shape (record : ExecutionJournalRecord) : Shape := (record.kind, record.ordinal)

def openingShapes : Coordinator → List Shape
  | .calibration => [(.campaignStart, none), (.smokeStart, none), (.smokeComplete, none)]
  | .campaign => [(.campaignStart, none)]

def armShapes (arms : Nat) : List Shape :=
  (List.range arms).flatMap fun ordinal => [(.armStart, some ordinal), (.armComplete, some ordinal)]

def journalShapes (coordinator : Coordinator) (arms : Nat) : List Shape :=
  openingShapes coordinator ++ armShapes arms

inductive Stage where
  | opening (count : Nat)
  | waiting (completed : Nat)
  | running (ordinal : Nat)

def Stage.shapes (coordinator : Coordinator) : Stage → List Shape
  | .opening count => (openingShapes coordinator).take count
  | .waiting completed => journalShapes coordinator completed
  | .running ordinal => journalShapes coordinator ordinal ++ [(.armStart, some ordinal)]

/-- What has happened by then. While an arm is running its execution may or may not have begun, and its
leaf may or may not be there. -/
def Stage.Holds (coordinator : Coordinator) (core : Core) : Stage → Prop
  | .opening count =>
    count < (openingShapes coordinator).length ∧ core.leaves.length = 0 ∧ core.executed = [] ∧
      (count < 2 → core.smoke = false)
  | .waiting completed =>
    core.leaves.length = completed ∧ core.executed = (List.range completed).reverse ∧
      (coordinator = .calibration → core.smoke = true)
  | .running ordinal =>
    (core.leaves.length = ordinal ∧ core.executed = (List.range ordinal).reverse ∨
      core.leaves.length = ordinal ∧ core.executed = (List.range (ordinal + 1)).reverse ∨
      core.leaves.length = ordinal + 1 ∧ core.executed = (List.range (ordinal + 1)).reverse) ∧
      (coordinator = .calibration → core.smoke = true)

theorem armShapes_succ (arms : Nat) :
    armShapes (arms + 1) = armShapes arms ++ [(.armStart, some arms), (.armComplete, some arms)] := by
  simp [armShapes, List.range_succ]

theorem shapes_running (coordinator : Coordinator) (ordinal : Nat) :
    (Stage.running ordinal).shapes coordinator =
      (Stage.waiting ordinal).shapes coordinator ++ [(.armStart, some ordinal)] := rfl

theorem shapes_waiting_succ (coordinator : Coordinator) (ordinal : Nat) :
    (Stage.waiting (ordinal + 1)).shapes coordinator =
      (Stage.running ordinal).shapes coordinator ++ [(.armComplete, some ordinal)] := by
  simp [Stage.shapes, journalShapes, armShapes_succ]

theorem getLast?_armShapes_succ (coordinator : Coordinator) (arms : Nat) :
    (journalShapes coordinator (arms + 1)).getLast? = some (.armComplete, some arms) := by
  simp [journalShapes, armShapes_succ, List.getLast?_append]

theorem start_mem_armShapes {arms ordinal : Nat} :
    (.armStart, some ordinal) ∈ armShapes arms ↔ ordinal < arms := by
  simp [armShapes, List.mem_flatMap]

theorem no_start_opening (coordinator : Coordinator) (ordinal : Nat) :
    (.armStart, some ordinal) ∉ openingShapes coordinator := by
  cases coordinator <;> simp [openingShapes]

def Stage.completed : Stage → Nat
  | .opening _ => 0
  | .waiting completed => completed
  | .running ordinal => ordinal

theorem countP_journalShapes (coordinator : Coordinator) (arms : Nat) :
    (journalShapes coordinator arms).countP (·.1 == .armComplete) = arms := by
  have hopening : (openingShapes coordinator).countP (·.1 == .armComplete) = 0 := by
    cases coordinator <;> rfl
  rw [journalShapes, List.countP_append, hopening, Nat.zero_add]
  induction arms with
  | zero => rfl
  | succ _ ih => rw [armShapes_succ, List.countP_append, ih]; rfl

theorem Stage.countP_shapes (coordinator : Coordinator) (stage : Stage) :
    (stage.shapes coordinator).countP (·.1 == .armComplete) = stage.completed := by
  cases stage with
  | opening =>
    rw [Stage.shapes, List.countP_eq_zero.mpr, Stage.completed]
    intro shape hshape
    have hmem := List.mem_of_mem_take hshape
    cases coordinator <;> simp [openingShapes] at hmem <;> aesop
  | waiting completed => exact countP_journalShapes coordinator completed
  | running => rw [Stage.shapes, List.countP_append, countP_journalShapes]; rfl

theorem Stage.shapes_isPrefix (coordinator : Coordinator) (stage : Stage) :
    ∃ arms, stage.shapes coordinator <+: journalShapes coordinator arms := by
  cases stage with
  | opening => exact ⟨0, (List.take_prefix _ _).trans (List.prefix_append _ _)⟩
  | waiting completed => exact ⟨completed, List.prefix_rfl⟩
  | running ordinal =>
    refine ⟨ordinal + 1, ?_⟩
    change _ <+: (Stage.waiting (ordinal + 1)).shapes coordinator
    rw [shapes_waiting_succ]
    exact List.prefix_append _ _

/-! ### Sound evidence trees -/

/-- A sealed tree that says pass has no arm running, and the manifest is only written after the state. -/
structure Sound (hash : JournalHash) (coordinator : Coordinator) (core : Core) (stage : Stage) : Prop where
  chain : HashChain hash.recordSha256 ExecutionJournalRecord.predecessorSha256 none core.journal
  sequence : core.journal.map ExecutionJournalRecord.sequence = List.range core.journal.length
  shapes : core.journal.map ExecutionJournalRecord.shape = stage.shapes coordinator
  ordinals : core.leaves.map (·.arm.metadata.ordinal) = List.range core.leaves.length
  holds : stage.Holds coordinator core
  fresh : core.root = false → core.opened = false
  unopened : core.opened = false → core.journal = []
  manifest : core.manifest.isSome = true → core.stateWritten = true
  pass : core.sealed = true → core.manifest = some .pass → partiallyStartedOrdinal core.journal = none

theorem partiallyStartedOrdinal_eq (journal : List ExecutionJournalRecord) :
    partiallyStartedOrdinal journal =
      match (journal.map ExecutionJournalRecord.shape).getLast? with
      | some (.armStart, ordinal) => ordinal
      | _ => none := by
  rw [List.getLast?_map]
  unfold partiallyStartedOrdinal
  cases journal.getLast? with
  | none => rfl
  | some record => cases hkind : record.kind <;> simp [ExecutionJournalRecord.shape, hkind]

theorem no_arm_opened (coordinator : Coordinator) (count : Nat) (ordinal : Option Nat) :
    ((openingShapes coordinator).take count).getLast? ≠ some (.armStart, ordinal) := by
  intro h
  have hmem := List.mem_of_mem_take (List.mem_of_getLast? h)
  cases coordinator <;> simp [openingShapes] at hmem

def Appended (hash : JournalHash) (shape : Shape) (first second : Core) : Prop :=
  ∃ record : ExecutionJournalRecord,
    record.shape = shape ∧ record.sequence = first.journal.length ∧
      record.predecessorSha256 = first.journal.getLast?.map hash.recordSha256 ∧ first.opened = true ∧
      second = { first with journal := first.journal ++ [record] }

namespace Sound

variable {hash : JournalHash} {coordinator : Coordinator} {core next : Core} {stage stage' : Stage}
  {shape : Shape} {completed ordinal : Nat}

theorem empty : Sound hash coordinator ExecutionDisk.empty.core (.opening 0) where
  chain := trivial
  sequence := rfl
  shapes := rfl
  ordinals := rfl
  holds := ⟨by cases coordinator <;> simp [openingShapes], rfl, rfl, fun _ => rfl⟩
  fresh _ := rfl
  unopened _ := rfl
  manifest h := absurd h (by simp [ExecutionDisk.empty, ExecutionDisk.core])
  pass h := absurd h (by simp [ExecutionDisk.empty, ExecutionDisk.core])

/-! ### What the journal says -/

theorem started_opening {count : Nat} (h : Sound hash coordinator core (.opening count)) :
    partiallyStartedOrdinal core.journal = none := by
  rw [partiallyStartedOrdinal_eq, h.shapes]
  split
  · next heq => exact absurd heq (no_arm_opened coordinator count _)
  · rfl

theorem started_waiting (h : Sound hash coordinator core (.waiting completed)) :
    partiallyStartedOrdinal core.journal = none := by
  rw [partiallyStartedOrdinal_eq, h.shapes]
  cases completed with
  | zero => cases coordinator <;> rfl
  | succ => rw [Stage.shapes, getLast?_armShapes_succ]

theorem started_running (h : Sound hash coordinator core (.running ordinal)) :
    partiallyStartedOrdinal core.journal = some ordinal := by
  rw [partiallyStartedOrdinal_eq, h.shapes, Stage.shapes, List.getLast?_concat]

theorem running_of_started (h : Sound hash coordinator core stage)
    (hstarted : partiallyStartedOrdinal core.journal = some ordinal) : stage = .running ordinal := by
  cases stage with
  | opening => simp [h.started_opening] at hstarted
  | waiting => simp [h.started_waiting] at hstarted
  | running => simpa [h.started_running] using hstarted

theorem opening_of_nil (h : Sound hash coordinator core stage) (hnil : core.journal = []) :
    stage = .opening 0 := by
  have hshapes := h.shapes
  rw [hnil, List.map_nil] at hshapes
  cases stage with
  | opening count =>
    cases count with
    | zero => rfl
    | succ => cases coordinator <;> simp [Stage.shapes, openingShapes] at hshapes
  | waiting =>
    cases coordinator <;> simp [Stage.shapes, journalShapes, openingShapes] at hshapes
  | running => simp [Stage.shapes] at hshapes

theorem countP_completions (h : Sound hash coordinator core stage) :
    core.journal.countP (·.kind == .armComplete) = stage.completed := by
  rw [← stage.countP_shapes coordinator, ← h.shapes, List.countP_map]
  rfl

theorem completed_le (h : Sound hash coordinator core stage) :
    stage.completed ≤ core.leaves.length ∧ core.leaves.length ≤ stage.completed + 1 := by
  have hholds := h.holds
  cases stage with
  | opening => simp [Stage.completed, hholds.2.1]
  | waiting completed => simp [Stage.completed, hholds.1]
  | running =>
    rcases hholds.1 with hcount | hcount | hcount <;> simp [Stage.completed, hcount.1]

theorem executed_nodup (h : Sound hash coordinator core stage) : core.executed.Nodup := by
  have hrange : ∀ count, (List.range count).reverse.Nodup := fun count =>
    List.nodup_reverse.mpr List.nodup_range
  have hholds := h.holds
  cases stage with
  | opening => simp [hholds.2.2.1]
  | waiting completed => exact hholds.2.1 ▸ hrange completed
  | running ordinal =>
    rcases hholds.1 with hexecuted | hexecuted | hexecuted
    · exact hexecuted.2 ▸ hrange ordinal
    · exact hexecuted.2 ▸ hrange (ordinal + 1)
    · exact hexecuted.2 ▸ hrange (ordinal + 1)

theorem running_of_start {record : ExecutionJournalRecord} (h : Sound hash coordinator core stage)
    (hrecord : record ∈ core.journal) (hshape : record.shape = (.armStart, some ordinal))
    (hleaf : ∀ leaf ∈ core.leaves, leaf.arm.metadata.ordinal ≠ ordinal) :
    stage = .running ordinal ∧ core.leaves.length ≤ ordinal := by
  have hfew : core.leaves.length ≤ ordinal := by
    by_contra hmany
    have hmem : ordinal ∈ core.leaves.map (·.arm.metadata.ordinal) := by
      rw [h.ordinals]
      exact List.mem_range.mpr (not_le.mp hmany)
    obtain ⟨leaf, hleafmem, hordinal⟩ := List.mem_map.mp hmem
    exact hleaf leaf hleafmem hordinal
  have hmem : (.armStart, some ordinal) ∈ stage.shapes coordinator := by
    rw [← h.shapes, ← hshape]
    exact List.mem_map_of_mem hrecord
  have hholds := h.holds
  refine ⟨?_, hfew⟩
  cases stage with
  | opening => exact absurd (List.mem_of_mem_take hmem) (no_start_opening coordinator ordinal)
  | waiting =>
    rcases List.mem_append.mp hmem with hopening | harm
    · exact absurd hopening (no_start_opening coordinator ordinal)
    · have := start_mem_armShapes.mp harm
      have := hholds.1
      omega
  | running other =>
    have hother : other ≤ core.leaves.length := h.completed_le.1
    simp only [Stage.shapes, journalShapes, List.append_assoc, List.mem_append] at hmem
    rcases hmem with hopening | harm | hlast
    · exact absurd hopening (no_start_opening coordinator ordinal)
    · have := start_mem_armShapes.mp harm
      omega
    · simp at hlast
      rw [hlast]

/-! ### Steps -/

theorem append (h : Sound hash coordinator core stage) (happended : Appended hash shape core next)
    (hopen : core.sealed = false) (hshapes : stage'.shapes coordinator = stage.shapes coordinator ++ [shape])
    (hholds : stage'.Holds coordinator core) : Sound hash coordinator next stage' := by
  obtain ⟨record, hshape, hsequence, hlink, hopened, rfl⟩ := happended
  exact
    { chain := HashChain.append_singleton.mpr ⟨h.chain, by rw [hlink, HashChain.tip, Option.or_none]⟩
      sequence := by simp [h.sequence, hsequence, List.range_succ]
      shapes := by rw [List.map_append, h.shapes, List.map_singleton, hshape, hshapes]
      ordinals := h.ordinals
      holds := by cases stage' <;> exact hholds
      fresh := h.fresh
      unopened := fun hnot => absurd (hopened.symm.trans hnot) (by simp)
      manifest := h.manifest
      pass := fun hsealed => absurd (hopen.symm.trans hsealed) (by simp) }

theorem smoked (h : Sound hash .calibration core (.opening 2)) :
    Sound hash .calibration { core with smoke := true } (.opening 2) :=
  { h with holds := ⟨h.holds.1, h.holds.2.1, h.holds.2.2.1, fun hlt => absurd hlt (by simp)⟩ }

theorem execute (h : Sound hash coordinator core (.running ordinal))
    (hleaves : core.leaves.length = ordinal) (hexecuted : core.executed = (List.range ordinal).reverse) :
    Sound hash coordinator { core with executed := ordinal :: core.executed } (.running ordinal) :=
  { h with
    holds := by
      refine ⟨Or.inr (Or.inl ⟨hleaves, ?_⟩), h.holds.2⟩
      simp [hexecuted, List.range_succ] }

theorem publish {leaf : RawLeaf} (h : Sound hash coordinator core (.running ordinal))
    (hleaves : core.leaves.length = ordinal)
    (hexecuted : core.executed = (List.range (ordinal + 1)).reverse)
    (hleaf : leaf.arm.metadata.ordinal = ordinal) :
    Sound hash coordinator { core with leaves := core.leaves ++ [leaf] } (.running ordinal) :=
  { h with
    ordinals := by simp [h.ordinals, hleaf, hleaves, List.range_succ]
    holds := ⟨Or.inr (Or.inr ⟨by simp [hleaves], hexecuted⟩), h.holds.2⟩ }

end Sound

end AuthMiniGateway.Benchmark

import AuthMiniGateway.Lib.Fallible
import AuthMiniGateway.Benchmark.DeliveryLedger

/-!
# The planned arms

In which order the cells, the rows and the treatments come is shuffled by the seed; here the shuffled orders
are parameters.
-/

namespace AuthMiniGateway.Benchmark

inductive Workload where
  | get
  | upload1Mib
  | download1Mib
  | sse
  | webSocket
  deriving DecidableEq, Repr

def Workload.all : List Workload := [.get, .upload1Mib, .download1Mib, .sse, .webSocket]

def Workload.code : Workload → String
  | .get => "get"
  | .upload1Mib => "upload-1mib"
  | .download1Mib => "download-1mib"
  | .sse => "sse"
  | .webSocket => "websocket"

structure Cell where
  workload : Workload
  concurrency : Nat
  deriving DecidableEq, Repr

def Cell.id (cell : Cell) : String := cell.workload.code ++ "-c" ++ toString cell.concurrency

def Cell.validate (cell : Cell) : Except String Unit :=
  require ([1, 16, 64].contains cell.concurrency)
    ("unsupported concurrency " ++ toString cell.concurrency)

def allCells : List Cell :=
  Workload.all.flatMap fun workload => [1, 16, 64].map fun concurrency => ⟨workload, concurrency⟩

inductive Arm where
  | b11
  | c11
  | c21
  | c12
  | c22
  deriving DecidableEq, Repr

def Arm.all : List Arm := [.b11, .c11, .c21, .c12, .c22]

def Arm.code : Arm → String
  | .b11 => "B11"
  | .c11 => "C11"
  | .c21 => "C21"
  | .c12 => "C12"
  | .c22 => "C22"

inductive Protocol where
  | h1
  | h2
  deriving DecidableEq, Repr

def Protocol.label : Protocol → String
  | .h1 => "h1"
  | .h2 => "h2"

/-- Scouts, calibration arms, direct arms and authoritative arms. -/
inductive EvidenceClass where
  | s
  | c
  | d
  | a
  deriving DecidableEq, Repr

def baseRows : List (List Nat) :=
  [[0, 1, 4, 2, 3], [1, 2, 0, 3, 4], [2, 3, 1, 4, 0], [3, 4, 2, 0, 1], [4, 0, 3, 1, 2]]

/-- The five base rows, and then each of them backwards. -/
def williamsRows : List (List Arm) :=
  let rows := baseRows.map fun row => row.filterMap (Arm.all[·]?)
  rows ++ rows.map List.reverse

structure PlannedArm where
  ordinal : Nat
  evidenceClass : EvidenceClass
  cell : Cell
  arm : Option Arm
  directProtocol : Option Protocol
  round : Option Nat
  row : Option Nat
  target : Option Nat
  laneQuotas : List Nat
  freshProcessSet : Bool
  deriving DecidableEq, Repr

def PlannedArm.validateClass (planned : PlannedArm) : Except String Unit :=
  match planned.evidenceClass with
  | .s => do
      require (planned.arm.isSome && planned.directProtocol.isNone && planned.target.isSome &&
          planned.laneQuotas.length == planned.cell.concurrency)
        "invalid S-class process plan"
      require (planned.laneQuotas.sum == planned.target.getD 0) "scout lane quotas do not sum to target"
  | .c | .a =>
    require (planned.arm.isSome && planned.directProtocol.isNone && planned.target.isNone)
      "invalid gateway fixed-duration process plan"
  | .d =>
    require (planned.arm.isNone && planned.directProtocol.isSome && planned.target.isNone)
      "invalid direct process plan"

def PlannedArm.validate (planned : PlannedArm) : Except String Unit := do
  planned.cell.validate
  require planned.freshProcessSet "planned arm does not require fresh processes"
  planned.validateClass

def rawLeafPath (planned : PlannedArm) : RelativePath :=
  match planned.evidenceClass with
  | .s => ["scouts", planned.cell.id, ((planned.target.map toString).getD ""),
      ((planned.arm.map Arm.code).getD "")]
  | .c => ["arms", ((planned.row.map toString).getD ""), planned.cell.id,
      ((planned.arm.map Arm.code).getD "")]
  | .d => ["direct", toString (planned.round.getD 0), planned.cell.id,
      ((planned.directProtocol.map Protocol.label).getD "")]
  | .a => ["arms", ((planned.round.map toString).getD ""), planned.cell.id,
      ((planned.arm.map Arm.code).getD "")]

/-! ### Plans -/

def numbered (first : Nat) (arms : List (Nat → PlannedArm)) : List PlannedArm :=
  (arms.zipIdx first).map fun (arm, ordinal) => arm ordinal

def laneQuotas (target concurrency : Nat) : List Nat :=
  (List.range concurrency).map fun lane =>
    target / concurrency + if lane < target % concurrency then 1 else 0

def scoutTargets : List Nat := [5000, 10000, 20000, 40000, 80000, 160000, 320000]

def scoutArm (cell : Cell) (target : Nat) (arm : Arm) (ordinal : Nat) : PlannedArm where
  ordinal := ordinal
  evidenceClass := .s
  cell := cell
  arm := some arm
  directProtocol := none
  round := none
  row := none
  target := some target
  laneQuotas := laneQuotas target cell.concurrency
  freshProcessSet := true

/-- The arms of every panel, in the order that `shuffled` gives the panel. -/
def scoutPlan (shuffled : Cell → Nat → List Arm) : Except String (List PlannedArm) := do
  let attempts := numbered 0 (allCells.flatMap fun cell =>
    scoutTargets.flatMap fun target => (shuffled cell target).map (scoutArm cell target))
  attempts.forM PlannedArm.validate
  return attempts

def williamsArm (row : Nat) (cell : Cell) (arm : Arm) (ordinal : Nat) : PlannedArm where
  ordinal := ordinal
  evidenceClass := .c
  cell := cell
  arm := some arm
  directProtocol := none
  round := some row
  row := some row
  target := none
  laneQuotas := []
  freshProcessSet := true

def directArm (round : Nat) (cell : Cell) (protocol : Protocol) (ordinal : Nat) : PlannedArm where
  ordinal := ordinal
  evidenceClass := .d
  cell := cell
  arm := none
  directProtocol := some protocol
  round := some round
  row := none
  target := none
  laneQuotas := []
  freshProcessSet := true

structure CalibrationExecutionPlan where
  arms : List PlannedArm
  directEpochZero : List PlannedArm
  deriving DecidableEq, Repr

def calibrationPlanWithOffset (cells : List Cell) (rowOrder : List Nat) (firstOrdinal : Nat) :
    Except String CalibrationExecutionPlan := do
  let arms := numbered firstOrdinal (rowOrder.flatMap fun row =>
    cells.flatMap fun cell => (williamsRows.getD row []).map (williamsArm row cell))
  arms.forM PlannedArm.validate
  require (arms.length == 750) "calibration plan inventory mismatch"
  let directEpochZero := numbered (firstOrdinal + arms.length) (cells.flatMap fun cell =>
    [Protocol.h1, Protocol.h2].map (directArm 0 cell))
  directEpochZero.forM PlannedArm.validate
  return ⟨arms, directEpochZero⟩

structure RoundPlan where
  round : Nat
  row : Nat
  armOrder : List Arm
  cells : List Cell
  deriving DecidableEq, Repr

def authoritativeArm (round : RoundPlan) (cell : Cell) (arm : Arm) (ordinal : Nat) : PlannedArm where
  ordinal := ordinal
  evidenceClass := .a
  cell := cell
  arm := some arm
  directProtocol := none
  round := some round.round
  row := some round.row
  target := none
  laneQuotas := []
  freshProcessSet := true

/-- The arms of one epoch: the direct panel, and then its ten rounds. -/
def campaignEpoch (directOrder : List (Cell × Protocol)) (rounds : List RoundPlan) (epoch : Nat) :
    List (Nat → PlannedArm) :=
  directOrder.map (fun key => directArm epoch key.1 key.2) ++
    ((rounds.drop ((epoch - 1) * 10)).take 10).flatMap fun round =>
      round.cells.flatMap fun cell => round.armOrder.map (authoritativeArm round cell)

def campaignPlan (selectedN : Nat) (directOrder : List (Cell × Protocol)) (rounds : List RoundPlan) :
    Except String (List PlannedArm) := do
  let arms := numbered 0 ((List.range' 1 (selectedN / 10)).flatMap (campaignEpoch directOrder rounds))
  arms.forM PlannedArm.validate
  require (arms.length == 3 * selectedN + 75 * selectedN &&
      arms.countP (·.evidenceClass == .d) == 3 * selectedN &&
      arms.countP (·.evidenceClass == .a) == 75 * selectedN)
    "campaign plan inventory is not exactly 3N D plus 75N A"
  return arms

/-! ### Ordinals -/

def Counted (first : Nat) (arms : List PlannedArm) : Prop :=
  ∀ before planned rest, before ++ planned :: rest = arms → planned.ordinal = first + before.length

theorem counted_numbered {first : Nat} {arms : List (Nat → PlannedArm)}
    (hordinal : ∀ arm ∈ arms, ∀ ordinal, (arm ordinal).ordinal = ordinal) :
    Counted first (numbered first arms) := by
  intro before planned rest h
  have hat : (numbered first arms)[before.length]? = some planned := by
    rw [← h, List.getElem?_append_right (le_refl _), Nat.sub_self]
    rfl
  rw [numbered, List.getElem?_map, List.getElem?_zipIdx, Option.map_map, Option.map_eq_some_iff] at hat
  obtain ⟨arm, harm, rfl⟩ := hat
  exact hordinal arm (List.mem_of_getElem? harm) _

theorem calibrationPlanWithOffset_counted {cells : List Cell} {rowOrder : List Nat} {first : Nat}
    {plan : CalibrationExecutionPlan} (h : calibrationPlanWithOffset cells rowOrder first = .ok plan) :
    Counted first plan.arms ∧ Counted (first + plan.arms.length) plan.directEpochZero := by
  unfold calibrationPlanWithOffset at h
  simp only [Fallible.bind_eq_ok_iff] at h
  obtain ⟨_, _, _, _, _, _, h⟩ := h
  cases h
  refine ⟨counted_numbered ?_, counted_numbered ?_⟩
  · intro arm harm ordinal
    simp only [List.mem_flatMap, List.mem_map] at harm
    obtain ⟨row, _, cell, _, treatment, _, rfl⟩ := harm
    rfl
  · intro arm harm ordinal
    simp only [List.mem_flatMap, List.mem_map] at harm
    obtain ⟨cell, _, protocol, _, rfl⟩ := harm
    rfl

theorem campaignPlan_counted {selectedN : Nat} {directOrder : List (Cell × Protocol)}
    {rounds : List RoundPlan} {plan : List PlannedArm}
    (h : campaignPlan selectedN directOrder rounds = .ok plan) : Counted 0 plan := by
  unfold campaignPlan at h
  simp only [Fallible.bind_eq_ok_iff] at h
  obtain ⟨_, _, _, _, h⟩ := h
  cases h
  refine counted_numbered ?_
  intro arm harm ordinal
  simp only [campaignEpoch, List.mem_flatMap, List.mem_append, List.mem_map] at harm
  obtain ⟨epoch, _, ⟨key, _, rfl⟩ | ⟨round, _, cell, _, treatment, _, rfl⟩⟩ := harm
  · rfl
  · rfl

end AuthMiniGateway.Benchmark

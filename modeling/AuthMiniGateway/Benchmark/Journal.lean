import AuthMiniGateway.Lib.CutOff
import AuthMiniGateway.Lib.HashChain
import AuthMiniGateway.Benchmark.ArmPlan

/-!
# The execution journal and the evidence tree

A process that finds the tree of an earlier one goes on where that one was killed. How a record is hashed is a
parameter, and what a process finds out about its surroundings is what its host answers. It is the only writer
of its journal, so the journal is read from the disk here.
-/

namespace AuthMiniGateway.Benchmark

inductive ExecutionJournalKind where
  | campaignStart
  | smokeStart
  | smokeComplete
  | armStart
  | armComplete
  deriving DecidableEq, Repr

inductive ExecutionPhase where
  | smoke
  | scout
  | williams
  | calibrationDirect
  | authoritativeDirect
  | authoritative
  deriving DecidableEq, Repr

def executionStateSchema : String := "amg-http2-perf/execution-state/v1"

structure ExecutionJournalRecord where
  schema : String
  calibrationId : String
  sequence : Nat
  kind : ExecutionJournalKind
  phase : ExecutionPhase
  ordinal : Option Nat
  boottimeNs : Nat
  bootIdSha256 : Digest
  machineSha256 : Digest
  buildSetSha256 : Digest
  planSha256 : Digest
  predecessorSha256 : Option Digest
  rawPath : Option RelativePath
  rawSha256 : Option Digest
  deriving DecidableEq, Repr

def ExecutionJournalRecord.validateKind (record : ExecutionJournalRecord) : Except String Unit :=
  match record.kind with
  | .campaignStart =>
    require (record.sequence == 0 && record.ordinal.isNone && record.predecessorSha256.isNone &&
        record.rawPath.isNone && record.rawSha256.isNone)
      "campaign-start journal record is invalid"
  | .smokeStart | .smokeComplete => do
      require (record.ordinal.isNone && record.predecessorSha256.isSome) "smoke journal record is invalid"
      let complete := record.kind == .smokeComplete
      require (complete == record.rawPath.isSome && complete == record.rawSha256.isSome)
        "smoke completion binding is incomplete"
  | .armStart =>
    require (record.ordinal.isSome && record.predecessorSha256.isSome && record.rawPath.isNone &&
        record.rawSha256.isNone)
      "arm-start journal record is invalid"
  | .armComplete =>
    require (record.ordinal.isSome && record.predecessorSha256.isSome && record.rawPath.isSome &&
        record.rawSha256.isSome)
      "arm-complete journal record is invalid"

def ExecutionJournalRecord.validate (record : ExecutionJournalRecord) : Except String Unit := do
  require (record.schema == executionStateSchema) "unsupported execution journal schema"
  validateIdentifier "journal calibration ID" record.calibrationId
  [record.bootIdSha256, record.machineSha256, record.buildSetSha256, record.planSha256].forM
    (validateNonPlaceholderSha256 "execution journal hash")
  record.predecessorSha256.forM (validateNonPlaceholderSha256 "execution journal predecessor")
  record.validateKind
  record.rawPath.forM validateRelativePath
  record.rawSha256.forM (validateNonPlaceholderSha256 "execution journal raw")

/-- The hashes of a file, of the canonical form of a record, and of a whole journal. -/
structure JournalHash where
  fileSha256 : Bytes → Digest
  recordSha256 : ExecutionJournalRecord → Digest
  rootSha256 : List ExecutionJournalRecord → Digest

/-- The loop over the records, with the sequence number and the hash that the next one has to have. -/
def checkChain (hash : JournalHash) : Nat → Option Digest → List ExecutionJournalRecord →
    Except String Unit
  | _, _, [] => .ok ()
  | index, previous, record :: records => do
      record.validate
      require (record.sequence == index && record.predecessorSha256 == previous)
        "execution journal sequence/predecessor chain is invalid"
      checkChain hash (index + 1) (some (hash.recordSha256 record)) records

def executionJournalRoot (hash : JournalHash) (records : List ExecutionJournalRecord) :
    Except String Digest := do
  checkChain hash 0 none records
  require (!records.isEmpty) "execution journal is empty"
  return hash.rootSha256 records

def partiallyStartedOrdinal (journal : List ExecutionJournalRecord) : Option Nat :=
  match journal.getLast? with
  | some record => if record.kind = .armStart then record.ordinal else none
  | none => none

/-! ### The evidence tree -/

structure RawArmMetadata where
  evidenceId : String
  runId : String
  evidenceClass : EvidenceClass
  cell : Cell
  arm : Option Arm
  directProtocol : Option Protocol
  ordinal : Nat
  round : Option Nat
  row : Option Nat
  position : Option Nat
  epoch : Option Nat
  scoutTarget : Option Nat
  observationId : String
  deriving DecidableEq, Repr

structure ParsedArm where
  leaf : RelativePath
  metadata : RawArmMetadata
  laneQuotas : List Nat
  rawSha256 : Digest
  deriving DecidableEq, Repr

structure RawLeaf where
  arm : ParsedArm
  fault : Option String
  deriving DecidableEq, Repr

/-- One revision of the projection: the storage gate it was written for and whether the gate was passed. -/
structure Projection where
  gateId : String
  admissible : Bool
  deriving DecidableEq, Repr

structure ExecutionState where
  completedArms : Nat
  plannedArms : Nat
  crashDetail : Option String
  campaignBoottimeStartNs : Nat
  campaignBoottimeEndNs : Nat
  journalRootSha256 : Digest
  partiallyStartedOrdinal : Option Nat
  deriving DecidableEq, Repr

structure ExecutionDisk where
  /-- Whether the root directory has been created. -/
  root : Bool
  /-- The small files directly under the root, by their names. -/
  files : String → Option Bytes
  /-- The records under `state`, once the directory is there. -/
  state : Option (List ExecutionJournalRecord)
  /-- The revisions under `projections`, once the directory is there. -/
  projections : Option (List Projection)
  topologySmoke : Option Bytes
  leaves : List RawLeaf
  /-- The ordinals of the arms whose failure has been retained. -/
  failures : List Nat
  executionState : Option ExecutionState
  manifest : Option TerminalState
  sealed : Bool
  /-- The ordinals of the arms whose execution has begun, the latest one first. Nothing reads it. -/
  executed : List Nat

def ExecutionDisk.empty : ExecutionDisk where
  root := false
  files _ := none
  state := none
  projections := none
  topologySmoke := none
  leaves := []
  failures := []
  executionState := none
  manifest := none
  sealed := false
  executed := []

def ExecutionDisk.journal (disk : ExecutionDisk) : List ExecutionJournalRecord := disk.state.getD []

abbrev Execution := CutOff ExecutionDisk String

namespace Execution

def check (result : ExecutionDisk → Except String Unit) : Execution Unit := do
  CutOff.ofExcept (result (← CutOff.read))

end Execution

/-! ### Hosts -/

/-- What a process asks its surroundings, and where it asks it. -/
inductive Question where
  | candidate
  | preflight
  | build
  | loadCalibration
  | clock
  | walkTree
  | runtime (nextOrdinal : Nat)
  | armRequest (ordinal : Nat)
  | retainFailure (ordinal : Nat)
  | outcome (ordinal : Nat)
  | quality (ordinal : Nat)
  | rates (ordinal : Nat)
  | smokeCap
  | scoutDurations (nextOrdinal : Nat)
  | calibrationPlan
  | parameters
  | headroom
  | rawGates
  | quarantine
  | projection
  | manifest
  | sealEntries
  | delivery
  deriving DecidableEq, Repr

structure Host where
  evidenceId : String
  bootIdSha256 : Digest
  machineSha256 : Digest
  buildSetSha256 : Digest
  intentSha256 : Digest
  /-- The files that a new evidence tree starts with. -/
  initialFiles : List (String × Bytes)
  boottimeNs : ExecutionDisk → Nat
  /-- The content of a file that the process derives. -/
  contents : String → ExecutionDisk → Bytes
  answer : Question → ExecutionDisk → Except String Unit
  admissible : String → ExecutionDisk → Except String Bool
  /-- What the processes of an arm leave behind: its raw leaf, or an error. -/
  measure : PlannedArm → ExecutionDisk → Except String RawLeaf
  /-- The terminal state that is derived from a sealed tree. -/
  verifySource : ExecutionDisk → Except String TerminalState

variable (host : Host)

def Host.ask (question : Question) : Execution Unit := Execution.check (host.answer question)

/-- The file must not be there yet. -/
def writeNew (name : String) (written : ExecutionDisk → Bool) (change : ExecutionDisk → ExecutionDisk) :
    Execution Unit := do
  Execution.check fun disk =>
    require (!written disk) ("cannot atomically install " ++ name ++ " without replacement")
  CutOff.write change

def ExecutionDisk.put (disk : ExecutionDisk) (name : String) (content : Bytes) : ExecutionDisk :=
  { disk with files := Function.update disk.files name (some content) }

def requireFileBytes (name : String) (expected : Bytes) : Execution Unit :=
  Execution.check fun disk =>
    require (disk.files name == some expected)
      ("resume file differs from exact initialized bytes: " ++ name)

def writeOrRequireCanonical (name : String) (expected : Bytes) : Execution Unit := do
  if ((← CutOff.read).files name).isSome then
    requireFileBytes name expected
  else
    CutOff.write (·.put name expected)

/-! ### The journal -/

inductive Coordinator where
  | calibration
  | campaign
  deriving DecidableEq, Repr

structure JournalInput where
  kind : ExecutionJournalKind
  phase : ExecutionPhase
  ordinal : Option Nat
  planSha256 : Digest
  raw : Option (RelativePath × Digest)

def JournalInput.record (input : JournalInput) (hash : JournalHash) (host : Host) (boottimeNs : Nat)
    (journal : List ExecutionJournalRecord) : ExecutionJournalRecord where
  schema := executionStateSchema
  calibrationId := host.evidenceId
  sequence := journal.length
  kind := input.kind
  phase := input.phase
  ordinal := input.ordinal
  boottimeNs := boottimeNs
  bootIdSha256 := host.bootIdSha256
  machineSha256 := host.machineSha256
  buildSetSha256 := host.buildSetSha256
  planSha256 := input.planSha256
  predecessorSha256 := journal.getLast?.map hash.recordSha256
  rawPath := input.raw.map Prod.fst
  rawSha256 := input.raw.map Prod.snd

def ExecutionDisk.openState (disk : ExecutionDisk) : Except String (List ExecutionJournalRecord) :=
  match disk.state with
  | some records => .ok records
  | none => .error "No such file or directory"

def appendJournalRecord (hash : JournalHash) (coordinator : Coordinator) (host : Host)
    (input : JournalInput) : Execution Unit := do
  host.ask .clock
  let disk ← CutOff.read
  let journal ← CutOff.ofExcept disk.openState
  let record := input.record hash host (host.boottimeNs disk) journal
  CutOff.ofExcept record.validate
  CutOff.ofExcept (require
    (coordinator == .calibration || !(record.kind == .smokeStart || record.kind == .smokeComplete))
    "campaign journal used a calibration-only event")
  CutOff.write fun disk => { disk with state := some (journal ++ [record]) }
  Execution.check fun _ => (executionJournalRoot hash (journal ++ [record])).map fun _ => ()

def readJournal (hash : JournalHash) (disk : ExecutionDisk) :
    Except String (List ExecutionJournalRecord) := do
  let records ← disk.openState
  if records.isEmpty then
    return records
  else
    let _ ← executionJournalRoot hash records
    return records

/-! ### The raw leaves -/

structure EvidenceTreeInspection where
  arms : List ParsedArm
  blockers : List String

def sortArms (arms : List ParsedArm) : List ParsedArm :=
  arms.insertionSort fun first second => first.metadata.ordinal ≤ second.metadata.ordinal

/-- What an item repeats of the items before it. -/
def repeated {Key : Type} [DecidableEq Key] (text : Key → String) : List Key → List Key → List String
  | _, [] => []
  | before, key :: keys =>
    (if before.contains key then [text key] else []) ++ repeated text (key :: before) keys

def inspectEvidenceTree (leaves : List RawLeaf) : EvidenceTreeInspection :=
  let arms := sortArms ((leaves.filter (·.fault.isNone)).map RawLeaf.arm)
  let invalid := leaves.filterMap fun leaf => leaf.fault.map fun error =>
    "raw leaf `" ++ leaf.arm.leaf.text ++ "` is invalid: " ++ error
  let identity := fun (arm : ParsedArm) => (arm.metadata.evidenceId, arm.metadata.runId)
  let mixed := (arms.filter fun arm => arms.head?.map identity != some (identity arm)).map fun _ =>
    "raw arms mix evidence/run identities"
  let observations := repeated (fun id => "duplicate raw observation `" ++ id ++ "`") []
    (arms.map (·.metadata.observationId))
  let ordinals := repeated (fun ordinal => "duplicate raw ordinal " ++ toString ordinal) []
    (arms.map (·.metadata.ordinal))
  let gaps := if arms.map (·.metadata.ordinal) == List.range arms.length then []
    else ["raw ordinals are not contiguous from zero"]
  { arms
    blockers := ((invalid ++ mixed ++ observations ++ ordinals ++ gaps).insertionSort (· ≤ ·)).dedup }

def parseRawArms (message : String) : Execution (List ParsedArm) := do
  host.ask .walkTree
  let disk ← CutOff.read
  let inspection := inspectEvidenceTree disk.leaves
  CutOff.ofExcept (require inspection.blockers.isEmpty
    (message ++ ": " ++ "; ".intercalate inspection.blockers))
  return inspection.arms

def expectedPosition (planned : PlannedArm) (row : Option Nat) : Option Nat :=
  row.bind fun row => planned.arm.bind fun arm => (williamsRows.getD row []).findIdx? (· == arm)

def ensurePlannedMatchesRaw (planned : PlannedArm) (raw : ParsedArm) : Except String Unit :=
  let metadata := raw.metadata
  let expectedRound := if planned.evidenceClass = .a then planned.round else none
  let expectedRow :=
    if planned.evidenceClass = .c ∨ planned.evidenceClass = .a then planned.row else none
  let expectedEpoch := if planned.evidenceClass = .d then planned.round else none
  require (metadata.ordinal == planned.ordinal && metadata.evidenceClass == planned.evidenceClass &&
      metadata.cell == planned.cell && metadata.arm == planned.arm &&
      metadata.directProtocol == planned.directProtocol && metadata.scoutTarget == planned.target &&
      metadata.round == expectedRound && metadata.row == expectedRow &&
      metadata.position == expectedPosition planned expectedRow && metadata.epoch == expectedEpoch &&
      raw.laneQuotas == planned.laneQuotas)
    "raw prefix arm differs from its deterministic plan"

/-! ### Executing an arm -/

def RawLeaf.publishedFor (leaf : RawLeaf) (planned : PlannedArm) : RawLeaf :=
  { leaf with
    arm := { leaf.arm with
      leaf := rawLeafPath planned,
      metadata := { leaf.arm.metadata with ordinal := planned.ordinal } } }

def retainArmFailure (ordinal : Nat) : Execution Unit := do
  host.ask (.retainFailure ordinal)
  CutOff.write fun disk => { disk with failures := ordinal :: disk.failures }

/-- The leaf is built aside and published, by one rename, as the last step. -/
def executeProcessArm (planned : PlannedArm) : Execution Unit := do
  CutOff.write fun disk => { disk with executed := planned.ordinal :: disk.executed }
  host.ask (.armRequest planned.ordinal)
  let disk ← CutOff.read
  CutOff.ofExcept (require (!disk.leaves.any fun leaf => leaf.arm.leaf == rawLeafPath planned)
    ("process arm raw leaf already exists: " ++ (rawLeafPath planned).text))
  match host.measure planned disk with
  | .ok leaf => CutOff.write fun disk => { disk with leaves := disk.leaves ++ [leaf.publishedFor planned] }
  | .error error => do
      retainArmFailure host planned.ordinal
      CutOff.ofExcept (.error error)

/-- An arm that was started and has no leaf is given up. -/
def retainInterruptedProcessArm (planned : PlannedArm) : Execution Unit := do
  let disk ← CutOff.read
  CutOff.ofExcept (require (!disk.leaves.any fun leaf => leaf.arm.leaf == rawLeafPath planned)
    "interrupted process arm already has a published raw leaf")
  if disk.failures.contains planned.ordinal then
    host.ask (.retainFailure planned.ordinal)
  else
    retainArmFailure host planned.ordinal

/-! ### Gates, projections and the seal -/

def ExecutionDisk.openProjections (disk : ExecutionDisk) : Except String (List Projection) :=
  match disk.projections with
  | some projections => .ok projections
  | none => .error "No such file or directory"

def appendProjection (projection : Projection) : Execution Unit := do
  host.ask .projection
  let projections ← CutOff.ofExcept (← CutOff.read).openProjections
  CutOff.write fun disk => { disk with projections := some (projections ++ [projection]) }

def ExecutionState.validate (state : ExecutionState) (evidenceId : String) (machine build : Digest) :
    Except String Unit := do
  require (!(state.plannedArms < state.completedArms || state.crashDetail == some ""))
    "invalid execution/resume state"
  validateIdentifier "execution evidence_id" evidenceId
  require (!(state.campaignBoottimeEndNs < state.campaignBoottimeStartNs ||
      state.partiallyStartedOrdinal.any (· != state.completedArms)))
    "extended execution state clock/partial ordinal is invalid"
  [machine, build, state.journalRootSha256].forM
    (validateNonPlaceholderSha256 "extended execution state hash")

def createSeal : Execution Unit := do
  host.ask .sealEntries
  writeNew "seal.json" (·.sealed) fun disk => { disk with sealed := true }

def reasonText (reasons : List String) : List String := (reasons.insertionSort (· ≤ ·)).dedup

end AuthMiniGateway.Benchmark

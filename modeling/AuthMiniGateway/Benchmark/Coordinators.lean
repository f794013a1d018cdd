import AuthMiniGateway.Benchmark.Journal

/-!
# The calibration and the campaign coordinator

Both write the start of an arm into the journal before they execute it, and its completion once its raw leaf is
there. The delivery of a sealed tree succeeds or fails here.
-/

namespace AuthMiniGateway.Benchmark

/-! ### Opening the evidence tree -/

def writeInitialFile (file : String × Bytes) : Execution Unit :=
  writeNew file.1 (fun disk => (disk.files file.1).isSome) (·.put file.1 file.2)

def createRoot (host : Host) : Execution Unit := do
  CutOff.write fun disk => { disk with root := true }
  host.initialFiles.forM writeInitialFile
  CutOff.write fun disk => { disk with state := some [] }
  CutOff.write fun disk => { disk with projections := some [] }

def requireInitialFiles (host : Host) : Execution Unit :=
  host.initialFiles.forM fun file => requireFileBytes file.1 file.2

/-- The journal begins with the start of the campaign. -/
def startJournal (hash : JournalHash) (coordinator : Coordinator) (host : Host) (phase : ExecutionPhase)
    (planSha256 : Digest) : Execution Unit := do
  let journal ← CutOff.ofExcept (readJournal hash (← CutOff.read))
  if journal.isEmpty then
    appendJournalRecord hash coordinator host ⟨.campaignStart, phase, none, planSha256, none⟩
  else
    pure ()

def readProjectionBindings (host : Host) : Execution Unit := do
  Execution.check fun disk => disk.openProjections.map fun _ => ()
  host.ask .projection

/-- The completions in the journal are those of the raw leaves, except that the last leaf may still lack
its own. -/
def checkCompletions (tail : List ParsedArm → Nat → Bool) (counts unbound : String)
    (journal : List ExecutionJournalRecord) (arms : List ParsedArm) : Except String Unit := do
  let completions := journal.filter (·.kind == .armComplete)
  require (completions.length == arms.length ||
      (arms.length == completions.length + 1 &&
        partiallyStartedOrdinal journal == some completions.length && tail arms completions.length))
    counts
  require ((completions.zip arms).zipIdx.all fun ((record, arm), expected) =>
      record.ordinal == some expected && record.rawSha256 == some arm.rawSha256)
    unbound

/-! ### Running an arm -/

structure ArmWording where
  parse : String
  missing : Nat → String
  notPrefix : String
  interrupted : Nat → String

def rawArmByOrdinal (host : Host) (wording : ArmWording) (ordinal : Nat) : Execution ParsedArm := do
  let arms ← parseRawArms host wording.parse
  match arms.find? (·.metadata.ordinal == ordinal) with
  | some arm => return arm
  | none => CutOff.ofExcept (.error (wording.missing ordinal))

def appendArmComplete (hash : JournalHash) (coordinator : Coordinator) (host : Host)
    (phase : ExecutionPhase) (planSha256 : Digest) (planned : PlannedArm) (parsed : ParsedArm) :
    Execution Unit :=
  appendJournalRecord hash coordinator host
    ⟨.armComplete, phase, some planned.ordinal, planSha256, some (parsed.leaf, parsed.rawSha256)⟩

def startArm (hash : JournalHash) (coordinator : Coordinator) (wording : ArmWording) (host : Host)
    (phase : ExecutionPhase) (planSha256 : Digest) (planned : PlannedArm) : Execution ParsedArm := do
  appendJournalRecord hash coordinator host ⟨.armStart, phase, some planned.ordinal, planSha256, none⟩
  executeProcessArm host planned
  let parsed ← rawArmByOrdinal host wording planned.ordinal
  CutOff.ofExcept (ensurePlannedMatchesRaw planned parsed)
  appendArmComplete hash coordinator host phase planSha256 planned parsed
  return parsed

def recoverArm (hash : JournalHash) (coordinator : Coordinator) (host : Host) (phase : ExecutionPhase)
    (planSha256 : Digest) (checkStart : ExecutionJournalRecord → Except String Unit)
    (planned : PlannedArm) (parsed : ParsedArm) : Execution ParsedArm := do
  CutOff.ofExcept (ensurePlannedMatchesRaw planned parsed)
  let journal := (← CutOff.read).journal
  if partiallyStartedOrdinal journal = some planned.ordinal then do
    journal.getLast?.forM fun start => CutOff.ofExcept (checkStart start)
    appendArmComplete hash coordinator host phase planSha256 planned parsed
    return parsed
  else
    return parsed

/-- An arm that was started and has no leaf ends the run. -/
def abandonArm (wording : ArmWording) (host : Host) (planned : PlannedArm) : Execution ParsedArm := do
  retainInterruptedProcessArm host planned
  CutOff.ofExcept (.error (wording.interrupted planned.ordinal))

def runNextArm (hash : JournalHash) (coordinator : Coordinator) (wording : ArmWording) (host : Host)
    (phase : ExecutionPhase) (planSha256 : Digest) (planned : PlannedArm) : Execution ParsedArm := do
  if partiallyStartedOrdinal (← CutOff.read).journal = some planned.ordinal then
    abandonArm wording host planned
  else
    startArm hash coordinator wording host phase planSha256 planned

def runOrRecover (hash : JournalHash) (coordinator : Coordinator) (wording : ArmWording) (host : Host)
    (phase : ExecutionPhase) (planSha256 : Digest)
    (checkStart : ExecutionJournalRecord → Except String Unit) (planned : PlannedArm) :
    Execution ParsedArm := do
  let existing ← parseRawArms host wording.parse
  match existing[planned.ordinal]? with
  | some parsed => recoverArm hash coordinator host phase planSha256 checkStart planned parsed
  | none =>
    if planned.ordinal = existing.length then
      runNextArm hash coordinator wording host phase planSha256 planned
    else
      CutOff.ofExcept (.error wording.notPrefix)

/-! ### Ending -/

/-- The state file is written once, and no later process can write it again. -/
def writeExecutionState (host : Host) (state : ExecutionState) : Execution Unit := do
  CutOff.ofExcept (state.validate host.evidenceId host.machineSha256 host.buildSetSha256)
  writeNew "execution-state.json" (·.executionState.isSome)
    fun disk => { disk with executionState := some state }

def writeDerived (host : Host) (name : String) : Execution Unit := do
  let content := host.contents name (← CutOff.read)
  writeNew name (fun disk => (disk.files name).isSome) (·.put name content)

def writeProjectionFiles (host : Host) (final : Projection) : Execution Unit := do
  appendProjection host final
  host.ask .projection
  writeDerived host "projection.json"
  writeDerived host "delivery-projection.json"

def writeManifest (host : Host) (name : String) (terminal : TerminalState) : Execution Unit := do
  host.ask .manifest
  writeNew name (·.manifest.isSome) fun disk => { disk with manifest := some terminal }

/-- The terminal state that the manifest names has to be the one that is derived from the tree. -/
def verifiedTerminal (host : Host) (message : String) : Execution TerminalState := do
  let disk ← CutOff.read
  let verified ← CutOff.ofExcept (host.verifySource disk)
  CutOff.ofExcept (require (disk.manifest == some verified) message)
  return verified

def requireDerived (host : Host) (terminal : TerminalState) (message : String) : Execution Unit := do
  let verified ← CutOff.ofExcept (host.verifySource (← CutOff.read))
  CutOff.ofExcept (require (verified == terminal) message)

/-! ### Calibration -/

inductive ScoutTransition where
  | accept
  | double
  | blocked (reason : String)
  deriving DecidableEq, Repr

structure CalibrationHost extends Host where
  scoutOrder : Cell → Nat → List Arm
  cells : List Cell
  rowOrder : List Nat
  scoutPlanSha256 : Digest
  /-- What the smoke leaves behind as `topology-smoke.json`, and how it ends. -/
  smoke : ExecutionDisk → Option Bytes × Except String Unit
  smokeContinues : ExecutionDisk → Except String Bool
  scoutTransition : Nat → List ParsedArm → ScoutTransition
  /-- Why the selected parameters are blocked, if they are. -/
  selection : ExecutionDisk → Except String (Option String)
  exactRuntimeAdmissible : ExecutionDisk → Except String Bool
  presealAdmissible : ExecutionDisk → Except String Bool

namespace Calibration

variable (hash : JournalHash) (host : CalibrationHost)

def wording : ArmWording where
  parse := "calibration raw prefix failed revalidation"
  missing ordinal := "raw arm ordinal " ++ toString ordinal ++ " is missing"
  notPrefix := "next process arm is not the exact raw prefix ordinal"
  interrupted ordinal :=
    "arm ordinal " ++ toString ordinal ++ " was partially started and cannot resume"

def phaseForClass : EvidenceClass → ExecutionPhase
  | .s => .scout
  | .c => .williams
  | .d => .calibrationDirect
  | .a => .authoritative

def validateResumePrefix : Execution Unit := do
  let journal := (← CutOff.read).journal
  CutOff.ofExcept (require (journal.head?.any fun first =>
      first.kind == .campaignStart && first.calibrationId == host.evidenceId)
    "calibration resume lacks its campaign-start journal")
  CutOff.ofExcept (require (journal.all fun record =>
      record.bootIdSha256 == host.bootIdSha256 && record.machineSha256 == host.machineSha256 &&
        record.buildSetSha256 == host.buildSetSha256)
    "calibration resume boot/machine/build identity changed")
  let arms ← parseRawArms host.toHost wording.parse
  CutOff.ofExcept (checkCompletions
    (fun arms count => arms.getLast?.any (·.metadata.ordinal == count))
    "calibration resume journal/raw completion counts differ"
    "calibration resume journal does not bind the exact raw prefix" journal arms)

def openRoot : Execution Unit := do
  let disk ← CutOff.read
  if disk.root then do
    CutOff.ofExcept (require (!disk.sealed)
      "calibration identity is already sealed; overwrite/resume is forbidden")
    requireInitialFiles host.toHost
  else
    createRoot host.toHost

def initializeTree : Execution Unit := do
  openRoot host
  startJournal hash .calibration host.toHost .smoke host.intentSha256
  readProjectionBindings host.toHost
  validateResumePrefix host

def runOrRecoverArm (planSha256 : Digest) (planned : PlannedArm) : Execution ParsedArm :=
  runOrRecover hash .calibration wording host.toHost (phaseForClass planned.evidenceClass) planSha256
    (fun start => require
      (start.phase == phaseForClass planned.evidenceClass && start.planSha256 == planSha256)
      "published raw recovery differs from its arm-start journal")
    planned

/-- A gate that was passed, or not, by an earlier process is not measured again. -/
def admitReachedStorage (gateId : String) : Execution Bool := do
  let projections ← CutOff.ofExcept (← CutOff.read).openProjections
  match projections.find? (·.gateId == gateId) with
  | some projection => return projection.admissible
  | none => do
      let _ ← parseRawArms host.toHost wording.parse
      let admissible ← CutOff.ofExcept (host.admissible gateId (← CutOff.read))
      appendProjection host.toHost ⟨gateId, admissible⟩
      return admissible

def requireStorageAdmission (gateId : String) : Execution Unit := do
  let admissible ← admitReachedStorage host gateId
  CutOff.ofExcept (require admissible
    ("storage gate " ++ gateId ++ " requires more free bytes or exceeds 512 MiB"))

def deliverSealedCalibration : Execution TerminalState := do
  let verified ← verifiedTerminal host.toHost
    "sealed calibration manifest differs from independently derived source"
  host.ask .delivery
  return verified

def sealedOutcome : Execution TerminalState := deliverSealedCalibration host

def calibrationState (requested : TerminalState) (reasons : List String) (disk : ExecutionDisk)
    (completedArms : Nat) (journalRoot : Digest) : TerminalState × ExecutionState :=
  let started := partiallyStartedOrdinal disk.journal
  let terminal := if requested = .pass ∧ started = none then .pass else .blocked
  let text := reasonText (reasons ++ started.toList.map fun ordinal =>
    "arm ordinal " ++ toString ordinal ++ " started without a durable completion; resume forbidden")
  (terminal,
    { completedArms
      plannedArms := completedArms
      crashDetail := if terminal = .pass then none else some ("; ".intercalate text)
      campaignBoottimeStartNs := (disk.journal.head?.map (·.boottimeNs)).getD 0
      campaignBoottimeEndNs := host.boottimeNs disk
      journalRootSha256 := journalRoot
      partiallyStartedOrdinal := started })

def sealCalibration (requested : TerminalState) (reasons : List String) : Execution TerminalState := do
  let arms ← parseRawArms host.toHost wording.parse
  host.ask .quarantine
  requireStorageAdmission host "final-delivery"
  host.ask .clock
  let disk ← CutOff.read
  let journalRoot ← CutOff.ofExcept (executionJournalRoot hash disk.journal)
  let (terminal, state) := calibrationState host requested reasons disk arms.length journalRoot
  writeExecutionState host.toHost state
  writeProjectionFiles host.toHost ⟨"final-delivery", true⟩
  Execution.check fun disk => require disk.topologySmoke.isSome "No such file or directory"
  writeManifest host.toHost "calibration-manifest.json" terminal
  createSeal host.toHost
  requireDerived host.toHost terminal "sealed calibration derived another terminal state"
  deliverSealedCalibration host

def finishCalibration (requested : TerminalState) (reasons : List String) : Execution TerminalState := do
  if (← CutOff.read).sealed then
    sealedOutcome host
  else
    sealCalibration hash host requested reasons

def appendSmokeComplete (content : Bytes) : Execution Unit :=
  appendJournalRecord hash .calibration host.toHost
    ⟨.smokeComplete, .smoke, none, host.intentSha256,
      some (["topology-smoke.json"], hash.fileSha256 content)⟩

/-- A smoke that was started is taken over when its result is there and holds. -/
def takeOverSmoke : Execution (Option TerminalState) := do
  let disk ← CutOff.read
  let give := some <$> finishCalibration hash host .blocked
    ["topology smoke was partially started and cannot resume"]
  match disk.topologySmoke with
  | none => give
  | some content => do
      if ← CutOff.ofExcept (host.smokeContinues disk) then do
        appendSmokeComplete hash host content
        return none
      else
        give

def resumeTerminalIfPartial : Execution (Option TerminalState) := do
  if (← CutOff.read).journal.getLast?.any (·.kind == .smokeStart) then
    takeOverSmoke hash host
  else
    return none

/-- The smoke can leave its file behind even when it fails. -/
def smokeIntoOpenCalibration : Execution Unit := do
  let disk ← CutOff.read
  (host.smoke disk).1.forM fun content =>
    CutOff.write fun disk => { disk with topologySmoke := some content }
  CutOff.ofExcept (host.smoke disk).2

def startSmoke : Execution Unit := do
  appendJournalRecord hash .calibration host.toHost ⟨.smokeStart, .smoke, none, host.intentSha256, none⟩
  smokeIntoOpenCalibration host
  host.ask .smokeCap
  match (← CutOff.read).topologySmoke with
  | some content => appendSmokeComplete hash host content
  | none => CutOff.ofExcept (.error "No such file or directory")

def runSmoke : Execution Unit := do
  if (← CutOff.read).topologySmoke.isSome then
    return ()
  else
    startSmoke hash host

/-- One arm of a panel. It takes the next ordinal, whatever the plan says. -/
def runScout (planned : PlannedArm) (arms : List ParsedArm) (next : Nat) :
    Execution (List ParsedArm × Nat) := do
  let _ ← runOrRecoverArm hash host host.scoutPlanSha256 { planned with ordinal := next }
  host.ask (.outcome next)
  let parsed ← rawArmByOrdinal host.toHost wording next
  host.ask (.quality next)
  host.ask (.runtime (next + 1))
  return (arms ++ [parsed], next + 1)

def runPanel (panel : List PlannedArm) (next : Nat) : Execution (List ParsedArm × Nat) :=
  panel.foldlM (fun progress planned => runScout hash host planned progress.1 progress.2) ([], next)

/-- The ordinal to go on with, or how the calibration has ended. -/
inductive Progress where
  | next (ordinal : Nat)
  | ended (terminal : TerminalState)

def scoutCell (plan : List PlannedArm) (cell : Cell) : List Nat → Nat → Execution Progress
  | [], _ => CutOff.ofExcept (.error "scout target sequence ended without a decision")
  | target :: targets, next => do
      requireStorageAdmission host ("scout-" ++ cell.id ++ "-" ++ toString target)
      let panel := plan.filter fun arm => arm.cell == cell && arm.target == some target
      CutOff.ofExcept (require (panel.length == 5) "scout plan panel is not exactly five arms")
      let (arms, next) ← runPanel hash host panel next
      match host.scoutTransition target arms with
      | .accept => do
          host.ask (.scoutDurations next)
          return .next next
      | .double => scoutCell plan cell targets next
      | .blocked reason => .ended <$> finishCalibration hash host .blocked [reason]

def scoutCells (plan : List PlannedArm) : List Cell → Nat → Execution Progress
  | [], next => return .next next
  | cell :: cells, next => do
      match ← scoutCell hash host plan cell scoutTargets next with
      | .next next => scoutCells plan cells next
      | .ended terminal => return .ended terminal

def runFixedArm (planSha256 : Digest) (planned : PlannedArm) : Execution Unit := do
  let _ ← runOrRecoverArm hash host planSha256 planned
  let _ ← rawArmByOrdinal host.toHost wording planned.ordinal
  host.ask (.quality planned.ordinal)
  host.ask (.runtime (planned.ordinal + 1))

def runFixedArms (planSha256 : Digest) (arms : List PlannedArm) : Execution Unit :=
  arms.forM (runFixedArm hash host planSha256)

/-- Why the parameters are blocked, if they are. -/
def selectParameters : Execution (Option String) := do
  match ← CutOff.ofExcept (host.selection (← CutOff.read)) with
  | some reason => return some reason
  | none => do
      let admissible ← admitReachedStorage host "before-d0"
      return if admissible then none else some "pre-direct raw coexistence"

def passPreseal : Execution TerminalState := do
  if ← CutOff.ofExcept (host.presealAdmissible (← CutOff.read)) then
    finishCalibration hash host .pass []
  else
    finishCalibration hash host .blocked ["preseal continuation projection"]

def runDirect (planSha256 : Digest) (direct : List PlannedArm) : Execution TerminalState := do
  runFixedArms hash host planSha256 direct
  let _ ← parseRawArms host.toHost wording.parse
  host.ask .headroom
  if ← CutOff.ofExcept (host.exactRuntimeAdmissible (← CutOff.read)) then
    passPreseal hash host
  else
    finishCalibration hash host .blocked ["post-direct projection"]

def runWilliams (plan : CalibrationExecutionPlan) : Execution TerminalState := do
  host.ask .calibrationPlan
  let content := host.contents "calibration-plan.json" (← CutOff.read)
  writeOrRequireCanonical "calibration-plan.json" content
  requireStorageAdmission host "before-williams"
  runFixedArms hash host (hash.fileSha256 content) plan.arms
  let _ ← parseRawArms host.toHost wording.parse
  host.ask .quarantine
  let blocked ← selectParameters host
  host.ask .parameters
  let parameters := host.contents "authoritative-parameters.json" (← CutOff.read)
  writeOrRequireCanonical "authoritative-parameters.json" parameters
  match blocked with
  | some reason => finishCalibration hash host .blocked [reason]
  | none => runDirect hash host (hash.fileSha256 content) plan.directEpochZero

def runOpenCalibration : Execution TerminalState := do
  host.ask (.runtime 0)
  requireStorageAdmission host "before-smoke"
  runSmoke hash host
  let plan ← CutOff.ofExcept (scoutPlan host.scoutOrder)
  match ← scoutCells hash host plan allCells 0 with
  | .ended terminal => return terminal
  | .next next => do
      let plan ← CutOff.ofExcept (calibrationPlanWithOffset host.cells host.rowOrder next)
      runWilliams hash host plan

/-- Whatever goes wrong in the open calibration, it is sealed as blocked. -/
def sealFailed (error : String) : Execution TerminalState :=
  (finishCalibration hash host .blocked [error]).orElse fun finish =>
    CutOff.ofExcept (.error
      ("calibration failed: " ++ error ++ "; terminal sealing also failed: " ++ finish))

def continueCalibration : Execution TerminalState := do
  match ← resumeTerminalIfPartial hash host with
  | some outcome => return outcome
  | none => (runOpenCalibration hash host).orElse (sealFailed hash host)

def runCalibration : Execution TerminalState := do
  host.ask .candidate
  if (← CutOff.read).sealed then
    sealedOutcome host
  else do
    host.ask .preflight
    host.ask .build
    initializeTree hash host
    continueCalibration hash host

end Calibration

/-! ### Campaign -/

inductive SemanticClass where
  | ok
  | candidateFailure
  | baselineFailure
  | integrityFailure
  deriving DecidableEq, Repr

structure CampaignHost extends Host where
  selectedN : Nat
  directOrder : List (Cell × Protocol)
  rounds : List RoundPlan
  planSha256 : Digest
  acceptedSignatures : List (String × Bytes)
  boottimeOriginNs : Nat
  semanticClass : ParsedArm → SemanticClass
  qualityClean : ParsedArm → Bool
  /-- Whether the error of an arm is one of those that only a faulty gateway causes. -/
  gatewayFault : String → Bool
  analyse : ExecutionDisk → Except String TerminalState

namespace Campaign

variable (hash : JournalHash) (host : CampaignHost)

def wording : ArmWording where
  parse := "campaign raw prefix failed validation"
  missing ordinal := "campaign raw arm " ++ toString ordinal ++ " is missing"
  notPrefix := "campaign raw leaves are not an exact prefix"
  interrupted ordinal :=
    "campaign arm " ++ toString ordinal ++ " was partially started and cannot resume"

def phaseForClass : EvidenceClass → ExecutionPhase
  | .d => .authoritativeDirect
  | _ => .authoritative

def validateResumePrefix : Execution Unit := do
  let journal := (← CutOff.read).journal
  CutOff.ofExcept (require (journal.head?.any fun first =>
      first.kind == .campaignStart && first.calibrationId == host.evidenceId &&
        first.planSha256 == host.planSha256)
    "campaign resume lacks exact campaign-start journal")
  CutOff.ofExcept (require (journal.all fun record =>
      record.calibrationId == host.evidenceId && record.bootIdSha256 == host.bootIdSha256 &&
        record.machineSha256 == host.machineSha256 && record.buildSetSha256 == host.buildSetSha256 &&
        record.planSha256 == host.planSha256)
    "campaign resume boot/machine/build/plan identity changed")
  let arms ← parseRawArms host.toHost wording.parse
  CutOff.ofExcept (checkCompletions (fun _ _ => true) "campaign journal/raw prefix counts differ"
    "campaign journal does not bind exact raw prefix" journal arms)

def writeProjectionRevision (gateId : String) : Execution Unit := do
  let _ ← parseRawArms host.toHost wording.parse
  let admissible ← CutOff.ofExcept (host.admissible gateId (← CutOff.read))
  CutOff.ofExcept (require admissible ("campaign storage admission " ++ gateId ++ " failed"))
  appendProjection host.toHost ⟨gateId, admissible⟩

def writeAcceptedSignatures : Execution Unit :=
  host.acceptedSignatures.forM fun file => writeOrRequireCanonical file.1 file.2

def openRoot : Execution Unit := do
  if (← CutOff.read).root then
    requireInitialFiles host.toHost
  else
    createRoot host.toHost

def firstProjection : Execution Unit := do
  if (← CutOff.read).projections = some [] then
    writeProjectionRevision host "authoritative-continuation"
  else
    return ()

def openCampaign : Execution Unit := do
  openRoot host
  writeAcceptedSignatures host
  startJournal hash .campaign host.toHost .authoritativeDirect host.planSha256
  readProjectionBindings host.toHost
  validateResumePrefix host
  firstProjection host

def runOrRecoverArm (planned : PlannedArm) : Execution ParsedArm :=
  runOrRecover hash .campaign wording host.toHost (phaseForClass planned.evidenceClass) host.planSha256
    (fun _ => .ok ()) planned

/-- The verdict of the analysis, or what the terminal state stands for when there is none. -/
def finalTerminal (verified : TerminalState) (disk : ExecutionDisk) : Except String TerminalState :=
  match verified with
  | .pass => host.analyse disk
  | .fail => .ok .fail
  | .blocked | .superseded => .ok .blocked

def deliverSealedCampaign : Execution TerminalState := do
  let verified ← verifiedTerminal host.toHost
    "sealed campaign manifest differs from independently derived source"
  host.ask .delivery
  CutOff.ofExcept (finalTerminal host verified (← CutOff.read))

def sealedOutcome : Execution TerminalState := deliverSealedCampaign host

def campaignState (planned : Nat) (requested : TerminalState) (reasons : List String)
    (disk : ExecutionDisk) (completedArms : Nat) (journalRoot : Digest) :
    TerminalState × ExecutionState :=
  let started := partiallyStartedOrdinal disk.journal
  let terminal :=
    if requested = .pass ∧ completedArms = planned ∧ started = none then .pass
    else if requested = .fail then .fail
    else .blocked
  let text := reasonText (reasons ++ started.toList.map fun ordinal =>
    "campaign arm ordinal " ++ toString ordinal ++
      " started without durable completion; resume forbidden")
  (terminal,
    { completedArms
      plannedArms := if terminal = .pass then planned else completedArms
      crashDetail := if terminal = .pass then none else some ("; ".intercalate text)
      campaignBoottimeStartNs := host.boottimeOriginNs
      campaignBoottimeEndNs := host.boottimeNs disk
      journalRootSha256 := journalRoot
      partiallyStartedOrdinal := started })

def sealCampaign (planned : Nat) (requested : TerminalState) (reasons : List String) :
    Execution TerminalState := do
  let arms ← parseRawArms host.toHost wording.parse
  host.ask .clock
  let disk ← CutOff.read
  let journalRoot ← CutOff.ofExcept (executionJournalRoot hash disk.journal)
  let (terminal, state) := campaignState host planned requested reasons disk arms.length journalRoot
  writeExecutionState host.toHost state
  writeProjectionRevision host "final-delivery"
  host.ask .projection
  writeDerived host.toHost "projection.json"
  writeDerived host.toHost "delivery-projection.json"
  writeManifest host.toHost "campaign-manifest.json" terminal
  createSeal host.toHost
  requireDerived host.toHost terminal "sealed campaign derived another terminal state"
  deliverSealedCampaign host

def finishCampaign (planned : Nat) (requested : TerminalState) (reasons : List String) :
    Execution TerminalState := do
  if (← CutOff.read).sealed then
    sealedOutcome host
  else
    sealCampaign hash host planned requested reasons

def terminalForArmError (planned : PlannedArm) (error : String) : TerminalState :=
  if planned.evidenceClass = .a ∧ planned.arm ≠ some .b11 ∧ host.gatewayFault error then .fail
  else .blocked

def afterArm (planned : PlannedArm) : Execution (Option TerminalState) := do
  host.ask (.rates planned.ordinal)
  host.ask (.runtime (planned.ordinal + 1))
  if (planned.ordinal + 1) % 780 = 0 then do
    writeProjectionRevision host ("authoritative-prefix-" ++ toString (planned.ordinal + 1))
    return none
  else
    return none

def judgeArm (count : Nat) (planned : PlannedArm) : Execution (Option TerminalState) := do
  let raw ← rawArmByOrdinal host.toHost wording planned.ordinal
  match host.semanticClass raw with
  | .candidateFailure =>
    some <$> finishCampaign hash host count .fail
      ["candidate semantic failure in " ++ raw.metadata.observationId]
  | .integrityFailure | .baselineFailure =>
    some <$> finishCampaign hash host count .blocked
      ["invalid authoritative arm " ++ raw.metadata.observationId]
  | .ok =>
    if host.qualityClean raw then
      afterArm host planned
    else
      some <$> finishCampaign hash host count .blocked
        ["authoritative arm " ++ raw.metadata.observationId ++ " failed quality"]

/-- The arm itself. When it fails, the campaign ends. -/
def attemptArm (count : Nat) (planned : PlannedArm) : Execution (Option TerminalState) :=
  ((fun _ => none) <$> runOrRecoverArm hash host planned).orElse fun error =>
    some <$> finishCampaign hash host count (terminalForArmError host planned error) [error]

def campaignArm (count : Nat) (planned : PlannedArm) : Execution (Option TerminalState) := do
  host.ask (.runtime planned.ordinal)
  match ← attemptArm hash host count planned with
  | some terminal => return some terminal
  | none => judgeArm hash host count planned

def campaignArms (count : Nat) : List PlannedArm → Execution (Option TerminalState)
  | [] => return none
  | planned :: arms => do
      match ← campaignArm hash host count planned with
      | some terminal => return some terminal
      | none => campaignArms count arms

def concludeCampaign (count : Nat) : Execution TerminalState := do
  let _ ← parseRawArms host.toHost wording.parse
  match host.answer .rawGates (← CutOff.read) with
  | .error error => finishCampaign hash host count .blocked [error]
  | .ok _ => finishCampaign hash host count .pass []

def runOpenCampaign (plan : List PlannedArm) : Execution TerminalState := do
  match ← campaignArms hash host plan.length plan with
  | some terminal => return terminal
  | none => concludeCampaign hash host plan.length

def sealFailed (count : Nat) (error : String) : Execution TerminalState :=
  (finishCampaign hash host count .blocked [error]).orElse fun finish =>
    CutOff.ofExcept (.error
      ("campaign failed: " ++ error ++ "; terminal sealing also failed: " ++ finish))

def continueCampaign (plan : List PlannedArm) : Execution TerminalState := do
  openCampaign hash host
  (runOpenCampaign hash host plan).orElse (sealFailed hash host plan.length)

def runCampaign : Execution TerminalState := do
  host.ask .preflight
  host.ask .build
  host.ask .loadCalibration
  let plan ← CutOff.ofExcept (campaignPlan host.selectedN host.directOrder host.rounds)
  if (← CutOff.read).sealed then
    sealedOutcome host
  else
    continueCampaign hash host plan

end Campaign

/-! ### Processes -/

def Coordinator.Process : Coordinator → Type
  | .calibration => CalibrationHost
  | .campaign => CampaignHost

def Coordinator.run (hash : JournalHash) : (coordinator : Coordinator) → coordinator.Process →
    Execution TerminalState
  | .calibration, host => Calibration.runCalibration hash host
  | .campaign, host => Campaign.runCampaign hash host

end AuthMiniGateway.Benchmark

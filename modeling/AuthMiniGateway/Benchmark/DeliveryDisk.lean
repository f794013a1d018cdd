import AuthMiniGateway.Lib.CutOff
import AuthMiniGateway.Benchmark.DeliveryBytes

/-!
# The files of the deliveries

The contents of files are of any type. No other process writes the records of a transaction, so they are read
from the disk here.
-/

namespace AuthMiniGateway.Benchmark

inductive DeliveryPhase where
  | sourceVerified
  | bundleCreated
  | bundleVerified
  | derivedProducts
  | prepublishCap
  | bundleInstalled
  | conclusionInstalled
  | ledgerPublished
  | finalCap
  | outcomePublished
  deriving DecidableEq, Repr

/-- The order in which the phases are recorded. -/
def DeliveryPhase.all : List DeliveryPhase :=
  [.sourceVerified, .bundleCreated, .bundleVerified, .derivedProducts, .prepublishCap, .bundleInstalled,
    .conclusionInstalled, .finalCap, .ledgerPublished, .outcomePublished]

/-- The files that a record can bind, under the paths it gives them. -/
inductive BoundFile where
  | sourceSeal
  | bundleIndex
  | bundleVerification
  | bundleCompressionProfile
  | bundleDesignLock
  | bundleContinuationProjection
  | derivedResult
  | derivedReport
  | preparedEntry
  | preparedLedger
  | installedBundleIndex
  | installedVerification
  | installedResult
  | installedReport
  | installedDeliveryIndex
  deriving DecidableEq, Repr

def BoundFile.path : BoundFile → String
  | .sourceSeal => "source/seal.json"
  | .bundleIndex => "bundle/bundle-index.json"
  | .bundleVerification => "bundle/verification.json"
  | .bundleCompressionProfile => "bundle/compression-profile.json"
  | .bundleDesignLock => "bundle/design-lock.json"
  | .bundleContinuationProjection => "bundle/continuation-projection.json"
  | .derivedResult => "derived/result.json"
  | .derivedReport => "derived/report.md"
  | .preparedEntry => "prepared/entry.json"
  | .preparedLedger => "prepared/ledger.json"
  | .installedBundleIndex => "installed/bundle-index.json"
  | .installedVerification => "installed/verification.json"
  | .installedResult => "installed/result.json"
  | .installedReport => "installed/report.md"
  | .installedDeliveryIndex => "installed/delivery-index.json"

structure DeliveryBinding where
  file : BoundFile
  sha256 : Digest
  deriving DecidableEq, Repr

def DeliveryBinding.key (binding : DeliveryBinding) : List Nat := (utf8 binding.file.path).map UInt8.toNat

def deliveryTransactionSchema : String := "amg-http2-perf/delivery-transaction/v1"

structure DeliveryTransactionRecord where
  schema : String
  evidenceKind : EvidenceKind
  evidenceId : String
  sealRootSha256 : Digest
  sequence : Nat
  phase : DeliveryPhase
  predecessorSha256 : Option Digest
  bindings : List DeliveryBinding
  deriving DecidableEq, Repr

/-- The loop over the bindings of a record, with the path before. -/
def checkBindings : Option (List Nat) → List DeliveryBinding → Except String Unit
  | _, [] => .ok ()
  | previous, binding :: bindings => do
      validateNonPlaceholderSha256 "delivery transaction binding" binding.sha256
      require (previous.all fun path => decide (path < binding.key))
        "delivery transaction bindings are not strictly sorted and unique"
      checkBindings (some binding.key) bindings

def checkRecordPredecessor (sequence : Nat) (predecessor : Option Digest) : Except String Unit :=
  if sequence = 0 then
    require predecessor.isNone "genesis delivery transaction has a predecessor"
  else
    match predecessor with
    | some sha256 => validateNonPlaceholderSha256 "delivery transaction predecessor" sha256
    | none => .error "delivery transaction predecessor is missing"

def DeliveryTransactionRecord.validate (record : DeliveryTransactionRecord) : Except String Unit := do
  require (record.schema == deliveryTransactionSchema &&
      DeliveryPhase.all[record.sequence]? == some record.phase)
    "delivery transaction phase/sequence is invalid"
  validateIdentifier "delivery transaction identity" record.evidenceId
  validateNonPlaceholderSha256 "delivery transaction seal root" record.sealRootSha256
  checkRecordPredecessor record.sequence record.predecessorSha256
  checkBindings none record.bindings

/-! ### The disk -/

abbrev Folder (Content : Type) := String → Option Content

structure TransactionFiles (Content : Type) where
  records : List DeliveryTransactionRecord
  preparedEntry : Option Content
  preparedLedger : Option Content
  derivedResult : Option Content
  derivedReport : Option Content
  /-- How many scratch directories of a category have been left behind. -/
  attempts : String → Nat

structure Artifacts (Content : Type) where
  bundles : EvidenceKind → String → Option (Folder Content)
  results : String → Option Content
  reports : String → Option Content
  ledger : Option Content
  pendingLedger : Option Content
  history : Digest → Option Content
  /-- What the ledger file has held, the latest content first. Nothing reads it. -/
  published : List Content

structure Disk (Content : Type) where
  transactions : EvidenceKind → String → TransactionFiles Content
  staging : String → Option (Folder Content)
  artifacts : Artifacts Content

variable {Content : Type}

def TransactionFiles.empty : TransactionFiles Content where
  records := []
  preparedEntry := none
  preparedLedger := none
  derivedResult := none
  derivedReport := none
  attempts _ := 0

def Artifacts.empty : Artifacts Content where
  bundles _ _ := none
  results _ := none
  reports _ := none
  ledger := none
  pendingLedger := none
  history _ := none
  published := []

def Disk.empty : Disk Content where
  transactions _ _ := .empty
  staging _ := none
  artifacts := .empty

abbrev Delivery (Content : Type) := CutOff (Disk Content) String

def check (condition : Bool) (message : String) : Delivery Content Unit :=
  .ofExcept (require condition message)

def present {α : Type} (found : Option α) (message : String) : Delivery Content α :=
  .ofExcept (match found with
    | some value => .ok value
    | none => .error message)

def Disk.setArtifacts (disk : Disk Content) (change : Artifacts Content → Artifacts Content) :
    Disk Content :=
  { disk with artifacts := change disk.artifacts }

/-- A file that is written once: if it is there already it has to be the same. -/
def writeOrRequire [DecidableEq Content] (found : Disk Content → Option Content)
    (put : Content → Disk Content → Disk Content) (expected : Content) (message : String) :
    Delivery Content Unit := fun disk =>
  match found disk with
  | some content => check (content == expected) message disk
  | none => CutOff.write (put expected) disk

/-! ### The ledger -/

section Ledger

variable [DecidableEq Content] (format : LedgerFormat Content)

def putLedger (content : Content) (disk : Disk Content) : Disk Content :=
  disk.setArtifacts fun artifacts =>
    { artifacts with ledger := some content, published := content :: artifacts.published }

def putPendingLedger (content : Content) (disk : Disk Content) : Disk Content :=
  disk.setArtifacts fun artifacts => { artifacts with pendingLedger := some content }

def putHistory (sha256 : Digest) (content : Content) (disk : Disk Content) : Disk Content :=
  disk.setArtifacts fun artifacts =>
    { artifacts with history := Function.update artifacts.history sha256 (some content) }

def renamePendingLedger (disk : Disk Content) : Disk Content :=
  disk.setArtifacts fun artifacts =>
    { artifacts with
      ledger := artifacts.pendingLedger, pendingLedger := none,
      published := artifacts.pendingLedger.toList ++ artifacts.published }

def replaceLedger (ledger : DeliveryLedger) (previous : Content) : Delivery Content Unit := do
  let previousSha256 := format.sha256Hex previous
  writeOrRequire (fun disk => disk.artifacts.history previousSha256) (putHistory previousSha256) previous
    "resume file differs from exact initialized bytes: ledger-history"
  check (ledger.predecessor.any fun predecessor => predecessor.sha256 == previousSha256)
    "delivery successor does not bind the installed predecessor"
  writeOrRequire (fun disk => disk.artifacts.pendingLedger) putPendingLedger
    (format.canonicalBytes ledger)
    "resume file differs from exact initialized bytes: delivery-index.json.next"
  .write renamePendingLedger

def writeLedger (ledger : DeliveryLedger) : Delivery Content Unit := do
  .ofExcept ledger.validate
  let disk ← CutOff.read
  match disk.artifacts.ledger with
  | some previous =>
    if previous = format.canonicalBytes ledger then .ofExcept (.ok ())
    else replaceLedger format ledger previous
  | none => .write (putLedger (format.canonicalBytes ledger))

def readLedger : Delivery Content DeliveryLedger := do
  let disk ← CutOff.read
  match disk.artifacts.ledger with
  | some content => .ofExcept (format.fromSliceStrict content)
  | none => .ofExcept (.ok .empty)

def nextLedger (previous : DeliveryLedger) (entry : DeliveryEntry) : Except String DeliveryLedger :=
  match previous.entries.find? fun existing =>
      existing.evidenceKind == entry.evidenceKind && existing.evidenceId == entry.evidenceId with
  | some existing => do
      require (existing == entry) "delivery ledger identity was published with different content"
      .ok previous
  | none => appendDeliveryEntry format previous entry

/-- A ledger that was left pending has to be the one that is about to be published. -/
def requirePending (next : DeliveryLedger) : Delivery Content Unit := do
  let disk ← CutOff.read
  check (disk.artifacts.pendingLedger.all fun pending => pending == format.canonicalBytes next)
    "pending ledger contains different content"

end Ledger

end AuthMiniGateway.Benchmark

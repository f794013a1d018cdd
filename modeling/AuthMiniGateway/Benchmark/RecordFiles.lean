import AuthMiniGateway.Benchmark.DeliveryDisk

/-!
# The record files of a delivery transaction

Every step at the file system is one at which the process can be cut off. The contents of files are of any
type.
-/

namespace AuthMiniGateway.Benchmark

def DeliveryPhase.label : DeliveryPhase → String
  | .sourceVerified => "source-verified"
  | .bundleCreated => "bundle-created"
  | .bundleVerified => "bundle-verified"
  | .derivedProducts => "derived-products"
  | .prepublishCap => "prepublish-cap"
  | .bundleInstalled => "bundle-installed"
  | .conclusionInstalled => "conclusion-installed"
  | .ledgerPublished => "ledger-published"
  | .finalCap => "final-cap"
  | .outcomePublished => "outcome-published"

namespace RecordFiles

/-- The bytes of a text, as they are compared. -/
def textKey (text : String) : List Nat := (utf8 text).map UInt8.toNat

structure Binding where
  path : String
  sha256 : Digest
  deriving DecidableEq, Repr

/-- A path is taken apart at its slashes; a dot counts only at the start. -/
def validateRelative (value : String) : Except String Unit :=
  let components := (utf8 value).splitOn 47
  require (!(utf8 value).isEmpty && (utf8 value).head? != some 47 && components.head? != some [46] &&
      !components.contains [46, 46])
    "delivery path is not safe and relative"

def Binding.validate (binding : Binding) : Except String Unit := do
  validateRelative binding.path
  validateNonPlaceholderSha256 "delivery transaction binding" binding.sha256

structure Record where
  schema : String
  evidenceKind : EvidenceKind
  evidenceId : String
  sealRootSha256 : Digest
  sequence : Nat
  phase : DeliveryPhase
  predecessorSha256 : Option Digest
  bindings : List Binding
  deriving DecidableEq, Repr

def checkBindings : Option (List Nat) → List Binding → Except String Unit
  | _, [] => .ok ()
  | previous, binding :: bindings => do
      binding.validate
      require (previous.all fun path => decide (path < textKey binding.path))
        "delivery transaction bindings are not strictly sorted and unique"
      checkBindings (some (textKey binding.path)) bindings

def Record.validate (record : Record) : Except String Unit := do
  require (record.schema == deliveryTransactionSchema &&
      DeliveryPhase.all[record.sequence]? == some record.phase)
    "delivery transaction phase/sequence is invalid"
  validateIdentifier "delivery transaction identity" record.evidenceId
  validateNonPlaceholderSha256 "delivery transaction seal root" record.sealRootSha256
  checkRecordPredecessor record.sequence record.predecessorSha256
  checkBindings none record.bindings

/-- How records are written as contents and read, and the size and the digest of a content. -/
structure RecordFormat (Content : Type) where
  empty : Content
  size : Content → Nat
  canonicalBytes : Record → Content
  fromSliceStrict : Content → Except String Record
  sha256Hex : Content → Digest

structure Identity where
  evidenceKind : EvidenceKind
  evidenceId : String
  sealRootSha256 : Digest
  deriving DecidableEq, Repr

def Identity.validate (identity : Identity) : Except String Unit := do
  validateIdentifier "delivery transaction identity" identity.evidenceId
  validateNonPlaceholderSha256 "delivery transaction seal root" identity.sealRootSha256

abbrev Directory (Content : Type) := List (String × Content)

variable {Content : Type} (format : RecordFormat Content)

def Directory.find (directory : Directory Content) (name : String) : Option Content :=
  (directory.find? fun file => file.1 == name).map Prod.snd

/-! ### Reading -/

def jsonMaxBytes : Nat := 1048576

def readStrict (name : String) (content : Content) : Except String Record := do
  require (format.size content ≤ jsonMaxBytes)
    ("JSON file exceeds " ++ toString jsonMaxBytes ++ " bytes: " ++ name)
  format.fromSliceStrict content

def twoDigits (sequence : Nat) : String :=
  if sequence < 10 then "0" ++ toString sequence else toString sequence

def recordName (sequence : Nat) (phase : DeliveryPhase) : String :=
  twoDigits sequence ++ "-" ++ phase.label ++ ".json"

def predecessorOf (records : List Record) : Option Digest :=
  records.getLast?.map fun record => format.sha256Hex (format.canonicalBytes record)

def openFile (identity : Identity) (records : List Record)
    (file : (String × Content) × Nat) : Except String (List Record) :=
  match DeliveryPhase.all[file.2]? with
  | none => .error "delivery transaction has extra records"
  | some phase => do
      require (file.1.1 == recordName file.2 phase) "delivery transaction record path is not canonical"
      let record ← readStrict format file.1.1 file.1.2
      record.validate
      require (record.evidenceKind == identity.evidenceKind && record.evidenceId == identity.evidenceId &&
          record.sealRootSha256 == identity.sealRootSha256 && record.sequence == file.2 &&
          record.predecessorSha256 == predecessorOf format records)
        "delivery transaction identity or hash chain changed"
      return records ++ [record]

def sortedFiles (directory : Directory Content) : List (String × Content) :=
  directory.insertionSort fun left right => textKey left.1 ≤ textKey right.1

def openTransaction (identity : Identity) (directory : Directory Content) :
    Except String (List Record) := do
  identity.validate
  (sortedFiles directory).zipIdx.foldlM (openFile format identity) []

def completed (records : List Record) (phase : DeliveryPhase) : Bool :=
  records.any fun record => record.phase == phase

def requireComplete (records : List Record) : Except String Unit :=
  require (records.length == DeliveryPhase.all.length && completed records .outcomePublished)
    "post-seal delivery transaction is incomplete"

/-! ### Writing -/

abbrev Files (Content : Type) := CutOff (Directory Content) String

def createFile (name : String) (directory : Directory Content) : Directory Content :=
  (name, format.empty) :: directory

def fillFile (name : String) (content : Content) (directory : Directory Content) : Directory Content :=
  directory.map fun file => if file.1 = name then (name, content) else file

def linkFile (name target : String) (directory : Directory Content) : Directory Content :=
  (target, (directory.find name).getD format.empty) :: directory

def removeFile (name : String) (directory : Directory Content) : Directory Content :=
  directory.filter fun file => file.1 ≠ name

/-- Nothing changes that is read afterwards; the process can be cut off here as well. -/
def sync : Files Content Unit := .write id

structure Process where
  id : Nat
  nextTemp : Nat
  deriving DecidableEq, Repr

def tempName (process : Process) (name : String) : String :=
  "." ++ name ++ ".tmp." ++ toString process.id ++ "." ++ toString process.nextTemp

/-- The link fails when the name is taken; the temporary file is then removed on the way out. -/
def installFile (temp name : String) : Files Content Unit := fun directory =>
  if (directory.find name).isSome then
    (do
      CutOff.write (removeFile temp)
      CutOff.ofExcept (.error ("cannot atomically install " ++ name ++ " without replacement")) :
        Files Content Unit) directory
  else CutOff.write (linkFile format temp name) directory

def createTemp (temp : String) : Files Content Unit := fun directory =>
  if (directory.find temp).isSome then CutOff.ofExcept (.error ("cannot create " ++ temp)) directory
  else CutOff.write (createFile format temp) directory

def writeNewBytes (process : Process) (name : String) (content : Content) : Files Content Unit := do
  let temp := tempName process name
  createTemp format temp
  CutOff.write (fillFile temp content)
  sync
  installFile format temp name
  CutOff.write (removeFile temp)
  sync

def sortBindings (bindings : List Binding) : List Binding :=
  bindings.insertionSort fun left right => textKey left.path ≤ textKey right.path

def nextRecord (identity : Identity) (records : List Record)
    (phase : DeliveryPhase) (bindings : List Binding) : Record where
  schema := deliveryTransactionSchema
  evidenceKind := identity.evidenceKind
  evidenceId := identity.evidenceId
  sealRootSha256 := identity.sealRootSha256
  sequence := records.length
  phase := phase
  predecessorSha256 := predecessorOf format records
  bindings := sortBindings bindings

def writeRecord (process : Process) (records : List Record) (record : Record) :
    Files Content (List Record) := do
  CutOff.ofExcept record.validate
  writeNewBytes format process (recordName record.sequence record.phase) (format.canonicalBytes record)
  sync
  return records ++ [record]

def recordPhase (identity : Identity) (process : Process) (records : List Record)
    (phase : DeliveryPhase) (bindings : List Binding) : Files Content (List Record) :=
  match records.find? fun record => record.phase == phase with
  | some existing => do
      CutOff.ofExcept (require (existing.bindings == sortBindings bindings)
        "completed delivery transaction phase has stale or changed bindings")
      return records
  | none => do
      CutOff.ofExcept (require (DeliveryPhase.all[records.length]? == some phase)
        "delivery transaction attempted an out-of-order phase")
      writeRecord format process records (nextRecord format identity records phase bindings)

end RecordFiles

end AuthMiniGateway.Benchmark

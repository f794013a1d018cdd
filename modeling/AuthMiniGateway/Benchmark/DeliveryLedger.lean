import Mathlib

/-!
# The delivery ledger

One entry for each delivered tree, with the hash of the ledger before it. A path is the list of its components.
The JSON of a ledger and its hash are parameters.
-/

namespace AuthMiniGateway.Benchmark

abbrev Bytes := List UInt8

/-- A SHA-256 digest, in hexadecimal. -/
abbrev Digest := String

abbrev RelativePath := List String

inductive EvidenceKind where
  | calibration
  | campaign
  | diagnostic
  deriving DecidableEq, Repr

def kindOrder : EvidenceKind → Nat
  | .calibration => 0
  | .campaign => 1
  | .diagnostic => 2

inductive TerminalState where
  | pass
  | fail
  | blocked
  | superseded
  deriving DecidableEq, Repr

/-! ### Checks -/

def require (condition : Bool) (message : String) : Except String Unit :=
  if condition then .ok () else .error message

def checkedAdd (left right : Nat) (message : String) : Except String Nat :=
  if left + right < 2 ^ 64 then .ok (left + right) else .error message

@[simp]
theorem require_eq_ok_iff {condition : Bool} {message : String} {u : Unit} :
    require condition message = .ok u ↔ condition = true := by
  cases condition <;> simp [require]

theorem checkedAdd_eq_ok_iff {left right sum : Nat} {message : String} :
    checkedAdd left right message = .ok sum ↔ sum = left + right ∧ left + right < 2 ^ 64 := by
  rw [checkedAdd]
  split
  · next h => exact ⟨fun heq => ⟨(Except.ok.inj heq).symm, h⟩, fun heq => congrArg _ heq.1.symm⟩
  · next h => exact ⟨nofun, fun heq => absurd heq.2 h⟩

def utf8 (text : String) : Bytes := text.toUTF8.data.toList

theorem utf8_injective {first second : String} (h : utf8 first = utf8 second) : first = second :=
  String.toByteArray_inj.mp (ByteArray.ext (Array.toList_inj.mp h))

def isDigit (byte : UInt8) : Bool := 48 ≤ byte && byte ≤ 57

/-- A letter or a digit, or one of `-`, `_`, `.` and `:`. -/
def isIdentifierByte (byte : UInt8) : Bool :=
  isDigit byte || (65 ≤ byte && byte ≤ 90) || (97 ≤ byte && byte ≤ 122) || [45, 95, 46, 58].contains byte

def validateIdentifier (name value : String) : Except String Unit :=
  require (!(utf8 value).isEmpty && (utf8 value).length ≤ 200 && (utf8 value).all isIdentifierByte)
    (name ++ " is not a safe bounded identifier")

def isLowerHex (byte : UInt8) : Bool := isDigit byte || (97 ≤ byte && byte ≤ 102)

def validateSha256 (name : String) (value : Digest) : Except String Unit :=
  require ((utf8 value).length = 64 && (utf8 value).all isLowerHex)
    (name ++ " is not a lowercase SHA-256 hex digest")

def validateNonPlaceholderSha256 (name : String) (value : Digest) : Except String Unit := do
  validateSha256 name value
  require (!((utf8 value).all (· == 48) || (utf8 value).all (· == 102)))
    (name ++ " is a placeholder SHA-256 digest")

def RelativePath.text (path : RelativePath) : String := "/".intercalate path

/-- A path longer than a hundred bytes is cut at a slash. -/
def fitsUstar (path : Bytes) : Bool :=
  path.length ≤ 100 ||
    (List.range path.length).any fun index =>
      path[index]? == some 47 && 0 < index && index ≤ 155 &&
        0 < path.length - (index + 1) && path.length - (index + 1) ≤ 100

def isControl (byte : UInt8) : Bool := byte < 32 || byte == 127

def validateRelativePath (path : RelativePath) : Except String Unit := do
  let text := utf8 path.text
  require (!(text.isEmpty || text.head? == some 47 || text.getLast? == some 47 ||
      text.any fun byte => byte == 92 || isControl byte))
    ("unsafe archive path `" ++ path.text ++ "`")
  let components := text.splitOn 47
  require (!(components.head? == some [46] || components.contains [46, 46]))
    ("unsafe archive path component in `" ++ path.text ++ "`")
  require (components.all fun component => !(component.isEmpty || component == [46]))
    ("empty or dot archive path component in `" ++ path.text ++ "`")
  require (fitsUstar text)
    ("path does not fit canonical ustar fields: `" ++ path.text ++ "`")

/-! ### Entries -/

structure DeliveryEntry where
  evidenceKind : EvidenceKind
  evidenceId : String
  bundleIndexPath : RelativePath
  bundleIndexSha256 : Digest
  verificationPath : RelativePath
  verificationSha256 : Digest
  resultPath : Option RelativePath
  resultSha256 : Option Digest
  reportPath : Option RelativePath
  reportSha256 : Option Digest
  designLockPath : Option RelativePath
  designLockSha256 : Option Digest
  continuationProjectionPath : Option RelativePath
  continuationProjectionSha256 : Option Digest
  sealRootSha256 : Digest
  outcome : TerminalState
  trackedBytes : Nat
  deriving DecidableEq, Repr

/-- The entry of a calibration. Its design lock and continuation projection stand in the bundle. -/
def calibrationEntry (evidenceId : String) (bundleIndexSha256 verificationSha256 : Digest)
    (designSha256 continuationSha256 : Option Digest) (sealRoot : Digest) (outcome : TerminalState)
    (trackedBytes : Nat) : DeliveryEntry where
  evidenceKind := .calibration
  evidenceId := evidenceId
  bundleIndexPath := ["bundles", "calibration", evidenceId, "bundle-index.json"]
  bundleIndexSha256 := bundleIndexSha256
  verificationPath := ["bundles", "calibration", evidenceId, "verification.json"]
  verificationSha256 := verificationSha256
  resultPath := none
  resultSha256 := none
  reportPath := none
  reportSha256 := none
  designLockPath :=
    designSha256.map fun _ => ["bundles", "calibration", evidenceId, "design-lock.json"]
  designLockSha256 := designSha256
  continuationProjectionPath :=
    continuationSha256.map fun _ =>
      ["bundles", "calibration", evidenceId, "continuation-projection.json"]
  continuationProjectionSha256 := continuationSha256
  sealRootSha256 := sealRoot
  outcome := outcome
  trackedBytes := trackedBytes

def resultRelative (runId : String) : RelativePath := ["results", "conclusion-" ++ runId ++ ".json"]

def reportRelative (runId : String) : RelativePath := ["reports", "conclusion-" ++ runId ++ ".md"]

/-- The entry of a campaign. Its result and report stand outside of the bundle. -/
def campaignEntry (runId : String) (bundleIndexSha256 verificationSha256 resultSha256 reportSha256 : Digest)
    (sealRoot : Digest) (outcome : TerminalState) (trackedBytes : Nat) : DeliveryEntry where
  evidenceKind := .campaign
  evidenceId := runId
  bundleIndexPath := ["bundles", "campaign", runId, "bundle-index.json"]
  bundleIndexSha256 := bundleIndexSha256
  verificationPath := ["bundles", "campaign", runId, "verification.json"]
  verificationSha256 := verificationSha256
  resultPath := some (resultRelative runId)
  resultSha256 := some resultSha256
  reportPath := some (reportRelative runId)
  reportSha256 := some reportSha256
  designLockPath := none
  designLockSha256 := none
  continuationProjectionPath := none
  continuationProjectionSha256 := none
  sealRootSha256 := sealRoot
  outcome := outcome
  trackedBytes := trackedBytes

/-- A product of a delivery is named by a path and a hash, or by neither. -/
def validateProduct (label message : String) : Option RelativePath → Option Digest → Except String Unit
  | some path, some hash => do
      validateRelativePath path
      validateNonPlaceholderSha256 label hash
  | none, none => .ok ()
  | _, _ => .error message

namespace DeliveryEntry

def validate (entry : DeliveryEntry) : Except String Unit := do
  validateIdentifier "delivery evidence_id" entry.evidenceId
  validateRelativePath entry.bundleIndexPath
  validateRelativePath entry.verificationPath
  validateNonPlaceholderSha256 "delivery hash" entry.bundleIndexSha256
  validateNonPlaceholderSha256 "delivery hash" entry.verificationSha256
  validateNonPlaceholderSha256 "delivery hash" entry.sealRootSha256
  validateProduct "result hash" "delivery result path/hash optionality differs" entry.resultPath
    entry.resultSha256
  validateProduct "report hash" "delivery report path/hash optionality differs" entry.reportPath
    entry.reportSha256
  validateProduct "design lock" "delivery design lock path/hash optionality differs"
    entry.designLockPath entry.designLockSha256
  validateProduct "continuation projection"
    "delivery continuation projection path/hash optionality differs"
    entry.continuationProjectionPath entry.continuationProjectionSha256
  require (entry.trackedBytes != 0) "delivery entry tracked bytes must be nonzero"

/-- Entries are ordered by their kind, and then by the bytes of the identity. -/
def key (entry : DeliveryEntry) : Nat ×ₗ List Nat :=
  toLex (kindOrder entry.evidenceKind, (utf8 entry.evidenceId).map UInt8.toNat)

end DeliveryEntry

/-! ### Ledgers -/

structure LedgerPredecessor where
  path : RelativePath
  sha256 : Digest
  deriving DecidableEq, Repr

def historyPath (sha256 : Digest) : RelativePath := ["ledger-history", sha256 ++ ".json"]

def LedgerPredecessor.validate (predecessor : LedgerPredecessor) : Except String Unit := do
  require (predecessor.path == historyPath predecessor.sha256)
    "delivery predecessor path is not canonical"
  validateRelativePath predecessor.path
  validateNonPlaceholderSha256 "delivery predecessor sha256" predecessor.sha256

def validatePredecessor : Option LedgerPredecessor → Except String Unit
  | some predecessor => predecessor.validate
  | none => .ok ()

structure DeliveryLedger where
  schema : String
  predecessor : Option LedgerPredecessor
  entries : List DeliveryEntry
  aggregateBytesExcludingLedger : Nat
  deriving DecidableEq, Repr

def deliverySchema : String := "amg-http2-perf-delivery/v1"

/-- How a ledger is written as the content of a file, and what the hash of a content is. -/
structure LedgerFormat (Content : Type) where
  canonicalBytes : DeliveryLedger → Content
  fromSliceStrict : Content → Except String DeliveryLedger
  sha256Hex : Content → Digest

namespace DeliveryLedger

def empty : DeliveryLedger where
  schema := deliverySchema
  predecessor := none
  entries := []
  aggregateBytesExcludingLedger := 0

/-- The loop over the entries: the key before, the roots so far and the bytes so far. -/
def checkEntries : Option (Nat ×ₗ List Nat) → List Digest → Nat → List DeliveryEntry → Except String Nat
  | _, _, aggregate, [] => .ok aggregate
  | previous, roots, aggregate, entry :: entries => do
      entry.validate
      require (previous.all fun value => decide (value < entry.key))
        "delivery ledger is not strictly sorted and unique"
      require (!roots.contains entry.sealRootSha256) "delivery ledger repeats a seal root"
      let aggregate ← checkedAdd aggregate entry.trackedBytes "delivery aggregate overflow"
      checkEntries (some entry.key) (entry.sealRootSha256 :: roots) aggregate entries

def validate (ledger : DeliveryLedger) : Except String Unit := do
  require (ledger.schema == deliverySchema) "unsupported delivery ledger schema"
  validatePredecessor ledger.predecessor
  require (!(ledger.entries.isEmpty && ledger.predecessor.isSome))
    "an empty genesis ledger cannot name a predecessor"
  let aggregate ← checkEntries none [] 0 ledger.entries
  require (aggregate == ledger.aggregateBytesExcludingLedger)
    "delivery aggregate differs from entry bytes"

end DeliveryLedger

section Append

variable {Content : Type} (format : LedgerFormat Content)

def ledgerPredecessor (previous : DeliveryLedger) : Option LedgerPredecessor :=
  if previous.entries.isEmpty then none
  else
    let sha256 := format.sha256Hex (format.canonicalBytes previous)
    some { path := historyPath sha256, sha256 }

def validateAdditiveSuccessor (previous next : DeliveryLedger) : Except String Unit := do
  previous.validate
  next.validate
  require (next.predecessor == ledgerPredecessor format previous)
    "delivery successor does not bind the exact parent-ledger bytes"
  require (previous.entries.all fun old => next.entries.contains old)
    "delivery successor removed or mutated prior evidence"
  require (previous.entries.length ≤ next.entries.length) "delivery successor shrank"

def aggregateBytes (entries : List DeliveryEntry) : Except String Nat :=
  entries.foldlM (fun total item => checkedAdd total item.trackedBytes "delivery aggregate overflow") 0

def appendDeliveryEntry (previous : DeliveryLedger) (entry : DeliveryEntry) :
    Except String DeliveryLedger := do
  previous.validate
  entry.validate
  require (!previous.entries.any fun existing =>
      existing.evidenceId == entry.evidenceId || existing.sealRootSha256 == entry.sealRootSha256)
    "delivery identity/root already exists; replacement is forbidden"
  let entries := (previous.entries ++ [entry]).insertionSort fun left right => left.key ≤ right.key
  let aggregate ← aggregateBytes entries
  let next : DeliveryLedger :=
    { schema := deliverySchema, predecessor := ledgerPredecessor format previous, entries,
      aggregateBytesExcludingLedger := aggregate }
  validateAdditiveSuccessor format previous next
  .ok next

end Append

end AuthMiniGateway.Benchmark

import AuthMiniGateway.Lib.FileTree
import AuthMiniGateway.Benchmark.DeliveryLedger

/-!
# The bytes of a delivery

The JSON of a bundle index and of a verification receipt is read through a parameter, which includes their own
validation.
-/

namespace AuthMiniGateway.Benchmark

def mib : Nat := 1048576
def jsonMaxBytes : Nat := 1048576
def taskCapBytes : Nat := 536870912

structure BundleIndex where
  evidenceKind : EvidenceKind
  evidenceId : String
  terminalState : TerminalState
  uncompressedSealRootSha256 : Digest
  deriving DecidableEq, Repr

structure VerificationReceipt where
  bundleIndexSha256 : Digest
  evidenceId : String
  terminalState : TerminalState
  deriving DecidableEq, Repr

/-- A calibration bundle when its entry is built. A passing calibration, and no other, has a design lock
and a continuation projection, which stand in the bundle's directory. -/
structure CalibrationBundle where
  root : RelativePath
  files : Directory
  index : BundleIndex
  receipt : VerificationReceipt
  sealRoot : Digest
  products : Option (RegularFile × RegularFile)
  products_pass : products.isSome = (index.terminalState == .pass)
  products_inside : ∀ design continuation, products = some (design, continuation) →
    files.entry? "design-lock.json" = some (.regular design) ∧
      files.entry? "continuation-projection.json" = some (.regular continuation)

def CalibrationBundle.path (bundle : CalibrationBundle) : RelativePath :=
  ["bundles", "calibration", bundle.index.evidenceId]

/-- A campaign bundle with the result and the report that were derived from it. They are not empty, and no
longer than such files may be. -/
structure CampaignBundle where
  root : RelativePath
  files : Directory
  runId : String
  receipt : VerificationReceipt
  sealRoot : Digest
  finalTerminal : TerminalState
  result : Bytes
  report : Bytes
  result_size : 0 < result.length ∧ result.length ≤ mib
  report_size : 0 < report.length ∧ report.length ≤ mib

namespace CampaignBundle

def path (bundle : CampaignBundle) : RelativePath := ["bundles", "campaign", bundle.runId]

end CampaignBundle

section Entries

variable (format : DeliveryFormat)

end Entries

/-! ### Checking the published files -/

section Check

variable (format : DeliveryFormat) (artifacts : Directory)

end Check

end AuthMiniGateway.Benchmark

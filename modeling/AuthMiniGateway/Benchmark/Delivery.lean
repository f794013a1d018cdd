import AuthMiniGateway.Benchmark.DeliveryDisk

/-!
# Delivering a sealed tree

Each step first looks whether an earlier run has done it. What a run finds out from the sealed tree and from the
bundle is in `SealedTree`.
-/

namespace AuthMiniGateway.Benchmark

variable {Content : Type}

structure DeliveryCodec (Content : Type) extends LedgerFormat Content where
  entryBytes : DeliveryEntry → Content
  recordBytes : DeliveryTransactionRecord → Content
  receiptBytes : VerificationReceipt → Content
  readIndex : Content → Except String BundleIndex
  readReceipt : Content → Except String VerificationReceipt

/-- The result and the report of a campaign, and the outcome that the analysis comes to. -/
structure CampaignAnalysis (Content : Type) where
  result : Content
  report : Content
  verdict : TerminalState
  conclusionBytes : Nat

structure SealedTree (Content : Type) where
  evidenceKind : EvidenceKind
  evidenceId : String
  sealRoot : Digest
  sealFile : Content
  terminalState : TerminalState
  /-- The source is verified, and its manifest says the same. -/
  verifySource : Except String Unit
  createBundle : Except String (Folder Content)
  verifyBundle : Folder Content → Except String VerificationReceipt
  /-- A calibration: the continuation projection and the design lock, which depend on the artifacts. -/
  deriveProducts : Artifacts Content → Folder Content → Except String (Content × Content)
  /-- A calibration: the products that are there belong to this bundle. -/
  productsFresh : Folder Content → Bool
  analyse : Folder Content → Except String (CampaignAnalysis Content)
  regularBytes : Folder Content → Except String Nat
  withinCap : Disk Content → Except String Unit
  /-- The count of the bytes of the published entries, and the verification of the bundle once more. -/
  recount : Disk Content → Except String Unit

namespace SealedTree

variable (tree : SealedTree Content)

def files (disk : Disk Content) : TransactionFiles Content :=
  disk.transactions tree.evidenceKind tree.evidenceId

def setFiles (disk : Disk Content) (change : TransactionFiles Content → TransactionFiles Content) :
    Disk Content :=
  { disk with
    transactions := Function.update disk.transactions tree.evidenceKind
      (Function.update (disk.transactions tree.evidenceKind) tree.evidenceId (change (tree.files disk))) }

def staged (disk : Disk Content) : Option (Folder Content) := disk.staging tree.evidenceId

def installed (disk : Disk Content) : Option (Folder Content) :=
  disk.artifacts.bundles tree.evidenceKind tree.evidenceId

/-- The bundle where it stands: installed, or else staged. -/
def bundle (disk : Disk Content) : Option (Folder Content) := (tree.installed disk).or (tree.staged disk)

def setStaged (folder : Option (Folder Content)) (disk : Disk Content) : Disk Content :=
  { disk with staging := Function.update disk.staging tree.evidenceId folder }

def setInstalled (folder : Option (Folder Content)) (disk : Disk Content) : Disk Content :=
  disk.setArtifacts fun artifacts =>
    { artifacts with
      bundles := Function.update artifacts.bundles tree.evidenceKind
        (Function.update (artifacts.bundles tree.evidenceKind) tree.evidenceId folder) }

def putInBundle (name : String) (content : Content) (disk : Disk Content) : Disk Content :=
  match tree.installed disk with
  | some folder => tree.setInstalled (some (Function.update folder name (some content))) disk
  | none =>
    match tree.staged disk with
    | some folder => tree.setStaged (some (Function.update folder name (some content))) disk
    | none => disk

/-! ### Scratch directories -/

def maxAttempts : Nat := 65536

def openAttempt (category : String) : Delivery Content Unit := do
  let disk ← CutOff.read
  check ((tree.files disk).attempts category < maxAttempts)
    "delivery transaction exhausted bounded attempts"
  .write fun disk => tree.setFiles disk fun files =>
    { files with attempts := Function.update files.attempts category (files.attempts category + 1) }

def closeAttempt (category : String) (disk : Disk Content) : Disk Content :=
  tree.setFiles disk fun files =>
    { files with attempts := Function.update files.attempts category (files.attempts category - 1) }

end SealedTree

/-! ### The transaction -/

section Transaction

variable [DecidableEq Content] (codec : DeliveryCodec Content) (tree : SealedTree Content)

def lastRecordSha256 (records : List DeliveryTransactionRecord) : Option Digest :=
  records.getLast?.map fun record => codec.sha256Hex (codec.recordBytes record)

/-- The records from the given sequence number on, with the hash of the record before. -/
def checkRecords : Nat → Option Digest → List DeliveryTransactionRecord → Except String Unit
  | _, _, [] => .ok ()
  | sequence, previous, record :: records => do
      require (DeliveryPhase.all[sequence]? == some record.phase)
        "delivery transaction record path is not canonical"
      record.validate
      require (record.evidenceKind == tree.evidenceKind && record.evidenceId == tree.evidenceId &&
          record.sealRootSha256 == tree.sealRoot && record.sequence == sequence &&
          record.predecessorSha256 == previous)
        "delivery transaction identity or hash chain changed"
      checkRecords (sequence + 1) (some (codec.sha256Hex (codec.recordBytes record))) records

def openTransaction : Delivery Content Unit := do
  .ofExcept (validateIdentifier "delivery transaction identity" tree.evidenceId)
  .ofExcept (validateNonPlaceholderSha256 "delivery transaction seal root" tree.sealRoot)
  let disk ← CutOff.read
  .ofExcept (checkRecords codec tree 0 none (tree.files disk).records)

def newRecord (records : List DeliveryTransactionRecord) (phase : DeliveryPhase)
    (bindings : List DeliveryBinding) : DeliveryTransactionRecord where
  schema := deliveryTransactionSchema
  evidenceKind := tree.evidenceKind
  evidenceId := tree.evidenceId
  sealRootSha256 := tree.sealRoot
  sequence := records.length
  phase := phase
  predecessorSha256 := lastRecordSha256 codec records
  bindings := bindings

def sortBindings (bindings : List DeliveryBinding) : List DeliveryBinding :=
  bindings.insertionSort fun left right => left.key ≤ right.key

def appendRecord (phase : DeliveryPhase) (bindings : List DeliveryBinding) : Delivery Content Unit := do
  let disk ← CutOff.read
  let records := (tree.files disk).records
  check (DeliveryPhase.all[records.length]? == some phase)
    "delivery transaction attempted an out-of-order phase"
  .ofExcept (newRecord codec tree records phase bindings).validate
  .write fun disk => tree.setFiles disk fun files =>
    { files with records := files.records ++ [newRecord codec tree records phase bindings] }

/-- A phase is recorded once. A phase that has been recorded has to bind the same files. -/
def record (phase : DeliveryPhase) (bindings : List DeliveryBinding) : Delivery Content Unit := do
  let disk ← CutOff.read
  match (tree.files disk).records.find? fun record => record.phase == phase with
  | some existing =>
    check (existing.bindings == sortBindings bindings)
      "completed delivery transaction phase has stale or changed bindings"
  | none => appendRecord codec tree phase (sortBindings bindings)

/-- The bindings of files that all have to be there. -/
def bindFiles : List (BoundFile × Option Content) → Except String (List DeliveryBinding)
  | [] => .ok []
  | (file, some content) :: files => do
      let bindings ← bindFiles files
      .ok (⟨file, codec.sha256Hex content⟩ :: bindings)
  | (_, none) :: _ => .error "No such file or directory (os error 2)"

/-- A phase is recorded with the files that it binds, as they are on the disk. -/
def recordFiles (phase : DeliveryPhase) (files : Disk Content → List (BoundFile × Option Content)) :
    Delivery Content Unit := do
  let disk ← CutOff.read
  let bindings ← CutOff.ofExcept (bindFiles codec (files disk))
  record codec tree phase bindings

def requireComplete : Delivery Content Unit := do
  let disk ← CutOff.read
  let records := (tree.files disk).records
  check (records.length == DeliveryPhase.all.length &&
      records.any fun record => record.phase == .outcomePublished)
    "post-seal delivery transaction is incomplete"

end Transaction

/-! ### The bundle -/

def kindLabel : EvidenceKind → String
  | .calibration => "calibration"
  | .campaign => "campaign"
  | .diagnostic => "diagnostic"

section Bundle

variable [DecidableEq Content] (codec : DeliveryCodec Content) (tree : SealedTree Content)

namespace SealedTree

def bundleFile (name : String) (disk : Disk Content) : Option Content :=
  (tree.bundle disk).bind fun folder => folder name

def installedFile (name : String) (disk : Disk Content) : Option Content :=
  (tree.installed disk).bind fun folder => folder name

def resultName : String := "conclusion-" ++ tree.evidenceId ++ ".json"

def reportName : String := "conclusion-" ++ tree.evidenceId ++ ".md"

def putResult (content : Content) (disk : Disk Content) : Disk Content :=
  disk.setArtifacts fun artifacts =>
    { artifacts with results := Function.update artifacts.results tree.resultName (some content) }

def putReport (content : Content) (disk : Disk Content) : Disk Content :=
  disk.setArtifacts fun artifacts =>
    { artifacts with reports := Function.update artifacts.reports tree.reportName (some content) }

end SealedTree

/-- The bundle is built in a scratch directory, file by file, and then renamed. -/
def createStagedBundle : Delivery Content Unit := do
  tree.openAttempt "bundle"
  match tree.createBundle with
  | .ok folder => .write fun disk => tree.setStaged (some folder) (tree.closeAttempt "bundle" disk)
  | .error message => do
      .write (tree.closeAttempt "bundle")
      .ofExcept (.error message)

def ensureBundle : Delivery Content Unit := do
  let disk ← CutOff.read
  if (tree.staged disk).isNone && (tree.installed disk).isNone then createStagedBundle tree
  else
    check (!((tree.staged disk).isSome && (tree.installed disk).isSome))
      (kindLabel tree.evidenceKind ++ " delivery has both staging and installed bundle directories")

def currentBundle : Delivery Content (Folder Content) := do
  let disk ← CutOff.read
  present (tree.bundle disk) "No such file or directory (os error 2)"

def checkIndex : Delivery Content Unit := do
  let disk ← CutOff.read
  let content ← present (tree.bundleFile "bundle-index.json" disk)
    "cannot stat bundle-index.json: No such file or directory (os error 2)"
  let index ← CutOff.ofExcept (codec.readIndex content)
  check (index.evidenceKind == tree.evidenceKind && index.evidenceId == tree.evidenceId &&
      index.uncompressedSealRootSha256 == tree.sealRoot && index.terminalState == tree.terminalState)
    (kindLabel tree.evidenceKind ++ " bundle index differs from sealed source")

def verifiedReceipt : Delivery Content VerificationReceipt := do
  tree.openAttempt "verify"
  let folder ← currentBundle tree
  let receipt ← CutOff.ofExcept (tree.verifyBundle folder)
  CutOff.write (tree.closeAttempt "verify")
  .ofExcept (.ok receipt)

def writeInBundle (name : String) (content : Content) : Delivery Content Unit :=
  writeOrRequire (tree.bundleFile name) (tree.putInBundle name) content
    ("resume file differs from exact initialized bytes: " ++ name)

/-- The phases up to the verification of the bundle, which both deliveries share. -/
def ensureVerifiedBundle : Delivery Content VerificationReceipt := do
  .ofExcept tree.verifySource
  openTransaction codec tree
  recordFiles codec tree .sourceVerified fun _ => [(.sourceSeal, some tree.sealFile)]
  ensureBundle tree
  checkIndex codec tree
  recordFiles codec tree .bundleCreated fun disk =>
    [(.bundleIndex, tree.bundleFile "bundle-index.json" disk)]
  let receipt ← verifiedReceipt tree
  writeInBundle tree "verification.json" (codec.receiptBytes receipt)
  .ofExcept (.ok receipt)

end Bundle

/-! ### Publishing -/

section Publish

variable [DecidableEq Content] (codec : DeliveryCodec Content) (tree : SealedTree Content)

def ensurePrepublishCap (next : DeliveryLedger) : Delivery Content Unit := do
  requirePending codec.toLedgerFormat next
  let disk ← CutOff.read
  .ofExcept (tree.withinCap disk)

def writePreparedEntry (entry : DeliveryEntry) : Delivery Content Unit :=
  writeOrRequire (fun disk => (tree.files disk).preparedEntry)
    (fun content disk => tree.setFiles disk fun files => { files with preparedEntry := some content })
    (codec.entryBytes entry) "resume file differs from exact initialized bytes: prepared-entry.json"

def writePreparedLedger (next : DeliveryLedger) : Delivery Content Unit :=
  writeOrRequire (fun disk => (tree.files disk).preparedLedger)
    (fun content disk => tree.setFiles disk fun files => { files with preparedLedger := some content })
    (codec.canonicalBytes next) "resume file differs from exact initialized bytes: prepared-ledger.json"

def installBundle : Delivery Content Unit := do
  let disk ← CutOff.read
  match tree.installed disk with
  | some _ => .ofExcept (.ok ())
  | none => .write fun disk => tree.setStaged none (tree.setInstalled (tree.staged disk) disk)

def Artifacts.file? (artifacts : Artifacts Content) : RelativePath → Option Content
  | ["bundles", "calibration", id, name] =>
    (artifacts.bundles .calibration id).bind fun folder => folder name
  | ["bundles", "campaign", id, name] =>
    (artifacts.bundles .campaign id).bind fun folder => folder name
  | ["results", name] => artifacts.results name
  | ["reports", name] => artifacts.reports name
  | _ => none

def readArtifact (artifacts : Artifacts Content) (path : RelativePath) : Except String Content :=
  match artifacts.file? path with
  | some content => .ok content
  | none => .error "No such file or directory (os error 2)"

def checkProduct (artifacts : Artifacts Content) : Option RelativePath → Option Digest → Except String Unit
  | some path, some expectedHash => do
      let content ← readArtifact artifacts path
      require (codec.sha256Hex content == expectedHash) "delivery result/report file hash mismatch"
  | _, _ => .ok ()

def checkPublishedEntry (artifacts : Artifacts Content) (entry : DeliveryEntry) : Except String Unit := do
  let indexContent ← readArtifact artifacts entry.bundleIndexPath
  require (codec.sha256Hex indexContent == entry.bundleIndexSha256)
    "delivery bundle-index file hash mismatch"
  let index ← codec.readIndex indexContent
  require (index.evidenceId == entry.evidenceId && index.evidenceKind == entry.evidenceKind &&
      index.terminalState == entry.outcome &&
      index.uncompressedSealRootSha256 == entry.sealRootSha256)
    "delivery entry differs from its bundle index"
  let verificationContent ← readArtifact artifacts entry.verificationPath
  require (codec.sha256Hex verificationContent == entry.verificationSha256)
    "delivery verification file hash mismatch"
  let receipt ← codec.readReceipt verificationContent
  require (receipt.bundleIndexSha256 == entry.bundleIndexSha256 &&
      receipt.evidenceId == entry.evidenceId && receipt.terminalState == entry.outcome)
    "delivery verification receipt identity mismatch"
  checkProduct codec artifacts entry.resultPath entry.resultSha256
  checkProduct codec artifacts entry.reportPath entry.reportSha256
  checkProduct codec artifacts entry.designLockPath entry.designLockSha256
  checkProduct codec artifacts entry.continuationProjectionPath entry.continuationProjectionSha256

def checkPublishedEntries (artifacts : Artifacts Content) :
    List RelativePath → List DeliveryEntry → Except String Unit
  | _, [] => .ok ()
  | directories, entry :: entries => do
      checkPublishedEntry codec artifacts entry
      require (!directories.contains entry.bundleIndexPath.dropLast)
        "delivery bundle directory escapes or is reused"
      checkPublishedEntries artifacts (entry.bundleIndexPath.dropLast :: directories) entries

def canonicalLedger (content : Content) : Except String DeliveryLedger := do
  let ledger ← codec.fromSliceStrict content
  require (decide (codec.canonicalBytes ledger = content)) "JSON is not in canonical sorted form"
  .ok ledger

def checkPublishedParent (artifacts : Artifacts Content) (ledger : DeliveryLedger) : Except String Unit :=
  match ledger.predecessor with
  | none => .ok ()
  | some expected =>
    match artifacts.history expected.sha256 with
    | none => .error "No such file or directory (os error 2)"
    | some content => do
        require (codec.sha256Hex content == expected.sha256) "parent-ledger file hash mismatch"
        let parent ← canonicalLedger codec content
        validateAdditiveSuccessor codec.toLedgerFormat parent ledger

/-- The published ledger against the published files, all but the count of their bytes. -/
def checkPublished (artifacts : Artifacts Content) : Except String DeliveryLedger :=
  match artifacts.ledger with
  | none => .error "No such file or directory (os error 2)"
  | some content => do
      let ledger ← canonicalLedger codec content
      ledger.validate
      checkPublishedParent codec artifacts ledger
      checkPublishedEntries codec artifacts [] ledger.entries
      .ok ledger

def publishedEntry (ledger : DeliveryLedger) : Except String DeliveryEntry :=
  match ledger.entries.find? fun entry =>
      entry.evidenceKind == tree.evidenceKind && entry.evidenceId == tree.evidenceId &&
        entry.sealRootSha256 == tree.sealRoot with
  | some entry => .ok entry
  | none => .error "completed delivery transaction lacks its exact ledger entry"

/-- The stored receipt is the one that verifying the bundle gives now. -/
def checkReceipt (artifacts : Artifacts Content) (entry : DeliveryEntry) (folder : Folder Content) :
    Except String Unit := do
  let receipt ← tree.verifyBundle folder
  let content ← readArtifact artifacts entry.verificationPath
  let stored ← codec.readReceipt content
  require (stored == receipt && codec.sha256Hex (codec.receiptBytes stored) == entry.verificationSha256)
    "completed delivery transaction has a stale verification receipt"

/-- The result of a campaign is the one that its analysis gives now. -/
def checkConclusion (artifacts : Artifacts Content) (entry : DeliveryEntry) (folder : Folder Content) :
    Except String Unit :=
  if tree.evidenceKind = .campaign then
    match entry.resultPath with
    | none => .error "campaign delivery lacks a result"
    | some path => do
        let analysis ← tree.analyse folder
        let content ← readArtifact artifacts path
        require (decide (analysis.result = content))
          "campaign delivery result differs from fresh source-independent analysis"
  else .ok ()

def validateLocalDelivery : Delivery Content DeliveryEntry := do
  openTransaction codec tree
  requireComplete tree
  let disk ← CutOff.read
  let ledger ← CutOff.ofExcept (checkPublished codec disk.artifacts)
  .ofExcept (tree.recount disk)
  let entry ← CutOff.ofExcept (publishedEntry tree ledger)
  tree.openAttempt "revalidate"
  let folder ← present (tree.installed disk) "No such file or directory (os error 2)"
  .ofExcept (checkReceipt codec tree disk.artifacts entry folder)
  .ofExcept (checkConclusion tree disk.artifacts entry folder)
  CutOff.write (tree.closeAttempt "revalidate")
  .ofExcept (.ok entry)

/-- The ledger with the entry in it, which is kept with the transaction before anything is installed. -/
def prepareLedger (entry : DeliveryEntry) : Delivery Content DeliveryLedger := do
  .ofExcept entry.validate
  let previous ← readLedger codec.toLedgerFormat
  let next ← CutOff.ofExcept (nextLedger codec.toLedgerFormat previous entry)
  ensurePrepublishCap codec tree next
  writePreparedEntry codec tree entry
  writePreparedLedger codec tree next
  recordFiles codec tree .prepublishCap fun disk =>
    [(.preparedEntry, (tree.files disk).preparedEntry), (.preparedLedger, (tree.files disk).preparedLedger)]
  .ofExcept (.ok next)

def installDelivery (next : DeliveryLedger) (installConclusion : Delivery Content Unit)
    (conclusionFiles : Disk Content → List (BoundFile × Option Content)) : Delivery Content Unit := do
  installBundle tree
  recordFiles codec tree .bundleInstalled fun disk =>
    [(.installedBundleIndex, tree.installedFile "bundle-index.json" disk)]
  installConclusion
  recordFiles codec tree .conclusionInstalled conclusionFiles
  ensurePrepublishCap codec tree next
  recordFiles codec tree .finalCap fun disk => [(.preparedLedger, (tree.files disk).preparedLedger)]

def publish (entry : DeliveryEntry) (installConclusion : Delivery Content Unit)
    (conclusionFiles : Disk Content → List (BoundFile × Option Content)) :
    Delivery Content DeliveryEntry := do
  let next ← prepareLedger codec tree entry
  installDelivery codec tree next installConclusion conclusionFiles
  writeLedger codec.toLedgerFormat next
  recordFiles codec tree .ledgerPublished fun disk => [(.installedDeliveryIndex, disk.artifacts.ledger)]
  recordFiles codec tree .outcomePublished fun disk => [(.installedDeliveryIndex, disk.artifacts.ledger)]
  validateLocalDelivery codec tree

end Publish

/-! ### Calibrations -/

section Calibration

variable [DecidableEq Content] (codec : DeliveryCodec Content) (tree : SealedTree Content)

def createCalibrationProducts (folder : Folder Content) : Delivery Content (Option Digest × Option Digest) := do
  let disk ← CutOff.read
  let products ← CutOff.ofExcept (tree.deriveProducts disk.artifacts folder)
  writeInBundle tree "continuation-projection.json" products.1
  writeInBundle tree "design-lock.json" products.2
  .ofExcept (.ok (some (codec.sha256Hex products.2), some (codec.sha256Hex products.1)))

def ensureCalibrationDerivedProducts : Delivery Content (Option Digest × Option Digest) := do
  let folder ← currentBundle tree
  if tree.terminalState ≠ .pass then do
    check ((folder "design-lock.json").isNone && (folder "continuation-projection.json").isNone)
      "blocked calibration unexpectedly has continuation products"
    .ofExcept (.ok (none, none))
  else
    match folder "design-lock.json", folder "continuation-projection.json" with
    | some design, some continuation => do
        check (tree.productsFresh folder) "existing calibration derived products are stale or changed"
        .ofExcept (.ok (some (codec.sha256Hex design), some (codec.sha256Hex continuation)))
    | none, none => createCalibrationProducts codec tree folder
    | _, _ => .ofExcept (.error "calibration derived products are only partially present")

def calibrationVerifiedFiles (disk : Disk Content) : List (BoundFile × Option Content) :=
  [(.bundleIndex, tree.bundleFile "bundle-index.json" disk),
    (.bundleVerification, tree.bundleFile "verification.json" disk)] ++
  match tree.bundleFile "compression-profile.json" disk with
  | some profile => [(.bundleCompressionProfile, some profile)]
  | none => []

def calibrationProductFiles (disk : Disk Content) : List (BoundFile × Option Content) :=
  if tree.terminalState = .pass then
    [(.bundleDesignLock, tree.bundleFile "design-lock.json" disk),
      (.bundleContinuationProjection, tree.bundleFile "continuation-projection.json" disk)]
  else []

def buildCalibrationEntry (receipt : VerificationReceipt) (design continuation : Option Digest) :
    Delivery Content DeliveryEntry := do
  let folder ← currentBundle tree
  let verification ← present (folder "verification.json") "No such file or directory (os error 2)"
  let trackedBytes ← CutOff.ofExcept (tree.regularBytes folder)
  .ofExcept (.ok (calibrationEntry tree.evidenceId receipt.bundleIndexSha256
    (codec.sha256Hex verification) design continuation tree.sealRoot tree.terminalState trackedBytes))

def deliverSealedCalibration : Delivery Content DeliveryEntry := do
  check (tree.evidenceKind == .calibration) "sealed calibration delivery identity changed"
  let receipt ← ensureVerifiedBundle codec tree
  recordFiles codec tree .bundleVerified (calibrationVerifiedFiles tree)
  let products ← ensureCalibrationDerivedProducts codec tree
  recordFiles codec tree .derivedProducts (calibrationProductFiles tree)
  let entry ← buildCalibrationEntry codec tree receipt products.1 products.2
  publish codec tree entry (.ofExcept (.ok ())) fun disk =>
    [(.installedVerification, tree.installedFile "verification.json" disk)]

end Calibration

/-! ### Campaigns -/

section Campaign

variable [DecidableEq Content] (codec : DeliveryCodec Content) (tree : SealedTree Content)

def writeDerivedResult (content : Content) : Delivery Content Unit :=
  writeOrRequire (fun disk => (tree.files disk).derivedResult)
    (fun content disk => tree.setFiles disk fun files => { files with derivedResult := some content })
    content "campaign resume file differs: derived/result.json"

def writeDerivedReport (content : Content) : Delivery Content Unit :=
  writeOrRequire (fun disk => (tree.files disk).derivedReport)
    (fun content disk => tree.setFiles disk fun files => { files with derivedReport := some content })
    content "campaign resume file differs: derived/report.md"

def writeResult (content : Content) : Delivery Content Unit :=
  writeOrRequire (fun disk => disk.artifacts.results tree.resultName) tree.putResult content
    "campaign resume file differs: results"

def writeReport (content : Content) : Delivery Content Unit :=
  writeOrRequire (fun disk => disk.artifacts.reports tree.reportName) tree.putReport content
    "campaign resume file differs: reports"

def ensureAnalysis : Delivery Content (CampaignAnalysis Content) := do
  let disk ← CutOff.read
  .ofExcept (tree.withinCap disk)
  tree.openAttempt "analysis"
  let folder ← currentBundle tree
  let analysis ← CutOff.ofExcept (tree.analyse folder)
  writeDerivedResult tree analysis.result
  writeDerivedReport tree analysis.report
  .ofExcept (.ok analysis)

def buildCampaignEntry (receipt : VerificationReceipt) (analysis : CampaignAnalysis Content) :
    Delivery Content DeliveryEntry := do
  let folder ← currentBundle tree
  let bundleBytes ← CutOff.ofExcept (tree.regularBytes folder)
  let trackedBytes ← CutOff.ofExcept
    (checkedAdd bundleBytes analysis.conclusionBytes "campaign tracked-byte total overflow")
  let verification ← present (folder "verification.json") "No such file or directory (os error 2)"
  .ofExcept (.ok (campaignEntry tree.evidenceId receipt.bundleIndexSha256
    (codec.sha256Hex verification) (codec.sha256Hex analysis.result) (codec.sha256Hex analysis.report)
    tree.sealRoot analysis.verdict trackedBytes))

def installConclusion (analysis : CampaignAnalysis Content) : Delivery Content Unit := do
  writeResult tree analysis.result
  writeReport tree analysis.report

def deliverSealedCampaign : Delivery Content DeliveryEntry := do
  check (tree.evidenceKind == .campaign) "sealed campaign delivery identity changed"
  let receipt ← ensureVerifiedBundle codec tree
  recordFiles codec tree .bundleVerified fun disk =>
    [(.bundleIndex, tree.bundleFile "bundle-index.json" disk),
      (.bundleVerification, tree.bundleFile "verification.json" disk)]
  let analysis ← ensureAnalysis tree
  recordFiles codec tree .derivedProducts fun disk =>
    [(.derivedResult, (tree.files disk).derivedResult), (.derivedReport, (tree.files disk).derivedReport)]
  let entry ← buildCampaignEntry codec tree receipt analysis
  publish codec tree entry (installConclusion tree analysis) fun disk =>
    [(.installedResult, disk.artifacts.results tree.resultName),
      (.installedReport, disk.artifacts.reports tree.reportName)]

def deliver : Delivery Content DeliveryEntry :=
  match tree.evidenceKind with
  | .calibration => deliverSealedCalibration codec tree
  | .campaign => deliverSealedCampaign codec tree
  | .diagnostic => .ofExcept (.error "diagnostic evidence is not delivered")

end Campaign

end AuthMiniGateway.Benchmark

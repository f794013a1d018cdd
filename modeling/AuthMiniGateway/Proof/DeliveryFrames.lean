import AuthMiniGateway.Benchmark.Delivery

namespace AuthMiniGateway.Benchmark

variable {Content τ : Type}

structure Blind (tree : SealedTree Content) (view : Disk Content → τ) : Prop where
  files : ∀ disk change, view (tree.setFiles disk change) = view disk
  staged : ∀ disk folder, view (tree.setStaged folder disk) = view disk
  installed : ∀ disk folder, view (tree.setInstalled folder disk) = view disk
  result : ∀ disk content, view (tree.putResult content disk) = view disk
  report : ∀ disk content, view (tree.putReport content disk) = view disk

variable {codec : DeliveryCodec Content} {tree : SealedTree Content} {view : Disk Content → τ}

theorem ensures_writeOrRequire [DecidableEq Content] {inv : Disk Content → Prop}
    {done : Unit → Disk Content → Prop} {failed : String → Disk Content → Prop} {disk : Disk Content}
    {found : Disk Content → Option Content} {put : Content → Disk Content → Disk Content}
    {expected : Content} {message : String} (hinv : inv disk)
    (hthere : found disk = some expected → done () disk)
    (hput : found disk = none → done () (put expected disk))
    (hother : ∀ content, found disk = some content → content ≠ expected → failed message disk) :
    (writeOrRequire found put expected message).Ensures inv done failed disk := by
  unfold writeOrRequire CutOff.Ensures
  cases hfound : found disk with
  | none => simp [hfound, CutOff.write, hinv, hput hfound]
  | some content =>
    by_cases hsame : content = expected
    · subst hsame
      simp [hfound, check, CutOff.ofExcept, require, hthere hfound]
    · simp [hfound, check, CutOff.ofExcept, require, hsame, hother content hfound hsame]

theorem preserves_writeOrRequire [DecidableEq Content] {found : Disk Content → Option Content}
    {put : Content → Disk Content → Disk Content} (expected : Content) (message : String)
    (h : ∀ disk content, view (put content disk) = view disk) :
    (writeOrRequire found put expected message).Preserves view :=
  fun disk => ensures_writeOrRequire rfl (fun _ => rfl) (fun _ => h disk expected) fun _ _ _ => rfl

namespace Blind

variable (h : Blind tree view)
include h

theorem putInBundle (name : String) (content : Content) (disk : Disk Content) :
    view (tree.putInBundle name content disk) = view disk := by
  unfold SealedTree.putInBundle
  split
  · exact h.installed _ _
  · split
    · exact h.staged _ _
    · rfl

/-! ### Scratch directories and the transaction -/

theorem openAttempt (category : String) : (tree.openAttempt category).Preserves view :=
  CutOff.preserves_read.bind fun _ => (CutOff.preserves_ofExcept _).bind fun _ =>
    CutOff.preserves_write fun disk => h.files disk _

theorem closeAttempt (category : String) :
    (CutOff.write (tree.closeAttempt category) : Delivery Content Unit).Preserves view :=
  CutOff.preserves_write fun disk => h.files disk _

omit h in
theorem openTransaction : (openTransaction codec tree).Preserves view :=
  (CutOff.preserves_ofExcept _).bind fun _ => (CutOff.preserves_ofExcept _).bind fun _ =>
    CutOff.preserves_read.bind fun _ => CutOff.preserves_ofExcept _

theorem appendRecord (phase : DeliveryPhase) (bindings : List DeliveryBinding) :
    (appendRecord codec tree phase bindings).Preserves view :=
  CutOff.preserves_read.bind fun _ => (CutOff.preserves_ofExcept _).bind fun _ =>
    (CutOff.preserves_ofExcept _).bind fun _ => CutOff.preserves_write fun disk => h.files disk _

theorem record (phase : DeliveryPhase) (bindings : List DeliveryBinding) :
    (record codec tree phase bindings).Preserves view := by
  refine CutOff.preserves_read.bind fun disk => ?_
  split
  · exact CutOff.preserves_ofExcept _
  · exact h.appendRecord phase _

theorem recordFiles (phase : DeliveryPhase) (files : Disk Content → List (BoundFile × Option Content)) :
    (recordFiles codec tree phase files).Preserves view :=
  CutOff.preserves_read.bind fun _ => (CutOff.preserves_ofExcept _).bind fun _ => h.record phase _

/-! ### The bundle -/

theorem createStagedBundle : (createStagedBundle tree).Preserves view := by
  refine (h.openAttempt "bundle").bind fun _ => ?_
  cases tree.createBundle with
  | ok =>
    exact CutOff.preserves_write fun disk => (h.staged _ _).trans (h.files disk _)
  | error => exact (h.closeAttempt "bundle").bind fun _ => CutOff.preserves_ofExcept _

theorem ensureBundle : (ensureBundle tree).Preserves view := by
  refine CutOff.preserves_read.bind fun disk => ?_
  split
  · exact h.createStagedBundle
  · exact CutOff.preserves_ofExcept _

omit h in
theorem currentBundle : (currentBundle tree).Preserves view :=
  CutOff.preserves_read.bind fun _ => CutOff.preserves_ofExcept _

omit h in
theorem checkIndex : (checkIndex codec tree).Preserves view :=
  CutOff.preserves_read.bind fun _ => (CutOff.preserves_ofExcept _).bind fun _ =>
    (CutOff.preserves_ofExcept _).bind fun _ => CutOff.preserves_ofExcept _

theorem verifiedReceipt : (verifiedReceipt tree).Preserves view :=
  (h.openAttempt "verify").bind fun _ => currentBundle.bind fun _ =>
    (CutOff.preserves_ofExcept _).bind fun _ => (h.closeAttempt "verify").bind fun _ =>
      CutOff.preserves_ofExcept _

theorem installBundle : (installBundle tree).Preserves view := by
  refine CutOff.preserves_read.bind fun disk => ?_
  split
  · exact CutOff.preserves_ofExcept _
  · exact CutOff.preserves_write fun disk => (h.staged _ _).trans (h.installed _ _)

omit h in
theorem buildCalibrationEntry (receipt : VerificationReceipt) (design continuation : Option Digest) :
    (buildCalibrationEntry codec tree receipt design continuation).Preserves view :=
  currentBundle.bind fun _ => (CutOff.preserves_ofExcept _).bind fun _ =>
    (CutOff.preserves_ofExcept _).bind fun _ => CutOff.preserves_ofExcept _

omit h in
theorem buildCampaignEntry (receipt : VerificationReceipt) (analysis : CampaignAnalysis Content) :
    (buildCampaignEntry codec tree receipt analysis).Preserves view :=
  currentBundle.bind fun _ => (CutOff.preserves_ofExcept _).bind fun _ =>
    (CutOff.preserves_ofExcept _).bind fun _ => (CutOff.preserves_ofExcept _).bind fun _ =>
      CutOff.preserves_ofExcept _

section Deliveries

variable [DecidableEq Content]

theorem writeInBundle (name : String) (content : Content) :
    (writeInBundle tree name content).Preserves view :=
  preserves_writeOrRequire content _ fun disk content => h.putInBundle name content disk

theorem ensureVerifiedBundle : (ensureVerifiedBundle codec tree).Preserves view :=
  (CutOff.preserves_ofExcept _).bind fun _ => openTransaction.bind fun _ =>
    (h.recordFiles _ _).bind fun _ => h.ensureBundle.bind fun _ => checkIndex.bind fun _ =>
      (h.recordFiles _ _).bind fun _ => h.verifiedReceipt.bind fun _ =>
        (h.writeInBundle _ _).bind fun _ => CutOff.preserves_ofExcept _

/-! ### Publishing, but for the ledger -/

omit h in
theorem ensurePrepublishCap (next : DeliveryLedger) : (ensurePrepublishCap codec tree next).Preserves view :=
  (CutOff.preserves_read.bind fun _ => CutOff.preserves_ofExcept _).bind fun _ =>
    CutOff.preserves_read.bind fun _ => CutOff.preserves_ofExcept _

theorem installDelivery (next : DeliveryLedger) {installConclusion : Delivery Content Unit}
    (hconclusion : installConclusion.Preserves view)
    (files : Disk Content → List (BoundFile × Option Content)) :
    (installDelivery codec tree next installConclusion files).Preserves view :=
  h.installBundle.bind fun _ => (h.recordFiles _ _).bind fun _ => hconclusion.bind fun _ =>
    (h.recordFiles _ _).bind fun _ => (ensurePrepublishCap next).bind fun _ => h.recordFiles _ _

theorem validateLocalDelivery : (validateLocalDelivery codec tree).Preserves view :=
  openTransaction.bind fun _ =>
    (CutOff.preserves_read.bind fun _ => CutOff.preserves_ofExcept _).bind fun _ =>
      CutOff.preserves_read.bind fun _ => (CutOff.preserves_ofExcept _).bind fun _ =>
        (CutOff.preserves_ofExcept _).bind fun _ => (CutOff.preserves_ofExcept _).bind fun _ =>
          (h.openAttempt _).bind fun _ => (CutOff.preserves_ofExcept _).bind fun _ =>
            (CutOff.preserves_ofExcept _).bind fun _ => (CutOff.preserves_ofExcept _).bind fun _ =>
              (h.closeAttempt _).bind fun _ => CutOff.preserves_ofExcept _

/-! ### Calibrations and campaigns -/

theorem ensureCalibrationDerivedProducts : (ensureCalibrationDerivedProducts codec tree).Preserves view := by
  refine currentBundle.bind fun folder => ?_
  split
  · exact (CutOff.preserves_ofExcept _).bind fun _ => CutOff.preserves_ofExcept _
  · split
    · exact (CutOff.preserves_ofExcept _).bind fun _ => CutOff.preserves_ofExcept _
    · exact CutOff.preserves_read.bind fun _ => (CutOff.preserves_ofExcept _).bind fun _ =>
        (h.writeInBundle _ _).bind fun _ => (h.writeInBundle _ _).bind fun _ => CutOff.preserves_ofExcept _
    · exact CutOff.preserves_ofExcept _

theorem ensureAnalysis : (ensureAnalysis tree).Preserves view :=
  CutOff.preserves_read.bind fun _ => (CutOff.preserves_ofExcept _).bind fun _ =>
    (h.openAttempt _).bind fun _ => currentBundle.bind fun _ => (CutOff.preserves_ofExcept _).bind fun _ =>
      (preserves_writeOrRequire _ _ fun disk _ => h.files disk _).bind fun _ =>
        (preserves_writeOrRequire _ _ fun disk _ => h.files disk _).bind fun _ =>
          CutOff.preserves_ofExcept _

theorem installConclusion (analysis : CampaignAnalysis Content) :
    (installConclusion tree analysis).Preserves view :=
  (preserves_writeOrRequire _ _ h.result).bind fun _ => preserves_writeOrRequire _ _ h.report

end Deliveries

end Blind

end AuthMiniGateway.Benchmark

import AuthMiniGateway.Lib.Fallible
import AuthMiniGateway.Proof.DeliveryFrames

namespace AuthMiniGateway.Benchmark

open Fallible

variable {Content : Type}

/-! ### Ledgers -/

theorem checkEntries_sorted {previous : Option (Nat ×ₗ List Nat)} {roots : List Digest}
    {start count : Nat} {entries : List DeliveryEntry}
    (h : DeliveryLedger.checkEntries previous roots start entries = .ok count) :
    (∀ key ∈ previous, ∀ entry ∈ entries, key < entry.key) ∧
      entries.Pairwise fun left right => left.key < right.key := by
  induction entries generalizing previous roots start with
  | nil => simp
  | cons entry _ ih =>
    simp only [DeliveryLedger.checkEntries, bind_eq_ok_iff, require_eq_ok_iff] at h
    obtain ⟨_, _, _, hkey, _, _, middle, _, hrest⟩ := h
    obtain ⟨hafter, hsorted⟩ := ih hrest
    have hless : ∀ key ∈ previous, key < entry.key := by
      intro key hmem
      rw [Option.mem_def] at hmem
      simpa [hmem] using hkey
    constructor
    · intro key hmem other hother
      rcases List.mem_cons.mp hother with rfl | hother
      · exact hless key hmem
      · exact (hless key hmem).trans (hafter entry.key rfl other hother)
    · exact List.pairwise_cons.mpr ⟨fun other hother => hafter entry.key rfl other hother, hsorted⟩

theorem DeliveryLedger.sorted_of_validate {ledger : DeliveryLedger} (h : ledger.validate = .ok ()) :
    ledger.entries.Pairwise fun left right => left.key < right.key := by
  simp only [DeliveryLedger.validate, bind_eq_ok_iff] at h
  obtain ⟨_, _, _, _, _, _, aggregate, hentries, _⟩ := h
  exact (checkEntries_sorted hentries).2

theorem DeliveryLedger.entries_eq {first second : DeliveryLedger} (hfirst : first.validate = .ok ())
    (hsecond : second.validate = .ok ()) (h : ∀ entry, entry ∈ first.entries ↔ entry ∈ second.entries) :
    first.entries = second.entries := by
  have hasymm : Std.Antisymm fun left right : DeliveryEntry => left.key < right.key :=
    ⟨fun _ _ hless hless' => absurd hless' hless.asymm⟩
  have hirrefl : Std.Irrefl fun left right : DeliveryEntry => left.key < right.key :=
    ⟨fun _ hless => lt_irrefl _ hless⟩
  exact (sorted_of_validate hfirst).eq_of_mem_iff (sorted_of_validate hsecond) h

variable {format : LedgerFormat Content} {previous next : DeliveryLedger} {entry : DeliveryEntry}

/-- A valid ledger that keeps the entries of the one before and names it. -/
structure Extends (format : LedgerFormat Content) (previous next : DeliveryLedger) : Prop where
  valid : next.validate = .ok ()
  predecessor : next.predecessor = ledgerPredecessor format previous
  keeps : ∀ old ∈ previous.entries, old ∈ next.entries
  nonempty : next.entries ≠ []

theorem appendDeliveryEntry_extends (h : appendDeliveryEntry format previous entry = .ok next) :
    Extends format previous next := by
  simp only [appendDeliveryEntry, validateAdditiveSuccessor, bind_eq_ok_iff, require_eq_ok_iff,
    List.all_eq_true, List.contains_iff_mem] at h
  obtain ⟨_, _, _, _, _, _, aggregate, _, _, ⟨_, _, _, hvalid, _, _, _, hkeeps, _⟩, hnext⟩ := h
  cases hnext
  refine ⟨hvalid, rfl, hkeeps, List.ne_nil_of_mem (a := entry) ?_⟩
  exact (List.perm_insertionSort _ _).mem_iff.mpr (List.mem_append_right _ List.mem_cons_self)

theorem nextLedger_eq_ok (h : nextLedger format previous entry = .ok next) :
    next = previous ∨ Extends format previous next := by
  unfold nextLedger at h
  split at h
  · simp only [bind_eq_ok_iff] at h
    obtain ⟨_, _, hnext⟩ := h
    cases hnext
    exact Or.inl rfl
  · exact Or.inr (appendDeliveryEntry_extends h)

/-! ### The log of the published ledgers -/

/-- The contents of the ledger file, the latest one first: each ledger extends the one before, which is in
the history under its hash. -/
inductive PublishedLog (format : LedgerFormat Content) (history : Digest → Option Content) :
    List Content → Prop where
  | none : PublishedLog format history []
  | first {ledger : DeliveryLedger} (hextends : Extends format .empty ledger) :
      PublishedLog format history [format.canonicalBytes ledger]
  | next {earlier ledger : DeliveryLedger} {log : List Content} (hextends : Extends format earlier ledger)
      (hnonempty : earlier.entries ≠ [])
      (hhistory : history (format.sha256Hex (format.canonicalBytes earlier)) =
        some (format.canonicalBytes earlier))
      (hlog : PublishedLog format history (format.canonicalBytes earlier :: log)) :
      PublishedLog format history (format.canonicalBytes ledger :: format.canonicalBytes earlier :: log)

variable {history : Digest → Option Content} {log : List Content}

theorem PublishedLog.mono {history' : Digest → Option Content} (h : PublishedLog format history log)
    (hmono : ∀ sha256 content, history sha256 = some content → history' sha256 = some content) :
    PublishedLog format history' log := by
  induction h with
  | none => exact .none
  | first hextends => exact .first hextends
  | next hextends hnonempty hhistory _ ih => exact .next hextends hnonempty (hmono _ _ hhistory) ih

theorem PublishedLog.head_eq {content : Content}
    (h : PublishedLog format history (content :: log)) :
    ∃ ledger, content = format.canonicalBytes ledger ∧ ledger.validate = .ok () ∧ ledger.entries ≠ [] := by
  cases h with
  | first hextends | next hextends _ _ _ => exact ⟨_, rfl, hextends.valid, hextends.nonempty⟩

/-- The ledgers that have been published are such a log, and the ledger file shows the latest of them. -/
structure Logged (format : LedgerFormat Content) (disk : Disk Content) : Prop where
  published : PublishedLog format disk.artifacts.history disk.artifacts.published
  current : disk.artifacts.ledger = disk.artifacts.published.head?

/-- A ledger that can be published after the log: the last one again, or one that extends it. -/
inductive Follows (format : LedgerFormat Content) : List Content → DeliveryLedger → Prop where
  | same {log : List Content} {next : DeliveryLedger}
      (hsame : log.head? = some (format.canonicalBytes next)) : Follows format log next
  | first {next : DeliveryLedger} (hextends : Extends format .empty next) : Follows format [] next
  | later {earlier next : DeliveryLedger} {log : List Content} (hextends : Extends format earlier next)
      (hnonempty : earlier.entries ≠ []) : Follows format (format.canonicalBytes earlier :: log) next

section Write

variable [DecidableEq Content] {disk : Disk Content}

theorem replaceLedger_stays {earlier : DeliveryLedger} {log : List Content}
    (hlogged : Logged format disk)
    (hlog : disk.artifacts.published = format.canonicalBytes earlier :: log)
    (hextends : Extends format earlier next) (hnonempty : earlier.entries ≠ []) :
    (replaceLedger format next (format.canonicalBytes earlier)).Stays (Logged format) disk := by
  -- the history has the old ledger, and the ledger itself has not changed
  let Kept (disk : Disk Content) : Prop := Logged format disk ∧
    disk.artifacts.published = format.canonicalBytes earlier :: log ∧
    disk.artifacts.history (format.sha256Hex (format.canonicalBytes earlier)) =
      some (format.canonicalBytes earlier)
  unfold replaceLedger
  refine CutOff.Ensures.bind (fun _ => Kept) ?_ ?_
  · refine ensures_writeOrRequire hlogged (fun h => ⟨hlogged, hlog, h⟩) ?_ fun _ _ _ => hlogged
    intro hmissing
    refine ⟨⟨hlogged.published.mono ?_, hlogged.current⟩, hlog, Function.update_self _ _ _⟩
    intro sha256 content hfound
    have hne : sha256 ≠ format.sha256Hex (format.canonicalBytes earlier) := by
      rintro rfl
      rw [hmissing] at hfound
      cases hfound
    exact (Function.update_of_ne hne _ _).trans hfound
  · intro _ disk hdisk
    refine CutOff.Ensures.bind (fun _ => Kept) ?_ ?_
    · exact CutOff.ensures_ofExcept.mpr ⟨fun _ _ => hdisk, fun _ _ => hdisk.1⟩
    · intro _ disk hdisk
      refine CutOff.Ensures.bind
        (fun _ disk => Kept disk ∧ disk.artifacts.pendingLedger = some (format.canonicalBytes next)) ?_ ?_
      · refine ensures_writeOrRequire hdisk.1 (fun h => ⟨hdisk, h⟩) ?_ fun _ _ _ => hdisk.1
        exact fun _ => ⟨⟨⟨hdisk.1.published, hdisk.1.current⟩, hdisk.2⟩, rfl⟩
      · rintro _ disk ⟨⟨hdisk, hlog, hhistory⟩, hpending⟩
        have hpublished : (renamePendingLedger disk).artifacts.published =
            format.canonicalBytes next :: format.canonicalBytes earlier :: log := by
          simp [renamePendingLedger, Disk.setArtifacts, hpending, hlog]
        refine CutOff.ensures_write.mpr ⟨hdisk, ?_, ?_⟩
        · rw [hpublished]
          exact .next hextends hnonempty hhistory (hlog ▸ hdisk.published)
        · rw [hpublished]
          exact hpending

theorem writeLedger_stays (hlogged : Logged format disk)
    (hfollows : Follows format disk.artifacts.published next) :
    (writeLedger format next).Stays (Logged format) disk := by
  unfold writeLedger
  refine CutOff.ensures_bind.mpr (CutOff.ensures_ofExcept.mpr ⟨fun _ _ => ?_, fun _ _ => hlogged⟩)
  refine CutOff.ensures_bind.mpr (CutOff.ensures_read.mpr ?_)
  have hcurrent := hlogged.current
  generalize hlog : disk.artifacts.published = log at hfollows hcurrent
  cases hledger : disk.artifacts.ledger with
  | none =>
    rw [hledger, eq_comm, List.head?_eq_none_iff] at hcurrent
    subst hcurrent
    have hpublished : (putLedger (format.canonicalBytes next) disk).artifacts.published =
        [format.canonicalBytes next] := by
      simp [putLedger, Disk.setArtifacts, hlog]
    refine CutOff.ensures_write.mpr ⟨hlogged, ?_, ?_⟩
    · rw [hpublished]
      cases hfollows with
      | same hsame => cases hsame
      | first hextends => exact .first hextends
    · rw [hpublished]
      rfl
  | some content =>
    rw [hledger] at hcurrent
    dsimp only
    by_cases hsame : content = format.canonicalBytes next
    · rw [if_pos hsame]
      exact CutOff.ensures_ok.mpr hlogged
    · rw [if_neg hsame]
      cases hfollows with
      | same hother =>
        rw [← hcurrent, Option.some.injEq] at hother
        exact absurd hother hsame
      | first => cases hcurrent
      | later hextends hnonempty =>
        cases hcurrent
        exact replaceLedger_stays hlogged hlog hextends hnonempty

end Write

/-! ### A delivery -/

/-- The JSON of a ledger is read back as the ledger. -/
def LedgerFormat.RoundTrip (format : LedgerFormat Content) : Prop :=
  ∀ ledger, format.fromSliceStrict (format.canonicalBytes ledger) = .ok ledger

theorem LedgerFormat.RoundTrip.injective (hround : format.RoundTrip) :
    Function.Injective format.canonicalBytes := by
  intro first second h
  have hread : Except.ok first = Except.ok (ε := String) second := by
    rw [← hround first, h, hround second]
  exact Except.ok.inj hread

def ledgerFiles (disk : Disk Content) :
    Option Content × Option Content × (Digest → Option Content) × List Content :=
  (disk.artifacts.ledger, disk.artifacts.pendingLedger, disk.artifacts.history, disk.artifacts.published)

theorem blind_ledgerFiles (tree : SealedTree Content) : Blind tree ledgerFiles :=
  ⟨fun _ _ => rfl, fun _ _ => rfl, fun _ _ => rfl, fun _ _ => rfl, fun _ _ => rfl⟩

theorem Logged.congr (first second : Disk Content) (h : ledgerFiles second = ledgerFiles first)
    (hlogged : Logged format first) : Logged format second := by
  simp only [ledgerFiles, Prod.mk.injEq] at h
  obtain ⟨hledger, _, hhistory, hpublished⟩ := h
  refine ⟨?_, ?_⟩
  · rw [hhistory, hpublished]
    exact hlogged.published
  · rw [hledger, hpublished]
    exact hlogged.current

inductive LatestLedger (format : LedgerFormat Content) : List Content → DeliveryLedger → Prop where
  | none : LatestLedger format [] .empty
  | some {ledger : DeliveryLedger} {log : List Content} :
      LatestLedger format (format.canonicalBytes ledger :: log) ledger

theorem LatestLedger.follows (hround : format.RoundTrip)
    (hlatest : LatestLedger format log previous) (hlog : PublishedLog format history log)
    (hnext : nextLedger format previous entry = .ok next) : Follows format log next := by
  cases hlatest with
  | none => exact .first (appendDeliveryEntry_extends hnext)
  | some =>
    rcases nextLedger_eq_ok hnext with rfl | hextends
    · exact .same rfl
    · obtain ⟨ledger, hledger, _, hnonempty⟩ := hlog.head_eq
      rw [hround.injective hledger] at hextends ⊢
      exact .later hextends hnonempty

theorem readLedger_ensures {disk : Disk Content} (hround : format.RoundTrip)
    (hlogged : Logged format disk) :
    (readLedger format).Ensures (Logged format)
      (fun previous disk => Logged format disk ∧ LatestLedger format disk.artifacts.published previous)
      (fun _ => Logged format) disk := by
  unfold readLedger
  refine CutOff.ensures_bind.mpr (CutOff.ensures_read.mpr ?_)
  have hcurrent := hlogged.current
  cases hledger : disk.artifacts.ledger with
  | none =>
    rw [hledger, eq_comm, List.head?_eq_none_iff] at hcurrent
    refine CutOff.ensures_ok.mpr ⟨hlogged, ?_⟩
    rw [hcurrent]
    exact .none
  | some =>
    rw [hledger, eq_comm] at hcurrent
    obtain ⟨rest, hlog⟩ := List.head?_eq_some_iff.mp hcurrent
    have hpublished := hlogged.published
    rw [hlog] at hpublished
    obtain ⟨ledger, rfl, _⟩ := hpublished.head_eq
    dsimp only
    rw [hround ledger]
    refine CutOff.ensures_ok.mpr ⟨hlogged, ?_⟩
    rw [hlog]
    exact .some

section Deliver

variable [DecidableEq Content] {codec : DeliveryCodec Content} {tree : SealedTree Content}
  {disk : Disk Content}

theorem prepareLedger_ensures (hround : codec.RoundTrip) (hlogged : Logged codec.toLedgerFormat disk) :
    (prepareLedger codec tree entry).Ensures (Logged codec.toLedgerFormat)
      (fun next disk => Logged codec.toLedgerFormat disk ∧
        Follows codec.toLedgerFormat disk.artifacts.published next)
      (fun _ => Logged codec.toLedgerFormat) disk := by
  have hblind := blind_ledgerFiles tree
  unfold prepareLedger
  refine CutOff.ensures_bind.mpr (CutOff.ensures_ofExcept.mpr ⟨fun _ _ => ?_, fun _ _ => hlogged⟩)
  refine CutOff.Ensures.bind _ (readLedger_ensures hround hlogged) ?_
  rintro previous disk ⟨hlogged, hlatest⟩
  refine CutOff.ensures_bind.mpr (CutOff.ensures_ofExcept.mpr ⟨?_, fun _ _ => hlogged⟩)
  intro next hnext
  have hknown : Logged codec.toLedgerFormat disk ∧
      Follows codec.toLedgerFormat disk.artifacts.published next :=
    ⟨hlogged, hlatest.follows hround hlogged.published hnext⟩
  -- what follows leaves the ledger files alone
  have hcongr : ∀ first second : Disk Content, ledgerFiles second = ledgerFiles first →
      (Logged codec.toLedgerFormat first ∧ Follows codec.toLedgerFormat first.artifacts.published next) →
      Logged codec.toLedgerFormat second ∧
        Follows codec.toLedgerFormat second.artifacts.published next := by
    intro first second h hfirst
    have hpublished : second.artifacts.published = first.artifacts.published :=
      congrArg (fun files => files.2.2.2) h
    exact ⟨hfirst.1.congr _ _ h, hpublished ▸ hfirst.2⟩
  refine (Blind.ensurePrepublishCap next).andThen hcongr hknown (fun _ => And.left) (fun _ _ => And.left) ?_
  intro _ disk hknown
  refine (preserves_writeOrRequire _ _ fun disk _ => hblind.files disk _).andThen hcongr hknown
    (fun _ => And.left) (fun _ _ => And.left) ?_
  intro _ disk hknown
  refine (preserves_writeOrRequire _ _ fun disk _ => hblind.files disk _).andThen hcongr hknown
    (fun _ => And.left) (fun _ _ => And.left) ?_
  intro _ disk hknown
  refine (hblind.recordFiles _ _).andThen hcongr hknown (fun _ => And.left) (fun _ _ => And.left) ?_
  intro _ disk hknown
  exact CutOff.ensures_ok.mpr hknown

theorem publish_stays (hround : codec.RoundTrip) {installConclusion : Delivery Content Unit}
    (hconclusion : installConclusion.Preserves ledgerFiles)
    {files : Disk Content → List (BoundFile × Option Content)}
    (hlogged : Logged codec.toLedgerFormat disk) :
    (publish codec tree entry installConclusion files).Stays (Logged codec.toLedgerFormat) disk := by
  have hblind := blind_ledgerFiles tree
  unfold publish
  refine CutOff.Ensures.bind _ (prepareLedger_ensures hround hlogged) ?_
  rintro next disk ⟨hlogged, hfollows⟩
  refine CutOff.ensures_bind.mpr ?_
  refine (hblind.installDelivery next hconclusion files disk).mono (fun _ h => hlogged.congr _ _ h) ?_
    (fun _ _ h => hlogged.congr _ _ h)
  intro _ disk' hsame
  have hpublished : disk'.artifacts.published = disk.artifacts.published :=
    congrArg (fun files => files.2.2.2) hsame
  refine CutOff.Ensures.bind _ (writeLedger_stays (hlogged.congr _ _ hsame) (hpublished ▸ hfollows)) ?_
  intro _ disk hlogged
  refine (hblind.recordFiles _ _).andThen Logged.congr hlogged (fun _ => id) (fun _ _ => id) ?_
  intro _ disk hlogged
  refine (hblind.recordFiles _ _).andThen Logged.congr hlogged (fun _ => id) (fun _ _ => id) ?_
  intro _ disk hlogged
  exact hblind.validateLocalDelivery.stays Logged.congr hlogged

theorem deliver_stays (hround : codec.RoundTrip) (hlogged : Logged codec.toLedgerFormat disk) :
    (deliver codec tree).Stays (Logged codec.toLedgerFormat) disk := by
  have hblind := blind_ledgerFiles tree
  have hcongr : ∀ first second : Disk Content, ledgerFiles second = ledgerFiles first →
      Logged codec.toLedgerFormat first → Logged codec.toLedgerFormat second := Logged.congr
  unfold deliver
  cases tree.evidenceKind with
  | diagnostic => exact CutOff.ensures_error.mpr hlogged
  | calibration =>
    unfold deliverSealedCalibration
    refine (CutOff.preserves_ofExcept _).andThen hcongr hlogged (fun _ => id) (fun _ _ => id) ?_
    intro _ disk hlogged
    refine hblind.ensureVerifiedBundle.andThen hcongr hlogged (fun _ => id) (fun _ _ => id) ?_
    intro receipt disk hlogged
    refine (hblind.recordFiles _ _).andThen hcongr hlogged (fun _ => id) (fun _ _ => id) ?_
    intro _ disk hlogged
    refine hblind.ensureCalibrationDerivedProducts.andThen hcongr hlogged (fun _ => id)
      (fun _ _ => id) ?_
    intro products disk hlogged
    refine (hblind.recordFiles _ _).andThen hcongr hlogged (fun _ => id) (fun _ _ => id) ?_
    intro _ disk hlogged
    refine (Blind.buildCalibrationEntry _ _ _).andThen hcongr hlogged (fun _ => id) (fun _ _ => id) ?_
    intro entry disk hlogged
    exact publish_stays hround (CutOff.preserves_ofExcept _) hlogged
  | campaign =>
    unfold deliverSealedCampaign
    refine (CutOff.preserves_ofExcept _).andThen hcongr hlogged (fun _ => id) (fun _ _ => id) ?_
    intro _ disk hlogged
    refine hblind.ensureVerifiedBundle.andThen hcongr hlogged (fun _ => id) (fun _ _ => id) ?_
    intro receipt disk hlogged
    refine (hblind.recordFiles _ _).andThen hcongr hlogged (fun _ => id) (fun _ _ => id) ?_
    intro _ disk hlogged
    refine hblind.ensureAnalysis.andThen hcongr hlogged (fun _ => id) (fun _ _ => id) ?_
    intro analysis disk hlogged
    refine (hblind.recordFiles _ _).andThen hcongr hlogged (fun _ => id) (fun _ _ => id) ?_
    intro _ disk hlogged
    refine (Blind.buildCampaignEntry _ _).andThen hcongr hlogged (fun _ => id) (fun _ _ => id) ?_
    intro entry disk hlogged
    exact publish_stays hround (hblind.installConclusion analysis) hlogged

end Deliver

/-! ### What the history shows -/

/-- The ledgers that are found by following the hashes of the predecessors through the history. -/
def followLedgers (format : LedgerFormat Content) (history : Digest → Option Content) :
    Nat → Content → List Content
  | 0, _ => []
  | fuel + 1, content =>
    content ::
      match (format.fromSliceStrict content).toOption.bind fun ledger =>
          ledger.predecessor.bind fun predecessor => history predecessor.sha256 with
      | some earlier => followLedgers format history fuel earlier
      | none => []

namespace PublishedLog

variable {history : Digest → Option Content} {content : Content} {log : List Content}

theorem follow (hround : format.RoundTrip) (hlog : PublishedLog format history (content :: log)) {fuel : Nat}
    (hfuel : log.length < fuel) : followLedgers format history fuel content = content :: log := by
  induction log generalizing content fuel with
  | nil =>
    obtain ⟨fuel, rfl⟩ := Nat.exists_eq_succ_of_ne_zero (Nat.ne_of_gt hfuel)
    cases hlog with
    | first hextends =>
      simp [followLedgers, hround _, Except.toOption, hextends.predecessor, ledgerPredecessor,
        DeliveryLedger.empty]
  | cons _ _ ih =>
    obtain ⟨fuel, rfl⟩ := Nat.exists_eq_succ_of_ne_zero (Nat.ne_of_gt (Nat.zero_lt_of_lt hfuel))
    cases hlog with
    | next hextends hnonempty hhistory hlog =>
      have hpredecessor := hextends.predecessor
      rw [ledgerPredecessor, if_neg (by simpa using hnonempty)] at hpredecessor
      have hrest := ih hlog (Nat.lt_of_succ_lt_succ hfuel)
      simp [followLedgers, hround _, Except.toOption, hpredecessor, hhistory, hrest]

theorem keeps {ledger : DeliveryLedger} (hround : format.RoundTrip)
    (hlog : PublishedLog format history (format.canonicalBytes ledger :: log)) :
    ∀ earlier ∈ log, ∃ old, earlier = format.canonicalBytes old ∧
      ∀ entry ∈ old.entries, entry ∈ ledger.entries := by
  induction log generalizing ledger with
  | nil => simp
  | cons _ _ ih =>
    generalize hcontent : format.canonicalBytes ledger = content at hlog
    cases hlog with
    | @next old _ _ hextends _ _ hlog =>
      rw [hround.injective hcontent]
      intro earlier hmem
      rcases List.mem_cons.mp hmem with rfl | hmem
      · exact ⟨old, rfl, hextends.keeps⟩
      · obtain ⟨older, hearlier, hkeeps⟩ := ih hlog earlier hmem
        exact ⟨older, hearlier, fun entry hentry => hextends.keeps entry (hkeeps entry hentry)⟩

theorem history_eq (hlog : PublishedLog format history log) :
    ∀ earlier ∈ log.tail, history (format.sha256Hex earlier) = some earlier := by
  induction hlog with
  | none | first hextends => simp
  | next _ _ hhistory _ ih =>
    intro earlier hmem
    rcases List.mem_cons.mp hmem with rfl | hmem
    · exact hhistory
    · exact ih earlier hmem

end PublishedLog

section Runs

variable [DecidableEq Content] {codec : DeliveryCodec Content} {start disk : Disk Content}
  {trees : List (SealedTree Content)}

theorem logged_of_run (hround : codec.RoundTrip) (hstart : start.artifacts.ledger = none)
    (hfresh : start.artifacts.published = [])
    (hrun : (CutOff.system (deliver codec)).Run start trees disk) : Logged codec.toLedgerFormat disk := by
  refine CutOff.invariant_of_run hrun ⟨?_, ?_⟩ fun tree state => deliver_stays hround
  · rw [hfresh]
    exact .none
  · rw [hstart, hfresh]
    rfl

/-- **An append-only ledger.** However many deliveries were run, and wherever each of them was cut off, the
ledger file is the canonical form of a valid ledger. That ledger has every entry of every ledger that was
published before, the history holds each of those under its hash, and following the hashes of the
predecessors from the ledger file goes through all of them, back to the first one. Ledgers that have the
same entries have them in the same order. -/
theorem published_ledgers_append_only (hround : codec.RoundTrip) (hstart : start.artifacts.ledger = none)
    (hfresh : start.artifacts.published = [])
    (hrun : (CutOff.system (deliver codec)).Run start trees disk) {content : Content}
    (hledger : disk.artifacts.ledger = some content) :
    ∃ ledger, content = codec.canonicalBytes ledger ∧ ledger.validate = .ok () ∧
      (∀ earlier ∈ disk.artifacts.published, ∃ old, earlier = codec.canonicalBytes old ∧
        ∀ entry ∈ old.entries, entry ∈ ledger.entries) ∧
      (∀ earlier ∈ disk.artifacts.published.tail,
        disk.artifacts.history (codec.sha256Hex earlier) = some earlier) ∧
      (∀ fuel, disk.artifacts.published.length ≤ fuel →
        followLedgers codec.toLedgerFormat disk.artifacts.history fuel content =
          disk.artifacts.published) ∧
      ∀ {others : List (SealedTree Content)} {other : Disk Content} {ledger' : DeliveryLedger},
        (CutOff.system (deliver codec)).Run start others other →
        other.artifacts.ledger = some (codec.canonicalBytes ledger') →
        (∀ entry, entry ∈ ledger.entries ↔ entry ∈ ledger'.entries) → ledger.entries = ledger'.entries := by
  have hlogged := logged_of_run hround hstart hfresh hrun
  have hcurrent := hlogged.current
  rw [hledger, eq_comm] at hcurrent
  obtain ⟨log, hlog⟩ := List.head?_eq_some_iff.mp hcurrent
  have hpublished := hlogged.published
  rw [hlog] at hpublished ⊢
  obtain ⟨ledger, rfl, hvalid, _⟩ := hpublished.head_eq
  refine ⟨ledger, rfl, hvalid, ?_, hpublished.history_eq, ?_, ?_⟩
  · intro earlier hmem
    rcases List.mem_cons.mp hmem with rfl | hmem
    · exact ⟨ledger, rfl, fun _ => id⟩
    · exact hpublished.keeps hround earlier hmem
  · intro fuel hfuel
    exact hpublished.follow hround hfuel
  · intro others other ledger' hother hledger' hsame
    have hlogged' := logged_of_run hround hstart hfresh hother
    have hcurrent' := hlogged'.current
    rw [hledger', eq_comm] at hcurrent'
    obtain ⟨log', hlog'⟩ := List.head?_eq_some_iff.mp hcurrent'
    have hpublished' := hlogged'.published
    rw [hlog'] at hpublished'
    obtain ⟨found, hfound, hvalid', _⟩ := hpublished'.head_eq
    rw [hround.injective hfound] at hsame ⊢
    exact DeliveryLedger.entries_eq hvalid hvalid' hsame

end Runs

inductive SampleContent where
  | ledger (ledger : DeliveryLedger)
  | entry (entry : DeliveryEntry)
  | record (record : DeliveryTransactionRecord)
  | receipt (receipt : VerificationReceipt)
  | index (index : BundleIndex)
  | other (number : Nat)
  deriving DecidableEq, Repr

def sampleDigest (number : Nat) : Digest :=
  String.ofList (List.replicate (number % 63 + 1) 'a' ++ List.replicate (63 - number % 63) 'b')

def sampleCodec : DeliveryCodec SampleContent where
  canonicalBytes := .ledger
  fromSliceStrict
    | .ledger ledger => .ok ledger
    | _ => .error "not a ledger"
  sha256Hex
    | .ledger ledger => sampleDigest ledger.entries.length
    | .entry _ => sampleDigest 10
    | .record record => sampleDigest (20 + record.sequence)
    | .receipt _ => sampleDigest 40
    | .index _ => sampleDigest 41
    | .other number => sampleDigest (42 + number)
  entryBytes := .entry
  recordBytes := .record
  receiptBytes := .receipt
  readIndex
    | .index index => .ok index
    | _ => .error "not an index"
  readReceipt
    | .receipt receipt => .ok receipt
    | _ => .error "not a receipt"

def sampleTree (kind : EvidenceKind) (id : String) (root : Nat) (terminal verdict : TerminalState) :
    SealedTree SampleContent where
  evidenceKind := kind
  evidenceId := id
  sealRoot := sampleDigest root
  sealFile := .other 0
  terminalState := terminal
  verifySource := .ok ()
  createBundle := .ok fun name =>
    if name = "bundle-index.json" then some (.index ⟨kind, id, terminal, sampleDigest root⟩) else none
  verifyBundle _ := .ok ⟨sampleDigest 41, id, terminal⟩
  deriveProducts _ _ := .ok (.other 1, .other 2)
  productsFresh _ := true
  analyse _ := .ok ⟨.other 3, .other 4, verdict, 5⟩
  regularBytes _ := .ok 10
  withinCap _ := .ok ()
  recount _ := .ok ()

def sampleCalibration : SealedTree SampleContent := sampleTree .calibration "cal-1" 50 .blocked .blocked

def sampleCampaign : SealedTree SampleContent := sampleTree .campaign "run-1" 51 .pass .pass

def sampleDelivered : Disk SampleContent :=
  (deliver sampleCodec sampleCampaign (deliver sampleCodec sampleCalibration .empty).state).state

theorem published_ledgers_append_only_two :
    sampleDelivered.artifacts.published.length = 2 ∧
      ∃ ledger, sampleDelivered.artifacts.ledger = some (.ledger ledger) ∧ ledger.validate = .ok () ∧
        followLedgers sampleCodec.toLedgerFormat sampleDelivered.artifacts.history 2 (.ledger ledger) =
          sampleDelivered.artifacts.published := by
  have htwo : sampleDelivered.artifacts.published.length = 2 := by decide +kernel
  have hsome : sampleDelivered.artifacts.ledger.isSome = true := by decide +kernel
  obtain ⟨content, hledger⟩ := Option.isSome_iff_exists.mp hsome
  have hrun : (CutOff.system (deliver sampleCodec)).Run .empty [sampleCampaign, sampleCalibration]
      sampleDelivered := .step (.step .start (Or.inr rfl)) (Or.inr rfl)
  obtain ⟨ledger, rfl, hvalid, _, _, hfollow, _⟩ :=
    published_ledgers_append_only (fun _ => rfl) rfl rfl hrun hledger
  exact ⟨htwo, ledger, hledger, hvalid, hfollow 2 (Nat.le_of_eq htwo)⟩

end AuthMiniGateway.Benchmark

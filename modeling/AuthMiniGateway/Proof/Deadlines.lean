import AuthMiniGateway.Proof.RowLife
import AuthMiniGateway.Proof.TimeText

namespace AuthMiniGateway

open Store

variable {json : AmrJson} {r : Readings} {op : StoreOp} {s s' : StoreState} {id : String}
  {row row' : SessionRow}

structure SessionRow.Deadlines (row : SessionRow) (idle absolute : Int) : Prop where
  idle_text : row.idleExpiresAt = some (formatTime idle)
  absolute_text : row.absoluteExpiresAt = some (formatTime absolute)
  idle_millis : truncMillis idle = idle
  absolute_millis : truncMillis absolute = absolute

def SessionRow.InactiveAt (row : SessionRow) (now : Int) : Prop :=
  row.revokedAt.isSome = true ∨
    ∃ idle absolute, row.Deadlines idle absolute ∧ (idle ≤ now ∨ absolute ≤ now)

namespace SessionRow

theorem Deadlines.unique {idle idle' absolute absolute' : Int} (h : row.Deadlines idle absolute)
    (h' : row.Deadlines idle' absolute') : idle = idle' ∧ absolute = absolute' := by
  constructor
  · have htext := Option.some.inj (h.idle_text.symm.trans h'.idle_text)
    rw [← h.idle_millis, ← h'.idle_millis]
    exact formatTime_eq_iff.mp htext
  · have htext := Option.some.inj (h.absolute_text.symm.trans h'.absolute_text)
    rw [← h.absolute_millis, ← h'.absolute_millis]
    exact formatTime_eq_iff.mp htext

theorem Deadlines.of_columns {idle absolute : Int} (h : row.Deadlines idle absolute)
    (hidle : row'.idleExpiresAt = row.idleExpiresAt)
    (habsolute : row'.absoluteExpiresAt = row.absoluteExpiresAt) : row'.Deadlines idle absolute :=
  ⟨hidle.trans h.idle_text, habsolute.trans h.absolute_text, h.idle_millis, h.absolute_millis⟩

theorem InactiveAt.mono {now later : Int} (h : row.InactiveAt now) (hle : now ≤ later) :
    row.InactiveAt later := by
  rcases h with hrevoked | ⟨idle, absolute, hdeadlines, hpassed⟩
  · exact Or.inl hrevoked
  · exact Or.inr ⟨idle, absolute, hdeadlines, by omega⟩

theorem InactiveAt.iff_of_deadlines {idle absolute now : Int} (h : row.Deadlines idle absolute) :
    row.InactiveAt now ↔ row.revokedAt.isSome = true ∨ idle ≤ now ∨ absolute ≤ now := by
  constructor
  · rintro (hrevoked | ⟨idle', absolute', hdeadlines, hpassed⟩)
    · exact Or.inl hrevoked
    · obtain ⟨rfl, rfl⟩ := h.unique hdeadlines
      exact Or.inr hpassed
  · rintro (hrevoked | hpassed)
    · exact Or.inl hrevoked
    · exact Or.inr ⟨idle, absolute, h, hpassed⟩

theorem Reads.deadlines {session : GatewaySession} {idle absolute : Int}
    (hreads : row.Reads json session) (h : row.Deadlines idle absolute) :
    session.idleExpiresAt = idle ∧ session.absoluteExpiresAt = absolute := by
  have hidle := hreads.idleExpiresAt
  have habsolute := hreads.absoluteExpiresAt
  rw [h.idle_text, Option.bind_some] at hidle
  rw [h.absolute_text, Option.bind_some] at habsolute
  exact ⟨(parseTime_formatTime_eq_some hidle).2.trans h.idle_millis,
    (parseTime_formatTime_eq_some habsolute).2.trans h.absolute_millis⟩

end SessionRow

/-! ### The invariant -/

/-- Rows written by the store, before any of them was read. -/
structure StoreState.Stored (s : StoreState) : Prop where
  row_id : ∀ id row, s.db.sessions id = some row → row.id = id ∧ id ∈ s.issued
  row_deadlines : ∀ id row, s.db.sessions id = some row →
    ∃ idle absolute, row.Deadlines idle absolute ∧ idle ≤ absolute
  seen_nil : s.seen = []

structure StoreState.Deadlined (s : StoreState) : Prop where
  tracked : s.Tracked
  row_deadlines : ∀ id row, s.db.sessions id = some row →
    ∃ idle absolute, row.Deadlines idle absolute ∧ idle ≤ absolute
  seen_millis : ∀ session ∈ s.seen, truncMillis session.idleExpiresAt = session.idleExpiresAt ∧
    truncMillis session.absoluteExpiresAt = session.absoluteExpiresAt
  seen_absolute : ∀ session ∈ s.seen, ∀ row, s.db.sessions session.id = some row →
    row.absoluteExpiresAt = some (formatTime session.absoluteExpiresAt)

theorem StoreState.Stored.deadlined (h : s.Stored) : s.Deadlined where
  tracked :=
    { row_id := fun id row hrow => (h.row_id id row hrow).1
      row_issued := fun id row hrow => (h.row_id id row hrow).2
      seen_issued := by simp [h.seen_nil] }
  row_deadlines := h.row_deadlines
  seen_millis := by simp [h.seen_nil]
  seen_absolute := by simp [h.seen_nil]

namespace RowUpdate

variable {idle absolute : Int}

theorem snapshot_deadlines {original : GatewaySession} (hs : s.Deadlined) (hseen : original ∈ s.seen)
    (hrow : s.db.sessions original.id = some row) (hd : row.Deadlines idle absolute)
    (hidle : row.idleExpiresAt = some (formatTime original.idleExpiresAt)) :
    original.idleExpiresAt = idle ∧ original.absoluteExpiresAt = absolute := by
  obtain ⟨hidleMillis, habsoluteMillis⟩ := hs.seen_millis original hseen
  exact SessionRow.Deadlines.unique
    ⟨hidle, hs.seen_absolute original hseen row hrow, hidleMillis, habsoluteMillis⟩ hd

theorem deadlines (hs : s.Deadlined) (hpermits : s.Permits r op) (hrow : s.db.sessions id = some row)
    (h : RowUpdate json r id op row row') (hd : row.Deadlines idle absolute)
    (hle : idle ≤ absolute) :
    ∃ idle', row'.Deadlines idle' absolute ∧ idle ≤ idle' ∧ idle' ≤ absolute := by
  cases h with
  | touched hid hactive hextended hlater hgeneration hstate hidle hlive =>
    subst hid
    rename_i original idleTtl interval extended
    obtain ⟨rfl, rfl⟩ := snapshot_deadlines hs (hpermits.snapshots_seen original (by
      simp [StoreOp.snapshots])) hrow hd hidle
    refine ⟨truncMillis (min extended original.absoluteExpiresAt), ⟨?_, hd.absolute_text,
      truncMillis_idem _, hd.absolute_millis⟩, ?_, ?_⟩
    · rw [formatTime_truncMillis]
      rfl
    · calc original.idleExpiresAt = truncMillis original.idleExpiresAt := hd.idle_millis.symm
        _ ≤ truncMillis (min extended original.absoluteExpiresAt) := truncMillis_mono hlater.le
    · exact (truncMillis_le _).trans (min_le_right _ _)
  | _ => exact ⟨idle, hd.of_columns rfl rfl, le_rfl, hle⟩

theorem revokedAt_isSome (h : RowUpdate json r id op row row')
    (hrevoked : row.revokedAt.isSome = true) : row'.revokedAt.isSome = true := by
  cases h <;> first | exact hrevoked | rfl

theorem inactiveAt (hs : s.Deadlined) (hpermits : s.Permits r op) (hrow : s.db.sessions id = some row)
    (h : RowUpdate json r id op row row') (hinactive : row.InactiveAt s.clock) :
    row'.InactiveAt r.now := by
  have hclock : s.clock ≤ r.now := hpermits.clock_le.trans hpermits.pruneNow_le
  obtain ⟨idle, absolute, hd, -⟩ := hs.row_deadlines id row hrow
  rcases (SessionRow.InactiveAt.iff_of_deadlines hd).mp hinactive with hrevoked | hpassed
  · exact Or.inl (h.revokedAt_isSome hrevoked)
  · have hnow : row.InactiveAt r.now := hinactive.mono hclock
    cases h with
    | touched hid hactive hextended hlater hgeneration hstate hidle hlive =>
      subst hid
      rename_i original idleTtl interval extended
      obtain ⟨hidleEq, habsoluteEq⟩ := snapshot_deadlines hs
        (hpermits.snapshots_seen original (by simp [StoreOp.snapshots])) hrow hd hidle
      -- `touch_ready` checked the snapshot in memory, at this reading of the clock
      simp only [isActive, Bool.and_eq_true, decide_eq_true_eq] at hactive
      omega
    | revoked | conditionallyRevoked => exact Or.inl rfl
    | _ =>
      exact Or.inr ⟨idle, absolute, hd.of_columns rfl rfl, by omega⟩

theorem deadline_columns_of_pending (h : RowUpdate json r id op row row')
    (hpending : row.identityState = some "pending") :
    row'.idleExpiresAt = row.idleExpiresAt ∧ row'.absoluteExpiresAt = row.absoluteExpiresAt := by
  cases h with
  | touched _ _ _ _ _ hstate =>
    rw [hpending] at hstate
    exact absurd (Option.some.inj hstate) (by decide)
  | _ => exact ⟨rfl, rfl⟩

end RowUpdate

theorem newRow_deadlines (now : Int) (input : NewSession) (idle absolute : Int) :
    (newRow json now id input (min idle absolute) absolute).Deadlines
      (truncMillis (min idle absolute)) (truncMillis absolute) := by
  refine ⟨?_, ?_, truncMillis_idem _, truncMillis_idem _⟩ <;> rw [formatTime_truncMillis] <;> rfl

namespace StoreState.Deadlined

theorem row_deadlines_step (h : s.Deadlined) (hpermits : s.Permits r op)
    (hrow' : (s.step json r op).db.sessions id = some row') :
    ∃ idle absolute, row'.Deadlines idle absolute ∧ idle ≤ absolute := by
  have heffect := s.step_rowEffect json r op id
  rw [hrow'] at heffect
  generalize hbefore : s.db.sessions id = before at heffect
  cases heffect with
  | updated hupdate =>
    obtain ⟨idle, absolute, hd, hle⟩ := h.row_deadlines id _ hbefore
    obtain ⟨idle', hd', -, hle'⟩ := hupdate.deadlines h hpermits hbefore hd hle
    exact ⟨idle', absolute, hd', hle'⟩
  | created =>
    exact ⟨_, _, newRow_deadlines r.now _ _ _, truncMillis_mono (min_le_right _ _)⟩

theorem step (h : s.Deadlined) (hpermits : s.Permits r op) : (s.step json r op).Deadlined := by
  have htracked : (s.step json r op).Tracked := h.tracked.step hpermits
  refine ⟨htracked, fun id row' hrow' => h.row_deadlines_step hpermits hrow', ?_, ?_⟩
  · intro session hsession
    rcases StoreState.mem_seen_step hpermits hsession with hold | hread
    · exact h.seen_millis session hold
    · obtain ⟨row, hrow, hreads⟩ := htracked.row_of_readFrom hread
      obtain ⟨idle, absolute, hd, -⟩ := h.row_deadlines_step hpermits hrow
      obtain ⟨rfl, rfl⟩ := hreads.deadlines hd
      exact ⟨hd.idle_millis, hd.absolute_millis⟩
  · intro session hsession row' hrow'
    rcases StoreState.mem_seen_step hpermits hsession with hold | hread
    · obtain ⟨row, hrow, hupdate⟩ := StoreState.Tracked.row_before hpermits.fresh
        (h.tracked.seen_issued session hold) hrow'
      rw [hupdate.absoluteExpiresAt_eq]
      exact h.seen_absolute session hold row hrow
    · obtain ⟨row, hrow, hreads⟩ := htracked.row_of_readFrom hread
      obtain ⟨idle, absolute, hd, -⟩ := h.row_deadlines_step hpermits hrow
      rw [hrow] at hrow'
      cases hrow'
      rw [(hreads.deadlines hd).2]
      exact hd.absolute_text

theorem run (h : s.Deadlined) (hrun : StoreRun json s s') : s'.Deadlined := by
  induction hrun with
  | refl => exact h
  | tail _ hstep ih =>
    obtain ⟨r, op, hpermits, rfl⟩ := hstep
    exact ih.step hpermits

end StoreState.Deadlined

/-! ### Over a run -/

/-- What `row'` at the time `now'` owes to the earlier `row` at the time `now`. -/
structure SessionRow.Later (row : SessionRow) (now : Int) (row' : SessionRow) (now' : Int) :
    Prop where
  revoked : row.revokedAt.isSome = true → row'.revokedAt.isSome = true
  inactive : row.InactiveAt now → ∀ later, now' ≤ later → row'.InactiveAt later
  absolute_eq : row'.absoluteExpiresAt = row.absoluteExpiresAt
  idle_le : ∃ idle idle' absolute, row.Deadlines idle absolute ∧ row'.Deadlines idle' absolute ∧
    idle ≤ idle' ∧ idle' ≤ absolute

theorem StoreState.Deadlined.later (h : s.Deadlined) (hrun : StoreRun json s s')
    (hrow : s.db.sessions id = some row) (hrow' : s'.db.sessions id = some row') :
    row.Later s.clock row' s'.clock := by
  refine StoreRun.row_induction (motive := fun t new => row.Later s.clock new t.clock) hrun
    (h.tracked.row_issued id row hrow) hrow ?_ ?_ hrow'
  · obtain ⟨idle, absolute, hd, hle⟩ := h.row_deadlines id row hrow
    exact ⟨fun hrevoked => hrevoked, fun hinactive later hlater => hinactive.mono hlater, rfl,
      idle, idle, absolute, hd, hd, le_rfl, hle⟩
  · intro t r op old new hrun hpermits hold hupdate ih
    have ht := h.run hrun
    obtain ⟨idle, idle', absolute, hd, hd', hle, hle'⟩ := ih.idle_le
    obtain ⟨idle'', hd'', hmove, hcap⟩ := hupdate.deadlines ht hpermits hold hd' hle'
    refine ⟨fun hrevoked => hupdate.revokedAt_isSome (ih.revoked hrevoked), ?_,
      hupdate.absoluteExpiresAt_eq.trans ih.absolute_eq,
      idle, idle'', absolute, hd, hd'', hle.trans hmove, hcap⟩
    intro hinactive later hlater
    exact (hupdate.inactiveAt ht hpermits hold (ih.inactive hinactive _ le_rfl)).mono hlater

def PendingRun (json : AmrJson) (id : String) : StoreState → StoreState → Prop :=
  Relation.ReflTransGen fun s s' => StoreStep json s s' ∧
    ∃ row, s.db.sessions id = some row ∧ row.identityState = some "pending"

theorem PendingRun.deadline_columns (hissued : id ∈ s.issued) (hrun : PendingRun json id s s')
    (hrow : s.db.sessions id = some row) (hrow' : s'.db.sessions id = some row') :
    row'.idleExpiresAt = row.idleExpiresAt ∧ row'.absoluteExpiresAt = row.absoluteExpiresAt := by
  have hplain : ∀ {t t'}, PendingRun json id t t' → StoreRun json t t' :=
    fun h => Relation.ReflTransGen.mono (fun _ _ hstep => hstep.1) _ _ h
  induction hrun generalizing row' with
  | refl =>
    rw [hrow] at hrow'
    cases hrow'
    exact ⟨rfl, rfl⟩
  | tail hrun hstep ih =>
    obtain ⟨⟨r, op, hpermits, rfl⟩, old, hold, hpending⟩ := hstep
    obtain ⟨old', hold', hupdate⟩ := StoreState.Tracked.row_before hpermits.fresh
      (StoreRun.issued_subset (hplain hrun) hissued) hrow'
    rw [hold] at hold'
    cases hold'
    obtain ⟨hidle, habsolute⟩ := hupdate.deadline_columns_of_pending hpending
    exact ⟨hidle.trans (ih hold).1, habsolute.trans (ih hold).2⟩

/-- **Irreversibility.** From rows that the store wrote, over every run of its calls with snapshots
of any age: a revocation is never undone, a row that was inactive stays inactive until it is deleted
and nothing replaces it then, the absolute deadline never changes, the idle deadline never moves
back and never passes the absolute one, and neither of them moves while the row is pending. -/
theorem deadlines_irreversible (json : AmrJson) (start s s' : StoreState) (id : String)
    (hstart : start.Stored) (hreached : StoreRun json start s) (hrun : StoreRun json s s') :
    (∀ row row', s.db.sessions id = some row → s'.db.sessions id = some row' →
      row.Later s.clock row' s'.clock ∧
        (PendingRun json id s s' → row'.idleExpiresAt = row.idleExpiresAt ∧
          row'.absoluteExpiresAt = row.absoluteExpiresAt)) ∧
      (id ∈ s.issued → s.db.sessions id = none → s'.db.sessions id = none) := by
  have hs := hstart.deadlined.run hreached
  refine ⟨fun row row' hrow hrow' => ⟨hs.later hrun hrow hrow', fun hpending => ?_⟩,
    fun hissued hnone => StoreRun.deleted hrun hissued hnone⟩
  exact hpending.deadline_columns (hs.tracked.row_issued id row hrow) hrow hrow'

def sampleLogin : NewSession :=
  { authSessionId := "auth-session", accessToken := "access-0", refreshToken := "refresh-0",
    userId := "user", email := none, amr := ["otp"], accessExpiresAt := 900 * nanosPerSecond,
    idleTtlSeconds := 3600, absoluteTtlSeconds := 86400 }

def sampleReadings (seconds : Int) : Readings :=
  { pruneNow := seconds * nanosPerSecond, now := seconds * nanosPerSecond, token := "session" }

def sampleStored (seconds : Int) : StoreState :=
  (StoreState.initial (seconds * nanosPerSecond)).step .quoted (sampleReadings seconds)
    (.createSession sampleLogin)

theorem storeRun_sampleStored (seconds : Int) :
    StoreRun .quoted (StoreState.initial (seconds * nanosPerSecond)) (sampleStored seconds) :=
  .single ⟨_, _, ⟨le_rfl, le_rfl, fun _ => List.not_mem_nil, by simp [StoreOp.snapshots]⟩, rfl⟩

theorem initial_stored (clock : Int) : (StoreState.initial clock).Stored :=
  ⟨by simp [StoreState.initial, Db.empty], by simp [StoreState.initial, Db.empty], rfl⟩

theorem deadlines_irreversible_revoked :
    let s := sampleStored 10
    let s' := s.step .quoted (sampleReadings 20) (.revokeSession "session")
    (s.db.sessions "session").isSome = true ∧ (s'.db.sessions "session").isSome = true ∧
      ∀ row row', s.db.sessions "session" = some row → s'.db.sessions "session" = some row' →
        row.Later s.clock row' s'.clock := by
  refine ⟨by decide, by decide, fun row row' hrow hrow' => ?_⟩
  exact ((deadlines_irreversible .quoted _ (sampleStored 10) _ "session"
    (initial_stored _) (storeRun_sampleStored 10)
    (.single ⟨sampleReadings 20, .revokeSession "session",
      ⟨by decide, by decide, by simp [StoreOp.creates], by simp [StoreOp.snapshots]⟩, rfl⟩)).1
    row row' hrow hrow').1

end AuthMiniGateway

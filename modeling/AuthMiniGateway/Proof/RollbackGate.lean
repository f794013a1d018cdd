import AuthMiniGateway.Proof.Deadlines

/-!
# Stored rows and the gate for the previous binary

The column `session_expires_at` mirrors the idle deadline of a ready row and holds the text of the epoch in a
pending one. `Consistent` collects what the columns of a stored row say about each other, and every write
keeps it as long as the instants it writes have a text that can be read back.
-/

namespace AuthMiniGateway

open Store

variable {json : AmrJson} {r : Readings} {op : StoreOp} {s s' : StoreState} {id : String}
  {row row' : SessionRow}

/-- The predicate of the previous binary on a row. -/
def admittedByPrevious (row : SessionRow) (now : Int) : Bool :=
  decide (formatTime now < row.sessionExpiresAt) && row.revokedAt.isNone

def StoreOp.timesWritten (r : Readings) : StoreOp → List Int
  | createSession input =>
    match addSeconds r.now input.absoluteTtlSeconds, addSeconds r.now input.idleTtlSeconds with
    | some absolute, some idle => [r.now, input.accessExpiresAt, min idle absolute, absolute]
    | _, _ => []
  | revokeSession _ => [r.now]
  | conditionalRevoke _ => [r.now]
  | persistPending _ next => [r.now, next.accessExpiresAt]
  | finalizePending _ _ => [r.now]
  | touchReady original idleTtlSeconds _ =>
    match addSeconds r.now idleTtlSeconds with
    | some extended => [r.now, min extended original.absoluteExpiresAt]
    | none => []
  | _ => []

/-- Every instant written so far lies in the years 0000 to 9999. -/
def StoreState.WrittenInRange (s : StoreState) : Prop :=
  ∀ event ∈ s.log, event.before.sessions ≠ event.after.sessions →
    ∀ instant ∈ event.op.timesWritten event.readings, InTextRange instant

/-! ### Consistent rows -/

def IsText (text : String) : Prop := ∃ instant, text = formatTime instant ∧ InTextRange instant

inductive SessionRow.Gate (row : SessionRow) (idle : Int) : Prop where
  | ready (hstate : row.identityState = some IdentityState.ready.asStr)
      (hsince : row.identityPendingSince = none) (hgate : row.sessionExpiresAt = formatTime idle)
  | pending {since : String} (hstate : row.identityState = some IdentityState.pending.asStr)
      (hsince : row.identityPendingSince = some since) (htext : IsText since)
      (hgate : row.sessionExpiresAt = compatDenyAt)

structure SessionRow.Consistent (json : AmrJson) (row : SessionRow) (idle absolute : Int) :
    Prop where
  deadlines : row.Deadlines idle absolute
  idle_le : idle ≤ absolute
  idle_range : InTextRange idle
  absolute_range : InTextRange absolute
  amr : ∃ amr, json.fromStr row.amrJson = some amr
  access : IsText row.accessExpiresAt
  touched : ∃ text, row.lastTouchedAt = some text ∧ IsText text
  revoked : ∀ text, row.revokedAt = some text → IsText text
  generation : 0 ≤ row.refreshGeneration
  gate : row.Gate idle

namespace SessionRow.Consistent

variable {idle absolute : Int}

theorem isText_parse {text : String} (h : IsText text) : ∃ instant, parseTime text = some instant := by
  obtain ⟨instant, rfl, hrange⟩ := h
  exact ⟨_, parseTime_formatTime hrange⟩

theorem compatDenyAt_eq : compatDenyAt = formatTime 0 := formatTime_zero.symm

theorem parseTime_compatDenyAt : parseTime compatDenyAt = some 0 := by
  rw [compatDenyAt_eq, parseTime_formatTime inTextRange_zero]
  rfl

theorem parse_optional {column : Option String}
    (h : ∀ text, column = some text → IsText text) :
    ∃ instant : Option Int, column.map parseTime = instant.map some := by
  cases column with
  | none => exact ⟨none, rfl⟩
  | some text =>
    obtain ⟨instant, hparse⟩ := isText_parse (h text rfl)
    exact ⟨some instant, by simp [hparse]⟩

theorem parse_gate (h : row.Consistent json idle absolute) :
    ∃ state since expires, row.identityState = some (IdentityState.asStr state) ∧
      row.identityPendingSince.map parseTime = Option.map some since ∧
      parseTime row.sessionExpiresAt = some expires ∧
      ((state = .ready ∧ since.isNone = true ∧ expires = idle) ∨
        (state = .pending ∧ since.isSome = true ∧ expires = 0)) := by
  cases h.gate with
  | ready hstate hsince hgate =>
    refine ⟨.ready, none, idle, hstate, by simp [hsince], ?_, Or.inl ⟨rfl, rfl, rfl⟩⟩
    rw [hgate, parseTime_formatTime h.idle_range, h.deadlines.idle_millis]
  | pending hstate hsince htext hgate =>
    obtain ⟨instant, hparse⟩ := isText_parse htext
    refine ⟨.pending, some instant, 0, hstate, by simp [hsince, hparse], ?_,
      Or.inr ⟨rfl, rfl, rfl⟩⟩
    rw [hgate, parseTime_compatDenyAt]

/-- **A consistent row is read back.** -/
theorem exists_reads (h : row.Consistent json idle absolute) : ∃ session, row.Reads json session := by
  obtain ⟨amr, hamr⟩ := h.amr
  obtain ⟨access, haccess⟩ := isText_parse h.access
  obtain ⟨touchedText, htouchedText, htext⟩ := h.touched
  obtain ⟨touched, htouched⟩ := isText_parse htext
  obtain ⟨revoked, hrevoked⟩ := parse_optional h.revoked
  obtain ⟨state, since, expires, hstate, hsince, hexpires, hgate⟩ := h.parse_gate
  have hidle : row.idleExpiresAt.bind parseTime = some idle := by
    rw [h.deadlines.idle_text, Option.bind_some, parseTime_formatTime h.idle_range,
      h.deadlines.idle_millis]
  have habsolute : row.absoluteExpiresAt.bind parseTime = some absolute := by
    rw [h.deadlines.absolute_text, Option.bind_some, parseTime_formatTime h.absolute_range,
      h.deadlines.absolute_millis]
  refine ⟨{ id := row.id, authSessionId := row.authSessionId, accessToken := row.accessToken,
            refreshToken := row.refreshToken, userId := row.userId, email := row.email, amr,
            accessExpiresAt := access, sessionExpiresAt := expires, idleExpiresAt := idle,
            absoluteExpiresAt := absolute, lastTouchedAt := touched, identityState := state,
            identityPendingSince := since, refreshGeneration := row.refreshGeneration,
            revokedAt := revoked },
    ⟨rfl, rfl, rfl, rfl, rfl, rfl, hamr, haccess, hexpires, hidle, habsolute,
      by simp [htouchedText, htouched], hstate, hsince, rfl, hrevoked, ?_⟩⟩
  refine validateSessionInvariants_eq_ok_iff.mpr ⟨h.idle_le, h.generation, ?_⟩
  rcases hgate with ⟨rfl, hnone, rfl⟩ | ⟨rfl, hsome, rfl⟩
  · exact ⟨hnone, rfl⟩
  · exact ⟨hsome, formatTime_zero⟩

/-- **The gate.** From the epoch on the previous binary admits a row exactly when the row is ready
and active. -/
theorem admitted_iff (h : row.Consistent json idle absolute) {session : GatewaySession}
    (hreads : row.Reads json session) {now : Int} (hepoch : 0 ≤ now) (hrange : InTextRange now) :
    admittedByPrevious row now = true ↔
      session.identityState = .ready ∧ isActive session now = true := by
  obtain ⟨hidle, habsolute⟩ := hreads.deadlines h.deadlines
  have hle := h.idle_le
  have hstateEq := hreads.identityState
  cases h.gate with
  | ready hstate _ hgate =>
    have hready : session.identityState = .ready := by
      rw [hstate] at hstateEq
      cases hsession : session.identityState with
      | ready => rfl
      | pending =>
        rw [hsession] at hstateEq
        exact absurd (Option.some.inj hstateEq) (by decide)
    have horder : formatTime now < formatTime idle ↔ now < idle := by
      rw [formatTime_lt_iff hrange h.idle_range, h.deadlines.idle_millis,
        ← lt_iff_truncMillis_lt h.deadlines.idle_millis]
    simp only [admittedByPrevious, hgate, isActive, hreads.revokedAt_isNone, hidle, habsolute,
      Bool.and_eq_true, decide_eq_true_eq, horder, hready, true_and]
    constructor
    · rintro ⟨hlt, hrevoked⟩
      exact ⟨⟨hrevoked, hlt⟩, hlt.trans_le hle⟩
    · rintro ⟨⟨hrevoked, hlt⟩, -⟩
      exact ⟨hlt, hrevoked⟩
  | pending hstate _ _ hgate =>
    have hpending : session.identityState ≠ .ready := by
      intro hready
      rw [hstate, hready] at hstateEq
      exact absurd (Option.some.inj hstateEq) (by decide)
    have hpast : ¬formatTime now < formatTime 0 := by
      rw [formatTime_lt_iff hrange inTextRange_zero]
      have hmono := truncMillis_mono hepoch
      omega
    simp [admittedByPrevious, hgate, compatDenyAt_eq, hpast, hpending]

end SessionRow.Consistent

/-! ### Every write keeps it -/

theorem isText_of_range {instant : Int} (h : InTextRange instant) : IsText (formatTime instant) :=
  ⟨instant, rfl, h⟩

theorem newRow_consistent {input : NewSession} {idle absolute now : Int}
    (hnow : InTextRange now) (haccess : InTextRange input.accessExpiresAt)
    (hidle : InTextRange (min idle absolute)) (habsolute : InTextRange absolute) :
    (newRow json now id input (min idle absolute) absolute).Consistent json
      (truncMillis (min idle absolute)) (truncMillis absolute) where
  deadlines := newRow_deadlines now input idle absolute
  idle_le := truncMillis_mono (min_le_right _ _)
  idle_range := hidle.truncMillis
  absolute_range := habsolute.truncMillis
  amr := ⟨input.amr, json.fromStr_toString input.amr⟩
  access := isText_of_range haccess
  touched := ⟨_, rfl, isText_of_range hnow⟩
  revoked := by simp [newRow]
  generation := le_rfl
  gate := .ready rfl rfl (formatTime_truncMillis _).symm

namespace SessionRow.Consistent

variable {idle absolute now : Int}

theorem revokedRow (h : row.Consistent json idle absolute) (hnow : InTextRange now) :
    (revokedRow now row).Consistent json idle absolute := by
  refine { h with deadlines := h.deadlines.of_columns rfl rfl, revoked := ?_, gate := ?_ }
  · rintro text htext
    cases htext
    exact isText_of_range hnow
  · cases h.gate with
    | ready hstate hsince hgate => exact .ready hstate hsince hgate
    | pending hstate hsince htext hgate => exact .pending hstate hsince htext hgate

theorem pendingRow (h : row.Consistent json idle absolute) {next : PendingTokens}
    (hnow : InTextRange now) (haccess : InTextRange next.accessExpiresAt) :
    (pendingRow json now next row).Consistent json idle absolute :=
  { h with
    deadlines := h.deadlines.of_columns rfl rfl
    amr := ⟨next.amr, json.fromStr_toString next.amr⟩
    access := isText_of_range haccess
    generation := by
      have hgeneration := h.generation
      change 0 ≤ row.refreshGeneration + 1
      omega
    gate := .pending rfl rfl (isText_of_range hnow) rfl }

theorem readyRow (h : row.Consistent json idle absolute) (email : Option String) :
    (readyRow now email row).Consistent json idle absolute :=
  { h with
    deadlines := h.deadlines.of_columns rfl rfl,
    gate := .ready rfl rfl (by simp [Store.readyRow, h.deadlines.idle_text]) }

theorem touchedRow (h : row.Consistent json idle absolute) {candidate idle' : Int}
    (hnow : InTextRange now) (hcandidate : InTextRange candidate)
    (hready : row.identityState = some "ready")
    (hd : (touchedRow now candidate row).Deadlines idle' absolute) (hle : idle' ≤ absolute) :
    (touchedRow now candidate row).Consistent json idle' absolute := by
  have htext : formatTime candidate = formatTime idle' := Option.some.inj hd.idle_text
  have hidle : truncMillis candidate = idle' := by
    rw [← hd.idle_millis]
    exact formatTime_eq_iff.mp htext
  refine { h with
    deadlines := hd, idle_le := hle, idle_range := hidle ▸ hcandidate.truncMillis,
    touched := ⟨_, rfl, isText_of_range hnow⟩, gate := ?_ }
  cases h.gate with
  | ready hstate hsince => exact .ready hstate hsince htext
  | pending hstate =>
    rw [hready] at hstate
    exact absurd (Option.some.inj hstate) (by decide)

end SessionRow.Consistent

theorem RowUpdate.consistent {idle absolute : Int} (hs : s.Deadlined) (hpermits : s.Permits r op)
    (hrow : s.db.sessions id = some row) (h : RowUpdate json r id op row row')
    (hwritten : row ≠ row' → ∀ instant ∈ op.timesWritten r, InTextRange instant)
    (hc : row.Consistent json idle absolute) : ∃ idle', row'.Consistent json idle' absolute := by
  by_cases hsame : row = row'
  · exact ⟨idle, hsame ▸ hc⟩
  · obtain ⟨idle', hd', -, hle'⟩ := h.deadlines hs hpermits hrow hc.deadlines hc.idle_le
    have hinstants := hwritten hsame
    cases h with
    | unchanged => exact absurd rfl hsame
    | revoked => exact ⟨idle, hc.revokedRow (hinstants _ (by simp [StoreOp.timesWritten]))⟩
    | conditionallyRevoked =>
      exact ⟨idle, hc.revokedRow (hinstants _ (by simp [StoreOp.timesWritten]))⟩
    | persisted =>
      exact ⟨idle, hc.pendingRow (hinstants _ (by simp [StoreOp.timesWritten]))
        (hinstants _ (by simp [StoreOp.timesWritten]))⟩
    | finalized => exact ⟨idle, hc.readyRow _⟩
    | touched _ _ hextended _ _ hstate =>
      refine ⟨idle', hc.touchedRow (hinstants _ ?_) (hinstants _ ?_) hstate hd' hle'⟩ <;>
        simp [StoreOp.timesWritten, hextended]

def StoreState.RowsConsistent (json : AmrJson) (s : StoreState) : Prop :=
  ∀ id row, s.db.sessions id = some row → ∃ idle absolute, row.Consistent json idle absolute

theorem StoreState.consistent_step
    (h : ∀ row, s.db.sessions id = some row → ∃ idle absolute, row.Consistent json idle absolute)
    (hs : s.Deadlined) (hpermits : s.Permits r op)
    (hcall : s.db.sessions id ≠ (s.step json r op).db.sessions id →
      ∀ instant ∈ op.timesWritten r, InTextRange instant)
    (hrow' : (s.step json r op).db.sessions id = some row') :
    ∃ idle absolute, row'.Consistent json idle absolute := by
  have heffect := s.step_rowEffect json r op id
  rw [hrow'] at heffect hcall
  generalize hbefore : s.db.sessions id = before at heffect hcall
  cases heffect with
  | updated hupdate =>
    rename_i row
    obtain ⟨idle, absolute, hc⟩ := h row hbefore
    obtain ⟨idle', hc'⟩ := hupdate.consistent hs hpermits hbefore
      (fun hne => hcall fun heq => hne (Option.some.inj heq)) hc
    exact ⟨idle', absolute, hc'⟩
  | created hop hid habsolute hidle =>
    subst hop hid
    have hnone : before = none := by
      by_contra hsome
      obtain ⟨row, rfl⟩ := Option.ne_none_iff_exists'.mp hsome
      exact hpermits.fresh rfl (hs.tracked.row_issued _ row hbefore)
    have hinstants := hcall (by simp [hnone])
    simp only [StoreOp.timesWritten, habsolute, hidle, List.forall_mem_cons, List.not_mem_nil,
      false_implies, implies_true, and_true] at hinstants
    obtain ⟨hnow, haccess, hidleRange, habsoluteRange⟩ := hinstants
    exact ⟨_, _, newRow_consistent hnow haccess hidleRange habsoluteRange⟩

theorem StoreState.RowsConsistent.step (h : s.RowsConsistent json) (hs : s.Deadlined)
    (hpermits : s.Permits r op) (hwritten : (s.step json r op).WrittenInRange) :
    (s.step json r op).RowsConsistent json := by
  intro id row' hrow'
  refine StoreState.consistent_step (h id) hs hpermits (fun hchanged => ?_) hrow'
  exact hwritten _ List.mem_cons_self fun hsame => hchanged (congrFun hsame id)

theorem StoreState.RowsConsistent.run {start : StoreState} (hstart : start.Stored)
    (h : start.RowsConsistent json) (hrun : StoreRun json start s) (hwritten : s.WrittenInRange) :
    s.RowsConsistent json := by
  induction hrun with
  | refl => exact h
  | tail hrun hstep ih =>
    obtain ⟨r, op, hpermits, rfl⟩ := hstep
    refine (ih ?_).step (hstart.deadlined.run hrun) hpermits hwritten
    exact fun event hevent => hwritten event (List.mem_cons_of_mem _ hevent)

/-- **Stored rows and rollback.** From an empty database, over every run of the store that writes
instants of the years 0000 to 9999 only, every row is read back, and at every time from the epoch to
the end of the year 9999 the previous binary admits it exactly when it is ready and active. -/
theorem rows_readable_and_gated (json : AmrJson) (clock : Int) (s : StoreState)
    (hrun : StoreRun json (StoreState.initial clock) s) (hwritten : s.WrittenInRange) (id : String)
    (row : SessionRow) (hrow : s.db.sessions id = some row) :
    ∃ session, rowToSession json row = .ok session ∧
      ∀ now, 0 ≤ now → InTextRange now →
        (admittedByPrevious row now = true ↔
          session.identityState = .ready ∧ isActive session now = true) := by
  have hempty : (StoreState.initial clock).RowsConsistent json := by
    intro id row hrow
    cases hrow
  obtain ⟨idle, absolute, hc⟩ := hempty.run (initial_stored clock) hrun hwritten id row hrow
  obtain ⟨session, hreads⟩ := hc.exists_reads
  exact ⟨session, rowToSession_eq_ok_iff.mpr hreads,
    fun now hepoch hrange => hc.admitted_iff hreads hepoch hrange⟩

def sampleSession (seconds : Int) : GatewaySession :=
  { id := "session", authSessionId := "auth-session", accessToken := "access-0",
    refreshToken := "refresh-0", userId := "user", email := none, amr := ["otp"],
    accessExpiresAt := 900 * nanosPerSecond, sessionExpiresAt := (seconds + 3600) * nanosPerSecond,
    idleExpiresAt := (seconds + 3600) * nanosPerSecond,
    absoluteExpiresAt := (seconds + 86400) * nanosPerSecond,
    lastTouchedAt := seconds * nanosPerSecond, identityState := .ready,
    identityPendingSince := none, refreshGeneration := 0, revokedAt := none }

def sampleTokens : PendingTokens :=
  { accessToken := "access-1", refreshToken := "refresh-1", userId := "user", amr := ["otp"],
    accessExpiresAt := 1800 * nanosPerSecond }

def samplePending (seconds : Int) : StoreState :=
  (sampleStored seconds).step .quoted (sampleReadings (seconds + 5))
    (.persistPending (sampleSession seconds) sampleTokens)

theorem storeRun_samplePending (seconds : Int) (hseen : sampleSession seconds ∈ (sampleStored seconds).seen) :
    StoreRun .quoted (StoreState.initial (seconds * nanosPerSecond)) (samplePending seconds) := by
  refine (storeRun_sampleStored seconds).tail ⟨_, _, ⟨?_, le_rfl, ?_, ?_⟩, rfl⟩
  · change seconds * nanosPerSecond ≤ (seconds + 5) * nanosPerSecond
    unfold nanosPerSecond
    omega
  · simp [StoreOp.creates]
  · simpa [StoreOp.snapshots] using hseen

theorem writtenInRange_samplePending {seconds : Int}
    (hcreate : ∀ instant ∈ (StoreOp.createSession sampleLogin).timesWritten (sampleReadings seconds),
      InTextRange instant)
    (hpersist : ∀ instant ∈ (StoreOp.persistPending (sampleSession seconds) sampleTokens).timesWritten
      (sampleReadings (seconds + 5)), InTextRange instant) :
    (samplePending seconds).WrittenInRange := by
  intro event hevent _
  rcases List.mem_cons.mp hevent with rfl | hevent
  · exact hpersist
  · rcases List.mem_cons.mp hevent with rfl | hevent
    · exact hcreate
    · cases hevent

theorem rows_readable_and_gated_pending :
    (∃ row, (samplePending 10).db.sessions "session" = some row ∧
      row.identityState = some "pending") ∧
      ∀ row, (samplePending 10).db.sessions "session" = some row →
        ∃ session, rowToSession .quoted row = .ok session ∧
          ∀ now, 0 ≤ now → InTextRange now →
            (admittedByPrevious row now = true ↔
              session.identityState = .ready ∧ isActive session now = true) := by
  refine ⟨⟨_, rfl, rfl⟩, fun row hrow => ?_⟩
  exact rows_readable_and_gated .quoted _ (samplePending 10) (storeRun_samplePending 10 (by decide))
    (writtenInRange_samplePending (by decide) (by decide)) "session" row hrow

/-- A pending row whose gate lies ahead of a clock before the epoch is admitted by the previous
binary, and so is a row past its deadlines when the clock has left the year 9999. -/
theorem gate_open_outside :
    (∃ s row session, StoreRun .quoted (StoreState.initial (-100 * nanosPerSecond)) s ∧
      s.WrittenInRange ∧ s.db.sessions "session" = some row ∧
      rowToSession .quoted row = .ok session ∧ session.identityState = .pending ∧
      admittedByPrevious row s.clock = true) ∧
    (∃ s row session, StoreRun .quoted (StoreState.initial (10 * nanosPerSecond)) s ∧
      s.WrittenInRange ∧ s.db.sessions "session" = some row ∧
      rowToSession .quoted row = .ok session ∧ isActive session endText = false ∧
      admittedByPrevious row endText = true) := by
  constructor
  · refine ⟨samplePending (-100), _, _, storeRun_samplePending (-100) (by decide),
      writtenInRange_samplePending (by decide) (by decide), rfl, rfl, by decide, by decide⟩
  · refine ⟨samplePending 10, _, _, storeRun_samplePending 10 (by decide),
      writtenInRange_samplePending (by decide) (by decide), rfl, rfl, by decide, by decide⟩

end AuthMiniGateway

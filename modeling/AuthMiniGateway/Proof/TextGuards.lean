import AuthMiniGateway.Proof.RollbackGate

/-!
# Text guards

A guard compares texts and a lookup instants. Both say the same of a stored deadline, which is a whole number
of milliseconds. From the year 10000 on the text of the clock starts with a sign and sorts first, so every
guard is open while every lookup finds the row expired.
-/

namespace AuthMiniGateway

open Store

variable {json : AmrJson} {r : Readings} {op : StoreOp} {s s' start : StoreState} {id : String}
  {row : SessionRow} {idle absolute now : Int}

/-! ### Order -/

theorem formatTime_lt_deadline {deadline : Int} (hnow : now < endText) (hrange : InTextRange deadline)
    (hmillis : truncMillis deadline = deadline) :
    formatTime now < formatTime deadline ↔ now < deadline := by
  by_cases hfirst : now < firstText
  · have hdeadline := (inTextRange_iff.mp hrange).1
    exact ⟨fun _ => by omega, fun _ => formatTime_lt_of_before_firstText hfirst hrange⟩
  · have hnowRange : InTextRange now := inTextRange_iff.mpr ⟨by omega, hnow⟩
    rw [formatTime_lt_iff hnowRange hrange, hmillis, ← lt_iff_truncMillis_lt hmillis]

namespace SessionRow

theorem Consistent.live_iff (h : row.Consistent json idle absolute) (hnow : now < endText) :
    row.live (formatTime now) = true ↔ row.revokedAt.isNone = true ∧ now < idle ∧ now < absolute := by
  simp only [live, h.deadlines.idle_text, h.deadlines.absolute_text, textAfter, Bool.and_eq_true,
    decide_eq_true_eq, formatTime_lt_deadline hnow h.idle_range h.deadlines.idle_millis,
    formatTime_lt_deadline hnow h.absolute_range h.deadlines.absolute_millis, and_assoc]

theorem Consistent.live_iff_isActive (h : row.Consistent json idle absolute) (hnow : now < endText)
    {session : GatewaySession} (hreads : row.Reads json session) :
    row.live (formatTime now) = true ↔ isActive session now = true := by
  obtain ⟨hidle, habsolute⟩ := hreads.deadlines h.deadlines
  rw [h.live_iff hnow, isActive, hidle, habsolute, hreads.revokedAt_isNone, Bool.and_eq_true,
    Bool.and_eq_true, decide_eq_true_eq, decide_eq_true_eq, and_assoc]

theorem Deadlines.pruned_eq (h : row.Deadlines idle absolute) (nowText : String) :
    row.pruned nowText = !row.live nowText := by
  simp only [pruned, live, h.idle_text, h.absolute_text, textAtMost, textAfter, Bool.not_and,
    Option.not_isNone]

end SessionRow

/-! ### Statements -/

/-- The one row of `id` is overwritten when the condition holds, and nothing is otherwise. -/
structure Db.WritesWhen (db : Db) (id : String) (written : SessionRow) (condition : Prop) (db' : Db) :
    Prop where
  writes : condition → db' = { db with sessions := Function.update db.sessions id (some written) }
  leaves : ¬condition → db' = db

theorem Db.updateSession_writesWhen {db : Db} {guard : SessionRow → Bool}
    {set : SessionRow → SessionRow} {condition : Prop} (hrow : db.sessions id = some row)
    (hguard : guard row = true ↔ condition) :
    db.WritesWhen id (set row) condition (db.updateSession id guard set).2 := by
  constructor
  · intro hcondition
    rw [updateSession, hrow]
    simp only [hguard.mpr hcondition, if_true]
  · intro hcondition
    have hclosed : ¬guard row = true := fun h => hcondition (hguard.mp h)
    rw [updateSession, hrow]
    simp only [hclosed, if_false, Bool.false_eq_true]

theorem Db.updateSession_count {db : Db} {guard : SessionRow → Bool} {set : SessionRow → SessionRow}
    (hrow : db.sessions id = some row) : (db.updateSession id guard set).1 = 1 ↔ guard row = true := by
  rw [updateSession, hrow]
  by_cases hguard : guard row = true
  · simp [hguard]
  · simp [hguard]

theorem lookupSessionAt_of_reads {db : Db} {session : GatewaySession} (now : Int)
    (hrow : db.sessions id = some row) (hreads : row.Reads json session) :
    lookupSessionAt json db id now =
      if isActive session now then .ok (.active session) else .ok .inactive := by
  rw [lookupSessionAt, hrow]
  simp only [rowToSession_eq_ok_iff.mpr hreads]

theorem prune_sessions_of_deadlines {db : Db} (now : Int) (hrow : db.sessions id = some row)
    (hd : row.Deadlines idle absolute) :
    (prune now db).sessions id = if row.live (formatTime now) then some row else none := by
  change (db.sessions id).filter (fun row => !row.pruned (formatTime now)) = _
  rw [hrow, Option.filter_some, hd.pruned_eq, Bool.not_not]

/-! ### Rows of a run -/

/-- Every call that changed the row wrote instants of the years 0000 to 9999. -/
def StoreState.RowWrittenInRange (s : StoreState) (id : String) : Prop :=
  ∀ event ∈ s.log, event.before.sessions id ≠ event.after.sessions id →
    ∀ instant ∈ event.op.timesWritten event.readings, InTextRange instant

theorem StoreRun.consistent (hstart : start.Stored) (hrows : start.RowsConsistent json)
    (hrun : StoreRun json start s) (hwritten : s.RowWrittenInRange id)
    (hrow : s.db.sessions id = some row) : ∃ idle absolute, row.Consistent json idle absolute := by
  induction hrun generalizing row with
  | refl => exact hrows id row hrow
  | tail hrun hstep ih =>
    obtain ⟨r, op, hpermits, rfl⟩ := hstep
    have hearlier := fun event hevent => hwritten event (List.mem_cons_of_mem _ hevent)
    exact StoreState.consistent_step (fun row hbefore => ih hearlier hbefore) (hstart.deadlined.run hrun) hpermits
      (hwritten _ List.mem_cons_self) hrow

/-- **Guards and lookups.** A row whose instants lie in the years 0000 to 9999 is read back, and at any
time before the year 10000 the guard of a statement holds of it exactly when the session read back is
active. So a prune deletes it exactly when a lookup finds it inactive and leaves it as it is otherwise,
and a call whose version columns match writes exactly when a lookup finds it active. -/
theorem text_guards_agree (json : AmrJson) (start s : StoreState) (hstart : start.Stored)
    (hrows : start.RowsConsistent json) (hrun : StoreRun json start s) (id : String) (row : SessionRow)
    (hrow : s.db.sessions id = some row) (hwritten : s.RowWrittenInRange id) (now : Int)
    (hnow : now < endText) :
    ∃ session, rowToSession json row = .ok session ∧
      (row.live (formatTime now) = true ↔ isActive session now = true) ∧
      ((prune now s.db).sessions id = none ↔ lookupSessionAt json s.db id now = .ok .inactive) ∧
      ((prune now s.db).sessions id = some row ↔
        lookupSessionAt json s.db id now = .ok (.active session)) ∧
      (∀ original next, original.id = id → row.atVersion original = true →
        s.db.WritesWhen id (pendingRow json now next row)
          (lookupSessionAt json s.db id now = .ok (.active session))
          (persistPending json now s.db original next).2) ∧
      (∀ pending email, pending.id = id → row.refreshGeneration = pending.refreshGeneration →
        row.identityState = some "pending" → row.userId = pending.userId →
          s.db.WritesWhen id (readyRow now email row)
            (lookupSessionAt json s.db id now = .ok (.active session))
            (finalizePending json now s.db pending email).2) ∧
      (∀ expected, expected.id = id → row.atVersion expected = true →
        ((conditionalRevoke now s.db expected).1 = true ↔
          lookupSessionAt json s.db id now = .ok (.active session)) ∧
        s.db.WritesWhen id (revokedRow now row)
          (lookupSessionAt json s.db id now = .ok (.active session))
          (conditionalRevoke now s.db expected).2) := by
  obtain ⟨idle, absolute, hc⟩ := hrun.consistent hstart hrows hwritten hrow
  obtain ⟨session, hreads⟩ := hc.exists_reads
  have hagree := hc.live_iff_isActive hnow hreads
  have hlookup := lookupSessionAt_of_reads now hrow hreads
  have hactive : lookupSessionAt json s.db id now = .ok (.active session) ↔
      row.live (formatTime now) = true := by
    rw [hlookup, hagree]
    split_ifs with hsession <;> simp [hsession]
  have hpruned := prune_sessions_of_deadlines now hrow hc.deadlines
  have hsame : row.live (formatTime now) = isActive session now := Bool.eq_iff_iff.mpr hagree
  refine ⟨session, rowToSession_eq_ok_iff.mpr hreads, hagree, ?_, ?_, ?_, ?_, ?_⟩
  · rw [hpruned, hlookup, hsame]
    split_ifs <;> simp
  · rw [hpruned, hactive]
    split_ifs with hlive <;> simp [hlive]
  · rintro original next rfl hversion
    exact Db.updateSession_writesWhen hrow (by rw [hversion, Bool.true_and, hactive])
  · rintro pending email rfl hgeneration hstate huser
    refine Db.updateSession_writesWhen hrow ?_
    simp only [hgeneration, hstate, huser, decide_true, Bool.true_and, hactive]
  · rintro expected rfl hversion
    have hguard : (row.atVersion expected && row.live (formatTime now)) = true ↔
        lookupSessionAt json s.db expected.id now = .ok (.active session) := by
      rw [hversion, Bool.true_and, hactive]
    refine ⟨?_, Db.updateSession_writesWhen hrow hguard⟩
    rw [← hguard, conditionalRevoke, decide_eq_true_eq]
    exact Db.updateSession_count hrow

theorem rowWrittenInRange_sampleStored : (sampleStored 10).RowWrittenInRange "session" := by
  have hcreate : ∀ instant ∈ (StoreOp.createSession sampleLogin).timesWritten (sampleReadings 10),
      InTextRange instant := by decide
  intro event hevent _
  rcases List.mem_cons.mp hevent with rfl | hevent
  · exact hcreate
  · cases hevent

theorem initial_rowsConsistent (json : AmrJson) (clock : Int) :
    (StoreState.initial clock).RowsConsistent json := by
  intro id row hrow
  cases hrow

theorem text_guards_agree_boundary :
    (prune (3610 * nanosPerSecond - 1) (sampleStored 10).db).sessions "session" ≠ none ∧
      (prune (3610 * nanosPerSecond) (sampleStored 10).db).sessions "session" = none := by
  have hagree := fun now hnow => text_guards_agree .quoted (StoreState.initial (10 * nanosPerSecond))
    (sampleStored 10) (initial_stored _) (initial_rowsConsistent _ _) (storeRun_sampleStored 10)
    "session" _ rfl rowWrittenInRange_sampleStored now hnow
  constructor
  · obtain ⟨session, -, -, hpruned, -⟩ := hagree (3610 * nanosPerSecond - 1) (by decide)
    rw [Ne, hpruned]
    decide
  · obtain ⟨session, -, -, hpruned, -⟩ := hagree (3610 * nanosPerSecond) (by decide)
    rw [hpruned]
    decide

/-- In the year 10000 a row of 1970 is kept by a prune and overwritten by a refresh, while a lookup finds
it inactive. -/
theorem guards_open_from_year_10000 :
    ∃ s row session, StoreRun .quoted (StoreState.initial (10 * nanosPerSecond)) s ∧
      s.RowWrittenInRange "session" ∧ s.db.sessions "session" = some row ∧
      rowToSession .quoted row = .ok session ∧ row.live (formatTime endText) = true ∧
      isActive session endText = false ∧
      lookupSessionAt .quoted s.db "session" endText = .ok .inactive ∧
      (prune endText s.db).sessions "session" = some row ∧
      (persistPending .quoted endText s.db session sampleTokens).2.sessions "session" =
        some (pendingRow .quoted endText sampleTokens row) := by
  refine ⟨sampleStored 10, _, sampleSession 10, storeRun_sampleStored 10, rowWrittenInRange_sampleStored,
    rfl, by decide, by decide, by decide, by decide, by decide, by decide⟩

end AuthMiniGateway

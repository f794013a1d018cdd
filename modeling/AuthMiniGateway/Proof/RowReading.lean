import AuthMiniGateway.Lib.Fallible
import AuthMiniGateway.StoreRun

namespace AuthMiniGateway

open Store

structure SessionRow.Reads (json : AmrJson) (row : SessionRow) (session : GatewaySession) :
    Prop where
  id : session.id = row.id
  authSessionId : session.authSessionId = row.authSessionId
  accessToken : session.accessToken = row.accessToken
  refreshToken : session.refreshToken = row.refreshToken
  userId : session.userId = row.userId
  email : session.email = row.email
  amr : json.fromStr row.amrJson = some session.amr
  accessExpiresAt : parseTime row.accessExpiresAt = some session.accessExpiresAt
  sessionExpiresAt : parseTime row.sessionExpiresAt = some session.sessionExpiresAt
  idleExpiresAt : row.idleExpiresAt.bind parseTime = some session.idleExpiresAt
  absoluteExpiresAt : row.absoluteExpiresAt.bind parseTime = some session.absoluteExpiresAt
  lastTouchedAt : row.lastTouchedAt.bind parseTime = some session.lastTouchedAt
  identityState : row.identityState = some session.identityState.asStr
  identityPendingSince :
    row.identityPendingSince.map parseTime = session.identityPendingSince.map some
  refreshGeneration : session.refreshGeneration = row.refreshGeneration
  revokedAt : row.revokedAt.map parseTime = session.revokedAt.map some
  valid : validateSessionInvariants session = .ok ()

section Columns

variable {value : String} {column : Option String}

theorem parseDbTime_eq_ok_iff {instant : Int} :
    parseDbTime value = .ok instant ↔ parseTime value = some instant := by
  unfold parseDbTime
  cases parseTime value <;> simp

theorem parseAmr_eq_ok_iff {json : AmrJson} {amr : List String} :
    parseAmr json value = .ok amr ↔ json.fromStr value = some amr := by
  unfold parseAmr
  cases json.fromStr value <;> simp

theorem getText_eq_ok_iff : getText column = .ok value ↔ column = some value := by
  cases column <;> simp [getText]

theorem parseOptionalTime_eq_ok_iff {instant : Option Int} :
    parseOptionalTime column = .ok instant ↔ column.map parseTime = instant.map some := by
  cases column with
  | none => cases instant <;> simp [parseOptionalTime]
  | some value =>
    cases instant <;> cases hread : parseTime value <;>
      simp [parseOptionalTime, parseDbTime, Except.map, hread]

theorem parseIdentityState_eq_ok_iff {raw : String} {state : IdentityState} :
    parseIdentityState raw = .ok state ↔ raw = state.asStr := by
  unfold parseIdentityState
  constructor
  · intro hparse
    split_ifs at hparse with hready hpending
    · cases hparse
      exact hready
    · cases hparse
      exact hpending
  · intro hraw
    subst hraw
    cases state <;> decide

theorem readText_eq_ok_iff {instant : Int} :
    (∃ value, column = some value ∧ parseTime value = some instant) ↔
      column.bind parseTime = some instant := by
  cases column <;> simp

end Columns

variable {session : GatewaySession}

theorem rowToSession_eq_ok_iff {json : AmrJson} {row : SessionRow} :
    rowToSession json row = .ok session ↔ row.Reads json session := by
  unfold rowToSession
  simp only [Fallible.bind_eq_ok_iff, parseDbTime_eq_ok_iff, getText_eq_ok_iff,
    parseOptionalTime_eq_ok_iff, parseIdentityState_eq_ok_iff, parseAmr_eq_ok_iff]
  constructor
  · rintro ⟨amr, hamr, raw, hraw, state, hstate, access, haccess, expires, hexpires,
      idleText, hidleText, idle, hidle, absoluteText, habsoluteText, absolute, habsolute,
      touchedText, htouchedText, touched, htouched, pendingSince, hpendingSince,
      revoked, hrevoked, valid, hvalid, hsession⟩
    cases hsession
    refine ⟨rfl, rfl, rfl, rfl, rfl, rfl, hamr, haccess, hexpires, ?_, ?_, ?_, ?_, hpendingSince, rfl,
      hrevoked, hvalid⟩
    · simp [hidleText, hidle]
    · simp [habsoluteText, habsolute]
    · simp [htouchedText, htouched]
    · rw [hraw, hstate]
  · intro h
    obtain ⟨idleText, hidleText, hidle⟩ := readText_eq_ok_iff.mpr h.idleExpiresAt
    obtain ⟨absoluteText, habsoluteText, habsolute⟩ := readText_eq_ok_iff.mpr h.absoluteExpiresAt
    obtain ⟨touchedText, htouchedText, htouched⟩ := readText_eq_ok_iff.mpr h.lastTouchedAt
    have hsession : session =
        { id := row.id, authSessionId := row.authSessionId, accessToken := row.accessToken,
          refreshToken := row.refreshToken, userId := row.userId, email := row.email,
          amr := session.amr, accessExpiresAt := session.accessExpiresAt,
          sessionExpiresAt := session.sessionExpiresAt, idleExpiresAt := session.idleExpiresAt,
          absoluteExpiresAt := session.absoluteExpiresAt, lastTouchedAt := session.lastTouchedAt,
          identityState := session.identityState,
          identityPendingSince := session.identityPendingSince,
          refreshGeneration := row.refreshGeneration, revokedAt := session.revokedAt } := by
      rw [← h.id, ← h.authSessionId, ← h.accessToken, ← h.refreshToken, ← h.userId, ← h.email,
        ← h.refreshGeneration]
    refine ⟨session.amr, h.amr, _, h.identityState, _, rfl, _, h.accessExpiresAt, _,
      h.sessionExpiresAt, _, hidleText, _, hidle, _, habsoluteText, _, habsolute, _, htouchedText, _,
      htouched, _, h.identityPendingSince, _, h.revokedAt, (), ?_, ?_⟩
    · rw [← hsession]
      exact h.valid
    · rw [← hsession]
      rfl

theorem validateSessionInvariants_eq_ok_iff :
    validateSessionInvariants session = .ok () ↔
      session.idleExpiresAt ≤ session.absoluteExpiresAt ∧ 0 ≤ session.refreshGeneration ∧
        match session.identityState with
        | .ready => session.identityPendingSince.isNone = true ∧
            session.sessionExpiresAt = session.idleExpiresAt
        | .pending => session.identityPendingSince.isSome = true ∧
            formatTime session.sessionExpiresAt = compatDenyAt := by
  unfold validateSessionInvariants
  by_cases hbad : session.idleExpiresAt > session.absoluteExpiresAt ∨ session.refreshGeneration < 0
  · rw [if_pos hbad]
    simp only [reduceCtorEq, false_iff, not_and]
    omega
  · have hgood : session.idleExpiresAt ≤ session.absoluteExpiresAt ∧
        0 ≤ session.refreshGeneration := by omega
    rw [if_neg hbad]
    cases session.identityState <;> simp [hgood]

theorem SessionRow.Reads.revokedAt_isNone {json : AmrJson} {row : SessionRow}
    (h : row.Reads json session) : session.revokedAt.isNone = row.revokedAt.isNone := by
  have hrevoked := congrArg Option.isNone h.revokedAt
  simpa using hrevoked.symm

section HandedOut

variable {json : AmrJson} {db : Db} {id : String} {now : Int} {session : GatewaySession}

/-- `session` is what an active row of `db` reads as at `now`. -/
def ReadFrom (json : AmrJson) (db : Db) (now : Int) (session : GatewaySession) : Prop :=
  ∃ id row, db.sessions id = some row ∧ row.Reads json session ∧ isActive session now = true

theorem lookupSessionAt_eq_active_iff :
    lookupSessionAt json db id now = .ok (.active session) ↔
      ∃ row, db.sessions id = some row ∧ row.Reads json session ∧ isActive session now = true := by
  unfold lookupSessionAt
  cases hrow : db.sessions id with
  | none => simp
  | some row =>
    simp only [Option.some.injEq, exists_eq_left', ← rowToSession_eq_ok_iff]
    cases hread : rowToSession json row with
    | error => simp
    | ok read =>
      by_cases hactive : isActive read now = true
      · simp only [hactive, if_true, Except.ok.injEq, SessionLookup.active.injEq]
        constructor
        · rintro rfl
          exact ⟨rfl, hactive⟩
        · exact fun h => h.1
      · simp only [hactive, if_false, Except.ok.injEq, reduceCtorEq, false_iff, not_and]
        rintro rfl
        exact hactive

theorem ReadFrom.of_lookup (h : lookupSessionAt json db id now = .ok (.active session)) :
    ReadFrom json db now session :=
  ⟨id, lookupSessionAt_eq_active_iff.mp h⟩

theorem resolveCas_eq_ok {changed : Nat} {result : CasResult}
    (h : resolveCas json db id now changed = .ok result) :
    (∃ session, lookupSessionAt json db id now = .ok (.active session) ∧
      result = if changed = 1 then .updated session else .current session) ∨
      lookupSessionAt json db id now = .ok .inactive ∧ result = .inactive := by
  unfold resolveCas at h
  split at h
  · rename_i session hlookup
    left
    refine ⟨session, hlookup, ?_⟩
    split_ifs at h ⊢ <;> exact (Except.ok.inj h).symm
  · rename_i hlookup
    exact Or.inr ⟨hlookup, (Except.ok.inj h).symm⟩
  · cases h

theorem resolveCas_lookup {changed : Nat} {result : CasResult}
    (h : resolveCas json db id now changed = .ok result)
    (hsession : result = .updated session ∨ result = .current session) :
    lookupSessionAt json db id now = .ok (.active session) := by
  rcases resolveCas_eq_ok h with ⟨read, hlookup, hresult⟩ | ⟨-, hresult⟩
  · have hread : read = session := by
      split_ifs at hresult <;> simp_all
    exact hread ▸ hlookup
  · rcases hsession with heq | heq <;> simp [heq] at hresult

theorem ofExcept_eq_ok_iff {α : Type} {x : Except StoreError α} {value : α} :
    Res.ofExcept x = .ok value ↔ x = .ok value := by
  cases x <;> simp [Res.ofExcept]

theorem createSession_lookup {pruneNow : Int} {input : NewSession}
    (h : (createSession json pruneNow now id db input).1 = .ok session) :
    lookupSessionAt json (createSession json pruneNow now id db input).2 id now =
      .ok (.active session) := by
  unfold createSession at h ⊢
  dsimp only at h ⊢
  split at h
  · split at h
    · cases h
    · split at h
      · rename_i hlookup
        cases h
        exact hlookup
      · cases h
      · cases h
  · cases h

theorem touchReady_eq_ok {original : GatewaySession} {idleTtl interval : Int} {result : TouchResult}
    (h : (touchReady json now db original idleTtl interval).1 = .ok result) :
    result = .notDue original ∨ result = .lost ∨
      ∃ candidate, touchReady json now db original idleTtl interval =
          (.ok result, (touchRow now candidate db original).2) ∧
        (touchRow now candidate db original).1 = 1 ∧
        ∃ session, result = .advanced session ∧
          lookupSessionAt json (touchRow now candidate db original).2 original.id now =
            .ok (.active session) := by
  unfold touchReady at h ⊢
  by_cases hlost : original.identityState ≠ .ready ∨ isActive original now = false
  · rw [if_pos hlost] at h
    exact Or.inr (Or.inl (Res.ok.inj h).symm)
  · rw [if_neg hlost] at h ⊢
    cases hinterval : durationSeconds interval with
    | none => simp [hinterval] at h
    | some duration =>
      by_cases hrecent : now - original.lastTouchedAt < duration
      · simp only [hinterval, hrecent, if_true, Res.ok.injEq] at h
        exact Or.inl h.symm
      · cases hextended : addSeconds now idleTtl with
        | none => simp [hinterval, hrecent, hextended] at h
        | some extended =>
          by_cases hlater : min extended original.absoluteExpiresAt ≤ original.idleExpiresAt
          · simp only [hinterval, hrecent, hextended, hlater, if_true, if_false, Res.ok.injEq] at h
            exact Or.inl h.symm
          · simp only [hinterval, hrecent, hextended, hlater, if_false] at h ⊢
            right
            generalize hcandidate : min extended original.absoluteExpiresAt = candidate at h ⊢
            by_cases hchanged : (touchRow now candidate db original).1 ≠ 1
            · rw [if_pos hchanged] at h
              exact Or.inl (Res.ok.inj h).symm
            · rw [if_neg hchanged] at h ⊢
              split at h
              · rename_i session hlookup
                right
                have hresult := (Res.ok.inj h).symm
                exact ⟨candidate, by rw [hresult], not_not.mp hchanged, session, hresult,
                  hlookup⟩
              · exact Or.inl (Res.ok.inj h).symm
              · cases h

def StoreOp.target (r : Readings) : StoreOp → Option String
  | lookupSession id => some id
  | createSession _ => some r.token
  | revokeSession id => some id
  | conditionalRevoke expected => some expected.id
  | persistPending original _ => some original.id
  | finalizePending pending _ => some pending.id
  | touchReady original _ _ => some original.id
  | _ => none

/-- **Every session handed out** is a snapshot handed in or the row in question, active, as it is
now. -/
theorem sessionsIn_lookup {r : Readings} {op : StoreOp}
    (h : session ∈ op.sessionsIn (op.exec json r db).1) :
    session ∈ op.snapshots ∨ ∃ key, op.target r = some key ∧
      lookupSessionAt json (op.exec json r db).2 key r.now = .ok (.active session) := by
  cases hreply : (op.exec json r db).1 with
  | err error | panic => simp [hreply, StoreOp.sessionsIn] at h
  | ok value =>
    rw [hreply] at h
    change session ∈ op.handedOut value at h
    cases op with
    | lookupSession id =>
      cases value with
      | inactive => simp [StoreOp.handedOut] at h
      | active =>
        rw [List.mem_singleton.mp h]
        exact Or.inr ⟨id, rfl, ofExcept_eq_ok_iff.mp hreply⟩
    | createSession =>
      rw [List.mem_singleton.mp h]
      exact Or.inr ⟨r.token, rfl, createSession_lookup hreply⟩
    | persistPending original =>
      right
      refine ⟨original.id, rfl, resolveCas_lookup (ofExcept_eq_ok_iff.mp hreply) ?_⟩
      cases value with
      | updated => exact Or.inl (by rw [List.mem_singleton.mp h])
      | current => exact Or.inr (by rw [List.mem_singleton.mp h])
      | inactive => simp [StoreOp.handedOut] at h
    | finalizePending pending =>
      right
      refine ⟨pending.id, rfl, resolveCas_lookup (ofExcept_eq_ok_iff.mp hreply) ?_⟩
      cases value with
      | updated => exact Or.inl (by rw [List.mem_singleton.mp h])
      | current => exact Or.inr (by rw [List.mem_singleton.mp h])
      | inactive => simp [StoreOp.handedOut] at h
    | touchReady original idleTtl interval =>
      rcases touchReady_eq_ok hreply with rfl | rfl | ⟨candidate, heq, -, read, rfl, hlookup⟩
      · exact Or.inl h
      · simp [StoreOp.handedOut] at h
      · right
        rw [List.mem_singleton.mp h]
        refine ⟨original.id, rfl, ?_⟩
        change lookupSessionAt json (touchReady json r.now db original idleTtl interval).2 _ _ = _
        rw [heq]
        exact hlookup
    | _ => simp [StoreOp.handedOut] at h

theorem sessionsIn_cases {r : Readings} {op : StoreOp}
    (h : session ∈ op.sessionsIn (op.exec json r db).1) :
    session ∈ op.snapshots ∨ ReadFrom json (op.exec json r db).2 r.now session := by
  rcases sessionsIn_lookup h with hsnapshot | ⟨key, -, hlookup⟩
  · exact Or.inl hsnapshot
  · exact Or.inr (.of_lookup hlookup)

end HandedOut

end AuthMiniGateway

import AuthMiniGateway.StoreRun

/-!
# What one call does to one row

`RowUpdate` lists every way in which a call can change a row, with its guard, and `exec_rowEffect` says that
beside that a row can only be pruned or created. The invariants of a run are proved over this list.
-/

namespace AuthMiniGateway

open Store

inductive RowUpdate (json : AmrJson) (r : Readings) (id : String) :
    StoreOp → SessionRow → SessionRow → Prop where
  | unchanged {op : StoreOp} {row : SessionRow} : RowUpdate json r id op row row
  | revoked {row : SessionRow} (hunrevoked : row.revokedAt = none) :
      RowUpdate json r id (.revokeSession id) row (revokedRow r.now row)
  | conditionallyRevoked {row : SessionRow} {expected : GatewaySession} (hid : expected.id = id)
      (hversion : row.atVersion expected = true) (hlive : row.live (formatTime r.now) = true) :
      RowUpdate json r id (.conditionalRevoke expected) row (revokedRow r.now row)
  | persisted {row : SessionRow} {original : GatewaySession} {next : PendingTokens}
      (hid : original.id = id) (hversion : row.atVersion original = true)
      (hlive : row.live (formatTime r.now) = true) :
      RowUpdate json r id (.persistPending original next) row (pendingRow json r.now next row)
  | finalized {row : SessionRow} {pending : GatewaySession} {email : Option String}
      (hid : pending.id = id) (hgeneration : row.refreshGeneration = pending.refreshGeneration)
      (hstate : row.identityState = some "pending") (huser : row.userId = pending.userId)
      (hlive : row.live (formatTime r.now) = true) :
      RowUpdate json r id (.finalizePending pending email) row (readyRow r.now email row)
  | touched {row : SessionRow} {original : GatewaySession} {idleTtl interval extended : Int}
      (hid : original.id = id) (hactive : isActive original r.now = true)
      (hextended : addSeconds r.now idleTtl = some extended)
      (hlater : original.idleExpiresAt < min extended original.absoluteExpiresAt)
      (hgeneration : row.refreshGeneration = original.refreshGeneration)
      (hstate : row.identityState = some "ready")
      (hidle : row.idleExpiresAt = some (formatTime original.idleExpiresAt))
      (hlive : row.live (formatTime r.now) = true) :
      RowUpdate json r id (.touchReady original idleTtl interval) row
        (touchedRow r.now (min extended original.absoluteExpiresAt) row)

def StoreOp.prunes : StoreOp → Bool
  | createLoginState _ _ => true
  | createSession _ => true
  | prune => true
  | _ => false

inductive RowEffect (json : AmrJson) (r : Readings) (id : String) (op : StoreOp) :
    Option SessionRow → Option SessionRow → Prop where
  | absent : RowEffect json r id op none none
  | updated {row row' : SessionRow} (hupdate : RowUpdate json r id op row row') :
      RowEffect json r id op (some row) (some row')
  | pruned {row : SessionRow} {now : Int} (hop : op.prunes = true)
      (hnow : now = r.pruneNow ∨ now = r.now) (hpruned : row.pruned (formatTime now) = true) : RowEffect json r id op (some row) none
  | created {input : NewSession} {before : Option SessionRow} {idle absolute : Int}
      (hop : op = .createSession input) (hid : id = r.token)
      (habsolute : addSeconds r.now input.absoluteTtlSeconds = some absolute)
      (hidle : addSeconds r.now input.idleTtlSeconds = some idle) :
      RowEffect json r id op before
        (some (newRow json r.now r.token input (min idle absolute) absolute))

section Statements

variable {db : Db} {id target : String} {guard : SessionRow → Bool}
  {set : SessionRow → SessionRow}

theorem updateSession_sessions :
    (db.updateSession target guard set).2.sessions id = db.sessions id ∨
      target = id ∧ ∃ row, db.sessions id = some row ∧ guard row = true ∧
        (db.updateSession target guard set).2.sessions id = some (set row) := by
  unfold Db.updateSession
  cases hrow : db.sessions target with
  | none => exact Or.inl rfl
  | some row =>
    by_cases hguard : guard row = true
    · by_cases hid : target = id
      · subst hid
        exact Or.inr ⟨rfl, row, hrow, hguard, by simp [hguard]⟩
      · left
        simp [hguard, Function.update_of_ne (Ne.symm hid)]
    · left
      simp [hguard]

theorem prune_sessions (db : Db) (id : String) (now : Int) :
    (prune now db).sessions id = db.sessions id ∨
      ∃ row, db.sessions id = some row ∧ row.pruned (formatTime now) = true ∧
        (prune now db).sessions id = none := by
  cases hrow : db.sessions id with
  | none => left; simp [prune, hrow]
  | some row =>
    cases hpruned : row.pruned (formatTime now) with
    | false => left; simp [prune, hrow, hpruned, Option.filter]
    | true => exact Or.inr ⟨row, rfl, hpruned, by simp [prune, hrow, hpruned, Option.filter]⟩

theorem updateSession_changed (h : (db.updateSession target guard set).1 = 1) :
    ∃ row, db.sessions target = some row ∧ guard row = true ∧
      (db.updateSession target guard set).2.sessions target = some (set row) := by
  unfold Db.updateSession at h ⊢
  cases hrow : db.sessions target with
  | none => simp [hrow] at h
  | some row =>
    by_cases hguard : guard row = true
    · exact ⟨row, rfl, hguard, by simp [hguard]⟩
    · simp [hrow, hguard] at h

theorem updateSession_unchanged (h : (db.updateSession target guard set).1 ≠ 1) :
    (db.updateSession target guard set).2 = db := by
  unfold Db.updateSession at h ⊢
  cases hrow : db.sessions target with
  | none => rfl
  | some row =>
    by_cases hguard : guard row = true
    · simp [hrow, hguard] at h
    · simp [hguard]

end Statements

section Calls

variable {json : AmrJson} {r : Readings} {db : Db} {id : String}

theorem RowEffect.unchanged {op : StoreOp} {before : Option SessionRow} :
    RowEffect json r id op before before := by
  cases before with
  | none => exact .absent
  | some => exact .updated .unchanged

theorem rowEffect_prune {op : StoreOp} {now : Int} (hop : op.prunes = true) (hnow : now = r.pruneNow ∨ now = r.now) :
    RowEffect json r id op (db.sessions id) ((prune now db).sessions id) := by
  rcases prune_sessions db id now with hsame | ⟨row, hrow, hpruned, hnone⟩
  · rw [hsame]
    exact .unchanged
  · rw [hrow, hnone]
    exact .pruned hop hnow hpruned

theorem createLoginState_sessions (returnTo : String) (ttlSeconds : Int) :
    (createLoginState r.pruneNow r.now r.token db returnTo ttlSeconds).2.sessions =
      (prune r.pruneNow db).sessions := by
  unfold createLoginState
  dsimp only
  split
  · rfl
  · split <;> rfl

theorem consumeLoginState_sessions (now : Int) (loginId : String) :
    (consumeLoginState now db loginId).2.sessions = db.sessions := by
  unfold consumeLoginState
  split
  · rfl
  · split
    · split <;> rfl
    · rfl

theorem createSession_rowEffect (input : NewSession) :
    RowEffect json r id (.createSession input) (db.sessions id)
      ((createSession json r.pruneNow r.now r.token db input).2.sessions id) := by
  unfold createSession
  dsimp only
  split
  · rename_i absolute idle habsolute hidle
    split
    · exact rowEffect_prune rfl (Or.inl rfl)
    · dsimp only
      by_cases hid : id = r.token
      · subst hid
        rw [Function.update_self]
        exact .created rfl rfl habsolute hidle
      · rw [Function.update_of_ne hid]
        exact rowEffect_prune rfl (Or.inl rfl)
  · exact rowEffect_prune rfl (Or.inl rfl)

theorem touchReady_rowEffect (original : GatewaySession) (idleTtl interval : Int) :
    RowEffect json r id (.touchReady original idleTtl interval) (db.sessions id)
      ((touchReady json r.now db original idleTtl interval).2.sessions id) := by
  unfold touchReady
  split_ifs with hlost
  · exact .unchanged
  · split
    · exact .unchanged
    · split_ifs
      · exact .unchanged
      · split
        · exact .unchanged
        · rename_i extended hextended
          dsimp only
          split
          · exact .unchanged
          · rename_i hlater
            unfold touchRow
            rcases updateSession_sessions with hsame | ⟨hid, row, hrow, hguard, hset⟩
            · rw [hsame]
              exact .unchanged
            · rw [hrow, hset]
              obtain ⟨-, hactive⟩ := not_or.mp hlost
              simp only [Bool.and_eq_true, decide_eq_true_eq] at hguard
              obtain ⟨⟨⟨hgeneration, hstate⟩, hidle⟩, hlive⟩ := hguard
              exact .updated <| .touched hid (by simpa using hactive) hextended (by omega) hgeneration hstate
                hidle hlive

theorem conditionalRevoke_rowEffect (expected : GatewaySession) :
    RowEffect json r id (.conditionalRevoke expected) (db.sessions id)
      ((conditionalRevoke r.now db expected).2.sessions id) := by
  unfold conditionalRevoke
  dsimp only
  rcases updateSession_sessions with hsame | ⟨hid, row, hrow, hguard, hset⟩
  · rw [hsame]
    exact .unchanged
  · rw [hrow, hset]
    obtain ⟨hversion, hlive⟩ := Bool.and_eq_true_iff.mp hguard
    exact .updated <| .conditionallyRevoked hid hversion hlive

theorem revokeSession_rowEffect (target : String) :
    RowEffect json r id (.revokeSession target) (db.sessions id)
      ((revokeSession r.now db target).2.sessions id) := by
  unfold revokeSession
  dsimp only
  rcases updateSession_sessions with hsame | ⟨hid, row, hrow, hguard, hset⟩
  · rw [hsame]
    exact .unchanged
  · subst hid
    rw [hrow, hset]
    exact .updated <| .revoked (Option.isNone_iff_eq_none.mp hguard)

theorem persistPending_rowEffect (original : GatewaySession) (next : PendingTokens) :
    RowEffect json r id (.persistPending original next) (db.sessions id)
      ((persistPending json r.now db original next).2.sessions id) := by
  unfold persistPending
  dsimp only
  rcases updateSession_sessions with hsame | ⟨hid, row, hrow, hguard, hset⟩
  · rw [hsame]
    exact .unchanged
  · rw [hrow, hset]
    obtain ⟨hversion, hlive⟩ := Bool.and_eq_true_iff.mp hguard
    exact .updated <| .persisted hid hversion hlive

theorem finalizePending_rowEffect (pending : GatewaySession) (email : Option String) :
    RowEffect json r id (.finalizePending pending email) (db.sessions id)
      ((finalizePending json r.now db pending email).2.sessions id) := by
  unfold finalizePending
  dsimp only
  rcases updateSession_sessions with hsame | ⟨hid, row, hrow, hguard, hset⟩
  · rw [hsame]
    exact .unchanged
  · rw [hrow, hset]
    simp only [Bool.and_eq_true, decide_eq_true_eq] at hguard
    obtain ⟨⟨⟨hgeneration, hstate⟩, huser⟩, hlive⟩ := hguard
    exact .updated <| .finalized hid hgeneration hstate huser hlive

/-- **The list of effects is complete.** -/
theorem exec_rowEffect (json : AmrJson) (r : Readings) (db : Db) (op : StoreOp) (id : String) :
    RowEffect json r id op (db.sessions id) ((op.exec json r db).2.sessions id) := by
  cases op with
  | lookupSession | logoutAccessSnapshot => exact .unchanged
  | createLoginState =>
    simp only [StoreOp.exec, createLoginState_sessions]
    exact rowEffect_prune rfl (Or.inl rfl)
  | consumeLoginState =>
    simp only [StoreOp.exec, consumeLoginState_sessions]
    exact .unchanged
  | createSession input => exact createSession_rowEffect input
  | revokeSession target => exact revokeSession_rowEffect target
  | conditionalRevoke expected => exact conditionalRevoke_rowEffect expected
  | persistPending original next => exact persistPending_rowEffect original next
  | finalizePending pending email => exact finalizePending_rowEffect pending email
  | touchReady original idleTtl interval => exact touchReady_rowEffect original idleTtl interval
  | prune => exact rowEffect_prune rfl (Or.inr rfl)

end Calls

end AuthMiniGateway

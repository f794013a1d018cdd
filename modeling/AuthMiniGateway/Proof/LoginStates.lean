import AuthMiniGateway.StoreRun

namespace AuthMiniGateway

open Store

def SameTargets (before after : Db) : Prop :=
  ∀ id row, after.loginStates id = some row →
    ∃ earlier, before.loginStates id = some earlier ∧ earlier.returnTo = row.returnTo

theorem SameTargets.of_eq {before after : Db} (h : after.loginStates = before.loginStates) :
    SameTargets before after := by
  intro id row hrow
  rw [h] at hrow
  exact ⟨row, hrow, rfl⟩

section Calls

variable (db : Db)

theorem sameTargets_prune (now : Int) : SameTargets db (prune now db) := by
  intro id row hrow
  exact ⟨row, (Option.filter_eq_some_iff.mp hrow).1, rfl⟩

theorem sameTargets_updateSession (id : String) (guard : SessionRow → Bool)
    (set : SessionRow → SessionRow) : SameTargets db (db.updateSession id guard set).2 := by
  apply SameTargets.of_eq
  unfold Db.updateSession
  split
  · rfl
  · split_ifs <;> rfl

theorem sameTargets_consumeLoginState (now : Int) (loginId : String) :
    SameTargets db (consumeLoginState now db loginId).2 := by
  unfold consumeLoginState
  split
  · exact .of_eq rfl
  · rename_i row hrow
    split_ifs
    · split
      · exact .of_eq rfl
      · intro id row' hrow'
        by_cases hid : id = loginId
        · subst hid
          dsimp only at hrow'
          rw [Function.update_self] at hrow'
          cases hrow'
          exact ⟨row, hrow, rfl⟩
        · dsimp only at hrow'
          rw [Function.update_of_ne hid] at hrow'
          exact ⟨row', hrow', rfl⟩
    · exact .of_eq rfl

theorem sameTargets_createSession (json : AmrJson) (pruneNow now : Int) (sessionId : String)
    (input : NewSession) :
    SameTargets db (createSession json pruneNow now sessionId db input).2 := by
  unfold createSession
  dsimp only
  split
  · split
    · exact sameTargets_prune db pruneNow
    · exact sameTargets_prune db pruneNow
  · exact sameTargets_prune db pruneNow

theorem sameTargets_touchReady (json : AmrJson) (now : Int) (original : GatewaySession)
    (idleTtl interval : Int) :
    SameTargets db (touchReady json now db original idleTtl interval).2 := by
  unfold touchReady
  split_ifs
  · exact .of_eq rfl
  · split
    · exact .of_eq rfl
    · split_ifs
      · exact .of_eq rfl
      · split
        · exact .of_eq rfl
        · dsimp only
          split_ifs
          · exact .of_eq rfl
          · exact sameTargets_updateSession db _ _ _
          · exact sameTargets_updateSession db _ _ _

theorem createLoginState_loginStates (pruneNow now : Int) (loginId returnTo : String)
    (ttlSeconds : Int) {id : String} {row : LoginRow}
    (hrow : (createLoginState pruneNow now loginId db returnTo ttlSeconds).2.loginStates id =
      some row) :
    (∃ earlier, db.loginStates id = some earlier ∧ earlier.returnTo = row.returnTo) ∨
      row.returnTo = returnTo := by
  unfold createLoginState at hrow
  dsimp only at hrow
  split at hrow
  · exact Or.inl (sameTargets_prune db pruneNow id row hrow)
  · split at hrow
    · exact Or.inl (sameTargets_prune db pruneNow id row hrow)
    · by_cases hid : id = loginId
      · subst hid
        dsimp only at hrow
        rw [Function.update_self] at hrow
        cases hrow
        exact Or.inr rfl
      · dsimp only at hrow
        rw [Function.update_of_ne hid] at hrow
        exact Or.inl (sameTargets_prune db pruneNow id row hrow)

end Calls

theorem exec_loginStates (json : AmrJson) (r : Readings) (db : Db) (op : StoreOp) {id : String}
    {row : LoginRow} (hrow : (op.exec json r db).2.loginStates id = some row) :
    (∃ earlier, db.loginStates id = some earlier ∧ earlier.returnTo = row.returnTo) ∨
      ∃ ttl, op = .createLoginState row.returnTo ttl := by
  cases op with
  | createLoginState returnTo ttl =>
    rcases createLoginState_loginStates db r.pruneNow r.now r.token returnTo ttl hrow with h | rfl
    · exact Or.inl h
    · exact Or.inr ⟨ttl, rfl⟩
  | lookupSession key | logoutAccessSnapshot key => exact Or.inl ⟨row, hrow, rfl⟩
  | consumeLoginState key => exact Or.inl (sameTargets_consumeLoginState db r.now key id row hrow)
  | createSession input =>
    exact Or.inl (sameTargets_createSession db json r.pruneNow r.now r.token input id row hrow)
  | revokeSession key | conditionalRevoke expected | persistPending original next
  | finalizePending => exact Or.inl (sameTargets_updateSession db _ _ _ id row hrow)
  | touchReady original idleTtl interval =>
    exact Or.inl (sameTargets_touchReady db json r.now original idleTtl interval id row hrow)
  | prune => exact Or.inl (sameTargets_prune db r.now id row hrow)

/-! ### Runs -/

def StoreState.TargetsLogged (s : StoreState) : Prop :=
  ∀ id row, s.db.loginStates id = some row →
    ∃ event ∈ s.log, ∃ ttl, event.op = .createLoginState row.returnTo ttl

theorem StoreState.TargetsLogged.step {json : AmrJson} {s s' : StoreState} (h : s.TargetsLogged)
    (hstep : StoreStep json s s') : s'.TargetsLogged := by
  obtain ⟨r, op, -, rfl⟩ := hstep
  intro id row hrow
  rcases exec_loginStates json r s.db op hrow with ⟨earlier, hearlier, htarget⟩ | ⟨ttl, hop⟩
  · obtain ⟨event, hevent, hlogged⟩ := h id earlier hearlier
    rw [htarget] at hlogged
    exact ⟨event, List.mem_cons_of_mem _ hevent, hlogged⟩
  · exact ⟨_, List.mem_cons_self, ttl, hop⟩

theorem StoreState.targetsLogged_of_run {json : AmrJson} {clock : Int} {s : StoreState}
    (hrun : StoreRun json (.initial clock) s) : s.TargetsLogged := by
  induction hrun with
  | refl =>
    intro id row hrow
    cases hrow
  | tail _ hstep ih => exact ih.step hstep

theorem consumeLoginState_returnTo {now : Int} {db : Db} {id : String} {state : LoginState}
    (h : (consumeLoginState now db id).1 = .ok (some state)) :
    ∃ row, db.loginStates id = some row ∧ row.returnTo = state.returnTo := by
  unfold consumeLoginState at h
  split at h
  · cases h
  · rename_i row hrow
    split_ifs at h
    · split at h
      · cases h
      · cases h
        exact ⟨row, hrow, rfl⟩
    · cases h

end AuthMiniGateway

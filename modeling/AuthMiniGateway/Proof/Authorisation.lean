import AuthMiniGateway.Proof.CookieText
import AuthMiniGateway.Proof.FlightOutcomes
import AuthMiniGateway.Proof.SafeTargets
import AuthMiniGateway.Proof.SystemRun

namespace AuthMiniGateway

open Store

/-! ### The row at its moments -/

variable {json : AmrJson} {platform : Platform} {config : Config}

abbrev SystemEvent := Event serverInterface SystemWorld

/-- What an Allow for `userId` shows of the run: the last lookup, the reading of the clock after it, and
the touch. The clock of a store after a call is the one that the call has read. -/
def Authorised (json : AmrJson) (mac : Mac) (config : Config) (cookieHeader : Option String)
    (userId : String) (history : List SystemEvent) : Prop :=
  ∃ sessionId header,
    cookieHeader = some header ∧
    parseCookie header sessionCookie = some (signValue mac sessionId config.cookieSecret) ∧
    ∃ (touch clock lookup : SystemEvent) (earlier : List SystemEvent),
      history = touch :: clock :: lookup :: earlier ∧
      (∃ original idleTtl interval, touch.op = .store (.touchReady original idleTtl interval)) ∧
      clock.op = .now ∧ lookup.op = .store (.lookupSession sessionId) ∧
      ∃ row session, lookup.before.store.db.sessions sessionId = some row ∧
        rowToSession json row = .ok session ∧ row.revokedAt = none ∧
        lookup.after.store.clock < session.idleExpiresAt ∧
        lookup.after.store.clock < session.absoluteExpiresAt ∧
        session.identityState = .ready ∧
        clock.after.store.clock + config.refreshSkewSeconds * nanosPerSecond <
          session.accessExpiresAt ∧
        row.userId = userId ∧ userId ∈ config.allowUserIds

/-- The row has moved to another generation, or has still the user it had. -/
def SameUserAt (generation : Int) (userId : String) (row : SessionRow) : Prop :=
  generation ≤ row.refreshGeneration ∧ (row.refreshGeneration = generation → row.userId = userId)

theorem SameUserAt.update {generation : Int} {userId id : String} {r : Readings} {op : StoreOp}
    {row row' : SessionRow} (hupdate : RowUpdate json r id op row row')
    (h : SameUserAt generation userId row) : SameUserAt generation userId row' := by
  cases hupdate with
  | persisted =>
    refine ⟨by dsimp only [pendingRow]; exact h.1.trans (by omega), ?_⟩
    intro heq
    have hle := h.1
    dsimp only [pendingRow] at heq
    omega
  | _ => exact h

theorem StoreServes.of_ok {op : StoreOp} {s s' : StoreState} {value : op.Value}
    (h : StoreServes json op s (.ok value) s') :
    ∃ r, (op.exec json r s.db).1 = .ok value ∧ s' = s.step json r op := by
  rcases h with ⟨r, -, hreply | ⟨error, herror⟩, hstep⟩ | ⟨error, herror, -⟩
  · exact ⟨r, hreply.symm, hstep⟩
  · cases herror
  · cases herror

theorem touch_userId {id : String} {now idleTtl interval : Int} {db : Db}
    {session touched : GatewaySession} {result : TouchResult} (hid : session.id = id)
    (hsame : ∀ row, db.sessions id = some row →
      SameUserAt session.refreshGeneration session.userId row)
    (h : (touchReady json now db session idleTtl interval).1 = .ok result)
    (hresult : result = .notDue touched ∨ result = .advanced touched) :
    touched.userId = session.userId := by
  rcases touchReady_eq_ok h with hnotDue | hlost | ⟨candidate, -, hchanged, advanced, hadvanced, hlookup⟩
  · rcases hresult with heq | heq
    · rw [hnotDue] at heq
      cases heq
      rfl
    · rw [hnotDue] at heq
      cases heq
  · rw [hlost] at hresult
    rcases hresult with heq | heq <;> cases heq
  · have heq : advanced = touched := by
      rcases hresult with heq | heq
      · rw [hadvanced] at heq
        cases heq
      · rw [hadvanced] at heq
        cases heq
        rfl
    subst heq
    obtain ⟨before, hbefore, hguard, hafter⟩ := updateSession_changed hchanged
    obtain ⟨after, hafter', hreads, -⟩ := lookupSessionAt_eq_active_iff.mp hlookup
    rw [touchRow, hafter] at hafter'
    cases hafter'
    rw [hid] at hbefore
    simp only [Bool.and_eq_true, decide_eq_true_eq] at hguard
    rw [hreads.userId]
    exact (hsame before hbefore).2 hguard.1.1.1

/-! ### Decisions in a run -/

section Runs

variable {start : SystemWorld} {pool : Pool serverInterface Nat SystemWorld SystemJob SystemAnswer}
  {i : Nat} {job : SystemJob} {answer : SystemAnswer} {history : List SystemEvent}
  {born : SystemWorld} {identity : VerifiedIdentity}

theorem allowed_events (hrun : PoolRun (systemMachine json platform config) (Pool.idle start) pool)
    (hworker : pool.workers i = some ⟨job, .pure answer, history, born⟩)
    (hallows : answer.Allows identity) :
    ∃ sessionId session now result touched earlier touch₀ touch₁ clock₀ clock₁ lookup₀ lookup₁,
      readSignedCookie platform.mac job.cookie sessionCookie config.cookieSecret = some sessionId ∧
      history =
        ⟨⟨.store (.touchReady session config.sessionTtlSeconds config.sessionTouchIntervalSeconds),
          .ok result⟩, touch₀, touch₁⟩ ::
        ⟨⟨.now, now⟩, clock₀, clock₁⟩ ::
        ⟨⟨.store (.lookupSession sessionId), .ok (.active session)⟩, lookup₀, lookup₁⟩ :: earlier ∧
      (result = .notDue touched ∨ result = .advanced touched) ∧ identity.userId = touched.userId ∧
      session.identityState = .ready ∧ sessionNeedsRefresh session config now = some false ∧
      session.userId ∈ config.allowUserIds := by
  obtain ⟨sessionId, hcookie, session, now, result, touched, rest, hexchanges, hrest⟩ :=
    (systemSpec json platform config).goal_of_run hrun hworker identity hallows
  obtain ⟨touch, history, rfl, htouch, hexchanges⟩ := List.map_eq_cons_iff.mp hexchanges
  obtain ⟨clock, history, rfl, hclock, hexchanges⟩ := List.map_eq_cons_iff.mp hexchanges
  obtain ⟨lookup, earlier, rfl, hlookup, -⟩ := List.map_eq_cons_iff.mp hexchanges
  obtain ⟨touch, touch₀, touch₁⟩ := touch
  obtain ⟨clock, clock₀, clock₁⟩ := clock
  obtain ⟨lookup, lookup₀, lookup₁⟩ := lookup
  cases htouch
  cases hclock
  cases hlookup
  exact ⟨sessionId, session, now, result, touched, earlier, touch₀, touch₁, clock₀, clock₁, lookup₀,
    lookup₁, hcookie, rfl, hrest⟩

theorem authorised_of_allowed (hstart : start.store.Registered)
    (hrun : PoolRun (systemMachine json platform config) (Pool.idle start) pool)
    (hworker : pool.workers i = some ⟨job, .pure answer, history, born⟩)
    (hallows : answer.Allows identity) :
    Authorised json platform.mac config job.cookie identity.userId history := by
  obtain ⟨sessionId, session, now, result, touched, earlier, touch₀, touch₁, clock₀, clock₁, lookup₀,
    lookup₁, hcookie, rfl, hresult, huser, hready, hfresh, hallowed⟩ :=
    allowed_events hrun hworker hallows
  obtain ⟨header, hheader, hparsed⟩ := readSignedCookie_eq_some hcookie
  have hborn := Pool.worldRun_born hrun hworker
  obtain ⟨-, htouch, hclockRun, hclock, hlookupRun, hlookup, hearlier⟩ :=
    Pool.chained_of_run hrun (fun _ _ hidle => by cases hidle) i _ hworker
  -- the lookup
  obtain ⟨r, hactive, hlookup₁⟩ := hlookup.1.of_ok
  obtain ⟨row, hrow, hreads, hlive⟩ :=
    lookupSessionAt_eq_active_iff.mp (ofExcept_eq_ok_iff.mp hactive)
  have hregistered : lookup₀.store.Registered := hstart.worldRun (hborn.trans hearlier.worldRun)
  have hid : session.id = sessionId := hreads.id.trans (hregistered.keyed sessionId row hrow)
  -- the touch finds the user of that generation
  have hsame₀ : lookup₀.store.Keeps sessionId
      (SameUserAt session.refreshGeneration session.userId) := by
    refine ⟨hregistered.row_issued sessionId row hrow, ?_⟩
    intro row' hrow'
    rw [hrow] at hrow'
    cases hrow'
    exact ⟨hreads.refreshGeneration.le, fun _ => hreads.userId.symm⟩
  have hlookupStep : (systemMachine json platform config).WorldStep lookup₀ lookup₁ :=
    Or.inr ⟨i, _, _, hlookup⟩
  have hclockStep : (systemMachine json platform config).WorldStep clock₀ clock₁ :=
    Or.inr ⟨i, _, _, hclock⟩
  have hbetween : (systemMachine json platform config).WorldRun lookup₀ touch₀ :=
    .head hlookupStep (hlookupRun.trans (.head hclockStep hclockRun))
  have hsame := hsame₀.worldRun hbetween fun r op row row' => SameUserAt.update
  obtain ⟨r', htouched, -⟩ := htouch.1.of_ok
  have htouchedUser := touch_userId hid hsame.2 htouched hresult
  -- the deadlines and the expiry
  simp only [isActive, Bool.and_eq_true, decide_eq_true_eq] at hlive
  obtain ⟨⟨hrevoked, hidle⟩, habsolute⟩ := hlive
  obtain ⟨limit, hlimit, hexpiry⟩ := Option.map_eq_some_iff.mp hfresh
  obtain ⟨-, -, rfl⟩ := addSeconds_eq_some_iff.mp hlimit
  obtain ⟨⟨-, hclock₁⟩, -⟩ := hclock
  dsimp only at hlookup₁ hclock₁
  refine ⟨sessionId, header, hheader, hparsed, _, _, _, earlier, rfl, ⟨_, _, _, rfl⟩, rfl, rfl, row,
    session, hrow, rowToSession_eq_ok_iff.mpr hreads, ?_, ?_, ?_, hready, ?_, ?_, ?_⟩
  · exact Option.isNone_iff_eq_none.mp (hreads.revokedAt_isNone ▸ hrevoked)
  · rw [hlookup₁]
    exact hidle
  · rw [hlookup₁]
    exact habsolute
  · rw [hclock₁]
    simpa using hexpiry
  · rw [huser, htouchedUser, hreads.userId]
  · rw [huser, htouchedUser]
    exact hallowed

/-! ### After a revocation -/

def IsRevoked (row : SessionRow) : Prop := row.revokedAt.isSome = true

theorem keeps_revokeSession {s : StoreState} {id : String} (r : Readings) (hissued : id ∈ s.issued) :
    (s.step json r (.revokeSession id)).Keeps id IsRevoked := by
  refine ⟨StoreState.issued_subset_step hissued, ?_⟩
  intro row' hrow'
  change (revokeSession r.now s.db id).2.sessions id = some row' at hrow'
  unfold revokeSession Db.updateSession at hrow'
  cases hrow : s.db.sessions id with
  | none =>
    rw [hrow] at hrow'
    dsimp only at hrow'
    rw [hrow] at hrow'
    cases hrow'
  | some =>
    rw [hrow] at hrow'
    dsimp only at hrow'
    split_ifs at hrow' with hunrevoked
    · dsimp only at hrow'
      rw [Function.update_self] at hrow'
      cases hrow'
      rfl
    · dsimp only at hrow'
      rw [hrow] at hrow'
      cases hrow'
      simpa [IsRevoked] using Option.isSome_iff_ne_none.mpr (by simpa using hunrevoked)

theorem IsRevoked.update {id : String} {r : Readings} {op : StoreOp} {row row' : SessionRow}
    (hupdate : RowUpdate json r id op row row') (h : IsRevoked row) : IsRevoked row' := by
  cases hupdate <;> first | exact h | rfl

theorem not_allowed_of_revoked {pool' : Pool serverInterface Nat SystemWorld SystemJob SystemAnswer}
    {sessionId : String} (hrun : PoolRun (systemMachine json platform config) (Pool.idle start) pool)
    (hrevoked : pool.world.store.Keeps sessionId IsRevoked) (hfree : pool.workers i = none)
    (hrun' : PoolRun (systemMachine json platform config) pool pool')
    (hworker : pool'.workers i = some ⟨job, .pure answer, history, born⟩)
    (hallows : answer.Allows identity) :
    readSignedCookie platform.mac job.cookie sessionCookie config.cookieSecret ≠ some sessionId := by
  intro hcookie'
  obtain ⟨sessionId', session, now, result, touched, earlier, touch₀, touch₁, clock₀, clock₁, lookup₀,
    lookup₁, hcookie, rfl, -⟩ := allowed_events (hrun.trans hrun') hworker hallows
  rw [hcookie] at hcookie'
  cases hcookie'
  have hborn : (systemMachine json platform config).WorldRun pool.world born := by
    rcases Pool.born_cases hrun' i _ hworker with ⟨earlier, hearlier, -⟩ | hborn
    · rw [hfree] at hearlier
      cases hearlier
    · exact hborn
  obtain ⟨-, -, -, -, -, hlookup, hearlier⟩ :=
    Pool.chained_of_run (hrun.trans hrun') (fun _ _ hidle => by cases hidle) i _ hworker
  have hkept := hrevoked.worldRun (hborn.trans hearlier.worldRun)
    fun r op row row' => IsRevoked.update
  obtain ⟨r, hactive, -⟩ := hlookup.1.of_ok
  obtain ⟨row, hrow, hreads, hlive⟩ :=
    lookupSessionAt_eq_active_iff.mp (ofExcept_eq_ok_iff.mp hactive)
  have hrevoked := hkept.2 row hrow
  simp only [isActive, Bool.and_eq_true] at hlive
  have hnone := hreads.revokedAt_isNone ▸ hlive.1.1
  rw [IsRevoked, Option.isNone_iff_eq_none.mp hnone] at hrevoked
  cases hrevoked

end Runs

/-- **Authorisation safety.** In every run, an Allow rests on a signed cookie and on a row that was
active, Ready, of an allowed user and with a token that was not due when the call looked last. A call
that starts when the session has been revoked does not end with an Allow for it. -/
theorem only_authorised_pass (json : AmrJson) (platform : Platform) (config : Config)
    (start : SystemWorld) (hstart : start.store.Registered) :
    (∀ pool i job answer history born identity,
      PoolRun (systemMachine json platform config) (Pool.idle start) pool →
      pool.workers i = some ⟨job, .pure answer, history, born⟩ → answer.Allows identity →
      Authorised json platform.mac config job.cookie identity.userId history) ∧
    (∀ pool pool' i j logout sessionId reply before after r job answer history born identity,
      PoolRun (systemMachine json platform config) (Pool.idle start) pool →
      pool.workers j = some logout →
      ⟨⟨.store (.revokeSession sessionId), reply⟩, before, after⟩ ∈ logout.history →
      after.store = before.store.step json r (.revokeSession sessionId) →
      sessionId ∈ before.store.issued →
      pool.workers i = none → PoolRun (systemMachine json platform config) pool pool' →
      pool'.workers i = some ⟨job, .pure answer, history, born⟩ → answer.Allows identity →
      readSignedCookie platform.mac job.cookie sessionCookie config.cookieSecret ≠
        some sessionId) := by
  refine ⟨?_, ?_⟩
  · intro pool i job answer history born identity hrun hworker hallows
    exact authorised_of_allowed hstart hrun hworker hallows
  · intro pool pool' i j logout sessionId reply before after r job answer history born identity hrun
      hlogout hevent hcommitted hissued hfree hrun' hworker hallows
    have hchained := Pool.chained_of_run hrun (fun _ _ hidle => by cases hidle) j logout hlogout
    obtain ⟨-, -, hlater⟩ := hchained.of_mem hevent
    have hrevoked : after.store.Keeps sessionId IsRevoked := by
      rw [hcommitted]
      exact keeps_revokeSession r hissued
    exact not_allowed_of_revoked hrun (hrevoked.worldRun hlater fun r op row row' => IsRevoked.update)
      hfree hrun' hworker hallows

def sampleCookie : String := "theme=dark; amg_session=session.session0123456789abcdef0123456789abcdef"

def sampleWorld : SystemWorld :=
  { store := sampleStored 10, flights := Coordinator.empty }

theorem sampleWorld_registered : sampleWorld.store.Registered := by
  have htracked := (initial_stored _).deadlined.tracked.run (storeRun_sampleStored 10)
  exact ⟨htracked.row_id, htracked.row_issued⟩

theorem only_authorised_pass_sample :
    ∃ history, Authorised .quoted samplePlatform.mac sampleConfig (some sampleCookie) "user" history := by
  let m := systemMachine .quoted samplePlatform sampleConfig
  let looked := sampleWorld.store.step .quoted (sampleReadings 100) (.lookupSession "session")
  let read : StoreState := { looked with clock := 101 * nanosPerSecond }
  let touched := read.step .quoted (sampleReadings 102) (.touchReady (sampleSession 10) 604800 3600)
  have hactive : lookupSessionAt .quoted (sampleStored 10).db "session" (100 * nanosPerSecond) =
      .ok (.active (sampleSession 10)) := by decide
  have htouch : (touchReady .quoted (102 * nanosPerSecond) (sampleStored 10).db (sampleSession 10)
      604800 3600).1 = .ok (.notDue (sampleSession 10)) := by decide
  have hidle : PoolRun m (Pool.idle sampleWorld) (Pool.idle sampleWorld) := .refl
  obtain ⟨_, hrun, hworld, hworker⟩ := PoolRun.extend_spawn hidle 0 (.decide (some sampleCookie)) rfl
  obtain ⟨_, hrun, hworld, hworker⟩ := PoolRun.extend_request hrun hworld hworker
    (.ok (.active (sampleSession 10))) { sampleWorld with store := looked }
    ⟨Or.inl ⟨sampleReadings 100, ⟨by decide, le_rfl, nofun⟩,
      Or.inl (congrArg Res.ofExcept hactive).symm, rfl⟩, rfl⟩
  obtain ⟨_, hrun, hworld, hworker⟩ := PoolRun.extend_request hrun hworld hworker
    (101 * nanosPerSecond) { sampleWorld with store := read } ⟨⟨by decide, rfl⟩, rfl⟩
  obtain ⟨pool, hrun, hworld, hworker⟩ := PoolRun.extend_request hrun hworld hworker
    (.ok (.notDue (sampleSession 10))) { sampleWorld with store := touched }
    ⟨Or.inl ⟨sampleReadings 102, ⟨by decide, le_rfl, nofun⟩, Or.inl htouch.symm, rfl⟩, rfl⟩
  exact ⟨_, (only_authorised_pass .quoted samplePlatform sampleConfig sampleWorld
    sampleWorld_registered).1 pool 0 _ _ _ _ ⟨"user"⟩ hrun hworker ⟨none, Or.inl rfl⟩⟩

end AuthMiniGateway

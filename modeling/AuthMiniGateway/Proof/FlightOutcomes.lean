import AuthMiniGateway.FlightMachine
import AuthMiniGateway.Proof.Exchanges
import AuthMiniGateway.Proof.Lifetimes

namespace AuthMiniGateway

open Store Trace

/-! ### The answers of the client -/

/-- The endpoint answered `401` with a body that names one of the two ends of a session. -/
def AuthMiniClient.ExactRejection (client : AuthMiniClient) (result : HttpResult) : Prop :=
  ∃ body code, result = .response 401 (some body) ∧ client.lib.parseErrorWire body = some code ∧
    (code = "session_invalidated" ∨ code = "session_superseded")

/-- Everything about the token is in order, but it does not name the configured audience. -/
def AuthMiniClient.LacksAudience (client : AuthMiniClient) (token : String) (jwks : Jwks) : Prop :=
  ∃ nowUnix claims audience,
    verifyClaims client.lib token jwks client.issuer nowUnix = some (claims, audience) ∧
      audienceClaimContains audience client.audience = false

section Client

variable {client : AuthMiniClient}

theorem refreshUnauthorized_rejected {body : Option (List UInt8)} {reason : RefreshRejected}
    (h : client.refreshUnauthorized body = .rejected reason) :
    client.ExactRejection (.response 401 body) := by
  simp only [AuthMiniClient.refreshUnauthorized] at h
  split at h
  · rename_i hcode
    obtain ⟨bytes, rfl, hwire⟩ := Option.bind_eq_some_iff.mp hcode
    exact ⟨bytes, _, rfl, hwire, Or.inl rfl⟩
  · rename_i hcode
    obtain ⟨bytes, rfl, hwire⟩ := Option.bind_eq_some_iff.mp hcode
    exact ⟨bytes, _, rfl, hwire, Or.inr rfl⟩
  · cases h

theorem refresh_rejected {result : HttpResult} {reason : RefreshRejected}
    (h : client.refresh result = .error (.rejected reason)) : client.ExactRejection result := by
  cases result with
  | timeout | transport => cases h
  | response =>
    simp only [AuthMiniClient.refresh] at h
    split_ifs at h with htimeout hlimited hserver hunauthorized hother
    · cases h
    · cases h
    · cases h
    · subst hunauthorized
      exact refreshUnauthorized_rejected (Except.error.inj h)
    · cases h
    · split at h
      · cases h
      · simp only [AuthMiniClient.tokenResponse] at h
        split_ifs at h
        cases h

theorem verifyRefreshedAccess_audienceRejected {token : String} {jwks : Jwks} {nowUnix : Int}
    (h : client.verifyRefreshedAccess token jwks nowUnix = .error .audienceRejected) :
    client.LacksAudience token jwks := by
  simp only [AuthMiniClient.verifyRefreshedAccess] at h
  split at h
  · cases h
  · rename_i haudience
    simp only [verifyAccessToken] at haudience
    split at haudience
    · cases haudience
    · rename_i claims audience hclaims
      split_ifs at haudience with hcontains
      exact ⟨nowUnix, claims, audience, hclaims, Bool.eq_false_iff.mpr hcontains⟩
  · cases h

variable {error : RefreshError}

theorem jwks_error {cache : Option (Int × Jwks)} {now : Int} {fetched : HttpResult}
    (h : client.jwks cache now fetched = .error error) :
    error.isRejected = false ∧ error ≠ .audienceRejected := by
  have hfetch : client.fetchJwks fetched = .error error := by
    simp only [AuthMiniClient.jwks] at h
    split at h
    · split_ifs at h
      exact h
    · exact h
  cases fetched with
  | timeout | transport => cases hfetch; exact ⟨rfl, nofun⟩
  | response =>
    simp only [AuthMiniClient.fetchJwks] at hfetch
    split_ifs at hfetch
    · cases hfetch; exact ⟨rfl, nofun⟩
    · cases hfetch; exact ⟨rfl, nofun⟩
    · cases hfetch; exact ⟨rfl, nofun⟩
    · split at hfetch
      · cases hfetch; exact ⟨rfl, nofun⟩
      · cases hfetch

theorem verifyRefreshedAccess_error {token : String} {jwks : Jwks} {nowUnix : Int}
    (h : client.verifyRefreshedAccess token jwks nowUnix = .error error) :
    error.isRejected = false := by
  simp only [AuthMiniClient.verifyRefreshedAccess] at h
  split at h
  · cases h
  · cases h
    rfl
  · cases h
    rfl

theorem refresh_error {result : HttpResult} (h : client.refresh result = .error error) :
    error ≠ .audienceRejected := by
  rintro rfl
  cases result with
  | timeout | transport => cases h
  | response =>
    simp only [AuthMiniClient.refresh] at h
    split_ifs at h with htimeout hlimited hserver hunauthorized hother
    · cases h
    · cases h
    · cases h
    · simp only [AuthMiniClient.refreshUnauthorized, Except.error.injEq] at h
      split at h <;> cases h
    · cases h
    · split at h
      · cases h
      · simp only [AuthMiniClient.tokenResponse] at h
        split_ifs at h
        cases h

theorem AuthMiniClient.Answers.fromClient {op : AuthOp} {answer : op.Answer}
    (h : client.Answers op answer) : op.FromClient answer := by
  cases op with
  | prepareRefreshVerifier =>
    obtain ⟨cache, now, fetched, heq⟩ := h
    cases answer with
    | ok => trivial
    | error => exact jwks_error heq.symm
  | verifyRefreshedAccess =>
    obtain ⟨nowUnix, heq⟩ := h
    cases answer with
    | ok => trivial
    | error => exact verifyRefreshedAccess_error heq.symm
  | refresh =>
    obtain ⟨result, heq⟩ := h
    cases answer with
    | ok => trivial
    | error => exact refresh_error heq.symm
  | verifyInitialAccess token | logout token => trivial

end Client

/-! ### The flight's own account -/

def FlightJob.origin (job : FlightJob) : Origin where
  sessionId := job.session.id
  given := fun session => session = job.session
  mayRefresh := fun h => h.countP isRefresh = 0
  mayTouch := False

def flightSpec (json : AmrJson) (client : AuthMiniClient) :
    ExchangeSpec (flightMachine json client) where
  guar job := job.origin.Owes
  contract job := flightContract job.origin
  goal job h outcome := Settled job.origin 1 [] h outcome
  kept _ := flightContract_kept
  starts job := by
    apply flies_executeFlight (Or.inl rfl)
    intro h hquiet
    exact Nat.le_zero.mp hquiet.refreshes

abbrev FlightEvent := Event serverInterface StoreState

/-- The event happened as the machine allows, in a world whose rows are stored under their own
identifiers. -/
structure Happened (json : AmrJson) (client : AuthMiniClient) (event : FlightEvent) : Prop where
  act : flightAct json client event.op event.before event.reply event.after
  keyed : event.before.Keyed
  keyed_after : event.after.Keyed

variable {json : AmrJson} {client : AuthMiniClient} {job : FlightJob} {s s' : StoreState}

variable {op : StoreOp} {o : Origin} {h : Trace} {session : GatewaySession} {id : String}
  {history : List FlightEvent}

theorem StoreAnswers.keyed {reply : Res op.Value} (h : StoreAnswers json op s reply s')
    (hkeyed : s.Keyed) : s'.Keyed := by
  rcases h with ⟨r, -, -, rfl⟩ | ⟨error, -, rfl⟩
  · exact hkeyed.step
  · exact hkeyed

theorem flightAct_db {op : ServerOp} {reply : op.Reply} (hop : ∀ storeOp, op ≠ .store storeOp)
    (h : flightAct json client op s reply s') : s'.db = s.db := by
  cases op with
  | store storeOp => exact absurd rfl (hop storeOp)
  | now => rw [h.2]
  | auth => rw [h.2]
  | _ => rw [show s' = s from h]

theorem flightAct_keyed {op : ServerOp} {reply : op.Reply}
    (h : flightAct json client op s reply s') (hkeyed : s.Keyed) : s'.Keyed := by
  cases op with
  | store => exact h.1.keyed hkeyed
  | _ =>
    have hdb := flightAct_db (by simp) h
    intro id row hrow
    rw [hdb] at hrow
    exact hkeyed id row hrow

theorem keyed_worldStep (h : (flightMachine json client).WorldStep s s') (hkeyed : s.Keyed) :
    s'.Keyed := by
  rcases h with (⟨op, reply, hanswers⟩ | ⟨now, hclock⟩) | ⟨i, op, reply, hact⟩
  · exact hanswers.keyed hkeyed
  · rw [hclock.2]
    exact hkeyed
  · exact flightAct_keyed hact hkeyed

theorem keyed_worldRun (h : (flightMachine json client).WorldRun s s') (hkeyed : s.Keyed) :
    s'.Keyed := by
  induction h with
  | refl => exact hkeyed
  | tail _ hstep ih => exact keyed_worldStep hstep ih

theorem happened_of_run {pool : Pool serverInterface Unit StoreState FlightJob (Option FlightOutcome)}
    {worker : Worker serverInterface StoreState FlightJob (Option FlightOutcome)}
    (hkeyed : s.Keyed) (hrun : PoolRun (flightMachine json client) (Pool.idle s) pool)
    (hworker : pool.workers () = some worker) :
    ∀ event ∈ worker.history, Happened json client event := by
  intro event hevent
  have hborn := Pool.worldRun_born hrun hworker
  have hchained := Pool.chained_of_run hrun (fun _ _ hidle => by cases hidle) () worker hworker
  obtain ⟨hbefore, hact, -⟩ := hchained.of_mem hevent
  have hstart := keyed_worldRun (hborn.trans hbefore) hkeyed
  exact ⟨hact, hstart, flightAct_keyed hact hstart⟩

/-! ### The sessions that a flight holds -/

theorem Origin.Owes.target {r : Readings} {key : String} (howes : o.Owes (.store op) h)
    (htarget : op.target r = some key) :
    key = o.sessionId ∨ ∃ session, o.Known h session ∧ session.id = key := by
  cases op with
  | lookupSession =>
    cases htarget
    exact howes
  | conditionalRevoke expected =>
    cases htarget
    exact Or.inr ⟨expected, howes.1, rfl⟩
  | persistPending original =>
    cases htarget
    exact Or.inr ⟨original, howes.1, rfl⟩
  | finalizePending pending =>
    cases htarget
    exact Or.inr ⟨pending, howes, rfl⟩
  | touchReady original =>
    cases htarget
    exact Or.inr ⟨original, howes.2, rfl⟩
  | _ => exact howes.elim

theorem StoreAnswers.handedOut {reply : Res op.Value} (h : StoreAnswers json op s reply s')
    (hsession : session ∈ op.sessionsIn reply) :
    session ∈ op.snapshots ∨ ∃ r key, op.target r = some key ∧
      lookupSessionAt json s'.db key s'.clock = .ok (.active session) := by
  rcases h with ⟨r, -, rfl, rfl⟩ | ⟨error, rfl, -⟩
  · rcases sessionsIn_lookup hsession with hsnapshot | ⟨key, htarget, hlookup⟩
    · exact Or.inl hsnapshot
    · exact Or.inr ⟨r, key, htarget, hlookup⟩
  · cases hsession

def ReadDuring (json : AmrJson) (id : String) (history : List FlightEvent)
    (session : GatewaySession) : Prop :=
  ∃ event ∈ history, ∃ row, event.after.db.sessions id = some row ∧ row.Reads json session

theorem ReadDuring.cons {event : FlightEvent} (h : ReadDuring json id history session) :
    ReadDuring json id (event :: history) session := by
  obtain ⟨earlier, hearlier, hrow⟩ := h
  exact ⟨earlier, List.mem_cons_of_mem _ hearlier, hrow⟩

/-- **A flight holds its own session only**, as it was given or as the row read since. -/
theorem known_session (hguarded : Guarded job.origin.Owes history)
    (hhappened : ∀ event ∈ history, Happened json client event)
    (hknown : job.origin.Known (history.map Event.toExchange) session) :
    session.id = job.session.id ∧
      (session = job.session ∨ ReadDuring json job.session.id history session) := by
  induction history generalizing session with
  | nil =>
    rcases hknown with rfl | ⟨x, hx, -⟩
    · exact ⟨rfl, Or.inl rfl⟩
    · cases hx
  | cons event history ih =>
    obtain ⟨howes, hguarded⟩ := hguarded
    have hearlier : ∀ session, job.origin.Known (history.map Event.toExchange) session →
        session.id = job.session.id ∧
          (session = job.session ∨ ReadDuring json job.session.id (event :: history) session) := by
      intro session hknown
      obtain ⟨hid, hcases⟩ := ih hguarded
        (fun earlier hearlier => hhappened earlier (List.mem_cons_of_mem _ hearlier)) hknown
      exact ⟨hid, hcases.imp_right ReadDuring.cons⟩
    rcases hknown with hgiven | ⟨x, hx, hsession⟩
    · exact hearlier session (Or.inl hgiven)
    · rcases List.mem_cons.mp hx with rfl | hold
      · have hevent := hhappened event List.mem_cons_self
        obtain ⟨⟨op, reply⟩, before, after⟩ := event
        cases op with
        | store =>
          rcases hevent.act.1.handedOut hsession with hsnapshot | ⟨r, key, htarget, hlookup⟩
          · exact hearlier session (howes.snapshots session hsnapshot)
          · obtain ⟨row, hrow, hreads, -⟩ := lookupSessionAt_eq_active_iff.mp hlookup
            have hkey : key = job.session.id := by
              rcases howes.target htarget with hkey | ⟨known, hknown, rfl⟩
              · exact hkey
              · exact (hearlier known hknown).1
            subst hkey
            have hid : session.id = job.session.id :=
              hreads.id.trans (hevent.keyed_after _ row hrow)
            exact ⟨hid, Or.inr ⟨_, List.mem_cons_self, row, hrow, hreads⟩⟩
        | _ => cases hsession
      · exact hearlier session (Or.inr ⟨x, hold, hsession⟩)

/-! ### Refusals -/

/-- Auth-mini itself has refused the snapshot: by an exact `401` to its refresh token, or by a token
for it that is in order and lacks the audience. -/
def RefusedBy (client : AuthMiniClient) (h : Trace) (expected : GatewaySession) : Prop :=
  (∃ result, ⟨.auth (.refresh expected.authSessionId expected.refreshToken),
      client.refresh result⟩ ∈ h ∧ client.ExactRejection result) ∨
    ∃ token jwks, ⟨.auth (.verifyRefreshedAccess token jwks), .error .audienceRejected⟩ ∈ h ∧
      client.LacksAudience token jwks ∧
      (token = expected.accessToken ∨
        ∃ refreshed : TokenResponse, refreshed.accessToken = token ∧
          ⟨.auth (.refresh expected.authSessionId expected.refreshToken), .ok refreshed⟩ ∈ h)

theorem refusedBy_of_refused {expected : GatewaySession}
    (hhappened : ∀ event ∈ history, Happened json client event)
    (hrefused : Origin.Refused (history.map Event.toExchange) expected) :
    RefusedBy client (history.map Event.toExchange) expected := by
  rcases hrefused with ⟨reason, hreason⟩ | ⟨token, jwks, haudience, htoken⟩
  · obtain ⟨before, after, hevent⟩ := mem_exchanges.mp hreason
    obtain ⟨⟨result, hresult⟩, -⟩ := (hhappened _ hevent).act
    dsimp only at hresult
    rw [hresult] at hreason
    exact Or.inl ⟨result, hreason, refresh_rejected hresult.symm⟩
  · obtain ⟨before, after, hevent⟩ := mem_exchanges.mp haudience
    obtain ⟨⟨nowUnix, hresult⟩, -⟩ := (hhappened _ hevent).act
    exact Or.inr ⟨token, jwks, haudience, verifyRefreshedAccess_audienceRejected hresult.symm, htoken⟩

/-! ### Rows -/

/-- The row is gone, is revoked, or reads as a session that is past a deadline. -/
def StoreState.RowInactive (json : AmrJson) (s : StoreState) (id : String) : Prop :=
  ∀ row, s.db.sessions id = some row →
    row.revokedAt.isSome = true ∨ ∃ session, row.Reads json session ∧ isActive session s.clock = false

theorem rowInactive_of_lookup (h : lookupSessionAt json s.db id s.clock = .ok .inactive) :
    s.RowInactive json id := by
  intro row hrow
  unfold lookupSessionAt at h
  rw [hrow] at h
  dsimp only at h
  split at h
  · cases h
  · rename_i session hread
    split_ifs at h with hactive
    · cases h
    · exact Or.inr ⟨session, rowToSession_eq_ok_iff.mp hread, Bool.eq_false_iff.mpr hactive⟩

theorem StoreAnswers.of_ok {value : op.Value} (h : StoreAnswers json op s (.ok value) s') :
    ∃ r, (op.exec json r s.db).1 = .ok value ∧ s' = s.step json r op := by
  rcases h with ⟨r, -, hreply, rfl⟩ | ⟨error, hreply, -⟩
  · exact ⟨r, hreply.symm, rfl⟩
  · cases hreply

theorem resolveCas_inactive {db : Db} {now : Int} {changed : Nat}
    (h : Res.ofExcept (resolveCas json db id now changed) = .ok .inactive) :
    lookupSessionAt json db id now = .ok .inactive := by
  rcases resolveCas_eq_ok (ofExcept_eq_ok_iff.mp h) with ⟨session, -, hresult⟩ | ⟨hlookup, -⟩
  · split_ifs at hresult
  · exact hlookup

theorem rowInactive_of_showsInactive {op : ServerOp} {reply : op.Reply}
    (hact : flightAct json client op s reply s') (howes : o.Owes op h)
    (hknown : ∀ session, o.Known h session → session.id = id) (hid : o.sessionId = id)
    (hshows : ShowsInactive ⟨op, reply⟩) : s'.RowInactive json id := by
  cases op with
  | store op =>
    cases op with
    | lookupSession target =>
      have htarget : target = id := by
        rcases howes with hsame | ⟨session, hsession, rfl⟩
        · exact hsame.trans hid
        · exact hknown session hsession
      subst htarget
      cases hshows
      obtain ⟨r, hreply, rfl⟩ := hact.1.of_ok
      exact rowInactive_of_lookup (ofExcept_eq_ok_iff.mp hreply)
    | persistPending original =>
      cases hshows
      obtain ⟨r, hreply, rfl⟩ := hact.1.of_ok
      rw [← hknown original howes.1]
      exact rowInactive_of_lookup (resolveCas_inactive hreply)
    | finalizePending pending =>
      cases hshows
      obtain ⟨r, hreply, rfl⟩ := hact.1.of_ok
      rw [← hknown pending howes]
      exact rowInactive_of_lookup (resolveCas_inactive hreply)
    | conditionalRevoke expected =>
      cases hshows
      obtain ⟨r, hreply, rfl⟩ := hact.1.of_ok
      have hchanged := of_decide_eq_true (Res.ok.inj hreply)
      obtain ⟨row, -, -, hrow⟩ := updateSession_changed hchanged
      rw [← hknown expected howes.1]
      intro stored hstored
      cases hrow.symm.trans hstored
      exact Or.inl rfl
    | _ => cases hshows
  | _ => cases hshows

def SessionRow.terminal (row : SessionRow) : Option String × Option String × Option String :=
  (row.revokedAt, row.idleExpiresAt, row.absoluteExpiresAt)

theorem RowEffect.terminal_of_cas {r : Readings} {before after : Option SessionRow}
    (h : RowEffect json r id op before after)
    (hop : (∃ original next, op = .persistPending original next) ∨
      ∃ pending email, op = .finalizePending pending email) :
    after.map SessionRow.terminal = before.map SessionRow.terminal := by
  rcases hop with ⟨original, next, rfl⟩ | ⟨pending, email, rfl⟩
  · cases h with
    | absent => rfl
    | pruned hprunes => cases hprunes
    | created hcreate => cases hcreate
    | updated hupdate => cases hupdate <;> rfl
  · cases h with
    | absent => rfl
    | pruned hprunes => cases hprunes
    | created hcreate => cases hcreate
    | updated hupdate => cases hupdate <;> rfl

/-- A call of a flight that is not a revocation leaves the revocation and the deadlines of every
row. -/
theorem terminal_of_not_revocation {op : ServerOp} {reply : op.Reply}
    (hact : flightAct json client op s reply s') (howes : o.Owes op h) (htouch : ¬o.mayTouch)
    (hnot : ¬IsRevocation ⟨op, reply⟩) (id : String) :
    (s'.db.sessions id).map SessionRow.terminal = (s.db.sessions id).map SessionRow.terminal := by
  cases op with
  | store op =>
    rcases hact.1 with ⟨r, -, hreply, rfl⟩ | ⟨error, -, rfl⟩
    · cases op with
      | lookupSession => rfl
      | persistPending =>
        exact (s.step_rowEffect json r _ id).terminal_of_cas (Or.inl ⟨_, _, rfl⟩)
      | finalizePending =>
        exact (s.step_rowEffect json r _ id).terminal_of_cas (Or.inr ⟨_, _, rfl⟩)
      | conditionalRevoke expected =>
        have hunchanged : (conditionalRevoke r.now s.db expected).2 = s.db := by
          apply updateSession_unchanged
          intro hchanged
          apply hnot
          rw [hreply]
          exact congrArg Res.ok (decide_eq_true hchanged)
        change ((conditionalRevoke r.now s.db expected).2.sessions id).map _ = _
        rw [hunchanged]
      | touchReady => exact absurd howes.1 htouch
      | _ => exact howes.elim
    · rfl
  | _ => rw [flightAct_db (by simp) hact]

theorem countP_isRefresh_le (hguarded : Guarded job.origin.Owes history) :
    (history.map Event.toExchange).countP isRefresh ≤ 1 := by
  induction history with
  | nil => exact Nat.zero_le 1
  | cons event history ih =>
    obtain ⟨howes, hguarded⟩ := hguarded
    rw [List.map_cons, List.countP_cons]
    split
    · rename_i hrefresh
      have hnone : (history.map Event.toExchange).countP isRefresh = 0 := by
        obtain ⟨⟨op, reply⟩, before, after⟩ := event
        cases op with
        | auth op =>
          cases op with
          | refresh => exact howes
          | _ => cases hrefresh
        | _ => cases hrefresh
      omega
    · exact ih hguarded

theorem revocation_of_changed {op : ServerOp} {reply : op.Reply} {row row' : SessionRow}
    (hact : flightAct json client op s reply s') (howes : o.Owes op h)
    (hrow : s.db.sessions id = some row) (hrow' : s'.db.sessions id = some row')
    (hchanged : row'.revokedAt ≠ row.revokedAt) :
    ∃ expected, op = .store (.conditionalRevoke expected) ∧ expected.id = id ∧
      row.atVersion expected = true := by
  cases op with
  | store op =>
    rcases hact.1 with ⟨r, -, -, rfl⟩ | ⟨error, -, rfl⟩
    · have heffect := s.step_rowEffect json r op id
      rw [hrow, hrow'] at heffect
      cases heffect with
      | created hcreate =>
        subst hcreate
        exact howes.elim
      | updated hupdate =>
        cases hupdate with
        | conditionallyRevoked hid hversion => exact ⟨_, rfl, hid, hversion⟩
        | revoked => exact howes.elim
        | _ => exact absurd rfl hchanged
    · cases hrow.symm.trans hrow'
      exact absurd rfl hchanged
  | _ =>
    rw [flightAct_db (by simp) hact, hrow] at hrow'
    cases hrow'
    exact absurd rfl hchanged

/-! ### The account of a flight -/

structure FlightAccount (json : AmrJson) (client : AuthMiniClient) (session : GatewaySession)
    (history : List FlightEvent) : Prop where
  /-- A revocation by the flight was refused by auth-mini before, and the row is at the version of the
  flight's snapshot when it is revoked. -/
  revokes : ∀ later event earlier, history = later ++ event :: earlier → ∀ id row row',
    event.before.db.sessions id = some row → event.after.db.sessions id = some row' →
    row'.revokedAt ≠ row.revokedAt →
    id = session.id ∧ ∃ expected, event.op = .store (.conditionalRevoke expected) ∧
      (expected = session ∨ ReadDuring json session.id earlier expected) ∧
      row.refreshGeneration = expected.refreshGeneration ∧
      row.refreshToken = expected.refreshToken ∧
      row.identityState = some expected.identityState.asStr ∧
      RefusedBy client (earlier.map Event.toExchange) expected
  one_refresh : (history.map Event.toExchange).countP isRefresh ≤ 1

structure OutcomeAccount (json : AmrJson) (session : GatewaySession) (history : List FlightEvent)
    (outcome : FlightOutcome) : Prop where
  rejected : ∀ reason, outcome = .rejected reason →
    ∃ event ∈ history, event.after.RowInactive json session.id
  ready : ∀ generation, outcome = .ready generation →
    session.identityState = .ready ∧ session.refreshGeneration = generation ∨
      ∃ event ∈ history, ∃ row, event.after.db.sessions session.id = some row ∧
        row.identityState = some "ready" ∧ row.refreshGeneration = generation
  unsettled : (∃ errorClass, outcome = .temporary errorClass) ∨
      (∃ errorClass, outcome = .indeterminate errorClass) →
    ∀ event ∈ history, ∀ id, (event.after.db.sessions id).map SessionRow.terminal =
      (event.before.db.sessions id).map SessionRow.terminal

theorem flightAccount_of_guarded (hguarded : Guarded job.origin.Owes history)
    (hhappened : ∀ event ∈ history, Happened json client event) :
    FlightAccount json client job.session history where
  revokes := by
    rintro later event earlier rfl id row row' hrow hrow' hchanged
    obtain ⟨howes, hearlier⟩ := hguarded.split
    have hpast : ∀ event ∈ earlier, Happened json client event := by
      intro event hevent
      exact hhappened event (List.mem_append_right _ (List.mem_cons_of_mem _ hevent))
    have hevent := hhappened event (List.mem_append_right _ List.mem_cons_self)
    obtain ⟨⟨op, reply⟩, before, after⟩ := event
    obtain ⟨expected, rfl, hid, hversion⟩ :=
      revocation_of_changed hevent.act howes hrow hrow' hchanged
    obtain ⟨hsession, hsnapshot⟩ := known_session hearlier hpast howes.1
    simp only [SessionRow.atVersion, Bool.and_eq_true, decide_eq_true_eq] at hversion
    exact ⟨hid.symm.trans hsession, expected, rfl, hsnapshot, hversion.1.1, hversion.1.2, hversion.2,
      refusedBy_of_refused hpast howes.2⟩
  one_refresh := countP_isRefresh_le hguarded

theorem outcomeAccount_of_settled {outcome : Option FlightOutcome}
    (hguarded : Guarded job.origin.Owes history)
    (hhappened : ∀ event ∈ history, Happened json client event)
    (hsettled : Settled job.origin 1 [] (history.map Event.toExchange) outcome) :
    OutcomeAccount json job.session history (publishedOutcome outcome) where
  rejected := by
    intro reason hout
    cases outcome with
    | none => cases hout
    | some =>
      cases hout
      have hclient : ∀ x ∈ history.map Event.toExchange, FromClient x := by
        intro x hx
        obtain ⟨before, after, hevent⟩ := mem_exchanges.mp hx
        have hact := (hhappened _ hevent).act
        obtain ⟨op, reply⟩ := x
        cases op with
        | auth => exact hact.1.fromClient
        | _ => trivial
      obtain ⟨x, hx, hshows⟩ := hsettled.rejected reason rfl hclient
      obtain ⟨before, after, hevent⟩ := mem_exchanges.mp hx
      obtain ⟨later, earlier, rfl⟩ := List.append_of_mem hevent
      obtain ⟨howes, hearlier⟩ := hguarded.split
      have hpast : ∀ event ∈ earlier, Happened json client event := by
        intro event hmem
        exact hhappened event (List.mem_append_right _ (List.mem_cons_of_mem _ hmem))
      exact ⟨_, hevent, rowInactive_of_showsInactive (hhappened _ hevent).act howes
        (fun session hknown => (known_session hearlier hpast hknown).1) rfl hshows⟩
  ready := by
    intro generation hout
    cases outcome with
    | none => cases hout
    | some =>
      cases hout
      obtain ⟨session, hknown, hstate, rfl⟩ := hsettled.ready generation rfl
      rcases (known_session hguarded hhappened hknown).2 with rfl | ⟨event, hevent, row, hrow, hreads⟩
      · exact Or.inl ⟨hstate, rfl⟩
      · refine Or.inr ⟨event, hevent, row, hrow, ?_, hreads.refreshGeneration.symm⟩
        rw [hreads.identityState, hstate]
        rfl
  unsettled := by
    intro hout event hevent id
    have hunsettled : isUnsettled outcome = true := by
      cases outcome with
      | none => rfl
      | some =>
        rcases hout with ⟨errorClass, rfl⟩ | ⟨errorClass, rfl⟩ <;> rfl
    obtain ⟨later, earlier, rfl⟩ := List.append_of_mem hevent
    obtain ⟨howes, -⟩ := hguarded.split
    apply terminal_of_not_revocation (hhappened event hevent).act howes
    · exact not_false
    · intro hrevocation
      cases hsettled.unsettled hunsettled _ (List.mem_map.mpr ⟨event, hevent, rfl⟩) hrevocation

/-- **Who may revoke, and what an outcome means.** One flight with any snapshot, among any calls of
others on the store: it revokes only what auth-mini has refused and what is still as in its snapshot,
it asks for a refresh at most once, and each outcome it publishes is backed by what the row was. -/
theorem flight_accounted (json : AmrJson) (client : AuthMiniClient) (s : StoreState)
    (hkeyed : s.Keyed)
    (pool : Pool serverInterface Unit StoreState FlightJob (Option FlightOutcome))
    (hrun : PoolRun (flightMachine json client) (Pool.idle s) pool)
    (worker : Worker serverInterface StoreState FlightJob (Option FlightOutcome))
    (hworker : pool.workers () = some worker) :
    FlightAccount json client worker.job.session worker.history ∧
      ∀ outcome, worker.program = .pure outcome →
        OutcomeAccount json worker.job.session worker.history (publishedOutcome outcome) := by
  have hhappened := happened_of_run hkeyed hrun hworker
  have hguarded := (flightSpec json client).guarded_of_run hrun () worker hworker
  refine ⟨flightAccount_of_guarded hguarded hhappened, ?_⟩
  intro outcome hprogram
  obtain ⟨job, program, history, born⟩ := worker
  subst hprogram
  exact outcomeAccount_of_settled hguarded hhappened ((flightSpec json client).goal_of_run hrun hworker)

def sampleClient : AuthMiniClient where
  lib :=
    { b64Decode := fun _ => none
      parseJson := fun _ => none
      verifies := fun _ _ _ => false
      parseErrorWire := fun _ => some "session_superseded"
      parseTokenWire := fun _ => none
      parseJwks := fun _ => some ⟨[]⟩ }
  issuer := "https://auth.example"
  audience := "public.example"

def sampleJob : FlightJob where
  session := sampleSession 10
  config := sampleConfig
  flight := 0

theorem sampleStored_keyed : (sampleStored 10).Keyed :=
  ((initial_stored _).deadlined.tracked.run (storeRun_sampleStored 10)).row_id

theorem poolRun_superseded :
    ∃ pool worker, PoolRun (flightMachine .quoted sampleClient) (Pool.idle (sampleStored 10)) pool ∧
      pool.workers () = some worker ∧ worker.job = sampleJob ∧
      worker.program = .pure (some (.rejected (.remote .superseded))) ∧
      ∃ event ∈ worker.history,
        ((event.before.db.sessions "session").bind SessionRow.revokedAt).isSome = false ∧
        ((event.after.db.sessions "session").bind SessionRow.revokedAt).isSome = true := by
  let stored : StoreState := { sampleStored 10 with clock := 900 * nanosPerSecond }
  let looked := stored.step .quoted (sampleReadings 901) (.lookupSession "session")
  let revoked := looked.step .quoted (sampleReadings 902) (.conditionalRevoke (sampleSession 10))
  have hactive : lookupSessionAt .quoted (sampleStored 10).db "session" (901 * nanosPerSecond) =
      .ok (.active (sampleSession 10)) := by decide
  have hrevokes : (conditionalRevoke (902 * nanosPerSecond) (sampleStored 10).db
      (sampleSession 10)).1 = true := by decide
  have hidle : PoolRun (flightMachine .quoted sampleClient) (Pool.idle (sampleStored 10))
      (Pool.idle (sampleStored 10)) := .refl
  obtain ⟨_, hrun, hworld, hworker⟩ := PoolRun.extend_spawn hidle () sampleJob rfl
  obtain ⟨_, hrun, hworld, hworker⟩ := PoolRun.extend_request hrun hworld hworker
    (900 * nanosPerSecond) stored ⟨by decide, rfl⟩
  obtain ⟨_, hrun, hworld, hworker⟩ := PoolRun.extend_request hrun hworld hworker
    (.ok ⟨[]⟩) stored ⟨⟨none, 0, .response 200 (some []), rfl⟩, rfl⟩
  obtain ⟨_, hrun, hworld, hworker⟩ := PoolRun.extend_request hrun hworld hworker
    (.error (.rejected .superseded)) stored ⟨⟨.response 401 (some []), rfl⟩, rfl⟩
  obtain ⟨_, hrun, hworld, hworker⟩ := PoolRun.extend_request hrun hworld hworker
    (.ok (.active (sampleSession 10))) looked
    ⟨Or.inl ⟨sampleReadings 901, ⟨by decide, le_rfl, nofun⟩, (congrArg Res.ofExcept hactive).symm, rfl⟩,
      nofun⟩
  obtain ⟨pool, hrun, hworld, hworker⟩ := PoolRun.extend_request hrun hworld hworker
    (.ok true) revoked
    ⟨Or.inl ⟨sampleReadings 902, ⟨by decide, le_rfl, nofun⟩, (congrArg Res.ok hrevokes).symm, rfl⟩,
      nofun⟩
  exact ⟨pool, _, hrun, hworker, rfl, rfl, _, List.mem_cons_self, by decide, by decide⟩

theorem flight_accounted_superseded :
    ∃ history : List FlightEvent,
      FlightAccount .quoted sampleClient (sampleSession 10) history ∧
        OutcomeAccount .quoted (sampleSession 10) history (.rejected (.remote .superseded)) ∧
        ∃ event ∈ history,
          ((event.before.db.sessions "session").bind SessionRow.revokedAt).isSome = false ∧
          ((event.after.db.sessions "session").bind SessionRow.revokedAt).isSome = true := by
  obtain ⟨pool, ⟨job, program, history, born⟩, hrun, hworker, rfl, rfl, hevent⟩ := poolRun_superseded
  obtain ⟨haccount, houtcome⟩ := flight_accounted .quoted sampleClient (sampleStored 10)
    sampleStored_keyed pool hrun _ hworker
  exact ⟨history, haccount, houtcome _ rfl, hevent⟩

end AuthMiniGateway

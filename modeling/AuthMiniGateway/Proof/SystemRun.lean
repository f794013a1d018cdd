import AuthMiniGateway.ClientSystem
import AuthMiniGateway.Proof.Decisions
import AuthMiniGateway.Proof.RowLife

namespace AuthMiniGateway

open Trace

def HoldsSnapshots : ServerOp → Trace → Prop
  | .store op, h => ∀ session ∈ op.snapshots, ∃ x ∈ h, session ∈ handedOut x
  | _, _ => True

/-- The tokens of a new session are those of a callback, as verified. -/
def VerifiedInput (h : Trace) (input : NewSession) : Prop :=
  ∃ verified : VerifiedAccessToken,
    ⟨.auth (.verifyInitialAccess input.accessToken), .ok verified⟩ ∈ h ∧
      verified.authSessionId = input.authSessionId ∧ verified.userId = input.userId ∧
      unixToTime verified.exp = some input.accessExpiresAt

structure Grounded (op : ServerOp) (h : Trace) : Prop where
  snapshots : HoldsSnapshots op h
  created : ∀ input, op = .store (.createSession input) → VerifiedInput h input
  persisted : ∀ original next, op = .store (.persistPending original next) →
    Origin.Obtained h original next

variable {h : Trace}

theorem Origin.Owes.grounded {sessionId : String} {op : ServerOp}
    (howes : (decisionOrigin sessionId).Owes op h) : Grounded op h where
  snapshots := by
    cases op with
    | store =>
      intro session hsession
      rcases howes.snapshots session hsession with hgiven | hhanded
      · exact hgiven.elim
      · exact hhanded
    | _ => trivial
  created := by
    rintro input rfl
    exact howes.elim
  persisted := by
    rintro original next rfl
    exact howes.2

theorem grounded_of_none {op : StoreOp} (hnone : op.snapshots = [])
    (hcreates : op.creates = false) : Grounded (.store op) h where
  snapshots := by
    intro session hsession
    rw [hnone] at hsession
    cases hsession
  created := by
    rintro input ⟨⟩
    cases hcreates
  persisted := by
    rintro original next ⟨⟩
    cases hnone

theorem grounded_auth {op : AuthOp} : Grounded (.auth op) h where
  snapshots := trivial
  created := by
    intro input heq
    cases heq
  persisted := by
    intro original next heq
    cases heq

/-! ### The handlers -/

section Handlers

variable {α : Type} {platform : Platform} {config : Config} {sessionId : String} {h : Trace}

abbrev Grounds (sessionId : String) (h : Trace) (p : Server α) (post : Trace → α → Prop) : Prop :=
  p.Meets (exchangeView Grounded) (flightContract (decisionOrigin sessionId)) h post

theorem Grounds.ask {post : Trace → α → Prop} {op : ServerOp} {next : op.Reply → Server α}
    (hgrounded : Grounded op h)
    (hnext : ∀ reply, Grounds sessionId (⟨op, reply⟩ :: h) (next reply) post) :
    Grounds sessionId h (Server.ask op >>= next) post :=
  meets_request_iff.mpr ⟨hgrounded, hnext⟩

theorem Grounds.pure {post : Trace → α → Prop} {value : α} (hpost : post h value) :
    Grounds sessionId h (pure value) post :=
  meets_pure_iff.mpr hpost

theorem flightContract_grounded :
    (flightContract (decisionOrigin sessionId)).Kept (exchangeView Grounded)
      ServerProc.body := by
  intro proc h hpre
  apply (flightContract_kept proc h hpre).weaken
  intro op h howes
  exact howes.grounded

def cookieSession (platform : Platform) (config : Config) (cookieHeader : Option String) : String :=
  (readSignedCookie platform.mac cookieHeader sessionCookie config.cookieSecret).getD ""

theorem grounds_authDecision (cookieHeader : Option String) :
    Grounds (cookieSession platform config cookieHeader) h
      (authDecision platform.mac config cookieHeader) fun h' decision =>
      ∀ identity renewal, decision = some (.allow identity renewal) →
        ∃ sessionId, readSignedCookie platform.mac cookieHeader sessionCookie config.cookieSecret =
          some sessionId ∧ AllowedBy config sessionId h' identity := by
  unfold authDecision cookieSession
  cases hcookie : readSignedCookie platform.mac cookieHeader sessionCookie config.cookieSecret with
  | none =>
    apply Grounds.pure
    rintro identity renewal ⟨⟩
  | some sessionId =>
    have hdecides := decides_authAttempts platform.mac config sessionId 8 h
    apply (hdecides.weaken fun op h howes => howes.grounded).mono
    intro h' decision hrests identity renewal hallow
    exact ⟨sessionId, rfl, hrests identity renewal hallow⟩

theorem grounds_createLoginResponse (returnTo : String) :
    Grounds sessionId h (createLoginResponse platform config returnTo) fun _ _ => True := by
  refine Grounds.ask (grounded_of_none rfl rfl) ?_
  rintro (state | error | _) <;> exact Grounds.pure trivial

variable (request : Request)

theorem grounds_handleLogin :
    Grounds sessionId h (handleLogin platform config request) fun _ _ => True := by
  unfold handleLogin
  split
  · exact Grounds.pure trivial
  · exact grounds_createLoginResponse _

theorem grounds_createSessionFromTokens (tokens : TokenInput) :
    Grounds sessionId h (createSessionFromTokens config tokens) fun _ _ => True := by
  refine Grounds.ask grounded_auth ?_
  rintro (error | verified)
  · exact Grounds.pure trivial
  · dsimp only [createVerifiedSession]
    split_ifs
    · exact Grounds.pure trivial
    · rename_i hsession
      split
      · exact Grounds.pure trivial
      · rename_i accessExpiresAt hexpires
        refine Grounds.ask ⟨fun _ hsession => (List.not_mem_nil hsession).elim, ?_, ?_⟩ ?_
        · rintro input ⟨⟩
          exact ⟨verified, List.mem_cons_self, not_not.mp hsession, rfl, hexpires⟩
        · intro original next heq
          cases heq
        · rintro (session | error | _) <;> exact Grounds.pure trivial

theorem grounds_exchangeTokens (body : CallbackBody) (returnTo : String) :
    Grounds sessionId h (exchangeTokens platform config body returnTo) fun _ _ => True := by
  unfold exchangeTokens
  split
  · exact Grounds.pure trivial
  · apply Program.Meets.bind
    apply (grounds_createSessionFromTokens _).mono
    rintro h' (_ | _ | session) _ <;> exact Grounds.pure trivial

theorem grounds_handleCallbackSession :
    Grounds sessionId h (handleCallbackSession platform config request) fun _ _ => True := by
  unfold handleCallbackSession
  split
  · exact Grounds.pure trivial
  · split
    · exact Grounds.pure trivial
    · refine Grounds.ask (grounded_of_none rfl rfl) ?_
      rintro ((_ | consumed) | error | _)
      · exact Grounds.pure trivial
      · dsimp only
        split_ifs
        · exact Grounds.pure trivial
        · exact grounds_exchangeTokens _ _
      · exact Grounds.pure trivial
      · exact Grounds.pure trivial

theorem grounds_revokeLocally (id : String) (snapshot : Option String) :
    Grounds sessionId h (revokeLocally platform config request id snapshot) fun _ _ => True := by
  refine Grounds.ask (grounded_of_none rfl rfl) ?_
  rintro (changed | error | _)
  · cases snapshot with
    | none => exact Grounds.pure trivial
    | some =>
      refine Grounds.ask grounded_auth ?_
      intro _
      exact Grounds.pure trivial
  · exact Grounds.pure trivial
  · exact Grounds.pure trivial

theorem grounds_handleLogout :
    Grounds sessionId h (handleLogout platform config request) fun _ _ => True := by
  unfold handleLogout
  split
  · exact Grounds.pure trivial
  · refine Grounds.ask (grounded_of_none rfl rfl) ?_
    rintro (snapshot | error | _)
    · exact grounds_revokeLocally request _ snapshot
    · exact grounds_revokeLocally request _ none
    · exact Grounds.pure trivial

theorem grounds_handleRequest :
    Grounds (cookieSession platform config (request.header "Cookie")) h
      (handleRequest platform config request) fun _ _ => True := by
  unfold handleRequest
  split_ifs
  · exact Grounds.pure trivial
  · exact grounds_handleLogin request
  · exact Grounds.pure trivial
  · exact grounds_handleCallbackSession request
  · apply Program.Meets.bind
    apply (grounds_authDecision _).mono
    intro h' decision _
    exact Grounds.pure trivial
  · exact grounds_handleLogout request
  · exact Grounds.pure trivial

theorem grounds_executeProxyAuth (cookie : Option String) (returnTo : String) :
    Grounds (cookieSession platform config cookie) h
      (executeProxyAuth platform config cookie returnTo) fun h' result =>
      ∀ identity renewal, result = some (.decision (.allow identity renewal)) →
        ∃ sessionId, readSignedCookie platform.mac cookie sessionCookie config.cookieSecret =
          some sessionId ∧ AllowedBy config sessionId h' identity := by
  apply Program.Meets.bind
  apply (grounds_authDecision _).mono
  rintro h' (_ | ⟨identity, renewal⟩ | clearSession | _ | _) hdecision
  · exact Grounds.pure nofun
  · apply Grounds.pure
    rintro identity' renewal' ⟨⟩
    exact hdecision identity renewal rfl
  · apply Program.Meets.bind
    apply (grounds_createLoginResponse returnTo).mono
    rintro h'' (_ | error | response) _ <;> exact Grounds.pure nofun
  · exact Grounds.pure nofun
  · exact Grounds.pure nofun

end Handlers

/-! ### All jobs together -/

def SystemJob.cookie : SystemJob → Option String
  | decide cookieHeader => cookieHeader
  | .request incoming => incoming.header "Cookie"
  | proxyAuth cookie _ => cookie
  | prune => none

/-- The answer of a decision, or of the authorisation of a proxied request, that lets it pass. -/
def SystemAnswer.Allows (answer : SystemAnswer) (identity : VerifiedIdentity) : Prop :=
  ∃ renewal, answer = .decided (some (.allow identity renewal)) ∨
    answer = .proxied (some (.decision (.allow identity renewal)))

variable {json : AmrJson} {platform : Platform} {config : Config}

/-- What the answer of a job shows of its exchanges. -/
def SystemJob.Goal (platform : Platform) (config : Config) (job : SystemJob) (h : Trace)
    (answer : SystemAnswer) : Prop :=
  ∀ identity, answer.Allows identity →
    ∃ sessionId, readSignedCookie platform.mac job.cookie sessionCookie config.cookieSecret =
      some sessionId ∧ AllowedBy config sessionId h identity

theorem grounds_start (job : SystemJob) :
    Grounds (cookieSession platform config job.cookie) [] (job.start platform config)
      (job.Goal platform config) := by
  cases job with
  | decide cookieHeader =>
    apply Program.Meets.bind
    apply (grounds_authDecision cookieHeader).mono
    intro h decision hdecision
    apply Grounds.pure
    rintro identity ⟨renewal, heq | heq⟩
    · cases heq
      exact hdecision identity renewal rfl
    · cases heq
  | request incoming =>
    apply Program.Meets.bind
    apply (grounds_handleRequest incoming).mono
    intro h handled _
    apply Grounds.pure
    rintro identity ⟨renewal, heq | heq⟩ <;> cases heq
  | proxyAuth cookie returnTo =>
    apply Program.Meets.bind
    apply (grounds_executeProxyAuth cookie returnTo).mono
    intro h result hresult
    apply Grounds.pure
    rintro identity ⟨renewal, heq | heq⟩
    · cases heq
    · cases heq
      exact hresult identity renewal rfl
  | prune =>
    refine Grounds.ask (grounded_of_none rfl rfl) ?_
    intro result
    apply Grounds.pure
    rintro identity ⟨renewal, heq | heq⟩ <;> cases heq

def systemSpec (json : AmrJson) (platform : Platform) (config : Config) :
    ExchangeSpec (systemMachine json platform config) where
  guar _ := HoldsSnapshots
  contract job := flightContract (decisionOrigin (cookieSession platform config job.cookie))
  goal job h answer := ∀ identity, answer.Allows identity →
    ∃ sessionId, readSignedCookie platform.mac job.cookie sessionCookie config.cookieSecret =
      some sessionId ∧ AllowedBy config sessionId h identity
  kept _ := by
    intro proc h hpre
    apply (flightContract_grounded proc h hpre).weaken
    intro op h hgrounded
    exact hgrounded.snapshots
  starts job := by
    apply (grounds_start job).weaken
    intro op h hgrounded
    exact hgrounded.snapshots

/-! ### What happens to the store -/

/-- A call at some readings, or a reading of the clock. -/
def StoreState.Moves (json : AmrJson) (s s' : StoreState) : Prop :=
  (∃ r op, s.Timely r op ∧ s' = s.step json r op) ∨ ∃ now, s.ClockTo now s'

section Moves

variable {s s' : StoreState} {w w' : SystemWorld}

theorem StoreState.Moves.of_eq (h : s' = s) : s.Moves json s' :=
  Or.inr ⟨s.clock, le_rfl, h⟩

variable {op : StoreOp} {reply : Res op.Value}

theorem StoreServes.moves (h : StoreServes json op s reply s') : s.Moves json s' := by
  rcases h with ⟨r, htimely, -, hstep⟩ | ⟨error, -, hsame⟩
  · exact Or.inl ⟨r, op, htimely, hstep⟩
  · exact .of_eq hsame

theorem systemAct_moves {op : ServerOp} {reply : op.Reply} (h : systemAct json op w reply w') :
    w.store.Moves json w'.store := by
  cases op with
  | store => exact h.1.moves
  | now => exact Or.inr ⟨reply, h.1⟩
  | auth =>
    obtain rfl := h
    exact .of_eq rfl
  | acquire => exact .of_eq h.2
  | waitOutcome =>
    obtain ⟨-, rfl⟩ := h
    exact .of_eq rfl
  | addAlias flight observed | complete sessionId flight outcome => exact .of_eq h.2

theorem worldStep_moves (h : (systemMachine json platform config).WorldStep w w') :
    w.store.Moves json w'.store := by
  rcases h with ⟨now, hclock, -⟩ | ⟨i, op, reply, hact⟩
  · exact Or.inr ⟨now, hclock⟩
  · exact systemAct_moves hact

theorem StoreState.Keeps.moves {id : String} {property : SessionRow → Prop}
    (h : s.Keeps id property) (hmoves : s.Moves json s')
    (hclosed : ∀ r op row row', RowUpdate json r id op row row' → property row → property row') :
    s'.Keeps id property := by
  rcases hmoves with ⟨r, op, htimely, rfl⟩ | ⟨now, -, rfl⟩
  · exact h.step htimely.fresh (hclosed r op)
  · exact h

theorem StoreState.Keeps.worldRun {id : String} {property : SessionRow → Prop}
    (h : w.store.Keeps id property) (hrun : (systemMachine json platform config).WorldRun w w')
    (hclosed : ∀ r op row row', RowUpdate json r id op row row' → property row → property row') :
    w'.store.Keeps id property := by
  induction hrun with
  | refl => exact h
  | tail _ hstep ih => exact ih.moves (worldStep_moves hstep) hclosed

/-- Every row is stored under its own identifier, which was drawn for it. -/
structure StoreState.Registered (s : StoreState) : Prop where
  keyed : s.Keyed
  row_issued : ∀ id row, s.db.sessions id = some row → id ∈ s.issued

theorem StoreState.Registered.moves (h : s.Registered) (hmoves : s.Moves json s') :
    s'.Registered := by
  rcases hmoves with ⟨r, op, -, rfl⟩ | ⟨now, -, rfl⟩
  · refine ⟨h.keyed.step, ?_⟩
    intro id row hrow
    exact Tracked.row_issued_step h.row_issued hrow
  · exact ⟨h.keyed, h.row_issued⟩

theorem StoreState.Registered.worldRun (h : w.store.Registered)
    (hrun : (systemMachine json platform config).WorldRun w w') : w'.store.Registered := by
  induction hrun with
  | refl => exact h
  | tail _ hstep ih => exact ih.moves (worldStep_moves hstep)

theorem StoreReplies.handedOut (h : StoreReplies json op s reply s') :
    ∀ session ∈ op.sessionsIn reply, session ∈ s'.seen := by
  intro session hsession
  rcases h with ⟨r, -, rfl | ⟨error, rfl⟩, rfl⟩ | ⟨error, rfl, -⟩
  · exact List.mem_append_left _ hsession
  · cases hsession
  · cases hsession

end Moves

end AuthMiniGateway

import AuthMiniGateway.Flight
import AuthMiniGateway.Http
import AuthMiniGateway.StoreRun
import AuthMiniGateway.Lib.Program

/-!
# The authorisation decision and its flights

Programs over the store, the clock, the auth-mini client and the flight coordinator. A panic is `none`. The
circle of the three functions that settle a flight is closed by the procedure `recover_pending_identity`.
-/

namespace AuthMiniGateway

inductive ServerOp where
  | store (op : StoreOp)
  | now
  | auth (op : AuthOp)
  | acquire (sessionId : String) (observed : ObservedVersion)
  | waitOutcome (flight : Nat)
  | addAlias (flight : Nat) (observed : ObservedVersion)
  | complete (sessionId : String) (flight : Nat) (outcome : FlightOutcome)
  deriving DecidableEq, Repr

def ServerOp.Reply : ServerOp → Type
  | store op => Res op.Value
  | now => Int
  | auth op => op.Answer
  | acquire _ _ => Acquire
  | waitOutcome _ => FlightOutcome
  | addAlias _ _ => Unit
  | complete _ _ _ => FlightOutcome

inductive ServerProc where
  | recoverPendingIdentity (pending : GatewaySession)

abbrev serverInterface : Interface where
  Op := ServerOp
  Reply := ServerOp.Reply
  Proc := ServerProc
  Out _ := Option FlightOutcome

abbrev Server (α : Type) := Program serverInterface α

namespace Server

def ask (op : ServerOp) : Server op.Reply := Program.ask (I := serverInterface) op

def now : Server Int := ask .now
def lookupSession (id : String) : Server (Res SessionLookup) := ask (.store (.lookupSession id))

def conditionalRevoke (expected : GatewaySession) : Server (Res Bool) :=
  ask (.store (.conditionalRevoke expected))

def persistPending (original : GatewaySession) (next : PendingTokens) : Server (Res CasResult) :=
  ask (.store (.persistPending original next))

def finalizePending (pending : GatewaySession) (email : Option String) : Server (Res CasResult) :=
  ask (.store (.finalizePending pending email))

def touchReady (original : GatewaySession) (idleTtlSeconds touchIntervalSeconds : Int) :
    Server (Res TouchResult) :=
  ask (.store (.touchReady original idleTtlSeconds touchIntervalSeconds))

def prepareRefreshVerifier : Server (Except RefreshError Jwks) := ask (.auth .prepareRefreshVerifier)

def verifyRefreshedAccess (token : String) (jwks : Jwks) :
    Server (Except RefreshError VerifiedAccessToken) :=
  ask (.auth (.verifyRefreshedAccess token jwks))

def refresh (sessionId refreshToken : String) : Server (Except RefreshError TokenResponse) :=
  ask (.auth (.refresh sessionId refreshToken))

def acquire (sessionId : String) (observed : ObservedVersion) : Server Acquire :=
  ask (.acquire sessionId observed)

def waitOutcome (flight : Nat) : Server FlightOutcome := ask (.waitOutcome flight)

def addAlias (flight : Nat) (observed : ObservedVersion) : Server Unit :=
  ask (.addAlias flight observed)

def complete (sessionId : String) (flight : Nat) (outcome : FlightOutcome) : Server FlightOutcome :=
  ask (.complete sessionId flight outcome)

def call (proc : ServerProc) : Server (Option FlightOutcome) :=
  Program.invoke (I := serverInterface) proc

end Server

/-! ### Flights -/

def refreshErrorOutcome : RefreshError → FlightOutcome
  | .rejected reason => .rejected (.remote reason)
  | .audienceRejected => .indeterminate .contractDrift
  | .temporary errorClass => .temporary errorClass
  | .indeterminate errorClass => .indeterminate errorClass

def GatewaySession.differsFrom (current expected : GatewaySession) : Bool :=
  decide (current.observedVersion ≠ expected.observedVersion)
    || decide (current.refreshToken ≠ expected.refreshToken)

def useCurrentSessionWithoutRefresh (current : GatewaySession) : Server (Option FlightOutcome) :=
  if current.identityState = .pending then Server.call (.recoverPendingIdentity current)
  else pure (some (.ready current.refreshGeneration))

def useCurrentSession (current : GatewaySession) (config : Config) :
    Server (Option FlightOutcome) := do
  if current.identityState = .pending then
    let now ← Server.now
    match sessionNeedsRefresh current config now with
    | none => pure none
    | some true => pure (some (.indeterminate .contractDrift))
    | some false => Server.call (.recoverPendingIdentity current)
  else pure (some (.ready current.refreshGeneration))

def revokeAfterCheck (expected : GatewaySession) (reason : RejectedReason) :
    Server (Option FlightOutcome) := do
  match ← Server.conditionalRevoke expected with
  | .ok true => pure (some (.rejected reason))
  | .ok false =>
    match ← Server.lookupSession expected.id with
    | .ok (.active current) =>
      if current.differsFrom expected then useCurrentSessionWithoutRefresh current
      else pure (some (.indeterminate .persistence))
    | .ok .inactive => pure (some (.rejected .localInactive))
    | .err _ => pure (some (.indeterminate .persistence))
    | .panic => pure none
  | .err _ => pure (some (.indeterminate .persistence))
  | .panic => pure none

def revokeExpectedGeneration (expected : GatewaySession) (reason : RejectedReason) :
    Server (Option FlightOutcome) := do
  match ← Server.lookupSession expected.id with
  | .ok (.active current) =>
    if current.differsFrom expected then useCurrentSessionWithoutRefresh current
    else revokeAfterCheck expected reason
  | .ok .inactive => pure (some (.rejected .localInactive))
  | .err _ => pure (some (.indeterminate .persistence))
  | .panic => pure none

def handleRefreshRejection (expected : GatewaySession) (reason : RefreshRejected) :
    Server (Option FlightOutcome) :=
  revokeExpectedGeneration expected (.remote reason)

def finalizeVerified (pending : GatewaySession) : Server (Option FlightOutcome) := do
  match ← Server.finalizePending pending none with
  | .ok (.updated ready) =>
    if ready.identityState = .ready then pure (some (.ready ready.refreshGeneration))
    else pure (some (.indeterminate .persistence))
  | .ok (.current current) =>
    if current.identityState = .ready ∧ current.refreshGeneration = pending.refreshGeneration then
      pure (some (.ready current.refreshGeneration))
    else pure (some (.indeterminate .persistence))
  | .ok .inactive => pure (some (.rejected .localInactive))
  | .err _ => pure (some (.indeterminate .persistence))
  | .panic => pure none

def recoverPendingIdentity (pending : GatewaySession) : Server (Option FlightOutcome) := do
  match ← Server.prepareRefreshVerifier with
  | .error error => pure (some (refreshErrorOutcome error))
  | .ok jwks =>
    match ← Server.verifyRefreshedAccess pending.accessToken jwks with
    | .error .audienceRejected => revokeExpectedGeneration pending .audienceRejected
    | .error error => pure (some (refreshErrorOutcome error))
    | .ok verified =>
      if verified.authSessionId ≠ pending.authSessionId ∨ verified.userId ≠ pending.userId then
        pure (some (.indeterminate .identityMismatch))
      else finalizeVerified pending

def ServerProc.body : ServerProc → Server (Option FlightOutcome)
  | recoverPendingIdentity pending => AuthMiniGateway.recoverPendingIdentity pending

def persistRefreshed (session : GatewaySession) (next : PendingTokens) (config : Config) :
    Server (Option FlightOutcome) := do
  match ← Server.persistPending session next with
  | .ok (.updated pending) => Server.call (.recoverPendingIdentity pending)
  | .ok (.current current) =>
    if current.differsFrom session then useCurrentSession current config
    else pure (some (.indeterminate .persistence))
  | .ok .inactive => pure (some (.rejected .localInactive))
  | .err _ => pure (some (.indeterminate .persistence))
  | .panic => pure none

/-- The part of `refresh_gateway_session` after the endpoint has answered with new tokens. -/
def acceptRefreshed (session : GatewaySession) (config : Config) (flight : Nat) (jwks : Jwks)
    (refreshed : TokenResponse) : Server (Option FlightOutcome) := do
  if refreshed.sessionId ≠ session.authSessionId then pure (some (.indeterminate .contractDrift))
  else
    match ← Server.verifyRefreshedAccess refreshed.accessToken jwks with
    | .error .audienceRejected => revokeExpectedGeneration session .audienceRejected
    | .error error => pure (some (refreshErrorOutcome error))
    | .ok verified =>
      if verified.authSessionId ≠ session.authSessionId ∨ verified.userId ≠ session.userId then
        pure (some (.indeterminate .identityMismatch))
      else
        match unixToTime verified.exp with
        | none => pure (some (.indeterminate .tokenVerification))
        | some accessExpiresAt =>
          Server.addAlias flight
            { generation := session.refreshGeneration + 1, identityState := .pending }
          persistRefreshed session
            { accessToken := refreshed.accessToken
              refreshToken := refreshed.refreshToken
              userId := verified.userId
              amr := verified.amr
              accessExpiresAt } config

def refreshGatewaySession (session : GatewaySession) (config : Config) (flight : Nat) :
    Server (Option FlightOutcome) := do
  match ← Server.prepareRefreshVerifier with
  | .error error => pure (some (refreshErrorOutcome error))
  | .ok jwks =>
    match ← Server.refresh session.authSessionId session.refreshToken with
    | .error (.rejected reason) => handleRefreshRejection session reason
    | .error error => pure (some (refreshErrorOutcome error))
    | .ok refreshed => acceptRefreshed session config flight jwks refreshed

def executeFlight (session : GatewaySession) (config : Config) (flight : Nat) :
    Server (Option FlightOutcome) := do
  let now ← Server.now
  match sessionNeedsRefresh session config now with
  | none => pure none
  | some true => refreshGatewaySession session config flight
  | some false =>
    if session.identityState = .pending then Server.call (.recoverPendingIdentity session)
    else pure (some (.ready session.refreshGeneration))

/-! ### The decision -/

inductive PolicyDecision where
  | allow
  | deny
  deriving DecidableEq, Repr

def evaluateSessionPolicy (session : GatewaySession) (config : Config) : PolicyDecision :=
  if session.userId ∉ config.allowUserIds then .deny else .allow

def identityHeadersAreSafe (session : GatewaySession) : Bool := isSafeHeaderValue session.userId

structure VerifiedIdentity where
  userId : String
  deriving DecidableEq, Repr

inductive AuthDecision where
  | allow (identity : VerifiedIdentity) (sessionRenewal : Option String)
  | unauthenticated (clearSession : String)
  | forbidden
  | unavailable
  deriving DecidableEq, Repr

/-- The clock is read for a Ready session only. -/
def wantsFlight (session : GatewaySession) (config : Config) : Server (Option Bool) := do
  if session.identityState = .pending then pure (some true)
  else
    let now ← Server.now
    pure (sessionNeedsRefresh session config now)

/-- `catch_unwind` turns a panic of the flight into an outcome. -/
def publishedOutcome (outcome : Option FlightOutcome) : FlightOutcome :=
  outcome.getD (.indeterminate .leaderAborted)

/-- The outcome of the flight that this request leads or joins. It is `none` when the request only
waited for a flight to close, and has to start over. -/
def shareFlight (session : GatewaySession) (config : Config) : Server (Option FlightOutcome) := do
  match ← Server.acquire session.id session.observedVersion with
  | .leader flight =>
    let outcome ← executeFlight session config flight
    let shared ← Server.complete session.id flight (publishedOutcome outcome)
    pure (some shared)
  | .joined flight =>
    let shared ← Server.waitOutcome flight
    pure (some shared)
  | .waitForClose flight =>
    let _ ← Server.waitOutcome flight
    pure none

section Decision

variable (mac : Mac) (config : Config)

def unauthenticated : AuthDecision := .unauthenticated (clearCookie sessionCookie config)

/-- What an attempt does with the outcome of a flight; `again` is the next attempt. -/
def afterFlight (again : Server (Option AuthDecision)) :
    Option FlightOutcome → Server (Option AuthDecision)
  | none => again
  | some (.ready _) => again
  | some (.rejected _) => pure (some (unauthenticated config))
  | some (.temporary _) => pure (some .unavailable)
  | some (.indeterminate _) => pure (some .unavailable)

def admitSession (session : GatewaySession) (again : Server (Option AuthDecision)) :
    Server (Option AuthDecision) := do
  if evaluateSessionPolicy session config = .deny then pure (some .forbidden)
  else if identityHeadersAreSafe session = false then pure (some .forbidden)
  else
    match ← Server.touchReady session config.sessionTtlSeconds
        config.sessionTouchIntervalSeconds with
    | .ok (.notDue touched) => pure (some (.allow ⟨touched.userId⟩ none))
    | .ok (.advanced touched) =>
      pure (some (.allow ⟨touched.userId⟩ (some
        (serializeSignedCookie mac sessionCookie touched.id touched.idleExpiresAt config))))
    | .ok .lost => again
    | .err _ => pure (some .unavailable)
    | .panic => pure none

def authAttempts (sessionId : String) : Nat → Server (Option AuthDecision)
  | 0 => pure (some .unavailable)
  | attempts + 1 => do
      match ← Server.lookupSession sessionId with
      | .panic => pure none
      | .err _ => pure (some .unavailable)
      | .ok .inactive => pure (some (unauthenticated config))
      | .ok (.active session) =>
        match ← wantsFlight session config with
        | none => pure none
        | some true =>
          let outcome ← shareFlight session config
          afterFlight config (authAttempts sessionId attempts) outcome
        | some false => admitSession mac config session (authAttempts sessionId attempts)

def authDecision (cookieHeader : Option String) : Server (Option AuthDecision) :=
  match readSignedCookie mac cookieHeader sessionCookie config.cookieSecret with
  | none => pure (some (unauthenticated config))
  | some sessionId => authAttempts mac config sessionId 8

end Decision

end AuthMiniGateway

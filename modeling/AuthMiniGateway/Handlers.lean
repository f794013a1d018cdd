import AuthMiniGateway.AuthDecision
import AuthMiniGateway.ReturnTarget

/-!
# The handlers

A handler ends with a response, with the error of a store call, or with `none` for a panic. The MAC, the rules
of URLs, the deserialiser of the callback's JSON and the URL of the login page are parameters.
-/

namespace AuthMiniGateway

structure CallbackBody where
  accessToken : Option String
  refreshToken : Option String
  sessionId : Option String
  tokenType : Option String
  state : Option String
  deriving DecidableEq, Repr

structure TokenInput where
  sessionId : String
  accessToken : String
  refreshToken : String
  deriving DecidableEq, Repr

def CallbackBody.intoTokens (body : CallbackBody) : Option TokenInput := do
  let tokenType ← body.tokenType
  if tokenType ≠ "Bearer" then none
  else
    let accessToken ← body.accessToken
    let refreshToken ← body.refreshToken
    let sessionId ← body.sessionId
    some
      { sessionId, accessToken, refreshToken }

structure Platform where
  mac : Mac
  rules : Whatwg.Rules
  readCallback : List UInt8 → Option CallbackBody
  loginUrl : String → String

namespace Server

def createLoginState (returnTo : String) (ttlSeconds : Int) : Server (Res LoginState) :=
  ask (.store (.createLoginState returnTo ttlSeconds))

def consumeLoginState (id : String) : Server (Res (Option LoginState)) :=
  ask (.store (.consumeLoginState id))

def createSession (input : NewSession) : Server (Res GatewaySession) :=
  ask (.store (.createSession input))

def logoutAccessSnapshot (id : String) : Server (Res (Option String)) :=
  ask (.store (.logoutAccessSnapshot id))

def revokeSession (id : String) : Server (Res Bool) := ask (.store (.revokeSession id))

def prune : Server (Res Unit) := ask (.store .prune)

def verifyInitialAccess (token : String) : Server (Except InitialAccessError VerifiedAccessToken) :=
  ask (.auth (.verifyInitialAccess token))

def logout (accessToken : String) : Server (Except Unit Unit) := ask (.auth (.logout accessToken))

end Server

abbrev Handled := Option (Except StoreError Response)

def Handled.respond (response : Response) : Handled := some (.ok response)

section Handlers

variable (platform : Platform) (config : Config)

/-! ### Login -/

def createLoginResponse (returnTo : String) : Server Handled := do
  match ← Server.createLoginState returnTo config.loginStateTtlSeconds with
  | .ok state =>
    pure (.respond ((Response.redirect (platform.loginUrl state.id)).withCookie
      (serializeSignedCookie platform.mac loginStateCookie state.id state.expiresAt config)))
  | .err error => pure (some (.error error))
  | .panic => pure none

variable (request : Request)

def loginInput : Option String :=
  (request.parameter "return_to").or (request.header "X-Original-URI")

def handleLogin : Server Handled :=
  match normalizeReturnTo platform.rules (loginInput request) config with
  | none => pure (.respond (noStore (Response.text 400 "Invalid return_to")))
  | some returnTo => createLoginResponse platform config returnTo

/-! ### The callback -/

def createVerifiedSession (tokens : TokenInput) (verified : VerifiedAccessToken) :
    Server (Option (Option GatewaySession)) :=
  if verified.authSessionId ≠ tokens.sessionId then pure (some none)
  else
    match unixToTime verified.exp with
    | none => pure (some none)
    | some accessExpiresAt => do
        match ← Server.createSession
            { authSessionId := tokens.sessionId, accessToken := tokens.accessToken,
              refreshToken := tokens.refreshToken, userId := verified.userId, email := none,
              amr := verified.amr, accessExpiresAt, idleTtlSeconds := config.sessionTtlSeconds,
              absoluteTtlSeconds := config.sessionAbsoluteTtlSeconds } with
        | .ok session => pure (some (some session))
        | .err _ => pure (some none)
        | .panic => pure none

/-- The errors of this function are all answered alike. -/
def createSessionFromTokens (tokens : TokenInput) : Server (Option (Option GatewaySession)) := do
  match ← Server.verifyInitialAccess tokens.accessToken with
  | .error _ => pure (some none)
  | .ok verified => createVerifiedSession config tokens verified

def clearState : String := clearCookie loginStateCookie config

/-- A refusal clears the login state of the browser. -/
def refuseCallback (status : Nat) (text : String) : Handled :=
  .respond ((noStore (Response.text status text)).withCookie (clearState config))

def callbackResponse (session : GatewaySession) (returnTo : String) : Response :=
  let response :=
    match evaluateSessionPolicy session config with
    | .allow => Response.json 200 returnTo
    | .deny => Response.text 403 "Forbidden"
  ((noStore response).withCookie (clearState config)).withCookie
    (serializeSignedCookie platform.mac sessionCookie session.id session.idleExpiresAt config)

def exchangeTokens (body : CallbackBody) (returnTo : String) : Server Handled :=
  match body.intoTokens with
  | none => pure (refuseCallback config 400 "Invalid login callback")
  | some tokens => do
      match ← createSessionFromTokens config tokens with
      | none => pure none
      | some none => pure (refuseCallback config 401 "Invalid auth-mini session")
      | some (some session) => pure (.respond (callbackResponse platform config session returnTo))

def handleCallbackSession : Server Handled :=
  match readSignedCookie platform.mac (request.header "Cookie") loginStateCookie
      config.cookieSecret with
  | none => pure (refuseCallback config 400 "Invalid login state")
  | some stateId =>
    match platform.readCallback request.body with
    | none => pure (refuseCallback config 400 "Invalid JSON")
    | some body => do
        match ← Server.consumeLoginState stateId with
        | .err error => pure (some (.error error))
        | .panic => pure none
        | .ok none => pure (refuseCallback config 400 "Invalid login state")
        | .ok (some consumed) =>
          if body.state ≠ some stateId then pure (refuseCallback config 400 "Invalid login state")
          else exchangeTokens platform config body consumed.returnTo

/-! ### Logout -/

def logoutInput : Option String :=
  (request.parameter "return_to").or (some config.logoutRedirect)

def logoutResponse : Response :=
  let returnTo := (normalizeReturnTo platform.rules (logoutInput config request) config).getD "/"
  (Response.redirect returnTo).withCookie (clearCookie sessionCookie config)

/-- The access token to hand to auth-mini; a failure to read it is not one of the logout. -/
def accessSnapshot (sessionId : String) : Server (Option (Option String)) := do
  match ← Server.logoutAccessSnapshot sessionId with
  | .ok snapshot => pure (some snapshot)
  | .err _ => pure (some none)
  | .panic => pure none

def finishLogout : Option String → Server Handled
  | none => pure (.respond (logoutResponse platform config request))
  | some accessToken => do
      let _ ← Server.logout accessToken
      pure (.respond (logoutResponse platform config request))

def revokeLocally (sessionId : String) (snapshot : Option String) :
    Server Handled := do
  match ← Server.revokeSession sessionId with
  | .ok _ => finishLogout platform config request snapshot
  | .err error => pure (some (.error error))
  | .panic => pure none

def logoutSession (sessionId : String) : Server Handled := do
  match ← accessSnapshot sessionId with
  | none => pure none
  | some snapshot => revokeLocally platform config request sessionId snapshot

def handleLogout : Server Handled :=
  match readSignedCookie platform.mac (request.header "Cookie") sessionCookie config.cookieSecret with
  | none => pure (.respond (logoutResponse platform config request))
  | some sessionId => logoutSession platform config request sessionId

/-! ### The authorisation of a request -/

def authUnavailable : Response :=
  (noStore (Response.text 503 "Authentication service temporarily unavailable")).withHeader
    "Retry-After" "5"

def checkResponse : AuthDecision → Response
  | .allow identity sessionRenewal =>
    let response := (Response.empty 204).withHeader "X-Auth-Mini-User-Id" identity.userId
    noStore (sessionRenewal.elim response response.withCookie)
  | .unauthenticated clearSession =>
    (noStore (Response.text 401 "Unauthenticated")).withCookie clearSession
  | .forbidden => noStore (Response.text 403 "Forbidden")
  | .unavailable => authUnavailable

def handleAuthCheck : Server Handled := do
  let decision ← authDecision platform.mac config (request.header "Cookie")
  pure (decision.map fun decision => .ok (checkResponse decision))

inductive ProxyAuthResult where
  | decision (decision : AuthDecision)
  | loginReady (clearSession : String) (loginResponse : Response)
  | loginInternal (clearSession : String)
  deriving DecidableEq, Repr

/-- A panic of the decision passes through; one of the login that follows it is caught. -/
def executeProxyAuth (cookie : Option String) (returnTo : String) :
    Server (Option ProxyAuthResult) := do
  match ← authDecision platform.mac config cookie with
  | none => pure none
  | some (.unauthenticated clearSession) =>
    match ← createLoginResponse platform config returnTo with
    | some (.ok loginResponse) => pure (some (.loginReady clearSession loginResponse))
    | some (.error _) => pure (some (.loginInternal clearSession))
    | none => pure (some (.loginInternal clearSession))
  | some decision => pure (some (.decision decision))

def handleRequest : Server Handled :=
  if request.method = "GET" ∧ request.path = "/healthz" then pure (.respond (Response.empty 204))
  else if request.method = "GET" ∧ request.path = "/login" then handleLogin platform config request
  else if request.method = "GET" ∧ request.path = "/auth/callback" then
    pure (.respond (Response.html .callbackPage))
  else if request.method = "POST" ∧ request.path = "/auth/callback/session" then
    handleCallbackSession platform config request
  else if request.method = "GET" ∧ request.path = "/auth/check" then
    handleAuthCheck platform config request
  else if (request.method = "GET" ∨ request.method = "POST") ∧ request.path = "/logout" then
    handleLogout platform config request
  else pure (.respond (noStore (Response.text 404 "Not found")))

end Handlers

end AuthMiniGateway

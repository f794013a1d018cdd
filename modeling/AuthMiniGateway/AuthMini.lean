import AuthMiniGateway.Session

/-!
# The interface to auth-mini

A call may answer anything of its type. `AuthOp.FromClient` is what the gateway's own client can answer.
-/

namespace AuthMiniGateway

structure TokenResponse where
  sessionId : String
  accessToken : String
  refreshToken : String
  deriving DecidableEq, Repr

structure VerifiedAccessToken where
  userId : String
  authSessionId : String
  amr : List String
  exp : Int
  deriving DecidableEq, Repr

structure Jwk where
  alg : Option String
  crv : Option String
  kid : Option String
  kty : Option String
  x : Option String
  deriving DecidableEq, Repr

structure Jwks where
  keys : List Jwk
  deriving DecidableEq, Repr

inductive RefreshRejected where
  | invalidated
  | superseded
  deriving DecidableEq, Repr

inductive TemporaryClass where
  | timeout
  | transport
  | rateLimited
  | upstream
  deriving DecidableEq, Repr

inductive IndeterminateClass where
  | unexpectedStatus
  | invalidErrorBody
  | invalidSuccessBody
  | tokenVerification
  | identityMismatch
  | contractDrift
  | persistence
  | leaderAborted
  deriving DecidableEq, Repr

inductive InitialAccessError where
  | invalid
  | audienceRejected
  deriving DecidableEq, Repr

inductive RefreshError where
  | rejected (reason : RefreshRejected)
  | audienceRejected
  | temporary (errorClass : TemporaryClass)
  | indeterminate (errorClass : IndeterminateClass)
  deriving DecidableEq, Repr

inductive AuthOp where
  | verifyInitialAccess (token : String)
  | prepareRefreshVerifier
  | verifyRefreshedAccess (token : String) (jwks : Jwks)
  | refresh (sessionId refreshToken : String)
  | logout (accessToken : String)
  deriving DecidableEq, Repr

def AuthOp.Answer : AuthOp → Type
  | verifyInitialAccess _ => Except InitialAccessError VerifiedAccessToken
  | prepareRefreshVerifier => Except RefreshError Jwks
  | verifyRefreshedAccess _ _ => Except RefreshError VerifiedAccessToken
  | refresh _ _ => Except RefreshError TokenResponse
  | logout _ => Except Unit Unit

def RefreshError.isRejected : RefreshError → Bool
  | rejected _ => true
  | _ => false

def AuthOp.FromClient : (op : AuthOp) → op.Answer → Prop
  | prepareRefreshVerifier, .error error => error.isRejected = false ∧ error ≠ .audienceRejected
  | verifyRefreshedAccess _ _, .error error => error.isRejected = false
  | refresh _ _, .error error => error ≠ .audienceRejected
  | _, _ => True

end AuthMiniGateway

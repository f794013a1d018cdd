import AuthMiniGateway.Time
import AuthMiniGateway.Lib.QuotedList

/-!
# Sessions and their rows

A `SessionRow` is a row of the table `gateway_sessions`, every instant a text column; the five columns that the
second schema version added can be null. The JSON of the authentication methods is a parameter.
-/

namespace AuthMiniGateway

/-- `serde_json` on the list of authentication methods. -/
structure AmrJson where
  toString : List String → String
  fromStr : String → Option (List String)
  fromStr_toString : ∀ amr, fromStr (toString amr) = some amr

def AmrJson.quoted : AmrJson :=
  { toString := QuotedList.encode, fromStr := QuotedList.decode,
    fromStr_toString := QuotedList.decode_encode }

inductive IdentityState where
  | ready
  | pending
  deriving DecidableEq, Repr

def IdentityState.asStr : IdentityState → String
  | .ready => "ready"
  | .pending => "pending"

structure ObservedVersion where
  generation : Int
  identityState : IdentityState
  deriving DecidableEq, Repr

structure GatewaySession where
  id : String
  authSessionId : String
  accessToken : String
  refreshToken : String
  userId : String
  email : Option String
  amr : List String
  accessExpiresAt : Int
  sessionExpiresAt : Int
  idleExpiresAt : Int
  absoluteExpiresAt : Int
  lastTouchedAt : Int
  identityState : IdentityState
  identityPendingSince : Option Int
  refreshGeneration : Int
  revokedAt : Option Int
  deriving DecidableEq, Repr

def GatewaySession.observedVersion (session : GatewaySession) : ObservedVersion :=
  { generation := session.refreshGeneration, identityState := session.identityState }

structure SessionRow where
  id : String
  authSessionId : String
  accessToken : String
  refreshToken : String
  userId : String
  email : Option String
  amrJson : String
  accessExpiresAt : String
  sessionExpiresAt : String
  revokedAt : Option String
  refreshGeneration : Int
  createdAt : String
  updatedAt : String
  -- the columns that the second schema version adds
  idleExpiresAt : Option String
  absoluteExpiresAt : Option String
  lastTouchedAt : Option String
  identityState : Option String
  identityPendingSince : Option String
  deriving DecidableEq, Repr

structure LoginRow where
  id : String
  returnTo : String
  expiresAt : String
  consumedAt : Option String
  createdAt : String
  deriving DecidableEq, Repr

structure LoginState where
  id : String
  returnTo : String
  expiresAt : Int
  deriving DecidableEq, Repr

structure NewSession where
  authSessionId : String
  accessToken : String
  refreshToken : String
  userId : String
  email : Option String
  amr : List String
  accessExpiresAt : Int
  idleTtlSeconds : Int
  absoluteTtlSeconds : Int
  deriving DecidableEq, Repr

structure PendingTokens where
  accessToken : String
  refreshToken : String
  userId : String
  amr : List String
  accessExpiresAt : Int
  deriving DecidableEq, Repr

inductive SessionLookup where
  | active (session : GatewaySession)
  | inactive
  deriving DecidableEq, Repr

inductive CasResult where
  | updated (session : GatewaySession)
  | current (session : GatewaySession)
  | inactive
  deriving DecidableEq, Repr

inductive TouchResult where
  | notDue (session : GatewaySession)
  | advanced (session : GatewaySession)
  | lost
  deriving DecidableEq, Repr

/-- What a store call can fail with. `sqlite` stands for every error of the database itself. -/
inductive StoreError where
  | invalidData (message : String)
  | unreadableTime (text : String)
  | unreadableJson (text : String)
  | nullColumn
  | primaryKey
  | queryReturnedNoRows
  | sqlite
  deriving DecidableEq, Repr

/-- How a store call ends. A panic unwinds the calling thread. -/
inductive Res (α : Type) where
  | ok (value : α)
  | err (error : StoreError)
  | panic
  deriving DecidableEq, Repr

def Res.ofExcept {α : Type} : Except StoreError α → Res α
  | .ok value => .ok value
  | .error error => .err error

def compatDenyAt : String := "1970-01-01T00:00:00.000Z"

def parseDbTime (value : String) : Except StoreError Int :=
  match parseTime value with
  | some instant => .ok instant
  | none => .error (.unreadableTime value)

def getText : Option String → Except StoreError String
  | some value => .ok value
  | none => .error .nullColumn

def parseOptionalTime : Option String → Except StoreError (Option Int)
  | none => .ok none
  | some value => (parseDbTime value).map some

def parseAmr (json : AmrJson) (value : String) : Except StoreError (List String) :=
  match json.fromStr value with
  | some amr => .ok amr
  | none => .error (.unreadableJson value)

def parseIdentityState (raw : String) : Except StoreError IdentityState :=
  if raw = "ready" then .ok .ready
  else if raw = "pending" then .ok .pending
  else .error (.invalidData "unknown identity state")

def validateSessionInvariants (session : GatewaySession) : Except StoreError Unit :=
  if session.idleExpiresAt > session.absoluteExpiresAt ∨ session.refreshGeneration < 0 then
    .error (.invalidData "invalid session deadline or generation")
  else
    match session.identityState with
    | .ready =>
      if session.identityPendingSince.isNone ∧ session.sessionExpiresAt = session.idleExpiresAt then
        .ok ()
      else .error (.invalidData "identity state compatibility gate mismatch")
    | .pending =>
      if session.identityPendingSince.isSome ∧
          formatTime session.sessionExpiresAt = compatDenyAt then
        .ok ()
      else .error (.invalidData "identity state compatibility gate mismatch")

def rowToSession (json : AmrJson) (row : SessionRow) : Except StoreError GatewaySession := do
  let amr ← parseAmr json row.amrJson
  let stateRaw ← getText row.identityState
  let identityState ← parseIdentityState stateRaw
  let accessExpiresAt ← parseDbTime row.accessExpiresAt
  let sessionExpiresAt ← parseDbTime row.sessionExpiresAt
  let idleExpiresAt ← parseDbTime (← getText row.idleExpiresAt)
  let absoluteExpiresAt ← parseDbTime (← getText row.absoluteExpiresAt)
  let lastTouchedAt ← parseDbTime (← getText row.lastTouchedAt)
  let identityPendingSince ← parseOptionalTime row.identityPendingSince
  let revokedAt ← parseOptionalTime row.revokedAt
  let session : GatewaySession :=
    { id := row.id, authSessionId := row.authSessionId, accessToken := row.accessToken,
      refreshToken := row.refreshToken, userId := row.userId, email := row.email, amr,
      accessExpiresAt, sessionExpiresAt, idleExpiresAt, absoluteExpiresAt, lastTouchedAt,
      identityState, identityPendingSince, refreshGeneration := row.refreshGeneration, revokedAt }
  validateSessionInvariants session
  return session

def isActive (session : GatewaySession) (now : Int) : Bool :=
  session.revokedAt.isNone && decide (now < session.idleExpiresAt)
    && decide (now < session.absoluteExpiresAt)

end AuthMiniGateway

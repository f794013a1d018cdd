import AuthMiniGateway.Config
import AuthMiniGateway.AuthMini

/-!
# The auth-mini client

Base64, JSON, the typed JSON bodies and Ed25519 are libraries and stand in `ClientLib`. Every failed check of a
token is `Invalid`.
-/

namespace AuthMiniGateway

/-- `serde_json::Value`. A number carries its value when it is an `i64`. -/
inductive JsonValue where
  | null
  | bool (value : Bool)
  | number (asI64 : Option Int)
  | string (value : String)
  | array (items : List JsonValue)
  | object (fields : List (String × JsonValue))

namespace JsonValue

def get (key : String) : JsonValue → Option JsonValue
  | object fields => fields.lookup key
  | _ => none

def asStr : JsonValue → Option String
  | string value => some value
  | _ => none

def asI64 : JsonValue → Option Int
  | number value => value
  | _ => none

def asArray : JsonValue → Option (List JsonValue)
  | array items => some items
  | _ => none

end JsonValue

structure TokenWire where
  sessionId : String
  accessToken : String
  tokenType : Option String
  refreshToken : String
  deriving DecidableEq, Repr

structure ClientLib where
  b64Decode : String → Option (List UInt8)
  parseJson : List UInt8 → Option JsonValue
  /-- The signature of the text under the public key, both well formed. -/
  verifies : List UInt8 → List UInt8 → String → Bool
  parseErrorWire : List UInt8 → Option String
  parseTokenWire : List UInt8 → Option TokenWire
  parseJwks : List UInt8 → Option Jwks

/-! ### Access tokens -/

inductive AccessTokenVerificationError where
  | audienceRejected
  | invalid
  deriving DecidableEq, Repr

def audienceListContains (expectedAudience : String) : List JsonValue → Bool → Bool
  | [], found => found
  | audience :: rest, found =>
    match audience.asStr with
    | none => false
    | some "" => false
    | some audience =>
      audienceListContains expectedAudience rest (found || decide (audience = expectedAudience))

def audienceClaimContains (claim : Option JsonValue) (expectedAudience : String) : Bool :=
  match claim with
  | some (.string audience) => decide (audience = expectedAudience)
  | some (.array audiences) => audienceListContains expectedAudience audiences false
  | _ => false

section Tokens

variable (lib : ClientLib)

def decodeJson (segment : String) : Option JsonValue := (lib.b64Decode segment).bind lib.parseJson

def signingKey (header : JsonValue) (jwks : Jwks) : Option (List UInt8) := do
  guard ((header.get "alg").bind JsonValue.asStr = some "EdDSA")
  let kid ← (header.get "kid").bind JsonValue.asStr
  let jwk ← jwks.keys.find? fun key => decide (key.kid = some kid)
  guard (jwk.alg = some "EdDSA" ∧ jwk.kty = some "OKP" ∧ jwk.crv = some "Ed25519")
  let publicBytes ← lib.b64Decode (← jwk.x)
  guard (publicBytes.length = 32)
  return publicBytes

def readClaims (payload : JsonValue) (expectedIssuer : String) (nowUnix : Int) :
    Option VerifiedAccessToken := do
  guard ((payload.get "iss").bind JsonValue.asStr = some expectedIssuer)
  guard ((payload.get "typ").bind JsonValue.asStr = some "access")
  let exp ← (payload.get "exp").bind JsonValue.asI64
  guard (nowUnix < exp)
  let userId ← ((payload.get "sub").bind JsonValue.asStr).filter (· ≠ "")
  let authSessionId ← ((payload.get "sid").bind JsonValue.asStr).filter (· ≠ "")
  let items ← (payload.get "amr").bind JsonValue.asArray
  let amr ← items.mapM JsonValue.asStr
  return { userId, authSessionId, amr, exp }

/-- Everything but the audience: the signed claims and the audience they state. -/
def verifyClaims (token : String) (jwks : Jwks) (expectedIssuer : String) (nowUnix : Int) :
    Option (VerifiedAccessToken × Option JsonValue) :=
  match (token.toList.splitOn '.').map String.ofList with
  | [header, payload, signature] => do
      let publicBytes ← signingKey lib (← decodeJson lib header) jwks
      let signatureBytes ← lib.b64Decode signature
      guard (lib.verifies publicBytes signatureBytes (header ++ "." ++ payload) = true)
      let payload ← decodeJson lib payload
      let claims ← readClaims payload expectedIssuer nowUnix
      return (claims, payload.get "aud")
  | _ => none

def verifyAccessToken (token : String) (jwks : Jwks) (expectedIssuer expectedAudience : String)
    (nowUnix : Int) : Except AccessTokenVerificationError VerifiedAccessToken :=
  match verifyClaims lib token jwks expectedIssuer nowUnix with
  | none => .error .invalid
  | some (claims, audience) =>
    if audienceClaimContains audience expectedAudience then .ok claims
    else .error .audienceRejected

end Tokens

/-! ### The endpoints -/

/-- What the transport brings. The body is missing when it cannot be read or is too long. -/
inductive HttpResult where
  | timeout
  | transport
  | response (status : Nat) (body : Option (List UInt8))
  deriving DecidableEq, Repr

structure AuthMiniClient where
  lib : ClientLib
  issuer : String
  audience : String

namespace AuthMiniClient

variable (client : AuthMiniClient)

def isServerError (status : Nat) : Bool := decide (500 ≤ status) && decide (status < 600)

def fetchJwks : HttpResult → Except RefreshError Jwks
  | .timeout => .error (.temporary .timeout)
  | .transport => .error (.temporary .transport)
  | .response status body =>
    if status = 429 then .error (.temporary .rateLimited)
    else if isServerError status then .error (.temporary .upstream)
    else if status ≠ 200 then .error (.indeterminate .unexpectedStatus)
    else
      match body.bind client.lib.parseJwks with
      | none => .error (.indeterminate .contractDrift)
      | some jwks => .ok jwks

/-- The key set, from the cache when that is younger than 300 seconds. -/
def jwks (cache : Option (Int × Jwks)) (now : Int) (fetched : HttpResult) :
    Except RefreshError Jwks :=
  match cache with
  | some (created, jwks) =>
    if now - created < 300 * nanosPerSecond then .ok jwks else client.fetchJwks fetched
  | none => client.fetchJwks fetched

def verifyRefreshedAccess (token : String) (jwks : Jwks) (nowUnix : Int) :
    Except RefreshError VerifiedAccessToken :=
  match verifyAccessToken client.lib token jwks client.issuer client.audience nowUnix with
  | .ok verified => .ok verified
  | .error .audienceRejected => .error .audienceRejected
  | .error .invalid => .error (.indeterminate .tokenVerification)

def verifyInitialAccess (token : String) (jwks : Except RefreshError Jwks) (nowUnix : Int) :
    Except InitialAccessError VerifiedAccessToken :=
  match jwks with
  | .error _ => .error .invalid
  | .ok jwks =>
    match verifyAccessToken client.lib token jwks client.issuer client.audience nowUnix with
    | .ok verified => .ok verified
    | .error .audienceRejected => .error .audienceRejected
    | .error .invalid => .error .invalid

def tokenResponse (wire : TokenWire) : Except RefreshError TokenResponse :=
  if wire.tokenType.getD "Bearer" ≠ "Bearer" ∨ wire.sessionId = "" ∨ wire.accessToken = "" ∨
      wire.refreshToken = "" then
    .error (.indeterminate .invalidSuccessBody)
  else
    .ok
      { sessionId := wire.sessionId, accessToken := wire.accessToken,
        refreshToken := wire.refreshToken }

def refreshUnauthorized (body : Option (List UInt8)) : RefreshError :=
  match body.bind client.lib.parseErrorWire with
  | some "session_invalidated" => .rejected .invalidated
  | some "session_superseded" => .rejected .superseded
  | _ => .indeterminate .invalidErrorBody

def refresh : HttpResult → Except RefreshError TokenResponse
  | .timeout => .error (.temporary .timeout)
  | .transport => .error (.temporary .transport)
  | .response status body =>
    if status = 408 then .error (.temporary .timeout)
    else if status = 429 then .error (.temporary .rateLimited)
    else if isServerError status then .error (.temporary .upstream)
    else if status = 401 then .error (client.refreshUnauthorized body)
    else if status ≠ 200 then .error (.indeterminate .unexpectedStatus)
    else
      match body.bind client.lib.parseTokenWire with
      | none => .error (.indeterminate .invalidSuccessBody)
      | some wire => tokenResponse wire

/-- The answers of the client, over everything that the network and its clocks can do. -/
def Answers : (op : AuthOp) → op.Answer → Prop
  | .prepareRefreshVerifier, answer => ∃ cache now fetched, answer = client.jwks cache now fetched
  | .verifyRefreshedAccess token jwks, answer =>
    ∃ nowUnix, answer = client.verifyRefreshedAccess token jwks nowUnix
  | .verifyInitialAccess token, answer => ∃ cache now fetched nowUnix,
      answer = client.verifyInitialAccess token (client.jwks cache now fetched) nowUnix
  | .refresh _ _, answer => ∃ result, answer = client.refresh result
  | .logout _, _ => True

end AuthMiniClient

end AuthMiniGateway

import AuthMiniGateway.Headers

namespace AuthMiniGateway

inductive CapacityClass where
  | activeUpstream
  | blockingResolver
  deriving DecidableEq, Repr

inductive ProxyError where
  | badRequest
  | badGateway
  | internal
  | capacity (className : CapacityClass)
  deriving DecidableEq, Repr

inductive ActualProtocol where
  | http1
  | http2
  deriving DecidableEq, Repr

/-- The address of the client, as the text that an `IpAddr` is printed as. -/
structure ClientIp where
  text : String
  isValue : (text.toUTF8.data.toList.all isHeaderValueByte) = true
  deriving DecidableEq, Repr

structure ProxyIdentity where
  userId : String
  deriving DecidableEq, Repr

def connectionToken (token : List Char) : Except ProxyError HeaderName :=
  if trim token = [] then .error .badRequest
  else
    match HeaderName.fromBytes (String.ofList (trim token)).toUTF8.data.toList with
    | some name => .ok name
    | none => .error .badRequest

def connectionTokens (value : HeaderValue) : Except ProxyError (List HeaderName) :=
  match value.toStr with
  | none => .error .badRequest
  | some text => (text.toList.splitOn ',').mapM connectionToken

variable (headers : HeaderMap)

def parseConnectionTokens : Except ProxyError (List HeaderName) :=
  ((headers.getAll .connection).mapM connectionTokens).map List.flatten

def fixedHopHeaders : List HeaderName :=
  [.connection, .keepAlive, .proxyConnection, .proxyAuthenticate, .proxyAuthorization, .te, .trailer,
    .transferEncoding, .upgrade]

def removeFixedHopHeaders : HeaderMap := headers.removeAll fixedHopHeaders

def removePrefixed (start : String) : HeaderMap :=
  headers.removeWhere (·.startsWith start)

def identityHeaderValue (value : String) : Except ProxyError HeaderValue :=
  if isSafeHeaderValue value = false then .error .internal
  else
    match HeaderValue.fromStr value with
    | some value => .ok value
    | none => .error .internal

def headerValueOrInternal (text : String) : Except ProxyError HeaderValue :=
  match HeaderValue.fromStr text with
  | some value => .ok value
  | none => .error .internal

/-- The first passes of `sanitize_request_headers`: what the client must not send on. -/
def removeClientHeaders (nominated : List HeaderName) : HeaderMap :=
  let headers := removeFixedHopHeaders (headers.removeAll nominated)
  let headers := headers.remove .contentLength
  let headers := headers.remove .cookie
  let headers := headers.remove .authorization
  let headers := headers.remove .proxyAuthorization
  let headers := headers.remove .forwarded
  let headers := headers.remove .xRealIp
  let headers := headers.remove .expect
  removePrefixed (removePrefixed headers "x-auth-mini-") "x-forwarded-"

def setHost (publicAuthority : HeaderValue) (protocol : ActualProtocol) :
    HeaderMap :=
  if protocol = .http1 then headers.insert .host publicAuthority else headers.remove .host

def upgradeValue : HeaderValue := ⟨"upgrade".toUTF8.data.toList, by decide⟩
def websocketValue : HeaderValue := ⟨"websocket".toUTF8.data.toList, by decide⟩

def setWebsocket (websocket : Bool) (protocol : ActualProtocol) : HeaderMap :=
  if websocket = true ∧ protocol = .http1 then
    (headers.insert .connection upgradeValue).insert .upgrade websocketValue
  else if websocket then (headers.remove .secWebsocketKey).remove .secWebsocketAccept
  else headers

def sanitizeRequestHeaders (publicAuthority : HeaderValue) (clientIp : ClientIp)
    (publicProto : String) (identity : ProxyIdentity) (websocket : Bool) (protocol : ActualProtocol) :
    Except ProxyError HeaderMap := do
  let nominated ← parseConnectionTokens headers
  let headers := setHost (removeClientHeaders headers nominated) publicAuthority protocol
  let client ← headerValueOrInternal clientIp.text
  let headers := headers.insert .xForwardedFor client
  let proto ← headerValueOrInternal publicProto
  let headers := headers.insert .xForwardedProto proto
  let headers := headers.insert .xForwardedHost publicAuthority
  let userId ← identityHeaderValue identity.userId
  let headers := headers.insert .xAuthMiniUserId userId
  return setWebsocket headers websocket protocol

end AuthMiniGateway

import AuthMiniGateway.ForwardExchange
import AuthMiniGateway.WebSocketHeaders

namespace AuthMiniGateway

structure HandshakePlatform where
  base64Encode : List UInt8 → String
  base64Decode : String → Option (List UInt8)
  sha1 : List UInt8 → List UInt8
  parseUri : String → Option Uri

/-- What `OsRng` fills an array of 16 bytes with. -/
structure RandomKey where
  bytes : List UInt8
  length_eq : bytes.length = 16

structure UpstreamAddress extends UpstreamBase where
  authority : String
  pathPrefix : String

inductive DownstreamWebSocket where
  | http1 (key : String)
  | http2
  deriving DecidableEq, Repr

structure WebSocketRequest where
  downstream : DownstreamWebSocket
  protocols : List String
  extensionNames : List String
  deriving DecidableEq, Repr

namespace WebSocketRequest

def downstreamProtocol (request : WebSocketRequest) : ActualProtocol :=
  match request.downstream with
  | .http1 _ => .http1
  | .http2 => .http2

def downstreamKey (request : WebSocketRequest) : Option String :=
  match request.downstream with
  | .http1 key => some key
  | .http2 => none

end WebSocketRequest

inductive WebSocketRequestError where
  | badRequest
  | methodNotAllowed
  deriving DecidableEq, Repr

/-! ### The client's request -/

def asBadRequest {α : Type} : Except ProxyError α → Except WebSocketRequestError α
  | .ok value => .ok value
  | .error _ => .error .badRequest

def refuseIf (condition : Bool) : Except WebSocketRequestError Unit :=
  if condition then .error .badRequest else .ok ()

def websocketHandshakeHeaders : List HeaderName :=
  [.secWebsocketKey, .secWebsocketVersion, .secWebsocketProtocol, .secWebsocketExtensions,
    .secWebsocketAccept]

def websocketHandshakeHeadersPresent (headers : HeaderMap) : Bool :=
  websocketHandshakeHeaders.any fun name => headers.containsKey name

def isWebsocketUpgrade (value : HeaderValue) : Bool :=
  value.toStr.any fun text => Request.eqIgnoreAsciiCase (String.ofList (trim text.toList)) "websocket"

def versionThirteen : List UInt8 := "13".toUTF8.data.toList

def checkedU64 (n : Nat) : Option Nat := if n < 2 ^ 64 then some n else none

def readU64 (digits : List Char) : Option Nat :=
  digits.foldlM (fun number digit =>
    (checkedU64 (number * 10)).bind fun number => checkedU64 (number + (digit.toNat - 48))) 0

def contentLengthValue (parsed : Option Nat) (value : List Char) : Except ProxyError (Option Nat) :=
  let value := trim value
  if value = [] ∨ value.all Char.isDigit = false then .error .badRequest
  else
    match readU64 value, parsed with
    | none, _ => .error .badRequest
    | some number, none => .ok (some number)
    | some number, some existing => if existing = number then .ok parsed else .error .badRequest

def contentLengthLine (parsed : Option Nat) (value : HeaderValue) : Except ProxyError (Option Nat) := do
  let text ← requestText value
  (text.toList.splitOn ',').foldlM contentLengthValue parsed

def validateH2WebsocketContentLength (headers : HeaderMap) : Except ProxyError Unit := do
  let parsed ← (headers.getAll .contentLength).foldlM contentLengthLine none
  if parsed.all (· = 0) then .ok () else .error .badRequest

def isOriginText (platform : HandshakePlatform) (text : String) : Bool :=
  text = "null" ||
    (platform.parseUri text).any fun uri =>
      uri.authority.any (fun authority => !authority.toList.contains '@') && uri.scheme.isSome
        && uri.pathAndQuery.all fun path => path = "" || path = "/"

def validateWebsocketOrigin (platform : HandshakePlatform) (headers : HeaderMap) :
    Except ProxyError Unit :=
  match headers.getAll .origin with
  | [] => .ok ()
  | [value] => if value.toStr.any (isOriginText platform) then .ok () else .error .badRequest
  | _ => .error .badRequest

def h2RequestForbidden : List HeaderName :=
  [.host, .connection, .upgrade, .keepAlive, .proxyConnection, .transferEncoding, .te, .trailer,
    .secWebsocketKey, .secWebsocketAccept]

def validateH2WebsocketRequest (platform : HandshakePlatform) (request : HyperRequest) :
    Except WebSocketRequestError Unit := do
  refuseIf !((request.uri.scheme == some "http" || request.uri.scheme == some "https")
    && request.uri.authority.isSome
    && request.uri.pathAndQuery.any (fun text => text.toList.head? == some '/')
    && request.isEndStream)
  asBadRequest (validateH2WebsocketContentLength request.headers)
  refuseIf (h2RequestForbidden.any fun name => request.headers.containsKey name)
  let version ← asBadRequest (exactlyOne request.headers .secWebsocketVersion)
  refuseIf (version.bytes ≠ versionThirteen)
  asBadRequest (validateWebsocketOrigin platform request.headers)
  let _ ← asBadRequest (parseProtocols request.headers)
  let _ ← asBadRequest (parseExtensions request.headers)
  return ()

def h1NotNominated : List HeaderName :=
  [.secWebsocketKey, .secWebsocketVersion, .secWebsocketProtocol, .secWebsocketExtensions, .origin]

def textOrRefuse : Option String → Except WebSocketRequestError String
  | some text => .ok text
  | none => .error .badRequest

/-- The checks of a request that asks for an upgrade; `tokens` are those of `Connection`. -/
def parseH1WebsocketRequest (platform : HandshakePlatform) (request : HyperRequest)
    (tokens : List HeaderName) : Except WebSocketRequestError WebSocketRequest := do
  let upgrades := request.headers.getAll .upgrade
  refuseIf (!tokens.contains .upgrade || upgrades.length ≠ 1)
  refuseIf (h1NotNominated.any fun name => request.headers.containsKey name && tokens.contains name)
  refuseIf (request.headers.containsKey .secWebsocketAccept)
  refuseIf !(upgrades.head?.any isWebsocketUpgrade)
  refuseIf (request.method ≠ "GET" || request.version ≠ .http11 || !request.isEndStream)
  let version ← asBadRequest (exactlyOne request.headers .secWebsocketVersion)
  refuseIf (version.bytes ≠ versionThirteen)
  let value ← asBadRequest (exactlyOne request.headers .secWebsocketKey)
  let key ← textOrRefuse value.toStr
  refuseIf (key.toList ≠ trim key.toList)
  refuseIf !((platform.base64Decode key).any fun decoded =>
    decoded.length = 16 && platform.base64Encode decoded = key)
  asBadRequest (validateWebsocketOrigin platform request.headers)
  let protocols ← asBadRequest (parseProtocols request.headers)
  let extensionNames ← asBadRequest (parseExtensions request.headers)
  return ⟨.http1 key, protocols, extensionNames⟩

def parseH2WebsocketRequest (platform : HandshakePlatform) (request : HyperRequest) :
    Except WebSocketRequestError WebSocketRequest := do
  validateH2WebsocketRequest platform request
  let protocols ← asBadRequest (parseProtocols request.headers)
  let extensionNames ← asBadRequest (parseExtensions request.headers)
  return ⟨.http2, protocols, extensionNames⟩

/-- `none` for an ordinary request. The `:protocol` of an extended `CONNECT` comes beside the request. -/
def parseWebsocketRequest (platform : HandshakePlatform) (request : HyperRequest)
    (extendedProtocol : Option String) : Except WebSocketRequestError (Option WebSocketRequest) :=
  if request.method = "CONNECT" then
    if request.version ≠ .http2 ∨ extendedProtocol ≠ some "websocket" then .error .methodNotAllowed
    else (parseH2WebsocketRequest platform request).map some
  else if extendedProtocol.isSome then .error .methodNotAllowed
  else
    match parseConnectionTokens request.headers with
    | .error _ => .error .badRequest
    | .ok tokens =>
      if tokens.contains .upgrade = false ∧ request.headers.getAll .upgrade = [] then
        if websocketHandshakeHeadersPresent request.headers then .error .badRequest else .ok none
      else (parseH1WebsocketRequest platform request tokens).map some

/-! ### The request to the upstream -/

structure PreparedWebSocket where
  bridge : WebSocketBridge
  upstreamKey : Option String
  deriving DecidableEq, Repr

/-- `random` is `none` when the system has no random bytes. -/
def prepareWebsocket (platform : HandshakePlatform) (random : Option RandomKey)
    (request : WebSocketRequest) (upstream : ActualProtocol) : Except ProxyError PreparedWebSocket :=
  let bridge := WebSocketBridge.new request.downstreamProtocol upstream
  match bridge with
  | .h1ToH1 =>
    match request.downstreamKey with
    | some key => .ok ⟨bridge, some key⟩
    | none => .error .internal
  | .h2ToH1 =>
    match random with
    | some key => .ok ⟨bridge, some (platform.base64Encode key.bytes)⟩
    | none => .error .internal
  | .h1ToH2 | .h2ToH2 => .ok ⟨bridge, none⟩

structure OutgoingRequest where
  version : HttpVersion
  method : String
  uri : Uri
  headers : HeaderMap
  extendedProtocol : Option String
  deriving DecidableEq, Repr

def composePath (pathPrefix pathAndQuery : String) : Except ProxyError String :=
  if pathAndQuery.toList.head? = some '/' then .ok (pathPrefix ++ pathAndQuery) else .error .badRequest

def targetUri (platform : HandshakePlatform) (text : String) : Except ProxyError Uri :=
  match platform.parseUri text with
  | some uri => .ok uri
  | none => .error .internal

def setUpstreamTarget (platform : HandshakePlatform) (upstream : UpstreamAddress) (path : String)
    (protocol : ActualProtocol) (request : OutgoingRequest) : Except ProxyError OutgoingRequest := do
  match protocol with
  | .http1 =>
    let uri ← targetUri platform path
    return { request with uri, version := .http11 }
  | .http2 =>
    let uri ← targetUri platform (upstream.scheme ++ "://" ++ upstream.authority ++ path)
    return { request with uri, version := .http2 }

def setWebsocketUpstreamTarget (platform : HandshakePlatform) (upstream : UpstreamAddress)
    (path : String) (prepared : PreparedWebSocket) (request : OutgoingRequest) :
    Except ProxyError OutgoingRequest := do
  let request ← setUpstreamTarget platform upstream path prepared.bridge.upstream request
  match prepared.bridge.upstream with
  | .http1 => return { request with method := "GET", extendedProtocol := none }
  | .http2 => return { request with method := "CONNECT", extendedProtocol := some "websocket" }

def insertKey (headers : HeaderMap) : Option String → Except ProxyError HeaderMap
  | none => .ok headers
  | some key =>
    match HeaderValue.fromStr key with
    | some value => .ok (headers.insert .secWebsocketKey value)
    | none => .error .internal

/-- What `forward` knows besides the request. -/
structure ForwardContext where
  upstream : UpstreamAddress
  pathAndQuery : String
  publicAuthority : HeaderValue
  clientIp : ClientIp
  publicProto : String
  identity : ProxyIdentity
  renewal : Option String
  protocol : ActualProtocol
  extendedConnectEnabled : Bool
  random : Option RandomKey

namespace ForwardContext

def prepare (context : ForwardContext) (platform : HandshakePlatform)
    (websocket : Option WebSocketRequest) : Except ProxyError (Option PreparedWebSocket) :=
  match websocket with
  | none => .ok none
  | some request =>
    if context.protocol = .http2 ∧ context.extendedConnectEnabled = false then .error .badGateway
    else (prepareWebsocket platform context.random request context.protocol).map some

def setTarget (context : ForwardContext) (platform : HandshakePlatform)
    (prepared : Option PreparedWebSocket) (request : OutgoingRequest) :
    Except ProxyError OutgoingRequest := do
  let path ← composePath context.upstream.pathPrefix context.pathAndQuery
  match prepared with
  | some prepared => setWebsocketUpstreamTarget platform context.upstream path prepared request
  | none => setUpstreamTarget platform context.upstream path context.protocol request

/-- `forward` up to the dispatch: the request as it is sent, and what the answer is checked against. -/
def outgoing (context : ForwardContext) (platform : HandshakePlatform)
    (websocket : Option WebSocketRequest) (request : OutgoingRequest) :
    Except ProxyError (OutgoingRequest × Option PreparedWebSocket) := do
  let prepared ← context.prepare platform websocket
  let request ← context.setTarget platform prepared request
  let headers ← sanitizeRequestHeaders request.headers context.publicAuthority context.clientIp
    context.publicProto context.identity websocket.isSome context.protocol
  let headers ← insertKey headers (prepared.bind PreparedWebSocket.upstreamKey)
  return ({ request with headers }, prepared)

end ForwardContext

def HyperRequest.unsent (request : HyperRequest) (extendedProtocol : Option String) : OutgoingRequest :=
  { version := request.version, method := request.method, uri := request.uri,
    headers := request.headers, extendedProtocol }

/-! ### The answer of the upstream -/

structure UpstreamAnswer extends UpstreamResponse where
  isEndStream : Bool
  deriving DecidableEq, Repr

def websocketGuid : String := "258EAFA5-E914-47DA-95CA-C5AB0DC85B11"

def websocketAccept (platform : HandshakePlatform) (key : String) : String :=
  platform.base64Encode
    (platform.sha1 (key.toUTF8.data.toList ++ websocketGuid.toUTF8.data.toList))

def unlessOk (condition : Bool) : Except ProxyError Unit :=
  if condition then .ok () else .error .badGateway

def asBadGateway {α : Type} : Except ProxyError α → Except ProxyError α
  | .ok value => .ok value
  | .error _ => .error .badGateway

def isOfferedProtocol (request : WebSocketRequest) (value : HeaderValue) : Bool :=
  value.toStr.any fun text =>
    text ≠ "" && isTokenText text.toList && request.protocols.contains text

def validateWebsocketResponseSelections (headers : HeaderMap) (request : WebSocketRequest) :
    Except ProxyError Unit := do
  let selected := headers.getAll .secWebsocketProtocol
  unlessOk (selected.length ≤ 1)
  unlessOk (selected.head?.all (isOfferedProtocol request))
  let names ← asBadGateway (parseExtensions headers)
  unlessOk (names.all request.extensionNames.contains)

def h1ResponseForbidden : List HeaderName := [.secWebsocketKey, .secWebsocketVersion, .origin]

def websocketSelections : List HeaderName := [.secWebsocketProtocol, .secWebsocketExtensions]

def validateH1WebsocketResponse (platform : HandshakePlatform) (response : UpstreamAnswer)
    (request : WebSocketRequest) (upstreamKey : String) : Except ProxyError Unit := do
  unlessOk (response.status = 101 && response.version = .http11 && response.isEndStream
    && !h1ResponseForbidden.any fun name => response.headers.containsKey name)
  let connection ← parseResponseConnectionTokens response.headers
  unlessOk (connection.contains .upgrade)
  unlessOk !(connection.contains .secWebsocketAccept)
  unlessOk !(websocketSelections.any fun name =>
    response.headers.containsKey name && connection.contains name)
  let upgrades := response.headers.getAll .upgrade
  unlessOk (upgrades.length = 1 && upgrades.head?.any isWebsocketUpgrade)
  let accept ← asBadGateway (exactlyOne response.headers .secWebsocketAccept)
  unlessOk (accept.bytes = (websocketAccept platform upstreamKey).toUTF8.data.toList)
  validateWebsocketResponseSelections response.headers request

def h2ResponseForbidden : List HeaderName :=
  [.connection, .upgrade, .contentLength, .keepAlive, .proxyConnection, .transferEncoding, .te, .trailer,
    .secWebsocketKey, .secWebsocketAccept, .secWebsocketVersion, .origin, .host]

def validateH2WebsocketResponse (response : UpstreamAnswer) (request : WebSocketRequest) :
    Except ProxyError Unit := do
  unlessOk (response.status = 200 && response.version = .http2 && response.isEndStream)
  unlessOk !(h2ResponseForbidden.any fun name => response.headers.containsKey name)
  validateWebsocketResponseSelections response.headers request

def validateWebsocketUpstreamResponse (platform : HandshakePlatform) (response : UpstreamAnswer)
    (request : WebSocketRequest) (prepared : PreparedWebSocket) : Except ProxyError Unit :=
  match prepared.bridge.upstream with
  | .http1 =>
    match prepared.upstreamKey with
    | some key => validateH1WebsocketResponse platform response request key
    | none => .error .internal
  | .http2 => validateH2WebsocketResponse response request

/-! ### The answer to the client -/

def insertAccept (platform : HandshakePlatform) (headers : HeaderMap) (request : WebSocketRequest) :
    Except ProxyError HeaderMap :=
  match request.downstreamKey with
  | none => .error .internal
  | some key =>
    match HeaderValue.fromStr (websocketAccept platform key) with
    | some value => .ok (headers.insert .secWebsocketAccept value)
    | none => .error .internal

def h1AnswerRemoved : List HeaderName :=
  [.secWebsocketKey, .secWebsocketAccept, .secWebsocketVersion, .origin, .host]

def sanitizeWebsocketResponseHead (platform : HandshakePlatform) (response : UpstreamAnswer)
    (renewal : Option String) (request : WebSocketRequest) (prepared : PreparedWebSocket) :
    Except ProxyError UpstreamResponse := do
  let headers ← sanitizeResponseHead response.headers renewal false
  let headers := headers.removeAll h1AnswerRemoved
  match prepared.bridge.downstream with
  | .http1 =>
    let headers ← insertAccept platform (setUpgrade headers) request
    return ⟨.http11, 101, headers⟩
  | .http2 => return ⟨.http2, 200, removeFixedHopHeaders headers⟩

/-- The checks of `forward`. Any failure over HTTP/1 is a bad gateway; over HTTP/2 the failure itself is
passed on. -/
def checkAnswer (platform : HandshakePlatform) (request : WebSocketRequest)
    (prepared : PreparedWebSocket) (response : UpstreamAnswer) : Except ProxyError Unit :=
  match prepared.bridge.upstream with
  | .http1 => asBadGateway (validateWebsocketUpstreamResponse platform response request prepared)
  | .http2 =>
    if response.status ≠ 200 then .error .badGateway
    else validateWebsocketUpstreamResponse platform response request prepared

def ForwardContext.answer (context : ForwardContext) (platform : HandshakePlatform)
    (request : WebSocketRequest) (prepared : PreparedWebSocket) (response : UpstreamAnswer) :
    Except ProxyError UpstreamResponse := do
  checkAnswer platform request prepared response
  sanitizeWebsocketResponseHead platform response context.renewal request prepared

end AuthMiniGateway

import AuthMiniGateway.Handlers
import AuthMiniGateway.Headers

/-!
# Routing

A `Uri` is that of the `http` crate. It has a scheme only in absolute form and over HTTP/2; with an authority
alone it has no path.
-/

namespace AuthMiniGateway

inductive HttpVersion where
  | http10
  | http11
  | http2
  deriving DecidableEq, Repr

def isSchemeChar (c : Char) : Bool := c.isAlphanum || c = '+' || c = '-' || c = '.'

def isSchemeText (text : List Char) : Bool := text != [] && text.all isSchemeChar

structure Uri where
  scheme : Option String
  authority : Option String
  rawPath : String
  query : Option String
  scheme_isText : scheme.all (isSchemeText ·.toList) = true
  rawPath_noQuery : rawPath.toList.contains '?' = false
  authorityForm : (scheme.isNone && authority.isSome) = true → rawPath = "" ∧ query = none
  deriving DecidableEq, Repr

namespace Uri

def querySuffix (uri : Uri) : String := uri.query.elim "" ("?" ++ ·)

-- the data of the crate's `PathAndQuery`
def data (uri : Uri) : String := uri.rawPath ++ uri.querySuffix

def path (uri : Uri) : String :=
  if uri.data = "" ∧ uri.scheme = none then ""
  else if uri.rawPath = "" then "/"
  else uri.rawPath

def pathAndQuery (uri : Uri) : Option String :=
  if uri.scheme.isSome ∨ uri.authority = none then some (if uri.data = "" then "/" else uri.data)
  else none

def toText (uri : Uri) : String :=
  uri.scheme.elim "" (· ++ "://") ++ (uri.authority.getD "" ++ (uri.path ++ uri.querySuffix))

end Uri

structure HyperRequest where
  version : HttpVersion
  method : String
  uri : Uri
  headers : HeaderMap
  isEndStream : Bool
  -- `none` when the connection fails before the body ends
  body : Option (List UInt8)
  deriving DecidableEq, Repr

def maxLocalBody : Nat := 64 * 1024

def ownedPaths : List String :=
  ["/healthz", "/login", "/auth/callback", "/auth/callback/session", "/auth/check", "/logout"]

/-- `value.parse::<usize>()`. -/
def readUsize (value : String) : Option Nat :=
  let number := match value.toList with
    | '+' :: text => readI64Digits text
    | text => readI64Digits text
  number.filter (· ≤ usizeMax)

namespace HyperRequest

variable (request : HyperRequest)

def declaredLength : Option Nat :=
  ((request.headers.get .contentLength).bind HeaderValue.toStr).bind readUsize

def transferEncoded : Bool := request.headers.containsKey .transferEncoding

def hasBody : Bool :=
  !request.isEndStream || request.declaredLength.any (0 < ·) || request.transferEncoded

def publicAuthority : Option HeaderValue :=
  if request.version ≠ .http2 then
    match request.headers.getAll .host with
    | [value] => some value
    | _ => none
  else
    match request.uri.authority with
    | none => none
    | some authority =>
      let hosts := request.headers.getAll .host
      if 1 < hosts.length ∨ hosts.head?.any (·.bytes ≠ authority.toUTF8.data.toList) then none
      else HeaderValue.fromStr authority

def validateOrdinaryH2 : Bool :=
  (request.uri.scheme == some "http" || request.uri.scheme == some "https")
    && request.uri.authority.isSome
    && request.uri.pathAndQuery.any (fun text => text.toList.head? == some '/')
    && request.publicAuthority.isSome

def combineCookies : List HeaderValue → Option String → Option (Option String)
  | [], combined => some combined
  | value :: values, combined =>
    match value.toStr with
    | none => none
    | some text => combineCookies values (some (combined.elim text (· ++ "; " ++ text)))

def proxyAuthCookie : Option (Option String) :=
  if request.version ≠ .http2 then some ((request.headers.get .cookie).bind HeaderValue.toStr)
  else combineCookies (request.headers.getAll .cookie) none

def validateExpect : Bool :=
  match request.headers.getAll .expect with
  | [] => true
  | [value] =>
    request.version == .http11 && request.hasBody
      && value.toStr.any (Request.eqIgnoreAsciiCase · "100-continue")
  | _ => false

def localCookie : Option (Option String) :=
  if request.version = .http2 then request.proxyAuthCookie else some none

def localBody : Option (List UInt8) :=
  if request.transferEncoded then some [] else request.body.filter (·.length ≤ maxLocalBody)

def localHeaders (cookie : Option String) : List (String × String) :=
  let kept := request.headers.filter fun entry =>
    request.version ≠ .http2 || entry.1 ≠ HeaderName.cookie
  kept.map (fun entry => (entry.1.text, entry.2.toStr.getD ""))
    ++ cookie.toList.map (fun cookie => ("Cookie", cookie))

def localTarget : String :=
  if request.version = .http2 then request.uri.pathAndQuery.getD request.uri.path
  else request.uri.toText

def localRequest (cookie : Option String) (body : List UInt8) : Request :=
  { method := request.method, target := request.localTarget, headers := request.localHeaders cookie,
    body }

end HyperRequest

inductive Routed where
  -- an answer of the gateway's own, given before the request is looked at
  | generated (status : Nat) (text : String)
  -- a CONNECT over HTTP/2 for an owned path, which is answered with 400 or 405
  | ownedConnect
  -- the 404 that answers every other path when there is no upstream
  | adapterNotFound
  | localTable (request : Request)
  | proxyFallback
  deriving DecidableEq, Repr

def handleLocalRequest (request : HyperRequest) (adapterFallback : Bool) : Routed :=
  match request.localCookie with
  | none => .generated 400 "Bad request"
  | some cookie =>
    if request.validateExpect = false then .generated 417 "Expectation failed"
    else if request.declaredLength.any (maxLocalBody < ·) then .generated 400 "Bad request"
    else
      match request.localBody with
      | none => .generated 400 "Bad request"
      | some body =>
        if adapterFallback then .adapterNotFound
        else .localTable (request.localRequest cookie body)

def handleHyperRequest (config : Config) (request : HyperRequest) : Routed :=
  if request.version = .http2 ∧ request.method ≠ "CONNECT" ∧ request.validateOrdinaryH2 = false then
    .generated 400 "Bad request"
  else if request.uri.path ∈ ownedPaths ∧ request.method = "CONNECT" ∧ request.version = .http2 then
    .ownedConnect
  else if request.uri.path ∈ ownedPaths then handleLocalRequest request false
  else if config.upstream = none then handleLocalRequest request true
  else .proxyFallback

end AuthMiniGateway

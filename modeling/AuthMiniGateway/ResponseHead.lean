import AuthMiniGateway.Sanitize

namespace AuthMiniGateway

variable (headers : HeaderMap)

def parseResponseConnectionTokens : Except ProxyError (List HeaderName) :=
  match parseConnectionTokens headers with
  | .ok names => .ok names
  | .error _ => .error .badGateway

def isAllowedApplicationCookie (value : HeaderValue) : Bool :=
  let bytes := value.bytes.dropWhile fun byte => byte == 32 || byte == 9
  let pair := bytes.takeWhile (· ≠ 59)
  if pair.contains 61 then
    let name := pair.takeWhile (· ≠ 61)
    if name = [] ∨ name.all isTokenByte = false then false
    else name ≠ "amg_session".toUTF8.data.toList && name ≠ "amg_login_state".toUTF8.data.toList
  else false

def appendValue (name : HeaderName) (value : HeaderValue) : HeaderMap :=
  headers ++ [(name, value)]

def filterApplicationCookies : HeaderMap :=
  let values := headers.getAll .setCookie
  values.foldl (fun headers value =>
    if isAllowedApplicationCookie value then appendValue headers .setCookie value else headers)
    (headers.remove .setCookie)

def removeUpstreamHeaders (nominated : List HeaderName) : HeaderMap :=
  let headers := removeFixedHopHeaders (headers.removeAll nominated)
  let headers := headers.remove .contentLength
  filterApplicationCookies (removePrefixed headers "x-auth-mini-")

def setUpgrade : HeaderMap :=
  (headers.insert .connection upgradeValue).insert .upgrade websocketValue

def appendRenewal : Option String → Except ProxyError HeaderMap
  | none => .ok headers
  | some cookie =>
    match HeaderValue.fromStr cookie with
    | some value => .ok (appendValue headers .setCookie value)
    | none => .error .internal

def sanitizeResponseHead (renewal : Option String) (websocket : Bool) :
    Except ProxyError HeaderMap :=
  match parseResponseConnectionTokens headers with
  | .error error => .error error
  | .ok nominated =>
    let headers := removeUpstreamHeaders headers nominated
    appendRenewal (if websocket then setUpgrade headers else headers) renewal

end AuthMiniGateway

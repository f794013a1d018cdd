import AuthMiniGateway.Http
import AuthMiniGateway.Lib.Multimap

/-!
# Header maps

The header map of the `http` crate. Only the order of the values of one name is promised.
-/

namespace AuthMiniGateway

def maxHeaderNameLen : Nat := 2 ^ 16 - 1

def isHeaderChar (c : Char) : Bool :=
  c.isDigit || c.isLower || "!#$%&'*+-.^_`|~".toList.contains c

def isHeaderNameText (text : List Char) : Bool :=
  text != [] && text.all isHeaderChar && decide (text.length ≤ maxHeaderNameLen)

structure HeaderName where
  text : String
  isName : isHeaderNameText text.toList = true
  deriving DecidableEq, Repr

def byteChar (byte : UInt8) : Char := Char.ofNat byte.toNat

namespace HeaderName

def fromBytes (bytes : List UInt8) : Option HeaderName :=
  let text := String.ofList (bytes.map fun byte => (byteChar byte).toLower)
  if h : isHeaderNameText text.toList = true then some ⟨text, h⟩ else none

def startsWith (name : HeaderName) (start : String) : Bool := start.toList.isPrefixOf name.text.toList

@[ext]
theorem ext {a b : HeaderName} (h : a.text = b.text) : a = b := by
  cases a
  cases b
  cases h
  rfl

def authorization : HeaderName := ⟨"authorization", by decide⟩
def connection : HeaderName := ⟨"connection", by decide⟩
def contentLength : HeaderName := ⟨"content-length", by decide⟩
def cookie : HeaderName := ⟨"cookie", by decide⟩
def expect : HeaderName := ⟨"expect", by decide⟩
def forwarded : HeaderName := ⟨"forwarded", by decide⟩
def host : HeaderName := ⟨"host", by decide⟩
def keepAlive : HeaderName := ⟨"keep-alive", by decide⟩
def origin : HeaderName := ⟨"origin", by decide⟩
def proxyAuthenticate : HeaderName := ⟨"proxy-authenticate", by decide⟩
def proxyAuthorization : HeaderName := ⟨"proxy-authorization", by decide⟩
def proxyConnection : HeaderName := ⟨"proxy-connection", by decide⟩
def secWebsocketAccept : HeaderName := ⟨"sec-websocket-accept", by decide⟩
def secWebsocketExtensions : HeaderName := ⟨"sec-websocket-extensions", by decide⟩
def secWebsocketKey : HeaderName := ⟨"sec-websocket-key", by decide⟩
def secWebsocketProtocol : HeaderName := ⟨"sec-websocket-protocol", by decide⟩
def secWebsocketVersion : HeaderName := ⟨"sec-websocket-version", by decide⟩
def setCookie : HeaderName := ⟨"set-cookie", by decide⟩
def te : HeaderName := ⟨"te", by decide⟩
def trailer : HeaderName := ⟨"trailer", by decide⟩
def transferEncoding : HeaderName := ⟨"transfer-encoding", by decide⟩
def upgrade : HeaderName := ⟨"upgrade", by decide⟩
def xAuthMiniUserId : HeaderName := ⟨"x-auth-mini-user-id", by decide⟩
def xForwardedFor : HeaderName := ⟨"x-forwarded-for", by decide⟩
def xForwardedHost : HeaderName := ⟨"x-forwarded-host", by decide⟩
def xForwardedProto : HeaderName := ⟨"x-forwarded-proto", by decide⟩
def xRealIp : HeaderName := ⟨"x-real-ip", by decide⟩

end HeaderName

def isHeaderValueByte (byte : UInt8) : Bool :=
  (decide (32 ≤ byte.toNat) && decide (byte.toNat ≠ 127)) || byte.toNat == 9

structure HeaderValue where
  bytes : List UInt8
  isValue : bytes.all isHeaderValueByte = true
  deriving DecidableEq, Repr

namespace HeaderValue

def fromBytes (bytes : List UInt8) : Option HeaderValue :=
  if h : bytes.all isHeaderValueByte = true then some ⟨bytes, h⟩ else none

def fromStr (text : String) : Option HeaderValue := fromBytes text.toUTF8.data.toList

def isVisible (byte : UInt8) : Bool :=
  (decide (32 ≤ byte.toNat) && decide (byte.toNat < 127)) || byte.toNat == 9

/-- The text of a value; a byte outside of visible ASCII makes it unreadable. -/
def toStr (value : HeaderValue) : Option String :=
  if value.bytes.all isVisible then some (String.ofList (value.bytes.map byteChar)) else none

@[ext]
theorem ext {a b : HeaderValue} (h : a.bytes = b.bytes) : a = b := by
  cases a
  cases b
  cases h
  rfl

end HeaderValue

abbrev HeaderMap := Multimap HeaderName HeaderValue

end AuthMiniGateway

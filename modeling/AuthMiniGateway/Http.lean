import AuthMiniGateway.Cookies

namespace AuthMiniGateway

def urlDecodeBytes : List UInt8 → Option (List UInt8)
  | [] => some []
  | 43 :: rest => (urlDecodeBytes rest).map (32 :: ·)
  | 37 :: high :: low :: rest =>
    match fromStrRadix16 high low with
    | some byte => (urlDecodeBytes rest).map (byte :: ·)
    | none => none
  | 37 :: _ => none
  | byte :: rest => (urlDecodeBytes rest).map (byte :: ·)

def urlDecode (value : String) : Option String :=
  (urlDecodeBytes value.toUTF8.data.toList).bind fun bytes => String.fromUTF8? ⟨bytes.toArray⟩

/-- The query of a request, the parameter inserted last first. -/
abbrev Query := List (String × String)

def parsePair (pair : List Char) : Option (String × String) :=
  let (key, value) := (splitOnce '=' pair).getD (pair, [])
  match urlDecode (String.ofList key), urlDecode (String.ofList value) with
  | some key, some value => some (key, value)
  | _, _ => none

def parseTarget (target : String) : String × Query :=
  let (path, query) := (splitOnce '?' target.toList).getD (target.toList, [])
  let pairs := (query.splitOn '&').filter (· ≠ [])
  (String.ofList path, (pairs.filterMap parsePair).reverse)

structure Request where
  method : String
  target : String
  headers : List (String × String)
  body : List UInt8
  deriving DecidableEq, Repr

namespace Request

def path (request : Request) : String := (parseTarget request.target).1

def query (request : Request) : Query := (parseTarget request.target).2

def parameter (request : Request) (name : String) : Option String := request.query.lookup name

def eqIgnoreAsciiCase (a b : String) : Bool := a.toList.map Char.toLower == b.toList.map Char.toLower

def header (request : Request) (name : String) : Option String :=
  (request.headers.find? fun (candidate, _) => eqIgnoreAsciiCase candidate name).map Prod.snd

end Request

inductive Body where
  | empty
  | text (body : String)
  | returnTo (target : String)
  | callbackPage
  deriving DecidableEq, Repr

structure Response where
  status : Nat
  contentType : String
  headers : List (String × String)
  body : Body
  deriving DecidableEq, Repr

def isSafeHeaderValue (value : String) : Bool :=
  value.toUTF8.data.toList.all fun byte => decide (0x20 ≤ byte.toNat) && decide (byte.toNat ≠ 0x7f)

def isTokenByte (byte : UInt8) : Bool :=
  let n := byte.toNat
  (48 ≤ n && n ≤ 57) || (65 ≤ n && n ≤ 90) || (97 ≤ n && n ≤ 122)
    || [33, 35, 36, 37, 38, 39, 42, 43, 45, 46, 94, 95, 96, 124, 126].contains n

def isSafeHeaderName (name : String) : Bool :=
  name != "" && name.toUTF8.data.toList.all isTokenByte

namespace Response

def textType : String := "text/plain; charset=utf-8"

def new (status : Nat) (contentType : String) (body : Body) : Response :=
  { status, contentType, headers := [], body }

def withHeader (response : Response) (name value : String) : Response :=
  if isSafeHeaderName name && isSafeHeaderValue value then
    { response with headers := response.headers ++ [(name, value)] }
  else response

def withCookie (response : Response) (cookie : String) : Response :=
  response.withHeader "Set-Cookie" cookie

def prependCookie (response : Response) (cookie : String) : Response :=
  if isSafeHeaderValue cookie then
    { response with headers := ("Set-Cookie", cookie) :: response.headers }
  else response

def empty (status : Nat) : Response := new status textType .empty

def text (status : Nat) (body : String) : Response := new status textType (.text body)

def json (status : Nat) (target : String) : Response :=
  new status "application/json; charset=utf-8" (.returnTo target)

def redirect (location : String) : Response :=
  ((empty 302).withHeader "Location" location).withHeader "Cache-Control" "no-store"

def contentSecurityPolicy : String :=
  "default-src 'none'; script-src 'unsafe-inline'; connect-src 'self'; base-uri 'none'; "
    ++ "frame-ancestors 'none'"

def html (body : Body) : Response :=
  ((new 200 "text/html; charset=utf-8" body).withHeader "Cache-Control" "no-store").withHeader
    "Content-Security-Policy" contentSecurityPolicy

def headerValues (response : Response) (name : String) : List String :=
  (response.headers.filter fun (candidate, _) => Request.eqIgnoreAsciiCase candidate name).map Prod.snd

end Response

def noStore (response : Response) : Response := response.withHeader "Cache-Control" "no-store"

end AuthMiniGateway

import AuthMiniGateway.Config

namespace AuthMiniGateway

/-- `mac value secret`. -/
abbrev Mac := String → String → String

def sessionCookie : String := "amg_session"
def loginStateCookie : String := "amg_login_state"

-- the characters with the Unicode property `White_Space`
def isWhiteSpace (c : Char) : Bool :=
  let n := c.toNat
  (9 ≤ n && n ≤ 13) || n == 0x20 || n == 0x85 || n == 0xA0 || n == 0x1680
    || (0x2000 ≤ n && n ≤ 0x200A) || n == 0x2028 || n == 0x2029 || n == 0x202F || n == 0x205F
    || n == 0x3000

def trim (text : List Char) : List Char :=
  ((text.dropWhile isWhiteSpace).reverse.dropWhile isWhiteSpace).reverse

def splitOnce (c : Char) (text : List Char) : Option (List Char × List Char) :=
  match text.span (· ≠ c) with
  | (_, []) => none
  | (before, _ :: after) => some (before, after)

def splitLast (c : Char) (text : List Char) : Option (List Char × List Char) :=
  (splitOnce c text.reverse).map fun (after, before) => (before.reverse, after.reverse)

def hexDigit (byte : UInt8) : Option Nat :=
  let n := byte.toNat
  if 48 ≤ n ∧ n ≤ 57 then some (n - 48)
  else if 65 ≤ n ∧ n ≤ 70 then some (n - 55)
  else if 97 ≤ n ∧ n ≤ 102 then some (n - 87)
  else none

/-- `u8::from_str_radix(hex, 16)` of two bytes. A leading plus sign is read as a sign. -/
def fromStrRadix16 (high low : UInt8) : Option UInt8 :=
  if high = 43 then (hexDigit low).map UInt8.ofNat
  else
    match hexDigit high, hexDigit low with
    | some h, some l => some (UInt8.ofNat (16 * h + l))
    | _, _ => none

def percentDecodeBytes : List UInt8 → Option (List UInt8)
  | [] => some []
  | 37 :: high :: low :: rest =>
    match fromStrRadix16 high low with
    | some byte => (percentDecodeBytes rest).map (byte :: ·)
    | none => none
  | 37 :: _ => none
  | byte :: rest => (percentDecodeBytes rest).map (byte :: ·)

def percentDecode (value : String) : Option String :=
  (percentDecodeBytes value.toUTF8.data.toList).bind fun bytes => String.fromUTF8? ⟨bytes.toArray⟩

def isUnreservedByte (byte : UInt8) : Bool :=
  let n := byte.toNat
  (48 ≤ n && n ≤ 57) || (65 ≤ n && n ≤ 90) || (97 ≤ n && n ≤ 122)
    || n == 45 || n == 95 || n == 46 || n == 126

def upperHex (n : Nat) : Char := if n < 10 then Char.ofNat (48 + n) else Char.ofNat (55 + n)

def percentEncode (value : String) : String :=
  String.ofList (value.toUTF8.data.toList.flatMap fun byte =>
    if isUnreservedByte byte then [Char.ofNat byte.toNat]
    else ['%', upperHex (byte.toNat / 16), upperHex (byte.toNat % 16)])

/-- The first cookie of the name decides, whether it can be decoded or not. -/
def findCookie (name : String) : List (List Char) → Option String
  | [] => none
  | part :: parts =>
    match splitOnce '=' (trim part) with
    | none => findCookie name parts
    | some (cookieName, cookieValue) =>
      if cookieName = name.toList then percentDecode (String.ofList cookieValue)
      else findCookie name parts

def parseCookie (header : String) (name : String) : Option String :=
  findCookie name (header.toList.splitOn ';')

def signValue (mac : Mac) (value secret : String) : String := value ++ "." ++ mac value secret

def unsignValue (mac : Mac) (value secret : String) : Option String :=
  match splitLast '.' value.toList with
  | none => none
  | some (raw, signature) =>
    if String.ofList signature = mac (String.ofList raw) secret then some (String.ofList raw)
    else none

def readSignedCookie (mac : Mac) (cookieHeader : Option String) (name secret : String) :
    Option String := do
  let value ← parseCookie (← cookieHeader) name
  unsignValue mac value secret

def sameSiteValue : SameSite → String
  | .lax => "Lax"
  | .strict => "Strict"
  | .none => "None"

def weekdayName (days : Int) : String :=
  match (days + 4) % 7 with
  | 0 => "Sun"
  | 1 => "Mon"
  | 2 => "Tue"
  | 3 => "Wed"
  | 4 => "Thu"
  | 5 => "Fri"
  | _ => "Sat"

def monthName : Int → String
  | 1 => "Jan"
  | 2 => "Feb"
  | 3 => "Mar"
  | 4 => "Apr"
  | 5 => "May"
  | 6 => "Jun"
  | 7 => "Jul"
  | 8 => "Aug"
  | 9 => "Sep"
  | 10 => "Oct"
  | 11 => "Nov"
  | _ => "Dec"

/-- `value.format("%a, %d %b %Y %H:%M:%S GMT")`. -/
def formatCookieDate (value : Int) : String :=
  let date := dateOf value
  let seconds := timeOfDay value / 1000000000
  weekdayName (value / nanosPerDay) ++ ", " ++ String.ofList (Decimal.pad 2 date.day.toNat) ++ " "
    ++ monthName date.month ++ " " ++ String.ofList (formatYear date.year) ++ " "
    ++ String.ofList (Decimal.pad 2 (seconds / 3600)) ++ ":"
    ++ String.ofList (Decimal.pad 2 (seconds / 60 % 60)) ++ ":"
    ++ String.ofList (Decimal.pad 2 (seconds % 60)) ++ " GMT"

def cookiePrefix (name value : String) (config : Config) : List String :=
  [name ++ "=" ++ percentEncode value, "Path=/", "HttpOnly",
    "SameSite=" ++ sameSiteValue config.cookieSameSite] ++ if config.cookieSecure then ["Secure"] else []

def serializeSignedCookie (mac : Mac) (name value : String) (expiresAt : Int) (config : Config) :
    String :=
  String.intercalate "; "
    (cookiePrefix name (signValue mac value config.cookieSecret) config
      ++ ["Expires=" ++ formatCookieDate expiresAt])

def clearCookie (name : String) (config : Config) : String :=
  String.intercalate "; "
    (cookiePrefix name "" config ++ ["Max-Age=0", "Expires=Thu, 01 Jan 1970 00:00:00 GMT"])

end AuthMiniGateway

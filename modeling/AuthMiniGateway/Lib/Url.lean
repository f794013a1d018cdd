import Mathlib

/-!
# URLs

The basic URL parser of the URL Standard, over lists of characters. The host parser and the percent-encode sets
are parameters, `Rules`. File URLs do not parse here; they have no host and an opaque origin.
-/

namespace Whatwg

inductive Component where
  | path
  | query
  | fragment
  | opaquePath
  | userinfo
  deriving DecidableEq, Repr

def hexValue (c : Char) : Option Nat :=
  let n := c.toNat
  if 48 ≤ n ∧ n ≤ 57 then some (n - 48)
  else if 65 ≤ n ∧ n ≤ 70 then some (n - 55)
  else if 97 ≤ n ∧ n ≤ 102 then some (n - 87)
  else none

structure Rules where
  encodes : Component → Char → Bool
  /-- The host parser, for special schemes or for others, with the serialised host as its result. -/
  host : Bool → List Char → Option String
  encodes_space : ∀ component, component = .path ∨ component = .query ∨ component = .fragment →
    encodes component ' ' = true
  encodes_percent : ∀ component, encodes component '%' = false
  encodes_hex : ∀ component c, (hexValue c).isSome = true → encodes component c = false

inductive Path where
  | segments (list : List (List Char))
  | unsplit (text : List Char)
  deriving DecidableEq, Repr

structure Url where
  scheme : List Char
  username : List Char
  password : List Char
  host : Option String
  port : Option Nat
  path : Path
  query : Option (List Char)
  fragment : Option (List Char)
  deriving DecidableEq, Repr

def Path.text : Path → List Char
  | segments list => list.flatMap ('/' :: ·)
  | unsplit text => text

/-! ### Characters -/

def isAsciiAlpha (c : Char) : Bool :=
  let n := c.toNat
  (decide (65 ≤ n) && decide (n ≤ 90)) || (decide (97 ≤ n) && decide (n ≤ 122))

def isAsciiDigit (c : Char) : Bool := decide (48 ≤ c.toNat) && decide (c.toNat ≤ 57)

def toAsciiLower (c : Char) : Char :=
  if 65 ≤ c.toNat ∧ c.toNat ≤ 90 then Char.ofNat (c.toNat + 32) else c

def isC0OrSpace (c : Char) : Bool := decide (c.toNat ≤ 0x20)

def isTabOrNewline (c : Char) : Bool := c == '\t' || c == '\n' || c == '\r'

def hexDigit (n : Nat) : Char := if n < 10 then Char.ofNat (48 + n) else Char.ofNat (55 + n)

def percentByte (byte : UInt8) : List Char :=
  ['%', hexDigit (byte.toNat / 16), hexDigit (byte.toNat % 16)]

section Encoding

variable (rules : Rules)

def encodeChar (component : Component) (c : Char) : List Char :=
  if rules.encodes component c then (String.utf8EncodeChar c).flatMap percentByte else [c]

def encode (component : Component) (text : List Char) : List Char :=
  text.flatMap (encodeChar rules component)

end Encoding

/-! ### Schemes -/

def isSpecial (scheme : List Char) : Bool :=
  scheme == ['h', 't', 't', 'p'] || scheme == ['h', 't', 't', 'p', 's'] || scheme == ['w', 's']
    || scheme == ['w', 's', 's'] || scheme == ['f', 't', 'p']

def defaultPort (scheme : List Char) : Option Nat :=
  if scheme = ['h', 't', 't', 'p'] ∨ scheme = ['w', 's'] then some 80
  else if scheme = ['h', 't', 't', 'p', 's'] ∨ scheme = ['w', 's', 's'] then some 443
  else if scheme = ['f', 't', 'p'] then some 21
  else none

def isSchemeChar (c : Char) : Bool :=
  isAsciiAlpha c || isAsciiDigit c || c == '+' || c == '-' || c == '.'

/-- The scheme in lower case and what follows its colon. -/
def readScheme (text : List Char) : Option (List Char × List Char) :=
  match text with
  | [] => none
  | c :: _ =>
    if isAsciiAlpha c then
      match text.dropWhile isSchemeChar with
      | ':' :: rest => some ((text.takeWhile isSchemeChar).map toAsciiLower, rest)
      | _ => none
    else none

/-! ### The path, the query and the fragment -/

/-- A backslash separates segments in special schemes. -/
def isSeparator (special : Bool) (c : Char) : Bool := c == '/' || (special && c == '\\')

def splitSegments (isSep : Char → Bool) : List Char → List (List Char)
  | [] => [[]]
  | c :: rest =>
    if isSep c then [] :: splitSegments isSep rest
    else
      match splitSegments isSep rest with
      | [] => [[c]]
      | segment :: segments => (c :: segment) :: segments

def isDot (text : List Char) : Bool :=
  text == ['.'] || text == ['%', '2', 'e'] || text == ['%', '2', 'E']

def isSingleDot (segment : List Char) : Bool := isDot segment

def isDoubleDot (segment : List Char) : Bool :=
  (isDot (segment.take 1) && isDot (segment.drop 1))
    || (isDot (segment.take 3) && isDot (segment.drop 3))

section Paths

variable (rules : Rules)

/-- The path state, segment by segment: `path` is what has been collected. -/
def addSegments : List (List Char) → List (List Char) → List (List Char)
  | path, [] => path
  | path, [segment] =>
    let buffer := encode rules .path segment
    if isDoubleDot buffer then path.dropLast ++ [[]]
    else if isSingleDot buffer then path ++ [[]]
    else path ++ [buffer]
  | path, segment :: next :: rest =>
    let buffer := encode rules .path segment
    if isDoubleDot buffer then addSegments path.dropLast (next :: rest)
    else if isSingleDot buffer then addSegments path (next :: rest)
    else addSegments (path ++ [buffer]) (next :: rest)

def afterFirst (c : Char) (text : List Char) : Option (List Char) :=
  match text.dropWhile (· ≠ c) with
  | [] => none
  | _ :: rest => some rest

def beforeFragment (text : List Char) : List Char := text.takeWhile (· ≠ '#')

def pathPart (text : List Char) : List Char := (beforeFragment text).takeWhile (· ≠ '?')

def queryOf (text : List Char) : Option (List Char) :=
  (afterFirst '?' (beforeFragment text)).map (encode rules .query)

def fragmentOf (text : List Char) : Option (List Char) :=
  (afterFirst '#' text).map (encode rules .fragment)

def dropSeparator (special : Bool) : List Char → List Char
  | [] => []
  | c :: rest => if isSeparator special c then rest else c :: rest

def pathFrom (special : Bool) (text : List Char) : List (List Char) :=
  let part := pathPart text
  if part = [] ∧ special = false then []
  else addSegments rules [] (splitSegments (isSeparator special) (dropSeparator special part))

def withRest (url : Url) (text : List Char) : Url :=
  { url with
    path := .segments (pathFrom rules (isSpecial url.scheme) text),
    query := queryOf rules text, fragment := fragmentOf rules text }

/-! ### The authority -/

def readPort (scheme digits : List Char) : Option (Option Nat) :=
  if digits = [] then some none
  else if digits.all isAsciiDigit then
    let port := digits.foldl (fun n c => 10 * n + (c.toNat - 48)) 0
    if 65535 < port then none
    else if defaultPort scheme = some port then some none
    else some (some port)
  else none

/-- The text of the host and of the port. A colon inside brackets belongs to the host. -/
def splitPort : List Char → List Char × List Char
  | '[' :: rest =>
    match afterFirst ']' rest with
    | none => ('[' :: rest, [])
    | some after => ('[' :: rest.takeWhile (· ≠ ']') ++ [']'], after)
  | text => (text.takeWhile (· ≠ ':'), text.dropWhile (· ≠ ':'))

def endsAuthority (special : Bool) (c : Char) : Bool := isSeparator special c || c == '?' || c == '#'

def credentialsOf (authority : List Char) : List Char × List Char × List Char :=
  match afterFirst '@' authority.reverse with
  | none => ([], [], authority)
  | some before =>
    let info := before.reverse
    (encode rules .userinfo (info.takeWhile (· ≠ ':')),
      encode rules .userinfo ((afterFirst ':' info).getD []),
      (authority.reverse.takeWhile (· ≠ '@')).reverse)

def parseAuthority (scheme text : List Char) : Option Url :=
  let special := isSpecial scheme
  let authority := text.takeWhile (! endsAuthority special ·)
  let (username, password, hostPort) := credentialsOf rules authority
  let (hostText, portText) := splitPort hostPort
  match rules.host special hostText with
  | none => none
  | some host =>
    if (special = true ∨ portText ≠ [] ∨ '@' ∈ authority) ∧ hostText = [] then none
    else
      let port :=
        match portText with
        | [] => some none
        | ':' :: digits => readPort scheme digits
        | _ => none
      port.map fun port =>
        withRest rules
          { scheme, username, password, host := some host, port, path := .segments [],
            query := none, fragment := none }
          (text.dropWhile (! endsAuthority special ·))

def emptyUrl (scheme : List Char) : Url :=
  { scheme, username := [], password := [], host := none, port := none, path := .segments [],
    query := none, fragment := none }

def dropSlashes (special : Bool) (text : List Char) : List Char := text.dropWhile (isSeparator special)

def parseAbsolute (scheme text : List Char) : Option Url :=
  if scheme = ['f', 'i', 'l', 'e'] then none
  else if isSpecial scheme then parseAuthority rules scheme (dropSlashes true text)
  else
    match text with
    | '/' :: '/' :: rest => parseAuthority rules scheme rest
    | '/' :: rest => some (withRest rules (emptyUrl scheme) ('/' :: rest))
    | _ => some
        { emptyUrl scheme with
          path := .unsplit (encode rules .opaquePath (pathPart text)),
          query := queryOf rules text, fragment := fragmentOf rules text }

/-- The path state that starts from a base. -/
def relativePath (base : List (List Char)) (special : Bool) (text : List Char) : List (List Char) :=
  addSegments rules base.dropLast (splitSegments (isSeparator special) (pathPart text))

/-- A URL without scheme, against a base whose path is a list of segments. -/
def parseRelative (base : Url) (path : List (List Char)) (text : List Char) : Option Url :=
  let special := isSpecial base.scheme
  match text with
  | [] => some { base with fragment := none }
  | '?' :: _ => some { base with query := queryOf rules text, fragment := fragmentOf rules text }
  | '#' :: _ => some { base with fragment := fragmentOf rules text }
  | c :: rest =>
    if isSeparator special c then
      match rest with
      | d :: _ =>
        if isSeparator special d then
          parseAuthority rules base.scheme
            (if special then dropSlashes true rest else rest.drop 1)
        else some (withRest rules base text)
      | [] => some (withRest rules base text)
    else
      some
        { base with
          path := .segments (relativePath rules path special text),
          query := queryOf rules text, fragment := fragmentOf rules text }

def prepare (text : List Char) : List Char :=
  (((text.dropWhile isC0OrSpace).reverse.dropWhile isC0OrSpace).reverse).filter (! isTabOrNewline ·)

def startsWithTwoSlashes (text : List Char) : Bool :=
  match text with
  | a :: b :: _ => isSeparator true a && isSeparator true b
  | _ => false

def parseWith (base : Option Url) (text : List Char) : Option Url :=
  let text := prepare text
  match readScheme text, base with
  | some (scheme, rest), none => parseAbsolute rules scheme rest
  | some (scheme, rest), some base =>
    match base.path with
    | .segments path =>
      -- `https:path` against an `https` base
      if isSpecial scheme && base.scheme == scheme && !startsWithTwoSlashes rest then
        parseRelative rules base path rest
      else parseAbsolute rules scheme rest
    | .unsplit _ => parseAbsolute rules scheme rest
  | none, none => none
  | none, some base =>
    match base.path, text with
    | .segments path, text => parseRelative rules base path text
    | .unsplit _, '#' :: _ => some { base with fragment := fragmentOf rules text }
    | .unsplit _, _ => none

def parse (text : List Char) : Option Url := parseWith rules none text

def join (base : Url) (text : List Char) : Option Url := parseWith rules (some base) text

/-! ### Origins -/

structure Origin where
  scheme : List Char
  host : String
  port : Nat
  deriving DecidableEq, Repr

def tupleOrigin (url : Url) : Option Origin := do
  let host ← url.host
  let port ← url.port.or (defaultPort url.scheme)
  return { scheme := url.scheme, host, port }

/-- An opaque origin is `none`: it is the same as no other. The origin of a `blob` URL is that of the
URL in its path, and every level takes characters away. -/
def originOf : Nat → Url → Option Origin
  | 0, _ => none
  | depth + 1, url =>
    if url.scheme = ['b', 'l', 'o', 'b'] then (parse rules url.path.text).bind (originOf depth)
    else if isSpecial url.scheme then tupleOrigin url
    else none

def origin (url : Url) : Option Origin := originOf rules (url.path.text.length + 1) url

end Paths

end Whatwg

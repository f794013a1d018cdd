import AuthMiniGateway.ResponseHead
import AuthMiniGateway.Routing

namespace AuthMiniGateway

def isTokenText (text : List Char) : Bool := (String.ofList text).toUTF8.data.toList.all isTokenByte

def requestText (value : HeaderValue) : Except ProxyError String :=
  match value.toStr with
  | some text => .ok text
  | none => .error .badRequest

def exactlyOne (headers : HeaderMap) (name : HeaderName) : Except ProxyError HeaderValue :=
  match headers.getAll name with
  | [value] => .ok value
  | _ => .error .badRequest

/-! ### Subprotocols -/

def parseProtocol (protocols : List String) (protocol : List Char) : Except ProxyError (List String) :=
  let protocol := trim protocol
  if protocol = [] ∨ isTokenText protocol = false ∨ protocols.contains (String.ofList protocol) then
    .error .badRequest
  else .ok (protocols ++ [String.ofList protocol])

def parseProtocolLine (protocols : List String) (value : HeaderValue) :
    Except ProxyError (List String) := do
  let text ← requestText value
  (text.toList.splitOn ',').foldlM parseProtocol protocols

def parseProtocols (headers : HeaderMap) : Except ProxyError (List String) :=
  (headers.getAll .secWebsocketProtocol).foldlM parseProtocolLine []

/-! ### Extensions -/

def isQuotable (c : Char) : Bool := c = '\t' || (0x20 ≤ c.toNat && c.toNat ≤ 0x7e)

def isQuotedText (c : Char) : Bool :=
  c = '\t' || (0x20 ≤ c.toNat && c.toNat ≤ 0x21) || (0x23 ≤ c.toNat && c.toNat ≤ 0x5b)
    || (0x5d ≤ c.toNat && c.toNat ≤ 0x7e)

/-- The pieces of a text; `piece` is the current one, its last character first. -/
def splitPieces (delimiter : Char) :
    Bool → Bool → List Char → List Char → Except ProxyError (List (List Char))
  | quoted, escaped, piece, [] =>
    if quoted || escaped then .error .badRequest else .ok [piece.reverse]
  | quoted, escaped, piece, c :: rest =>
    if quoted then
      if escaped then
        if isQuotable c then splitPieces delimiter quoted false (c :: piece) rest
        else .error .badRequest
      else if c = '\\' then splitPieces delimiter quoted true (c :: piece) rest
      else if c = '"' then splitPieces delimiter false escaped (c :: piece) rest
      else if isQuotedText c then splitPieces delimiter quoted escaped (c :: piece) rest
      else .error .badRequest
    else if c = '"' then splitPieces delimiter true escaped (c :: piece) rest
    else if c = delimiter then
      (splitPieces delimiter quoted escaped [] rest).map (piece.reverse :: ·)
    else splitPieces delimiter quoted escaped (c :: piece) rest

def splitWebsocketHeader (value : List Char) (delimiter : Char) :
    Except ProxyError (List (List Char)) :=
  splitPieces delimiter false false [] value

def validQuotedText : Bool → List Char → Bool
  | escaped, [] => !escaped
  | escaped, c :: rest =>
    if escaped then isQuotable c && validQuotedText false rest
    else if c = '\\' then validQuotedText true rest
    else c ≠ '"' && isQuotedText c && validQuotedText false rest

def validWebsocketQuotedString (value : List Char) : Bool :=
  2 ≤ value.length && value.head? = some '"' && value.getLast? = some '"'
    && validQuotedText false (value.drop 1).dropLast

def asciiLowercase (text : List Char) : String := String.ofList (text.map Char.toLower)

def isParameterValue (value : List Char) : Bool :=
  value ≠ [] && (isTokenText value || validWebsocketQuotedString value)

def parseParameter (parameters : List String) (parameter : List Char) :
    Except ProxyError (List String) :=
  let parameter := trim parameter
  let (name, value) := match splitOnce '=' parameter with
    | some (name, value) => (trim name, some (trim value))
    | none => (parameter, none)
  if parameter = [] ∨ name = [] ∨ isTokenText name = false ∨ parameters.contains (asciiLowercase name)
      ∨ value.all isParameterValue = false then
    .error .badRequest
  else .ok (asciiLowercase name :: parameters)

def parseExtension (names : List String) (extension : List Char) : Except ProxyError (List String) := do
  let pieces ← splitWebsocketHeader extension ';'
  let name := trim (pieces.headD [])
  if name = [] ∨ isTokenText name = false ∨ names.contains (asciiLowercase name) then .error .badRequest
  else
    let _ ← (pieces.drop 1).foldlM parseParameter []
    .ok (asciiLowercase name :: names)

def parseExtensionLine (names : List String) (value : HeaderValue) :
    Except ProxyError (List String) := do
  let text ← requestText value
  let extensions ← splitWebsocketHeader text.toList ','
  extensions.foldlM parseExtension names

/-- The set of names, in lower case, each name once. -/
def parseExtensions (headers : HeaderMap) : Except ProxyError (List String) :=
  (headers.getAll .secWebsocketExtensions).foldlM parseExtensionLine []

end AuthMiniGateway

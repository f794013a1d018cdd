import AuthMiniGateway.Cookies
import AuthMiniGateway.Lib.Url

namespace AuthMiniGateway

inductive ReturnTargetMode where
  | directLogin
  | proxyFallback
  deriving DecidableEq, Repr

def isUnsafeByte (byte : UInt8) : Bool :=
  decide (byte = 92) || decide (byte < 0x20) || decide (byte = 0x7f)

def hasUnsafeByteIn : List UInt8 → Bool
  | [] => false
  | 37 :: high :: low :: rest =>
    match fromStrRadix16 high low with
    | none => true
    | some decoded => isUnsafeByte decoded || hasUnsafeByteIn rest
  | 37 :: _ => true
  | byte :: rest => isUnsafeByte byte || hasUnsafeByteIn rest

def hasUnsafeBytes (value : String) : Bool := hasUnsafeByteIn value.toUTF8.data.toList

/-- The path of a URL with its query and its fragment. -/
def pathQueryFragment (url : Whatwg.Url) : List Char :=
  url.path.text ++ (url.query.elim [] ('?' :: ·)) ++ (url.fragment.elim [] ('#' :: ·))

def formatPath (url : Whatwg.Url) : String := String.ofList (pathQueryFragment url)

section Normalize

variable (rules : Whatwg.Rules)

/-- The URL that a target of a direct login stands for, when it is on the public origin. -/
def directTarget (raw : List Char) (base : Whatwg.Url) : Option Whatwg.Url :=
  match raw with
  | '/' :: '/' :: _ => none
  | '/' :: _ => Whatwg.join rules base raw
  | _ =>
    match Whatwg.parse rules raw with
    | none => none
    | some parsed =>
      match Whatwg.origin rules parsed with
      -- an opaque origin differs from every other
      | none => none
      | some origin => if Whatwg.origin rules base = some origin then some parsed else none

def rawTarget (input : Option String) : ReturnTargetMode → Option String
  | .directLogin =>
    match input.map fun value => String.ofList (trim value.toList) with
    | none => some "/"
    | some value => if value = "" then some "/" else some value
  | .proxyFallback => input

def normalizeReturnTarget (input : Option String) (publicBaseUrl : String)
    (mode : ReturnTargetMode) : Option String :=
  match rawTarget input mode with
  | none => none
  | some raw =>
    if hasUnsafeBytes raw then none
    else
      match mode with
      | .proxyFallback =>
        if raw.toList.head? ≠ some '/' ∨ raw.toList.take 2 = ['/', '/'] ∨ '#' ∈ raw.toList then none
        else some raw
      | .directLogin =>
        match Whatwg.parse rules publicBaseUrl.toList with
        | none => none
        | some base => (directTarget rules raw.toList base).map formatPath

def normalizeReturnTo (input : Option String) (config : Config) : Option String :=
  normalizeReturnTarget rules input config.publicBaseUrl .directLogin

end Normalize

end AuthMiniGateway

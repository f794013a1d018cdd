import AuthMiniGateway.WebSocketHeaders
import AuthMiniGateway.Lib.HttpText

namespace AuthMiniGateway

open HttpText

namespace ExtensionGrammar

structure Padded (text inner : List Char) : Prop where
  padding : ∃ before after, Blank before ∧ Blank after ∧ text = before ++ (inner ++ after)

inductive IsParameter : List Char → List Char → Prop
  | bare {text name : List Char} : Token name → Padded text name → IsParameter text name
  | valued {left right name value : List Char} : Token name → Token value ∨ QuotedString value →
      Padded left name → Padded right value → IsParameter (left ++ '=' :: right) name

structure IsExtension (text name : List Char) : Prop where
  token : Token name
  parts : ∃ (head : List Char) (parameters names : List (List Char)),
    text = [';'].intercalate (head :: parameters) ∧ Padded head name ∧
      List.Forall₂ IsParameter parameters names ∧ (names.map asciiLowercase).Nodup

/-- The extensions of one value; there is at least one. -/
def IsLine (text : List Char) (names : List (List Char)) : Prop :=
  ∃ elements, elements ≠ [] ∧ text = [','].intercalate elements ∧ List.Forall₂ IsExtension elements names

end ExtensionGrammar

end AuthMiniGateway

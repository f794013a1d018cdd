import Mathlib

/-!
# A list of texts as one text

The texts stand between quotes, separated by commas, inside a pair of brackets; a quote or a backslash
inside a text has a backslash before it. One pass over the characters reads the list back.
-/

namespace QuotedList

def escape (c : Char) : List Char :=
  if c = '"' ∨ c = '\\' then ['\\', c] else [c]

def writeItem (text : List Char) : List Char := '"' :: (text.flatMap escape ++ ['"'])

def writeRest : List (List Char) → List Char
  | [] => [']']
  | text :: texts => ',' :: (writeItem text ++ writeRest texts)

def write : List (List Char) → List Char
  | [] => ['[', ']']
  | text :: texts => '[' :: (writeItem text ++ writeRest texts)

inductive Place where
  | start
  | inside
  | after

def addChar (c : Char) : List (List Char) → Option (List (List Char))
  | [] => none
  | text :: texts => some ((c :: text) :: texts)

def readFrom : Place → List Char → Option (List (List Char))
  | .start, '"' :: rest => readFrom .inside rest
  | .start, [']'] => some []
  | .inside, '"' :: rest => (readFrom .after rest).map ([] :: ·)
  | .inside, '\\' :: c :: rest => (readFrom .inside rest).bind (addChar c)
  | .inside, c :: rest => (readFrom .inside rest).bind (addChar c)
  | .after, [']'] => some []
  | .after, ',' :: '"' :: rest => readFrom .inside rest
  | _, _ => none

def read : List Char → Option (List (List Char))
  | '[' :: rest => readFrom .start rest
  | _ => none

theorem readFrom_inside_escape (c : Char) (rest : List Char) :
    readFrom .inside (escape c ++ rest) = (readFrom .inside rest).bind (addChar c) := by
  unfold escape
  by_cases hspecial : c = '"' ∨ c = '\\'
  · rw [if_pos hspecial]
    rfl
  · rw [if_neg hspecial]
    obtain ⟨hquote, hbackslash⟩ := not_or.mp hspecial
    change readFrom .inside (c :: rest) = _
    rw [readFrom.eq_5]
    · exact hquote
    · exact fun c' rest' hc _ => hbackslash hc

theorem readFrom_inside_text {rest : List Char} {texts : List (List Char)}
    (hrest : readFrom .after rest = some texts) (text : List Char) :
    readFrom .inside (text.flatMap escape ++ '"' :: rest) = some (text :: texts) := by
  induction text with
  | nil => simp [readFrom, hrest]
  | cons _ _ ih =>
    rw [List.flatMap_cons, List.append_assoc, readFrom_inside_escape, ih]
    rfl

theorem readFrom_after_writeRest (texts : List (List Char)) :
    readFrom .after (writeRest texts) = some texts := by
  induction texts with
  | nil => rfl
  | cons _ _ ih =>
    simp only [writeRest, writeItem, List.cons_append, List.append_assoc, List.nil_append]
    rw [readFrom, readFrom_inside_text ih]

theorem read_write (texts : List (List Char)) : read (write texts) = some texts := by
  cases texts with
  | nil => rfl
  | cons _ texts =>
    simp only [write, writeItem, List.cons_append, List.append_assoc, List.nil_append]
    rw [read, readFrom, readFrom_inside_text (readFrom_after_writeRest texts)]

def encode (texts : List String) : String := String.ofList (write (texts.map String.toList))

def decode (text : String) : Option (List String) :=
  (read text.toList).map (·.map String.ofList)

theorem decode_encode (texts : List String) : decode (encode texts) = some texts := by
  rw [decode, encode, String.toList_ofList, read_write]
  simp

end QuotedList

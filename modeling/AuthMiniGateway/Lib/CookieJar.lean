import Mathlib

/-!
# Cookie jars

How a user agent takes the value of a `Set-Cookie` header, by the algorithm of RFC 6265bis.
-/

namespace CookieJar

abbrev Bytes := List UInt8

def semicolon : UInt8 := 59
def equalsSign : UInt8 := 61

def isBlank (byte : UInt8) : Bool := byte == 32 || byte == 9

def isControl (byte : UInt8) : Bool :=
  decide (byte.toNat ≤ 8) || (decide (10 ≤ byte.toNat) && decide (byte.toNat ≤ 31)) || byte.toNat == 127

def trimBlank (bytes : Bytes) : Bytes :=
  ((bytes.dropWhile isBlank).reverse.dropWhile isBlank).reverse

structure Received where
  name : Bytes
  value : Bytes
  attributes : Bytes
  deriving DecidableEq, Repr

def splitPair (pair : Bytes) : Bytes × Bytes :=
  match pair.dropWhile (· ≠ equalsSign) with
  | [] => ([], pair)
  | _ :: value => (pair.takeWhile (· ≠ equalsSign), value)

def parse (bytes : Bytes) : Option Received :=
  if bytes.any isControl then none
  else
    let (name, value) := splitPair (bytes.takeWhile (· ≠ semicolon))
    if 4096 < (trimBlank name).length + (trimBlank value).length then none
    else some ⟨trimBlank name, trimBlank value, bytes.dropWhile (· ≠ semicolon)⟩

structure Cookie (S : Type) where
  name : Bytes
  value : Bytes
  scope : S

structure Agent (S : Type) where
  scopeOf : List (Cookie S) → Received → Option S
  sameScope : S → S → Bool

variable {S : Type}

def receive (agent : Agent S) (jar : List (Cookie S)) (bytes : Bytes) : List (Cookie S) :=
  match parse bytes with
  | none => jar
  | some received =>
    match agent.scopeOf jar received with
    | none => jar
    | some scope =>
      jar.filter (fun cookie => !(cookie.name == received.name && agent.sameScope cookie.scope scope))
        ++ [⟨received.name, received.value, scope⟩]

def named (jar : List (Cookie S)) (names : List Bytes) : List (Cookie S) :=
  jar.filter fun cookie => names.contains cookie.name

/-! ### The name of a value -/

theorem trimBlank_of_no_blank {bytes : Bytes} (h : ∀ byte ∈ bytes, isBlank byte = false) :
    trimBlank bytes = bytes := by
  have hkeep : ∀ {text : Bytes}, (∀ byte ∈ text, isBlank byte = false) →
      text.dropWhile isBlank = text := by
    intro text htext
    cases text with
    | nil => rfl
    | cons byte =>
      exact List.dropWhile_cons_of_neg (by rw [htext byte List.mem_cons_self]; decide)
  rw [trimBlank, hkeep h, hkeep fun byte hbyte => h byte (List.mem_reverse.mp hbyte),
    List.reverse_reverse]

theorem trimBlank_blank_append {blanks bytes : Bytes} (hblanks : ∀ byte ∈ blanks, isBlank byte = true) :
    trimBlank (blanks ++ bytes) = trimBlank bytes := by
  rw [trimBlank, List.dropWhile_append_of_pos hblanks, trimBlank]

/-- A value that starts with blanks, a name without separators or blanks, and an equals sign is a cookie
of that name, or none. -/
theorem name_of_parse {blanks name rest : Bytes} {received : Received}
    (hblanks : ∀ byte ∈ blanks, isBlank byte = true)
    (hname : ∀ byte ∈ name, isBlank byte = false ∧ byte ≠ semicolon ∧ byte ≠ equalsSign)
    (hparse : parse (blanks ++ (name ++ equalsSign :: rest)) = some received) :
    received.name = name := by
  have hbefore : ∀ byte ∈ blanks ++ name, byte ≠ semicolon ∧ byte ≠ equalsSign := by
    intro byte hbyte
    rcases List.mem_append.mp hbyte with hblank | hin
    · have hblank := hblanks byte hblank
      constructor <;> rintro rfl <;> revert hblank <;> decide
    · exact (hname byte hin).2
  have hpair : (blanks ++ (name ++ equalsSign :: rest)).takeWhile (· ≠ semicolon) =
      (blanks ++ name) ++ equalsSign :: rest.takeWhile (· ≠ semicolon) := by
    rw [← List.append_assoc, List.takeWhile_append_of_pos fun byte hbyte => by
      simpa using (hbefore byte hbyte).1]
    rw [List.takeWhile_cons_of_pos (by decide)]
  have hequals : ∀ byte ∈ blanks ++ name, decide (byte ≠ equalsSign) = true := fun byte hbyte => by
    simpa using (hbefore byte hbyte).2
  have hsplit : splitPair ((blanks ++ name) ++ equalsSign :: rest.takeWhile (· ≠ semicolon)) =
      (blanks ++ name, rest.takeWhile (· ≠ semicolon)) := by
    rw [splitPair, List.dropWhile_append_of_pos hequals, List.takeWhile_append_of_pos hequals,
      List.dropWhile_cons_of_neg (by decide), List.takeWhile_cons_of_neg (by decide), List.append_nil]
  simp only [parse, hpair, hsplit] at hparse
  split_ifs at hparse
  cases hparse
  rw [trimBlank_blank_append hblanks, trimBlank_of_no_blank fun byte hbyte => (hname byte hbyte).1]

/-! ### What a value leaves alone -/

/-- A value touches only cookies of its own name. -/
theorem named_receive {agent : Agent S} {jar : List (Cookie S)} {bytes : Bytes} {names : List Bytes}
    (hother : ∀ received, parse bytes = some received → received.name ∉ names) :
    named (receive agent jar bytes) names = named jar names := by
  unfold receive
  split
  · rfl
  · rename_i received hparse
    have hname := hother received hparse
    split
    · rfl
    · rename_i scope _
      have hnew : named [(⟨received.name, received.value, scope⟩ : Cookie S)] names = [] := by
        simp [named, hname]
      rw [named, List.filter_append, ← named, ← named, hnew, List.append_nil, named, named,
        List.filter_filter]
      apply List.filter_congr
      intro cookie _
      by_cases hcookie : cookie.name = received.name
      · simp [hcookie, hname]
      · simp [hcookie]

theorem named_foldl_receive {agent : Agent S} {values : List Bytes} {names : List Bytes}
    (hother : ∀ bytes ∈ values, ∀ received, parse bytes = some received → received.name ∉ names)
    (jar : List (Cookie S)) : named (values.foldl (receive agent) jar) names = named jar names := by
  induction values generalizing jar with
  | nil => rfl
  | cons bytes _ ih =>
    rw [List.foldl_cons, ih fun other hmem => hother other (List.mem_cons_of_mem _ hmem),
      named_receive (hother bytes List.mem_cons_self)]

end CookieJar

import Mathlib

/-!
# Fixed-width decimal text

Numbers in a fixed number of decimal digits are read back, and compare as texts the way they compare as
numbers.
-/

namespace Decimal

def digit (n : Nat) : Char := Char.ofNat (48 + n % 10)

def pad : Nat → Nat → List Char
  | 0, _ => []
  | width + 1, n => digit (n / 10 ^ width) :: pad width (n % 10 ^ width)

def digitValue (c : Char) : Option Nat :=
  if 48 ≤ c.toNat ∧ c.toNat ≤ 57 then some (c.toNat - 48) else none

/-- Reads exactly `width` digits onto the digits already read, and returns what follows them. -/
def readOnto : Nat → Nat → List Char → Option (Nat × List Char)
  | 0, acc, text => some (acc, text)
  | _ + 1, _, [] => none
  | width + 1, acc, c :: text =>
    match digitValue c with
    | some d => readOnto width (10 * acc + d) text
    | none => none

def read (width : Nat) (text : List Char) : Option (Nat × List Char) := readOnto width 0 text

theorem digit_toNat (n : Nat) : (digit n).toNat = 48 + n % 10 := by
  have hall : ∀ d < 10, (Char.ofNat (48 + d)).toNat = 48 + d := by decide
  exact hall (n % 10) (Nat.mod_lt n (by decide))

theorem digitValue_digit (n : Nat) : digitValue (digit n) = some (n % 10) := by
  have hlt : n % 10 < 10 := Nat.mod_lt n (by decide)
  rw [digitValue, digit_toNat, if_pos (by omega)]
  congr 1
  omega

theorem digit_lt_digit_iff {a b : Nat} (ha : a < 10) (hb : b < 10) : digit a < digit b ↔ a < b := by
  rw [Char.lt_def, UInt32.lt_iff_toNat_lt]
  change (digit a).toNat < (digit b).toNat ↔ a < b
  rw [digit_toNat, digit_toNat, Nat.mod_eq_of_lt ha, Nat.mod_eq_of_lt hb]
  omega

theorem digit_inj {a b : Nat} (ha : a < 10) (hb : b < 10) : digit a = digit b ↔ a = b := by
  constructor
  · intro heq
    have htoNat := congrArg Char.toNat heq
    rw [digit_toNat, digit_toNat, Nat.mod_eq_of_lt ha, Nat.mod_eq_of_lt hb] at htoNat
    omega
  · exact congrArg digit

@[simp]
theorem length_pad (width n : Nat) : (pad width n).length = width := by
  induction width generalizing n with
  | zero => rfl
  | succ _ ih => simp [pad, ih]

theorem readOnto_pad (width acc n : Nat) (hn : n < 10 ^ width) (rest : List Char) :
    readOnto width acc (pad width n ++ rest) = some (acc * 10 ^ width + n, rest) := by
  induction width generalizing acc n with
  | zero =>
    have hzero : n = 0 := by simpa using hn
    simp [pad, readOnto, hzero]
  | succ width ih =>
    have hhead : n / 10 ^ width < 10 := by
      rw [Nat.div_lt_iff_lt_mul (by positivity)]
      rwa [pow_succ, mul_comm] at hn
    have htail : n % 10 ^ width < 10 ^ width := Nat.mod_lt _ (by positivity)
    simp only [pad, List.cons_append, readOnto, digitValue_digit, Nat.mod_eq_of_lt hhead]
    rw [ih _ _ htail]
    have hsplit := Nat.div_add_mod n (10 ^ width)
    congr 2
    calc (10 * acc + n / 10 ^ width) * 10 ^ width + n % 10 ^ width
        = acc * 10 ^ (width + 1) + (10 ^ width * (n / 10 ^ width) + n % 10 ^ width) := by ring
      _ = acc * 10 ^ (width + 1) + n := by rw [hsplit]

theorem read_pad {width n : Nat} (hn : n < 10 ^ width) (rest : List Char) :
    read width (pad width n ++ rest) = some (n, rest) := by
  simpa [read] using readOnto_pad width 0 n hn rest

theorem digit_of_digitValue {c : Char} {d : Nat} (h : digitValue c = some d) : c = digit d ∧ d < 10 := by
  rw [digitValue] at h
  split_ifs at h with hc
  cases h
  refine ⟨?_, by omega⟩
  rw [digit, Nat.mod_eq_of_lt (by omega), Nat.add_sub_cancel' hc.1, Char.ofNat_toNat]

theorem readOnto_eq_some {width acc n : Nat} {text rest : List Char}
    (h : readOnto width acc text = some (n, rest)) :
    ∃ m < 10 ^ width, n = acc * 10 ^ width + m ∧ text = pad width m ++ rest := by
  induction width generalizing acc text with
  | zero =>
    cases h
    exact ⟨0, by simp, by simp, rfl⟩
  | succ width ih =>
    cases text with
    | nil => cases h
    | cons =>
      rw [readOnto] at h
      split at h
      · next d hd =>
        obtain ⟨m, hm, rfl, rfl⟩ := ih h
        obtain ⟨rfl, hlt⟩ := digit_of_digitValue hd
        have hpos : 0 < 10 ^ width := by positivity
        refine ⟨d * 10 ^ width + m, ?_, by ring, ?_⟩
        · rw [pow_succ]
          nlinarith
        · have hhead : (d * 10 ^ width + m) / 10 ^ width = d := by
            rw [mul_comm, Nat.mul_add_div hpos, Nat.div_eq_of_lt hm, add_zero]
          rw [pad, Nat.mul_add_mod_of_lt hm, hhead]
          rfl
      · cases h

theorem read_eq_some {width n : Nat} {text rest : List Char} (h : read width text = some (n, rest)) :
    n < 10 ^ width ∧ text = pad width n ++ rest := by
  obtain ⟨m, hm, rfl, rfl⟩ := readOnto_eq_some h
  simpa using hm

theorem pad_inj {width a b : Nat} (ha : a < 10 ^ width) (hb : b < 10 ^ width) :
    pad width a = pad width b ↔ a = b := by
  constructor
  · intro heq
    have hread := read_pad ha []
    rw [heq, read_pad hb []] at hread
    simpa using hread.symm
  · exact congrArg (pad width)

/-- Texts of one length are compared head first, so a common-length prefix decides the order and
what follows it breaks the tie. -/
theorem append_lt_append_iff {a b c d : List Char} (hlength : a.length = c.length) :
    a ++ b < c ++ d ↔ a < c ∨ a = c ∧ b < d := by
  induction a generalizing c with
  | nil =>
    have hnil : c = [] := List.eq_nil_of_length_eq_zero hlength.symm
    subst hnil
    simp
  | cons x xs ih =>
    cases c with
    | nil => simp at hlength
    | cons y ys =>
      have hrest : xs.length = ys.length := by simpa using hlength
      simp only [List.cons_append, List.cons_lt_cons_iff, ih hrest, List.cons.injEq]
      tauto

/-- The order of the texts is the order of the numbers. -/
theorem pad_lt_pad_iff {width a b : Nat} (ha : a < 10 ^ width) (hb : b < 10 ^ width) :
    pad width a < pad width b ↔ a < b := by
  induction width generalizing a b with
  | zero =>
    have hzero : a = 0 ∧ b = 0 := ⟨by simpa using ha, by simpa using hb⟩
    simp [pad, hzero]
  | succ width ih =>
    have hpos : 0 < 10 ^ width := by positivity
    have ha' : a / 10 ^ width < 10 := by
      rw [Nat.div_lt_iff_lt_mul hpos]
      rwa [pow_succ, mul_comm] at ha
    have hb' : b / 10 ^ width < 10 := by
      rw [Nat.div_lt_iff_lt_mul hpos]
      rwa [pow_succ, mul_comm] at hb
    have hamod := Nat.mod_lt a hpos
    have hbmod := Nat.mod_lt b hpos
    have hasplit := Nat.div_add_mod a (10 ^ width)
    have hbsplit := Nat.div_add_mod b (10 ^ width)
    simp only [pad, List.cons_lt_cons_iff, digit_lt_digit_iff ha' hb', digit_inj ha' hb',
      ih hamod hbmod]
    constructor
    · rintro (hlt | ⟨heq, hlt⟩)
      · calc a < 10 ^ width * (a / 10 ^ width + 1) := by rw [mul_add]; omega
          _ ≤ 10 ^ width * (b / 10 ^ width) := Nat.mul_le_mul_left _ hlt
          _ ≤ b := by omega
      · rw [heq] at hasplit
        omega
    · intro hlt
      rcases Nat.lt_or_ge (a / 10 ^ width) (b / 10 ^ width) with hdiv | hdiv
      · exact Or.inl hdiv
      · have heq : a / 10 ^ width = b / 10 ^ width :=
          le_antisymm (Nat.div_le_div_right hlt.le) hdiv
        refine Or.inr ⟨heq, ?_⟩
        rw [heq] at hasplit
        omega

end Decimal

import Mathlib

/-!
# Percent-escaped bytes

A byte stands for itself, or it is written as a percent sign and two further bytes, which `read` reads as one;
`plus` says whether a plus sign outside an escape is a blank. `Reads` is the grammar and `decode` the function.
-/

namespace Percent

variable {read read' : UInt8 → UInt8 → Option UInt8} {plus : Bool} {input output : List UInt8}

inductive Reads (read : UInt8 → UInt8 → Option UInt8) (plus : Bool) :
    List UInt8 → List UInt8 → Prop
  | nil : Reads read plus [] []
  | escape {high low byte : UInt8} {input output : List UInt8} :
      read high low = some byte → Reads read plus input output →
      Reads read plus (37 :: high :: low :: input) (byte :: output)
  | blank {input output : List UInt8} :
      plus = true → Reads read plus input output → Reads read plus (43 :: input) (32 :: output)
  | plain {byte : UInt8} {input output : List UInt8} :
      byte ≠ 37 → (plus = true → byte ≠ 43) → Reads read plus input output →
      Reads read plus (byte :: input) (byte :: output)

def decode (read : UInt8 → UInt8 → Option UInt8) (plus : Bool) : List UInt8 → Option (List UInt8)
  | [] => some []
  | 37 :: high :: low :: rest =>
    match read high low with
    | some byte => (decode read plus rest).map (byte :: ·)
    | none => none
  | 37 :: _ => none
  | byte :: rest =>
    (decode read plus rest).map ((if plus = true ∧ byte = 43 then 32 else byte) :: ·)

theorem decode_plain {byte : UInt8} (hbyte : byte ≠ 37) (rest : List UInt8) :
    decode read plus (byte :: rest) =
      (decode read plus rest).map ((if plus = true ∧ byte = 43 then 32 else byte) :: ·) := by
  rw [decode]
  · intro high low later heq
    exact absurd heq hbyte
  · exact hbyte

theorem decode_escape (high low : UInt8) (rest : List UInt8) :
    decode read plus (37 :: high :: low :: rest) =
      (read high low).bind fun byte => (decode read plus rest).map (byte :: ·) := by
  rw [decode]
  cases read high low <;> rfl

theorem Reads.decode (h : Reads read plus input output) : decode read plus input = some output := by
  induction h with
  | nil => rfl
  | escape hread _ ih => rw [decode_escape, hread, ih]; rfl
  | blank hplus _ ih =>
    rw [decode_plain (by decide), ih, if_pos ⟨hplus, rfl⟩]
    rfl
  | plain hbyte hblank _ ih =>
    rw [decode_plain hbyte, ih, if_neg fun h => hblank h.1 h.2]
    rfl

theorem reads_of_decode (h : Percent.decode read plus input = some output) :
    Reads read plus input output := by
  induction input using Percent.decode.induct read generalizing output with
  | case1 =>
    cases h
    exact .nil
  | case2 _ _ _ _ hread ih =>
    rw [decode_escape, hread, Option.bind_some] at h
    obtain ⟨tail, htail, rfl⟩ := Option.map_eq_some_iff.mp h
    exact .escape hread (ih htail)
  | case3 _ _ _ hread =>
    rw [decode_escape, hread] at h
    cases h
  | case4 _ hshort =>
    rw [Percent.decode] at h
    · cases h
    · exact hshort
  | case5 byte _ _ hbyte ih =>
    rw [decode_plain hbyte] at h
    obtain ⟨tail, htail, rfl⟩ := Option.map_eq_some_iff.mp h
    by_cases hblank : plus = true ∧ byte = 43
    · rw [if_pos hblank, hblank.2]
      exact .blank hblank.1 (ih htail)
    · rw [if_neg hblank]
      exact .plain hbyte (fun hplus heq => hblank ⟨hplus, heq⟩) (ih htail)

theorem Reads.mono (hread : ∀ high low byte, read high low = some byte → read' high low = some byte)
    (h : Reads read plus input output) : Reads read' plus input output := by
  induction h with
  | nil => exact .nil
  | escape hbyte _ ih => exact .escape (hread _ _ _ hbyte) ih
  | blank hplus _ ih => exact .blank hplus ih
  | plain hbyte hblank _ ih => exact .plain hbyte hblank ih

/-! ### Escapes of a kind -/

variable {odd : UInt8 → UInt8 → Bool}

/-- A text in which each byte is kept or escaped is read back. -/
theorem reads_flatMap {write : UInt8 → List UInt8}
    (hwrite : ∀ byte, (∃ high low, write byte = [37, high, low] ∧ read high low = some byte) ∨
      write byte = [byte] ∧ byte ≠ 37 ∧ (plus = true → byte ≠ 43))
    (bytes : List UInt8) : Reads read plus (bytes.flatMap write) bytes := by
  induction bytes with
  | nil => exact .nil
  | cons byte _ ih =>
    rw [List.flatMap_cons]
    rcases hwrite byte with ⟨high, low, heq, hread⟩ | ⟨heq, hbyte, hblank⟩
    · rw [heq]
      exact .escape hread ih
    · rw [heq]
      exact .plain hbyte hblank ih

end Percent

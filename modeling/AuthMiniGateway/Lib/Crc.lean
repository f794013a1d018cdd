import Mathlib

/-!
# Cyclic redundancy checks

Up to `w` bits may be added to a register of `w` bits all at once before it moves, so two messages that differ
only within `w` consecutive bits leave different registers.
-/

namespace Crc

variable {w : ℕ} (poly : BitVec w)

def step (register : BitVec w) : BitVec w :=
  (register >>> 1) ^^^ if register.getLsbD 0 then poly else 0#w

def load (w : ℕ) (bits : List Bool) : BitVec w := (BitVec.ofBoolListLE bits).setWidth w

def feed (register : BitVec w) (bit : Bool) : BitVec w := step poly (register ^^^ load w [bit])

theorem getLsbD_load (bits : List Bool) (i : ℕ) :
    (load w bits).getLsbD i = (decide (i < w) && bits.getD i false) := by
  simp [load]

theorem step_xor (first second : BitVec w) :
    step poly (first ^^^ second) = step poly first ^^^ step poly second := by
  apply BitVec.eq_of_getLsbD_eq
  intro i _
  simp only [step, BitVec.getLsbD_xor, BitVec.getLsbD_ushiftRight]
  cases first.getLsbD 0 <;> cases second.getLsbD 0 <;> cases first.getLsbD (1 + i) <;>
    cases second.getLsbD (1 + i) <;> simp

theorem step_injective (hpoly : poly.getLsbD (w - 1) = true) : Function.Injective (step poly) := by
  have hw : 0 < w := by
    rcases Nat.eq_zero_or_pos w with rfl | hw
    · simp [BitVec.getLsbD_of_ge] at hpoly
    · exact hw
  have hzero {x : BitVec w} (hx : step poly x = 0#w) : x = 0#w := by
    -- the top bit after a step is the bit that fell out
    have hlow : x.getLsbD 0 = false := by
      have h := congrArg (BitVec.getLsbD · (w - 1)) hx
      have hout : x.getLsbD (1 + (w - 1)) = false := BitVec.getLsbD_of_ge x _ (by omega)
      cases hlow : x.getLsbD 0 with
      | false => rfl
      | true => simp [step, hlow, hout, hpoly] at h
    apply BitVec.eq_of_getLsbD_eq
    intro i _
    cases i with
    | zero => simpa using hlow
    | succ i =>
      have h := congrArg (BitVec.getLsbD · i) hx
      simpa [step, hlow, Nat.add_comm 1 i] using h
  intro first second h
  have hxor : step poly (first ^^^ second) = 0#w := by
    rw [step_xor, h, BitVec.xor_self]
  exact BitVec.xor_eq_zero_iff.mp (hzero hxor)

/-- Without its lowest bit a loaded word only moves down. -/
theorem step_load_cons {bit : Bool} {bits : List Bool} (hlength : bits.length < w) :
    step poly (load w (bit :: bits) ^^^ load w [bit]) = load w bits := by
  have hlow : (load w (bit :: bits) ^^^ load w [bit]).getLsbD 0 = false := by
    simp [getLsbD_load]
  apply BitVec.eq_of_getLsbD_eq
  intro i hi
  rw [step, hlow]
  simp only [Bool.false_eq_true, if_false, BitVec.xor_zero, BitVec.getLsbD_ushiftRight,
    BitVec.getLsbD_xor, getLsbD_load, Nat.add_comm 1 i, List.getD_cons_succ]
  by_cases hlast : i + 1 < w
  · simp [hlast, hi]
  · have hnone : bits[i]? = none := List.getElem?_eq_none (by omega)
    simp [hlast, hnone]

/-- The bits of a message, added one by one or all at once. -/
theorem foldl_feed_eq {bits : List Bool} (hlength : bits.length ≤ w) (register : BitVec w) :
    bits.foldl (feed poly) register = (step poly)^[bits.length] (register ^^^ load w bits) := by
  induction bits generalizing register with
  | nil =>
    have hnil : load w [] = 0#w := by
      apply BitVec.eq_of_getLsbD_eq
      simp [getLsbD_load]
    simp [hnil]
  | cons bit bits ih =>
    have hsplit : register ^^^ load w (bit :: bits) =
        (register ^^^ load w [bit]) ^^^ (load w (bit :: bits) ^^^ load w [bit]) := by
      rw [BitVec.xor_comm (load w (bit :: bits)), BitVec.xor_assoc,
        ← BitVec.xor_assoc (load w [bit]), BitVec.xor_self, BitVec.zero_xor]
    have hshorter : bits.length < w := hlength
    rw [List.foldl_cons, ih (Nat.le_of_lt hshorter), List.length_cons, Function.iterate_succ_apply, hsplit,
      step_xor, step_load_cons poly hshorter]
    rfl

theorem load_injective {first second : List Bool} (hlength : first.length = second.length)
    (hwidth : first.length ≤ w) (h : load w first = load w second) : first = second := by
  apply List.ext_getElem hlength
  intro i hfirst hsecond
  have hbit : (load w first).getLsbD i = (load w second).getLsbD i := by rw [h]
  have hi : i < w := by omega
  rw [getLsbD_load, getLsbD_load] at hbit
  simpa [hi, hfirst, hsecond] using hbit

theorem foldl_feed_injective (hpoly : poly.getLsbD (w - 1) = true) (message : List Bool) :
    Function.Injective fun register => message.foldl (feed poly) register := by
  induction message with
  | nil => exact fun _ _ => id
  | cons bit _ ih =>
    intro first second h
    have hxor := step_injective poly hpoly (ih h)
    have hboth := congrArg (· ^^^ load w [bit]) hxor
    simpa [BitVec.xor_assoc] using hboth

/-- **Bursts are found.** Messages that differ only within `w` consecutive bits leave different
registers. -/
theorem foldl_feed_ne (hpoly : poly.getLsbD (w - 1) = true) {before first second after : List Bool}
    (hlength : first.length = second.length) (hwidth : first.length ≤ w) (hne : first ≠ second)
    (register : BitVec w) :
    (before ++ first ++ after).foldl (feed poly) register ≠
      (before ++ second ++ after).foldl (feed poly) register := by
  intro h
  simp only [List.foldl_append] at h
  have hwindow := foldl_feed_injective poly hpoly after h
  have hwidth' : second.length ≤ w := hlength ▸ hwidth
  rw [foldl_feed_eq poly hwidth, foldl_feed_eq poly hwidth', hlength] at hwindow
  have hload := (step_injective poly hpoly).iterate _ hwindow
  exact hne (load_injective hlength hwidth ((BitVec.xor_right_inj _).mp hload))

end Crc

import Mathlib

/-!
# Mixing words

The steps of which mixing functions are made lose nothing, and a counter whose step is invertible comes to every
word.
-/

namespace Mixer

variable {w : Nat}

theorem eq_zero_of_eq_ushiftRight {x : BitVec w} {k : Nat} (hk : 0 < k) (h : x = x >>> k) : x = 0#w := by
  have hrepeat : ∀ n, x = x >>> (n * k) := by
    intro n
    induction n with
    | zero => simp
    | succ n ih =>
      calc
        x = x >>> k := h
        _ = x >>> (n * k) >>> k := by rw [← ih]
        _ = x >>> ((n + 1) * k) := by rw [← BitVec.shiftRight_add, Nat.succ_mul]
  have hall := hrepeat w
  rwa [BitVec.ushiftRight_eq_zero (Nat.le_mul_of_pos_right w hk)] at hall

theorem xorShift_injective {k : Nat} (hk : 0 < k) :
    Function.Injective fun x : BitVec w => x ^^^ (x >>> k) := by
  intro x y hxy
  have hdiff : x ^^^ y = (x ^^^ y) >>> k := by
    rw [BitVec.ushiftRight_xor_distrib]
    calc
      x ^^^ y = (x ^^^ x >>> k) ^^^ (x >>> k ^^^ y) := by
        rw [BitVec.xor_assoc, ← BitVec.xor_assoc (x >>> k), BitVec.xor_self, BitVec.zero_xor]
      _ = (y ^^^ y >>> k) ^^^ (x >>> k ^^^ y) := congrArg (· ^^^ (x >>> k ^^^ y)) hxy
      _ = x >>> k ^^^ y >>> k := by
        rw [BitVec.xor_comm (x >>> k) y, ← BitVec.xor_assoc, BitVec.xor_comm (y ^^^ y >>> k) y,
          ← BitVec.xor_assoc, BitVec.xor_self, BitVec.zero_xor, BitVec.xor_comm]
  have hzero := eq_zero_of_eq_ushiftRight hk hdiff
  exact BitVec.xor_eq_zero_iff.mp hzero

theorem mul_injective {c d : BitVec w} (hcd : c * d = 1#w) : Function.Injective fun x : BitVec w => x * c := by
  intro x y hxy
  have hprod := congrArg (· * d) hxy
  simpa [BitVec.mul_assoc, hcd] using hprod

theorem surjective_of_injective {f : BitVec w → BitVec w} (hf : Function.Injective f) :
    Function.Surjective f := by
  have : Finite (BitVec w) := Finite.of_injective BitVec.toFin fun x y h => BitVec.toFin_inj.mp h
  exact Finite.surjective_of_injective hf

theorem exists_step {c d : BitVec w} (hcd : c * d = 1#w) (start target : BitVec w) :
    ∃ n : Nat, start + BitVec.ofNat w n * c = target := by
  refine ⟨((target - start) * d).toNat, ?_⟩
  rw [BitVec.ofNat_toNat, BitVec.setWidth_eq, BitVec.mul_assoc, BitVec.mul_comm d c, hcd, BitVec.mul_one,
    BitVec.add_comm, BitVec.sub_add_cancel]

end Mixer

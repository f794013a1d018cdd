import Mathlib

namespace LittleEndian

def toBytes : ℕ → ℕ → List UInt8
  | 0, _ => []
  | width + 1, number => UInt8.ofNat number :: toBytes width (number / 256)

def ofBytes : List UInt8 → ℕ
  | [] => 0
  | byte :: bytes => byte.toNat + 256 * ofBytes bytes

theorem forall_byte {P : UInt8 → Prop} (h : ∀ n < 256, P (UInt8.ofNat n)) (byte : UInt8) : P byte := by
  have hbyte := h byte.toNat byte.toNat_lt
  rwa [UInt8.ofNat_toNat] at hbyte

@[simp]
theorem length_toBytes (width number : ℕ) : (toBytes width number).length = width := by
  induction width generalizing number with
  | zero => rfl
  | succ _ ih => simp [toBytes, ih]

theorem ofBytes_lt (bytes : List UInt8) : ofBytes bytes < 256 ^ bytes.length := by
  induction bytes with
  | nil => decide
  | cons byte =>
    have hbyte := byte.toNat_lt
    rw [ofBytes, List.length_cons, pow_succ]
    omega

theorem ofBytes_toBytes {width number : ℕ} (hnumber : number < 256 ^ width) :
    ofBytes (toBytes width number) = number := by
  induction width generalizing number with
  | zero =>
    rw [pow_zero] at hnumber
    simp [toBytes, ofBytes]
    omega
  | succ _ ih =>
    rw [pow_succ] at hnumber
    rw [toBytes, ofBytes, ih (by omega), UInt8.toNat_ofNat']
    omega

theorem toBytes_ofBytes {width : ℕ} {bytes : List UInt8} (hwidth : bytes.length = width) :
    toBytes width (ofBytes bytes) = bytes := by
  induction bytes generalizing width with
  | nil =>
    subst hwidth
    rfl
  | cons byte bytes ih =>
    subst hwidth
    have hbyte := byte.toNat_lt
    have hlow : UInt8.ofNat (byte.toNat + 256 * ofBytes bytes) = byte := by
      rw [← UInt8.toNat_inj, UInt8.toNat_ofNat']
      omega
    have hhigh : (byte.toNat + 256 * ofBytes bytes) / 256 = ofBytes bytes := by omega
    rw [ofBytes, List.length_cons, toBytes, hlow, hhigh, ih rfl]

theorem toBytes_injective {width first second : ℕ} (hfirst : first < 256 ^ width)
    (hsecond : second < 256 ^ width) (h : toBytes width first = toBytes width second) :
    first = second := by
  rw [← ofBytes_toBytes hfirst, h, ofBytes_toBytes hsecond]

end LittleEndian

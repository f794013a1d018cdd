import Mathlib

/-!
# The bytes of a text

The UTF-8 encoding of a character is the character itself within ASCII, and bytes from 128 on beyond it,
so that an ASCII text and its bytes are the same thing.
-/

namespace Utf8

theorem data_toList (text : String) :
    text.toUTF8.data.toList = text.toList.flatMap String.utf8EncodeChar := by
  conv_lhs => rw [← String.ofList_toList (s := text)]
  rw [String.toUTF8_eq_toByteArray]
  exact List.toList_data_toByteArray

/-- The bytes of a character are the character itself, or all beyond ASCII. -/
theorem encodeChar_cases (c : Char) :
    c.toNat < 128 ∧ String.utf8EncodeChar c = [UInt8.ofNat c.toNat] ∨
      128 ≤ c.toNat ∧ String.utf8EncodeChar c ≠ [] ∧
        ∀ byte ∈ String.utf8EncodeChar c, 128 ≤ byte.toNat := by
  have hval : c.val.toNat = c.toNat := rfl
  simp only [String.utf8EncodeChar, hval]
  by_cases hascii : c.toNat ≤ 127
  · left
    rw [if_pos hascii]
    exact ⟨by omega, rfl⟩
  · right
    refine ⟨by omega, ?_⟩
    rw [if_neg hascii]
    split_ifs
    · refine ⟨by simp, ?_⟩
      intro byte hbyte
      simp only [List.mem_cons, List.not_mem_nil, or_false] at hbyte
      rcases hbyte with rfl | rfl <;> rw [UInt8.toNat_ofNat'] <;> omega
    · refine ⟨by simp, ?_⟩
      intro byte hbyte
      simp only [List.mem_cons, List.not_mem_nil, or_false] at hbyte
      rcases hbyte with rfl | rfl | rfl <;> rw [UInt8.toNat_ofNat'] <;> omega
    · refine ⟨by simp, ?_⟩
      intro byte hbyte
      simp only [List.mem_cons, List.not_mem_nil, or_false] at hbyte
      rcases hbyte with rfl | rfl | rfl | rfl <;> rw [UInt8.toNat_ofNat'] <;> omega

/-- Read byte by byte, the bytes of an ASCII text are its characters. -/
theorem map_ofNat_of_ascii {text : List Char} (hascii : ∀ c ∈ text, c.toNat < 128) :
    (text.flatMap String.utf8EncodeChar).map (fun byte => Char.ofNat byte.toNat) = text := by
  induction text with
  | nil => rfl
  | cons c _ ih =>
    have hc : c.toNat < 128 := hascii c List.mem_cons_self
    rcases encodeChar_cases c with ⟨-, hbytes⟩ | ⟨hwide, -⟩
    · have hbyte : Char.ofNat (UInt8.ofNat c.toNat).toNat = c := by
        rw [UInt8.toNat_ofNat', Nat.mod_eq_of_lt (by omega), Char.ofNat_toNat]
      rw [List.flatMap_cons, hbytes, List.map_append,
        ih fun d hd => hascii d (List.mem_cons_of_mem c hd), List.map_singleton, hbyte]
      rfl
    · omega

/-- Bytes within ASCII are the bytes of the text that they spell. -/
theorem flatMap_encodeChar_of_ascii {bytes : List UInt8} (hascii : ∀ byte ∈ bytes, byte.toNat < 128) :
    (bytes.map fun byte => Char.ofNat byte.toNat).flatMap String.utf8EncodeChar = bytes := by
  have hspelled : ∀ n < 128, String.utf8EncodeChar (Char.ofNat n) = [UInt8.ofNat n] := by
    decide +kernel
  induction bytes with
  | nil => rfl
  | cons byte _ ih =>
    rw [List.map_cons, List.flatMap_cons, hspelled byte.toNat (hascii byte List.mem_cons_self),
      ih fun other hother => hascii other (List.mem_cons_of_mem byte hother), UInt8.ofNat_toNat]
    rfl

theorem fromUTF8?_eq_some_iff {bytes : List UInt8} {text : String} :
    String.fromUTF8? ⟨bytes.toArray⟩ = some text ↔ text.toUTF8.data.toList = bytes := by
  unfold String.fromUTF8?
  constructor
  · intro h
    split at h
    · cases h
      rfl
    · cases h
  · intro h
    have hbytes : (⟨bytes.toArray⟩ : ByteArray) = text.toByteArray := by
      rw [← h]
      rfl
    have hvalid : ByteArray.IsValidUTF8 ⟨bytes.toArray⟩ := hbytes ▸ text.isValidUTF8
    rw [dif_pos hvalid, Option.some_inj]
    exact String.toByteArray_inj.mp hbytes

end Utf8

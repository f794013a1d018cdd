import AuthMiniGateway.Http
import AuthMiniGateway.Lib.Percent
import AuthMiniGateway.Lib.Utf8

namespace AuthMiniGateway

def hexByte (high low : UInt8) : Option UInt8 :=
  (hexDigit high).bind fun h => (hexDigit low).map fun l => UInt8.ofNat (16 * h + l)

theorem percentDecodeBytes_eq (bytes : List UInt8) :
    percentDecodeBytes bytes = Percent.decode fromStrRadix16 false bytes := by
  induction bytes using percentDecodeBytes.induct with
  | case1 => rfl
  | case2 _ _ _ _ hread ih => rw [percentDecodeBytes, Percent.decode, hread, ih]
  | case3 _ _ _ hread => rw [percentDecodeBytes, Percent.decode, hread]
  | case4 _ hshort => rw [percentDecodeBytes, Percent.decode] <;> exact hshort
  | case5 _ _ hnot hbyte ih =>
    rw [percentDecodeBytes, Percent.decode_plain hbyte, ih]
    · rfl
    · exact hnot
    · exact hbyte

theorem hexDigit_plus : hexDigit 43 = none := by decide

theorem hexByte_sound {high low byte : UInt8} (h : hexByte high low = some byte) :
    high ≠ 43 ∧ fromStrRadix16 high low = some byte := by
  obtain ⟨h', hhigh, hrest⟩ := Option.bind_eq_some_iff.mp h
  obtain ⟨l', hlow, rfl⟩ := Option.map_eq_some_iff.mp hrest
  have hne : high ≠ 43 := by
    rintro rfl
    cases hexDigit_plus.symm.trans hhigh
  exact ⟨hne, by rw [fromStrRadix16, if_neg hne, hhigh, hlow]⟩

abbrev bytesOf (text : String) : List UInt8 := text.toUTF8.data.toList

def decodeText (plusIsSpace : Bool) (text : String) : Option String :=
  (Percent.decode fromStrRadix16 plusIsSpace (bytesOf text)).bind fun bytes =>
    String.fromUTF8? ⟨bytes.toArray⟩

theorem percentDecode_eq (text : String) : percentDecode text = decodeText false text := by
  rw [percentDecode, percentDecodeBytes_eq, decodeText]

variable {plusIsSpace : Bool} {text result : String}

theorem decodeText_eq_some_iff :
    decodeText plusIsSpace text = some result ↔
      Percent.Reads fromStrRadix16 plusIsSpace (bytesOf text) (bytesOf result) := by
  rw [decodeText, Option.bind_eq_some_iff]
  constructor
  · rintro ⟨bytes, hdecode, hutf8⟩
    have hbytes : bytesOf result = bytes := Utf8.fromUTF8?_eq_some_iff.mp hutf8
    rw [hbytes]
    exact Percent.reads_of_decode hdecode
  · intro h
    exact ⟨_, h.decode, Utf8.fromUTF8?_eq_some_iff.mpr rfl⟩

end AuthMiniGateway

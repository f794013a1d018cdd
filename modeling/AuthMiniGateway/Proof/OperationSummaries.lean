import AuthMiniGateway.Benchmark.OperationSummary
import AuthMiniGateway.Proof.RawCodecs

namespace AuthMiniGateway.Benchmark.RawCodec

open Slices LittleEndian Fallible

/-! ### Hashes -/

theorem hexNibble_eq_ok_iff {digit nibble : UInt8} :
    hexNibble digit = .ok nibble ↔ nibble < 16 ∧ digit = hexDigit nibble := by
  have hread : ∀ digit, ∀ v ∈ (hexNibble digit).toOption, v < 16 ∧ digit = hexDigit v :=
    forall_byte (by decide +kernel)
  have hwritten : ∀ nibble < 16, hexNibble (hexDigit nibble) = .ok nibble :=
    forall_byte (by decide +kernel)
  constructor
  · intro h
    exact hread digit nibble (by rw [h]; rfl)
  · rintro ⟨hnibble, rfl⟩
    exact hwritten nibble hnibble

theorem shift_or_eq_iff {high low byte : UInt8} (hhigh : high < 16) (hlow : low < 16) :
    (high <<< 4) ||| low = byte ↔ high = byte >>> 4 ∧ low = byte &&& 15 := by
  have hsplit : ∀ h < 16, ∀ l < 16,
      ((UInt8.ofNat h) <<< 4 ||| UInt8.ofNat l) >>> 4 = UInt8.ofNat h ∧
        ((UInt8.ofNat h) <<< 4 ||| UInt8.ofNat l) &&& 15 = UInt8.ofNat l := by
    decide +kernel
  have hjoin : ∀ byte : UInt8, (byte >>> 4) <<< 4 ||| (byte &&& 15) = byte :=
    forall_byte (by decide +kernel)
  constructor
  · rintro rfl
    obtain ⟨hhigh, hlow⟩ := hsplit high.toNat (UInt8.lt_iff_toNat_lt.mp hhigh) low.toNat
      (UInt8.lt_iff_toNat_lt.mp hlow)
    simp only [UInt8.ofNat_toNat] at hhigh hlow
    exact ⟨hhigh.symm, hlow.symm⟩
  · rintro ⟨rfl, rfl⟩
    exact hjoin byte

theorem decodePair_eq_ok_iff {pair : Bytes} {byte : UInt8} (hlength : pair.length = 2) :
    decodePair pair = .ok byte ↔ pair = hexPair byte ∧ True := by
  have hnibbles : ∀ byte : UInt8, byte >>> 4 < 16 ∧ byte &&& 15 < 16 :=
    forall_byte (by decide +kernel)
  obtain ⟨first, second, rfl⟩ := List.length_eq_two.mp hlength
  have hvalue : decodePair [first, second] = .ok byte ↔ ∃ high, hexNibble first = .ok high ∧
      ∃ low, hexNibble second = .ok low ∧ (high <<< 4) ||| low = byte := by
    simp only [decodePair, index, bind_eq_ok_iff, raise_eq_ok_iff]
    simp [pure, Except.pure]
  rw [hvalue]
  simp only [hexNibble_eq_ok_iff, hexPair, List.cons.injEq, and_true]
  constructor
  · rintro ⟨high, ⟨hhigh, rfl⟩, low, ⟨hlow, rfl⟩, hbyte⟩
    obtain ⟨rfl, rfl⟩ := (shift_or_eq_iff hhigh hlow).mp hbyte
    exact ⟨rfl, rfl⟩
  · rintro ⟨rfl, rfl⟩
    obtain ⟨hhigh, hlow⟩ := hnibbles byte
    exact ⟨_, ⟨hhigh, rfl⟩, _, ⟨hlow, rfl⟩, (shift_or_eq_iff hhigh hlow).mpr ⟨rfl, rfl⟩⟩

theorem isLowerHex_hexPair :
    ∀ byte, ∀ digit ∈ hexPair byte, isLowerHex digit = true ∧ digit.toNat < 128 :=
  forall_byte (by decide +kernel)

theorem length_hexPairs (hash : Bytes) : (hash.flatMap hexPair).length = hash.length * 2 :=
  length_flatMap_uniform fun _ => rfl

theorem utf8_hexLower (hash : Bytes) : utf8 (hexLower hash) = hash.flatMap hexPair := by
  rw [utf8, Utf8.data_toList, hexLower, String.toList_ofList]
  apply Utf8.flatMap_encodeChar_of_ascii
  intro digit hdigit
  obtain ⟨byte, -, hdigit⟩ := List.mem_flatMap.mp hdigit
  exact (isLowerHex_hexPair byte digit hdigit).2

theorem validateSha256_hexLower {hash : Bytes} (hlength : hash.length = 32) (name : String) :
    validateSha256 name (hexLower hash) = .ok () := by
  simp only [validateSha256, require_eq_ok_iff, Bool.and_eq_true, decide_eq_true_eq, utf8_hexLower,
    length_hexPairs, hlength, List.all_eq_true]
  refine ⟨trivial, fun digit hdigit => ?_⟩
  obtain ⟨byte, -, hdigit⟩ := List.mem_flatMap.mp hdigit
  exact (isLowerHex_hexPair byte digit hdigit).1

theorem decodeHash_eq_ok_iff {digest : Digest} {hash : Bytes} :
    decodeHash digest = .ok hash ↔ hash.length = 32 ∧ hexLower hash = digest := by
  have hpairs (hlength : (utf8 digest).length = 32 * 2) :
      (chunksExact 2 (utf8 digest)).mapM decodePair = .ok hash ↔
        utf8 digest = hash.flatMap hexPair ∧ ∀ byte ∈ hash, True :=
    mapM_chunksExact_eq_ok_iff (fun _ => rfl) (fun _ _ => decodePair_eq_ok_iff) (by decide) hlength
  simp only [decodeHash, bind_eq_ok_iff, raise_eq_ok_iff]
  constructor
  · rintro ⟨_, hvalid, hhash⟩
    simp only [validateSha256, require_eq_ok_iff, Bool.and_eq_true, decide_eq_true_eq] at hvalid
    have hdigits := ((hpairs hvalid.1).mp hhash).1
    have hlength := hvalid.1
    rw [hdigits, length_hexPairs] at hlength
    exact ⟨by omega, utf8_injective ((utf8_hexLower hash).trans hdigits.symm)⟩
  · rintro ⟨hlength, rfl⟩
    have hdigits : (utf8 (hexLower hash)).length = 32 * 2 := by
      rw [utf8_hexLower, length_hexPairs, hlength]
    exact ⟨(), validateSha256_hexLower hlength _,
      (hpairs hdigits).mpr ⟨utf8_hexLower hash, fun _ _ => trivial⟩⟩

/-! ### Fields -/

variable {payload part : Bytes} {start stop : ℕ} {reason : String} {text : String}

theorem zeros_iff : zeros part = true ↔ part = List.replicate part.length 0 := by
  rw [zeros, List.all_eq_true, List.eq_replicate_iff]
  simp

theorem readText_eq_ok_iff :
    readText payload start stop reason = .ok text ↔
      start ≤ stop ∧ (utf8 text).length = stop - start ∧ Sits (utf8 text) start payload := by
  have hutf8 {part : Bytes} : String.fromUTF8? ⟨part.toArray⟩ = some text ↔ utf8 text = part :=
    Utf8.fromUTF8?_eq_some_iff
  simp only [readText, bind_eq_ok_iff, slice_eq_ok_iff]
  constructor
  · rintro ⟨part, hpart, hread⟩
    split at hread
    next found hfound =>
      cases hread
      rwa [hutf8.mp hfound]
    next => cases hread
  · intro hpart
    refine ⟨_, hpart, ?_⟩
    rw [hutf8.mpr rfl]
    rfl

theorem readNumber_iff {number : UInt64} :
    (∃ n, readLe payload start stop 8 reason = .ok n ∧ UInt64.ofNat n = number) ↔
      stop = start + 8 ∧ Sits (numberBytes number) start payload := by
  simp only [readLe_eq_ok_iff, numberBytes]
  constructor
  · rintro ⟨n, ⟨hstop, hn, hsits⟩, rfl⟩
    rw [UInt64.toNat_ofNat_of_lt' hn]
    exact ⟨hstop, hsits⟩
  · rintro ⟨hstop, hsits⟩
    exact ⟨number.toNat, ⟨hstop, number.toNat_lt, hsits⟩, UInt64.ofNat_toNat⟩

theorem readNumber_eq_ok_iff {i : ℕ} {number : UInt64} :
    readNumber payload i = .ok number ↔ Sits (numberBytes number) (0 + i * 8) payload ∧ True := by
  simp only [readNumber, bind_eq_ok_iff, pure, Except.pure, Except.ok.injEq, readNumber_iff, Nat.zero_add,
    true_and, and_true]

theorem readLane_eq_ok_iff {i : ℕ} {lane : (UInt64 × UInt64) × UInt64} :
    readLane payload i = .ok lane ↔ Sits (laneRecord lane) (192 + i * 24) payload ∧ True := by
  obtain ⟨⟨quota, started⟩, completed⟩ := lane
  have hfields : readLane payload i = .ok ((quota, started), completed) ↔
      (∃ n, readLe payload (192 + i * 24) (192 + i * 24 + 8) 8
        "operation-summary lane quota is truncated" = .ok n ∧ UInt64.ofNat n = quota) ∧
      (∃ n, readLe payload (192 + i * 24 + 8) (192 + i * 24 + 16) 8
        "operation-summary lane start is truncated" = .ok n ∧ UInt64.ofNat n = started) ∧
      ∃ n, readLe payload (192 + i * 24 + 16) (192 + i * 24 + 24) 8
        "operation-summary lane completion is truncated" = .ok n ∧ UInt64.ofNat n = completed := by
    simp only [readLane, bind_eq_ok_iff, pure, Except.pure, Except.ok.injEq, Prod.mk.injEq]
    constructor
    · rintro ⟨x, hx, y, hy, z, hz, ⟨rfl, rfl⟩, rfl⟩
      exact ⟨⟨x, hx, rfl⟩, ⟨y, hy, rfl⟩, z, hz, rfl⟩
    · rintro ⟨⟨x, hx, rfl⟩, ⟨y, hy, rfl⟩, z, hz, rfl⟩
      exact ⟨x, hx, y, hy, z, hz, ⟨rfl, rfl⟩, rfl⟩
  rw [hfields]
  simp only [readNumber_iff, laneRecord, sits_append_iff, numberBytes, length_toBytes, Nat.add_assoc,
    Nat.reduceAdd, true_and, and_true]

theorem length_laneRecord (lane : (UInt64 × UInt64) × UInt64) : (laneRecord lane).length = 24 := by
  simp [laneRecord, numberBytes]

theorem readNumbers_eq_ok_iff {numbers : List UInt64} :
    (List.range 9).mapM (readNumber payload) = .ok numbers ↔
      numbers.length = 9 ∧ Sits (numbers.flatMap numberBytes) 0 payload := by
  have hwidth (number : UInt64) : (numberBytes number).length = 8 := length_toBytes 8 _
  rw [mapM_range_eq_ok_iff hwidth (fun _ _ _ => readNumber_eq_ok_iff) (Nat.zero_le _)]
  simp

theorem readLanes_eq_ok_iff {n : ℕ} {lanes : List ((UInt64 × UInt64) × UInt64)}
    (hlength : 192 ≤ payload.length) :
    (List.range n).mapM (readLane payload) = .ok lanes ↔
      lanes.length = n ∧ Sits (lanes.flatMap laneRecord) 192 payload := by
  rw [mapM_range_eq_ok_iff length_laneRecord (fun _ _ _ => readLane_eq_ok_iff) hlength]
  simp

/-! ### Payloads -/

namespace OperationSummaryEvidence

structure Fits (value : OperationSummaryEvidence) (hash : Bytes) : Prop where
  first : 0 < (utf8 value.firstOperationId).length ∧ (utf8 value.firstOperationId).length ≤ 32
  last : 0 < (utf8 value.lastOperationId).length ∧ (utf8 value.lastOperationId).length ≤ 32
  lanes : 0 < value.laneQuotas.length ∧ value.laneQuotas.length ≤ 64
  starts : value.laneStarts.length = value.laneQuotas.length
  completions : value.laneCompletions.length = value.laneQuotas.length
  hash : hash.length = 32 ∧ hexLower hash = value.operationHashSha256

variable {value : OperationSummaryEvidence} {hash : Bytes}

theorem Fits.lanes_map (h : value.Fits hash) :
    value.lanes.length = value.laneQuotas.length ∧ value.lanes.map (·.1.1) = value.laneQuotas ∧
      value.lanes.map (·.1.2) = value.laneStarts ∧ value.lanes.map (·.2) = value.laneCompletions := by
  have hpairs : (value.laneQuotas.zip value.laneStarts).length = value.laneQuotas.length := by
    rw [List.length_zip, h.starts, Nat.min_self]
  have hlanes : value.lanes.map Prod.fst = value.laneQuotas.zip value.laneStarts :=
    List.map_fst_zip (by rw [hpairs, h.completions])
  have hcompletions : value.lanes.map Prod.snd = value.laneCompletions :=
    List.map_snd_zip (by rw [hpairs, h.completions])
  have hlength := congrArg List.length hcompletions
  rw [List.length_map, h.completions] at hlength
  refine ⟨hlength, ?_, ?_, hcompletions⟩
  · have hquotas := congrArg (List.map Prod.fst) hlanes
    rwa [List.map_map, List.map_fst_zip (Nat.le_of_eq h.starts.symm)] at hquotas
  · have hstarts := congrArg (List.map Prod.snd) hlanes
    rwa [List.map_map, List.map_snd_zip (Nat.le_of_eq h.starts)] at hstarts

end OperationSummaryEvidence

open OperationSummaryEvidence

variable {value : OperationSummaryEvidence} {hash : Bytes}

theorem encodeOperationSummary_eq_ok_iff :
    encodeOperationSummary value = .ok payload ↔
      ∃ hash, value.Fits hash ∧ payload = operationPayload value hash := by
  simp only [encodeOperationSummary, bind_eq_ok_iff, ensure_eq_ok_iff, raise_eq_ok_iff, checkedMul_eq_ok_iff,
    checkedAdd_eq_ok_iff, decodeHash_eq_ok_iff, decide_eq_true_eq, Bool.not_eq_true', Bool.or_eq_false_iff,
    List.isEmpty_eq_false_iff, decide_eq_false_iff_not, bne_eq_false_iff_eq]
  constructor
  · rintro ⟨-, ⟨⟨⟨⟨⟨⟨⟨hfirst, hlast⟩, hfirstLen⟩, hlastLen⟩, hlanes⟩, hlanesLen⟩, hstarts⟩, hcompletions⟩, -, -,
      _, -, _, -, -, -, -, -, hash, hhash, -, -, ⟨⟩⟩
    exact ⟨hash, ⟨⟨List.length_pos_of_ne_nil hfirst, Nat.le_of_not_lt hfirstLen⟩,
      ⟨List.length_pos_of_ne_nil hlast, Nat.le_of_not_lt hlastLen⟩,
      ⟨List.length_pos_of_ne_nil hlanes, Nat.le_of_not_lt hlanesLen⟩, hstarts, hcompletions, hhash⟩, rfl⟩
  · rintro ⟨hash, h, rfl⟩
    obtain ⟨hfirst, hlast, hlanes, hstarts, hcompletions, hhash⟩ := h
    have hvalid := validateSha256_hexLower hhash.1 "operation hash"
    rw [hhash.2] at hvalid
    have hsize : value.laneQuotas.length * operationLaneRecordBytes ≤ 64 * 24 :=
      Nat.mul_le_mul_right 24 hlanes.2
    have hbase : operationBasePayloadBytes = 192 := rfl
    exact ⟨(), ⟨⟨⟨⟨⟨⟨⟨List.ne_nil_of_length_pos hfirst.1, List.ne_nil_of_length_pos hlast.1⟩, by omega⟩, by omega⟩,
      List.ne_nil_of_length_pos hlanes.1⟩, by omega⟩, hstarts⟩, hcompletions⟩, (), hvalid, _,
      ⟨by omega, rfl⟩, _, ⟨rfl, by omega⟩, (), by omega, (), by omega, hash, hhash, (), by omega, rfl⟩

theorem length_operationId {text : String} (h : (utf8 text).length ≤ 32) :
    (operationId text).length = 32 := by
  rw [operationId, List.length_append, List.length_replicate]
  omega

theorem operationPayload_iff_sits (h : value.Fits hash) :
    payload = operationPayload value hash ↔
      (Sits (value.numbers.flatMap numberBytes) 0 payload ∧ Sits [value.flags] 72 payload ∧
        Sits (toBytes 2 (utf8 value.firstOperationId).length) 73 payload ∧
        Sits (toBytes 2 (utf8 value.lastOperationId).length) 75 payload ∧ Sits hash 77 payload ∧
        Sits (operationId value.firstOperationId) 109 payload ∧
        Sits (operationId value.lastOperationId) 141 payload ∧
        Sits (toBytes 2 value.laneQuotas.length) 173 payload ∧ Sits (List.replicate 17 0) 175 payload ∧
        Sits (value.lanes.flatMap laneRecord) 192 payload) ∧
      payload.length = 192 + value.laneQuotas.length * 24 := by
  have hnumbers : (value.numbers.flatMap numberBytes).length = 72 :=
    length_flatMap_uniform fun _ => length_toBytes 8 _
  have hlanes : (value.lanes.flatMap laneRecord).length = value.laneQuotas.length * 24 := by
    rw [length_flatMap_uniform length_laneRecord, h.lanes_map.1]
  rw [eq_iff_sits]
  simp only [operationPayload, sits_append_iff, List.length_append, hnumbers, length_toBytes,
    List.length_singleton, length_operationId h.first.2, length_operationId h.last.2, h.hash.1, hlanes,
    List.length_replicate, Nat.zero_add, Nat.reduceAdd, ← Nat.add_assoc]

theorem numbers_getD {numbers : List UInt64} (hlength : numbers.length = 9) :
    [numbers.getD 0 0, numbers.getD 1 0, numbers.getD 2 0, numbers.getD 3 0, numbers.getD 4 0,
      numbers.getD 5 0, numbers.getD 6 0, numbers.getD 7 0, numbers.getD 8 0] = numbers := by
  match numbers, hlength with
  | [_, _, _, _, _, _, _, _, _], _ => rfl

theorem flags_iff (flags : UInt8) (a b c d e : Bool) :
    flags &&& ~~~0x1f = 0 ∧ a = (flags &&& 1 != 0) ∧ b = (flags &&& 2 != 0) ∧ c = (flags &&& 4 != 0) ∧
        d = (flags &&& 8 != 0) ∧ e = (flags &&& 16 != 0) ↔
      a.toUInt8 ||| (b.toUInt8 <<< 1) ||| (c.toUInt8 <<< 2) ||| (d.toUInt8 <<< 3) ||| (e.toUInt8 <<< 4) =
        flags := by
  have hread : ∀ flags : UInt8, flags &&& ~~~0x1f = 0 →
      (flags &&& 1 != 0).toUInt8 ||| ((flags &&& 2 != 0).toUInt8 <<< 1) |||
        ((flags &&& 4 != 0).toUInt8 <<< 2) ||| ((flags &&& 8 != 0).toUInt8 <<< 3) |||
        ((flags &&& 16 != 0).toUInt8 <<< 4) = flags :=
    forall_byte (by decide +kernel)
  constructor
  · rintro ⟨hmask, rfl, rfl, rfl, rfl, rfl⟩
    exact hread flags hmask
  · rintro rfl
    cases a <;> cases b <;> cases c <;> cases d <;> cases e <;> decide

theorem sits_operationId_iff {text : String} :
    Sits (operationId text) start payload ↔
      Sits (utf8 text) start payload ∧
        Sits (List.replicate (32 - (utf8 text).length) 0) (start + (utf8 text).length) payload :=
  sits_append_iff

theorem zip_map_lanes (lanes : List ((UInt64 × UInt64) × UInt64)) :
    ((lanes.map (·.1.1)).zip (lanes.map (·.1.2))).zip (lanes.map (·.2)) = lanes := by
  induction lanes with
  | nil => rfl
  | cons _ _ ih => simp [ih]

theorem decodeOperationPayload_eq_ok_iff :
    decodeOperationPayload payload = .ok value ↔
      value.schema = "amg-http2-perf/operation-summary/v1" ∧
        ∃ hash, value.Fits hash ∧ payload = operationPayload value hash := by
  have hbase : operationBasePayloadBytes = 192 := rfl
  have hlane : operationLaneRecordBytes = 24 := rfl
  simp only [decodeOperationPayload, bind_eq_ok_iff, ensure_eq_ok_iff, raise_eq_ok_iff, checkedMul_eq_ok_iff,
    checkedAdd_eq_ok_iff, readLe_eq_ok_iff, index_eq_ok_iff, readText_eq_ok_iff, readNumbers_eq_ok_iff,
    slice_eq_ok_iff, beq_iff_eq, Bool.and_eq_true, decide_eq_true_eq, bne_iff_ne, zeros_iff, hbase, hlane]
  constructor
  · rintro ⟨-, hlength, flags, hflags, -, hmask, reserved, ⟨-, hreservedLen, hreserved⟩, -, hzeros, firstLen,
      ⟨-, -, hfirstLen⟩, lastLen, ⟨-, -, hlastLen⟩, n, ⟨-, -, hcount⟩, _, ⟨-, rfl⟩, _, ⟨rfl, -⟩, -,
      ⟨⟨⟨⟨⟨⟨hfirst0, hfirst⟩, hlast0⟩, hlast⟩, hn0⟩, hn⟩, hpayloadLen⟩, behindFirst, ⟨-, hbehindLen, hbehind⟩, -,
      hzerosFirst, behindLast, ⟨-, hbehindLastLen, hbehindLast⟩, -, hzerosLast, numbers, ⟨hnine, hnumbers⟩,
      first, ⟨-, hfirstText, hfirstSits⟩, last, ⟨-, hlastText, hlastSits⟩, lanes, hlanes, hash,
      ⟨-, hhashLen, hhash⟩, hvalue⟩
    obtain ⟨rfl, hlanesSits⟩ := (readLanes_eq_ok_iff hlength).mp hlanes
    rw [hzeros, hreservedLen] at hreserved
    rw [hzerosFirst, hbehindLen] at hbehind
    rw [hzerosLast, hbehindLastLen] at hbehindLast
    obtain rfl : (utf8 first).length = firstLen := by omega
    obtain rfl : (utf8 last).length = lastLen := by omega
    have hvalue := Except.ok.inj hvalue
    have hflagsEq : value.flags = flags := by
      rw [← hvalue]
      exact (flags_iff flags _ _ _ _ _).mp ⟨hmask, rfl, rfl, rfl, rfl, rfl⟩
    have hnumbersEq : value.numbers = numbers := by
      rw [← hvalue]
      exact numbers_getD hnine
    have hlanesEq : value.lanes = lanes := by
      rw [← hvalue]
      exact zip_map_lanes lanes
    have hquotas : value.laneQuotas.length = lanes.length := by rw [← hvalue, List.length_map]
    have hfirstEq : value.firstOperationId = first := by rw [← hvalue]
    have hlastEq : value.lastOperationId = last := by rw [← hvalue]
    have hfits : value.Fits hash := by
      constructor
      · rw [hfirstEq]
        omega
      · rw [hlastEq]
        omega
      · rw [hquotas]
        omega
      · rw [hquotas, ← hvalue, List.length_map]
      · rw [hquotas, ← hvalue, List.length_map]
      · exact ⟨hhashLen, by rw [← hvalue]⟩
    refine ⟨by rw [← hvalue], hash, hfits, ?_⟩
    have hbehind' : 141 - (109 + (utf8 first).length) = 32 - (utf8 first).length := by omega
    have hbehindLast' : 173 - (141 + (utf8 last).length) = 32 - (utf8 last).length := by omega
    rw [operationPayload_iff_sits hfits, hflagsEq, hnumbersEq, hlanesEq, hquotas, hfirstEq, hlastEq,
      sits_operationId_iff, sits_operationId_iff, ← hbehind', ← hbehindLast']
    exact ⟨⟨hnumbers, hflags, hfirstLen, hlastLen, hhash, ⟨hfirstSits, hbehind⟩, ⟨hlastSits, hbehindLast⟩, hcount,
      hreserved, hlanesSits⟩, hpayloadLen⟩
  · rintro ⟨hschema, hash, h, hpayload⟩
    obtain ⟨⟨hnumbers, hflags, hfirstLen, hlastLen, hhash, hfirst, hlast, hcount, hreserved, hlanes⟩, hlength⟩ :=
      (operationPayload_iff_sits h).mp hpayload
    rw [sits_operationId_iff] at hfirst hlast
    have hbits := (flags_iff value.flags value.exactStatus value.exactVersion value.exactPayload value.exactEos
      value.sseContentType).mpr rfl
    have hread := (readLanes_eq_ok_iff (by omega)).mpr ⟨h.lanes_map.1, hlanes⟩
    obtain ⟨-, hquotas, hstarts, hcompletions⟩ := h.lanes_map
    obtain ⟨hfirstFits, hlastFits, hlanesFits, -, -, hhashFits⟩ := h
    refine ⟨(), by omega, _, hflags, (), hbits.1, _, ⟨by omega, List.length_replicate, hreserved⟩, (), by simp, _,
      ⟨trivial, by omega, hfirstLen⟩, _, ⟨trivial, by omega, hlastLen⟩, _, ⟨trivial, by omega, hcount⟩, _,
      ⟨by omega, rfl⟩, _, ⟨rfl, by omega⟩, (),
      ⟨⟨⟨⟨⟨⟨by omega, by omega⟩, by omega⟩, by omega⟩, by omega⟩, by omega⟩, hlength⟩, _,
      ⟨by omega, by rw [List.length_replicate]; omega, hfirst.2⟩, (), by simp, _,
      ⟨by omega, by rw [List.length_replicate]; omega, hlast.2⟩, (), by simp, _, ⟨rfl, hnumbers⟩, _,
      ⟨by omega, by omega, hfirst.1⟩, _, ⟨by omega, by omega, hlast.1⟩, _, hread, _,
      ⟨by omega, hhashFits.1, hhash⟩, ?_⟩
    obtain ⟨-, hstatus, hversion, hexact, heos, hsse⟩ := hbits
    rw [← hstatus, ← hversion, ← hexact, ← heos, ← hsse, hquotas, hstarts, hcompletions, hhashFits.2, ← hschema]
    rfl

theorem safe_readText (h : start ≤ stop ∧ stop ≤ payload.length) :
    Safe (readText payload start stop reason) := by
  refine (safe_slice h).bind fun part _ => ?_
  cases String.fromUTF8? ⟨part.toArray⟩ with
  | some => exact safe_ok
  | none => exact safe_error

theorem safe_decodeOperationPayload : Safe (decodeOperationPayload payload) := by
  unfold decodeOperationPayload
  refine safe_ensure.bind fun _ hbase => ?_
  have hlength : 192 ≤ payload.length := of_decide_eq_true (ensure_eq_ok_iff.mp hbase)
  refine (safe_index (by omega)).bind fun _ _ => safe_ensure.bind fun _ _ => ?_
  refine (safe_slice ⟨by decide, hlength⟩).bind fun _ _ => safe_ensure.bind fun _ _ => ?_
  refine (safe_readLe (by omega)).bind fun firstLen _ => (safe_readLe (by omega)).bind fun lastLen _ => ?_
  refine (safe_readLe (by omega)).bind fun laneCount _ => safe_checkedMul.bind fun laneBytes hbytes => ?_
  refine safe_raise.bind fun expectedLen hexpected => safe_ensure.bind fun _ hfields => ?_
  simp only [ensure_eq_ok_iff, Bool.and_eq_true, decide_eq_true_eq, beq_iff_eq] at hfields
  obtain ⟨⟨⟨⟨⟨⟨-, hfirst⟩, -⟩, hlast⟩, -⟩, -⟩, hpayload⟩ := hfields
  refine (safe_slice (by omega)).bind fun _ _ => safe_ensure.bind fun _ _ => ?_
  refine (safe_slice (by omega)).bind fun _ _ => safe_ensure.bind fun _ _ => ?_
  have hnumbers : ∀ i ∈ List.range 9, Safe (readNumber payload i) := by
    intro i hi
    have hi := List.mem_range.mp hi
    exact (safe_readLe (by omega)).bind fun _ _ => safe_ok
  have hlanes : ∀ i ∈ List.range laneCount, Safe (readLane payload i) := by
    intro i hi
    have hi := List.mem_range.mp hi
    have hbytes := (checkedMul_eq_ok_iff.mp hbytes).2
    have hexpected := (checkedAdd_eq_ok_iff.mp (raise_eq_ok_iff.mp hexpected)).1
    simp only [operationBasePayloadBytes, operationLaneRecordBytes] at hbytes hexpected
    simp only [readLane, operationBasePayloadBytes, operationLaneRecordBytes]
    refine (safe_readLe (by omega)).bind fun _ _ => (safe_readLe (by omega)).bind fun _ _ => ?_
    exact (safe_readLe (by omega)).bind fun _ _ => safe_ok
  refine (safe_mapM hnumbers).bind fun _ _ => (safe_readText (by omega)).bind fun _ _ => ?_
  refine (safe_readText (by omega)).bind fun _ _ => (safe_mapM hlanes).bind fun _ _ => ?_
  exact (safe_slice (by omega)).bind fun _ _ => safe_ok

/-! ### Files -/

theorem decodeOperationSummary_eq_ok_iff {bytes : Bytes} {evidenceClass : EvidenceClass} :
    decodeOperationSummary bytes evidenceClass = .ok value ↔
      value.schema = "amg-http2-perf/operation-summary/v1" ∧
        encodeOperationRecord evidenceClass value = .ok bytes := by
  simp only [decodeOperationSummary, encodeOperationRecord, bind_eq_ok_iff, decodeRecordPayload_eq_ok_iff,
    encodeRecordPayload_eq_ok_iff, decodeOperationPayload_eq_ok_iff, encodeOperationSummary_eq_ok_iff]
  constructor
  · rintro ⟨payload, hfile, hschema, hpayload⟩
    exact ⟨hschema, payload, hpayload, hfile⟩
  · rintro ⟨hschema, payload, hpayload, hfile⟩
    exact ⟨payload, hfile, hschema, hpayload⟩

/-- **The codecs are exact.** Latencies and operation summaries are read back from the files that are
written for them. A file that is read is the one that is written for what was read. No decoder reads
out of bounds. -/
theorem raw_codecs_exact :
    (∀ (evidenceClass : EvidenceClass) (latencies : List UInt64), evidenceClass.hasLatencies = true →
      latencies ≠ [] → 0 ∉ latencies → latencyHeaderBytes + latencies.length * 8 ≤ taskCapBytes →
      ∃ bytes, encodeLatencies evidenceClass latencies = .ok bytes ∧
        ∀ ceiling, latencies.length ≤ ceiling →
          decodeLatencies bytes evidenceClass latencies.length ceiling = .ok latencies) ∧
    (∀ (evidenceClass : EvidenceClass) (value : OperationSummaryEvidence) (bytes : Bytes),
      value.schema = "amg-http2-perf/operation-summary/v1" →
      encodeOperationRecord evidenceClass value = .ok bytes →
      decodeOperationSummary bytes evidenceClass = .ok value) ∧
    (∀ (bytes : Bytes) (evidenceClass : EvidenceClass) (count ceiling : ℕ) (latencies : List UInt64),
      bytes.length ≤ taskCapBytes → 1 ≤ count →
      decodeLatencies bytes evidenceClass count ceiling = .ok latencies →
      encodeLatencies evidenceClass latencies = .ok bytes) ∧
    (∀ (bytes : Bytes) (evidenceClass : EvidenceClass) (value : OperationSummaryEvidence),
      decodeOperationSummary bytes evidenceClass = .ok value →
      encodeOperationRecord evidenceClass value = .ok bytes) ∧
    (∀ (T : Type) (json : Json T) (bytes : Bytes) (kind : RecordKind) (evidenceClass : EvidenceClass)
      (value : T), bytes.length ≤ taskCapBytes →
      decodeRecord json bytes kind evidenceClass = .ok value →
      encodeRecord json kind evidenceClass value = .ok bytes) ∧
    (∀ (bytes : Bytes) (evidenceClass : EvidenceClass) (count ceiling : ℕ),
      decodeLatencies bytes evidenceClass count ceiling ≠ .error .panicked) ∧
    (∀ (bytes : Bytes) (evidenceClass : EvidenceClass),
      decodeOperationSummary bytes evidenceClass ≠ .error .panicked) ∧
    ∀ (T : Type) (json : Json T) (bytes : Bytes) (kind : RecordKind) (evidenceClass : EvidenceClass),
      decodeRecord json bytes kind evidenceClass ≠ .error .panicked := by
  refine ⟨?_, ?_, ?_, ?_, ?_, ?_, ?_, ?_⟩
  · intro evidenceClass latencies hclass hne hzero hcap
    refine ⟨_, encodeLatencies_eq_ok_iff.mpr ⟨hclass, hne, hzero, hcap, rfl⟩, fun ceiling hceiling => ?_⟩
    have hsize : latencies.length * 8 < 2 ^ 32 :=
      Nat.lt_of_le_of_lt (Nat.le_trans (Nat.le_add_left _ _) hcap) (by decide)
    exact decodeLatencies_eq_ok_iff.mpr ⟨hclass, hceiling, rfl, hsize, hzero, rfl⟩
  · intro evidenceClass value bytes hschema hencoded
    exact decodeOperationSummary_eq_ok_iff.mpr ⟨hschema, hencoded⟩
  · intro bytes evidenceClass count ceiling latencies hcap hcount hdecoded
    obtain ⟨hclass, -, rfl, -, hzero, rfl⟩ := decodeLatencies_eq_ok_iff.mp hdecoded
    rw [latencyFile, List.length_append, length_latencyHeader, length_latencyPayload] at hcap
    exact encodeLatencies_eq_ok_iff.mpr ⟨hclass, List.ne_nil_of_length_pos hcount, hzero, hcap, rfl⟩
  · intro bytes evidenceClass value hdecoded
    exact (decodeOperationSummary_eq_ok_iff.mp hdecoded).2
  · intro T json bytes kind evidenceClass value hcap hdecoded
    exact encodeRecord_of_decodeRecord hcap hdecoded
  · exact fun _ _ _ _ => safe_decodeLatencies
  · exact fun _ _ => safe_decodeRecordPayload.bind fun _ _ => safe_decodeOperationPayload
  · exact fun _ _ _ _ _ => safe_decodeRecord

theorem raw_codecs_exact_two_latencies :
    ∃ bytes, encodeLatencies .c [1500, 7] = .ok bytes ∧
      decodeLatencies bytes .c 2 10 = .ok [1500, 7] := by
  obtain ⟨bytes, hencoded, hdecoded⟩ :=
    raw_codecs_exact.1 .c [1500, 7] rfl (by decide) (by decide) (by decide)
  exact ⟨bytes, hencoded, hdecoded 10 (by decide)⟩

end AuthMiniGateway.Benchmark.RawCodec

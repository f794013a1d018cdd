import AuthMiniGateway.Benchmark.RawCodec
import AuthMiniGateway.Lib.Utf8

namespace AuthMiniGateway.Benchmark

theorem EvidenceClass.fromByte_eq_ok_iff {value : UInt8} {evidenceClass : EvidenceClass} :
    EvidenceClass.fromByte value = .ok evidenceClass ↔ value = evidenceClass.byte := by
  constructor
  · unfold EvidenceClass.fromByte
    split <;> rintro ⟨⟩ <;> rfl
  · rintro rfl
    cases evidenceClass <;> rfl

namespace RawCodec

open Slices LittleEndian Fallible

theorem RecordKind.fromByte_eq_ok_iff {value : UInt8} {kind : RecordKind} :
    RecordKind.fromByte value = .ok kind ↔ value = kind.byte := by
  constructor
  · unfold RecordKind.fromByte
    split <;> rintro ⟨⟩ <;> rfl
  · rintro rfl
    cases kind <;> rfl

/-! ### Steps of a decoder -/

section Steps

variable {α : Type} {condition : Bool} {reason : String} {u : Unit} {value : α}
  {result : Except String α} {left right product start stop width n : ℕ} {bytes : Bytes}

theorem ensure_eq_ok_iff : ensure condition reason = .ok u ↔ condition = true := by
  cases condition <;> simp [ensure, fail]

theorem raise_eq_ok_iff : raise result = .ok value ↔ result = .ok value := by
  cases result <;> simp [raise, fail]

theorem checkedMul_eq_ok_iff :
    checkedMul left right reason = .ok product ↔ left * right < 2 ^ 64 ∧ product = left * right := by
  unfold checkedMul
  split <;> simp_all [fail, eq_comm]

theorem readLe_eq_ok_iff :
    readLe bytes start stop width reason = .ok n ↔
      stop = start + width ∧ n < 256 ^ width ∧ Sits (toBytes width n) start bytes := by
  simp only [readLe, bind_eq_ok_iff, slice_eq_ok_iff, tryInto_eq_ok_iff]
  constructor
  · rintro ⟨part, ⟨hle, hlength, hsits⟩, _, ⟨hwidth, rfl⟩, ⟨⟩⟩
    rw [toBytes_ofBytes hwidth]
    exact ⟨by omega, hwidth ▸ ofBytes_lt part, hsits⟩
  · rintro ⟨rfl, hn, hsits⟩
    have hwidth := length_toBytes width n
    refine ⟨toBytes width n, ⟨by omega, by omega, hsits⟩, _, ⟨hwidth, rfl⟩, ?_⟩
    rw [ofBytes_toBytes hn]
    rfl

theorem safe_ensure : Safe (ensure condition reason) := by
  cases condition with
  | true => exact safe_ok
  | false => exact safe_error

theorem safe_raise : Safe (raise result) := by
  cases result with
  | ok => exact safe_ok
  | error => exact safe_error

theorem safe_checkedMul : Safe (checkedMul left right reason) := by
  unfold checkedMul
  split
  · exact safe_ok
  · exact safe_error

theorem safe_readLe (h : start ≤ stop ∧ stop ≤ bytes.length) :
    Safe (readLe bytes start stop width reason) :=
  (safe_slice h).bind fun _ _ => safe_tryInto.bind fun _ _ => safe_ok

end Steps

/-! ### Latencies -/

variable {bytes payload : Bytes} {evidenceClass : EvidenceClass} {latencies : List UInt64}
  {count ceiling : ℕ}

theorem length_latencyHeader (payloadLen : ℕ) (crc : BitVec 32) :
    (latencyHeader evidenceClass count payloadLen crc).length = latencyHeaderBytes := by
  simp [latencyHeader, latencyMagic, latencyHeaderBytes]

theorem length_latencyPayload : (latencyPayload latencies).length = latencies.length * 8 :=
  length_flatMap_uniform fun _ => length_toBytes 8 _

def latencyFile (evidenceClass : EvidenceClass) (latencies : List UInt64) : Bytes :=
  latencyHeader evidenceClass latencies.length (latencies.length * 8)
    (crc32 (latencyPayload latencies)) ++ latencyPayload latencies

theorem encodeLatencies_eq_ok_iff :
    encodeLatencies evidenceClass latencies = .ok bytes ↔
      evidenceClass.hasLatencies = true ∧ latencies ≠ [] ∧ 0 ∉ latencies ∧
        latencyHeaderBytes + latencies.length * 8 ≤ taskCapBytes ∧
        bytes = latencyFile evidenceClass latencies := by
  simp only [encodeLatencies, bind_eq_ok_iff, ensure_eq_ok_iff, raise_eq_ok_iff, checkedMul_eq_ok_iff,
    checkedAdd_eq_ok_iff]
  constructor
  · rintro ⟨-, hclass, -, hvalid, -, -, _, ⟨-, rfl⟩, -, -, _, ⟨rfl, -⟩, -, hcap, ⟨⟩⟩
    simp only [Bool.not_eq_true', Bool.or_eq_false_iff, List.isEmpty_eq_false_iff,
      List.contains_eq_mem, decide_eq_false_iff_not] at hvalid
    exact ⟨hclass, hvalid.1, hvalid.2, of_decide_eq_true hcap, rfl⟩
  · rintro ⟨hclass, hne, hzero, hcap, rfl⟩
    have hsize : latencies.length * 8 + 32 ≤ 536870912 := by
      rw [Nat.add_comm]
      exact hcap
    exact ⟨(), hclass, (), by simp [hne, hzero], (), decide_eq_true (by omega), _, ⟨by omega, rfl⟩, (),
      decide_eq_true (by omega), _, ⟨rfl, by simp only [latencyHeaderBytes]; omega⟩, (),
      decide_eq_true hcap, rfl⟩

theorem decodeLatency_eq_ok_iff {record : Bytes} {latency : UInt64} (hlength : record.length = 8) :
    decodeLatency record = .ok latency ↔ record = toBytes 8 latency.toNat ∧ latency ≠ 0 := by
  have hlt : ofBytes record < 2 ^ 64 := by simpa [hlength] using ofBytes_lt record
  simp only [decodeLatency, bind_eq_ok_iff, tryInto_eq_ok_iff, ensure_eq_ok_iff, bne_iff_ne]
  constructor
  · rintro ⟨_, ⟨-, rfl⟩, -, hzero, ⟨⟩⟩
    rw [UInt64.toNat_ofNat_of_lt' hlt, toBytes_ofBytes hlength]
    refine ⟨rfl, fun heq => hzero ?_⟩
    rw [← UInt64.toNat_ofNat_of_lt' hlt, heq]
    rfl
  · rintro ⟨rfl, hzero⟩
    have hread : ofBytes (toBytes 8 latency.toNat) = latency.toNat := ofBytes_toBytes latency.toNat_lt
    refine ⟨_, ⟨hlength, rfl⟩, (), ?_, ?_⟩
    · rw [hread]
      exact fun heq => hzero (UInt64.toNat_inj.mp heq)
    · rw [hread, UInt64.ofNat_toNat]
      rfl

theorem latencyFile_iff_sits :
    bytes = latencyFile evidenceClass latencies ↔
      (Sits latencyMagic 0 bytes ∧ Sits (toBytes 2 latencySchema) 8 bytes ∧
        Sits [evidenceClass.byte] 10 bytes ∧ Sits [latencyEndianLe] 11 bytes ∧
        Sits (toBytes 4 latencyRecordWidth) 12 bytes ∧ Sits (toBytes 8 latencies.length) 16 bytes ∧
        Sits (toBytes 4 (latencies.length * 8)) 24 bytes ∧
        Sits (toBytes 4 (crc32 (latencyPayload latencies)).toNat) 28 bytes) ∧
      Sits (latencyPayload latencies) latencyHeaderBytes bytes ∧
      bytes.length = latencyHeaderBytes + latencies.length * 8 := by
  rw [eq_iff_sits, latencyFile, sits_append_iff, List.length_append, length_latencyHeader,
    length_latencyPayload, and_assoc, Nat.zero_add]
  simp only [latencyHeader, sits_append_iff, length_toBytes, List.length_singleton,
    show latencyMagic.length = 8 from rfl, Nat.zero_add, Nat.reduceAdd]

theorem decodeLatencies_eq_ok_iff :
    decodeLatencies bytes evidenceClass count ceiling = .ok latencies ↔
      evidenceClass.hasLatencies = true ∧ count ≤ ceiling ∧ latencies.length = count ∧
        count * 8 < 2 ^ 32 ∧ 0 ∉ latencies ∧ bytes = latencyFile evidenceClass latencies := by
  have hrecords {payload : Bytes} (hlength : payload.length = count * 8) :
      (chunksExact 8 payload).mapM decodeLatency = .ok latencies ↔
        payload = latencyPayload latencies ∧ ∀ latency ∈ latencies, latency ≠ 0 :=
    mapM_chunksExact_eq_ok_iff (fun _ => length_toBytes 8 _) (fun _ _ => decodeLatency_eq_ok_iff)
      (by decide) hlength
  simp only [decodeLatencies, bind_eq_ok_iff, ensure_eq_ok_iff, raise_eq_ok_iff, checkedMul_eq_ok_iff,
    checkedAdd_eq_ok_iff, readLe_eq_ok_iff, slice_eq_ok_iff, index_eq_ok_iff, beq_iff_eq, Bool.and_eq_true,
    decide_eq_true_eq, EvidenceClass.fromByte_eq_ok_iff, latencyFile_iff_sits]
  constructor
  · rintro ⟨-, hclass, -, hheader, _, ⟨-, -, hmagic⟩, -, rfl, _, ⟨-, -, hschema⟩, _, hbyte, _, rfl, _, hendian,
      _, ⟨-, -, hwidth⟩, count, ⟨-, -, hcount⟩, _, ⟨-, hpayloadLen, hlen⟩, _, ⟨-, -, hcrc⟩, -,
      ⟨⟨⟨rfl, rfl⟩, rfl⟩, rfl⟩, -, ⟨rfl, hceiling⟩, _, ⟨-, rfl⟩, _, ⟨rfl, -⟩, -, ⟨rfl, hlength⟩, payload,
      ⟨-, hpayloadLength, hpayload⟩, -, rfl, hlatencies⟩
    have hpayloadLength' : payload.length = count * 8 := by
      rw [hpayloadLength, hlength, Nat.add_sub_cancel_left]
      rfl
    obtain ⟨rfl, hzero⟩ := (hrecords hpayloadLength').mp hlatencies
    obtain rfl : latencies.length = count := by
      rw [length_latencyPayload] at hpayloadLength'
      omega
    exact ⟨hclass, hceiling, rfl, hpayloadLen, fun hmem => hzero 0 hmem rfl,
      ⟨hmagic, hschema, hbyte, hendian, hwidth, hcount, hlen, hcrc⟩, hpayload, hlength⟩
  · rintro ⟨hclass, hceiling, rfl, hsize, hzero, ⟨hmagic, hschema, hbyte, hendian, hwidth, hcount, hlen, hcrc⟩,
      hpayload, hlength⟩
    have hheader : latencyHeaderBytes = 32 := rfl
    have hproduct : latencies.length * latencyRecordWidth < 2 ^ 64 := Nat.lt_trans hsize (by decide)
    have hcrcLt : (crc32 (latencyPayload latencies)).toNat < 256 ^ 4 := BitVec.isLt _
    have hpayloadLength : (latencyPayload latencies).length = bytes.length - latencyHeaderBytes := by
      rw [length_latencyPayload, hlength, Nat.add_sub_cancel_left]
    have hlatencies := (hrecords length_latencyPayload).mpr
      ⟨rfl, fun latency hmem heq => hzero (heq ▸ hmem)⟩
    exact ⟨(), hclass, (), by omega, _, ⟨by omega, rfl, hmagic⟩, (), rfl, _, ⟨trivial, by decide, hschema⟩, _,
      hbyte, _, rfl, _, hendian, _, ⟨trivial, by decide, hwidth⟩, _, ⟨trivial, by omega, hcount⟩, _,
      ⟨trivial, hsize, hlen⟩, _, ⟨trivial, hcrcLt, hcrc⟩, (), ⟨⟨⟨rfl, rfl⟩, rfl⟩, rfl⟩, (), ⟨rfl, hceiling⟩, _,
      ⟨hproduct, rfl⟩, _, ⟨rfl, by omega⟩, (), ⟨rfl, hlength⟩, _, ⟨by omega, hpayloadLength, hpayload⟩, (), rfl,
      hlatencies⟩

theorem safe_decodeLatencies : Safe (decodeLatencies bytes evidenceClass count ceiling) := by
  unfold decodeLatencies
  refine safe_ensure.bind fun _ _ => safe_ensure.bind fun _ hheader => ?_
  have hlength : 32 ≤ bytes.length := of_decide_eq_true (ensure_eq_ok_iff.mp hheader)
  refine (safe_slice (by omega)).bind fun _ _ => safe_ensure.bind fun _ _ => ?_
  refine (safe_readLe (by omega)).bind fun _ _ => ?_
  refine (safe_index (by omega)).bind fun _ _ => safe_raise.bind fun _ _ => ?_
  refine (safe_index (by omega)).bind fun _ _ => ?_
  refine (safe_readLe (by omega)).bind fun _ _ => (safe_readLe (by omega)).bind fun _ _ => ?_
  refine (safe_readLe (by omega)).bind fun _ _ => (safe_readLe (by omega)).bind fun _ _ => ?_
  refine safe_ensure.bind fun _ _ => safe_ensure.bind fun _ _ => safe_checkedMul.bind fun _ _ => ?_
  refine safe_raise.bind fun _ _ => safe_ensure.bind fun _ _ => ?_
  refine (safe_slice ⟨hlength, Nat.le_refl _⟩).bind fun _ _ => safe_ensure.bind fun _ _ => ?_
  refine safe_mapM fun _ _ => ?_
  exact safe_tryInto.bind fun _ _ => safe_ensure.bind fun _ _ => safe_ok

/-! ### Records -/

variable {kind : RecordKind}

theorem length_recordHeader (payloadLen : ℕ) (crc : BitVec 32) :
    (recordHeader kind evidenceClass payloadLen crc).length = recordHeaderBytes := by
  simp [recordHeader, recordMagic, recordHeaderBytes]

def recordFile (kind : RecordKind) (evidenceClass : EvidenceClass) (payload : Bytes) : Bytes :=
  recordHeader kind evidenceClass payload.length (crc32 payload) ++ payload

theorem encodeRecordPayload_eq_ok_iff :
    encodeRecordPayload kind evidenceClass payload = .ok bytes ↔
      recordHeaderBytes + payload.length < 2 ^ 64 ∧ bytes = recordFile kind evidenceClass payload := by
  simp only [encodeRecordPayload, bind_eq_ok_iff, ensure_eq_ok_iff, raise_eq_ok_iff, checkedAdd_eq_ok_iff,
    decide_eq_true_eq]
  constructor
  · rintro ⟨-, -, _, ⟨-, hsize⟩, ⟨⟩⟩
    exact ⟨hsize, rfl⟩
  · rintro ⟨hsize, rfl⟩
    exact ⟨(), by omega, _, ⟨rfl, hsize⟩, rfl⟩

theorem recordFile_iff_sits :
    bytes = recordFile kind evidenceClass payload ↔
      (Sits recordMagic 0 bytes ∧ Sits (toBytes 2 recordSchema) 8 bytes ∧ Sits [kind.byte] 10 bytes ∧
        Sits [evidenceClass.byte] 11 bytes ∧ Sits (toBytes 8 payload.length) 12 bytes ∧
        Sits (toBytes 4 (crc32 payload).toNat) 20 bytes ∧ Sits (List.replicate 8 0) 24 bytes) ∧
      Sits payload recordHeaderBytes bytes ∧ bytes.length = recordHeaderBytes + payload.length := by
  rw [eq_iff_sits, recordFile, sits_append_iff, List.length_append, length_recordHeader, and_assoc,
    Nat.zero_add]
  simp only [recordHeader, sits_append_iff, length_toBytes, List.length_singleton,
    show recordMagic.length = 8 from rfl, Nat.zero_add, Nat.reduceAdd]

theorem decodeRecordPayload_eq_ok_iff :
    decodeRecordPayload bytes kind evidenceClass = .ok payload ↔
      recordHeaderBytes + payload.length < 2 ^ 64 ∧ bytes = recordFile kind evidenceClass payload := by
  simp only [decodeRecordPayload, bind_eq_ok_iff, ensure_eq_ok_iff, raise_eq_ok_iff, checkedAdd_eq_ok_iff,
    readLe_eq_ok_iff, slice_eq_ok_iff, index_eq_ok_iff, beq_iff_eq, Bool.and_eq_true, decide_eq_true_eq,
    EvidenceClass.fromByte_eq_ok_iff, RecordKind.fromByte_eq_ok_iff, recordFile_iff_sits]
  have hheader : recordHeaderBytes = 32 := rfl
  constructor
  · rintro ⟨-, -, _, ⟨-, -, hmagic⟩, -, rfl, _, ⟨-, -, hschema⟩, _, hkind, _, rfl, _, hclass, _, rfl, n,
      ⟨-, -, hlen⟩, _, ⟨-, -, hcrc⟩, _, ⟨-, -, hreserved⟩, -, ⟨⟨⟨rfl, rfl⟩, rfl⟩, rfl⟩, _, ⟨rfl, hsize⟩, -,
      hlength, _, ⟨-, hpayloadLength, hpayload⟩, -, rfl, ⟨⟩⟩
    obtain rfl : n = payload.length := by omega
    exact ⟨hsize, ⟨hmagic, hschema, hkind, hclass, hlen, hcrc, hreserved⟩, hpayload, hlength⟩
  · rintro ⟨hsize, ⟨hmagic, hschema, hkind, hclass, hlen, hcrc, hreserved⟩, hpayload, hlength⟩
    have hcrcLt : (crc32 payload).toNat < 256 ^ 4 := BitVec.isLt _
    exact ⟨(), by omega, _, ⟨by omega, rfl, hmagic⟩, (), rfl, _, ⟨trivial, by decide, hschema⟩, _, hkind, _,
      rfl, _, hclass, _, rfl, _, ⟨trivial, by omega, hlen⟩, _, ⟨trivial, hcrcLt, hcrc⟩, _,
      ⟨by omega, rfl, hreserved⟩, (), ⟨⟨⟨rfl, rfl⟩, rfl⟩, rfl⟩, _, ⟨rfl, hsize⟩, (), hlength, _,
      ⟨by omega, by omega, hpayload⟩, (), rfl, rfl⟩

theorem safe_decodeRecordPayload : Safe (decodeRecordPayload bytes kind evidenceClass) := by
  unfold decodeRecordPayload
  refine safe_ensure.bind fun _ hheader => ?_
  have hlength : 32 ≤ bytes.length := of_decide_eq_true (ensure_eq_ok_iff.mp hheader)
  refine (safe_slice (by omega)).bind fun _ _ => safe_ensure.bind fun _ _ => ?_
  refine (safe_readLe (by omega)).bind fun _ _ => ?_
  refine (safe_index (by omega)).bind fun _ _ => safe_raise.bind fun _ _ => ?_
  refine (safe_index (by omega)).bind fun _ _ => safe_raise.bind fun _ _ => ?_
  refine (safe_readLe (by omega)).bind fun _ _ => (safe_readLe (by omega)).bind fun _ _ => ?_
  refine (safe_slice (by omega)).bind fun _ _ => safe_ensure.bind fun _ _ => ?_
  refine safe_raise.bind fun _ _ => safe_ensure.bind fun _ _ => ?_
  refine (safe_slice ⟨hlength, Nat.le_refl _⟩).bind fun _ _ => ?_
  exact safe_ensure.bind fun _ _ => safe_ok

theorem safe_decodeRecord {T : Type} {json : Json T} : Safe (decodeRecord json bytes kind evidenceClass) :=
  safe_decodeRecordPayload.bind fun _ _ => safe_raise

theorem encodeRecord_of_decodeRecord {T : Type} {json : Json T} {value : T}
    (hcap : bytes.length ≤ taskCapBytes)
    (h : decodeRecord json bytes kind evidenceClass = .ok value) :
    encodeRecord json kind evidenceClass value = .ok bytes := by
  simp only [decodeRecord, Json.requireCanonical, bind_eq_ok_iff, raise_eq_ok_iff, require_eq_ok_iff,
    beq_iff_eq] at h
  obtain ⟨payload, hpayload, _, -, _, hcanonical, -, rfl, ⟨⟩⟩ := h
  obtain ⟨hsize, rfl⟩ := decodeRecordPayload_eq_ok_iff.mp hpayload
  simp only [encodeRecord, bind_eq_ok_iff, raise_eq_ok_iff, ensure_eq_ok_iff, decide_eq_true_eq]
  refine ⟨_, hcanonical, (), ?_, encodeRecordPayload_eq_ok_iff.mpr ⟨hsize, rfl⟩⟩
  rw [recordFile, List.length_append, length_recordHeader] at hcap
  omega

end RawCodec

end AuthMiniGateway.Benchmark

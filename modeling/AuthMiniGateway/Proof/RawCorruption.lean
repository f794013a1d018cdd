import AuthMiniGateway.Lib.Crc
import AuthMiniGateway.Proof.OperationSummaries

namespace AuthMiniGateway.Benchmark.RawCodec

open Slices LittleEndian Fallible

/-! ### The checksum -/

def byteBits (byte : UInt8) : List Bool := (List.range 8).map byte.toBitVec.getLsbD

def bits (bytes : Bytes) : List Bool := bytes.flatMap byteBits

def crcPolynomial : BitVec 32 := 0xedb88320#32

theorem crcShift_eq_step : crcShift = Crc.step crcPolynomial := by
  funext crc
  rw [crcShift, Crc.step, BitVec.and_one_eq_setWidth_ofBool_getLsbD, crcPolynomial]
  cases crc.getLsbD 0 <;> rfl

theorem load_byteBits (byte : UInt8) : Crc.load 32 (byteBits byte) = byte.toBitVec.setWidth 32 := by
  apply BitVec.eq_of_getLsbD_eq
  intro i hi
  rw [Crc.getLsbD_load, BitVec.getLsbD_setWidth, byteBits]
  by_cases hbyte : i < 8
  · simp [hbyte]
  · have hnone : byte.toBitVec.getLsbD i = false := BitVec.getLsbD_of_ge _ _ (by omega)
    simp [hbyte, hnone]

theorem crcByte_eq_foldl (crc : BitVec 32) (byte : UInt8) :
    crcByte crc byte = (byteBits byte).foldl (Crc.feed crcPolynomial) crc := by
  have hlength : (byteBits byte).length = 8 := rfl
  rw [Crc.foldl_feed_eq _ (by rw [hlength]; decide), load_byteBits, hlength, crcByte, crcShift_eq_step]

theorem crc32_eq_foldl (bytes : Bytes) :
    crc32 bytes = ~~~((bits bytes).foldl (Crc.feed crcPolynomial) 0xffffffff#32) := by
  have hbyte : crcByte = fun crc byte => (byteBits byte).foldl (Crc.feed crcPolynomial) crc := by
    funext crc byte
    exact crcByte_eq_foldl crc byte
  rw [crc32, hbyte, bits, List.foldl_flatMap]

/-! ### Changed files -/

/-- What happens to a file: its header changes, or up to 32 consecutive bits behind the header, or it
is cut or continued. -/
inductive Corrupts (headerBytes : ℕ) (file changed : Bytes) : Prop
  | header (hlength : changed.length = file.length)
      (hpayload : changed.drop headerBytes = file.drop headerBytes) (hne : changed ≠ file)
  | payload {before first second after : List Bool}
      (hheader : changed.take headerBytes = file.take headerBytes)
      (hfile : bits (file.drop headerBytes) = before ++ first ++ after)
      (hchanged : bits (changed.drop headerBytes) = before ++ second ++ after)
      (hlength : first.length = second.length) (hwindow : first.length ≤ 32) (hne : first ≠ second)
  | truncated (hbegins : changed <+: file) (hne : changed ≠ file)
  | extended (hbegins : file <+: changed) (hne : changed ≠ file)

theorem take_eq_of_prefix (size : ℕ) {first second : Bytes} (hbegins : first <+: second)
    (hsize : size ≤ first.length) : first.take size = second.take size := by
  rw [List.prefix_iff_eq_take.mp hbegins, List.take_take, Nat.min_eq_left hsize]

/-- No change takes a file to another one whose header tells the payload as well. -/
theorem Corrupts.false {size : ℕ} {header payload header' payload' : Bytes}
    (hheader : header.length = size) (hheader' : header'.length = size)
    (hsame : header' = header → payload'.length = payload.length ∧ crc32 payload' = crc32 payload)
    (hfixed : payload' = payload → header' = header) :
    ¬ Corrupts size (header ++ payload) (header' ++ payload') := by
  intro h
  have htake : (header ++ payload).take size = header := by rw [← hheader, List.take_left]
  have htake' : (header' ++ payload').take size = header' := by rw [← hheader', List.take_left]
  have hdrop : (header ++ payload).drop size = payload := by rw [← hheader, List.drop_left]
  have hdrop' : (header' ++ payload').drop size = payload' := by rw [← hheader', List.drop_left]
  have hlengths (heq : header' = header) : (header' ++ payload').length = (header ++ payload).length := by
    rw [List.length_append, List.length_append, heq, (hsame heq).1]
  cases h with
  | header _ hpayload hne =>
    rw [hdrop, hdrop'] at hpayload
    exact hne (by rw [hpayload, hfixed hpayload])
  | payload hsameHeader hfile hchanged hlength hwindow hne =>
    rw [htake, htake'] at hsameHeader
    rw [hdrop] at hfile
    rw [hdrop'] at hchanged
    have hcrc := (hsame hsameHeader).2
    rw [crc32_eq_foldl, crc32_eq_foldl, BitVec.not_inj, hfile, hchanged] at hcrc
    exact Crc.foldl_feed_ne crcPolynomial (by decide) hlength hwindow hne _ hcrc.symm
  | truncated hbegins hne =>
    have heq := take_eq_of_prefix size hbegins (by rw [List.length_append]; omega)
    rw [htake, htake'] at heq
    exact hne (hbegins.eq_of_length (hlengths heq))
  | extended hbegins hne =>
    have heq := take_eq_of_prefix size hbegins (by rw [List.length_append]; omega)
    rw [htake, htake'] at heq
    exact hne (hbegins.eq_of_length (hlengths heq.symm).symm).symm

variable {evidenceClass : EvidenceClass} {file changed : Bytes}

theorem crc_injective {first second : BitVec 32}
    (h : toBytes 4 first.toNat = toBytes 4 second.toNat) : first = second :=
  BitVec.eq_of_toNat_eq (toBytes_injective first.isLt second.isLt h)

theorem decodeLatencies_corrupted {latencies result : List UInt64} {ceiling : ℕ}
    (hfile : encodeLatencies evidenceClass latencies = .ok file)
    (hchanged : Corrupts latencyHeaderBytes file changed) :
    decodeLatencies changed evidenceClass latencies.length ceiling ≠ .ok result := by
  intro hdecoded
  obtain ⟨-, -, -, -, rfl⟩ := encodeLatencies_eq_ok_iff.mp hfile
  obtain ⟨-, -, hcount, -, -, rfl⟩ := decodeLatencies_eq_ok_iff.mp hdecoded
  refine Corrupts.false (length_latencyHeader _ _) (length_latencyHeader _ _) ?_ ?_ hchanged
  · intro hheader
    refine ⟨by rw [length_latencyPayload, length_latencyPayload, hcount], crc_injective ?_⟩
    rw [hcount] at hheader
    simpa [latencyHeader] using hheader
  · intro hpayload
    rw [hcount, hpayload]

theorem decodeRecordPayload_corrupted {kind : RecordKind} {payload result : Bytes}
    (hfile : encodeRecordPayload kind evidenceClass payload = .ok file)
    (hchanged : Corrupts recordHeaderBytes file changed) :
    decodeRecordPayload changed kind evidenceClass ≠ .ok result := by
  intro hdecoded
  obtain ⟨hsize, rfl⟩ := encodeRecordPayload_eq_ok_iff.mp hfile
  obtain ⟨hsize', rfl⟩ := decodeRecordPayload_eq_ok_iff.mp hdecoded
  refine Corrupts.false (length_recordHeader _ _) (length_recordHeader _ _) ?_ ?_ hchanged
  · intro hheader
    simp only [recordHeader, List.append_cancel_left_eq] at hheader
    obtain ⟨hlength, hrest⟩ := List.append_inj hheader (by simp)
    obtain ⟨hcrc, -⟩ := List.append_inj hrest (by simp)
    exact ⟨toBytes_injective (by omega) (by omega) hlength, crc_injective hcrc⟩
  · intro hpayload
    rw [hpayload]

/-- A decoder that does not panic and returns no value returns an error. -/
theorem fails_of_safe {α : Type} {outcome : Outcome α} (hsafe : Safe outcome)
    (hnone : ∀ value, outcome ≠ .ok value) : ∃ reason, outcome = .error (.error reason) := by
  cases outcome with
  | ok value => exact absurd rfl (hnone value)
  | error fault =>
    cases fault with
    | error reason => exact ⟨reason, rfl⟩
    | panicked => exact absurd rfl hsafe

/-- **Corruption is found.** A latency file or a record file that is changed in its header, in up to 32
consecutive bits of its payload or in its length is refused by the decoder that accepts the original. -/
theorem corrupted_files_refused :
    (∀ (evidenceClass : EvidenceClass) (latencies : List UInt64) (file changed : Bytes) (ceiling : ℕ),
      encodeLatencies evidenceClass latencies = .ok file → Corrupts latencyHeaderBytes file changed →
      ∃ reason, decodeLatencies changed evidenceClass latencies.length ceiling =
        .error (.error reason)) ∧
    (∀ (T : Type) (json : Json T) (kind : RecordKind) (evidenceClass : EvidenceClass) (value : T)
      (file changed : Bytes), encodeRecord json kind evidenceClass value = .ok file →
      Corrupts recordHeaderBytes file changed →
      ∃ reason, decodeRecord json changed kind evidenceClass = .error (.error reason)) ∧
    ∀ (evidenceClass : EvidenceClass) (value : OperationSummaryEvidence) (file changed : Bytes),
      encodeOperationRecord evidenceClass value = .ok file → Corrupts recordHeaderBytes file changed →
      ∃ reason, decodeOperationSummary changed evidenceClass = .error (.error reason) := by
  refine ⟨?_, ?_, ?_⟩
  · intro evidenceClass latencies file changed ceiling hfile hchanged
    exact fails_of_safe safe_decodeLatencies fun result => decodeLatencies_corrupted hfile hchanged
  · intro T json kind evidenceClass value file changed hfile hchanged
    refine fails_of_safe safe_decodeRecord fun result hdecoded => ?_
    obtain ⟨payload, -, hrest⟩ := bind_eq_ok_iff.mp hfile
    obtain ⟨-, -, hfile⟩ := bind_eq_ok_iff.mp hrest
    obtain ⟨other, hdecoded, -⟩ := bind_eq_ok_iff.mp hdecoded
    exact decodeRecordPayload_corrupted hfile hchanged hdecoded
  · intro evidenceClass value file changed hfile hchanged
    refine fails_of_safe (safe_decodeRecordPayload.bind fun _ _ => safe_decodeOperationPayload)
      fun result hdecoded => ?_
    obtain ⟨payload, -, hfile⟩ := bind_eq_ok_iff.mp hfile
    obtain ⟨other, hdecoded, -⟩ := bind_eq_ok_iff.mp hdecoded
    exact decodeRecordPayload_corrupted hfile hchanged hdecoded

theorem corrupted_files_refused_extended :
    ∃ file, encodeLatencies .a [1500] = .ok file ∧
      ∃ reason, decodeLatencies (file ++ [0]) .a 1 1 = .error (.error reason) := by
  have hfile : encodeLatencies .a [1500] = .ok (latencyFile .a [1500]) :=
    encodeLatencies_eq_ok_iff.mpr ⟨rfl, by decide, by decide, by decide, rfl⟩
  have hchanged : Corrupts latencyHeaderBytes (latencyFile .a [1500]) (latencyFile .a [1500] ++ [0]) :=
    .extended (List.prefix_append _ _) (by simp)
  exact ⟨_, hfile, corrupted_files_refused.1 .a [1500] _ _ 1 hfile hchanged⟩

end AuthMiniGateway.Benchmark.RawCodec

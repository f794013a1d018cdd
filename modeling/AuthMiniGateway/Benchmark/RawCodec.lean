import AuthMiniGateway.Lib.LittleEndian
import AuthMiniGateway.Lib.Slices
import AuthMiniGateway.Benchmark.ArmPlan
import AuthMiniGateway.Benchmark.DeliveryBytes

/-!
# The raw evidence formats

A slice out of bounds is a panic, kept apart from the errors that the functions return. The encoders put the
bytes where they end up. `usize` has 64 bits. How a value is written as JSON and parsed is a parameter.
-/

namespace AuthMiniGateway.Benchmark.RawCodec

open Slices LittleEndian

abbrev Outcome (α : Type) := Except (Fault String) α

def fail {α : Type} (reason : String) : Outcome α := .error (.error reason)

def ensure (condition : Bool) (reason : String) : Outcome Unit :=
  if condition then .ok () else fail reason

def raise {α : Type} : Except String α → Outcome α
  | .ok value => .ok value
  | .error reason => fail reason

def checkedMul (left right : ℕ) (reason : String) : Outcome ℕ :=
  if left * right < 2 ^ 64 then .ok (left * right) else fail reason

/-- `from_le_bytes` of a slice, whose `try_into` fails where the slice has another length. -/
def readLe (bytes : Bytes) (start stop width : ℕ) (reason : String) : Outcome ℕ := do
  let part ← slice bytes start stop
  let part ← tryInto width part reason
  pure (ofBytes part)

/-! ### The checksum -/

/-- The step of `crc32` for one bit. -/
def crcShift (crc : BitVec 32) : BitVec 32 :=
  let mask := 0#32 - (crc &&& 1#32)
  (crc >>> 1) ^^^ (0xedb88320#32 &&& mask)

def crcByte (crc : BitVec 32) (byte : UInt8) : BitVec 32 :=
  crcShift^[8] (crc ^^^ byte.toBitVec.setWidth 32)

def crc32 (bytes : Bytes) : BitVec 32 := ~~~(bytes.foldl crcByte 0xffffffff#32)

/-! ### Classes and kinds -/

end RawCodec

namespace EvidenceClass

def hasLatencies : EvidenceClass → Bool
  | .c | .a => true
  | .s | .d => false

def byte : EvidenceClass → UInt8
  | .s => 83
  | .c => 67
  | .d => 68
  | .a => 65

def fromByte (value : UInt8) : Except String EvidenceClass :=
  match value with
  | 83 => .ok .s
  | 67 => .ok .c
  | 68 => .ok .d
  | 65 => .ok .a
  | _ => .error ("invalid evidence class byte " ++ toString value.toNat)

end EvidenceClass

namespace RawCodec

open Slices LittleEndian

inductive RecordKind where
  | threadLifecycle
  | sessionClock
  | resources
  | endpoints
  | operationSummary
  deriving DecidableEq, Repr

namespace RecordKind

def byte : RecordKind → UInt8
  | .threadLifecycle => 1
  | .sessionClock => 2
  | .resources => 3
  | .endpoints => 4
  | .operationSummary => 5

def fromByte (value : UInt8) : Except String RecordKind :=
  match value with
  | 1 => .ok .threadLifecycle
  | 2 => .ok .sessionClock
  | 3 => .ok .resources
  | 4 => .ok .endpoints
  | 5 => .ok .operationSummary
  | _ => .error ("unknown raw record kind " ++ toString value.toNat)

end RecordKind

/-! ### Latency files -/

def latencyMagic : Bytes := [65, 77, 71, 76, 65, 84, 48, 49]
def latencySchema : ℕ := 1
def latencyEndianLe : UInt8 := 1
def latencyRecordWidth : ℕ := 8
def latencyHeaderBytes : ℕ := 32

def latencyHeader (evidenceClass : EvidenceClass) (count payloadLen : ℕ) (crc : BitVec 32) : Bytes :=
  latencyMagic ++ (toBytes 2 latencySchema ++ ([evidenceClass.byte] ++ ([latencyEndianLe] ++
    (toBytes 4 latencyRecordWidth ++ (toBytes 8 count ++ (toBytes 4 payloadLen ++
      toBytes 4 crc.toNat))))))

def latencyPayload (latencies : List UInt64) : Bytes :=
  latencies.flatMap fun latency => toBytes 8 latency.toNat

def encodeLatencies (evidenceClass : EvidenceClass) (latencies : List UInt64) : Outcome Bytes := do
  ensure evidenceClass.hasLatencies "S/D evidence forbids a latency payload"
  ensure (!(latencies.isEmpty || latencies.contains 0))
    "C/A latency payload records must be nonzero"
  ensure (latencies.length < 2 ^ 64) "latency count does not fit u64"
  let payloadLen ← checkedMul latencies.length 8 "latency payload length overflow"
  ensure (payloadLen < 2 ^ 32) "latency payload exceeds u32"
  let totalLen ← raise (checkedAdd latencyHeaderBytes payloadLen "latency file length overflow")
  ensure (totalLen ≤ taskCapBytes) "latency file exceeds the raw preallocation limit"
  let payload := latencyPayload latencies
  pure (latencyHeader evidenceClass latencies.length payloadLen (crc32 payload) ++ payload)

def decodeLatency (record : Bytes) : Outcome UInt64 := do
  let record ← tryInto 8 record "truncated latency record"
  let latency := ofBytes record
  ensure (latency != 0) "zero latency record is invalid"
  pure (UInt64.ofNat latency)

def decodeLatencies (bytes : Bytes) (expectedClass : EvidenceClass) (expectedCount ceiling : ℕ) :
    Outcome (List UInt64) := do
  ensure expectedClass.hasLatencies "S/D evidence may not decode a latency member"
  ensure (latencyHeaderBytes ≤ bytes.length) "latency header is truncated or has the wrong magic"
  let magic ← slice bytes 0 8
  ensure (magic == latencyMagic) "latency header is truncated or has the wrong magic"
  let schema ← readLe bytes 8 10 2 "latency schema field is truncated"
  let evidenceClass ← raise (EvidenceClass.fromByte (← index bytes 10))
  let endian ← index bytes 11
  let width ← readLe bytes 12 16 4 "latency width field is truncated"
  let count ← readLe bytes 16 24 8 "latency count field is truncated"
  let payloadLen ← readLe bytes 24 28 4 "latency length field is truncated"
  let expectedCrc ← readLe bytes 28 32 4 "latency CRC field is truncated"
  ensure (schema == latencySchema && evidenceClass == expectedClass && endian == latencyEndianLe &&
    width == latencyRecordWidth) "latency schema/class/endian/width mismatch"
  ensure (count == expectedCount && count ≤ ceiling)
    "latency record count mismatch or ceiling overflow"
  let expectedPayload ← checkedMul count latencyRecordWidth "latency payload calculation overflow"
  let totalLen ← raise (checkedAdd latencyHeaderBytes payloadLen "latency total length overflow")
  ensure (payloadLen == expectedPayload && bytes.length == totalLen)
    "latency payload length/count mismatch"
  let payload ← slice bytes latencyHeaderBytes bytes.length
  ensure ((crc32 payload).toNat == expectedCrc) "latency payload CRC mismatch"
  (chunksExact 8 payload).mapM decodeLatency

/-! ### Record files -/

def recordMagic : Bytes := [65, 77, 71, 82, 65, 87, 48, 49]
def recordSchema : ℕ := 1
def recordHeaderBytes : ℕ := 32

def recordHeader (kind : RecordKind) (evidenceClass : EvidenceClass) (payloadLen : ℕ)
    (crc : BitVec 32) : Bytes :=
  recordMagic ++ (toBytes 2 recordSchema ++ ([kind.byte] ++ ([evidenceClass.byte] ++
    (toBytes 8 payloadLen ++ (toBytes 4 crc.toNat ++ List.replicate 8 0)))))

def encodeRecordPayload (kind : RecordKind) (evidenceClass : EvidenceClass) (payload : Bytes) :
    Outcome Bytes := do
  ensure (payload.length < 2 ^ 64) "raw record payload length overflow"
  let _ ← raise (checkedAdd recordHeaderBytes payload.length "raw record total length overflow")
  pure (recordHeader kind evidenceClass payload.length (crc32 payload) ++ payload)

def decodeRecordPayload (bytes : Bytes) (expectedKind : RecordKind)
    (expectedClass : EvidenceClass) : Outcome Bytes := do
  ensure (recordHeaderBytes ≤ bytes.length) "raw record has a truncated or wrong header"
  let magic ← slice bytes 0 8
  ensure (magic == recordMagic) "raw record has a truncated or wrong header"
  let schema ← readLe bytes 8 10 2 "raw record schema is truncated"
  let kind ← raise (RecordKind.fromByte (← index bytes 10))
  let evidenceClass ← raise (EvidenceClass.fromByte (← index bytes 11))
  let payloadLen ← readLe bytes 12 20 8 "raw record length is truncated"
  let expectedCrc ← readLe bytes 20 24 4 "raw record CRC is truncated"
  let reserved ← slice bytes 24 32
  ensure (schema == recordSchema && kind == expectedKind && evidenceClass == expectedClass &&
    reserved == List.replicate 8 0) "raw record schema/kind/class/reserved mismatch"
  let expectedLen ← raise (checkedAdd recordHeaderBytes payloadLen "raw record total length overflow")
  ensure (bytes.length == expectedLen) "raw record length or CRC mismatch"
  let payload ← slice bytes recordHeaderBytes bytes.length
  ensure ((crc32 payload).toNat == expectedCrc) "raw record length or CRC mismatch"
  pure payload

structure Json (T : Type) where
  canonicalBytes : T → Except String Bytes
  fromSliceStrict : Bytes → Except String T

def Json.requireCanonical {T : Type} (json : Json T) (bytes : Bytes) : Except String T := do
  let value ← json.fromSliceStrict bytes
  let canonical ← json.canonicalBytes value
  require (canonical == bytes) "JSON is not in canonical sorted form"
  pure value

def encodeRecord {T : Type} (json : Json T) (kind : RecordKind)
    (evidenceClass : EvidenceClass) (value : T) : Outcome Bytes := do
  let payload ← raise (json.canonicalBytes value)
  ensure (payload.length ≤ taskCapBytes - recordHeaderBytes)
    "raw record payload exceeds its preallocation limit"
  encodeRecordPayload kind evidenceClass payload

def decodeRecord {T : Type} (json : Json T) (bytes : Bytes) (expectedKind : RecordKind)
    (expectedClass : EvidenceClass) : Outcome T := do
  let payload ← decodeRecordPayload bytes expectedKind expectedClass
  raise (json.requireCanonical payload)

end AuthMiniGateway.Benchmark.RawCodec

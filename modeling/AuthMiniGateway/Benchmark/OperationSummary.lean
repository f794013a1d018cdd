import AuthMiniGateway.Benchmark.RawCodec

namespace AuthMiniGateway.Benchmark.RawCodec

open Slices LittleEndian

def operationBasePayloadBytes : ℕ := 192
def operationLaneRecordBytes : ℕ := 24

structure OperationSummaryEvidence where
  schema : String
  windowStartNs : UInt64
  deadlineNs : UInt64
  drainEndNs : UInt64
  startedOperations : UInt64
  deadlineCompletions : UInt64
  drainedOperations : UInt64
  requestBytes : UInt64
  responseBytes : UInt64
  firstOperationId : String
  lastOperationId : String
  operationHashSha256 : Digest
  exactStatus : Bool
  exactVersion : Bool
  exactPayload : Bool
  exactEos : Bool
  sseContentType : Bool
  hiddenRetryCount : UInt64
  laneQuotas : List UInt64
  laneStarts : List UInt64
  laneCompletions : List UInt64
  deriving DecidableEq

/-! ### Hashes -/

def hexNibble (value : UInt8) : Except String UInt8 :=
  if 48 ≤ value && value ≤ 57 then .ok (value - 48)
  else if 97 ≤ value && value ≤ 102 then .ok (value - 97 + 10)
  else .error "invalid lowercase hexadecimal digit"

def decodePair (pair : Bytes) : Outcome UInt8 := do
  let high ← raise (hexNibble (← index pair 0))
  let low ← raise (hexNibble (← index pair 1))
  pure ((high <<< 4) ||| low)

/-- The source fills an array of 32 bytes, as many as the digits have pairs. -/
def decodeHash (value : Digest) : Outcome Bytes := do
  raise (validateSha256 "raw hash" value)
  (chunksExact 2 (utf8 value)).mapM decodePair

def hexDigit (nibble : UInt8) : UInt8 := if nibble < 10 then 48 + nibble else 87 + nibble

def hexPair (byte : UInt8) : Bytes := [hexDigit (byte >>> 4), hexDigit (byte &&& 15)]

def hexLower (bytes : Bytes) : String :=
  String.ofList ((bytes.flatMap hexPair).map fun digit => Char.ofNat digit.toNat)

/-! ### Writing -/

namespace OperationSummaryEvidence

def numbers (value : OperationSummaryEvidence) : List UInt64 :=
  [value.windowStartNs, value.deadlineNs, value.drainEndNs, value.startedOperations,
    value.deadlineCompletions, value.drainedOperations, value.requestBytes, value.responseBytes,
    value.hiddenRetryCount]

def flags (value : OperationSummaryEvidence) : UInt8 :=
  value.exactStatus.toUInt8 ||| (value.exactVersion.toUInt8 <<< 1) |||
    (value.exactPayload.toUInt8 <<< 2) ||| (value.exactEos.toUInt8 <<< 3) |||
    (value.sseContentType.toUInt8 <<< 4)

def lanes (value : OperationSummaryEvidence) : List ((UInt64 × UInt64) × UInt64) :=
  (value.laneQuotas.zip value.laneStarts).zip value.laneCompletions

end OperationSummaryEvidence

def numberBytes (number : UInt64) : Bytes := toBytes 8 number.toNat

def laneRecord (lane : (UInt64 × UInt64) × UInt64) : Bytes :=
  numberBytes lane.1.1 ++ (numberBytes lane.1.2 ++ numberBytes lane.2)

/-- An identifier and the zeros up to 32 bytes. -/
def operationId (text : String) : Bytes :=
  utf8 text ++ List.replicate (32 - (utf8 text).length) 0

def operationPayload (value : OperationSummaryEvidence) (hash : Bytes) : Bytes :=
  value.numbers.flatMap numberBytes ++ ([value.flags] ++
    (toBytes 2 (utf8 value.firstOperationId).length ++ (toBytes 2 (utf8 value.lastOperationId).length ++
      (hash ++ (operationId value.firstOperationId ++ (operationId value.lastOperationId ++
        (toBytes 2 value.laneQuotas.length ++ (List.replicate 17 0 ++
          value.lanes.flatMap laneRecord))))))))

def encodeOperationSummary (value : OperationSummaryEvidence) : Outcome Bytes := do
  let first := utf8 value.firstOperationId
  let last := utf8 value.lastOperationId
  ensure (!(first.isEmpty || last.isEmpty || 32 < first.length || 32 < last.length ||
      value.laneQuotas.isEmpty || 64 < value.laneQuotas.length ||
      value.laneStarts.length != value.laneQuotas.length ||
      value.laneCompletions.length != value.laneQuotas.length))
    "operation IDs or lane ledgers do not fit the fixed operation-summary record"
  raise (validateSha256 "operation hash" value.operationHashSha256)
  let laneBytes ← checkedMul value.laneQuotas.length operationLaneRecordBytes
    "operation-summary lane bytes overflow"
  let _ ← raise (checkedAdd operationBasePayloadBytes laneBytes "operation-summary payload overflow")
  ensure (first.length < 2 ^ 16) "first operation ID length exceeds u16"
  ensure (last.length < 2 ^ 16) "last operation ID length exceeds u16"
  let hash ← decodeHash value.operationHashSha256
  ensure (value.laneQuotas.length < 2 ^ 16) "operation-summary lane count exceeds u16"
  pure (operationPayload value hash)

/-! ### Reading -/

def readNumber (payload : Bytes) (index : ℕ) : Outcome UInt64 := do
  let number ← readLe payload (index * 8) (index * 8 + 8) 8 "operation-summary number is truncated"
  pure (UInt64.ofNat number)

def readLane (payload : Bytes) (index : ℕ) : Outcome ((UInt64 × UInt64) × UInt64) := do
  let offset := operationBasePayloadBytes + index * operationLaneRecordBytes
  let quota ← readLe payload offset (offset + 8) 8 "operation-summary lane quota is truncated"
  let started ← readLe payload (offset + 8) (offset + 16) 8
    "operation-summary lane start is truncated"
  let completed ← readLe payload (offset + 16) (offset + 24) 8
    "operation-summary lane completion is truncated"
  pure ((UInt64.ofNat quota, UInt64.ofNat started), UInt64.ofNat completed)

def readText (payload : Bytes) (start stop : ℕ) (reason : String) : Outcome String := do
  let part ← slice payload start stop
  match String.fromUTF8? ⟨part.toArray⟩ with
  | some text => pure text
  | none => fail reason

def zeros (part : Bytes) : Bool := part.all (· == 0)

def decodeOperationPayload (payload : Bytes) : Outcome OperationSummaryEvidence := do
  ensure (operationBasePayloadBytes ≤ payload.length) "operation-summary fixed payload is malformed"
  let flags ← index payload 72
  ensure (flags &&& ~~~0x1f == 0) "operation-summary fixed payload is malformed"
  let reserved ← slice payload 175 operationBasePayloadBytes
  ensure (zeros reserved) "operation-summary fixed payload is malformed"
  let firstLen ← readLe payload 73 75 2 "first operation ID length is truncated"
  let lastLen ← readLe payload 75 77 2 "last operation ID length is truncated"
  let laneCount ← readLe payload 173 175 2 "operation-summary lane count is truncated"
  let laneBytes ← checkedMul laneCount operationLaneRecordBytes
    "operation-summary lane payload overflow"
  let expectedPayloadLen ← raise (checkedAdd operationBasePayloadBytes laneBytes
    "operation-summary payload length overflow")
  ensure (firstLen != 0 && firstLen ≤ 32 && lastLen != 0 && lastLen ≤ 32 && laneCount != 0 &&
    laneCount ≤ 64 && payload.length == expectedPayloadLen) "operation-summary ID fields are malformed"
  let behindFirst ← slice payload (109 + firstLen) 141
  ensure (zeros behindFirst) "operation-summary ID fields are malformed"
  let behindLast ← slice payload (141 + lastLen) 173
  ensure (zeros behindLast) "operation-summary ID fields are malformed"
  let numbers ← (List.range 9).mapM (readNumber payload)
  let firstOperationId ← readText payload 109 (109 + firstLen) "first operation ID is not UTF-8"
  let lastOperationId ← readText payload 141 (141 + lastLen) "last operation ID is not UTF-8"
  let lanes ← (List.range laneCount).mapM (readLane payload)
  let hash ← slice payload 77 109
  pure
    { schema := "amg-http2-perf/operation-summary/v1"
      windowStartNs := numbers.getD 0 0
      deadlineNs := numbers.getD 1 0
      drainEndNs := numbers.getD 2 0
      startedOperations := numbers.getD 3 0
      deadlineCompletions := numbers.getD 4 0
      drainedOperations := numbers.getD 5 0
      requestBytes := numbers.getD 6 0
      responseBytes := numbers.getD 7 0
      firstOperationId, lastOperationId
      operationHashSha256 := hexLower hash
      exactStatus := flags &&& 1 != 0
      exactVersion := flags &&& 2 != 0
      exactPayload := flags &&& 4 != 0
      exactEos := flags &&& 8 != 0
      sseContentType := flags &&& 16 != 0
      hiddenRetryCount := numbers.getD 8 0
      laneQuotas := lanes.map (·.1.1)
      laneStarts := lanes.map (·.1.2)
      laneCompletions := lanes.map (·.2) }

def decodeOperationSummary (bytes : Bytes) (expectedClass : EvidenceClass) :
    Outcome OperationSummaryEvidence := do
  let payload ← decodeRecordPayload bytes .operationSummary expectedClass
  decodeOperationPayload payload

def encodeOperationRecord (evidenceClass : EvidenceClass) (value : OperationSummaryEvidence) :
    Outcome Bytes := do
  let payload ← encodeOperationSummary value
  encodeRecordPayload .operationSummary evidenceClass payload

end AuthMiniGateway.Benchmark.RawCodec

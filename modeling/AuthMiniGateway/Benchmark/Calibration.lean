import AuthMiniGateway.Benchmark.DeliveryLedger

namespace AuthMiniGateway.Benchmark

structure RateObservation where
  operations : UInt64
  elapsedNs : UInt64
  ticks : UInt64
  deriving DecidableEq, Repr

structure FrozenDurations where
  warmupSeconds : ℕ
  measureSeconds : ℕ
  deriving DecidableEq, Repr

def FrozenDurations.validate (durations : FrozenDurations) : Except String Unit :=
  require (3 ≤ durations.warmupSeconds && durations.warmupSeconds ≤ 10 &&
      (5 ≤ durations.measureSeconds && durations.measureSeconds ≤ 30))
    "frozen W/T is outside the RFC range"

def checkedMul128 (left right : ℕ) (message : String) : Except String ℕ :=
  if left * right < 2 ^ 128 then .ok (left * right) else .error message

def ceilDiv (numerator denominator : ℕ) : Except String ℕ :=
  if denominator = 0 then .error "division by zero"
  else if numerator + (denominator - 1) < 2 ^ 128 then
    .ok ((numerator + (denominator - 1)) / denominator)
  else .error "ceiling division overflow"

def ceilRatioSeconds (multiplier : ℕ) (elapsedNs count : UInt64) : Except String ℕ := do
  let numerator ← checkedMul128 multiplier elapsedNs.toNat "duration numerator overflow"
  let denominator ← checkedMul128 count.toNat 1000000000 "duration denominator overflow"
  let value ← ceilDiv numerator denominator
  if value < 2 ^ 64 then .ok value else .error "duration does not fit u64"

def lengthen (durations : FrozenDurations) (o : RateObservation) : Except String FrozenDurations := do
  require (!(o.operations == 0 || o.elapsedNs == 0 || o.ticks == 0)) "duration rate denominator is zero"
  let warmupCandidate ← ceilRatioSeconds 1250 o.elapsedNs o.operations
  let operationCandidate ← ceilRatioSeconds 6250 o.elapsedNs o.operations
  let tickCandidate ← ceilRatioSeconds 625 o.elapsedNs o.ticks
  .ok
    { warmupSeconds := max durations.warmupSeconds warmupCandidate
      measureSeconds := max (max durations.measureSeconds operationCandidate) tickCandidate }

def deriveDurations (observations : List RateObservation) : Except String FrozenDurations := do
  require (!observations.isEmpty) "duration derivation has no observations"
  let durations ← observations.foldlM lengthen ⟨3, 5⟩
  durations.validate
  .ok durations

end AuthMiniGateway.Benchmark

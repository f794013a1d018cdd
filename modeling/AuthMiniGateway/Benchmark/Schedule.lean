import AuthMiniGateway.Benchmark.ArmPlan
import AuthMiniGateway.Benchmark.Rng

namespace AuthMiniGateway.Benchmark

/-! ### Rounds -/

def RoundPlan.validate (plan : RoundPlan) : Except String Unit := do
  require (plan.row < 10) ("invalid Williams row " ++ toString plan.row)
  require (plan.armOrder == williamsRows.getD plan.row [])
    "round arm positions do not match the named Williams row"
  require (plan.armOrder.length == 5 && plan.armOrder.dedup.length == 5)
    "round does not contain five unique arm positions"
  require (plan.cells.length == 15) "round does not contain all 15 cells"
  require (plan.cells.all allCells.contains && allCells.all plan.cells.contains &&
      plan.cells.dedup.length == plan.cells.length)
    "round cell order is incomplete or duplicated"

def validateRound (index : Nat) (plan : RoundPlan) : Except String Unit := do
  plan.validate
  require (plan.round == index) "schedule rounds are not contiguous"

def validateRounds (rounds : List RoundPlan) (n : Nat) : Except String Unit := do
  require (rounds.length == n) "schedule round count differs from N"
  rounds.zipIdx.forM fun (plan, index) => validateRound index plan
  require ((List.range 10).all fun row => rounds.countP (·.row == row) == n / 10)
    "schedule does not use every Williams row equally"

def rowInstances (n : Nat) : List Nat := (List.replicate (n / 10) (List.range 10)).flatten

variable {R : Type} [WordRng R]

def generateRound (row round : Nat) : Fuelled R String RoundPlan := do
  let cells ← fisherYates allCells.toArray
  if 2 ^ 32 ≤ round then .fail "round index overflow"
  else return ⟨round, row, williamsRows.getD row [], cells.toList⟩

def drawRounds (n : Nat) : Fuelled R String (List RoundPlan) :=
  if [30, 50, 70, 100].contains n then do
    let rows ← fisherYates (rowInstances n).toArray
    let rounds ← rows.toList.zipIdx.mapM' fun (row, round) => generateRound row round
    let _ ← Fuelled.ofExcept (validateRounds rounds n)
    return rounds
  else .fail "schedule N must be one of 30, 50, 70, or 100"

def generateRounds (seed : Word) (n allowance : Nat) : Option (Except String (List RoundPlan)) :=
  (drawRounds n allowance (⟨seed⟩ : SplitMix64)).map (Except.map Prod.fst)

/-! ### Pairs -/

inductive ComparisonKind where
  | candidateH1
  | h2ToH1
  | h1ToH2
  | h2ToH2
  deriving DecidableEq, Repr

def ComparisonKind.suffix : ComparisonKind → String
  | .candidateH1 => "c11-vs-b11"
  | .h2ToH1 => "c21-vs-c11"
  | .h1ToH2 => "c12-vs-c11"
  | .h2ToH2 => "c22-vs-c11"

def comparisonId (cell : Cell) (kind : ComparisonKind) : String := cell.id ++ "-" ++ kind.suffix

structure PairIdentity where
  comparisonId : String
  round : Nat
  cell : Cell
  treatment : Arm
  reference : Arm
  treatmentObservationId : String
  referenceObservationId : String
  treatmentRawSha256 : Digest
  referenceRawSha256 : Digest
  treatmentPosition : Nat
  referencePosition : Nat
  treatmentBeforeReference : Bool
  deriving DecidableEq, Repr

def PairIdentity.validate (identity : PairIdentity) : Except String Unit := do
  identity.cell.validate
  validateIdentifier "pair comparison_id" identity.comparisonId
  validateIdentifier "pair treatment_observation_id" identity.treatmentObservationId
  validateIdentifier "pair reference_observation_id" identity.referenceObservationId
  validateNonPlaceholderSha256 "pair treatment_raw_sha256" identity.treatmentRawSha256
  validateNonPlaceholderSha256 "pair reference_raw_sha256" identity.referenceRawSha256
  require (!(5 ≤ identity.treatmentPosition || 5 ≤ identity.referencePosition ||
      identity.treatmentPosition == identity.referencePosition ||
      identity.treatmentBeforeReference !=
        decide (identity.treatmentPosition < identity.referencePosition)))
    "pair position identity is invalid"

/-- The treatment of a comparison and what it is compared with. -/
def ComparisonKind.arms : ComparisonKind → Arm × Arm
  | .candidateH1 => (.c11, .b11)
  | .h2ToH1 => (.c21, .c11)
  | .h1ToH2 => (.c12, .c11)
  | .h2ToH2 => (.c22, .c11)

def orElseFail {α : Type} (value : Option α) (message : String) : Except String α :=
  match value with
  | some a => .ok a
  | none => .error message

def toU8 (n : Nat) (message : String) : Except String Nat := if n < 256 then .ok n else .error message

def pairIdentity (round : Nat) (cell : Cell) (kind : ComparisonKind) (observationIds : Arm → Option String)
    (rawHashes : Arm → Option Digest) (row : Nat) : Except String PairIdentity := do
  let (treatment, reference) := kind.arms
  let rowArms ← orElseFail williamsRows[row]? "pair references an invalid Williams row"
  let treatmentPosition ← orElseFail (rowArms.idxOf? treatment) "treatment absent from Williams row"
  let referencePosition ← orElseFail (rowArms.idxOf? reference) "reference absent from Williams row"
  let treatmentObservationId ←
    orElseFail (observationIds treatment) "missing treatment observation identity"
  let referenceObservationId ←
    orElseFail (observationIds reference) "missing reference observation identity"
  let treatmentRawSha256 ← orElseFail (rawHashes treatment) "missing treatment raw identity"
  let referenceRawSha256 ← orElseFail (rawHashes reference) "missing reference raw identity"
  let treatmentPlace ← toU8 treatmentPosition "treatment position exceeds u8"
  let referencePlace ← toU8 referencePosition "reference position exceeds u8"
  let identity : PairIdentity :=
    { comparisonId := comparisonId cell kind, round, cell, treatment, reference,
      treatmentObservationId, referenceObservationId, treatmentRawSha256, referenceRawSha256,
      treatmentPosition := treatmentPlace, referencePosition := referencePlace,
      treatmentBeforeReference := treatmentPosition < referencePosition }
  identity.validate
  return identity

/-! ### The bootstrap -/

structure PairedMetrics (Metrics : Type) where
  treatment : Metrics
  reference : Metrics
  treatmentBeforeReference : Bool

/-- What the bootstrap does with metrics: their check, the ratios of a pair, and the resampling of two
strata of ratios. -/
structure MetricAnalysis (Metrics Ratios Result : Type) where
  validate : Metrics → Except String Unit
  logRatios : PairedMetrics Metrics → Ratios
  resample : List Ratios → List Ratios → Word → Except String Result

section

variable {Metrics Ratios Result : Type}

def PairedMetrics.validate (analysis : MetricAnalysis Metrics Ratios Result) (pair : PairedMetrics Metrics) :
    Except String Unit := do
  analysis.validate pair.treatment
  analysis.validate pair.reference

def addPair (analysis : MetricAnalysis Metrics Ratios Result) (strata : List Ratios × List Ratios)
    (pair : PairedMetrics Metrics) : Except String (List Ratios × List Ratios) := do
  pair.validate analysis
  if pair.treatmentBeforeReference then return (strata.1 ++ [analysis.logRatios pair], strata.2)
  else return (strata.1, strata.2 ++ [analysis.logRatios pair])

def orderStratifiedBootstrap (analysis : MetricAnalysis Metrics Ratios Result)
    (pairs : List (PairedMetrics Metrics)) (seed : Word) : Except String Result := do
  require (!pairs.isEmpty && pairs.length % 2 == 0) "bootstrap requires a nonempty even pair count"
  let (before, after) ← pairs.foldlM (addPair analysis) ([], [])
  require (before.length == pairs.length / 2 && after.length == pairs.length / 2)
    "bootstrap order strata are not exactly balanced"
  analysis.resample before after seed

end

end AuthMiniGateway.Benchmark

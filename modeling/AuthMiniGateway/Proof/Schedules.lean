import AuthMiniGateway.Benchmark.Schedule
import AuthMiniGateway.Lib.Mixer

namespace AuthMiniGateway.Benchmark

open Fuelled

/-! ### The generator -/

namespace SplitMix64

theorem mixed_injective : Function.Injective mixed := by
  have hfirst : Function.Injective fun x : Word => x * 0xbf58476d1ce4e5b9 :=
    Mixer.mul_injective (d := 0x96de1b173f119089) (by decide)
  have hsecond : Function.Injective fun x : Word => x * 0x94d049bb133111eb :=
    Mixer.mul_injective (d := 0x319642b2d24d8ec3) (by decide)
  exact (Mixer.xorShift_injective (by decide)).comp (hsecond.comp ((Mixer.xorShift_injective (by decide)).comp
    (hfirst.comp (Mixer.xorShift_injective (by decide)))))

theorem mixed_surjective : Function.Surjective mixed := Mixer.surjective_of_injective mixed_injective

theorem gamma_inverse : gamma * 0xf1de83e19937733d = 1#64 := by decide

theorem iterate_next (rng : SplitMix64) (n : Nat) :
    (fun rng : SplitMix64 => (WordRng.nextU64 rng).2)^[n] rng = ⟨rng.state + BitVec.ofNat 64 n * gamma⟩ := by
  induction n with
  | zero => simp
  | succ n ih =>
    rw [Function.iterate_succ_apply', ih]
    change (⟨rng.state + BitVec.ofNat 64 n * gamma + gamma⟩ : SplitMix64) = _
    rw [BitVec.ofNat_add, BitVec.add_mul, BitVec.one_mul, BitVec.add_assoc]

end SplitMix64

/-- From every state of the generator every word comes up. -/
def Covers (R : Type) [WordRng R] : Prop :=
  ∀ (rng : R) (word : Word), ∃ n,
    (WordRng.nextU64 ((fun rng : R => (WordRng.nextU64 rng).2)^[n] rng)).1 = word

theorem splitMix64_covers : Covers SplitMix64 := by
  intro rng word
  obtain ⟨target, rfl⟩ := SplitMix64.mixed_surjective word
  obtain ⟨n, hn⟩ := Mixer.exists_step SplitMix64.gamma_inverse (rng.state + SplitMix64.gamma) target
  refine ⟨n, ?_⟩
  rw [SplitMix64.iterate_next]
  change SplitMix64.mixed (rng.state + BitVec.ofNat 64 n * SplitMix64.gamma + SplitMix64.gamma) = _
  rw [BitVec.add_assoc, BitVec.add_comm (BitVec.ofNat 64 n * SplitMix64.gamma), ← BitVec.add_assoc, hn]

/-! ### Draws and shuffles -/

section

variable {R : Type} [WordRng R]

theorem yields_bounded (hcovers : Covers R) {bound : Word} (hbound : bound ≠ 0) :
    Yields (bounded bound : Fuelled R String Word) (· < bound) := by
  rw [bounded, if_neg hbound]
  refine yields_untilSome (fun rng => ?_) fun rng value hvalue => ?_
  · obtain ⟨n, hn⟩ := hcovers rng (BitVec.allOnes 64)
    refine ⟨n, BitVec.allOnes 64 % bound, ?_⟩
    have hnext : (fun rng : R => (acceptWord bound rng).2) = fun rng => (WordRng.nextU64 rng).2 := rfl
    rw [hnext, acceptWord]
    dsimp only
    have htop : rejectionThreshold bound ≤ BitVec.allOnes 64 := by
      rw [BitVec.le_def, BitVec.toNat_allOnes]
      exact Nat.le_sub_one_of_lt (BitVec.isLt _)
    rw [hn, if_pos htop]
  · rw [acceptWord] at hvalue
    dsimp only at hvalue
    split at hvalue
    · cases hvalue
      exact BitVec.umod_lt _ (by simpa [BitVec.pos_iff_ne_zero] using hbound)
    · cases hvalue

variable {α : Type}

theorem swapIfInBounds_perm (values : Array α) (i j : Nat) :
    (values.swapIfInBounds i j).toList.Perm values.toList := by
  rw [Array.swapIfInBounds]
  split
  · split
    · exact Array.perm_iff_toList_perm.mp (Array.swap_perm _ _)
    · exact .rfl
  · exact .rfl

theorem yields_shuffleFrom (hcovers : Covers R) {upper : Nat} (hupper : upper + 1 < 2 ^ 64)
    (values : Array α) :
    Yields (shuffleFrom upper values : Fuelled R String (Array α))
      fun shuffled => shuffled.toList.Perm values.toList := by
  induction upper generalizing values with
  | zero => exact yields_pure .rfl
  | succ _ ih =>
    rw [shuffleFrom]
    rw [if_neg (by omega)]
    refine (yields_bounded hcovers ?_).bind fun selected _ => ?_
    · intro hzero
      have := congrArg BitVec.toNat hzero
      rw [BitVec.toNat_ofNat, Nat.mod_eq_of_lt hupper] at this
      cases this
    · exact (ih (by omega) _).imp fun shuffled h => h.trans (swapIfInBounds_perm _ _ _)

theorem yields_fisherYates (hcovers : Covers R) {values : List α}
    (hlength : values.length < 2 ^ 64) :
    Yields (fisherYates values.toArray : Fuelled R String (Array α))
      fun shuffled => shuffled.toList.Perm values := by
  rw [fisherYates, List.size_toArray]
  by_cases hempty : values.length = 0
  · rw [hempty]
    exact yields_pure .rfl
  · exact yields_shuffleFrom hcovers (by omega) _

end

/-! ### Rounds -/

structure Planned (place : Nat × Nat) (plan : RoundPlan) : Prop where
  round : plan.round = place.2
  row : plan.row = place.1
  armOrder : plan.armOrder = williamsRows.getD place.1 []
  cells : plan.cells.Perm allCells

theorem Planned.validate {place : Nat × Nat} {plan : RoundPlan} (h : Planned place plan)
    (hrow : place.1 < 10) : validateRound place.2 plan = .ok () := by
  have hrows : ∀ row < 10, (williamsRows.getD row []).length = 5 ∧
      (williamsRows.getD row []).dedup.length = 5 := by decide
  have hdistinct : allCells.Nodup := by decide
  have hlength : plan.cells.length = 15 := h.cells.length_eq
  have hcells : plan.cells.dedup = plan.cells := List.dedup_eq_self.mpr (h.cells.nodup_iff.mpr hdistinct)
  have hsets : (plan.cells.all allCells.contains && allCells.all plan.cells.contains) = true := by
    rw [Bool.and_eq_true, List.all_eq_true, List.all_eq_true]
    exact ⟨fun cell hcell => List.contains_iff_mem.mpr (h.cells.mem_iff.mp hcell),
      fun cell hcell => List.contains_iff_mem.mpr (h.cells.mem_iff.mpr hcell)⟩
  simp only [validateRound, RoundPlan.validate, Fallible.bind_eq_ok_iff, require_eq_ok_iff, h.round, h.row,
    h.armOrder, hlength, hcells, hsets, (hrows place.1 hrow).1, (hrows place.1 hrow).2]
  simp [hrow]

variable {row n : Nat} {cell : Cell} {rounds : List RoundPlan}

theorem yields_generateRound {R : Type} [WordRng R] (hcovers : Covers R) {round : Nat}
    (hround : round < 2 ^ 32) :
    Yields (generateRound row round : Fuelled R String RoundPlan) (Planned (row, round)) := by
  refine (yields_fisherYates hcovers (by decide)).bind fun cells hcells => ?_
  rw [if_neg (by omega)]
  exact yields_pure ⟨rfl, rfl, rfl, hcells⟩

theorem rowInstances_length (hn : 10 ∣ n) : (rowInstances n).length = n := by
  rw [rowInstances, List.length_flatten]
  simp
  omega

theorem rowInstances_countP (p : Nat → Bool) :
    (rowInstances n).countP p = n / 10 * (List.range 10).countP p := by
  rw [rowInstances, List.countP_flatten]
  simp

theorem map_eq_map_of_forall₂ {α β γ : Type} {r : α → β → Prop} {f : α → γ} {g : β → γ} {xs : List α}
    {ys : List β} (h : List.Forall₂ r xs ys) (himp : ∀ x y, r x y → f x = g y) : xs.map f = ys.map g := by
  induction h with
  | nil => rfl
  | cons hfirst _ ih => rw [List.map_cons, List.map_cons, himp _ _ hfirst, ih]

/-- A schedule: each row in its place, and the rows a permutation of the rows to be used. -/
structure Scheduled (n : Nat) (rounds : List RoundPlan) : Prop where
  planned : ∃ rows : List Nat, rows.Perm (rowInstances n) ∧ List.Forall₂ Planned rows.zipIdx rounds

namespace Scheduled

variable {n : Nat} {rounds : List RoundPlan}

theorem rows_perm (h : Scheduled n rounds) : (rounds.map (·.row)).Perm (rowInstances n) := by
  obtain ⟨rows, hperm, hplanned⟩ := h.planned
  have hrows : rows.zipIdx.map Prod.fst = rounds.map (·.row) :=
    map_eq_map_of_forall₂ hplanned fun _ _ hplan => hplan.row.symm
  rw [← hrows, List.zipIdx_map_fst]
  exact hperm

theorem countP_rows (h : Scheduled n rounds) (p : Nat → Bool) :
    rounds.countP (fun plan => p plan.row) = n / 10 * (List.range 10).countP p := by
  calc
    rounds.countP (fun plan => p plan.row) = (rounds.map (·.row)).countP p := by
      rw [List.countP_map]
      rfl
    _ = (rowInstances n).countP p := h.rows_perm.countP_eq p
    _ = n / 10 * (List.range 10).countP p := rowInstances_countP p

theorem row_lt (h : Scheduled n rounds) {plan : RoundPlan} (hplan : plan ∈ rounds) : plan.row < 10 := by
  have hrow := h.rows_perm.mem_iff.mp (List.mem_map_of_mem hplan)
  simp only [rowInstances, List.mem_flatten, List.mem_replicate] at hrow
  obtain ⟨rows, ⟨-, rfl⟩, hmem⟩ := hrow
  exact List.mem_range.mp hmem

theorem cells_perm (h : Scheduled n rounds) {plan : RoundPlan} (hplan : plan ∈ rounds) :
    plan.cells.Perm allCells := by
  obtain ⟨rows, -, hplanned⟩ := h.planned
  obtain ⟨index, hindex, rfl⟩ := List.mem_iff_getElem.mp hplan
  obtain ⟨hlength, hplaces⟩ := List.forall₂_iff_get.mp hplanned
  exact (hplaces index (hlength ▸ hindex) hindex).cells

theorem length_eq (h : Scheduled n rounds) (hn : 10 ∣ n) : rounds.length = n := by
  have hlength := h.rows_perm.length_eq
  rwa [List.length_map, rowInstances_length hn] at hlength

theorem validateRounds (h : Scheduled n rounds) (hn : 10 ∣ n) : validateRounds rounds n = .ok () := by
  obtain ⟨rows, -, hplanned⟩ := h.planned
  obtain ⟨hlength, hplaces⟩ := List.forall₂_iff_get.mp hplanned
  have hround : ∀ entry ∈ rounds.zipIdx, validateRound entry.2 entry.1 = .ok () := by
    rintro ⟨plan, index⟩ hentry
    have hget : rounds[index]? = some plan := List.mem_zipIdx_iff_getElem?.mp hentry
    obtain ⟨hindex, rfl⟩ := List.getElem?_eq_some_iff.mp hget
    have hplan := hplaces index (hlength ▸ hindex) hindex
    have hplace : (rows.zipIdx.get ⟨index, hlength ▸ hindex⟩).2 = index := by simp
    have hvalid := hplan.validate (hplan.row ▸ h.row_lt (List.getElem_mem hindex))
    rwa [hplace] at hvalid
  have hcounts : ∀ row ∈ List.range 10, rounds.countP (·.row == row) = n / 10 := by
    have hone : ∀ row ∈ List.range 10, (List.range 10).countP (· == row) = 1 := by decide
    intro row hrow
    rw [h.countP_rows (· == row), hone row hrow, Nat.mul_one]
  simp only [Benchmark.validateRounds, Fallible.bind_eq_ok_iff, require_eq_ok_iff, List.all_eq_true,
    beq_iff_eq]
  exact ⟨(), h.length_eq hn, (), Fallible.forM_eq_ok_iff.mpr hround, hcounts⟩

end Scheduled

theorem yields_drawRounds {R : Type} [WordRng R] (hcovers : Covers R)
    (hn : [30, 50, 70, 100].contains n = true) :
    Yields (drawRounds n : Fuelled R String (List RoundPlan)) (Scheduled n) := by
  have hsize : 10 ∣ n ∧ n ≤ 100 := by
    simp only [List.contains_iff_mem, List.mem_cons, List.not_mem_nil, or_false] at hn
    rcases hn with rfl | rfl | rfl | rfl <;> decide
  have hlength := rowInstances_length hsize.1
  rw [drawRounds, if_pos hn]
  refine (yields_fisherYates hcovers (by omega)).bind fun rows hrows => ?_
  have hrounds : Yields (rows.toList.zipIdx.mapM' fun place => (generateRound place.1 place.2 :
      Fuelled R String RoundPlan)) (List.Forall₂ Planned rows.toList.zipIdx) := by
    refine yields_mapM' fun place hplace => yields_generateRound hcovers ?_
    have hplace := List.mem_zipIdx hplace
    have := hrows.length_eq
    omega
  refine hrounds.bind fun rounds hplanned => ?_
  have hscheduled : Scheduled n rounds := ⟨rows.toList, hrows, hplanned⟩
  have hvalid : Yields (ofExcept (validateRounds rounds n) : Fuelled R String Unit) fun _ => True :=
    yields_ofExcept (hscheduled.validateRounds hsize.1) trivial
  refine hvalid.bind fun _ _ => ?_
  exact yields_pure hscheduled

/-! ### Pairs -/

def treatmentFirst (kind : ComparisonKind) (row : Nat) : Bool :=
  (williamsRows.getD row []).idxOf kind.arms.1 < (williamsRows.getD row []).idxOf kind.arms.2

theorem treatmentFirst_countP (kind : ComparisonKind) :
    (List.range 10).countP (treatmentFirst kind) = 5 := by
  cases kind <;> decide

theorem orElseFail_eq_ok_iff {α : Type} {value : Option α} {message : String} {a : α} :
    orElseFail value message = .ok a ↔ value = some a := by
  cases value <;> simp [orElseFail]

theorem pairIdentity_order {round : Nat} {kind : ComparisonKind}
    {observationIds : Arm → Option String} {rawHashes : Arm → Option Digest}
    {identity : PairIdentity}
    (h : pairIdentity round cell kind observationIds rawHashes row = .ok identity) :
    identity.treatmentBeforeReference = treatmentFirst kind row := by
  simp only [pairIdentity, Fallible.bind_eq_ok_iff, orElseFail_eq_ok_iff] at h
  obtain ⟨rowArms, hrow, first, hfirst, second, hsecond, _, _, _, _, _, _, _, _, _, _, _, _, _, _, h⟩ := h
  cases h
  have hget : williamsRows.getD row [] = rowArms := by rw [List.getD_eq_getElem?_getD, hrow]; rfl
  have hindex : ∀ {arm : Arm} {index : Nat}, rowArms.idxOf? arm = some index → rowArms.idxOf arm = index := by
    intro arm index harm
    rw [List.idxOf_eq_getD_idxOf?, harm]
    rfl
  rw [treatmentFirst, hget, hindex hfirst, hindex hsecond]

theorem Scheduled.countP_first (h : Scheduled n rounds) (kind : ComparisonKind) :
    rounds.countP (fun plan => treatmentFirst kind plan.row) = n / 10 * 5 := by
  rw [h.countP_rows, treatmentFirst_countP]

theorem exists_pairIdentity (round : Nat) (hrow : row < 10) (hcell : cell ∈ allCells)
    (kind : ComparisonKind) {observationIds : Arm → Option String} {rawHashes : Arm → Option Digest}
    (hids : ∀ arm, ∃ id, observationIds arm = some id ∧ ∀ name, validateIdentifier name id = .ok ())
    (hhashes : ∀ arm, ∃ hash, rawHashes arm = some hash ∧
      ∀ name, validateNonPlaceholderSha256 name hash = .ok ()) :
    ∃ identity, pairIdentity round cell kind observationIds rawHashes row = .ok identity := by
  have hcells : ∀ cell ∈ allCells, cell.validate = .ok () ∧ ∀ kind ∈ [ComparisonKind.candidateH1, .h2ToH1,
      .h1ToH2, .h2ToH2], validateIdentifier "pair comparison_id" (comparisonId cell kind) = .ok () := by
    decide +kernel
  have hkind : kind ∈ [ComparisonKind.candidateH1, .h2ToH1, .h1ToH2, .h2ToH2] := by cases kind <;> decide
  obtain ⟨first, hfirst, hfirstId⟩ := hids kind.arms.1
  obtain ⟨second, hsecond, hsecondId⟩ := hids kind.arms.2
  obtain ⟨firstHash, hfirstRaw, hfirstHash⟩ := hhashes kind.arms.1
  obtain ⟨secondHash, hsecondRaw, hsecondHash⟩ := hhashes kind.arms.2
  have hplaces : ∀ row < 10, ∀ kind ∈ [ComparisonKind.candidateH1, .h2ToH1, .h1ToH2, .h2ToH2],
      ∃ rowArms ∈ williamsRows, williamsRows[row]? = some rowArms ∧ ∃ a < 5, ∃ b < 5, a ≠ b ∧
        rowArms.idxOf? kind.arms.1 = some a ∧ rowArms.idxOf? kind.arms.2 = some b := by decide
  obtain ⟨rowArms, -, hrows, a, ha, b, hb, hne, hfirstPlace, hsecondPlace⟩ := hplaces row hrow kind hkind
  have hsmall : ∀ {n : Nat} {message : String}, n < 5 → toU8 n message = .ok n := fun hn =>
    if_pos (by omega)
  simp only [pairIdentity, Fallible.bind_eq_ok_iff, orElseFail_eq_ok_iff]
  refine ⟨_, rowArms, hrows, a, hfirstPlace, b, hsecondPlace, first, hfirst, second, hsecond, firstHash,
    hfirstRaw, secondHash, hsecondRaw, a, hsmall ha, b, hsmall hb, (), ?_, rfl⟩
  simp only [PairIdentity.validate, Fallible.bind_eq_ok_iff, require_eq_ok_iff]
  refine ⟨(), (hcells cell hcell).1, (), (hcells cell hcell).2 kind hkind, (), hfirstId _, (), hsecondId _, (),
    hfirstHash _, (), hsecondHash _, ?_⟩
  simp
  omega

/-! ### The strata of the bootstrap -/

section

variable {Metrics Ratios Result : Type} {analysis : MetricAnalysis Metrics Ratios Result}

theorem strata_length {pairs : List (PairedMetrics Metrics)} {before after : List Ratios}
    (h : pairs.foldlM (addPair analysis) ([], []) = .ok (before, after)) :
    before.length = pairs.countP (·.treatmentBeforeReference) ∧
      before.length + after.length = pairs.length := by
  refine Fallible.foldlM_ok (motive := fun done strata =>
    strata.1.length = done.countP (·.treatmentBeforeReference) ∧
      strata.1.length + strata.2.length = done.length) h ⟨rfl, rfl⟩ ?_
  rintro done pair ⟨first, second⟩ strata ⟨hfirst, hall⟩ hstep
  obtain ⟨⟨⟩, -, hstep⟩ := Fallible.bind_eq_ok_iff.mp hstep
  rw [List.countP_append, List.countP_singleton, List.length_append, List.length_singleton]
  dsimp only at hfirst hall
  split at hstep
  · rename_i horder
    cases hstep
    rw [if_pos horder]
    dsimp only
    rw [List.length_append, List.length_singleton]
    omega
  · rename_i horder
    cases hstep
    rw [if_neg horder]
    dsimp only
    rw [List.length_append, List.length_singleton]
    omega

theorem orderStratifiedBootstrap_balanced {pairs : List (PairedMetrics Metrics)} (half : Nat)
    (hhalf : 0 < half) (hlength : pairs.length = 2 * half)
    (hfirst : pairs.countP (·.treatmentBeforeReference) = half) {before after : List Ratios}
    (h : pairs.foldlM (addPair analysis) ([], []) = .ok (before, after)) (seed : Word) :
    orderStratifiedBootstrap analysis pairs seed = analysis.resample before after seed := by
  obtain ⟨hbefore, hall⟩ := strata_length h
  have hcount : (!pairs.isEmpty && pairs.length % 2 == 0) = true := by
    have hne : pairs ≠ [] := by
      rintro rfl
      rw [List.length_nil] at hlength
      omega
    rw [Bool.and_eq_true, Bool.not_eq_true', List.isEmpty_eq_false_iff, beq_iff_eq]
    exact ⟨hne, by omega⟩
  have hstrata : (before.length == pairs.length / 2 && after.length == pairs.length / 2) = true := by
    rw [Bool.and_eq_true, beq_iff_eq, beq_iff_eq]
    omega
  rw [orderStratifiedBootstrap, (require_eq_ok_iff (u := ())).mpr hcount, h]
  change (require _ _ >>= fun _ => analysis.resample before after seed) = _
  rw [(require_eq_ok_iff (u := ())).mpr hstrata]
  rfl

end

/-! ### Balance -/

def roundIdentities (cell : Cell) (kind : ComparisonKind) (observationIds : Nat → Arm → Option String)
    (rawHashes : Nat → Arm → Option Digest) (rounds : List RoundPlan) : Except String (List PairIdentity) :=
  rounds.mapM' fun plan =>
    pairIdentity plan.round cell kind (observationIds plan.round) (rawHashes plan.round) plan.row

theorem roundIdentities_order {kind : ComparisonKind} {observationIds : Nat → Arm → Option String}
    {rawHashes : Nat → Arm → Option Digest} {identities : List PairIdentity}
    (h : roundIdentities cell kind observationIds rawHashes rounds = .ok identities) :
    identities.map (·.treatmentBeforeReference) = rounds.map fun plan => treatmentFirst kind plan.row := by
  induction rounds generalizing identities with
  | nil =>
    cases h
    rfl
  | cons _ _ ih =>
    simp only [roundIdentities, List.mapM', Fallible.bind_eq_ok_iff] at h
    obtain ⟨identity, hidentity, rest, hrest, h⟩ := h
    cases h
    rw [List.map_cons, List.map_cons, pairIdentity_order hidentity, ih hrest]

def Observed (observationIds : Arm → Option String) (rawHashes : Arm → Option Digest) : Prop :=
  (∀ arm, ∃ id, observationIds arm = some id ∧ ∀ name, validateIdentifier name id = .ok ()) ∧
    ∀ arm, ∃ hash, rawHashes arm = some hash ∧ ∀ name, validateNonPlaceholderSha256 name hash = .ok ()

theorem exists_roundIdentities (hcell : cell ∈ allCells) (kind : ComparisonKind)
    {observationIds : Nat → Arm → Option String} {rawHashes : Nat → Arm → Option Digest}
    (hobserved : ∀ round, Observed (observationIds round) (rawHashes round))
    (hrows : ∀ plan ∈ rounds, plan.row < 10) :
    ∃ identities, roundIdentities cell kind observationIds rawHashes rounds = .ok identities := by
  induction rounds with
  | nil => exact ⟨[], rfl⟩
  | cons plan _ ih =>
    obtain ⟨identity, hidentity⟩ := exists_pairIdentity plan.round
      (hrows plan List.mem_cons_self) hcell kind (hobserved plan.round).1 (hobserved plan.round).2
    obtain ⟨rest, hrest⟩ := ih fun other hother => hrows other (List.mem_cons_of_mem plan hother)
    refine ⟨identity :: rest, ?_⟩
    simp only [roundIdentities, List.mapM', Fallible.bind_eq_ok_iff]
    exact ⟨identity, hidentity, rest, hrest, rfl⟩

/-- **Schedules are balanced.** Every seed gives a schedule for every admitted number of rounds, once enough
words may be drawn: every row is used equally often, the cells of a round are a permutation of all
cells, and in half of the rounds the treatment of a comparison comes first. So the strata of the pairs
of a comparison are balanced where the bootstrap checks them. -/
theorem generateRounds_balanced (seed : Word) {n : Nat} (hn : n ∈ [30, 50, 70, 100]) :
    ∃ rounds, (∃ least, ∀ allowance, least ≤ allowance →
        generateRounds seed n allowance = some (.ok rounds)) ∧
      rounds.length = n ∧ (∀ row < 10, rounds.countP (·.row == row) = n / 10) ∧
      (∀ plan ∈ rounds, plan.row < 10 ∧ plan.cells.Perm allCells) ∧
      (∀ cell ∈ allCells, ∀ kind observationIds rawHashes,
        (∀ round, Observed (observationIds round) (rawHashes round)) →
        ∃ identities, roundIdentities cell kind observationIds rawHashes rounds = .ok identities) ∧
      ∀ (cell : Cell) (kind : ComparisonKind) (observationIds : Nat → Arm → Option String)
        (rawHashes : Nat → Arm → Option Digest) (identities : List PairIdentity),
        roundIdentities cell kind observationIds rawHashes rounds = .ok identities →
        identities.countP (·.treatmentBeforeReference) = n / 2 ∧
        ∀ (Metrics Ratios Result : Type) (analysis : MetricAnalysis Metrics Ratios Result)
          (pairs : List (PairedMetrics Metrics)) (before after : List Ratios) (bootstrapSeed : Word),
          pairs.map (·.treatmentBeforeReference) = identities.map (·.treatmentBeforeReference) →
          pairs.foldlM (addPair analysis) ([], []) = .ok (before, after) →
          orderStratifiedBootstrap analysis pairs bootstrapSeed
            = analysis.resample before after bootstrapSeed := by
  obtain ⟨rounds, rng, least, hscheduled, hfuel⟩ :=
    yields_drawRounds splitMix64_covers (List.contains_iff_mem.mpr hn) ⟨seed⟩
  have hten : 10 ∣ n ∧ 0 < n := by
    simp only [List.mem_cons, List.not_mem_nil, or_false] at hn
    rcases hn with rfl | rfl | rfl | rfl <;> decide
  have hone : ∀ row < 10, (List.range 10).countP (· == row) = 1 := by decide
  refine ⟨rounds, ⟨least, fun allowance hle => ?_⟩, hscheduled.length_eq hten.1, fun row hrow => ?_,
    fun plan hplan => ⟨hscheduled.row_lt hplan, hscheduled.cells_perm hplan⟩, ?_, ?_⟩
  · rw [generateRounds, hfuel allowance hle]
    rfl
  · rw [hscheduled.countP_rows (· == row), hone row hrow, Nat.mul_one]
  · intro cell hcell kind observationIds rawHashes hobserved
    exact exists_roundIdentities hcell kind hobserved fun plan hplan => hscheduled.row_lt hplan
  · intro cell kind observationIds rawHashes identities hidentities
    have horder := roundIdentities_order hidentities
    have hflags : (identities.map (·.treatmentBeforeReference)).countP id = n / 2 := by
      rw [horder, List.countP_map]
      have hcount := hscheduled.countP_first kind
      change rounds.countP (fun plan => treatmentFirst kind plan.row) = n / 2
      omega
    refine ⟨by simpa [List.countP_map, Function.comp_def] using hflags, ?_⟩
    intro Metrics Ratios Result analysis pairs before after bootstrapSeed hpairs hfold
    refine orderStratifiedBootstrap_balanced (n / 2) (by omega) ?_ ?_ hfold bootstrapSeed
    · have hlength := congrArg List.length (hpairs.trans horder)
      rw [List.length_map, List.length_map, hscheduled.length_eq hten.1] at hlength
      omega
    · rw [← hpairs, List.countP_map] at hflags
      exact hflags

theorem generateRounds_balanced_thirty :
    30 ∈ [30, 50, 70, 100] ∧ ∃ rounds, rounds.length = 30 ∧ ∃ allowance,
      generateRounds 0x0123456789abcdef 30 allowance = some (.ok rounds) := by
  obtain ⟨rounds, ⟨least, hrounds⟩, hlength, -⟩ :=
    generateRounds_balanced 0x0123456789abcdef (n := 30) (by decide)
  exact ⟨by decide, rounds, hlength, least, hrounds least le_rfl⟩

end AuthMiniGateway.Benchmark

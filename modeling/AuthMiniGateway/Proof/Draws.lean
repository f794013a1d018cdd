import AuthMiniGateway.Proof.Schedules

namespace AuthMiniGateway.Benchmark

open Fuelled Finset

/-! ### Residues of the accepted words -/

/-- In a whole number of turns every residue comes up once in each. -/
theorem card_filter_mod (first turns : ℕ) {bound residue : ℕ} (hresidue : residue < bound) :
    #{n ∈ Ico first (first + bound * turns) | n % bound = residue} = turns := by
  have hperiodic : Function.Periodic (fun n => n % bound = residue) bound := by
    intro n
    simp only [Nat.add_mod_right]
  have hturn : ∀ n, #{m ∈ Ico n (n + bound) | m % bound = residue} = 1 := by
    intro n
    have hone : {m ∈ range bound | m % bound = residue} = {residue} := by
      ext m
      simp only [mem_filter, mem_range, mem_singleton]
      constructor
      · rintro ⟨hlt, heq⟩
        rwa [Nat.mod_eq_of_lt hlt] at heq
      · rintro rfl
        exact ⟨hresidue, Nat.mod_eq_of_lt hresidue⟩
    rw [Nat.filter_Ico_card_eq_of_periodic n bound _ hperiodic, Nat.count_eq_card_filter_range, hone,
      card_singleton]
  induction turns with
  | zero => simp
  | succ turns ih =>
    have hsplit : Ico first (first + bound * (turns + 1)) = Ico first (first + bound * turns) ∪
        Ico (first + bound * turns) (first + bound * turns + bound) := by
      rw [Ico_union_Ico_eq_Ico (by omega) (by omega), Nat.mul_succ, Nat.add_assoc]
    rw [hsplit, filter_union, card_union_of_disjoint, ih, hturn]
    exact disjoint_filter_filter (Ico_disjoint_Ico_consecutive _ _ _)

theorem toNat_rejectionThreshold {bound : Word} (hbound : bound ≠ 0) :
    (rejectionThreshold bound).toNat = 2 ^ 64 % bound.toNat := by
  have hpos : 0 < bound.toNat := Nat.pos_of_ne_zero fun h => hbound (BitVec.eq_of_toNat_eq h)
  have hlt := bound.isLt
  have hneg : (2 ^ 64 - bound.toNat) % 2 ^ 64 = 2 ^ 64 - bound.toNat := Nat.mod_eq_of_lt (by omega)
  rw [rejectionThreshold, BitVec.toNat_umod, BitVec.toNat_neg, hneg, Nat.mod_eq_sub_mod hlt.le]

/-- **Accepted words.** Every residue is that of the same number of accepted words. -/
theorem ncard_accepted {bound residue : Word} (hresidue : residue < bound) :
    {word : Word | rejectionThreshold bound ≤ word ∧ word % bound = residue}.ncard
      = 2 ^ 64 / bound.toNat := by
  have hlt : residue.toNat < bound.toNat := BitVec.lt_def.mp hresidue
  have hbound : bound ≠ 0 := by
    rintro rfl
    exact Nat.not_lt_zero _ hlt
  have hwhole : 2 ^ 64 % bound.toNat + bound.toNat * (2 ^ 64 / bound.toNat) = 2 ^ 64 :=
    Nat.mod_add_div _ _
  have himage : BitVec.toNat '' {word : Word | rejectionThreshold bound ≤ word ∧ word % bound = residue}
      = {n ∈ Ico (2 ^ 64 % bound.toNat) (2 ^ 64 % bound.toNat + bound.toNat * (2 ^ 64 / bound.toNat)) |
          n % bound.toNat = residue.toNat} := by
    ext n
    simp only [Set.mem_image, Set.mem_ofPred_eq, coe_filter, mem_Ico, hwhole]
    constructor
    · rintro ⟨word, ⟨hle, rfl⟩, rfl⟩
      rw [BitVec.le_def, toNat_rejectionThreshold hbound] at hle
      exact ⟨⟨hle, word.isLt⟩, (BitVec.toNat_umod ..).symm⟩
    · rintro ⟨⟨hle, hn⟩, hmod⟩
      have hword : (BitVec.ofNat 64 n).toNat = n := by
        rw [BitVec.toNat_ofNat, Nat.mod_eq_of_lt hn]
      refine ⟨BitVec.ofNat 64 n, ⟨?_, ?_⟩, hword⟩
      · rwa [BitVec.le_def, toNat_rejectionThreshold hbound, hword]
      · apply BitVec.eq_of_toNat_eq
        rw [BitVec.toNat_umod, hword, hmod]
  rw [← Set.ncard_image_of_injective _ (fun _ _ => BitVec.eq_of_toNat_eq), himage, Set.ncard_coe_finset,
    card_filter_mod _ _ hlt]

/-! ### Shuffles by their indices -/

section Indices

variable {R : Type} [WordRng R] {α : Type}

def selectedIndices : ℕ → Fuelled R String (List ℕ)
  | 0 => pure []
  | below + 1 => do
      if 2 ^ 64 ≤ below + 2 then .fail "shuffle length overflow"
      else
        let selected ← bounded (BitVec.ofNat 64 (below + 2))
        let rest ← selectedIndices below
        pure (selected.toNat :: rest)

def arrange : ℕ → List ℕ → Array α → Array α
  | below + 1, selected :: rest, values =>
    arrange below rest (values.swapIfInBounds (below + 1) selected)
  | _, _, values => values

/-- One index for each position from the last down to the second, none of them above its position. -/
def Selects : ℕ → List ℕ → Prop
  | 0, indices => indices = []
  | below + 1, indices => ∃ selected rest, indices = selected :: rest ∧ selected ≤ below + 1 ∧
      Selects below rest

theorem shuffleFrom_eq (upper : ℕ) (values : Array α) :
    (shuffleFrom upper values : Fuelled R String (Array α))
      = (do let indices ← selectedIndices upper; pure (arrange upper indices values)) := by
  induction upper generalizing values with
  | zero => rfl
  | succ below ih =>
    funext fuel state
    rw [shuffleFrom, selectedIndices]
    by_cases hlarge : 2 ^ 64 ≤ below + 2
    · rw [if_pos hlarge, if_pos hlarge]
      rfl
    · rw [if_neg hlarge, if_neg hlarge]
      simp only [ih]
      simp only [bind, pure]
      cases bounded (BitVec.ofNat 64 (below + 2)) fuel state with
      | none => rfl
      | some outcome =>
        rcases outcome with error | ⟨selected, next⟩
        · rfl
        · dsimp only
          cases selectedIndices below fuel next with
          | none => rfl
          | some outcome => rcases outcome with error | ⟨rest, last⟩ <;> rfl

end Indices

section Arrangements

variable {α : Type} {values arranged : Array α} {indices : List ℕ} {upper i j k : ℕ}

theorem getElem?_swapIfInBounds_left (hi : i < values.size) (hj : j < values.size) :
    (values.swapIfInBounds i j)[i]? = values[j]? := by
  rw [Array.swapIfInBounds, dif_pos hi, dif_pos hj, Array.getElem?_swap, if_pos rfl,
    Array.getElem?_eq_getElem hj]
  split_ifs with heq
  · subst heq
    rfl
  · rfl

theorem getElem?_swapIfInBounds_of_ne (hki : k ≠ i) (hkj : k ≠ j) :
    (values.swapIfInBounds i j)[k]? = values[k]? := by
  rw [Array.swapIfInBounds]
  split_ifs with hi hj
  · rw [Array.getElem?_swap, if_neg hkj.symm, if_neg hki.symm]
  · rfl
  · rfl

theorem arrange_perm (upper : ℕ) (indices : List ℕ) (values : Array α) :
    (arrange upper indices values).toList.Perm values.toList := by
  induction upper generalizing indices values with
  | zero => cases indices <;> exact .rfl
  | succ _ ih =>
    cases indices with
    | nil => exact .rfl
    | cons _ rest => exact (ih rest _).trans (swapIfInBounds_perm values _ _)

theorem getElem?_arrange (h : Selects upper indices) (hi : upper < i) :
    (arrange upper indices values)[i]? = values[i]? := by
  induction upper generalizing indices values with
  | zero => cases indices <;> rfl
  | succ _ ih =>
    obtain ⟨selected, rest, rfl, hselected, hrest⟩ := h
    rw [arrange, ih hrest (by omega), getElem?_swapIfInBounds_of_ne (by omega) (by omega)]

/-- The same values, and those above a position where they were. -/
def Rearranges (upper : ℕ) (values arranged : Array α) : Prop :=
  arranged.toList.Perm values.toList ∧ ∀ i, upper < i → arranged[i]? = values[i]?

theorem eq_of_rearranges_zero (hdistinct : values.toList.Nodup) (h : Rearranges 0 values arranged) :
    arranged = values := by
  obtain ⟨hperm, habove⟩ := h
  apply Array.toList_inj.mp
  have htails : arranged.toList.tail = values.toList.tail := by
    apply List.ext_getElem?
    intro i
    simpa using habove (i + 1) (Nat.succ_pos i)
  cases hvalues : values.toList with
  | nil => rw [hvalues] at hperm; exact List.perm_nil.mp hperm
  | cons first =>
    cases harranged : arranged.toList with
    | nil => rw [hvalues, harranged] at hperm; exact absurd hperm.symm (List.not_perm_cons_nil)
    | cons first' rest' =>
      rw [hvalues, harranged, List.tail_cons, List.tail_cons] at htails
      subst htails
      rw [hvalues, harranged] at hperm
      rw [hvalues] at hdistinct
      have hmem : first' ∈ first :: rest' := hperm.subset List.mem_cons_self
      have hnew : first' ∉ rest' := (List.nodup_cons.mp (hperm.nodup_iff.mpr hdistinct)).1
      rw [(List.mem_cons.mp hmem).resolve_right hnew]

theorem arrange_injOn (hdistinct : values.toList.Nodup) (hupper : upper = 0 ∨ upper < values.size) :
    Set.InjOn (fun indices => arrange upper indices values) {indices | Selects upper indices} := by
  induction upper generalizing values with
  | zero =>
    intro indices h other hother _
    exact Eq.trans h hother.symm
  | succ below ih =>
    have hsize : below + 1 < values.size := hupper.resolve_left (Nat.succ_ne_zero _)
    rintro _ ⟨selected, rest, rfl, hselected, hrest⟩ _ ⟨selected', rest', rfl, hselected', hrest'⟩ heq
    dsimp only [arrange] at heq
    -- the last position is not touched again, so it tells the first index
    have hlast : (arrange below rest (values.swapIfInBounds (below + 1) selected))[below + 1]?
        = (arrange below rest' (values.swapIfInBounds (below + 1) selected'))[below + 1]? := by rw [heq]
    rw [getElem?_arrange hrest (by omega), getElem?_arrange hrest' (by omega),
      getElem?_swapIfInBounds_left hsize (by omega), getElem?_swapIfInBounds_left hsize (by omega),
      ← Array.getElem?_toList, ← Array.getElem?_toList,
      List.getElem?_inj (by rw [Array.length_toList]; omega) hdistinct] at hlast
    subst hlast
    have hswapped := (swapIfInBounds_perm values (below + 1) selected).nodup_iff.mpr hdistinct
    rw [ih hswapped (Or.inr (by rw [Array.size_swapIfInBounds]; omega)) hrest hrest' heq]

/-- The value that is to stand last is swapped there first. -/
theorem arrange_surjOn (hdistinct : values.toList.Nodup) (hupper : upper = 0 ∨ upper < values.size) :
    Set.SurjOn (fun indices => arrange upper indices values) {indices | Selects upper indices}
      {arranged | Rearranges upper values arranged} := by
  induction upper generalizing values with
  | zero =>
    intro arranged h
    exact ⟨[], rfl, (eq_of_rearranges_zero hdistinct h).symm⟩
  | succ below ih =>
    have hsize : below + 1 < values.size := hupper.resolve_left (Nat.succ_ne_zero _)
    rintro arranged ⟨hperm, habove⟩
    have hlength : below + 1 < arranged.toList.length := by rwa [hperm.length_eq, Array.length_toList]
    obtain ⟨selected, hselected, hvalue⟩ :=
      List.getElem_of_mem (hperm.subset (List.getElem_mem hlength))
    have hlast : values[selected]? = arranged[below + 1]? := by
      rw [← Array.getElem?_toList, ← Array.getElem?_toList, List.getElem?_eq_getElem hselected,
        List.getElem?_eq_getElem hlength, hvalue]
    have hbelow : selected ≤ below + 1 := by
      by_contra hgt
      have hstays := (habove selected (by omega)).trans hlast
      rw [← Array.getElem?_toList, ← Array.getElem?_toList,
        List.getElem?_inj (by rwa [hperm.length_eq]) (hperm.nodup_iff.mpr hdistinct)] at hstays
      omega
    rw [Array.length_toList] at hselected
    have hswap := swapIfInBounds_perm values (below + 1) selected
    obtain ⟨rest, hrest, harranged⟩ := ih (hswap.nodup_iff.mpr hdistinct)
      (Or.inr (by rw [Array.size_swapIfInBounds]; omega)) (a := arranged) (by
        refine ⟨hperm.trans hswap.symm, fun i hi => ?_⟩
        by_cases hi' : i = below + 1
        · rw [hi', getElem?_swapIfInBounds_left hsize hselected, hlast]
        · rw [getElem?_swapIfInBounds_of_ne hi' (by omega), habove i (by omega)])
    exact ⟨selected :: rest, ⟨selected, rest, rfl, hbelow, hrest⟩, harranged⟩

end Arrangements

/-- **Unbiased draws and shuffles.** The output function of the generator is a bijection and its states
come to every state, so that every draw below a bound ends; the accepted words have every residue
equally often; and a shuffle arranges its values by the indices it has drawn, with one vector of indices
for each arrangement of distinct values. -/
theorem draws_unbiased :
    Function.Bijective SplitMix64.mixed ∧
      (∀ rng target : SplitMix64, ∃ n, (fun rng => (WordRng.nextU64 rng).2)^[n] rng = target) ∧
      (∀ bound : Word, bound ≠ 0 → Yields (bounded bound : Fuelled SplitMix64 String Word) (· < bound)) ∧
      (∀ bound residue : Word, residue < bound →
        {word : Word | rejectionThreshold bound ≤ word ∧ word % bound = residue}.ncard
          = 2 ^ 64 / bound.toNat) ∧
      ∀ (α : Type) (values : Array α), values.toList.Nodup →
        (∀ (R : Type) [WordRng R], (fisherYates values : Fuelled R String (Array α))
          = do let indices ← selectedIndices (values.size - 1)
               pure (arrange (values.size - 1) indices values)) ∧
        Set.BijOn (fun indices => arrange (values.size - 1) indices values)
          {indices | Selects (values.size - 1) indices}
          {arranged | arranged.toList.Perm values.toList} := by
  refine ⟨⟨SplitMix64.mixed_injective, SplitMix64.mixed_surjective⟩, ?_,
    fun bound => yields_bounded splitMix64_covers, fun bound residue => ncard_accepted, ?_⟩
  · intro rng target
    obtain ⟨n, hn⟩ := Mixer.exists_step SplitMix64.gamma_inverse rng.state target.state
    refine ⟨n, ?_⟩
    rw [SplitMix64.iterate_next, hn]
  · intro α values hdistinct
    refine ⟨fun R _ => shuffleFrom_eq _ _, ?_⟩
    have hupper : values.size - 1 = 0 ∨ values.size - 1 < values.size := by omega
    have harrangements : {arranged : Array α | Rearranges (values.size - 1) values arranged}
        = {arranged | arranged.toList.Perm values.toList} := by
      ext arranged
      refine ⟨And.left, fun hperm => ⟨hperm, fun i hi => ?_⟩⟩
      have hlength := hperm.length_eq
      rw [Array.length_toList, Array.length_toList] at hlength
      rw [Array.getElem?_eq_none (by omega), Array.getElem?_eq_none (by omega)]
    rw [← harrangements]
    exact ⟨fun indices h => ⟨arrange_perm _ _ _, fun i hi => getElem?_arrange h hi⟩,
      arrange_injOn hdistinct hupper, arrange_surjOn hdistinct hupper⟩

end AuthMiniGateway.Benchmark

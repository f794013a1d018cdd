import AuthMiniGateway.Benchmark.Calibration
import AuthMiniGateway.Lib.Fallible

namespace AuthMiniGateway.Benchmark

namespace RateObservation

def operationRate (o : RateObservation) : ℚ := o.operations.toNat / (o.elapsedNs.toNat / 10 ^ 9)

def tickRate (o : RateObservation) : ℚ := o.ticks.toNat / (o.elapsedNs.toNat / 10 ^ 9)

def Nonzero (o : RateObservation) : Prop := o.operations ≠ 0 ∧ o.elapsedNs ≠ 0 ∧ o.ticks ≠ 0

instance (o : RateObservation) : Decidable o.Nonzero := inferInstanceAs (Decidable (_ ∧ _ ∧ _))

end RateObservation

/-- The least durations that are ever derived, and enough of both for every observation. -/
def Suffices (observations : List RateObservation) (warmup measure : ℕ) : Prop :=
  3 ≤ warmup ∧ 5 ≤ measure ∧ ∀ o ∈ observations,
    1250 ≤ o.operationRate * warmup ∧ 6250 ≤ o.operationRate * measure ∧ 625 ≤ o.tickRate * measure

theorem toNat_pos {word : UInt64} (h : word ≠ 0) : 0 < word.toNat := by
  rw [Nat.pos_iff_ne_zero, ne_eq, ← UInt64.toNat_zero, UInt64.toNat_inj]
  exact h

theorem ceilRatioSeconds_eq {multiplier : ℕ} {elapsedNs count : UInt64} (hmultiplier : multiplier ≤ 6250)
    (hcount : count ≠ 0) :
    ceilRatioSeconds multiplier elapsedNs count
      = .ok ((multiplier * elapsedNs.toNat) ⌈/⌉ (count.toNat * 1000000000)) := by
  rw [Nat.ceilDiv_eq_add_pred_div, Nat.add_sub_assoc (by have := toNat_pos hcount; omega)]
  have helapsed := elapsedNs.toNat_lt
  have hpos := toNat_pos hcount
  have hbelow := count.toNat_lt
  have hnumerator : multiplier * elapsedNs.toNat ≤ 6250 * elapsedNs.toNat :=
    Nat.mul_le_mul_right _ hmultiplier
  have hquotient : (multiplier * elapsedNs.toNat + (count.toNat * 1000000000 - 1))
      / (count.toNat * 1000000000) < 2 ^ 64 := by
    rw [Nat.div_lt_iff_lt_mul (by omega)]
    omega
  simp only [ceilRatioSeconds, Fallible.bind_eq_ok_iff]
  refine ⟨_, if_pos (by omega), _, if_pos (by omega), _, ?_, if_pos hquotient⟩
  rw [ceilDiv, if_neg (by omega), if_pos (by omega)]

/-- **A ceiling division is at most the seconds that suffice.** -/
theorem ceilDiv_le_iff {multiplier seconds : ℕ} {elapsedNs count : UInt64} (helapsed : elapsedNs ≠ 0)
    (hcount : count ≠ 0) :
    (multiplier * elapsedNs.toNat) ⌈/⌉ (count.toNat * 1000000000) ≤ seconds ↔
      (multiplier : ℚ) ≤ count.toNat / (elapsedNs.toNat / 10 ^ 9) * seconds := by
  have helapsed' : (0 : ℚ) < elapsedNs.toNat := Nat.cast_pos.mpr (toNat_pos helapsed)
  have hrate : (count.toNat / (elapsedNs.toNat / 10 ^ 9) * seconds : ℚ)
      = count.toNat * 1000000000 * seconds / elapsedNs.toNat := by
    field_simp
    ring
  rw [ceilDiv_le_iff_le_mul (by have := toNat_pos hcount; omega), hrate, le_div_iff₀ helapsed']
  exact_mod_cast Iff.rfl

/-! ### The loop -/

namespace RateObservation

def needs (o : RateObservation) : FrozenDurations where
  warmupSeconds := (1250 * o.elapsedNs.toNat) ⌈/⌉ (o.operations.toNat * 1000000000)
  measureSeconds := max ((6250 * o.elapsedNs.toNat) ⌈/⌉ (o.operations.toNat * 1000000000))
    ((625 * o.elapsedNs.toNat) ⌈/⌉ (o.ticks.toNat * 1000000000))

variable {o : RateObservation}

theorem needs_le_iff (h : o.Nonzero) {warmup measure : ℕ} :
    o.needs.warmupSeconds ≤ warmup ∧ o.needs.measureSeconds ≤ measure ↔
      1250 ≤ o.operationRate * warmup ∧ 6250 ≤ o.operationRate * measure ∧
        625 ≤ o.tickRate * measure := by
  obtain ⟨hoperations, helapsed, hticks⟩ := h
  simp only [needs, max_le_iff, ceilDiv_le_iff helapsed hoperations, ceilDiv_le_iff helapsed hticks,
    operationRate, tickRate, Nat.cast_ofNat]

end RateObservation

theorem lengthen_eq {o : RateObservation} (h : o.Nonzero) (durations : FrozenDurations) :
    lengthen durations o = .ok
      ⟨max durations.warmupSeconds o.needs.warmupSeconds,
        max durations.measureSeconds o.needs.measureSeconds⟩ := by
  obtain ⟨hoperations, helapsed, hticks⟩ := h
  simp only [lengthen, Fallible.bind_eq_ok_iff]
  refine ⟨(), ?_, _, ceilRatioSeconds_eq (by decide) hoperations, _,
    ceilRatioSeconds_eq (by decide) hoperations, _, ceilRatioSeconds_eq (by decide) hticks, ?_⟩
  · simp [hoperations, helapsed, hticks]
  · simp only [RateObservation.needs, max_assoc]

theorem lengthen_zero {o : RateObservation} (h : ¬o.Nonzero) (durations : FrozenDurations) :
    lengthen durations o = .error "duration rate denominator is zero" := by
  have hzero : (o.operations == 0 || o.elapsedNs == 0 || o.ticks == 0) = true := by
    simp only [RateObservation.Nonzero] at h
    simp only [Bool.or_eq_true, beq_iff_eq]
    tauto
  rw [lengthen, hzero]
  rfl

variable {observations : List RateObservation}

theorem foldlM_lengthen_zero (h : ∃ o ∈ observations, ¬o.Nonzero) (durations : FrozenDurations) :
    observations.foldlM lengthen durations = .error "duration rate denominator is zero" := by
  induction observations generalizing durations with
  | nil =>
    obtain ⟨o, ho, -⟩ := h
    cases ho
  | cons first rest ih =>
    rw [List.foldlM_cons]
    by_cases hfirst : first.Nonzero
    · obtain ⟨o, ho, hzero⟩ := h
      have hrest : o ∈ rest := (List.mem_cons.mp ho).resolve_left fun heq => hzero (heq ▸ hfirst)
      rw [lengthen_eq hfirst]
      exact ih ⟨o, hrest, hzero⟩ _
    · rw [lengthen_zero hfirst]
      rfl

/-- The loop ends with the least durations that are not below those it began with and that no
observation asks to exceed. -/
theorem foldlM_lengthen (h : ∀ o ∈ observations, o.Nonzero) (durations : FrozenDurations) :
    ∃ least, observations.foldlM lengthen durations = .ok least ∧ ∀ warmup measure,
      least.warmupSeconds ≤ warmup ∧ least.measureSeconds ≤ measure ↔
        (durations.warmupSeconds ≤ warmup ∧ durations.measureSeconds ≤ measure) ∧
          ∀ o ∈ observations, o.needs.warmupSeconds ≤ warmup ∧ o.needs.measureSeconds ≤ measure := by
  induction observations generalizing durations with
  | nil => exact ⟨durations, rfl, fun warmup measure => by simp⟩
  | cons first _ ih =>
    obtain ⟨hfirst, hrest⟩ := List.forall_mem_cons.mp h
    obtain ⟨least, hfold, hleast⟩ := ih hrest
      ⟨max durations.warmupSeconds first.needs.warmupSeconds,
        max durations.measureSeconds first.needs.measureSeconds⟩
    refine ⟨least, ?_, fun warmup measure => ?_⟩
    · rw [List.foldlM_cons, lengthen_eq hfirst]
      exact hfold
    · rw [hleast, List.forall_mem_cons, max_le_iff, max_le_iff]
      tauto

/-! ### The result -/

def LeastSufficient (observations : List RateObservation) (least : FrozenDurations) : Prop :=
  ∀ warmup measure, Suffices observations warmup measure ↔
    least.warmupSeconds ≤ warmup ∧ least.measureSeconds ≤ measure

theorem exists_least (h : ∀ o ∈ observations, o.Nonzero) :
    ∃ least, observations.foldlM lengthen ⟨3, 5⟩ = .ok least ∧ LeastSufficient observations least := by
  obtain ⟨least, hfold, hleast⟩ := foldlM_lengthen h ⟨3, 5⟩
  refine ⟨least, hfold, fun warmup measure => ?_⟩
  rw [hleast, Suffices, and_assoc]
  refine and_congr_right fun _ => and_congr_right fun _ => ?_
  exact forall₂_congr fun o ho => (RateObservation.needs_le_iff (h o ho)).symm

theorem LeastSufficient.unique {least other : FrozenDurations} (h : LeastSufficient observations least)
    (hother : LeastSufficient observations other) : least = other := by
  have hle := (hother _ _).mp ((h _ _).mpr ⟨le_refl _, le_refl _⟩)
  have hge := (h _ _).mp ((hother _ _).mpr ⟨le_refl _, le_refl _⟩)
  cases least
  cases other
  exact FrozenDurations.mk.injEq .. |>.mpr ⟨le_antisymm hge.1 hle.1, le_antisymm hge.2 hle.2⟩

theorem LeastSufficient.perm {reordered : List RateObservation} {least : FrozenDurations}
    (h : LeastSufficient observations least) (hperm : observations.Perm reordered) :
    LeastSufficient reordered least := by
  intro warmup measure
  rw [← h warmup measure]
  simp only [Suffices, hperm.mem_iff]

theorem deriveDurations_nil :
    deriveDurations [] = .error "duration derivation has no observations" := rfl

theorem deriveDurations_zero (h : ∃ o ∈ observations, ¬o.Nonzero) :
    deriveDurations observations = .error "duration rate denominator is zero" := by
  have hne : observations ≠ [] := by
    rintro rfl
    simp at h
  rw [deriveDurations, List.isEmpty_eq_false_iff.mpr hne, foldlM_lengthen_zero h]
  rfl

theorem deriveDurations_nonzero (hne : observations ≠ []) (h : ∀ o ∈ observations, o.Nonzero) :
    ∃ least, LeastSufficient observations least ∧
      deriveDurations observations =
        if least.warmupSeconds ≤ 10 ∧ least.measureSeconds ≤ 30 then .ok least
        else .error "frozen W/T is outside the RFC range" := by
  obtain ⟨least, hfold, hleast⟩ := exists_least h
  obtain ⟨hwarmup, hmeasure, -⟩ := (hleast _ _).mpr ⟨le_refl _, le_refl _⟩
  refine ⟨least, hleast, ?_⟩
  rw [deriveDurations, List.isEmpty_eq_false_iff.mpr hne, hfold]
  change (least.validate >>= fun _ => Except.ok least) = _
  rw [FrozenDurations.validate, require]
  simp only [hwarmup, hmeasure, decide_true, Bool.true_and, Bool.and_eq_true, decide_eq_true_eq]
  split_ifs <;> rfl

theorem deriveDurations_perm {reordered : List RateObservation} (hperm : observations.Perm reordered) :
    deriveDurations reordered = deriveDurations observations := by
  by_cases hnil : observations = []
  · subst hnil
    rw [hperm.nil_eq]
  · by_cases hzero : ∃ o ∈ observations, ¬o.Nonzero
    · have hzero' : ∃ o ∈ reordered, ¬o.Nonzero := by simpa only [hperm.mem_iff] using hzero
      rw [deriveDurations_zero hzero, deriveDurations_zero hzero']
    · have hnonzero : ∀ o ∈ observations, o.Nonzero := by simpa using hzero
      have hnil' : reordered ≠ [] := fun h => hnil (List.perm_nil.mp (h ▸ hperm))
      obtain ⟨least, hleast, heq⟩ := deriveDurations_nonzero hnil hnonzero
      obtain ⟨other, hother, heq'⟩ :=
        deriveDurations_nonzero hnil' fun o ho => hnonzero o (hperm.mem_iff.mpr ho)
      rw [heq, heq', (hleast.perm hperm).unique hother]

/-- **The least sufficient durations.** Without observations, or with a zero in one, none are derived.
In all other cases there are a least warmup of at least three seconds and a least measurement of at
least five that suffice at the rate of every observation, and these are derived unless they exceed ten
and thirty seconds. The errors are these three, so no computation overflows, and the order of the
observations is of no importance. -/
theorem deriveDurations_least (observations : List RateObservation) :
    (observations = [] →
        deriveDurations observations = .error "duration derivation has no observations") ∧
      ((∃ o ∈ observations, ¬o.Nonzero) →
        deriveDurations observations = .error "duration rate denominator is zero") ∧
      (observations ≠ [] → (∀ o ∈ observations, o.Nonzero) →
        ∃ least, LeastSufficient observations least ∧
          deriveDurations observations =
            if least.warmupSeconds ≤ 10 ∧ least.measureSeconds ≤ 30 then .ok least
            else .error "frozen W/T is outside the RFC range") ∧
      ∀ reordered, observations.Perm reordered →
        deriveDurations reordered = deriveDurations observations := by
  refine ⟨?_, deriveDurations_zero, deriveDurations_nonzero, fun _ => deriveDurations_perm⟩
  rintro rfl
  exact deriveDurations_nil

end AuthMiniGateway.Benchmark

import Mathlib

/-!
# Tallies

Each party of a list contributes an integer to a counter. A counter that moves with its parties stays equal to
the sum of their contributions.
-/

universe u

namespace Tally

variable {P : Type u} {weight bound : P → ℤ} {parties : List P} {i : ℕ} {old : P}

def total (weight : P → ℤ) (parties : List P) : ℤ := (parties.map weight).sum

theorem total_concat (party : P) :
    total weight (parties ++ [party]) = total weight parties + weight party := by
  simp [total]

theorem total_set (hold : parties[i]? = some old) (new : P) :
    total weight (parties.set i new) = total weight parties - weight old + weight new := by
  induction parties generalizing i with
  | nil => cases hold
  | cons party _ ih =>
    cases i with
    | zero =>
      obtain rfl : party = old := by simpa using hold
      simp only [total, List.set_cons_zero, List.map_cons, List.sum_cons]
      omega
    | succ i =>
      have hrest := ih (i := i) (by simpa using hold)
      simp only [total, List.set_cons_succ, List.map_cons, List.sum_cons] at hrest ⊢
      omega

theorem total_le (h : ∀ party ∈ parties, weight party ≤ bound party) :
    total weight parties ≤ total bound parties :=
  List.sum_le_sum h

theorem total_nonneg (h : ∀ party ∈ parties, 0 ≤ weight party) : 0 ≤ total weight parties := by
  apply List.sum_nonneg
  intro value hvalue
  obtain ⟨party, hparty, rfl⟩ := List.mem_map.mp hvalue
  exact h party hparty

theorem total_congr (h : ∀ party ∈ parties, weight party = bound party) :
    total weight parties = total bound parties :=
  congrArg List.sum (List.map_congr_left h)

theorem total_add :
    total (fun party => weight party + bound party) parties =
      total weight parties + total bound parties :=
  List.sum_map_add

theorem total_countP (counted : P → Bool) :
    total (fun party => if counted party then 1 else 0) parties = parties.countP counted := by
  induction parties with
  | nil => rfl
  | cons party _ ih =>
    simp only [total, List.map_cons, List.sum_cons, List.countP_cons] at ih ⊢
    rw [ih]
    by_cases hcounted : counted party = true <;> simp [hcounted, add_comm]

end Tally

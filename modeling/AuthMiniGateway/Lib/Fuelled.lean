import Mathlib

/-!
# Computations with loops

A computation that works on a state, may fail, and may contain loops of which no bound is known: it is given an
allowance of rounds for each loop, and `none` says that the allowance did not suffice. A computation yields a
result when every large enough allowance gives the same success.
-/

def Fuelled (σ ε α : Type) := Nat → σ → Option (Except ε (α × σ))

namespace Fuelled

variable {σ ε α β : Type}

instance : Monad (Fuelled σ ε) where
  pure a := fun _ state => some (.ok (a, state))
  bind p f := fun fuel state =>
    match p fuel state with
    | none => none
    | some (.error e) => some (.error e)
    | some (.ok (a, next)) => f a fuel next

def fail (e : ε) : Fuelled σ ε α := fun _ _ => some (.error e)

def ofExcept : Except ε α → Fuelled σ ε α
  | .ok a => pure a
  | .error e => fail e

def untilSome (draw : σ → Option α × σ) : Fuelled σ ε α
  | 0, _ => none
  | fuel + 1, state =>
    match draw state with
    | (some a, next) => some (.ok (a, next))
    | (none, next) => untilSome draw fuel next

/-! ### Results -/

/-- From every state the computation returns, and its result is as stated. -/
def Yields (p : Fuelled σ ε α) (post : α → Prop) : Prop :=
  ∀ state, ∃ a next least, post a ∧ ∀ fuel, least ≤ fuel → p fuel state = some (.ok (a, next))

variable {p : Fuelled σ ε α} {f : α → Fuelled σ ε β} {a : α} {post : α → Prop}

theorem bind_of_ok {fuel : Nat} {state next : σ} (h : p fuel state = some (.ok (a, next))) :
    (p >>= f) fuel state = f a fuel next := by
  simp only [bind, h]

theorem Yields.imp {weaker : α → Prop} (h : Yields p post) (himp : ∀ a, post a → weaker a) :
    Yields p weaker := by
  intro state
  obtain ⟨a, next, least, ha, hfuel⟩ := h state
  exact ⟨a, next, least, himp a ha, hfuel⟩

theorem yields_pure (ha : post a) : Yields (pure a : Fuelled σ ε α) post :=
  fun state => ⟨a, state, 0, ha, fun _ _ => rfl⟩

theorem Yields.bind {between : α → Prop} {post : β → Prop} (hp : Yields p between)
    (hf : ∀ a, between a → Yields (f a) post) : Yields (p >>= f) post := by
  intro state
  obtain ⟨a, next, least, ha, hfuel⟩ := hp state
  obtain ⟨b, last, least', hb, hfuel'⟩ := hf a ha next
  refine ⟨b, last, max least least', hb, fun fuel hle => ?_⟩
  rw [bind_of_ok (hfuel fuel (Nat.le_trans (Nat.le_max_left _ _) hle))]
  exact hfuel' fuel (Nat.le_trans (Nat.le_max_right _ _) hle)

theorem yields_ofExcept {x : Except ε α} (hx : x = .ok a) (ha : post a) :
    Yields (ofExcept x : Fuelled σ ε α) post := by
  subst hx
  exact yields_pure ha

/-- A loop yields when from every state some later draw gives something. -/
theorem yields_untilSome {draw : σ → Option α × σ}
    (hsome : ∀ state, ∃ n a, (draw ((fun s => (draw s).2)^[n] state)).1 = some a)
    (hpost : ∀ state a, (draw state).1 = some a → post a) :
    Yields (untilSome draw : Fuelled σ ε α) post := by
  intro state
  obtain ⟨n, a, ha⟩ := hsome state
  induction n generalizing state with
  | zero =>
    refine ⟨a, (draw state).2, 1, hpost state a ha, fun fuel hle => ?_⟩
    obtain ⟨fuel, rfl⟩ := Nat.exists_eq_add_of_le' hle
    have hdraw : draw state = (some a, (draw state).2) := Prod.ext ha rfl
    rw [untilSome, hdraw]
  | succ n ih =>
    cases hfirst : (draw state).1 with
    | some b =>
      refine ⟨b, (draw state).2, 1, hpost state b hfirst, fun fuel hle => ?_⟩
      obtain ⟨fuel, rfl⟩ := Nat.exists_eq_add_of_le' hle
      have hdraw : draw state = (some b, (draw state).2) := Prod.ext hfirst rfl
      rw [untilSome, hdraw]
    | none =>
      rw [Function.iterate_succ_apply] at ha
      obtain ⟨b, last, least, hb, hfuel⟩ := ih (draw state).2 ha
      refine ⟨b, last, least + 1, hb, fun fuel hle => ?_⟩
      obtain ⟨fuel, rfl⟩ := Nat.exists_eq_add_of_le' (Nat.le_trans (Nat.le_add_left 1 least) hle)
      have hdraw : draw state = (none, (draw state).2) := Prod.ext hfirst rfl
      rw [untilSome, hdraw]
      exact hfuel fuel (by omega)

/-- One computation after another, for each element of a list. -/
theorem yields_mapM' {xs : List α} {post : α → β → Prop} (h : ∀ x ∈ xs, Yields (f x) (post x)) :
    Yields (xs.mapM' f) (List.Forall₂ post xs) := by
  induction xs with
  | nil => exact yields_pure .nil
  | cons x _ ih =>
    refine (h x List.mem_cons_self).bind fun y hy => ?_
    refine (ih fun z hz => h z (List.mem_cons_of_mem x hz)).bind fun ys hys => ?_
    exact yields_pure (.cons hy hys)

end Fuelled

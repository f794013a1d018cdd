import Mathlib

/-!
# Fallible steps

What a chain of steps that stops at the first failure has done when it went through: a bind, a map over a
list, a fold over a list.
-/

namespace Fallible

/-! ### Two steps -/

variable {ε α β : Type} {f : α → Except ε β} {xs : List α}

theorem bind_eq_ok_iff {x : Except ε α} {b : β} :
    x >>= f = .ok b ↔ ∃ a, x = .ok a ∧ f a = .ok b := by
  cases x with
  | error e | ok a => simp [bind, Except.bind]

theorem map_eq_ok_iff {x : Except ε α} {f : α → β} {b : β} :
    x.map f = .ok b ↔ ∃ a, x = .ok a ∧ f a = b := by
  cases x with
  | error e | ok a => simp [Except.map]

/-! ### Lists -/

theorem exists_of_forall₂ {r : α → β → Prop} {ys : List β} (h : List.Forall₂ r xs ys) {x : α} (hx : x ∈ xs) :
    ∃ y, r x y := by
  induction h with
  | nil => cases hx
  | cons hfirst _ ih =>
    rcases List.mem_cons.mp hx with rfl | hx
    · exact ⟨_, hfirst⟩
    · exact ih hx

theorem mapM_eq_ok_iff {ys : List β} :
    xs.mapM f = .ok ys ↔ List.Forall₂ (fun x y => f x = .ok y) xs ys := by
  induction xs generalizing ys with
  | nil =>
    rw [List.mapM_nil, List.forall₂_nil_left_iff]
    exact ⟨fun h => (Except.ok.inj h).symm, fun h => h ▸ rfl⟩
  | cons _ _ ih =>
    rw [List.mapM_cons, List.forall₂_cons_left_iff]
    simp only [bind_eq_ok_iff, ih]
    constructor
    · rintro ⟨y, hy, zs, hzs, ⟨⟩⟩
      exact ⟨y, zs, hy, hzs, rfl⟩
    · rintro ⟨y, zs, hy, hzs, rfl⟩
      exact ⟨y, hy, zs, hzs, rfl⟩

theorem mem_of_mapM_ok {ys : List β} (h : xs.mapM f = .ok ys) {y : β} :
    y ∈ ys ↔ ∃ x ∈ xs, f x = .ok y := by
  induction mapM_eq_ok_iff.mp h with
  | nil => simp
  | cons hx hxs ih =>
    rw [List.mem_cons, ih (mapM_eq_ok_iff.mpr hxs), List.exists_mem_cons_iff, hx, Except.ok.injEq, eq_comm]

theorem mapM_eq_none_of_mem {f : α → Option β} {l : List α} {a : α} (ha : a ∈ l)
    (hnone : f a = none) : l.mapM f = none := by
  induction l with
  | nil => cases ha
  | cons b l ih =>
    rw [List.mapM_cons]
    rcases List.mem_cons.mp ha with rfl | hmem
    · rw [hnone]
      rfl
    · rw [ih hmem]
      cases f b with
      | none | some _ => rfl

theorem forM_eq_ok_iff {f : α → Except ε Unit} : xs.forM f = .ok () ↔ ∀ x ∈ xs, f x = .ok () := by
  induction xs with
  | nil => exact ⟨nofun, fun _ => rfl⟩
  | cons x xs ih =>
    have hcons : (x :: xs).forM f = f x >>= fun _ => xs.forM f := rfl
    rw [hcons, bind_eq_ok_iff, List.forall_mem_cons]
    constructor
    · rintro ⟨⟨⟩, hx, hxs⟩
      exact ⟨hx, ih.mp hxs⟩
    · rintro ⟨hx, hxs⟩
      exact ⟨(), hx, ih.mpr hxs⟩

/-- A fold that went through has kept what every step keeps. -/
theorem foldlM_ok {f : β → α → Except ε β} {motive : List α → β → Prop} {start result : β}
    (h : xs.foldlM f start = .ok result) (hstart : motive [] start)
    (hstep : ∀ done x before after, motive done before → f before x = .ok after →
      motive (done ++ [x]) after) : motive xs result := by
  induction xs using List.reverseRecOn generalizing result with
  | nil =>
    cases h
    exact hstart
  | append_singleton xs x ih =>
    rw [List.foldlM_append] at h
    obtain ⟨before, hbefore, hlast⟩ := bind_eq_ok_iff.mp h
    rw [List.foldlM_cons] at hlast
    obtain ⟨after, hafter, hend⟩ := bind_eq_ok_iff.mp hlast
    cases hend
    exact hstep xs x before result (ih hbefore) hafter

/-- A fold that collects what its steps find, each thing once: it goes through when every step finds
something and nothing is found twice. -/
theorem foldlM_collect {ν κ : Type} [DecidableEq κ] {step : List κ → α → Except ε (List κ)}
    {finds : α → List ν → Prop} {key : ν → κ}
    (hstep : ∀ x ∈ xs, ∀ seen after, step seen x = .ok after ↔
      ∃ found, finds x found ∧ (found.map key).Nodup ∧ (∀ n ∈ found, key n ∉ seen) ∧
        after = (found.map key).reverse ++ seen) (seen result : List κ) :
    xs.foldlM step seen = .ok result ↔
      ∃ found, List.Forall₂ finds xs found ∧ (found.flatten.map key).Nodup ∧
        (∀ n ∈ found.flatten, key n ∉ seen) ∧ result = (found.flatten.map key).reverse ++ seen := by
  induction xs generalizing seen with
  | nil =>
    rw [List.foldlM_nil]
    constructor
    · intro h
      cases h
      exact ⟨[], .nil, List.nodup_nil, nofun, rfl⟩
    · rintro ⟨found, hfound, -, -, rfl⟩
      cases hfound
      rfl
  | cons x _ ih =>
    rw [List.foldlM_cons, bind_eq_ok_iff]
    have hrest := fun seen => ih (fun y hy => hstep y (List.mem_cons_of_mem x hy)) seen
    constructor
    · rintro ⟨between, hx, hxs⟩
      obtain ⟨first, hfirst, hnodup, hnew, rfl⟩ := (hstep x List.mem_cons_self seen between).mp hx
      obtain ⟨found, hfound, hdistinct, hfresh, rfl⟩ := (hrest _).mp hxs
      refine ⟨first :: found, .cons hfirst hfound, ?_, ?_, ?_⟩
      · rw [List.flatten_cons, List.map_append, List.nodup_append']
        refine ⟨hnodup, hdistinct, ?_⟩
        intro k hk hlater
        obtain ⟨n, hn, rfl⟩ := List.mem_map.mp hlater
        exact hfresh n hn (List.mem_append_left seen (List.mem_reverse.mpr hk))
      · intro n hn
        rcases List.mem_append.mp (List.flatten_cons ▸ hn) with hn | hn
        · exact hnew n hn
        · exact fun hseen => hfresh n hn (List.mem_append_right _ hseen)
      · simp
    · rintro ⟨found, hfound, hdistinct, hfresh, rfl⟩
      cases hfound with
      | @cons _ first _ found hfirst hfound =>
        rw [List.flatten_cons, List.map_append, List.nodup_append'] at hdistinct
        obtain ⟨hnodup, hlater, hdisjoint⟩ := hdistinct
        rw [List.flatten_cons] at hfresh
        refine ⟨(first.map key).reverse ++ seen, (hstep x List.mem_cons_self seen _).mpr
          ⟨first, hfirst, hnodup, fun n hn => hfresh n (List.mem_append_left _ hn), rfl⟩,
          (hrest _).mpr ⟨found, hfound, hlater, ?_, by simp⟩⟩
        intro n hn hmem
        rcases List.mem_append.mp hmem with hmem | hmem
        · exact hdisjoint (List.mem_reverse.mp hmem) (List.mem_map_of_mem hn)
        · exact hfresh n (List.mem_append_right _ hn) hmem

theorem foldlM_collect_one {ν κ : Type} [DecidableEq κ] {step : List κ → α → Except ε (List κ)}
    {finds : α → ν → Prop} {key : ν → κ} (hstep : ∀ x ∈ xs, ∀ seen after, step seen x = .ok after ↔
      ∃ n, finds x n ∧ key n ∉ seen ∧ after = key n :: seen) (seen result : List κ) :
    xs.foldlM step seen = .ok result ↔
      ∃ found, List.Forall₂ finds xs found ∧ (found.map key).Nodup ∧
        (∀ n ∈ found, key n ∉ seen) ∧ result = (found.map key).reverse ++ seen := by
  have hsteps : ∀ x ∈ xs, ∀ seen after, step seen x = .ok after ↔
      ∃ found, (∃ n, finds x n ∧ found = [n]) ∧ (found.map key).Nodup ∧ (∀ n ∈ found, key n ∉ seen) ∧
        after = (found.map key).reverse ++ seen := by
    intro x hx seen after
    rw [hstep x hx]
    constructor
    · rintro ⟨n, hn, hnew, rfl⟩
      exact ⟨[n], ⟨n, hn, rfl⟩, by simp, by simpa using hnew, rfl⟩
    · rintro ⟨found, ⟨n, hn, rfl⟩, -, hnew, rfl⟩
      exact ⟨n, hn, by simpa using hnew, rfl⟩
  rw [foldlM_collect hsteps]
  constructor
  · rintro ⟨groups, hgroups, hrest⟩
    refine ⟨groups.flatten, ?_, hrest⟩
    clear hrest hsteps hstep
    induction hgroups with
    | nil => exact .nil
    | cons hfirst _ ih =>
      obtain ⟨n, hn, rfl⟩ := hfirst
      exact .cons hn ih
  · rintro ⟨found, hfound, hrest⟩
    have hflat : (found.map fun n => [n]).flatten = found := by
      rw [← List.flatMap_def, List.flatMap_singleton']
    refine ⟨found.map fun n => [n], ?_, by rwa [hflat]⟩
    rw [List.forall₂_map_right_iff]
    exact hfound.imp fun x n hn => ⟨n, hn, rfl⟩

end Fallible

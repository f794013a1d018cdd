import Mathlib

/-!
# Multimaps

A multimap is a list of entries. The values of one key keep their order; between the keys there is no
order that an operation promises, so two multimaps are the same when every key has the same values
(`Multimap.Same`). What an operation does is said key by key.
-/

variable {K V : Type} [DecidableEq K]

abbrev Multimap (K V : Type) := List (K × V)

namespace Multimap

def getAll (m : Multimap K V) (k : K) : List V := (m.filter fun entry => entry.1 = k).map Prod.snd

def get (m : Multimap K V) (k : K) : Option V := (m.getAll k).head?

def containsKey (m : Multimap K V) (k : K) : Bool := !(m.getAll k).isEmpty

def remove (m : Multimap K V) (k : K) : Multimap K V := m.filter fun entry => entry.1 ≠ k

def removeAll (m : Multimap K V) (keys : List K) : Multimap K V := keys.foldl remove m

def removeWhere (m : Multimap K V) (p : K → Bool) : Multimap K V :=
  m.removeAll ((m.map Prod.fst).filter p)

def insert (m : Multimap K V) (k : K) (v : V) : Multimap K V := m.remove k ++ [(k, v)]

def insertAll (m : Multimap K V) (entries : List (K × V)) : Multimap K V :=
  entries.foldl (fun m entry => m.insert entry.1 entry.2) m

def Same (m m' : Multimap K V) : Prop := ∀ k, m.getAll k = m'.getAll k

variable {m : Multimap K V} {k k' : K} {v : V}

theorem getAll_append (m m' : Multimap K V) (k : K) :
    getAll (m ++ m') k = m.getAll k ++ m'.getAll k := by
  rw [getAll, List.filter_append, List.map_append]
  rfl

theorem getAll_singleton : getAll [(k', v)] k = if k' = k then [v] else [] := by
  split_ifs with hk
  · simp [getAll, hk]
  · simp [getAll, hk]

theorem getAll_filter_keys (p : K → Bool) :
    getAll (m.filter fun entry => p entry.1) k = if p k then m.getAll k else [] := by
  rw [getAll, List.filter_filter]
  split_ifs with hp
  · congr 1
    apply List.filter_congr
    intro entry _
    by_cases hentry : entry.1 = k
    · simp [hentry, hp]
    · simp [hentry]
  · rw [List.map_eq_nil_iff, List.filter_eq_nil_iff]
    intro entry _ hentry
    obtain ⟨hk, hkept⟩ := Bool.and_eq_true_iff.mp hentry
    rw [of_decide_eq_true hk] at hkept
    exact hp hkept

theorem getAll_remove : (m.remove k).getAll k' = if k' = k then [] else m.getAll k' := by
  have hfilter := getAll_filter_keys (m := m) (k := k') fun key => decide (key ≠ k)
  rw [remove, hfilter]
  by_cases hk : k' = k
  · simp [hk]
  · simp [hk]

theorem getAll_insert : (m.insert k v).getAll k' = if k' = k then [v] else m.getAll k' := by
  rw [insert, getAll_append, getAll_remove, getAll_singleton]
  by_cases hk : k' = k
  · simp [hk]
  · simp [hk, Ne.symm hk]

theorem insert_remove : (m.remove k).insert k v = m.insert k v := by
  rw [insert, insert, remove, remove, List.filter_filter]
  simp only [Bool.and_self]

theorem insertAll_append (entries entries' : List (K × V)) :
    m.insertAll (entries ++ entries') = (m.insertAll entries).insertAll entries' :=
  List.foldl_append

theorem getAll_removeAll (keys : List K) :
    (m.removeAll keys).getAll k = if k ∈ keys then [] else m.getAll k := by
  induction keys generalizing m with
  | nil => rfl
  | cons key keys ih =>
    change ((m.remove key).removeAll keys).getAll k = _
    rw [ih, getAll_remove]
    by_cases hk : k = key
    · simp [hk]
    · simp [hk]

theorem getAll_eq_nil_of_not_mem (hk : k ∉ m.map Prod.fst) : m.getAll k = [] := by
  rw [getAll, List.map_eq_nil_iff, List.filter_eq_nil_iff]
  intro entry hentry
  rw [decide_eq_true_eq]
  rintro rfl
  exact hk (List.mem_map_of_mem hentry)

theorem getAll_removeWhere (p : K → Bool) :
    (m.removeWhere p).getAll k = if p k then [] else m.getAll k := by
  rw [removeWhere, getAll_removeAll]
  by_cases hp : p k
  · by_cases hmem : k ∈ m.map Prod.fst
    · rw [if_pos (List.mem_filter.mpr ⟨hmem, hp⟩), if_pos hp]
    · rw [if_pos hp, getAll_eq_nil_of_not_mem hmem, ite_self]
  · rw [if_neg (fun h => hp (List.mem_filter.mp h).2), if_neg hp]

theorem getAll_insertAll {entries : List (K × V)} (hnodup : (entries.map Prod.fst).Nodup)
    (habsent : ∀ entry ∈ entries, m.getAll entry.1 = []) :
    (m.insertAll entries).getAll k = m.getAll k ++ getAll entries k := by
  induction entries generalizing m with
  | nil => exact (List.append_nil _).symm
  | cons entry entries ih =>
    have hfresh : ∀ other ∈ entries, other.1 ≠ entry.1 := by
      intro other hother heq
      apply (List.nodup_cons.mp hnodup).1
      exact heq ▸ List.mem_map_of_mem hother
    have hrest : ∀ other ∈ entries, (m.insert entry.1 entry.2).getAll other.1 = [] := by
      intro other hother
      rw [getAll_insert, if_neg (hfresh other hother)]
      exact habsent other (List.mem_cons_of_mem entry hother)
    change ((m.insert entry.1 entry.2).insertAll entries).getAll k = _
    rw [ih (List.nodup_cons.mp hnodup).2 hrest, getAll_insert]
    change _ = _ ++ getAll ([entry] ++ entries) k
    rw [getAll_append, ← List.append_assoc, getAll_singleton]
    congr 1
    by_cases hk : k = entry.1
    · rw [if_pos hk, if_pos hk.symm, hk, habsent entry List.mem_cons_self, List.nil_append]
    · rw [if_neg hk, if_neg (Ne.symm hk), List.append_nil]

end Multimap

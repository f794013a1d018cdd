import AuthMiniGateway.Lib.Fallible

/-!
# Slices of a list

A position out of bounds is a panic, which is not an error that the program returns. `Sits part offset whole`
says where a part of a list is.
-/

inductive Fault (ε : Type) where
  | error (reason : ε)
  | panicked
  deriving DecidableEq, Repr

namespace Slices

variable {α β ε : Type}

def slice (whole : List α) (start stop : ℕ) : Except (Fault ε) (List α) :=
  if start ≤ stop ∧ stop ≤ whole.length then .ok ((whole.drop start).take (stop - start))
  else .error .panicked

def index (whole : List α) (position : ℕ) : Except (Fault ε) α :=
  match whole[position]? with
  | some item => .ok item
  | none => .error .panicked

def tryInto (width : ℕ) (part : List α) (reason : ε) : Except (Fault ε) (List α) :=
  if part.length = width then .ok part else .error (.error reason)

def chunksExact (width : ℕ) (whole : List α) : List (List α) :=
  (List.range (whole.length / width)).map fun i => (whole.drop (i * width)).take width

/-! ### Where a part sits -/

def Sits (part : List α) (offset : ℕ) (whole : List α) : Prop :=
  ∃ before after, whole = before ++ part ++ after ∧ before.length = offset

variable {part other whole : List α} {offset start stop position width : ℕ} {item : α}

theorem Sits.length_le (h : Sits part offset whole) : offset + part.length ≤ whole.length := by
  obtain ⟨before, after, rfl, rfl⟩ := h
  simp

theorem sits_iff_drop_take :
    Sits part offset whole ↔
      offset + part.length ≤ whole.length ∧ (whole.drop offset).take part.length = part := by
  constructor
  · intro h
    refine ⟨h.length_le, ?_⟩
    obtain ⟨before, after, rfl, rfl⟩ := h
    simp
  · rintro ⟨hlength, htake⟩
    refine ⟨whole.take offset, (whole.drop offset).drop part.length, ?_, ?_⟩
    · have hrest := List.take_append_drop part.length (whole.drop offset)
      rw [htake] at hrest
      rw [List.append_assoc, hrest, List.take_append_drop]
    · rw [List.length_take]
      omega

theorem sits_append_iff :
    Sits (part ++ other) offset whole ↔
      Sits part offset whole ∧ Sits other (offset + part.length) whole := by
  constructor
  · rintro ⟨before, after, rfl, rfl⟩
    exact ⟨⟨before, other ++ after, by simp, rfl⟩, before ++ part, after, by simp, by simp⟩
  · rintro ⟨⟨before, after, rfl, rfl⟩, before', after', hwhole, hlength⟩
    rw [List.append_assoc before'] at hwhole
    obtain ⟨-, hafter⟩ := List.append_inj hwhole (by rw [hlength, List.length_append])
    exact ⟨before, after', by simp [hafter], rfl⟩

theorem sits_nil_iff : Sits ([] : List α) offset whole ↔ offset ≤ whole.length := by
  simp [sits_iff_drop_take]

theorem eq_iff_sits : whole = part ↔ Sits part 0 whole ∧ whole.length = part.length := by
  constructor
  · rintro rfl
    exact ⟨⟨[], [], by simp, rfl⟩, rfl⟩
  · rintro ⟨hsits, hlength⟩
    have htake := (sits_iff_drop_take.mp hsits).2
    rwa [List.drop_zero, ← hlength, List.take_length] at htake

/-! ### Reading -/

theorem slice_eq_ok_iff :
    (slice whole start stop : Except (Fault ε) (List α)) = .ok part ↔
      start ≤ stop ∧ part.length = stop - start ∧ Sits part start whole := by
  rw [sits_iff_drop_take, slice]
  split
  next hbounds =>
    have hlength : ((whole.drop start).take (stop - start)).length = stop - start := by
      rw [List.length_take, List.length_drop]
      omega
    rw [Except.ok.injEq]
    constructor
    · rintro rfl
      rw [hlength]
      exact ⟨hbounds.1, rfl, by omega, rfl⟩
    · rintro ⟨-, hpart, -, htake⟩
      rwa [hpart] at htake
  next hbounds =>
    refine ⟨nofun, ?_⟩
    rintro ⟨hle, hpart, hlength, -⟩
    exact absurd ⟨hle, by omega⟩ hbounds

theorem index_eq_ok_iff :
    (index whole position : Except (Fault ε) α) = .ok item ↔ Sits [item] position whole := by
  rw [sits_iff_drop_take, List.length_singleton, List.take_one, List.head?_drop, index]
  cases hitem : whole[position]? with
  | none => simp
  | some =>
    have hlt : position + 1 ≤ whole.length := (List.getElem?_eq_some_iff.mp hitem).1
    simp [hlt]

variable {reason : ε} {encode : β → List α} {values : List β}

theorem tryInto_eq_ok_iff :
    tryInto width part reason = .ok other ↔ part.length = width ∧ part = other := by
  unfold tryInto
  split <;> simp_all

theorem mapM_range_eq_ok_iff {f : ℕ → Except (Fault ε) β} {valid : β → Prop} {n : ℕ}
    (hwidth : ∀ value, (encode value).length = width)
    (hf : ∀ i < n, ∀ value, f i = .ok value ↔ Sits (encode value) (start + i * width) whole ∧ valid value)
    (hstart : start ≤ whole.length) :
    (List.range n).mapM f = .ok values ↔
      values.length = n ∧ Sits (values.flatMap encode) start whole ∧ ∀ value ∈ values, valid value := by
  induction n generalizing f start values with
  | zero =>
    rw [List.length_eq_zero_iff]
    constructor
    · rintro ⟨⟩
      exact ⟨rfl, sits_nil_iff.mpr hstart, nofun⟩
    · rintro ⟨rfl, -⟩
      rfl
  | succ n ih =>
    have hfirst := fun value => (hf 0 (Nat.succ_pos n) value).trans (by rw [Nat.zero_mul, Nat.add_zero])
    have hrest : ∀ i < n, ∀ value, f (i + 1) = .ok value ↔
        Sits (encode value) (start + width + i * width) whole ∧ valid value := by
      intro i hi value
      rw [hf (i + 1) (by omega), Nat.add_mul, Nat.one_mul, Nat.add_comm (i * width), Nat.add_assoc]
    rw [List.range_succ_eq_map, List.mapM_cons, List.mapM_map, Fallible.bind_eq_ok_iff]
    simp only [Fallible.bind_eq_ok_iff, hfirst]
    constructor
    · rintro ⟨value, ⟨hsits, hvalid⟩, rest, hvalues, ⟨⟩⟩
      have hend := hsits.length_le
      rw [hwidth] at hend
      obtain ⟨hlength, hall, hvalids⟩ := (ih hrest hend).mp hvalues
      refine ⟨by rw [List.length_cons, hlength], ?_, List.forall_mem_cons.mpr ⟨hvalid, hvalids⟩⟩
      rw [List.flatMap_cons, sits_append_iff, hwidth]
      exact ⟨hsits, hall⟩
    · rintro ⟨hlength, hall, hvalids⟩
      cases values with
      | nil => cases hlength
      | cons value rest =>
        rw [List.flatMap_cons, sits_append_iff, hwidth] at hall
        obtain ⟨hvalid, hvalids⟩ := List.forall_mem_cons.mp hvalids
        have hend := hall.1.length_le
        rw [hwidth] at hend
        have hvalues := (ih hrest hend).mpr ⟨Nat.succ.inj hlength, hall.2, hvalids⟩
        exact ⟨value, ⟨hall.1, hvalid⟩, rest, hvalues, rfl⟩

theorem length_flatMap_uniform (hwidth : ∀ value, (encode value).length = width) :
    (values.flatMap encode).length = values.length * width := by
  simp [List.length_flatMap, hwidth]

theorem mapM_chunksExact_eq_ok_iff {f : List α → Except (Fault ε) β} {valid : β → Prop} {n : ℕ}
    (hwidth : ∀ value, (encode value).length = width)
    (hf : ∀ chunk value, chunk.length = width → (f chunk = .ok value ↔ chunk = encode value ∧ valid value))
    (hpos : 0 < width) (hlength : whole.length = n * width) :
    (chunksExact width whole).mapM f = .ok values ↔
      whole = values.flatMap encode ∧ ∀ value ∈ values, valid value := by
  have hchunk : ∀ i < n, ∀ value, (f ∘ fun i => (whole.drop (i * width)).take width) i = .ok value ↔
      Sits (encode value) (0 + i * width) whole ∧ valid value := by
    intro i hi value
    have hend : i * width + width ≤ whole.length := by
      rw [hlength, ← Nat.succ_mul]
      exact Nat.mul_le_mul_right width hi
    have hshort : ((whole.drop (i * width)).take width).length = width := by
      rw [List.length_take, List.length_drop]
      omega
    rw [Function.comp_apply, hf _ value hshort, sits_iff_drop_take, hwidth, Nat.zero_add]
    simp [hend]
  rw [chunksExact, hlength, Nat.mul_div_cancel n hpos, List.mapM_map,
    mapM_range_eq_ok_iff hwidth hchunk (Nat.zero_le _), eq_iff_sits, length_flatMap_uniform hwidth,
    hlength, Nat.mul_left_inj (by omega)]
  constructor
  · rintro ⟨rfl, hsits, hvalid⟩
    exact ⟨⟨hsits, rfl⟩, hvalid⟩
  · rintro ⟨⟨hsits, hn⟩, hvalid⟩
    exact ⟨hn.symm, hsits, hvalid⟩

/-! ### No panic -/

/-- The program returns a value or an error. -/
def Safe (outcome : Except (Fault ε) α) : Prop := outcome ≠ .error .panicked

theorem safe_ok {value : α} : Safe (.ok value : Except (Fault ε) α) := nofun

theorem safe_error : Safe (.error (.error reason) : Except (Fault ε) α) := nofun

theorem Safe.bind {first : Except (Fault ε) α} {next : α → Except (Fault ε) β} (h : Safe first)
    (hnext : ∀ value, first = .ok value → Safe (next value)) : Safe (first >>= next) := by
  cases first with
  | error =>
    intro hbind
    cases hbind
    exact h rfl
  | ok value => exact hnext value rfl

theorem safe_slice (h : start ≤ stop ∧ stop ≤ whole.length) :
    Safe (slice whole start stop : Except (Fault ε) (List α)) := by
  rw [slice, if_pos h]
  exact safe_ok

theorem safe_index (h : position < whole.length) :
    Safe (index whole position : Except (Fault ε) α) := by
  rw [index, List.getElem?_eq_getElem h]
  exact safe_ok

theorem safe_tryInto : Safe (tryInto width part reason) := by
  unfold tryInto
  split
  · exact safe_ok
  · exact safe_error

theorem safe_mapM {f : β → Except (Fault ε) α} {xs : List β} (h : ∀ x ∈ xs, Safe (f x)) :
    Safe (xs.mapM f) := by
  induction xs with
  | nil => exact safe_ok
  | cons x _ ih =>
    rw [List.mapM_cons]
    refine (h x List.mem_cons_self).bind fun _ _ => ?_
    refine (ih fun y hy => h y (List.mem_cons_of_mem x hy)).bind fun _ _ => safe_ok

end Slices

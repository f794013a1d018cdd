import Mathlib

/-!
# Custody

Resources are opened and closed, and places answer for them, each for one resource. Custody holds when no
resource has two places and every open one has a place. The places count up to their order: handing a resource
from one place to another changes nothing.
-/

universe u

variable {T : Type u}

structure Custody (opened places : List T) : Prop where
  opened_nodup : opened.Nodup
  places_nodup : places.Nodup
  covered : opened ⊆ places

namespace Custody

variable {opened places others : List T} {t : T}

theorem length_le (h : Custody opened places) : opened.length ≤ places.length :=
  (List.subperm_of_subset h.opened_nodup h.covered).length_le

theorem perm (h : Custody opened places) (hperm : places.Perm others) : Custody opened others :=
  ⟨h.opened_nodup, hperm.nodup_iff.mp h.places_nodup, fun _ hmem => hperm.subset (h.covered hmem)⟩

theorem acquire (h : Custody opened places) (hfresh : t ∉ places) :
    Custody (t :: opened) (t :: places) :=
  ⟨List.nodup_cons.mpr ⟨fun hmem => hfresh (h.covered hmem), h.opened_nodup⟩,
    List.nodup_cons.mpr ⟨hfresh, h.places_nodup⟩, List.cons_subset_cons t h.covered⟩

theorem close [DecidableEq T] (h : Custody opened places) (t : T) : Custody (opened.erase t) places :=
  ⟨h.opened_nodup.erase t, h.places_nodup, fun _ hmem => h.covered (List.mem_of_mem_erase hmem)⟩

theorem release (h : Custody opened (t :: places)) (hclosed : t ∉ opened) : Custody opened places := by
  refine ⟨h.opened_nodup, (List.nodup_cons.mp h.places_nodup).2, fun u hmem => ?_⟩
  rcases List.mem_cons.mp (h.covered hmem) with rfl | hrest
  · exact absurd hmem hclosed
  · exact hrest

theorem not_mem (h : Custody opened (t :: places)) : t ∉ places :=
  (List.nodup_cons.mp h.places_nodup).1

end Custody

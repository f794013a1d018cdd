import Mathlib

variable {α δ : Type}

def HashChain (digest : α → δ) (link : α → Option δ) : Option δ → List α → Prop
  | _, [] => True
  | previous, item :: items => link item = previous ∧ HashChain digest link (some (digest item)) items

namespace HashChain

variable {digest : α → δ} {link : α → Option δ} {previous : Option δ} {items : List α} {item : α}

/-- What the next item of a chain has to link to. -/
def tip (digest : α → δ) (previous : Option δ) (items : List α) : Option δ :=
  (items.getLast?.map digest).or previous

theorem append_singleton :
    HashChain digest link previous (items ++ [item]) ↔
      HashChain digest link previous items ∧ link item = tip digest previous items := by
  induction items generalizing previous with
  | nil => simp [HashChain, tip]
  | cons first items ih =>
    have htip : tip digest (some (digest first)) items = tip digest previous (first :: items) := by
      cases items with
      | nil => simp [tip]
      | cons => simp [tip, List.getLast?_cons]
    rw [List.cons_append, HashChain, HashChain, ih, htip, and_assoc]

end HashChain

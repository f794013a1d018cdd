import Mathlib

/-!
# Transactions over a write-ahead log

A deferred transaction takes its snapshot with its first read, and its first write fails when another
transaction holds the lock, and when anything was committed since the snapshot. So a transaction that commits a
write can be thought of as happening at its commit (`Sound.base`, `Commit.data_eq`).
-/

variable {ι D : Type}

inductive Txn (D : Type) where
  | idle
  | begun
  | reading (snapshot : D) (version : Nat)
  | writing (base pending : D)

structure Wal (ι D : Type) where
  data : D
  version : Nat
  txn : ι → Txn D

namespace Wal

def Unlocked (w : Wal ι D) : Prop := ∀ i base pending, w.txn i ≠ .writing base pending

section Statements

variable [DecidableEq ι]

def setTxn (w : Wal ι D) (i : ι) (txn : Txn D) : Wal ι D :=
  { w with txn := Function.update w.txn i txn }

inductive Read (i : ι) (w : Wal ι D) : D → Wal ι D → Prop
  | first (hbegun : w.txn i = .begun) :
      Read i w w.data (w.setTxn i (.reading w.data w.version))
  | again {snapshot : D} {version : Nat} (hreading : w.txn i = .reading snapshot version) :
      Read i w snapshot w

/-- The write lock is free and the snapshot is not stale. -/
inductive Write (i : ι) (f : D → D) (w : Wal ι D) : Wal ι D → Prop
  | first {snapshot : D} (hreading : w.txn i = .reading snapshot w.version) (hlock : w.Unlocked) :
      Write i f w (w.setTxn i (.writing snapshot (f snapshot)))

inductive Commit (i : ι) (w : Wal ι D) : Wal ι D → Prop
  | reads {snapshot : D} {version : Nat} (hreading : w.txn i = .reading snapshot version) :
      Commit i w (w.setTxn i .idle)
  | writes {base pending : D} (hwriting : w.txn i = .writing base pending) :
      Commit i w
        { data := pending, version := w.version + 1, txn := Function.update w.txn i .idle }

inductive Autocommit (f : D → D) (w : Wal ι D) : Wal ι D → Prop
  | commits (hlock : w.Unlocked) : Autocommit f w { w with data := f w.data, version := w.version + 1 }
  | unchanged (hsame : f w.data = w.data) : Autocommit f w w

end Statements

/-- A snapshot that is not stale shows the data, the one transaction that holds the write lock has the
data as its base, and there is one such transaction at most. -/
structure Sound (w : Wal ι D) : Prop where
  snapshot : ∀ {i snapshot version}, w.txn i = .reading snapshot version →
    version ≤ w.version ∧ (version = w.version → snapshot = w.data)
  base : ∀ {i base pending}, w.txn i = .writing base pending → base = w.data
  writer : ∀ {i j base pending base' pending'}, w.txn i = .writing base pending →
    w.txn j = .writing base' pending' → i = j

theorem sound_of_idle {w : Wal ι D} (hidle : ∀ i, w.txn i = .idle) : w.Sound := by
  constructor
  · intro i snapshot version h
    rw [hidle] at h
    cases h
  · intro i base pending h
    rw [hidle] at h
    cases h
  · intro i j base pending base' pending' h
    rw [hidle] at h
    cases h

section Keep

variable [DecidableEq ι] {w w' : Wal ι D} {i j : ι}

@[simp]
theorem setTxn_self (txn : Txn D) : (w.setTxn i txn).txn i = txn := by
  simp [setTxn]

theorem setTxn_of_ne (txn : Txn D) (hne : j ≠ i) : (w.setTxn i txn).txn j = w.txn j := by
  simp [setTxn, hne]

theorem Sound.setTxn {txn : Txn D} (hsound : w.Sound)
    (hreading : ∀ snapshot version, txn = .reading snapshot version →
      version ≤ w.version ∧ (version = w.version → snapshot = w.data))
    (hwriting : ∀ base pending, txn = .writing base pending → base = w.data ∧ w.Unlocked) :
    (w.setTxn i txn).Sound := by
  have hother : ∀ {j base pending}, j ≠ i → (w.setTxn i txn).txn j = .writing base pending →
      w.txn j = .writing base pending := by
    intro j base pending hne h
    rw [← setTxn_of_ne txn hne]
    exact h
  constructor
  · intro j snapshot version h
    by_cases hj : j = i
    · subst hj
      rw [setTxn_self] at h
      exact hreading snapshot version h
    · rw [setTxn_of_ne txn hj] at h
      exact hsound.snapshot h
  · intro j base pending h
    by_cases hj : j = i
    · subst hj
      rw [setTxn_self] at h
      exact (hwriting base pending h).1
    · exact hsound.base (hother hj h)
  · intro j k base pending base' pending' hj hk
    by_cases hji : j = i
    · by_cases hki : k = i
      · rw [hji, hki]
      · subst hji
        rw [setTxn_self] at hj
        exact absurd (hother hki hk) ((hwriting base pending hj).2 k base' pending')
    · by_cases hki : k = i
      · subst hki
        rw [setTxn_self] at hk
        exact absurd (hother hji hj) ((hwriting base' pending' hk).2 j base pending)
      · exact hsound.writer (hother hji hj) (hother hki hk)

theorem Sound.idle (hsound : w.Sound) : (w.setTxn i .idle).Sound := hsound.setTxn nofun nofun

theorem Sound.begin (hsound : w.Sound) : (w.setTxn i .begun).Sound := hsound.setTxn nofun nofun

variable {data : D} {f : D → D}

theorem Sound.read (hsound : w.Sound) (hread : Read i w data w') : w'.Sound := by
  cases hread with
  | first =>
    apply hsound.setTxn
    · rintro snapshot version ⟨⟩
      exact ⟨Nat.le_refl _, fun _ => rfl⟩
    · nofun
  | again => exact hsound

theorem Sound.write (hsound : w.Sound) (hwrite : Write i f w w') : w'.Sound := by
  cases hwrite with
  | first hreading hlock =>
    apply hsound.setTxn
    · nofun
    · rintro base pending ⟨⟩
      exact ⟨(hsound.snapshot hreading).2 rfl, hlock⟩

/-- A commit that replaces the data leaves every other snapshot stale. -/
theorem Sound.commit (hsound : w.Sound) (hcommit : Commit i w w') : w'.Sound := by
  cases hcommit with
  | reads => exact hsound.idle
  | @writes _ _ hwriting =>
    have hothers : ∀ {j base' pending'},
        Function.update w.txn i .idle j = Txn.writing base' pending' → False := by
      intro j base' pending' h
      by_cases hj : j = i
      · subst hj
        rw [Function.update_self] at h
        cases h
      · rw [Function.update_of_ne hj] at h
        exact hj (hsound.writer h hwriting)
    constructor
    · intro j snapshot version h
      by_cases hj : j = i
      · subst hj
        dsimp only at h
        rw [Function.update_self] at h
        cases h
      · dsimp only at h
        rw [Function.update_of_ne hj] at h
        have hle := (hsound.snapshot h).1
        dsimp only
        constructor <;> omega
    · intro j base' pending' h
      exact (hothers h).elim
    · intro j k base' pending' _ _ h
      exact (hothers h).elim

omit [DecidableEq ι] in
theorem Sound.autocommit (hsound : w.Sound) (hstep : Autocommit f w w') : w'.Sound := by
  cases hstep with
  | unchanged => exact hsound
  | commits hlock =>
    constructor
    · intro j snapshot version h
      have hle := (hsound.snapshot h).1
      dsimp only
      constructor <;> omega
    · intro j base pending h
      exact absurd h (hlock j base pending)
    · intro j k base pending _ _ h
      exact absurd h (hlock j base pending)

/-! ### Statements leave the transactions of the others -/

theorem Read.txn_of_ne (hread : Read i w data w') (hne : j ≠ i) : w'.txn j = w.txn j := by
  cases hread with
  | first => exact setTxn_of_ne _ hne
  | again => rfl

theorem Write.txn_of_ne (hwrite : Write i f w w') (hne : j ≠ i) : w'.txn j = w.txn j := by
  cases hwrite with
  | first => exact setTxn_of_ne _ hne

theorem Commit.txn_of_ne (hcommit : Commit i w w') (hne : j ≠ i) : w'.txn j = w.txn j := by
  cases hcommit with
  | reads => exact setTxn_of_ne _ hne
  | writes => exact Function.update_of_ne hne _ _

omit [DecidableEq ι] in
theorem Autocommit.txn_eq (hstep : Autocommit f w w') : w'.txn = w.txn := by
  cases hstep <;> rfl

omit [DecidableEq ι] in
theorem Autocommit.data_eq (hstep : Autocommit f w w') : w'.data = f w.data := by
  cases hstep with
  | unchanged hsame => exact hsame.symm
  | commits => rfl

end Keep

end Wal

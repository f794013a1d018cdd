import AuthMiniGateway.Proof.StoreStep
import AuthMiniGateway.Proof.RowReading

namespace AuthMiniGateway

open Store

variable {json : AmrJson} {r : Readings} {op : StoreOp} {s s' : StoreState} {id : String}
  {row row' : SessionRow}

namespace StoreState

def Keyed (s : StoreState) : Prop := ∀ id row, s.db.sessions id = some row → row.id = id

structure Tracked (s : StoreState) : Prop where
  row_id : s.Keyed
  row_issued : ∀ id row, s.db.sessions id = some row → id ∈ s.issued
  seen_issued : ∀ session ∈ s.seen, session.id ∈ s.issued

theorem issued_subset_step : s.issued ⊆ (s.step json r op).issued := by
  intro id hid
  unfold step
  dsimp only
  split_ifs
  · exact List.mem_cons_of_mem _ hid
  · exact hid

theorem step_rowEffect (json : AmrJson) (s : StoreState) (r : Readings) (op : StoreOp)
    (id : String) :
    RowEffect json r id op (s.db.sessions id) ((s.step json r op).db.sessions id) :=
  exec_rowEffect json r s.db op id

theorem mem_seen_step {session : GatewaySession} (hpermits : s.Permits r op)
    (h : session ∈ (s.step json r op).seen) :
    session ∈ s.seen ∨ ReadFrom json (s.step json r op).db r.now session := by
  rcases List.mem_append.mp h with hnew | hold
  · rcases sessionsIn_cases hnew with hsnapshot | hread
    · exact Or.inl (hpermits.snapshots_seen session hsnapshot)
    · exact Or.inr hread
  · exact Or.inl hold

end StoreState

theorem RowUpdate.id_eq (h : RowUpdate json r id op row row') : row'.id = row.id := by
  cases h <;> rfl

theorem RowUpdate.authSessionId_eq (h : RowUpdate json r id op row row') :
    row'.authSessionId = row.authSessionId := by
  cases h <;> rfl

theorem RowUpdate.absoluteExpiresAt_eq (h : RowUpdate json r id op row row') :
    row'.absoluteExpiresAt = row.absoluteExpiresAt := by
  cases h <;> rfl

theorem StoreState.Keyed.step (h : s.Keyed) : (s.step json r op).Keyed := by
  intro id row' hrow'
  have heffect := s.step_rowEffect json r op id
  rw [hrow'] at heffect
  generalize hbefore : s.db.sessions id = before at heffect
  cases heffect with
  | updated hupdate => rw [hupdate.id_eq, h id _ hbefore]
  | created _ hid => exact hid.symm

namespace StoreState.Tracked

theorem row_before (hfresh : op.creates = true → r.token ∉ s.issued) (hissued : id ∈ s.issued)
    (hrow' : (s.step json r op).db.sessions id = some row') :
    ∃ row, s.db.sessions id = some row ∧ RowUpdate json r id op row row' := by
  have heffect := s.step_rowEffect json r op id
  rw [hrow'] at heffect
  generalize hbefore : s.db.sessions id = before at heffect
  cases heffect with
  | updated hupdate => exact ⟨_, rfl, hupdate⟩
  | created hop hid =>
    subst hop hid
    exact absurd hissued (hfresh rfl)

theorem row_issued_step (h : ∀ id row, s.db.sessions id = some row → id ∈ s.issued)
    (hrow' : (s.step json r op).db.sessions id = some row') : id ∈ (s.step json r op).issued := by
  have heffect := s.step_rowEffect json r op id
  rw [hrow'] at heffect
  generalize hbefore : s.db.sessions id = before at heffect
  cases heffect with
  | updated => exact StoreState.issued_subset_step (h id _ hbefore)
  | created hop hid =>
    subst hop hid
    exact List.mem_cons_self

theorem step (h : s.Tracked) (hpermits : s.Permits r op) : (s.step json r op).Tracked where
  row_id := h.row_id.step
  row_issued _ _ hrow' := row_issued_step h.row_issued hrow'
  seen_issued session hsession := by
    rcases StoreState.mem_seen_step hpermits hsession with hold | ⟨key, row, hrow, hreads, -⟩
    · exact StoreState.issued_subset_step (h.seen_issued session hold)
    · rw [hreads.id, h.row_id.step key row hrow]
      exact row_issued_step h.row_issued hrow

theorem run (h : s.Tracked) (hrun : StoreRun json s s') : s'.Tracked := by
  induction hrun with
  | refl => exact h
  | tail _ hstep ih =>
    obtain ⟨r, op, hpermits, rfl⟩ := hstep
    exact ih.step hpermits

theorem row_of_readFrom (h : s.Tracked) {session : GatewaySession} {now : Int}
    (hread : ReadFrom json s.db now session) :
    ∃ row, s.db.sessions session.id = some row ∧ row.Reads json session := by
  obtain ⟨key, row, hrow, hreads, -⟩ := hread
  have hid : session.id = key := hreads.id.trans (h.row_id key row hrow)
  exact ⟨row, hid ▸ hrow, hreads⟩

end StoreState.Tracked

/-- As long as the row under `id` is stored it has the property, and nothing else will be stored
there. -/
def StoreState.Keeps (s : StoreState) (id : String) (property : SessionRow → Prop) : Prop :=
  id ∈ s.issued ∧ ∀ row, s.db.sessions id = some row → property row

theorem StoreState.Keeps.step {property : SessionRow → Prop} (h : s.Keeps id property)
    (hfresh : op.creates = true → r.token ∉ s.issued)
    (hclosed : ∀ row row', RowUpdate json r id op row row' → property row → property row') :
    (s.step json r op).Keeps id property := by
  refine ⟨issued_subset_step h.1, ?_⟩
  intro row' hrow'
  obtain ⟨row, hrow, hupdate⟩ := Tracked.row_before hfresh h.1 hrow'
  exact hclosed row row' hupdate (h.2 row hrow)

/-! ### Over a run -/

section Run

theorem StoreRun.issued_subset (hrun : StoreRun json s s') : s.issued ⊆ s'.issued := by
  induction hrun with
  | refl => exact List.Subset.refl _
  | tail _ hstep ih =>
    obtain ⟨r, op, -, rfl⟩ := hstep
    exact List.Subset.trans ih StoreState.issued_subset_step

theorem StoreRun.deleted (hrun : StoreRun json s s') (hissued : id ∈ s.issued)
    (hnone : s.db.sessions id = none) : s'.db.sessions id = none := by
  induction hrun with
  | refl => exact hnone
  | tail hrun hstep ih =>
    obtain ⟨r, op, hpermits, rfl⟩ := hstep
    by_contra hsome
    obtain ⟨row', hrow'⟩ := Option.ne_none_iff_exists'.mp hsome
    obtain ⟨row, hrow, -⟩ := StoreState.Tracked.row_before hpermits.fresh
      (StoreRun.issued_subset hrun hissued) hrow'
    rw [ih] at hrow
    cases hrow

/-- **Induction over the life of a row.** What holds of the row at the start and is kept by every
update that a reachable state permits holds of the row at the end. -/
theorem StoreRun.row_induction {motive : StoreState → SessionRow → Prop} (hrun : StoreRun json s s')
    (hissued : id ∈ s.issued) (hrow : s.db.sessions id = some row) (hstart : motive s row)
    (hupdate : ∀ (t : StoreState) (r : Readings) (op : StoreOp) (old new : SessionRow),
      StoreRun json s t → t.Permits r op → t.db.sessions id = some old →
      RowUpdate json r id op old new → motive t old → motive (t.step json r op) new)
    (hrow' : s'.db.sessions id = some row') : motive s' row' := by
  induction hrun generalizing row' with
  | refl =>
    rw [hrow] at hrow'
    cases hrow'
    exact hstart
  | tail hrun hstep ih =>
    obtain ⟨r, op, hpermits, rfl⟩ := hstep
    obtain ⟨old, hold, hupd⟩ := StoreState.Tracked.row_before hpermits.fresh
      (StoreRun.issued_subset hrun hissued) hrow'
    exact hupdate _ r op old row' hrun hpermits hold hupd (ih hold)

end Run

end AuthMiniGateway

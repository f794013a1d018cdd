import AuthMiniGateway.AuthExecutor
import AuthMiniGateway.Lib.Tally

namespace AuthMiniGateway

/-- The events of the pool and of its operations: no new call, and no caller that goes away. -/
def AuthEvent.goesOn : AuthEvent → Bool
  | .run | .cancelled _ => false
  | .acquired _ | .started _ | .ended _ | .left _ => true

def AuthCall.remaining : AuthCall → ℤ
  | .waiting => 4
  | .queued => 3
  | .running => 2
  | .leaving => 1
  | .finished => 0

namespace AuthExecutor

variable {executor next : AuthExecutor} {work admission call : ℕ} {before after : AuthCall}

theorem move_eq_some (h : executor.move call before after = some next) :
    executor.calls[call]? = some before
      ∧ next = ⟨executor.admission, executor.work, executor.calls.set call after⟩ := by
  rw [move] at h
  split_ifs at h with hcall
  exact ⟨hcall, (Option.some.inj h).symm⟩

theorem countP_set {calls : List AuthCall} (hbefore : calls[call]? = some before) (p : AuthCall → Bool) :
    ((calls.set call after).countP p : ℤ) =
      calls.countP p - (if p before then 1 else 0) + if p after then 1 else 0 := by
  rw [← Tally.total_countP, ← Tally.total_countP, Tally.total_set hbefore]

/-- The permits of both semaphores are free or held by the calls. -/
structure Accounted (work admission : ℕ) (executor : AuthExecutor) : Prop where
  admission : (executor.admission : ℤ) + executor.calls.countP AuthCall.admitted = admission
  work : (executor.work : ℤ) + executor.calls.countP AuthCall.working = work

namespace Accounted

theorem set (h : Accounted work admission executor) (hbefore : executor.calls[call]? = some before)
    {freeAdmission freeWork : ℕ}
    (hadmission : (freeAdmission : ℤ) =
      executor.admission + (if before.admitted then 1 else 0) - if after.admitted then 1 else 0)
    (hwork : (freeWork : ℤ) =
      executor.work + (if before.working then 1 else 0) - if after.working then 1 else 0) :
    Accounted work admission ⟨freeAdmission, freeWork, executor.calls.set call after⟩ := by
  have hadmitted := h.admission
  have hworking := h.work
  constructor
  · rw [hadmission, countP_set hbefore]
    omega
  · rw [hwork, countP_set hbefore]
    omega

theorem step (h : Accounted work admission executor) {event : AuthEvent}
    (hstep : executor.apply event = some next) : Accounted work admission next := by
  cases event with
  | run =>
    have hadmitted := h.admission
    have hworking := h.work
    rw [apply, tryAdmit] at hstep
    split_ifs at hstep with hfull
    · cases hstep
    · cases hstep
      constructor <;> simp [AuthCall.admitted, AuthCall.working] <;> omega
  | cancelled call | started call | ended call | left call =>
    obtain ⟨hbefore, rfl⟩ := move_eq_some hstep
    exact h.set hbefore (by simp [AuthCall.admitted]) (by simp [AuthCall.working])
  | acquired call =>
    rw [apply] at hstep
    split_ifs at hstep with hnone
    obtain ⟨hbefore, rfl⟩ := move_eq_some hstep
    exact h.set hbefore (by simp [AuthCall.admitted]) (by simp [AuthCall.working]; omega)

end Accounted

theorem total_remaining_set {calls : List AuthCall} (hbefore : calls[call]? = some before)
    (hless : after.remaining = before.remaining - 1) :
    Tally.total AuthCall.remaining (calls.set call after) = Tally.total AuthCall.remaining calls - 1 := by
  rw [Tally.total_set hbefore, hless]
  omega

namespace Accounted

theorem goesOn (h : Accounted work admission executor) (hwork : 0 < work)
    (hopen : ∃ call ∈ executor.calls, call ≠ .finished) :
    ∃ event next, AuthEvent.goesOn event = true ∧ executor.apply event = some next
      ∧ Tally.total AuthCall.remaining next.calls = Tally.total AuthCall.remaining executor.calls - 1 := by
  by_cases hworking : ∃ call ∈ executor.calls, call.working = true
  · obtain ⟨call, hmem, hcall⟩ := hworking
    obtain ⟨i, hi⟩ := List.mem_iff_getElem?.mp hmem
    cases call with
    | waiting | finished => cases hcall
    | queued => exact ⟨.started i, _, rfl, if_pos hi, total_remaining_set hi rfl⟩
    | running => exact ⟨.ended i, _, rfl, if_pos hi, total_remaining_set hi rfl⟩
    | leaving => exact ⟨.left i, _, rfl, if_pos hi, total_remaining_set hi rfl⟩
  · -- no permit of `work` is held, so a call that waits can take one
    push Not at hworking
    have hfree := h.work
    rw [List.countP_eq_zero.mpr hworking] at hfree
    have hpos : executor.work ≠ 0 := by omega
    obtain ⟨call, hmem, hcall⟩ := hopen
    obtain ⟨i, hi⟩ := List.mem_iff_getElem?.mp hmem
    cases call with
    | queued | running | leaving => exact absurd rfl (hworking _ hmem)
    | finished => exact absurd rfl hcall
    | waiting =>
      exact ⟨.acquired i, _, rfl, (if_neg hpos).trans (if_pos hi), total_remaining_set hi rfl⟩

theorem finishes (h : Accounted work admission executor) (hwork : 0 < work) (bound : ℕ)
    (hbound : Tally.total AuthCall.remaining executor.calls < bound) :
    ∃ (later : List AuthEvent) (last : AuthExecutor), (∀ event ∈ later, event.goesOn = true)
      ∧ later.foldlM apply executor = some last ∧ Accounted work admission last
      ∧ ∀ call ∈ last.calls, call = .finished := by
  induction bound generalizing executor with
  | zero =>
    have hnonneg : 0 ≤ Tally.total AuthCall.remaining executor.calls := by
      apply Tally.total_nonneg
      intro call _
      cases call <;> decide
    omega
  | succ bound ih =>
    by_cases hopen : ∃ call ∈ executor.calls, call ≠ .finished
    · obtain ⟨event, next, hevent, hstep, hless⟩ := h.goesOn hwork hopen
      obtain ⟨later, last, hlater, hlast, hend⟩ := ih (h.step hstep) (by omega)
      refine ⟨event :: later, last, List.forall_mem_cons.mpr ⟨hevent, hlater⟩, ?_, hend⟩
      rw [List.foldlM_cons, hstep]
      exact hlast
    · push Not at hopen
      exact ⟨[], executor, by simp, rfl, h, hopen⟩

end Accounted

end AuthExecutor

end AuthMiniGateway

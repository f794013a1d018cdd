import AuthMiniGateway.UploadWakers

/-!
# No wake-up is lost when an upload is cancelled

A poll that answers `pending` has read `cancelled` as false after it registered its waker, so the first
critical section of every `cancel` that stores the flag finds the waker in its slot. The induction keeps, for
each point the owner of the body can be at, what the slot must still hold.
-/

namespace AuthMiniGateway.UploadWakers

variable {W D E : Type} {willWake : W → W → Bool}

def Wakes (willWake : W → W → Bool) (registered waker : W) : Prop :=
  registered = waker ∨ willWake registered waker = true

namespace Shared

def Holds (willWake : W → W → Bool) (shared : Shared W) (waker : W) : Prop :=
  ∃ registered, shared.waker = some registered ∧ Wakes willWake registered waker

def Woke (willWake : W → W → Bool) (shared : Shared W) (waker : W) : Prop :=
  ∃ registered ∈ shared.woken, Wakes willWake registered waker

/-- The waker is woken, or the next critical section of a `cancel` wakes it and none has run yet. -/
def Covers (willWake : W → W → Bool) (shared : Shared W) (waker : W) : Prop :=
  (shared.Holds willWake waker ∧ shared.cancelReturned = false) ∨ shared.Woke willWake waker

def Flagged (shared : Shared W) : Prop :=
  shared.cancelReturned = true → shared.cancelled = true

theorem register_holds (shared : Shared W) (waker : W) :
    (shared.register willWake waker).Holds willWake waker := by
  unfold register Holds
  cases hslot : shared.waker with
  | none => exact ⟨waker, rfl, .inl rfl⟩
  | some registered =>
    by_cases hwakes : willWake registered waker = true
    · exact ⟨registered, by simp [hwakes], .inr hwakes⟩
    · exact ⟨waker, by simp [hwakes], .inl rfl⟩

/-! ### What another task's `cancel` can do -/

structure Later (willWake : W → W → Bool) (shared after : Shared W) : Prop where
  cancelled : shared.cancelled = true → after.cancelled = true
  flagged : after.Flagged
  holds : ∀ waker, shared.Holds willWake waker → after.Holds willWake waker ∨ after.cancelled = true
  covers : ∀ waker, shared.Covers willWake waker → after.Covers willWake waker

variable {shared : Shared W}

theorem Woke.taken {waker : W} (hholds : shared.Holds willWake waker) :
    (shared.cancelStep .waking).1.Woke willWake waker := by
  obtain ⟨registered, hslot, hwakes⟩ := hholds
  exact ⟨registered, by simp [cancelStep, hslot], hwakes⟩

theorem cancelStep_later (call : CancelPoint) (hflagged : shared.Flagged)
    (hcall : call = .waking → shared.cancelled = true) :
    Later willWake shared (shared.cancelStep call).1 := by
  cases call with
  | checking => exact ⟨id, hflagged, fun _ => .inl, fun _ => id⟩
  | storing => exact ⟨fun _ => rfl, fun _ => rfl, fun _ => .inl, fun _ => id⟩
  | waking =>
    have hcancelled := hcall rfl
    refine ⟨id, fun _ => hcancelled, fun _ _ => .inr hcancelled, ?_⟩
    rintro waker (⟨hholds, -⟩ | ⟨registered, hwoken, hwakes⟩)
    · exact .inr (Woke.taken hholds)
    · exact .inr ⟨registered, List.mem_append_right _ hwoken, hwakes⟩

theorem cancelStep_waking {call : CancelPoint} (hnext : (shared.cancelStep call).2 = some .waking) :
    (shared.cancelStep call).1.cancelled = true := by
  cases call with
  | checking => simp [cancelStep] at hnext
  | storing => rfl
  | waking => cases hnext

end Shared

namespace WakeRun

def Answered (willWake : W → W → Bool) (run : WakeRun W D E) : Prop :=
  ∀ waker answer, run.lastPoll = some (waker, answer) →
    (answer = .pending → run.shared.Covers willWake waker) ∧
      (run.startedLate = true → answer = .ready none)

def Placed (willWake : W → W → Bool) (run : WakeRun W D E) : Prop :=
  match run.task with
  | .creating _ => run.lastPoll = none
  | .idle | .dropped => run.Answered willWake
  | .entered _ => True
  | .registering _ => run.startedLate = false
  | .rechecking waker =>
    run.startedLate = false ∧ (run.shared.Holds willWake waker ∨ run.shared.cancelled = true)
  | .polling waker => run.startedLate = false ∧ run.shared.Covers willWake waker
  | .completing _ answer _ => answer ≠ .pending ∧ run.startedLate = false
  | .cancelling _ answer call =>
    answer ≠ .pending ∧ (run.startedLate = true → answer = .ready none) ∧
      (call = .waking → run.shared.cancelled = true)
  | .dropping call =>
    run.Answered willWake ∧ (call = .waking → run.shared.cancelled = true)

structure Sound (willWake : W → W → Bool) (run : WakeRun W D E) : Prop where
  flagged : run.shared.Flagged
  calls : ∀ caller, run.cancels caller = some .waking → run.shared.cancelled = true
  late : run.startedLate = true → run.shared.cancelled = true
  placed : run.Placed willWake

variable {run next : WakeRun W D E} {waker : W} {answer : PolledFrame D E} {ended : Bool}

theorem Answered.later {after : Shared W} (hanswered : run.Answered willWake)
    (hlater : Shared.Later willWake run.shared after) :
    Answered willWake { run with shared := after } := by
  intro waker answer hlast
  obtain ⟨hcovers, hlate⟩ := hanswered waker answer hlast
  exact ⟨fun hpending => hlater.covers waker (hcovers hpending), hlate⟩

theorem Placed.later {after : Shared W} (hplaced : run.Placed willWake)
    (hlater : Shared.Later willWake run.shared after) :
    Placed willWake { run with shared := after } := by
  unfold Placed at hplaced ⊢
  cases htask : run.task with
  | creating => simpa only [htask] using hplaced
  | idle =>
    simp only [htask] at hplaced ⊢
    exact hplaced.later hlater
  | entered => trivial
  | registering => simpa only [htask] using hplaced
  | rechecking waker =>
    simp only [htask] at hplaced ⊢
    refine ⟨hplaced.1, ?_⟩
    rcases hplaced.2 with hholds | hcancelled
    · exact hlater.holds waker hholds
    · exact .inr (hlater.cancelled hcancelled)
  | polling waker =>
    simp only [htask] at hplaced ⊢
    exact ⟨hplaced.1, hlater.covers waker hplaced.2⟩
  | completing => simpa only [htask] using hplaced
  | cancelling =>
    simp only [htask] at hplaced ⊢
    exact ⟨hplaced.1, hplaced.2.1, fun hcall => hlater.cancelled (hplaced.2.2 hcall)⟩
  | dropping =>
    simp only [htask] at hplaced ⊢
    exact ⟨hplaced.1.later hlater, fun hcall => hlater.cancelled (hplaced.2 hcall)⟩
  | dropped =>
    simp only [htask] at hplaced ⊢
    exact hplaced.later hlater

/-! ### The steps -/

theorem Sound.finish (hsound : run.Sound willWake)
    (hcovers : answer = .pending → run.shared.Covers willWake waker)
    (hlate : run.startedLate = true → answer = .ready none) :
    (run.finish waker answer).Sound willWake := by
  refine ⟨hsound.flagged, hsound.calls, hsound.late, ?_⟩
  intro waker' answer' hlast
  cases hlast
  exact ⟨hcovers, hlate⟩

theorem Sound.observeTerminal {clean : Bool} (hsound : run.Sound willWake)
    (hanswer : answer ≠ .pending) (hlate : run.startedLate = true → answer = .ready none)
    (hclean : clean = true → run.startedLate = false) :
    (run.observeTerminal clean waker answer).Sound willWake := by
  unfold WakeRun.observeTerminal
  split
  · exact hsound.finish (fun hpending => absurd hpending hanswer) hlate
  · cases clean with
    | true => exact ⟨hsound.flagged, hsound.calls, hsound.late, hanswer, hclean rfl⟩
    | false => exact ⟨hsound.flagged, hsound.calls, hsound.late, hanswer, hlate, nofun⟩

theorem Sound.answered (hsound : run.Sound willWake) (hearly : run.startedLate = false)
    (hcovers : run.shared.Covers willWake waker) :
    (run.answered waker answer ended).Sound willWake := by
  have hlate {fixed : PolledFrame D E} : run.startedLate = true → fixed = .ready none := by
    intro hstarted
    rw [hearly] at hstarted
    cases hstarted
  unfold WakeRun.answered
  split
  · exact hsound.observeTerminal nofun hlate fun _ => hearly
  · split
    · exact hsound.observeTerminal nofun hlate fun _ => hearly
    · exact hsound.finish nofun hlate
  · exact hsound.observeTerminal nofun hlate fun _ => hearly
  · exact hsound.observeTerminal nofun hlate nofun
  · exact hsound.finish (fun _ => hcovers) hlate

theorem Sound.cancelStep {call : CancelPoint} (hsound : run.Sound willWake)
    (hcall : call = .waking → run.shared.cancelled = true) :
    Sound willWake { run with shared := (run.shared.cancelStep call).1 } := by
  have hlater : Shared.Later willWake run.shared (run.shared.cancelStep call).1 :=
    Shared.cancelStep_later call hsound.flagged hcall
  exact
    { flagged := hlater.flagged
      calls := fun caller hwaking => hlater.cancelled (hsound.calls caller hwaking)
      late := fun hstarted => hlater.cancelled (hsound.late hstarted)
      placed := hsound.placed.later hlater }

theorem startPoll_sound (hsound : run.Sound willWake) (hstep : run.startPoll waker = some next) :
    next.Sound willWake := by
  unfold startPoll at hstep
  split at hstep
  · cases hstep
    exact ⟨hsound.flagged, hsound.calls, hsound.flagged, trivial⟩
  · cases hstep

theorem startDrop_sound (hsound : run.Sound willWake) (hstep : run.startDrop = some next) :
    next.Sound willWake := by
  unfold startDrop at hstep
  split at hstep
  next htask =>
    have hanswered : run.Answered willWake := by
      simpa only [Placed, htask] using hsound.placed
    cases hstep
    split
    · exact ⟨hsound.flagged, hsound.calls, hsound.late, hanswered⟩
    · exact ⟨hsound.flagged, hsound.calls, hsound.late, hanswered, nofun⟩
  · cases hstep

theorem startCancel_sound {caller : Nat} (hsound : run.Sound willWake)
    (hstep : run.startCancel caller = some next) : next.Sound willWake := by
  unfold startCancel at hstep
  split at hstep
  · cases hstep
    refine ⟨hsound.flagged, ?_, hsound.late, hsound.placed⟩
    intro other hwaking
    by_cases hother : other = caller
    · subst hother
      simp at hwaking
    · exact hsound.calls other (by simpa [hother] using hwaking)
  · cases hstep

theorem advanceCancel_sound {caller : Nat} (hsound : run.Sound willWake)
    (hstep : run.advanceCancel caller = some next) : next.Sound willWake := by
  unfold advanceCancel at hstep
  split at hstep
  · cases hstep
  next call hcalls =>
    have hcall : call = .waking → run.shared.cancelled = true := by
      rintro rfl
      exact hsound.calls caller hcalls
    have hafter := hsound.cancelStep hcall
    cases hstep
    refine ⟨hafter.flagged, ?_, hafter.late, hafter.placed⟩
    intro other hwaking
    by_cases hother : other = caller
    · subst hother
      exact Shared.cancelStep_waking (by simpa using hwaking)
    · exact hafter.calls other (by simpa [hother] using hwaking)

theorem advanceTask_sound (hsound : run.Sound willWake)
    (hstep : run.advanceTask willWake answer ended = some next) : next.Sound willWake := by
  have hplaced := hsound.placed
  unfold advanceTask at hstep
  split at hstep <;> (rename_i htask; simp only [Placed, htask] at hplaced)
  · cases hstep
  · cases hstep
  · cases hstep
    exact ⟨hsound.flagged, hsound.calls, hsound.late, hplaced⟩
  · cases hstep
    refine ⟨hsound.flagged, hsound.calls, hsound.late, ?_⟩
    intro waker answer hlast
    rw [hplaced] at hlast
    cases hlast
  · -- the first load of `cancelled`
    cases hstep
    split
    · exact hsound.observeTerminal nofun (fun _ => rfl) nofun
    next hcancelled =>
      refine ⟨hsound.flagged, hsound.calls, hsound.late, ?_⟩
      exact Bool.eq_false_iff.mpr fun hstarted => hcancelled (hsound.late hstarted)
  · cases hstep
    exact ⟨hsound.flagged, hsound.calls, hsound.late, hplaced, .inl (Shared.register_holds _ _)⟩
  · -- the second load: a flag that is still down means that no `cancel` has emptied the slot
    cases hstep
    split
    · exact hsound.observeTerminal nofun (fun _ => rfl) nofun
    next hcancelled =>
      have hreturned : run.shared.cancelReturned = false :=
        Bool.eq_false_iff.mpr fun hreturned => hcancelled (hsound.flagged hreturned)
      have hholds := hplaced.2.resolve_right hcancelled
      exact ⟨hsound.flagged, hsound.calls, hsound.late, hplaced.1, .inl ⟨hholds, hreturned⟩⟩
  · cases hstep
    split
    · exact hsound.answered hplaced.1 hplaced.2
    · exact hsound.finish nofun fun _ => rfl
  · cases hstep
    exact ⟨hsound.flagged, hsound.calls, hsound.late, hplaced⟩
  · cases hstep
    refine ⟨hsound.flagged, hsound.calls, hsound.late, ?_⟩
    intro waker answer hlast
    cases hlast
    refine ⟨fun hpending => absurd hpending hplaced.1, ?_⟩
    intro hstarted
    rw [hplaced.2] at hstarted
    cases hstarted
  · next waker fixed call =>
    obtain ⟨hfixed, hlate, hcall⟩ := hplaced
    have hafter := hsound.cancelStep hcall
    have hwaking : (run.shared.cancelStep call).2 = some .waking →
        (run.shared.cancelStep call).1.cancelled = true := Shared.cancelStep_waking
    rcases hresult : run.shared.cancelStep call with ⟨shared, _ | later⟩ <;>
      simp only [hresult] at hstep hafter hwaking <;> cases hstep
    · refine ⟨hafter.flagged, hafter.calls, hafter.late, ?_⟩
      intro waker answer hlast
      cases hlast
      exact ⟨fun hpending => absurd hpending hfixed, hlate⟩
    · refine ⟨hafter.flagged, hafter.calls, hafter.late, hfixed, hlate, ?_⟩
      rintro rfl
      exact hwaking rfl
  · next call =>
    have hafter := hsound.cancelStep hplaced.2
    have hanswered : Answered willWake { run with shared := (run.shared.cancelStep call).1 } :=
      hplaced.1.later (Shared.cancelStep_later call hsound.flagged hplaced.2)
    have hwaking : (run.shared.cancelStep call).2 = some .waking →
        (run.shared.cancelStep call).1.cancelled = true := Shared.cancelStep_waking
    rcases hresult : run.shared.cancelStep call with ⟨shared, _ | later⟩ <;>
      simp only [hresult] at hstep hafter hanswered hwaking <;> cases hstep
    · exact ⟨hafter.flagged, hafter.calls, hafter.late, hanswered⟩
    · refine ⟨hafter.flagged, hafter.calls, hafter.late, hanswered, ?_⟩
      rintro rfl
      exact hwaking rfl

theorem initial_sound (ended : Bool) : (initial ended : WakeRun W D E).Sound willWake := by
  refine ⟨nofun, nofun, nofun, ?_⟩
  cases ended with
  | true => exact rfl
  | false => exact nofun

theorem apply_sound {event : WakeEvent W D E} (hsound : run.Sound willWake)
    (hstep : run.apply willWake event = some next) : next.Sound willWake := by
  cases event with
  | poll => exact startPoll_sound hsound hstep
  | advance => exact advanceTask_sound hsound hstep
  | drop => exact startDrop_sound hsound hstep
  | cancel => exact startCancel_sound hsound hstep
  | advanceCancel => exact advanceCancel_sound hsound hstep

theorem sound_of_run {events : List (WakeEvent W D E)}
    (hrun : (wakeSystem D E willWake).Run (initial ended) events run) : run.Sound willWake := by
  apply hrun.invariant (Sound willWake) (initial_sound ended)
  intro run event next hsound hstep
  exact apply_sound hsound hstep

theorem Sound.answered_of_rest (hsound : run.Sound willWake) (hrest : run.task.inPoll = false) :
    run.Answered willWake := by
  have hplaced := hsound.placed
  unfold Placed at hplaced
  cases htask : run.task <;> simp only [htask, TaskPoint.inPoll, reduceCtorEq] at hplaced hrest
  case creating =>
    intro waker answer hlast
    rw [hplaced] at hlast
    cases hlast
  case idle => exact hplaced
  case dropping => exact hplaced.1
  case dropped => exact hplaced

end WakeRun

/-- **A cancelled upload is woken.** Whatever the polling task, the wakers it polls with and any number
of tasks inside `cancel` do, and in whatever order their flag accesses and critical sections fall:
while no poll is in progress and a call of `cancel` that set the flag has returned, a last poll that
answered `pending` had its waker woken after it registered it. A poll that began after such a return
answered the end of the body. -/
theorem cancelled_upload_is_woken {ended : Bool} {events : List (WakeEvent W D E)}
    {run : WakeRun W D E} (hrun : (wakeSystem D E willWake).Run (.initial ended) events run)
    (hrest : run.task.inPoll = false) :
    (∀ waker, run.shared.cancelReturned = true → run.lastPoll = some (waker, .pending) →
      ∃ registered ∈ run.shared.woken, registered = waker ∨ willWake registered waker = true) ∧
    (∀ waker answer, run.startedLate = true → run.lastPoll = some (waker, answer) →
      answer = .ready none) := by
  have hanswered := (WakeRun.sound_of_run hrun).answered_of_rest hrest
  constructor
  · intro waker hreturned hlast
    rcases (hanswered waker .pending hlast).1 rfl with ⟨-, hnone⟩ | hwoke
    · rw [hreturned] at hnone
      cases hnone
    · exact hwoke
  · intro waker answer hstarted hlast
    exact (hanswered waker answer hlast).2 hstarted

def twoPolls : List (WakeEvent Nat Nat Nat) :=
  [.poll 2] ++ List.replicate 4 (.advance .pending false) ++
    [.poll 3] ++ List.replicate 4 (.advance .pending false) ++
    [.cancel 7] ++ List.replicate 3 (.advanceCancel 7)

/-- Two wakers of one task: the second poll keeps the first waker, and the `cancel` wakes that one. -/
theorem cancelled_upload_is_woken_two_polls :
    ∃ run, twoPolls.foldlM (WakeRun.apply fun first second => first / 2 == second / 2)
        (.initial false) = some run ∧
      run.shared.cancelReturned = true ∧ run.lastPoll = some (3, .pending) ∧
      ∃ registered ∈ run.shared.woken, registered = 3 ∨ (registered / 2 == 3 / 2) = true := by
  obtain ⟨run, hreplay, hrest, hreturned, hlast⟩ :
      ∃ run, twoPolls.foldlM (WakeRun.apply fun first second => first / 2 == second / 2)
          (.initial false) = some run ∧
        run.task.inPoll = false ∧ run.shared.cancelReturned = true ∧
        run.lastPoll = some (3, .pending) := ⟨_, rfl, rfl, rfl, rfl⟩
  have hrun := Transitions.computed_run .start twoPolls hreplay
  have hwoken := (cancelled_upload_is_woken hrun hrest).1 3 hreturned hlast
  exact ⟨run, hreplay, hreturned, hlast, hwoken⟩

end AuthMiniGateway.UploadWakers

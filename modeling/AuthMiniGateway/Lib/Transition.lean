import Mathlib

/-!
# Labelled transition systems

A system is a relation between a state, an event and the next state. A run lists its events with the latest one
first. An invariant may look at the events so far.
-/

universe u v

structure Transitions (State : Type u) (Event : Type v) where
  step : State → Event → State → Prop

namespace Transitions

variable {State : Type u} {Event : Type v} (system : Transitions State Event)

inductive Run (start : State) : List Event → State → Prop
  | start : Run start [] start
  | step {events : List Event} {state next : State} {event : Event} :
      Run start events state → system.step state event next → Run start (event :: events) next

variable {system} {start state next : State} {events : List Event}

namespace Run

theorem history (Inv : List Event → State → Prop) (hrun : system.Run start events state)
    (hstart : Inv [] start)
    (hstep : ∀ events state event next, Inv events state → system.step state event next →
      Inv (event :: events) next) :
    Inv events state := by
  induction hrun with
  | start => exact hstart
  | step _ hlast ih => exact hstep _ _ _ _ ih hlast

theorem invariant (Inv : State → Prop) (hrun : system.Run start events state) (hstart : Inv start)
    (hstep : ∀ state event next, Inv state → system.step state event next → Inv next) :
    Inv state := by
  apply hrun.history (fun _ => Inv) hstart
  intro _ state event next
  exact hstep state event next

end Run

/-! ### Deterministic systems -/

/-- An event is possible where `enabled` says so, and `apply` is what it does. -/
def guarded (enabled : State → Event → Bool) (apply : State → Event → State) :
    Transitions State Event where
  step state event next := enabled state event = true ∧ next = apply state event

def feasible (enabled : State → Event → Bool) (apply : State → Event → State) (state : State) :
    List Event → Bool
  | [] => true
  | event :: later => enabled state event && feasible enabled apply (apply state event) later

theorem guarded_run {enabled : State → Event → Bool} {apply : State → Event → State}
    (hrun : (guarded enabled apply).Run start events state) (later : List Event)
    (h : feasible enabled apply state later = true) :
    (guarded enabled apply).Run start (later.reverse ++ events) (later.foldl apply state) := by
  induction later generalizing events state with
  | nil => exact hrun
  | cons _ _ ih =>
    obtain ⟨henabled, hlater⟩ := Bool.and_eq_true_iff.mp h
    rw [List.reverse_cons, List.append_assoc]
    exact ih (hrun.step ⟨henabled, rfl⟩) hlater

/-- An event is possible where `apply` gives a next state. -/
def computed (apply : State → Event → Option State) : Transitions State Event where
  step state event next := apply state event = some next

theorem computed_run {apply : State → Event → Option State}
    (hrun : (computed apply).Run start events state) (later : List Event)
    (h : later.foldlM apply state = some next) :
    (computed apply).Run start (later.reverse ++ events) next := by
  induction later generalizing events state with
  | nil =>
    cases h
    exact hrun
  | cons _ _ ih =>
    rw [List.foldlM_cons, Option.bind_eq_bind, Option.bind_eq_some_iff] at h
    obtain ⟨middle, hevent, hlater⟩ := h
    rw [List.reverse_cons, List.append_assoc]
    exact ih (hrun.step hevent) hlater

/-! ### Finite systems -/

/-- The states that are met from those still to be visited. -/
def explore [DecidableEq State] (next : State → List State) :
    Nat → List State → List State → List State
  | 0, seen, _ => seen
  | _ + 1, seen, [] => seen
  | fuel + 1, seen, state :: rest =>
    if state ∈ seen then explore next fuel seen rest
    else explore next fuel (state :: seen) (next state ++ rest)

theorem guarded_mem {enabled : State → Event → Bool} {apply : State → Event → State}
    {states : List State} (hrun : (guarded enabled apply).Run start events state)
    (hstart : start ∈ states)
    (hclosed : ∀ state ∈ states, ∀ event, enabled state event = true → apply state event ∈ states) :
    state ∈ states := by
  apply hrun.invariant (· ∈ states) hstart
  rintro state event _ hmem ⟨henabled, rfl⟩
  exact hclosed state hmem event henabled

end Transitions

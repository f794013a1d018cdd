import AuthMiniGateway.Lib.Tally
import AuthMiniGateway.ResolverPermits

namespace AuthMiniGateway.ResolverPermits

open Tally

/-! ### One lookup -/

/-- The counters that go up and down; `total_submitted` only goes up. -/
def Counter.tallied : List Counter :=
  [.heldR, .submittedUnobserved, .requestOwned, .cleanupOwned, .liveBlocking]

theorem Counter.mem_tallied {counter : Counter} (hcounter : counter ≠ .totalSubmitted) :
    counter ∈ Counter.tallied := by
  cases counter <;> first | decide | exact absurd rfl hcounter

def Change.effect : Change → Counter → ℤ
  | .fetchAdd changed, counter => if counter = changed then 1 else 0
  | .fetchSub changed, counter => if counter = changed then -1 else 0

/-- The contribution of a lookup whose stage has no change left to make. -/
def Stage.after : Stage → Counter → ℤ
  | .admission, .heldR | .observation _, .heldR => 1
  | .submission, .heldR | .submission, .submittedUnobserved | .submission, .requestOwned => 1
  | .awaiting .request, .heldR | .awaiting .request, .submittedUnobserved
  | .awaiting .request, .requestOwned => 1
  | .awaiting .cleanup, .heldR | .awaiting .cleanup, .submittedUnobserved
  | .awaiting .cleanup, .cleanupOwned => 1
  | .handover, .heldR | .handover, .submittedUnobserved | .handover, .cleanupOwned => 1
  | .scheduling, .heldR | .scheduling, .submittedUnobserved | .scheduling, .cleanupOwned => 1
  | .forgotten, .heldR | .forgotten, .submittedUnobserved | .forgotten, .cleanupOwned => 1
  | _, _ => 0

def Stage.observed : Stage → Bool
  | .observation _ | .release _ | .handBack _ | .finished => true
  | _ => false

def Stage.submits : Stage → Bool
  | .admission | .submission => true
  | _ => false

def Stage.settled : Stage → Bool
  | .handBack _ | .finished => true
  | _ => false

def Stage.all : List Stage :=
  [.admission, .submission, .awaiting .request, .awaiting .cleanup, .handover, .scheduling,
    .observation .request, .observation .cleanup, .release .request, .release .cleanup,
    .handBack .request, .handBack .cleanup, .finished, .forgotten]

def Stage.balance (stage : Stage) (pending : List Change) (counter : Counter) : ℤ :=
  stage.after counter - (pending.map (·.effect counter)).sum

def Stage.permits (stage : Stage) : ℤ := if stage.settled then 0 else 1

def Stage.rank : Stage → ℕ
  | .admission => 36
  | .submission => 32
  | .awaiting .request => 28
  | .handover => 24
  | .scheduling => 20
  | .awaiting .cleanup => 16
  | .observation _ => 12
  | .release _ => 8
  | .handBack _ => 4
  | .finished | .forgotten => 0

def TaskPoint.rank : TaskPoint → ℕ
  | .unspawned => 5
  | .queued => 4
  | .revoked | .starting => 3
  | .live => 2
  | .leaving => 1
  | .ended => 0

def Stage.tasks (stage : Stage) : List TaskPoint :=
  if stage.submits then [.unspawned]
  else if stage.observed then [.ended]
  else [.queued, .revoked, .starting, .live, .leaving, .ended]

inductive Move where
  | advance
  | join
  | drop
  | schedule (current : Bool)
  | block
  deriving DecidableEq

def Move.all : List Move := [.advance, .join, .drop, .schedule true, .schedule false, .block]

theorem Move.mem_all (move : Move) : move ∈ Move.all := by
  rcases move with _ | _ | _ | ⟨_ | _⟩ | _ <;> decide

namespace Lookup

def weight (counter : Counter) (lookup : Lookup) : ℤ :=
  lookup.stage.balance lookup.pending counter +
    if counter = .liveBlocking ∧ lookup.task = .live then 1 else 0

/-- An upper bound for the steps that a lookup and its task still make. -/
def remaining (lookup : Lookup) : ℕ :=
  lookup.stage.rank + lookup.pending.length + lookup.task.rank

def reachable : List Lookup :=
  Stage.all.flatMap fun stage => stage.method.tails.flatMap fun pending => stage.tasks.map fun task =>
    { stage, pending, task
      endObserved := stage.observed
      resolverReturned := if stage.settled then 1 else 0
      activeReturned := if stage = .finished then 1 else 0 }

/-- A move of a lookup by itself: where it goes, the change it makes and the permits it gives back. -/
def step (lookup : Lookup) : Move → Option (Lookup × Option Change × ℕ)
  | .advance =>
    match lookup.pending, lookup.stage with
    | made :: pending, _ => some ({ lookup with pending }, some made, 0)
    | [], .admission => some (lookup.enter .submission, none, 0)
    | [], .submission =>
      some ({ lookup with task := .queued }.enter (.awaiting .request), none, 0)
    | [], .handover =>
      some ({ lookup with task := lookup.task.abort }.enter .scheduling, none, 0)
    | [], .observation owner => some (lookup.enter (.release owner), none, 0)
    | [], .release owner =>
      some ({ lookup with resolverReturned := lookup.resolverReturned + 1 }.enter
        (.handBack owner), none, 1)
    | [], .handBack _ =>
      some ({ lookup with activeReturned := lookup.activeReturned + 1 }.enter .finished, none, 0)
    | [], _ => none
  | .join =>
    match lookup.stage, lookup.task with
    | .awaiting owner, .ended =>
      some ({ lookup with endObserved := true }.enter (.observation owner), none, 0)
    | _, _ => none
  | .drop =>
    match lookup.stage with
    | .awaiting .request => some (lookup.enter .handover, none, 0)
    | _ => none
  | .schedule current =>
    match lookup.stage with
    | .scheduling =>
      some (lookup.enter (if current then .awaiting .cleanup else .forgotten), none, 0)
    | _ => none
  | .block =>
    match lookup.task with
    | .queued => some ({ lookup with task := .starting }, none, 0)
    | .revoked => some ({ lookup with task := .ended }, none, 0)
    | .starting => some ({ lookup with task := .live }, some (.fetchAdd .liveBlocking), 0)
    | .live => some ({ lookup with task := .leaving }, some (.fetchSub .liveBlocking), 0)
    | .leaving => some ({ lookup with task := .ended }, none, 0)
    | .unspawned | .ended => none

@[mk_iff]
structure Moved (lookup : Lookup) (move : Move) (next : Lookup) (made : Option Change) (back : ℕ) :
    Prop where
  reachable : next ∈ reachable
  weight : ∀ counter ∈ Counter.tallied,
    next.weight counter = lookup.weight counter + (made.map (·.effect counter)).getD 0
  permits : next.stage.permits + back = lookup.stage.permits
  made : made ≠ some (.fetchSub .totalSubmitted)
  nearer : next.remaining < lookup.remaining
  forgotten : next.stage = .forgotten → lookup.stage = .forgotten ∨ move = .schedule false

instance (lookup : Lookup) (move : Move) (next : Lookup) (made : Option Change) (back : ℕ) :
    Decidable (Moved lookup move next made back) :=
  decidable_of_iff' _ (moved_iff lookup move next made back)

theorem step_moved {lookup next : Lookup} {move : Move} {made : Option Change} {back : ℕ}
    (hlookup : lookup ∈ reachable) (hstep : lookup.step move = some (next, made, back)) :
    Moved lookup move next made back := by
  have htable : ∀ lookup ∈ reachable, ∀ move ∈ Move.all, ∀ step ∈ lookup.step move,
      Moved lookup move step.1 step.2.1 step.2.2 := by
    decide +kernel
  exact htable lookup hlookup move move.mem_all (next, made, back) hstep

@[mk_iff]
structure Fair (lookup : Lookup) : Prop where
  bounds : ∀ counter ∈ Counter.tallied,
    0 ≤ lookup.weight counter ∧ lookup.weight counter ≤ lookup.stage.permits
  running : (if lookup.task.running then 1 else 0) ≤ lookup.stage.permits
  live : lookup.weight .liveBlocking ≤ lookup.weight .submittedUnobserved
  owned : lookup.halfWay = false →
    lookup.weight .submittedUnobserved = lookup.weight .requestOwned + lookup.weight .cleanupOwned ∧
      lookup.weight .submittedUnobserved ≤ lookup.weight .heldR
  returned : lookup.resolverReturned ≤ 1 ∧ lookup.activeReturned ≤ 1 ∧
    (0 < lookup.resolverReturned ∨ 0 < lookup.activeReturned →
      lookup.endObserved = true ∧ lookup.task = .ended) ∧
    (lookup.stage = .finished → lookup.resolverReturned = 1 ∧ lookup.activeReturned = 1)
  goesOn : lookup.stage ≠ .finished → lookup.stage ≠ .forgotten →
    ∃ move ∈ Move.all, (lookup.step move).isSome = true

instance (lookup : Lookup) : Decidable lookup.Fair := decidable_of_iff' _ (fair_iff lookup)

theorem fair_of_reachable {lookup : Lookup} (hlookup : lookup ∈ reachable) : lookup.Fair := by
  have htable : ∀ lookup ∈ reachable, lookup.Fair := by decide +kernel
  exact htable lookup hlookup

end Lookup

/-! ### One change of a counter -/

namespace ResolverAccounting

variable {accounting : ResolverAccounting} {made : Change}

theorem change_count (counter : Counter)
    (hlower : 0 ≤ (accounting.count counter : ℤ) + made.effect counter)
    (hupper : (accounting.count counter : ℤ) + made.effect counter < 2 ^ 64) :
    ((accounting.change made).count counter : ℤ) =
      accounting.count counter + made.effect counter := by
  cases made with
  | fetchAdd changed =>
    by_cases heq : counter = changed
    · subst heq
      simp only [change, Change.effect, Function.update_self, if_true] at hupper ⊢
      omega
    · simp [change, Change.effect, heq]
  | fetchSub changed =>
    by_cases heq : counter = changed
    · subst heq
      simp only [change, Change.effect, Function.update_self, if_true] at hlower hupper ⊢
      omega
    · simp [change, Change.effect, heq]

theorem change_underflowed (hbefore : accounting.underflowed = false)
    (hlower : ∀ counter, made = .fetchSub counter → accounting.count counter ≠ 0) :
    (accounting.change made).underflowed = false := by
  cases made with
  | fetchAdd => exact hbefore
  | fetchSub changed => simp [change, hbefore, hlower changed rfl]

end ResolverAccounting

/-! ### All lookups together -/

def ResolverEvent.lookup? : ResolverEvent → Option ℕ
  | .tryAcquire => none
  | .advance i | .join i | .drop i | .schedule i _ | .block i => some i

def Move.event (i : ℕ) : Move → ResolverEvent
  | .advance => .advance i
  | .join => .join i
  | .drop => .drop i
  | .schedule current => .schedule i current
  | .block => .block i

namespace ResolverRun

def moved (run : ResolverRun) (i : ℕ) (next : Lookup) (made : Option Change) (back : ℕ) : ResolverRun :=
  { accounting := made.elim run.accounting run.accounting.change, resolvers := run.resolvers + back,
    lookups := run.lookups.set i next }

structure Sound (limit : ℕ) (run : ResolverRun) : Prop where
  lookups : ∀ lookup ∈ run.lookups, lookup ∈ Lookup.reachable
  counts : ∀ counter, counter ≠ .totalSubmitted →
    (run.accounting.count counter : ℤ) = total (Lookup.weight counter) run.lookups
  permits : (run.resolvers : ℤ) + total (·.stage.permits) run.lookups = limit
  underflowed : run.accounting.underflowed = false

variable {limit : ℕ} {run after : ResolverRun} {i : ℕ} {lookup next : Lookup} {move : Move}
  {event : ResolverEvent} {made : Option Change} {back : ℕ}

theorem apply_move (move : Move) (hat : run.lookups[i]? = some lookup) :
    run.apply (move.event i) =
      (lookup.step move).map fun step => run.moved i step.1 step.2.1 step.2.2 := by
  obtain ⟨stage, pending, task, endObserved, resolverReturned, activeReturned⟩ := lookup
  cases move with
  | advance =>
    simp only [Move.event, apply, hat, Option.bind_some, advance, Lookup.step]
    cases pending with
    | cons => rfl
    | nil => cases stage <;> rfl
  | join =>
    simp only [Move.event, apply, hat, Option.bind_some, join, Lookup.step]
    cases stage <;> cases task <;> rfl
  | drop =>
    simp only [Move.event, apply, hat, Option.bind_some, drop, Lookup.step]
    rcases stage with _ | _ | ⟨_ | _⟩ | _ | _ | _ | _ | _ | _ | _ <;> rfl
  | schedule =>
    simp only [Move.event, apply, hat, Option.bind_some, schedule, Lookup.step]
    cases stage <;> rfl
  | block =>
    simp only [Move.event, apply, hat, Option.bind_some, block, Lookup.step]
    cases task <;> rfl

theorem exists_move (hevent : event.lookup? = some i) (hstep : run.apply event = some after) :
    ∃ move lookup next made back, event = move.event i ∧ run.lookups[i]? = some lookup ∧
      lookup.step move = some (next, made, back) ∧ after = run.moved i next made back := by
  obtain ⟨move, rfl⟩ : ∃ move : Move, event = move.event i := by
    cases event with
    | tryAcquire => cases hevent
    | advance _ | join _ | drop _ | schedule _ _ | block _ =>
      cases hevent
      first
        | exact ⟨.advance, rfl⟩
        | exact ⟨.join, rfl⟩
        | exact ⟨.drop, rfl⟩
        | exact ⟨.schedule _, rfl⟩
        | exact ⟨.block, rfl⟩
  have hsome : ∃ lookup, run.lookups[i]? = some lookup := by
    cases move <;> exact (Option.bind_eq_some_iff.mp hstep).imp fun _ => And.left
  obtain ⟨lookup, hat⟩ := hsome
  rw [apply_move move hat, Option.map_eq_some_iff] at hstep
  obtain ⟨⟨next, made, back⟩, hstep, rfl⟩ := hstep
  exact ⟨move, lookup, next, made, back, rfl, hat, hstep, rfl⟩

theorem Sound.reachable_at (hsound : run.Sound limit) (hat : run.lookups[i]? = some lookup) :
    lookup ∈ Lookup.reachable :=
  hsound.lookups lookup (List.mem_of_getElem? hat)

theorem weight_bounds {resolvers : ℕ} {lookups : List Lookup}
    (hlookups : ∀ lookup ∈ lookups, lookup ∈ Lookup.reachable)
    (hpermits : (resolvers : ℤ) + total (·.stage.permits) lookups = limit) {counter : Counter}
    (hcounter : counter ≠ .totalSubmitted) :
    0 ≤ total (Lookup.weight counter) lookups ∧ total (Lookup.weight counter) lookups ≤ limit := by
  have hbounds := fun lookup hmem =>
    (Lookup.fair_of_reachable (hlookups lookup hmem)).bounds counter (Counter.mem_tallied hcounter)
  have hle := total_le fun lookup hmem => (hbounds lookup hmem).2
  exact ⟨total_nonneg fun lookup hmem => (hbounds lookup hmem).1, by omega⟩

theorem moved_sound (hlimit : limit < 2 ^ 64) (hsound : run.Sound limit)
    (hat : run.lookups[i]? = some lookup) (hmoved : Lookup.Moved lookup move next made back) :
    (run.moved i next made back).Sound limit := by
  have hlookups : ∀ lookup ∈ run.lookups.set i next, lookup ∈ Lookup.reachable := by
    intro lookup hmem
    rcases List.mem_or_eq_of_mem_set hmem with hold | rfl
    · exact hsound.lookups lookup hold
    · exact hmoved.reachable
  have hpermits : ((run.resolvers + back : ℕ) : ℤ) +
      total (·.stage.permits) (run.lookups.set i next) = limit := by
    have hbefore := hsound.permits
    have hchange := hmoved.permits
    rw [total_set hat]
    omega
  have hafter : ∀ counter, counter ≠ .totalSubmitted →
      total (Lookup.weight counter) (run.lookups.set i next) =
        run.accounting.count counter + (made.map (·.effect counter)).getD 0 := by
    intro counter hcounter
    rw [total_set hat, hmoved.weight counter (Counter.mem_tallied hcounter),
      hsound.counts counter hcounter]
    omega
  have hbounds (counter : Counter) (hcounter : counter ≠ .totalSubmitted) :=
    weight_bounds hlookups hpermits hcounter
  cases made with
  | none =>
    refine ⟨hlookups, fun counter hcounter => ?_, hpermits, hsound.underflowed⟩
    exact ((hafter counter hcounter).trans (add_zero _)).symm
  | some made =>
    refine ⟨hlookups, fun counter hcounter => ?_, hpermits, ?_⟩
    · have hcounts := hbounds counter hcounter
      rw [hafter counter hcounter, Option.map_some, Option.getD_some] at hcounts
      have hchanged := ResolverAccounting.change_count counter hcounts.1 (by omega)
      exact hchanged.trans (hafter counter hcounter).symm
    · apply ResolverAccounting.change_underflowed hsound.underflowed
      rintro counter rfl hzero
      have hcounter : counter ≠ .totalSubmitted := by
        rintro rfl
        exact hmoved.made rfl
      have hcounts := hbounds counter hcounter
      rw [hafter counter hcounter, hzero] at hcounts
      simp [Change.effect] at hcounts

theorem tryAcquire_sound (hsound : run.Sound limit) (hstep : run.tryAcquire = some after) :
    after.Sound limit := by
  unfold tryAcquire at hstep
  split at hstep
  · cases hstep
  next havailable =>
    cases hstep
    refine ⟨?_, ?_, ?_, hsound.underflowed⟩
    · intro lookup hmem
      rcases List.mem_append.mp hmem with hold | hnew
      · exact hsound.lookups lookup hold
      · rw [List.mem_singleton.mp hnew]
        decide
    · intro counter hcounter
      have hweight : Lookup.admitted.weight counter = 0 :=
        have htable : ∀ counter ∈ Counter.tallied, Lookup.admitted.weight counter = 0 := by decide
        htable counter (Counter.mem_tallied hcounter)
      simp only [total_concat, hweight, hsound.counts counter hcounter, add_zero]
    · have hpermits := hsound.permits
      have hone : Lookup.admitted.stage.permits = 1 := rfl
      simp only [total_concat, hone]
      omega

theorem apply_sound (hlimit : limit < 2 ^ 64) (hsound : run.Sound limit)
    (hstep : run.apply event = some after) : after.Sound limit := by
  rcases hevent : event.lookup? with _ | i
  · cases event with
    | tryAcquire => exact tryAcquire_sound hsound hstep
    | _ => cases hevent
  · obtain ⟨move, lookup, next, made, back, -, hat, hmove, rfl⟩ := exists_move hevent hstep
    exact moved_sound hlimit hsound hat (Lookup.step_moved (hsound.reachable_at hat) hmove)

theorem initial_sound (limit : ℕ) : (initial limit).Sound limit :=
  ⟨nofun, fun _ _ => rfl, add_zero _, rfl⟩

theorem sound_of_run {events : List ResolverEvent} (hlimit : limit < 2 ^ 64)
    (hrun : resolverSystem.Run (initial limit) events run) : run.Sound limit := by
  apply hrun.invariant (Sound limit) (initial_sound limit)
  intro run event after hsound hstep
  exact apply_sound hlimit hsound hstep

/-! ### Every lookup comes to its end -/

theorem not_forgotten {events : List ResolverEvent} (hlimit : limit < 2 ^ 64)
    (hrun : resolverSystem.Run (initial limit) events run)
    (halive : ∀ i, .schedule i false ∉ events) :
    ∀ lookup ∈ run.lookups, lookup.stage ≠ .forgotten := by
  induction hrun with
  | start => nofun
  | @step _ run after event hrun hstep ih =>
    have hbefore := ih fun i hmem => halive i (List.mem_cons_of_mem _ hmem)
    have hsound := sound_of_run hlimit hrun
    intro lookup hmem
    rcases hevent : event.lookup? with _ | i
    · cases event with
      | tryAcquire =>
        obtain ⟨-, rfl⟩ : run.resolvers ≠ 0 ∧ { run with
            resolvers := run.resolvers - 1,
            lookups := run.lookups ++ [.admitted] } = after := by
          simpa [resolverSystem, Transitions.computed, apply, tryAcquire] using hstep
        rcases List.mem_append.mp hmem with hold | hnew
        · exact hbefore lookup hold
        · rw [List.mem_singleton.mp hnew]
          nofun
      | _ => cases hevent
    · obtain ⟨move, old, next, made, back, rfl, hat, hmove, rfl⟩ := exists_move hevent hstep
      rcases List.mem_or_eq_of_mem_set hmem with hold | rfl
      · exact hbefore lookup hold
      · intro hstage
        rcases (Lookup.step_moved (hsound.reachable_at hat) hmove).forgotten hstage with hbad | rfl
        · exact hbefore old (List.mem_of_getElem? hat) hbad
        · exact halive i List.mem_cons_self

theorem exists_apply (hsound : run.Sound limit) (hat : run.lookups[i]? = some lookup)
    (hfinished : lookup.stage ≠ .finished) (hforgotten : lookup.stage ≠ .forgotten) :
    ∃ event after, event.lookup? = some i ∧ run.apply event = some after := by
  obtain ⟨move, -, hmove⟩ :=
    (Lookup.fair_of_reachable (hsound.reachable_at hat)).goesOn hfinished hforgotten
  obtain ⟨step, hstep⟩ := Option.isSome_iff_exists.mp hmove
  have happly := apply_move move hat
  rw [hstep, Option.map_some] at happly
  have hevent : (move.event i).lookup? = some i := by
    cases move <;> rfl
  exact ⟨move.event i, _, hevent, happly⟩

theorem Sound.running_le (hsound : run.Sound limit) : run.running ≤ limit := by
  have hcount : total (fun lookup => if lookup.task.running then 1 else 0) run.lookups =
      run.running := total_countP _
  have hle : total (fun lookup => if lookup.task.running then 1 else 0) run.lookups ≤
      total (·.stage.permits) run.lookups :=
    total_le fun lookup hmem => (Lookup.fair_of_reachable (hsound.lookups lookup hmem)).running
  have hpermits := hsound.permits
  omega

theorem Sound.counts_whole (hsound : run.Sound limit)
    (hwhole : ∀ lookup ∈ run.lookups, lookup.halfWay = false) :
    run.accounting.count .submittedUnobserved =
        run.accounting.count .requestOwned + run.accounting.count .cleanupOwned ∧
      run.accounting.count .submittedUnobserved ≤ run.accounting.count .heldR ∧
      run.accounting.count .liveBlocking ≤ run.accounting.count .submittedUnobserved := by
  have hfair := fun lookup hmem => Lookup.fair_of_reachable (hsound.lookups lookup hmem)
  have howned := fun lookup hmem => (hfair lookup hmem).owned (hwhole lookup hmem)
  have hsum : total (Lookup.weight .submittedUnobserved) run.lookups =
      total (Lookup.weight .requestOwned) run.lookups +
        total (Lookup.weight .cleanupOwned) run.lookups := by
    rw [← total_add]
    exact total_congr fun lookup hmem => (howned lookup hmem).1
  have hheld := total_le fun lookup hmem => (howned lookup hmem).2
  have hlive := total_le fun lookup hmem => (hfair lookup hmem).live
  rw [← hsound.counts _ (by decide), ← hsound.counts _ (by decide),
    ← hsound.counts _ (by decide)] at hsum
  rw [← hsound.counts _ (by decide), ← hsound.counts _ (by decide)] at hheld hlive
  omega

end ResolverRun

/-- **Resolver permits are conserved.** In every interleaving of any number of lookups, whose requests
may time out or be dropped while they wait:
* where no accounting method is half-way, the submitted lookups whose end is unobserved are those that
  a request or a cleanup task owns, no more than the resolver permits held, and no fewer than the live
  blocking tasks;
* no counter has wrapped below zero;
* no permit of a lookup is returned twice, none before the end of its blocking task was observed, and
  a lookup that is through has returned both;
* a lookup that is not through can go on, and each of its steps brings it closer to its end, unless it
  was dropped where no runtime was current;
* the running blocking tasks never exceed the resolver limit. -/
theorem resolver_permits_conserved {limit : ℕ} {events : List ResolverEvent} {run : ResolverRun}
    (hlimit : limit < 2 ^ 64) (hrun : resolverSystem.Run (.initial limit) events run) :
    ((∀ lookup ∈ run.lookups, lookup.halfWay = false) →
      run.accounting.count .submittedUnobserved =
          run.accounting.count .requestOwned + run.accounting.count .cleanupOwned ∧
        run.accounting.count .submittedUnobserved ≤ run.accounting.count .heldR ∧
        run.accounting.count .liveBlocking ≤ run.accounting.count .submittedUnobserved) ∧
    run.accounting.underflowed = false ∧
    (∀ lookup ∈ run.lookups, lookup.resolverReturned ≤ 1 ∧ lookup.activeReturned ≤ 1 ∧
      (0 < lookup.resolverReturned ∨ 0 < lookup.activeReturned →
        lookup.endObserved = true ∧ lookup.task = .ended) ∧
      (lookup.stage = .finished → lookup.resolverReturned = 1 ∧ lookup.activeReturned = 1)) ∧
    (∀ (i : ℕ) (lookup : Lookup), run.lookups[i]? = some lookup →
      ((∀ j, .schedule j false ∉ events) → lookup.stage ≠ .finished →
        ∃ event after, event.lookup? = some i ∧ run.apply event = some after) ∧
      (∀ event after, event.lookup? = some i → run.apply event = some after →
        ∃ next : Lookup, after.lookups = run.lookups.set i next ∧
          next.remaining < lookup.remaining)) ∧
    run.running ≤ limit := by
  have hsound := ResolverRun.sound_of_run hlimit hrun
  refine ⟨hsound.counts_whole, hsound.underflowed, ?_, ?_, hsound.running_le⟩
  · intro lookup hmem
    exact (Lookup.fair_of_reachable (hsound.lookups lookup hmem)).returned
  · intro i lookup hat
    constructor
    · intro halive hfinished
      have hforgotten := ResolverRun.not_forgotten hlimit hrun halive lookup
        (List.mem_of_getElem? hat)
      exact ResolverRun.exists_apply hsound hat hfinished hforgotten
    · intro event after hevent hstep
      obtain ⟨move, old, next, made, back, -, hold, hmove, rfl⟩ :=
        ResolverRun.exists_move hevent hstep
      obtain rfl : old = lookup := Option.some.inj (hold.symm.trans hat)
      exact ⟨next, rfl, (Lookup.step_moved (hsound.reachable_at hat) hmove).nearer⟩

/-- The first lookup times out while its task runs; its cleanup task gives both permits back after the
task has ended, and meanwhile the second lookup is submitted. -/
def timedOutLookup : List ResolverEvent :=
  [.tryAcquire] ++ List.replicate 6 (.advance 0) ++ [.block 0, .block 0, .drop 0] ++
    List.replicate 3 (.advance 0) ++ [.schedule 0 true, .tryAcquire] ++ List.replicate 6 (.advance 1) ++
    [.block 0, .block 0, .join 0] ++ List.replicate 6 (.advance 0)

theorem resolver_permits_conserved_timeout :
    ∃ run, timedOutLookup.foldlM ResolverRun.apply (.initial 2) = some run ∧
      run.accounting.count .submittedUnobserved = 1 ∧ run.accounting.count .heldR = 1 ∧
      run.resolvers = 1 ∧ run.accounting.underflowed = false ∧ run.running ≤ 2 := by
  obtain ⟨run, hreplay, hsubmitted, hheld, hresolvers⟩ :
      ∃ run, timedOutLookup.foldlM ResolverRun.apply (.initial 2) = some run ∧
        run.accounting.count .submittedUnobserved = 1 ∧ run.accounting.count .heldR = 1 ∧
        run.resolvers = 1 := ⟨_, rfl, rfl, rfl, rfl⟩
  have hrun := Transitions.computed_run .start timedOutLookup hreplay
  have hconserved := resolver_permits_conserved (by decide) hrun
  exact ⟨run, hreplay, hsubmitted, hheld, hresolvers, hconserved.2.1, hconserved.2.2.2.2⟩

end AuthMiniGateway.ResolverPermits

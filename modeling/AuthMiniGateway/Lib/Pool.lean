import AuthMiniGateway.Lib.Program

/-!
# Pools of workers

Any number of workers run programs over one world, one request at a time and in any order. What a worker
remembers has happened, in that order (`Pool.chained_of_run`), and assertions about single programs, stable
under what the others may do, hold of all of them together (`Discipline.sound_of_run`).
-/

structure Event (I : Interface) (W : Type) extends Exchange I where
  before : W
  after : W

theorem mem_exchanges {I : Interface} {W : Type} {history : List (Event I W)} {x : Exchange I} :
    x ∈ history.map Event.toExchange ↔ ∃ before after, ⟨x, before, after⟩ ∈ history := by
  constructor
  · intro hx
    obtain ⟨⟨y, before, after⟩, hmem, rfl⟩ := List.mem_map.mp hx
    exact ⟨before, after, hmem⟩
  · rintro ⟨before, after, hmem⟩
    exact List.mem_map.mpr ⟨_, hmem, rfl⟩

structure Worker (I : Interface) (W J α : Type) where
  job : J
  program : Program I α
  history : List (Event I W)
  born : W

structure Pool (I : Interface) (ι W J α : Type) where
  workers : ι → Option (Worker I W J α)
  world : W

structure Machine (I : Interface) (ι W J α : Type) where
  body : (proc : I.Proc) → Program I (I.Out proc)
  start : J → Program I α
  act : ι → (op : I.Op) → W → I.Reply op → W → Prop
  env : W → W → Prop

section Pools

variable {I : Interface} {ι W J α : Type}

namespace Pool

def set [DecidableEq ι] (pool : Pool I ι W J α) (i : ι) (worker : Worker I W J α) (world : W) :
    Pool I ι W J α :=
  { workers := Function.update pool.workers i (some worker), world }

def idle (world : W) : Pool I ι W J α :=
  { workers := fun _ => none
    world }

end Pool

inductive PoolStep [DecidableEq ι] (m : Machine I ι W J α) : Pool I ι W J α → Pool I ι W J α → Prop where
  | env {pool : Pool I ι W J α} {world : W} (henv : m.env pool.world world) :
      PoolStep m pool { pool with world }
  | spawn {pool : Pool I ι W J α} (i : ι) (job : J) (hfree : pool.workers i = none) :
      PoolStep m pool (pool.set i ⟨job, m.start job, [], pool.world⟩ pool.world)
  | request {pool : Pool I ι W J α} {i : ι} {job : J} {op : I.Op}
      {next : I.Reply op → Program I α} {history : List (Event I W)} {born world : W}
      {reply : I.Reply op}
      (hworker : pool.workers i = some ⟨job, .request op next, history, born⟩)
      (hact : m.act i op pool.world reply world) :
      PoolStep m pool
        (pool.set i ⟨job, next reply, ⟨⟨op, reply⟩, pool.world, world⟩ :: history, born⟩ world)
  | call {pool : Pool I ι W J α} {i : ι} {job : J} {proc : I.Proc}
      {next : I.Out proc → Program I α} {history : List (Event I W)} {born : W}
      (hworker : pool.workers i = some ⟨job, .call proc next, history, born⟩) :
      PoolStep m pool (pool.set i ⟨job, (m.body proc).bind next, history, born⟩ pool.world)

abbrev PoolRun [DecidableEq ι] (m : Machine I ι W J α) : Pool I ι W J α → Pool I ι W J α → Prop :=
  Relation.ReflTransGen (PoolStep m)

/-! ### What happens to the world -/

def Machine.WorldStep (m : Machine I ι W J α) (w w' : W) : Prop :=
  m.env w w' ∨ ∃ i op reply, m.act i op w reply w'

abbrev Machine.WorldRun (m : Machine I ι W J α) : W → W → Prop :=
  Relation.ReflTransGen m.WorldStep

variable {m : Machine I ι W J α} {pool pool' : Pool I ι W J α}

/-- The events of `history` happened between `born` and `world`, in their order. -/
def Chained (m : Machine I ι W J α) (i : ι) (born : W) : List (Event I W) → W → Prop
  | [], world => m.WorldRun born world
  | event :: history, world => m.WorldRun event.after world ∧
      m.act i event.op event.before event.reply event.after ∧
      Chained m i born history event.before

variable {i : ι} {born w : W} {history : List (Event I W)}

theorem Chained.later {w' : W} (h : Chained m i born history w) (hrun : m.WorldRun w w') :
    Chained m i born history w' := by
  cases history with
  | nil => exact h.trans hrun
  | cons => exact ⟨h.1.trans hrun, h.2⟩

theorem Chained.worldRun (h : Chained m i born history w) : m.WorldRun born w := by
  induction history generalizing w with
  | nil => exact h
  | cons _ _ ih =>
    obtain ⟨hlater, hact, hearlier⟩ := h
    exact ((ih hearlier).tail (Or.inr ⟨_, _, _, hact⟩)).trans hlater

theorem Chained.of_mem {event : Event I W} (h : Chained m i born history w)
    (hevent : event ∈ history) :
    m.WorldRun born event.before ∧
      m.act i event.op event.before event.reply event.after ∧ m.WorldRun event.after w := by
  induction history generalizing w with
  | nil => cases hevent
  | cons _ _ ih =>
    obtain ⟨hlater, hact, hearlier⟩ := h
    rcases List.mem_cons.mp hevent with rfl | hmem
    · exact ⟨hearlier.worldRun, hact, hlater⟩
    · obtain ⟨hborn, hevent, hrun⟩ := ih hearlier hmem
      exact ⟨hborn, hevent, (hrun.tail (Or.inr ⟨_, _, _, hact⟩)).trans hlater⟩

section Steps

variable [DecidableEq ι]

theorem PoolStep.worldRun (h : PoolStep m pool pool') : m.WorldRun pool.world pool'.world := by
  cases h with
  | env henv => exact .single (Or.inl henv)
  | spawn => exact .refl
  | request _ hact => exact .single (Or.inr ⟨_, _, _, hact⟩)
  | call => exact .refl

theorem PoolRun.worldRun (hrun : PoolRun m pool pool') : m.WorldRun pool.world pool'.world := by
  induction hrun with
  | refl => exact .refl
  | tail _ hstep ih => exact ih.trans hstep.worldRun

namespace Pool

theorem set_cases {worker worker' : Worker I W J α} {i j : ι} {world : W}
    (h : (pool.set i worker world).workers j = some worker') :
    j = i ∧ worker' = worker ∨ j ≠ i ∧ pool.workers j = some worker' := by
  by_cases hj : j = i
  · subst hj
    left
    simpa [set, eq_comm] using h
  · right
    exact ⟨hj, by simpa [set, hj] using h⟩

theorem born_cases (hrun : PoolRun m pool pool') :
    ∀ i worker, pool'.workers i = some worker →
      (∃ earlier, pool.workers i = some earlier ∧ earlier.born = worker.born) ∨
        m.WorldRun pool.world worker.born := by
  induction hrun with
  | refl => exact fun i worker hworker => Or.inl ⟨worker, hworker, rfl⟩
  | tail hrun hstep ih =>
    intro j worker hworker
    cases hstep with
    | env => exact ih j worker hworker
    | spawn =>
      rcases set_cases hworker with ⟨rfl, rfl⟩ | ⟨-, hold⟩
      · exact Or.inr (PoolRun.worldRun hrun)
      · exact ih j worker hold
    | request hbefore =>
      rcases set_cases hworker with ⟨rfl, rfl⟩ | ⟨-, hold⟩
      · have hearlier := ih _ _ hbefore
        exact hearlier
      · exact ih j worker hold
    | call hbefore =>
      rcases set_cases hworker with ⟨rfl, rfl⟩ | ⟨-, hold⟩
      · have hearlier := ih _ _ hbefore
        exact hearlier
      · exact ih j worker hold

theorem worldRun_born {start : W} (hrun : PoolRun m (idle start) pool) {i : ι}
    {worker : Worker I W J α} (hworker : pool.workers i = some worker) :
    m.WorldRun start worker.born := by
  rcases born_cases hrun i worker hworker with ⟨earlier, hearlier, -⟩ | hborn
  · cases hearlier
  · exact hborn

/-- **What the workers remember has happened.** -/
theorem chained_of_run (hrun : PoolRun m pool pool')
    (hstart : ∀ i worker, pool.workers i = some worker →
      Chained m i worker.born worker.history pool.world) :
    ∀ i worker, pool'.workers i = some worker →
      Chained m i worker.born worker.history pool'.world := by
  induction hrun with
  | refl => exact hstart
  | tail _ hstep ih =>
    intro j worker hworker
    have hworld := hstep.worldRun
    cases hstep with
    | env => exact (ih j worker hworker).later hworld
    | spawn =>
      rcases set_cases hworker with ⟨rfl, rfl⟩ | ⟨-, hold⟩
      · exact Relation.ReflTransGen.refl
      · exact ih j worker hold
    | request hbefore hact =>
      rcases set_cases hworker with ⟨rfl, rfl⟩ | ⟨-, hold⟩
      · exact ⟨.refl, hact, ih _ _ hbefore⟩
      · exact (ih j worker hold).later hworld
    | call hbefore =>
      rcases set_cases hworker with ⟨rfl, rfl⟩ | ⟨-, hold⟩
      · have hchained := ih _ _ hbefore
        exact hchained
      · exact ih j worker hold

end Pool

end Steps

section Extend

variable [DecidableEq ι] {start : Pool I ι W J α}

theorem PoolRun.extend_spawn (hrun : PoolRun m start pool) (i : ι) (job : J)
    (hfree : pool.workers i = none) :
    ∃ pool', PoolRun m start pool' ∧ pool'.world = pool.world ∧
      pool'.workers i = some ⟨job, m.start job, [], pool.world⟩ :=
  ⟨_, hrun.tail (.spawn i job hfree), rfl, Function.update_self i _ _⟩

theorem PoolRun.extend_request {i : ι} {job : J} {op : I.Op} {next : I.Reply op → Program I α}
    {history : List (Event I W)} {born w : W} (hrun : PoolRun m start pool) (hworld : pool.world = w)
    (hworker : pool.workers i = some ⟨job, .request op next, history, born⟩) (reply : I.Reply op)
    (w' : W) (hact : m.act i op w reply w') :
    ∃ pool', PoolRun m start pool' ∧ pool'.world = w' ∧
      pool'.workers i = some ⟨job, next reply, ⟨⟨op, reply⟩, w, w'⟩ :: history, born⟩ := by
  subst hworld
  exact ⟨_, hrun.tail (.request hworker hact), rfl, Function.update_self i _ _⟩

end Extend

/-! ### Assertions about all workers together -/

/-- A discipline gives every worker a view of its history and of the world. `acts` is where the
workers meet: what one does under its guarantee is among the things that all others allow for. -/
structure Discipline (m : Machine I ι W J α) (V : Type) where
  inv : W → Prop
  view : ι → J → View I V
  contract : ι → J → Contract I V
  see : ι → J → W → List (Event I W) → W → V
  goal : ι → J → V → α → Prop
  kept : ∀ i job, (contract i job).Kept (view i job) m.body
  env : ∀ {w w'}, inv w → m.env w w' → inv w' ∧
    ∀ i job born history, (view i job).may (see i job born history w) (see i job born history w')
  starts : ∀ {w} i job, inv w →
    (m.start job).Meets (view i job) (contract i job) (see i job w [] w) (goal i job)
  acts : ∀ {w w'} i job born history op reply, inv w → m.act i op w reply w' →
    (view i job).guar op (see i job born history w) →
    inv w' ∧
      (view i job).act op (see i job born history w) reply
        (see i job born (⟨⟨op, reply⟩, w, w'⟩ :: history) w') ∧
      ∀ j, j ≠ i → ∀ job born history,
        (view j job).may (see j job born history w) (see j job born history w')

namespace Discipline

variable {V : Type} (d : Discipline m V)

structure Sound (pool : Pool I ι W J α) : Prop where
  inv : d.inv pool.world
  meets : ∀ i worker, pool.workers i = some worker →
    worker.program.Meets (d.view i worker.job) (d.contract i worker.job)
      (d.see i worker.job worker.born worker.history pool.world) (d.goal i worker.job)

theorem sound_idle {world : W} (hinv : d.inv world) : d.Sound (Pool.idle world) :=
  ⟨hinv, fun _ _ hworker => by cases hworker⟩

theorem Sound.goal_of_pure {d : Discipline m V} (hsound : d.Sound pool) {i : ι} {job : J}
    {value : α} {history : List (Event I W)} {born : W}
    (hworker : pool.workers i = some ⟨job, .pure value, history, born⟩) :
    d.goal i job (d.see i job born history pool.world) value :=
  hsound.meets i _ hworker _ ((d.view i _).may_refl _)

theorem Sound.guar_of_request {d : Discipline m V} (hsound : d.Sound pool) {i : ι} {job : J}
    {op : I.Op} {next : I.Reply op → Program I α} {history : List (Event I W)} {born : W}
    (hworker : pool.workers i = some ⟨job, .request op next, history, born⟩) :
    (d.view i job).guar op (d.see i job born history pool.world) :=
  (hsound.meets i _ hworker _ ((d.view i _).may_refl _)).1

section Steps

variable [DecidableEq ι]

theorem sound_of_step (hsound : d.Sound pool) (hstep : PoolStep m pool pool') :
    d.Sound pool' := by
  cases hstep with
  | env henv =>
    obtain ⟨hinv, hmay⟩ := d.env hsound.inv henv
    exact ⟨hinv, fun i worker hworker => (hsound.meets i worker hworker).of_may (hmay _ _ _ _)⟩
  | spawn _ job =>
    refine ⟨hsound.inv, fun j worker hworker => ?_⟩
    rcases Pool.set_cases hworker with ⟨rfl, rfl⟩ | ⟨-, hold⟩
    · exact d.starts j job hsound.inv
    · exact hsound.meets j worker hold
  | @request i job op _ history born _ reply hbefore hact =>
    obtain ⟨hguar, hnext⟩ := hsound.meets i _ hbefore _ ((d.view i _).may_refl _)
    obtain ⟨hinv, hown, hothers⟩ := d.acts i job born history op reply hsound.inv hact hguar
    refine ⟨hinv, fun j worker hworker => ?_⟩
    rcases Pool.set_cases hworker with ⟨rfl, rfl⟩ | ⟨hj, hold⟩
    · exact hnext reply _ hown
    · exact (hsound.meets j worker hold).of_may (hothers j hj _ _ _)
  | call hbefore =>
    refine ⟨hsound.inv, fun j worker hworker => ?_⟩
    rcases Pool.set_cases hworker with ⟨rfl, rfl⟩ | ⟨-, hold⟩
    · exact (hsound.meets j _ hbefore).unfold (d.kept j _)
    · exact hsound.meets j worker hold

/-- **Assertions compose.** What holds of every worker alone, under the interference it allows for,
holds of all of them in every run. -/
theorem sound_of_run (hsound : d.Sound pool) (hrun : PoolRun m pool pool') : d.Sound pool' := by
  induction hrun with
  | refl => exact hsound
  | tail _ hstep ih => exact d.sound_of_step ih hstep

/-- What holds of the view of a worker when it starts, and stays under the acts of the others and under
its own, holds of the views of all workers in every run. -/
theorem view_of_run (holds : ι → J → V → Prop)
    (hstart : ∀ i job w, d.inv w → holds i job (d.see i job w [] w))
    (hmay : ∀ i job v v', holds i job v → (d.view i job).may v v' → holds i job v')
    (hact : ∀ i job op reply v v', holds i job v → (d.view i job).guar op v →
      (d.view i job).act op v reply v' → holds i job v')
    {start : W} (hinv : d.inv start) (hrun : PoolRun m (Pool.idle start) pool) :
    ∀ i worker, pool.workers i = some worker →
      holds i worker.job (d.see i worker.job worker.born worker.history pool.world) := by
  induction hrun with
  | refl => exact fun _ _ hworker => by cases hworker
  | tail hrun hstep ih =>
    have hsound := d.sound_of_run (d.sound_idle hinv) hrun
    intro j worker hworker
    cases hstep with
    | env henv => exact hmay _ _ _ _ (ih j worker hworker) ((d.env hsound.inv henv).2 _ _ _ _)
    | spawn =>
      rcases Pool.set_cases hworker with ⟨rfl, rfl⟩ | ⟨-, hold⟩
      · exact hstart _ _ _ hsound.inv
      · exact ih j worker hold
    | @request i job op _ history born _ reply hbefore hact' =>
      have hguar := hsound.guar_of_request hbefore
      obtain ⟨-, hown, hothers⟩ := d.acts i job born history op reply hsound.inv hact' hguar
      rcases Pool.set_cases hworker with ⟨rfl, rfl⟩ | ⟨hj, hold⟩
      · have hholds := ih _ _ hbefore
        exact hact _ _ _ _ _ _ hholds hguar hown
      · exact hmay _ _ _ _ (ih j worker hold) (hothers j hj _ _ _)
    | call hbefore =>
      rcases Pool.set_cases hworker with ⟨rfl, rfl⟩ | ⟨-, hold⟩
      · have hholds := ih _ _ hbefore
        exact hholds
      · exact ih j worker hold

end Steps

end Discipline

/-! ### Workers that look at their own exchanges only -/

/-- Every event was owed when it was asked for. -/
def Guarded (guar : I.Op → List (Exchange I) → Prop) : List (Event I W) → Prop
  | [] => True
  | event :: history => guar event.op (history.map Event.toExchange) ∧ Guarded guar history

theorem Guarded.split {guar : I.Op → List (Exchange I) → Prop} {later earlier : List (Event I W)}
    {event : Event I W} (h : Guarded guar (later ++ event :: earlier)) :
    guar event.op (earlier.map Event.toExchange) ∧ Guarded guar earlier := by
  induction later with
  | nil => exact h
  | cons _ _ ih => exact ih h.2

/-- A specification of jobs by exchanges: it holds over every world. -/
structure ExchangeSpec (m : Machine I ι W J α) where
  guar : J → I.Op → List (Exchange I) → Prop
  contract : J → Contract I (List (Exchange I))
  goal : J → List (Exchange I) → α → Prop
  kept : ∀ job, (contract job).Kept (exchangeView (guar job)) m.body
  starts : ∀ job, (m.start job).Meets (exchangeView (guar job)) (contract job) [] (goal job)

namespace ExchangeSpec

variable (spec : ExchangeSpec m)

def discipline : Discipline m (List (Exchange I)) where
  inv _ := True
  view _ job := exchangeView (spec.guar job)
  contract _ := spec.contract
  see _ _ _ history _ := history.map Event.toExchange
  goal _ := spec.goal
  kept _ job := spec.kept job
  env _ _ := ⟨trivial, fun _ _ _ _ => rfl⟩
  starts _ job _ := spec.starts job
  acts _ _ _ _ _ _ _ _ _ := ⟨trivial, rfl, fun _ _ _ _ _ => rfl⟩

variable [DecidableEq ι] {start : W}

theorem guarded_of_run (hrun : PoolRun m (Pool.idle start) pool) :
    ∀ i worker, pool.workers i = some worker →
      Guarded (spec.guar worker.job) worker.history := by
  induction hrun with
  | refl => exact fun _ _ hworker => by cases hworker
  | tail hrun hstep ih =>
    intro j worker hworker
    cases hstep with
    | env => exact ih j worker hworker
    | spawn =>
      rcases Pool.set_cases hworker with ⟨rfl, rfl⟩ | ⟨-, hold⟩
      · exact trivial
      · exact ih j worker hold
    | request hbefore =>
      rcases Pool.set_cases hworker with ⟨rfl, rfl⟩ | ⟨-, hold⟩
      · have hsound := spec.discipline.sound_of_run (spec.discipline.sound_idle trivial) hrun
        exact ⟨hsound.guar_of_request hbefore, ih _ _ hbefore⟩
      · exact ih j worker hold
    | call hbefore =>
      rcases Pool.set_cases hworker with ⟨rfl, rfl⟩ | ⟨-, hold⟩
      · have hguarded := ih _ _ hbefore
        exact hguarded
      · exact ih j worker hold

theorem goal_of_run (hrun : PoolRun m (Pool.idle start) pool) {i : ι} {job : J} {value : α}
    {history : List (Event I W)} {born : W}
    (hworker : pool.workers i = some ⟨job, .pure value, history, born⟩) :
    spec.goal job (history.map Event.toExchange) value :=
  (spec.discipline.sound_of_run (spec.discipline.sound_idle trivial) hrun).goal_of_pure hworker

end ExchangeSpec

end Pools

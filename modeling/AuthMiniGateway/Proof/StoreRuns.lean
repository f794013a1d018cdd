import AuthMiniGateway.Proof.Authorisation

namespace AuthMiniGateway

open Store Trace

variable {json : AmrJson} {platform : Platform} {config : Config}

section

variable {start s s' : StoreState} {w w' : SystemWorld} {op : StoreOp} {reply : Res op.Value}

theorem StoreState.Moves.seen_subset (h : s.Moves json s') : s.seen ⊆ s'.seen := by
  rcases h with ⟨r, op, -, rfl⟩ | ⟨now, -, rfl⟩
  · exact List.subset_append_right _ _
  · exact List.Subset.refl _

theorem StoreServes.replies (h : StoreServes json op s reply s') :
    StoreReplies json op s reply s' := by
  rcases h with ⟨r, htimely, hreply, hstep⟩ | hfailed
  · exact Or.inl ⟨r, htimely.fresh, hreply, hstep⟩
  · exact Or.inr hfailed

theorem systemAct_handedOut {op : ServerOp} {reply : op.Reply} (h : systemAct json op w reply w') :
    ∀ session ∈ handedOut ⟨op, reply⟩, session ∈ w'.store.seen := by
  intro session hsession
  cases op with
  | store => exact h.1.replies.handedOut session hsession
  | _ => cases hsession

/-- The state is that of a run of the store, perhaps at a later reading of the clock. -/
def StoreState.Follows (json : AmrJson) (start s : StoreState) : Prop :=
  ∃ t, StoreRun json start t ∧ t.clock ≤ s.clock ∧ s = { t with clock := s.clock }

theorem StoreState.Follows.clockTo {now : Int} (h : start.Follows json s)
    (hclock : s.ClockTo now s') : start.Follows json s' := by
  obtain ⟨t, hrun, hle, hsame⟩ := h
  obtain ⟨hlater, rfl⟩ := hclock
  refine ⟨t, hrun, hle.trans hlater, ?_⟩
  rw [hsame]

theorem StoreState.Follows.step {r : Readings} (h : start.Follows json s) (htimely : s.Timely r op)
    (hseen : ∀ session ∈ op.snapshots, session ∈ s.seen) :
    start.Follows json (s.step json r op) := by
  obtain ⟨t, hrun, hle, hsame⟩ := h
  have hpermits : t.Permits r op := by
    rw [hsame] at htimely hseen
    exact ⟨hle.trans htimely.clock_le, htimely.pruneNow_le, htimely.fresh, hseen⟩
  refine ⟨t.step json r op, hrun.tail ⟨r, op, hpermits, rfl⟩, le_rfl, ?_⟩
  rw [hsame]
  rfl

end

section

variable {start : SystemWorld} {pool : Pool serverInterface Nat SystemWorld SystemJob SystemAnswer}

theorem handedOut_seen
    (hrun : PoolRun (systemMachine json platform config) (Pool.idle start) pool) :
    ∀ i worker, pool.workers i = some worker → ∀ x ∈ worker.history.map Event.toExchange,
      ∀ session ∈ handedOut x, session ∈ pool.world.store.seen := by
  have hseen : ∀ {w w' : SystemWorld}, (systemMachine json platform config).WorldRun w w' →
      w.store.seen ⊆ w'.store.seen := by
    intro w w' hworld
    induction hworld with
    | refl => exact List.Subset.refl _
    | tail _ hstep ih => exact List.Subset.trans ih (worldStep_moves hstep).seen_subset
  intro i worker hworker x hx session hsession
  have hchained := Pool.chained_of_run hrun (fun _ _ hidle => by cases hidle) i worker hworker
  obtain ⟨before, after, hevent⟩ := mem_exchanges.mp hx
  obtain ⟨-, hact, hlater⟩ := hchained.of_mem hevent
  exact hseen hlater (systemAct_handedOut hact session hsession)

/-- **The gateway runs the store.** Whatever the requests do, the store goes through one of its own
runs. -/
theorem gateway_runs_store
    (hrun : PoolRun (systemMachine json platform config) (Pool.idle start) pool) :
    start.store.Follows json pool.world.store := by
  induction hrun with
  | refl => exact ⟨start.store, .refl, le_rfl, rfl⟩
  | tail hrun hstep ih =>
    cases hstep with
    | env henv =>
      obtain ⟨now, hclock, -⟩ := henv
      exact ih.clockTo hclock
    | spawn i job hfree | call hworker => exact ih
    | @request i _ op _ history _ world _ hworker hact =>
      have hsound := (systemSpec json platform config).discipline.sound_of_run
        ((systemSpec json platform config).discipline.sound_idle trivial) hrun
      have hholds : HoldsSnapshots op (history.map Event.toExchange) :=
        hsound.guar_of_request hworker
      cases op with
      | store =>
        rcases hact.1 with ⟨r, htimely, -, hstep⟩ | ⟨error, -, hsame⟩
        · change start.store.Follows json world.store
          rw [hstep]
          apply ih.step htimely
          intro session hsession
          obtain ⟨x, hx, hhanded⟩ := hholds session hsession
          exact handedOut_seen hrun i _ hworker x hx session hhanded
        · change start.store.Follows json world.store
          rw [hsame]
          exact ih
      | now => exact ih.clockTo hact.1
      | auth =>
        obtain rfl := hact
        exact ih
      | waitOutcome =>
        obtain ⟨-, rfl⟩ := hact
        exact ih
      | acquire =>
        change start.store.Follows json world.store
        rw [hact.2]
        exact ih
      | addAlias =>
        change start.store.Follows json world.store
        rw [hact.2]
        exact ih
      | complete =>
        change start.store.Follows json world.store
        rw [hact.2]
        exact ih

end

/-- A decision that has looked its session up. -/
theorem gateway_runs_store_lookup :
    ∃ pool, PoolRun (systemMachine .quoted samplePlatform sampleConfig) (Pool.idle sampleWorld) pool ∧
      pool.world.store.clock = 100 * nanosPerSecond ∧
      (sampleStored 10).Follows .quoted pool.world.store := by
  have hactive : lookupSessionAt .quoted (sampleStored 10).db "session" (100 * nanosPerSecond) =
      .ok (.active (sampleSession 10)) := by decide
  have hidle : PoolRun (systemMachine .quoted samplePlatform sampleConfig) (Pool.idle sampleWorld)
      (Pool.idle sampleWorld) := .refl
  obtain ⟨_, hrun, hworld, hworker⟩ := PoolRun.extend_spawn hidle 0 (.decide (some sampleCookie)) rfl
  obtain ⟨pool, hrun, hworld, -⟩ := PoolRun.extend_request hrun hworld hworker
    (.ok (.active (sampleSession 10))) { sampleWorld with
      store := sampleWorld.store.step .quoted (sampleReadings 100) (.lookupSession "session") }
    ⟨Or.inl ⟨sampleReadings 100, ⟨by decide, le_rfl, fun h => by cases h⟩,
      Or.inl (congrArg Res.ofExcept hactive).symm, rfl⟩, rfl⟩
  exact ⟨pool, hrun, by rw [hworld]; rfl, gateway_runs_store hrun⟩

end AuthMiniGateway

import AuthMiniGateway.Flight

namespace AuthMiniGateway

open Coordinator
open Function (update update_of_ne update_self)

def Coordinator.status (c : Coordinator) (flight : Nat) : Option (Option FlightOutcome) :=
  (c.flights flight).map Flight.outcome

theorem Coordinator.status_eq_some_iff {c : Coordinator} {flight : Nat}
    {outcome : Option FlightOutcome} :
    c.status flight = some outcome ↔
      ∃ state, c.flights flight = some state ∧ state.outcome = outcome := by
  simp [Coordinator.status]

theorem Coordinator.outcome_eq_some_iff {c : Coordinator} {flight : Nat} {outcome : FlightOutcome} :
    c.outcome flight = some outcome ↔ c.status flight = some (some outcome) := by
  simp [Coordinator.outcome, Coordinator.status, Option.bind_eq_some_iff]

namespace Crew

variable {s s' : Crew} {i : Nat}

/-- What a thread relies on. -/
def Holds (c : Coordinator) : Thread → Prop
  | .idle => True
  | .leading sessionId flight => c.registry sessionId = some flight ∧ c.status flight = some none
  | .waiting _ flight phase =>
    ∃ outcome, c.status flight = some outcome ∧ (phase = .blocked → outcome = none)

structure Sound (s : Crew) : Prop where
  unused : ∀ flight, s.coordinator.nextId ≤ flight → s.coordinator.status flight = none
  registered : ∀ sessionId flight, s.coordinator.registry sessionId = some flight →
    ∃ i, s.threads i = .leading sessionId flight
  threads : ∀ i, Holds s.coordinator (s.threads i)
  leader_unique : ∀ i j sessionId sessionId' flight, s.threads i = .leading sessionId flight →
    s.threads j = .leading sessionId' flight → i = j

theorem Sound.thread {thread : Thread} (h : s.Sound) (hthread : s.threads i = thread) :
    Holds s.coordinator thread :=
  hthread ▸ h.threads i

inductive CrewStep (s : Crew) (i : Nat) : Crew → Prop where
  | led {sessionId : String} {observed : ObservedVersion} (hidle : s.threads i = .idle)
      (hfree : s.coordinator.registry sessionId = none) :
      CrewStep s i
        { coordinator := (s.coordinator.lead sessionId observed).2
          threads := update s.threads i (.leading sessionId s.coordinator.nextId)
          log := .acquired i sessionId observed (.leader s.coordinator.nextId) s.coordinator :: s.log }
  | joined {sessionId : String} {observed : ObservedVersion} {flight : Nat} {state : Flight}
      (hidle : s.threads i = .idle) (hregistered : s.coordinator.registry sessionId = some flight)
      (hflight : s.coordinator.flights flight = some state) (hrunning : state.outcome = none)
      (haccepted : observed ∈ state.acceptedVersions) :
      CrewStep s i
        { coordinator := { s.coordinator with
            flights := update s.coordinator.flights flight
              (some { state with registeredJoiners := state.registeredJoiners + 1 }) }
          threads := update (fun j => notifyAll flight (s.threads j)) i
            (.waiting .outcome flight .checking)
          log := .acquired i sessionId observed (.joined flight) s.coordinator :: s.log }
  | deferred {sessionId : String} {observed : ObservedVersion} {flight : Nat} {state : Flight}
      (hidle : s.threads i = .idle) (hregistered : s.coordinator.registry sessionId = some flight)
      (hflight : s.coordinator.flights flight = some state) (hrunning : state.outcome = none)
      (hrefused : observed ∉ state.acceptedVersions) :
      CrewStep s i
        { coordinator := s.coordinator
          threads := update s.threads i (.waiting .close flight .checking)
          log := .acquired i sessionId observed (.waitForClose flight) s.coordinator :: s.log }
  | aliased {sessionId : String} {flight : Nat} {state : Flight} {observed : ObservedVersion}
      (hleading : s.threads i = .leading sessionId flight)
      (hflight : s.coordinator.flights flight = some state) :
      CrewStep s i
        { s with
          coordinator := { s.coordinator with
            flights := update s.coordinator.flights flight
              (some { state with acceptedVersions := observed :: state.acceptedVersions }) } }
  | published {sessionId : String} {flight : Nat} {state : Flight} {outcome : FlightOutcome}
      {dropped : Bool} (hleading : s.threads i = .leading sessionId flight)
      (hflight : s.coordinator.flights flight = some state) (hrunning : state.outcome = none)
      (hdropped : dropped = true → outcome = leaderAborted) :
      CrewStep s i
        { coordinator := { s.coordinator with
            registry := update s.coordinator.registry sessionId none
            flights := update s.coordinator.flights flight
              (some { state with outcome := some outcome }) }
          threads := update (fun j => notifyAll flight (s.threads j)) i .idle
          log := .published i sessionId flight outcome dropped :: s.log }
  | slept {kind : WaitKind} {flight : Nat} (hwaiting : s.threads i = .waiting kind flight .checking)
      (hrunning : s.coordinator.outcome flight = none) :
      CrewStep s i
        { s with threads := update s.threads i (.waiting kind flight .blocked) }
  | received {flight : Nat} {outcome : FlightOutcome}
      (hwaiting : s.threads i = .waiting .outcome flight .checking)
      (houtcome : s.coordinator.outcome flight = some outcome) :
      CrewStep s i
        { s with threads := update s.threads i .idle, log := .received i flight outcome :: s.log }
  | closed {flight : Nat} {outcome : FlightOutcome}
      (hwaiting : s.threads i = .waiting .close flight .checking)
      (houtcome : s.coordinator.outcome flight = some outcome) :
      CrewStep s i
        { s with threads := update s.threads i .idle, log := .closed i flight :: s.log }
  | woken {kind : WaitKind} {flight : Nat} (hwaiting : s.threads i = .waiting kind flight .blocked) :
      CrewStep s i
        { s with threads := update s.threads i (.waiting kind flight .checking) }

theorem Sound.acquire_cases (h : s.Sound) (hidle : s.threads i = .idle) (sessionId : String)
    (observed : ObservedVersion) : CrewStep s i (s.acquireStep i sessionId observed) := by
  unfold acquireStep Coordinator.acquire
  cases hregistry : s.coordinator.registry sessionId with
  | none => exact .led hidle hregistry
  | some flight =>
    obtain ⟨j, hj⟩ := h.registered sessionId flight hregistry
    obtain ⟨-, hstatus⟩ := h.thread hj
    obtain ⟨state, hstate, hrunning⟩ := status_eq_some_iff.mp hstatus
    have hopen : state.outcome.isSome = false := by rw [hrunning, Option.isSome_none]
    by_cases haccepted : observed ∈ state.acceptedVersions
    · simp only [hstate, hopen, Bool.false_eq_true, if_false, haccepted, if_true]
      exact .joined hidle hregistry hstate hrunning haccepted
    · simp only [hstate, hopen, Bool.false_eq_true, if_false, haccepted]
      exact .deferred hidle hregistry hstate hrunning haccepted

variable {sessionId : String} {flight : Nat} {thread : Thread} {outcome : FlightOutcome}

theorem Sound.publish_cases (h : s.Sound) (hleading : s.threads i = .leading sessionId flight)
    (outcome : FlightOutcome) (dropped : Bool)
    (hdropped : dropped = true → outcome = leaderAborted) :
    CrewStep s i (s.publish i sessionId flight outcome dropped) := by
  obtain ⟨hregistry, hstatus⟩ := h.thread hleading
  obtain ⟨state, hstate, hrunning⟩ := status_eq_some_iff.mp hstatus
  unfold publish Coordinator.complete
  simp only [hstate, hrunning, hregistry, if_true, Option.getD_none]
  exact .published hleading hstate hrunning hdropped

theorem checkStep_cases {kind : WaitKind}
    (hwaiting : s.threads i = .waiting kind flight .checking) :
    CrewStep s i (s.checkStep i kind flight) := by
  unfold checkStep
  cases houtcome : s.coordinator.outcome flight with
  | none => exact .slept hwaiting houtcome
  | some outcome =>
    cases kind with
    | outcome => exact .received hwaiting houtcome
    | close => exact .closed hwaiting houtcome

/-- **The list of critical sections is complete.** -/
theorem Sound.step_cases (h : s.Sound) {act : Act} (hstep : s.step i act = some s') :
    CrewStep s i s' := by
  unfold step at hstep
  split at hstep
  · rename_i hidle
    cases hstep
    exact h.acquire_cases hidle _ _
  · rename_i hleading
    obtain ⟨-, hstatus⟩ := h.thread hleading
    obtain ⟨state, hstate, hrunning⟩ := status_eq_some_iff.mp hstatus
    have hopen : state.outcome.isNone = true := by rw [hrunning, Option.isNone_none]
    cases hstep
    simp only [addAlias, hstate, hopen, if_true]
    exact .aliased hleading hstate
  · rename_i hleading
    cases hstep
    exact h.publish_cases hleading _ false (by simp)
  · rename_i hleading
    cases hstep
    exact h.publish_cases hleading _ true (fun _ => rfl)
  · rename_i hwaiting
    cases hstep
    exact checkStep_cases hwaiting
  · rename_i hwaiting
    cases hstep
    exact .woken hwaiting
  · cases hstep

/-! ### The invariant -/

theorem notifyAll_eq_leading_iff {flight' : Nat} :
    notifyAll flight thread = .leading sessionId flight' ↔ thread = .leading sessionId flight' := by
  unfold notifyAll
  split <;> simp

theorem Holds.notifyAll {c : Coordinator} (h : Holds c thread) : Holds c (notifyAll flight thread) := by
  unfold Crew.notifyAll
  split
  · obtain ⟨outcome, hstatus, hblocked⟩ := h
    exact ⟨outcome, hstatus, fun _ => hblocked rfl⟩
  · exact h

theorem status_update (c : Coordinator) (flight : Nat) (state : Flight) :
    Coordinator.status { c with flights := update c.flights flight (some state) } =
      update c.status flight (some state.outcome) := by
  funext other
  by_cases hother : other = flight
  · subst hother
    simp [Coordinator.status]
  · simp [Coordinator.status, update_of_ne hother]

theorem status_lead (c : Coordinator) (sessionId : String) (observed : ObservedVersion) :
    (c.lead sessionId observed).2.status = update c.status c.nextId (some none) :=
  status_update { c with
    registry := update c.registry sessionId (some c.nextId),
    nextId := c.nextId + 1 } _ _

theorem status_update_same {c : Coordinator} {state state' : Flight}
    (hflight : c.flights flight = some state) (houtcome : state'.outcome = state.outcome) :
    Coordinator.status { c with flights := update c.flights flight (some state') } =
      c.status := by
  rw [status_update, houtcome]
  apply Function.update_eq_self_iff.mpr
  simp [Coordinator.status, hflight]

theorem Sound.keep (h : s.Sound)
    (hregistry : s'.coordinator.registry = s.coordinator.registry)
    (hnext : s'.coordinator.nextId = s.coordinator.nextId)
    (hstatus : s'.coordinator.status = s.coordinator.status)
    (hleading : ∀ j sessionId flight, s'.threads j = .leading sessionId flight ↔
      s.threads j = .leading sessionId flight)
    (hthreads : ∀ j, Holds s.coordinator (s'.threads j)) : s'.Sound where
  unused := by
    rw [hnext, hstatus]
    exact h.unused
  registered := by
    intro sessionId flight hflight
    rw [hregistry] at hflight
    obtain ⟨j, hj⟩ := h.registered sessionId flight hflight
    exact ⟨j, (hleading j sessionId flight).mpr hj⟩
  threads := by
    intro j
    have hold := hthreads j
    unfold Holds at hold ⊢
    rwa [hregistry, hstatus]
  leader_unique := by
    intro j k sessionId sessionId' flight hj hk
    exact h.leader_unique j k sessionId sessionId' flight ((hleading _ _ _).mp hj)
      ((hleading _ _ _).mp hk)

theorem leading_update {threads : Nat → Thread}
    (hbefore : ∀ sessionId flight, threads i ≠ .leading sessionId flight)
    (hafter : ∀ sessionId flight, thread ≠ .leading sessionId flight) (j : Nat) (sessionId : String)
    (flight : Nat) :
    update threads i thread j = .leading sessionId flight ↔
      threads j = .leading sessionId flight := by
  by_cases hj : j = i
  · subst hj
    simp [hbefore, hafter]
  · rw [update_of_ne hj]

theorem Sound.turn (h : s.Sound) {log : List CrewEvent}
    (hbefore : ∀ sessionId flight, s.threads i ≠ .leading sessionId flight)
    (hafter : ∀ sessionId flight, thread ≠ .leading sessionId flight)
    (hthread : Holds s.coordinator thread) :
    Sound { s with threads := update s.threads i thread, log } :=
  h.keep rfl rfl rfl (leading_update hbefore hafter)
    ((Function.forall_update_iff _ fun _ => Holds _).mpr ⟨hthread, fun j _ => h.threads j⟩)

theorem Sound.lead (h : s.Sound) {observed : ObservedVersion} {log : List CrewEvent}
    (hidle : s.threads i = .idle) (hfree : s.coordinator.registry sessionId = none) :
    Sound
      { coordinator := (s.coordinator.lead sessionId observed).2
        threads := update s.threads i (.leading sessionId s.coordinator.nextId)
        log } := by
  have hstatus := status_lead s.coordinator sessionId observed
  have hfresh {flight : Nat} {outcome : Option FlightOutcome}
      (hflight : s.coordinator.status flight = some outcome) : flight ≠ s.coordinator.nextId := by
    rintro rfl
    cases (h.unused _ le_rfl).symm.trans hflight
  -- who leads after this is `i`, or led the same flight before
  have hleads {j : Nat} {other : String} {flight : Nat}
      (hj : update s.threads i (.leading sessionId s.coordinator.nextId) j = .leading other flight) :
      j = i ∧ flight = s.coordinator.nextId ∨
        s.threads j = .leading other flight ∧ flight ≠ s.coordinator.nextId := by
    by_cases hi : j = i
    · rw [hi, update_self] at hj
      cases hj
      exact .inl ⟨hi, rfl⟩
    · rw [update_of_ne hi] at hj
      exact .inr ⟨hj, hfresh (h.thread hj).2⟩
  refine ⟨?_, ?_, ?_, ?_⟩
  · intro flight hflight
    change s.coordinator.nextId + 1 ≤ flight at hflight
    rw [hstatus, update_of_ne (by omega)]
    exact h.unused flight (by omega)
  · intro other flight hregistered
    change update s.coordinator.registry sessionId _ other = some flight at hregistered
    by_cases hother : other = sessionId
    · subst hother
      rw [update_self] at hregistered
      cases hregistered
      exact ⟨i, update_self _ _ _⟩
    · rw [update_of_ne hother] at hregistered
      obtain ⟨j, hj⟩ := h.registered other flight hregistered
      refine ⟨j, ?_⟩
      rw [← hj]
      apply update_of_ne
      rintro rfl
      cases hidle.symm.trans hj
  · refine (Function.forall_update_iff _ fun _ => Holds _).mpr ⟨?_, fun j hj => ?_⟩
    · exact ⟨update_self _ _ _, hstatus ▸ update_self _ _ _⟩
    · have hold := h.threads j
      revert hold
      cases s.threads j with
      | idle => exact id
      | leading other flight =>
        rintro ⟨hregistered, hrunning⟩
        have hother : other ≠ sessionId := by
          rintro rfl
          cases hfree.symm.trans hregistered
        refine ⟨(update_of_ne hother _ _).trans hregistered, ?_⟩
        rw [hstatus, update_of_ne (hfresh hrunning), hrunning]
      | waiting kind flight phase =>
        rintro ⟨outcome, hflight, hblocked⟩
        refine ⟨outcome, ?_, hblocked⟩
        rw [hstatus, update_of_ne (hfresh hflight), hflight]
  · intro j k other other' flight hj hk
    rcases hleads hj with ⟨rfl, hnew⟩ | ⟨hj, hold⟩ <;> rcases hleads hk with ⟨rfl, hnew'⟩ | ⟨hk, hold'⟩
    · rfl
    · exact absurd hnew hold'
    · exact absurd hnew' hold
    · exact h.leader_unique j k other other' flight hj hk

theorem Sound.publish (h : s.Sound) {state : Flight} {log : List CrewEvent}
    (hleading : s.threads i = .leading sessionId flight) :
    Sound
      { coordinator := { s.coordinator with
          registry := update s.coordinator.registry sessionId none
          flights := update s.coordinator.flights flight
            (some { state with outcome := some outcome }) }
        threads := update (fun j => notifyAll flight (s.threads j)) i .idle
        log } := by
  obtain ⟨hregistry, hrunning⟩ := h.thread hleading
  have hstatus : Coordinator.status { s.coordinator with
      registry := update s.coordinator.registry sessionId none
      flights := update s.coordinator.flights flight
        (some { state with outcome := some outcome }) } =
      update s.coordinator.status flight (some (some outcome)) :=
    status_update { s.coordinator with
      registry := update s.coordinator.registry sessionId none } _ _
  -- who still leads did so before
  have hothers {j : Nat} {other : String} {flight' : Nat}
      (hj : update (fun j => notifyAll flight (s.threads j)) i .idle j = .leading other flight') :
      s.threads j = .leading other flight' := by
    by_cases hi : j = i
    · rw [hi, update_self] at hj
      cases hj
    · rw [update_of_ne hi] at hj
      exact notifyAll_eq_leading_iff.mp hj
  refine ⟨?_, ?_, ?_, ?_⟩
  · intro flight' hflight'
    change s.coordinator.nextId ≤ flight' at hflight'
    rw [hstatus, update_of_ne]
    · exact h.unused flight' hflight'
    · rintro rfl
      cases (h.unused _ hflight').symm.trans hrunning
  · intro other flight' hregistered
    change update s.coordinator.registry sessionId none other = some flight' at hregistered
    have hother : other ≠ sessionId := by
      rintro rfl
      rw [update_self] at hregistered
      cases hregistered
    rw [update_of_ne hother] at hregistered
    obtain ⟨j, hj⟩ := h.registered other flight' hregistered
    refine ⟨j, ?_⟩
    have hi : j ≠ i := by
      rintro rfl
      cases hleading.symm.trans hj
      exact hother rfl
    dsimp only
    rw [update_of_ne hi]
    exact notifyAll_eq_leading_iff.mpr hj
  · refine (Function.forall_update_iff _ fun _ => Holds _).mpr ⟨trivial, fun j hi => ?_⟩
    have hold := h.threads j
    cases hj : s.threads j with
    | idle => trivial
    | leading other flight' =>
      rw [hj] at hold
      have hflight : flight' ≠ flight := by
        rintro rfl
        exact hi (h.leader_unique j i other sessionId flight' hj hleading)
      have hother : other ≠ sessionId := by
        rintro rfl
        exact hflight (Option.some.inj (hold.1.symm.trans hregistry))
      refine ⟨(update_of_ne hother _ _).trans hold.1, ?_⟩
      rw [hstatus, update_of_ne hflight, hold.2]
    | waiting kind flight' phase =>
      rw [hj] at hold
      by_cases hflight : flight' = flight
      · subst hflight
        have hnow := (congrFun hstatus flight').trans (update_self ..)
        cases phase with
        | checking => exact ⟨_, hnow, nofun⟩
        | blocked =>
          rw [notifyAll, if_pos rfl]
          exact ⟨_, hnow, nofun⟩
      · obtain ⟨outcome', hflight', hblocked⟩ := hold
        apply Holds.notifyAll
        refine ⟨outcome', ?_, hblocked⟩
        rw [hstatus, update_of_ne hflight, hflight']
  · intro j k other other' flight' hj hk
    exact h.leader_unique j k other other' flight' (hothers hj) (hothers hk)

theorem Sound.step (h : s.Sound) (hstep : CrewStep s i s') : s'.Sound := by
  cases hstep with
  | led hidle hfree => exact h.lead hidle hfree
  | joined hidle _ hflight hrunning =>
    refine h.keep rfl rfl (status_update_same hflight rfl) ?_ ?_
    · intro j sessionId flight
      rw [leading_update (by simp [hidle, notifyAll]) (by simp)]
      exact notifyAll_eq_leading_iff
    · refine (Function.forall_update_iff _ fun _ => Holds _).mpr ⟨?_, fun j _ => (h.threads j).notifyAll⟩
      exact ⟨none, status_eq_some_iff.mpr ⟨_, hflight, hrunning⟩, fun _ => rfl⟩
  | deferred hidle _ hflight hrunning =>
    refine h.turn (by simp [hidle]) (by simp) ?_
    exact ⟨none, status_eq_some_iff.mpr ⟨_, hflight, hrunning⟩, fun _ => rfl⟩
  | aliased hleading hflight =>
    exact h.keep rfl rfl (status_update_same hflight rfl) (fun _ _ _ => Iff.rfl) h.threads
  | published hleading => exact h.publish hleading
  | slept hwaiting hrunning =>
    obtain ⟨outcome, hstatus, -⟩ := h.thread hwaiting
    refine h.turn (by simp [hwaiting]) (by simp) ⟨outcome, hstatus, fun _ => ?_⟩
    cases outcome with
    | none => rfl
    | some published => cases hrunning.symm.trans (outcome_eq_some_iff.mpr hstatus)
  | received hwaiting | closed hwaiting => exact h.turn (by simp [hwaiting]) (by simp) trivial
  | woken hwaiting =>
    obtain ⟨outcome, hstatus, -⟩ := h.thread hwaiting
    exact h.turn (by simp [hwaiting]) (by simp) ⟨outcome, hstatus, nofun⟩

theorem initial_sound : initial.Sound := by
  refine ⟨fun _ _ => rfl, ?_, fun _ => trivial, ?_⟩ <;> simp [initial, Coordinator.empty]

/-! ### What was published and what was received -/

def publishedFlight : CrewEvent → Option Nat
  | .published _ _ flight _ _ => some flight
  | _ => none

theorem lead_status (h : s.Sound) (sessionId : String) (observed : ObservedVersion) (flight : Nat)
    (outcome : FlightOutcome) :
    (s.coordinator.lead sessionId observed).2.status flight = some (some outcome) ↔
      s.coordinator.status flight = some (some outcome) := by
  rw [status_lead]
  by_cases hflight : flight = s.coordinator.nextId
  · subst hflight
    simp [h.unused _ le_rfl]
  · rw [update_of_ne hflight]

/-- An outcome that stands after a section stood before it, or the section published it and the
flight had none. -/
theorem Sound.outcome_step (h : s.Sound) (hstep : CrewStep s i s') (flight : Nat)
    (outcome : FlightOutcome) :
    s'.coordinator.outcome flight = some outcome ↔
      s.coordinator.outcome flight = some outcome ∨
        ∃ sessionId dropped,
          s'.log = .published i sessionId flight outcome dropped :: s.log := by
  simp only [outcome_eq_some_iff]
  cases hstep with
  | led =>
    rw [lead_status h]
    simp
  | joined _ _ hflight =>
    dsimp only
    rw [status_update_same hflight (by rfl)]
    simp
  | deferred => simp
  | aliased _ hflight =>
    dsimp only
    rw [status_update_same hflight (by rfl)]
    simp
  | published hleading hflight hrunning hdropped =>
    rename_i sessionId led state published dropped
    have hstatus := status_update { s.coordinator with
      registry := update s.coordinator.registry sessionId none } led
      { state with outcome := some published }
    dsimp only at hstatus ⊢
    rw [hstatus]
    by_cases hled : flight = led
    · subst hled
      have hnone := (h.thread hleading).2
      simp only [update_self, Coordinator.status] at hnone ⊢
      simp [hnone, eq_comm]
    · rw [update_of_ne hled]
      simp [Coordinator.status, Ne.symm hled]
  | slept hwaiting hrunning | received hwaiting houtcome | closed hwaiting houtcome
  | woken => simp

/-- What an event says, with the coordinator as it is now. -/
def EventHolds (c : Coordinator) : CrewEvent → Prop
  | .acquired _ _ observed (.joined flight) before =>
    ∃ state, before.flights flight = some state ∧ observed ∈ state.acceptedVersions
  | .acquired _ _ observed (.waitForClose flight) before =>
    ∃ state, before.flights flight = some state ∧ observed ∉ state.acceptedVersions
  | .published _ _ _ outcome dropped => dropped = true → outcome = leaderAborted
  | .received _ flight outcome => c.outcome flight = some outcome
  | _ => True

theorem EventHolds.mono {c c' : Coordinator} {event : CrewEvent} (h : EventHolds c event)
    (hkeeps : ∀ flight outcome, c.outcome flight = some outcome → c'.outcome flight = some outcome) :
    EventHolds c' event := by
  cases event with
  | acquired _ _ _ result =>
    cases result with
    | leader => trivial
    | joined | waitForClose => exact h
  | published => exact h
  | received _ flight outcome => exact hkeeps flight outcome h
  | closed => trivial

structure Logged (s : Crew) : Prop where
  published_iff : ∀ flight outcome, s.coordinator.outcome flight = some outcome ↔
    ∃ i sessionId dropped, .published i sessionId flight outcome dropped ∈ s.log
  published_once : (s.log.filterMap publishedFlight).Nodup
  events : ∀ event ∈ s.log, EventHolds s.coordinator event

theorem Logged.extend (h : s.Logged) (hsound : s.Sound) (hstep : CrewStep s i s')
    (events : List CrewEvent) (hlog : s'.log = events ++ s.log)
    (hquiet : events.filterMap publishedFlight = [])
    (hevents : ∀ event ∈ events, EventHolds s'.coordinator event) : s'.Logged := by
  have hnone : ∀ {i sessionId flight outcome dropped},
      CrewEvent.published i sessionId flight outcome dropped ∉ events := by
    intro i sessionId flight outcome dropped hmem
    have hflight : flight ∈ events.filterMap publishedFlight := List.mem_filterMap.mpr ⟨_, hmem, rfl⟩
    rw [hquiet] at hflight
    cases hflight
  have houtcome : ∀ flight outcome, s'.coordinator.outcome flight = some outcome ↔
      s.coordinator.outcome flight = some outcome := by
    intro flight outcome
    rw [hsound.outcome_step hstep, hlog, or_iff_left]
    rintro ⟨sessionId, dropped, heq⟩
    have hevent := List.append_cancel_right (heq.trans (List.singleton_append ..).symm)
    exact hnone (hevent ▸ List.mem_singleton_self _)
  refine ⟨fun flight outcome => ?_, ?_, fun event hmem => ?_⟩
  · simp only [houtcome, h.published_iff, hlog, List.mem_append, hnone, false_or]
  · rw [hlog, List.filterMap_append, hquiet]
    exact h.published_once
  · rw [hlog] at hmem
    rcases List.mem_append.mp hmem with hnew | hold
    · exact hevents event hnew
    · exact (h.events event hold).mono fun flight outcome => (houtcome flight outcome).mpr

theorem Logged.publish (h : s.Logged) (hsound : s.Sound) (hstep : CrewStep s i s') {dropped : Bool}
    (hleading : s.threads i = .leading sessionId flight)
    (hlog : s'.log = .published i sessionId flight outcome dropped :: s.log)
    (hdropped : dropped = true → outcome = leaderAborted) : s'.Logged := by
  refine ⟨fun flight' outcome' => ?_, ?_, fun event hmem => ?_⟩
  · rw [hsound.outcome_step hstep, h.published_iff, hlog]
    constructor
    · rintro (⟨j, other, dropped', hmem⟩ | ⟨other, dropped', heq⟩)
      · exact ⟨j, other, dropped', List.mem_cons_of_mem _ hmem⟩
      · rw [heq]
        exact ⟨i, other, dropped', List.mem_cons_self⟩
    · rintro ⟨j, other, dropped', hmem⟩
      rcases List.mem_cons.mp hmem with heq | hold
      · cases heq
        exact Or.inr ⟨_, _, rfl⟩
      · exact Or.inl ⟨j, other, dropped', hold⟩
  · have hhead : publishedFlight (.published i sessionId flight outcome dropped) = some flight := rfl
    rw [hlog, List.filterMap_cons_some hhead, List.nodup_cons]
    refine ⟨?_, h.published_once⟩
    -- a second publication of the flight would mean that it already had an outcome
    intro hmem
    obtain ⟨event, hevent, hflight⟩ := List.mem_filterMap.mp hmem
    cases event with
    | published j other _ outcome' dropped' =>
      cases hflight
      have hsome := outcome_eq_some_iff.mp ((h.published_iff flight outcome').mpr
        ⟨j, other, dropped', hevent⟩)
      rw [(hsound.thread hleading).2] at hsome
      cases hsome
    | _ => cases hflight
  · rw [hlog] at hmem
    rcases List.mem_cons.mp hmem with rfl | hold
    · exact hdropped
    · exact (h.events event hold).mono fun flight' outcome' houtcome =>
        (hsound.outcome_step hstep flight' outcome').mpr (Or.inl houtcome)

theorem Logged.step (h : s.Logged) (hsound : s.Sound) (hstep : CrewStep s i s') : s'.Logged := by
  have hextend := h.extend hsound hstep
  have hcopy := hstep
  cases hstep with
  | led => exact hextend [_] rfl rfl (List.forall_mem_singleton.mpr trivial)
  | joined _ _ hflight _ haccepted =>
    exact hextend [_] rfl rfl (List.forall_mem_singleton.mpr ⟨_, hflight, haccepted⟩)
  | deferred _ _ hflight _ hrefused =>
    exact hextend [_] rfl rfl (List.forall_mem_singleton.mpr ⟨_, hflight, hrefused⟩)
  | published hleading _ _ hdropped => 
    exact h.publish hsound hcopy hleading rfl hdropped
  | received _ houtcome =>
    exact hextend [_] rfl rfl (List.forall_mem_singleton.mpr houtcome)
  | closed => exact hextend [_] rfl rfl (List.forall_mem_singleton.mpr trivial)
  | aliased hleading hflight | slept hwaiting hrunning
  | woken => exact hextend [] rfl rfl nofun

theorem initial_logged : initial.Logged := by
  constructor <;> simp [initial, Coordinator.empty, Coordinator.outcome]

/-- **Induction over the critical sections.** -/
theorem run_sound {acts : List (Nat × Act)} (hsound : s.Sound) (hlogged : s.Logged)
    (hrun : s.run acts = some s') : s'.Sound ∧ s'.Logged := by
  induction acts generalizing s with
  | nil =>
    cases hrun
    exact ⟨hsound, hlogged⟩
  | cons _ _ ih =>
    obtain ⟨next, hstep, hrest⟩ := Option.bind_eq_some_iff.mp hrun
    have hcases := hsound.step_cases hstep
    exact ih (hsound.step hcases) (hlogged.step hsound hcases) hrest

theorem outcome_run {acts : List (Nat × Act)} (hsound : s.Sound) (hrun : s.run acts = some s')
    (houtcome : s.coordinator.outcome flight = some outcome) :
    s'.coordinator.outcome flight = some outcome := by
  induction acts generalizing s with
  | nil =>
    cases hrun
    exact houtcome
  | cons _ _ ih =>
    obtain ⟨next, hstep, hrest⟩ := Option.bind_eq_some_iff.mp hrun
    have hcases := hsound.step_cases hstep
    exact ih (hsound.step hcases) hrest
      ((hsound.outcome_step hcases flight outcome).mpr (Or.inl houtcome))

theorem complete_registry_of_ne {c : Coordinator} {other : String} {newer : Nat}
    (hregistered : c.registry other = some newer) (hne : newer ≠ flight) :
    (c.complete sessionId flight outcome).2.registry other = some newer := by
  unfold Coordinator.complete
  split
  · exact hregistered
  · dsimp only
    split_ifs with hcurrent
    · rw [update_of_ne, hregistered]
      rintro rfl
      rw [hregistered] at hcurrent
      exact hne (Option.some.inj hcurrent)
    · exact hregistered

theorem step_of_closing {act : Act} {phase : WaitPhase}
    (hwaiting : s.threads i = .waiting .close flight phase) (hstep : s.step i act = some s') :
    (∃ phase', s'.threads i = .waiting .close flight phase' ∧ s'.log = s.log) ∨
      s'.threads i = .idle ∧ s'.log = .closed i flight :: s.log := by
  cases phase with
  | checking =>
    cases act with
    | check =>
      simp only [step, hwaiting, Option.some.injEq] at hstep
      subst hstep
      unfold checkStep
      split
      · exact Or.inl ⟨.blocked, update_self _ _ _, rfl⟩
      · exact Or.inr ⟨update_self _ _ _, rfl⟩
    | _ => simp [step, hwaiting] at hstep
  | blocked =>
    cases act with
    | wake =>
      simp only [step, hwaiting, Option.some.injEq] at hstep
      subst hstep
      exact Or.inl ⟨.checking, update_self _ _ _, rfl⟩
    | _ => simp [step, hwaiting] at hstep

structure SingleFlight (s : Crew) : Prop where
  one_leader : ∀ i j sessionId flight flight', s.threads i = .leading sessionId flight →
    s.threads j = .leading sessionId flight' → i = j ∧ flight = flight'
  registered_iff : ∀ sessionId flight, s.coordinator.registry sessionId = some flight ↔
    (∃ i, s.threads i = .leading sessionId flight) ∧ s.coordinator.outcome flight = none
  published_once : (s.log.filterMap publishedFlight).Nodup
  outcome_stays : ∀ acts s', s.run acts = some s' → ∀ flight outcome,
    s.coordinator.outcome flight = some outcome → s'.coordinator.outcome flight = some outcome
  received_published : ∀ i flight outcome, .received i flight outcome ∈ s.log →
    ∃ j sessionId dropped, .published j sessionId flight outcome dropped ∈ s.log
  dropped_aborted : ∀ i sessionId flight outcome,
    .published i sessionId flight outcome true ∈ s.log → outcome = leaderAborted
  joined_accepted : ∀ i sessionId observed flight before,
    .acquired i sessionId observed (.joined flight) before ∈ s.log →
    ∃ state, before.flights flight = some state ∧ observed ∈ state.acceptedVersions
  deferred_refused : ∀ i sessionId observed flight before,
    .acquired i sessionId observed (.waitForClose flight) before ∈ s.log →
    ∃ state, before.flights flight = some state ∧ observed ∉ state.acceptedVersions
  closing_reenters : ∀ i flight phase act s', s.threads i = .waiting .close flight phase →
    s.step i act = some s' →
    (∃ phase', s'.threads i = .waiting .close flight phase' ∧ s'.log = s.log) ∨
      s'.threads i = .idle ∧ s'.log = .closed i flight :: s.log
  newer_kept : ∀ sessionId flight outcome other newer,
    s.coordinator.registry other = some newer → newer ≠ flight →
    (s.coordinator.complete sessionId flight outcome).2.registry other = some newer
  no_sleeper : ∀ i kind flight, s.threads i = .waiting kind flight .blocked →
    s.coordinator.outcome flight = none

/-- **The coordinator.** Whatever any number of threads do, in any order of their critical sections:
a session has one leader and is registered exactly while it runs, an outcome is published once and
stays, a joiner gets what the leader of its flight published and was let in by the accepted versions,
everyone else waits for the close and starts over, a late completion leaves newer flights alone, and
nobody sleeps on a flight that has its outcome. -/
theorem singleFlight_of_run (acts : List (Nat × Act)) (s : Crew) (hrun : initial.run acts = some s) :
    SingleFlight s := by
  obtain ⟨hsound, hlogged⟩ := run_sound initial_sound initial_logged hrun
  have hnone : ∀ {flight}, s.coordinator.status flight = some none →
      s.coordinator.outcome flight = none := by
    intro flight hstatus
    obtain ⟨state, hstate, houtcome⟩ := status_eq_some_iff.mp hstatus
    simp [Coordinator.outcome, hstate, houtcome]
  refine
    { one_leader := ?_
      registered_iff := ?_
      published_once := hlogged.published_once
      outcome_stays := fun acts s' hrun flight outcome => outcome_run hsound hrun
      received_published := fun i flight outcome hmem =>
        (hlogged.published_iff flight outcome).mp (hlogged.events _ hmem)
      dropped_aborted := fun i sessionId flight outcome hmem => hlogged.events _ hmem rfl
      joined_accepted := fun i sessionId observed flight before hmem => hlogged.events _ hmem
      deferred_refused := fun i sessionId observed flight before hmem => hlogged.events _ hmem
      closing_reenters := fun i flight phase act s' => step_of_closing
      newer_kept := fun sessionId flight outcome other newer => complete_registry_of_ne
      no_sleeper := ?_ }
  · intro i j sessionId flight flight' hi hj
    have hflight := (hsound.thread hi).1
    rw [(hsound.thread hj).1] at hflight
    obtain rfl := Option.some.inj hflight
    exact ⟨hsound.leader_unique i j sessionId sessionId _ hi hj, rfl⟩
  · intro sessionId flight
    constructor
    · intro hregistered
      obtain ⟨i, hi⟩ := hsound.registered sessionId flight hregistered
      exact ⟨⟨i, hi⟩, hnone (hsound.thread hi).2⟩
    · rintro ⟨⟨i, hi⟩, -⟩
      exact (hsound.thread hi).1
  · intro i kind flight hwaiting
    obtain ⟨outcome, hstatus, hblocked⟩ := hsound.thread hwaiting
    rw [hblocked rfl] at hstatus
    exact hnone hstatus

def sampleActs : List (Nat × Act) :=
  [(0, .acquire "session" ⟨0, .ready⟩), (1, .acquire "session" ⟨0, .ready⟩),
    (2, .acquire "session" ⟨1, .ready⟩), (1, .check), (0, .addAlias ⟨1, .pending⟩), (0, .drop),
    (1, .check), (2, .check)]

theorem singleFlight_of_run_shared :
    ∃ s, initial.run sampleActs = some s ∧ .received 1 0 leaderAborted ∈ s.log ∧ SingleFlight s := by
  have hrun : initial.run sampleActs = some _ := rfl
  exact ⟨_, hrun, List.mem_cons_of_mem _ List.mem_cons_self, singleFlight_of_run sampleActs _ hrun⟩

end Crew

end AuthMiniGateway

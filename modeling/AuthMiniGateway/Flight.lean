import AuthMiniGateway.AuthMini

/-!
# The flight coordinator

A flight is named by its index, which stands for the identity of the `Arc`. Every function is one critical
section. A `Crew` is a coordinator with the threads that use it; a sleeper can also wake without reason.
-/

namespace AuthMiniGateway

inductive RejectedReason where
  | remote (reason : RefreshRejected)
  | audienceRejected
  | localInactive
  deriving DecidableEq, Repr

inductive FlightOutcome where
  | ready (generation : Int)
  | rejected (reason : RejectedReason)
  | temporary (errorClass : TemporaryClass)
  | indeterminate (errorClass : IndeterminateClass)
  deriving DecidableEq, Repr

structure Flight where
  acceptedVersions : List ObservedVersion
  outcome : Option FlightOutcome
  registeredJoiners : Nat
  deriving DecidableEq, Repr

structure Coordinator where
  registry : String → Option Nat
  flights : Nat → Option Flight
  nextId : Nat

inductive Acquire where
  | leader (flight : Nat)
  | joined (flight : Nat)
  | waitForClose (flight : Nat)
  deriving DecidableEq, Repr

namespace Coordinator

def empty : Coordinator :=
  { registry := fun _ => none
    flights := fun _ => none
    nextId := 0 }

def outcome (c : Coordinator) (flight : Nat) : Option FlightOutcome :=
  (c.flights flight).bind Flight.outcome

def lead (c : Coordinator) (sessionId : String) (observed : ObservedVersion) :
    Acquire × Coordinator :=
  (.leader c.nextId,
    { registry := Function.update c.registry sessionId (some c.nextId)
      flights := Function.update c.flights c.nextId (some
        { acceptedVersions := [observed], outcome := none, registeredJoiners := 0 })
      nextId := c.nextId + 1 })

def acquire (c : Coordinator) (sessionId : String) (observed : ObservedVersion) :
    Acquire × Coordinator :=
  match c.registry sessionId with
  | none => c.lead sessionId observed
  | some flight =>
    match c.flights flight with
    -- the registry holds an `Arc`, so the flight is there
    | none => c.lead sessionId observed
    | some state =>
      -- a dead entry is replaced
      if state.outcome.isSome then c.lead sessionId observed
      else if observed ∈ state.acceptedVersions then
        (.joined flight,
          { c with
            flights := Function.update c.flights flight
              (some { state with registeredJoiners := state.registeredJoiners + 1 }) })
      else (.waitForClose flight, c)

def addAlias (c : Coordinator) (flight : Nat) (observed : ObservedVersion) : Coordinator :=
  match c.flights flight with
  | none => c
  | some state =>
    if state.outcome.isNone then
      { c with
        flights := Function.update c.flights flight
          (some { state with acceptedVersions := observed :: state.acceptedVersions }) }
    else c

/-- Publishes an outcome unless there is one, and returns the one that stands. -/
def complete (c : Coordinator) (sessionId : String) (flight : Nat) (outcome : FlightOutcome) :
    FlightOutcome × Coordinator :=
  match c.flights flight with
  | none => (outcome, c)
  | some state =>
    let shared := state.outcome.getD outcome
    (shared,
      { c with
        registry :=
          if c.registry sessionId = some flight then Function.update c.registry sessionId none
          else c.registry
        flights := Function.update c.flights flight (some { state with outcome := some shared }) })

end Coordinator

inductive WaitKind where
  | outcome
  | close
  deriving DecidableEq, Repr

inductive WaitPhase where
  | checking
  | blocked
  deriving DecidableEq, Repr

inductive Thread where
  | idle
  | leading (sessionId : String) (flight : Nat)
  | waiting (kind : WaitKind) (flight : Nat) (phase : WaitPhase)
  deriving DecidableEq, Repr

inductive CrewEvent where
  | acquired (thread : Nat) (sessionId : String) (observed : ObservedVersion) (result : Acquire)
      (before : Coordinator)
  | published (thread : Nat) (sessionId : String) (flight : Nat) (outcome : FlightOutcome)
      (dropped : Bool)
  | received (thread : Nat) (flight : Nat) (outcome : FlightOutcome)
  | closed (thread : Nat) (flight : Nat)

structure Crew where
  coordinator : Coordinator
  threads : Nat → Thread
  log : List CrewEvent

namespace Crew

def initial : Crew :=
  { coordinator := Coordinator.empty
    threads := fun _ => .idle
    log := [] }

def notifyAll (flight : Nat) : Thread → Thread
  | .waiting kind f .blocked => .waiting kind f (if f = flight then .checking else .blocked)
  | thread => thread

def leaderAborted : FlightOutcome := .indeterminate .leaderAborted

inductive Act where
  | acquire (sessionId : String) (observed : ObservedVersion)
  | addAlias (observed : ObservedVersion)
  | complete (outcome : FlightOutcome)
  | drop
  | check
  | wake
  deriving DecidableEq, Repr

def acquireStep (s : Crew) (i : Nat) (sessionId : String) (observed : ObservedVersion) : Crew :=
  let (result, coordinator) := s.coordinator.acquire sessionId observed
  let threads := match result with
    | .leader flight => Function.update s.threads i (.leading sessionId flight)
    | .joined flight =>
      Function.update (fun j => notifyAll flight (s.threads j)) i (.waiting .outcome flight .checking)
    | .waitForClose flight => Function.update s.threads i (.waiting .close flight .checking)
  { coordinator, threads, log := .acquired i sessionId observed result s.coordinator :: s.log }

def publish (s : Crew) (i : Nat) (sessionId : String) (flight : Nat) (outcome : FlightOutcome)
    (dropped : Bool) : Crew :=
  let (shared, coordinator) := s.coordinator.complete sessionId flight outcome
  { coordinator
    threads := Function.update (fun j => notifyAll flight (s.threads j)) i .idle
    log := .published i sessionId flight shared dropped :: s.log }

def checkStep (s : Crew) (i : Nat) (kind : WaitKind) (flight : Nat) : Crew :=
  match s.coordinator.outcome flight with
  | none => { s with threads := Function.update s.threads i (.waiting kind flight .blocked) }
  | some outcome =>
    { s with
      threads := Function.update s.threads i .idle
      log := match kind with
        | .outcome => .received i flight outcome :: s.log
        -- the outcome is dropped, and the caller starts over
        | .close => .closed i flight :: s.log }

def step (s : Crew) (i : Nat) (act : Act) : Option Crew :=
  match s.threads i, act with
  | .idle, .acquire sessionId observed => some (s.acquireStep i sessionId observed)
  | .leading _ flight, .addAlias observed =>
    some { s with coordinator := s.coordinator.addAlias flight observed }
  | .leading sessionId flight, .complete outcome => some (s.publish i sessionId flight outcome false)
  | .leading sessionId flight, .drop => some (s.publish i sessionId flight leaderAborted true)
  | .waiting kind flight .checking, .check => some (s.checkStep i kind flight)
  | .waiting kind flight .blocked, .wake =>
    some { s with threads := Function.update s.threads i (.waiting kind flight .checking) }
  | _, _ => none

def run (s : Crew) : List (Nat × Act) → Option Crew
  | [] => some s
  | (i, act) :: rest => (s.step i act).bind fun s' => s'.run rest

end Crew

end AuthMiniGateway

import AuthMiniGateway.Lib.Transition

/-!
# Name lookups and their permits

Each method of `ResolverAccounting` changes its counters one after the other, and every such change is a step.
The counters are words of 64 bits: `fetch_sub` on zero wraps, which `underflowed` remembers. Traces are left
out. What a lookup has returned, and whether the end of its task has been observed, is a history that the source
does not keep.
-/

namespace AuthMiniGateway.ResolverPermits

inductive Counter where
  | heldR
  | submittedUnobserved
  | requestOwned
  | cleanupOwned
  | liveBlocking
  | totalSubmitted
  deriving DecidableEq, Repr

inductive Change where
  | fetchAdd (counter : Counter)
  | fetchSub (counter : Counter)
  deriving DecidableEq, Repr

structure ResolverAccounting where
  count : Counter → Nat
  underflowed : Bool

namespace ResolverAccounting

def default : ResolverAccounting :=
  { count := fun _ => 0
    underflowed := false }

def change (accounting : ResolverAccounting) : Change → ResolverAccounting
  | .fetchAdd counter =>
    { accounting with
      count := Function.update accounting.count counter
        ((accounting.count counter + 1) % 2 ^ 64) }
  | .fetchSub counter =>
    { count := Function.update accounting.count counter
        ((accounting.count counter + (2 ^ 64 - 1)) % 2 ^ 64)
      underflowed := accounting.underflowed || accounting.count counter == 0 }

/-! The methods, as the changes they make in their order. -/

def resolverAcquired : List Change := [.fetchAdd .heldR]

def resolverReleased : List Change := [.fetchSub .heldR]

def submitted : List Change :=
  [.fetchAdd .submittedUnobserved, .fetchAdd .requestOwned, .fetchAdd .totalSubmitted]

def requestToCleanup : List Change := [.fetchSub .requestOwned, .fetchAdd .cleanupOwned]

def requestJoined : List Change := [.fetchSub .requestOwned, .fetchSub .submittedUnobserved]

def cleanupJoined : List Change := [.fetchSub .cleanupOwned, .fetchSub .submittedUnobserved]

end ResolverAccounting

/-- The task that owns a `ResolutionParts`. -/
inductive Owner where
  | request
  | cleanup
  deriving DecidableEq, Repr

/-- Where the owner of a lookup stands. A stage that begins with a method of the accounting goes on
when the method is through:
* `admission`: `TrackedResolverPermit::new`, before the submission;
* `submission`: `submit_resolution_tracked`, before `spawn_blocking`;
* `awaiting`: at the join handle;
* `handover`: `schedule_resolver_cleanup`, before the `abort`;
* `scheduling`: before `Handle::try_current` and the spawn of the cleanup task;
* `observation`: past the join handle;
* `release`: `drop(parts.resolver_permit)`, whose destructor counts before the permit goes back;
* `handBack`: the active-upstream permit is the last thing left. -/
inductive Stage where
  | admission
  | submission
  | awaiting (owner : Owner)
  | handover
  | scheduling
  | observation (owner : Owner)
  | release (owner : Owner)
  | handBack (owner : Owner)
  | finished
  | forgotten
  deriving DecidableEq, Repr

def Stage.method : Stage → List Change
  | .admission => ResolverAccounting.resolverAcquired
  | .submission => ResolverAccounting.submitted
  | .handover => ResolverAccounting.requestToCleanup
  | .observation .request => ResolverAccounting.requestJoined
  | .observation .cleanup => ResolverAccounting.cleanupJoined
  | .release _ => ResolverAccounting.resolverReleased
  | .awaiting _ | .scheduling | .handBack _ | .finished | .forgotten => []

/-- The blocking task: not spawned, queued, queued and aborted, picked up by a thread and about to
count itself, inside the lookup, past `blocking_finished` but not yet over, and over. -/
inductive TaskPoint where
  | unspawned
  | queued
  | revoked
  | starting
  | live
  | leaving
  | ended
  deriving DecidableEq, Repr

namespace TaskPoint

/-- `abort` has no effect on a task that a thread has picked up. -/
def abort : TaskPoint → TaskPoint
  | .queued => .revoked
  | task => task

def running : TaskPoint → Bool
  | .starting | .live | .leaving => true
  | .unspawned | .queued | .revoked | .ended => false

end TaskPoint

structure Lookup where
  stage : Stage
  pending : List Change
  task : TaskPoint
  endObserved : Bool
  resolverReturned : Nat
  activeReturned : Nat
  deriving DecidableEq, Repr

namespace Lookup

def admitted : Lookup :=
  { stage := .admission, pending := Stage.admission.method, task := .unspawned,
    endObserved := false, resolverReturned := 0, activeReturned := 0 }

def enter (lookup : Lookup) (stage : Stage) : Lookup :=
  { lookup with stage, pending := stage.method }

/-- Some, but not all, of the changes of a method have been made. -/
def halfWay (lookup : Lookup) : Bool :=
  !lookup.pending.isEmpty && lookup.pending.length != lookup.stage.method.length

end Lookup

structure ResolverRun where
  accounting : ResolverAccounting
  resolvers : Nat
  lookups : List Lookup

/-- A request takes a resolver permit, the owner of a lookup makes its next step, the owner's `await`
returns, the request times out or is dropped, the cleanup task is spawned if a runtime is current,
and the blocking task makes its next step. -/
inductive ResolverEvent where
  | tryAcquire
  | advance (i : Nat)
  | join (i : Nat)
  | drop (i : Nat)
  | schedule (i : Nat) (current : Bool)
  | block (i : Nat)
  deriving DecidableEq, Repr

namespace ResolverRun

def initial (limit : Nat) : ResolverRun :=
  { accounting := .default, resolvers := limit, lookups := [] }

variable (run : ResolverRun)

def put (i : Nat) (lookup : Lookup) : ResolverRun :=
  { run with lookups := run.lookups.set i lookup }

def change (run : ResolverRun) (made : Change) : ResolverRun :=
  { run with accounting := run.accounting.change made }

/-- `try_acquire_owned`. -/
def tryAcquire : Option ResolverRun :=
  if run.resolvers = 0 then none
  else
    some { run with resolvers := run.resolvers - 1, lookups := run.lookups ++ [.admitted] }

/-- The step of an owner that has no change of a method left to make. -/
def proceed (i : Nat) (lookup : Lookup) : Option ResolverRun :=
  match lookup.stage with
  | .admission => some (run.put i (lookup.enter .submission))
  | .submission =>
    some (run.put i ({ lookup with task := .queued }.enter (.awaiting .request)))
  | .handover =>
    some (run.put i ({ lookup with task := lookup.task.abort }.enter .scheduling))
  | .observation owner => some (run.put i (lookup.enter (.release owner)))
  | .release owner =>
    some ({ run with resolvers := run.resolvers + 1 }.put i
      ({ lookup with resolverReturned := lookup.resolverReturned + 1 }.enter (.handBack owner)))
  | .handBack _ =>
    some (run.put i
      ({ lookup with activeReturned := lookup.activeReturned + 1 }.enter .finished))
  | .awaiting _ | .scheduling | .finished | .forgotten => none

def advance (i : Nat) (lookup : Lookup) : Option ResolverRun :=
  match lookup.pending with
  | made :: pending => some ((run.change made).put i { lookup with pending })
  | [] => run.proceed i lookup

/-- The handle is ready only after the task has ended. -/
def join (i : Nat) (lookup : Lookup) : Option ResolverRun :=
  match lookup.stage, lookup.task with
  | .awaiting owner, .ended =>
    some (run.put i ({ lookup with endObserved := true }.enter (.observation owner)))
  | _, _ => none

def drop (i : Nat) (lookup : Lookup) : Option ResolverRun :=
  match lookup.stage with
  | .awaiting .request => some (run.put i (lookup.enter .handover))
  | _ => none

def schedule (i : Nat) (lookup : Lookup) (current : Bool) : Option ResolverRun :=
  match lookup.stage with
  | .scheduling =>
    some (run.put i (lookup.enter (if current then .awaiting .cleanup else .forgotten)))
  | _ => none

def block (i : Nat) (lookup : Lookup) : Option ResolverRun :=
  match lookup.task with
  | .queued => some (run.put i { lookup with task := .starting })
  | .revoked => some (run.put i { lookup with task := .ended })
  | .starting =>
    some ((run.change (.fetchAdd .liveBlocking)).put i { lookup with task := .live })
  | .live =>
    some ((run.change (.fetchSub .liveBlocking)).put i { lookup with task := .leaving })
  | .leaving => some (run.put i { lookup with task := .ended })
  | .unspawned | .ended => none

def apply : ResolverEvent → Option ResolverRun
  | .tryAcquire => run.tryAcquire
  | .advance i => run.lookups[i]?.bind (run.advance i)
  | .join i => run.lookups[i]?.bind (run.join i)
  | .drop i => run.lookups[i]?.bind (run.drop i)
  | .schedule i current => run.lookups[i]?.bind fun lookup => run.schedule i lookup current
  | .block i => run.lookups[i]?.bind (run.block i)

def running (run : ResolverRun) : Nat :=
  run.lookups.countP fun lookup => lookup.task.running

end ResolverRun

def resolverSystem : Transitions ResolverRun ResolverEvent :=
  .computed ResolverRun.apply

end AuthMiniGateway.ResolverPermits

import AuthMiniGateway.Upload

/-!
# Waking a cancelled upload

Every access to a flag of an upload and every critical section of the waker's lock is a step of its own, and any
number of tasks may be inside `cancel` at once. Three fields are a history that the source does not keep: the
wakers woken since the last registration, whether a call of `cancel` that stored the flag has returned, and
whether one had when the latest poll began.
-/

namespace AuthMiniGateway.UploadWakers

/-- Where a call of `cancel` stands: before its load of `complete`, before its store of `cancelled`,
or before the critical section that takes the waker and wakes it. -/
inductive CancelPoint where
  | checking
  | storing
  | waking
  deriving DecidableEq, Repr

inductive CompletePoint where
  | storing
  | clearing
  deriving DecidableEq, Repr

/-- Where the task that owns the body stands: inside `new`, between two polls, inside `poll_frame`
with the waker of that poll, inside `drop`, or past it. A poll that observes the end of the body has
already fixed its answer. -/
inductive TaskPoint (W D E : Type) where
  | creating (call : CompletePoint)
  | idle
  | entered (waker : W)
  | registering (waker : W)
  | rechecking (waker : W)
  | polling (waker : W)
  | completing (waker : W) (answer : PolledFrame D E) (call : CompletePoint)
  | cancelling (waker : W) (answer : PolledFrame D E) (call : CancelPoint)
  | dropping (call : CancelPoint)
  | dropped

namespace TaskPoint

variable {W D E : Type}

def inPoll : TaskPoint W D E → Bool
  | .entered _ | .registering _ | .rechecking _ | .polling _ | .completing .. | .cancelling .. => true
  | .creating _ | .idle | .dropping _ | .dropped => false

end TaskPoint

structure Shared (W : Type) where
  complete : Bool
  cancelled : Bool
  waker : Option W
  woken : List W
  cancelReturned : Bool
  deriving DecidableEq

namespace Shared

variable {W : Type}

def default : Shared W :=
  { complete := false, cancelled := false, waker := none, woken := [], cancelReturned := false }

def register (willWake : W → W → Bool) (shared : Shared W) (waker : W) : Shared W :=
  let slot :=
    match shared.waker with
    | none => some waker
    | some registered => if !willWake registered waker then some waker else some registered
  { shared with waker := slot, woken := [] }

/-- The next step of a call of `cancel`, and where the call stands then; `none` where it returns. -/
def cancelStep (shared : Shared W) : CancelPoint → Shared W × Option CancelPoint
  | .checking => (shared, if shared.complete then none else some .storing)
  | .storing => ({ shared with cancelled := true }, some .waking)
  | .waking =>
    ({ shared with
        waker := none, woken := shared.waker.toList ++ shared.woken,
        cancelReturned := true }, none)

end Shared

structure WakeRun (W D E : Type) where
  shared : Shared W
  hasInner : Bool
  terminal : Option Bool
  task : TaskPoint W D E
  cancels : Nat → Option CancelPoint
  startedLate : Bool
  lastPoll : Option (W × PolledFrame D E)

/-- A call of `poll_frame`, the next step of the task that owns the body, the drop of the body, a call
of `cancel` by another task, and the next step of that call. Where the owner's step polls the inner
body, `answer` is what that poll gives and `ended` what its `is_end_stream` says afterwards. -/
inductive WakeEvent (W D E : Type) where
  | poll (waker : W)
  | advance (answer : PolledFrame D E) (ended : Bool)
  | drop
  | cancel (caller : Nat)
  | advanceCancel (caller : Nat)

namespace WakeRun

variable {W D E : Type}

def initial (ended : Bool) : WakeRun W D E :=
  { shared := .default
    hasInner := true
    terminal := if ended then some true else none
    task := if ended then .creating .storing else .idle
    cancels := fun _ => none
    startedLate := false
    lastPoll := none }

variable (run : WakeRun W D E)

def finish (waker : W) (answer : PolledFrame D E) : WakeRun W D E :=
  { run with task := .idle, lastPoll := some (waker, answer) }

def observeTerminal (clean : Bool) (waker : W) (answer : PolledFrame D E) :
    WakeRun W D E :=
  if run.terminal.isSome then run.finish waker answer
  else
    { run with
      terminal := some clean
      task :=
        if clean then .completing waker answer .storing else .cancelling waker answer .checking }

def answered (waker : W) (answer : PolledFrame D E) (ended : Bool) :
    WakeRun W D E :=
  match answer with
  | .ready (some (.ok .trailers)) => run.observeTerminal true waker (.ready none)
  | .ready (some (.ok (.data bytes))) =>
    if ended then run.observeTerminal true waker (.ready (some (.ok (.data bytes))))
    else run.finish waker (.ready (some (.ok (.data bytes))))
  | .ready none => run.observeTerminal true waker (.ready none)
  | .ready (some (.error error)) => run.observeTerminal false waker (.ready (some (.error error)))
  | .pending => run.finish waker .pending

def startPoll (waker : W) : Option (WakeRun W D E) :=
  match run.task with
  | .idle =>
    some { run with task := .entered waker, startedLate := run.shared.cancelReturned }
  | _ => none

/-- `finish_on_drop`, which cancels unless the end of the body has been observed. -/
def startDrop : Option (WakeRun W D E) :=
  match run.task with
  | .idle =>
    some (if run.terminal.isSome then { run with task := .dropped }
      else { run with terminal := some false, task := .dropping .checking })
  | _ => none

def advanceTask (willWake : W → W → Bool) (run : WakeRun W D E) (answer : PolledFrame D E)
    (ended : Bool) : Option (WakeRun W D E) :=
  match run.task with
  | .idle | .dropped => none
  | .creating .storing =>
    some { run with shared := { run.shared with complete := true }, task := .creating .clearing }
  | .creating .clearing =>
    some { run with shared := { run.shared with waker := none }, hasInner := false, task := .idle }
  | .entered waker =>
    some (if run.shared.cancelled then run.observeTerminal false waker (.ready none)
      else { run with task := .registering waker })
  | .registering waker =>
    some { run with shared := run.shared.register willWake waker, task := .rechecking waker }
  | .rechecking waker =>
    some (if run.shared.cancelled then run.observeTerminal false waker (.ready none)
      else { run with task := .polling waker })
  | .polling waker =>
    some (if run.hasInner then run.answered waker answer ended
      else run.finish waker (.ready none))
  | .completing waker fixed .storing =>
    some { run with
      shared := { run.shared with complete := true },
      task := .completing waker fixed .clearing }
  | .completing waker fixed .clearing =>
    some (finish { run with shared := { run.shared with waker := none }, hasInner := false }
      waker fixed)
  | .cancelling waker fixed call =>
    match run.shared.cancelStep call with
    | (shared, some next) => some { run with shared, task := .cancelling waker fixed next }
    | (shared, none) => some (finish { run with shared, hasInner := false } waker fixed)
  | .dropping call =>
    match run.shared.cancelStep call with
    | (shared, some next) => some { run with shared, task := .dropping next }
    | (shared, none) => some { run with shared, hasInner := false, task := .dropped }

def startCancel (caller : Nat) : Option (WakeRun W D E) :=
  match run.cancels caller with
  | none => some { run with cancels := Function.update run.cancels caller (some .checking) }
  | some _ => none

def advanceCancel (caller : Nat) : Option (WakeRun W D E) :=
  match run.cancels caller with
  | none => none
  | some call =>
    let result := run.shared.cancelStep call
    some { run with shared := result.1, cancels := Function.update run.cancels caller result.2 }

def apply (willWake : W → W → Bool) (run : WakeRun W D E) : WakeEvent W D E → Option (WakeRun W D E)
  | .poll waker => run.startPoll waker
  | .advance answer ended => run.advanceTask willWake answer ended
  | .drop => run.startDrop
  | .cancel caller => run.startCancel caller
  | .advanceCancel caller => run.advanceCancel caller

end WakeRun

def wakeSystem {W : Type} (D E : Type) (willWake : W → W → Bool) :
    Transitions (WakeRun W D E) (WakeEvent W D E) :=
  .computed (WakeRun.apply willWake)

end AuthMiniGateway.UploadWakers

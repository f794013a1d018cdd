import Mathlib

namespace AuthMiniGateway

namespace AcceptLoop

abbrev Duration := Nat

def fromMillis (milliseconds : Nat) : Duration := milliseconds * 1000000

/-! ### Classes of errors -/

inductive RecoverableAcceptClass
  | resourceFd
  | resourceMemory
  | transient
  deriving DecidableEq, Repr

def RecoverableAcceptClass.isResource : RecoverableAcceptClass → Bool
  | .resourceFd => true
  | .resourceMemory => true
  | .transient => false

inductive ListenerErrnoClass
  | badFd
  | fault
  | invalid
  | notSocket
  | unknown
  deriving DecidableEq, Repr

inductive AcceptErrorClass
  | recoverable (failure : RecoverableAcceptClass)
  | fatal (errnoClass : ListenerErrnoClass)
  deriving DecidableEq, Repr

inductive ErrorKind
  | interrupted
  | connectionAborted
  | wouldBlock
  | timedOut
  | outOfMemory
  | other
  deriving DecidableEq, Repr

structure IoError where
  rawOsError : Option Int
  kind : ErrorKind
  deriving DecidableEq, Repr

-- EMFILE, ENFILE
def fdCodes : List Int := [24, 23]

-- ENOBUFS, ENOMEM
def memoryCodes : List Int := [105, 12]

-- EINTR, ECONNABORTED, EAGAIN, EWOULDBLOCK, ENETDOWN, EPROTO, ENOPROTOOPT, EHOSTDOWN, ENONET, EHOSTUNREACH,
-- EOPNOTSUPP, ENETUNREACH, EPERM, ENOSR, ESOCKTNOSUPPORT, EPROTONOSUPPORT, ETIMEDOUT
def transientCodes : List Int := [4, 103, 11, 11, 100, 71, 92, 112, 64, 113, 95, 101, 1, 63, 94, 93, 110]

def fatalClass : Int → ListenerErrnoClass
  | 9 => .badFd
  | 14 => .fault
  | 22 => .invalid
  | 88 => .notSocket
  | _ => .unknown

/-- The Linux branch reads the code of the system, if there is one, and the kind of the error otherwise. -/
def classifyAcceptError (error : IoError) : AcceptErrorClass :=
  match error.rawOsError with
  | some code =>
    if code ∈ fdCodes then .recoverable .resourceFd
    else if code ∈ memoryCodes then .recoverable .resourceMemory
    else if code ∈ transientCodes then .recoverable .transient
    else .fatal (fatalClass code)
  | none =>
    match error.kind with
    | .interrupted => .recoverable .transient
    | .connectionAborted => .recoverable .transient
    | .wouldBlock => .recoverable .transient
    | .timedOut => .recoverable .transient
    | .outOfMemory => .recoverable .resourceMemory
    | .other => .fatal .unknown

/-! ### Back-off -/

def maxU64 : Nat := 2 ^ 64 - 1

def saturatingSucc (n : Nat) : Nat := min (n + 1) maxU64

structure AcceptBackoff where
  current : Option RecoverableAcceptClass := none
  sameClassStreak : Nat := 0
  deriving DecidableEq, Repr

def resourceDelays : List Nat := [100, 200, 400, 800, 1600, 3200, 5000]

def transientDelays : List Nat := [10, 20, 40, 80, 160, 250]

def delays (failure : RecoverableAcceptClass) : List Nat :=
  if failure.isResource then resourceDelays else transientDelays

def AcceptBackoff.nextDelay (backoff : AcceptBackoff) (failure : RecoverableAcceptClass) :
    Duration × AcceptBackoff :=
  let streak := if backoff.current = some failure then saturatingSucc backoff.sameClassStreak else 1
  let table := delays failure
  (fromMillis (table.getD (min (streak - 1) (table.length - 1)) 0), ⟨some failure, streak⟩)

/-! ### The log of failures -/

structure AcceptFailureEvent where
  failures : Nat
  suppressed : Nat
  deriving DecidableEq, Repr

structure AcceptRecoveryEvent where
  failures : Nat
  suppressed : Nat
  duration : Duration
  deriving DecidableEq, Repr

structure AcceptFailureLogState where
  failures : Nat := 0
  firstFailureAt : Option Duration := none
  lastEmissionAt : Option Duration := none
  suppressedSinceLast : Nat := 0
  deriving DecidableEq, Repr

namespace AcceptFailureLogState

/-- The failures that are logged: the first powers of two, then one a minute. -/
def emits (log : AcceptFailureLogState) (failures : Nat) (now : Duration) : Bool :=
  [1, 2, 4, 8, 16, 32].contains failures ||
    (32 < failures && log.lastEmissionAt.all fun last => fromMillis 60000 ≤ now - last)

def failure (log : AcceptFailureLogState) (now : Duration) :
    Option AcceptFailureEvent × AcceptFailureLogState :=
  let failures := saturatingSucc log.failures
  let first := some (log.firstFailureAt.getD now)
  if log.emits failures now then
    (some ⟨failures, log.suppressedSinceLast⟩, ⟨failures, first, some now, 0⟩)
  else (none, ⟨failures, first, log.lastEmissionAt, saturatingSucc log.suppressedSinceLast⟩)

def recovered (log : AcceptFailureLogState) (now : Duration) :
    Option AcceptRecoveryEvent × AcceptFailureLogState :=
  if log.failures = 0 then (none, log)
  else (some ⟨log.failures, log.suppressedSinceLast, now - log.firstFailureAt.getD now⟩, {})

def summary (log : AcceptFailureLogState) : Nat × Nat := (log.failures, log.suppressedSinceLast)

end AcceptFailureLogState

/-! ### The loop -/

inductive AcceptLoopEvent
  | recoverable (failure : RecoverableAcceptClass) (delay : Duration) (failures suppressed : Nat)
  | recovered (event : AcceptRecoveryEvent)
  deriving DecidableEq, Repr

inductive SanitizedExit
  | runtimeInvariant (invariant : String)
  | listenerFatal (errnoClass : ListenerErrnoClass) (errnoCode : Option Int)
      (priorRecoverableFailures suppressedFailures : Nat)
  deriving DecidableEq, Repr

variable {Connection Peer : Type}

/-- What the environment answers in one round: the semaphore is closed, or the accept call ends and the
clock is read. -/
inductive Answer (Connection Peer : Type)
  | closed
  | accepted (connection : Connection) (peer : Peer) (now : Duration)
  | failed (error : IoError) (now : Duration)
  deriving DecidableEq, Repr

inductive Effect (Connection Peer : Type)
  | acquire
  | accept (result : Except IoError (Connection × Peer))
  | release
  | emit (event : AcceptLoopEvent)
  | sleep (delay : Duration)
  | handOn (connection : Connection) (peer : Peer)
  | exit (reason : SanitizedExit)

structure LoopState where
  backoff : AcceptBackoff := {}
  failureLog : AcceptFailureLogState := {}
  deriving DecidableEq, Repr

def round (state : LoopState) : Answer Connection Peer → List (Effect Connection Peer) × Option LoopState
  | .closed => ([.exit (.runtimeInvariant "downstream_semaphore_closed")], none)
  | .accepted connection peer now =>
    let (event, failureLog) := state.failureLog.recovered now
    ([.acquire, .accept (.ok (connection, peer))] ++ (event.map (.emit <| .recovered ·)).toList
        ++ [.handOn connection peer],
      some ⟨{}, failureLog⟩)
  | .failed error now =>
    match classifyAcceptError error with
    | .recoverable failure =>
      let (delay, backoff) := state.backoff.nextDelay failure
      let (event, failureLog) := state.failureLog.failure now
      ([.acquire, .accept (.error error), .release]
          ++ (event.map fun event =>
            .emit (.recoverable failure delay event.failures event.suppressed)).toList
          ++ [.sleep delay],
        some ⟨backoff, failureLog⟩)
    | .fatal errnoClass =>
      let (failures, suppressed) := state.failureLog.summary
      ([.acquire, .accept (.error error), .release,
          .exit (.listenerFatal errnoClass error.rawOsError failures suppressed)], none)

def rounds : Option LoopState → List (Answer Connection Peer) → List (Effect Connection Peer)
  | none, _ => []
  | some _, [] => []
  | some state, answer :: later => (round state answer).1 ++ rounds (round state answer).2 later

def driveAcceptLoop (answers : List (Answer Connection Peer)) : List (Effect Connection Peer) :=
  rounds (some {}) answers

end AcceptLoop

end AuthMiniGateway

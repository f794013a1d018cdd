import AuthMiniGateway.Lib.Transition

namespace AuthMiniGateway

def authBlockingWorkers : ℕ := 64
def authBlockingAdmission : ℕ := 128

/-- A call of `AuthExecutor::run` waits for the second semaphore, for a thread of the blocking pool, and
for its operation, and is then between the drops of its two permits. -/
inductive AuthCall where
  | waiting
  | queued
  | running
  | leaving
  | finished
  deriving DecidableEq, Repr

namespace AuthCall

def admitted : AuthCall → Bool
  | waiting | queued | running => true
  | leaving | finished => false

def working : AuthCall → Bool
  | queued | running | leaving => true
  | waiting | finished => false

end AuthCall

inductive AuthExecutionError where
  | overloaded
  | internal
  deriving DecidableEq, Repr

structure AuthExecutor where
  admission : ℕ
  work : ℕ
  calls : List AuthCall
  deriving DecidableEq, Repr

inductive AuthEvent where
  | run
  | cancelled (call : ℕ)
  | acquired (call : ℕ)
  | started (call : ℕ)
  | ended (call : ℕ)
  | left (call : ℕ)
  deriving DecidableEq, Repr

namespace AuthExecutor

def withLimits (work admission : ℕ) : AuthExecutor := ⟨admission, work, []⟩

def new : AuthExecutor := withLimits authBlockingWorkers authBlockingAdmission

variable (executor : AuthExecutor)

def tryAdmit : Except AuthExecutionError AuthExecutor :=
  if executor.admission = 0 then .error .overloaded
  else .ok { executor with admission := executor.admission - 1, calls := executor.calls ++ [.waiting] }

def move (call : ℕ) (before after : AuthCall) : Option AuthExecutor :=
  if executor.calls[call]? = some before then some { executor with calls := executor.calls.set call after }
  else none

/-- A caller that goes away while it waits gives its permit back. Once spawned, an operation goes on without
its caller, and the permits are dropped in turn when it has returned or panicked. -/
def apply : AuthEvent → Option AuthExecutor
  | .run => executor.tryAdmit.toOption
  | .cancelled call => { executor with admission := executor.admission + 1 }.move call .waiting .finished
  | .acquired call =>
    if executor.work = 0 then none
    else { executor with work := executor.work - 1 }.move call .waiting .queued
  | .started call => executor.move call .queued .running
  | .ended call => { executor with admission := executor.admission + 1 }.move call .running .leaving
  | .left call => { executor with work := executor.work + 1 }.move call .leaving .finished

end AuthExecutor

end AuthMiniGateway

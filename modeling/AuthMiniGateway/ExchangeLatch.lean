import AuthMiniGateway.Sanitize

/-!
# The exchange latch

Of the owner the latch only touches the sender. Every operation holds the lock of the latch, so each is one
step.
-/

namespace AuthMiniGateway

inductive RetirementReason where
  | requestCancellation
  | readyFailure
  | sendFailure
  | invalidUpgrade
  | responseBodyError
  | responseBodyDrop
  | nonReusableResponse
  | poolReadyTimeout
  | poolReadyFailure
  | poolFull
  | poolPoisoned
  | upgradeFailure
  | webSocketClosed
  | webSocketError
  | webSocketCancellation
  | idleOwnerDrop
  deriving DecidableEq, Repr

inductive ExchangeResource where
  | h1 (sender : Bool)
  | h2 (sender : Bool) (privateGeneration : Bool)
  deriving DecidableEq, Repr

namespace ExchangeResource

def protocol : ExchangeResource → ActualProtocol
  | .h1 _ => .http1
  | .h2 _ _ => .http2

def sender : ExchangeResource → Bool
  | .h1 sender => sender
  | .h2 sender _ => sender

def withSender (resource : ExchangeResource) (sender : Bool) : ExchangeResource :=
  match resource with
  | .h1 _ => .h1 sender
  | .h2 _ privateGeneration => .h2 sender privateGeneration

end ExchangeResource

structure FinishCall where
  resource : ExchangeResource
  reusable : Bool
  reason : RetirementReason
  deriving DecidableEq, Repr

inductive Finish where
  | parkOrRetire
  | retire (reason : RetirementReason)
  | releaseStream
  | retireGeneration
  deriving DecidableEq, Repr

/-- What becomes of the owner while the runtime is alive. Only an HTTP/1 owner can go to the pool: the
owner of an HTTP/2 exchange gives its stream back, and a generation that belongs to the exchange alone
is retired, with its permit kept until the transport is dropped. -/
def finishExchangeResource (call : FinishCall) : Finish :=
  match call.resource with
  | .h1 _ => if call.reusable then .parkOrRetire else .retire call.reason
  | .h2 _ privateGeneration => if privateGeneration then .retireGeneration else .releaseStream

structure ResponseCompletion where
  reusable : Bool
  reason : RetirementReason
  deriving DecidableEq, Repr

structure ExchangeLatch where
  request : Option Bool
  response : Option ResponseCompletion
  resource : Option ExchangeResource
  deriving DecidableEq, Repr

namespace ExchangeLatch

def new (resource : ExchangeResource) : ExchangeLatch :=
  { request := none, response := none, resource := some resource }

variable (latch : ExchangeLatch)

def complete (update : ExchangeLatch → ExchangeLatch) :
    ExchangeLatch × Option FinishCall :=
  let inner := update latch
  match inner.request, inner.response, inner.resource with
  | some requestClean, some response, some resource =>
    ({ inner with
      resource := none },
      some ⟨resource, requestClean && response.reusable, response.reason⟩)
  | _, _, _ => (inner, none)

def requestDone (clean : Bool) : ExchangeLatch × Option FinishCall :=
  latch.complete fun inner => { inner with request := inner.request <|> some clean }

def responseDone (completion : ResponseCompletion) :
    ExchangeLatch × Option FinishCall :=
  latch.complete fun inner => { inner with response := inner.response <|> some completion }

def dropH1Sender : ExchangeLatch :=
  match latch.resource with
  | some (.h1 _) => { latch with resource := some (.h1 false) }
  | _ => latch

/-- `none` is the internal error: the exchange is finished, or its sender is not in place. -/
def takeDispatchSender : Option ExchangeLatch :=
  match latch.resource with
  | some resource =>
    if resource.sender then some { latch with resource := some (resource.withSender false) }
    else none
  | none => none

/-- The guard of the dispatch is dropped with the sender in it. -/
def putSender : ExchangeLatch :=
  { latch with resource := latch.resource.map (·.withSender true) }

end ExchangeLatch

end AuthMiniGateway

import AuthMiniGateway.Routing
import AuthMiniGateway.Tunnel
import AuthMiniGateway.Upload

/-!
# A forwarded exchange

`forward` from the moment it has put the selected owner behind a latch. It waits only for the dispatch, so that
is where its future can be cancelled. Two more events are a report of either half by anyone, at any time.
`requests`, `responses` and `finishes` record the reports and the calls of `finish_exchange_resource`, the
latest first.
-/

namespace AuthMiniGateway

def headerHasToken (headers : HeaderMap) (name : HeaderName) (expected : String) : Bool :=
  (headers.getAll name).any fun value =>
    value.toStr.any fun text =>
      (text.toList.splitOn ',').any fun token =>
        Request.eqIgnoreAsciiCase (String.ofList (trim token)) expected

structure UpstreamResponse where
  version : HttpVersion
  status : Nat
  headers : HeaderMap
  deriving DecidableEq, Repr

def UpstreamResponse.reusable (response : UpstreamResponse) (protocol : ActualProtocol) : Bool :=
  protocol = .http1 && response.version = .http11 &&
    !headerHasToken response.headers .connection "close" && response.status ≠ 101

/-! ### The body that is passed on -/

structure ExchangeResponseBody (D E : Type) where
  inner : Option (List (PolledFrame D E))
  exchange : Bool
  reusable : Bool
  deriving DecidableEq

namespace ExchangeResponseBody

variable {D E : Type}

/-- Takes the exchange; the report is the one made to it. -/
def report (body : ExchangeResponseBody D E) (completion : ResponseCompletion) :
    ExchangeResponseBody D E × Option ResponseCompletion :=
  if body.exchange then ({ body with inner := none, exchange := false }, some completion)
  else (body, none)

def complete (body : ExchangeResponseBody D E) :
    ExchangeResponseBody D E × Option ResponseCompletion :=
  body.report ⟨body.reusable, .nonReusableResponse⟩

def fail (body : ExchangeResponseBody D E) (reason : RetirementReason) :
    ExchangeResponseBody D E × Option ResponseCompletion :=
  body.report ⟨false, reason⟩

/-- `complete` is what the inner body answers to `is_end_stream`. -/
def new (inner : List (PolledFrame D E)) (reusable complete : Bool) :
    ExchangeResponseBody D E × Option ResponseCompletion :=
  let body : ExchangeResponseBody D E := { inner := some inner, exchange := true, reusable }
  if complete then body.complete else (body, none)

/-- `ended` is what the inner body answers to `is_end_stream` after a data frame. -/
def pollFrame (body : ExchangeResponseBody D E) (ended : Bool) :
    (ExchangeResponseBody D E × Option ResponseCompletion) × PolledFrame D E :=
  match body.inner with
  | none => ((body, none), .ready none)
  | some [] => ((body, none), .pending)
  | some (answer :: rest) =>
    let body := { body with inner := some rest }
    match answer with
    | .ready (some (.ok .trailers)) => (body.complete, .ready none)
    | .ready (some (.ok frame)) =>
      (if ended then body.complete else (body, none), .ready (some (.ok frame)))
    | .ready none => (body.complete, .ready none)
    | .ready (some (.error error)) =>
      (body.fail .responseBodyError, .ready (some (.error error)))
    | .pending => ((body, none), .pending)

end ExchangeResponseBody

/-! ### What `forward` does with a response -/

inductive Delivery where
  | report (reason : RetirementReason)
  | bridge (bridge : WebSocketBridge)
  | body (reusable : Bool)
  deriving DecidableEq, Repr

/-- `valid` and `sanitized` say whether `validate_websocket_upstream_response` and the sanitizing of
the response head succeed. Over HTTP/2 both come after the candidate was made. -/
def deliver (websocket : Option WebSocketBridge) (protocol : ActualProtocol)
    (response : UpstreamResponse) (valid sanitized : Bool) : Delivery :=
  match websocket with
  | some bridge =>
    match bridge.upstream with
    | .http1 => if valid && sanitized then .bridge bridge else .report .invalidUpgrade
    | .http2 => if response.status ≠ 200 then .report .invalidUpgrade else .bridge bridge
  | none =>
    if response.status = 101 then .report .invalidUpgrade
    else if sanitized then .body (response.reusable protocol)
    else .report .nonReusableResponse

/-! ### The system -/

inductive ForwardStage where
  | preparing
  | dispatching
  | responded
  | failed
  | dropping
  | returned
  deriving DecidableEq, Repr

inductive ResponseHalf (D E : Type) where
  | guard
  | body (body : ExchangeResponseBody D E)
  | tunnel (tunnel : Tunnel)
  | gone
  deriving DecidableEq

/-- The report that an event makes to the exchange. -/
def Tunnel.reports (t : Tunnel) : TunnelEvent → Option RetirementReason
  | .act =>
    match t.stage with
    | .ending (.responseDone reason :: _) => if t.exchange then some reason else none
    | _ => none
  | _ => none

structure ForwardExchange (W D E : Type) where
  protocol : ActualProtocol
  -- the downstream protocol of a WebSocket request
  websocket : Option ActualProtocol
  latch : ExchangeLatch
  stage : ForwardStage
  upload : UploadRun W D E
  wrapper : Bool
  response : ResponseHalf D E
  requests : List Bool
  responses : List ResponseCompletion
  finishes : List FinishCall

inductive ForwardEvent (W D E : Type) where
  | upload (event : UploadEvent W D E)
  | wrapperDrop
  | takeSender
  | dispatched (ok : Bool)
  | sendFailure
  | cancel
  | guardDrop
  | deliver (response : UpstreamResponse) (valid sanitized : Bool) (inner : List (PolledFrame D E))
      (complete : Bool)
  | bodyPoll (ended : Bool)
  | bodyDrop
  | tunnel (event : TunnelEvent)
  | requestDone (clean : Bool)
  | responseDone (completion : ResponseCompletion)

namespace ForwardExchange

variable {W D E : Type}

def new (resource : ExchangeResource) (websocket : Option ActualProtocol)
    (source : List (PolledFrame D E)) (complete : Bool) : ForwardExchange W D E :=
  { protocol := resource.protocol, websocket, latch := .new resource, stage := .preparing,
    upload := .initial source complete, wrapper := true, response := .guard, requests := [],
    responses := [], finishes := [] }

def requestDone (x : ForwardExchange W D E) (clean : Bool) : ForwardExchange W D E :=
  let result := x.latch.requestDone clean
  { x with
    latch := result.1, requests := clean :: x.requests,
    finishes := result.2.toList ++ x.finishes }

def responseDone (x : ForwardExchange W D E) (completion : ResponseCompletion) :
    ForwardExchange W D E :=
  let result := x.latch.responseDone completion
  { x with
    latch := result.1, responses := completion :: x.responses,
    finishes := result.2.toList ++ x.finishes }

def reported (x : ForwardExchange W D E) (report : Option ResponseCompletion) :
    ForwardExchange W D E :=
  report.elim x x.responseDone

def handOver (x : ForwardExchange W D E) (response : ResponseHalf D E)
    (report : Option ResponseCompletion) : ForwardExchange W D E :=
  { x with response }.reported report

def returning (x : ForwardExchange W D E) : ForwardExchange W D E :=
  { x with stage := .returned }

def delivered (x : ForwardExchange W D E) (inner : List (PolledFrame D E)) (complete : Bool) :
    Delivery → ForwardExchange W D E
  | .report reason => x.returning.handOver .gone (some ⟨false, reason⟩)
  | .bridge bridge =>
    { x.returning with
      latch := if bridge.upstream = .http1 then x.latch.dropH1Sender else x.latch
      response := .tunnel (.new bridge) }
  | .body reusable =>
    let result := ExchangeResponseBody.new inner reusable complete
    x.returning.handOver (.body result.1) result.2

inductive Step : ForwardExchange W D E → ForwardEvent W D E → ForwardExchange W D E → Prop
  | upload {x event next} (hstep : UploadRun.Step x.upload event next) :
      Step x (.upload event) { x with upload := next }
  | wrapperDrop {x} (hwrapper : x.wrapper = true) :
      Step x .wrapperDrop
        ({ x with
          wrapper := false,
          upload := x.upload.withBody (x.upload.body.finishOnDrop x.upload.upload).1 false }.requestDone
            (x.upload.body.finishOnDrop x.upload.upload).2)
  | takeSender {x latch} (hstage : x.stage = .preparing)
      (htake : x.latch.takeDispatchSender = some latch) :
      Step x .takeSender { x with latch, stage := .dispatching }
  | noSender {x} (hstage : x.stage = .preparing) (htake : x.latch.takeDispatchSender = none) :
      Step x .takeSender { x with stage := .failed }
  | dispatched {x} (ok) (hstage : x.stage = .dispatching) :
      Step x (.dispatched ok)
        { x with latch := x.latch.putSender, stage := if ok then .responded else .failed }
  | sendFailure {x} (hstage : x.stage = .failed) :
      Step x .sendFailure (x.returning.handOver .gone (some ⟨false, .sendFailure⟩))
  | cancel {x} (hstage : x.stage = .dispatching) :
      Step x .cancel { x with latch := x.latch.putSender, stage := .dropping }
  | guardDrop {x} (hstage : x.stage = .dropping) :
      Step x .guardDrop (x.returning.handOver .gone (some ⟨false, .requestCancellation⟩))
  | deliver {x} (response valid sanitized inner complete) (hstage : x.stage = .responded) :
      Step x (.deliver response valid sanitized inner complete)
        (x.delivered inner complete
          (AuthMiniGateway.deliver (x.websocket.map (WebSocketBridge.new · x.protocol)) x.protocol
            response valid sanitized))
  | bodyPoll {x body} (ended) (hbody : x.response = .body body) :
      Step x (.bodyPoll ended)
        (x.handOver (.body (body.pollFrame ended).1.1) (body.pollFrame ended).1.2)
  | bodyDrop {x body} (hbody : x.response = .body body) :
      Step x .bodyDrop (x.handOver .gone (body.fail .responseBodyDrop).2)
  | tunnel {x t} (event) (htunnel : x.response = .tunnel t) (henabled : t.enabled event = true) :
      Step x (.tunnel event)
        (x.handOver (.tunnel (t.apply event)) ((t.reports event).map fun reason => ⟨false, reason⟩))
  | requestDone {x} (clean) : Step x (.requestDone clean) (x.requestDone clean)
  | responseDone {x} (completion) : Step x (.responseDone completion) (x.responseDone completion)

def Dropped (x : ForwardExchange W D E) : Prop :=
  x.stage = .returned ∧ x.wrapper = false ∧
    (x.response = .gone ∨ ∃ t, x.response = .tunnel t ∧ t.stage = .ending [])

end ForwardExchange

def forwardSystem (W D E : Type) : Transitions (ForwardExchange W D E) (ForwardEvent W D E) :=
  { step := ForwardExchange.Step }

end AuthMiniGateway

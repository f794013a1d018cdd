import AuthMiniGateway.ExchangeLatch
import AuthMiniGateway.Lib.Transition

/-!
# Tunnels

Over HTTP/1 the handles go into a pending bridge at once; over HTTP/2 `forward` holds a candidate while it
checks the response. Everything that the bridge and the cleanup do between two waits and in their destructors is
a list of actions, carried out one at a time. `reported` records the reports of the response half. The runtime
is alive throughout.
-/

namespace AuthMiniGateway

inductive WebSocketBridge where
  | h1ToH1
  | h1ToH2
  | h2ToH1
  | h2ToH2
  deriving DecidableEq, Repr

namespace WebSocketBridge

def new (downstream upstream : ActualProtocol) : WebSocketBridge :=
  match downstream, upstream with
  | .http1, .http1 => .h1ToH1
  | .http1, .http2 => .h1ToH2
  | .http2, .http1 => .h2ToH1
  | .http2, .http2 => .h2ToH2

def downstream : WebSocketBridge → ActualProtocol
  | .h1ToH1 | .h1ToH2 => .http1
  | .h2ToH1 | .h2ToH2 => .http2

def upstream : WebSocketBridge → ActualProtocol
  | .h1ToH1 | .h2ToH1 => .http1
  | .h1ToH2 | .h2ToH2 => .http2

end WebSocketBridge

inductive TeardownAction where
  | dropDownstreamHandle
  | dropUpstreamHandle
  | dropDownstreamStream
  | dropUpstreamStream
  | responseDone (reason : RetirementReason)
  | releaseStreamLease
  | releaseLease
  deriving DecidableEq, Repr

inductive TunnelStage where
  | candidate
  | pending
  | active
  | rejected
  | ending (actions : List TeardownAction)
  deriving DecidableEq, Repr

structure Tunnel where
  forwardHandle : Bool
  downstreamHandle : Bool
  upstreamHandle : Bool
  downstreamStream : Bool
  upstreamStream : Bool
  exchange : Bool
  streamLease : Bool
  lease : Bool
  stage : TunnelStage
  reported : List RetirementReason
  deriving DecidableEq, Repr

namespace Tunnel

/-- The state `forward` leaves behind once it has both handles. Only a downstream HTTP/2 request has a
stream lease, and only an upstream HTTP/2 response is checked after its handle was taken. -/
def new (bridge : WebSocketBridge) : Tunnel :=
  { forwardHandle := bridge.upstream = .http2
    downstreamHandle := bridge.upstream = .http1
    upstreamHandle := true
    downstreamStream := false
    upstreamStream := false
    exchange := true
    streamLease := bridge.downstream = .http2
    lease := true
    stage := if bridge.upstream = .http2 then .candidate else .pending
    reported := [] }

/-! ### Destructors -/

def pendingBridgeDrop : List TeardownAction :=
  [.dropDownstreamHandle, .dropUpstreamHandle, .responseDone .webSocketCancellation,
    .releaseStreamLease, .releaseLease]

def dropStreams : List TeardownAction :=
  [.dropDownstreamStream, .dropUpstreamStream]

def activeBridgeDrop : List TeardownAction :=
  dropStreams ++ [.responseDone .webSocketCancellation, .releaseStreamLease, .releaseLease]

def rejectedFinish : List TeardownAction :=
  [.responseDone .invalidUpgrade, .releaseStreamLease, .releaseLease]

def rejectedDrop : List TeardownAction :=
  .dropUpstreamHandle :: rejectedFinish

/-! ### Ends -/

/-- `try_join!` is dropped with the streams it had already produced, before the guard that owns the
handles. -/
def cancelPending : List TeardownAction :=
  dropStreams ++ pendingBridgeDrop

def upgradeFailure : List TeardownAction :=
  dropStreams ++ [.responseDone .upgradeFailure] ++ pendingBridgeDrop

def copyEnded (ok : Bool) : List TeardownAction :=
  dropStreams ++ [.responseDone (if ok then .webSocketClosed else .webSocketError)] ++
    activeBridgeDrop

def rejectedRun : List TeardownAction :=
  [.dropUpstreamHandle, .dropUpstreamStream] ++ rejectedFinish ++ rejectedDrop

def act (t : Tunnel) : TeardownAction → Tunnel
  | .dropDownstreamHandle => { t with downstreamHandle := false }
  | .dropUpstreamHandle => { t with upstreamHandle := false }
  | .dropDownstreamStream => { t with downstreamStream := false }
  | .dropUpstreamStream => { t with upstreamStream := false }
  | .responseDone reason =>
    if t.exchange then { t with exchange := false, reported := reason :: t.reported } else t
  | .releaseStreamLease => { t with streamLease := false }
  | .releaseLease => { t with lease := false }

end Tunnel

inductive TunnelEvent where
  | accept
  | reject
  | forwardReturn
  | downstreamUpgraded
  | upstreamUpgraded
  | upgradeFailed
  | bothUpgraded
  | copyEnded (ok : Bool)
  | rejectedUpgrade (ok : Bool)
  | cancel
  | act
  deriving DecidableEq, Repr

namespace Tunnel

def enabled (t : Tunnel) : TunnelEvent → Bool
  | .accept => t.stage = .candidate
  | .reject => t.stage = .candidate
  | .forwardReturn => t.stage ≠ .candidate ∧ t.forwardHandle = true
  | .downstreamUpgraded => t.stage = .pending ∧ t.downstreamStream = false
  | .upstreamUpgraded => t.stage = .pending ∧ t.upstreamStream = false
  | .upgradeFailed => t.stage = .pending ∧ (t.downstreamStream && t.upstreamStream) = false
  | .bothUpgraded => t.stage = .pending ∧ (t.downstreamStream && t.upstreamStream) = true
  | .copyEnded _ => t.stage = .active
  | .rejectedUpgrade _ => t.stage = .rejected
  | .cancel => t.stage = .pending ∨ t.stage = .active ∨ t.stage = .rejected
  | .act =>
    match t.stage with
    | .ending (_ :: _) => true
    | _ => false

def apply (t : Tunnel) : TunnelEvent → Tunnel
  | .accept =>
    { t with stage := .pending, forwardHandle := false, downstreamHandle := t.forwardHandle }
  | .reject => { t with stage := .rejected }
  | .forwardReturn => { t with forwardHandle := false }
  | .downstreamUpgraded => { t with downstreamStream := true }
  | .upstreamUpgraded => { t with upstreamStream := true }
  | .upgradeFailed => { t with stage := .ending upgradeFailure }
  | .bothUpgraded => { t with stage := .active, downstreamHandle := false, upstreamHandle := false }
  | .copyEnded ok => { t with stage := .ending (copyEnded ok) }
  | .rejectedUpgrade ok => { t with stage := .ending rejectedRun, upstreamStream := ok }
  | .cancel =>
    match t.stage with
    | .pending => { t with stage := .ending cancelPending }
    | .active => { t with stage := .ending activeBridgeDrop }
    | .rejected => { t with stage := .ending rejectedDrop }
    | _ => t
  | .act =>
    match t.stage with
    | .ending (action :: actions) => { t.act action with stage := .ending actions }
    | _ => t

end Tunnel

def tunnels : Transitions Tunnel TunnelEvent :=
  .guarded Tunnel.enabled Tunnel.apply

end AuthMiniGateway

import AuthMiniGateway.Tunnel

namespace AuthMiniGateway

open TeardownAction

namespace Tunnel

@[mk_iff]
structure Cleared (t : Tunnel) : Prop where
  downstreamHandle : t.downstreamHandle = false
  upstreamHandle : t.upstreamHandle = false
  downstreamStream : t.downstreamStream = false
  upstreamStream : t.upstreamStream = false

/-- The order in which a tunnel over `bridge` is taken down, as seen in one state. -/
@[mk_iff]
structure Ordered (bridge : WebSocketBridge) (t : Tunnel) : Prop where
  reported_once : t.reported.length ≤ 1
  dropped_first : t.reported ≠ [] → t.Cleared ∧ t.forwardHandle = false
  stream_after : bridge.downstream = .http2 → t.streamLease = false → t.reported ≠ []
  connection_last : t.lease = false → t.reported ≠ [] ∧ t.streamLease = false
  ended : t.stage = .ending [] → t.reported.length = 1 ∧ t.streamLease = false ∧ t.lease = false

/-- The condition on a step: no upgrade fails, and the cleanup of a rejected upgrade does not report
while `forward` still holds the downstream handle. -/
def waits (t : Tunnel) : TunnelEvent → Bool
  | .upgradeFailed => false
  | .act =>
    match t.stage with
    | .ending (responseDone .invalidUpgrade :: _) => !t.forwardHandle
    | _ => true
  | _ => true

instance (t : Tunnel) : Decidable t.Cleared := decidable_of_iff' _ (cleared_iff t)

instance (bridge : WebSocketBridge) (t : Tunnel) : Decidable (t.Ordered bridge) :=
  decidable_of_iff' _ (ordered_iff bridge t)

/-! ### The states of a tunnel -/

def events : List TunnelEvent :=
  [.accept, .reject, .forwardReturn, .downstreamUpgraded, .upstreamUpgraded, .upgradeFailed,
    .bothUpgraded, .copyEnded true, .copyEnded false, .rejectedUpgrade true, .rejectedUpgrade false,
    .cancel, .act]

theorem mem_events (event : TunnelEvent) : event ∈ events := by
  rcases event with _ | _ | _ | _ | _ | _ | _ | ⟨_ | _⟩ | ⟨_ | _⟩ | _ | _ <;> decide

def allowed (t : Tunnel) (event : TunnelEvent) : Bool := t.enabled event && t.waits event

def states (bridge : WebSocketBridge) : List Tunnel :=
  Transitions.explore (fun t => (events.filter t.allowed).map t.apply) 300 [] [.new bridge]

theorem states_closed (bridge : WebSocketBridge) :
    .new bridge ∈ states bridge ∧ ∀ t ∈ states bridge, t.Ordered bridge ∧
      ∀ event ∈ events, t.allowed event = true → t.apply event ∈ states bridge := by
  cases bridge <;> decide +kernel

end Tunnel

def waitingTunnels : Transitions Tunnel TunnelEvent :=
  .guarded (fun t event => t.enabled event && t.waits event) Tunnel.apply

/-- **Teardown order.** Whatever the protocols on the two sides and however the tunnel ends, in every
state of a run without a failed upgrade, and in which `forward` has returned before a cleanup reports,
the response half is reported at most once and exactly once by the end, nothing is held any more once
it is, and the stream lease and then the connection lease go after that. -/
theorem tunnel_teardown_order (bridge : WebSocketBridge) {events : List TunnelEvent} {t : Tunnel}
    (hrun : waitingTunnels.Run (Tunnel.new bridge) events t) : t.Ordered bridge := by
  obtain ⟨hnew, hclosed⟩ := Tunnel.states_closed bridge
  have hmem : t ∈ Tunnel.states bridge := by
    refine Transitions.guarded_mem hrun hnew fun t hmem event hallowed => ?_
    exact (hclosed t hmem).2 event (Tunnel.mem_events event) hallowed
  exact (hclosed t hmem).1

def sampleTunnelEvents : List TunnelEvent :=
  [.accept, .downstreamUpgraded, .upstreamUpgraded, .bothUpgraded, .copyEnded true] ++
    List.replicate 8 .act

/-- An HTTP/2 to HTTP/2 tunnel that is closed by its ends, down to the release of both leases. -/
theorem tunnel_teardown_order_closed :
    (sampleTunnelEvents.foldl Tunnel.apply (.new .h2ToH2)).stage = .ending [] ∧
    (sampleTunnelEvents.foldl Tunnel.apply (.new .h2ToH2)).Ordered .h2ToH2 :=
  ⟨by decide,
    tunnel_teardown_order .h2ToH2 (Transitions.guarded_run .start sampleTunnelEvents (by decide))⟩

/-- A failed upgrade is reported while both handles are held, and a rejected one may be reported while
`forward` holds the downstream handle. -/
theorem handles_outlive_report :
    (∃ events t, tunnels.Run (.new .h1ToH1) events t ∧ t.reported = [.upgradeFailure] ∧
      t.downstreamHandle = true ∧ t.upstreamHandle = true) ∧
    (∃ events t, tunnels.Run (.new .h1ToH2) events t ∧ t.reported = [.invalidUpgrade] ∧
      t.forwardHandle = true) :=
  ⟨⟨_, _, Transitions.guarded_run .start [.upgradeFailed, .act, .act, .act] (by decide), by decide⟩,
    ⟨_, _, Transitions.guarded_run .start [.reject, .cancel, .act, .act] (by decide), by decide⟩⟩

end AuthMiniGateway

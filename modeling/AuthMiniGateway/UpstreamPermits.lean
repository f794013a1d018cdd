import AuthMiniGateway.ExchangeLatch
import AuthMiniGateway.Lib.Transition

/-!
# Upstream permits and the pool

The state lists the holders of the permits with what they hold. An HTTP/2 generation goes by the number of its
transport. A transport may be dropped at any time. The steps of a holder end where other tasks can run or where
the pool is locked. The runtime is alive and no lock is poisoned.
-/

namespace AuthMiniGateway

def upstreamIdlePoolCapacity : Nat := 8

inductive PoolEntry where
  | h1 (transport : Nat)
  | h2 (generation : Nat)
  | retiringH2 (generation : Nat)
  deriving DecidableEq, Repr

namespace PoolEntry

def transport : PoolEntry → Nat
  | .h1 transport => transport
  | .h2 generation => generation
  | .retiringH2 generation => generation

def generation : PoolEntry → Option Nat
  | .h1 _ => none
  | .h2 generation => some generation
  | .retiringH2 generation => some generation

def takeH1 : List PoolEntry → Option (Nat × List PoolEntry)
  | [] => none
  | .h1 transport :: rest => some (transport, rest)
  | entry :: rest => (takeH1 rest).map fun taken => (taken.1, entry :: taken.2)

def generations (pool : List PoolEntry) : List Nat :=
  pool.filterMap fun entry =>
    match entry with
    | .h2 generation => some generation
    | _ => none

/-- The first entry of the generation turns into its retiring one. -/
def retire (generation : Nat) : List PoolEntry → List PoolEntry
  | [] => []
  | entry :: rest =>
    if entry = .h2 generation then .retiringH2 generation :: rest
    else entry :: retire generation rest

def removeRetiring (generation : Nat) (pool : List PoolEntry) : List PoolEntry :=
  pool.filter (· ≠ .retiringH2 generation)

end PoolEntry

inductive PermitHolder where
  | admitted
  | candidates (generations : List Nat)
  | reselecting (tries : Nat)
  | probing (transport tries : Nat)
  | rejoining (transport tries : Nat)
  | connecting
  | resolving
  | resolverCleanup
  | dialing
  | dialed (transport : Nat)
  | connected (transport : Nat)
  | handshaking (protocol : ActualProtocol) (transport : Nat)
  | gate (transport : Nat)
  | taken (transport : Nat)
  | spawning (transport : Nat) (published : Bool)
  | h1 (transport : Nat)
  | h2 (generation : Nat) (privateGeneration : Bool)
  | parking (transport : Nat)
  | placed (transport : Nat)
  | retiring (transport : Nat)
  | awaitingDrop (transport : Nat)
  | returning (transport : Option Nat)
  deriving DecidableEq, Repr

namespace PermitHolder

def resource (sender : Bool) : PermitHolder → Option ExchangeResource
  | .h1 _ => some (.h1 sender)
  | .h2 _ privateGeneration => some (.h2 sender privateGeneration)
  | _ => none

/-- What holds the permit once `finish_exchange_resource` has run. -/
def finished : PermitHolder → Finish → PermitHolder
  | .h1 transport, .parkOrRetire => .parking transport
  | .h1 transport, .retire _ => .retiring transport
  | .h2 generation _, .retireGeneration => .awaitingDrop generation
  | .h2 generation _, .releaseStream => .returning (some generation)
  | holder, _ => holder

end PermitHolder

/-- How far the driver task of a generation is: it drops the connection, makes the pool entry a
retiring one, waits for the transport to be dropped, removes the entry, and ends. -/
inductive DriverStage where
  | unspawned
  | running
  | dropped
  | waiting
  | removed
  | finished
  deriving DecidableEq, Repr

structure Upstream where
  configuredProtocol : UpstreamProtocol
  activeLimit : Nat
  holders : List PermitHolder
  pool : List PoolEntry
  -- the transports that are open
  transports : List Nat
  nextTransport : Nat
  published : Nat → Bool
  driver : Nat → DriverStage

namespace Upstream

def new (configuredProtocol : UpstreamProtocol) (activeLimit : Nat) : Upstream :=
  { configuredProtocol
    activeLimit
    holders := []
    pool := []
    transports := []
    nextTransport := 0
    published := fun _ => false
    driver := fun _ => .unspawned }

variable (s : Upstream)

def allowsProtocol : ActualProtocol → Bool
  | .http1 => s.configuredProtocol = .auto || s.configuredProtocol = .http1
  | .http2 => s.configuredProtocol = .auto || s.configuredProtocol = .http2

def put (i : Nat) (holder : PermitHolder) : Upstream :=
  { s with holders := s.holders.set i holder }

def close (transport : Nat) : Upstream :=
  { s with transports := s.transports.erase transport }

def retireH2Generation (generation : Nat) : Upstream :=
  if s.published generation then { s with pool := PoolEntry.retire generation s.pool } else s

def setDriver (generation : Nat) (stage : DriverStage) : Upstream :=
  { s with driver := Function.update s.driver generation stage }

def park (transport : Nat) : Upstream :=
  { s with pool := s.pool ++ [.h1 transport] }

def publish (generation : Nat) : Upstream :=
  { s with
    pool := s.pool ++ [.h2 generation],
    published := Function.update s.published generation true }

def removeRetiringH2Slot (generation : Nat) : Upstream :=
  if s.published generation then { s with pool := PoolEntry.removeRetiring generation s.pool } else s

end Upstream

inductive H2ReserveResult where
  | reserved
  | saturated
  | closed
  deriving DecidableEq, Repr

/-- How `connect` starts: with an address, with a lookup, or without a resolver permit. -/
inductive Lookup where
  | address
  | domain
  | saturated
  deriving DecidableEq, Repr

inductive Resolution where
  | addresses
  | error
  | timeout
  deriving DecidableEq, Repr

inductive UpstreamEvent where
  | arrive
  | scan (i : Nat)
  | reserve (i : Nat) (result : H2ReserveResult)
  | skipReserve (i : Nat)
  | takeIdle (i : Nat)
  | noIdle (i : Nat)
  | probed (i : Nat) (ready : Bool)
  | rejoined (i : Nat)
  | lookup (i : Nat) (lookup : Lookup)
  | resolved (i : Nat) (resolution : Resolution)
  | resolverJoined (i : Nat)
  | dial (i : Nat)
  | nextAddress (i : Nat)
  | dialed (i : Nat)
  | dialFailed (i : Nat)
  | negotiated (i : Nat) (protocol : Option ActualProtocol)
  | shaken (i : Nat) (ok : Bool)
  | proved (i : Nat) (ok : Bool)
  | publish (i : Nat) (selectable : Bool)
  | spawnDriver (i : Nat)
  | finish (i : Nat) (call : FinishCall)
  | parked (i transport : Nat)
  | notParked (i : Nat) (ready : Bool)
  | joined (i : Nat)
  | transportDropped (i : Nat)
  | cancel (i : Nat)
  | release (i : Nat)
  | drop (transport : Nat)
  | retireH2Generation (generation : Nat)
  | driver (generation : Nat)
  deriving DecidableEq, Repr

namespace Upstream

open PermitHolder

/-- What the future that owns a connect phase leaves behind: the transport goes before the permit. -/
def abandon (s : Upstream) (i transport : Nat) : Upstream :=
  (s.close transport).put i (.returning (some transport))

/-- A request that waits is dropped. Exchanges are not here: their end is `finish`. -/
def cancelled (s : Upstream) (i : Nat) : PermitHolder → Option Upstream
  | .probing transport _ => some (s.put i (.retiring transport))
  | .rejoining transport _ => some (s.put i (.retiring transport))
  | .resolving => some (s.put i .resolverCleanup)
  | .dialing => some (s.put i (.returning none))
  | .dialed transport => some (s.abandon i transport)
  | .handshaking _ transport => some (s.abandon i transport)
  | .gate transport => some (s.put i (.awaitingDrop transport))
  | _ => none

def driven (s : Upstream) (generation : Nat) : DriverStage → Option Upstream
  | .running => some (s.setDriver generation .dropped)
  | .dropped => some ((s.retireH2Generation generation).setDriver generation .waiting)
  | .waiting =>
    if generation ∈ s.transports then none
    else some ((s.removeRetiringH2Slot generation).setDriver generation .removed)
  | .removed => some (s.setDriver generation .finished)
  | _ => none

inductive Step : Upstream → UpstreamEvent → Upstream → Prop
  | arrive {s} (hroom : s.holders.length < s.activeLimit) :
      Step s .arrive { s with holders := s.holders ++ [.admitted] }
  -- select_exchange
  | scan {s i} (hat : s.holders[i]? = some .admitted) :
      Step s (.scan i)
        (s.put i (.candidates (if s.allowsProtocol .http2 then PoolEntry.generations s.pool else [])))
  | reserved {s i generation rest} (hat : s.holders[i]? = some (.candidates (generation :: rest))) :
      Step s (.reserve i .reserved) (s.put i (.h2 generation false))
  | saturated {s i generation rest} (hat : s.holders[i]? = some (.candidates (generation :: rest))) :
      Step s (.reserve i .saturated) (s.put i (.candidates rest))
  | closed {s i generation rest} (hat : s.holders[i]? = some (.candidates (generation :: rest))) :
      Step s (.reserve i .closed) ((s.retireH2Generation generation).put i (.candidates rest))
  | skipReserve {s i} (hat : s.holders[i]? = some (.candidates [])) :
      Step s (.skipReserve i)
        (s.put i (if s.allowsProtocol .http1 then .reselecting upstreamIdlePoolCapacity
          else .connecting))
  | takeIdle {s i tries transport rest} (hat : s.holders[i]? = some (.reselecting (tries + 1)))
      (htake : PoolEntry.takeH1 s.pool = some (transport, rest)) :
      Step s (.takeIdle i) { s.put i (.probing transport tries) with pool := rest }
  | noIdle {s i tries} (hat : s.holders[i]? = some (.reselecting tries))
      (hnone : tries = 0 ∨ PoolEntry.takeH1 s.pool = none) :
      Step s (.noIdle i) (s.put i .connecting)
  | probed {s i transport tries} (ready) (hat : s.holders[i]? = some (.probing transport tries)) :
      Step s (.probed i ready)
        (s.put i (if ready then .h1 transport else .rejoining transport tries))
  | rejoined {s i transport tries} (hat : s.holders[i]? = some (.rejoining transport tries))
      (hgone : transport ∉ s.transports) :
      Step s (.rejoined i) (s.put i (.reselecting tries))
  -- connect
  | lookup {s i} (lookup) (hat : s.holders[i]? = some .connecting) :
      Step s (.lookup i lookup)
        (s.put i (match lookup with
          | .address => .dialing
          | .domain => .resolving
          | .saturated => .returning none))
  | resolved {s i} (resolution) (hat : s.holders[i]? = some .resolving) :
      Step s (.resolved i resolution)
        (s.put i (match resolution with
          | .addresses => .dialing
          | .error => .returning none
          | .timeout => .resolverCleanup))
  | resolverJoined {s i} (hat : s.holders[i]? = some .resolverCleanup) :
      Step s (.resolverJoined i) (s.put i (.returning none))
  | dial {s i} (hat : s.holders[i]? = some .dialing) :
      Step s (.dial i)
        { s.put i (.dialed s.nextTransport) with
          transports := s.nextTransport :: s.transports,
          nextTransport := s.nextTransport + 1 }
  | nextAddress {s i transport} (hat : s.holders[i]? = some (.dialed transport)) :
      Step s (.nextAddress i) ((s.close transport).put i .dialing)
  | dialed {s i transport} (hat : s.holders[i]? = some (.dialed transport)) :
      Step s (.dialed i) (s.put i (.connected transport))
  | notDialed {s i} (hat : s.holders[i]? = some .dialing) :
      Step s (.dialFailed i) (s.put i (.returning none))
  | dialFailed {s i transport} (hat : s.holders[i]? = some (.dialed transport)) :
      Step s (.dialFailed i) (s.abandon i transport)
  | negotiated {s i transport} (protocol) (hat : s.holders[i]? = some (.connected transport))
      (hallowed : s.allowsProtocol protocol = true) :
      Step s (.negotiated i (some protocol)) (s.put i (.handshaking protocol transport))
  | mismatched {s i transport} (hat : s.holders[i]? = some (.connected transport)) :
      Step s (.negotiated i none) (s.abandon i transport)
  | shaken {s i protocol transport} (hat : s.holders[i]? = some (.handshaking protocol transport)) :
      Step s (.shaken i true)
        (s.put i (match protocol with
          | .http1 => .h1 transport
          | .http2 => .gate transport))
  | notShaken {s i protocol transport}
      (hat : s.holders[i]? = some (.handshaking protocol transport)) :
      Step s (.shaken i false) (s.abandon i transport)
  -- connect_h2
  | proved {s i transport} (ok) (hat : s.holders[i]? = some (.gate transport)) :
      Step s (.proved i ok) (s.put i (if ok then .taken transport else .awaitingDrop transport))
  | published {s i transport} (hat : s.holders[i]? = some (.taken transport))
      (hroom : s.pool.length < upstreamIdlePoolCapacity) :
      Step s (.publish i true) ((s.publish transport).put i (.spawning transport true))
  | notPublished {s i transport} (selectable) (hat : s.holders[i]? = some (.taken transport))
      (hnot : selectable = false ∨ upstreamIdlePoolCapacity ≤ s.pool.length) :
      Step s (.publish i selectable) (s.put i (.spawning transport false))
  | spawnDriver {s i transport published}
      (hat : s.holders[i]? = some (.spawning transport published)) :
      Step s (.spawnDriver i)
        ((s.setDriver transport .running).put i (.h2 transport (!published)))
  -- exchanges, parking and retirement
  | finish {s i holder call} (hat : s.holders[i]? = some holder)
      (hresource : holder.resource call.resource.sender = some call.resource) :
      Step s (.finish i call) (s.put i (holder.finished (finishExchangeResource call)))
  | parked {s i transport} (hat : s.holders[i]? = some (.parking transport))
      (hroom : s.pool.length < upstreamIdlePoolCapacity) :
      Step s (.parked i transport) ((s.park transport).put i (.placed transport))
  | notParked {s i transport} (ready) (hat : s.holders[i]? = some (.parking transport))
      (hnot : ready = false ∨ upstreamIdlePoolCapacity ≤ s.pool.length) :
      Step s (.notParked i ready) (s.put i (.retiring transport))
  | joined {s i transport} (hat : s.holders[i]? = some (.retiring transport))
      (hgone : transport ∉ s.transports) :
      Step s (.joined i) (s.put i (.returning (some transport)))
  | transportDropped {s i transport} (hat : s.holders[i]? = some (.awaitingDrop transport))
      (hgone : transport ∉ s.transports) :
      Step s (.transportDropped i) (s.put i (.returning (some transport)))
  | cancel {s next i holder} (hat : s.holders[i]? = some holder)
      (hcancel : s.cancelled i holder = some next) : Step s (.cancel i) next
  | release {s i transport} (hat : s.holders[i]? = some (.returning transport)) :
      Step s (.release i) { s with holders := s.holders.eraseIdx i }
  | releasePlaced {s i transport} (hat : s.holders[i]? = some (.placed transport)) :
      Step s (.release i) { s with holders := s.holders.eraseIdx i }
  -- everyone else
  | drop {s} (transport) : Step s (.drop transport) (s.close transport)
  | retireH2Generation {s} (generation) :
      Step s (.retireH2Generation generation) (s.retireH2Generation generation)
  | driver {s next generation} (hdriven : s.driven generation (s.driver generation) = some next) :
      Step s (.driver generation) next

end Upstream

def upstreamSystem : Transitions Upstream UpstreamEvent where
  step := Upstream.Step

end AuthMiniGateway

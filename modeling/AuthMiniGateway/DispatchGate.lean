import AuthMiniGateway.H2Proof

/-!
# The dispatch gate

One generation of an upstream HTTP/2 connection, and the tasks that share its control. `retiring` and `closing`
count the writers that have cleared the flag `selectable` and have not stored the state yet. `inbound` are the
bytes the scanner was fed and `processed` those whose revocation, if there was one, has been stored.
-/

namespace AuthMiniGateway

/-- Where the task that polls the transport is. It holds the lock while it is `installing` or
`revoking`. -/
inductive Reader where
  | idle
  | reading
  | observed (o : H2ProofState.Observed)
  | installing (o : H2ProofState.Observed)
  | installed (o : H2ProofState.Observed)
  | revoking (o : H2ProofState.Observed)
  | notifying (o : H2ProofState.Observed)
  | publishing (o : H2ProofState.Observed)
  deriving DecidableEq, Repr

def Reader.holdsLock : Reader → Bool
  | .installing _ => true
  | .revoking _ => true
  | _ => false

inductive Connector where
  | proving
  | ready (settings : InitialH2Settings)
  | matched (settings : InitialH2Settings)
  | connected
  deriving DecidableEq, Repr

structure H2Gate where
  proof : H2ProofState
  reader : Reader
  connector : Connector
  reserving : Nat
  reservations : Nat
  retiring : Nat
  closing : Nat
  inbound : List UInt8
  processed : List UInt8
  deriving DecidableEq, Repr

inductive GateEvent where
  | poll
  | unread
  | fault
  | feed (chunk : List UInt8)
  | advance
  | write (bytes : List UInt8)
  | writeVectored (bufs : List (List UInt8)) (accepted : Nat)
  | writeFault
  | drop
  | seeReady (settings : InitialH2Settings)
  | seeMatch
  | connect
  | tryReserve
  | reserve
  | saturate
  | findClosed
  | release
  | enqueue (kind : H2DispatchKind)
  | refuse (kind : H2DispatchKind)
  | retire
  | retireState
  | close
  | closeState
  deriving DecidableEq, Repr

namespace H2Gate

def start : H2Gate :=
  { proof := .new .new, reader := .idle, connector := .proving, reserving := 0, reservations := 0,
    retiring := 0, closing := 0, inbound := [], processed := [] }

def control (g : H2Gate) : GenerationControl := g.proof.control

def setControl (g : H2Gate) (control : GenerationControl) : H2Gate :=
  { g with proof := { g.proof with control } }

def advance (g : H2Gate) : H2Gate :=
  match g.reader with
  | .idle => g
  | .reading => g
  | .observed o =>
    match o.initial with
    | none => { g with reader := .installed o }
    | some initial =>
      if g.control.state ≠ .proving then
        { g with proof := { g.proof with status := .failed }, reader := .idle }
      else
        { g.setControl (g.control.storeState (GenerationControl.liveState initial.extendedConnect)) with
          reader := .installing o }
  | .installing o => { g.setControl (g.control.storeSelectable true) with reader := .installed o }
  | .installed o =>
    if o.revoke ∧ g.control.state = .liveEnabled then
      { g.setControl (g.control.storeState .revoked) with
        reader := .revoking o,
        processed := g.inbound }
    else
      { g with reader := .publishing o, processed := g.inbound }
  | .revoking o => { g.setControl (g.control.storeSelectable false) with reader := .notifying o }
  | .notifying o => { g.setControl g.control.publishRetirement with reader := .publishing o }
  | .publishing o =>
    { g with proof := g.proof.publishStatus o.status, reader := .idle }

/-- Between a write's own look at the state and its observation the state may have changed, so a write
is not bound to it here. -/
def enabled (g : H2Gate) : GateEvent → Bool
  | .poll => g.reader = .idle ∧ g.proof.transportDropped = false ∧ g.control.ioMustFail = false
  | .unread => g.reader = .reading
  | .fault => g.reader = .reading
  | .feed chunk => g.reader = .reading ∧ chunk ≠ []
  | .advance => true
  | .write _ => g.reader = .idle ∧ g.proof.transportDropped = false
  | .writeVectored _ _ => g.reader = .idle ∧ g.proof.transportDropped = false
  | .writeFault => g.reader = .idle ∧ g.proof.transportDropped = false
  | .drop => g.reader = .idle
  | .seeReady settings => g.connector = .proving ∧ g.proof.status = .ready settings
  | .seeMatch =>
    match g.connector with
    | .ready settings => g.reader.holdsLock = false ∧ g.control.initialStateMatches settings.extendedConnect
    | _ => false
  | .connect =>
    match g.connector with
    | .matched _ => g.control.isSelectable
    | _ => false
  | .tryReserve => g.connector = .connected ∧ g.control.isSelectable
  | .reserve => 0 < g.reserving
  | .saturate => 0 < g.reserving
  | .findClosed => 0 < g.reserving
  | .release => 0 < g.reservations
  | .enqueue kind => 0 < g.reservations ∧ g.reader.holdsLock = false ∧ g.control.linearizeDispatch kind
  | .refuse kind =>
    0 < g.reservations ∧ g.reader.holdsLock = false ∧ g.control.linearizeDispatch kind = false
  | .retire => g.connector = .connected
  | .retireState => 0 < g.retiring ∧ g.reader.holdsLock = false
  | .close => g.connector = .connected
  | .closeState => 0 < g.closing ∧ g.reader.holdsLock = false

def seeMatch (g : H2Gate) : H2Gate :=
  match g.connector with
  | .ready settings => { g with connector := .matched settings }
  | _ => g

def apply (g : H2Gate) : GateEvent → H2Gate
  | .poll => { g with reader := .reading }
  | .unread => { g with reader := .idle }
  | .fault =>
    { g with proof := g.proof.ioFailed, reader := .idle }
  | .feed chunk =>
    { g with
      proof := (g.proof.feedInbound chunk).2,
      reader := .observed (g.proof.feedInbound chunk).1, inbound := g.inbound ++ chunk }
  | .advance => g.advance
  | .write bytes => { g with proof := g.proof.observeOutbound bytes }
  | .writeVectored bufs accepted => { g with proof := g.proof.observeOutboundVectored bufs accepted }
  | .writeFault => { g with proof := g.proof.ioFailed }
  | .drop => { g with proof := g.proof.markTransportDropped }
  | .seeReady settings => { g with connector := .ready settings }
  | .seeMatch => g.seeMatch
  | .connect =>
    { g with connector := .connected, reservations := 1 }
  | .tryReserve => { g with reserving := g.reserving + 1 }
  | .reserve =>
    { g with reserving := g.reserving - 1, reservations := g.reservations + 1 }
  | .saturate => { g with reserving := g.reserving - 1 }
  | .findClosed =>
    { g.setControl (g.control.storeSelectable false) with reserving := g.reserving - 1 }
  | .release => { g with reservations := g.reservations - 1 }
  | .enqueue _ => g
  | .refuse _ => g
  | .retire => { g.setControl (g.control.storeSelectable false) with retiring := g.retiring + 1 }
  | .retireState => { g.setControl g.control.retireState with retiring := g.retiring - 1 }
  | .close => { g.setControl (g.control.storeSelectable false) with closing := g.closing + 1 }
  | .closeState => { g.setControl (g.control.storeState .closed) with closing := g.closing - 1 }

end H2Gate

/-- The reservations of a generation that is being proved are none, and it is retired and closed only
when it is connected. -/
def h2Gate : Transitions H2Gate GateEvent where
  step g event next := g.enabled event = true ∧ next = g.apply event

end AuthMiniGateway

import AuthMiniGateway.H2Proof

/-!
# The wrapped transport

A read fills any part of the room there is, and a write accepts any part of the bytes. `reads` are the reads
that brought some, the latest one first, each with what the scanner made of it.
-/

namespace AuthMiniGateway

structure H2Transport where
  proof : H2ProofState
  inbound : List UInt8
  outbound : List UInt8
  reads : List (List UInt8 × Except Unit InboundObservation)
  deriving Repr

inductive H2Poll where
  | read (cursor : Nat) (inner : Poll (Except Unit (List UInt8)))
  | write (bytes : List UInt8) (inner : Poll (Except Unit Nat))
  | writeVectored (bufs : List (List UInt8)) (inner : Poll (Except Unit Nat))
  | drop
  deriving Repr

namespace H2Transport

def start : H2Transport :=
  { proof := .new .new, inbound := [], outbound := [], reads := [] }

def written (bytes : List UInt8) : Poll (Except H2ProofState.IoError Nat) → List UInt8
  | .ready (.ok accepted) => bytes.take accepted
  | _ => []

def read (t : H2Transport) (cursor : Nat) (inner : Poll (Except Unit (List UInt8))) : H2Transport :=
  let (result, proof) := t.proof.pollRead cursor inner
  match result with
  | .ready (.ok (byte :: bytes)) =>
    { t with
      proof, inbound := t.inbound ++ byte :: bytes,
      reads := (byte :: bytes, (t.proof.inbound.feed (byte :: bytes)).1) :: t.reads }
  | _ => { t with proof }

def write (t : H2Transport) (bytes : List UInt8) (inner : Poll (Except Unit Nat)) : H2Transport :=
  let (result, proof) := t.proof.pollWrite bytes inner
  { t with proof, outbound := t.outbound ++ written bytes result }

def writeVectored (t : H2Transport) (bufs : List (List UInt8)) (inner : Poll (Except Unit Nat)) :
    H2Transport :=
  let (result, proof) := t.proof.pollWriteVectored bufs inner
  { t with proof, outbound := t.outbound ++ written bufs.flatten result }

def dropped (t : H2Transport) : H2Transport := { t with proof := t.proof.markTransportDropped }

def poll (t : H2Transport) : H2Poll → H2Transport
  | .read cursor inner => t.read cursor inner
  | .write bytes inner => t.write bytes inner
  | .writeVectored bufs inner => t.writeVectored bufs inner
  | .drop => t.dropped

end H2Transport

/-- The end of the stream, an error and the end of the transport. -/
def H2Poll.Faulty : H2Poll → Prop
  | .read _ (.ready (.ok [])) => True
  | .read _ (.ready (.error ())) => True
  | .write _ (.ready (.error ())) => True
  | .writeVectored _ (.ready (.error ())) => True
  | .drop => True
  | _ => False

/-- A transport that is dropped is not polled again. -/
def h2Transport : Transitions H2Transport H2Poll where
  step t event next := t.proof.transportDropped = false ∧ next = t.poll event

end AuthMiniGateway

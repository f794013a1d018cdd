import AuthMiniGateway.Lib.Http2
import AuthMiniGateway.Upload

/-!
# The SETTINGS proof

An upstream HTTP/2 connection may be used when the peer's first frame is a valid SETTINGS frame and the
gateway's own stack has acknowledged it. `GenerationControl` is what the rest of the gateway sees of it; every
operation on it is one step.
-/

namespace AuthMiniGateway

open Http2 (fromBeBytes)

def h2InitialSettingsMax : Nat := 16384

/-- `PRI * HTTP/2.0`, two line ends, `SM` and two line ends. -/
def h2ClientPreface : List UInt8 :=
  [80, 82, 73, 32, 42, 32, 72, 84, 84, 80, 47, 50, 46, 48, 13, 10, 13, 10, 83, 77, 13, 10, 13, 10]

structure InitialH2Settings where
  extendedConnect : Bool
  maxConcurrentStreams : Option Nat
  deriving DecidableEq, Repr

def InitialH2Settings.default : InitialH2Settings :=
  { extendedConnect := false, maxConcurrentStreams := none }

/-! ### The inbound bytes -/

structure InboundObservation where
  initial : Option InitialH2Settings
  revoke : Bool
  deriving DecidableEq, Repr

def InboundObservation.default : InboundObservation :=
  { initial := none, revoke := false }

inductive ScannedPayload where
  | skip
  | initialSettings
  | laterSettings
  deriving DecidableEq, Repr

structure ServerFrameScanner where
  header : List UInt8
  payloadRemaining : Nat
  payload : ScannedPayload
  pair : List UInt8
  frameExtendedConnect : Option Bool
  buildingInitial : InitialH2Settings
  settings : Option InitialH2Settings
  header_short : header.length < 9
  pair_short : pair.length ≤ 6
  deriving DecidableEq, Repr

namespace ServerFrameScanner

def default : ServerFrameScanner :=
  { header := []
    payloadRemaining := 0
    payload := .skip
    pair := []
    frameExtendedConnect := none
    buildingInitial := .default
    settings := none
    header_short := by decide
    pair_short := by decide }

/-- What a frame header makes of the payload after it; a first frame that is no SETTINGS frame is an
error. -/
def beginFrame (s : ServerFrameScanner) (header : List UInt8) :
    Except ServerFrameScanner ServerFrameScanner :=
  let length := fromBeBytes (header.take 3)
  let frameType := fromBeBytes ((header.drop 3).take 1)
  let flags := fromBeBytes ((header.drop 4).take 1)
  let stream := fromBeBytes ((header.drop 5).take 4) % 2 ^ 31
  let s := { s with
    header := [], payloadRemaining := length, pair := [],
    frameExtendedConnect := none, header_short := Nat.succ_pos 8, pair_short := Nat.zero_le 6 }
  if s.settings = none then
    if frameType ≠ 4 ∨ flags % 2 ≠ 0 ∨ stream ≠ 0 ∨ h2InitialSettingsMax < length ∨ length % 6 ≠ 0 then
      .error s
    else
      .ok { s with buildingInitial := .default, payload := .initialSettings }
  else if frameType = 4 ∧ flags % 2 = 0 ∧ stream = 0 ∧ length % 6 = 0 then
    .ok { s with payload := .laterSettings }
  else .ok { s with payload := .skip }

def initialPair (settings : InitialH2Settings) (id value : Nat) : Option InitialH2Settings :=
  if id = 2 then none
  else if id = 3 then some { settings with maxConcurrentStreams := some value }
  else if id = 4 ∧ 2 ^ 31 - 1 < value then none
  else if id = 5 ∧ ¬(16384 ≤ value ∧ value ≤ 16777215) then none
  else if id = 8 ∧ 1 < value then none
  else if id = 8 then some { settings with extendedConnect := value == 1 }
  else some settings

def laterPair (last : Option Bool) (id value : Nat) : Option Bool :=
  if id = 8 ∧ value ≤ 1 then some (value == 1) else last

def consumePair (s : ServerFrameScanner) : Option ServerFrameScanner :=
  let id := fromBeBytes (s.pair.take 2)
  let value := fromBeBytes (s.pair.drop 2)
  match s.payload with
  | .initialSettings =>
    (initialPair s.buildingInitial id value).map fun settings => { s with buildingInitial := settings }
  | .laterSettings => some { s with frameExtendedConnect := laterPair s.frameExtendedConnect id value }
  | .skip => some s

def clearPair (s : ServerFrameScanner) : ServerFrameScanner :=
  { s with pair := [], pair_short := Nat.zero_le 6 }

def finishFrame (s : ServerFrameScanner) (observation : InboundObservation) :
    ServerFrameScanner × InboundObservation :=
  let next := { s with
    payload := .skip, pair := [], frameExtendedConnect := none,
    pair_short := Nat.zero_le 6 }
  match s.payload with
  | .initialSettings =>
    ({ next with
      settings := some s.buildingInitial },
      { observation with initial := some s.buildingInitial })
  | .laterSettings =>
    if s.frameExtendedConnect = some false then (next, { observation with revoke := true })
    else (next, observation)
  | .skip => (next, observation)

def copied (s : ServerFrameScanner) (bytes : List UInt8) : Nat :=
  min (6 - s.pair.length) (min s.payloadRemaining bytes.length)

theorem copied_short (s : ServerFrameScanner) (bytes : List UInt8) :
    (s.pair ++ bytes.take (s.copied bytes)).length ≤ 6 := by
  have hshort := s.pair_short
  rw [List.length_append, List.length_take, copied]
  omega

def copyPair (s : ServerFrameScanner) (bytes : List UInt8) : ServerFrameScanner :=
  { s with
    pair := s.pair ++ bytes.take (s.copied bytes),
    payloadRemaining := s.payloadRemaining - s.copied bytes, pair_short := s.copied_short bytes }

def skipPayload (s : ServerFrameScanner) (n : Nat) : ServerFrameScanner :=
  { s with payloadRemaining := s.payloadRemaining - n }

def scanPayload (s : ServerFrameScanner) (bytes : List UInt8) :
    Except ServerFrameScanner (ServerFrameScanner × List UInt8) :=
  if s.payload = .skip then
    let skipped := min s.payloadRemaining bytes.length
    .ok (s.skipPayload skipped, bytes.drop skipped)
  else
    let rest := bytes.drop (s.copied bytes)
    let s := s.copyPair bytes
    if s.pair.length = 6 then
      match s.consumePair with
      | some s => .ok (s.clearPair, rest)
      | none => .error s
    else .ok (s, rest)

inductive Turn where
  | failed (s : ServerFrameScanner)
  | stopped (s : ServerFrameScanner) (observation : InboundObservation)
  | again (s : ServerFrameScanner) (observation : InboundObservation) (rest : List UInt8)

def finishTurn (s : ServerFrameScanner) (observation : InboundObservation) (rest : List UInt8) : Turn :=
  .again (s.finishFrame observation).1 (s.finishFrame observation).2 rest

def payloadTurn (s : ServerFrameScanner) (observation : InboundObservation) (bytes : List UInt8) : Turn :=
  match s.scanPayload bytes with
  | .error s => .failed s
  | .ok (s, rest) =>
    if s.payloadRemaining = 0 then s.finishTurn observation rest else .again s observation rest

def headerTurn (s : ServerFrameScanner) (observation : InboundObservation) (header rest : List UInt8) :
    Turn :=
  match s.beginFrame header with
  | .error s => .failed s
  | .ok s =>
    if s.payloadRemaining = 0 then s.finishTurn observation rest else s.payloadTurn observation rest

def turn (s : ServerFrameScanner) (observation : InboundObservation) (bytes : List UInt8) : Turn :=
  if s.payloadRemaining = 0 then
    if h : (s.header ++ bytes.take (9 - s.header.length)).length < 9 then
      .stopped { s with
        header := s.header ++ bytes.take (9 - s.header.length),
        header_short := h } observation
    else
      s.headerTurn observation (s.header ++ bytes.take (9 - s.header.length))
        (bytes.drop (9 - s.header.length))
  else s.payloadTurn observation bytes

/-- Bytes that are left count twice, a setting that is still to be consumed once. -/
def weight (s : ServerFrameScanner) (bytes : List UInt8) : Nat :=
  2 * bytes.length + if s.pair.length = 6 then 1 else 0

theorem weight_le (s : ServerFrameScanner) (bytes : List UInt8) :
    s.weight bytes ≤ 2 * bytes.length + 1 := by
  rw [weight]
  split_ifs <;> omega

theorem finishFrame_weight (s : ServerFrameScanner) (observation : InboundObservation)
    (bytes : List UInt8) : (s.finishFrame observation).1.weight bytes = 2 * bytes.length := by
  unfold finishFrame
  cases s.payload with
  | skip | initialSettings => rfl
  | laterSettings =>
    dsimp only
    split_ifs <;> rfl

variable {s s' : ServerFrameScanner} {bytes rest : List UInt8}
  {observation observation' : InboundObservation}

theorem scanPayload_rest (h : s.scanPayload bytes = .ok (s', rest)) :
    rest.length ≤ bytes.length ∧
      (s.payloadRemaining ≠ 0 → bytes ≠ [] → s'.weight rest < s.weight bytes) := by
  have hshort := s.pair_short
  simp only [scanPayload] at h
  split_ifs at h with hskip hfull
  · cases h
    refine ⟨(List.drop_sublist _ _).length_le, ?_⟩
    intro hremaining hbytes
    have hpos := List.length_pos_iff.mpr hbytes
    change 2 * (bytes.drop _).length + (if s.pair.length = 6 then 1 else 0) < _
    rw [weight, List.length_drop]
    omega
  · cases hpair : (s.copyPair bytes).consumePair with
    | none =>
      rw [hpair] at h
      cases h
    | some =>
      rw [hpair] at h
      cases h
      refine ⟨(List.drop_sublist _ _).length_le, ?_⟩
      intro hremaining hbytes
      have hpos := List.length_pos_iff.mpr hbytes
      change 2 * (bytes.drop _).length + 0 < _
      rw [weight, List.length_drop, copied]
      split_ifs <;> omega
  · cases h
    refine ⟨(List.drop_sublist _ _).length_le, ?_⟩
    intro hremaining hbytes
    have hpos := List.length_pos_iff.mpr hbytes
    have hpair : s.pair.length ≠ 6 := by
      intro hsix
      apply hfull
      rw [copyPair, List.length_append, copied, List.length_take]
      omega
    rw [weight, weight, if_neg hfull, if_neg hpair, List.length_drop, copied]
    omega

theorem payloadTurn_again (h : s.payloadTurn observation bytes = .again s' observation' rest) :
    rest.length ≤ bytes.length ∧
      (s.payloadRemaining ≠ 0 → bytes ≠ [] → s'.weight rest < s.weight bytes) := by
  rw [payloadTurn] at h
  cases hscan : s.scanPayload bytes with
  | error =>
    rw [hscan] at h
    cases h
  | ok result =>
    obtain ⟨next, left⟩ := result
    rw [hscan] at h
    dsimp only at h
    obtain ⟨hle, hlt⟩ := scanPayload_rest hscan
    split_ifs at h with hdone
    · cases h
      refine ⟨hle, ?_⟩
      intro hremaining hbytes
      have hnext := hlt hremaining hbytes
      rw [finishFrame_weight]
      rw [weight] at hnext
      omega
    · cases h
      exact ⟨hle, hlt⟩

theorem headerTurn_again {header : List UInt8}
    (h : s.headerTurn observation header bytes = .again s' observation' rest) :
    rest.length ≤ bytes.length := by
  rw [headerTurn] at h
  split at h
  · cases h
  · next next hbegin =>
    split_ifs at h with hempty
    · cases h
      exact Nat.le_refl _
    · exact (payloadTurn_again h).1

theorem turn_again (h : s.turn observation bytes = .again s' observation' rest)
    (hbytes : bytes ≠ []) : s'.weight rest < s.weight bytes := by
  rw [turn] at h
  split_ifs at h with hidle hpartial
  · have hpos := List.length_pos_iff.mpr hbytes
    have hheader := s.header_short
    have hrest := headerTurn_again h
    have hweight := weight_le s' rest
    have hbelow : 2 * bytes.length ≤ s.weight bytes := Nat.le_add_right _ _
    rw [List.length_drop] at hrest
    omega
  · exact (payloadTurn_again h).2 hidle hbytes

def feedLoop (s : ServerFrameScanner) (observation : InboundObservation) (bytes : List UInt8) :
    Except Unit InboundObservation × ServerFrameScanner :=
  if hbytes : bytes = [] then (.ok observation, s)
  else
    match hturn : s.turn observation bytes with
    | .failed s => (.error (), s)
    | .stopped s observation => (.ok observation, s)
    | .again s' observation rest =>
      have _ : s'.weight rest < s.weight bytes := turn_again hturn hbytes
      s'.feedLoop observation rest
termination_by s.weight bytes

def feed (s : ServerFrameScanner) (bytes : List UInt8) :
    Except Unit InboundObservation × ServerFrameScanner :=
  s.feedLoop .default bytes

end ServerFrameScanner

/-! ### The outbound bytes -/

structure ClientAckParser where
  prefaceLen : Nat
  header : List UInt8
  payloadRemaining : Nat
  ackSeen : Bool
  header_short : header.length < 9
  deriving DecidableEq, Repr

namespace ClientAckParser

def default : ClientAckParser :=
  { prefaceLen := 0, header := [], payloadRemaining := 0, ackSeen := false,
    header_short := by decide }

inductive Turn where
  | failed (p : ClientAckParser)
  | done (p : ClientAckParser)
  | again (p : ClientAckParser) (rest : List UInt8)

/-- A complete frame header: the acknowledgement, a wrong one, or a frame whose payload is skipped. -/
def headerTurn (p : ClientAckParser) (header rest : List UInt8) : Turn :=
  let length := fromBeBytes (header.take 3)
  let stream := fromBeBytes ((header.drop 5).take 4) % 2 ^ 31
  if fromBeBytes ((header.drop 3).take 1) = 4 ∧ fromBeBytes ((header.drop 4).take 1) % 2 ≠ 0 then
    if length ≠ 0 ∨ stream ≠ 0 then .failed p else .done { p with ackSeen := true }
  else
    .again { p with payloadRemaining := length, header := [], header_short := Nat.succ_pos 8 } rest

def turn (p : ClientAckParser) (bytes : List UInt8) : Turn :=
  if p.prefaceLen < h2ClientPreface.length then
    let copied := min (h2ClientPreface.length - p.prefaceLen) bytes.length
    if bytes.take copied ≠ (h2ClientPreface.drop p.prefaceLen).take copied then .failed p
    else .again { p with prefaceLen := p.prefaceLen + copied } (bytes.drop copied)
  else if p.payloadRemaining ≠ 0 then
    let skipped := min p.payloadRemaining bytes.length
    .again { p with payloadRemaining := p.payloadRemaining - skipped } (bytes.drop skipped)
  else if h : (p.header ++ bytes.take (9 - p.header.length)).length < 9 then
    .again { p with
      header := p.header ++ bytes.take (9 - p.header.length),
      header_short := h } (bytes.drop (9 - p.header.length))
  else
    p.headerTurn (p.header ++ bytes.take (9 - p.header.length)) (bytes.drop (9 - p.header.length))

theorem turn_again {p p' : ClientAckParser} {bytes rest : List UInt8}
    (h : p.turn bytes = .again p' rest) (hbytes : bytes ≠ []) : rest.length < bytes.length := by
  have hpos := List.length_pos_iff.mpr hbytes
  have hheader := p.header_short
  simp only [turn, headerTurn] at h
  split_ifs at h <;> cases h <;> rw [List.length_drop] <;> omega

def feedLoop (p : ClientAckParser) (bytes : List UInt8) : Except Unit Unit × ClientAckParser :=
  if hbytes : bytes = [] then (.ok (), p)
  else
    match hturn : p.turn bytes with
    | .failed p => (.error (), p)
    | .done p => (.ok (), p)
    | .again p' rest =>
      have _ : rest.length < bytes.length := turn_again hturn hbytes
      p'.feedLoop rest
termination_by bytes.length

def feed (p : ClientAckParser) (bytes : List UInt8) : Except Unit Unit × ClientAckParser :=
  if p.ackSeen then (.ok (), p) else p.feedLoop bytes

end ClientAckParser

/-! ### The generation -/

inductive GenerationState where
  | proving
  | liveDisabled
  | liveEnabled
  | revoked
  | retiring
  | closed
  deriving DecidableEq, Repr

inductive H2DispatchKind where
  | ordinary
  | extendedConnect
  deriving DecidableEq, Repr

structure GenerationControl where
  selectable : Bool
  state : GenerationState
  retirement : Bool
  deriving DecidableEq, Repr

namespace GenerationControl

def new : GenerationControl :=
  { selectable := false, state := .proving, retirement := false }

def liveState (enabled : Bool) : GenerationState := if enabled then .liveEnabled else .liveDisabled

variable (c : GenerationControl)

def storeState (state : GenerationState) : GenerationControl :=
  { c with state }

def storeSelectable (selectable : Bool) : GenerationControl :=
  { c with selectable }

def publishRetirement : GenerationControl := { c with retirement := true }

/-- `none` when the generation is no longer being proved. -/
def installInitial (enabled : Bool) : Option GenerationControl :=
  if c.state ≠ .proving then none
  else some ((c.storeState (liveState enabled)).storeSelectable true)

def revokeIfEnabled : GenerationControl :=
  if c.state = .liveEnabled then
    ((c.storeState .revoked).storeSelectable false).publishRetirement
  else c

def isSelectable : Bool := c.selectable

def initialStateMatches (extendedConnect : Bool) : Bool :=
  match c.state, extendedConnect with
  | .liveEnabled, true => true
  | .liveDisabled, false => true
  | _, _ => false

def permitsExtendedConnect : Bool := c.state == .liveEnabled

def linearizeDispatch (kind : H2DispatchKind) : Bool :=
  match c.state, kind with
  | .liveDisabled, .ordinary => true
  | .liveEnabled, _ => true
  | .proving, _ => false
  | .liveDisabled, .extendedConnect => false
  | .revoked, _ => false
  | .retiring, _ => false
  | .closed, _ => false

/-- The second store of `mark_retiring`. -/
def retireState : GenerationControl :=
  if c.state ≠ .closed then c.storeState .retiring else c

def markRetiring : GenerationControl := (c.storeSelectable false).retireState

def markClosed : GenerationControl :=
  (c.storeSelectable false).storeState .closed

def ioMustFail : Bool :=
  match c.state with
  | .revoked => true
  | .retiring => true
  | .closed => true
  | .proving => false
  | .liveDisabled => false
  | .liveEnabled => false

end GenerationControl

/-! ### The proof -/

inductive H2ProofStatus where
  | pending
  | ready (settings : InitialH2Settings)
  | failed
  deriving DecidableEq, Repr

structure H2ProofState where
  inbound : ServerFrameScanner
  outbound : ClientAckParser
  status : H2ProofStatus
  transportDropped : Bool
  control : GenerationControl
  deriving DecidableEq, Repr

namespace H2ProofState

def new (control : GenerationControl) : H2ProofState :=
  { inbound := .default, outbound := .default, status := .pending, transportDropped := false,
    control }

variable (p : H2ProofState)

def proofStatus : H2ProofStatus :=
  if p.outbound.ackSeen then
    match p.inbound.settings with
    | none => .pending
    | some settings => .ready settings
  else .pending

def publishStatus (status : H2ProofStatus) : H2ProofState :=
  if status ≠ .pending ∧ p.status = .pending then { p with status } else p

def ioFailed : H2ProofState := { p with status := .failed }

/-- What a read hands from the parser to the generation. -/
structure Observed where
  status : H2ProofStatus
  initial : Option InitialH2Settings
  revoke : Bool
  deriving DecidableEq, Repr

def feedInbound (bytes : List UInt8) : Observed × H2ProofState :=
  match p.inbound.feed bytes with
  | (.ok observation, inbound) =>
    let p := { p with inbound }
    (⟨p.proofStatus, observation.initial, observation.revoke⟩, p)
  | (.error (), inbound) => (⟨.failed, none, false⟩, { p with inbound })

def installObserved (observed : Observed) : Option H2ProofState :=
  match observed.initial with
  | none => some p
  | some initial =>
    (p.control.installInitial initial.extendedConnect).map fun control => { p with control }

def revokeObserved (observed : Observed) : H2ProofState :=
  if observed.revoke then { p with control := p.control.revokeIfEnabled } else p

def observeInbound (bytes : List UInt8) : H2ProofState :=
  let (observed, p) := p.feedInbound bytes
  match p.installObserved observed with
  | none => { p with status := .failed }
  | some p => (p.revokeObserved observed).publishStatus observed.status

def update (feed : ClientAckParser → Except Unit Unit × ClientAckParser) : H2ProofState :=
  if p.status ≠ .pending then p
  else
    match feed p.outbound with
    | (.error (), outbound) => { p with outbound }.publishStatus .failed
    | (.ok (), outbound) =>
      let p := { p with outbound }
      p.publishStatus p.proofStatus

def observeOutbound (bytes : List UInt8) : H2ProofState :=
  p.update fun outbound => outbound.feed bytes

def observeOutboundVectored (p : H2ProofState) : List (List UInt8) → Nat → H2ProofState
  | [], _ => p
  | buf :: bufs, accepted =>
    if accepted = 0 then p
    else
      let consumed := min accepted buf.length
      (p.observeOutbound (buf.take consumed)).observeOutboundVectored bufs (accepted - consumed)

def markTransportDropped : H2ProofState :=
  { p with transportDropped := true, status := if p.status = .pending then .failed else p.status }

end H2ProofState

/-! ### The transport

`inner` is what the wrapped transport answers: to a read the bytes it filled, none of them at the end of
the stream, and to a write how many bytes it accepted. -/

namespace H2ProofState

inductive IoError where
  | revoked
  | inner
  deriving DecidableEq, Repr

def pollRead (p : H2ProofState) (cursor : Nat) (inner : Poll (Except Unit (List UInt8))) :
    Poll (Except IoError (List UInt8)) × H2ProofState :=
  if cursor = 0 then (.ready (.ok []), p)
  else if p.control.ioMustFail then (.ready (.error .revoked), p)
  else
    match inner with
    | .ready (.ok filled) =>
      (.ready (.ok filled), if filled = [] then p.ioFailed else p.observeInbound filled)
    | .ready (.error ()) => (.ready (.error .inner), p.ioFailed)
    | .pending => (.pending, p)

def pollWrite (p : H2ProofState) (bytes : List UInt8) (inner : Poll (Except Unit Nat)) :
    Poll (Except IoError Nat) × H2ProofState :=
  if p.control.ioMustFail then (.ready (.error .revoked), p)
  else
    match inner with
    | .ready (.ok accepted) => (.ready (.ok accepted), p.observeOutbound (bytes.take accepted))
    | .ready (.error ()) => (.ready (.error .inner), p.ioFailed)
    | .pending => (.pending, p)

def pollWriteVectored (p : H2ProofState) (bufs : List (List UInt8)) (inner : Poll (Except Unit Nat)) :
    Poll (Except IoError Nat) × H2ProofState :=
  if p.control.ioMustFail then (.ready (.error .revoked), p)
  else
    match inner with
    | .ready (.ok accepted) => (.ready (.ok accepted), p.observeOutboundVectored bufs accepted)
    | .ready (.error ()) => (.ready (.error .inner), p.ioFailed)
    | .pending => (.pending, p)

end H2ProofState

end AuthMiniGateway

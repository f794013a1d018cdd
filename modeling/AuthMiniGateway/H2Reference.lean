import AuthMiniGateway.H2Proof

/-!
# What a SETTINGS proof proves

The two streams as a whole, read by the framing of HTTP/2. A stream is violated as soon as no continuation of it
can be accepted for one of the checks.
-/

namespace AuthMiniGateway

open Http2 (FrameHeader fromBeBytes frames headers lastValue settingPairs unfinished)

inductive Verdict (α : Type) where
  | pending
  | accepted (value : α)
  | violated
  deriving DecidableEq, Repr

/-! ### Inbound -/

/-- A SETTINGS frame on stream 0 that acknowledges nothing, with whole settings in it. -/
abbrev SettingsHeader (header : FrameHeader) : Prop :=
  header.frameType = 4 ∧ header.flags % 2 = 0 ∧ header.stream = 0 ∧ header.length % 6 = 0

abbrev SettingValid (setting : Nat × Nat) : Prop :=
  setting.1 ≠ 2 ∧ (setting.1 = 4 → setting.2 ≤ 2 ^ 31 - 1) ∧
    (setting.1 = 5 → 16384 ≤ setting.2 ∧ setting.2 ≤ 16777215) ∧ (setting.1 = 8 → setting.2 ≤ 1)

/-- The checks on the first frame, of which `payload` may be all that is there so far. -/
abbrev FirstFrameValid (header : FrameHeader) (payload : List UInt8) : Prop :=
  SettingsHeader header ∧ header.length ≤ h2InitialSettingsMax ∧
    ∀ setting ∈ settingPairs payload, SettingValid setting

/-- The last value wins. -/
def effectiveSettings (pairs : List (Nat × Nat)) : InitialH2Settings :=
  { extendedConnect := lastValue 8 pairs == some 1, maxConcurrentStreams := lastValue 3 pairs }

def inboundVerdict (inbound : List UInt8) : Verdict InitialH2Settings :=
  match frames inbound with
  | first :: _ =>
    if FirstFrameValid first.header first.payload then
      .accepted (effectiveSettings (settingPairs first.payload))
    else .violated
  | [] =>
    if 9 ≤ (unfinished inbound).length ∧
        ¬FirstFrameValid (.read (unfinished inbound)) ((unfinished inbound).drop 9) then .violated
    else .pending

/-- A frame that takes Extended CONNECT back; values other than 0 and 1 are passed over. -/
abbrev Revoking (frame : Http2.Frame) : Prop :=
  SettingsHeader frame.header ∧
    lastValue 8 ((settingPairs frame.payload).filter fun setting => setting.2 ≤ 1) = some 0

/-- How many frames after the first one took Extended CONNECT back. -/
def revocations (inbound : List UInt8) : Nat :=
  (frames inbound).tail.countP fun frame => decide (Revoking frame)

def firstSettings (inbound : List UInt8) : Option InitialH2Settings :=
  (frames inbound).head?.map fun first => effectiveSettings (settingPairs first.payload)

/-- What reading on from `before` to `after` should report: the first frame if it has become complete,
and whether a later frame that has become complete took Extended CONNECT back. -/
def observed (before after : List UInt8) : InboundObservation :=
  { initial := if frames before = [] then firstSettings after else none
    revoke := decide (revocations before < revocations after) }

/-- The reports of a sequence of reads, the latest one first. -/
def observedReads : List (List UInt8) → List InboundObservation
  | [] => []
  | chunk :: earlier =>
    observed earlier.reverse.flatten (earlier.reverse.flatten ++ chunk) :: observedReads earlier

/-! ### Outbound -/

abbrev AckHeader (header : FrameHeader) : Prop := header.frameType = 4 ∧ header.flags % 2 ≠ 0

/-- The first acknowledgement decides. -/
def ackVerdict (headers : List FrameHeader) : Verdict Unit :=
  match headers.find? fun header => AckHeader header with
  | none => .pending
  | some ack => if ack.length = 0 ∧ ack.stream = 0 then .accepted () else .violated

def outboundVerdict (outbound : List UInt8) : Verdict Unit :=
  if outbound.take h2ClientPreface.length ≠ h2ClientPreface.take outbound.length then .violated
  else ackVerdict (headers (outbound.drop h2ClientPreface.length))

/-! ### Both -/

def referenceStatus (inbound outbound : List UInt8) : H2ProofStatus :=
  match inboundVerdict inbound, outboundVerdict outbound with
  | .violated, _ => .failed
  | _, .violated => .failed
  | .accepted settings, .accepted () => .ready settings
  | _, _ => .pending

/-- Only the first frame can enable Extended CONNECT, and a later one can take it back for good. -/
def referenceState (inbound : List UInt8) : GenerationState :=
  match inboundVerdict inbound with
  | .accepted settings =>
    if settings.extendedConnect ∧ 0 < revocations inbound then .revoked
    else GenerationControl.liveState settings.extendedConnect
  | _ => .proving

end AuthMiniGateway

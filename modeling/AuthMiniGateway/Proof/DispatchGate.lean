import AuthMiniGateway.Proof.GateControl
import AuthMiniGateway.Proof.SettingsProof

/-!
# Nothing goes through a closed gate

The state of the generation is the one of the bytes that are processed, up to the stores that the reader has
still to make (`Position`). A stream that is not in order fails the proof (`Broken`). A request is enqueued
with a reservation and under the lock, so in the state the bytes say.
-/

namespace AuthMiniGateway

open Http2

namespace H2Gate

def Retired (g : H2Gate) : Prop :=
  g.connector = .connected ∧ (g.control.state = .retiring ∨ g.control.state = .closed)

/-- The generation is in the state of the stream, or retired. -/
def At (g : H2Gate) (stream : List UInt8) : Prop := g.control.state = referenceState stream ∨ Retired g

def afterRevoke (revoke : Bool) (state : GenerationState) : GenerationState :=
  if revoke ∧ state = .liveEnabled then .revoked else state

def Sound (inbound : List UInt8) (o : H2ProofState.Observed) : Prop :=
  ∀ settings, o.status = .ready settings → inboundVerdict inbound = .accepted settings

def Fed (g : H2Gate) (o : H2ProofState.Observed) : Prop :=
  (∃ scanner, Follows g.processed scanner) ∧ At g g.processed ∧
    o.initial = (observed g.processed g.inbound).initial ∧
    o.revoke = (observed g.processed g.inbound).revoke ∧ Sound g.inbound o

def Installed (g : H2Gate) (o : H2ProofState.Observed) : Prop :=
  (afterRevoke o.revoke g.control.state = referenceState g.inbound ∨ Retired g) ∧
    (frames g.processed ≠ [] → At g g.processed) ∧ Sound g.inbound o

def Done (g : H2Gate) : Prop := g.processed = g.inbound ∧ At g g.inbound

def Position (g : H2Gate) : Prop :=
  match g.reader with
  | .idle => Done g
  | .reading => Done g
  | .observed o => Fed g o
  | .installing o => Installed g o
  | .installed o => Installed g o
  | .revoking o => Done g ∧ Sound g.inbound o
  | .notifying o => Done g ∧ Sound g.inbound o
  | .publishing o => Done g ∧ Sound g.inbound o

structure Lawful (g : H2Gate) : Prop where
  follows : Follows g.inbound g.proof.inbound
  position : Position g

def carried : Reader → Option H2ProofState.Observed
  | .idle => none
  | .reading => none
  | .observed o => some o
  | .installing o => some o
  | .installed o => some o
  | .revoking o => some o
  | .notifying o => some o
  | .publishing o => some o

structure Broken (g : H2Gate) : Prop where
  violated : inboundVerdict g.inbound = .violated
  status : g.proof.status = .failed ∨
    (g.proof.status = .pending ∧ ∃ o, carried g.reader = some o ∧ o.status = .failed)

structure Inv (g : H2Gate) : Prop where
  before : ∃ rest, g.inbound = g.processed ++ rest
  ready : ∀ settings, g.proof.status = .ready settings → inboundVerdict g.processed = .accepted settings
  connector : g.connector ≠ .proving → ∃ settings, inboundVerdict g.processed = .accepted settings
  stream : Lawful g ∨ Broken g

/-! ### Frames -/

variable {g next : H2Gate}

structure Keeps (g next : H2Gate) : Prop where
  reader : next.reader = g.reader
  inbound : next.inbound = g.inbound
  processed : next.processed = g.processed
  state : (next.control.state = g.control.state ∧ (g.connector = .connected → next.connector = .connected)) ∨
    Retired next

theorem Keeps.at (h : Keeps g next) {stream : List UInt8} (hat : At g stream) : At next stream := by
  rcases h.state with ⟨hstate, hconnected⟩ | hretired
  · rcases hat with hat | ⟨hwas, hstopped⟩
    · exact .inl (hstate.trans hat)
    · exact .inr ⟨hconnected hwas, hstate ▸ hstopped⟩
  · exact .inr hretired

theorem Keeps.done (h : Keeps g next) (hdone : Done g) : Done next := by
  rw [Done, h.processed, h.inbound]
  exact ⟨hdone.1, h.at hdone.2⟩

variable {o : H2ProofState.Observed} {settings : InitialH2Settings}

theorem Keeps.fed (h : Keeps g next) (hfed : Fed g o) : Fed next o := by
  obtain ⟨hfollows, hat, hrest⟩ := hfed
  rw [Fed, h.processed, h.inbound]
  exact ⟨hfollows, h.at hat, hrest⟩

theorem Keeps.installed (h : Keeps g next) (hinstalled : Installed g o) : Installed next o := by
  obtain ⟨hnext, hat, hsound⟩ := hinstalled
  rw [Installed, h.processed, h.inbound]
  refine ⟨?_, fun hframes => h.at (hat hframes), hsound⟩
  rcases h.state with ⟨hstate, hconnected⟩ | hretired
  · rcases hnext with hnext | ⟨hwas, hstopped⟩
    · rw [hstate]
      exact .inl hnext
    · exact .inr ⟨hconnected hwas, hstate ▸ hstopped⟩
  · exact .inr hretired

theorem Keeps.position (h : Keeps g next) (hposition : Position g) : Position next := by
  rw [Position, h.reader, h.inbound]
  rw [Position] at hposition
  generalize g.reader = reader at hposition ⊢
  cases reader with
  | idle | reading => exact h.done hposition
  | observed => exact h.fed hposition
  | installing o | installed o => exact h.installed hposition
  | revoking o | notifying o | publishing o => exact ⟨h.done hposition.1, hposition.2⟩

theorem Inv.keeps (h : Inv g) (hkeeps : Keeps g next) (hscanner : next.proof.inbound = g.proof.inbound)
    (hready : ∀ settings, next.proof.status = .ready settings →
      inboundVerdict g.processed = .accepted settings)
    (hbroken : Broken g → next.proof.status = .failed ∨ next.proof.status = g.proof.status)
    (hconnector : next.connector ≠ .proving → ∃ settings, inboundVerdict g.processed = .accepted settings) :
    Inv next := by
  refine ⟨?_, ?_, ?_, ?_⟩
  · rw [hkeeps.inbound, hkeeps.processed]
    exact h.before
  · rw [hkeeps.processed]
    exact hready
  · rw [hkeeps.processed]
    exact hconnector
  · rcases h.stream with ⟨hfollows, hposition⟩ | hstream
    · refine .inl ⟨?_, hkeeps.position hposition⟩
      rw [hkeeps.inbound, hscanner]
      exact hfollows
    · refine .inr ⟨hkeeps.inbound ▸ hstream.violated, ?_⟩
      rcases hbroken hstream with hfailed | hsame
      · exact .inl hfailed
      · rw [hsame, hkeeps.reader]
        exact hstream.status

theorem Inv.others (h : Inv g) (hkeeps : Keeps g next) (hproof : next.proof.inbound = g.proof.inbound)
    (hstatus : next.proof.status = g.proof.status) (hconnector : next.connector = g.connector) : Inv next := by
  apply h.keeps hkeeps hproof
  · rw [hstatus]
    exact h.ready
  · exact fun _ => .inr hstatus
  · rw [hconnector]
    exact h.connector

theorem Inv.idle (h : Inv g) (hreader : g.reader = .idle ∨ g.reader = .reading) :
    (Follows g.inbound g.proof.inbound ∧ Done g) ∨
      (inboundVerdict g.inbound = .violated ∧ g.proof.status = .failed) := by
  rcases h.stream with ⟨hfollows, hposition⟩ | ⟨hviolated, hstatus⟩
  · left
    rw [Position] at hposition
    rcases hreader with hreader | hreader <;> rw [hreader] at hposition <;>
      exact ⟨hfollows, hposition⟩
  · right
    rcases hstatus with hfailed | ⟨-, o, hcarried, -⟩
    · exact ⟨hviolated, hfailed⟩
    · rcases hreader with hreader | hreader <;> rw [hreader] at hcarried <;> cases hcarried

theorem Inv.waits (h : Inv g) (hreader : g.reader = .idle ∨ g.reader = .reading)
    (hnext : next.reader = .idle ∨ next.reader = .reading) (hinbound : next.inbound = g.inbound)
    (hprocessed : next.processed = g.processed) (hcontrol : next.control = g.control)
    (hscanner : next.proof.inbound = g.proof.inbound) (hconnector : next.connector = g.connector)
    (hstatus : next.proof.status = g.proof.status ∨ next.proof.status = .failed) : Inv next := by
  refine ⟨?_, ?_, ?_, ?_⟩
  · rw [hinbound, hprocessed]
    exact h.before
  · rw [hprocessed]
    intro settings hready
    rcases hstatus with hsame | hfailed
    · exact h.ready settings (hsame ▸ hready)
    · rw [hfailed] at hready
      cases hready
  · rw [hprocessed, hconnector]
    exact h.connector
  · rcases h.idle hreader with ⟨hfollows, hdone⟩ | ⟨hviolated, hfailed⟩
    · have hnextDone : Done next := by
        rw [Done, At, Retired, hinbound, hprocessed, hcontrol, hconnector]
        exact hdone
      refine .inl ⟨?_, ?_⟩
      · rw [hinbound, hscanner]
        exact hfollows
      · rw [Position]
        rcases hnext with hnext | hnext <;> rw [hnext] <;> exact hnextDone
    · refine .inr ⟨hinbound ▸ hviolated, .inl ?_⟩
      rcases hstatus with hsame | hnextFailed
      · exact hsame.trans hfailed
      · exact hnextFailed

/-! ### Reading -/

theorem settings_of_ready {p : H2ProofState} (h : p.proofStatus = .ready settings) :
    p.inbound.settings = some settings := by
  rw [H2ProofState.proofStatus] at h
  split_ifs at h
  split at h
  · cases h
  · rename_i found hfound
    cases h
    exact hfound

theorem accepted_of_settings {inbound : List UInt8} {s : ServerFrameScanner}
    (hfollows : Follows inbound s) (hsettings : s.settings = some settings) :
    inboundVerdict inbound = .accepted settings := by
  rw [hfollows.verdict, ← hfollows.settings, hsettings]

theorem Inv.feed (h : Inv g) (hreader : g.reader = .reading) (chunk : List UInt8) :
    Inv (g.apply (.feed chunk)) := by
  have hstatus : (g.proof.feedInbound chunk).2.status = g.proof.status := by
    rw [H2ProofState.feedInbound]
    split <;> rfl
  refine ⟨?_, ?_, ?_, ?_⟩
  · obtain ⟨rest, hrest⟩ := h.before
    refine ⟨rest ++ chunk, ?_⟩
    change g.inbound ++ chunk = g.processed ++ (rest ++ chunk)
    rw [hrest, List.append_assoc]
  · intro settings hready
    exact h.ready settings (hstatus.symm.trans hready)
  · exact h.connector
  · rcases h.idle (.inr hreader) with ⟨hfollows, hprocessed, hat⟩ | ⟨hviolated, hfailed⟩
    · have hfed := feed_fed hfollows chunk
      simp only [apply, H2ProofState.feedInbound]
      cases hfeed : g.proof.inbound.feed chunk with
      | mk result =>
        rw [hfeed] at hfed
        cases result with
        | error =>
          refine .inr ⟨hfed, ?_⟩
          cases hbefore : g.proof.status with
          | pending => exact .inr ⟨rfl, _, rfl, rfl⟩
          | failed => exact .inl rfl
          | ready settings =>
            have haccepted := h.ready settings hbefore
            rw [hprocessed] at haccepted
            have hviolated : inboundVerdict (g.inbound ++ chunk) = .violated := hfed
            rw [inboundVerdict_accepted_append chunk haccepted] at hviolated
            cases hviolated
        | ok observation =>
          obtain ⟨hafter, hobserved⟩ := hfed
          rw [InboundObservation.default_merge] at hobserved
          have hreport : observation = observed g.processed (g.inbound ++ chunk) := by
            rw [hprocessed]
            exact hobserved
          rw [← hprocessed] at hat
          refine .inl ⟨hafter, ?_⟩
          refine ⟨⟨g.proof.inbound, hprocessed ▸ hfollows⟩, hat, ?_, ?_, ?_⟩
          · exact congrArg InboundObservation.initial hreport
          · exact congrArg InboundObservation.revoke hreport
          · intro settings hready
            exact accepted_of_settings hafter (settings_of_ready hready)
    · refine .inr ⟨inboundVerdict_violated_append chunk hviolated, .inl ?_⟩
      exact hstatus.trans hfailed

/-! ### The stores of a read -/

theorem afterRevoke_eq (c : GenerationControl) (revoke : Bool) :
    (if revoke then c.revokeIfEnabled else c).state = afterRevoke revoke c.state := by
  cases revoke with
  | false => rfl
  | true =>
    rw [if_pos rfl, GenerationControl.revokeIfEnabled_state, afterRevoke]
    simp only [true_and]

theorem Inv.processed_accepted (h : Inv g)
    (haccepted : inboundVerdict g.processed = .accepted settings) :
    inboundVerdict g.inbound = .accepted settings := by
  obtain ⟨rest, hrest⟩ := h.before
  rw [hrest]
  exact inboundVerdict_accepted_append rest haccepted

theorem Inv.moves (h : Inv g) (hinbound : next.inbound = g.inbound)
    (hprocessed : next.processed = g.processed ∨ next.processed = g.inbound)
    (hconnector : next.connector = g.connector)
    (hready : ∀ settings, next.proof.status = .ready settings →
      g.proof.status = .ready settings ∨ inboundVerdict next.processed = .accepted settings)
    (hstream : Lawful next ∨ Broken next) : Inv next := by
  have hkeeps : ∀ settings, inboundVerdict g.processed = .accepted settings →
      inboundVerdict next.processed = .accepted settings := by
    intro settings haccepted
    rcases hprocessed with hsame | hall
    · rw [hsame]
      exact haccepted
    · rw [hall]
      exact h.processed_accepted haccepted
  refine ⟨?_, ?_, ?_, hstream⟩
  · rw [hinbound]
    rcases hprocessed with hsame | hall
    · rw [hsame]
      exact h.before
    · rw [hall]
      exact ⟨[], (List.append_nil _).symm⟩
  · intro settings hnext
    rcases hready settings hnext with hbefore | haccepted
    · exact hkeeps settings (h.ready settings hbefore)
    · exact haccepted
  · intro hnext
    rw [hconnector] at hnext
    obtain ⟨settings, haccepted⟩ := h.connector hnext
    exact ⟨settings, hkeeps settings haccepted⟩

theorem frames_of_accepted {stream : List UInt8} (h : inboundVerdict stream = .accepted settings) :
    frames stream ≠ [] := by
  intro hnil
  rw [inboundVerdict, hnil] at h
  dsimp only at h
  split_ifs at h

theorem Inv.proving (h : Inv g) {initial : InitialH2Settings} (hfed : Fed g o)
    (hinitial : o.initial = some initial) :
    frames g.processed = [] ∧ g.control.state = referenceState g.processed ∧
      g.control.state = .proving := by
  obtain ⟨⟨scanner, hfollows⟩, hat, hsame, -, -⟩ := hfed
  have hframes : frames g.processed = [] := by
    by_contra hne
    rw [hinitial, observed, if_neg hne] at hsame
    cases hsame
  have hstate : g.control.state = referenceState g.processed := by
    rcases hat with hstate | ⟨hconnected, -⟩
    · exact hstate
    · obtain ⟨settings, haccepted⟩ := h.connector (by rw [hconnected]; intro h; cases h)
      exact absurd hframes (frames_of_accepted haccepted)
  refine ⟨hframes, hstate, ?_⟩
  rw [hstate, hfollows.state, firstSettings_nil hframes]

theorem Fed.skips (hfed : Fed g o) (h : Inv g) (hfollows : Follows g.inbound g.proof.inbound)
    (hinitial : o.initial = none) : Installed g o := by
  obtain ⟨⟨scanner, hbefore⟩, hat, hsame, hrevoke, hsound⟩ := hfed
  refine ⟨?_, fun _ => hat, hsound⟩
  rcases hat with hstate | hretired
  · left
    obtain ⟨rest, hrest⟩ := h.before
    rw [hrest] at hfollows hsame hrevoke ⊢
    have hobserved := observed_state hbefore hfollows hstate
    rw [← hsame, hinitial] at hobserved
    dsimp only at hobserved
    rw [afterRevoke_eq, ← hrevoke] at hobserved
    exact hobserved
  · exact .inr hretired

theorem Fed.installs {initial : InitialH2Settings} (hfed : Fed g o) (h : Inv g)
    (hfollows : Follows g.inbound g.proof.inbound) (hinitial : o.initial = some initial) :
    afterRevoke o.revoke (GenerationControl.liveState initial.extendedConnect) =
      referenceState g.inbound := by
  obtain ⟨hframes, hstate, hproving⟩ := h.proving hfed hinitial
  obtain ⟨⟨scanner, hbefore⟩, hat, hsame, hrevoke, hsound⟩ := hfed
  obtain ⟨rest, hrest⟩ := h.before
  rw [hrest] at hfollows hsame hrevoke ⊢
  have hobserved := observed_state hbefore hfollows hstate
  rw [← hsame, hinitial] at hobserved
  obtain ⟨control, hinstall, hobserved⟩ := hobserved
  rw [GenerationControl.installInitial_proving hproving, Option.some.injEq] at hinstall
  rw [afterRevoke_eq, ← hrevoke, ← hinstall] at hobserved
  exact hobserved

theorem Installed.revokes (hinstalled : Installed g o)
    (hrevoke : o.revoke ∧ g.control.state = .liveEnabled) :
    referenceState g.inbound = .revoked := by
  obtain ⟨hnext, -, -⟩ := hinstalled
  rcases hnext with hnext | ⟨-, hstopped⟩
  · rw [afterRevoke, if_pos hrevoke] at hnext
    exact hnext.symm
  · rw [hrevoke.2] at hstopped
    rcases hstopped with h | h <;> cases h

theorem Installed.passes (hinstalled : Installed g o)
    (hrevoke : ¬(o.revoke ∧ g.control.state = .liveEnabled)) : At g g.inbound := by
  obtain ⟨hnext, -, -⟩ := hinstalled
  rw [afterRevoke, if_neg hrevoke] at hnext
  exact hnext

theorem Lawful.advance (hlawful : Lawful g) (h : Inv g) : Lawful g.advance := by
  obtain ⟨hfollows, hposition⟩ := hlawful
  rw [Position] at hposition
  rw [H2Gate.advance]
  cases hreader : g.reader with
  | idle | reading =>
    rw [hreader] at hposition
    exact ⟨hfollows, by rw [Position, hreader]; exact hposition⟩
  | observed o =>
    rw [hreader] at hposition
    have hfed : Fed g o := hposition
    dsimp only
    cases hinitial : o.initial with
    | none =>
      have hskips := hfed.skips h hfollows hinitial
      exact ⟨hfollows, hskips⟩
    | some =>
      obtain ⟨hframes, -, hproving⟩ := h.proving hfed hinitial
      have hinstalls := hfed.installs h hfollows hinitial
      dsimp only
      rw [if_neg (not_not_intro hproving)]
      exact ⟨hfollows, .inl hinstalls, fun hne => absurd hframes hne, hfed.2.2.2.2⟩
  | installing o | revoking o | notifying o =>
    rw [hreader] at hposition
    exact ⟨hfollows, hposition⟩
  | installed o =>
    rw [hreader] at hposition
    have hinstalled : Installed g o := hposition
    dsimp only
    split_ifs with hrevoke
    · have hrevoked := hinstalled.revokes hrevoke
      exact ⟨hfollows, ⟨rfl, .inl hrevoked.symm⟩, hinstalled.2.2⟩
    · have hpasses := hinstalled.passes hrevoke
      exact ⟨hfollows, ⟨rfl, hpasses⟩, hinstalled.2.2⟩
  | publishing o =>
    rw [hreader] at hposition
    obtain ⟨⟨hprocessed, hat⟩, -⟩ := hposition
    refine ⟨?_, hprocessed, ?_⟩
    · change Follows g.inbound (g.proof.publishStatus o.status).inbound
      rw [(H2ProofState.publishStatus_rest _ _).1]
      exact hfollows
    · rw [At, Retired]
      change (g.proof.publishStatus o.status).control.state = _ ∨ g.connector = _ ∧
        ((g.proof.publishStatus o.status).control.state = _ ∨
          (g.proof.publishStatus o.status).control.state = _)
      rw [publishStatus_control]
      exact hat

theorem Broken.advance (hbroken : Broken g) : Broken g.advance := by
  obtain ⟨hviolated, hstatus⟩ := hbroken
  rw [H2Gate.advance]
  cases hreader : g.reader with
  | idle | reading => exact ⟨hviolated, hstatus⟩
  | observed =>
    rw [hreader] at hstatus
    dsimp only
    split
    · exact ⟨hviolated, hstatus⟩
    · split_ifs
      · exact ⟨hviolated, .inl rfl⟩
      · exact ⟨hviolated, hstatus⟩
  | installed =>
    rw [hreader] at hstatus
    dsimp only
    split_ifs <;> exact ⟨hviolated, hstatus⟩
  | installing o | revoking o | notifying o =>
    rw [hreader] at hstatus
    exact ⟨hviolated, hstatus⟩
  | publishing o =>
    rw [hreader] at hstatus
    refine ⟨hviolated, .inl ?_⟩
    change (g.proof.publishStatus o.status).status = .failed
    rw [H2ProofState.publishStatus_status]
    rcases hstatus with hfailed | ⟨hpending, other, hcarried, hother⟩
    · rw [hfailed]
      rfl
    · cases hcarried
      rw [if_pos hpending, hother]

theorem advance_frame (g : H2Gate) :
    g.advance.inbound = g.inbound ∧ g.advance.connector = g.connector ∧
      (g.advance.processed = g.processed ∨ g.advance.processed = g.inbound) ∧
      (g.advance.proof.status = g.proof.status ∨ g.advance.proof.status = .failed ∨
        ∃ o, g.reader = .publishing o ∧ g.advance.processed = g.processed ∧
          g.advance.proof.status = o.status) := by
  rw [advance]
  cases hreader : g.reader with
  | idle | reading | installing | revoking | notifying => exact ⟨rfl, rfl, .inl rfl, .inl rfl⟩
  | observed =>
    dsimp only
    split
    · exact ⟨rfl, rfl, .inl rfl, .inl rfl⟩
    · split_ifs
      · exact ⟨rfl, rfl, .inl rfl, .inr (.inl rfl)⟩
      · exact ⟨rfl, rfl, .inl rfl, .inl rfl⟩
  | installed =>
    dsimp only
    split_ifs <;> exact ⟨rfl, rfl, .inr rfl, .inl rfl⟩
  | publishing o =>
    refine ⟨rfl, rfl, .inl rfl, ?_⟩
    dsimp only
    rw [H2ProofState.publishStatus_status]
    split_ifs
    · exact .inr (.inr ⟨o, rfl, rfl, rfl⟩)
    · exact .inl rfl

theorem Inv.advance (h : Inv g) : Inv g.advance := by
  obtain ⟨hinbound, hconnector, hprocessed, hstatus⟩ := advance_frame g
  have hstream : Lawful g.advance ∨ Broken g.advance := by
    rcases h.stream with hlawful | hbroken
    · exact .inl (hlawful.advance h)
    · exact .inr hbroken.advance
  apply h.moves hinbound hprocessed hconnector _ hstream
  intro settings hready
  rcases hstatus with hsame | hfailed | ⟨o, hreader, hkept, hpublished⟩
  · exact .inl (hsame.symm.trans hready)
  · rw [hfailed] at hready
    cases hready
  · right
    rcases h.stream with ⟨-, hposition⟩ | hbroken
    · rw [Position, hreader] at hposition
      obtain ⟨⟨hprocessed, -⟩, hsound⟩ := hposition
      rw [hkept, hprocessed]
      exact hsound settings (hpublished.symm.trans hready)
    · rcases hbroken.advance.status with hfailed | ⟨hpending, -⟩
      · rw [hfailed] at hready
        cases hready
      · rw [hpending] at hready
        cases hready

/-! ### Writing -/

/-- A write leaves the scanner and the control, and only a scanner with settings makes it ready. -/
structure Wrote (p p' : H2ProofState) : Prop where
  inbound : p'.inbound = p.inbound
  control : p'.control = p.control
  ready : ∀ settings, p'.status = .ready settings →
    p.status = .ready settings ∨ p.inbound.settings = some settings
  failed : p.status = .failed → p'.status = .failed

theorem wrote_observeOutbound {p p' : H2ProofState} (h : Wrote p p') (bytes : List UInt8) :
    Wrote p (p'.observeOutbound bytes) := by
  obtain ⟨hinbound, hcontrol⟩ := H2ProofState.observeOutbound_rest p' bytes
  refine ⟨hinbound.trans h.inbound, hcontrol.trans h.control, ?_, ?_⟩
  · intro settings hready
    rw [H2ProofState.observeOutbound, H2ProofState.update] at hready
    split_ifs at hready with hdecided
    · exact h.ready settings hready
    · rw [not_not] at hdecided
      split at hready
      · rw [H2ProofState.publishStatus_status, if_pos hdecided] at hready
        cases hready
      · rw [H2ProofState.publishStatus_status, if_pos hdecided] at hready
        have hsettings := settings_of_ready hready
        dsimp only at hsettings
        rw [h.inbound] at hsettings
        exact .inr hsettings
  · intro hfailed
    exact H2Transport.observeOutbound_failed (h.failed hfailed) bytes

theorem wrote_refl (p : H2ProofState) : Wrote p p := ⟨rfl, rfl, fun _ => .inl, id⟩

theorem wrote_vectored (p : H2ProofState) (bufs : List (List UInt8)) (accepted : Nat) :
    Wrote p (p.observeOutboundVectored bufs accepted) := by
  apply H2ProofState.vectored_invariant (fun p' _ => Wrote p p') _ bufs [] (wrote_refl p)
  intro p' outbound bytes h
  exact wrote_observeOutbound h bytes

theorem Inv.wrote (h : Inv g) (hreader : g.reader = .idle) {p' : H2ProofState} (hwrote : Wrote g.proof p') :
    Inv { g with proof := p' } := by
  have hkeeps : Keeps g { g with proof := p' } := by
    refine ⟨rfl, rfl, rfl, .inl ⟨?_, id⟩⟩
    exact congrArg GenerationControl.state hwrote.control
  apply h.keeps hkeeps hwrote.inbound
  · intro settings hready
    rcases hwrote.ready settings hready with hbefore | hsettings
    · exact h.ready settings hbefore
    · rcases h.idle (.inl hreader) with ⟨hfollows, hprocessed, -⟩ | ⟨-, hfailed⟩
      · rw [hprocessed]
        exact accepted_of_settings hfollows hsettings
      · rw [hwrote.failed hfailed] at hready
        cases hready
  · intro hbroken
    rcases h.idle (.inl hreader) with ⟨hfollows, -⟩ | ⟨-, hfailed⟩
    · have hviolated := hbroken.violated
      rw [hfollows.verdict] at hviolated
      split at hviolated <;> cases hviolated
    · exact .inl (hwrote.failed hfailed)
  · exact h.connector

/-! ### Runs -/

theorem Inv.dropped (h : Inv g) (hreader : g.reader = .idle) : Inv (g.apply .drop) := by
  have hstatus : (g.apply .drop).proof.status =
      if g.proof.status = .pending then .failed else g.proof.status := rfl
  refine h.waits (.inl hreader) (.inl hreader) rfl rfl rfl rfl rfl ?_
  rw [hstatus]
  split_ifs
  · exact .inr rfl
  · exact .inl rfl

theorem Inv.connects (h : Inv g) (hconnector : g.connector ≠ .proving)
    (hkeeps : Keeps g next) (hproof : next.proof = g.proof) : Inv next := by
  apply h.keeps hkeeps (by rw [hproof])
  · rw [hproof]
    exact h.ready
  · exact fun _ => .inr (by rw [hproof])
  · exact fun _ => h.connector hconnector

theorem Inv.seeMatch (h : Inv g) : Inv g.seeMatch := by
  rw [H2Gate.seeMatch]
  cases hconnector : g.connector with
  | ready settings =>
    have hkeeps : Keeps g { g with connector := .matched settings } := by
      refine ⟨rfl, rfl, rfl, .inl ⟨rfl, ?_⟩⟩
      rw [hconnector]
      intro h
      cases h
    exact h.connects (by rw [hconnector]; intro h; cases h) hkeeps rfl
  | _ => exact h

theorem Inv.step {event : GateEvent} (h : Inv g) (hcontrol : g.view.Inv) (hstep : h2Gate.step g event next) :
    Inv next := by
  obtain ⟨henabled, rfl⟩ := hstep
  cases event with
  | poll =>
    obtain ⟨hreader, -⟩ := of_decide_eq_true henabled
    exact h.waits (.inl hreader) (.inr rfl) rfl rfl rfl rfl rfl (.inl rfl)
  | unread =>
    exact h.waits (.inr (of_decide_eq_true henabled)) (.inl rfl) rfl rfl rfl rfl rfl (.inl rfl)
  | fault =>
    exact h.waits (.inr (of_decide_eq_true henabled)) (.inl rfl) rfl rfl rfl rfl rfl (.inr rfl)
  | feed chunk =>
    obtain ⟨hreader, -⟩ := of_decide_eq_true henabled
    exact h.feed hreader chunk
  | advance => exact h.advance
  | write bytes =>
    obtain ⟨hreader, -⟩ := of_decide_eq_true henabled
    exact h.wrote hreader (wrote_observeOutbound (wrote_refl _) bytes)
  | writeVectored bufs accepted =>
    obtain ⟨hreader, -⟩ := of_decide_eq_true henabled
    exact h.wrote hreader (wrote_vectored _ bufs accepted)
  | writeFault =>
    obtain ⟨hreader, -⟩ := of_decide_eq_true henabled
    exact h.waits (.inl hreader) (.inl hreader) rfl rfl rfl rfl rfl (.inr rfl)
  | drop => exact h.dropped (of_decide_eq_true henabled)
  | seeReady settings =>
    obtain ⟨hconnector, hready⟩ := of_decide_eq_true henabled
    have hkeeps : Keeps g (g.apply (.seeReady settings)) := by
      refine ⟨rfl, rfl, rfl, .inl ⟨rfl, ?_⟩⟩
      rw [hconnector]
      nofun
    exact h.keeps hkeeps rfl h.ready (fun _ => .inr rfl) (fun _ => ⟨settings, h.ready settings hready⟩)
  | seeMatch => exact h.seeMatch
  | connect =>
    have hconnector : g.connector ≠ .proving := by
      intro hproving
      rw [enabled, hproving] at henabled
      cases henabled
    exact h.connects hconnector ⟨rfl, rfl, rfl, .inl ⟨rfl, fun _ => rfl⟩⟩ rfl
  | tryReserve | reserve | saturate | findClosed
  | release => exact h.others ⟨rfl, rfl, rfl, .inl ⟨rfl, id⟩⟩ rfl rfl rfl
  | enqueue kind | refuse kind => exact h
  | retire => exact h.others ⟨rfl, rfl, rfl, .inl ⟨rfl, id⟩⟩ rfl rfl rfl
  | retireState =>
    obtain ⟨hretiring, -⟩ := of_decide_eq_true henabled
    obtain ⟨hconnected, -⟩ := hcontrol.stopping (Nat.lt_of_lt_of_le hretiring (Nat.le_add_right _ _))
    refine h.others ⟨rfl, rfl, rfl, .inr ⟨of_decide_eq_true hconnected, ?_⟩⟩ rfl rfl rfl
    exact (retireState_stops g.control).2
  | close => exact h.others ⟨rfl, rfl, rfl, .inl ⟨rfl, id⟩⟩ rfl rfl rfl
  | closeState =>
    obtain ⟨hclosing, -⟩ := of_decide_eq_true henabled
    obtain ⟨hconnected, -⟩ := hcontrol.stopping (Nat.lt_of_lt_of_le hclosing (Nat.le_add_left _ _))
    exact h.others ⟨rfl, rfl, rfl, .inr ⟨of_decide_eq_true hconnected, .inr rfl⟩⟩ rfl rfl rfl

theorem start_inv : Inv start := by
  refine ⟨⟨[], rfl⟩, nofun, fun h => absurd rfl h, .inl ⟨Follows.start, rfl, .inl ?_⟩⟩
  change GenerationState.proving = referenceState []
  rw [Follows.start.state, firstSettings_nil frames_nil]

theorem run_gate {events : List GateEvent} (hrun : h2Gate.Run start events g) : Inv g ∧ g.view.Inv := by
  apply hrun.invariant (fun g => Inv g ∧ g.view.Inv)
  · exact ⟨start_inv, run_inv .start⟩
  · rintro g event next ⟨hinv, hcontrol⟩ hstep
    exact ⟨hinv.step hcontrol hstep, hcontrol.step (view_step hstep)⟩

theorem advance_held (g : H2Gate) :
    g.advance.reserving = g.reserving ∧ g.advance.reservations = g.reservations := by
  rw [advance]
  repeat' split
  all_goals exact ⟨rfl, rfl⟩

theorem seeMatch_held (g : H2Gate) :
    g.seeMatch.reserving = g.reserving ∧ g.seeMatch.reservations = g.reservations ∧
      (g.connector = .connected → g.seeMatch.connector = .connected) := by
  rw [seeMatch]
  split
  · rename_i settings hconnector
    exact ⟨rfl, rfl, fun h => by rw [hconnector] at h; cases h⟩
  · exact ⟨rfl, rfl, id⟩

def Held (g : H2Gate) : Prop := 0 < g.reserving ∨ 0 < g.reservations → g.connector = .connected

theorem Held.step {event : GateEvent} (h : Held g) (hstep : h2Gate.step g event next) : Held next := by
  obtain ⟨henabled, rfl⟩ := hstep
  cases event with
  | advance =>
    obtain ⟨hreserving, hreservations⟩ := advance_held g
    obtain ⟨-, hconnector, -⟩ := advance_frame g
    change 0 < g.advance.reserving ∨ 0 < g.advance.reservations → g.advance.connector = .connected
    rw [hreserving, hreservations, hconnector]
    exact h
  | seeReady =>
    obtain ⟨hconnector, -⟩ := of_decide_eq_true henabled
    intro hheld
    have hconnected := h hheld
    rw [hconnector] at hconnected
    cases hconnected
  | seeMatch =>
    obtain ⟨hreserving, hreservations, hconnector⟩ := seeMatch_held g
    change 0 < g.seeMatch.reserving ∨ 0 < g.seeMatch.reservations → g.seeMatch.connector = .connected
    rw [hreserving, hreservations]
    exact fun hheld => hconnector (h hheld)
  | connect => exact fun _ => rfl
  | tryReserve =>
    obtain ⟨hconnected, -⟩ := of_decide_eq_true henabled
    exact fun _ => hconnected
  | reserve | saturate | findClosed => exact fun _ => h (.inl (of_decide_eq_true henabled))
  | release => exact fun _ => h (.inr (of_decide_eq_true henabled))
  | _ => exact h

theorem run_held {events : List GateEvent} (hrun : h2Gate.Run start events g) : Held g := by
  apply hrun.invariant Held
  · rintro (h | h) <;> cases h
  · intro g event next hheld hstep
    exact hheld.step hstep

theorem Position.at_processed (h : Position g) (hframes : frames g.processed ≠ []) : At g g.processed := by
  rw [Position] at h
  generalize g.reader = reader at h
  cases reader with
  | idle | reading => exact h.1 ▸ h.2
  | observed => exact h.2.1
  | installing o | installed o => exact h.2.1 hframes
  | revoking o | notifying o | publishing o => exact h.1.1 ▸ h.1.2

end H2Gate

/-! ### Dispatch -/

theorem find?_filter_of {α : Type} {p q : α → Bool} {l : List α} {a : α} (h : l.find? q = some a)
    (ha : p a = true) : (l.filter p).find? q = some a := by
  induction l with
  | nil => cases h
  | cons x l ih =>
    rw [List.find?_cons] at h
    cases hq : q x with
    | true =>
      rw [hq] at h
      cases h
      rw [List.filter_cons_of_pos ha, List.find?_cons_of_pos hq]
    | false =>
      rw [hq] at h
      rw [List.filter_cons]
      split_ifs
      · rw [List.find?_cons_of_neg (by rw [hq]; exact Bool.false_ne_true)]
        exact ih h
      · exact ih h

theorem revoking_of_lastValue {frame : Http2.Frame} (hheader : SettingsHeader frame.header)
    (h : lastValue 8 (settingPairs frame.payload) = some 0) : Revoking frame := by
  refine ⟨hheader, ?_⟩
  rw [lastValue, Option.map_eq_some_iff] at h ⊢
  obtain ⟨pair, hfind, hzero⟩ := h
  refine ⟨pair, ?_, hzero⟩
  rw [← List.filter_reverse]
  apply find?_filter_of hfind
  rw [hzero]
  rfl

theorem accepted_frames {stream : List UInt8} {settings : InitialH2Settings}
    (h : inboundVerdict stream = .accepted settings) :
    ∃ first later, frames stream = first :: later ∧ FirstFrameValid first.header first.payload ∧
      settings = effectiveSettings (settingPairs first.payload) := by
  cases hframes : frames stream with
  | nil => exact absurd hframes (H2Gate.frames_of_accepted h)
  | cons first later =>
    rw [inboundVerdict, hframes] at h
    dsimp only at h
    split_ifs at h with hvalid
    cases h
    exact ⟨first, later, rfl, hvalid, rfl⟩

theorem linearizeDispatch_live {c : GenerationControl} {kind : H2DispatchKind}
    (h : c.linearizeDispatch kind = true) :
    c.state.Live ∧ (kind = .extendedConnect → c.state = .liveEnabled) := by
  unfold GenerationControl.linearizeDispatch at h
  split at h
  case h_1 hstate => exact ⟨.inl hstate, nofun⟩
  case h_2 hstate => exact ⟨.inr hstate, fun _ => hstate⟩
  all_goals cases h

theorem enqueue_state {events : List GateEvent} {g : H2Gate} {kind : H2DispatchKind}
    (hrun : h2Gate.Run .start events g) (henabled : g.enabled (.enqueue kind) = true) :
    ∃ settings, inboundVerdict g.processed = .accepted settings ∧
      g.control.state = referenceState g.processed := by
  obtain ⟨hreservations, -, hdispatch⟩ := of_decide_eq_true henabled
  obtain ⟨hinv, -⟩ := H2Gate.run_gate hrun
  have hconnected := H2Gate.run_held hrun (.inr hreservations)
  obtain ⟨settings, haccepted⟩ := hinv.connector (by rw [hconnected]; nofun)
  refine ⟨settings, haccepted, ?_⟩
  rcases hinv.stream with ⟨-, hposition⟩ | ⟨hviolated, -⟩
  · rcases hposition.at_processed (H2Gate.frames_of_accepted haccepted) with hstate | ⟨-, hstopped⟩
    · exact hstate
    · rcases (linearizeDispatch_live hdispatch).1 with hlive | hlive <;>
        rw [hlive] at hstopped <;> rcases hstopped with h | h <;> cases h
  · rw [hinv.processed_accepted haccepted] at hviolated
    cases hviolated

/-- **The dispatch gate.** In every run of the tasks of a generation: a request is enqueued only when the
processed bytes begin with a complete SETTINGS frame that passes the checks and the generation is live, and
an Extended CONNECT only when that frame ended with value 1 for setting 8 and no processed SETTINGS frame
after it ended with value 0. A generation that has stopped being selectable is not selectable again, and
one that is selectable is live unless the reader is between the two stores of a revocation. -/
theorem dispatch_gate {events : List GateEvent} {g : H2Gate} (hrun : h2Gate.Run .start events g) :
    (∀ kind next, h2Gate.step g (.enqueue kind) next →
      ∃ first later rest, g.inbound = g.processed ++ rest ∧ frames g.processed = first :: later ∧
        FirstFrameValid first.header first.payload ∧ g.control.state.Live ∧
        (kind = .extendedConnect → lastValue 8 (settingPairs first.payload) = some 1 ∧
          ∀ frame ∈ later, SettingsHeader frame.header →
            lastValue 8 (settingPairs frame.payload) ≠ some 0)) ∧
      (g.control.isSelectable = true → ∀ stopping stopped later last,
        h2Gate.Run g stopping stopped → stopped.control.isSelectable = false →
        h2Gate.Run stopped later last → last.control.isSelectable = false) ∧
      (g.control.isSelectable = true → (∀ o, g.reader ≠ .revoking o) → g.control.state.Live) := by
  obtain ⟨hinv, hcontrol⟩ := H2Gate.run_gate hrun
  refine ⟨?_, ?_, ?_⟩
  · rintro kind next ⟨henabled, -⟩
    obtain ⟨settings, haccepted, hstate⟩ := enqueue_state hrun henabled
    obtain ⟨-, -, hdispatch⟩ := of_decide_eq_true henabled
    obtain ⟨hlive, henabledState⟩ := linearizeDispatch_live hdispatch
    obtain ⟨first, later, hframes, hvalid, hsettings⟩ := accepted_frames haccepted
    obtain ⟨rest, hrest⟩ := hinv.before
    refine ⟨first, later, rest, hrest, hframes, hvalid, hlive, ?_⟩
    intro hkind
    rw [henabledState hkind, referenceState, haccepted] at hstate
    dsimp only at hstate
    split_ifs at hstate with hrevoked
    cases hextended : settings.extendedConnect with
    | false =>
      rw [hextended] at hstate
      cases hstate
    | true =>
      refine ⟨?_, ?_⟩
      · rw [hsettings] at hextended
        exact beq_iff_eq.mp hextended
      · intro frame hmem hheader hlast
        apply hrevoked
        refine ⟨hextended, ?_⟩
        rw [revocations, hframes]
        exact List.countP_pos_iff.mpr
          ⟨frame, hmem, decide_eq_true (revoking_of_lastValue hheader hlast)⟩
  · intro hselectable stopping stopped later last hstopping hclear hlater
    have hsettled := H2Gate.run_settled hstopping (hcontrol.settled hselectable)
    exact H2Gate.run_cleared hlater hsettled hclear
  · intro hselectable hreader
    apply hcontrol.selectable hselectable
    intro hlock
    cases hcase : g.reader with
    | revoking o => exact hreader o hcase
    | _ =>
      rw [H2Gate.view, hcase] at hlock
      cases hlock

namespace H2Gate

def feasible (g : H2Gate) : List GateEvent → Bool
  | [] => true
  | event :: events => g.enabled event && (g.apply event).feasible events

theorem run_feasible {g : H2Gate} {past : List GateEvent} (hrun : h2Gate.Run start past g)
    (events : List GateEvent) (h : g.feasible events = true) :
    h2Gate.Run start (events.reverse ++ past) (events.foldl apply g) := by
  induction events generalizing g past with
  | nil => exact hrun
  | cons _ _ ih =>
    rw [feasible, Bool.and_eq_true] at h
    rw [List.reverse_cons, List.append_assoc]
    exact ih (hrun.step ⟨h.1, rfl⟩) h.2

end H2Gate

def sampleGateEvents : List GateEvent :=
  [.poll, .feed sampleServerSettings, .advance, .advance, .advance, .advance, .write sampleClientAck,
    .seeReady ⟨true, none⟩, .seeMatch, .connect]

def sampleGate : H2Gate := sampleGateEvents.foldl H2Gate.apply .start

theorem dispatch_gate_sample :
    ∃ first later rest, sampleGate.inbound = sampleGate.processed ++ rest ∧
      frames sampleGate.processed = first :: later ∧ FirstFrameValid first.header first.payload ∧
      sampleGate.control.state.Live ∧
      (H2DispatchKind.extendedConnect = .extendedConnect →
        lastValue 8 (settingPairs first.payload) = some 1 ∧
          ∀ frame ∈ later, SettingsHeader frame.header →
            lastValue 8 (settingPairs frame.payload) ≠ some 0) :=
  (dispatch_gate (H2Gate.run_feasible .start sampleGateEvents (by decide +kernel))).1 .extendedConnect
    sampleGate ⟨by decide +kernel, rfl⟩

end AuthMiniGateway

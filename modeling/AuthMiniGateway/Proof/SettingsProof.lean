import AuthMiniGateway.H2Transport
import AuthMiniGateway.Proof.AckScanning
import AuthMiniGateway.Proof.FrameScanning

namespace AuthMiniGateway

open Http2

/-! ### The reference -/

theorem inboundVerdict_accepted_append {before : List UInt8} {settings : InitialH2Settings}
    (next : List UInt8) (h : inboundVerdict before = .accepted settings) :
    inboundVerdict (before ++ next) = .accepted settings := by
  cases hframes : frames before with
  | nil =>
    rw [inboundVerdict, hframes] at h
    dsimp only at h
    split_ifs at h
  | cons =>
    rw [inboundVerdict, hframes] at h
    rw [inboundVerdict, frames_append, hframes]
    exact h

theorem referenceStatus_append {inbound outbound : List UInt8} (next next' : List UInt8)
    (h : referenceStatus inbound outbound ≠ .pending) :
    referenceStatus (inbound ++ next) (outbound ++ next') = referenceStatus inbound outbound := by
  cases hin : inboundVerdict inbound with
  | violated =>
    rw [referenceStatus, inboundVerdict_violated_append next hin, referenceStatus, hin]
  | pending =>
    cases hout : outboundVerdict outbound with
    | violated =>
      have hstill : outboundVerdict (outbound ++ next') = .violated := by
        rw [outboundVerdict_append next' (by rw [hout]; nofun), hout]
      simp only [referenceStatus, hstill, hin, hout]
      cases inboundVerdict (inbound ++ next) <;> rfl
    | pending =>
      rw [referenceStatus, hin, hout] at h
      exact absurd rfl h
    | accepted =>
      rw [referenceStatus, hin, hout] at h
      exact absurd rfl h
  | accepted =>
    have hdecided : outboundVerdict outbound ≠ .pending := by
      intro hout
      rw [referenceStatus, hin, hout] at h
      exact h rfl
    rw [referenceStatus, inboundVerdict_accepted_append next hin, outboundVerdict_append next' hdecided,
      referenceStatus, hin]

/-! ### Reads -/

theorem Follows.state {inbound : List UInt8} {s : ServerFrameScanner} (h : Follows inbound s) :
    referenceState inbound =
      match firstSettings inbound with
      | some settings =>
        if settings.extendedConnect ∧ 0 < revocations inbound then .revoked
        else GenerationControl.liveState settings.extendedConnect
      | none => .proving := by
  rw [referenceState, h.verdict]
  cases firstSettings inbound <;> rfl

namespace GenerationControl

theorem revokeIfEnabled_state (c : GenerationControl) :
    c.revokeIfEnabled.state = if c.state = .liveEnabled then .revoked else c.state := by
  rw [revokeIfEnabled]
  split_ifs <;> rfl

theorem state_of_not_enabled {c : GenerationControl} (h : c.state ≠ .liveEnabled) (revoke : Bool) :
    (if revoke then c.revokeIfEnabled else c).state = c.state := by
  split_ifs
  · rw [revokeIfEnabled_state, if_neg h]
  · rfl

theorem installInitial_proving {c : GenerationControl} (h : c.state = .proving) (enabled : Bool) :
    c.installInitial enabled = some ((c.storeState (liveState enabled)).storeSelectable true) := by
  rw [installInitial, if_neg (not_not_intro h)]

end GenerationControl

section Observation

variable {before chunk : List UInt8} {s s' : ServerFrameScanner} {c : GenerationControl}

theorem referenceState_first (hafter : Follows (before ++ chunk) s') {settings : InitialH2Settings}
    (hfirst : firstSettings (before ++ chunk) = some settings)
    (hstate : c.state = GenerationControl.liveState settings.extendedConnect) (revoke : Bool)
    (hrevoke : revoke = decide (0 < revocations (before ++ chunk))) :
    (if revoke then c.revokeIfEnabled else c).state = referenceState (before ++ chunk) := by
  rw [hafter.state, hfirst, hrevoke]
  dsimp only
  by_cases hsome : 0 < revocations (before ++ chunk)
  · rw [if_pos (decide_eq_true hsome), GenerationControl.revokeIfEnabled_state, hstate]
    cases settings.extendedConnect <;> simp [GenerationControl.liveState, hsome]
  · rw [if_neg (by rw [decide_eq_false hsome]; exact Bool.false_ne_true), if_neg (fun h => hsome h.2),
      hstate]

theorem observed_state (hbefore : Follows before s) (hafter : Follows (before ++ chunk) s')
    (hstate : c.state = referenceState before) :
    match (observed before (before ++ chunk)).initial with
    | none => (if (observed before (before ++ chunk)).revoke then c.revokeIfEnabled else c).state =
        referenceState (before ++ chunk)
    | some initial => ∃ c', c.installInitial initial.extendedConnect = some c' ∧
        (if (observed before (before ++ chunk)).revoke then c'.revokeIfEnabled else c').state =
          referenceState (before ++ chunk) := by
  rw [hbefore.state] at hstate
  cases hframes : frames before with
  | nil =>
    have hnone : revocations before = 0 := by
      rw [revocations, hframes]
      rfl
    simp only [firstSettings_nil hframes] at hstate
    simp only [observed, hframes, if_true, hnone]
    cases hfirst : firstSettings (before ++ chunk) with
    | some =>
      refine ⟨_, GenerationControl.installInitial_proving hstate _, ?_⟩
      exact referenceState_first hafter hfirst rfl _ rfl
    | none =>
      have hzero : revocations (before ++ chunk) = 0 := by
        rw [revocations, frames_of_firstSettings hfirst]
        rfl
      rw [hafter.state, hfirst, hzero]
      exact hstate
  | cons =>
    have hne : frames before ≠ [] := by
      rw [hframes]
      exact List.cons_ne_nil _ _
    obtain ⟨settings, hsettings⟩ := firstSettings_isSome hne
    have hle := revocations_append_le before chunk
    have hfirst : firstSettings (before ++ chunk) = some settings :=
      (firstSettings_append chunk hne).trans hsettings
    simp only [hsettings] at hstate
    simp only [observed, if_neg hne]
    by_cases hrevoked : 0 < revocations before
    · have hother : c.state ≠ .liveEnabled := by
        rw [hstate]
        cases settings.extendedConnect <;> simp [GenerationControl.liveState, hrevoked]
      have hafterRevoked : 0 < revocations (before ++ chunk) := by omega
      rw [GenerationControl.state_of_not_enabled hother, hstate, hafter.state, hfirst]
      simp only [hrevoked, hafterRevoked]
    · rw [if_neg (fun h => hrevoked h.2)] at hstate
      apply referenceState_first hafter hfirst hstate
      rw [decide_eq_decide]
      omega

end Observation

namespace H2ProofState

inductive Read (p : H2ProofState) (stream : List UInt8) (p' : H2ProofState) : Prop
  | violated (hverdict : inboundVerdict stream = .violated) (houtbound : p'.outbound = p.outbound)
      (hstatus : p'.status = if p.status = .pending then .failed else p.status)
  | follows (hfollows : Follows stream p'.inbound) (hstate : p'.control.state = referenceState stream)
      (houtbound : p'.outbound = p.outbound)
      (hstatus : p'.status = if p.status = .pending then p'.proofStatus else p.status)

theorem publishStatus_status (p : H2ProofState) (status : H2ProofStatus) :
    (p.publishStatus status).status = if p.status = .pending then status else p.status := by
  rw [publishStatus]
  by_cases hpending : p.status = .pending
  · by_cases hstatus : status = .pending
    · rw [if_neg (fun h => h.1 hstatus), if_pos hpending, hpending, hstatus]
    · rw [if_pos ⟨hstatus, hpending⟩, if_pos hpending]
  · rw [if_neg (fun h => hpending h.2), if_neg hpending]

theorem publishStatus_rest (p : H2ProofState) (status : H2ProofStatus) :
    (p.publishStatus status).inbound = p.inbound ∧ (p.publishStatus status).outbound = p.outbound ∧
      (p.publishStatus status).control = p.control := by
  rw [publishStatus]
  split_ifs <;> exact ⟨rfl, rfl, rfl⟩

theorem publishStatus_proofStatus (p : H2ProofState) (status : H2ProofStatus) :
    (p.publishStatus status).proofStatus = p.proofStatus := by
  rw [publishStatus]
  split_ifs <;> rfl

variable {p : H2ProofState} {inbound outbound : List UInt8}

theorem Read.publish {q : H2ProofState} {stream : List UInt8} (hfollows : Follows stream q.inbound)
    (hstate : q.control.state = referenceState stream) (houtbound : q.outbound = p.outbound)
    (hstatus : q.status = p.status) : Read p stream (q.publishStatus q.proofStatus) := by
  obtain ⟨hinbound', houtbound', hcontrol'⟩ := publishStatus_rest q q.proofStatus
  refine .follows ?_ ?_ ?_ ?_
  · rw [hinbound']
    exact hfollows
  · rw [hcontrol']
    exact hstate
  · rw [houtbound', houtbound]
  · rw [publishStatus_status, hstatus, publishStatus_proofStatus]

theorem revokeObserved_eq (p : H2ProofState) (observed : Observed) :
    p.revokeObserved observed =
      { p with control := if observed.revoke then p.control.revokeIfEnabled else p.control } := by
  rw [revokeObserved]
  split_ifs <;> rfl

theorem observeInbound_read (hfollows : Follows inbound p.inbound)
    (hstate : p.control.state = referenceState inbound) (chunk : List UInt8) :
    Read p (inbound ++ chunk) (p.observeInbound chunk) := by
  have hfed := feed_fed hfollows chunk
  simp only [observeInbound, feedInbound]
  cases hfeed : p.inbound.feed chunk with
  | mk result =>
    rw [hfeed] at hfed
    cases result with
    | error =>
      dsimp only [installObserved]
      refine .violated hfed ?_ ?_
      · exact (publishStatus_rest _ _).2.1
      · rw [publishStatus_status]
        rfl
    | ok observation =>
      obtain ⟨hafter, rfl⟩ := hfed
      have hcontrol := observed_state hfollows hafter hstate
      rw [InboundObservation.default_merge]
      generalize observed inbound (inbound ++ chunk) = observation at hcontrol ⊢
      simp only [installObserved]
      cases hinitial : observation.initial with
      | none =>
        rw [hinitial] at hcontrol
        dsimp only
        rw [revokeObserved_eq]
        exact Read.publish hafter hcontrol rfl rfl
      | some =>
        rw [hinitial] at hcontrol
        obtain ⟨control, hinstall, hcontrol⟩ := hcontrol
        simp only [hinstall, Option.map_some]
        rw [revokeObserved_eq]
        exact Read.publish hafter hcontrol rfl rfl

/-- The generation is in the state of the stream, as long as that is in order. -/
def Tracks (p : H2ProofState) (inbound : List UInt8) : Prop :=
  inboundVerdict inbound = .violated ∨
    (Follows inbound p.inbound ∧ p.control.state = referenceState inbound)

theorem Tracks.read (h : Tracks p inbound) (chunk : List UInt8) :
    Tracks (p.observeInbound chunk) (inbound ++ chunk) := by
  rcases h with hviolated | ⟨hfollows, hstate⟩
  · exact .inl (inboundVerdict_violated_append chunk hviolated)
  · cases observeInbound_read hfollows hstate chunk with
    | violated hverdict => exact .inl hverdict
    | follows hfollows hstate => exact .inr ⟨hfollows, hstate⟩

/-! ### Writes -/

def AckAt (outbound : List UInt8) (p : ClientAckParser) : Prop :=
  AckFollows outbound p ∨ (p.ackSeen = true ∧ outboundVerdict outbound = .accepted ())

theorem AckAt.feed {p : ClientAckParser} (h : AckAt outbound p) (chunk : List UInt8) :
    match p.feed chunk with
    | (.ok (), p) => AckAt (outbound ++ chunk) p
    | (.error (), _) => outboundVerdict (outbound ++ chunk) = .violated := by
  rcases h with hfollows | ⟨hseen, haccepted⟩
  · have hfed := ack_feed_fed hfollows chunk
    cases hfeed : p.feed chunk with
    | mk result =>
      rw [hfeed] at hfed
      cases result with
      | error _ | ok _ => exact hfed
  · rw [ClientAckParser.feed, if_pos hseen]
    refine .inr ⟨hseen, ?_⟩
    rw [outboundVerdict_append chunk (by rw [haccepted]; intro h; cases h), haccepted]

theorem proofStatus_reference (hfollows : Follows inbound p.inbound)
    (hack : AckAt outbound p.outbound) : p.proofStatus = referenceStatus inbound outbound := by
  rw [proofStatus, referenceStatus, hfollows.settings, hfollows.verdict]
  rcases hack with hack | ⟨hseen, haccepted⟩
  · rw [hack.seen, hack.verdict]
    cases firstSettings inbound <;> rfl
  · rw [hseen, haccepted]
    cases firstSettings inbound <;> rfl

structure Agrees (p : H2ProofState) (inbound outbound : List UInt8) : Prop where
  status : p.status = referenceStatus inbound outbound
  scanning : p.status = .pending → Follows inbound p.inbound ∧ AckAt outbound p.outbound

theorem Agrees.of_proofStatus (hfollows : Follows inbound p.inbound)
    (hack : AckAt outbound p.outbound) (hstatus : p.status = p.proofStatus) :
    Agrees p inbound outbound :=
  ⟨hstatus.trans (proofStatus_reference hfollows hack), fun _ => ⟨hfollows, hack⟩⟩

theorem Agrees.publish {q : H2ProofState} (hfollows : Follows inbound q.inbound)
    (hack : AckAt outbound q.outbound) (hpending : q.status = .pending) :
    Agrees (q.publishStatus q.proofStatus) inbound outbound := by
  obtain ⟨hinbound', houtbound', -⟩ := publishStatus_rest q q.proofStatus
  refine .of_proofStatus ?_ ?_ ?_
  · rw [hinbound']
    exact hfollows
  · rw [houtbound']
    exact hack
  · rw [publishStatus_status, if_pos hpending, publishStatus_proofStatus]

theorem referenceStatus_violated
    (h : inboundVerdict inbound = .violated ∨ outboundVerdict outbound = .violated) :
    referenceStatus inbound outbound = .failed := by
  rcases h with h | h
  · rw [referenceStatus, h]
  · rw [referenceStatus, h]
    cases inboundVerdict inbound <;> rfl

theorem Agrees.failed (hstatus : p.status = .failed)
    (h : inboundVerdict inbound = .violated ∨ outboundVerdict outbound = .violated) :
    Agrees p inbound outbound := by
  refine ⟨hstatus.trans (referenceStatus_violated h).symm, ?_⟩
  intro hpending
  rw [hstatus] at hpending
  cases hpending

theorem Agrees.stays {p' : H2ProofState} (h : Agrees p inbound outbound)
    (hdecided : p.status ≠ .pending) (hstatus : p'.status = p.status) (next next' : List UInt8) :
    Agrees p' (inbound ++ next) (outbound ++ next') := by
  have hreference : referenceStatus inbound outbound ≠ .pending := h.status ▸ hdecided
  refine ⟨?_, fun hpending => absurd (hstatus.symm.trans hpending) hdecided⟩
  rw [hstatus, h.status, referenceStatus_append next next' hreference]

theorem publishStatus_failed (h : p.status = .failed) (status : H2ProofStatus) :
    (p.publishStatus status).status = .failed := by
  rw [publishStatus_status, h]
  rfl

theorem observeInbound_failed (h : p.status = .failed) (chunk : List UInt8) :
    (p.observeInbound chunk).status = .failed := by
  have hfeed : (p.feedInbound chunk).2.status = .failed := by
    rw [feedInbound]
    split <;> exact h
  simp only [observeInbound]
  cases hinstall : (p.feedInbound chunk).2.installObserved (p.feedInbound chunk).1 with
  | none => rfl
  | some installed =>
    have hstatus : installed.status = .failed := by
      simp only [installObserved] at hinstall
      split at hinstall
      · cases hinstall
        exact hfeed
      · rw [Option.map_eq_some_iff] at hinstall
        obtain ⟨control, -, rfl⟩ := hinstall
        exact hfeed
    apply publishStatus_failed
    rw [revokeObserved_eq]
    exact hstatus

theorem Agrees.read (h : Agrees p inbound outbound) (htracks : Tracks p inbound)
    (chunk : List UInt8) : Agrees (p.observeInbound chunk) (inbound ++ chunk) outbound := by
  by_cases hpending : p.status = .pending
  · obtain ⟨hfollows, hack⟩ := h.scanning hpending
    have hstate : p.control.state = referenceState inbound := by
      rcases htracks with hviolated | ⟨-, hstate⟩
      · rw [h.status, referenceStatus_violated (.inl hviolated)] at hpending
        cases hpending
      · exact hstate
    cases observeInbound_read hfollows hstate chunk with
    | violated hverdict _ hstatus =>
      rw [if_pos hpending] at hstatus
      exact .failed hstatus (.inl hverdict)
    | follows hfollows _ houtbound hstatus =>
      rw [if_pos hpending] at hstatus
      exact .of_proofStatus hfollows (houtbound ▸ hack) hstatus
  · have hstatus : (p.observeInbound chunk).status = p.status := by
      rcases htracks with hviolated | ⟨hfollows, hstate⟩
      · have hfailed : p.status = .failed := h.status.trans (referenceStatus_violated (.inl hviolated))
        rw [observeInbound_failed hfailed, hfailed]
      · cases observeInbound_read hfollows hstate chunk with
        | violated _ _ hstatus => rw [hstatus, if_neg hpending]
        | follows _ _ _ hstatus => rw [hstatus, if_neg hpending]
    have hstays := h.stays hpending hstatus chunk []
    rwa [List.append_nil] at hstays

theorem observeOutbound_rest (p : H2ProofState) (bytes : List UInt8) :
    (p.observeOutbound bytes).inbound = p.inbound ∧ (p.observeOutbound bytes).control = p.control := by
  rw [observeOutbound, update]
  split_ifs
  · exact ⟨rfl, rfl⟩
  · split
    · exact ⟨(publishStatus_rest _ _).1, (publishStatus_rest _ _).2.2⟩
    · exact ⟨(publishStatus_rest _ _).1, (publishStatus_rest _ _).2.2⟩

theorem Tracks.write (h : Tracks p inbound) (bytes : List UInt8) :
    Tracks (p.observeOutbound bytes) inbound := by
  obtain ⟨hinbound, hcontrol⟩ := observeOutbound_rest p bytes
  rw [Tracks, hinbound, hcontrol]
  exact h

theorem Agrees.write (h : Agrees p inbound outbound) (bytes : List UInt8) :
    Agrees (p.observeOutbound bytes) inbound (outbound ++ bytes) := by
  rw [observeOutbound, update]
  by_cases hpending : p.status = .pending
  · obtain ⟨hfollows, hack⟩ := h.scanning hpending
    have hfed := hack.feed bytes
    rw [if_neg (not_not_intro hpending)]
    cases hfeed : p.outbound.feed bytes with
    | mk result =>
      rw [hfeed] at hfed
      cases result with
      | error =>
        refine .failed ?_ (.inr hfed)
        rw [publishStatus_status, if_pos hpending]
      | ok =>
        exact .publish hfollows hfed hpending
  · rw [if_pos hpending]
    have hstays := h.stays hpending rfl [] bytes
    rwa [List.append_nil] at hstays

theorem take_flatten_cons (buf : List UInt8) (bufs : List (List UInt8)) (accepted : Nat) :
    (buf :: bufs).flatten.take accepted =
      buf.take (min accepted buf.length) ++ bufs.flatten.take (accepted - min accepted buf.length) := by
  rw [List.flatten_cons, List.take_append]
  congr 1
  · rcases Nat.le_total accepted buf.length with h | h
    · rw [Nat.min_eq_left h]
    · rw [Nat.min_eq_right h, List.take_of_length_le h, List.take_length]
  · congr 1
    omega

theorem vectored_invariant (Inv : H2ProofState → List UInt8 → Prop)
    (hstep : ∀ p outbound bytes, Inv p outbound → Inv (p.observeOutbound bytes) (outbound ++ bytes))
    (bufs : List (List UInt8)) (outbound : List UInt8) (h : Inv p outbound) (accepted : Nat) :
    Inv (p.observeOutboundVectored bufs accepted) (outbound ++ bufs.flatten.take accepted) := by
  induction bufs generalizing p outbound accepted with
  | nil =>
    rw [observeOutboundVectored, List.flatten_nil, List.take_nil, List.append_nil]
    exact h
  | cons _ _ ih =>
    rw [observeOutboundVectored]
    split_ifs with hdone
    · rw [hdone, List.take_zero, List.append_nil]
      exact h
    · rw [take_flatten_cons, ← List.append_assoc]
      exact ih _ (hstep p outbound _ h) _

end H2ProofState

/-! ### The transport -/

namespace H2Transport

inductive Effect (t : H2Transport) (event : H2Poll) : H2Transport → Prop
  | read (chunk : List UInt8) : Effect t event
      { t with
        proof := t.proof.observeInbound chunk, inbound := t.inbound ++ chunk,
        reads := (chunk, (t.proof.inbound.feed chunk).1) :: t.reads }
  | write (bytes : List UInt8) : Effect t event
      { t with proof := t.proof.observeOutbound bytes, outbound := t.outbound ++ bytes }
  | writeVectored (bufs : List (List UInt8)) (accepted : Nat) : Effect t event
      { t with
        proof := t.proof.observeOutboundVectored bufs accepted,
        outbound := t.outbound ++ bufs.flatten.take accepted }
  | idle : Effect t event t
  | fault (hfaulty : event.Faulty) (proof : H2ProofState) (hinbound : proof.inbound = t.proof.inbound)
      (hcontrol : proof.control = t.proof.control)
      (hstatus : t.proof.status = .failed → proof.status = .failed) :
      Effect t event { t with proof }

theorem read_effect (t : H2Transport) (cursor : Nat) (inner : Poll (Except Unit (List UInt8))) :
    Effect t (.read cursor inner) (t.poll (.read cursor inner)) := by
  simp only [poll, read, H2ProofState.pollRead]
  split_ifs with hcursor hfail
  · exact .idle
  · exact .idle
  · cases inner with
    | pending => exact .idle
    | ready result =>
      cases result with
      | error => exact .fault (by trivial) _ rfl rfl (fun _ => rfl)
      | ok filled =>
        cases filled with
        | nil => exact .fault (by trivial) _ rfl rfl (fun _ => rfl)
        | cons byte bytes => exact .read (byte :: bytes)

theorem write_effect (t : H2Transport) (bytes : List UInt8) (inner : Poll (Except Unit Nat)) :
    Effect t (.write bytes inner) (t.poll (.write bytes inner)) := by
  have hidle : Effect t (.write bytes inner) { t with outbound := t.outbound ++ [] } := by
    rw [List.append_nil]
    exact .idle
  simp only [poll, write, H2ProofState.pollWrite]
  split_ifs with hfail
  · exact hidle
  · cases inner with
    | pending => exact hidle
    | ready result =>
      cases result with
      | error =>
        simp only [written, List.append_nil]
        exact .fault (by trivial) _ rfl rfl (fun _ => rfl)
      | ok accepted => exact .write (bytes.take accepted)

theorem writeVectored_effect (t : H2Transport) (bufs : List (List UInt8)) (inner : Poll (Except Unit Nat)) :
    Effect t (.writeVectored bufs inner) (t.poll (.writeVectored bufs inner)) := by
  have hidle : Effect t (.writeVectored bufs inner) { t with outbound := t.outbound ++ [] } := by
    rw [List.append_nil]
    exact .idle
  simp only [poll, writeVectored, H2ProofState.pollWriteVectored]
  split_ifs with hfail
  · exact hidle
  · cases inner with
    | pending => exact hidle
    | ready result =>
      cases result with
      | error =>
        simp only [written, List.append_nil]
        exact .fault (by trivial) _ rfl rfl (fun _ => rfl)
      | ok accepted => exact .writeVectored bufs accepted

theorem poll_effect (t : H2Transport) (event : H2Poll) : Effect t event (t.poll event) := by
  cases event with
  | read cursor inner => exact read_effect t cursor inner
  | write bytes inner => exact write_effect t bytes inner
  | writeVectored bufs inner => exact writeVectored_effect t bufs inner
  | drop =>
    refine .fault (by trivial) _ rfl rfl ?_
    intro hfailed
    exact (if_neg (by rw [hfailed]; nofun)).trans hfailed

variable {events : List H2Poll} {t t' : H2Transport} {event : H2Poll}

theorem Effect.tracks (h : Effect t event t') (htracks : t.proof.Tracks t.inbound) :
    t'.proof.Tracks t'.inbound := by
  cases h with
  | read chunk => exact htracks.read chunk
  | write bytes => exact htracks.write bytes
  | writeVectored bufs =>
    apply H2ProofState.vectored_invariant (fun p _ => p.Tracks t.inbound) _ bufs t.outbound htracks
    intro p outbound bytes hp
    exact hp.write bytes
  | idle => exact htracks
  | fault _ _ hinbound hcontrol =>
    rw [H2ProofState.Tracks, hinbound, hcontrol]
    exact htracks

theorem Effect.agrees (h : Effect t event t') (htracks : t.proof.Tracks t.inbound)
    (hagrees : t.proof.Agrees t.inbound t.outbound) (hfaultless : ¬event.Faulty) :
    t'.proof.Agrees t'.inbound t'.outbound := by
  cases h with
  | read chunk => exact hagrees.read htracks chunk
  | write bytes => exact hagrees.write bytes
  | writeVectored bufs =>
    apply H2ProofState.vectored_invariant (fun p outbound => p.Agrees t.inbound outbound) _ bufs
      t.outbound hagrees
    intro p outbound bytes hp
    exact hp.write bytes
  | idle => exact hagrees
  | fault hfaulty => exact absurd hfaulty hfaultless

theorem observeOutbound_failed {p : H2ProofState} (h : p.status = .failed) (bytes : List UInt8) :
    (p.observeOutbound bytes).status = .failed := by
  rw [H2ProofState.observeOutbound, H2ProofState.update, if_pos (by rw [h]; nofun), h]

theorem Effect.failed (h : Effect t event t') (hfailed : t.proof.status = .failed) :
    t'.proof.status = .failed := by
  cases h with
  | read chunk => exact H2ProofState.observeInbound_failed hfailed chunk
  | write bytes => exact observeOutbound_failed hfailed bytes
  | writeVectored bufs =>
    apply H2ProofState.vectored_invariant (fun p _ => p.status = .failed) _ bufs t.outbound hfailed
    intro p outbound bytes hp
    exact observeOutbound_failed hp bytes
  | idle => exact hfailed
  | fault _ _ _ _ hstatus => exact hstatus hfailed

structure Reported (t : H2Transport) : Prop where
  inbound : t.inbound = (t.reads.map Prod.fst).reverse.flatten
  reports : inboundVerdict t.inbound ≠ .violated →
    t.reads.map Prod.snd = (observedReads (t.reads.map Prod.fst)).map Except.ok

theorem Effect.reported (h : Effect t event t') (htracks : t.proof.Tracks t.inbound)
    (hreported : Reported t) : Reported t' := by
  cases h with
  | read chunk =>
    refine ⟨?_, ?_⟩
    · simp only [List.map_cons, List.reverse_cons, List.flatten_append, List.flatten_singleton,
        hreported.inbound]
    · intro hlawful
      dsimp only at hlawful ⊢
      have hbefore : inboundVerdict t.inbound ≠ .violated := by
        intro hviolated
        exact hlawful (inboundVerdict_violated_append chunk hviolated)
      obtain ⟨hfollows, -⟩ := htracks.resolve_left hbefore
      have hfed := feed_fed hfollows chunk
      have hreport : (t.proof.inbound.feed chunk).1 = .ok (observed t.inbound (t.inbound ++ chunk)) := by
        cases hfeed : t.proof.inbound.feed chunk with
        | mk result =>
          rw [hfeed] at hfed
          cases result with
          | error => exact absurd hfed hlawful
          | ok => rw [hfed.2, InboundObservation.default_merge]
      rw [List.map_cons, List.map_cons, observedReads, List.map_cons, ← hreported.inbound, hreport,
        hreported.reports hbefore]
  | write bytes | writeVectored bufs accepted => exact ⟨hreported.inbound, hreported.reports⟩
  | idle => exact hreported
  | fault => exact ⟨hreported.inbound, hreported.reports⟩

theorem run_tracks (hrun : h2Transport.Run start events t) :
    t.proof.Tracks t.inbound ∧ Reported t := by
  apply hrun.invariant (fun t => t.proof.Tracks t.inbound ∧ Reported t)
  · refine ⟨.inr ⟨Follows.start, ?_⟩, rfl, fun _ => rfl⟩
    change GenerationState.proving = referenceState []
    rw [Follows.start.state, firstSettings_nil frames_nil]
  · rintro t event next ⟨htracks, hreported⟩ ⟨-, rfl⟩
    have heffect := poll_effect t event
    exact ⟨heffect.tracks htracks, heffect.reported htracks hreported⟩

theorem run_agrees (hrun : h2Transport.Run start events t) (hfaultless : ∀ event ∈ events, ¬event.Faulty) :
    t.proof.Agrees t.inbound t.outbound := by
  induction hrun with
  | start => exact .of_proofStatus Follows.start (.inl AckFollows.start) rfl
  | step hrun hlast ih =>
    obtain ⟨-, rfl⟩ := hlast
    obtain ⟨hevent, hbefore⟩ := List.forall_mem_cons.mp hfaultless
    exact (poll_effect _ _).agrees (run_tracks hrun).1 (ih hbefore) hevent

theorem run_failed (hrun : h2Transport.Run t events t') (hfailed : t.proof.status = .failed) :
    t'.proof.status = .failed := by
  apply hrun.invariant (fun t => t.proof.status = .failed) hfailed
  rintro t event next hfailed ⟨-, rfl⟩
  exact (poll_effect t event).failed hfailed

theorem observedReads_revoke (chunks : List (List UInt8)) :
    (∃ report ∈ observedReads chunks, report.revoke = true) ↔ 0 < revocations chunks.reverse.flatten := by
  induction chunks with
  | nil =>
    have hnone : revocations [] = 0 := by
      rw [revocations, frames_nil]
      rfl
    simp [observedReads, hnone]
  | cons chunk earlier ih =>
    have hle := revocations_append_le earlier.reverse.flatten chunk
    simp only [observedReads, List.mem_cons, exists_eq_or_imp, ih, observed, decide_eq_true_eq,
      List.reverse_cons, List.flatten_append, List.flatten_singleton]
    omega

end H2Transport

/-- **A function of the streams.** However the streams are cut into reads and writes and whatever part of
a write is accepted, the status of a transport without faults is the one of the bytes that went through.
As long as the inbound stream is in order, the reads report the first frame and the revocations as the
framing of the stream gives them, and the generation is in the state that the stream says; a read that
completes several revocations reports them as one. A failed proof stays failed, with faults as well. -/
theorem settings_proof_of_streams {events : List H2Poll} {t : H2Transport}
    (hrun : h2Transport.Run .start events t) :
    ((∀ event ∈ events, ¬event.Faulty) → t.proof.status = referenceStatus t.inbound t.outbound) ∧
      t.inbound = (t.reads.map Prod.fst).reverse.flatten ∧
      (inboundVerdict t.inbound ≠ .violated →
        t.reads.map Prod.snd = (observedReads (t.reads.map Prod.fst)).map Except.ok ∧
          ((∃ report ∈ observedReads (t.reads.map Prod.fst), report.revoke = true) ↔
            0 < revocations t.inbound) ∧
          t.proof.control.state = referenceState t.inbound) ∧
      (t.proof.status = .failed →
        ∀ later t', h2Transport.Run t later t' → t'.proof.status = .failed) := by
  obtain ⟨htracks, hreported⟩ := H2Transport.run_tracks hrun
  refine ⟨fun hfaultless => (H2Transport.run_agrees hrun hfaultless).status, hreported.inbound, ?_, ?_⟩
  · intro hlawful
    refine ⟨hreported.reports hlawful, ?_, (htracks.resolve_left hlawful).2⟩
    rw [hreported.inbound]
    exact H2Transport.observedReads_revoke _
  · intro hfailed later t' hlater
    exact H2Transport.run_failed hlater hfailed

def sampleServerSettings : List UInt8 := [0, 0, 6, 4, 0, 0, 0, 0, 0, 0, 8, 0, 0, 0, 1]

def sampleClientAck : List UInt8 := h2ClientPreface ++ [0, 0, 0, 4, 1, 0, 0, 0, 0]

def sampleRead : H2Transport := H2Transport.start.poll (.read 64 (.ready (.ok sampleServerSettings)))

def sampleTransport : H2Transport := sampleRead.poll (.write sampleClientAck (.ready (.ok 33)))

theorem sampleTransport_run :
    h2Transport.Run .start
      [.write sampleClientAck (.ready (.ok 33)), .read 64 (.ready (.ok sampleServerSettings))]
      sampleTransport :=
  .step (.step .start ⟨rfl, rfl⟩) ⟨by decide +kernel, rfl⟩

theorem settings_proof_of_streams_sample :
    sampleTransport.proof.status = .ready ⟨true, none⟩ ∧
      sampleTransport.proof.status =
        referenceStatus sampleTransport.inbound sampleTransport.outbound := by
  refine ⟨by decide +kernel, (settings_proof_of_streams sampleTransport_run).1 ?_⟩
  intro event hmem
  rcases List.mem_cons.mp hmem with rfl | hmem
  · exact id
  · rw [List.mem_singleton.mp hmem]
    exact id

end AuthMiniGateway

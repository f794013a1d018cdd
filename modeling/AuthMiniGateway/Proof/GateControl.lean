import AuthMiniGateway.DispatchGate

namespace AuthMiniGateway

def GenerationState.Live (state : GenerationState) : Prop := state = .liveDisabled ∨ state = .liveEnabled

inductive ControlLock where
  | free
  | installing
  | revoking
  deriving DecidableEq, Repr

structure ControlView where
  selectable : Bool
  state : GenerationState
  lock : ControlLock
  connected : Bool
  stopping : Nat
  deriving DecidableEq, Repr

inductive ControlStep : ControlView → ControlView → Prop
  | stay (v : ControlView) : ControlStep v v
  | connect (v : ControlView) (hselectable : v.selectable = true) :
      ControlStep v { v with connected := true }
  | install (v : ControlView) (enabled : Bool) (hlock : v.lock = .free) (hstate : v.state = .proving) :
      ControlStep v { v with state := GenerationControl.liveState enabled, lock := .installing }
  | installFlag (v : ControlView) (hlock : v.lock = .installing) :
      ControlStep v { v with selectable := true, lock := .free }
  | revoke (v : ControlView) (hlock : v.lock = .free) (hstate : v.state = .liveEnabled) :
      ControlStep v { v with state := .revoked, lock := .revoking }
  | revokeFlag (v : ControlView) (hlock : v.lock = .revoking) :
      ControlStep v { v with selectable := false, lock := .free }
  | clear (v : ControlView) : ControlStep v { v with selectable := false }
  | stop (v : ControlView) (hconnected : v.connected = true) :
      ControlStep v { v with selectable := false, stopping := v.stopping + 1 }
  | stopState (v : ControlView) (state : GenerationState) (hlock : v.lock = .free)
      (hstopping : 0 < v.stopping) (hstate : state = .retiring ∨ state = .closed) :
      ControlStep v { v with state, stopping := v.stopping - 1 }

namespace ControlView

structure Settled (v : ControlView) : Prop where
  state : v.state ≠ .proving
  lock : v.lock ≠ .installing

structure Inv (v : ControlView) : Prop where
  installing : v.lock = .installing → v.state.Live ∧ v.selectable = false
  revoking : v.lock = .revoking → v.state = .revoked
  selectable : v.selectable = true → v.lock ≠ .revoking → v.state.Live
  stopping : 0 < v.stopping → v.connected = true ∧ v.selectable = false
  connected : v.connected = true → v.Settled

variable {v v' : ControlView}

theorem liveState_live (enabled : Bool) : (GenerationControl.liveState enabled).Live := by
  cases enabled with
  | false => exact .inl rfl
  | true => exact .inr rfl

theorem ne_proving_of_live {state : GenerationState} (h : state.Live) : state ≠ .proving := by
  rcases h with rfl | rfl <;> nofun

theorem Inv.settled (h : v.Inv) (hselectable : v.selectable = true) : v.Settled := by
  refine ⟨?_, ?_⟩
  · by_cases hlock : v.lock = .revoking
    · rw [h.revoking hlock]
      nofun
    · exact ne_proving_of_live (h.selectable hselectable hlock)
  · intro hlock
    rw [(h.installing hlock).2] at hselectable
    cases hselectable

theorem Settled.step (h : v.Settled) (hstep : ControlStep v v') : v'.Settled := by
  obtain ⟨hstate, hlock⟩ := h
  cases hstep with
  | stay | connect => exact ⟨hstate, hlock⟩
  | install _ _ hproving => exact absurd hproving hstate
  | installFlag hinstalling => exact absurd hinstalling hlock
  | revoke => exact ⟨nofun, nofun⟩
  | revokeFlag => exact ⟨hstate, nofun⟩
  | clear | stop => exact ⟨hstate, hlock⟩
  | stopState _ _ _ hstopped => exact ⟨by rcases hstopped with rfl | rfl <;> nofun, hlock⟩

theorem Settled.cleared (h : v.Settled) (hclear : v.selectable = false) (hstep : ControlStep v v') :
    v'.selectable = false := by
  cases hstep with
  | installFlag hinstalling => exact absurd hinstalling h.lock
  | revokeFlag | clear | stop => rfl
  | _ => exact hclear

theorem Inv.step (h : v.Inv) (hstep : ControlStep v v') : v'.Inv := by
  have hconnected : v'.connected = true → v'.Settled := by
    intro hnext
    by_cases hbefore : v.connected = true
    · exact (h.connected hbefore).step hstep
    · have hselectable : v.selectable = true := by
        cases hstep with
        | connect hselectable => exact hselectable
        | _ => exact absurd hnext hbefore
      exact (h.settled hselectable).step hstep
  cases hstep with
  | stay => exact h
  | connect =>
    refine ⟨h.installing, h.revoking, h.selectable, ?_, hconnected⟩
    intro hstopping
    exact ⟨rfl, (h.stopping hstopping).2⟩
  | install enabled _ hproving =>
    have hclear : v.selectable = false := by
      by_contra hselectable
      exact (h.settled (Bool.not_eq_false _ ▸ hselectable)).state hproving
    refine ⟨fun _ => ⟨liveState_live enabled, hclear⟩, nofun, fun _ _ => liveState_live enabled, ?_,
      hconnected⟩
    intro hstopping
    exact ⟨(h.stopping hstopping).1, hclear⟩
  | installFlag hinstalling =>
    obtain ⟨hlive, hclear⟩ := h.installing hinstalling
    refine ⟨nofun, nofun, fun _ _ => hlive, ?_, hconnected⟩
    intro hstopping
    exact absurd hinstalling (h.connected (h.stopping hstopping).1).lock
  | revoke => exact ⟨nofun, fun _ => rfl, fun _ hlock => absurd rfl hlock, h.stopping, hconnected⟩
  | revokeFlag =>
    refine ⟨nofun, nofun, nofun, ?_, hconnected⟩
    intro hstopping
    exact ⟨(h.stopping hstopping).1, rfl⟩
  | clear =>
    refine ⟨?_, h.revoking, nofun, ?_, hconnected⟩
    · intro hlock
      exact ⟨(h.installing hlock).1, rfl⟩
    · intro hstopping
      exact ⟨(h.stopping hstopping).1, rfl⟩
  | stop hwas =>
    refine ⟨?_, h.revoking, nofun, fun _ => ⟨hwas, rfl⟩, hconnected⟩
    intro hlock
    exact ⟨(h.installing hlock).1, rfl⟩
  | stopState _ hfree hstopping =>
    obtain ⟨hwas, hclear⟩ := h.stopping hstopping
    refine ⟨?_, ?_, ?_, fun _ => ⟨hwas, hclear⟩, hconnected⟩
    · intro hlock
      exact absurd (hfree.symm.trans hlock) nofun
    · intro hlock
      exact absurd (hfree.symm.trans hlock) nofun
    · intro hselectable
      exact absurd (hclear.symm.trans hselectable) nofun

end ControlView

/-! ### The gate -/

def Reader.lock : Reader → ControlLock
  | .installing _ => .installing
  | .revoking _ => .revoking
  | _ => .free

theorem Reader.lock_free {reader : Reader} (h : reader.holdsLock = false) : reader.lock = .free := by
  cases reader <;> first | rfl | cases h

namespace H2Gate

def view (g : H2Gate) : ControlView :=
  { selectable := g.control.selectable, state := g.control.state, lock := g.reader.lock,
    connected := decide (g.connector = .connected), stopping := g.retiring + g.closing }

theorem feedInbound_control (p : H2ProofState) (chunk : List UInt8) :
    (p.feedInbound chunk).2.control = p.control := by
  rw [H2ProofState.feedInbound]
  split <;> rfl

theorem publishStatus_control (p : H2ProofState) (status : H2ProofStatus) :
    (p.publishStatus status).control = p.control := by
  rw [H2ProofState.publishStatus]
  split_ifs <;> rfl

theorem observeOutbound_control (p : H2ProofState) (bytes : List UInt8) :
    (p.observeOutbound bytes).control = p.control := by
  rw [H2ProofState.observeOutbound, H2ProofState.update]
  split_ifs
  · rfl
  · split <;> exact publishStatus_control _ _

theorem observeOutboundVectored_control (p : H2ProofState) (bufs : List (List UInt8)) (accepted : Nat) :
    (p.observeOutboundVectored bufs accepted).control = p.control := by
  induction bufs generalizing p accepted with
  | nil => rfl
  | cons _ _ ih =>
    rw [H2ProofState.observeOutboundVectored]
    split_ifs
    · rfl
    · exact (ih _ _).trans (observeOutbound_control p _)

theorem retireState_stops (c : GenerationControl) :
    c.retireState.selectable = c.selectable ∧
      (c.retireState.state = .retiring ∨ c.retireState.state = .closed) := by
  rw [GenerationControl.retireState]
  split_ifs with hclosed
  · exact ⟨rfl, .inl rfl⟩
  · exact ⟨rfl, .inr (not_not.mp hclosed)⟩

theorem view_stay {g next : H2Gate} (hcontrol : next.control = g.control)
    (hlock : next.reader.lock = g.reader.lock) (hconnector : next.connector = g.connector)
    (hretiring : next.retiring = g.retiring) (hclosing : next.closing = g.closing) :
    ControlStep g.view next.view := by
  rw [view, view, hcontrol, hlock, hconnector, hretiring, hclosing]
  exact .stay _

theorem advance_view (g : H2Gate) : ControlStep g.view g.advance.view := by
  rw [advance]
  cases hreader : g.reader with
  | idle | reading => exact .stay _
  | observed =>
    dsimp only
    split
    · exact view_stay rfl (by rw [hreader]; rfl) rfl rfl rfl
    · split_ifs with hstate
      · exact view_stay rfl (by rw [hreader]; rfl) rfl rfl rfl
      · exact .install g.view _ (by rw [view, hreader]; rfl) (not_not.mp hstate)
  | installing => exact .installFlag g.view (by rw [view, hreader]; rfl)
  | installed =>
    dsimp only
    split_ifs with hrevoke
    · exact .revoke g.view (by rw [view, hreader]; rfl) hrevoke.2
    · exact view_stay rfl (by rw [hreader]; rfl) rfl rfl rfl
  | revoking => exact .revokeFlag g.view (by rw [view, hreader]; rfl)
  | notifying o =>
    have hview : ({ g.setControl g.control.publishRetirement with reader := .publishing o } : H2Gate).view =
        g.view := by
      rw [view, view, hreader]
      rfl
    dsimp only
    rw [hview]
    exact .stay _
  | publishing =>
    exact view_stay (publishStatus_control _ _) (by rw [hreader]; rfl) rfl rfl rfl

theorem seeMatch_view (g : H2Gate) : g.seeMatch.view = g.view := by
  rw [seeMatch]
  cases hconnector : g.connector with
  | ready =>
    rw [view, view, hconnector]
    rfl
  | _ => rfl

theorem connect_view {g : H2Gate} (h : g.enabled .connect = true) :
    ControlStep g.view (g.apply .connect).view := by
  have hselectable : g.control.selectable = true := by
    rw [enabled] at h
    split at h
    · exact h
    · cases h
  exact .connect g.view hselectable

theorem view_step {g next : H2Gate} {event : GateEvent} (h : h2Gate.step g event next) :
    ControlStep g.view next.view := by
  obtain ⟨henabled, rfl⟩ := h
  cases event with
  | poll =>
    obtain ⟨hreader, -⟩ := of_decide_eq_true henabled
    exact view_stay rfl (by rw [hreader]; rfl) rfl rfl rfl
  | unread | fault => exact view_stay rfl (by rw [of_decide_eq_true henabled]; rfl) rfl rfl rfl
  | feed =>
    obtain ⟨hreader, -⟩ := of_decide_eq_true henabled
    exact view_stay (feedInbound_control _ _) (by rw [hreader]; rfl) rfl rfl rfl
  | advance => exact advance_view g
  | write => exact view_stay (observeOutbound_control _ _) rfl rfl rfl rfl
  | writeVectored => exact view_stay (observeOutboundVectored_control _ _ _) rfl rfl rfl rfl
  | writeFault | drop => exact .stay _
  | seeReady settings =>
    obtain ⟨hconnector, -⟩ := of_decide_eq_true henabled
    have hview : (g.apply (.seeReady settings)).view = g.view := by
      rw [view, view, hconnector]
      rfl
    rw [hview]
    exact .stay _
  | seeMatch =>
    change ControlStep g.view g.seeMatch.view
    rw [seeMatch_view]
    exact .stay _
  | connect => exact connect_view henabled
  | tryReserve | reserve | saturate => exact .stay _
  | findClosed => exact .clear g.view
  | release | enqueue kind | refuse kind => exact .stay _
  | retire =>
    have hstop := ControlStep.stop g.view henabled
    rw [show g.view.stopping + 1 = g.retiring + 1 + g.closing from Nat.add_right_comm _ _ _] at hstop
    exact hstop
  | retireState =>
    obtain ⟨hretiring, hlock⟩ := of_decide_eq_true henabled
    obtain ⟨hselectable, hstopped⟩ := retireState_stops g.control
    have hstop := ControlStep.stopState g.view _ (Reader.lock_free hlock)
      (Nat.lt_of_lt_of_le hretiring (Nat.le_add_right _ _)) hstopped
    have hview : (g.apply .retireState).view = { g.view with
        state := g.control.retireState.state,
        stopping := g.view.stopping - 1 } := by
      rw [show g.view.stopping - 1 = g.retiring - 1 + g.closing from Nat.sub_add_comm hretiring]
      change ControlView.mk g.control.retireState.selectable _ _ _ _ = _
      rw [hselectable]
      rfl
    rw [hview]
    exact hstop
  | close => exact .stop g.view henabled
  | closeState =>
    obtain ⟨hclosing, hlock⟩ := of_decide_eq_true henabled
    have hstop := ControlStep.stopState g.view .closed (Reader.lock_free hlock)
      (Nat.lt_of_lt_of_le hclosing (Nat.le_add_left _ _)) (.inr rfl)
    rw [show g.view.stopping - 1 = g.retiring + (g.closing - 1) from Nat.add_sub_assoc hclosing _] at hstop
    exact hstop

/-! ### A read by itself -/

/-- The stores of the reader, with no other task between them, lead to `p`. -/
inductive Reads (p : H2ProofState) : H2Gate → Prop
  | finished (g : H2Gate) (hreader : g.reader = .idle) (hproof : g.proof = p) : Reads p g
  | goesOn (g : H2Gate) : Reads p g.advance → Reads p g

variable {events : List GateEvent} {g next : H2Gate}

theorem run_inv (hrun : h2Gate.Run start events g) : g.view.Inv := by
  apply hrun.invariant (fun g => g.view.Inv)
  · exact ⟨nofun, nofun, nofun, nofun, nofun⟩
  · intro g event next hinv hstep
    exact hinv.step (view_step hstep)

theorem run_settled (hrun : h2Gate.Run g events next) (hsettled : g.view.Settled) : next.view.Settled := by
  apply hrun.invariant (fun g => g.view.Settled) hsettled
  intro g event next hsettled hstep
  exact hsettled.step (view_step hstep)

theorem run_cleared (hrun : h2Gate.Run g events next) (hsettled : g.view.Settled)
    (hclear : g.control.selectable = false) : next.control.selectable = false := by
  refine (hrun.invariant (fun g => g.view.Settled ∧ g.view.selectable = false) ⟨hsettled, hclear⟩ ?_).2
  rintro g event next ⟨hsettled, hclear⟩ hstep
  exact ⟨hsettled.step (view_step hstep), hsettled.cleared hclear (view_step hstep)⟩

end H2Gate

end AuthMiniGateway

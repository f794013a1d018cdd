import AuthMiniGateway.Handlers
import AuthMiniGateway.Proof.Exchanges

namespace AuthMiniGateway

open Trace

def decisionOrigin (sessionId : String) : Origin where
  sessionId := sessionId
  given _ := False
  mayRefresh _ := True
  mayTouch := True

/-- The exchanges that let a request pass, the latest first. -/
def AllowedBy (config : Config) (sessionId : String) (h : Trace) (identity : VerifiedIdentity) :
    Prop :=
  ∃ session now result touched rest,
    h = ⟨.store (.touchReady session config.sessionTtlSeconds config.sessionTouchIntervalSeconds),
        .ok result⟩ :: ⟨.now, now⟩ ::
      ⟨.store (.lookupSession sessionId), .ok (.active session)⟩ :: rest ∧
    (result = .notDue touched ∨ result = .advanced touched) ∧ identity.userId = touched.userId ∧
    session.identityState = .ready ∧ sessionNeedsRefresh session config now = some false ∧
    session.userId ∈ config.allowUserIds

def RestsOn (config : Config) (sessionId : String) (h : Trace) (decision : Option AuthDecision) :
    Prop :=
  ∀ identity renewal, decision = some (.allow identity renewal) →
    AllowedBy config sessionId h identity

section Decision

variable {α : Type} {mac : Mac} {config : Config} {sessionId : String} {h : Trace}

abbrev Decides (sessionId : String) (h : Trace) (p : Server α) (post : Trace → α → Prop) : Prop :=
  p.Meets (exchangeView (decisionOrigin sessionId).Owes) (flightContract (decisionOrigin sessionId)) h
    post

theorem Decides.ask {post : Trace → α → Prop} {op : ServerOp} {next : op.Reply → Server α}
    (howes : (decisionOrigin sessionId).Owes op h)
    (hnext : ∀ reply, Decides sessionId (⟨op, reply⟩ :: h) (next reply) post) :
    Decides sessionId h (Server.ask op >>= next) post :=
  meets_request_iff.mpr ⟨howes, hnext⟩

theorem Decides.pure {post : Trace → α → Prop} {value : α} (hpost : post h value) :
    Decides sessionId h (pure value) post :=
  meets_pure_iff.mpr hpost

theorem decides_shareFlight {session : GatewaySession}
    (hknown : (decisionOrigin sessionId).Known h session) :
    Decides sessionId h (shareFlight session config) fun _ _ => True := by
  refine Decides.ask trivial ?_
  rintro (flight | flight | flight)
  · apply Program.Meets.bind
    apply (flies_executeFlight hknown.cons (fun _ _ => trivial)).mono
    intro h' outcome _
    refine Decides.ask trivial ?_
    intro shared
    exact Decides.pure trivial
  · refine Decides.ask trivial ?_
    intro shared
    exact Decides.pure trivial
  · refine Decides.ask trivial ?_
    intro shared
    exact Decides.pure trivial

theorem restsOn_of_not_allow {decision : AuthDecision}
    (hdecision : ∀ identity renewal, decision ≠ .allow identity renewal) :
    RestsOn config sessionId h (some decision) := by
  intro identity renewal heq
  exact absurd (Option.some.inj heq) (hdecision identity renewal)

theorem decides_afterFlight {again : Server (Option AuthDecision)}
    (hagain : Decides sessionId h again (RestsOn config sessionId)) (outcome : Option FlightOutcome) :
    Decides sessionId h (afterFlight config again outcome) (RestsOn config sessionId) := by
  match outcome with
  | none | some (.ready _) => exact hagain
  | some (.rejected _) | some (.temporary _)
  | some (.indeterminate _) => exact Decides.pure (restsOn_of_not_allow nofun)

theorem decides_admitSession {session : GatewaySession} {now : Int}
    {again : Server (Option AuthDecision)}
    (hagain : ∀ h, Decides sessionId h again (RestsOn config sessionId))
    (hready : session.identityState = .ready)
    (hfresh : sessionNeedsRefresh session config now = some false) :
    Decides sessionId
      (⟨.now, now⟩ :: ⟨.store (.lookupSession sessionId), .ok (.active session)⟩ :: h)
      (admitSession mac config session again) (RestsOn config sessionId) := by
  unfold admitSession
  split_ifs with hpolicy hheaders
  · exact Decides.pure (restsOn_of_not_allow nofun)
  · exact Decides.pure (restsOn_of_not_allow nofun)
  · have huser : session.userId ∈ config.allowUserIds := by
      by_contra hdenied
      exact hpolicy (if_pos hdenied)
    have hknown : (decisionOrigin sessionId).Known (⟨.now, now⟩ ::
        ⟨.store (.lookupSession sessionId), .ok (.active session)⟩ :: h) session :=
      Origin.Known.cons (.head List.mem_cons_self)
    refine Decides.ask ⟨trivial, hknown⟩ ?_
    rintro ((touched | touched | _) | error | _)
    · apply Decides.pure
      rintro identity renewal ⟨⟩
      exact ⟨session, now, _, touched, h, rfl, Or.inl rfl, rfl, hready, hfresh, huser⟩
    · apply Decides.pure
      rintro identity renewal ⟨⟩
      exact ⟨session, now, _, touched, h, rfl, Or.inr rfl, rfl, hready, hfresh, huser⟩
    · exact hagain _
    · exact Decides.pure (restsOn_of_not_allow nofun)
    · exact Decides.pure nofun

theorem decides_authAttempts (mac : Mac) (config : Config) (sessionId : String) (attempts : Nat) :
    ∀ h, Decides sessionId h (authAttempts mac config sessionId attempts)
      (RestsOn config sessionId) := by
  induction attempts with
  | zero => exact fun h => Decides.pure (restsOn_of_not_allow fun _ _ h => by cases h)
  | succ attempts ih =>
    intro h
    refine Decides.ask (Or.inl rfl) ?_
    rintro ((session | _) | error | _)
    · have hflight : ∀ h, (decisionOrigin sessionId).Known h session →
          Decides sessionId h (shareFlight session config >>= afterFlight config
            (authAttempts mac config sessionId attempts)) (RestsOn config sessionId) := by
        intro h hknown
        apply Program.Meets.bind
        apply (decides_shareFlight hknown).mono
        intro h' outcome _
        exact decides_afterFlight (ih h') outcome
      dsimp only [wantsFlight]
      split_ifs with hpending
      · exact hflight _ (.head List.mem_cons_self)
      · have hready : session.identityState = .ready := by
          cases hstate : session.identityState with
          | ready => rfl
          | pending => exact absurd hstate hpending
        refine Decides.ask trivial ?_
        intro now
        dsimp only [Program.bind]
        rcases hneeds : sessionNeedsRefresh session config now with _ | _ | _
        · exact Decides.pure fun _ _ h => by cases h
        · exact decides_admitSession ih hready hneeds
        · exact hflight _ (Origin.Known.cons (.head List.mem_cons_self))
    · exact Decides.pure (restsOn_of_not_allow fun _ _ h => by cases h)
    · exact Decides.pure (restsOn_of_not_allow fun _ _ h => by cases h)
    · exact Decides.pure fun _ _ h => by cases h

end Decision

end AuthMiniGateway

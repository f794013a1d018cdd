import AuthMiniGateway.AuthDecision

namespace AuthMiniGateway

abbrev Trace := List (Exchange serverInterface)

namespace Trace

def handedOut : Exchange serverInterface → List GatewaySession
  | ⟨.store op, reply⟩ => op.sessionsIn reply
  | _ => []

def isRefresh : Exchange serverInterface → Bool
  | ⟨.auth (.refresh _ _), _⟩ => true
  | _ => false

def IsRevocation : Exchange serverInterface → Prop
  | ⟨.store (.conditionalRevoke _), reply⟩ => reply = .ok true
  | _ => False

def ShowsInactive : Exchange serverInterface → Prop
  | ⟨.store (.lookupSession _), reply⟩ => reply = .ok .inactive
  | ⟨.store (.persistPending _ _), reply⟩ => reply = .ok .inactive
  | ⟨.store (.finalizePending _ _), reply⟩ => reply = .ok .inactive
  | ⟨.store (.conditionalRevoke _), reply⟩ => reply = .ok true
  | _ => False

def FromClient : Exchange serverInterface → Prop
  | ⟨.auth op, answer⟩ => op.FromClient answer
  | _ => True

end Trace

open Trace

/-- What a program on a session starts from: the session identifier, the sessions it holds, the
histories after which it may ask for a refresh, and whether it may touch the row. -/
structure Origin where
  sessionId : String
  given : GatewaySession → Prop
  mayRefresh : Trace → Prop
  mayTouch : Prop

namespace Origin

def Known (o : Origin) (h : Trace) (session : GatewaySession) : Prop :=
  o.given session ∨ ∃ x ∈ h, session ∈ handedOut x

/-- Auth-mini has refused the snapshot: its refresh token as invalidated or superseded, or the audience
of its access token or of the one that its refresh token was exchanged for. -/
def Refused (h : Trace) (expected : GatewaySession) : Prop :=
  (∃ reason, ⟨.auth (.refresh expected.authSessionId expected.refreshToken),
      .error (.rejected reason)⟩ ∈ h) ∨
    ∃ token jwks, ⟨.auth (.verifyRefreshedAccess token jwks), .error .audienceRejected⟩ ∈ h ∧
      (token = expected.accessToken ∨
        ∃ refreshed : TokenResponse, refreshed.accessToken = token ∧
          ⟨.auth (.refresh expected.authSessionId expected.refreshToken), .ok refreshed⟩ ∈ h)

/-- The tokens are those of one response to the refresh token of `original`, as verified. -/
def Obtained (h : Trace) (original : GatewaySession) (next : PendingTokens) : Prop :=
  ∃ (refreshed : TokenResponse) (verified : VerifiedAccessToken) (jwks : Jwks),
    ⟨.auth (.refresh original.authSessionId original.refreshToken), .ok refreshed⟩ ∈ h ∧
      ⟨.auth (.verifyRefreshedAccess refreshed.accessToken jwks), .ok verified⟩ ∈ h ∧
      verified.authSessionId = original.authSessionId ∧ verified.userId = original.userId ∧
      next.accessToken = refreshed.accessToken ∧ next.refreshToken = refreshed.refreshToken ∧
      next.userId = verified.userId ∧ next.amr = verified.amr ∧
      unixToTime verified.exp = some next.accessExpiresAt

def Owes (o : Origin) : ServerOp → Trace → Prop
  | .store (.lookupSession id), h => id = o.sessionId ∨ ∃ session, o.Known h session ∧ session.id = id
  | .store (.conditionalRevoke expected), h => o.Known h expected ∧ Refused h expected
  | .store (.persistPending original next), h => o.Known h original ∧ Obtained h original next
  | .store (.finalizePending pending _), h => o.Known h pending
  | .store (.touchReady original _ _), h => o.mayTouch ∧ o.Known h original
  | .store _, _ => False
  | .auth (.refresh _ _), h => o.mayRefresh h
  | _, _ => True

end Origin

theorem Origin.Owes.snapshots {o : Origin} {op : StoreOp} {h : Trace} (howes : o.Owes (.store op) h) :
    ∀ session ∈ op.snapshots, o.Known h session := by
  intro session hsession
  cases op with
  | conditionalRevoke =>
    rw [List.mem_singleton.mp hsession]
    exact howes.1
  | persistPending =>
    rw [List.mem_singleton.mp hsession]
    exact howes.1
  | finalizePending =>
    rw [List.mem_singleton.mp hsession]
    exact howes
  | touchReady =>
    rw [List.mem_singleton.mp hsession]
    exact howes.2
  | _ => cases hsession

def isUnsettled : Option FlightOutcome → Bool
  | none => true
  | some (.temporary _) => true
  | some (.indeterminate _) => true
  | _ => false

/-- From `h₀` to `h` at most `n` refreshes were asked for and no row was revoked. -/
structure Quiet (n : Nat) (h₀ h : Trace) : Prop where
  suffix : h₀ <:+ h
  refreshes : h.countP isRefresh ≤ h₀.countP isRefresh + n
  revocations : ∀ x ∈ h, IsRevocation x → x ∈ h₀

/-- What the exchanges from `h₀` to `h` have to show for an outcome. -/
structure Settled (o : Origin) (n : Nat) (h₀ h : Trace) (outcome : Option FlightOutcome) : Prop where
  suffix : h₀ <:+ h
  refreshes : h.countP isRefresh ≤ h₀.countP isRefresh + n
  rejected : ∀ reason, outcome = some (.rejected reason) → (∀ x ∈ h, FromClient x) →
    ∃ x ∈ h, ShowsInactive x
  ready : ∀ generation, outcome = some (.ready generation) →
    ∃ session, o.Known h session ∧ session.identityState = .ready ∧
      session.refreshGeneration = generation
  unsettled : isUnsettled outcome = true → ∀ x ∈ h, IsRevocation x → x ∈ h₀

/-- The contract of `recover_pending_identity`. -/
def flightContract (o : Origin) : Contract serverInterface Trace where
  pre | .recoverPendingIdentity pending, h => o.Known h pending
  post _ h outcome h' := Settled o 0 h h' outcome

section Rules

variable {o : Origin} {n : Nat} {h₀ h h' : Trace} {outcome : Option FlightOutcome}
  {session : GatewaySession} {x : Exchange serverInterface}

theorem Origin.Known.mono (hknown : o.Known h session) (hsuffix : h <:+ h') :
    o.Known h' session := by
  rcases hknown with hgiven | ⟨x, hx, hmem⟩
  · exact Or.inl hgiven
  · exact Or.inr ⟨x, hsuffix.subset hx, hmem⟩

theorem Origin.Known.cons (hknown : o.Known h session) : o.Known (x :: h) session :=
  hknown.mono (List.suffix_cons x h)

theorem Origin.Known.head (hmem : session ∈ handedOut x) : o.Known (x :: h) session :=
  Or.inr ⟨x, List.mem_cons_self, hmem⟩

theorem Quiet.refl : Quiet 0 h h where
  suffix := List.suffix_rfl
  refreshes := le_rfl
  revocations _ hx _ := hx

theorem Quiet.cons (hquiet : Quiet n h₀ h) (hrefresh : isRefresh x = false)
    (hrevocation : ¬IsRevocation x) : Quiet n h₀ (x :: h) where
  suffix := hquiet.suffix.trans (List.suffix_cons x h)
  refreshes := by
    rw [List.countP_cons_of_neg (by simp [hrefresh])]
    exact hquiet.refreshes
  revocations y hy hrev := by
    rcases List.mem_cons.mp hy with rfl | hy
    · exact absurd hrev hrevocation
    · exact hquiet.revocations y hy hrev

theorem Quiet.cons_refresh (hquiet : Quiet n h₀ h) {sessionId token : String}
    {answer : Except RefreshError TokenResponse} :
    Quiet (n + 1) h₀ (⟨.auth (.refresh sessionId token), answer⟩ :: h) where
  suffix := hquiet.suffix.trans (List.suffix_cons _ h)
  refreshes := by
    have hcount := hquiet.refreshes
    rw [List.countP_cons]
    split <;> omega
  revocations y hy hrev := by
    rcases List.mem_cons.mp hy with rfl | hy
    · exact absurd hrev id
    · exact hquiet.revocations y hy hrev

theorem Quiet.weaken {n' : Nat} (hquiet : Quiet n h₀ h) (hle : n ≤ n') : Quiet n' h₀ h where
  suffix := hquiet.suffix
  refreshes := hquiet.refreshes.trans (Nat.add_le_add_left hle _)
  revocations := hquiet.revocations

namespace Settled

theorem of_unsettled (hquiet : Quiet n h₀ h) (hout : isUnsettled outcome = true) :
    Settled o n h₀ h outcome where
  suffix := hquiet.suffix
  refreshes := hquiet.refreshes
  rejected reason heq := by
    subst heq
    cases hout
  ready generation heq := by
    subst heq
    cases hout
  unsettled _ := hquiet.revocations

theorem of_ready (hquiet : Quiet n h₀ h) (hknown : o.Known h session)
    (hstate : session.identityState = .ready) :
    Settled o n h₀ h (some (.ready session.refreshGeneration)) where
  suffix := hquiet.suffix
  refreshes := hquiet.refreshes
  rejected reason heq := by cases heq
  ready generation heq := by
    cases heq
    exact ⟨session, hknown, hstate, rfl⟩
  unsettled hout := by cases hout

theorem of_inactive {reason : RejectedReason} (hsuffix : h₀ <:+ h)
    (hrefreshes : h.countP isRefresh ≤ h₀.countP isRefresh + n) (hinactive : ShowsInactive x)
    (hx : x ∈ h) : Settled o n h₀ h (some (.rejected reason)) where
  suffix := hsuffix
  refreshes := hrefreshes
  rejected _ _ _ := ⟨x, hx, hinactive⟩
  ready generation heq := by cases heq
  unsettled hout := by cases hout

theorem of_error {error : RefreshError} (hquiet : Quiet n h₀ h)
    (hclient : (∀ x ∈ h, FromClient x) → error.isRejected = false) :
    Settled o n h₀ h (some (refreshErrorOutcome error)) := by
  cases error with
  | rejected =>
    refine ⟨hquiet.suffix, hquiet.refreshes, ?_, ?_, ?_⟩
    · intro _ _ hall
      exact absurd (hclient hall) (by simp [RefreshError.isRejected])
    · intro generation heq
      cases heq
    · intro hout
      cases hout
  | audienceRejected | temporary errorClass
  | indeterminate => exact of_unsettled hquiet rfl

theorem after (hquiet : Quiet n h₀ h) (hsettled : Settled o 0 h h' outcome) :
    Settled o n h₀ h' outcome where
  suffix := hquiet.suffix.trans hsettled.suffix
  refreshes := by
    have hfirst := hquiet.refreshes
    have hlast := hsettled.refreshes
    omega
  rejected := hsettled.rejected
  ready := hsettled.ready
  unsettled hout x hx hrev := hquiet.revocations x (hsettled.unsettled hout x hx hrev) hrev

end Settled

end Rules

/-! ### The functions -/

section Functions

variable {o : Origin} {n : Nat} {h₀ h : Trace}

def Flies (o : Origin) (n : Nat) (h₀ h : Trace) (p : Server (Option FlightOutcome)) : Prop :=
  p.Meets (exchangeView o.Owes) (flightContract o) h fun h' outcome => Settled o n h₀ h' outcome

theorem Flies.pure {outcome : Option FlightOutcome} (hsettled : Settled o n h₀ h outcome) :
    Flies o n h₀ h (pure outcome) :=
  meets_pure_iff.mpr hsettled

theorem Flies.ask {op : ServerOp} {next : op.Reply → Server (Option FlightOutcome)}
    (howes : o.Owes op h) (hnext : ∀ reply, Flies o n h₀ (⟨op, reply⟩ :: h) (next reply)) :
    Flies o n h₀ h (Server.ask op >>= next) :=
  meets_request_iff.mpr ⟨howes, hnext⟩

variable {pending session expected : GatewaySession} {reason : RejectedReason} {config : Config}
  {flight : Nat}

theorem Flies.call (hquiet : Quiet n h₀ h) (hknown : o.Known h pending) :
    Flies o n h₀ h (Server.call (.recoverPendingIdentity pending)) := by
  refine meets_call_iff.mpr ⟨hknown, ?_⟩
  intro outcome h' hsettled
  exact Flies.pure (hsettled.after hquiet)

theorem Flies.unsettled {outcome : Option FlightOutcome} (hquiet : Quiet n h₀ h)
    (hout : isUnsettled outcome = true) : Flies o n h₀ h (Pure.pure outcome) :=
  Flies.pure (.of_unsettled hquiet hout)

theorem Flies.ready (hquiet : Quiet n h₀ h) (hknown : o.Known h session)
    (hstate : session.identityState ≠ .pending) :
    Flies o n h₀ h (Pure.pure (some (.ready session.refreshGeneration))) := by
  apply Flies.pure
  apply Settled.of_ready hquiet hknown
  cases hsession : session.identityState with
  | ready => rfl
  | pending => exact absurd hsession hstate

theorem Flies.inactive {x : Exchange serverInterface} (hquiet : Quiet n h₀ h)
    (hinactive : ShowsInactive x) (hrefresh : isRefresh x = false) :
    Flies o n h₀ (x :: h) (Pure.pure (some (.rejected reason))) := by
  apply Flies.pure
  refine .of_inactive (hquiet.suffix.trans (List.suffix_cons x h)) ?_ hinactive List.mem_cons_self
  rw [List.countP_cons_of_neg (by simp [hrefresh])]
  exact hquiet.refreshes

theorem flies_useCurrentSessionWithoutRefresh {current : GatewaySession} (hquiet : Quiet n h₀ h)
    (hknown : o.Known h current) : Flies o n h₀ h (useCurrentSessionWithoutRefresh current) := by
  unfold useCurrentSessionWithoutRefresh
  split
  · exact Flies.call hquiet hknown
  · rename_i hstate
    exact Flies.ready hquiet hknown hstate

theorem flies_useCurrentSession {current : GatewaySession} (hquiet : Quiet n h₀ h)
    (hknown : o.Known h current) : Flies o n h₀ h (useCurrentSession current config) := by
  unfold useCurrentSession
  split
  · refine Flies.ask trivial ?_
    intro now
    have hlater : Quiet n h₀ (⟨.now, now⟩ :: h) := hquiet.cons rfl id
    split
    · exact Flies.unsettled hlater rfl
    · exact Flies.unsettled hlater rfl
    · exact Flies.call hlater hknown.cons
  · rename_i hstate
    exact Flies.ready hquiet hknown hstate

theorem flies_revokeAfterCheck (hquiet : Quiet n h₀ h) (hknown : o.Known h expected)
    (hrefused : Origin.Refused h expected) : Flies o n h₀ h (revokeAfterCheck expected reason) := by
  refine Flies.ask ⟨hknown, hrefused⟩ ?_
  rintro ((_ | _) | error | _)
  · -- the row has moved on, or is gone
    have hafter : Quiet n h₀ (⟨.store (.conditionalRevoke expected), .ok false⟩ :: h) :=
      hquiet.cons rfl nofun
    refine Flies.ask (Or.inr ⟨expected, hknown.cons, rfl⟩) ?_
    rintro ((current | _) | error | _)
    · have hlookup := hafter.cons (x := ⟨.store (.lookupSession expected.id),
        .ok (.active current)⟩) rfl id
      dsimp only
      split
      · exact flies_useCurrentSessionWithoutRefresh hlookup (.head List.mem_cons_self)
      · exact Flies.unsettled hlookup rfl
    · exact Flies.inactive hafter rfl rfl
    · exact Flies.unsettled (hafter.cons rfl id) rfl
    · exact Flies.unsettled (hafter.cons rfl id) rfl
  · exact Flies.inactive hquiet rfl rfl
  · exact Flies.unsettled (hquiet.cons rfl nofun) rfl
  · exact Flies.unsettled (hquiet.cons rfl nofun) rfl

theorem Origin.Refused.cons {x : Exchange serverInterface} (hrefused : Origin.Refused h expected) :
    Origin.Refused (x :: h) expected := by
  rcases hrefused with ⟨reason, hreason⟩ | ⟨token, jwks, haudience, htoken⟩
  · exact Or.inl ⟨reason, List.mem_cons_of_mem _ hreason⟩
  · refine Or.inr ⟨token, jwks, List.mem_cons_of_mem _ haudience, ?_⟩
    rcases htoken with hsame | ⟨refreshed, hrefreshed, hanswer⟩
    · exact Or.inl hsame
    · exact Or.inr ⟨refreshed, hrefreshed, List.mem_cons_of_mem _ hanswer⟩

theorem flies_revokeExpectedGeneration (hquiet : Quiet n h₀ h) (hknown : o.Known h expected)
    (hrefused : Origin.Refused h expected) :
    Flies o n h₀ h (revokeExpectedGeneration expected reason) := by
  refine Flies.ask (Or.inr ⟨expected, hknown, rfl⟩) ?_
  rintro ((current | _) | error | _)
  · have hlookup : Quiet n h₀ (⟨.store (.lookupSession expected.id), .ok (.active current)⟩ :: h) :=
      hquiet.cons rfl id
    dsimp only
    split
    · exact flies_useCurrentSessionWithoutRefresh hlookup (.head List.mem_cons_self)
    · exact flies_revokeAfterCheck hlookup hknown.cons hrefused.cons
  · exact Flies.inactive hquiet rfl rfl
  · exact Flies.unsettled (hquiet.cons rfl id) rfl
  · exact Flies.unsettled (hquiet.cons rfl id) rfl

theorem flies_finalizeVerified (hquiet : Quiet n h₀ h) (hknown : o.Known h pending) :
    Flies o n h₀ h (finalizeVerified pending) := by
  refine Flies.ask hknown ?_
  rintro ((ready | current | _) | error | _)
  · have hafter : Quiet n h₀ (⟨.store (.finalizePending pending none), .ok (.updated ready)⟩ :: h) :=
      hquiet.cons rfl id
    dsimp only
    split
    · rename_i hstate
      exact Flies.ready hafter (.head List.mem_cons_self) (by rw [hstate]; decide)
    · exact Flies.unsettled hafter rfl
  · have hafter : Quiet n h₀ (⟨.store (.finalizePending pending none), .ok (.current current)⟩ :: h) :=
      hquiet.cons rfl id
    dsimp only
    split
    · rename_i hstate
      exact Flies.ready hafter (.head List.mem_cons_self) (by rw [hstate.1]; decide)
    · exact Flies.unsettled hafter rfl
  · exact Flies.inactive hquiet rfl rfl
  · exact Flies.unsettled (hquiet.cons rfl id) rfl
  · exact Flies.unsettled (hquiet.cons rfl id) rfl

theorem Flies.error {op : AuthOp} {answer : op.Answer} {error : RefreshError}
    (hquiet : Quiet n h₀ (⟨.auth op, answer⟩ :: h))
    (hclient : op.FromClient answer → error.isRejected = false) :
    Flies o n h₀ (⟨.auth op, answer⟩ :: h) (Pure.pure (some (refreshErrorOutcome error))) := by
  apply Flies.pure
  apply Settled.of_error hquiet
  intro hall
  exact hclient (hall _ List.mem_cons_self)

theorem flies_recoverPendingIdentity (hquiet : Quiet n h₀ h) (hknown : o.Known h pending) :
    Flies o n h₀ h (recoverPendingIdentity pending) := by
  refine Flies.ask trivial ?_
  rintro (error | jwks)
  · exact Flies.error (hquiet.cons rfl id) And.left
  · have hprepared : Quiet n h₀ (⟨.auth .prepareRefreshVerifier, .ok jwks⟩ :: h) :=
      hquiet.cons rfl id
    refine Flies.ask trivial ?_
    rintro ((reason | _ | errorClass | errorClass) | verified)
    · exact Flies.error (hprepared.cons rfl id) id
    · exact flies_revokeExpectedGeneration (hprepared.cons rfl id) hknown.cons.cons
        (Or.inr ⟨_, _, List.mem_cons_self, Or.inl rfl⟩)
    · exact Flies.error (hprepared.cons rfl id) id
    · exact Flies.error (hprepared.cons rfl id) id
    · dsimp only
      split
      · exact Flies.unsettled (hprepared.cons rfl id) rfl
      · exact flies_finalizeVerified (hprepared.cons rfl id) hknown.cons.cons

theorem flightContract_kept : (flightContract o).Kept (exchangeView o.Owes) ServerProc.body := by
  rintro ⟨pending⟩ h hknown
  exact flies_recoverPendingIdentity Quiet.refl hknown

theorem flies_persistRefreshed {next : PendingTokens} (hquiet : Quiet n h₀ h)
    (hknown : o.Known h session) (hobtained : Origin.Obtained h session next) :
    Flies o n h₀ h (persistRefreshed session next config) := by
  refine Flies.ask ⟨hknown, hobtained⟩ ?_
  rintro ((pending | current | _) | error | _)
  · exact Flies.call (hquiet.cons rfl id) (.head List.mem_cons_self)
  · have hafter : Quiet n h₀ (⟨.store (.persistPending session next), .ok (.current current)⟩ :: h) :=
      hquiet.cons rfl id
    dsimp only
    split
    · exact flies_useCurrentSession hafter (.head List.mem_cons_self)
    · exact Flies.unsettled hafter rfl
  · exact Flies.inactive hquiet rfl rfl
  · exact Flies.unsettled (hquiet.cons rfl id) rfl
  · exact Flies.unsettled (hquiet.cons rfl id) rfl

theorem flies_acceptRefreshed {jwks : Jwks} {refreshed : TokenResponse} (hquiet : Quiet n h₀ h)
    (hknown : o.Known h session)
    (hanswer : ⟨.auth (.refresh session.authSessionId session.refreshToken), .ok refreshed⟩ ∈ h) :
    Flies o n h₀ h (acceptRefreshed session config flight jwks refreshed) := by
  unfold acceptRefreshed
  split
  · exact Flies.unsettled hquiet rfl
  · refine Flies.ask trivial ?_
    rintro ((reason | _ | errorClass | errorClass) | verified)
    · exact Flies.error (hquiet.cons rfl id) id
    · exact flies_revokeExpectedGeneration (hquiet.cons rfl id) hknown.cons
        (Or.inr ⟨_, _, List.mem_cons_self, Or.inr ⟨_, rfl, List.mem_cons_of_mem _ hanswer⟩⟩)
    · exact Flies.error (hquiet.cons rfl id) id
    · exact Flies.error (hquiet.cons rfl id) id
    · dsimp only
      have hverified : Quiet n h₀
          (⟨.auth (.verifyRefreshedAccess refreshed.accessToken jwks), .ok verified⟩ :: h) :=
        hquiet.cons rfl id
      split
      · exact Flies.unsettled hverified rfl
      · rename_i hidentity
        obtain ⟨hauth, huser⟩ := not_or.mp hidentity
        split
        · exact Flies.unsettled hverified rfl
        · rename_i accessExpiresAt htime
          refine Flies.ask trivial ?_
          rintro ⟨⟩
          apply flies_persistRefreshed (hverified.cons rfl id) hknown.cons.cons
          exact ⟨refreshed, verified, jwks, List.mem_cons_of_mem _ (List.mem_cons_of_mem _ hanswer),
            List.mem_cons_of_mem _ List.mem_cons_self, not_not.mp hauth, not_not.mp huser, rfl, rfl,
            rfl, rfl, htime⟩

theorem flies_refreshGatewaySession (hquiet : Quiet 0 h₀ h) (hknown : o.Known h session)
    (hmay : ∀ h, Quiet 0 h₀ h → o.mayRefresh h) :
    Flies o 1 h₀ h (refreshGatewaySession session config flight) := by
  refine Flies.ask trivial ?_
  rintro (error | jwks)
  · exact Flies.error ((hquiet.weaken (Nat.zero_le 1)).cons rfl id) And.left
  · have hprepared : Quiet 0 h₀ (⟨.auth .prepareRefreshVerifier, .ok jwks⟩ :: h) :=
      hquiet.cons rfl id
    refine Flies.ask (hmay _ hprepared) ?_
    rintro ((reason | _ | errorClass | errorClass) | refreshed)
    · exact flies_revokeExpectedGeneration hprepared.cons_refresh hknown.cons.cons
        (Or.inl ⟨reason, List.mem_cons_self⟩)
    · exact Flies.unsettled hprepared.cons_refresh rfl
    · exact Flies.unsettled hprepared.cons_refresh rfl
    · exact Flies.unsettled hprepared.cons_refresh rfl
    · exact flies_acceptRefreshed hprepared.cons_refresh hknown.cons.cons List.mem_cons_self

/-- **A flight.** Whatever it is answered, a flight owes each of its requests to what it knows, asks
for a refresh at most once, and has been shown what its outcome says. -/
theorem flies_executeFlight (hknown : o.Known h session)
    (hmay : ∀ h', Quiet 0 h h' → o.mayRefresh h') :
    Flies o 1 h h (executeFlight session config flight) := by
  refine Flies.ask trivial ?_
  intro now
  have hquiet : Quiet 0 h (⟨.now, now⟩ :: h) := Quiet.refl.cons rfl id
  split
  · exact Flies.unsettled (hquiet.weaken (Nat.zero_le 1)) rfl
  · exact flies_refreshGatewaySession hquiet hknown.cons hmay
  · split
    · exact Flies.call (hquiet.weaken (Nat.zero_le 1)) hknown.cons
    · rename_i hstate
      exact Flies.ready (hquiet.weaken (Nat.zero_le 1)) hknown.cons hstate

end Functions

end AuthMiniGateway

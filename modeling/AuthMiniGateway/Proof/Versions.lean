import AuthMiniGateway.Proof.Exchanges
import AuthMiniGateway.Proof.Lifetimes

namespace AuthMiniGateway

open Store

structure VersionKey where
  id : String
  generation : Int
  refreshToken : String
  identityState : IdentityState
  deriving DecidableEq, Repr

def GatewaySession.versionKey (session : GatewaySession) : VersionKey :=
  { id := session.id, generation := session.refreshGeneration, refreshToken := session.refreshToken,
    identityState := session.identityState }

/-- The snapshot whose whole version the call compares. -/
def StoreOp.contested : StoreOp → Option GatewaySession
  | persistPending original _ => some original
  | conditionalRevoke expected => some expected
  | _ => none

def StoreOp.finalizes : StoreOp → Option GatewaySession
  | finalizePending pending _ => some pending
  | _ => none

def StoreEvent.TookEffect (event : StoreEvent) (id : String) : Prop :=
  event.after.sessions id ≠ event.before.sessions id

structure TokenColumns where
  accessToken : String
  refreshToken : String
  amrJson : String
  accessExpiresAt : String
  deriving DecidableEq, Repr

def SessionRow.tokenColumns (row : SessionRow) : TokenColumns :=
  { accessToken := row.accessToken, refreshToken := row.refreshToken, amrJson := row.amrJson,
    accessExpiresAt := row.accessExpiresAt }

def NewSession.tokenColumns (json : AmrJson) (input : NewSession) : TokenColumns :=
  { accessToken := input.accessToken, refreshToken := input.refreshToken,
    amrJson := json.toString input.amr, accessExpiresAt := formatTime input.accessExpiresAt }

def PendingTokens.tokenColumns (json : AmrJson) (next : PendingTokens) : TokenColumns :=
  { accessToken := next.accessToken, refreshToken := next.refreshToken,
    amrJson := json.toString next.amr, accessExpiresAt := formatTime next.accessExpiresAt }

/-- A call of `persist_pending` is one that some flight makes after some exchanges. -/
def StoreOp.ByFlight (op : StoreOp) : Prop :=
  ∀ original next, op = .persistPending original next →
    ∃ session config flight trace,
      (executeFlight session config flight).Issues ServerProc.body trace (.store op)

def FlightStep (json : AmrJson) (s s' : StoreState) : Prop :=
  ∃ r op, s.Permits r op ∧ op.ByFlight ∧ s' = s.step json r op

abbrev FlightRun (json : AmrJson) : StoreState → StoreState → Prop :=
  Relation.ReflTransGen (FlightStep json)

/-- One call leaves the generation and the tokens of a row, or it replaces all tokens by those of one
`persist_pending` and the generation grows by one. -/
def Rotation (json : AmrJson) (op : StoreOp) (id : String) (row row' : SessionRow) : Prop :=
  row'.refreshGeneration = row.refreshGeneration ∧ row'.tokenColumns = row.tokenColumns ∨
    ∃ original next, op = .persistPending original next ∧ original.id = id ∧
      row'.refreshGeneration = row.refreshGeneration + 1 ∧
      row'.tokenColumns = next.tokenColumns json

def TokensFrom (json : AmrJson) (log : List StoreEvent) (id : String) (row : SessionRow) : Prop :=
  (∃ event ∈ log, ∃ input, event.op = .createSession input ∧ event.readings.token = id ∧
      row.tokenColumns = input.tokenColumns json) ∨
    ∃ event ∈ log, ∃ original next, event.op = .persistPending original next ∧ original.id = id ∧
      row.tokenColumns = next.tokenColumns json ∧ ∃ trace, Origin.Obtained trace original next

structure SessionRow.SameIdentity (row row' : SessionRow) : Prop where
  id : row'.id = row.id
  authSessionId : row'.authSessionId = row.authSessionId
  userId : row'.userId = row.userId

structure StoreState.Versioned (json : AmrJson) (s : StoreState) : Prop where
  one_winner : s.log.Pairwise fun late early => ∀ a b, late.op.contested = some a →
    early.op.contested = some b → a.versionKey = b.versionKey → late.TookEffect a.id →
    ¬early.TookEffect b.id
  one_finalize : s.log.Pairwise fun late early => ∀ a b, late.op.finalizes = some a →
    early.op.finalizes = some b → a.id = b.id → a.refreshGeneration = b.refreshGeneration →
    late.TookEffect a.id → ¬early.TookEffect b.id
  rotation : ∀ event ∈ s.log, ∀ id row row', event.before.sessions id = some row →
    event.after.sessions id = some row' → Rotation json event.op id row row'
  tokens : ∀ id row, s.db.sessions id = some row → TokensFrom json s.log id row

variable {json : AmrJson} {r : Readings} {op : StoreOp} {s s' t : StoreState} {id : String}
  {row row' : SessionRow}

theorem FlightRun.storeRun (hrun : FlightRun json s s') : StoreRun json s s' := by
  induction hrun with
  | refl => exact .refl
  | tail _ hstep ih =>
    obtain ⟨r, op, hpermits, -, rfl⟩ := hstep
    exact ih.tail ⟨r, op, hpermits, rfl⟩

theorem StoreOp.ByFlight.obtained {original : GatewaySession} {next : PendingTokens}
    (h : (StoreOp.persistPending original next).ByFlight) :
    ∃ trace, Origin.Obtained trace original next := by
  obtain ⟨session, config, flight, trace, hissues⟩ := h original next rfl
  let o : Origin :=
    { sessionId := session.id
      given := fun other => other = session
      mayRefresh := fun _ => True
      mayTouch := False }
  have hflies : Flies o 1 [] [] (executeFlight session config flight) :=
    flies_executeFlight (Or.inl rfl) fun _ _ => trivial
  have howes := hissues.guarantee flightContract_kept hflies
  exact ⟨_, howes.2⟩

/-! ### Rows -/

namespace RowUpdate

theorem rotation (h : RowUpdate json r id op row row') : Rotation json op id row row' := by
  cases h with
  | persisted hid => exact Or.inr ⟨_, _, rfl, hid, rfl, rfl⟩
  | _ => exact Or.inl ⟨rfl, rfl⟩

theorem generation_le (h : RowUpdate json r id op row row') :
    row.refreshGeneration ≤ row'.refreshGeneration := by
  rcases h.rotation with ⟨hsame, -⟩ | ⟨_, _, _, _, hnext, -⟩
  · exact hsame.ge
  · omega

theorem stays_spent {generation : Int} (h : RowUpdate json r id op row row')
    (hspent : row.revokedAt.isSome = true ∨ generation < row.refreshGeneration) :
    row'.revokedAt.isSome = true ∨ generation < row'.refreshGeneration := by
  rcases hspent with hrevoked | hlater
  · exact Or.inl (h.revokedAt_isSome hrevoked)
  · exact Or.inr (hlater.trans_le h.generation_le)

theorem stays_finalized {generation : Int} (h : RowUpdate json r id op row row')
    (hready : generation < row.refreshGeneration ∨
      row.refreshGeneration = generation ∧ row.identityState = some "ready") :
    generation < row'.refreshGeneration ∨
      row'.refreshGeneration = generation ∧ row'.identityState = some "ready" := by
  rcases hready with hlater | ⟨hsame, hstate⟩
  · exact Or.inl (hlater.trans_le h.generation_le)
  · cases h with
    | persisted =>
      left
      change generation < row.refreshGeneration + 1
      omega
    | finalized => exact Or.inr ⟨hsame, rfl⟩
    | _ => exact Or.inr ⟨hsame, hstate⟩

end RowUpdate

theorem SessionRow.live_revokedAt {text : String} (h : row.live text = true) :
    row.revokedAt.isSome = false := by
  unfold SessionRow.live at h
  cases hrevoked : row.revokedAt <;> simp_all

theorem SessionRow.atVersion_generation {expected : GatewaySession}
    (h : row.atVersion expected = true) : row.refreshGeneration = expected.refreshGeneration := by
  simp only [SessionRow.atVersion, Bool.and_eq_true, decide_eq_true_eq] at h
  exact h.1.1

theorem contested_effect {snapshot : GatewaySession} {before after : Option SessionRow}
    (hop : op.contested = some snapshot) (heffect : RowEffect json r snapshot.id op before after)
    (hchanged : after ≠ before) :
    ∃ row row', before = some row ∧ after = some row' ∧ row.revokedAt.isSome = false ∧
      row.refreshGeneration = snapshot.refreshGeneration ∧
      (row'.revokedAt.isSome = true ∨ snapshot.refreshGeneration < row'.refreshGeneration) := by
  cases heffect with
  | absent => exact absurd rfl hchanged
  | pruned => cases op <;> simp_all [StoreOp.contested, StoreOp.prunes]
  | created hcreate => subst hcreate; cases hop
  | updated hupdate =>
    cases hupdate with
    | unchanged => exact absurd rfl hchanged
    | revoked | finalized | touched => cases hop
    | conditionallyRevoked _ hversion hlive =>
      cases hop
      have hgeneration := SessionRow.atVersion_generation hversion
      exact ⟨_, _, rfl, rfl, SessionRow.live_revokedAt hlive, hgeneration, Or.inl rfl⟩
    | persisted _ hversion hlive =>
      cases hop
      have hgeneration := SessionRow.atVersion_generation hversion
      refine ⟨_, _, rfl, rfl, SessionRow.live_revokedAt hlive, hgeneration, Or.inr ?_⟩
      change _ < _ + 1
      omega

theorem finalizes_effect {snapshot : GatewaySession} {before after : Option SessionRow}
    (hop : op.finalizes = some snapshot) (heffect : RowEffect json r snapshot.id op before after)
    (hchanged : after ≠ before) :
    ∃ row row', before = some row ∧ after = some row' ∧
      row.refreshGeneration = snapshot.refreshGeneration ∧ row.identityState = some "pending" ∧
      row'.refreshGeneration = snapshot.refreshGeneration ∧ row'.identityState = some "ready" := by
  cases heffect with
  | absent => exact absurd rfl hchanged
  | pruned => cases op <;> simp_all [StoreOp.finalizes, StoreOp.prunes]
  | created hcreate => subst hcreate; cases hop
  | updated hupdate =>
    cases hupdate with
    | unchanged => exact absurd rfl hchanged
    | finalized _ hgeneration hstate =>
      cases hop
      exact ⟨_, _, rfl, rfl, hgeneration, hstate, hgeneration, rfl⟩
    | _ => cases hop

/-! ### Runs -/

structure StoreState.Fenced (json : AmrJson) (s : StoreState) : Prop where
  tracked : s.Tracked
  spent : ∀ event ∈ s.log, ∀ a, event.op.contested = some a → event.TookEffect a.id →
    s.Keeps a.id fun row =>
      row.revokedAt.isSome = true ∨ a.refreshGeneration < row.refreshGeneration
  finalized : ∀ event ∈ s.log, ∀ a, event.op.finalizes = some a → event.TookEffect a.id →
    s.Keeps a.id fun row => a.refreshGeneration < row.refreshGeneration ∨
      row.refreshGeneration = a.refreshGeneration ∧ row.identityState = some "ready"
  same_user : ∀ session ∈ s.seen, ∀ row, s.db.sessions session.id = some row →
    row.userId = session.userId
  versioned : s.Versioned json

namespace StoreState.Fenced

theorem initial (clock : Int) : (StoreState.initial clock).Fenced json where
  tracked := (initial_stored clock).deadlined.tracked
  spent _ hevent := by cases hevent
  finalized _ hevent := by cases hevent
  same_user _ hsession := by cases hsession
  versioned :=
    { one_winner := .nil
      one_finalize := .nil
      rotation := fun _ hevent => by cases hevent
      tokens := fun _ _ hrow => by cases hrow }

theorem userId_eq (h : s.Fenced json) (hpermits : s.Permits r op) (hflight : op.ByFlight)
    (hrow : s.db.sessions id = some row) (hupdate : RowUpdate json r id op row row') :
    row'.userId = row.userId := by
  cases hupdate with
  | @persisted row original next hid =>
    subst hid
    obtain ⟨trace, refreshed, verified, jwks, -, -, -, huser, -, -, hnext, -⟩ := hflight.obtained
    have hseen : original ∈ s.seen := hpermits.snapshots_seen original List.mem_cons_self
    calc next.userId = original.userId := hnext.trans huser
      _ = row.userId := (h.same_user original hseen row hrow).symm
  | _ => rfl

theorem same_user_step (h : s.Fenced json) (hpermits : s.Permits r op) (hflight : op.ByFlight) :
    ∀ session ∈ (s.step json r op).seen, ∀ row', (s.step json r op).db.sessions session.id = some row' →
      row'.userId = session.userId := by
  intro session hsession row' hrow'
  rcases mem_seen_step hpermits hsession with hold | hread
  · obtain ⟨row, hrow, hupdate⟩ := Tracked.row_before hpermits.fresh
      (h.tracked.seen_issued session hold) hrow'
    rw [h.userId_eq hpermits hflight hrow hupdate]
    exact h.same_user session hold row hrow
  · obtain ⟨row, hrow, hreads⟩ := (h.tracked.step hpermits).row_of_readFrom hread
    rw [hrow] at hrow'
    cases hrow'
    exact hreads.userId.symm

theorem tokens_step (h : s.Fenced json) (hflight : op.ByFlight)
    (hrow' : (s.step json r op).db.sessions id = some row') :
    TokensFrom json (s.step json r op).log id row' := by
  have heffect := s.step_rowEffect json r op id
  rw [hrow'] at heffect
  generalize hbefore : s.db.sessions id = before at heffect
  cases heffect with
  | created hop hid => exact Or.inl ⟨_, List.mem_cons_self, _, hop, hid.symm, rfl⟩
  | @updated row _ hupdate =>
    rcases hupdate.rotation with ⟨-, hsame⟩ | ⟨original, next, hop, hid, -, hnext⟩
    · rcases h.versioned.tokens id row hbefore with
        ⟨event, hevent, input, hinput⟩ | ⟨event, hevent, original, next, hpersist⟩
      · exact Or.inl ⟨event, List.mem_cons_of_mem _ hevent, input, by rwa [hsame]⟩
      · exact Or.inr ⟨event, List.mem_cons_of_mem _ hevent, original, next, by rwa [hsame]⟩
    · subst hop
      exact Or.inr ⟨_, List.mem_cons_self, original, next, rfl, hid, hnext, hflight.obtained⟩

theorem versioned_step (h : s.Fenced json) (hpermits : s.Permits r op) (hflight : op.ByFlight) :
    (s.step json r op).Versioned json where
  one_winner := by
    refine List.pairwise_cons.mpr ⟨?_, h.versioned.one_winner⟩
    intro early hearly a b hlate hcontested hkey hchanged hwon
    obtain ⟨row, -, hrow, -, hunrevoked, hgeneration, -⟩ :=
      contested_effect hlate (s.step_rowEffect json r op a.id) hchanged
    have hid : a.id = b.id := congrArg VersionKey.id hkey
    have hsame : a.refreshGeneration = b.refreshGeneration := congrArg VersionKey.generation hkey
    rw [hid] at hrow
    -- the earlier call has spent the version that this one compares
    rcases (h.spent early hearly b hcontested hwon).2 row hrow with hrevoked | hlater
    · rw [hunrevoked] at hrevoked
      cases hrevoked
    · omega
  one_finalize := by
    refine List.pairwise_cons.mpr ⟨?_, h.versioned.one_finalize⟩
    intro early hearly a b hlate hfinalizes hid hsame hchanged hwon
    obtain ⟨row, -, hrow, -, hgeneration, hpending, -, -⟩ :=
      finalizes_effect hlate (s.step_rowEffect json r op a.id) hchanged
    rw [hid] at hrow
    rcases (h.finalized early hearly b hfinalizes hwon).2 row hrow with hlater | ⟨-, hready⟩
    · omega
    · rw [hpending] at hready
      exact absurd hready (by decide)
  rotation := by
    intro event hevent id row row' hbefore hafter
    rcases List.mem_cons.mp hevent with rfl | hold
    · obtain ⟨old, hold, hupdate⟩ := Tracked.row_before hpermits.fresh
        (h.tracked.row_issued id row hbefore) hafter
      have heq : old = row := Option.some.inj (hold.symm.trans hbefore)
      subst heq
      exact hupdate.rotation
    · exact h.versioned.rotation event hold id row row' hbefore hafter
  tokens _ _ hrow' := h.tokens_step hflight hrow'

theorem step (h : s.Fenced json) (hpermits : s.Permits r op) (hflight : op.ByFlight) :
    (s.step json r op).Fenced json where
  tracked := h.tracked.step hpermits
  spent := by
    intro event hevent a hcontested hchanged
    rcases List.mem_cons.mp hevent with rfl | hold
    · obtain ⟨row, row', hrow, hrow', -, -, hspent⟩ :=
        contested_effect hcontested (s.step_rowEffect json r op a.id) hchanged
      refine ⟨issued_subset_step (h.tracked.row_issued a.id row hrow), ?_⟩
      intro stored hstored
      cases hrow'.symm.trans hstored
      exact hspent
    · exact (h.spent event hold a hcontested hchanged).step hpermits.fresh
        fun _ _ hupdate => hupdate.stays_spent
  finalized := by
    intro event hevent a hfinalizes hchanged
    rcases List.mem_cons.mp hevent with rfl | hold
    · obtain ⟨row, row', hrow, hrow', -, -, hgeneration, hready⟩ :=
        finalizes_effect hfinalizes (s.step_rowEffect json r op a.id) hchanged
      refine ⟨issued_subset_step (h.tracked.row_issued a.id row hrow), ?_⟩
      intro stored hstored
      cases hrow'.symm.trans hstored
      exact Or.inr ⟨hgeneration, hready⟩
    · exact (h.finalized event hold a hfinalizes hchanged).step hpermits.fresh
        fun _ _ hupdate => hupdate.stays_finalized
  same_user := h.same_user_step hpermits hflight
  versioned := h.versioned_step hpermits hflight

theorem run (h : s.Fenced json) (hrun : FlightRun json s s') : s'.Fenced json := by
  induction hrun with
  | refl => exact h
  | tail _ hstep ih =>
    obtain ⟨r, op, hpermits, hflight, rfl⟩ := hstep
    exact ih.step hpermits hflight

end StoreState.Fenced

theorem FlightRun.same_identity (hfenced : t.Fenced json) (hrun : FlightRun json t s)
    (hrow : t.db.sessions id = some row) (hrow' : s.db.sessions id = some row') :
    row.SameIdentity row' ∧ row.refreshGeneration ≤ row'.refreshGeneration := by
  induction hrun generalizing row' with
  | refl =>
    cases hrow.symm.trans hrow'
    exact ⟨⟨rfl, rfl, rfl⟩, le_rfl⟩
  | tail hrun hstep ih =>
    obtain ⟨r, op, hpermits, hflight, rfl⟩ := hstep
    have hissued := StoreRun.issued_subset (FlightRun.storeRun hrun)
      (hfenced.tracked.row_issued id row hrow)
    obtain ⟨middle, hmiddle, hupdate⟩ := StoreState.Tracked.row_before hpermits.fresh hissued hrow'
    obtain ⟨hsame, hle⟩ := ih hmiddle
    refine ⟨⟨hupdate.id_eq.trans hsame.id, hupdate.authSessionId_eq.trans hsame.authSessionId, ?_⟩,
      hle.trans hupdate.generation_le⟩
    exact ((hfenced.run hrun).userId_eq hpermits hflight hmiddle hupdate).trans hsame.userId

/-- **Versioned updates.** In every run of store calls whose `persist_pending` calls are made by
flights, with snapshots of any age: a version is used up by the first call that takes effect on it, a
generation is finalized once, the generation grows with the tokens and only with them, the tokens of a
row belong together, and the row keeps its identity. -/
theorem versioned_updates (json : AmrJson) (clock : Int) (s : StoreState)
    (hrun : FlightRun json (StoreState.initial clock) s) :
    s.Versioned json ∧
      ∀ earlier, FlightRun json (StoreState.initial clock) earlier → FlightRun json earlier s →
        ∀ id row row', earlier.db.sessions id = some row → s.db.sessions id = some row' →
          row.SameIdentity row' ∧ row.refreshGeneration ≤ row'.refreshGeneration := by
  constructor
  · exact ((StoreState.Fenced.initial clock).run hrun).versioned
  · intro earlier hearlier hlater id row row' hrow hrow'
    exact FlightRun.same_identity ((StoreState.Fenced.initial clock).run hearlier) hlater hrow hrow'

/-- A flight whose session is due for a refresh, and that is answered with verified tokens, persists
them. -/
theorem issues_persistPending {session : GatewaySession} {config : Config} (flight : Nat)
    {accessExpiresAt : Int} (now : Int) (refreshed : TokenResponse) (verified : VerifiedAccessToken)
    (hdue : sessionNeedsRefresh session config now = some true)
    (hsession : refreshed.sessionId = session.authSessionId)
    (hauth : verified.authSessionId = session.authSessionId) (huser : verified.userId = session.userId)
    (htime : unixToTime verified.exp = some accessExpiresAt) :
    ∃ trace, (executeFlight session config flight).Issues ServerProc.body trace
      (.store (.persistPending session
        { accessToken := refreshed.accessToken
          refreshToken := refreshed.refreshToken
          userId := verified.userId
          amr := verified.amr
          accessExpiresAt })) := by
  let keys : Except RefreshError Jwks := .ok ⟨[]⟩
  let answer : Except RefreshError TokenResponse := .ok refreshed
  let verification : Except RefreshError VerifiedAccessToken := .ok verified
  apply Exists.intro
  apply Program.Issues.later now
  dsimp only [Program.bind]
  rw [hdue]
  apply Program.Issues.later keys
  apply Program.Issues.later answer
  change Program.Issues _ (acceptRefreshed session config flight _ refreshed) _ _
  unfold acceptRefreshed
  rw [if_neg (not_not.mpr hsession)]
  apply Program.Issues.later verification
  dsimp only [verification, Program.bind]
  rw [if_neg (by simp [hauth, huser]), htime]
  exact .later () .here

theorem byFlight_samplePersist :
    (StoreOp.persistPending (sampleSession 10) sampleTokens).ByFlight := by
  intro original next _
  let refreshed : TokenResponse :=
    { sessionId := "auth-session", accessToken := "access-1", refreshToken := "refresh-1" }
  let verified : VerifiedAccessToken :=
    { userId := "user", authSessionId := "auth-session", amr := ["otp"], exp := 1800 }
  exact ⟨sampleSession 10, sampleConfig, 0, issues_persistPending 0 (900 * nanosPerSecond)
    refreshed verified (by decide) rfl rfl rfl (by decide)⟩

def sampleContended : StoreState :=
  (samplePending 10).step .quoted (sampleReadings 16)
    (.persistPending (sampleSession 10) sampleTokens)

theorem flightRun_sampleContended :
    FlightRun .quoted (StoreState.initial (10 * nanosPerSecond)) sampleContended := by
  have hcreated : FlightRun .quoted (StoreState.initial (10 * nanosPerSecond)) (sampleStored 10) :=
    .single ⟨_, _, ⟨le_rfl, le_rfl, fun _ => List.not_mem_nil, by simp [StoreOp.snapshots]⟩,
      (fun _ _ hop => by cases hop), rfl⟩
  have hfirst : FlightRun .quoted (StoreState.initial (10 * nanosPerSecond)) (samplePending 10) :=
    hcreated.tail ⟨_, _, ⟨by decide, le_rfl, by simp [StoreOp.creates], by decide⟩,
      byFlight_samplePersist, rfl⟩
  exact hfirst.tail ⟨_, _, ⟨by decide, le_rfl, by simp [StoreOp.creates], by decide⟩,
    byFlight_samplePersist, rfl⟩

theorem versioned_updates_contended :
    sampleContended.Versioned .quoted ∧
      sampleContended.log.map (fun event => decide (event.after.sessions "session" ≠
        event.before.sessions "session")) = [false, true, true] := by
  refine ⟨(versioned_updates .quoted (10 * nanosPerSecond) sampleContended
    flightRun_sampleContended).1, by decide⟩

end AuthMiniGateway

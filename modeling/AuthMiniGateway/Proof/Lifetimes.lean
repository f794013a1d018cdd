import AuthMiniGateway.Config
import AuthMiniGateway.Proof.RollbackGate

namespace AuthMiniGateway

open Store

variable {json : AmrJson} {config : Config} {access now : Int}

def SessionRow.Readable (json : AmrJson) (row : SessionRow) : Prop :=
  ∃ session, rowToSession json row = .ok session

def Db.Readable (json : AmrJson) (db : Db) : Prop :=
  ∀ id row, db.sessions id = some row → row.Readable json

def Db.LoginsReadable (db : Db) : Prop :=
  ∀ id row, db.loginStates id = some row → ∃ instant, parseTime row.expiresAt = some instant

def writtenTimes (config : Config) (access now : Int) : List Int :=
  [now, access] ++ (addSeconds now config.loginStateTtlSeconds).toList
    ++ (addSeconds now config.sessionTtlSeconds).toList
    ++ (addSeconds now config.sessionAbsoluteTtlSeconds).toList

structure Usable (json : AmrJson) (config : Config) (access now : Int) : Prop where
  createLoginState : ∀ pruneNow id db returnTo, db.LoginsReadable →
    (createLoginState pruneNow now id db returnTo config.loginStateTtlSeconds).1 ≠ .panic ∧
      (createLoginState pruneNow now id db returnTo config.loginStateTtlSeconds).2.LoginsReadable
  createSession : ∀ pruneNow id db input, input.idleTtlSeconds = config.sessionTtlSeconds →
    input.absoluteTtlSeconds = config.sessionAbsoluteTtlSeconds → input.accessExpiresAt = access →
    db.Readable json →
    (createSession json pruneNow now id db input).1 ≠ .panic ∧
      (createSession json pruneNow now id db input).2.Readable json
  persistPending : ∀ db original next, next.accessExpiresAt = access → db.Readable json →
    (persistPending json now db original next).2.Readable json
  touchReady : ∀ db original, db.Readable json →
    (∀ row, db.sessions original.id = some row →
      row.absoluteExpiresAt.bind parseTime = some original.absoluteExpiresAt) →
    (touchReady json now db original config.sessionTtlSeconds
      config.sessionTouchIntervalSeconds).1 ≠ .panic ∧
      (touchReady json now db original config.sessionTtlSeconds
        config.sessionTouchIntervalSeconds).2.Readable json
  sessionNeedsRefresh : ∀ session, sessionNeedsRefresh session config now ≠ none
  order : ∀ a ∈ writtenTimes config access now, ∀ b ∈ writtenTimes config access now,
    (formatTime a < formatTime b ↔ truncMillis a < truncMillis b)

/-- The login state and the absolute deadline end by the year 9999, so does the token, and the
refresh skew keeps the clock in chrono's ranges. -/
structure WithinReach (config : Config) (access now : Int) : Prop where
  login : InTextRange (now + config.loginStateTtlSeconds * nanosPerSecond)
  absolute : InTextRange (now + config.sessionAbsoluteTtlSeconds * nanosPerSecond)
  token : InTextRange access
  skew_lower : -maxDurationSeconds ≤ config.refreshSkewSeconds
  skew_upper : config.refreshSkewSeconds ≤ maxDurationSeconds
  skew : InChrono (now + config.refreshSkewSeconds * nanosPerSecond)

/-! ### Arithmetic -/

theorem Config.validate_lifetimes (h : config.validate = .ok ()) :
    0 < config.sessionTouchIntervalSeconds ∧
      config.sessionTouchIntervalSeconds ≤ config.sessionTtlSeconds ∧
      config.sessionTtlSeconds ≤ config.sessionAbsoluteTtlSeconds := by
  obtain ⟨checked, hlifetimes, -⟩ := Fallible.bind_eq_ok_iff.mp h
  unfold validateSessionLifetimes at hlifetimes
  split_ifs at hlifetimes with hpositive horder
  omega

variable {value : Int} {row : SessionRow} {db : Db}

theorem addSeconds_eq_some_iff {seconds result : Int} :
    addSeconds value seconds = some result ↔
      (-maxDurationSeconds ≤ seconds ∧ seconds ≤ maxDurationSeconds) ∧
        InChrono (value + seconds * nanosPerSecond) ∧ result = value + seconds * nanosPerSecond := by
  unfold addSeconds durationSeconds
  by_cases hduration : -maxDurationSeconds ≤ seconds ∧ seconds ≤ maxDurationSeconds
  · by_cases hrange : InChrono (value + seconds * nanosPerSecond)
    · simp [hduration, hrange, eq_comm]
    · simp [hduration, hrange]
  · simp [hduration]

theorem InTextRange.inChrono (h : InTextRange value) : InChrono value := by
  obtain ⟨hlow, hhigh⟩ := inTextRange_iff.mp h
  have hfirst : minUtc ≤ firstText := by decide
  have hlast : endText ≤ maxUtc := by decide
  exact ⟨hfirst.trans hlow, hhigh.le.trans hlast⟩

theorem addSeconds_of_inTextRange {seconds : Int} (hvalue : InTextRange value)
    (hsum : InTextRange (value + seconds * nanosPerSecond)) :
    addSeconds value seconds = some (value + seconds * nanosPerSecond) := by
  refine addSeconds_eq_some_iff.mpr ⟨?_, hsum.inChrono, rfl⟩
  obtain ⟨hlow, hhigh⟩ := inTextRange_iff.mp hvalue
  obtain ⟨hlow', hhigh'⟩ := inTextRange_iff.mp hsum
  have hfirst : firstText = -719528 * 86400000000000 := by decide
  have hend : endText = 2932897 * 86400000000000 := by decide
  rw [hfirst] at hlow hlow'
  rw [hend] at hhigh hhigh'
  unfold nanosPerSecond at hlow' hhigh'
  unfold maxDurationSeconds
  omega

section Times

variable (hnow : InTextRange now) (hreach : WithinReach config access now)

include hnow hreach

theorem WithinReach.addSeconds_login : addSeconds now config.loginStateTtlSeconds =
    some (now + config.loginStateTtlSeconds * nanosPerSecond) :=
  addSeconds_of_inTextRange hnow hreach.login

theorem WithinReach.addSeconds_absolute : addSeconds now config.sessionAbsoluteTtlSeconds =
    some (now + config.sessionAbsoluteTtlSeconds * nanosPerSecond) :=
  addSeconds_of_inTextRange hnow hreach.absolute

variable (hvalid : config.validate = .ok ())

include hvalid

theorem WithinReach.idle : InTextRange (now + config.sessionTtlSeconds * nanosPerSecond) := by
  obtain ⟨htouch, hidle, habsolute⟩ := config.validate_lifetimes hvalid
  refine inTextRange_of_between hnow hreach.absolute ?_ ?_ <;> unfold nanosPerSecond <;> omega

theorem WithinReach.minIdle : InTextRange (min (now + config.sessionTtlSeconds * nanosPerSecond)
    (now + config.sessionAbsoluteTtlSeconds * nanosPerSecond)) := by
  rcases min_choice (now + config.sessionTtlSeconds * nanosPerSecond)
    (now + config.sessionAbsoluteTtlSeconds * nanosPerSecond) with hmin | hmin
  · rw [hmin]
    exact hreach.idle hnow hvalid
  · rw [hmin]
    exact hreach.absolute

theorem WithinReach.addSeconds_idle : addSeconds now config.sessionTtlSeconds =
    some (now + config.sessionTtlSeconds * nanosPerSecond) :=
  addSeconds_of_inTextRange hnow (hreach.idle hnow hvalid)

theorem WithinReach.writtenTimes_range :
    ∀ instant ∈ writtenTimes config access now, InTextRange instant := by
  simp only [writtenTimes, hreach.addSeconds_login hnow, hreach.addSeconds_absolute hnow,
    hreach.addSeconds_idle hnow hvalid, Option.toList_some, List.cons_append, List.nil_append,
    List.forall_mem_cons, List.not_mem_nil, false_implies, implies_true, and_true]
  exact ⟨hnow, hreach.token, hreach.login, hreach.idle hnow hvalid, hreach.absolute⟩

theorem WithinReach.touchInterval :
    ∃ interval, durationSeconds config.sessionTouchIntervalSeconds = some interval := by
  obtain ⟨htouch, hidle, habsolute⟩ := config.validate_lifetimes hvalid
  obtain ⟨hbounds, -, -⟩ := addSeconds_eq_some_iff.mp (hreach.addSeconds_absolute hnow)
  refine ⟨_, if_pos ⟨?_, by omega⟩⟩
  have hmax : 0 ≤ maxDurationSeconds := by decide
  omega

end Times

/-! ### Rows -/

theorem SessionRow.Consistent.readable {idle absolute : Int}
    (h : row.Consistent json idle absolute) : row.Readable json := by
  obtain ⟨session, hreads⟩ := h.exists_reads
  exact ⟨session, rowToSession_eq_ok_iff.mpr hreads⟩

theorem Db.Readable.prune (h : db.Readable json) (pruneNow : Int) :
    (Store.prune pruneNow db).Readable json := by
  intro id row hrow
  exact h id row (Option.filter_eq_some_iff.mp hrow).1

theorem Db.LoginsReadable.prune (h : db.LoginsReadable) (pruneNow : Int) :
    (Store.prune pruneNow db).LoginsReadable := by
  intro id row hrow
  exact h id row (Option.filter_eq_some_iff.mp hrow).1

theorem Db.Readable.updateSession (h : db.Readable json) {id : String} {guard : SessionRow → Bool}
    {set : SessionRow → SessionRow}
    (hset : ∀ row, db.sessions id = some row → guard row = true → row.Readable json →
      (set row).Readable json) : (db.updateSession id guard set).2.Readable json := by
  intro id' row' hrow'
  rcases updateSession_sessions with hsame | ⟨hid, row, hrow, hguard, hset'⟩
  · exact h id' row' (hsame ▸ hrow')
  · subst hid
    rw [hset'] at hrow'
    cases hrow'
    exact hset row hrow hguard (h _ row hrow)

theorem SessionRow.Readable.pendingRow {next : PendingTokens} (h : row.Readable json)
    (hnow : InTextRange now) (haccess : InTextRange next.accessExpiresAt) :
    (pendingRow json now next row).Readable json := by
  obtain ⟨session, hread⟩ := h
  have hreads := rowToSession_eq_ok_iff.mp hread
  obtain ⟨hle, hgeneration, -⟩ := validateSessionInvariants_eq_ok_iff.mp hreads.valid
  refine ⟨{ session with
      accessToken := next.accessToken, refreshToken := next.refreshToken,
      userId := next.userId, amr := next.amr, accessExpiresAt := truncMillis next.accessExpiresAt,
      sessionExpiresAt := 0, identityState := .pending,
      identityPendingSince := some (truncMillis now),
      refreshGeneration := session.refreshGeneration + 1 }, rowToSession_eq_ok_iff.mpr ?_⟩
  refine { hreads with
    accessToken := rfl, refreshToken := rfl, userId := rfl,
    amr := json.fromStr_toString next.amr, accessExpiresAt := parseTime_formatTime haccess,
    sessionExpiresAt := SessionRow.Consistent.parseTime_compatDenyAt, identityState := rfl,
    identityPendingSince := congrArg some (parseTime_formatTime hnow),
    refreshGeneration := congrArg (· + 1) hreads.refreshGeneration,
    valid := validateSessionInvariants_eq_ok_iff.mpr ⟨hle, ?_, rfl, formatTime_zero⟩ }
  exact Int.add_nonneg hgeneration (by decide)

theorem SessionRow.Readable.touchedRow {candidate absolute : Int} (h : row.Readable json)
    (hnow : InTextRange now) (hcandidate : InTextRange candidate)
    (hready : row.identityState = some "ready")
    (habsolute : row.absoluteExpiresAt.bind parseTime = some absolute)
    (hle : candidate ≤ absolute) : (touchedRow now candidate row).Readable json := by
  obtain ⟨session, hread⟩ := h
  have hreads := rowToSession_eq_ok_iff.mp hread
  have hstate : session.identityState = .ready := by
    have heq := hreads.identityState.symm.trans hready
    cases hsession : session.identityState with
    | ready => rfl
    | pending =>
      rw [hsession] at heq
      exact absurd (Option.some.inj heq) (by decide)
  obtain ⟨-, hgeneration, hgate⟩ := validateSessionInvariants_eq_ok_iff.mp hreads.valid
  rw [hstate] at hgate
  have hsession : session.absoluteExpiresAt = absolute :=
    Option.some.inj (hreads.absoluteExpiresAt.symm.trans habsolute)
  have hread' : ∀ {instant : Int}, InTextRange instant →
      (some (formatTime instant)).bind parseTime = some (truncMillis instant) := by
    intro instant hrange
    rw [Option.bind_some]
    exact parseTime_formatTime hrange
  refine ⟨{ session with
      idleExpiresAt := truncMillis candidate,
      sessionExpiresAt := truncMillis candidate,
      lastTouchedAt := truncMillis now }, rowToSession_eq_ok_iff.mpr ?_⟩
  refine { hreads with
    sessionExpiresAt := parseTime_formatTime hcandidate,
    idleExpiresAt := hread' hcandidate, lastTouchedAt := hread' hnow,
    valid := validateSessionInvariants_eq_ok_iff.mpr ⟨?_, hgeneration, ?_⟩ }
  · exact (truncMillis_le candidate).trans (hle.trans hsession.ge)
  · simp only [hstate]
    exact ⟨hgate.1, trivial⟩

/-! ### Enough -/

theorem WithinReach.sessionNeedsRefresh (hreach : WithinReach config access now)
    (session : GatewaySession) :
    sessionNeedsRefresh session config now ≠ none := by
  have hskew := addSeconds_eq_some_iff.mpr
    ⟨⟨hreach.skew_lower, hreach.skew_upper⟩, hreach.skew, rfl⟩
  simp [AuthMiniGateway.sessionNeedsRefresh, hskew]

section Enough

variable (hnow : InTextRange now) (hreach : WithinReach config access now)

include hnow hreach

theorem WithinReach.createLoginState (pruneNow : Int) (id : String) (db : Db) (returnTo : String)
    (hdb : db.LoginsReadable) :
    (createLoginState pruneNow now id db returnTo config.loginStateTtlSeconds).1 ≠ .panic ∧
      (createLoginState pruneNow now id db returnTo config.loginStateTtlSeconds).2.LoginsReadable := by
  unfold Store.createLoginState
  rw [hreach.addSeconds_login hnow]
  dsimp only
  split
  · exact ⟨by simp, hdb.prune pruneNow⟩
  · refine ⟨by simp, fun id' row hrow => ?_⟩
    dsimp only at hrow
    by_cases hid : id' = id
    · subst hid
      rw [Function.update_self] at hrow
      cases hrow
      exact ⟨_, parseTime_formatTime hreach.login⟩
    · rw [Function.update_of_ne hid] at hrow
      exact hdb.prune pruneNow id' row hrow

theorem WithinReach.persistPending (db : Db) (original : GatewaySession) (next : PendingTokens)
    (haccess : next.accessExpiresAt = access) (hdb : db.Readable json) :
    (persistPending json now db original next).2.Readable json :=
  hdb.updateSession fun _ _ _ hread => hread.pendingRow hnow (haccess ▸ hreach.token)

variable (hvalid : config.validate = .ok ())

include hvalid

theorem WithinReach.createSession (pruneNow : Int) (id : String) (db : Db) (input : NewSession)
    (hidle : input.idleTtlSeconds = config.sessionTtlSeconds)
    (habsolute : input.absoluteTtlSeconds = config.sessionAbsoluteTtlSeconds)
    (haccess : input.accessExpiresAt = access) (hdb : db.Readable json) :
    (createSession json pruneNow now id db input).1 ≠ .panic ∧
      (createSession json pruneNow now id db input).2.Readable json := by
  unfold Store.createSession
  rw [habsolute, hidle, hreach.addSeconds_absolute hnow, hreach.addSeconds_idle hnow hvalid]
  dsimp only
  split
  · exact ⟨by simp, hdb.prune pruneNow⟩
  · constructor
    · dsimp only
      split <;> simp
    · intro id' row hrow
      dsimp only at hrow
      by_cases hid : id' = id
      · subst hid
        rw [Function.update_self] at hrow
        cases hrow
        exact (newRow_consistent hnow (by rw [haccess]; exact hreach.token)
          (hreach.minIdle hnow hvalid) hreach.absolute).readable
      · rw [Function.update_of_ne hid] at hrow
        exact hdb.prune pruneNow id' row hrow

theorem WithinReach.touchReady (db : Db) (original : GatewaySession) (hdb : db.Readable json)
    (hsnapshot : ∀ row, db.sessions original.id = some row →
      row.absoluteExpiresAt.bind parseTime = some original.absoluteExpiresAt) :
    (touchReady json now db original config.sessionTtlSeconds
      config.sessionTouchIntervalSeconds).1 ≠ .panic ∧
      (touchReady json now db original config.sessionTtlSeconds
        config.sessionTouchIntervalSeconds).2.Readable json := by
  obtain ⟨interval, hinterval⟩ := hreach.touchInterval hnow hvalid
  unfold Store.touchReady
  rw [hinterval, hreach.addSeconds_idle hnow hvalid]
  by_cases hlost : original.identityState ≠ .ready ∨ isActive original now = false
  · rw [if_pos hlost]
    exact ⟨by simp, hdb⟩
  · rw [if_neg hlost]
    by_cases hrecent : now - original.lastTouchedAt < interval
    · simp only [if_pos hrecent]
      exact ⟨by simp, hdb⟩
    · by_cases hlater : min (now + config.sessionTtlSeconds * nanosPerSecond)
          original.absoluteExpiresAt ≤ original.idleExpiresAt
      · simp only [if_neg hrecent, if_pos hlater]
        exact ⟨by simp, hdb⟩
      · simp only [if_neg hrecent, if_neg hlater]
        constructor
        · split_ifs
          · simp
          · split <;> simp
        · -- the candidate lies between the clock, which an active snapshot has not passed, and now + idle
          have hactive : now < original.idleExpiresAt := by
            have := (not_or.mp hlost).2
            simp only [isActive, Bool.not_eq_false, Bool.and_eq_true, decide_eq_true_eq] at this
            exact this.1.2
          have hcandidate : InTextRange (min (now + config.sessionTtlSeconds * nanosPerSecond)
              original.absoluteExpiresAt) :=
            inTextRange_of_between hnow (hreach.idle hnow hvalid) (by omega) (min_le_left _ _)
          refine hdb.updateSession fun row hrow hguard hread => ?_
          simp only [Bool.and_eq_true, decide_eq_true_eq] at hguard
          exact hread.touchedRow hnow hcandidate hguard.1.1.2 (hsnapshot row hrow) (min_le_right _ _)

theorem WithinReach.usable : Usable json config access now where
  createLoginState := hreach.createLoginState hnow
  createSession := hreach.createSession hnow hvalid
  persistPending := hreach.persistPending hnow
  touchReady := hreach.touchReady hnow hvalid
  sessionNeedsRefresh := hreach.sessionNeedsRefresh
  order := by
    intro a ha b hb
    have hrange := hreach.writtenTimes_range hnow hvalid
    exact formatTime_lt_iff (hrange a ha) (hrange b hb)

end Enough

/-! ### Needed -/

theorem Db.empty_readable : Db.empty.Readable json := by
  intro id row hrow
  cases hrow

theorem Db.empty_loginsReadable : Db.empty.LoginsReadable := by
  intro id row hrow
  cases hrow

theorem Usable.login (h : Usable json config access now) :
    InTextRange (now + config.loginStateTtlSeconds * nanosPerSecond) := by
  obtain ⟨hpanic, hreadable⟩ := h.createLoginState now "" Db.empty "" Db.empty_loginsReadable
  cases hsum : addSeconds now config.loginStateTtlSeconds with
  | none => simp [Store.createLoginState, hsum] at hpanic
  | some =>
    obtain ⟨instant, hparse⟩ := hreadable "" _ (by
      simp only [Store.createLoginState, hsum, prune, Db.empty, Option.filter_none]
      exact Function.update_self _ _ _)
    rw [(addSeconds_eq_some_iff.mp hsum).2.2] at hparse
    exact (parseTime_formatTime_eq_some hparse).1

/-- The row of a new session can be read again only when its token and its absolute deadline end by
the year 9999. -/
theorem Usable.session (h : Usable json config access now) :
    InTextRange access ∧
      InTextRange (now + config.sessionAbsoluteTtlSeconds * nanosPerSecond) := by
  let input : NewSession :=
    { authSessionId := "", accessToken := "", refreshToken := "", userId := "", email := none
      amr := [], accessExpiresAt := access, idleTtlSeconds := config.sessionTtlSeconds
      absoluteTtlSeconds := config.sessionAbsoluteTtlSeconds }
  obtain ⟨hpanic, hreadable⟩ := h.createSession now "" Db.empty input rfl rfl rfl Db.empty_readable
  cases habsolute : addSeconds now config.sessionAbsoluteTtlSeconds with
  | none => simp [Store.createSession, input, habsolute] at hpanic
  | some =>
    cases hidle : addSeconds now config.sessionTtlSeconds with
    | none => simp [Store.createSession, input, habsolute, hidle] at hpanic
    | some =>
      obtain ⟨session, hread⟩ := hreadable "" _ (by
        simp only [Store.createSession, input, habsolute, hidle, prune, Db.empty, Option.filter_none]
        exact Function.update_self _ _ _)
      have hreads := rowToSession_eq_ok_iff.mp hread
      have haccess := hreads.accessExpiresAt
      have hdeadline := hreads.absoluteExpiresAt
      simp only [newRow, Option.bind_some] at haccess hdeadline
      rw [(addSeconds_eq_some_iff.mp habsolute).2.2] at hdeadline
      exact ⟨(parseTime_formatTime_eq_some haccess).1, (parseTime_formatTime_eq_some hdeadline).1⟩

theorem Usable.withinReach (h : Usable json config access now) : WithinReach config access now := by
  obtain ⟨htoken, habsolute⟩ := h.session
  cases hskew : addSeconds now config.refreshSkewSeconds with
  | none =>
    have hrefresh := h.sessionNeedsRefresh (sampleSession 0)
    simp [AuthMiniGateway.sessionNeedsRefresh, hskew] at hrefresh
  | some =>
    obtain ⟨⟨hlower, hupper⟩, hrange, -⟩ := addSeconds_eq_some_iff.mp hskew
    exact ⟨h.login, habsolute, htoken, hlower, hupper, hrange⟩

theorem unixToTime_eq_some {exp : Int} (h : unixToTime exp = some access) :
    access = exp * nanosPerSecond := by
  unfold unixToTime timestampOpt at h
  split_ifs at h
  exact (Option.some.inj h).symm

/-- **Which lifetimes work.** A configuration that passes the check can be used at a time of the years
0000 to 9999 with an accepted token expiry exactly when it is within reach. -/
theorem usable_iff_withinReach (json : AmrJson) (config : Config) (exp access now : Int)
    (hvalid : config.validate = .ok ()) (haccess : unixToTime exp = some access)
    (hnow : InTextRange now) :
    Usable json config access now ↔ WithinReach config (exp * nanosPerSecond) now := by
  rw [← unixToTime_eq_some haccess]
  exact ⟨Usable.withinReach, fun hreach => hreach.usable hnow hvalid⟩

def sampleConfig : Config :=
  { publicBaseUrl := "https://public.example", authMiniAudience := "public.example",
    authMiniIssuer := "https://auth.example", cookieSecret := "0123456789abcdef0123456789abcdef",
    cookieSecure := true, cookieSameSite := .lax, sessionTtlSeconds := 604800,
    sessionAbsoluteTtlSeconds := 2592000, sessionTouchIntervalSeconds := 3600,
    loginStateTtlSeconds := 600, refreshSkewSeconds := 60, allowUserIds := ["user"],
    logoutRedirect := "/", upstream := none, upstreamProtocol := .auto,
    maxDownstreamConnections := 256, maxActiveUpstreams := 128, maxBlockingResolvers := 8 }

-- 2026-01-01T00:00:00Z
def sampleNow : Int := 1767225600 * nanosPerSecond

theorem usable_iff_withinReach_default :
    sampleConfig.validate = .ok () ∧
      Usable .quoted sampleConfig (1767229200 * nanosPerSecond) sampleNow := by
  refine ⟨by decide, (usable_iff_withinReach .quoted sampleConfig 1767229200
    (1767229200 * nanosPerSecond) sampleNow (by decide) (by decide) (by decide)).mpr ?_⟩
  constructor <;> decide

/-- The longest lifetime that the environment can name passes every check, and the first login
panics. -/
theorem lifetime_overflow_panics :
    let config := { sampleConfig with sessionAbsoluteTtlSeconds := i64Max }
    parseI64 (some "9223372036854775807") 2592000 = .ok i64Max ∧ config.validate = .ok () ∧
      unixToTime 1767229200 = some (1767229200 * nanosPerSecond) ∧
      (createSession .quoted sampleNow sampleNow "session" Db.empty
        { sampleLogin with
          accessExpiresAt := 1767229200 * nanosPerSecond,
          idleTtlSeconds := config.sessionTtlSeconds,
          absoluteTtlSeconds := config.sessionAbsoluteTtlSeconds }).1 = .panic ∧
      ¬Usable .quoted config (1767229200 * nanosPerSecond) sampleNow := by
  refine ⟨by decide, by decide, by decide, by decide, fun husable => ?_⟩
  exact absurd husable.session.2 (by decide)

end AuthMiniGateway

import AuthMiniGateway.AcceptLoop

namespace AuthMiniGateway

namespace AcceptLoop

variable {Connection Peer : Type}

/-! ### Rounds one after another -/

def next : Option LoopState → List (Answer Connection Peer) → Option LoopState
  | none, _ => none
  | some state, [] => some state
  | some state, answer :: later => next (round state answer).2 later

theorem next_append (start : Option LoopState) (first later : List (Answer Connection Peer)) :
    next start (first ++ later) = next (next start first) later := by
  induction first generalizing start with
  | nil => cases start <;> rfl
  | cons _ _ ih =>
    cases start with
    | none => cases later <;> rfl
    | some => exact ih _

theorem rounds_append (start : Option LoopState) (first later : List (Answer Connection Peer)) :
    rounds start (first ++ later) = rounds start first ++ rounds (next start first) later := by
  induction first generalizing start with
  | nil => cases start <;> rfl
  | cons _ _ ih =>
    cases start with
    | none => cases later <;> rfl
    | some => simp only [List.cons_append, rounds, next, ih, List.append_assoc]

theorem rounds_nil (start : Option LoopState) :
    rounds start ([] : List (Answer Connection Peer)) = [] := by
  cases start <;> rfl

def Answer.failure? : Answer Connection Peer → Option RecoverableAcceptClass
  | .failed error _ =>
    match classifyAcceptError error with
    | .recoverable failure => some failure
    | .fatal _ => none
  | _ => none

def Answer.continues : Answer Connection Peer → Bool
  | .accepted _ _ _ => true
  | answer => answer.failure?.isSome

variable {failure : RecoverableAcceptClass} {before : List (Effect Connection Peer)}

theorem round_failure {answer : Answer Connection Peer} (h : answer.failure? = some failure)
    (state : LoopState) :
    ∃ error now, answer = .failed error now ∧
      round state answer =
        ([.acquire, .accept (.error error), .release]
            ++ ((state.failureLog.failure now).1.map fun event =>
              .emit (.recoverable failure (state.backoff.nextDelay failure).1 event.failures
                event.suppressed)).toList
            ++ [.sleep (state.backoff.nextDelay failure).1],
          some ⟨(state.backoff.nextDelay failure).2, (state.failureLog.failure now).2⟩) := by
  cases answer with
  | closed | accepted => cases h
  | failed error now =>
    refine ⟨error, now, rfl, ?_⟩
    cases hclass : classifyAcceptError error with
    | fatal => simp [Answer.failure?, hclass] at h
    | recoverable other =>
      have : other = failure := by simpa [Answer.failure?, hclass] using h
      subst this
      simp [round, hclass]

/-! ### The log of failures -/

def failureEvents (effects : List (Effect Connection Peer)) : List AcceptFailureEvent :=
  effects.filterMap fun
    | .emit (.recoverable _ _ failures suppressed) => some ⟨failures, suppressed⟩
    | _ => none

def recoveryEvents (effects : List (Effect Connection Peer)) : List AcceptRecoveryEvent :=
  effects.filterMap fun
    | .emit (.recovered event) => some event
    | _ => none

def exits (effects : List (Effect Connection Peer)) : List SanitizedExit :=
  effects.filterMap fun
    | .exit reason => some reason
    | _ => none

/-- The failures that the events of a trace stand for: one each, and those they carry. -/
def accounted (effects : List (Effect Connection Peer)) : Nat :=
  (failureEvents effects).length + ((failureEvents effects).map (·.suppressed)).sum

theorem accounted_append (first later : List (Effect Connection Peer)) :
    accounted (first ++ later) = accounted first + accounted later := by
  simp only [accounted, failureEvents, List.filterMap_append, List.length_append, List.map_append,
    List.sum_append]
  omega

theorem accounted_failure {answer : Answer Connection Peer} (h : answer.failure? = some failure)
    (state : LoopState) (hroom : state.failureLog.failures < maxU64)
    (hsuppressed : state.failureLog.suppressedSinceLast ≤ state.failureLog.failures) :
    ∃ after, (round state answer).2 = some after ∧
      after.failureLog.failures = state.failureLog.failures + 1 ∧
      after.failureLog.suppressedSinceLast ≤ after.failureLog.failures ∧
      accounted (round state answer).1 + after.failureLog.suppressedSinceLast
        = state.failureLog.suppressedSinceLast + 1 ∧
      recoveryEvents (round state answer).1 = [] ∧ exits (round state answer).1 = [] := by
  obtain ⟨error, now, -, hround⟩ := round_failure h state
  rw [hround]
  refine ⟨_, rfl, ?_⟩
  have hfailures : saturatingSucc state.failureLog.failures = state.failureLog.failures + 1 :=
    Nat.min_eq_left (by omega)
  have hcount : saturatingSucc state.failureLog.suppressedSinceLast
      = state.failureLog.suppressedSinceLast + 1 := Nat.min_eq_left (by omega)
  simp only [AcceptFailureLogState.failure]
  split
  · simp [accounted, failureEvents, recoveryEvents, exits, hfailures]
    omega
  · simp [accounted, failureEvents, recoveryEvents, exits, hfailures, hcount]
    omega

theorem accounted_failures {failures : List (Answer Connection Peer)}
    (hfailures : ∀ answer ∈ failures, answer.failure?.isSome = true) (state : LoopState)
    (hroom : state.failureLog.failures + failures.length ≤ maxU64)
    (hsuppressed : state.failureLog.suppressedSinceLast ≤ state.failureLog.failures) :
    ∃ after, next (some state) failures = some after ∧
      after.failureLog.failures = state.failureLog.failures + failures.length ∧
      accounted (rounds (some state) failures) + after.failureLog.suppressedSinceLast
        = state.failureLog.suppressedSinceLast + failures.length ∧
      recoveryEvents (rounds (some state) failures) = [] ∧ exits (rounds (some state) failures) = [] := by
  induction failures generalizing state with
  | nil => exact ⟨state, rfl, rfl, by simp [rounds, accounted, failureEvents], rfl, rfl⟩
  | cons answer _ ih =>
    rw [List.length_cons] at hroom
    obtain ⟨failure, hfailure⟩ := Option.isSome_iff_exists.mp (hfailures answer List.mem_cons_self)
    obtain ⟨between, hbetween, hcount, hbound, haccount, hrecovery, hexit⟩ :=
      accounted_failure hfailure state (by omega) hsuppressed
    obtain ⟨after, hafter, hcount', haccount', hrecovery', hexit'⟩ :=
      ih (fun other hother => hfailures other (List.mem_cons_of_mem answer hother)) between (by omega) hbound
    refine ⟨after, ?_, ?_, ?_, ?_, ?_⟩
    · rw [next, hbetween, hafter]
    · rw [List.length_cons]
      omega
    · rw [rounds, hbetween, accounted_append, List.length_cons]
      omega
    · rw [rounds, hbetween, recoveryEvents, List.filterMap_append]
      exact List.append_eq_nil_iff.mpr ⟨hrecovery, hrecovery'⟩
    · rw [rounds, hbetween, exits, List.filterMap_append]
      exact List.append_eq_nil_iff.mpr ⟨hexit, hexit'⟩

theorem recovered_log {log : AcceptFailureLogState} (h : log.suppressedSinceLast ≤ log.failures)
    (now : Duration) :
    (log.recovered now).2.failures = 0 ∧ (log.recovered now).2.suppressedSinceLast = 0 := by
  unfold AcceptFailureLogState.recovered
  split
  · rename_i hzero
    exact ⟨hzero, Nat.le_zero.mp (h.trans_eq hzero)⟩
  · exact ⟨rfl, rfl⟩

theorem failure_log {log : AcceptFailureLogState} (h : log.suppressedSinceLast ≤ log.failures)
    (now : Duration) : (log.failure now).2.suppressedSinceLast ≤ (log.failure now).2.failures := by
  unfold AcceptFailureLogState.failure
  dsimp only
  split
  · exact Nat.zero_le _
  · change saturatingSucc log.suppressedSinceLast ≤ saturatingSucc log.failures
    unfold saturatingSucc
    omega

theorem exists_next {answers : List (Answer Connection Peer)}
    (hanswers : ∀ answer ∈ answers, answer.continues = true) (state : LoopState)
    (hsuppressed : state.failureLog.suppressedSinceLast ≤ state.failureLog.failures) :
    ∃ after, next (some state) answers = some after ∧
      after.failureLog.suppressedSinceLast ≤ after.failureLog.failures := by
  induction answers generalizing state with
  | nil => exact ⟨state, rfl, hsuppressed⟩
  | cons answer answers ih =>
    have hlater : ∀ other ∈ answers, other.continues = true := fun other hother =>
      hanswers other (List.mem_cons_of_mem answer hother)
    have hanswer := hanswers answer List.mem_cons_self
    cases answer with
    | closed => cases hanswer
    | accepted _ _ now =>
      obtain ⟨-, hnone⟩ := recovered_log hsuppressed now
      exact ih hlater _ (hnone.trans_le (Nat.zero_le _))
    | failed _ now =>
      obtain ⟨failure, hfailure⟩ := Option.isSome_iff_exists.mp hanswer
      obtain ⟨_, now, -, hround⟩ := round_failure hfailure state
      rw [next, hround]
      exact ih hlater _ (failure_log hsuppressed now)

/-- A history after which no failures are counted: the start, or one that ends with a success. -/
structure Fresh (before : List (Answer Connection Peer)) : Prop where
  continues : ∀ answer ∈ before, answer.continues = true
  success : before = [] ∨ ∃ earlier connection peer now, before = earlier ++ [.accepted connection peer now]

theorem Fresh.next_eq {before : List (Answer Connection Peer)} (h : Fresh before) :
    ∃ state, next (some {}) before = some state ∧ state.failureLog.failures = 0 ∧
      state.failureLog.suppressedSinceLast = 0 := by
  rcases h.success with rfl | ⟨earlier, connection, peer, now, rfl⟩
  · exact ⟨{}, rfl, rfl, rfl⟩
  · obtain ⟨state, hstate, hsuppressed⟩ := exists_next (fun answer hanswer =>
      h.continues answer (List.mem_append_left _ hanswer)) {} le_rfl
    rw [next_append, hstate]
    exact ⟨_, rfl, recovered_log hsuppressed now⟩

section

variable {before failures : List (Answer Connection Peer)}

theorem episode_eq (hfresh : Fresh before)
    (hfailures : ∀ answer ∈ failures, answer.failure?.isSome = true) (hroom : failures.length ≤ maxU64)
    (closing : Answer Connection Peer) :
    ∃ state effects, driveAcceptLoop (before ++ failures ++ [closing])
        = driveAcceptLoop before ++ (effects ++ (round state closing).1) ∧
      state.failureLog.failures = failures.length ∧
      accounted effects + state.failureLog.suppressedSinceLast = failures.length ∧
      recoveryEvents effects = [] ∧ exits effects = [] := by
  obtain ⟨start, hstart, hnone, hzero⟩ := hfresh.next_eq
  obtain ⟨state, hstate, hcount, haccount, hrecovery, hexit⟩ :=
    accounted_failures hfailures start (by omega) (by omega)
  refine ⟨state, rounds (some start) failures, ?_, by omega, by omega, hrecovery, hexit⟩
  rw [driveAcceptLoop, driveAcceptLoop, List.append_assoc, rounds_append, hstart, rounds_append, hstate]
  simp [rounds, rounds_nil]

theorem episode_success (hfresh : Fresh before)
    (hfailures : ∀ answer ∈ failures, answer.failure?.isSome = true) (hroom : failures.length ≤ maxU64)
    (connection : Connection) (peer : Peer) (now : Duration) :
    ∃ episode, driveAcceptLoop (before ++ failures ++ [.accepted connection peer now])
        = driveAcceptLoop before ++ episode ∧ exits episode = [] ∧
      (failures = [] → failureEvents episode = [] ∧ recoveryEvents episode = []) ∧
      (failures ≠ [] → ∃ event, recoveryEvents episode = [event] ∧ event.failures = failures.length ∧
        accounted episode + event.suppressed = failures.length) := by
  obtain ⟨state, effects, htrace, hcount, haccount, hrecovery, hexit⟩ :=
    episode_eq hfresh hfailures hroom (.accepted connection peer now)
  refine ⟨_, htrace, ?_, ?_, ?_⟩
  · rw [exits, List.filterMap_append]
    refine List.append_eq_nil_iff.mpr ⟨hexit, ?_⟩
    simp only [round]
    cases (state.failureLog.recovered now).1 <;> rfl
  · rintro rfl
    rw [List.length_nil] at hcount haccount
    have hnone : (state.failureLog.recovered now).1 = none := by
      rw [AcceptFailureLogState.recovered, if_pos hcount]
    have hevents : failureEvents effects = [] := by
      rw [accounted] at haccount
      exact List.eq_nil_of_length_eq_zero (by omega)
    simp only [failureEvents, recoveryEvents, List.filterMap_append] at hevents hrecovery ⊢
    simp [hevents, hrecovery, round, hnone]
  · intro hne
    have hpos : state.failureLog.failures ≠ 0 := by
      rw [hcount]
      exact List.length_pos_iff.mpr hne |>.ne'
    obtain ⟨event, hevent, hreported, hsuppressed⟩ : ∃ event, (state.failureLog.recovered now).1 = some event ∧
        event.failures = state.failureLog.failures ∧
        event.suppressed = state.failureLog.suppressedSinceLast := by
      rw [AcceptFailureLogState.recovered, if_neg hpos]
      exact ⟨_, rfl, rfl, rfl⟩
    refine ⟨event, ?_, hreported.trans hcount, ?_⟩
    · simp only [recoveryEvents, List.filterMap_append] at hrecovery ⊢
      simp only [hrecovery, round, hevent]
      rfl
    · have hclosing : accounted (round state (.accepted connection peer now)).1 = 0 := by
        simp [round, hevent, accounted, failureEvents]
      rw [accounted_append, hclosing, hsuppressed]
      exact haccount

theorem episode_fatal (hfresh : Fresh before)
    (hfailures : ∀ answer ∈ failures, answer.failure?.isSome = true) (hroom : failures.length ≤ maxU64)
    {error : IoError} {errnoClass : ListenerErrnoClass}
    (hfatal : classifyAcceptError error = .fatal errnoClass) (now : Duration) :
    ∃ episode suppressed, driveAcceptLoop (before ++ failures ++ [.failed error now])
        = driveAcceptLoop before ++ episode ∧ recoveryEvents episode = [] ∧
      exits episode = [.listenerFatal errnoClass error.rawOsError failures.length suppressed] ∧
      accounted episode + suppressed = failures.length := by
  obtain ⟨state, effects, htrace, hcount, haccount, hrecovery, hexit⟩ :=
    episode_eq hfresh hfailures hroom (.failed error now)
  refine ⟨_, state.failureLog.suppressedSinceLast, htrace, ?_, ?_, ?_⟩
  · simp only [recoveryEvents, List.filterMap_append] at hrecovery ⊢
    simp [hrecovery, round, hfatal]
  · simp only [exits, List.filterMap_append] at hexit ⊢
    simp [hexit, round, hfatal, AcceptFailureLogState.summary, hcount]
  · have hclosing : accounted (round state (.failed error now : Answer Connection Peer)).1 = 0 := by
      simp [round, hfatal, accounted, failureEvents]
    rw [accounted_append, hclosing]
    exact haccount

end

/-! ### The permit -/

@[simp]
def Effect.permits : Effect Connection Peer → Int
  | .acquire => 1
  | .release => -1
  | .handOn _ _ => -1
  | _ => 0

@[simp]
def Effect.accepted? : Effect Connection Peer → Option (Connection × Peer)
  | .accept (.ok pair) => some pair
  | _ => none

@[simp]
def Effect.handedOn? : Effect Connection Peer → Option (Connection × Peer)
  | .handOn connection peer => some (connection, peer)
  | _ => none

def held (effects : List (Effect Connection Peer)) : Int := (effects.map Effect.permits).sum

def accepted (effects : List (Effect Connection Peer)) : List (Connection × Peer) :=
  effects.filterMap Effect.accepted?

def handedOn (effects : List (Effect Connection Peer)) : List (Connection × Peer) :=
  effects.filterMap Effect.handedOn?

/-- What must be true of the effects so far for the next effect: the permit is held during an accept call
and when it is given away, and by nobody in the loop when it sleeps or returns; every accepted connection
has been handed on, except the one that is handed on now. -/
def Permitted (before : List (Effect Connection Peer)) : Effect Connection Peer → Prop
  | .acquire => held before = 0 ∧ accepted before = handedOn before
  | .accept _ => held before = 1 ∧ accepted before = handedOn before
  | .release => held before = 1 ∧ accepted before = handedOn before
  | .emit _ => True
  | .sleep _ => held before = 0 ∧ accepted before = handedOn before
  | .handOn connection peer =>
    held before = 1 ∧ accepted before = handedOn before ++ [(connection, peer)]
  | .exit _ => held before = 0 ∧ accepted before = handedOn before

def AllPermitted (before effects : List (Effect Connection Peer)) : Prop :=
  ∀ first effect later, effects = first ++ effect :: later → Permitted (before ++ first) effect

theorem allPermitted_nil (before : List (Effect Connection Peer)) : AllPermitted before [] := by
  intro first effect later h
  exact absurd h (by simp)

theorem AllPermitted.cons {effects : List (Effect Connection Peer)}
    {effect : Effect Connection Peer} (heffect : Permitted before effect)
    (hrest : AllPermitted (before ++ [effect]) effects) :
    AllPermitted before (effect :: effects) := by
  intro first other later h
  cases first with
  | nil =>
    cases h
    rwa [List.append_nil]
  | cons _ first =>
    cases h
    have hother := hrest first other later rfl
    rwa [List.append_assoc] at hother

theorem AllPermitted.append {first later : List (Effect Connection Peer)}
    (hfirst : AllPermitted before first) (hlater : AllPermitted (before ++ first) later) :
    AllPermitted before (first ++ later) := by
  induction first generalizing before with
  | nil => rwa [List.append_nil] at hlater
  | cons effect first ih =>
    refine .cons ?_ (ih ?_ ?_)
    · have heffect := hfirst [] effect first rfl
      rwa [List.append_nil] at heffect
    · intro start other rest h
      have hother := hfirst (effect :: start) other rest (by rw [h]; rfl)
      rwa [List.append_assoc]
    · rwa [List.append_assoc]

structure Settled (effects : List (Effect Connection Peer)) : Prop where
  held : held effects = 0
  handedOn : accepted effects = handedOn effects

section

variable (first later : List (Effect Connection Peer))

@[simp]
theorem held_append : held (first ++ later) = held first + held later := by
  simp [held]

@[simp]
theorem accepted_append : accepted (first ++ later) = accepted first ++ accepted later :=
  List.filterMap_append

@[simp]
theorem handedOn_append : handedOn (first ++ later) = handedOn first ++ handedOn later :=
  List.filterMap_append

@[simp]
theorem held_cons (effect : Effect Connection Peer) : held (effect :: later) = effect.permits + held later :=
  rfl

@[simp]
theorem accepted_cons (effect : Effect Connection Peer) :
    accepted (effect :: later) = effect.accepted?.toList ++ accepted later := by
  cases h : effect.accepted? <;> simp [accepted, h, -Effect.accepted?]

@[simp]
theorem handedOn_cons (effect : Effect Connection Peer) :
    handedOn (effect :: later) = effect.handedOn?.toList ++ handedOn later := by
  cases h : effect.handedOn? <;> simp [handedOn, h, -Effect.handedOn?]

@[simp] theorem held_nil : held ([] : List (Effect Connection Peer)) = 0 := rfl

@[simp] theorem accepted_nil : accepted ([] : List (Effect Connection Peer)) = [] := rfl

@[simp] theorem handedOn_nil : handedOn ([] : List (Effect Connection Peer)) = [] := rfl

end

theorem round_permitted (hbefore : Settled before) (state : LoopState)
    (answer : Answer Connection Peer) :
    AllPermitted before (round state answer).1 ∧ Settled (before ++ (round state answer).1) := by
  obtain ⟨hheld, howed⟩ := hbefore
  cases answer with
  | closed =>
    refine ⟨.cons ⟨hheld, howed⟩ (allPermitted_nil _), ?_, ?_⟩
    · simp [round, hheld]
    · simp [round, howed]
  | accepted _ _ now =>
    -- the recovery event, if there is one, stands between the accept call and the handover
    simp only [round]
    cases (state.failureLog.recovered now).1 with
    | none =>
      refine ⟨.cons ?_ (.cons ?_ (.cons ?_ (allPermitted_nil _))), ?_, ?_⟩ <;>
        simp [Permitted, hheld, howed]
    | some =>
      refine ⟨.cons ?_ (.cons ?_ (.cons ?_ (.cons ?_ (allPermitted_nil _)))), ?_, ?_⟩ <;>
        simp [Permitted, hheld, howed]
  | failed error now =>
    simp only [round]
    cases classifyAcceptError error with
    | fatal =>
      refine ⟨.cons ?_ (.cons ?_ (.cons ?_ (.cons ?_ (allPermitted_nil _)))), ?_, ?_⟩ <;>
        simp [Permitted, hheld, howed]
    | recoverable failure =>
      dsimp only
      cases (state.failureLog.failure now).1 with
      | none =>
        refine ⟨.cons ?_ (.cons ?_ (.cons ?_ (.cons ?_ (allPermitted_nil _)))), ?_, ?_⟩ <;>
          simp [Permitted, hheld, howed]
      | some =>
        refine ⟨.cons ?_ (.cons ?_ (.cons ?_ (.cons ?_ (.cons ?_ (allPermitted_nil _))))), ?_, ?_⟩ <;>
          simp [Permitted, hheld, howed]

theorem rounds_permitted (hbefore : Settled before) (start : Option LoopState)
    (answers : List (Answer Connection Peer)) :
    AllPermitted before (rounds start answers) ∧ Settled (before ++ rounds start answers) := by
  induction answers generalizing before start with
  | nil =>
    rw [rounds_nil, List.append_nil]
    exact ⟨allPermitted_nil before, hbefore⟩
  | cons answer _ ih =>
    cases start with
    | none =>
      rw [rounds, List.append_nil]
      exact ⟨allPermitted_nil before, hbefore⟩
    | some state =>
      obtain ⟨hround, hsettled⟩ := round_permitted hbefore state answer
      obtain ⟨hlater, hend⟩ := ih hsettled (round state answer).2
      rw [rounds, ← List.append_assoc]
      exact ⟨hround.append hlater, hend⟩

/-! ### The delays -/

/-- The delay after a failure of a class that ends a run of `length` failures of that class. -/
def delayAfter (failure : RecoverableAcceptClass) (length : Nat) : Duration :=
  fromMillis ((delays failure).getD (min (length - 1) ((delays failure).length - 1)) 0)

theorem delayAfter_mono (failure : RecoverableAcceptClass) : Monotone (delayAfter failure) := by
  have htable : ∀ i ≤ 6, ∀ j ≤ i,
      (delays failure).getD (min j ((delays failure).length - 1)) 0
        ≤ (delays failure).getD (min i ((delays failure).length - 1)) 0 := by
    cases failure <;> decide
  have hcut : ∀ n, min (n - 1) ((delays failure).length - 1)
      = min (min (n - 1) 6) ((delays failure).length - 1) := by
    have hlength : (delays failure).length ≤ 7 := by cases failure <;> decide
    intro n
    omega
  intro m n hmn
  unfold delayAfter fromMillis
  rw [hcut m, hcut n]
  exact Nat.mul_le_mul_right _ (htable _ (by omega) _ (by omega))

theorem nextDelay_eq {backoff : AcceptBackoff} {length : Nat}
    (hrun : if backoff.current = some failure then backoff.sameClassStreak = min length maxU64
      else length = 0) :
    backoff.nextDelay failure = (delayAfter failure (length + 1), ⟨some failure, min (length + 1) maxU64⟩) := by
  have hstreak : (if backoff.current = some failure then saturatingSucc backoff.sameClassStreak else 1)
      = min (length + 1) maxU64 := by
    split at hrun
    · rename_i hcurrent
      rw [if_pos hcurrent, hrun, saturatingSucc]
      omega
    · rename_i hcurrent
      rw [if_neg hcurrent, hrun]
      rfl
  have hlength : (delays failure).length - 1 ≤ maxU64 - 1 := by cases failure <;> decide
  have hindex : min (min (length + 1) maxU64 - 1) ((delays failure).length - 1)
      = min (length + 1 - 1) ((delays failure).length - 1) := by omega
  simp only [AcceptBackoff.nextDelay, hstreak, hindex, delayAfter]

theorem current_after {earlier : List (Answer Connection Peer)} {last : Answer Connection Peer}
    {state : LoopState} (h : next (some {}) (earlier ++ [last]) = some state) :
    state.backoff.current = last.failure? := by
  rw [next_append] at h
  cases hbefore : next (some {}) earlier with
  | none =>
    rw [hbefore] at h
    cases h
  | some =>
    rw [hbefore] at h
    cases last with
    | closed => cases h
    | accepted =>
      cases h
      rfl
    | failed error =>
      cases hclass : classifyAcceptError error with
      | fatal => simp [next, round, hclass] at h
      | recoverable failure =>
        simp only [next, round, hclass, Option.some.injEq] at h
        subst h
        simp [AcceptBackoff.nextDelay, Answer.failure?, hclass]

section

variable {before run : List (Answer Connection Peer)} {failure : RecoverableAcceptClass}

theorem backoff_after (hbefore : ∀ answer ∈ before, answer.continues = true)
    (hlast : ∀ last, before.getLast? = some last → last.failure? ≠ some failure)
    (hrun : ∀ answer ∈ run, answer.failure? = some failure) :
    ∃ state, next (some {}) (before ++ run) = some state ∧
      if state.backoff.current = some failure then state.backoff.sameClassStreak = min run.length maxU64
      else run.length = 0 := by
  induction run using List.reverseRecOn with
  | nil =>
    obtain ⟨state, hstate, -⟩ := exists_next hbefore {} le_rfl
    refine ⟨state, by rwa [List.append_nil], ?_⟩
    have hother : state.backoff.current ≠ some failure := by
      rcases List.eq_nil_or_concat before with rfl | ⟨earlier, last, rfl⟩
      · cases hstate
        exact nofun
      · rw [List.concat_eq_append] at hstate
        rw [current_after hstate]
        exact hlast last (by simp)
    rw [if_neg hother]
    rfl
  | append_singleton _ answer ih =>
    obtain ⟨state, hstate, hstreak⟩ := ih fun other hother => hrun other (List.mem_append_left _ hother)
    have hanswer := hrun answer (List.mem_append_right _ (List.mem_singleton_self answer))
    obtain ⟨error, now, -, hround⟩ := round_failure hanswer state
    rw [← List.append_assoc, next_append, hstate]
    simp only [next, hround, nextDelay_eq hstreak]
    refine ⟨_, rfl, ?_⟩
    rw [if_pos rfl, List.length_append]
    rfl

def sleeps (effects : List (Effect Connection Peer)) : List Duration :=
  effects.filterMap fun
    | .sleep delay => some delay
    | _ => none

theorem sleep_after (hbefore : ∀ answer ∈ before, answer.continues = true)
    (hlast : ∀ last, before.getLast? = some last → last.failure? ≠ some failure)
    (hrun : ∀ answer ∈ run, answer.failure? = some failure) {answer : Answer Connection Peer}
    (hanswer : answer.failure? = some failure) :
    ∃ effects, driveAcceptLoop (before ++ run ++ [answer]) = driveAcceptLoop (before ++ run) ++ effects ∧
      sleeps effects = [delayAfter failure (run.length + 1)] := by
  obtain ⟨state, hstate, hstreak⟩ := backoff_after hbefore hlast hrun
  refine ⟨(round state answer).1, ?_, ?_⟩
  · rw [driveAcceptLoop, driveAcceptLoop, rounds_append, hstate]
    simp [rounds, rounds_nil]
  · obtain ⟨error, now, -, hround⟩ := round_failure hanswer state
    rw [hround, nextDelay_eq hstreak]
    cases (state.failureLog.failure now).1 <;> rfl

end

/-- **The accounts of the accept loop.** An episode of failures that ends with a success or a fatal error is
accounted for by its events, the failures they carry and those the closing report carries; the permit is
held during accept calls only and goes to the accepted connection; the delay is a function of the class
and of the length of the run of that class, which grows and starts from the least one. -/
theorem acceptLoop_accounts (Connection Peer : Type) :
    (∀ (before failures : List (Answer Connection Peer)), Fresh before →
      (∀ answer ∈ failures, answer.failure?.isSome = true) → failures.length < 2 ^ 64 →
      (∀ connection peer now, ∃ episode,
        driveAcceptLoop (before ++ failures ++ [.accepted connection peer now])
          = driveAcceptLoop before ++ episode ∧ exits episode = [] ∧
        (failures = [] → failureEvents episode = [] ∧ recoveryEvents episode = []) ∧
        (failures ≠ [] → ∃ event, recoveryEvents episode = [event] ∧ event.failures = failures.length ∧
          accounted episode + event.suppressed = failures.length)) ∧
      (∀ error errnoClass now, classifyAcceptError error = .fatal errnoClass → ∃ episode suppressed,
        driveAcceptLoop (before ++ failures ++ [.failed error now]) = driveAcceptLoop before ++ episode ∧
        recoveryEvents episode = [] ∧
        exits episode = [.listenerFatal errnoClass error.rawOsError failures.length suppressed] ∧
        accounted episode + suppressed = failures.length)) ∧
    (∀ answers : List (Answer Connection Peer),
      (∀ first effect later, driveAcceptLoop answers = first ++ effect :: later → Permitted first effect) ∧
      held (driveAcceptLoop answers) = 0 ∧
      accepted (driveAcceptLoop answers) = handedOn (driveAcceptLoop answers)) ∧
    (∀ (before run : List (Answer Connection Peer)) (answer : Answer Connection Peer)
      (failure : RecoverableAcceptClass), (∀ other ∈ before, other.continues = true) →
      (∀ last, before.getLast? = some last → last.failure? ≠ some failure) →
      (∀ other ∈ run, other.failure? = some failure) → answer.failure? = some failure →
      ∃ effects, driveAcceptLoop (before ++ run ++ [answer]) = driveAcceptLoop (before ++ run) ++ effects ∧
        sleeps effects = [delayAfter failure (run.length + 1)]) ∧
    ∀ failure, Monotone (delayAfter failure) ∧
      delayAfter failure 1 = fromMillis (if failure.isResource then 100 else 10) := by
  refine ⟨?_, ?_, ?_, ?_⟩
  · intro before failures hfresh hfailures hcount
    have hroom : failures.length ≤ maxU64 := Nat.le_sub_one_of_lt hcount
    exact ⟨episode_success hfresh hfailures hroom, fun error errnoClass now hfatal =>
      episode_fatal hfresh hfailures hroom hfatal now⟩
  · intro answers
    obtain ⟨hpermitted, hsettled⟩ := rounds_permitted (⟨rfl, rfl⟩ : Settled []) (some {}) answers
    exact ⟨hpermitted, hsettled.held, hsettled.handedOn⟩
  · intro before run answer failure hbefore hlast hrun hanswer
    exact sleep_after hbefore hlast hrun hanswer
  · intro failure
    refine ⟨delayAfter_mono failure, ?_⟩
    cases failure <;> rfl

-- three failures for want of descriptors, of which one is not logged, and a success
theorem acceptLoop_accounts_three :
    ∃ (episode : List (Effect Nat Nat)) (event : AcceptRecoveryEvent),
      driveAcceptLoop (List.replicate 3 (.failed ⟨some 24, .other⟩ 5) ++ [.accepted 7 8 9]) = episode ∧
        recoveryEvents episode = [event] ∧ event.failures = 3 ∧ accounted episode + event.suppressed = 3 := by
  obtain ⟨episode, htrace, -, -, hevents⟩ := ((acceptLoop_accounts Nat Nat).1 []
    (List.replicate 3 (.failed ⟨some 24, .other⟩ 5)) ⟨nofun, .inl rfl⟩ (by decide) (by decide)).1 7 8 9
  obtain ⟨event, hrecovery, hcount, haccount⟩ := hevents (by decide)
  exact ⟨episode, event, htrace, hrecovery, hcount, haccount⟩

end AcceptLoop

end AuthMiniGateway

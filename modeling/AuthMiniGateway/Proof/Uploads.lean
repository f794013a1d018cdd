import AuthMiniGateway.Upload

namespace AuthMiniGateway

variable {W D E : Type}

def framesOf : PolledFrame D E → List D
  | .ready (some (.ok (.data bytes))) => [bytes]
  | _ => []

def isError : PolledFrame D E → Bool
  | .ready (some (.error _)) => true
  | _ => false

namespace UploadEvent

def polled : UploadEvent W D E → Option (PolledFrame D E)
  | pollEnter _ answer => answer
  | pollFrame _ answer => some answer
  | _ => none

/-- `poll_frame` answers `Ready(None)`, or `is_end_stream` is true. -/
def SeesEnd (event : UploadEvent W D E) : Prop :=
  event.polled = some (.ready none) ∨ ∃ ended, event = isEndStream ended true

end UploadEvent

def handedOut : List (UploadEvent W D E) → List D
  | [] => []
  | event :: events => handedOut events ++ (event.polled.map framesOf).getD []

def GaveError (events : List (UploadEvent W D E)) : Prop :=
  ∃ event ∈ events, ∃ answer, event.polled = some answer ∧ isError answer = true

theorem not_gaveError_tail {event : UploadEvent W D E} {events : List (UploadEvent W D E)}
    (hclean : ¬ GaveError (event :: events)) : ¬ GaveError events := by
  rintro ⟨earlier, hmem, herror⟩
  exact hclean ⟨earlier, List.mem_cons_of_mem _ hmem, herror⟩

namespace TrackedRequestBody

variable {body : TrackedRequestBody D E} {upload : UploadState W}

theorem observeTerminal_of_none (hopen : body.terminal = none) (clean : Bool) :
    body.observeTerminal upload clean =
      ({ inner := none, terminal := some clean },
        if clean then upload.markComplete else upload.cancel) := by
  rw [observeTerminal, hopen]

theorem observeTerminal_of_some {seen : Bool} (hclosed : body.terminal = some seen) (clean : Bool) :
    body.observeTerminal upload clean = (body, upload) := by
  rw [observeTerminal, hclosed]

/-! ### One lemma per way a poll ends -/

variable {ended : Bool} {rest : List (PolledFrame D E)}

theorem pollInner_cancelled (hcancelled : upload.cancelled = true) :
    body.pollInner upload ended = (body.observeTerminal upload false, .ready none) := by
  rw [pollInner, if_pos hcancelled, endCancelled]

theorem pollInner_live (hlive : upload.cancelled = false) :
    ¬ upload.cancelled = true := by
  rw [hlive]
  exact Bool.false_ne_true

theorem pollInner_dropped (hlive : upload.cancelled = false) (hinner : body.inner = none) :
    body.pollInner upload ended = ((body, upload), .ready none) := by
  rw [pollInner, if_neg (pollInner_live hlive), hinner]

theorem pollInner_nil (hlive : upload.cancelled = false) (hinner : body.inner = some []) :
    body.pollInner upload ended = (({ body with inner := some [] }, upload), .pending) := by
  have hsame : { body with inner := some [] } = body := by rw [← hinner]
  rw [hsame, pollInner, if_neg (pollInner_live hlive), hinner]

theorem pollInner_pending (hlive : upload.cancelled = false)
    (hinner : body.inner = some (.pending :: rest)) :
    body.pollInner upload ended = (({ body with inner := some rest }, upload), .pending) := by
  rw [pollInner, if_neg (pollInner_live hlive), hinner]

theorem pollInner_end {answer : PolledFrame D E} (hlive : upload.cancelled = false)
    (hopen : body.terminal = none) (hinner : body.inner = some (answer :: rest))
    (hanswer : answer = .ready none ∨ answer = .ready (some (.ok .trailers))) :
    body.pollInner upload ended =
      (({ inner := none, terminal := some true }, upload.markComplete), .ready none) := by
  rw [pollInner, if_neg (pollInner_live hlive), hinner]
  rcases hanswer with rfl | rfl
  · simp only [observeTerminal, hopen, if_true]
  · simp only [observeTerminal, hopen, if_true]

theorem pollInner_error {error : E} (hlive : upload.cancelled = false)
    (hinner : body.inner = some (.ready (some (.error error)) :: rest)) :
    (body.pollInner upload ended).2 = .ready (some (.error error)) := by
  rw [pollInner, if_neg (pollInner_live hlive), hinner]

theorem pollInner_data {bytes : D} (hlive : upload.cancelled = false)
    (hinner : body.inner = some (.ready (some (.ok (.data bytes))) :: rest)) :
    body.pollInner upload false =
      (({ body with inner := some rest }, upload), .ready (some (.ok (.data bytes)))) := by
  rw [pollInner, if_neg (pollInner_live hlive), hinner]
  rfl

theorem pollInner_last {bytes : D} (hlive : upload.cancelled = false) (hopen : body.terminal = none)
    (hinner : body.inner = some (.ready (some (.ok (.data bytes))) :: rest)) :
    body.pollInner upload true =
      (({ inner := none, terminal := some true }, upload.markComplete),
        .ready (some (.ok (.data bytes)))) := by
  rw [pollInner, if_neg (pollInner_live hlive), hinner]
  simp only [observeTerminal, hopen, if_true]

end TrackedRequestBody

/-! ### The books of a run -/

/-- While nothing has gone wrong, the inner body is held until the first terminal observation. Before
a clean end the frames of the source are those handed out and those not read, after it they are those
handed out. -/
structure UploadRun.Tracks (source : List (PolledFrame D E)) (given : List D)
    (run : UploadRun W D E) : Prop where
  held : ∀ rest, run.body.inner = some rest → run.body.terminal = none ∧ run.unread = rest
  dropped : run.body.inner = none → run.body.terminal ≠ none
  ended : run.body.terminal = some true → framesToEnd source = some given
  unended : run.body.terminal ≠ some true →
    framesToEnd source = (framesToEnd run.unread).map (given ++ ·)
  cut : run.body.terminal = some false → run.upload.cancelled = true

namespace UploadRun.Tracks

variable {source rest : List (PolledFrame D E)} {given : List D} {run next : UploadRun W D E}

theorem of_same (htracks : run.Tracks source given) (hbody : next.body = run.body)
    (hunread : next.unread = run.unread)
    (hflag : run.upload.cancelled = true → next.upload.cancelled = true) :
    next.Tracks source given := by
  constructor
  · rw [hbody, hunread]
    exact htracks.held
  · rw [hbody]
    exact htracks.dropped
  · rw [hbody]
    exact htracks.ended
  · rw [hbody, hunread]
    exact htracks.unended
  · rw [hbody]
    exact hflag ∘ htracks.cut

theorem of_terminal {clean : Bool} (hinner : next.body.inner = none)
    (hterminal : next.body.terminal = some clean)
    (hended : clean = true → framesToEnd source = some given)
    (hunended : clean = false →
      framesToEnd source = (framesToEnd next.unread).map (given ++ ·) ∧
        next.upload.cancelled = true) :
    next.Tracks source given := by
  constructor
  · rw [hinner]
    nofun
  · rw [hterminal]
    nofun
  · rw [hterminal]
    rintro ⟨⟩
    exact hended rfl
  · rw [hterminal]
    cases clean with
    | true => exact fun h => absurd rfl h
    | false => exact fun _ => (hunended rfl).1
  · rw [hterminal]
    rintro ⟨⟩
    exact (hunended rfl).2

theorem of_held (hinner : next.body.inner = some rest) (hterminal : next.body.terminal = none)
    (hunread : next.unread = rest)
    (hframes : framesToEnd source = (framesToEnd rest).map (given ++ ·)) :
    next.Tracks source given := by
  constructor
  · rintro rest' hrest
    rw [hinner] at hrest
    cases hrest
    exact ⟨hterminal, hunread⟩
  · rw [hinner]
    nofun
  · rw [hterminal]
    nofun
  · rw [hunread]
    exact fun _ => hframes
  · rw [hterminal]
    nofun

theorem frames (htracks : run.Tracks source given) (hinner : run.body.inner = some rest) :
    framesToEnd source = (framesToEnd rest).map (given ++ ·) := by
  obtain ⟨hterminal, hunread⟩ := htracks.held rest hinner
  rw [← hunread]
  apply htracks.unended
  rw [hterminal]
  nofun

theorem initial {complete : Bool} (hhint : EndHint (some source) complete) :
    (UploadRun.initial source complete : UploadRun W D E).Tracks source [] := by
  cases complete with
  | true =>
    apply of_terminal rfl rfl
    · intro _
      exact hhint rfl source rfl
    · nofun
  | false =>
    have hframes : framesToEnd source = (framesToEnd source).map ([] ++ ·) := by simp
    exact of_held rfl rfl rfl hframes

theorem pollCancelled (htracks : run.Tracks source given) (hcancelled : run.upload.cancelled = true)
    (hbody : (next.body, next.upload) = run.body.observeTerminal run.upload false)
    (hunread : next.unread = run.unread) : next.Tracks source given := by
  cases hterminal : run.body.terminal with
  | some =>
    rw [TrackedRequestBody.observeTerminal_of_some hterminal] at hbody
    obtain ⟨hsame, hupload⟩ := Prod.mk.inj hbody
    apply htracks.of_same hsame hunread
    rw [hupload]
    exact id
  | none =>
    rw [TrackedRequestBody.observeTerminal_of_none hterminal] at hbody
    obtain ⟨hsame, hupload⟩ := Prod.mk.inj hbody
    have hflag : next.upload.cancelled = true := by
      rw [hupload, if_neg Bool.false_ne_true, UploadState.cancel]
      split
      · exact hcancelled
      · rfl
    apply of_terminal (congrArg TrackedRequestBody.inner hsame)
      (congrArg TrackedRequestBody.terminal hsame)
    · nofun
    · intro _
      refine ⟨?_, hflag⟩
      rw [hunread]
      apply htracks.unended
      rw [hterminal]
      nofun

theorem of_clean {last : List D} {answers : List (PolledFrame D E)}
    (htracks : run.Tracks source given) (hinner : run.body.inner = some answers)
    (hlast : framesToEnd answers = some last)
    (hbody : next.body = { inner := none, terminal := some true }) :
    next.Tracks source (given ++ last) := by
  apply of_terminal (congrArg TrackedRequestBody.inner hbody)
    (congrArg TrackedRequestBody.terminal hbody)
  · intro _
    rw [htracks.frames hinner, hlast]
    rfl
  · nofun

end UploadRun.Tracks

namespace UploadRun

variable {source : List (PolledFrame D E)} {given : List D} {run : UploadRun W D E} {ended : Bool}

def afterPoll (run : UploadRun W D E) (ended : Bool) : UploadRun W D E :=
  { run.withBody (run.body.pollInner run.upload ended).1 false with unread := run.unreadAfter }

theorem unreadAfter_held {answers : List (PolledFrame D E)} (hlive : run.upload.cancelled = false)
    (hinner : run.body.inner = some answers) : run.unreadAfter = answers.tail := by
  rw [unreadAfter, hlive, if_neg Bool.false_ne_true, innerAfter, hinner]
  rfl

variable {answer : PolledFrame D E}

theorem afterPoll_body {result : TrackedRequestBody D E × UploadState W}
    (hpoll : run.body.pollInner run.upload ended = (result, answer)) :
    (run.afterPoll ended).body = result.1 ∧ (run.afterPoll ended).upload = result.2 := by
  rw [afterPoll, hpoll]
  exact ⟨rfl, rfl⟩

theorem Tracks.quiet {next : UploadRun W D E} (htracks : next.Tracks source given)
    (hanswer : framesOf answer = []) : next.Tracks source (given ++ framesOf answer) := by
  rw [hanswer, List.append_nil]
  exact htracks

theorem tracks_afterPoll_cancelled (htracks : run.Tracks source given)
    (hflag : run.upload.cancelled = true) : (run.afterPoll ended).Tracks source given := by
  have hpoll : run.body.pollInner run.upload ended = _ :=
    TrackedRequestBody.pollInner_cancelled hflag
  obtain ⟨hbody, hupload⟩ := afterPoll_body hpoll
  apply htracks.pollCancelled hflag
  · rw [hbody, hupload]
  · change run.unreadAfter = run.unread
    rw [unreadAfter, if_pos hflag]

theorem tracks_afterPoll_dropped (htracks : run.Tracks source given)
    (hflag : run.upload.cancelled = false) (hinner : run.body.inner = none) :
    (run.afterPoll ended).Tracks source given := by
  have hpoll : run.body.pollInner run.upload ended = _ :=
    TrackedRequestBody.pollInner_dropped hflag hinner
  obtain ⟨hbody, hupload⟩ := afterPoll_body hpoll
  apply htracks.of_same hbody
  · change run.unreadAfter = run.unread
    rw [unreadAfter, hflag, if_neg Bool.false_ne_true, innerAfter, hinner]
    rfl
  · rw [hupload]
    exact id

theorem tracks_afterPoll_held {answers : List (PolledFrame D E)} {upload : UploadState W}
    (htracks : run.Tracks source given) (hflag : run.upload.cancelled = false)
    (hinner : run.body.inner = some answers) (hpoll : run.body.pollInner run.upload ended =
      (({ run.body with inner := some answers.tail }, upload), answer))
    (hframes : (framesToEnd answers).map (given ++ ·) =
      (framesToEnd answers.tail).map (given ++ framesOf answer ++ ·)) :
    (run.afterPoll ended).Tracks source (given ++ framesOf answer) := by
  obtain ⟨hbody, _⟩ := afterPoll_body hpoll
  apply Tracks.of_held (congrArg TrackedRequestBody.inner hbody) _ (unreadAfter_held hflag hinner)
  · exact (htracks.frames hinner).trans hframes
  · rw [hbody]
    exact (htracks.held answers hinner).1

theorem tracks_afterPoll (htracks : run.Tracks source given) (hhint : EndHint run.innerAfter ended)
    (hok : isError (run.body.pollInner run.upload ended).2 = false) :
    (run.afterPoll ended).Tracks source
      (given ++ framesOf (run.body.pollInner run.upload ended).2) := by
  cases hflag : run.upload.cancelled with
  | true =>
    rw [TrackedRequestBody.pollInner_cancelled hflag]
    exact (tracks_afterPoll_cancelled htracks hflag).quiet rfl
  | false =>
    cases hinner : run.body.inner with
    | none =>
      rw [TrackedRequestBody.pollInner_dropped hflag hinner]
      exact (tracks_afterPoll_dropped htracks hflag hinner).quiet rfl
    | some answers =>
      obtain ⟨hopen, _⟩ := htracks.held answers hinner
      match answers, hinner with
      | [], hinner =>
        have hpoll : run.body.pollInner run.upload ended = _ :=
          TrackedRequestBody.pollInner_nil hflag hinner
        rw [hpoll]
        exact tracks_afterPoll_held htracks hflag hinner hpoll rfl
      | .pending :: rest, hinner =>
        have hpoll : run.body.pollInner run.upload ended = _ :=
          TrackedRequestBody.pollInner_pending hflag hinner
        rw [hpoll]
        exact tracks_afterPoll_held htracks hflag hinner hpoll (by simp [framesToEnd, framesOf])
      | .ready none :: rest, hinner =>
        have hpoll : run.body.pollInner run.upload ended = _ :=
          TrackedRequestBody.pollInner_end hflag hopen hinner (.inl rfl)
        rw [hpoll]
        exact htracks.of_clean hinner rfl (afterPoll_body hpoll).1
      | .ready (some (.ok .trailers)) :: rest, hinner =>
        have hpoll : run.body.pollInner run.upload ended = _ :=
          TrackedRequestBody.pollInner_end hflag hopen hinner (.inr rfl)
        rw [hpoll]
        exact htracks.of_clean hinner rfl (afterPoll_body hpoll).1
      | .ready (some (.error error)) :: rest, hinner =>
        rw [TrackedRequestBody.pollInner_error hflag hinner] at hok
        exact absurd hok nofun
      | .ready (some (.ok (.data bytes))) :: rest, hinner =>
        cases ended with
        | true =>
          have hpoll : run.body.pollInner run.upload true = _ :=
            TrackedRequestBody.pollInner_last hflag hopen hinner
          have hlast : framesToEnd rest = some [] := by
            apply hhint rfl
            rw [innerAfter, hinner]
            rfl
          rw [hpoll]
          apply htracks.of_clean hinner _ (afterPoll_body hpoll).1
          rw [framesToEnd, hlast]
          rfl
        | false =>
          have hpoll : run.body.pollInner run.upload false = _ :=
            TrackedRequestBody.pollInner_data hflag hinner
          rw [hpoll]
          apply tracks_afterPoll_held htracks hflag hinner hpoll
          rw [framesToEnd, Option.map_map]
          congr 1
          funext frames
          exact List.append_cons given bytes frames

theorem tracks_step {event : UploadEvent W D E} {next : UploadRun W D E}
    (htracks : run.Tracks source given) (hstep : run.Step event next)
    (hok : ∀ answer, event.polled = some answer → isError answer = false) :
    next.Tracks source (given ++ (event.polled.map framesOf).getD []) := by
  have hquiet : ∀ {next : UploadRun W D E}, next.Tracks source given →
      next.Tracks source (given ++ []) := by
    intro next h
    rw [List.append_nil]
    exact h
  cases hstep with
  | pollCancelled _ _ hcancelled => exact hquiet (htracks.pollCancelled hcancelled rfl rfl)
  | pollFrame _ _ hhint => exact tracks_afterPoll htracks hhint (hok _ rfl)
  | isEndStream => exact hquiet htracks
  | storeCancelled => exact hquiet (htracks.of_same rfl rfl fun _ => rfl)
  | _ => exact hquiet (htracks.of_same rfl rfl id)

end UploadRun

/-! ### The clean end -/

section CleanEnd

variable {source : List (PolledFrame D E)} {complete : Bool} {events : List (UploadEvent W D E)}
  {event : UploadEvent W D E} {run next : UploadRun W D E}

theorem tracks_of_run (hhint : EndHint (some source) complete)
    (hrun : (uploadSystem W D E).Run (UploadRun.initial source complete) events run) :
    ¬ GaveError events → run.Tracks source (handedOut events) := by
  refine hrun.history (fun events run => ¬ GaveError events → run.Tracks source (handedOut events))
    ?_ ?_
  · intro _
    exact UploadRun.Tracks.initial hhint
  · intro events run event next ih hstep hclean
    apply UploadRun.tracks_step (ih (not_gaveError_tail hclean)) hstep
    intro answer hanswer
    cases herror : isError answer with
    | false => rfl
    | true => exact absurd ⟨event, List.mem_cons_self, answer, hanswer, herror⟩ hclean

theorem framesToEnd_of_ready_none {rest : List (PolledFrame D E)} {ended : Bool}
    (hlive : run.upload.cancelled = false) (hinner : run.body.inner = some rest)
    (hanswer : (run.body.pollInner run.upload ended).2 = .ready none) :
    framesToEnd rest = some [] := by
  rw [TrackedRequestBody.pollInner, hlive, if_neg Bool.false_ne_true, hinner] at hanswer
  match rest, hanswer with
  | .ready none :: _, _ | .ready (some (.ok .trailers)) :: _, _ => rfl

theorem sees_end_live {given : List D} (htracks : run.Tracks source given)
    (hstep : run.Step event next) (hend : event.SeesEnd) (hlive : run.upload.cancelled = false) :
    run.body.terminal = some true ∨ framesToEnd run.unread = some [] := by
  have hdropped : run.body.inner = none → run.body.terminal = some true := by
    intro hinner
    cases hterminal : run.body.terminal with
    | none => exact absurd hterminal (htracks.dropped hinner)
    | some clean =>
      cases clean with
      | true => rfl
      | false => exact absurd (htracks.cut hterminal) (by simp [hlive])
  cases hstep with
  | pollCancelled _ _ hcancelled =>
    rw [hlive] at hcancelled
    cases hcancelled
  | pollFrame ended =>
    have hanswer : (run.body.pollInner run.upload ended).2 = .ready none := by
      rcases hend with h | ⟨_, h⟩
      · exact Option.some.inj h
      · cases h
    cases hinner : run.body.inner with
    | none => exact .inl (hdropped hinner)
    | some rest =>
      obtain ⟨hopen, hunread⟩ := htracks.held rest hinner
      rw [hunread]
      exact .inr (framesToEnd_of_ready_none hlive hinner hanswer)
  | isEndStream ended _ hhint =>
    have hanswer : run.body.isEndStream run.upload ended = true := by
      rcases hend with h | ⟨_, h⟩
      · cases h
      · exact (UploadEvent.isEndStream.inj h).2
    cases hinner : run.body.inner with
    | none => exact .inl (hdropped hinner)
    | some rest =>
      rw [TrackedRequestBody.isEndStream, hlive, hinner] at hanswer
      rw [(htracks.held rest hinner).2]
      exact .inr (hhint hanswer rest hinner)
  | _ => rcases hend with h | ⟨_, h⟩ <;> cases h

/-- **A clean end of an upload.** The consumer that sees a clean end, and got no error before, has got
exactly the data frames of an inner body that ended cleanly if and only if the upload was not cancelled
at that moment, or its body had been read to a clean end before, or nothing but the clean end was
left to read. -/
theorem clean_end_is_whole_iff (hhint : EndHint (some source) complete)
    (hrun : (uploadSystem W D E).Run (UploadRun.initial source complete) events run)
    (hstep : run.Step event next) (hend : event.SeesEnd) (hclean : ¬ GaveError events) :
    framesToEnd source = some (handedOut events) ↔
      run.upload.cancelled = false ∨ run.body.terminal = some true ∨
        framesToEnd run.unread = some [] := by
  have htracks := tracks_of_run hhint hrun hclean
  have hwhole : framesToEnd source = some (handedOut events) ↔
      run.body.terminal = some true ∨ framesToEnd run.unread = some [] := by
    by_cases hterminal : run.body.terminal = some true
    · simp only [hterminal, htracks.ended hterminal, true_or]
    · rw [htracks.unended hterminal]
      simp [hterminal]
  rw [hwhole]
  constructor
  · exact .inr
  · rintro (hlive | hrest)
    · exact sees_end_live htracks hstep hend hlive
    · exact hrest

end CleanEnd

def twoFrames : List (PolledFrame Nat Unit) :=
  [.ready (some (.ok (.data 1))), .ready (some (.ok (.data 2))), .ready none]

def firstRead : UploadRun Unit Nat Unit :=
  { body := { inner := some [.ready (some (.ok (.data 2))), .ready none], terminal := none }
    upload := { complete := false, cancelled := false, waker := some () }
    polling := false
    forward := .dispatching
    unread := [.ready (some (.ok (.data 2))), .ready none] }

def firstReadEvents : List (UploadEvent Unit Nat Unit) :=
  [.pollFrame false (.ready (some (.ok (.data 1)))), .pollEnter () none]

theorem run_firstRead :
    (uploadSystem Unit Nat Unit).Run (.initial twoFrames false) firstReadEvents firstRead := by
  apply Transitions.Run.step
  · exact Transitions.Run.start.step (UploadRun.Step.pollRegister () rfl rfl)
  · exact UploadRun.Step.pollFrame false rfl nofun

/-- The second frame comes with the hint that the body has ended. -/
theorem clean_end_is_whole_iff_sample :
    framesToEnd twoFrames = some (handedOut
      (.pollFrame true (.ready (some (.ok (.data 2)))) :: .pollEnter () none :: firstReadEvents)) := by
  have hregister := run_firstRead.step (UploadRun.Step.pollRegister () rfl rfl)
  have hread := hregister.step (UploadRun.Step.pollFrame true rfl fun _ rest hrest => by cases hrest; rfl)
  have hclean : ¬ GaveError
      (.pollFrame true (.ready (some (.ok (.data 2)))) :: .pollEnter () none :: firstReadEvents) := by
    simp [GaveError, firstReadEvents, UploadEvent.polled, isError]
  have hhint : EndHint (some twoFrames) false := nofun
  exact (clean_end_is_whole_iff hhint hread
    (UploadRun.Step.isEndStream false rfl nofun) (.inr ⟨false, rfl⟩) hclean).2 (.inl rfl)

/-- The future of `forward` is dropped after the first frame, and the next poll answers
`Ready(None)`: one of the two frames was handed out. -/
theorem cancelled_upload_looks_complete :
    ∃ (events : List (UploadEvent Unit Nat Unit)) (run next : UploadRun Unit Nat Unit)
      (event : UploadEvent Unit Nat Unit),
      (uploadSystem Unit Nat Unit).Run (.initial twoFrames false) events run ∧
        run.Step event next ∧ event.SeesEnd ∧ ¬ GaveError events ∧
        handedOut events = [1] ∧ framesToEnd twoFrames = some [1, 2] := by
  have habandon := run_firstRead.step (UploadRun.Step.abandon rfl)
  have henter := habandon.step (UploadRun.Step.enterCancel rfl)
  have hstore := henter.step (UploadRun.Step.storeCancelled rfl)
  refine ⟨_, _, _, _, hstore, UploadRun.Step.pollCancelled () rfl rfl, .inl rfl, ?_, rfl, rfl⟩
  simp [GaveError, firstReadEvents, UploadEvent.polled, isError]

end AuthMiniGateway

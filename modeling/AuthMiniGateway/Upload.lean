import AuthMiniGateway.Lib.Transition

/-!
# The tracked request body

The inner body is the list of the answers that its next calls of `poll_frame` give, and whether `is_end_stream`
is true is decided by it at each call. The atomic steps are those of the source.
-/

namespace AuthMiniGateway

inductive Poll (α : Type) where
  | pending
  | ready (value : α)
  deriving DecidableEq, Repr

inductive Frame (D : Type) where
  | data (bytes : D)
  | trailers
  deriving DecidableEq, Repr

abbrev PolledFrame (D E : Type) := Poll (Option (Except E (Frame D)))

structure UploadState (W : Type) where
  complete : Bool
  cancelled : Bool
  waker : Option W
  deriving DecidableEq, Repr

namespace UploadState

variable {W : Type}

def default : UploadState W :=
  { complete := false, cancelled := false, waker := none }

variable (upload : UploadState W)

def markComplete : UploadState W :=
  { upload with complete := true, waker := none }

/-- The second half of `cancel`, which runs when `complete` was read as false. -/
def storeCancelled : UploadState W :=
  { upload with cancelled := true, waker := none }

def cancel : UploadState W :=
  if upload.complete then upload else upload.storeCancelled

def register (waker : W) : UploadState W :=
  { upload with waker := some waker }

end UploadState

structure TrackedRequestBody (D E : Type) where
  inner : Option (List (PolledFrame D E))
  terminal : Option Bool

namespace TrackedRequestBody

variable {W D E : Type}

variable (body : TrackedRequestBody D E)

variable (upload : UploadState W)

def observeTerminal (clean : Bool) :
    TrackedRequestBody D E × UploadState W :=
  match body.terminal with
  | some _ => (body, upload)
  | none =>
    ({ inner := none, terminal := some clean },
      if clean then upload.markComplete else upload.cancel)

/-- `complete` is what the inner body answers to `is_end_stream`. -/
def new (inner : List (PolledFrame D E)) (upload : UploadState W) (complete : Bool) :
    TrackedRequestBody D E × UploadState W :=
  let body : TrackedRequestBody D E := { inner := some inner, terminal := none }
  if complete then body.observeTerminal upload true else (body, upload)

def endCancelled :
    (TrackedRequestBody D E × UploadState W) × PolledFrame D E :=
  (body.observeTerminal upload false, .ready none)

/-- From the second read of `cancelled` on. `ended` is what the inner body answers to `is_end_stream`
after a data frame. -/
def pollInner (ended : Bool) :
    (TrackedRequestBody D E × UploadState W) × PolledFrame D E :=
  if upload.cancelled then body.endCancelled upload
  else
    match body.inner with
    | none => ((body, upload), .ready none)
    | some [] => ((body, upload), .pending)
    | some (answer :: rest) =>
      let body := { body with inner := some rest }
      match answer with
      | .ready (some (.ok .trailers)) => (body.observeTerminal upload true, .ready none)
      | .ready (some (.ok frame)) =>
        (if ended then body.observeTerminal upload true else (body, upload),
          .ready (some (.ok frame)))
      | .ready none => (body.observeTerminal upload true, .ready none)
      | .ready (some (.error error)) =>
        (body.observeTerminal upload false, .ready (some (.error error)))
      | .pending => ((body, upload), .pending)

def isEndStream (ended : Bool) : Bool :=
  upload.cancelled || body.inner.isNone || ended

/-- The drop of the wrapper; the last component is the report `request_done` gets. -/
def finishOnDrop :
    (TrackedRequestBody D E × UploadState W) × Bool :=
  let result := body.observeTerminal upload false
  (result, result.1.terminal.getD false)

end TrackedRequestBody

/-! ### The upload under its two tasks -/

/-- How far `forward` is with the upload. Its guard is armed while it waits for the response. -/
inductive ForwardPhase where
  | dispatching
  | cancelling
  | storing
  | settled
  deriving DecidableEq, Repr

structure UploadRun (W D E : Type) where
  body : TrackedRequestBody D E
  upload : UploadState W
  -- a poll between its two reads of `cancelled`
  polling : Bool
  forward : ForwardPhase
  -- ghost: the answers that the inner body has not given, also once the wrapper has dropped it
  unread : List (PolledFrame D E)

inductive UploadEvent (W D E : Type) where
  /-- `poll_frame` starts; it ends at once when the upload is cancelled. -/
  | pollEnter (waker : W) (answer : Option (PolledFrame D E))
  /-- The rest of `poll_frame` and its answer. -/
  | pollFrame (ended : Bool) (answer : PolledFrame D E)
  | isEndStream (ended : Bool) (answer : Bool)
  /-- The upstream response arrived, and `forward` reads `complete`. -/
  | respond
  /-- The dispatch failed or the future of `forward` was dropped, so the armed guard cancels. -/
  | abandon
  /-- `cancel` reads `complete`. -/
  | enterCancel
  /-- `cancel` stores `cancelled` and wakes the registered waker. -/
  | storeCancelled

/-- The data frames that an inner body still gives up to its clean end, and `none` when the body does
not end or ends with an error. Trailers are the last frame of a body. -/
def framesToEnd {D E : Type} : List (PolledFrame D E) → Option (List D)
  | [] => none
  | .pending :: rest => framesToEnd rest
  | .ready none :: _ => some []
  | .ready (some (.ok .trailers)) :: _ => some []
  | .ready (some (.ok (.data bytes))) :: rest => (framesToEnd rest).map (bytes :: ·)
  | .ready (some (.error _)) :: _ => none

/-- The contract of `Body::is_end_stream`: a true answer means that the body ends cleanly with no
further data frame. -/
def EndHint {D E : Type} (inner : Option (List (PolledFrame D E))) (ended : Bool) : Prop :=
  ended = true → ∀ rest, inner = some rest → framesToEnd rest = some []

namespace UploadRun

variable {W D E : Type}

def withBody (run : UploadRun W D E) (result : TrackedRequestBody D E × UploadState W)
    (polling : Bool) : UploadRun W D E :=
  { run with body := result.1, upload := result.2, polling }

/-- The inner body after the answer that a poll takes from it. -/
def innerAfter (run : UploadRun W D E) : Option (List (PolledFrame D E)) :=
  run.body.inner.map List.tail

/-- A poll that reaches the inner body takes one answer from it. -/
def unreadAfter (run : UploadRun W D E) : List (PolledFrame D E) :=
  if run.upload.cancelled then run.unread else run.innerAfter.getD run.unread

inductive Step : UploadRun W D E → UploadEvent W D E → UploadRun W D E → Prop
  | pollCancelled {run} (waker) (hidle : run.polling = false) (hcancelled : run.upload.cancelled = true) :
      Step run (.pollEnter waker (some (run.body.endCancelled run.upload).2))
        (run.withBody (run.body.endCancelled run.upload).1 false)
  | pollRegister {run} (waker) (hidle : run.polling = false)
      (hcancelled : run.upload.cancelled = false) :
      Step run (.pollEnter waker none) (run.withBody (run.body, run.upload.register waker) true)
  | pollFrame {run} (ended) (hpolling : run.polling = true) (hhint : EndHint run.innerAfter ended) :
      Step run (.pollFrame ended (run.body.pollInner run.upload ended).2)
        { run.withBody (run.body.pollInner run.upload ended).1 false with unread := run.unreadAfter }
  | isEndStream {run} (ended) (hidle : run.polling = false) (hhint : EndHint run.body.inner ended) :
      Step run (.isEndStream ended (run.body.isEndStream run.upload ended)) run
  | respond {run} (hphase : run.forward = .dispatching) :
      Step run .respond
        { run with forward := if run.upload.complete then .settled else .cancelling }
  | abandon {run} (hphase : run.forward = .dispatching) :
      Step run .abandon { run with forward := .cancelling }
  | enterCancel {run} (hphase : run.forward = .cancelling) :
      Step run .enterCancel
        { run with forward := if run.upload.complete then .settled else .storing }
  | storeCancelled {run} (hphase : run.forward = .storing) :
      Step run .storeCancelled
        { run with upload := run.upload.storeCancelled, forward := .settled }

def initial (source : List (PolledFrame D E)) (complete : Bool) : UploadRun W D E :=
  let result := TrackedRequestBody.new source UploadState.default complete
  { body := result.1, upload := result.2, polling := false, forward := .dispatching,
    unread := source }

end UploadRun

def uploadSystem (W D E : Type) : Transitions (UploadRun W D E) (UploadEvent W D E) :=
  { step := UploadRun.Step }

end AuthMiniGateway

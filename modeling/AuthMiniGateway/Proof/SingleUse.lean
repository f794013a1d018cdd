import AuthMiniGateway.Proof.LoginTransactions
import AuthMiniGateway.Proof.SafeTargets

namespace AuthMiniGateway

section Programs

variable (platform : Platform) (config : Config) (job : LoginJob)

def Logs {α : Type} (p : Statements α) (u : LoginView) (post : LoginView → α → Prop) : Prop :=
  p.Meets (loginView platform config job) noLoginCalls u post

variable {platform config job} {α β : Type} {u : LoginView} {post : LoginView → α → Prop}

theorem Logs.ask {op : LoginOp} {f : op.Reply → Statements α}
    (howes : ∀ v, u.Stays v → op.Owes platform config job v)
    (hnext : ∀ v reply v', u.Stays v → v'.trace = ⟨op, reply⟩ :: v.trace →
      (∀ id, v.mine id → v'.mine id) → op.Learns v reply v' →
      Logs platform config job (f reply) v' post) :
    Logs platform config job ((Statements.ask op).bind f) u post := by
  intro v hstays
  refine ⟨howes v hstays, ?_⟩
  rintro reply v' ⟨htrace, hmine, hlearns⟩
  exact hnext v reply v' hstays htrace hmine hlearns

theorem Logs.pure {value : α} (hpost : ∀ v, u.Stays v → post v value) :
    Logs platform config job (Pure.pure value) u post := hpost

theorem Logs.bind {p : Statements β} {f : β → Statements α} {mid : LoginView → β → Prop}
    (hp : Logs platform config job p u mid)
    (hf : ∀ v value, mid v value → Logs platform config job (f value) v post) :
    Logs platform config job (p.bind f) u post :=
  Program.Meets.bind (hp.mono hf)

/-! ### Statements between the marks -/

/-- The worker has made statements, but has not returned from `consume_login_state` and has not created
a session meanwhile. -/
structure LoginView.Grows (u v : LoginView) : Prop where
  trace : ∃ added, v.trace = added ++ u.trace ∧
    ∀ x ∈ added, x.op.isReturn = false ∧ x.op.createsSession = false
  mine : ∀ id, u.mine id → v.mine id

namespace LoginView.Grows

variable {v w : LoginView}

theorem of_stays (h : u.Stays v) : u.Grows v :=
  ⟨⟨[], h.trace, fun _ hx => absurd hx List.not_mem_nil⟩, h.mine⟩

theorem trans (h : u.Grows v) (h' : v.Grows w) : u.Grows w := by
  obtain ⟨added, htrace, hquiet⟩ := h.trace
  obtain ⟨added', htrace', hquiet'⟩ := h'.trace
  refine ⟨⟨added' ++ added, ?_, ?_⟩, fun id hid => h'.mine id (h.mine id hid)⟩
  · rw [htrace', htrace, List.append_assoc]
  · intro x hx
    rcases List.mem_append.mp hx with hx | hx
    · exact hquiet' x hx
    · exact hquiet x hx

theorem act {op : LoginOp} {reply : op.Reply} (h : u.Grows v)
    (htrace : w.trace = ⟨op, reply⟩ :: v.trace) (hmine : ∀ id, v.mine id → w.mine id)
    (hreturn : op.isReturn = false) (hcreate : op.createsSession = false) : u.Grows w := by
  apply h.trans
  refine ⟨⟨[⟨op, reply⟩], htrace, ?_⟩, hmine⟩
  intro x hx
  cases List.mem_singleton.mp hx
  exact ⟨hreturn, hcreate⟩

theorem quiet (h : u.Grows v)
    (hu : ∀ x ∈ u.trace, x.op.isReturn = false ∧ x.op.createsSession = false) :
    ∀ x ∈ v.trace, x.op.isReturn = false ∧ x.op.createsSession = false := by
  obtain ⟨added, htrace, hquiet⟩ := h.trace
  intro x hx
  rw [htrace] at hx
  rcases List.mem_append.mp hx with hx | hx
  · exact hquiet x hx
  · exact hu x hx

theorem mem (h : u.Grows v) {x : LoginExchange} (hx : x ∈ u.trace) : x ∈ v.trace := by
  obtain ⟨added, htrace, -⟩ := h.trace
  rw [htrace]
  exact List.mem_append_right _ hx

end LoginView.Grows

theorem Logs.step {op : LoginOp} {f : op.Reply → Statements α} {base : LoginView}
    (hgrows : base.Grows u) (howes : ∀ v, op.Owes platform config job v)
    (hreturn : op.isReturn = false) (hcreate : op.createsSession = false)
    (hnext : ∀ reply v, base.Grows v → Logs platform config job (f reply) v post) :
    Logs platform config job ((Statements.ask op).bind f) u post := by
  refine Logs.ask (fun v _ => howes v) ?_
  intro v reply v' hstays htrace hmine _
  apply hnext
  exact (hgrows.trans (.of_stays hstays)).act htrace hmine hreturn hcreate

theorem Logs.ends {value : α} {base : LoginView} (hgrows : base.Grows u)
    (hpost : ∀ v, base.Grows v → post v value) :
    Logs platform config job (Pure.pure value) u post :=
  Logs.pure fun v hstays => hpost v (hgrows.trans (.of_stays hstays))

theorem logs_abort {base : LoginView} {error : StoreError} (hgrows : base.Grows u) :
    Logs platform config job (Statements.abort error) u fun v result =>
      base.Grows v ∧ result = .err error := by
  refine Logs.step hgrows (fun _ => trivial) rfl rfl ?_
  intro _ v hgrows
  exact Logs.ends hgrows fun v hgrows => ⟨hgrows, rfl⟩

theorem logs_prune : Logs platform config job Statements.prune u fun v _ => u.Grows v := by
  refine Logs.step (.of_stays ⟨rfl, rfl, fun _ h => h, fun _ h => h⟩) (fun _ => trivial) rfl rfl ?_
  intro now v hgrows
  refine Logs.step hgrows (fun _ => trivial) rfl rfl ?_
  intro reply v hgrows
  cases reply with
  | error => exact Logs.ends hgrows fun v hgrows => hgrows
  | ok =>
    refine Logs.step hgrows (fun _ => trivial) rfl rfl ?_
    intro reply v hgrows
    exact Logs.ends hgrows fun v hgrows => hgrows

/-! ### The transaction -/

/-- What `consume_login_state` ends with at the time `now`. -/
def Consumes (base : LoginView) (id : String) (now : Int) (v : LoginView)
    (result : Res (Option LoginState)) : Prop :=
  base.Grows v ∧ ∀ state, result = .ok (some state) →
    v.mine id ∧ (now < endText → now < state.expiresAt)

variable {base : LoginView} {id : String} {now : Int}

theorem logs_abort_consumes {error : StoreError} (hgrows : base.Grows u) :
    Logs platform config job (Statements.abort error) u (Consumes base id now) := by
  apply (logs_abort hgrows).mono
  rintro v result ⟨hgrows, rfl⟩
  exact ⟨hgrows, nofun⟩

variable {table : LoginTable} {state : LoginState} {returnTo : String}

theorem logs_finish_none {version : Nat} (hgrows : base.Grows u)
    (htxn : u.txn = .reading table version) :
    Logs platform config job (Statements.finish none none) u (Consumes base id now) := by
  refine Logs.ask ?_ ?_
  · intro v hstays
    exact ⟨table, version, hstays.txn.trans htxn⟩
  · intro v reply v' hstays htrace hmine _
    have hgrows := (hgrows.trans (.of_stays hstays)).act htrace hmine rfl rfl
    cases reply with
    | error error | ok _ => exact Logs.ends hgrows fun v hgrows => ⟨hgrows, nofun⟩

theorem logs_finish_some {nowText : String} {row : LoginRow} (hgrows : base.Grows u)
    (htxn : u.txn = .writing table (table.consume id nowText))
    (hselect : table.select id nowText = some row)
    (hexpiry : now < endText → now < state.expiresAt) :
    Logs platform config job (Statements.finish (some id) (some state)) u (Consumes base id now) := by
  refine Logs.ask ?_ ?_
  · intro v hstays
    exact ⟨table, nowText, row, hstays.txn.trans htxn, hselect⟩
  · intro v reply v' hstays htrace hmine hlearns
    have hgrows := (hgrows.trans (.of_stays hstays)).act htrace hmine rfl rfl
    cases reply with
    | error => exact Logs.ends hgrows fun v hgrows => ⟨hgrows, nofun⟩
    | ok =>
      apply Logs.pure
      intro w hstays'
      refine ⟨hgrows.trans (.of_stays hstays'), ?_⟩
      rintro _ ⟨⟩
      exact ⟨hstays'.mine id (hlearns rfl id rfl), hexpiry⟩

theorem logs_consumeRow {version : Nat} {row : LoginRow} (hgrows : base.Grows u)
    (htxn : u.txn = .reading table version) (hselect : table.select id (formatTime now) = some row)
    (hwritten : table.Written) :
    Logs platform config job (Statements.consumeRow id now row) u (Consumes base id now) := by
  unfold Statements.consumeRow
  cases hread : parseDbTime row.expiresAt with
  | error => exact logs_abort_consumes hgrows
  | ok =>
    refine Logs.ask ?_ ?_
    · intro v hstays
      exact ⟨table, version, row, hstays.txn.trans htxn, hselect⟩
    · intro v reply v' hstays htrace hmine hlearns
      have hgrows := (hgrows.trans (.of_stays hstays)).act htrace hmine rfl rfl
      cases reply with
      | error => exact logs_abort_consumes hgrows
      | ok =>
        obtain ⟨table', version', hreading, hwriting⟩ := hlearns rfl
        rw [hstays.txn, htxn] at hreading
        cases hreading
        exact logs_finish_some hgrows hwriting hselect
          (hwritten.before_expiry hselect hread)

theorem logs_consumeAt (hgrows : base.Grows u) :
    Logs platform config job (Statements.consumeAt id now) u (Consumes base id now) := by
  refine Logs.ask (fun _ _ => trivial) ?_
  intro v reply v' hstays htrace hmine hlearns
  have hgrows := (hgrows.trans (.of_stays hstays)).act htrace hmine rfl rfl
  match reply, hlearns with
  | .error error, _ => exact logs_abort_consumes hgrows
  | .ok none, hlearns =>
    obtain ⟨table, version, htxn, -, -⟩ := hlearns _ rfl
    exact logs_finish_none hgrows htxn
  | .ok (some row), hlearns =>
    obtain ⟨table, version, htxn, hselect, hwritten⟩ := hlearns _ rfl
    exact logs_consumeRow hgrows htxn hselect hwritten

/-! ### The calls -/

def LoginView.Untouched (u : LoginView) : Prop :=
  ∀ x ∈ u.trace, x.op.isReturn = false ∧ x.op.createsSession = false

theorem LoginView.Grows.refl (u : LoginView) : u.Grows u :=
  .of_stays ⟨rfl, rfl, fun _ h => h, fun _ h => h⟩

/-- No session has been created, and a login state that was handed back was returned. -/
def HandsBack (id : String) (v : LoginView) (result : Res (Option LoginState)) : Prop :=
  (∀ x ∈ v.trace, x.op.createsSession = false) ∧
    ∀ state, result = .ok (some state) → ∃ now, Returned id now state ∈ v.trace

theorem logs_consumeLoginState (huntouched : u.Untouched) :
    Logs platform config job (Statements.consumeLoginState id) u (HandsBack id) := by
  refine Logs.step (.refl u) (fun _ => trivial) rfl rfl ?_
  intro reply v hgrows
  cases reply with
  | error =>
    exact Logs.ends hgrows fun v hgrows => ⟨fun x hx => (hgrows.quiet huntouched x hx).2, nofun⟩
  | ok =>
    refine Logs.step hgrows (fun _ => trivial) rfl rfl ?_
    intro now v hgrows
    apply (logs_consumeAt hgrows).bind
    rintro v result ⟨hgrows, hconsumed⟩
    refine Logs.ask ?_ ?_
    · intro v' hstays
      have hgrows := hgrows.trans (.of_stays hstays)
      refine ⟨fun x hx => (hgrows.quiet huntouched x hx).1, ?_⟩
      intro state hstate
      obtain ⟨hmine, hexpiry⟩ := hconsumed state hstate
      exact ⟨hstays.mine id hmine, hexpiry⟩
    · intro v' _ w hstays htrace _ _
      apply Logs.pure
      intro w' hstays'
      have hgrows := hgrows.trans (.of_stays hstays)
      rw [HandsBack, hstays'.trace, htrace]
      constructor
      · intro x hx
        rcases List.mem_cons.mp hx with rfl | hx
        · rfl
        · exact (hgrows.quiet huntouched x hx).2
      · rintro state rfl
        exact ⟨now, List.mem_cons_self⟩

theorem logs_insertLoginState {ttlSeconds : Int} :
    Logs platform config job (Statements.insertLoginState returnTo ttlSeconds) u
      fun _ _ => True := by
  refine Logs.ask (fun _ _ => trivial) ?_
  intro _ token v _ _ _ htoken
  refine Logs.ask (fun _ _ => trivial) ?_
  intro v' now w hstays _ _ hkeeps
  have hholds := hkeeps token (hstays.holds token htoken)
  cases addSeconds now ttlSeconds with
  | none => exact fun _ _ => trivial
  | some expiresAt =>
    refine Logs.ask ?_ ?_
    · intro w' hstays'
      exact ⟨hstays'.holds token hholds, expiresAt, rfl⟩
    · intro _ reply _ _ _ _ _
      cases reply <;> exact fun _ _ => trivial

theorem logs_createLoginState {ttlSeconds : Int} :
    Logs platform config job (Statements.createLoginState returnTo ttlSeconds) u
      fun _ _ => True := by
  apply logs_prune.bind
  intro v result _
  cases result with
  | error => exact fun _ _ => trivial
  | ok => exact logs_insertLoginState

theorem logs_createSession {input : NewSession}
    (hcreates : ∀ x ∈ u.trace, x.op.createsSession = false)
    (hreturned : Returned id now state ∈ u.trace) (hnames : job.Names platform config id) :
    Logs platform config job (Statements.createSession input) u fun _ _ => True := by
  apply logs_prune.bind
  intro v result hgrows
  cases result with
  | error => exact fun _ _ => trivial
  | ok =>
    refine Logs.ask ?_ ?_
    · intro w hstays
      have hgrows := hgrows.trans (.of_stays hstays)
      obtain ⟨added, htrace, hquiet⟩ := hgrows.trace
      refine ⟨?_, id, now, state, hgrows.mem hreturned, hnames⟩
      intro x hx
      rw [htrace] at hx
      rcases List.mem_append.mp hx with hx | hx
      · exact (hquiet x hx).2
      · exact hcreates x hx
    · intro _ _ _ _ _ _ _
      exact fun _ _ => trivial

/-! ### The callback -/

theorem logs_createVerifiedSession {tokens : TokenInput} {verified : VerifiedAccessToken}
    (hcreates : ∀ x ∈ u.trace, x.op.createsSession = false)
    (hreturned : Returned id now state ∈ u.trace) (hnames : job.Names platform config id) :
    Logs platform config job (Statements.ofServer (createVerifiedSession config tokens verified)) u
      fun _ _ => True := by
  unfold createVerifiedSession
  split_ifs
  · exact fun _ _ => trivial
  · cases unixToTime verified.exp with
    | none => exact fun _ _ => trivial
    | some =>
      apply (logs_createSession hcreates hreturned hnames).bind
      intro v result _
      cases result <;> exact fun _ _ => trivial

theorem ofServer_bind (p : Server β) (f : β → Server α) :
    Statements.ofServer (p >>= f) =
      (Statements.ofServer p).bind fun value => Statements.ofServer (f value) :=
  Program.expand_bind _ _ p f

theorem logs_createSessionFromTokens {tokens : TokenInput}
    (hcreates : ∀ x ∈ u.trace, x.op.createsSession = false)
    (hreturned : Returned id now state ∈ u.trace) (hnames : job.Names platform config id) :
    Logs platform config job (Statements.ofServer (createSessionFromTokens config tokens)) u
      fun _ _ => True := by
  refine Logs.ask (fun _ _ => trivial) ?_
  intro v reply v' hstays htrace _ _
  have hcreates' : ∀ x ∈ v'.trace, x.op.createsSession = false := by
    rw [htrace, hstays.trace]
    intro x hx
    rcases List.mem_cons.mp hx with rfl | hx
    · rfl
    · exact hcreates x hx
  have hreturned' : Returned id now state ∈ v'.trace := by
    rw [htrace, hstays.trace]
    exact List.mem_cons_of_mem _ hreturned
  cases reply with
  | error => exact fun _ _ => trivial
  | ok => exact logs_createVerifiedSession hcreates' hreturned' hnames

theorem logs_exchangeTokens {body : CallbackBody}
    (hcreates : ∀ x ∈ u.trace, x.op.createsSession = false)
    (hreturned : Returned id now state ∈ u.trace) (hnames : job.Names platform config id) :
    Logs platform config job (Statements.ofServer (exchangeTokens platform config body returnTo)) u
      fun _ _ => True := by
  unfold exchangeTokens
  cases body.intoTokens with
  | none => exact fun _ _ => trivial
  | some =>
    dsimp only
    rw [ofServer_bind]
    apply (logs_createSessionFromTokens hcreates hreturned hnames).bind
    intro v result _
    match result with
    | none | some none | some (some session) => exact fun _ _ => trivial

theorem logs_handleCallbackSession {request : Request} (huntouched : u.Untouched)
    (hjob : job = .callback request) :
    Logs platform config job (Statements.ofServer (handleCallbackSession platform config request)) u
      fun _ _ => True := by
  unfold handleCallbackSession
  cases hcookie : readSignedCookie platform.mac (request.header "Cookie") loginStateCookie
      config.cookieSecret with
  | none => exact fun _ _ => trivial
  | some stateId =>
    cases hbody : platform.readCallback request.body with
    | none => exact fun _ _ => trivial
    | some body =>
      apply (logs_consumeLoginState huntouched).bind
      rintro v result ⟨hcreates, hreturned⟩
      match result, hreturned with
      | .err error, _ | .panic, _ | .ok none, _ => exact fun _ _ => trivial
      | .ok (some consumed), hreturned =>
        obtain ⟨now, hreturned⟩ := hreturned consumed rfl
        dsimp only
        split_ifs with hstate
        · exact fun _ _ => trivial
        · apply logs_exchangeTokens hcreates hreturned
          exact ⟨request, body, hjob, hcookie, hbody, not_not.mp hstate⟩

theorem logs_start (huntouched : u.Untouched) :
    Logs platform config job (job.start platform config) u fun _ _ => True := by
  cases job with
  | callback =>
    apply (logs_handleCallbackSession huntouched rfl).bind
    exact fun _ _ _ _ _ => trivial
  | consume =>
    apply (logs_consumeLoginState huntouched).bind
    exact fun _ _ _ _ _ => trivial
  | createLogin =>
    apply logs_createLoginState.bind
    exact fun _ _ _ _ _ => trivial
  | prune =>
    apply logs_prune.bind
    exact fun _ _ _ _ _ => trivial

end Programs

/-! ### All workers together -/

section Runs

variable (platform : Platform) (config : Config)

theorem stays_env {w w' : LoginWorld} (henv : (loginMachine platform config).env w w')
    {i : Nat} {history : List (Event loginInterface LoginWorld)} :
    (loginSees i history w).Stays (loginSees i history w') := by
  rcases henv with ⟨now, -, rfl⟩ | hstep
  · exact stays_of_eq rfl rfl rfl
  · exact stays_autocommits hstep

theorem sound_env {w w' : LoginWorld} (hsound : w.Sound)
    (henv : (loginMachine platform config).env w w') : w'.Sound := by
  rcases henv with ⟨now, -, rfl⟩ | hstep
  · exact hsound.clock now
  · exact hsound.autocommit (fun h => h) hstep

def loginDiscipline : Discipline (loginMachine platform config) LoginView where
  inv := LoginWorld.Sound
  view _ job := loginView platform config job
  contract _ _ := noLoginCalls
  see i _ _ history w := loginSees i history w
  goal _ _ _ _ := True
  kept _ _ := nofun
  env hsound henv := ⟨sound_env platform config hsound henv,
    fun _ _ _ _ => stays_env platform config henv⟩
  starts _ _ _ := logs_start fun _ hx => absurd hx List.not_mem_nil
  acts i job born history op reply hsound hact howes := by
    have hacts := loginActs_of_act hsound hact howes
    refine ⟨hacts.sound, ⟨rfl, hacts.mine, hacts.learns _ _⟩, ?_⟩
    intro j hj job' born' history'
    exact hacts.others j hj history'

/-- What the view of a worker shows of its returns and of the session it creates. -/
structure LoginView.Accounts (job : LoginJob) (v : LoginView) : Prop where
  returned : ∀ id now state, Returned id now state ∈ v.trace →
    v.mine id ∧ (now < endText → now < state.expiresAt)
  returnedOnce : (v.trace.filter (·.op.isReturn)).length ≤ 1
  created : ∀ x ∈ v.trace, x.op.createsSession = true →
    ∃ id now state, Returned id now state ∈ v.trace ∧ job.Names platform config id
  createdOnce : (v.trace.filter (·.op.createsSession)).length ≤ 1

namespace LoginView.Accounts

variable {platform config} {job : LoginJob} {u v : LoginView}

theorem stays (h : u.Accounts platform config job) (hstays : u.Stays v) :
    v.Accounts platform config job := by
  constructor
  · rw [hstays.trace]
    intro id now state hmem
    obtain ⟨hmine, hexpiry⟩ := h.returned id now state hmem
    exact ⟨hstays.mine id hmine, hexpiry⟩
  · rw [hstays.trace]
    exact h.returnedOnce
  · rw [hstays.trace]
    exact h.created
  · rw [hstays.trace]
    exact h.createdOnce

theorem filter_cons_le {p : LoginExchange → Bool} {x : LoginExchange} {trace : List LoginExchange}
    (h : (trace.filter p).length ≤ 1) (hnone : p x = true → ∀ y ∈ trace, p y = false) :
    ((x :: trace).filter p).length ≤ 1 := by
  cases hx : p x with
  | false =>
    rw [List.filter_cons_of_neg (by rw [hx]; exact Bool.false_ne_true)]
    exact h
  | true =>
    have hempty : trace.filter p = [] := by
      rw [List.filter_eq_nil_iff]
      intro y hy
      rw [hnone hx y hy]
      exact Bool.false_ne_true
    rw [List.filter_cons_of_pos hx, hempty]
    exact Nat.le_refl 1

variable {op : LoginOp}

theorem isReturn_first (howes : op.Owes platform config job u) (hreturn : op.isReturn = true) :
    ∀ x ∈ u.trace, x.op.isReturn = false := by
  cases op with
  | returned => exact howes.1
  | _ => cases hreturn

theorem createsSession_first (howes : op.Owes platform config job u)
    (hcreate : op.createsSession = true) :
    (∀ x ∈ u.trace, x.op.createsSession = false) ∧
      ∃ id now state, Returned id now state ∈ u.trace ∧ job.Names platform config id := by
  unfold LoginOp.createsSession at hcreate
  split at hcreate
  · exact howes
  · cases hcreate

theorem act {reply : op.Reply} (h : u.Accounts platform config job)
    (howes : op.Owes platform config job u) (htrace : v.trace = ⟨op, reply⟩ :: u.trace)
    (hmine : ∀ id, u.mine id → v.mine id) : v.Accounts platform config job := by
  constructor
  · rw [htrace]
    intro id now state hmem
    rcases List.mem_cons.mp hmem with heq | hmem
    · cases heq
      obtain ⟨hmine', hexpiry⟩ := howes.2 state rfl
      exact ⟨hmine id hmine', hexpiry⟩
    · obtain ⟨hmine', hexpiry⟩ := h.returned id now state hmem
      exact ⟨hmine id hmine', hexpiry⟩
  · rw [htrace]
    exact filter_cons_le h.returnedOnce (isReturn_first howes)
  · rw [htrace]
    intro x hx hcreate
    have hexists : ∃ id now state, Returned id now state ∈ u.trace ∧ job.Names platform config id := by
      rcases List.mem_cons.mp hx with rfl | hx
      · exact (createsSession_first howes hcreate).2
      · exact h.created x hx hcreate
    obtain ⟨id, now, state, hmem, hnames⟩ := hexists
    exact ⟨id, now, state, List.mem_cons_of_mem _ hmem, hnames⟩
  · rw [htrace]
    exact filter_cons_le h.createdOnce fun hcreate => (createsSession_first howes hcreate).1

end LoginView.Accounts

abbrev LoginWorker := Worker loginInterface LoginWorld LoginJob LoginAnswer

namespace LoginWorker

/-- The worker made a call of `consume_login_state` that read the clock at `now` and returned the login
state. -/
def HandsBack (worker : LoginWorker) (id : String) (now : Int) (state : LoginState) : Prop :=
  Returned id now state ∈ worker.history.map Event.toExchange

def returns (worker : LoginWorker) : List LoginExchange :=
  (worker.history.map Event.toExchange).filter (·.op.isReturn)

def sessions (worker : LoginWorker) : List LoginExchange :=
  (worker.history.map Event.toExchange).filter (·.op.createsSession)

end LoginWorker

/-- The database as the calls of an earlier process left it. -/
def LoginWorld.initial (table : LoginTable) (clock : Int) (drawn : List String) : LoginWorld :=
  { wal := { data := table, version := 0, txn := fun _ => .idle }
    clock
    drawn
    takenBy := fun _ => none
    reserved := fun _ => none }

theorem LoginWorld.sound_initial {table : LoginTable} {clock : Int} {drawn : List String}
    (hwritten : table.Written) (hdrawn : ∀ id row, table id = some row → id ∈ drawn) :
    (LoginWorld.initial table clock drawn).Sound := by
  constructor
  · exact Wal.sound_of_idle fun _ => rfl
  · exact hwritten
  · exact nofun
  · exact fun h => hdrawn _ _ h
  · exact nofun
  · exact nofun

variable {platform config}

theorem accounts_of_run {start : LoginWorld} (hsound : start.Sound)
    {pool : Pool loginInterface Nat LoginWorld LoginJob LoginAnswer}
    (hrun : PoolRun (loginMachine platform config) (Pool.idle start) pool) (i : Nat)
    (worker : LoginWorker) (hworker : pool.workers i = some worker) :
    (loginSees i worker.history pool.world).Accounts platform config worker.job := by
  refine (loginDiscipline platform config).view_of_run
    (fun _ job v => v.Accounts platform config job) ?_ ?_ ?_ hsound hrun i worker hworker
  · intro i job w _
    exact ⟨fun _ _ _ h => absurd h List.not_mem_nil, Nat.zero_le 1,
      fun _ h => absurd h List.not_mem_nil, Nat.zero_le 1⟩
  · intro i job v v' haccounts hstays
    exact haccounts.stays hstays
  · intro i job op reply v v' haccounts howes hact
    exact haccounts.act howes hact.1 hact.2.1

end Runs

/-- **Login states are single-use.** In every run of callbacks, consumptions, creations and prunes over
one database in WAL mode: of all calls of `consume_login_state` one at most hands back a given login
state, and none whose clock reads the stored expiry or later, before year 10000; and whoever creates a
session creates one, after a login state was handed back to it that both its signed cookie and its body
name. So different sessions have different login states. -/
theorem login_states_single_use (platform : Platform) (config : Config) {table : LoginTable}
    {clock : Int} {drawn : List String} (hwritten : table.Written)
    (hdrawn : ∀ id row, table id = some row → id ∈ drawn)
    {pool : Pool loginInterface Nat LoginWorld LoginJob LoginAnswer}
    (hrun : PoolRun (loginMachine platform config)
      (Pool.idle (LoginWorld.initial table clock drawn)) pool) :
    (∀ (i j : Nat) (worker worker' : LoginWorker) (id : String) now now' state state',
      pool.workers i = some worker → pool.workers j = some worker' →
      worker.HandsBack id now state → worker'.HandsBack id now' state' → i = j) ∧
    (∀ (i : Nat) (worker : LoginWorker), pool.workers i = some worker →
      worker.returns.length ≤ 1 ∧ worker.sessions.length ≤ 1 ∧
      (∀ id now state, worker.HandsBack id now state → now < endText → now < state.expiresAt) ∧
      (worker.sessions ≠ [] → ∃ id now state, worker.HandsBack id now state ∧
        worker.job.Names platform config id)) := by
  have haccounts := accounts_of_run (LoginWorld.sound_initial hwritten hdrawn) hrun
  constructor
  · intro i j worker worker' id now now' state state' hworker hworker' hback hback'
    have hmine : pool.world.takenBy id = some i := ((haccounts i worker hworker).returned id now state hback).1
    have hmine' : pool.world.takenBy id = some j :=
      ((haccounts j worker' hworker').returned id now' state' hback').1
    rw [hmine] at hmine'
    exact Option.some.inj hmine'
  · intro i worker hworker
    have haccount := haccounts i worker hworker
    refine ⟨haccount.returnedOnce, haccount.createdOnce, ?_, ?_⟩
    · intro id now state hback
      exact (haccount.returned id now state hback).2
    · intro hsessions
      obtain ⟨x, hx⟩ := List.exists_mem_of_ne_nil _ hsessions
      obtain ⟨hmem, hcreate⟩ := List.mem_filter.mp hx
      exact haccount.created x hmem hcreate

/-! ### A run -/

def sampleLoginRow : LoginRow :=
  { id := "state", returnTo := "/", expiresAt := formatTime (10 * nanosPerSecond),
    consumedAt := none, createdAt := formatTime 0 }

def sampleTable : LoginTable := fun id => if id = "state" then some sampleLoginRow else none

theorem sampleTable_eq_some {id : String} {row : LoginRow} (h : sampleTable id = some row) :
    id = "state" ∧ row = sampleLoginRow := by
  unfold sampleTable at h
  split_ifs at h with hid
  exact ⟨hid, (Option.some.inj h).symm⟩

theorem sampleTable_written : sampleTable.Written := by
  intro id row h
  obtain ⟨rfl, rfl⟩ := sampleTable_eq_some h
  exact ⟨rfl, _, rfl⟩

theorem sampleTable_drawn : ∀ id row, sampleTable id = some row → id ∈ ["state"] := by
  intro id row h
  rw [(sampleTable_eq_some h).1]
  exact List.mem_singleton_self _

theorem select_sampleTable {nowText : String} (hlt : nowText < sampleLoginRow.expiresAt) :
    sampleTable.select "state" nowText = some sampleLoginRow := by
  have hrow : sampleTable "state" = some sampleLoginRow := rfl
  rw [LoginTable.select, hrow, Option.filter_eq_some_iff]
  refine ⟨rfl, ?_⟩
  rw [decide_eq_true hlt]
  rfl

theorem unlocked_sample {w : Wal Nat LoginTable} {snapshot : LoginTable} {version : Nat}
    (hidle : ∀ i, w.txn i = .idle) :
    ((w.setTxn 0 .begun).setTxn 0 (.reading snapshot version)).Unlocked := by
  intro i base pending
  by_cases hi : i = 0
  · subst hi
    rw [Wal.setTxn_self]
    nofun
  · rw [Wal.setTxn_of_ne _ hi, Wal.setTxn_of_ne _ hi, hidle]
    nofun

theorem run_consume (now : Int) (hclock : 0 ≤ now)
    (hlt : formatTime now < sampleLoginRow.expiresAt) :
    ∃ (pool : Pool loginInterface Nat LoginWorld LoginJob LoginAnswer) (worker : LoginWorker),
      PoolRun (loginMachine samplePlatform sampleConfig)
        (Pool.idle (LoginWorld.initial sampleTable 0 ["state"])) pool ∧
      pool.workers 0 = some worker ∧
      worker.HandsBack "state" now
        { id := "state", returnTo := "/", expiresAt := 10 * nanosPerSecond } := by
  have hselect := select_sampleTable hlt
  obtain ⟨pool, hrun, hworld, hworker⟩ :=
    PoolRun.extend_spawn (m := loginMachine samplePlatform sampleConfig)
      (.refl (a := Pool.idle (LoginWorld.initial sampleTable 0 ["state"]))) 0 (.consume "state") rfl
  obtain ⟨pool, hrun, hworld, hworker⟩ := hrun.extend_request hworld hworker (.ok ()) _
    (.inr ⟨(), rfl, rfl⟩)
  obtain ⟨pool, hrun, hworld, hworker⟩ := hrun.extend_request hworld hworker now _ ⟨hclock, rfl⟩
  obtain ⟨pool, hrun, hworld, hworker⟩ := hrun.extend_request hworld hworker
    (.ok (some sampleLoginRow)) _
    (.inr ⟨_, rfl, _, _, Wal.Read.first (Wal.setTxn_self _), hselect.symm, rfl⟩)
  obtain ⟨pool, hrun, hworld, hworker⟩ := hrun.extend_request hworld hworker (.ok ()) _
    (.inr ⟨(), rfl, _, Wal.Write.first (Wal.setTxn_self _) (unlocked_sample fun _ => rfl), rfl⟩)
  obtain ⟨pool, hrun, hworld, hworker⟩ := hrun.extend_request hworld hworker (.ok ()) _
    (.inl ⟨_, Wal.Commit.writes (Wal.setTxn_self _), rfl⟩)
  obtain ⟨pool, hrun, hworld, hworker⟩ := hrun.extend_request hworld hworker () _ rfl
  exact ⟨pool, _, hrun, hworker, List.mem_cons_self⟩

theorem login_states_single_use_sample :
    ∃ (pool : Pool loginInterface Nat LoginWorld LoginJob LoginAnswer) (worker : LoginWorker),
      pool.workers 0 = some worker ∧ worker.returns.length ≤ 1 ∧
        5 * nanosPerSecond < 10 * nanosPerSecond := by
  obtain ⟨pool, worker, hrun, hworker, hback⟩ :=
    run_consume (5 * nanosPerSecond) (by decide) (by decide)
  obtain ⟨-, hworkers⟩ := login_states_single_use samplePlatform sampleConfig sampleTable_written
    sampleTable_drawn hrun
  obtain ⟨honce, -, hexpiry, -⟩ := hworkers 0 worker hworker
  exact ⟨pool, worker, hworker, honce, hexpiry _ _ _ hback (by decide)⟩

/-- The text of a time in year 10000 sorts below the stored expiry, so the call hands back a login state
that expired long ago. -/
theorem consumed_after_expiry :
    ∃ (pool : Pool loginInterface Nat LoginWorld LoginJob LoginAnswer) (worker : LoginWorker)
      (state : LoginState),
      PoolRun (loginMachine samplePlatform sampleConfig)
        (Pool.idle (LoginWorld.initial sampleTable 0 ["state"])) pool ∧
      pool.workers 0 = some worker ∧ worker.HandsBack "state" endText state ∧
      state.expiresAt < endText := by
  obtain ⟨pool, worker, hrun, hworker, hback⟩ := run_consume endText (by decide) (by decide)
  exact ⟨pool, worker, _, hrun, hworker, hback, by decide⟩

end AuthMiniGateway

import AuthMiniGateway.LoginMachine
import AuthMiniGateway.Proof.TimeText

/-!
# Login states are single-use

That a login state is consumed once rests on the snapshot: a transaction that gets to its commit has held the
write lock since its `UPDATE`, and by then its snapshot was the data. So it is the atomic
`consumeLoginState` of the store at its commit (`consumeLoginState_of_select`).
-/

namespace AuthMiniGateway

open Function (update update_of_ne update_self)

/-! ### The table -/

namespace LoginTable

variable {table : LoginTable} {id nowText : String} {row : LoginRow}

def Written (table : LoginTable) : Prop :=
  ∀ id row, table id = some row → row.id = id ∧ ∃ expiresAt, row.expiresAt = formatTime expiresAt

theorem select_eq_some (h : table.select id nowText = some row) :
    table id = some row ∧ row.consumedAt = none ∧ nowText < row.expiresAt := by
  obtain ⟨hrow, hguard⟩ := Option.filter_eq_some_iff.mp h
  rw [Bool.and_eq_true, Option.isNone_iff_eq_none, decide_eq_true_eq] at hguard
  exact ⟨hrow, hguard⟩

theorem consume_self (hrow : table id = some row) :
    consume id nowText table id = some { row with consumedAt := some nowText } := by
  rw [consume, update_self, hrow]
  rfl

variable {other : String}

theorem consume_of_ne (hne : other ≠ id) : consume id nowText table other = table other :=
  update_of_ne hne _ _

theorem consume_eq_some (h : consume id nowText table other = some row) :
    ∃ earlier, table other = some earlier ∧ earlier.id = row.id ∧
      earlier.expiresAt = row.expiresAt ∧ (earlier.consumedAt.isSome → row.consumedAt.isSome) := by
  by_cases hid : other = id
  · subst hid
    rw [consume, update_self, Option.map_eq_some_iff] at h
    obtain ⟨earlier, hearlier, rfl⟩ := h
    exact ⟨earlier, hearlier, rfl, rfl, fun _ => rfl⟩
  · rw [consume_of_ne hid] at h
    exact ⟨row, h, rfl, rfl, fun h => h⟩

theorem prune_eq_some (h : prune nowText table other = some row) : table other = some row :=
  (Option.filter_eq_some_iff.mp h).1

theorem Written.consume (hwritten : table.Written) : (consume id nowText table).Written := by
  intro other row h
  obtain ⟨earlier, hearlier, hid, hexpiry, -⟩ := consume_eq_some h
  rw [← hid, ← hexpiry]
  exact hwritten other earlier hearlier

theorem Written.insert (hwritten : table.Written) {expiresAt : Int}
    (hexpiry : row.expiresAt = formatTime expiresAt) : (insert row table).Written := by
  intro other row' h
  by_cases hid : other = row.id
  · subst hid
    rw [LoginTable.insert, update_self] at h
    cases h
    exact ⟨rfl, expiresAt, hexpiry⟩
  · rw [LoginTable.insert, update_of_ne hid] at h
    exact hwritten other row' h

theorem Written.before_expiry (hwritten : table.Written) {now expiresAt : Int}
    (hselect : table.select id (formatTime now) = some row)
    (hread : parseDbTime row.expiresAt = .ok expiresAt) (hera : now < endText) :
    now < expiresAt := by
  obtain ⟨hrow, -, hlt⟩ := select_eq_some hselect
  obtain ⟨-, expiry, hexpiry⟩ := hwritten id row hrow
  rw [hexpiry] at hread hlt
  have hparse : parseTime (formatTime expiry) = some expiresAt := by
    unfold parseDbTime at hread
    split at hread
    · rename_i instant hinstant
      cases hread
      exact hinstant
    · cases hread
  obtain ⟨hrange, rfl⟩ := parseTime_formatTime_eq_some hparse
  by_cases hnow : InTextRange now
  · rw [formatTime_lt_iff hnow hrange] at hlt
    exact (lt_iff_truncMillis_lt (truncMillis_idem expiry)).mpr hlt
  · -- the clock stands before year 0, and every text stands for a later time
    have hrange' := inTextRange_iff.mp hrange.truncMillis
    rw [inTextRange_iff] at hnow
    omega

end LoginTable

/-! ### What the statements keep -/

/-- A login state that was taken is consumed for as long as it is stored, and its identifier is never
inserted again. -/
structure LoginWorld.Sound (w : LoginWorld) : Prop where
  wal : w.wal.Sound
  written : w.wal.data.Written
  snapshots : ∀ {i snapshot version}, w.wal.txn i = .reading snapshot version → snapshot.Written
  drawn : ∀ {id row}, w.wal.data id = some row → id ∈ w.drawn
  taken : ∀ {id i}, w.takenBy id = some i → id ∈ w.drawn ∧
    ∀ row, w.wal.data id = some row → row.consumedAt.isSome
  reserved : ∀ {id i}, w.reserved id = some i → id ∈ w.drawn ∧ w.wal.data id = none ∧
    w.takenBy id = none

namespace LoginWorld.Sound

variable {w : LoginWorld} {i : Nat}

theorem clock (hsound : w.Sound) (now : Int) : { w with clock := now }.Sound :=
  ⟨hsound.wal, hsound.written, hsound.snapshots, hsound.drawn, hsound.taken, hsound.reserved⟩

variable {wal : Wal Nat LoginTable} {table : LoginTable} {row : LoginRow}

theorem withWal (hsound : w.Sound) (hwal : wal.Sound) (hdata : wal.data = w.wal.data)
    (hsnapshots : ∀ {j snapshot version}, wal.txn j = .reading snapshot version →
      snapshot.Written) : (w.withWal wal).Sound := by
  constructor
  · exact hwal
  · change wal.data.Written
    rw [hdata]
    exact hsound.written
  · exact hsnapshots
  · change ∀ {id row}, wal.data id = some row → _
    rw [hdata]
    exact hsound.drawn
  · change ∀ {id i}, _ → _ ∧ ∀ row, wal.data id = some row → _
    rw [hdata]
    exact hsound.taken
  · change ∀ {id i}, _ → _ ∧ wal.data id = none ∧ _
    rw [hdata]
    exact hsound.reserved

theorem setTxn {txn : Txn LoginTable} (hsound : w.Sound) (hwal : (w.wal.setTxn i txn).Sound)
    (htxn : ∀ snapshot version, txn = .reading snapshot version → snapshot.Written) :
    (w.withWal (w.wal.setTxn i txn)).Sound := by
  apply hsound.withWal hwal rfl
  intro j snapshot version h
  by_cases hj : j = i
  · subst hj
    rw [Wal.setTxn_self] at h
    exact htxn snapshot version h
  · rw [Wal.setTxn_of_ne _ hj] at h
    exact hsound.snapshots h

theorem read (hsound : w.Sound) (hread : Wal.Read i w.wal table wal) :
    (w.withWal wal).Sound ∧ table.Written ∧ ∃ version, wal.txn i = .reading table version := by
  have hwal := hsound.wal.read hread
  cases hread with
  | first =>
    refine ⟨hsound.setTxn hwal ?_, hsound.written, w.wal.version, Wal.setTxn_self _⟩
    rintro snapshot version ⟨⟩
    exact hsound.written
  | again hreading => exact ⟨hsound, hsound.snapshots hreading, _, hreading⟩

theorem write {f : LoginTable → LoginTable} (hsound : w.Sound) (hwrite : Wal.Write i f w.wal wal) :
    (w.withWal wal).Sound ∧ ∃ table version, w.wal.txn i = .reading table version ∧
      wal.txn i = .writing table (f table) := by
  have hwal := hsound.wal.write hwrite
  cases hwrite with
  | first hreading =>
    exact ⟨hsound.setTxn hwal nofun, _, _, hreading, Wal.setTxn_self _⟩

theorem autocommit {f : LoginTable → LoginTable} {w' : LoginWorld} (hsound : w.Sound)
    (hrows : ∀ {id row}, f w.wal.data id = some row → w.wal.data id = some row)
    (hstep : w.Autocommits f w') : w'.Sound := by
  obtain ⟨wal, hauto, rfl⟩ := hstep
  have hdata : wal.data = f w.wal.data := hauto.data_eq
  have hback : ∀ {id row}, wal.data id = some row → w.wal.data id = some row := by
    rw [hdata]
    exact hrows
  constructor
  · exact hsound.wal.autocommit hauto
  · intro id row hrow
    exact hsound.written id row (hback hrow)
  · intro j snapshot version h
    change wal.txn j = _ at h
    rw [hauto.txn_eq] at h
    exact hsound.snapshots h
  · intro id row hrow
    exact hsound.drawn (hback hrow)
  · intro id j htaken
    exact ⟨(hsound.taken htaken).1, fun row hrow => (hsound.taken htaken).2 row (hback hrow)⟩
  · intro id j hreserved
    obtain ⟨hdrawn, hnone, hfree⟩ := hsound.reserved hreserved
    refine ⟨hdrawn, ?_, hfree⟩
    cases hrow : wal.data id with
    | none => exact hrow
    | some =>
      rw [hback hrow] at hnone
      cases hnone

theorem randomToken {token : String} (hsound : w.Sound) (hfresh : token ∉ w.drawn) :
    { w with drawn := token :: w.drawn, reserved := update w.reserved token (some i) }.Sound := by
  have hdata : w.wal.data token = none := by
    cases hrow : w.wal.data token with
    | none => rfl
    | some => exact absurd (hsound.drawn hrow) hfresh
  have hfree : w.takenBy token = none := by
    cases htaken : w.takenBy token with
    | none => rfl
    | some => exact absurd (hsound.taken htaken).1 hfresh
  refine ⟨hsound.wal, hsound.written, hsound.snapshots, ?_, ?_, ?_⟩
  · intro id row hrow
    exact List.mem_cons_of_mem _ (hsound.drawn hrow)
  · intro id j htaken
    obtain ⟨hdrawn, hconsumed⟩ := hsound.taken htaken
    exact ⟨List.mem_cons_of_mem _ hdrawn, hconsumed⟩
  · intro id j hreserved
    by_cases hid : id = token
    · subst hid
      exact ⟨List.mem_cons_self, hdata, hfree⟩
    · dsimp only at hreserved
      rw [update_of_ne hid] at hreserved
      obtain ⟨hdrawn, hrest⟩ := hsound.reserved hreserved
      exact ⟨List.mem_cons_of_mem _ hdrawn, hrest⟩

theorem insertLogin {expiresAt : Int} {w' : LoginWorld} (hsound : w.Sound)
    (hreserved : w.reserved row.id = some i) (hexpiry : row.expiresAt = formatTime expiresAt)
    (hstep : { w with reserved := update w.reserved row.id none }.Autocommits
      (LoginTable.insert row) w') : w'.Sound := by
  obtain ⟨wal, hauto, rfl⟩ := hstep
  obtain ⟨hdrawn, hnone, hfree⟩ := hsound.reserved hreserved
  have hdata : wal.data = LoginTable.insert row w.wal.data := hauto.data_eq
  have hother : ∀ {id}, id ≠ row.id → wal.data id = w.wal.data id := by
    intro id hid
    rw [hdata]
    exact update_of_ne hid _ _
  constructor
  · exact hsound.wal.autocommit hauto
  · change wal.data.Written
    rw [hdata]
    exact hsound.written.insert hexpiry
  · intro j snapshot version h
    change wal.txn j = _ at h
    rw [hauto.txn_eq] at h
    exact hsound.snapshots h
  · intro id row' hrow
    by_cases hid : id = row.id
    · rw [hid]
      exact hdrawn
    · exact hsound.drawn ((hother hid).symm.trans hrow)
  · intro id j htaken
    have hid : id ≠ row.id := by
      rintro rfl
      change w.takenBy row.id = some j at htaken
      rw [hfree] at htaken
      cases htaken
    obtain ⟨hdrawn, hconsumed⟩ := hsound.taken htaken
    exact ⟨hdrawn, fun row' hrow => hconsumed row' ((hother hid).symm.trans hrow)⟩
  · intro id j h
    have hid : id ≠ row.id := by
      rintro rfl
      change update w.reserved row.id none row.id = some j at h
      rw [update_self] at h
      cases h
    change update w.reserved row.id none id = some j at h
    rw [update_of_ne hid] at h
    obtain ⟨hdrawn, hnone, hfree⟩ := hsound.reserved h
    exact ⟨hdrawn, (hother hid).trans hnone, hfree⟩

theorem untaken {pending : LoginTable} {id nowText : String} (hsound : w.Sound)
    (hwriting : w.wal.txn i = .writing table pending)
    (hselect : table.select id nowText = some row) : w.takenBy id = none := by
  rw [hsound.wal.base hwriting] at hselect
  obtain ⟨hrow, hunconsumed, -⟩ := LoginTable.select_eq_some hselect
  cases htaken : w.takenBy id with
  | none => rfl
  | some =>
    have hconsumed := (hsound.taken htaken).2 row hrow
    rw [hunconsumed] at hconsumed
    cases hconsumed

theorem commitUpdated {id nowText : String} (hsound : w.Sound)
    (hwriting : w.wal.txn i = .writing table (LoginTable.consume id nowText table))
    (hselect : table.select id nowText = some row) (hcommit : Wal.Commit i w.wal wal) :
    (w.committed i (some id) wal).Sound := by
  have hwal := hsound.wal.commit hcommit
  have hbase := hsound.wal.base hwriting
  subst hbase
  obtain ⟨hrow, -, -⟩ := LoginTable.select_eq_some hselect
  have hdata : wal.data = LoginTable.consume id nowText w.wal.data := by
    cases hcommit with
    | reads hreading =>
      rw [hreading] at hwriting
      cases hwriting
    | writes hwriting' =>
      rw [hwriting'] at hwriting
      cases hwriting
      rfl
  constructor
  · exact hwal
  · change wal.data.Written
    rw [hdata]
    exact hsound.written.consume
  · intro j snapshot version h
    change wal.txn j = _ at h
    by_cases hj : j = i
    · subst hj
      cases hcommit with
      | reads =>
        rw [Wal.setTxn_self] at h
        cases h
      | writes =>
        dsimp only at h
        rw [update_self] at h
        cases h
    · rw [hcommit.txn_of_ne hj] at h
      exact hsound.snapshots h
  · intro id' row' h
    change wal.data id' = _ at h
    rw [hdata] at h
    obtain ⟨earlier, hearlier, -⟩ := LoginTable.consume_eq_some h
    exact hsound.drawn hearlier
  · intro id' j htaken
    change update w.takenBy id (some i) id' = some j at htaken
    change id' ∈ w.drawn ∧ ∀ row, wal.data id' = some row → _
    rw [hdata]
    by_cases hid : id' = id
    · subst hid
      refine ⟨hsound.drawn hrow, fun row' hrow' => ?_⟩
      rw [LoginTable.consume_self hrow] at hrow'
      cases hrow'
      rfl
    · rw [update_of_ne hid] at htaken
      rw [LoginTable.consume_of_ne hid]
      exact hsound.taken htaken
  · intro id' j hreserved
    obtain ⟨hdrawn, hnone, hfree⟩ := hsound.reserved hreserved
    have hid : id' ≠ id := by
      rintro rfl
      rw [hrow] at hnone
      cases hnone
    change _ ∧ wal.data id' = none ∧ update w.takenBy id (some i) id' = none
    rw [hdata, LoginTable.consume_of_ne hid, update_of_ne hid]
    exact ⟨hdrawn, hnone, hfree⟩

end LoginWorld.Sound

/-! ### What a worker knows and owes -/

abbrev LoginExchange := Exchange loginInterface

structure LoginView where
  trace : List LoginExchange
  txn : Txn LoginTable
  /-- The login states that the worker has taken. -/
  mine : String → Prop
  /-- The tokens that it has drawn and not inserted. -/
  holds : String → Prop

structure LoginView.Stays (u v : LoginView) : Prop where
  trace : v.trace = u.trace
  txn : v.txn = u.txn
  mine : ∀ id, u.mine id → v.mine id
  holds : ∀ id, u.holds id → v.holds id

namespace LoginOp

def isReturn : LoginOp → Bool
  | returned _ _ _ => true
  | _ => false

def createsSession : LoginOp → Bool
  | other (.store (.createSession _)) => true
  | _ => false

def Learns : (op : LoginOp) → LoginView → op.Reply → LoginView → Prop
  | now, u, _, v => ∀ id, u.holds id → v.holds id
  | select id nowText, _, reply, v => ∀ found, reply = .ok found → ∃ table version,
      v.txn = .reading table version ∧ table.select id nowText = found ∧ table.Written
  | update id nowText, u, reply, v => reply = .ok () → ∃ table version,
      u.txn = .reading table version ∧ v.txn = .writing table (table.consume id nowText)
  | commit updated, _, reply, v => reply = .ok () → ∀ id, updated = some id → v.mine id
  | randomToken, _, token, v => v.holds token
  | _, _, _, _ => True

end LoginOp

def Returned (id : String) (now : Int) (state : LoginState) : LoginExchange :=
  ⟨.returned id now (.ok (some state)), ()⟩

section Owes

variable (platform : Platform) (config : Config)

/-- The callback of a browser whose signed cookie and whose body both name the login state. -/
def LoginJob.Names (job : LoginJob) (id : String) : Prop :=
  ∃ request body, job = .callback request ∧
    readSignedCookie platform.mac (request.header "Cookie") loginStateCookie config.cookieSecret =
      some id ∧
    platform.readCallback request.body = some body ∧ body.state = some id

def LoginOp.Owes (job : LoginJob) : LoginOp → LoginView → Prop
  | update id nowText, u => ∃ table version row, u.txn = .reading table version ∧
      table.select id nowText = some row
  | commit none, u => ∃ table version, u.txn = .reading table version
  | commit (some id), u => ∃ table nowText row,
      u.txn = .writing table (table.consume id nowText) ∧ table.select id nowText = some row
  | insertLogin row, u => u.holds row.id ∧ ∃ expiresAt, row.expiresAt = formatTime expiresAt
  | returned id time result, u => (∀ x ∈ u.trace, x.op.isReturn = false) ∧
      ∀ state, result = .ok (some state) → u.mine id ∧ (time < endText → time < state.expiresAt)
  | other (.store (.createSession _)), u => (∀ x ∈ u.trace, x.op.createsSession = false) ∧
      ∃ id now state, Returned id now state ∈ u.trace ∧ job.Names platform config id
  | _, _ => True

def loginView (job : LoginJob) : View loginInterface LoginView where
  may := LoginView.Stays
  act op u reply v :=
    v.trace = ⟨op, reply⟩ :: u.trace ∧ (∀ id, u.mine id → v.mine id) ∧ op.Learns u reply v
  guar op u := op.Owes platform config job u
  may_refl _ := ⟨rfl, rfl, fun _ h => h, fun _ h => h⟩
  may_trans h h' := ⟨h'.trace.trans h.trace, h'.txn.trans h.txn, fun id hid => h'.mine id (h.mine id hid),
    fun id hid => h'.holds id (h.holds id hid)⟩

end Owes

def noLoginCalls : Contract loginInterface LoginView where
  pre := nofun
  post := nofun

def loginSees (i : Nat) (history : List (Event loginInterface LoginWorld)) (w : LoginWorld) :
    LoginView :=
  { trace := history.map Event.toExchange
    txn := w.wal.txn i
    mine := fun id => w.takenBy id = some i
    holds := fun id => w.reserved id = some i }

section Acts

variable {platform : Platform} {config : Config} {w w' : LoginWorld} {i j : Nat}

variable {history : List (Event loginInterface LoginWorld)} {op : LoginOp} {reply : op.Reply}
  {job : LoginJob}

theorem stays_of_eq (htxn : w'.wal.txn j = w.wal.txn j) (hmine : w'.takenBy = w.takenBy)
    (hholds : w'.reserved = w.reserved) :
    (loginSees j history w).Stays (loginSees j history w') := by
  refine ⟨rfl, htxn, ?_, ?_⟩
  · intro id h
    change w'.takenBy id = some j
    rw [hmine]
    exact h
  · intro id h
    change w'.reserved id = some j
    rw [hholds]
    exact h

theorem stays_autocommits {f : LoginTable → LoginTable} (hstep : w.Autocommits f w') :
    (loginSees j history w).Stays (loginSees j history w') := by
  obtain ⟨wal, hauto, rfl⟩ := hstep
  exact stays_of_eq (congrFun hauto.txn_eq j) rfl rfl

theorem stays_withWal {wal : Wal Nat LoginTable} (htxn : wal.txn j = w.wal.txn j) :
    (loginSees j history w).Stays (loginSees j history (w.withWal wal)) :=
  stays_of_eq htxn rfl rfl

structure LoginActs (i : Nat) (op : LoginOp) (w : LoginWorld) (reply : op.Reply) (w' : LoginWorld) :
    Prop where
  sound : w'.Sound
  mine : ∀ id, w.takenBy id = some i → w'.takenBy id = some i
  learns : ∀ history history', op.Learns (loginSees i history w) reply (loginSees i history' w')
  others : ∀ j, j ≠ i → ∀ history, (loginSees j history w).Stays (loginSees j history w')

theorem loginActs_unchanged (hsound : w.Sound)
    (hlearns : ∀ history history', op.Learns (loginSees i history w) reply (loginSees i history' w)) :
    LoginActs i op w reply w :=
  ⟨hsound, fun _ h => h, hlearns, fun _ _ _ => stays_of_eq rfl rfl rfl⟩

theorem loginActs_autocommits {f : LoginTable → LoginTable} (hsound : w.Sound)
    (hrows : ∀ {id row}, f w.wal.data id = some row → w.wal.data id = some row)
    (hstep : w.Autocommits f w') (hlearns : ∀ history history',
      op.Learns (loginSees i history w) reply (loginSees i history' w')) :
    LoginActs i op w reply w' := by
  refine ⟨hsound.autocommit hrows hstep, ?_, hlearns, fun _ _ _ => stays_autocommits hstep⟩
  obtain ⟨wal, -, rfl⟩ := hstep
  exact fun _ h => h

theorem loginActs_setTxn {txn : Txn LoginTable} (hsound : w.Sound)
    (hwal : (w.wal.setTxn i txn).Sound)
    (htxn : ∀ snapshot version, txn = .reading snapshot version → snapshot.Written)
    (hlearns : ∀ history history', op.Learns (loginSees i history w) reply
      (loginSees i history' (w.withWal (w.wal.setTxn i txn)))) :
    LoginActs i op w reply (w.withWal (w.wal.setTxn i txn)) :=
  ⟨hsound.setTxn hwal htxn, fun _ h => h, hlearns,
    fun _ hj _ => stays_withWal (Wal.setTxn_of_ne _ hj)⟩

theorem loginActs_select {id nowText : String} {reply : Except StoreError (Option LoginRow)}
    (hsound : w.Sound) (hact : loginAct i (.select id nowText) w reply w') :
    LoginActs i (.select id nowText) w reply w' := by
  rcases hact with ⟨error, rfl, rfl⟩ | ⟨found, rfl, table, wal, hread, rfl, rfl⟩
  · exact loginActs_unchanged hsound nofun
  · obtain ⟨hsound', hwritten, version, htxn⟩ := hsound.read hread
    refine ⟨hsound', fun _ h => h, ?_, fun j hj _ => stays_withWal (hread.txn_of_ne hj)⟩
    rintro history history' found ⟨⟩
    exact ⟨table, version, htxn, rfl, hwritten⟩

theorem loginActs_update {id nowText : String} {reply : Except StoreError Unit}
    (hsound : w.Sound) (hact : loginAct i (.update id nowText) w reply w') :
    LoginActs i (.update id nowText) w reply w' := by
  rcases hact with ⟨error, rfl, rfl⟩ | ⟨_, rfl, wal, hwrite, rfl⟩
  · exact loginActs_unchanged hsound nofun
  · obtain ⟨hsound', table, version, hreading, hwriting⟩ := hsound.write hwrite
    refine ⟨hsound', fun _ h => h, ?_, fun j hj _ => stays_withWal (hwrite.txn_of_ne hj)⟩
    intro history history' _
    exact ⟨table, version, hreading, hwriting⟩

theorem loginActs_commit {updated : Option String} {reply : Except StoreError Unit}
    (hsound : w.Sound) (hact : loginAct i (.commit updated) w reply w')
    (howes : (LoginOp.commit updated).Owes platform config job (loginSees i history w)) :
    LoginActs i (.commit updated) w reply w' := by
  rcases hact with ⟨wal, hcommit, rfl⟩ | ⟨error, rfl, rfl⟩
  · cases updated with
    | none =>
      obtain ⟨table, version, hreading⟩ := howes
      cases hcommit with
      | writes hwriting =>
        change w.wal.txn i = _ at hreading
        rw [hwriting] at hreading
        cases hreading
      | reads =>
        exact loginActs_setTxn hsound hsound.wal.idle nofun nofun
    | some id =>
      obtain ⟨table, nowText, row, hwriting, hselect⟩ := howes
      have huntaken := hsound.untaken hwriting hselect
      refine ⟨hsound.commitUpdated hwriting hselect hcommit, ?_, ?_, ?_⟩
      · intro id' hmine
        by_cases hid : id' = id
        · subst hid
          exact update_self _ _ _
        · exact (update_of_ne hid _ _).trans hmine
      · rintro history history' - id' ⟨⟩
        exact update_self _ _ _
      · intro j hj history
        refine ⟨rfl, hcommit.txn_of_ne hj, ?_, fun _ h => h⟩
        intro id' hmine
        change w.takenBy id' = some j at hmine
        have hid : id' ≠ id := by
          rintro rfl
          rw [huntaken] at hmine
          cases hmine
        exact (update_of_ne hid _ _).trans hmine
  · exact loginActs_setTxn hsound hsound.wal.idle nofun nofun

theorem loginActs_randomToken {token : String} (hsound : w.Sound)
    (hact : loginAct i .randomToken w token w') : LoginActs i .randomToken w token w' := by
  obtain ⟨hfresh, rfl⟩ := hact
  refine ⟨hsound.randomToken hfresh, fun _ h => h, ?_, ?_⟩
  · intro history history'
    exact update_self _ _ _
  · intro j hj history
    refine ⟨rfl, rfl, fun _ h => h, ?_⟩
    intro id hholds
    change w.reserved id = some j at hholds
    have hid : id ≠ token := by
      rintro rfl
      exact hfresh (hsound.reserved hholds).1
    exact (update_of_ne hid _ _).trans hholds

theorem loginActs_insertLogin {row : LoginRow} {reply : Except StoreError Unit} (hsound : w.Sound)
    (hact : loginAct i (.insertLogin row) w reply w')
    (howes : (LoginOp.insertLogin row).Owes platform config job (loginSees i history w)) :
    LoginActs i (.insertLogin row) w reply w' := by
  rcases hact with ⟨-, hstep⟩ | ⟨error, rfl, rfl⟩
  · obtain ⟨hholds, expiresAt, hexpiry⟩ := howes
    have hsound' := hsound.insertLogin hholds hexpiry hstep
    obtain ⟨wal, hauto, rfl⟩ := hstep
    refine ⟨hsound', fun _ h => h, fun _ _ => trivial, ?_⟩
    intro j hj history
    refine ⟨rfl, congrFun hauto.txn_eq j, fun _ h => h, ?_⟩
    intro id h
    change w.reserved row.id = some i at hholds
    change w.reserved id = some j at h
    have hid : id ≠ row.id := by
      rintro rfl
      rw [hholds] at h
      exact hj (Option.some.inj h).symm
    exact (update_of_ne hid _ _).trans h
  · exact loginActs_unchanged hsound fun _ _ => trivial

theorem loginActs_of_act (hsound : w.Sound) (hact : loginAct i op w reply w')
    (howes : op.Owes platform config job (loginSees i history w)) : LoginActs i op w reply w' := by
  cases op with
  | select => exact loginActs_select hsound hact
  | update => exact loginActs_update hsound hact
  | commit => exact loginActs_commit hsound hact howes
  | randomToken => exact loginActs_randomToken hsound hact
  | insertLogin => exact loginActs_insertLogin hsound hact howes
  | begin =>
    rcases hact with ⟨error, rfl, rfl⟩ | ⟨_, rfl, rfl⟩
    · exact loginActs_unchanged hsound fun _ _ => trivial
    · exact loginActs_setTxn hsound hsound.wal.begin nofun fun _ _ => trivial
  | now =>
    obtain ⟨-, rfl⟩ := hact
    exact ⟨hsound.clock _, fun _ h => h, fun _ _ _ h => h, fun _ _ _ => stays_of_eq rfl rfl rfl⟩
  | rollback =>
    cases hact
    exact loginActs_setTxn hsound hsound.wal.idle nofun fun _ _ => trivial
  | returned =>
    cases hact
    exact loginActs_unchanged hsound fun _ _ => trivial
  | deleteLogins =>
    rcases hact with hstep | ⟨error, rfl, rfl⟩
    · exact loginActs_autocommits hsound LoginTable.prune_eq_some hstep fun _ _ => trivial
    · exact loginActs_unchanged hsound fun _ _ => trivial
  | deleteSessions nowText | other op
  | otherCall => exact loginActs_autocommits hsound (fun h => h) hact fun _ _ => trivial

end Acts

end AuthMiniGateway

import AuthMiniGateway.Lib.Pool
import AuthMiniGateway.Lib.Wal
import AuthMiniGateway.Handlers

/-!
# Login states, statement by statement

The database is in WAL mode, so a deferred transaction fails at its `UPDATE` when its snapshot is stale. Any
statement can fail; outside a transaction, and at a `COMMIT`, it may have had its effect all the same.
Everything else is a request with an arbitrary answer.
-/

namespace AuthMiniGateway

abbrev LoginTable := String → Option LoginRow

namespace LoginTable

/-- `SELECT … WHERE id = ? AND consumed_at IS NULL AND expires_at > ?`. -/
def select (table : LoginTable) (id nowText : String) : Option LoginRow :=
  (table id).filter fun row => row.consumedAt.isNone && decide (nowText < row.expiresAt)

/-- `UPDATE login_states SET consumed_at = ? WHERE id = ?`. -/
def consume (id nowText : String) (table : LoginTable) : LoginTable :=
  Function.update table id ((table id).map fun row => { row with consumedAt := some nowText })

/-- `DELETE FROM login_states WHERE expires_at <= ? OR consumed_at IS NOT NULL`. -/
def prune (nowText : String) (table : LoginTable) : LoginTable := fun id =>
  (table id).filter fun row => !(!decide (nowText < row.expiresAt) || row.consumedAt.isSome)

def insert (row : LoginRow) (table : LoginTable) : LoginTable :=
  Function.update table row.id (some row)

end LoginTable

inductive LoginOp where
  | begin
  | now
  | select (id nowText : String)
  | update (id nowText : String)
  /-- With the login state that the transaction has updated. -/
  | commit (updated : Option String)
  | rollback
  /-- Marks the return of `consume_login_state` and does nothing. -/
  | returned (id : String) (now : Int) (result : Res (Option LoginState))
  | deleteLogins (nowText : String)
  | deleteSessions (nowText : String)
  | randomToken
  | insertLogin (row : LoginRow)
  | other (op : ServerOp)
  | otherCall (proc : ServerProc)

namespace LoginOp

def Reply : LoginOp → Type
  | begin => Except StoreError Unit
  | now => Int
  | select _ _ => Except StoreError (Option LoginRow)
  | update _ _ => Except StoreError Unit
  | commit _ => Except StoreError Unit
  | rollback => Unit
  | returned _ _ _ => Unit
  | deleteLogins _ => Except StoreError Unit
  | deleteSessions _ => Except StoreError Unit
  | randomToken => String
  | insertLogin _ => Except StoreError Unit
  | other op => op.Reply
  | otherCall _ => Option FlightOutcome

end LoginOp

abbrev loginInterface : Interface where
  Op := LoginOp
  Reply := LoginOp.Reply
  Proc := Empty
  Out := nofun

abbrev Statements (α : Type) := Program loginInterface α

namespace Statements

def ask (op : LoginOp) : Statements op.Reply := Program.ask (I := loginInterface) op

def abort (error : StoreError) : Statements (Res (Option LoginState)) := do
  let _ ← ask .rollback
  return .err error

def finish (updated : Option String) (result : Option LoginState) :
    Statements (Res (Option LoginState)) := do
  match ← ask (.commit updated) with
  | .error error => return .err error
  | .ok () => return .ok result

def consumeRow (id : String) (now : Int) (row : LoginRow) :
    Statements (Res (Option LoginState)) := do
  match parseDbTime row.expiresAt with
  | .error error => abort error
  | .ok expiresAt =>
    match ← ask (.update id (formatTime now)) with
    | .error error => abort error
    | .ok () =>
      finish (some id) (some { id := row.id, returnTo := row.returnTo, expiresAt })

/-- The transaction of `consume_login_state`, from its `SELECT` on. -/
def consumeAt (id : String) (now : Int) : Statements (Res (Option LoginState)) := do
  match ← ask (.select id (formatTime now)) with
  | .error error => abort error
  | .ok none => finish none none
  | .ok (some row) => consumeRow id now row

def consumeLoginState (id : String) : Statements (Res (Option LoginState)) := do
  match ← ask .begin with
  | .error error => return .err error
  | .ok () =>
    let now ← ask .now
    let result ← consumeAt id now
    let _ ← ask (.returned id now result)
    return result

def prune : Statements (Except StoreError Unit) := do
  let now ← ask .now
  match ← ask (.deleteLogins (formatTime now)) with
  | .error error => return .error error
  | .ok () => ask (.deleteSessions (formatTime now))

def insertLoginState (returnTo : String) (ttlSeconds : Int) : Statements (Res LoginState) := do
  let id ← ask .randomToken
  let now ← ask .now
  match addSeconds now ttlSeconds with
  | none => return .panic
  | some expiresAt =>
    match ← ask (.insertLogin
        { id, returnTo, expiresAt := formatTime expiresAt, consumedAt := none,
          createdAt := formatTime now }) with
    | .error error => return .err error
    | .ok () => return .ok { id, returnTo, expiresAt }

def createLoginState (returnTo : String) (ttlSeconds : Int) : Statements (Res LoginState) := do
  match ← prune with
  | .error error => return .err error
  | .ok () => insertLoginState returnTo ttlSeconds

def createSession (input : NewSession) : Statements (Res GatewaySession) := do
  match ← prune with
  | .error error => return .err error
  | .ok () => ask (.other (.store (.createSession input)))

def pruneAll : Statements (Res Unit) := do
  let result ← prune
  return .ofExcept result

/-- The calls on the store that touch the table of login states, in their statements. -/
def ofServerOp : (op : ServerOp) → Statements op.Reply
  | .store (.consumeLoginState id) => consumeLoginState id
  | .store (.createLoginState returnTo ttlSeconds) => createLoginState returnTo ttlSeconds
  | .store (.createSession input) => createSession input
  | .store .prune => pruneAll
  | op => ask (.other op)

def ofServer {α : Type} (program : Server α) : Statements α :=
  program.expand ofServerOp fun proc => ask (.otherCall proc)

end Statements

/-! ### The machine -/

structure LoginWorld where
  wal : Wal Nat LoginTable
  clock : Int
  -- the random tokens drawn so far
  drawn : List String
  -- ghost: the worker whose transaction consumed the login state
  takenBy : String → Option Nat
  -- ghost: the worker that drew the token, until it inserts the login state
  reserved : String → Option Nat

namespace LoginWorld

def withWal (w : LoginWorld) (wal : Wal Nat LoginTable) : LoginWorld := { w with wal }

def committed (w : LoginWorld) (i : Nat) (updated : Option String) (wal : Wal Nat LoginTable) :
    LoginWorld :=
  { w with
    wal
    takenBy :=
      match updated with
      | some id => Function.update w.takenBy id (some i)
      | none => w.takenBy }

/-- The statement failed, or it answered and had its effect. -/
def Answers {α : Type} (w : LoginWorld) (reply : Except StoreError α) (w' : LoginWorld)
    (effect : α → LoginWorld → Prop) : Prop :=
  (∃ error, reply = .error error ∧ w' = w) ∨ ∃ value, reply = .ok value ∧ effect value w'

/-- The statement may also have had its effect when it failed. -/
def Serves (w : LoginWorld) (reply : Except StoreError Unit) (w' : LoginWorld)
    (effect : LoginWorld → Prop) : Prop :=
  effect w' ∨ ∃ error, reply = .error error ∧ w' = w

def Autocommits (w : LoginWorld) (f : LoginTable → LoginTable) (w' : LoginWorld) : Prop :=
  ∃ wal, Wal.Autocommit f w.wal wal ∧ w' = w.withWal wal

end LoginWorld

open LoginWorld in
def loginAct (i : Nat) : (op : LoginOp) → LoginWorld → op.Reply → LoginWorld → Prop
  | .begin, w, reply, w' =>
    w.Answers reply w' fun _ w' => w' = w.withWal (w.wal.setTxn i .begun)
  | .now, w, now, w' => w.clock ≤ now ∧ w' = { w with clock := now }
  | .select id nowText, w, reply, w' =>
    w.Answers reply w' fun row w' =>
      ∃ table wal, Wal.Read i w.wal table wal ∧ row = table.select id nowText ∧ w' = w.withWal wal
  | .update id nowText, w, reply, w' =>
    w.Answers reply w' fun _ w' =>
      ∃ wal, Wal.Write i (LoginTable.consume id nowText) w.wal wal ∧ w' = w.withWal wal
  | .commit updated, w, reply, w' =>
    (∃ wal, Wal.Commit i w.wal wal ∧ w' = w.committed i updated wal) ∨
      ∃ error, reply = .error error ∧ w' = w.withWal (w.wal.setTxn i .idle)
  | .rollback, w, _, w' => w' = w.withWal (w.wal.setTxn i .idle)
  | .returned _ _ _, w, _, w' => w' = w
  | .deleteLogins nowText, w, reply, w' =>
    w.Serves reply w' (w.Autocommits (LoginTable.prune nowText))
  | .deleteSessions _, w, _, w' => w.Autocommits id w'
  | .randomToken, w, token, w' =>
    token ∉ w.drawn ∧
      w' = { w with
        drawn := token :: w.drawn,
        reserved := Function.update w.reserved token (some i) }
  | .insertLogin row, w, reply, w' =>
    w.Serves reply w' fun w' =>
      w.wal.data row.id = none ∧
        { w with reserved := Function.update w.reserved row.id none }.Autocommits
          (LoginTable.insert row) w'
  | .other _, w, _, w' => w.Autocommits id w'
  | .otherCall _, w, _, w' => w.Autocommits id w'

inductive LoginJob where
  | callback (request : Request)
  | consume (id : String)
  | createLogin (returnTo : String) (ttlSeconds : Int)
  | prune

inductive LoginAnswer where
  | handled (handled : Handled)
  | consumed (result : Res (Option LoginState))
  | created (result : Res LoginState)
  | pruned (result : Except StoreError Unit)

def LoginJob.start (platform : Platform) (config : Config) : LoginJob → Statements LoginAnswer
  | callback request => do
      let handled ← Statements.ofServer (handleCallbackSession platform config request)
      return .handled handled
  | consume id => do
      let result ← Statements.consumeLoginState id
      return .consumed result
  | createLogin returnTo ttlSeconds => do
      let result ← Statements.createLoginState returnTo ttlSeconds
      return .created result
  | prune => do
      let result ← Statements.prune
      return .pruned result

/-- Beside the workers the clock goes on, and others write to other tables. -/
def loginMachine (platform : Platform) (config : Config) :
    Machine loginInterface Nat LoginWorld LoginJob LoginAnswer where
  body := nofun
  start := LoginJob.start platform config
  act := loginAct
  env w w' := (∃ now, w.clock ≤ now ∧ w' = { w with clock := now }) ∨ w.Autocommits id w'

end AuthMiniGateway

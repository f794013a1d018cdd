import AuthMiniGateway.Store

/-!
# Runs of the store

A `StoreOp` is one call on the store, and a `Readings` what it takes from outside. A call that takes a session
takes one that the store handed out before, current or stale. The clock does not go backwards, and a random
token is never drawn twice.
-/

namespace AuthMiniGateway

structure Readings where
  pruneNow : Int
  now : Int
  token : String
  deriving DecidableEq, Repr

inductive StoreOp where
  | lookupSession (id : String)
  | logoutAccessSnapshot (id : String)
  | createLoginState (returnTo : String) (ttlSeconds : Int)
  | consumeLoginState (id : String)
  | createSession (input : NewSession)
  | revokeSession (id : String)
  | conditionalRevoke (expected : GatewaySession)
  | persistPending (original : GatewaySession) (next : PendingTokens)
  | finalizePending (pending : GatewaySession) (email : Option String)
  | touchReady (original : GatewaySession) (idleTtlSeconds touchIntervalSeconds : Int)
  | prune
  deriving DecidableEq, Repr

namespace StoreOp

def Value : StoreOp → Type
  | lookupSession _ => SessionLookup
  | logoutAccessSnapshot _ => Option String
  | createLoginState _ _ => LoginState
  | consumeLoginState _ => Option LoginState
  | createSession _ => GatewaySession
  | revokeSession _ => Bool
  | conditionalRevoke _ => Bool
  | persistPending _ _ => CasResult
  | finalizePending _ _ => CasResult
  | touchReady _ _ _ => TouchResult
  | prune => Unit

def exec (json : AmrJson) (r : Readings) (db : Db) : (op : StoreOp) → Res op.Value × Db
  | lookupSession id => (.ofExcept (Store.lookupSessionAt json db id r.now), db)
  | logoutAccessSnapshot id => (.ok (Store.logoutAccessSnapshot db id), db)
  | createLoginState returnTo ttlSeconds =>
    Store.createLoginState r.pruneNow r.now r.token db returnTo ttlSeconds
  | consumeLoginState id => Store.consumeLoginState r.now db id
  | createSession input => Store.createSession json r.pruneNow r.now r.token db input
  | revokeSession id =>
    let (changed, db) := Store.revokeSession r.now db id
    (.ok changed, db)
  | conditionalRevoke expected =>
    let (changed, db) := Store.conditionalRevoke r.now db expected
    (.ok changed, db)
  | persistPending original next =>
    let (reply, db) := Store.persistPending json r.now db original next
    (.ofExcept reply, db)
  | finalizePending pending email =>
    let (reply, db) := Store.finalizePending json r.now db pending email
    (.ofExcept reply, db)
  | touchReady original idleTtlSeconds touchIntervalSeconds =>
    Store.touchReady json r.now db original idleTtlSeconds touchIntervalSeconds
  | prune => (.ok (), Store.prune r.now db)

def snapshots : StoreOp → List GatewaySession
  | conditionalRevoke expected => [expected]
  | persistPending original _ => [original]
  | finalizePending pending _ => [pending]
  | touchReady original _ _ => [original]
  | _ => []

def creates : StoreOp → Bool
  | createSession _ => true
  | _ => false

def handedOut : (op : StoreOp) → op.Value → List GatewaySession
  | lookupSession _, .active session => [session]
  | createSession _, session => [session]
  | persistPending _ _, .updated session => [session]
  | persistPending _ _, .current session => [session]
  | finalizePending _ _, .updated session => [session]
  | finalizePending _ _, .current session => [session]
  | touchReady _ _ _, .notDue session => [session]
  | touchReady _ _ _, .advanced session => [session]
  | _, _ => []

def sessionsIn (op : StoreOp) : Res op.Value → List GatewaySession
  | .ok value => op.handedOut value
  | _ => []

end StoreOp

structure StoreEvent where
  readings : Readings
  op : StoreOp
  before : Db
  after : Db

structure StoreState where
  db : Db
  clock : Int
  issued : List String
  seen : List GatewaySession
  log : List StoreEvent

namespace StoreState

structure Permits (s : StoreState) (r : Readings) (op : StoreOp) : Prop where
  clock_le : s.clock ≤ r.pruneNow
  pruneNow_le : r.pruneNow ≤ r.now
  fresh : op.creates = true → r.token ∉ s.issued
  snapshots_seen : ∀ session ∈ op.snapshots, session ∈ s.seen

def step (json : AmrJson) (s : StoreState) (r : Readings) (op : StoreOp) : StoreState :=
  let (reply, db) := op.exec json r s.db
  { db
    clock := r.now
    issued := if op.creates then r.token :: s.issued else s.issued
    seen := op.sessionsIn reply ++ s.seen
    log := ⟨r, op, s.db, db⟩ :: s.log }

/-- The state that `initialize` leaves when there was no database, at the time `clock`. -/
def initial (clock : Int) : StoreState :=
  { db := Db.empty, clock, issued := [], seen := [], log := [] }

end StoreState

def StoreStep (json : AmrJson) (s s' : StoreState) : Prop :=
  ∃ r op, s.Permits r op ∧ s' = s.step json r op

abbrev StoreRun (json : AmrJson) : StoreState → StoreState → Prop :=
  Relation.ReflTransGen (StoreStep json)

end AuthMiniGateway

import AuthMiniGateway.Session

/-!
# The store

Each method takes the instant its clock reads and the database, and returns its result with the database it
leaves. A method that prunes first takes two readings.
-/

namespace AuthMiniGateway

structure Db where
  sessions : String → Option SessionRow
  loginStates : String → Option LoginRow

def Db.empty : Db :=
  { sessions := fun _ => none
    loginStates := fun _ => none }

/-- `UPDATE gateway_sessions SET … WHERE id = ?`, with the number of rows it changed. -/
def Db.updateSession (db : Db) (id : String) (guard : SessionRow → Bool)
    (set : SessionRow → SessionRow) : Nat × Db :=
  match db.sessions id with
  | none => (0, db)
  | some row =>
    if guard row then
      (1, { db with sessions := Function.update db.sessions id (some (set row)) })
    else (0, db)

-- a comparison with a null column is not true
def textAfter (column : Option String) (text : String) : Bool :=
  match column with
  | some value => decide (text < value)
  | none => false

def textAtMost (column : Option String) (text : String) : Bool :=
  match column with
  | some value => !decide (text < value)
  | none => false

namespace SessionRow

/-- `revoked_at IS NULL AND idle_expires_at > ?now AND absolute_expires_at > ?now`. -/
def live (row : SessionRow) (nowText : String) : Bool :=
  row.revokedAt.isNone && textAfter row.idleExpiresAt nowText
    && textAfter row.absoluteExpiresAt nowText

/-- `refresh_generation = ? AND refresh_token = ? AND identity_state = ?`. -/
def atVersion (row : SessionRow) (expected : GatewaySession) : Bool :=
  decide (row.refreshGeneration = expected.refreshGeneration)
    && decide (row.refreshToken = expected.refreshToken)
    && decide (row.identityState = some expected.identityState.asStr)

def pruned (row : SessionRow) (nowText : String) : Bool :=
  row.revokedAt.isSome || textAtMost row.idleExpiresAt nowText
    || textAtMost row.absoluteExpiresAt nowText

end SessionRow

namespace Store

variable (json : AmrJson)

def lookupSessionAt (db : Db) (id : String) (now : Int) : Except StoreError SessionLookup :=
  match db.sessions id with
  | none => .ok .inactive
  | some row =>
    match rowToSession json row with
    | .error error => .error error
    | .ok session => if isActive session now then .ok (.active session) else .ok .inactive

def logoutAccessSnapshot (db : Db) (id : String) : Option String :=
  match db.sessions id with
  | some row => if row.revokedAt.isNone then some row.accessToken else none
  | none => none

def prune (now : Int) (db : Db) : Db :=
  { sessions := fun id => (db.sessions id).filter fun row => !row.pruned (formatTime now)
    loginStates := fun id => (db.loginStates id).filter fun row =>
      !(!decide (formatTime now < row.expiresAt) || row.consumedAt.isSome) }

def createLoginState (pruneNow now : Int) (id : String) (db : Db) (returnTo : String)
    (ttlSeconds : Int) : Res LoginState × Db :=
  let db := prune pruneNow db
  match addSeconds now ttlSeconds with
  | none => (.panic, db)
  | some expiresAt =>
    match db.loginStates id with
    | some _ => (.err .primaryKey, db)
    | none =>
      (.ok { id, returnTo, expiresAt },
        { db with
          loginStates := Function.update db.loginStates id (some
            { id, returnTo, expiresAt := formatTime expiresAt, consumedAt := none,
              createdAt := formatTime now }) })

def consumeLoginState (now : Int) (db : Db) (id : String) : Res (Option LoginState) × Db :=
  match db.loginStates id with
  | none => (.ok none, db)
  | some row =>
    if row.consumedAt.isNone && decide (formatTime now < row.expiresAt) then
      match parseDbTime row.expiresAt with
      -- the transaction is dropped before its commit
      | .error error => (.err error, db)
      | .ok expiresAt =>
        (.ok (some { id, returnTo := row.returnTo, expiresAt }),
          { db with
            loginStates := Function.update db.loginStates id
              (some { row with consumedAt := some (formatTime now) }) })
    else (.ok none, db)

def newRow (now : Int) (id : String) (input : NewSession) (idle absolute : Int) : SessionRow :=
  { id, authSessionId := input.authSessionId, accessToken := input.accessToken,
    refreshToken := input.refreshToken, userId := input.userId, email := input.email,
    amrJson := json.toString input.amr, accessExpiresAt := formatTime input.accessExpiresAt,
    sessionExpiresAt := formatTime idle, revokedAt := none, refreshGeneration := 0,
    createdAt := formatTime now, updatedAt := formatTime now,
    idleExpiresAt := some (formatTime idle), absoluteExpiresAt := some (formatTime absolute),
    lastTouchedAt := some (formatTime now), identityState := some "ready",
    identityPendingSince := none }

def createSession (pruneNow now : Int) (id : String) (db : Db) (input : NewSession) :
    Res GatewaySession × Db :=
  let db := prune pruneNow db
  match addSeconds now input.absoluteTtlSeconds, addSeconds now input.idleTtlSeconds with
  | some absolute, some idle =>
    match db.sessions id with
    | some _ => (.err .primaryKey, db)
    | none =>
      let row := newRow json now id input (min idle absolute) absolute
      let db := { db with sessions := Function.update db.sessions id (some row) }
      let reply := match lookupSessionAt json db id now with
        | .ok (.active session) => .ok session
        | .ok .inactive => .err .queryReturnedNoRows
        | .error error => .err error
      (reply, db)
  | _, _ => (.panic, db)

def revokedRow (now : Int) (row : SessionRow) : SessionRow :=
  { row with revokedAt := some (formatTime now), updatedAt := formatTime now }

def revokeSession (now : Int) (db : Db) (id : String) : Bool × Db :=
  let (changed, db) := db.updateSession id (fun row => row.revokedAt.isNone) (revokedRow now)
  (changed = 1, db)

def conditionalRevoke (now : Int) (db : Db) (expected : GatewaySession) : Bool × Db :=
  let (changed, db) := db.updateSession expected.id
    (fun row => row.atVersion expected && row.live (formatTime now)) (revokedRow now)
  (changed = 1, db)

def resolveCas (db : Db) (id : String) (now : Int) (changed : Nat) : Except StoreError CasResult :=
  match lookupSessionAt json db id now with
  | .ok (.active session) => if changed = 1 then .ok (.updated session) else .ok (.current session)
  | .ok .inactive => .ok .inactive
  | .error error => .error error

def pendingRow (now : Int) (next : PendingTokens) (row : SessionRow) : SessionRow :=
  { row with
    accessToken := next.accessToken, refreshToken := next.refreshToken,
    userId := next.userId, amrJson := json.toString next.amr,
    accessExpiresAt := formatTime next.accessExpiresAt,
    refreshGeneration := row.refreshGeneration + 1, identityState := some "pending",
    identityPendingSince := some (formatTime now), sessionExpiresAt := compatDenyAt,
    updatedAt := formatTime now }

def persistPending (now : Int) (db : Db) (original : GatewaySession) (next : PendingTokens) :
    Except StoreError CasResult × Db :=
  let (changed, db) := db.updateSession original.id
    (fun row => row.atVersion original && row.live (formatTime now)) (pendingRow json now next)
  (resolveCas json db original.id now changed, db)

def readyRow (now : Int) (email : Option String) (row : SessionRow) : SessionRow :=
  { row with
    email
    identityState := some "ready"
    identityPendingSince := none
    -- the column is not null, so a null deadline would make the statement fail
    sessionExpiresAt := row.idleExpiresAt.getD row.sessionExpiresAt
    updatedAt := formatTime now }

def finalizePending (now : Int) (db : Db) (pending : GatewaySession) (email : Option String) :
    Except StoreError CasResult × Db :=
  let (changed, db) := db.updateSession pending.id
    (fun row => decide (row.refreshGeneration = pending.refreshGeneration)
      && decide (row.identityState = some "pending") && decide (row.userId = pending.userId)
      && row.live (formatTime now)) (readyRow now email)
  (resolveCas json db pending.id now changed, db)

def touchedRow (now candidate : Int) (row : SessionRow) : SessionRow :=
  { row with
    idleExpiresAt := some (formatTime candidate), sessionExpiresAt := formatTime candidate,
    lastTouchedAt := some (formatTime now), updatedAt := formatTime now }

def touchRow (now candidate : Int) (db : Db) (original : GatewaySession) : Nat × Db :=
  db.updateSession original.id
    (fun row => decide (row.refreshGeneration = original.refreshGeneration)
      && decide (row.identityState = some "ready")
      && decide (row.idleExpiresAt = some (formatTime original.idleExpiresAt))
      && row.live (formatTime now)) (touchedRow now candidate)

def touchReady (now : Int) (db : Db) (original : GatewaySession)
    (idleTtlSeconds touchIntervalSeconds : Int) : Res TouchResult × Db :=
  if original.identityState ≠ .ready ∨ isActive original now = false then (.ok .lost, db)
  else
    match durationSeconds touchIntervalSeconds with
    | none => (.panic, db)
    | some interval =>
      if now - original.lastTouchedAt < interval then (.ok (.notDue original), db)
      else
        match addSeconds now idleTtlSeconds with
        | none => (.panic, db)
        | some extended =>
          let candidate := min extended original.absoluteExpiresAt
          if candidate ≤ original.idleExpiresAt then (.ok (.notDue original), db)
          else
            let (changed, db) := touchRow now candidate db original
            let reply :=
              if changed ≠ 1 then .ok .lost
              else
                match lookupSessionAt json db original.id now with
                | .ok (.active session) => .ok (.advanced session)
                | .ok .inactive => .ok .lost
                | .error error => .err error
            (reply, db)

end Store

end AuthMiniGateway

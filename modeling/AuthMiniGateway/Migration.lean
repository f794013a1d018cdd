import AuthMiniGateway.Session

/-!
# The schema migration

The rows of version 1 have no columns for the deadlines; here those columns are null. Version 0 is either a new
file or one whose tables the first binary made. Which statement fails, a `Fault` decides.
-/

namespace AuthMiniGateway

def legacyAbsoluteTtlSeconds : Int := 30 * 24 * 60 * 60

structure SessionTable where
  -- whether the columns of the second version have been added
  v2Columns : Bool
  rows : List SessionRow
  deriving DecidableEq, Repr

structure Database where
  userVersion : Int
  sessions : Option SessionTable
  loginStates : Option (List LoginRow)
  deriving DecidableEq, Repr

inductive MigrationStep where
  | readVersion
  | begin
  | v1Schema
  | addColumns
  | selectV1
  | updateV1 (id : String)
  | selectLegacy
  | updateLegacy (id : String)
  | finish
  | commit
  deriving DecidableEq, Repr

abbrev Fault := MigrationStep → Option StoreError

variable (fault : Fault)

def Fault.check (step : MigrationStep) : Except StoreError Unit :=
  match fault step with
  | some error => .error error
  | none => .ok ()

def SessionRow.isLegacy (row : SessionRow) : Bool :=
  row.idleExpiresAt.isNone && row.absoluteExpiresAt.isNone && row.lastTouchedAt.isNone
    && row.identityState.isNone && row.identityPendingSince.isNone

end AuthMiniGateway

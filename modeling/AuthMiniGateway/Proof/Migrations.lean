import AuthMiniGateway.Migration
import AuthMiniGateway.Proof.Lifetimes

namespace AuthMiniGateway

open Fallible (bind_eq_ok_iff)

/-! ### The deadlines -/

/-- The smaller of the old expiry and creation plus 30 days. -/
def legacyDeadline (created old : Int) : Int :=
  min old (created + legacyAbsoluteTtlSeconds * nanosPerSecond)

section Loops

variable {fault : Fault} {step : String → MigrationStep}
  {set : LegacyDeadlines → SessionRow → SessionRow}

variable {entries : List LegacyEntry} {rows : List SessionRow} {guard : SessionRow → Bool}

end Loops

/-! ### The rows after the migration -/

def Database.rows (db : Database) : List SessionRow := (db.sessions.map SessionTable.rows).getD []

/-- A text of a time in years 0000 to 9999, or one that cannot be read. -/
def TimeInRange (text : String) : Prop := ∀ instant, parseTime text = some instant → InTextRange instant

namespace SessionRow

variable {row row' : SessionRow}

/-- The columns that the migration does not look at can be read. -/
structure OthersReadable (json : AmrJson) (row : SessionRow) : Prop where
  amr : ∃ amr, json.fromStr row.amrJson = some amr
  access : ∃ instant, parseTime row.accessExpiresAt = some instant
  revoked : ∃ revoked : Option Int, row.revokedAt.map parseTime = revoked.map some
  generation : 0 ≤ row.refreshGeneration

def backFill (row : SessionRow) (created deadline : Int) : SessionRow :=
  { row with
    idleExpiresAt := some (formatTime deadline),
    absoluteExpiresAt := some (formatTime deadline), lastTouchedAt := some (formatTime created),
    identityState := some "ready", identityPendingSince := none,
    sessionExpiresAt := formatTime deadline }

/-- `row'` is `row` back-filled from its own times, and its deadline reads as that time to the
millisecond, which is not after the old expiry. -/
def BackFilled (row row' : SessionRow) : Prop :=
  ∃ created old, parseTime row.createdAt = some created ∧
    parseTime row.sessionExpiresAt = some old ∧
    row' = row.backFill created (legacyDeadline created old) ∧
    parseTime row'.sessionExpiresAt = some (truncMillis (legacyDeadline created old)) ∧
    truncMillis (legacyDeadline created old) ≤ old

theorem backFill_reads {json : AmrJson} {created deadline touched expires : Int}
    (hothers : row.OthersReadable json)
    (hdeadline : parseTime (formatTime deadline) = some expires)
    (htouched : parseTime (formatTime created) = some touched) :
    ∃ session, (row.backFill created deadline).Reads json session := by
  obtain ⟨amr, hamr⟩ := hothers.amr
  obtain ⟨access, haccess⟩ := hothers.access
  obtain ⟨revoked, hrevoked⟩ := hothers.revoked
  have hbind : (some (formatTime deadline)).bind parseTime = some expires := by
    rw [Option.bind_some, hdeadline]
  have htouchedBind : (some (formatTime created)).bind parseTime = some touched := by
    rw [Option.bind_some, htouched]
  refine ⟨{ id := row.id, authSessionId := row.authSessionId, accessToken := row.accessToken,
            refreshToken := row.refreshToken, userId := row.userId, email := row.email, amr,
            accessExpiresAt := access, sessionExpiresAt := expires, idleExpiresAt := expires,
            absoluteExpiresAt := expires, lastTouchedAt := touched, identityState := .ready,
            identityPendingSince := none, refreshGeneration := row.refreshGeneration,
            revokedAt := revoked },
    ⟨rfl, rfl, rfl, rfl, rfl, rfl, hamr, haccess, hdeadline, hbind, hbind, htouchedBind, rfl,
      rfl, rfl, hrevoked, ?_⟩⟩
  exact validateSessionInvariants_eq_ok_iff.mpr ⟨le_refl _, hothers.generation, rfl, rfl⟩

theorem BackFilled.reads {json : AmrJson} (h : row.BackFilled row') (hothers : row.OthersReadable json)
    (hcreated : TimeInRange row.createdAt) : ∃ session, rowToSession json row' = .ok session := by
  obtain ⟨created, old, hparse, -, rfl, hdeadline, -⟩ := h
  obtain ⟨session, hreads⟩ :=
    backFill_reads hothers hdeadline (parseTime_formatTime (hcreated created hparse))
  exact ⟨session, rowToSession_eq_ok_iff.mpr hreads⟩

end SessionRow

structure Fills (f : SessionRow → SessionRow) (rows : List SessionRow) : Prop where
  legacy : ∀ row ∈ rows, row.isLegacy = true → row.BackFilled (f row)
  complete : ∀ row ∈ rows, row.isLegacy = false → f row = row

namespace Fills

variable {f : SessionRow → SessionRow} {rows : List SessionRow}

theorem id_eq (h : Fills f rows) {row : SessionRow} (hmem : row ∈ rows) : (f row).id = row.id := by
  cases hlegacy : row.isLegacy with
  | true =>
    obtain ⟨created, old, -, -, heq, -⟩ := h.legacy row hmem hlegacy
    rw [heq]
    rfl
  | false => rw [h.complete row hmem hlegacy]

end Fills

section Steps

variable {fault : Fault} {rows rows' : List SessionRow}
  (hids : (rows.map SessionRow.id).Nodup)
  (htimes : ∀ row ∈ rows, TimeInRange row.createdAt ∧ TimeInRange row.sessionExpiresAt)

include hids htimes

end Steps

variable {fault : Fault} {db db' : Database}

end AuthMiniGateway

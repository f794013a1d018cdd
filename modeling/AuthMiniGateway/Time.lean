import AuthMiniGateway.Lib.Decimal
import AuthMiniGateway.Lib.Calendar

/-!
# Instants and their text

An instant is a number of nanoseconds since the Unix epoch. Arithmetic on instants panics out of chrono's
ranges: a duration is a whole number of milliseconds in an `i64`, and an instant lies in the years -262143 to
262142. A panic is `none` here.
-/

namespace AuthMiniGateway

open Calendar Decimal

def nanosPerMilli : Int := 1000000
def nanosPerSecond : Int := 1000000000
def nanosPerDay : Int := 86400 * nanosPerSecond

-- `DateTime::<Utc>::MIN_UTC` and `MAX_UTC`
def minUtc : Int := daysFromCivil ⟨-262143, 1, 1⟩ * nanosPerDay

def maxUtc : Int := (daysFromCivil ⟨262142, 12, 31⟩ + 1) * nanosPerDay - 1

def InChrono (value : Int) : Prop := minUtc ≤ value ∧ value ≤ maxUtc

instance (value : Int) : Decidable (InChrono value) := inferInstanceAs (Decidable (_ ∧ _))

-- `i64::MAX / 1000`
def maxDurationSeconds : Int := 9223372036854775

def durationSeconds (seconds : Int) : Option Int :=
  if -maxDurationSeconds ≤ seconds ∧ seconds ≤ maxDurationSeconds then
    some (seconds * nanosPerSecond)
  else
    none

/-- `value + Duration::seconds(seconds)`. -/
def addSeconds (value : Int) (seconds : Int) : Option Int :=
  match durationSeconds seconds with
  | none => none
  | some duration => if InChrono (value + duration) then some (value + duration) else none

def timestampOpt (seconds : Int) : Option Int :=
  if InChrono (seconds * nanosPerSecond) then some (seconds * nanosPerSecond) else none

def truncMillis (value : Int) : Int := value / nanosPerMilli * nanosPerMilli

def dateOf (value : Int) : Date := civilFromDays (value / nanosPerDay)

def timeOfDay (value : Int) : Nat := (value % nanosPerDay).toNat

def formatYear (year : Int) : List Char :=
  if 0 ≤ year ∧ year ≤ 9999 then pad 4 year.toNat
  else
    (if year < 0 then '-' else '+') ::
      (if year.natAbs < 10000 then pad 4 year.natAbs else Nat.toDigits 10 year.natAbs)

def formatTimeOfDay (nanos : Nat) : List Char :=
  pad 2 (nanos / 3600000000000) ++ ':' ::
  (pad 2 (nanos / 60000000000 % 60) ++ ':' ::
  (pad 2 (nanos / 1000000000 % 60) ++ '.' ::
  (pad 3 (nanos / 1000000 % 1000) ++ ['Z'])))

def formatChars (value : Int) : List Char :=
  formatYear (dateOf value).year ++ '-' ::
  (pad 2 (dateOf value).month.toNat ++ '-' ::
  (pad 2 (dateOf value).day.toNat ++ 'T' :: formatTimeOfDay (timeOfDay value)))

/-- `value.to_rfc3339_opts(SecondsFormat::Millis, true)`. -/
def formatTime (value : Int) : String := String.ofList (formatChars value)

def expectChar (c : Char) : List Char → Option (List Char)
  | [] => none
  | x :: text => if x = c then some text else none

def dateTimeSeparator : List Char → Option (List Char)
  | [] => none
  | x :: text => if x = 'T' ∨ x = 't' ∨ x = ' ' then some text else none

def fractionDigits : Nat → Nat → List Char → Nat × List Char
  | _, acc, [] => (acc, [])
  | left, acc, c :: text =>
    match digitValue c with
    -- nine digits count, further ones are read and skipped
    | some d => fractionDigits (left - 1) (acc + d * (if left = 0 then 0 else 10 ^ (left - 1))) text
    | none => (acc, c :: text)

/-- An optional fraction of a second, in nanoseconds. A point needs a digit after it. -/
def readFraction : List Char → Option (Nat × List Char)
  | '.' :: c :: text => if (digitValue c).isSome then some (fractionDigits 9 0 (c :: text)) else none
  | '.' :: [] => none
  | text => some (0, text)

def readOffset : List Char → Option Int
  | [] => none
  | c :: text =>
    if c = 'Z' ∨ c = 'z' then (if text = [] then some 0 else none)
    else if c = '+' ∨ c = '-' ∨ c = '−' then do
      let (hours, text) ← read 2 text
      let text ← expectChar ':' text
      let (minutes, text) ← read 2 text
      if hours ≤ 23 ∧ minutes ≤ 59 ∧ text = [] then
        some ((if c = '+' then 1 else -1) * (hours * 60 + minutes : Nat))
      else none
    else none

def readDate (text : List Char) : Option (Date × List Char) := do
  let (year, text) ← read 4 text
  let text ← expectChar '-' text
  let (month, text) ← read 2 text
  let text ← expectChar '-' text
  let (day, text) ← read 2 text
  if (Date.mk year month day).Valid then some (⟨year, month, day⟩, text) else none

def readTimeOfDay (text : List Char) : Option (Nat × List Char) := do
  let (hour, text) ← read 2 text
  let text ← expectChar ':' text
  let (minute, text) ← read 2 text
  let text ← expectChar ':' text
  let (second, text) ← read 2 text
  let (nanos, text) ← readFraction text
  if hour ≤ 23 ∧ minute ≤ 59 ∧ second ≤ 59 then
    some ((hour * 3600 + minute * 60 + second) * 1000000000 + nanos, text)
  else none

/-- `DateTime::parse_from_rfc3339(value)?.with_timezone(&Utc)`. The leap second `:60`, which chrono
reads too, has no place in this model: no text that `formatTime` writes has it. -/
def parseChars (text : List Char) : Option Int := do
  let (date, text) ← readDate text
  let text ← dateTimeSeparator text
  let (nanos, text) ← readTimeOfDay text
  let offset ← readOffset text
  some (daysFromCivil date * nanosPerDay + nanos - offset * 60 * nanosPerSecond)

def parseTime (value : String) : Option Int := parseChars value.toList

/-- The instants whose text RFC 3339 can hold: the years 0000 to 9999. -/
def InTextRange (value : Int) : Prop :=
  0 ≤ (dateOf value).year ∧ (dateOf value).year ≤ 9999

instance (value : Int) : Decidable (InTextRange value) := inferInstanceAs (Decidable (_ ∧ _))

end AuthMiniGateway

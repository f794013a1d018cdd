import AuthMiniGateway.Benchmark.DeliveryLedger
import AuthMiniGateway.Lib.Calendar
import AuthMiniGateway.Lib.Decimal

namespace AuthMiniGateway.Benchmark.UtcText

open Calendar Decimal

/-! ### Printing -/

/-- A number that is not negative, with zeros in front up to the width. -/
def padded (width : ℕ) (number : Int) : List Char :=
  if number.toNat < 10 ^ width then pad width number.toNat else Nat.toDigits 10 number.toNat

def civilFromDays (unixDays : Int) : Date :=
  let z := unixDays + 719468
  let era := (if 0 ≤ z then z else z - 146096).tdiv 146097
  let doe := z - era * 146097
  let yoe := (doe - doe / 1460 + doe / 36524 - doe / 146096) / 365
  let year := yoe + era * 400
  let doy := doe - (365 * yoe + yoe / 4 - yoe / 100)
  let mp := (5 * doy + 2) / 153
  let day := doy - (153 * mp + 2) / 5 + 1
  let month := mp + if mp < 10 then 3 else -9
  { year := year + if month ≤ 2 then 1 else 0
    month
    day }

def utcRfc3339 (unixSeconds : ℕ) : Except String String := do
  let days := unixSeconds / 86400
  let secondOfDay := unixSeconds % 86400
  require (days < 2 ^ 63) "UTC day count overflow"
  let date := civilFromDays days
  let hour := secondOfDay / 3600
  let minute := secondOfDay % 3600 / 60
  let second := secondOfDay % 60
  .ok (String.ofList (padded 4 date.year ++ '-' :: (padded 2 date.month ++ '-' :: (padded 2 date.day ++
    'T' :: (padded 2 hour ++ ':' :: (padded 2 minute ++ ':' :: (padded 2 second ++ ".000Z".toList)))))))

/-! ### Reading -/

def characters (bytes : Bytes) : List Char := bytes.map fun byte => Char.ofNat byte.toNat

def digits (text : List Char) : Option Int :=
  if text = [] then none else (read text.length text).map fun result => (result.1 : Int)

/-- `str::parse::<i64>`, of texts too short to overflow: a sign may come first. -/
def parseI64 : List Char → Option Int
  | '+' :: text => digits text
  | '-' :: text => (digits text).map (- ·)
  | text => digits text

def decimal (name refusal : String) (bytes : Bytes) (start stop : ℕ) : Except String Int :=
  let range := (bytes.drop start).take (stop - start)
  if (String.fromUTF8? ⟨range.toArray⟩).isNone then .error (name ++ " is not ASCII")
  else
    match parseI64 (characters range) with
    | some number => .ok number
    | none => .error (name ++ refusal)

/-- The range checks and the arithmetic that both parsers do. -/
def unixSecondsOf (name : String) (date : Date) (hour minute second lastSecond : Int) :
    Except String ℕ := do
  require (1 ≤ date.month && date.month ≤ 12 && 1 ≤ date.day && date.day ≤ 31
      && 0 ≤ hour && hour ≤ 23 && 0 ≤ minute && minute ≤ 59 && 0 ≤ second && second ≤ lastSecond)
    (name ++ " has an out-of-range component")
  let adjustedYear := date.year - if date.month ≤ 2 then 1 else 0
  let era := adjustedYear / 400
  let yearOfEra := adjustedYear - era * 400
  let shiftedMonth := date.month + if 2 < date.month then -3 else 9
  let dayOfYear := (153 * shiftedMonth + 2) / 5 + date.day - 1
  let dayOfEra := yearOfEra * 365 + yearOfEra / 4 - yearOfEra / 100 + dayOfYear
  let unixDays := era * 146097 + dayOfEra - 719468
  require (0 ≤ unixDays) (name ++ " predates the Unix epoch")
  let seconds := unixDays.toNat * 86400 + (hour * 3600 + minute * 60 + second).toNat
  require (seconds < 2 ^ 64) (name ++ " overflows Unix seconds")
  .ok seconds

def parseUtcRfc3339Seconds (value : String) : Except String ℕ := do
  let bytes := utf8 value
  let chars := characters bytes
  require (chars.length = 24 && chars[4]? = some '-' && chars[7]? = some '-' && chars[10]? = some 'T'
      && chars[13]? = some ':' && chars[16]? = some ':' && chars.drop 19 = ".000Z".toList)
    "session UTC field is not exact RFC3339 milliseconds"
  let parse := decimal "session UTC field" " contains a non-decimal component" bytes
  let year ← parse 0 4
  let month ← parse 5 7
  let day ← parse 8 10
  let hour ← parse 11 13
  let minute ← parse 14 16
  let second ← parse 17 19
  unixSecondsOf "session UTC field" ⟨year, month, day⟩ hour minute second 59

def monthNames : List (List Char) :=
  ["Jan", "Feb", "Mar", "Apr", "May", "Jun", "Jul", "Aug", "Sep", "Oct", "Nov", "Dec"].map String.toList

def parseHttpDateSeconds (value : String) : Except String ℕ := do
  let bytes := utf8 value
  let chars := characters bytes
  require (chars.length = 29 && (chars.drop 3).take 2 = [',', ' '] && chars[7]? = some ' '
      && chars[11]? = some ' ' && chars[16]? = some ' ' && chars[19]? = some ':' && chars[22]? = some ':'
      && chars.drop 25 = " GMT".toList)
    "response Date header is not IMF-fixdate"
  let parse := decimal "response Date header" " has a non-decimal component" bytes
  let day ← parse 5 7
  match monthNames.idxOf? ((chars.drop 8).take 3) with
  | none => .error "response Date header has an invalid month"
  | some index =>
    let year ← parse 12 16
    let hour ← parse 17 19
    let minute ← parse 20 22
    let second ← parse 23 25
    unixSecondsOf "response Date header" ⟨year, index + 1, day⟩ hour minute second 60

end AuthMiniGateway.Benchmark.UtcText

import AuthMiniGateway.Benchmark.UtcText
import AuthMiniGateway.Lib.Fallible
import AuthMiniGateway.Lib.Utf8
import AuthMiniGateway.Proof.TimeText

namespace AuthMiniGateway.Benchmark.UtcText

open Decimal
open Calendar (Date daysFromCivil daysInMonth isLeap ofMarchYear yearStart monthStart)

/-! ### Dates -/

theorem eq_of_daysFromCivil_eq {a b : Date} (ha : a.Valid) (hb : b.Valid)
    (h : daysFromCivil a = daysFromCivil b) : a = b := by
  rcases Calendar.Date.before_trichotomy a b with hlt | heq | hgt
  · have := Calendar.daysFromCivil_lt_of_before ha hb hlt
    omega
  · exact heq
  · have := Calendar.daysFromCivil_lt_of_before hb ha hgt
    omega

section Era

variable {doe century olympiad year rest : Int}

theorem century_eq (hcentury : 0 ≤ century ∧ century ≤ 3)
    (h : 0 ≤ doe - 36524 * century ∧ doe - 36524 * century < 36524 ∨ doe = 146096 ∧ century = 3) :
    doe / 36524 - doe / 146096 = century := by
  rcases h with hwithin | ⟨rfl, rfl⟩
  · have hquotient : doe / 36524 = century := by omega
    have hnone : doe / 146096 = 0 := by omega
    omega
  · decide

/-- The year of the era is made of the centuries, olympiads and years that have passed. -/
theorem yearOfEra_eq (hcentury : 0 ≤ century ∧ century ≤ 3) (holympiad : 0 ≤ olympiad ∧ olympiad ≤ 24)
    (hyear : 0 ≤ year ∧ year ≤ 3) (hrest : 0 ≤ rest ∧ rest ≤ 365) (hlong : rest = 365 → year = 3)
    (hlast : rest = 365 → olympiad = 24 → century = 3)
    (hdoe : doe = 36524 * century + 1461 * olympiad + 365 * year + rest) :
    (doe - doe / 1460 + doe / 36524 - doe / 146096) / 365 = 100 * century + 4 * olympiad + year := by
  have hcenturies : doe / 36524 - doe / 146096 = century := century_eq hcentury (by omega)
  have hdays : doe / 1460 = 25 * century + olympiad
      + (24 * century + olympiad + 365 * year + rest) / 1460 := by omega
  -- the last day of an olympiad is the one that has an additional multiple of 1460 before it
  have hcarry : (24 * century + olympiad + 365 * year + rest) / 1460 = 0 ∧ rest ≤ 364 ∨
      (24 * century + olympiad + 365 * year + rest) / 1460 = 1 ∧ 1 ≤ rest := by omega
  omega

theorem century_bounds (hdoe : 0 ≤ doe ∧ doe < 146097) (h : min (doe / 36524) 3 = century) :
    (0 ≤ century ∧ century ≤ 3) ∧ (0 ≤ doe - 36524 * century ∧ doe - 36524 * century ≤ 36524) ∧
      (doe - 36524 * century = 36524 → century = 3) := by
  omega

theorem year_bounds {within : Int} (hwithin : 0 ≤ within ∧ within ≤ 36524)
    (h : min (within % 1461 / 365) 3 = year) :
    (0 ≤ within / 1461 ∧ within / 1461 ≤ 24) ∧ (0 ≤ year ∧ year ≤ 3) ∧
      (0 ≤ within % 1461 - 365 * year ∧ within % 1461 - 365 * year ≤ 365) ∧
      (within % 1461 - 365 * year = 365 → year = 3) ∧
      (within % 1461 - 365 * year = 365 → within / 1461 = 24 → within = 36524) := by
  omega

theorem dayOfYear_eq (holympiad : 0 ≤ olympiad ∧ olympiad ≤ 24) (hyear : 0 ≤ year ∧ year ≤ 3)
    (hdoe : doe = 36524 * century + 1461 * olympiad + 365 * year + rest) :
    doe - (365 * (100 * century + 4 * olympiad + year) + (100 * century + 4 * olympiad + year) / 4
      - (100 * century + 4 * olympiad + year) / 100) = rest := by
  have hquarter : (100 * century + 4 * olympiad + year) / 4 = 25 * century + olympiad := by omega
  have hhundredth : (100 * century + 4 * olympiad + year) / 100 = century := by omega
  omega

end Era

theorem civilFromDays_eq {unixDays : Int} (h : 0 ≤ unixDays) :
    civilFromDays unixDays = Calendar.civilFromDays unixDays := by
  have hera : (if 0 ≤ unixDays + 719468 then unixDays + 719468
      else unixDays + 719468 - 146096).tdiv 146097 = (unixDays + 719468) / 146097 := by
    rw [if_pos (by omega), Int.tdiv_eq_ediv_of_nonneg (by omega)]
  have hdoe : unixDays + 719468 - (unixDays + 719468) / 146097 * 146097
      = (unixDays + 719468) % 146097 := by omega
  have hrange : 0 ≤ (unixDays + 719468) % 146097 ∧ (unixDays + 719468) % 146097 < 146097 := by omega
  simp only [civilFromDays, Calendar.civilFromDays, hera, hdoe]
  clear hera hdoe
  generalize (unixDays + 719468) / 146097 = era
  generalize (unixDays + 719468) % 146097 = doe at *
  generalize hcentury : min (doe / 36524) 3 = century
  generalize hyear : min ((doe - 36524 * century) % 1461 / 365) 3 = year
  obtain ⟨hcenturies, hwithin, hfourth⟩ := century_bounds hrange hcentury
  obtain ⟨holympiads, hyears, hrest, hlong, hlast⟩ := year_bounds hwithin hyear
  have hsum : doe = 36524 * century + 1461 * ((doe - 36524 * century) / 1461) + 365 * year
      + ((doe - 36524 * century) % 1461 - 365 * year) := by
    have := Int.mul_ediv_add_emod (doe - 36524 * century) 1461
    omega
  rw [yearOfEra_eq hcenturies holympiads hyears hrest hlong (fun h h' => hfourth (hlast h h')) hsum,
    dayOfYear_eq holympiads hyears hsum]
  simp only [ofMarchYear, monthStart, Date.mk.injEq, and_true]
  generalize (5 * ((doe - 36524 * century) % 1461 - 365 * year) + 2) / 153 = shifted
  generalize (doe - 36524 * century) / 1461 = olympiad
  clear * -
  constructor <;> split_ifs <;> omega

/-! ### The printed text -/

def textOf (date : Date) (hour minute second : ℕ) : List Char :=
  pad 4 date.year.toNat ++ '-' :: (pad 2 date.month.toNat ++ '-' :: (pad 2 date.day.toNat ++
    'T' :: (pad 2 hour ++ ':' :: (pad 2 minute ++ ':' :: (pad 2 second ++ ".000Z".toList)))))

def textOfSeconds (seconds : ℕ) : List Char :=
  textOf (Calendar.civilFromDays ↑(seconds / 86400)) (seconds % 86400 / 3600) (seconds % 86400 % 3600 / 60)
    (seconds % 86400 % 60)

theorem padded_eq {width : ℕ} {number : Int} (h : number < 10 ^ width) :
    padded width number = pad width number.toNat := by
  have hpos : (0 : Int) < 10 ^ width := by positivity
  rw [padded, if_pos]
  zify
  omega

variable {seconds : ℕ} {value : String} {text : List Char}

theorem utcRfc3339_eq (h : (Calendar.civilFromDays ↑(seconds / 86400)).year ≤ 9999)
    (hdays : seconds / 86400 < 2 ^ 63) :
    utcRfc3339 seconds = .ok (String.ofList (textOfSeconds seconds)) := by
  obtain ⟨-, hmonth, -, hday⟩ := Calendar.valid_civilFromDays ↑(seconds / 86400)
  have hday' := hday.trans (Calendar.daysInMonth_le _ _)
  have hhour : seconds % 86400 / 3600 < 100 := by omega
  have hminute : seconds % 86400 % 3600 / 60 < 100 := by omega
  have hsecond : seconds % 86400 % 60 < 100 := by omega
  rw [utcRfc3339, require, if_pos (decide_eq_true hdays), civilFromDays_eq (Int.natCast_nonneg _)]
  change Except.ok (String.ofList _) = _
  rw [padded_eq (by omega), padded_eq (by omega), padded_eq (by omega), padded_eq (by omega),
    padded_eq (by omega), padded_eq (by omega)]
  rfl

theorem dateOf_ofSeconds (seconds : ℕ) :
    dateOf (seconds * nanosPerSecond) = Calendar.civilFromDays ↑(seconds / 86400) := by
  rw [dateOf, nanosPerDay, Int.mul_ediv_mul_of_pos_left _ _ (by decide)]
  rfl

/-! ### Reading the fields -/

theorem digits_pad {width number : ℕ} (hwidth : 0 < width) (h : number < 10 ^ width) :
    digits (pad width number) = some (number : Int) := by
  have hread := read_pad h []
  rw [List.append_nil] at hread
  rw [digits, if_neg, length_pad, hread]
  · rfl
  · intro hnil
    have := length_pad width number
    rw [hnil] at this
    cases this
    cases hwidth

theorem parseI64_pad {width number : ℕ} (h : number < 10 ^ (width + 1)) :
    parseI64 (pad (width + 1) number) = some (number : Int) := by
  have hfirst := digit_ne_sign (number / 10 ^ width)
  have hdigits := digits_pad (Nat.succ_pos width) h
  rw [pad] at hdigits ⊢
  unfold parseI64
  split
  · next heq => exact absurd (List.cons.inj heq).1 hfirst.2
  · next heq => exact absurd (List.cons.inj heq).1 hfirst.1
  · exact hdigits

theorem digits_eq_some {number : Int} (h : digits text = some number) :
    0 ≤ number ∧ number < 10 ^ text.length ∧ text = pad text.length number.toNat := by
  rw [digits] at h
  split_ifs at h
  obtain ⟨⟨n, rest⟩, hread, rfl⟩ := Option.map_eq_some_iff.mp h
  obtain ⟨hlt, htext⟩ := read_eq_some hread
  have hrest : rest = [] := by
    have hlength := congrArg List.length htext
    rw [List.length_append, length_pad] at hlength
    exact List.eq_nil_of_length_eq_zero (by omega)
  rw [hrest, List.append_nil] at htext
  exact ⟨Int.natCast_nonneg n, by exact_mod_cast hlt, htext⟩

theorem mem_pad_isDigit {width number : ℕ} {c : Char} (h : c ∈ pad width number) : c.isDigit = true := by
  induction width generalizing number with
  | zero => cases h
  | succ _ ih =>
    rw [pad, List.mem_cons] at h
    rcases h with rfl | hrest
    · have hall : ∀ d < 10, (Char.ofNat (48 + d)).isDigit = true := by decide
      exact hall _ (Nat.mod_lt _ (by decide))
    · exact ih hrest

theorem ascii_of_isDigit {c : Char} (h : c.isDigit = true) : c.toNat < 128 := by
  simp only [Char.isDigit, Bool.and_eq_true, decide_eq_true_eq] at h
  have hle : c.val.toNat ≤ 57 := UInt32.le_iff_toNat_le.mp h.2
  exact hle.trans_lt (by decide)

theorem ascii_of_parseI64 {number : Int} (h : parseI64 text = some number) :
    ∀ c ∈ text, c.toNat < 128 := by
  have hdigits : ∀ {rest : List Char} {n : Int}, digits rest = some n → ∀ c ∈ rest, c.toNat < 128 := by
    intro rest n hrest c hc
    rw [(digits_eq_some hrest).2.2] at hc
    exact ascii_of_isDigit (mem_pad_isDigit hc)
  unfold parseI64 at h
  split at h
  · exact List.forall_mem_cons.mpr ⟨by decide, hdigits h⟩
  · obtain ⟨n, hn, -⟩ := Option.map_eq_some_iff.mp h
    exact List.forall_mem_cons.mpr ⟨by decide, hdigits hn⟩
  · exact hdigits h

theorem toNat_ofNat_byte (byte : UInt8) : (Char.ofNat byte.toNat).toNat = byte.toNat := by
  have hall : ∀ n < 256, (Char.ofNat n).toNat = n := by decide +kernel
  exact hall byte.toNat byte.toNat_lt

theorem utf8_ofList_characters {bytes : Bytes} (h : ∀ c ∈ characters bytes, c.toNat < 128) :
    utf8 (String.ofList (characters bytes)) = bytes := by
  rw [utf8, Utf8.data_toList, String.toList_ofList]
  apply Utf8.flatMap_encodeChar_of_ascii
  intro byte hbyte
  rw [← toNat_ofNat_byte]
  exact h _ (List.mem_map_of_mem hbyte)

theorem characters_utf8_ofList (h : ∀ c ∈ text, c.toNat < 128) :
    characters (utf8 (String.ofList text)) = text := by
  rw [characters, utf8, Utf8.data_toList, String.toList_ofList]
  exact Utf8.map_ofNat_of_ascii h

theorem eq_ofList_of_characters (h : characters (utf8 value) = text) (hascii : ∀ c ∈ text, c.toNat < 128) :
    value = String.ofList text := by
  subst h
  exact utf8_injective (utf8_ofList_characters hascii).symm

theorem decimal_eq_ok_iff {name refusal : String} {bytes : Bytes} {start stop : ℕ} {number : Int} :
    decimal name refusal bytes start stop = .ok number ↔
      parseI64 (((characters bytes).drop start).take (stop - start)) = some number := by
  have hrange : ((characters bytes).drop start).take (stop - start)
      = characters ((bytes.drop start).take (stop - start)) := by
    rw [characters, characters, List.map_take, List.map_drop]
  rw [hrange, decimal]
  generalize (bytes.drop start).take (stop - start) = range
  constructor
  · intro h
    split_ifs at h
    split at h
    · cases h
      assumption
    · cases h
  · intro h
    have hutf8 : String.fromUTF8? ⟨range.toArray⟩ = some (String.ofList (characters range)) :=
      Utf8.fromUTF8?_eq_some_iff.mpr (utf8_ofList_characters (ascii_of_parseI64 h))
    rw [hutf8, h]
    rfl

/-! ### The arithmetic of the parsers -/

theorem unixDays_eq {date : Date} (hmonth : 1 ≤ date.month ∧ date.month ≤ 12) :
    (date.year - if date.month ≤ 2 then 1 else 0) / 400 * 146097 +
      ((date.year - (if date.month ≤ 2 then 1 else 0)
          - (date.year - if date.month ≤ 2 then 1 else 0) / 400 * 400) * 365
        + (date.year - (if date.month ≤ 2 then 1 else 0)
          - (date.year - if date.month ≤ 2 then 1 else 0) / 400 * 400) / 4
        - (date.year - (if date.month ≤ 2 then 1 else 0)
          - (date.year - if date.month ≤ 2 then 1 else 0) / 400 * 400) / 100
        + ((153 * (date.month + if 2 < date.month then -3 else 9) + 2) / 5 + date.day - 1)) - 719468
      = daysFromCivil date := by
  simp only [daysFromCivil, yearStart, monthStart, Date.marchYear, Date.marchMonth]
  split_ifs <;> omega

theorem unixSecondsOf_eq_ok_iff {name : String} {date : Date} {hour minute second lastSecond : Int} :
    unixSecondsOf name date hour minute second lastSecond = .ok seconds ↔
      ((1 ≤ date.month ∧ date.month ≤ 12) ∧ (1 ≤ date.day ∧ date.day ≤ 31) ∧ (0 ≤ hour ∧ hour ≤ 23) ∧
        (0 ≤ minute ∧ minute ≤ 59) ∧ (0 ≤ second ∧ second ≤ lastSecond)) ∧
      0 ≤ daysFromCivil date ∧ seconds < 2 ^ 64 ∧
      (seconds : Int) = daysFromCivil date * 86400 + (hour * 3600 + minute * 60 + second) := by
  simp only [unixSecondsOf, Fallible.bind_eq_ok_iff, require_eq_ok_iff, Bool.and_eq_true,
    decide_eq_true_eq]
  constructor
  · rintro ⟨_, ⟨⟨⟨⟨⟨⟨⟨⟨⟨hm1, hm2⟩, hd1⟩, hd2⟩, hh1⟩, hh2⟩, hmi1⟩, hmi2⟩, hs1⟩, hs2⟩, _, hdays, _, hlt, heq⟩
    rw [unixDays_eq ⟨hm1, hm2⟩] at hdays hlt heq
    cases heq
    refine ⟨⟨⟨hm1, hm2⟩, ⟨hd1, hd2⟩, ⟨hh1, hh2⟩, ⟨hmi1, hmi2⟩, hs1, hs2⟩, hdays, hlt, ?_⟩
    push_cast
    rw [Int.toNat_of_nonneg hdays, Int.toNat_of_nonneg (by omega)]
  · rintro ⟨⟨⟨hm1, hm2⟩, ⟨hd1, hd2⟩, ⟨hh1, hh2⟩, ⟨hmi1, hmi2⟩, hs1, hs2⟩, hdays, hlt, heq⟩
    have hsum : (daysFromCivil date).toNat * 86400 + (hour * 3600 + minute * 60 + second).toNat
        = seconds := by
      zify
      rw [Int.toNat_of_nonneg hdays, Int.toNat_of_nonneg (by omega), heq]
    rw [unixDays_eq ⟨hm1, hm2⟩, hsum]
    exact ⟨(), ⟨⟨⟨⟨⟨⟨⟨⟨⟨hm1, hm2⟩, hd1⟩, hd2⟩, hh1⟩, hh2⟩, hmi1⟩, hmi2⟩, hs1⟩, hs2⟩, (), hdays, (), hlt, rfl⟩

/-! ### Session times -/

def HasShape (chars : List Char) : Prop :=
  chars.length = 24 ∧ chars[4]? = some '-' ∧ chars[7]? = some '-' ∧ chars[10]? = some 'T' ∧
    chars[13]? = some ':' ∧ chars[16]? = some ':' ∧ chars.drop 19 = ".000Z".toList

def Reads (read : List Char → Option Int) (chars : List Char) (date : Date) (hour minute second : Int) :
    Prop :=
  read ((chars.drop 0).take 4) = some date.year ∧ read ((chars.drop 5).take 2) = some date.month ∧
    read ((chars.drop 8).take 2) = some date.day ∧ read ((chars.drop 11).take 2) = some hour ∧
    read ((chars.drop 14).take 2) = some minute ∧ read ((chars.drop 17).take 2) = some second

theorem parseUtcRfc3339Seconds_eq_ok_iff :
    parseUtcRfc3339Seconds value = .ok seconds ↔
      HasShape (characters (utf8 value)) ∧ ∃ date hour minute second,
        Reads parseI64 (characters (utf8 value)) date hour minute second ∧
        unixSecondsOf "session UTC field" date hour minute second 59 = .ok seconds := by
  simp only [parseUtcRfc3339Seconds, Fallible.bind_eq_ok_iff, require_eq_ok_iff, decimal_eq_ok_iff,
    Bool.and_eq_true, decide_eq_true_eq, HasShape, Reads]
  constructor
  · rintro ⟨_, ⟨⟨⟨⟨⟨⟨h1, h2⟩, h3⟩, h4⟩, h5⟩, h6⟩, h7⟩, year, hyear, month, hmonth, day, hday, hour,
      hhour, minute, hminute, second, hsecond, hseconds⟩
    exact ⟨⟨h1, h2, h3, h4, h5, h6, h7⟩, ⟨year, month, day⟩, hour, minute, second,
      ⟨hyear, hmonth, hday, hhour, hminute, hsecond⟩, hseconds⟩
  · rintro ⟨⟨h1, h2, h3, h4, h5, h6, h7⟩, date, hour, minute, second,
      ⟨hyear, hmonth, hday, hhour, hminute, hsecond⟩, hseconds⟩
    exact ⟨(), ⟨⟨⟨⟨⟨⟨h1, h2⟩, h3⟩, h4⟩, h5⟩, h6⟩, h7⟩, _, hyear, _, hmonth, _, hday, _, hhour, _,
      hminute, _, hsecond, hseconds⟩

section Texts

variable {date : Date} {hour minute second : ℕ}

theorem ascii_textOf : ∀ c ∈ textOf date hour minute second, c.toNat < 128 := by
  have hpad : ∀ {width number : ℕ}, ∀ c ∈ pad width number, c.toNat < 128 :=
    fun c hc => ascii_of_isDigit (mem_pad_isDigit hc)
  simp only [textOf, List.forall_mem_append, List.forall_mem_cons]
  exact ⟨hpad, by decide, hpad, by decide, hpad, by decide, hpad, by decide, hpad, by decide, hpad,
    by simp⟩

theorem hasShape_textOf : HasShape (textOf date hour minute second) :=
  ⟨rfl, rfl, rfl, rfl, rfl, rfl, rfl⟩

theorem reads_textOf (hyear : 0 ≤ date.year ∧ date.year ≤ 9999) (hmonth : 1 ≤ date.month ∧ date.month ≤ 12)
    (hday : 1 ≤ date.day ∧ date.day ≤ 31) (hhour : hour < 100) (hminute : minute < 100)
    (hsecond : second < 100) :
    Reads digits (textOf date hour minute second) date hour minute second ∧
      Reads parseI64 (textOf date hour minute second) date hour minute second := by
  have hread : ∀ (width : ℕ) {number : Int}, 0 ≤ number → number < 10 ^ (width + 1) →
      digits (pad (width + 1) number.toNat) = some number ∧
        parseI64 (pad (width + 1) number.toNat) = some number := by
    intro width number hnonneg hlt
    have hnat : number.toNat < 10 ^ (width + 1) := by
      zify
      rwa [Int.toNat_of_nonneg hnonneg]
    rw [digits_pad (Nat.succ_pos width) hnat, parseI64_pad hnat, Int.toNat_of_nonneg hnonneg]
    exact ⟨rfl, rfl⟩
  have hyears := hread 3 hyear.1 (by omega)
  have hmonths := hread 1 (by omega : 0 ≤ date.month) (by omega)
  have hdays := hread 1 (by omega : 0 ≤ date.day) (by omega)
  have hhours := hread 1 (Int.natCast_nonneg hour) (by omega)
  have hminutes := hread 1 (Int.natCast_nonneg minute) (by omega)
  have hseconds := hread 1 (Int.natCast_nonneg second) (by omega)
  exact ⟨⟨hyears.1, hmonths.1, hdays.1, hhours.1, hminutes.1, hseconds.1⟩,
    hyears.2, hmonths.2, hdays.2, hhours.2, hminutes.2, hseconds.2⟩

theorem drop_eq_take_append (start width : ℕ) {c : Char} (h : text[start + width]? = some c) :
    text.drop start = (text.drop start).take width ++ c :: text.drop (start + width + 1) := by
  have hcons : text.drop (start + width) = c :: text.drop (start + width + 1) := by
    obtain ⟨hlt, hget⟩ := List.getElem?_eq_some_iff.mp h
    rw [List.drop_eq_getElem_cons hlt, hget]
  rw [← hcons, ← List.drop_drop, List.take_append_drop]

theorem eq_textOf {hour minute second : Int} (hshape : HasShape text)
    (h : Reads digits text date hour minute second) :
    text = textOf date hour.toNat minute.toNat second.toNat := by
  obtain ⟨hlength, h4, h7, h10, h13, h16, hend⟩ := hshape
  obtain ⟨hyear, hmonth, hday, hhour, hminute, hsecond⟩ := h
  have hlast : text.drop 17 = (text.drop 17).take 2 ++ ".000Z".toList := by
    rw [← hend]
    exact (List.take_append_drop 2 (text.drop 17)).symm.trans (by rw [List.drop_drop])
  have hpad : ∀ {start width : ℕ} {number : Int}, start + width ≤ 24 →
      digits ((text.drop start).take width) = some number →
      (text.drop start).take width = pad width number.toNat := by
    intro start width number hwithin hdigits
    have hwidth : ((text.drop start).take width).length = width := by
      rw [List.length_take, List.length_drop]
      omega
    have heq := (digits_eq_some hdigits).2.2
    rwa [hwidth] at heq
  calc
    text = text.drop 0 := rfl
    _ = textOf date hour.toNat minute.toNat second.toNat := by
      rw [drop_eq_take_append 0 4 h4,
        drop_eq_take_append 5 2 h7,
        drop_eq_take_append 8 2 h10,
        drop_eq_take_append 11 2 h13,
        drop_eq_take_append 14 2 h16, hlast,
        hpad (by decide) hyear, hpad (by decide) hmonth, hpad (by decide) hday, hpad (by decide) hhour,
        hpad (by decide) hminute, hpad (by decide) hsecond]
      rfl

end Texts

/-! ### Seconds with a year of four digits -/

theorem year_nonneg (days : ℕ) : 0 ≤ (Calendar.civilFromDays ↑days).year := by
  have hfirst := newYear_le_year ↑days 0 (by decide)
  have hdays : daysFromCivil ⟨0, 1, 1⟩ = -719528 := by decide
  rw [hfirst, hdays]
  omega

theorem year_le_iff (days : Int) :
    (Calendar.civilFromDays days).year ≤ 9999 ↔ days < 2932897 := by
  have hend := newYear_le_year days 10000 (by decide)
  have hdays : daysFromCivil ⟨10000, 1, 1⟩ = 2932897 := by decide
  rw [hdays] at hend
  omega

theorem reads_textOfSeconds (h : (Calendar.civilFromDays ↑(seconds / 86400)).year ≤ 9999) :
    Reads digits (textOfSeconds seconds) (Calendar.civilFromDays ↑(seconds / 86400))
        ↑(seconds % 86400 / 3600) ↑(seconds % 86400 % 3600 / 60) ↑(seconds % 86400 % 60) ∧
      Reads parseI64 (textOfSeconds seconds) (Calendar.civilFromDays ↑(seconds / 86400))
        ↑(seconds % 86400 / 3600) ↑(seconds % 86400 % 3600 / 60) ↑(seconds % 86400 % 60) := by
  obtain ⟨hm1, hm2, hd1, hd2⟩ := Calendar.valid_civilFromDays ↑(seconds / 86400)
  have hd3 := hd2.trans (Calendar.daysInMonth_le _ _)
  exact reads_textOf ⟨year_nonneg _, h⟩ ⟨hm1, hm2⟩ ⟨hd1, hd3⟩ (by omega) (by omega) (by omega)

theorem unixSecondsOf_civil (name : String) {lastSecond : Int}
    (h : (Calendar.civilFromDays ↑(seconds / 86400)).year ≤ 9999) (hlast : 59 ≤ lastSecond) :
    unixSecondsOf name (Calendar.civilFromDays ↑(seconds / 86400)) ↑(seconds % 86400 / 3600)
      ↑(seconds % 86400 % 3600 / 60) ↑(seconds % 86400 % 60) lastSecond = .ok seconds := by
  obtain ⟨hm1, hm2, hd1, hd2⟩ := Calendar.valid_civilFromDays ↑(seconds / 86400)
  have hd3 := hd2.trans (Calendar.daysInMonth_le _ _)
  rw [year_le_iff] at h
  rw [unixSecondsOf_eq_ok_iff, Calendar.daysFromCivil_civilFromDays]
  refine ⟨⟨⟨hm1, hm2⟩, ⟨hd1, hd3⟩, ?_, ?_, ?_⟩, ?_, ?_, ?_⟩ <;> omega

theorem inTextRange_ofSeconds (h : (Calendar.civilFromDays ↑(seconds / 86400)).year ≤ 9999) :
    InTextRange (seconds * nanosPerSecond) := by
  rw [InTextRange, dateOf_ofSeconds]
  exact ⟨year_nonneg _, h⟩

/-- The text of the benchmark is the text of the gateway. -/
theorem formatTime_ofSeconds (h : (Calendar.civilFromDays ↑(seconds / 86400)).year ≤ 9999) :
    formatTime (seconds * nanosPerSecond) = String.ofList (textOfSeconds seconds) := by
  have htime : timeOfDay (seconds * nanosPerSecond) = seconds % 86400 * 1000000000 := by
    unfold timeOfDay nanosPerDay nanosPerSecond
    omega
  have hhour : seconds % 86400 * 1000000000 / 3600000000000 = seconds % 86400 / 3600 := by omega
  have hminute : seconds % 86400 * 1000000000 / 60000000000 % 60 = seconds % 86400 % 3600 / 60 := by omega
  have hsecond : seconds % 86400 * 1000000000 / 1000000000 % 60 = seconds % 86400 % 60 := by omega
  have hmillis : seconds % 86400 * 1000000000 / 1000000 % 1000 = 0 := by omega
  rw [formatTime, formatChars, formatYear_of_inTextRange (inTextRange_ofSeconds h), dateOf_ofSeconds, htime,
    formatTimeOfDay, hhour, hminute, hsecond, hmillis]
  rfl

theorem utcRfc3339_eq_of_year (h : (civilFromDays ↑(seconds / 86400)).year ≤ 9999) :
    (Calendar.civilFromDays ↑(seconds / 86400)).year ≤ 9999 ∧
      utcRfc3339 seconds = .ok (String.ofList (textOfSeconds seconds)) := by
  rw [civilFromDays_eq (Int.natCast_nonneg _)] at h
  refine ⟨h, utcRfc3339_eq h ?_⟩
  rw [year_le_iff] at h
  omega

/-! ### Dates of responses -/

def httpRest (month : List Char) (date : Date) (hour minute second : ℕ) : List Char :=
  ',' :: ' ' :: (pad 2 date.day.toNat ++ ' ' :: (month ++ ' ' :: (pad 4 date.year.toNat ++ ' ' ::
    (pad 2 hour ++ ':' :: (pad 2 minute ++ ':' :: (pad 2 second ++ " GMT".toList))))))

/-- The HTTP date of a number of seconds. No parser looks at the name of the weekday. -/
def httpDate (weekday : String) (seconds : ℕ) : String :=
  let date := civilFromDays ↑(seconds / 86400)
  weekday ++ String.ofList (httpRest (monthNames.getD (date.month.toNat - 1) []) date
    (seconds % 86400 / 3600) (seconds % 86400 % 3600 / 60) (seconds % 86400 % 60))

theorem monthNames_cases {index : ℕ} (h : index < 12) :
    ∃ x y z, monthNames.getD index [] = [x, y, z] ∧ monthNames.idxOf? [x, y, z] = some index ∧
      ∀ c ∈ [x, y, z], c.toNat < 128 := by
  have hascii {month : List Char} (h : month.all (fun c => c.toNat < 128) = true) :
      ∀ c ∈ month, c.toNat < 128 := fun c hc => of_decide_eq_true (List.all_eq_true.mp h c hc)
  interval_cases index <;> exact ⟨_, _, _, rfl, by decide, hascii (by decide)⟩

theorem characters_append (first : String) (h : ∀ c ∈ text, c.toNat < 128) :
    characters (utf8 (first ++ String.ofList text)) = characters (utf8 first) ++ text := by
  have hsplit : utf8 (first ++ String.ofList text) = utf8 first ++ utf8 (String.ofList text) := by
    simp only [utf8, Utf8.data_toList, String.toList_append, List.flatMap_append]
  rw [hsplit, characters, List.map_append]
  exact congrArg (characters (utf8 first) ++ ·) (characters_utf8_ofList h)

theorem ascii_httpRest {month : List Char} (h : ∀ c ∈ month, c.toNat < 128) (date : Date)
    (hour minute second : ℕ) : ∀ c ∈ httpRest month date hour minute second, c.toNat < 128 := by
  have hpad : ∀ {width number : ℕ}, ∀ c ∈ pad width number, c.toNat < 128 :=
    fun c hc => ascii_of_isDigit (mem_pad_isDigit hc)
  simp only [httpRest, List.forall_mem_append, List.forall_mem_cons]
  exact ⟨by decide, by decide, hpad, by decide, h, by decide, hpad, by decide, hpad, by decide, hpad,
    by decide, hpad, by simp⟩

theorem httpShape_httpRest (a b c x y z : Char) (date : Date) (hour minute second : ℕ) :
    let chars := [a, b, c] ++ httpRest [x, y, z] date hour minute second
    (chars.length = 29 ∧ (chars.drop 3).take 2 = [',', ' '] ∧ chars[7]? = some ' ' ∧
      chars[11]? = some ' ' ∧ chars[16]? = some ' ' ∧ chars[19]? = some ':' ∧ chars[22]? = some ':' ∧
      chars.drop 25 = " GMT".toList) ∧ (chars.drop 8).take 3 = [x, y, z] ∧
      (chars.drop 5).take 2 = pad 2 date.day.toNat ∧ (chars.drop 12).take 4 = pad 4 date.year.toNat ∧
      (chars.drop 17).take 2 = pad 2 hour ∧ (chars.drop 20).take 2 = pad 2 minute ∧
      (chars.drop 23).take 2 = pad 2 second :=
  ⟨⟨rfl, rfl, rfl, rfl, rfl, rfl, rfl, rfl⟩, rfl, rfl, rfl, rfl, rfl, rfl⟩

theorem parseHttpDateSeconds_eq {weekday : String} {date : Date} {hour minute second index : ℕ} {x y z : Char}
    (hweekday : (utf8 weekday).length = 3) (hascii : ∀ c ∈ [x, y, z], c.toNat < 128)
    (hindex : monthNames.idxOf? [x, y, z] = some index) (hmonth : (index : Int) + 1 = date.month)
    (hyear : parseI64 (pad 4 date.year.toNat) = some date.year)
    (hday : parseI64 (pad 2 date.day.toNat) = some date.day)
    (hhour : parseI64 (pad 2 hour) = some (hour : Int))
    (hminute : parseI64 (pad 2 minute) = some (minute : Int))
    (hsecond : parseI64 (pad 2 second) = some (second : Int))
    (hseconds : unixSecondsOf "response Date header" date hour minute second 60 = .ok seconds) :
    parseHttpDateSeconds (weekday ++ String.ofList (httpRest [x, y, z] date hour minute second))
      = .ok seconds := by
  obtain ⟨a, b, c, habc⟩ : ∃ a b c, characters (utf8 weekday) = [a, b, c] := by
    apply List.length_eq_three.mp
    rw [characters, List.length_map, hweekday]
  have hchars := characters_append weekday (ascii_httpRest hascii date hour minute second)
  rw [habc] at hchars
  obtain ⟨⟨h29, h3, h7, h11, h16, h19, h22, hzone⟩, hname, hdayChars, hyearChars, hhourChars, hminuteChars,
    hsecondChars⟩ := httpShape_httpRest a b c x y z date hour minute second
  have hdate : (⟨date.year, (index : Int) + 1, date.day⟩ : Date) = date := Calendar.Date.ext rfl hmonth rfl
  simp only [parseHttpDateSeconds, Fallible.bind_eq_ok_iff, require_eq_ok_iff, decimal_eq_ok_iff,
    Bool.and_eq_true, decide_eq_true_eq, and_assoc, hchars, hname, hindex, Nat.reduceSub, hdayChars, hyearChars,
    hhourChars, hminuteChars, hsecondChars]
  refine ⟨(), h29, h3, h7, h11, h16, h19, h22, hzone, date.day, hday, date.year, hyear, hour, hhour, minute,
    hminute, second, hsecond, ?_⟩
  rw [hdate, hseconds]

theorem parseHttpDateSeconds_httpDate {weekday : String} (hweekday : (utf8 weekday).length = 3)
    (h : (civilFromDays ↑(seconds / 86400)).year ≤ 9999) :
    parseHttpDateSeconds (httpDate weekday seconds) = .ok seconds := by
  obtain ⟨hyear, -⟩ := utcRfc3339_eq_of_year h
  obtain ⟨hlow, hhigh, -, -⟩ := Calendar.valid_civilFromDays ↑(seconds / 86400)
  obtain ⟨x, y, z, hname, hindex, hascii⟩ := monthNames_cases
    (by omega : (Calendar.civilFromDays ↑(seconds / 86400)).month.toNat - 1 < 12)
  obtain ⟨-, hyearRead, -, hdayRead, hhourRead, hminuteRead, hsecondRead⟩ := reads_textOfSeconds hyear
  rw [httpDate, civilFromDays_eq (Int.natCast_nonneg _), hname]
  exact parseHttpDateSeconds_eq hweekday hascii hindex (by omega) hyearRead hdayRead hhourRead hminuteRead
    hsecondRead (unixSecondsOf_civil _ hyear (by decide))

/-- **One calendar.** Of every number of seconds with a year of at most four digits, the session parser
reads the printed text back, texts sort as the numbers they stand for, and the HTTP date of the same
year, month, day and time is read as the same number. -/
theorem calendars_agree {seconds : ℕ} (h : (civilFromDays ↑(seconds / 86400)).year ≤ 9999) :
    ∃ text, utcRfc3339 seconds = .ok text ∧ parseUtcRfc3339Seconds text = .ok seconds ∧
      (∀ (other : ℕ) text', (civilFromDays ↑(other / 86400)).year ≤ 9999 → utcRfc3339 other = .ok text' →
        (text < text' ↔ seconds < other)) ∧
      ∀ weekday, (utf8 weekday).length = 3 →
        parseHttpDateSeconds (httpDate weekday seconds) = .ok seconds := by
  obtain ⟨hyear, htext⟩ := utcRfc3339_eq_of_year h
  refine ⟨_, htext, ?_, ?_, fun weekday hweekday => parseHttpDateSeconds_httpDate hweekday h⟩
  · rw [parseUtcRfc3339Seconds_eq_ok_iff, textOfSeconds, characters_utf8_ofList ascii_textOf]
    exact ⟨hasShape_textOf, _, _, _, _, (reads_textOfSeconds hyear).2,
      unixSecondsOf_civil _ hyear (le_refl _)⟩
  · intro other text' hother htext'
    obtain ⟨hyear', heq⟩ := utcRfc3339_eq_of_year hother
    cases heq.symm.trans htext'
    rw [← formatTime_ofSeconds hyear, ← formatTime_ofSeconds hyear', formatTime_lt_iff
      (inTextRange_ofSeconds hyear) (inTextRange_ofSeconds hyear')]
    unfold truncMillis nanosPerMilli nanosPerSecond
    omega

theorem calendars_agree_epoch :
    (civilFromDays ↑(0 / 86400)).year ≤ 9999 ∧
      ∃ text, utcRfc3339 0 = .ok text ∧ parseUtcRfc3339Seconds text = .ok 0 := by
  have hyear : (civilFromDays ↑(0 / 86400)).year ≤ 9999 := by decide
  obtain ⟨text, htext, hparse, -⟩ := calendars_agree hyear
  exact ⟨hyear, text, htext, hparse⟩

/-! ### Spellings -/

/-- The numbers are written in digits only, and the day is one of its month. -/
def PlainDate (value : String) : Prop :=
  ∃ date hour minute second, Reads digits (characters (utf8 value)) date hour minute second ∧
    date.day ≤ daysInMonth date.year date.month

theorem parseI64_of_digits {number : Int} (h : digits text = some number) :
    parseI64 text = some number := by
  obtain ⟨hnonneg, hlt, htext⟩ := digits_eq_some h
  cases hlength : text.length with
  | zero =>
    rw [List.eq_nil_of_length_eq_zero hlength] at h
    cases h
  | succ width =>
    rw [hlength] at hlt htext
    have hnat : number.toNat < 10 ^ (width + 1) := by
      zify
      rwa [Int.toNat_of_nonneg hnonneg]
    rw [htext, parseI64_pad hnat, Int.toNat_of_nonneg hnonneg]

theorem parseI64_lt {number : Int} (h : parseI64 text = some number) : number < 10 ^ text.length := by
  have hpow : ∀ {rest : List Char} {n : Int} (c : Char), n < 10 ^ rest.length →
      n < 10 ^ (c :: rest).length := by
    intro rest n c hn
    rw [List.length_cons, pow_succ]
    have : (0 : Int) < 10 ^ rest.length := by positivity
    omega
  unfold parseI64 at h
  split at h
  · exact hpow _ (digits_eq_some h).2.1
  · obtain ⟨n, hn, rfl⟩ := Option.map_eq_some_iff.mp h
    refine lt_of_le_of_lt ?_ (hpow _ (digits_eq_some hn).2.1)
    have hnonneg := (digits_eq_some hn).1
    omega
  · exact (digits_eq_some h).2.1

theorem Reads.parseI64 {chars : List Char} {date : Date} {hour minute second : Int}
    (h : Reads digits chars date hour minute second) :
    Reads UtcText.parseI64 chars date hour minute second := by
  obtain ⟨hyear, hmonth, hday, hhour, hminute, hsecond⟩ := h
  exact ⟨parseI64_of_digits hyear, parseI64_of_digits hmonth, parseI64_of_digits hday,
    parseI64_of_digits hhour, parseI64_of_digits hminute, parseI64_of_digits hsecond⟩

theorem Reads.unique {read : List Char → Option Int} {chars : List Char} {date date' : Date}
    {hour hour' minute minute' second second' : Int} (h : Reads read chars date hour minute second)
    (h' : Reads read chars date' hour' minute' second') :
    date = date' ∧ hour = hour' ∧ minute = minute' ∧ second = second' := by
  obtain ⟨hyear, hmonth, hday, hhour, hminute, hsecond⟩ := h
  obtain ⟨hyear', hmonth', hday', hhour', hminute', hsecond'⟩ := h'
  rw [hyear, Option.some_inj] at hyear'
  rw [hmonth, Option.some_inj] at hmonth'
  rw [hday, Option.some_inj] at hday'
  rw [hhour, Option.some_inj] at hhour'
  rw [hminute, Option.some_inj] at hminute'
  rw [hsecond, Option.some_inj] at hsecond'
  exact ⟨Calendar.Date.ext hyear' hmonth' hday', hhour', hminute', hsecond'⟩

/-- Every accepted text has a year of at most four digits, whatever its day. -/
theorem year_le_of_accepted {date : Date} {hour minute second : Int}
    (hreads : Reads parseI64 text date hour minute second)
    (hseconds : unixSecondsOf "session UTC field" date hour minute second 59 = .ok seconds) :
    (Calendar.civilFromDays ↑(seconds / 86400)).year ≤ 9999 := by
  obtain ⟨⟨hmonth, hday, hhour, hminute, hsecond⟩, -, -, heq⟩ := unixSecondsOf_eq_ok_iff.mp hseconds
  have hyear := parseI64_lt hreads.1
  have hlength : ((text.drop 0).take 4).length ≤ 4 := by
    rw [List.length_take]
    exact Nat.min_le_left _ _
  have hpow : (10 : Int) ^ ((text.drop 0).take 4).length ≤ 10 ^ 4 :=
    pow_le_pow_right₀ (by decide) hlength
  have hdays : daysFromCivil date < 2932897 := by
    simp only [daysFromCivil, yearStart, monthStart, Date.marchYear, Date.marchMonth]
    split_ifs <;> omega
  rw [year_le_iff]
  omega

/-- **One spelling.** A text that the session parser accepts is the text that is printed for its number of
seconds exactly when its numbers are written in digits and its day exists. -/
theorem session_time_spelled_iff {value : String} {seconds : ℕ}
    (h : parseUtcRfc3339Seconds value = .ok seconds) :
    utcRfc3339 seconds = .ok value ↔ PlainDate value := by
  obtain ⟨hshape, date, hour, minute, second, hreads, hseconds⟩ :=
    parseUtcRfc3339Seconds_eq_ok_iff.mp h
  have hyear := year_le_of_accepted hreads hseconds
  obtain ⟨⟨hmonth, hday, hhour, hminute, hsecond⟩, hdays, hlt, heq⟩ := unixSecondsOf_eq_ok_iff.mp hseconds
  have htext := utcRfc3339_eq hyear (by omega)
  constructor
  · intro hprinted
    cases htext.symm.trans hprinted
    obtain ⟨-, -, -, hexists⟩ := Calendar.valid_civilFromDays ↑(seconds / 86400)
    have hprintedReads := (reads_textOfSeconds hyear).1
    rw [textOfSeconds, ← characters_utf8_ofList ascii_textOf] at hprintedReads
    exact ⟨_, _, _, _, hprintedReads, hexists⟩
  · rintro ⟨date', hour', minute', second', hdigits, hexists⟩
    obtain ⟨rfl, rfl, rfl, rfl⟩ := hreads.unique hdigits.parseI64
    have hspelled := eq_textOf hshape hdigits
    have hcivil : Calendar.civilFromDays ↑(seconds / 86400) = date := by
      apply eq_of_daysFromCivil_eq (Calendar.valid_civilFromDays _) ⟨hmonth.1, hmonth.2, hday.1, hexists⟩
      rw [Calendar.daysFromCivil_civilFromDays]
      omega
    have hsame : textOfSeconds seconds = textOf date hour.toNat minute.toNat second.toNat := by
      rw [textOfSeconds, hcivil]
      congr 1 <;> omega
    rw [htext, hsame, ← hspelled]
    exact congrArg Except.ok (eq_ofList_of_characters rfl (hspelled ▸ ascii_textOf)).symm

theorem session_time_spelled_iff_march :
    parseUtcRfc3339Seconds "2023-03-03T00:00:00.000Z" = .ok 1677801600 ∧
      (utcRfc3339 1677801600 = .ok "2023-03-03T00:00:00.000Z" ↔ PlainDate "2023-03-03T00:00:00.000Z") := by
  have hparse : parseUtcRfc3339Seconds "2023-03-03T00:00:00.000Z" = .ok 1677801600 := by decide +kernel
  exact ⟨hparse, session_time_spelled_iff hparse⟩

/-- The 31st of February and an hour with a sign are accepted, for the instant of another text. -/
theorem second_spellings_accepted :
    utcRfc3339 1677801600 = .ok "2023-03-03T00:00:00.000Z" ∧
      parseUtcRfc3339Seconds "2023-02-31T00:00:00.000Z" = .ok 1677801600 ∧
      parseUtcRfc3339Seconds "2023-03-03T+0:-0:00.000Z" = .ok 1677801600 := by
  decide +kernel

end AuthMiniGateway.Benchmark.UtcText

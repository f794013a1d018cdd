import Mathlib

/-!
# The proleptic Gregorian calendar

Day numbers count from 1970-01-01. Years are counted from March here, so that the leap day is the last day of
its year and the four cycle lengths (400, 100, 4 and 1 years) divide a day number one after the other.
-/

namespace Calendar

@[ext]
structure Date where
  year : Int
  month : Int
  day : Int
  deriving DecidableEq, Repr

def isLeap (year : Int) : Bool :=
  year % 4 = 0 && (year % 100 ≠ 0 || year % 400 = 0)

def daysInMonth (year month : Int) : Int :=
  if month = 2 then (if isLeap year then 29 else 28)
  else if month = 4 ∨ month = 6 ∨ month = 9 ∨ month = 11 then 30
  else 31

def Date.Valid (date : Date) : Prop :=
  1 ≤ date.month ∧ date.month ≤ 12 ∧ 1 ≤ date.day ∧ date.day ≤ daysInMonth date.year date.month

instance (date : Date) : Decidable date.Valid := inferInstanceAs (Decidable (_ ∧ _ ∧ _ ∧ _))

def yearStart (year : Int) : Int := 365 * year + year / 4 - year / 100 + year / 400

def monthStart (shifted : Int) : Int := (153 * shifted + 2) / 5

def Date.marchYear (date : Date) : Int := if date.month ≤ 2 then date.year - 1 else date.year

def Date.marchMonth (date : Date) : Int := if date.month ≤ 2 then date.month + 9 else date.month - 3

def daysFromCivil (date : Date) : Int :=
  yearStart date.marchYear + monthStart date.marchMonth + (date.day - 1) - 719468

def ofMarchYear (year dayOfYear : Int) : Date :=
  let shifted := (5 * dayOfYear + 2) / 153
  let month := if shifted < 10 then shifted + 3 else shifted - 9
  { year := if month ≤ 2 then year + 1 else year
    month
    day := dayOfYear - monthStart shifted + 1 }

def civilFromDays (days : Int) : Date :=
  let shifted := days + 719468
  let fourCenturies := shifted / 146097
  let inFour := shifted % 146097
  let century := min (inFour / 36524) 3
  let inCentury := inFour - 36524 * century
  let olympiad := inCentury / 1461
  let inOlympiad := inCentury % 1461
  let year := min (inOlympiad / 365) 3
  ofMarchYear (400 * fourCenturies + 100 * century + 4 * olympiad + year) (inOlympiad - 365 * year)

theorem isLeap_iff (year : Int) :
    isLeap year = true ↔ year % 4 = 0 ∧ (year % 100 ≠ 0 ∨ year % 400 = 0) := by
  simp [isLeap]

/-- A March-based year has 366 days exactly when the February it ends with has 29. -/
theorem yearStart_succ (year : Int) :
    yearStart (year + 1) = yearStart year + (if isLeap (year + 1) then 366 else 365) := by
  unfold yearStart
  by_cases hleap : isLeap (year + 1) = true
  · rw [if_pos hleap]
    rw [isLeap_iff] at hleap
    omega
  · rw [if_neg hleap]
    rw [isLeap_iff] at hleap
    omega

theorem yearStart_mono {a b : Int} (hab : a ≤ b) : yearStart a ≤ yearStart b := by
  unfold yearStart
  omega

section OfMarchYear

variable {year dayOfYear : Int}

theorem marchYear_ofMarchYear (hlow : 0 ≤ dayOfYear) (hhigh : dayOfYear ≤ 365) :
    (ofMarchYear year dayOfYear).marchYear = year := by
  simp only [ofMarchYear, Date.marchYear]
  split_ifs <;> omega

theorem marchMonth_ofMarchYear (hlow : 0 ≤ dayOfYear) (hhigh : dayOfYear ≤ 365) :
    (ofMarchYear year dayOfYear).marchMonth = (5 * dayOfYear + 2) / 153 := by
  simp only [ofMarchYear, Date.marchMonth]
  split_ifs <;> omega

theorem daysFromCivil_ofMarchYear (hlow : 0 ≤ dayOfYear) (hhigh : dayOfYear ≤ 365) :
    daysFromCivil (ofMarchYear year dayOfYear) = yearStart year + dayOfYear - 719468 := by
  rw [daysFromCivil, marchYear_ofMarchYear hlow hhigh, marchMonth_ofMarchYear hlow hhigh]
  simp only [ofMarchYear]
  omega

/-- The last day of a March-based year of 366 days is the 29th of February. -/
theorem valid_ofMarchYear (hlow : 0 ≤ dayOfYear)
    (hhigh : dayOfYear < if isLeap (year + 1) then 366 else 365) :
    (ofMarchYear year dayOfYear).Valid := by
  by_cases hleap : isLeap (year + 1) = true
  all_goals
    simp only [hleap, if_true, if_false, Bool.false_eq_true] at hhigh
    simp only [Date.Valid, ofMarchYear, daysInMonth, monthStart]
    split_ifs <;> simp_all <;> omega

end OfMarchYear

section Cycles

variable {fourCenturies century olympiad year : Int}

theorem yearStart_cycles (hcentury : 0 ≤ century ∧ century ≤ 3)
    (holympiad : 0 ≤ olympiad ∧ olympiad ≤ 24) (hyear : 0 ≤ year ∧ year ≤ 3) :
    yearStart (400 * fourCenturies + 100 * century + 4 * olympiad + year) =
      146097 * fourCenturies + 36524 * century + 1461 * olympiad + 365 * year := by
  unfold yearStart
  omega

/-- The last year of an olympiad is followed by a leap year, the last olympiad of a century only
when the century is the last of four. -/
theorem isLeap_cycles (holympiad : 0 ≤ olympiad ∧ olympiad ≤ 24)
    (hlast : olympiad = 24 → century = 3) :
    isLeap (400 * fourCenturies + 100 * century + 4 * olympiad + 3 + 1) = true := by
  rw [isLeap_iff]
  omega

end Cycles

theorem civilFromDays_eq (days : Int) :
    ∃ year dayOfYear, civilFromDays days = ofMarchYear year dayOfYear ∧ 0 ≤ dayOfYear ∧
      (dayOfYear < if isLeap (year + 1) then 366 else 365) ∧
      yearStart year + dayOfYear = days + 719468 := by
  refine ⟨_, _, rfl, ?_, ?_, ?_⟩
  all_goals
    generalize hn : (days + 719468) / 146097 = n
    generalize hr : (days + 719468) % 146097 = r
    generalize hc : min (r / 36524) 3 = c
    generalize hq : (r - 36524 * c) / 1461 = q
    generalize ho : (r - 36524 * c) % 1461 = o
    generalize ha : min (o / 365) 3 = a
  · omega
  · by_cases hday : o - 365 * a < 365
    · split_ifs <;> omega
    · -- only the 366th day is left, and its year is the last of its olympiad
      have ha3 : a = 3 := by omega
      subst ha3
      rw [if_pos (isLeap_cycles (by omega) (by omega))]
      omega
  · rw [yearStart_cycles (by omega) (by omega) (by omega)]
    omega

theorem daysFromCivil_civilFromDays (days : Int) : daysFromCivil (civilFromDays days) = days := by
  obtain ⟨year, dayOfYear, heq, hlow, hhigh, hsum⟩ := civilFromDays_eq days
  have hhigh' : dayOfYear ≤ 365 := by split_ifs at hhigh <;> omega
  rw [heq, daysFromCivil_ofMarchYear hlow hhigh']
  omega

theorem valid_civilFromDays (days : Int) : (civilFromDays days).Valid := by
  obtain ⟨year, dayOfYear, heq, hlow, hhigh, -⟩ := civilFromDays_eq days
  rw [heq]
  exact valid_ofMarchYear hlow hhigh

theorem daysInMonth_le (year month : Int) : daysInMonth year month ≤ 31 := by
  unfold daysInMonth
  split_ifs <;> omega

/-- Dates by year, then month, then day. -/
def Date.Before (a b : Date) : Prop :=
  a.year < b.year ∨ a.year = b.year ∧ (a.month < b.month ∨ a.month = b.month ∧ a.day < b.day)

theorem daysFromCivil_lt_of_marchYear_lt {a b : Date} (ha : a.Valid) (hb : b.Valid)
    (hyear : a.marchYear < b.marchYear) : daysFromCivil a < daysFromCivil b := by
  have hnext : yearStart (a.marchYear + 1) ≤ yearStart b.marchYear := yearStart_mono (by omega)
  rw [yearStart_succ] at hnext
  have hfit : monthStart a.marchMonth + (a.day - 1) <
      if isLeap (a.marchYear + 1) then 366 else 365 := by
    obtain ⟨hm1, hm2, -, hd2⟩ := ha
    simp only [Date.marchYear, Date.marchMonth, monthStart, daysInMonth] at hd2 ⊢
    by_cases hfeb : a.month = 2
    · simp only [hfeb, if_true] at hd2 ⊢
      simp only [show (2 : Int) ≤ 2 by decide, if_true, sub_add_cancel] at hd2 ⊢
      split_ifs at hd2 ⊢ <;> omega
    · simp only [hfeb, if_false] at hd2
      split_ifs at hd2 ⊢ <;> omega
  have hstart : 0 ≤ monthStart b.marchMonth + (b.day - 1) := by
    obtain ⟨hm1, -, hd1, -⟩ := hb
    simp only [Date.marchMonth, monthStart]
    split_ifs <;> omega
  simp only [daysFromCivil]
  omega

theorem daysFromCivil_lt_of_before {a b : Date} (ha : a.Valid) (hb : b.Valid) (hab : a.Before b) :
    daysFromCivil a < daysFromCivil b := by
  rcases lt_trichotomy a.marchYear b.marchYear with hlt | heq | hgt
  · exact daysFromCivil_lt_of_marchYear_lt ha hb hlt
  · obtain ⟨ham1, ham2, had1, had2⟩ := ha
    obtain ⟨hbm1, hbm2, hbd1, hbd2⟩ := hb
    simp only [daysFromCivil, heq]
    have hmonths : monthStart a.marchMonth + a.day < monthStart b.marchMonth + b.day := by
      simp only [Date.Before, Date.marchYear, Date.marchMonth, monthStart, daysInMonth] at *
      split_ifs at * <;> omega
    omega
  · exfalso
    obtain ⟨ham1, ham2, -, -⟩ := ha
    obtain ⟨hbm1, hbm2, -, -⟩ := hb
    simp only [Date.Before, Date.marchYear] at *
    split_ifs at * <;> omega

theorem Date.before_trichotomy (a b : Date) : a.Before b ∨ a = b ∨ b.Before a := by
  obtain ⟨ay, am, ad⟩ := a
  obtain ⟨bY, bm, bd⟩ := b
  simp only [Date.Before, Date.mk.injEq]
  omega

/-- **Dates sort as their day numbers.** -/
theorem civilFromDays_before_iff {a b : Int} :
    (civilFromDays a).Before (civilFromDays b) ↔ a < b := by
  have hstep : ∀ {x y : Int}, (civilFromDays x).Before (civilFromDays y) → x < y := by
    intro x y hxy
    have hlt := daysFromCivil_lt_of_before (valid_civilFromDays x) (valid_civilFromDays y) hxy
    rwa [daysFromCivil_civilFromDays, daysFromCivil_civilFromDays] at hlt
  refine ⟨hstep, fun hlt => ?_⟩
  rcases Date.before_trichotomy (civilFromDays a) (civilFromDays b) with h | h | h
  · exact h
  · have hdays := congrArg daysFromCivil h
    rw [daysFromCivil_civilFromDays, daysFromCivil_civilFromDays] at hdays
    omega
  · exact absurd (hstep h) (by omega)

theorem civilFromDays_injective {a b : Int} (h : civilFromDays a = civilFromDays b) : a = b := by
  have hdays := congrArg daysFromCivil h
  rwa [daysFromCivil_civilFromDays, daysFromCivil_civilFromDays] at hdays

end Calendar

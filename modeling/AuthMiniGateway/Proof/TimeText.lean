import AuthMiniGateway.Time

namespace AuthMiniGateway

open Calendar Decimal

/-! ### Cutting down to the millisecond -/

theorem truncMillis_le (value : Int) : truncMillis value ≤ value := by
  unfold truncMillis nanosPerMilli
  omega

theorem truncMillis_idem (value : Int) : truncMillis (truncMillis value) = truncMillis value := by
  unfold truncMillis nanosPerMilli
  omega

variable {a b value : Int}

theorem truncMillis_mono (hab : a ≤ b) : truncMillis a ≤ truncMillis b := by
  unfold truncMillis nanosPerMilli
  omega

theorem lt_iff_truncMillis_lt {deadline : Int} (hdeadline : truncMillis deadline = deadline) :
    value < deadline ↔ truncMillis value < deadline := by
  unfold truncMillis nanosPerMilli at *
  omega

theorem truncMillis_lt_iff :
    truncMillis a < truncMillis b ↔ a / nanosPerMilli < b / nanosPerMilli := by
  unfold truncMillis nanosPerMilli
  omega

theorem truncMillis_eq_iff :
    truncMillis a = truncMillis b ↔ a / nanosPerMilli = b / nanosPerMilli := by
  unfold truncMillis nanosPerMilli
  omega

/-! ### The range of the text -/

theorem year_lt_of_before_newYear {days year : Int}
    (h : (civilFromDays days).Before ⟨year, 1, 1⟩) : (civilFromDays days).year < year := by
  obtain ⟨hmonth, -, hday, -⟩ := valid_civilFromDays days
  unfold Date.Before at h
  simp only at h
  omega

theorem newYear_le_year (days year : Int) (hnewYear : civilFromDays (daysFromCivil ⟨year, 1, 1⟩)
    = ⟨year, 1, 1⟩) : year ≤ (civilFromDays days).year ↔ daysFromCivil ⟨year, 1, 1⟩ ≤ days := by
  have hbefore := civilFromDays_before_iff (a := days) (b := daysFromCivil ⟨year, 1, 1⟩)
  rw [hnewYear] at hbefore
  constructor
  · intro hle
    by_contra hlt
    have hyear := year_lt_of_before_newYear (hbefore.mpr (by omega))
    omega
  · intro hle
    by_contra hlt
    have hyear : (civilFromDays days).Before ⟨year, 1, 1⟩ := Or.inl (by simpa using hlt)
    have := hbefore.mp hyear
    omega

def firstText : Int := daysFromCivil ⟨0, 1, 1⟩ * nanosPerDay

def endText : Int := daysFromCivil ⟨10000, 1, 1⟩ * nanosPerDay

theorem inTextRange_iff : InTextRange value ↔ firstText ≤ value ∧ value < endText := by
  have hfirst := newYear_le_year (value / nanosPerDay) 0 (by decide)
  have hend := newYear_le_year (value / nanosPerDay) 10000 (by decide)
  have hfirstDays : daysFromCivil ⟨0, 1, 1⟩ = -719528 := by decide
  have hendDays : daysFromCivil ⟨10000, 1, 1⟩ = 2932897 := by decide
  rw [hfirstDays] at hfirst
  rw [hendDays] at hend
  unfold InTextRange firstText endText dateOf
  rw [hfirstDays, hendDays]
  generalize (civilFromDays (value / nanosPerDay)).year = year at *
  unfold nanosPerDay nanosPerSecond at *
  omega

theorem InTextRange.truncMillis (h : InTextRange value) : InTextRange (truncMillis value) := by
  have hfirst : firstText = -719528 * 86400000000000 := by decide
  obtain ⟨hlow, hhigh⟩ := inTextRange_iff.mp h
  refine inTextRange_iff.mpr ⟨?_, (truncMillis_le value).trans_lt hhigh⟩
  rw [hfirst] at *
  unfold AuthMiniGateway.truncMillis nanosPerMilli
  omega

theorem inTextRange_of_between (ha : InTextRange a) (hb : InTextRange b) (hle : a ≤ value)
    (hle' : value ≤ b) : InTextRange value := by
  rw [inTextRange_iff] at *
  omega

theorem inTextRange_zero : InTextRange 0 := by decide

theorem formatYear_of_inTextRange (h : InTextRange value) :
    formatYear (dateOf value).year = pad 4 (dateOf value).year.toNat := by
  unfold InTextRange at h
  rw [formatYear, if_pos h]

theorem timeOfDay_lt (value : Int) : timeOfDay value < 86400000000000 := by
  unfold timeOfDay nanosPerDay nanosPerSecond
  omega

/-! ### Order -/

theorem formatTimeOfDay_eq (nanos : Nat) :
    formatTimeOfDay nanos =
      pad 2 (nanos / 1000000 / 3600000) ++ ':' ::
      (pad 2 (nanos / 1000000 / 60000 % 60) ++ ':' ::
      (pad 2 (nanos / 1000000 / 1000 % 60) ++ '.' ::
      (pad 3 (nanos / 1000000 % 1000) ++ ['Z']))) := by
  simp only [formatTimeOfDay, Nat.div_div_eq_div_mul]

theorem formatTimeOfDay_lt_iff {a b : Nat} (ha : a < 86400000000000) (hb : b < 86400000000000) :
    formatTimeOfDay a < formatTimeOfDay b ↔ a / 1000000 < b / 1000000 := by
  rw [formatTimeOfDay_eq, formatTimeOfDay_eq]
  have ha' : a / 1000000 < 86400000 := by omega
  have hb' : b / 1000000 < 86400000 := by omega
  generalize a / 1000000 = x at *
  generalize b / 1000000 = y at *
  simp only [append_lt_append_iff (length_pad _ _ |>.trans (length_pad _ _).symm),
    List.cons_lt_cons_self, List.not_lt_nil, and_false, or_false]
  rw [pad_lt_pad_iff (by omega) (by omega), pad_lt_pad_iff (by omega) (by omega),
    pad_lt_pad_iff (by omega) (by omega), pad_lt_pad_iff (by omega) (by omega),
    pad_inj (by omega) (by omega), pad_inj (by omega) (by omega), pad_inj (by omega) (by omega)]
  omega

theorem dateOf_bounds (value : Int) :
    (1 ≤ (dateOf value).month ∧ (dateOf value).month ≤ 12) ∧
      1 ≤ (dateOf value).day ∧ (dateOf value).day ≤ 31 := by
  obtain ⟨hm1, hm2, hd1, hd2⟩ := valid_civilFromDays (value / nanosPerDay)
  exact ⟨⟨hm1, hm2⟩, hd1, hd2.trans (daysInMonth_le _ _)⟩

theorem pad_toNat_lt_iff {width : Nat} {x y : Int} (hx : 0 ≤ x ∧ x < 10 ^ width)
    (hy : 0 ≤ y ∧ y < 10 ^ width) : pad width x.toNat < pad width y.toNat ↔ x < y := by
  rw [pad_lt_pad_iff (by zify; omega) (by zify; omega)]
  omega

theorem pad_toNat_inj {width : Nat} {x y : Int} (hx : 0 ≤ x ∧ x < 10 ^ width)
    (hy : 0 ≤ y ∧ y < 10 ^ width) : pad width x.toNat = pad width y.toNat ↔ x = y := by
  rw [pad_inj (by zify; omega) (by zify; omega)]
  omega

theorem dateChars_lt_iff {a b : Date} {s t : List Char}
    (hyear : 0 ≤ a.year ∧ a.year < 10 ^ 4) (hyear' : 0 ≤ b.year ∧ b.year < 10 ^ 4)
    (hmonth : 1 ≤ a.month ∧ a.month ≤ 12) (hmonth' : 1 ≤ b.month ∧ b.month ≤ 12)
    (hday : 1 ≤ a.day ∧ a.day ≤ 31) (hday' : 1 ≤ b.day ∧ b.day ≤ 31) :
    pad 4 a.year.toNat ++ '-' :: (pad 2 a.month.toNat ++ '-' :: (pad 2 a.day.toNat ++ 'T' :: s)) <
      pad 4 b.year.toNat ++ '-' :: (pad 2 b.month.toNat ++ '-' :: (pad 2 b.day.toNat ++ 'T' :: t)) ↔
      a.Before b ∨ a = b ∧ s < t := by
  rw [Date.ext_iff]
  unfold Date.Before
  simp only [append_lt_append_iff (length_pad _ _ |>.trans (length_pad _ _).symm),
    List.cons_lt_cons_self, pad_toNat_lt_iff hyear hyear', pad_toNat_inj hyear hyear']
  rw [pad_toNat_lt_iff (by omega) (by omega), pad_toNat_lt_iff (by omega) (by omega),
    pad_toNat_inj (by omega) (by omega), pad_toNat_inj (by omega) (by omega)]
  tauto

theorem formatChars_lt_iff (ha : InTextRange a) (hb : InTextRange b) :
    formatChars a < formatChars b ↔
      (dateOf a).Before (dateOf b) ∨
        dateOf a = dateOf b ∧ formatTimeOfDay (timeOfDay a) < formatTimeOfDay (timeOfDay b) := by
  rw [formatChars, formatChars, formatYear_of_inTextRange ha, formatYear_of_inTextRange hb]
  exact dateChars_lt_iff ⟨ha.1, by have := ha.2; omega⟩ ⟨hb.1, by have := hb.2; omega⟩
    (dateOf_bounds a).1 (dateOf_bounds b).1 (dateOf_bounds a).2 (dateOf_bounds b).2

/-- **Texts sort as the instants they stand for.** -/
theorem formatTime_lt_iff (ha : InTextRange a) (hb : InTextRange b) :
    formatTime a < formatTime b ↔ truncMillis a < truncMillis b := by
  change (String.ofList _).toList < (String.ofList _).toList ↔ _
  rw [String.toList_ofList, String.toList_ofList, formatChars_lt_iff ha hb,
    formatTimeOfDay_lt_iff (timeOfDay_lt a) (timeOfDay_lt b), truncMillis_lt_iff]
  have hdates : dateOf a = dateOf b ↔ a / nanosPerDay = b / nanosPerDay :=
    ⟨civilFromDays_injective, congrArg civilFromDays⟩
  rw [hdates, show (dateOf a).Before (dateOf b) ↔ a / nanosPerDay < b / nanosPerDay from
    civilFromDays_before_iff]
  unfold timeOfDay nanosPerDay nanosPerSecond nanosPerMilli
  omega

theorem formatTime_lt_of_before_firstText (ha : a < firstText) (hb : InTextRange b) :
    formatTime a < formatTime b := by
  have hyear : (dateOf a).year < 0 := by
    have hfirst := newYear_le_year (a / nanosPerDay) 0 (by decide)
    have hdays : daysFromCivil ⟨0, 1, 1⟩ = -719528 := by decide
    rw [firstText, hdays] at ha
    rw [hdays] at hfirst
    unfold dateOf
    unfold nanosPerDay nanosPerSecond at *
    omega
  have hdigit : ∀ n, '-' < digit n := by
    intro n
    have hall : ∀ d < 10, '-' < Char.ofNat (48 + d) := by decide
    exact hall (n % 10) (Nat.mod_lt n (by decide))
  have hsign : ∃ rest, formatChars a = '-' :: rest := by
    rw [formatChars, formatYear, if_neg (by omega), if_pos hyear]
    exact ⟨_, rfl⟩
  have hfour : ∃ n rest, formatChars b = digit n :: rest := by
    rw [formatChars, formatYear_of_inTextRange hb]
    exact ⟨_, _, rfl⟩
  obtain ⟨before, hbefore⟩ := hsign
  obtain ⟨n, after, hafter⟩ := hfour
  change (String.ofList _).toList < (String.ofList _).toList
  rw [String.toList_ofList, String.toList_ofList, hbefore, hafter]
  exact List.Lex.rel (hdigit n)

/-! ### Reading back -/

theorem readFraction_millis {millis : Nat} (hmillis : millis < 1000) (rest : List Char)
    (hrest : ∀ c ∈ rest.head?, digitValue c = none) :
    readFraction ('.' :: (pad 3 millis ++ rest)) = some (millis * 1000000, rest) := by
  have hdigits : pad 3 millis =
      [digit (millis / 100), digit (millis % 100 / 10), digit (millis % 100 % 10)] := by
    simp [pad]
  have hskip : ∀ left acc, fractionDigits left acc rest = (acc, rest) := by
    intro left acc
    cases rest with
    | nil => simp [fractionDigits]
    | cons c =>
      have hc := hrest c (by simp)
      simp [fractionDigits, hc]
  rw [hdigits]
  simp only [List.cons_append, List.nil_append, readFraction, digitValue_digit, Option.isSome_some,
    if_true, fractionDigits, hskip]
  congr 2
  norm_num
  omega

theorem readOffset_zulu : readOffset ['Z'] = some 0 := by decide

theorem readTimeOfDay_fields {hour minute second millis : Nat} (hhour : hour ≤ 23)
    (hminute : minute ≤ 59) (hsecond : second ≤ 59) (hmillis : millis < 1000) :
    readTimeOfDay (pad 2 hour ++ ':' :: (pad 2 minute ++ ':' ::
      (pad 2 second ++ '.' :: (pad 3 millis ++ ['Z'])))) =
      some ((hour * 3600 + minute * 60 + second) * 1000000000 + millis * 1000000, ['Z']) := by
  have hhour' : hour < 10 ^ 2 := by omega
  have hminute' : minute < 10 ^ 2 := by omega
  have hsecond' : second < 10 ^ 2 := by omega
  simp only [readTimeOfDay, read_pad hhour', read_pad hminute', read_pad hsecond', expectChar,
    if_true, Option.bind_eq_bind, Option.bind_some, hhour, hminute, hsecond, true_and,
    readFraction_millis hmillis ['Z'] (by simp [digitValue])]

theorem readTimeOfDay_formatTimeOfDay {nanos : Nat} (hnanos : nanos < 86400000000000) :
    readTimeOfDay (formatTimeOfDay nanos) = some (nanos / 1000000 * 1000000, ['Z']) := by
  have hsum : (nanos / 3600000000000 * 3600 + nanos / 60000000000 % 60 * 60
      + nanos / 1000000000 % 60) * 1000000000 + nanos / 1000000 % 1000 * 1000000
      = nanos / 1000000 * 1000000 := by omega
  rw [formatTimeOfDay, readTimeOfDay_fields (by omega) (by omega) (by omega) (by omega), hsum]

theorem readDate_dateOf (h : InTextRange value) (rest : List Char) :
    readDate (formatYear (dateOf value).year ++ '-' ::
      (pad 2 (dateOf value).month.toNat ++ '-' :: (pad 2 (dateOf value).day.toNat ++ rest)))
      = some (dateOf value, rest) := by
  have hvalid : (dateOf value).Valid := valid_civilFromDays (value / nanosPerDay)
  obtain ⟨⟨hm1, hm2⟩, hd1, hd2⟩ := dateOf_bounds value
  obtain ⟨hy1, hy2⟩ := h
  rw [formatYear_of_inTextRange ⟨hy1, hy2⟩]
  generalize dateOf value = date at *
  have hyear : date.year.toNat < 10 ^ 4 := by omega
  have hmonth : date.month.toNat < 10 ^ 2 := by omega
  have hday : date.day.toNat < 10 ^ 2 := by omega
  have hdate : Date.mk (date.year.toNat : Int) (date.month.toNat : Int) (date.day.toNat : Int)
      = date := by
    rw [Int.toNat_of_nonneg (by omega), Int.toNat_of_nonneg (by omega),
      Int.toNat_of_nonneg (by omega)]
  simp only [readDate, read_pad hyear, read_pad hmonth, read_pad hday, expectChar, if_true,
    Option.bind_eq_bind, Option.bind_some, hdate, if_pos hvalid]

theorem parseChars_formatChars (h : InTextRange value) :
    parseChars (formatChars value) = some (truncMillis value) := by
  have hdays : daysFromCivil (dateOf value) = value / nanosPerDay :=
    daysFromCivil_civilFromDays (value / nanosPerDay)
  have htime := readTimeOfDay_formatTimeOfDay (timeOfDay_lt value)
  rw [parseChars, formatChars, readDate_dateOf h]
  simp only [Option.bind_eq_bind, Option.bind_some, dateTimeSeparator, true_or, if_true, htime,
    readOffset_zulu, hdays]
  congr 1
  unfold truncMillis timeOfDay nanosPerDay nanosPerSecond nanosPerMilli
  push_cast
  omega

/-- **What is written is read back.** -/
theorem parseTime_formatTime (h : InTextRange value) :
    parseTime (formatTime value) = some (truncMillis value) := by
  rw [parseTime, formatTime, String.toList_ofList]
  exact parseChars_formatChars h

theorem formatTime_truncMillis (value : Int) : formatTime (truncMillis value) = formatTime value := by
  have hdate : dateOf (truncMillis value) = dateOf value := by
    unfold dateOf truncMillis nanosPerDay nanosPerSecond nanosPerMilli
    congr 1
    omega
  have htime : timeOfDay (truncMillis value) / 1000000 = timeOfDay value / 1000000 := by
    unfold timeOfDay truncMillis nanosPerDay nanosPerSecond nanosPerMilli
    omega
  rw [formatTime, formatTime, formatChars, formatChars, formatTimeOfDay_eq, formatTimeOfDay_eq,
    hdate, htime]

/-! ### Every year -/

theorem digit_ne_sign (n : Nat) : digit n ≠ '-' ∧ digit n ≠ '+' := by
  have hall : ∀ d < 10, Char.ofNat (48 + d) ≠ '-' ∧ Char.ofNat (48 + d) ≠ '+' := by decide
  exact hall (n % 10) (Nat.mod_lt n (by decide))

theorem unsignedYear_inj {a b : Nat}
    (heq : (if a < 10000 then pad 4 a else Nat.toDigits 10 a) =
      if b < 10000 then pad 4 b else Nat.toDigits 10 b) : a = b := by
  have hlong : ∀ {n : Nat}, ¬n < 10000 → 4 < (Nat.toDigits 10 n).length := by
    intro n hn
    by_contra hle
    exact hn ((Nat.length_toDigits_le_iff (by decide) (by decide)).mp (Nat.not_lt.mp hle))
  by_cases ha : a < 10000 <;> by_cases hb : b < 10000
  · rw [if_pos ha, if_pos hb] at heq
    exact (pad_inj ha hb).mp heq
  · rw [if_pos ha, if_neg hb] at heq
    have hlength := hlong hb
    rw [← heq, length_pad] at hlength
    omega
  · rw [if_neg ha, if_pos hb] at heq
    have hlength := hlong ha
    rw [heq, length_pad] at hlength
    omega
  · rw [if_neg ha, if_neg hb] at heq
    have hvalue := congrArg (fun text => Nat.ofDigitChars 10 text 0) heq
    simpa only [Nat.ofDigitChars_ten_toDigits] using hvalue

theorem formatYear_injective (heq : formatYear a = formatYear b) : a = b := by
  have hdigit : ∀ n, pad 4 n = digit (n / 10 ^ 3) :: pad 3 (n % 10 ^ 3) := fun n => rfl
  unfold formatYear at heq
  by_cases ha : 0 ≤ a ∧ a ≤ 9999 <;> by_cases hb : 0 ≤ b ∧ b ≤ 9999
  · rw [if_pos ha, if_pos hb] at heq
    exact (pad_toNat_inj ⟨ha.1, by omega⟩ ⟨hb.1, by omega⟩).mp heq
  · rw [if_pos ha, if_neg hb, hdigit] at heq
    have hhead := (List.cons.inj heq).1
    split_ifs at hhead
    · exact absurd hhead (digit_ne_sign _).1
    · exact absurd hhead (digit_ne_sign _).2
  · rw [if_neg ha, if_pos hb, hdigit] at heq
    have hhead := (List.cons.inj heq).1.symm
    split_ifs at hhead
    · exact absurd hhead (digit_ne_sign _).1
    · exact absurd hhead (digit_ne_sign _).2
  · rw [if_neg ha, if_neg hb] at heq
    obtain ⟨hsign, hdigits⟩ := List.cons.inj heq
    have habs := unsignedYear_inj hdigits
    split_ifs at hsign <;> first | omega | exact absurd hsign (by decide)

theorem length_formatTimeOfDay (nanos : Nat) : (formatTimeOfDay nanos).length = 13 := by
  simp [formatTimeOfDay]

theorem formatChars_fields (heq : formatChars a = formatChars b) :
    dateOf a = dateOf b ∧ formatTimeOfDay (timeOfDay a) = formatTimeOfDay (timeOfDay b) := by
  obtain ⟨⟨hm, hm'⟩, hd, hd'⟩ := dateOf_bounds a
  obtain ⟨⟨km, km'⟩, kd, kd'⟩ := dateOf_bounds b
  unfold formatChars at heq
  generalize dateOf a = date at *
  generalize dateOf b = date' at *
  obtain ⟨hyear, hrest⟩ := List.append_inj' heq (by simp [length_formatTimeOfDay])
  obtain ⟨hmonth, hrest⟩ := List.append_inj (List.cons.inj hrest).2 (by simp)
  obtain ⟨hday, hrest⟩ := List.append_inj (List.cons.inj hrest).2 (by simp)
  refine ⟨Date.ext (formatYear_injective hyear) ?_ ?_, (List.cons.inj hrest).2⟩
  · exact (pad_toNat_inj (by omega) (by omega)).mp hmonth
  · exact (pad_toNat_inj (by omega) (by omega)).mp hday

theorem formatTimeOfDay_inj {a b : Nat} (ha : a < 86400000000000) (hb : b < 86400000000000)
    (heq : formatTimeOfDay a = formatTimeOfDay b) : a / 1000000 = b / 1000000 := by
  have hread := readTimeOfDay_formatTimeOfDay ha
  rw [heq, readTimeOfDay_formatTimeOfDay hb] at hread
  have hnanos := congrArg Prod.fst (Option.some.inj hread)
  omega

theorem formatTime_eq_iff : formatTime a = formatTime b ↔ truncMillis a = truncMillis b := by
  constructor
  · intro heq
    have hchars : formatChars a = formatChars b := by
      simpa [formatTime] using congrArg String.toList heq
    obtain ⟨hdate, htime⟩ := formatChars_fields hchars
    have hdays : a / nanosPerDay = b / nanosPerDay := civilFromDays_injective hdate
    have hnanos := formatTimeOfDay_inj (timeOfDay_lt a) (timeOfDay_lt b) htime
    rw [truncMillis_eq_iff]
    unfold timeOfDay nanosPerDay nanosPerSecond nanosPerMilli at *
    omega
  · intro heq
    rw [← formatTime_truncMillis a, heq, formatTime_truncMillis]

theorem read_formatYear_of_not_inTextRange (h : ¬InTextRange value) (rest : List Char) :
    read 4 (formatYear (dateOf value).year ++ rest) = none := by
  unfold InTextRange at h
  rw [formatYear, if_neg h]
  split_ifs <;> simp [Decimal.read, readOnto, digitValue]

theorem parseTime_formatTime_of_not_inTextRange (h : ¬InTextRange value) :
    parseTime (formatTime value) = none := by
  rw [parseTime, formatTime, String.toList_ofList, parseChars, formatChars, readDate,
    read_formatYear_of_not_inTextRange h]
  rfl

theorem parseTime_formatTime_eq_some {instant : Int}
    (hread : parseTime (formatTime value) = some instant) :
    InTextRange value ∧ instant = truncMillis value := by
  by_cases h : InTextRange value
  · rw [parseTime_formatTime h] at hread
    exact ⟨h, (Option.some.inj hread).symm⟩
  · rw [parseTime_formatTime_of_not_inTextRange h] at hread
    cases hread

theorem formatTime_zero : formatTime 0 = "1970-01-01T00:00:00.000Z" := by decide

end AuthMiniGateway

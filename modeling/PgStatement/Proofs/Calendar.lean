import Mathlib.Tactic.IntervalCases
import PgStatement.Calendar.Timestamp
import PgStatement.Proofs.Digits

/-!
# The day of a date

Which day a year, a month and a day of the month name is found by counting: the days of all years
before, a leap year having one more, then those of the months before, then those of the month
(`CivilDay.number`). The library goes the other way, and in eras of four hundred years that begin in
March. It arrives at a day that there is, and whose count is the one it began with
(`CivilDay.ofDay_spec`): within an era the year is cut into centuries, into four years and into
single years, and of each only the last one has another length.

Dates and moments are then written by what they are. A date is the digits of its year, month and day
(`CivilDay.IsWrittenAs`); a moment is a date and the hours, minutes and seconds since the day began,
where a leap second is the second sixty (`Clock.IsWrittenAs`).
-/

namespace PgStatement

namespace CivilDay

/-! ## Counting days -/

/-- Every fourth year, but of the last years of centuries only every fourth. -/
def IsLeap (year : Int) : Prop := year % 4 = 0 ∧ (year % 100 ≠ 0 ∨ year % 400 = 0)

instance (year : Int) : Decidable (IsLeap year) := inferInstanceAs (Decidable (_ ∧ _))

/-- The days of a month. -/
def monthLength (year : Int) : Nat → Nat
  | 2 => if IsLeap year then 29 else 28
  | 4 | 6 | 9 | 11 => 30
  | _ => 31

/-- The days from the beginning of year one to that of a year, fewer than none before year one. -/
def daysBefore (year : Int) : Int :=
  365 * (year - 1) + (year - 1) / 4 - (year - 1) / 100 + (year - 1) / 400

/-- The days of a year before a month. -/
def daysBeforeMonth (year : Int) (month : Nat) : Nat :=
  ((List.range (month - 1)).map fun k => monthLength year (k + 1)).sum

/-- **The days since 1 January 1970.** -/
def number (c : CivilDay) : Int :=
  daysBefore c.year + daysBeforeMonth c.year c.month + c.day - 1 - daysBefore 1970

/-- **A day that there is**, in one of twelve months. -/
structure IsValid (c : CivilDay) : Prop where
  month : 1 ≤ c.month ∧ c.month ≤ 12
  day : 1 ≤ c.day ∧ c.day ≤ monthLength c.year c.month

/-- Every year is as long as it is said to be. -/
theorem daysBefore_succ (year : Int) :
    daysBefore (year + 1) = daysBefore year + if IsLeap year then 366 else 365 := by
  by_cases h : IsLeap year
  · rw [if_pos h]
    unfold daysBefore
    unfold IsLeap at h
    omega
  · rw [if_neg h]
    unfold daysBefore
    unfold IsLeap at h
    omega

/-! ## Cycles of years -/

variable {century quad year dayOfYear dayOfEra : Nat}

/-- **A day of an era**, by the centuries, the four years and the years before it. The last day of a
year of four, of four years and of an era is the only one of its number. -/
theorem exists_cycles (h : dayOfEra < 146097) :
    ∃ century quad year dayOfYear, century < 4 ∧ quad < 25 ∧ year < 4 ∧ dayOfYear ≤ 365
      ∧ (dayOfYear = 365 → year = 3 ∧ (quad = 24 → century = 3))
      ∧ dayOfEra = 36524 * century + 1461 * quad + 365 * year + dayOfYear := by
  by_cases hlast : dayOfEra = 146096
  · exact ⟨3, 24, 3, 365, by omega⟩
  · by_cases hleap : dayOfEra % 36524 % 1461 = 1460
    · exact ⟨dayOfEra / 36524, dayOfEra % 36524 / 1461, 3, 365, by omega⟩
    · exact ⟨dayOfEra / 36524, dayOfEra % 36524 / 1461, dayOfEra % 36524 % 1461 / 365,
        dayOfEra % 36524 % 1461 % 365, by omega⟩

/-- The year of a day of an era, from its number. -/
theorem yearOfEra_eq (hcentury : century < 4) (hquad : quad < 25) (hyear : year < 4)
    (hday : dayOfYear ≤ 365)
    (hleap : dayOfYear = 365 → year = 3 ∧ (quad = 24 → century = 3))
    (h : dayOfEra = 36524 * century + 1461 * quad + 365 * year + dayOfYear) :
    (dayOfEra - dayOfEra / 1460 + dayOfEra / 36524 - dayOfEra / 146096) / 365
      = 100 * century + 4 * quad + year := by
  have hcenturies : dayOfEra / 36524 = century + dayOfEra / 146096 := by
    obtain hlast | hless : dayOfEra = 146096 ∧ century = 3
        ∨ 36524 * century ≤ dayOfEra ∧ dayOfEra < 36524 * (century + 1) := by omega
    · omega
    · have hdiv : dayOfEra / 36524 = century := Nat.div_eq_of_lt_le (by omega) (by omega)
      rw [hdiv, Nat.div_eq_of_lt (by omega), Nat.add_zero]
  -- one leap day more may have been taken out than there were so far
  have hquads : dayOfEra / 1460 = 25 * century + quad
      + if 1460 ≤ 24 * century + quad + 365 * year + dayOfYear then 1 else 0 := by
    split <;> omega
  rw [hcenturies, hquads]
  split <;> omega

theorem isLeap_of_cycles (era : Int) (hquad : quad < 25) (h : quad = 24 → century = 3) :
    IsLeap (400 * era + (100 * century + 4 * quad + 4 : Nat)) := by
  refine ⟨by omega, ?_⟩
  obtain rfl | hquad : quad = 24 ∨ quad < 24 := by omega
  · exact .inr (by omega)
  · exact .inl (by omega)

theorem daysBefore_of_cycles (era : Int) (hcentury : century < 4) (hquad : quad < 25)
    (hyear : year < 4) :
    daysBefore (400 * era + (100 * century + 4 * quad + year : Nat) + 1)
      = 146097 * era + (36524 * century + 1461 * quad + 365 * year : Nat) := by
  have h4 : (400 * era + (100 * century + 4 * quad + year : Nat)) / 4
      = 100 * era + (25 * century + quad : Nat) := by omega
  have h100 : (400 * era + (100 * century + 4 * quad + year : Nat)) / 100 = 4 * era + century := by
    omega
  have h400 : (400 * era + (100 * century + 4 * quad + year : Nat)) / 400 = era := by omega
  rw [daysBefore, Int.add_sub_cancel, h4, h100, h400]
  omega

/-! ## Years that begin in March -/

/-- The day so many days after 1 March of a year. -/
def fromMarch (year : Int) (dayOfYear : Nat) : CivilDay :=
  let monthFromMarch := (5 * dayOfYear + 2) / 153
  let month := if monthFromMarch < 10 then monthFromMarch + 3 else monthFromMarch - 9
  { year := if month ≤ 2 then year + 1 else year
    month := month
    day := dayOfYear - (153 * monthFromMarch + 2) / 5 + 1 }

/-- **Every day lies in a year that begins in March.** The year has a last day more if the one that
begins in it is a leap year. -/
theorem exists_ofDay_eq (day : Int) :
    ∃ (year : Int) (dayOfYear : Nat), dayOfYear ≤ 365 ∧ (dayOfYear = 365 → IsLeap (year + 1))
      ∧ day = daysBefore (year + 1) + dayOfYear - 719468
      ∧ ofDay day = fromMarch year dayOfYear := by
  obtain ⟨era, dayOfEra, hdayOfEra, hday⟩ :
      ∃ (era : Int) (dayOfEra : Nat), dayOfEra < 146097 ∧ day + 719468 = 146097 * era + dayOfEra :=
    ⟨(day + 719468) / 146097, ((day + 719468) % 146097).toNat, by omega, by omega⟩
  have hera : (day + 719468) / 146097 = era := by omega
  have hrest : ((day + 719468) % 146097).toNat = dayOfEra := by omega
  obtain ⟨century, quad, year, dayOfYear, hcentury, hquad, hyear, hdayOfYear, hleap, h⟩ :=
    exists_cycles hdayOfEra
  have hyearOfEra := yearOfEra_eq hcentury hquad hyear hdayOfYear hleap h
  refine ⟨400 * era + (100 * century + 4 * quad + year : Nat), dayOfYear, hdayOfYear,
    fun hlast => ?_, ?_, ?_⟩
  · obtain ⟨rfl, hcycle⟩ := hleap hlast
    rw [Int.add_assoc]
    exact isLeap_of_cycles era hquad hcycle
  · rw [daysBefore_of_cycles era hcentury hquad hyear]
    omega
  · have h4 : (100 * century + 4 * quad + year) / 4 = 25 * century + quad := by omega
    have h100 : (100 * century + 4 * quad + year) / 100 = century := by omega
    have hdays : dayOfEra - (365 * (100 * century + 4 * quad + year) + (25 * century + quad)
        - century) = dayOfYear := by omega
    have hcomm : ((100 * century + 4 * quad + year : Nat) : Int) + era * 400
        = 400 * era + (100 * century + 4 * quad + year : Nat) := by omega
    unfold ofDay epochOffset daysPerEra
    simp only [hrest, hera, hyearOfEra, h4, h100, hdays, hcomm]
    rfl

theorem daysBeforeMonth_fromMarch (year : Int) {month : Nat} (h : month < 10) :
    daysBeforeMonth year (month + 3)
      = (if IsLeap year then 60 else 59) + (153 * month + 2) / 5 := by
  by_cases hleap : IsLeap year <;> interval_cases month <;>
    simp [daysBeforeMonth, monthLength, List.range_succ, hleap]

theorem monthLength_fromMarch (year : Int) {month : Nat} (h : month < 10) :
    monthLength year (month + 3) + (153 * month + 2) / 5 = (153 * (month + 1) + 2) / 5 := by
  interval_cases month <;> rfl

theorem fromMarch_spec (year : Int) (h : dayOfYear ≤ 365)
    (hleap : dayOfYear = 365 → IsLeap (year + 1)) :
    (fromMarch year dayOfYear).IsValid
      ∧ (fromMarch year dayOfYear).number = daysBefore (year + 1) + dayOfYear - 719468 := by
  have hsucc := daysBefore_succ year
  have hepoch : daysBefore 1970 = 719162 := by decide
  unfold fromMarch number
  simp only [hepoch]
  generalize hmonth : (5 * dayOfYear + 2) / 153 = month
  by_cases hsame : month < 10
  · have hlength := monthLength_fromMarch year hsame
    have hlate : ¬month + 3 ≤ 2 := by omega
    simp only [if_pos hsame, if_neg hlate, daysBeforeMonth_fromMarch year hsame, hsucc]
    refine ⟨⟨by simp only; omega, by simp only; omega⟩, ?_⟩
    split <;> omega
  · have hearly : month - 9 ≤ 2 := by omega
    simp only [if_neg hsame, if_pos hearly]
    obtain rfl | rfl : month = 10 ∨ month = 11 := by omega
    · have hbefore : daysBeforeMonth (year + 1) 1 = 0 := rfl
      have hlength : monthLength (year + 1) 1 = 31 := rfl
      exact ⟨⟨by simp only; omega, by simp only [hlength]; omega⟩,
        by simp only [hbefore]; omega⟩
    · have hbefore : daysBeforeMonth (year + 1) 2 = 31 := rfl
      refine ⟨⟨by simp only; omega, ?_⟩, by simp only [Nat.reduceSub, hbefore]; omega⟩
      simp only [Nat.reduceSub, monthLength]
      split
      · omega
      · have hshort := mt hleap ‹_›
        omega

/-- **The day that is arrived at** is one that there is, and its count is right. -/
theorem ofDay_spec (day : Int) : (ofDay day).IsValid ∧ (ofDay day).number = day := by
  obtain ⟨year, dayOfYear, hdayOfYear, hleap, hday, hofDay⟩ := exists_ofDay_eq day
  obtain ⟨hvalid, hnumber⟩ := fromMarch_spec year hdayOfYear hleap
  rw [hofDay]
  exact ⟨hvalid, hnumber.trans hday.symm⟩

/-! ## Dates in digits -/

open Text (IsDigits IsNumeral ofDecimalChars paddedChars)

/-- **A year in four digits**, or in more where four are too few. A sign stands in front if it is
negative or has more. -/
def IsYear (year : Int) (cs : List Char) : Prop :=
  ∃ sign digits, cs = sign ++ digits
    ∧ sign = (if year < 0 then ['-'] else if 9999 < year then ['+'] else [])
    ∧ (∀ c ∈ digits, Text.isDecimalDigit c = true) ∧ ofDecimalChars digits = year.natAbs
    ∧ (digits.length = 4 ∨ 4 < digits.length ∧ digits.head? ≠ some '0')

/-- **A day written as year, month and day of the month**, with hyphens between. -/
def IsWrittenAs (c : CivilDay) (cs : List Char) : Prop :=
  ∃ year month day, cs = year ++ '-' :: (month ++ '-' :: day) ∧ IsYear c.year year
    ∧ IsNumeral 2 c.month month ∧ IsNumeral 2 c.day day

theorem isYear_yearChars (year : Int) : IsYear year (yearChars year) := by
  refine ⟨_, paddedChars 4 year.natAbs, ?_, rfl, fun _ => Text.isDecimalDigit_of_mem_paddedChars,
    Text.ofDecimalChars_paddedChars _ _, ?_⟩
  · unfold yearChars
    simp only
    split
    · rfl
    · split <;> rfl
  · obtain hlength | hlength := Nat.lt_or_eq_of_le (Text.le_length_paddedChars 4 year.natAbs)
    · -- there are more digits, so none of them was put in front
      have hlong : 4 ≤ (Text.decimalChars year.natAbs).length := by
        rw [paddedChars, List.length_leftpad] at hlength
        omega
      have hpos : 0 < year.natAbs := by
        rw [Nat.pos_iff_ne_zero]
        intro hzero
        rw [hzero] at hlong
        exact absurd hlong (by decide)
      refine .inr ⟨hlength, ?_⟩
      rw [Text.paddedChars_of_le hlong]
      exact Text.head?_decimalChars hpos
    · exact .inl hlength.symm

/-- A day that there is has two digits for its month and two for its day. -/
theorem IsValid.isWrittenAs_chars {c : CivilDay} (h : c.IsValid) : c.IsWrittenAs c.chars := by
  have hmonth := h.month.2
  have hday : c.day ≤ 31 := h.day.2.trans (by
    unfold monthLength
    split
    · split <;> decide
    all_goals decide)
  refine ⟨yearChars c.year, paddedChars 2 c.month, paddedChars 2 c.day, ?_, isYear_yearChars _,
    Text.isNumeral_paddedChars (by decide) (by omega),
    Text.isNumeral_paddedChars (by decide) (by omega)⟩
  rw [chars, List.append_assoc, List.cons_append]

end CivilDay

/-- **The text of a date**: that of the day with its number. -/
def Date.IsWrittenAs (d : Date) (cs : List Char) : Prop :=
  ∃ c : CivilDay, c.IsValid ∧ c.number = d.day ∧ c.IsWrittenAs cs

theorem Date.isWrittenAs_text (d : Date) : d.IsWrittenAs d.text.toList := by
  obtain ⟨hvalid, hnumber⟩ := CivilDay.ofDay_spec d.day
  rw [text, String.toList_ofList]
  exact ⟨_, hvalid, hnumber, hvalid.isWrittenAs_chars⟩

/-! ## Moments in digits -/

namespace Clock

open Text (IsDigits IsNumeral ofDecimalChars paddedChars)

/-- **A fraction of a second in nanoseconds**: nothing, or a point and up to nine digits. -/
inductive IsFraction : Nat → List Char → Prop where
  | none : IsFraction 0 []
  | digits {cs : List Char} (h : IsDigits cs) (hlength : cs.length ≤ 9) :
    IsFraction (ofDecimalChars cs * 10 ^ (9 - cs.length)) ('.' :: cs)

/-- **A time of day written as hours, minutes and seconds** with colons between, and a fraction, by
the seconds since midnight and the nanoseconds since that second. A leap second is the second
sixty. -/
inductive IsWrittenAs : Nat → Nat → List Char → Prop where
  | usual {h m s n : Nat} {hours minutes seconds fraction : List Char}
    (hhours : IsNumeral 2 h hours)
    (hm : m < 60) (hminutes : IsNumeral 2 m minutes) (hs : s < 60)
    (hseconds : IsNumeral 2 s seconds)
    (hn : n < 1000000000) (hfraction : IsFraction n fraction) :
    IsWrittenAs (3600 * h + 60 * m + s) n
      (hours ++ ':' :: (minutes ++ ':' :: (seconds ++ fraction)))
  | leap {h m n : Nat} {hours minutes seconds fraction : List Char} (hhours : IsNumeral 2 h hours)
    (hm : m < 60) (hminutes : IsNumeral 2 m minutes) (hseconds : IsNumeral 2 60 seconds)
    (hn : n < 1000000000) (hfraction : IsFraction n fraction) :
    IsWrittenAs (3600 * h + 60 * m + 59) (1000000000 + n)
      (hours ++ ':' :: (minutes ++ ':' :: (seconds ++ fraction)))

theorem isFraction_paddedChars {width n : Nat} (hwidth : 0 < width) (hnine : width ≤ 9)
    (h : n < 10 ^ width) : IsFraction (n * 10 ^ (9 - width)) ('.' :: paddedChars width n) := by
  obtain ⟨hlength, hdigits, hvalue⟩ := Text.isNumeral_paddedChars hwidth h
  have hne : paddedChars width n ≠ [] := List.ne_nil_of_length_pos (hlength.symm ▸ hwidth)
  have hfraction := IsFraction.digits ⟨hne, hdigits⟩ (hlength.trans_le hnine)
  rwa [hvalue, hlength] at hfraction

/-- Zeros at the end are left out in groups of three. -/
theorem isFraction_fractionChars {nano : Nat} (h : nano < 1000000000) :
    IsFraction nano (fractionChars nano) := by
  unfold fractionChars
  split
  · rename_i hzero
    exact hzero ▸ .none
  · split
    · have hmillis := isFraction_paddedChars (show 0 < 3 by decide) (by decide)
        (show nano / 1000000 < 10 ^ 3 by omega)
      rwa [show nano / 1000000 * 10 ^ (9 - 3) = nano by omega] at hmillis
    · split
      · have hmicros := isFraction_paddedChars (show 0 < 6 by decide) (by decide)
          (show nano / 1000 < 10 ^ 6 by omega)
        rwa [show nano / 1000 * 10 ^ (9 - 6) = nano by omega] at hmicros
      · have hnanos := isFraction_paddedChars (show 0 < 9 by decide) (by decide)
          (show nano < 10 ^ 9 by omega)
        rwa [show nano * 10 ^ (9 - 9) = nano by omega] at hnanos

/-- **A time of day is written by what it is.** -/
theorem isWrittenAs_chars {second nano : Nat} (hsecond : second < 86400) (hnano : nano < 2000000000)
    (hleap : 1000000000 ≤ nano → second % 60 = 59) :
    IsWrittenAs second nano (chars second nano) := by
  have htwo {n : Nat} (h : n < 100) : IsNumeral 2 n (paddedChars 2 n) :=
    Text.isNumeral_paddedChars (by decide) h
  have hhours := htwo (show second / 3600 < 100 by omega)
  have hm : second / 60 % 60 < 60 := by omega
  have hminutes := htwo (show second / 60 % 60 < 100 by omega)
  unfold chars hmsChars
  split
  · rename_i hlong
    have hfraction := isFraction_fractionChars (show nano - 1000000000 < 1000000000 by omega)
    have hwritten := IsWrittenAs.leap hhours hm hminutes (htwo (show 60 < 100 by decide)) (by omega)
      hfraction
    rw [show 3600 * (second / 3600) + 60 * (second / 60 % 60) + 59 = second by omega,
      show 1000000000 + (nano - 1000000000) = nano by omega] at hwritten
    rw [hleap hlong]
    simpa only [List.append_assoc, List.cons_append] using hwritten
  · have hfraction := isFraction_fractionChars (show nano < 1000000000 by omega)
    have hwritten := IsWrittenAs.usual hhours hm hminutes (show second % 60 < 60 by omega)
      (htwo (show second % 60 < 100 by omega)) (by omega) hfraction
    rw [show 3600 * (second / 3600) + 60 * (second / 60 % 60) + second % 60 = second by omega]
      at hwritten
    simpa only [List.append_assoc, List.cons_append] using hwritten

end Clock

/-- **The text of a moment**: the date, a `T`, the time of that day and an offset of zero. -/
def Timestamp.IsWrittenAs (t : Timestamp) (cs : List Char) : Prop :=
  ∃ (d : Date) (second : Nat) (date time : List Char), t.second = d.day * 86400 + second
    ∧ second < 86400 ∧ d.IsWrittenAs date ∧ Clock.IsWrittenAs second t.nano time
    ∧ cs = date ++ 'T' :: (time ++ "+00:00".toList)

theorem Timestamp.isWrittenAs_text (t : Timestamp) : t.IsWrittenAs t.text.toList := by
  have hleap := t.second_of_leap
  refine ⟨t.date, t.secondOfDay, t.date.text.toList, Clock.chars t.secondOfDay t.nano, ?_, ?_,
    t.date.isWrittenAs_text, Clock.isWrittenAs_chars ?_ t.nano_lt ?_, ?_⟩
  · unfold date secondOfDay
    simp only
    omega
  · unfold secondOfDay
    omega
  · unfold secondOfDay
    omega
  · unfold secondOfDay
    omega
  · rw [text, chars, Date.text, String.toList_ofList, String.toList_ofList, List.append_assoc]
    rfl

end PgStatement

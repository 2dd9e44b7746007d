import PgStatement.Text.Digits

/-!
# Dates

A `Date` is a day of the proleptic Gregorian calendar, counted from 1 January 1970. Counting days
makes the arithmetic of the wire format trivial; year, month and day of the month are computed when
the date is written. The calendar reaches from year -262143 to year 262142, and a date outside of it
does not exist: the bounds are part of the type.

The conversion counts years from March, so that the leap day is the last of its year, and in eras of
four hundred years, which all have the same number of days.
-/

namespace PgStatement

/-- A day named by its year, month and day of the month. The year zero exists. -/
structure CivilDay where
  /-- The year; zero and negative years are before the common era. -/
  year : Int
  /-- The month, from one. -/
  month : Nat
  /-- The day of the month, from one. -/
  day : Nat
  deriving DecidableEq

namespace CivilDay

/-- The days of four hundred years. -/
def daysPerEra : Int := 146097

/-- The days from 1 March of year zero to 1 January 1970. -/
def epochOffset : Int := 719468

/-- The number of days since 1 January 1970. -/
def toDay (c : CivilDay) : Int :=
  let year := if c.month ≤ 2 then c.year - 1 else c.year
  let yearOfEra := (year % 400).toNat
  let monthFromMarch := (c.month + 9) % 12
  let dayOfYear := (153 * monthFromMarch + 2) / 5 + c.day - 1
  let dayOfEra := yearOfEra * 365 + yearOfEra / 4 - yearOfEra / 100 + dayOfYear
  year / 400 * daysPerEra + dayOfEra - epochOffset

/-- The day so many days after 1 January 1970. -/
def ofDay (day : Int) : CivilDay :=
  let shifted := day + epochOffset
  let dayOfEra := (shifted % daysPerEra).toNat
  -- the leap days so far are taken out, so that every year counts 365 days
  let yearOfEra :=
    (dayOfEra - dayOfEra / 1460 + dayOfEra / 36524 - dayOfEra / 146096) / 365
  let dayOfYear := dayOfEra - (365 * yearOfEra + yearOfEra / 4 - yearOfEra / 100)
  let monthFromMarch := (5 * dayOfYear + 2) / 153
  let month := if monthFromMarch < 10 then monthFromMarch + 3 else monthFromMarch - 9
  let year := yearOfEra + shifted / daysPerEra * 400
  { year := if month ≤ 2 then year + 1 else year
    month := month
    day := dayOfYear - (153 * monthFromMarch + 2) / 5 + 1 }

/-- The year in at least four digits, with a sign if it has more or is negative. -/
def yearChars (year : Int) : List Char :=
  let digits := Text.paddedChars 4 year.natAbs
  if year < 0 then '-' :: digits else if 9999 < year then '+' :: digits else digits

/-- Year, month and day with hyphens between. -/
def chars (c : CivilDay) : List Char :=
  yearChars c.year ++ '-' :: Text.paddedChars 2 c.month ++ '-' :: Text.paddedChars 2 c.day

end CivilDay

namespace Date

/-- 1 January of year -262143. -/
def firstDay : Int := -96465292

/-- 31 December of year 262142. -/
def lastDay : Int := 95026236

/-- 1 January 2000, from which the wire format counts. -/
def wireEpoch : Int := 10957

end Date

/-- **A date**, as the number of days since 1 January 1970. -/
structure Date where
  /-- Days since 1 January 1970. -/
  day : Int
  /-- The calendar ends on both sides. -/
  inRange : Date.firstDay ≤ day ∧ day ≤ Date.lastDay
  deriving DecidableEq

namespace Date

/-- The date so many days after 1 January 1970, if the calendar has it. -/
def ofDay? (day : Int) : Option Date :=
  if h : firstDay ≤ day ∧ day ≤ lastDay then some ⟨day, h⟩ else none

/-- The date of a year, month and day of the month, if there is one. -/
def ofCivil? (c : CivilDay) : Option Date :=
  if CivilDay.ofDay c.toDay = c then ofDay? c.toDay else none

/-- Year, month and day of the month. -/
def civil (d : Date) : CivilDay := CivilDay.ofDay d.day

/-- The date as text. -/
def text (d : Date) : String := String.ofList d.civil.chars

@[simp] theorem ofDay?_day (d : Date) : ofDay? d.day = some d := by
  rw [ofDay?, dif_pos d.inRange]

end Date

end PgStatement

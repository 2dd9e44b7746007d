import PgStatement.Calendar.Date

/-!
# Times of day and timestamps

A `Timestamp` is a moment in universal time, to the nanosecond: a count of seconds since 1 January
1970 and the nanoseconds since that second began. A leap second is counted as a second that lasts
twice as long, which only the last second of a minute may do; it is written as `:60`.

The wire format counts microseconds since 1 January 2000. Nanoseconds below a microsecond are cut
off toward that date, so that later moments lose and earlier ones gain.
-/

namespace PgStatement

namespace Clock

/-- Hours, minutes and seconds of a number of seconds since midnight. -/
def hmsChars (second : Nat) : List Char :=
  Text.paddedChars 2 (second / 3600) ++ ':' :: Text.paddedChars 2 (second / 60 % 60)
    ++ ':' :: Text.paddedChars 2 (second % 60)

/-- A fraction of a second in as many groups of three digits as are needed, at most three. -/
def fractionChars (nano : Nat) : List Char :=
  if nano = 0 then []
  else if nano % 1000000 = 0 then '.' :: Text.paddedChars 3 (nano / 1000000)
  else if nano % 1000 = 0 then '.' :: Text.paddedChars 6 (nano / 1000)
  else '.' :: Text.paddedChars 9 nano

/-- The text of a time of day. Nanoseconds from a thousand million up are a leap second. -/
def chars (second nano : Nat) : List Char :=
  if 1000000000 ≤ nano then
    Text.paddedChars 2 (second / 3600) ++ ':' :: Text.paddedChars 2 (second / 60 % 60)
      ++ ':' :: Text.paddedChars 2 (second % 60 + 1) ++ fractionChars (nano - 1000000000)
  else hmsChars second ++ fractionChars nano

end Clock

/-- **A moment in universal time.** -/
structure Timestamp where
  /-- Seconds since 1 January 1970. -/
  second : Int
  /-- Nanoseconds since that second began. -/
  nano : Nat
  /-- The moment lies on a day of the calendar. -/
  inRange : Date.firstDay ≤ second / 86400 ∧ second / 86400 ≤ Date.lastDay
  /-- No second lasts longer than two. -/
  nano_lt : nano < 2000000000
  /-- Only the last second of a minute lasts longer than one. -/
  second_of_leap : 1000000000 ≤ nano → second % 60 = 59
  deriving DecidableEq

namespace Timestamp

/-- The moment with the given seconds and nanoseconds, if there is one. -/
def ofUnix? (second : Int) (nano : Nat) : Option Timestamp :=
  if h : (Date.firstDay ≤ second / 86400 ∧ second / 86400 ≤ Date.lastDay)
      ∧ nano < 2000000000 ∧ (1000000000 ≤ nano → second % 60 = 59) then
    some ⟨second, nano, h.1, h.2.1, h.2.2⟩
  else none

/-- The day of the moment. -/
def date (t : Timestamp) : Date := ⟨t.second / 86400, t.inRange⟩

/-- Seconds since midnight. -/
def secondOfDay (t : Timestamp) : Nat := (t.second % 86400).toNat

/-- Date and time of day with a `T` between. -/
def chars (t : Timestamp) : List Char :=
  t.date.civil.chars ++ 'T' :: Clock.chars t.secondOfDay t.nano

/-- The moment as text, with the offset from universal time in digits. -/
def text (t : Timestamp) : String := String.ofList (t.chars ++ ['+', '0', '0', ':', '0', '0'])

/-- The moment as inspected text, with a `Z` for universal time. -/
def inspect (t : Timestamp) : String := String.ofList (t.chars ++ ['Z'])

/-- Seconds from 1 January 1970 to 1 January 2000. -/
def wireEpoch : Int := 946684800

/-- **Microseconds since 1 January 2000**, cut off toward that date. -/
def microseconds (t : Timestamp) : Int :=
  ((t.second - wireEpoch) * 1000000000 + t.nano).tdiv 1000

/-- The moment so many microseconds after 1 January 2000, if the calendar has it. -/
def ofMicroseconds? (micros : Int) : Option Timestamp :=
  ofUnix? (wireEpoch + micros / 1000000) ((micros % 1000000).toNat * 1000)

end Timestamp

end PgStatement

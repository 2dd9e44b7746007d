import PgStatement.Bytes.BigEndian
import PgStatement.Wire.Fault

/-!
# Intervals and times of day with a zone

An interval is three numbers that do not convert into each other: microseconds, days and months. Its
text names years, months and days that are not zero, and then the time if there is one or nothing
else. Each part has its own minus sign; a positive part directly after a negative one has a plus
sign, so that the minus is not read on.

A time of day with a zone is a number of microseconds since midnight and a zone in seconds *west* of
universal time. Its text gives the offset to the *east*, with minutes and seconds only if needed.

Both write the time with as many fraction digits as needed, and do not wrap hours at twenty-four.
-/

namespace PgStatement.Wire

/-! ## Time -/

/-- Digits without the zeros at their end. -/
def trimZeros (cs : List Char) : List Char := (cs.reverse.dropWhile (· == '0')).reverse

/-- **Hours, minutes, seconds and fraction** of a number of microseconds. -/
def timeChars (micros : Nat) : List Char :=
  let fraction := micros % 1000000
  Text.paddedChars 2 (micros / 3600000000)
    ++ ':' :: Text.paddedChars 2 (micros % 3600000000 / 60000000)
    ++ ':' :: Text.paddedChars 2 (micros % 60000000 / 1000000)
    ++ (if fraction = 0 then [] else '.' :: trimZeros (Text.paddedChars 6 fraction))

/-! ## Intervals -/

/-- **An interval.** -/
structure Interval where
  /-- Microseconds. -/
  micros : Int
  /-- Days. -/
  days : Int
  /-- Months. -/
  months : Int
  deriving DecidableEq

namespace Interval

/-- The interval that bytes stand for: eight for the microseconds, four for the days and four for
the months. -/
def decode (raw : Bytes) : Except Fault Interval :=
  if raw.length = 16 then
    .ok ⟨BigEndian.toInt (raw.take 8), BigEndian.toInt ((raw.drop 8).take 4),
      BigEndian.toInt (raw.drop 12)⟩
  else .error (.wrongLength "interval" raw.length 16)

/-- A part with its unit, with a plus sign if it is positive after a negative one. -/
def partChars (afterNegative : Bool) (value : Int) (unit : List Char) : List Char :=
  (if afterNegative && 0 < value then ['+'] else [])
    ++ (if value < 0 then ['-'] else []) ++ Text.decimalChars value.natAbs ++ ' ' :: unit
    ++ (if value = 1 then [] else ['s'])

/-- The parts that are not zero, and whether the last of them was negative. -/
def partsChars (afterNegative : Bool) : List (Int × List Char) → List (List Char) × Bool
  | [] => ([], afterNegative)
  | (value, unit) :: rest =>
    if value = 0 then partsChars afterNegative rest
    else
      let (parts, last) := partsChars (value < 0) rest
      (partChars afterNegative value unit :: parts, last)

/-- Years, months and days, with their units. Months are divided toward zero, so that years and
months have the same sign. -/
def units (i : Interval) : List (Int × List Char) :=
  [(i.months.tdiv 12, ['y', 'e', 'a', 'r']), (i.months.tmod 12, ['m', 'o', 'n']),
    (i.days, ['d', 'a', 'y'])]

/-- The parts of the text. -/
def parts (i : Interval) : List (List Char) :=
  let (dates, negative) := partsChars false i.units
  if i.micros ≠ 0 || dates.isEmpty then
    -- a positive time has a plus sign only directly after a negative part
    let sign := if i.micros < 0 then ['-'] else if negative then ['+'] else []
    dates ++ [sign ++ timeChars i.micros.natAbs]
  else dates

/-- **The interval as text**, its parts separated by spaces. -/
def text (i : Interval) : String := String.ofList ([' '].intercalate i.parts)

end Interval

/-! ## Times of day with a zone -/

/-- **A time of day with a zone.** -/
structure ZonedTime where
  /-- Microseconds since midnight. -/
  micros : Int
  /-- Seconds west of universal time. -/
  west : Int
  deriving DecidableEq

namespace ZonedTime

/-- The time that bytes stand for: eight for the microseconds and four for the zone. -/
def decode (raw : Bytes) : Except Fault ZonedTime :=
  if raw.length = 12 then .ok ⟨BigEndian.toInt (raw.take 8), BigEndian.toInt (raw.drop 8)⟩
  else .error (.wrongLength "timetz" raw.length 12)

/-- The offset to the east: a sign and hours, minutes if it is not whole hours, seconds if it is not
whole minutes. -/
def offsetChars (west : Int) : List Char :=
  let seconds := west.natAbs
  (if 0 < west then '-' else '+') :: Text.paddedChars 2 (seconds / 3600)
    ++ (if seconds % 3600 = 0 then []
      else ':' :: Text.paddedChars 2 (seconds % 3600 / 60)
        ++ (if seconds % 60 = 0 then [] else ':' :: Text.paddedChars 2 (seconds % 60)))

/-- **The time as text**, with its offset. -/
def text (t : ZonedTime) : String :=
  String.ofList (timeChars t.micros.natAbs ++ offsetChars t.west)

end ZonedTime

end PgStatement.Wire

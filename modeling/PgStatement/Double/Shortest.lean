import PgStatement.Double.Basic

/-!
# Shortest digits

The digits a floating-point number is written with are the fewest that read back as the number, and
of those the nearest. Reading rounds to nearest, so what reads back is an interval around the number
that reaches half-way to its two neighbours; its ends belong to it exactly when the significand is
even, for then a tie falls to the number.

The search is exact. For one, two, … seventeen digits it looks at the two neighbours of the number
on the grid of decimals with so many digits. If any point of the grid lies in the interval then one
of the two does, and seventeen digits always suffice. Of two hits the nearer one is taken; which of
two equally near ones is a matter of the format, and comes in as a `Tie`.
-/

namespace PgStatement

-- powers are those of the core library, whatever else is imported further on
attribute [local instance (high)] instPowNat

/-- Which of two equally near decimals is taken. -/
inductive Tie where
  /-- The larger one. -/
  | up
  /-- The one whose last digit is even. -/
  | even
  deriving DecidableEq

/-- A decimal number `digits · 10 ^ exponent`, without a sign. -/
structure DecimalMagnitude where
  /-- The digits, as one natural number. -/
  digits : Nat
  /-- The exponent of ten. -/
  exponent : Int

namespace Shortest

/-- The numbers that read back as a given one, as quotients over a common denominator. -/
structure Interval where
  /-- The lower end. -/
  low : Nat
  /-- The number itself. -/
  value : Nat
  /-- The upper end. -/
  high : Nat
  /-- The common denominator. -/
  den : Nat
  /-- Whether the ends belong to the interval. -/
  closed : Bool

/-- The interval of a positive magnitude of a format. Below the first significand of an exponent the
neighbour is half as far away, unless that exponent is the smallest. -/
def interval (f : Format) (m : Magnitude) : Interval :=
  let narrowBelow := m.significand == 2 ^ f.fractionBits && f.minExponent < m.exponent
  let up := 2 ^ m.exponent.toNat
  { low := (4 * m.significand - (if narrowBelow then 1 else 2)) * up
    value := 4 * m.significand * up
    high := (4 * m.significand + 2) * up
    den := 4 * 2 ^ (-m.exponent).toNat
    closed := m.significand % 2 == 0 }

/-- Whether the interval holds the point `k` of a grid with the given spacing `num / den`. -/
def Interval.holds (i : Interval) (num den k : Nat) : Bool :=
  let point := k * num * i.den
  if i.closed then i.low * den ≤ point && point ≤ i.high * den
  else i.low * den < point && point < i.high * den

/-- The point of the grid with spacing `num / den` that reads back and is nearest, if there is
one. -/
def Interval.nearest? (i : Interval) (tie : Tie) (num den : Nat) : Option Nat :=
  let below := i.value * den / (num * i.den)
  let above := below + 1
  match i.holds num den below, i.holds num den above with
  | true, false => some below
  | false, true => some above
  | false, false => none
  | true, true =>
    let twice := 2 * (i.value * den)
    let middle := (below + above) * num * i.den
    if twice < middle then some below
    else if middle < twice then some above
    else
      match tie with
      | .up => some above
      | .even => some (if below % 2 == 0 then below else above)

/-- The exponent of the leading decimal digit of a positive quotient: the largest `e` for which
`10 ^ e` is not above it, found by climbing from an estimate that is never too high. -/
def leadingExponent (num den : Nat) : Int :=
  -- 30103 / 100000 is close to the decimal logarithm of two
  let binary : Int := num.log2 - den.log2
  let estimate := (binary * 30103).fdiv 100000 - 1
  let atLeast (e : Int) : Bool := den * 10 ^ e.toNat ≤ num * 10 ^ (-e).toNat
  if atLeast (estimate + 2) then estimate + 2
  else if atLeast (estimate + 1) then estimate + 1
  else estimate

/-- Whole factors of ten moved from the digits to the exponent. -/
def stripZeros : (fuel : Nat) → DecimalMagnitude → DecimalMagnitude
  | 0, d => d
  | fuel + 1, d =>
    if d.digits % 10 == 0 && d.digits != 0 then stripZeros fuel ⟨d.digits / 10, d.exponent + 1⟩
    else d

/-- The search from a grid whose last digit is at `exponent` down to finer ones. -/
def search (i : Interval) (tie : Tie) : (fuel : Nat) → (exponent : Int) → DecimalMagnitude
  | 0, exponent => ⟨0, exponent⟩
  | fuel + 1, exponent =>
    match i.nearest? tie (10 ^ exponent.toNat) (10 ^ (-exponent).toNat) with
    | some k => ⟨k, exponent⟩
    | none => search i tie fuel (exponent - 1)

end Shortest

/-- **The shortest decimal** that reads back as the positive magnitude. -/
def Magnitude.shortest (f : Format) (tie : Tie) (m : Magnitude) : DecimalMagnitude :=
  let i := Shortest.interval f m
  let found := Shortest.search i tie 18 (Shortest.leadingExponent i.value i.den)
  Shortest.stripZeros 18 found

end PgStatement

import PgStatement.Json.Basic

/-!
# Numbers in JSON text

An integer that fits in sixty-four bits, signed or unsigned, is kept as an integer; the integer `-0`
and every other number become floating-point numbers.

A floating-point number is read in two roundings, not one. Its digits are first collected in a
natural number of sixty-four bits; once that is full, further integral digits only raise the
exponent and further fraction digits are dropped. The collected number is then rounded to a
floating-point number and multiplied or divided by a power of ten, which is itself rounded. The
result may therefore be a neighbour of the nearest number; it is a function of the text all the
same, and the one that the documents of this library have.
-/

namespace PgStatement.Json

-- powers are those of the core library, whatever else is imported further on
attribute [local instance (high)] instPowNat

/-- The digits of a number collected so far. -/
structure Collected where
  /-- The significand, below `2 ^ 64`. -/
  significand : Nat
  /-- The exponent of ten that goes with it. -/
  exponent : Int
  /-- Whether a digit did not fit. -/
  full : Bool

/-- The largest significand. -/
def maxSignificand : Nat := 2 ^ (64 : Nat) - 1

/-- One more integral digit. -/
def Collected.integral (c : Collected) (digit : Char) : Collected :=
  let next := 10 * c.significand + Text.digitValue digit
  if c.full || maxSignificand < next then { c with exponent := c.exponent + 1, full := true }
  else { c with significand := next }

/-- One more digit of the fraction. A significand that overflowed before the point still takes
fraction digits that fit; one that overflows after it takes none. -/
def Collected.fraction (c : Collected) (digit : Char) : Collected :=
  let next := 10 * c.significand + Text.digitValue digit
  if c.full || maxSignificand < next then { c with full := true }
  else { c with significand := next, exponent := c.exponent - 1 }

/-- The magnitude nearest to a power of ten. -/
def powerOfTen (n : Nat) : Magnitude :=
  (Format.binary64.magnitude? (Format.binary64.round (10 ^ n) 1)).getD ⟨0, 0⟩

/-- The largest power of ten that a floating-point number can be multiplied by. -/
def maxPower : Nat := 308

/-- A floating-point magnitude scaled by a power of ten, in steps of at most `maxPower`; none if the
result is out of range. -/
def scale : (fuel : Nat) → Magnitude → Int → Option Nat
  | 0, _, _ => none
  | fuel + 1, m, exponent =>
    let pattern := Format.binary64.round m.ratio.1 m.ratio.2
    if exponent.natAbs ≤ maxPower then
      if 0 ≤ exponent then
        let product := (m.mul (powerOfTen exponent.natAbs)).ratio
        let result := Format.binary64.round product.1 product.2
        if result == Format.binary64.infinity then none else some result
      else
        let quotient := m.divRatio (powerOfTen exponent.natAbs)
        some (Format.binary64.round quotient.1 quotient.2)
    else if m.significand == 0 then some pattern
    else if 0 ≤ exponent then none
    else
      let quotient := m.divRatio (powerOfTen maxPower)
      match Format.binary64.magnitude? (Format.binary64.round quotient.1 quotient.2) with
      | some next => scale fuel next (exponent + maxPower)
      | none => none

/-- The floating-point number of a significand and an exponent of ten. No more than four steps
downward are needed: after that the number is zero. -/
def floatOfParts (negative : Bool) (significand : Nat) (exponent : Int) : Option Json :=
  match Format.binary64.magnitude? (Format.binary64.round significand 1) with
  | some m => (scale 6 m exponent).map fun pattern => .float (Double.ofPattern negative pattern)
  | none => none

/-- The bounds of the exponent after `e`. -/
def maxExponent : Int := 2 ^ (31 : Nat) - 1

/-- A number with the exponent written after `e`. One that is out of bounds makes every number but
zero too large or zero. -/
def floatOfExponent (negative : Bool) (c : Collected) (exponentNegative : Bool)
    (exponent : Nat) : Option Json :=
  if maxExponent < exponent then
    if c.significand ≠ 0 && !exponentNegative then none
    else some (.float (Double.ofPattern negative 0))
  else
    -- an exponent that would leave its bounds stays at them
    let total := if exponentNegative then c.exponent - exponent else c.exponent + exponent
    floatOfParts negative c.significand (max (-maxExponent - 1) (min maxExponent total))

/-- A number without a fraction and without an exponent. -/
def ofInteger (negative : Bool) (c : Collected) : Option Json :=
  if c.full then floatOfParts negative c.significand c.exponent
  else if negative then
    if c.significand = 0 || 2 ^ (63 : Nat) < c.significand then floatOfParts true c.significand 0
    else some (.int (-c.significand))
  else some (.int c.significand)

/-- The integral digits at the front: a zero alone, or digits that start with another. -/
def integerDigits? (cs : List Char) : Option (List Char × List Char) :=
  let digits := cs.takeWhile Text.isDecimalDigit
  let rest := cs.dropWhile Text.isDecimalDigit
  match digits with
  | [] => none
  | '0' :: _ :: _ => none
  | digits => some (digits, rest)

/-- Digits at the front, at least one. -/
def digits? (cs : List Char) : Option (List Char × List Char) :=
  match cs.takeWhile Text.isDecimalDigit with
  | [] => none
  | digits => some (digits, cs.dropWhile Text.isDecimalDigit)

/-- The exponent at the front, if any, and the number. -/
def exponentPart (negative fractional : Bool) (c : Collected) (cs : List Char) :
    Option (Json × List Char) :=
  match cs with
  | e :: rest =>
    if e = 'e' || e = 'E' then do
      let (exponentNegative, rest) :=
        match rest with
        | '+' :: rest => (false, rest)
        | '-' :: rest => (true, rest)
        | rest => (false, rest)
      let (digits, rest) ← digits? rest
      let number ← floatOfExponent negative c exponentNegative (Text.ofDecimalChars digits)
      return (number, rest)
    else
      (if fractional then floatOfParts negative c.significand c.exponent
        else ofInteger negative c).map (·, cs)
  | [] =>
    (if fractional then floatOfParts negative c.significand c.exponent
      else ofInteger negative c).map (·, [])

/-- **The number at the front of a text**, and the rest. -/
def number? (cs : List Char) : Option (Json × List Char) := do
  let (negative, unsigned) :=
    match cs with
    | '-' :: rest => (true, rest)
    | cs => (false, cs)
  let (digits, rest) ← integerDigits? unsigned
  let c := digits.foldl Collected.integral ⟨0, 0, false⟩
  match rest with
  | '.' :: rest =>
    let (digits, rest) ← digits? rest
    exponentPart negative true
      (digits.foldl Collected.fraction ⟨c.significand, c.exponent, false⟩) rest
  | rest => exponentPart negative false c rest

end PgStatement.Json

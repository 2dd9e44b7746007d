/-!
# Floating-point numbers

A `Double` is its sixty-four bits. Bits and not a number, because a value on its way from one column
to another must keep the payload of a NaN and the sign of a zero, and because everything the library
says about such a number – its digits, its rounding to thirty-two bits – is then exact arithmetic on
natural numbers.

A finite number has a `Magnitude`, a significand times a power of two. The other way, `Format.round`
takes any positive quotient to the nearest number of a format, ties to the even significand; the
result is a bit pattern, so that the carry into the next exponent needs no case of its own.
-/

namespace PgStatement

-- powers are those of the core library, whatever else is imported further on
attribute [local instance (high)] instPowNat

/-- A binary floating-point format of IEEE 754, by the widths of its fields. -/
structure Format where
  /-- The number of bits of the fraction. -/
  fractionBits : Nat
  /-- The number of bits of the biased exponent. -/
  exponentBits : Nat

/-- A number written as `significand · 2 ^ exponent`, without a sign. -/
structure Magnitude where
  /-- The integral factor. -/
  significand : Nat
  /-- The exponent of two. -/
  exponent : Int

namespace Magnitude

/-- The same number as a quotient of natural numbers. -/
def ratio (m : Magnitude) : Nat × Nat :=
  (m.significand * 2 ^ m.exponent.toNat, 2 ^ (-m.exponent).toNat)

/-- The exact product. -/
def mul (a b : Magnitude) : Magnitude :=
  ⟨a.significand * b.significand, a.exponent + b.exponent⟩

/-- The exact quotient, as a quotient of natural numbers. -/
def divRatio (a b : Magnitude) : Nat × Nat :=
  (a.ratio.1 * b.ratio.2, a.ratio.2 * b.ratio.1)

end Magnitude

/-- A quotient rounded to the nearest natural number, ties to the even one. -/
def roundHalfEven (num den : Nat) : Nat :=
  let q := num / den
  let r := num % den
  if den < 2 * r || (2 * r == den && q % 2 == 1) then q + 1 else q

namespace Format

/-- Sixty-four bits in all. -/
def binary64 : Format := ⟨52, 11⟩

/-- Thirty-two bits in all. -/
def binary32 : Format := ⟨23, 8⟩

/-- The exponent of the last place of the smallest numbers. -/
def minExponent (f : Format) : Int := 2 - 2 ^ (f.exponentBits - 1) - f.fractionBits

/-- The pattern of infinity: all exponent bits and no fraction. -/
def infinity (f : Format) : Nat := (2 ^ f.exponentBits - 1) * 2 ^ f.fractionBits

/-- The number that a pattern without its sign stands for. -/
def magnitude? (f : Format) (pattern : Nat) : Option Magnitude :=
  let fraction := pattern % 2 ^ f.fractionBits
  let biased := pattern / 2 ^ f.fractionBits
  if f.infinity ≤ pattern then none
  else if biased == 0 then some ⟨fraction, f.minExponent⟩
  else some ⟨2 ^ f.fractionBits + fraction, f.minExponent + (biased - 1)⟩

/-- The exponent of the last place that a positive quotient has in the format. -/
def lastPlace (f : Format) (num den : Nat) : Int :=
  let estimate : Int := num.log2 - den.log2
  let (up, down) := (2 ^ estimate.toNat, 2 ^ (-estimate).toNat)
  let leading := if num * down < den * up then estimate - 1 else estimate
  max f.minExponent (leading - f.fractionBits)

/-- **The nearest number of the format**, as a pattern without its sign: infinity if the quotient is
out of range. With `e` the exponent of the last place, the significand `s` of the quotient has the
pattern `(e - minExponent) · 2 ^ fractionBits + s`, whether it is subnormal, normal or was rounded
up to the next power of two. -/
def round (f : Format) (num den : Nat) : Nat :=
  if num == 0 then 0
  else
    let e := f.lastPlace num den
    let s := roundHalfEven (num * 2 ^ (-e).toNat) (den * 2 ^ e.toNat)
    min f.infinity ((e - f.minExponent).toNat * 2 ^ f.fractionBits + s)

end Format

/-- **A floating-point number of sixty-four bits.** -/
structure Double where
  /-- The sign bit, the biased exponent and the fraction. -/
  bits : UInt64
  deriving DecidableEq

namespace Double

/-- A number from its sign and the pattern of its other bits. -/
def ofPattern (negative : Bool) (pattern : Nat) : Double :=
  ⟨UInt64.ofNat (if negative then 2 ^ (63 : Nat) + pattern else pattern)⟩

/-- Whether the sign bit is set. -/
def isNegative (d : Double) : Bool := 2 ^ (63 : Nat) ≤ d.bits.toNat

/-- The bits without the sign. -/
def pattern (d : Double) : Nat := d.bits.toNat % 2 ^ (63 : Nat)

/-- Whether the bits stand for no number. -/
def isNaN (d : Double) : Bool := Format.binary64.infinity < d.pattern

/-- Whether the number is finite. -/
def isFinite (d : Double) : Bool := d.pattern < Format.binary64.infinity

/-- The absolute value of a finite number. -/
def magnitude? (d : Double) : Option Magnitude := Format.binary64.magnitude? d.pattern

/-- Equality of numbers: a NaN differs from itself and the two zeros are equal. -/
def equals (a b : Double) : Bool :=
  !a.isNaN && !b.isNaN && (a.bits == b.bits || (a.pattern == 0 && b.pattern == 0))

/-- The number nearest to an integer. -/
def ofInt (i : Int) : Double := ofPattern (i < 0) (Format.binary64.round i.natAbs 1)

/-- The bits of the number of thirty-two bits nearest to an integer, rounded once. -/
def singleOfInt (i : Int) : UInt32 :=
  UInt32.ofNat ((if i < 0 then 2 ^ (31 : Nat) else 0) + Format.binary32.round i.natAbs 1)

/-- The bits of the nearest number of thirty-two bits. A NaN keeps its sign and the leading bits of
its payload and becomes quiet. -/
def toSingle (d : Double) : UInt32 :=
  let sign := if d.isNegative then 2 ^ (31 : Nat) else 0
  let pattern :=
    match d.magnitude? with
    | some m => Format.binary32.round m.ratio.1 m.ratio.2
    | none =>
      if d.isNaN then
        Format.binary32.infinity ||| 2 ^ (22 : Nat) ||| (d.pattern % 2 ^ (52 : Nat))
          / 2 ^ (29 : Nat)
      else Format.binary32.infinity
  UInt32.ofNat (sign + pattern)

/-- The number that thirty-two bits stand for, which is always representable. A NaN keeps its sign
and payload and becomes quiet. -/
def ofSingle (bits : UInt32) : Double :=
  let pattern := bits.toNat % 2 ^ (31 : Nat)
  let wide :=
    match Format.binary32.magnitude? pattern with
    | some m => Format.binary64.round m.ratio.1 m.ratio.2
    | none =>
      if pattern == Format.binary32.infinity then Format.binary64.infinity
      else Format.binary64.infinity ||| 2 ^ (51 : Nat) ||| (pattern % 2 ^ (23 : Nat))
        * 2 ^ (29 : Nat)
  ofPattern (2 ^ (31 : Nat) ≤ bits.toNat) wide

end Double

end PgStatement

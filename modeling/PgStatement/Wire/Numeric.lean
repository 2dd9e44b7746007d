import PgStatement.Bytes.BigEndian
import PgStatement.Text.Blank
import PgStatement.Wire.Fault

/-!
# Decimal numbers

A NUMERIC is an exact decimal number of any length, or one of three special values. The wire format
has it in base ten thousand: a list of groups, the weight of the first one, a sign, and the scale –
how many fraction digits are shown. Groups that are zero at either end are not stored, so that a
weight may be smaller or larger than the groups suggest.

The library holds such a number as text, because no other type of a value is exact. `Numeric.ofText`
and `Numeric.text` are the two sides of that, `Numeric.encode` and `Numeric.decode` those of the
wire. The text is aligned to groups of four digits at the point: integral digits are filled with
zeros at the front and fraction digits at the end.
-/

namespace PgStatement.Wire

-- powers are those of the core library, whatever else is imported further on
attribute [local instance (high)] instPowNat

/-- **A decimal number in base ten thousand.** -/
inductive Numeric where
  /-- Not a number. -/
  | nan
  /-- Infinity. -/
  | infinity
  /-- Negative infinity. -/
  | negativeInfinity
  /-- The sum of `groups[i] · 10000 ^ (weight - i)`, with a sign, shown to `scale` fraction
  digits. -/
  | finite (negative : Bool) (weight : Int) (scale : Nat) (groups : List Nat)
  deriving DecidableEq

/-- The parts of a decimal number as it is written. -/
structure DecimalText where
  /-- Whether a minus sign stands in front. -/
  negative : Bool
  /-- The digits before the point. -/
  integral : List Char
  /-- The digits after the point. -/
  fraction : List Char

namespace DecimalText

/-- What follows an optional sign, and whether the sign is a minus. -/
def sign : List Char → Bool × List Char
  | '-' :: rest => (true, rest)
  | '+' :: rest => (false, rest)
  | cs => (false, cs)

/-- What stands before and after the first point; nothing after, if there is none. -/
def splitPoint (cs : List Char) : List Char × List Char :=
  (cs.takeWhile (· != '.'), (cs.dropWhile (· != '.')).drop 1)

/-- The parts of a decimal number: a sign or none, digits and at most one point, at least one
digit. -/
def ofChars? (cs : List Char) : Option DecimalText :=
  let (negative, unsigned) := sign cs
  let (integral, fraction) := splitPoint unsigned
  if (integral.isEmpty && fraction.isEmpty)
      || !(integral ++ fraction).all Text.isDecimalDigit then none
  else some ⟨negative, integral, fraction⟩

end DecimalText

namespace Numeric

/-- How many zeros complete a number of digits to groups of four. -/
def padding (digits : Nat) : Nat := (4 - digits % 4) % 4

/-- The numbers of the complete groups of four digits. -/
def groupsOf : List Char → List Nat
  | a :: b :: c :: d :: rest => Text.ofDecimalChars [a, b, c, d] :: groupsOf rest
  | _ => []

/-- Whether a group holds no digit but zero. -/
def isZero (group : Nat) : Bool := group == 0

/-- **The number of a decimal text**: its groups, without the zero groups at either end, and the
weight of the first one that is left. A number without groups has weight zero and no sign. -/
def ofDecimal (d : DecimalText) : Numeric :=
  let integral := d.integral.dropWhile (· == '0')
  let whole := groupsOf (List.replicate (padding integral.length) '0' ++ integral)
  let part := groupsOf (d.fraction ++ List.replicate (padding d.fraction.length) '0')
  -- a zero group at the front lowers the weight, one at the end does not
  let leading := (whole ++ part).takeWhile isZero
  let groups := (((whole ++ part).dropWhile isZero).reverse.dropWhile isZero).reverse
  if groups.isEmpty then .finite false 0 d.fraction.length []
  else .finite d.negative ((whole.length : Int) - 1 - leading.length) d.fraction.length groups

/-- **The number of a text**, with blanks around it or not. -/
def ofText (s : String) : Except Fault Numeric :=
  let trimmed := Text.trim s
  if trimmed = "NaN" then .ok .nan
  else if trimmed = "Infinity" then .ok .infinity
  else if trimmed = "-Infinity" then .ok .negativeInfinity
  else
    match DecimalText.ofChars? trimmed.toList with
    | some d => .ok (ofDecimal d)
    | none => .error (.numericSyntax trimmed)

/-- The sign codes of the format. -/
inductive Sign where
  | positive | negative | nan | infinity | negativeInfinity
  deriving DecidableEq

/-- The code of a sign. -/
def Sign.code : Sign → Nat
  | .positive => 0x0000
  | .negative => 0x4000
  | .nan => 0xc000
  | .infinity => 0xd000
  | .negativeInfinity => 0xf000

/-- The sign of a code. -/
def Sign.ofCode? (code : Nat) : Option Sign :=
  [Sign.positive, .negative, .nan, .infinity, .negativeInfinity].find? (·.code == code)

/-- Counts and signs are written as two bytes. -/
def word (n : Nat) : Bytes := BigEndian.ofNat 2 n

/-- The fields before the groups. -/
def header (count : Nat) (weight : Int) (sign : Sign) (scale : Nat) : Bytes :=
  word count ++ BigEndian.ofInt 2 weight ++ word sign.code ++ word scale

/-- **The bytes of a number**, if its counts fit their fields. -/
def encode : Numeric → Except Fault Bytes
  | .nan => .ok (header 0 0 .nan 0)
  | .infinity => .ok (header 0 0 .infinity 0)
  | .negativeInfinity => .ok (header 0 0 .negativeInfinity 0)
  | .finite negative weight scale groups =>
    if scale < 2 ^ (16 : Nat) && groups.length < 2 ^ (16 : Nat) && -2 ^ (15 : Nat) ≤ weight
        && weight < 2 ^ (15 : Nat) then
      .ok (header groups.length weight (if negative then .negative else .positive) scale
        ++ groups.flatMap word)
    else .error .integerRange

/-- So many numbers of two bytes; none if the bytes end before. -/
def words? : (count : Nat) → Bytes → Option (List Nat)
  | 0, _ => some []
  | count + 1, high :: low :: rest =>
    (words? count rest).map (BigEndian.toNat [high, low] :: ·)
  | _ + 1, _ => none

/-- **The number that bytes stand for.** Special values have no groups to be read, and bytes after
the announced groups are not looked at. -/
def decode (raw : Bytes) : Except Fault Numeric :=
  match raw with
  | c₁ :: c₀ :: w₁ :: w₀ :: g₁ :: g₀ :: s₁ :: s₀ :: rest =>
    let code := BigEndian.toNat [g₁, g₀]
    match Sign.ofCode? code with
    | none => .error (.numericSign code)
    | some .nan => .ok .nan
    | some .infinity => .ok .infinity
    | some .negativeInfinity => .ok .negativeInfinity
    | some sign =>
      match words? (BigEndian.toNat [c₁, c₀]) rest with
      | some groups =>
        .ok (.finite (sign == .negative) (BigEndian.toInt [w₁, w₀])
          (BigEndian.toNat [s₁, s₀]) groups)
      | none => .error .numericTruncated
  | _ => .error .numericTruncated

/-- The groups from the one of weight zero up, the first one being of the given weight. -/
def integralGroups (weight : Int) (groups : List Nat) : List Nat :=
  let count := (weight + 1).toNat
  groups.take count ++ List.replicate (count - groups.length) 0

/-- So many groups below weight zero, the first one stored being of the given weight. -/
def fractionGroups (weight : Int) (groups : List Nat) (count : Nat) : List Nat :=
  let aligned := List.replicate (-(weight + 1)).toNat 0 ++ groups.drop (weight + 1).toNat
  aligned.take count ++ List.replicate (count - aligned.length) 0

/-- Integral digits: the first group without zeros in front, the others with four digits; a zero
alone if there are none. -/
def integralChars : List Nat → List Char
  | [] => ['0']
  | first :: rest => Text.decimalChars first ++ rest.flatMap (Text.paddedChars 4)

/-- The digits of a finite number, cut off after so many fraction digits. -/
def chars (weight : Int) (scale : Nat) (groups : List Nat) : List Char :=
  let fraction := (fractionGroups weight groups ((scale + 3) / 4)).flatMap (Text.paddedChars 4)
  integralChars (integralGroups weight groups)
    ++ (if scale = 0 then [] else '.' :: fraction.take scale)

/-- **The number as text**, with as many fraction digits as its scale. -/
def text : Numeric → String
  | .nan => "NaN"
  | .infinity => "Infinity"
  | .negativeInfinity => "-Infinity"
  | .finite negative weight scale groups =>
    String.ofList ((if negative then ['-'] else []) ++ chars weight scale groups)

end Numeric

end PgStatement.Wire

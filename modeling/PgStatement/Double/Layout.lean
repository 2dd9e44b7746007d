import PgStatement.Double.Shortest
import PgStatement.Text.Digits

/-!
# Layouts of floating-point text

Every text of a floating-point number has the same digits, the shortest ones; what differs is how
they are laid out. A `Layout` is the list of those decisions, and there is one for each place where
such numbers are written: `Layout.literal` for SQL, `Layout.inspect` for messages and `Layout.json`
for documents.
-/

namespace PgStatement

/-- How the digits of a floating-point number are laid out. -/
structure Layout where
  /-- The exponents of the leading digit that are written without an exponent; all, if absent. -/
  plain : Option (Int × Int)
  /-- Whether a plain integral number ends in `.0`. -/
  pointZero : Bool
  /-- Whether an exponent that is not negative has a plus sign. -/
  plusSign : Bool
  /-- Which of two equally near decimals is taken. -/
  tie : Tie
  /-- The text of a number that is none. -/
  nan : String
  /-- The text of infinity. -/
  infinity : String
  /-- The text of negative infinity. -/
  negativeInfinity : String

namespace Layout

/-- In SQL a number never has an exponent, and an integral one has no point. -/
def literal : Layout :=
  { plain := none, pointZero := false, plusSign := false, tie := .up,
    nan := "NaN", infinity := "inf", negativeInfinity := "-inf" }

/-- In messages numbers from `10 ^ 16` up and below `10 ^ -4` have an exponent, and other integral
ones end in `.0`. -/
def inspect : Layout :=
  { plain := some (-4, 15), pointZero := true, plusSign := false, tie := .up,
    nan := "NaN", infinity := "inf", negativeInfinity := "-inf" }

/-- In documents numbers from `10 ^ 16` up and below `10 ^ -5` have an exponent with its sign, and
other integral ones end in `.0`. What is no number is null. -/
def json : Layout :=
  { plain := some (-5, 15), pointZero := true, plusSign := true, tie := .even,
    nan := "null", infinity := "null", negativeInfinity := "null" }

/-- Digits with a point, and without an exponent. -/
def plainChars (pointZero : Bool) (d : DecimalMagnitude) : List Char :=
  let digits := Text.decimalChars d.digits
  if 0 ≤ d.exponent then
    digits ++ List.replicate d.exponent.toNat '0' ++ (if pointZero then ['.', '0'] else [])
  else
    let places := (-d.exponent).toNat
    let padded := digits.leftpad (places + 1) '0'
    padded.take (padded.length - places) ++ '.' :: padded.drop (padded.length - places)

/-- Digits with a point after the first one, and an exponent. -/
def scientificChars (plusSign : Bool) (d : DecimalMagnitude) : List Char :=
  let digits := Text.decimalChars d.digits
  let exponent := d.exponent + (digits.length - 1 : Nat)
  let mantissa :=
    match digits with
    | first :: second :: rest => first :: '.' :: second :: rest
    | short => short
  let sign := if exponent < 0 then ['-'] else if plusSign then ['+'] else []
  mantissa ++ 'e' :: sign ++ Text.decimalChars exponent.natAbs

/-- A decimal in the layout. -/
def decimalChars (l : Layout) (d : DecimalMagnitude) : List Char :=
  let leading := d.exponent + ((Text.decimalChars d.digits).length - 1 : Nat)
  match l.plain with
  | none => plainChars l.pointZero d
  | some (least, greatest) =>
    if d.digits == 0 || (least ≤ leading && leading ≤ greatest) then plainChars l.pointZero d
    else scientificChars l.plusSign d

end Layout

/-- **The text of a floating-point number** in a layout. A negative zero keeps its sign. -/
def Double.text (l : Layout) (d : Double) : String :=
  match d.magnitude? with
  | some m =>
    let decimal :=
      if m.significand == 0 then ⟨0, 0⟩ else m.shortest Format.binary64 l.tie
    String.ofList ((if d.isNegative then ['-'] else []) ++ l.decimalChars decimal)
  | none =>
    if d.isNaN then l.nan else if d.isNegative then l.negativeInfinity else l.infinity

end PgStatement

import PgStatement.Text.Digits

/-!
# What can go wrong on the wire

A value may not fit the type of its parameter, and the bytes of a cell may not be a value of its
column's type. A `Fault` is the cause. Those that have a text of their own are described by
`Fault.text?`; the others are known by their class alone.
-/

namespace PgStatement.Wire

/-- **Why a value was not written or bytes were not read.** -/
inductive Fault where
  /-- An integer is outside the range of its field. -/
  | integerRange
  /-- A text is not an identifier. -/
  | uuidSyntax
  /-- A text is not a document. -/
  | jsonSyntax
  /-- Bytes are not a text. -/
  | notUtf8
  /-- Bytes end inside a field of fixed size, or a text holds the character that ends it. -/
  | unexpectedEnd
  /-- The kind of value is not written as this type. -/
  | mismatch (kind type : String)
  /-- The type is not read. -/
  | undecodable (type : String)
  /-- A floating-point number that is not finite is no decimal. -/
  | notFinite (number : String)
  /-- A text is not a decimal number. -/
  | numericSyntax (text : String)
  /-- A decimal number ends early. -/
  | numericTruncated
  /-- A decimal number has an unknown sign. -/
  | numericSign (code : Nat)
  /-- A value of fixed size has another size. -/
  | wrongLength (format : String) (actual expected : Nat)
  /-- A network address ends inside its header. -/
  | addressTruncated
  /-- A network address is not as long as its header says. -/
  | addressLength (actual : Nat)
  /-- A network address is of no known family. -/
  | addressFamily (family length : Nat)
  /-- A number is followed by further bytes. -/
  | bufferSize
  /-- A value is followed by further bytes. -/
  | notDrained (format : String)
  /-- An identifier does not have sixteen bytes. -/
  | uuidSize
  /-- A document is in an unknown version of its format. -/
  | jsonVersion
  /-- An array has a negative number of dimensions. -/
  | dimensionCount
  /-- A dimension of an array is negative. -/
  | dimensionSize
  /-- An array has more elements than can be counted. -/
  | tooManyElements
  /-- An array has more than one dimension. -/
  | tooManyDimensions
  /-- An element of an array is longer than the array. -/
  | valueLength
  /-- A moment or date is outside of the calendar. -/
  | outsideCalendar
  /-- A count or length does not fit its field. -/
  | tooLarge
  deriving DecidableEq

/-- **The text of a fault**, if it has one of its own. -/
def Fault.text? : Fault → Option String
  | .integerRange | .uuidSyntax | .jsonSyntax | .notUtf8 | .unexpectedEnd => none
  | .mismatch kind type => some s!"cannot encode Rust type {kind} as Postgres type {type}"
  | .undecodable type => some s!"cannot decode column of Postgres type {type}"
  | .notFinite number => some s!"cannot encode {number} as numeric"
  | .numericSyntax text => some s!"invalid numeric literal '{text}'"
  | .numericTruncated => some "truncated numeric value"
  | .numericSign code =>
    some ("invalid numeric sign 0x"
      ++ String.ofList ((Nat.toDigits 16 code).leftpad 4 '0'))
  | .wrongLength format actual expected =>
    some s!"invalid {format} length {actual}, expected {expected}"
  | .addressTruncated => some "truncated inet value"
  | .addressLength actual => some s!"invalid inet address length {actual}"
  | .addressFamily family length =>
    some s!"invalid inet family {family} with {length} address bytes"
  | .bufferSize => some "invalid buffer size"
  | .notDrained format => some s!"invalid message length: {format} not drained"
  | .uuidSize => some "invalid message length: uuid size mismatch"
  | .jsonVersion => some "unsupported JSONB encoding version"
  | .dimensionCount => some "invalid dimension count"
  | .dimensionSize => some "invalid dimension size"
  | .tooManyElements => some "too many array elements"
  | .tooManyDimensions => some "array contains too many dimensions"
  | .valueLength => some "invalid value length"
  | .outsideCalendar => some "value too large to decode"
  | .tooLarge => some "value too large to transmit"

end PgStatement.Wire

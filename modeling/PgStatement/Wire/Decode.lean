import PgStatement.Bytes.Utf8
import PgStatement.Value.Basic
import PgStatement.Wire.Address
import PgStatement.Wire.Array
import PgStatement.Wire.Interval
import PgStatement.Wire.Numeric
import PgStatement.Wire.Type

/-!
# Reading values

The bytes of a cell are read by the type of its column. Arrays are read element by element and
domains as their base type. Types for which the library has no value of their own – decimal numbers,
intervals, times of day, network addresses – are read as the text that the server would show. A type
that is not known at all is refused, and so are bytes that are not of the right length.
-/

namespace PgStatement.Wire

/-- Bytes of a fixed width and nothing after them, as a signed integer. -/
def decodeSigned (width : Nat) (leftover : Fault) (raw : Bytes) : Except Fault Int :=
  match raw.take? width with
  | none => .error .unexpectedEnd
  | some (front, []) => .ok (BigEndian.toInt front)
  | some (_, _ :: _) => .error leftover

/-- Bytes of a fixed width and nothing after them, as a natural number. -/
def decodeUnsigned (width : Nat) (raw : Bytes) : Except Fault Nat :=
  match raw.take? width with
  | none => .error .unexpectedEnd
  | some (front, []) => .ok (BigEndian.toNat front)
  | some (_, _ :: _) => .error .bufferSize

/-- An integer as a value. -/
def intValue (i : Int) : Value := .int (Int64.ofInt i)

/-- A truth value: one byte, of which any but zero is true. -/
def decodeBool : Bytes → Except Fault Bool
  | [b] => .ok (b != 0)
  | _ => .error .bufferSize

/-- A text. -/
def decodeText (raw : Bytes) : Except Fault Value :=
  match Utf8.decode? raw with
  | some s => .ok (.text s)
  | none => .error .notUtf8

/-- A moment, in microseconds since 1 January 2000. -/
def decodeTimestamp (raw : Bytes) : Except Fault Value := do
  let micros ← decodeSigned 8 (.notDrained "timestamp") raw
  match Timestamp.ofMicroseconds? micros with
  | some t => .ok (.timestamp t)
  | none => .error .outsideCalendar

/-- A date, in days since 1 January 2000. -/
def decodeDate (raw : Bytes) : Except Fault Value := do
  let days ← decodeSigned 4 (.notDrained "date") raw
  match Date.ofDay? (Date.wireEpoch + days) with
  | some d => .ok (.date d)
  | none => .error .outsideCalendar

/-- The microseconds of a day. -/
def microsPerDay : Int := 86400000000

/-- A time of day, in microseconds since midnight, reduced modulo a day. -/
def decodeTime (raw : Bytes) : Except Fault Value := do
  let micros ← decodeSigned 8 (.notDrained "time") raw
  let ofDay := (micros % microsPerDay).toNat
  return .text (String.ofList (Clock.chars (ofDay / 1000000) (ofDay % 1000000 * 1000)))

/-- An identifier. -/
def decodeUuid (raw : Bytes) : Except Fault Value :=
  match Uuid.ofBytes? raw with
  | some u => .ok (.uuid u)
  | none => .error .uuidSize

/-- A document. -/
def decodeJson (raw : Bytes) : Except Fault Value :=
  match (Utf8.decode? raw).bind Json.ofText? with
  | some document => .ok (.json document)
  | none => .error .jsonSyntax

/-- A document behind the version of its format. -/
def decodeJsonb : Bytes → Except Fault Value
  | [] => .error .unexpectedEnd
  | version :: raw => if version = 1 then decodeJson raw else .error .jsonVersion

/-- A single byte, as the character with its number. -/
def decodeChar : Bytes → Except Fault Value
  | [] => .error .unexpectedEnd
  | [b] => .ok (.text (String.ofList [Char.ofNat b.toNat]))
  | _ => .error .bufferSize

/-- Whether bytes of a type are the text itself, beside the builtin types of texts. -/
def sendsText (ty : WireType) : Bool := ty.isEnum || ty.name == "citext"

/-- **The value of bytes** of a type that is neither an array nor a domain. -/
def decodeScalar (ty : WireType) (raw : Bytes) : Except Fault Value :=
  match ty with
  | .builtin .bool => .bool <$> decodeBool raw
  | .builtin .int2 => intValue <$> decodeSigned 2 .bufferSize raw
  | .builtin .int4 => intValue <$> decodeSigned 4 .bufferSize raw
  | .builtin .int8 => intValue <$> decodeSigned 8 .bufferSize raw
  | .builtin .oid => (fun n => intValue n) <$> decodeUnsigned 4 raw
  | .builtin .float4 =>
    (fun n => .float (Double.ofSingle (UInt32.ofNat n))) <$> decodeUnsigned 4 raw
  | .builtin .float8 => (fun n => .float ⟨UInt64.ofNat n⟩) <$> decodeUnsigned 8 raw
  | .builtin .numeric => (fun n => .text n.text) <$> Numeric.decode raw
  | .builtin .text | .builtin .varchar | .builtin .bpchar | .builtin .name | .builtin .unknown
  | .builtin .xml => decodeText raw
  | .builtin .bytea => .ok (.bytes raw)
  | .builtin .timestamp | .builtin .timestamptz => decodeTimestamp raw
  | .builtin .date => decodeDate raw
  | .builtin .time => decodeTime raw
  | .builtin .uuid => decodeUuid raw
  | .builtin .json => decodeJson raw
  | .builtin .jsonb => decodeJsonb raw
  | .builtin .timetz => (fun t => .text t.text) <$> ZonedTime.decode raw
  | .builtin .interval => (fun i => .text i.text) <$> Interval.decode raw
  | .builtin .inet | .builtin .cidr => (fun a => .text a.text) <$> Address.decode raw
  | .builtin .char => decodeChar raw
  | ty => if sendsText ty then decodeText raw else .error (.undecodable ty.text)

/-- An element of an array, which may be null. -/
def nullable (read : Bytes → Except Fault Value) : Option Bytes → Except Fault Value
  | none => .ok .null
  | some raw => read raw

/-- **The value of bytes** of a type. -/
def decode : WireType → Bytes → Except Fault Value
  | .array _ element, raw => .list <$> ArrayFormat.decode (nullable (decode element)) raw
  | .domain _ base, raw => decode base raw
  | .builtin b, raw =>
    match b.element? with
    | some element =>
      .list <$> ArrayFormat.decode (nullable (decodeScalar (.builtin element))) raw
    | none => decodeScalar (.builtin b) raw
  | .simple d, raw => decodeScalar (.simple d) raw
  | .enum d labels, raw => decodeScalar (.enum d labels) raw

/-- **The value of a cell**, which is null if it has no bytes. -/
def decodeCell (ty : WireType) (cell : Option Bytes) : Except Fault Value :=
  nullable (decode ty) cell

end PgStatement.Wire

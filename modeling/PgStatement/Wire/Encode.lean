import PgStatement.Bytes.Utf8
import PgStatement.Value.Literal
import PgStatement.Wire.Array
import PgStatement.Wire.Numeric
import PgStatement.Wire.Type

/-!
# Writing values

A value is written in the format of the type that the server inferred for its parameter: an integer
in as many bytes as the type has, a text as an identifier, a document or a decimal number where the
type asks for one. Domains are written as their base type, and arrays element by element. Nothing is
written for null, whatever the type.

Everything else is refused: a value never changes its meaning to fit a type.
-/

namespace PgStatement.Wire

-- powers are those of the core library, whatever else is imported further on
attribute [local instance (high)] instPowNat

/-- The fault of a kind of value that is not written as the type. -/
def mismatch (kind : String) (ty : WireType) : Fault := .mismatch kind ty.text

/-- A signed integer in so many bytes, if it fits. -/
def encodeSigned (width : Nat) (i : Int) : Except Fault Bytes :=
  if -(256 ^ width : Nat) ≤ 2 * i ∧ 2 * i < (256 ^ width : Nat) then .ok (BigEndian.ofInt width i)
  else .error .integerRange

/-- An unsigned integer in so many bytes, if it fits. -/
def encodeUnsigned (width : Nat) (i : Int) : Except Fault Bytes :=
  if 0 ≤ i ∧ i < (256 ^ width : Nat) then .ok (BigEndian.ofNat width i.toNat)
  else .error .integerRange

/-- A decimal number, from its text. -/
def encodeNumeric (s : String) : Except Fault Bytes := do (← Numeric.ofText s).encode

/-- An integer. -/
def encodeInt (i : Int) : WireType → Except Fault Bytes
  | .builtin .int2 => encodeSigned 2 i
  | .builtin .int4 => encodeSigned 4 i
  | .builtin .int8 => encodeSigned 8 i
  | .builtin .oid => encodeUnsigned 4 i
  | .builtin .float4 => .ok (BigEndian.ofNat 4 (Double.singleOfInt i).toNat)
  | .builtin .float8 => .ok (BigEndian.ofNat 8 (Double.ofInt i).bits.toNat)
  | .builtin .numeric => encodeNumeric (Text.signedDecimal i)
  | ty => .error (mismatch "i64" ty)

/-- A floating-point number. -/
def encodeFloat (d : Double) : WireType → Except Fault Bytes
  | .builtin .float4 => .ok (BigEndian.ofNat 4 d.toSingle.toNat)
  | .builtin .float8 => .ok (BigEndian.ofNat 8 d.bits.toNat)
  | .builtin .numeric =>
    if d.isFinite then encodeNumeric (d.text Layout.literal)
    else .error (.notFinite (d.text Layout.literal))
  | ty => .error (mismatch "f64" ty)

/-- A document: its text, behind the version of the format in the binary type. -/
def encodeJson (document : Json) : WireType → Except Fault Bytes
  | .builtin .json => .ok (Utf8.encode document.text)
  | .builtin .jsonb => .ok (1 :: Utf8.encode document.text)
  | ty => .error (mismatch "serde_json::value::Value" ty)

/-- The types of extensions that hold plain text, by name. -/
def isPlainTextName (name : String) : Bool := name == "citext"

/-- The types of extensions whose text stands behind a version, by name. -/
def isVersionedTextName (name : String) : Bool :=
  name == "ltree" || name == "lquery" || name == "ltxtquery"

/-- A text as a type that holds texts. -/
def encodePlainText (s : String) (ty : WireType) : Except Fault Bytes :=
  match ty with
  | .builtin .varchar | .builtin .text | .builtin .bpchar | .builtin .name | .builtin .unknown =>
    .ok (Utf8.encode s)
  | ty =>
    if isPlainTextName ty.name then .ok (Utf8.encode s)
    else if isVersionedTextName ty.name then .ok (1 :: Utf8.encode s)
    else .error (mismatch "&str" ty)

/-- A text: as what the type asks for, or as it is. -/
def encodeText (s : String) (ty : WireType) : Except Fault Bytes :=
  match ty with
  | .builtin .uuid =>
    match Uuid.ofText? s with
    | some u => .ok u.bytes
    | none => .error .uuidSyntax
  | .builtin .json | .builtin .jsonb =>
    match Json.ofText? s with
    | some document => encodeJson document ty
    | none => .error .jsonSyntax
  | .builtin .numeric => encodeNumeric s
  | .enum _ _ => .ok (Utf8.encode s)
  | ty => encodePlainText s ty

/-- A string of bytes. -/
def encodeBytes (bytes : Bytes) : WireType → Except Fault Bytes
  | .builtin .bytea => .ok bytes
  | ty => .error (mismatch "&[u8]" ty)

/-- A date, in days since 1 January 2000. -/
def encodeDate (d : Date) : WireType → Except Fault Bytes
  | .builtin .date => .ok (BigEndian.ofInt 4 (d.day - Date.wireEpoch))
  | ty => .error (mismatch "chrono::naive::date::NaiveDate" ty)

/-- A moment, or its date. -/
def encodeTimestamp (t : Timestamp) : WireType → Except Fault Bytes
  | .builtin .timestamp | .builtin .timestamptz => .ok (BigEndian.ofInt 8 t.microseconds)
  | .builtin .date => encodeDate t.date (.builtin .date)
  | ty => .error (mismatch "chrono::datetime::DateTime<chrono::offset::utc::Utc>" ty)

/-- An identifier, or its text. -/
def encodeUuid (u : Uuid) : WireType → Except Fault Bytes
  | .builtin .uuid => .ok u.bytes
  | ty => encodeText u.text ty

/-- A truth value. -/
def encodeBool (b : Bool) : WireType → Except Fault Bytes
  | .builtin .bool => .ok [if b then 1 else 0]
  | ty => .error (mismatch "bool" ty)

/-- The lower bound of arrays of a type: one, except for the two vector types. -/
def lowerBound : WireType → Int
  | .builtin .int2vector | .builtin .oidvector => 0
  | _ => 1

mutual

/-- **The bytes of a value** as the type; none for null. -/
def encode : Value → WireType → Except Fault (Option Bytes)
  | .null, _ => .ok none
  | .bool b, ty => some <$> encodeBool b ty.base
  | .int i, ty => some <$> encodeInt i.toInt ty.base
  | .float d, ty => some <$> encodeFloat d ty.base
  | .text s, ty => some <$> encodeText s ty.base
  | .bytes raw, ty => some <$> encodeBytes raw ty.base
  | .timestamp t, ty => some <$> encodeTimestamp t ty.base
  | .date d, ty => some <$> encodeDate d ty.base
  | .uuid u, ty => some <$> encodeUuid u ty.base
  | .json document, ty => some <$> encodeJson document ty.base
  | .list items, ty =>
    match ty.base.element? with
    | none => .error (mismatch "&[pgchain::value::Value]" ty.base)
    | some element => do
      -- the count is looked at before any item is written
      if maxLength < items.length then throw .tooLarge
      let elements ← encodeItems items element
      return some (ArrayFormat.encode (lowerBound ty.base) element.oid elements)

/-- The bytes of the items of an array. -/
def encodeItems : List Value → WireType → Except Fault (List (Option Bytes))
  | [], _ => .ok []
  | item :: items, ty => do
    let bytes ← encode item ty
    if maxLength < (bytes.getD []).length then throw .tooLarge
    return bytes :: (← encodeItems items ty)

end

end PgStatement.Wire

/-!
# Types of columns and parameters

A `WireType` is what the server says a column or a parameter is. Builtin types have a fixed name and
number; all others are declared in a database and bring theirs along: enumerations with their
labels, domains over a base type, arrays of an element type, and types about which nothing more is
known.

A type is written as its name, behind its schema if that is neither `public` nor `pg_catalog`. Two
types are not the same because they share a name or a number: a declared type is never a builtin
one.
-/

namespace PgStatement.Wire

/-- The types that every server has. -/
inductive Builtin where
  | bool | bytea | char | name | int8 | int2 | int2vector | int4 | text | oid
  | oidvector | json | xml | cidr | float4 | float8 | unknown | money | inet
  | bpchar | varchar | date | time | timestamp | timestamptz | interval | timetz
  | numeric | uuid | jsonb
  | moneyArray | boolArray | byteaArray | int2Array | int4Array | textArray | int8Array
  | float4Array | float8Array | inetArray | dateArray | timestamptzArray
  | intervalArray | numericArray | uuidArray | jsonbArray
  /-- Any other type that is no array. Of these only the name and the number matter. -/
  | other (title : String) (number : Nat)
  deriving DecidableEq

namespace Builtin

/-- The name of the type. -/
def typeName : Builtin → String
  | .bool => "bool"
  | .bytea => "bytea"
  | .char => "char"
  | .name => "name"
  | .int8 => "int8"
  | .int2 => "int2"
  | .int2vector => "int2vector"
  | .int4 => "int4"
  | .text => "text"
  | .oid => "oid"
  | .oidvector => "oidvector"
  | .json => "json"
  | .xml => "xml"
  | .cidr => "cidr"
  | .float4 => "float4"
  | .float8 => "float8"
  | .unknown => "unknown"
  | .money => "money"
  | .inet => "inet"
  | .bpchar => "bpchar"
  | .varchar => "varchar"
  | .date => "date"
  | .time => "time"
  | .timestamp => "timestamp"
  | .timestamptz => "timestamptz"
  | .interval => "interval"
  | .timetz => "timetz"
  | .numeric => "numeric"
  | .uuid => "uuid"
  | .jsonb => "jsonb"
  | .moneyArray => "_money"
  | .boolArray => "_bool"
  | .byteaArray => "_bytea"
  | .int2Array => "_int2"
  | .int4Array => "_int4"
  | .textArray => "_text"
  | .int8Array => "_int8"
  | .float4Array => "_float4"
  | .float8Array => "_float8"
  | .inetArray => "_inet"
  | .dateArray => "_date"
  | .timestamptzArray => "_timestamptz"
  | .intervalArray => "_interval"
  | .numericArray => "_numeric"
  | .uuidArray => "_uuid"
  | .jsonbArray => "_jsonb"
  | .other title _ => title

/-- The number of the type. -/
def typeOid : Builtin → Nat
  | .bool => 16
  | .bytea => 17
  | .char => 18
  | .name => 19
  | .int8 => 20
  | .int2 => 21
  | .int2vector => 22
  | .int4 => 23
  | .text => 25
  | .oid => 26
  | .oidvector => 30
  | .json => 114
  | .xml => 142
  | .cidr => 650
  | .float4 => 700
  | .float8 => 701
  | .unknown => 705
  | .money => 790
  | .inet => 869
  | .bpchar => 1042
  | .varchar => 1043
  | .date => 1082
  | .time => 1083
  | .timestamp => 1114
  | .timestamptz => 1184
  | .interval => 1186
  | .timetz => 1266
  | .numeric => 1700
  | .uuid => 2950
  | .jsonb => 3802
  | .moneyArray => 791
  | .boolArray => 1000
  | .byteaArray => 1001
  | .int2Array => 1005
  | .int4Array => 1007
  | .textArray => 1009
  | .int8Array => 1016
  | .float4Array => 1021
  | .float8Array => 1022
  | .inetArray => 1041
  | .dateArray => 1182
  | .timestamptzArray => 1185
  | .intervalArray => 1187
  | .numericArray => 1231
  | .uuidArray => 2951
  | .jsonbArray => 3807
  | .other _ number => number

/-- The type of the elements, of an array type. -/
def element? : Builtin → Option Builtin
  | .int2vector => some .int2
  | .oidvector => some .oid
  | .moneyArray => some .money
  | .boolArray => some .bool
  | .byteaArray => some .bytea
  | .int2Array => some .int2
  | .int4Array => some .int4
  | .textArray => some .text
  | .int8Array => some .int8
  | .float4Array => some .float4
  | .float8Array => some .float8
  | .inetArray => some .inet
  | .dateArray => some .date
  | .timestamptzArray => some .timestamptz
  | .intervalArray => some .interval
  | .numericArray => some .numeric
  | .uuidArray => some .uuid
  | .jsonbArray => some .jsonb
  | _ => none

/-- The builtin types that are known by name. -/
def all : List Builtin := [
    .bool, .bytea, .char, .name, .int8, .int2, .int2vector, .int4, .text, .oid, .oidvector,
    .json, .xml, .cidr, .float4, .float8, .unknown, .money, .inet, .bpchar, .varchar, .date,
    .time, .timestamp, .timestamptz, .interval, .timetz, .numeric, .uuid, .jsonb, .moneyArray,
    .boolArray, .byteaArray, .int2Array, .int4Array, .textArray, .int8Array, .float4Array,
    .float8Array, .inetArray, .dateArray, .timestamptzArray, .intervalArray, .numericArray,
    .uuidArray, .jsonbArray, .other "xid" 28, .other "point" 600, .other "box" 603,
    .other "macaddr" 829, .other "bit" 1560, .other "varbit" 1562, .other "regclass" 2205,
    .other "record" 2249, .other "void" 2278, .other "pg_lsn" 3220, .other "tsvector" 3614,
    .other "int4range" 3904, .other "jsonpath" 4072]

/-- The builtin type of a name. -/
def ofName? (name : String) : Option Builtin := all.find? (·.typeName == name)

/-- The elements of an array are not arrays themselves. -/
theorem element?_of_element? {b e : Builtin} (h : b.element? = some e) : e.element? = none := by
  cases b <;> simp only [element?, Option.some.injEq, reduceCtorEq] at h <;> subst h <;> rfl

end Builtin

/-- What a declared type is known by. -/
structure Declaration where
  /-- The name of the type. -/
  name : String
  /-- The schema it is declared in. -/
  schema : String
  /-- The number of the type. -/
  oid : Nat
  deriving DecidableEq

/-- **The type of a column or parameter.** -/
inductive WireType where
  /-- A builtin type. -/
  | builtin (b : Builtin)
  /-- A declared type about which nothing more is known. -/
  | simple (declaration : Declaration)
  /-- An enumeration. -/
  | enum (declaration : Declaration) (labels : List String)
  /-- A domain over a base type. -/
  | domain (declaration : Declaration) (base : WireType)
  /-- An array of an element type. -/
  | array (declaration : Declaration) (element : WireType)
  deriving DecidableEq

namespace WireType

/-- The declaration of a type; that of a builtin type is in the catalogue of the server. -/
def declaration : WireType → Declaration
  | .builtin b => ⟨b.typeName, "pg_catalog", b.typeOid⟩
  | .simple d => d
  | .enum d _ => d
  | .domain d _ => d
  | .array d _ => d

/-- The name of the type. -/
def name (ty : WireType) : String := ty.declaration.name

/-- The number of the type. -/
def oid (ty : WireType) : Nat := ty.declaration.oid

/-- **The type as messages name it.** -/
def text (ty : WireType) : String :=
  let d := ty.declaration
  if d.schema == "public" || d.schema == "pg_catalog" then d.name else d.schema ++ "." ++ d.name

/-- The type under all domains. -/
def base : WireType → WireType
  | .domain _ base => base.base
  | ty => ty

/-- The type of the elements, of an array type. -/
def element? : WireType → Option WireType
  | .builtin b => b.element?.map .builtin
  | .array _ element => some element
  | _ => none

/-- Whether the type is an enumeration. -/
def isEnum : WireType → Bool
  | .enum _ _ => true
  | _ => false

end WireType

end PgStatement.Wire

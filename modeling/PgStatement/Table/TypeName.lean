import PgStatement.Text.Digits

/-!
# Names of column types

The types that a column can be declared with, as SQL spells them, and those that take a length or a
precision.
-/

namespace PgStatement.TypeName

/-- Two bytes. -/
def smallint : String := "SMALLINT"
/-- Four bytes. -/
def integer : String := "INTEGER"
/-- Eight bytes. -/
def bigint : String := "BIGINT"
/-- Two bytes, counted up by the server. -/
def smallserial : String := "SMALLSERIAL"
/-- Four bytes, counted up by the server. -/
def serial : String := "SERIAL"
/-- Eight bytes, counted up by the server. -/
def bigserial : String := "BIGSERIAL"
/-- Exact decimal numbers. -/
def decimal : String := "DECIMAL"
/-- Exact decimal numbers. -/
def numeric : String := "NUMERIC"
/-- Floating-point numbers of thirty-two bits. -/
def real : String := "REAL"
/-- Floating-point numbers of sixty-four bits. -/
def doublePrecision : String := "DOUBLE PRECISION"
/-- Texts of a fixed length. -/
def char : String := "CHAR"
/-- Texts up to a length. -/
def varchar : String := "VARCHAR"
/-- Texts. -/
def text : String := "TEXT"
/-- Strings of bytes. -/
def bytea : String := "BYTEA"
/-- Moments without a zone. -/
def timestamp : String := "TIMESTAMP"
/-- Moments. -/
def timestamptz : String := "TIMESTAMPTZ"
/-- Dates. -/
def date : String := "DATE"
/-- Times of day. -/
def time : String := "TIME"
/-- Times of day with a zone. -/
def timetz : String := "TIMETZ"
/-- Intervals. -/
def interval : String := "INTERVAL"
/-- Truth values. -/
def boolean : String := "BOOLEAN"
/-- Universally unique identifiers. -/
def uuid : String := "UUID"
/-- JSON texts. -/
def json : String := "JSON"
/-- JSON documents. -/
def jsonb : String := "JSONB"

/-- All of them: numbers, texts, times, and the others. -/
def all : List String :=
  [smallint, integer, bigint, smallserial, serial, bigserial, decimal, numeric, real,
    doublePrecision, char, varchar, text, bytea, timestamp, timestamptz, date, time, timetz,
    interval, boolean, uuid, json, jsonb]

/-- Arrays of a type. -/
def array (base : String) : String := base ++ "[]"

/-- A type with parameters. -/
def withParameters (name : String) (parameters : List Nat) : String :=
  name ++ "(" ++ ", ".intercalate (parameters.map Text.decimal) ++ ")"

/-- Texts up to a length. -/
def varcharOf (length : UInt32) : String := withParameters varchar [length.toNat]

/-- Texts of a length. -/
def charOf (length : UInt32) : String := withParameters char [length.toNat]

/-- Decimal numbers with so many digits, so many of them after the point. -/
def decimalOf (precision scale : UInt32) : String :=
  withParameters decimal [precision.toNat, scale.toNat]

/-- Decimal numbers with so many digits, so many of them after the point. -/
def numericOf (precision scale : UInt32) : String :=
  withParameters numeric [precision.toNat, scale.toNat]

end PgStatement.TypeName

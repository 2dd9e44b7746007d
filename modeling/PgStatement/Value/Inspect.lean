import PgStatement.Value.Basic

/-!
# Inspected values

Messages and log fields show a value with its kind: `Int(1)`, `Text("a")`, `List([Null])`. The form
is meant for readers, and is no SQL.
-/

namespace PgStatement.Value

mutual

/-- **The value with its kind**, as messages show it. -/
def inspect : Value → String
  | .null => "Null"
  | .bool b => "Bool(" ++ (if b then "true" else "false") ++ ")"
  | .int i => "Int(" ++ Text.signedDecimal i.toInt ++ ")"
  | .float d => "Float(" ++ d.text Layout.inspect ++ ")"
  | .text s => "Text(" ++ Text.quoted s ++ ")"
  | .bytes raw =>
    "Bytes([" ++ ", ".intercalate (raw.map fun b => Text.decimal b.toNat) ++ "])"
  | .timestamp t => "Timestamp(" ++ t.inspect ++ ")"
  | .date d => "Date(" ++ d.text ++ ")"
  | .uuid u => "Uuid(" ++ u.text ++ ")"
  | .json document => "Json(" ++ document.inspect ++ ")"
  | .list items => "List([" ++ ", ".intercalate (inspectItems items) ++ "])"

/-- The inspected items of an array. -/
def inspectItems : List Value → List String
  | [] => []
  | item :: items => inspect item :: inspectItems items

end

/-- A sequence of values, as messages show it. -/
def inspectList (values : List Value) : String :=
  "[" ++ ", ".intercalate (inspectItems values) ++ "]"

end PgStatement.Value

import PgStatement.Value.Basic

/-!
# Values as JSON

The JSON form of a value, for programs that pass rows on. Texts, moments, dates and identifiers are
strings, bytes an array of numbers, and documents are written in place. A floating-point number that
is not finite is null.

The form is given as text and not as a document, because members keep the order of the record that
they come from (`Record.jsonText`).
-/

namespace PgStatement.Value

mutual

/-- **The value as compact JSON text.** -/
def jsonText : Value → String
  | .null => "null"
  | .bool true => "true"
  | .bool false => "false"
  | .int i => Text.signedDecimal i.toInt
  | .float d => d.text Layout.json
  | .text s => Json.stringText s
  | .bytes raw => "[" ++ ",".intercalate (raw.map fun b => Text.decimal b.toNat) ++ "]"
  | .timestamp t => Json.stringText t.text
  | .date d => Json.stringText d.text
  | .uuid u => Json.stringText u.text
  | .json document => document.text
  | .list items => "[" ++ ",".intercalate (jsonTexts items) ++ "]"

/-- The JSON texts of the items of an array. -/
def jsonTexts : List Value → List String
  | [] => []
  | item :: items => jsonText item :: jsonTexts items

end

end PgStatement.Value

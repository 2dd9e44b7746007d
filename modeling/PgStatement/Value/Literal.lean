import PgStatement.Value.Basic

/-!
# SQL literals

Definitions of tables have no placeholders, so a default value is written into the statement. A
literal is a keyword, a number, a quoted string or an array of literals. In a quoted string the
quote is written twice and nothing else is changed, as standard conforming strings have it.

`Value.defaultSql` has one exception: a text that ends in `()` is taken for a function call and is
written as it is.
-/

namespace PgStatement

namespace Quote

/-- Characters with every quote written twice. -/
def double : List Char → List Char
  | [] => []
  | c :: rest => if c = '\'' then '\'' :: '\'' :: double rest else c :: double rest

/-- A text as a quoted string of SQL. -/
def literal (s : String) : String := String.ofList ('\'' :: double s.toList ++ ['\''])

/-- A quote is written twice and all else once. -/
theorem count_double (x : Char) (cs : List Char) :
    (double cs).count x = (if x = '\'' then 2 else 1) * cs.count x := by
  induction cs with
  | nil => simp [double]
  | cons c cs ih =>
    by_cases hc : c = '\'' <;> by_cases hx : x = c <;> grind [double]

end Quote

namespace Value

mutual

/-- **The value as an SQL literal.** -/
def literal : Value → String
  | .null => "NULL"
  | .bool true => "TRUE"
  | .bool false => "FALSE"
  | .int i => Text.signedDecimal i.toInt
  | .float d => d.text Layout.literal
  | .text s => Quote.literal s
  | .bytes raw => Quote.literal ("\\x" ++ Text.hex raw)
  | .timestamp t => Quote.literal t.text
  | .date d => Quote.literal d.text
  | .uuid u => Quote.literal u.text
  | .json document => Quote.literal document.text
  | .list items => "ARRAY[" ++ ", ".intercalate (literals items) ++ "]"

/-- The literals of the items of an array. -/
def literals : List Value → List String
  | [] => []
  | item :: items => literal item :: literals items

end

theorem literals_eq_map (items : List Value) : literals items = items.map literal := by
  induction items with
  | nil => rfl
  | cons item items ih => simp [literals, ih]

/-- Whether a text ends in a pair of empty parentheses. -/
def endsInCall (s : String) : Bool := ['(', ')'].isSuffixOf s.toList

/-- **The value as the default of a column**: its literal, or the text itself if it ends like a
function call. -/
def defaultSql : Value → String
  | .text s => if endsInCall s then s else literal (.text s)
  | v => literal v

end Value

end PgStatement

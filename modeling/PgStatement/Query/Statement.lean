import PgStatement.ParamList

/-!
# Statements

A finished statement is its text and the values of its placeholders, with the table it is about,
which reports of failures name.
-/

namespace PgStatement

/-- **A statement that can be sent.** -/
structure Statement where
  /-- The table it is about. -/
  table : String
  /-- The text. -/
  sql : String
  /-- The values of the placeholders, in order. -/
  params : ParamList

namespace Statement

/-- A statement without values. -/
def ofText (table sql : String) : Statement := ⟨table, sql, .empty⟩

/-- **The statement that is written**, from the first placeholder on; its parameters are the values
that were bound on the way. -/
def written (table : String) (sql : Writing String) : Except Error Statement :=
  match sql .empty with
  | (.ok sql, params) => .ok ⟨table, sql, params⟩
  | (.error e, _) => .error e

/-- A clause behind a space; nothing if there is none. -/
def clause : Option String → String
  | none => ""
  | some text => " " ++ text

end Statement

end PgStatement

import PgStatement.Condition.Comparison
import PgStatement.Query.Statement

/-!
# DELETE

A deletion removes the rows that its conditions name. Without a condition nothing is built, since
the statement would remove every row.
-/

namespace PgStatement

/-- **A deletion being put together.** -/
structure Delete where
  /-- The table. -/
  table? : Option String
  /-- The conditions. -/
  conditions : List Condition

namespace Delete

/-- The deletion from no table yet. -/
def start : Delete := ⟨none, []⟩

/-! ## Calls -/

/-- Deletes from a table; the last one counts. -/
def fromTable (q : Delete) (table : String) : Delete := { q with table? := some table }

/-- Adds a condition. -/
def condition (q : Delete) (c : Condition) : Delete := { q with conditions := q.conditions ++ [c] }

/-- A call on a deletion. -/
inductive Call where
  | fromTable (table : String)
  | condition (c : Condition)

/-- The call that adds what is said of a field. -/
def Call.filter (connector : Connector) (field : String) (c : Comparison) : Call :=
  .condition (c.toCondition connector field)

/-- The deletion after a call. -/
def apply (q : Delete) : Call → Delete
  | .fromTable table => q.fromTable table
  | .condition c => q.condition c

/-- The deletion after a chain of calls. -/
def run (q : Delete) (calls : List Call) : Delete := calls.foldl apply q

/-! ## The statement -/

/-- The error of a deletion from no table. -/
def missingTable : Error := .configuration "Table name is required. Use from()"

/-- The error of a deletion without a condition. -/
def unfiltered (table : String) : Error :=
  .unsafeOperation ("DELETE on '" ++ table ++ "' without WHERE would remove every row")

/-- Writes the deletion from a table. -/
def write (q : Delete) (table : String) : Writing String := do
  let conditions ← Where.render q.conditions
  return "DELETE FROM " ++ table ++ Statement.clause conditions

/-- **The statement of a deletion.** -/
def build (q : Delete) : Except Error Statement := do
  let some table := q.table? | throw missingTable
  Identifier.check "table" table
  if q.conditions.isEmpty then throw (unfiltered table)
  Statement.written table (q.write table)

end Delete

end PgStatement

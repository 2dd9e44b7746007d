import PgStatement.Condition.Comparison
import PgStatement.Query.Statement
import PgStatement.Record

/-!
# UPDATE

An update assigns values to columns of the rows that its conditions name. A column is assigned once:
a later value replaces an earlier one in its place. Without a condition nothing is built, since the
statement would change every row.
-/

namespace PgStatement

/-- **An update being put together.** -/
structure Update where
  /-- The table. -/
  table : String
  /-- What is assigned. -/
  assignments : Record
  /-- The conditions. -/
  conditions : List Condition

namespace Update

/-- The update of a table that assigns nothing yet. -/
def ofTable (table : String) : Update := ⟨table, .empty, []⟩

/-! ## Calls -/

/-- Assigns the fields of a record. -/
def set (q : Update) (values : Record) : Update :=
  { q with assignments := q.assignments.insertAll values.toList }

/-- Assigns a value to a column. -/
def setValue (q : Update) (column : String) (v : Value) : Update :=
  { q with assignments := q.assignments.insert column v }

/-- Adds a condition. -/
def condition (q : Update) (c : Condition) : Update := { q with conditions := q.conditions ++ [c] }

/-- A call on an update. -/
inductive Call where
  | set (values : Record)
  | setValue (column : String) (v : Value)
  | condition (c : Condition)

/-- The call that adds what is said of a field. -/
def Call.filter (connector : Connector) (field : String) (c : Comparison) : Call :=
  .condition (c.toCondition connector field)

/-- The update after a call. -/
def apply (q : Update) : Call → Update
  | .set values => q.set values
  | .setValue column v => q.setValue column v
  | .condition c => q.condition c

/-- The update after a chain of calls. -/
def run (q : Update) (calls : List Call) : Update := calls.foldl apply q

/-! ## The statement -/

/-- The error of an update that assigns nothing. -/
def missingValues : Error := .configuration "SET values are required. Use set()"

/-- The error of an update without a condition. -/
def unfiltered (table : String) : Error :=
  .unsafeOperation ("UPDATE on '" ++ table ++ "' without WHERE would modify every row")

/-- Writes an assignment, if its column is an identifier. -/
def assignment (entry : String × Value) : Writing String := do
  Identifier.check "column" entry.1
  return entry.1 ++ " = " ++ (← Writing.value entry.2)

/-- Writes the update: assignments, conditions, and that the rows as changed are returned. -/
def write (q : Update) : Writing String := do
  let assignments ← q.assignments.toList.mapM assignment
  let conditions ← Where.render q.conditions
  return "UPDATE " ++ q.table ++ " SET " ++ ", ".intercalate assignments
    ++ Statement.clause conditions ++ " RETURNING *"

/-- **The statement of an update.** -/
def build (q : Update) : Except Error Statement := do
  Identifier.check "table" q.table
  if q.assignments.isEmpty then throw missingValues
  if q.conditions.isEmpty then throw (unfiltered q.table)
  Statement.written q.table q.write

end Update

end PgStatement

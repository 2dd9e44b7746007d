import PgStatement.Condition.Comparison
import PgStatement.Query.OrderBy
import PgStatement.Query.Pagination
import PgStatement.Query.SelectField
import PgStatement.Query.Statement

/-!
# SELECT

A selection is put together call by call; the calls of different clauses may come in any order. Two
kinds of calls are looked at at once – fields, and directions of sorting – and the first error of
these is kept and reported when the statement is built, whatever else was called. All other errors
are found in the order of the clauses.
-/

namespace PgStatement

/-- **A selection being put together.** -/
structure Select where
  /-- What is selected; everything, if there is nothing. -/
  fields : List SelectField
  /-- Whether equal rows are taken once. -/
  isDistinct : Bool
  /-- The table. -/
  table? : Option String
  /-- The conditions. -/
  conditions : List Condition
  /-- What rows are grouped by. -/
  groups : List String
  /-- What rows are sorted by. -/
  ordering : OrderBy
  /-- Which rows are taken. -/
  pagination : Pagination
  /-- The first error of a call. -/
  callError? : Option Error

namespace Select

/-- The selection of everything, of no table yet. -/
def all : Select := ⟨[], false, none, [], [], .empty, .all, none⟩

/-! ## Calls -/

/-- Keeps an error, unless there is one already. -/
def noteError (q : Select) (e : Error) : Select := { q with callError? := q.callError? <|> some e }

/-- Adds a field. -/
def field (q : Select) (f : SelectField) : Select :=
  let q := { q with fields := q.fields ++ [f] }
  match f.check with
  | .ok () => q
  | .error e => q.noteError e

/-- The selection of some fields, of no table yet. -/
def ofFields (fields : List SelectField) : Select := fields.foldl field all

/-- Takes equal rows once. -/
def distinct (q : Select) : Select := { q with isDistinct := true }

/-- Selects from a table; the last one counts. -/
def fromTable (q : Select) (table : String) : Select := { q with table? := some table }

/-- Adds a condition. -/
def condition (q : Select) (c : Condition) : Select :=
  { q with conditions := q.conditions ++ [c] }

/-- Adds columns to group by. -/
def groupBy (q : Select) (columns : List String) : Select :=
  { q with groups := q.groups ++ columns }

/-- Makes a field the current one to sort by. -/
def orderBy (q : Select) (field : String) : Select :=
  { q with ordering := q.ordering.select field }

/-- Gives the current field to sort by a direction. -/
def direction (q : Select) (d : Direction) : Select :=
  match q.ordering.setDirection d with
  | .ok ordering => { q with ordering := ordering }
  | .error e => q.noteError e

/-- Sorts by a field in descending direction. -/
def orderByDesc (q : Select) (field : String) : Select := (q.orderBy field).direction .desc

/-- Takes so many rows at most; the last amount counts. -/
def limit (q : Select) (amount : UInt64) : Select :=
  { q with pagination := { q.pagination with limit := some amount } }

/-- Skips so many rows; the last amount counts. -/
def offset (q : Select) (amount : UInt64) : Select :=
  { q with pagination := { q.pagination with offset := some amount } }

/-- A call on a selection. -/
inductive Call where
  | field (f : SelectField)
  | distinct
  | fromTable (table : String)
  | condition (c : Condition)
  | groupBy (columns : List String)
  | orderBy (field : String)
  | orderByDesc (field : String)
  | direction (d : Direction)
  | limit (amount : UInt64)
  | offset (amount : UInt64)

/-- The call that adds what is said of a field. -/
def Call.filter (connector : Connector) (field : String) (c : Comparison) : Call :=
  .condition (c.toCondition connector field)

/-- The selection after a call. -/
def apply (q : Select) : Call → Select
  | .field f => q.field f
  | .distinct => q.distinct
  | .fromTable table => q.fromTable table
  | .condition c => q.condition c
  | .groupBy columns => q.groupBy columns
  | .orderBy field => q.orderBy field
  | .orderByDesc field => q.orderByDesc field
  | .direction d => q.direction d
  | .limit amount => q.limit amount
  | .offset amount => q.offset amount

/-- The selection after a chain of calls. -/
def run (q : Select) (calls : List Call) : Select := calls.foldl apply q

/-! ## The statement -/

/-- The error of a selection of no table. -/
def missingTable : Error := .configuration "Table name is required. Use from()"

/-- The table, if it is set and an identifier. -/
def checkedTable (q : Select) : Except Error String := do
  let some table := q.table? | throw missingTable
  Identifier.check "table" table
  return table

/-- What comes before the table. -/
def head (q : Select) : String :=
  let fields := if q.fields.isEmpty then "*" else ", ".intercalate (q.fields.map SelectField.sql)
  "SELECT " ++ (if q.isDistinct then "DISTINCT " else "") ++ fields ++ " FROM "

/-- What rows are grouped by, if anything. -/
def groupClause (q : Select) : Except Error (Option String) :=
  if q.groups.isEmpty then .ok none
  else do
    q.groups.forM (checkField "GROUP BY column")
    return some ("GROUP BY " ++ ", ".intercalate q.groups)

/-- Writes the selection from a table, clause by clause. -/
def write (q : Select) (table : String) : Writing String := do
  let conditions ← Where.render q.conditions
  let groups ← q.groupClause
  let ordering ← q.ordering.clause?
  let pages ← q.pagination.rendering
  return q.head ++ table ++ Statement.clause conditions ++ Statement.clause groups
    ++ Statement.clause ordering ++ String.join (pages.map fun page => Statement.clause (some page))

/-- **The statement of a selection.** -/
def build (q : Select) : Except Error Statement := do
  if let some e := q.callError? then throw e
  let table ← q.checkedTable
  Statement.written table (q.write table)

end Select

end PgStatement

import PgStatement.Query.Statement
import PgStatement.Record

/-!
# INSERT

One record or many are inserted in one statement. The columns are the fields of the first record,
and every record gives one value for each of them: null where it has no such field. Fields that the
first record does not have are left out; `Insert.warnings` names them, record by record.

What happens to rows that are there already is said by a conflict clause. Of the two actions only
one can be written so far.
-/

namespace PgStatement

/-- What is inserted. -/
inductive Rows where
  /-- Nothing yet. -/
  | none
  /-- One record. -/
  | single (record : Record)
  /-- Many records. -/
  | many (records : List Record)

/-- What happens to rows that are there already. -/
inductive ConflictAction where
  /-- They are skipped. -/
  | doNothing
  /-- They are changed. -/
  | doUpdate
  deriving DecidableEq

/-- What happens if a column holds a value that is there already. -/
structure Conflict where
  /-- The column. -/
  column : String
  /-- What happens. -/
  action : ConflictAction
  deriving DecidableEq

/-- **An insertion being put together.** -/
structure Insert where
  /-- The table. -/
  table? : Option String
  /-- What is inserted. -/
  rows : Rows
  /-- The conflict clause. -/
  conflict? : Option Conflict

/-- Fields of a record that are left out. -/
structure DroppedFields where
  /-- The table. -/
  table : String
  /-- The position of the record, from zero. -/
  index : Nat
  /-- The fields, in order. -/
  fields : List String
  deriving DecidableEq

namespace Insert

/-- The insertion of nothing, into no table yet. -/
def start : Insert := ⟨none, .none, none⟩

/-! ## Calls -/

/-- Inserts into a table; the last one counts. -/
def into (q : Insert) (table : String) : Insert := { q with table? := some table }

/-- Inserts one record, in place of what was to be inserted. -/
def values (q : Insert) (record : Record) : Insert := { q with rows := .single record }

/-- Inserts many records, in place of what was to be inserted. -/
def valuesMany (q : Insert) (records : List Record) : Insert := { q with rows := .many records }

/-- Says what happens on a conflict; the last word counts. -/
def onConflict (q : Insert) (column : String) (action : ConflictAction) : Insert :=
  { q with conflict? := some ⟨column, action⟩ }

/-- A call on an insertion. -/
inductive Call where
  | into (table : String)
  | values (record : Record)
  | valuesMany (records : List Record)
  | onConflict (column : String) (action : ConflictAction)

/-- The insertion after a call. -/
def apply (q : Insert) : Call → Insert
  | .into table => q.into table
  | .values record => q.values record
  | .valuesMany records => q.valuesMany records
  | .onConflict column action => q.onConflict column action

/-- The insertion after a chain of calls. -/
def run (q : Insert) (calls : List Call) : Insert := calls.foldl apply q

/-- Whether many records are inserted. -/
def isBulk (q : Insert) : Bool :=
  match q.rows with
  | .many _ => true
  | _ => false

/-! ## The statement -/

/-- The error of an insertion into no table. -/
def missingTable : Error := .configuration "Table name is required. Use into()"

/-- The table, if it is set and an identifier. -/
def checkedTable (q : Insert) : Except Error String := do
  let some table := q.table? | throw missingTable
  Identifier.check "table" table
  return table

/-- The values of a record for some columns, null where it has none. -/
def row (columns : List String) (record : Record) : List Value :=
  columns.map fun column => (record.get? column).getD .null

/-- The columns and, for each record, its values. -/
def grid : Rows → Except Error (List String × List (List Value))
  | .none => .error (.configuration "Values are required. Use values()")
  | .single record =>
    if record.isEmpty then .error (.invalidArgument "Insert record cannot be empty")
    else .ok (record.keys, [record.values])
  | .many [] => .error (.configuration "Values are required. Use values_many()")
  | .many (first :: rest) =>
    match (first :: rest).findIdx? Record.isEmpty with
    | some index =>
      .error (.invalidArgument
        ("Insert record at index " ++ Text.decimal index ++ " cannot be empty"))
    | none => .ok (first.keys, (first :: rest).map (row first.keys))

/-- Writes the values of a record in parentheses. -/
def group (values : List Value) : Writing String := do
  let placeholders ← values.mapM Writing.value
  return "(" ++ ", ".intercalate placeholders ++ ")"

/-- The conflict clause behind a space; nothing if there is none. -/
def conflictSql : Option Conflict → Except Error String
  | none => .ok ""
  | some conflict => do
    Identifier.check "conflict column" conflict.column
    match conflict.action with
    | .doNothing => return " ON CONFLICT (" ++ conflict.column ++ ") DO NOTHING"
    | .doUpdate =>
      throw (.notImplemented "ON CONFLICT DO UPDATE requires an explicit update column set")

/-- Writes the insertion into a table. The rows as inserted are returned. All values are bound
before the columns are looked at. -/
def write (q : Insert) (table : String) : Writing String := do
  let (columns, rows) ← grid q.rows
  let groups ← rows.mapM group
  liftM (columns.forM (Identifier.check "column"))
  let conflict ← conflictSql q.conflict?
  return "INSERT INTO " ++ table ++ " (" ++ ", ".intercalate columns ++ ") VALUES "
    ++ ", ".intercalate groups ++ conflict ++ " RETURNING *"

/-- **The statement of an insertion.** -/
def build (q : Insert) : Except Error Statement := do
  let table ← q.checkedTable
  Statement.written table (q.write table)

/-! ## Fields that are left out -/

/-- The fields of records that are not among some columns, from a position on. -/
def droppedFrom (table : String) (columns : List String) :
    (index : Nat) → List Record → List DroppedFields
  | _, [] => []
  | index, record :: rest =>
    let fields := record.keys.filter fun field => !columns.contains field
    let further := droppedFrom table columns (index + 1) rest
    if fields.isEmpty then further else ⟨table, index, fields⟩ :: further

/-- **What is left out** of an insertion of many records, if its rows get as far as being
written. -/
def warnings (q : Insert) : List DroppedFields :=
  match q.checkedTable, q.rows, grid q.rows with
  | .ok table, .many records, .ok (columns, _) => droppedFrom table columns 0 records
  | _, _, _ => []

end Insert

/-- **What an insertion returns**: the row of one record, which may have been skipped, or the rows
of many. -/
inductive Inserted where
  /-- The row of one record. -/
  | one (row : Option Record)
  /-- The rows of many records. -/
  | many (rows : List Record)

namespace Inserted

/-- The rows, however they were inserted. -/
def records : Inserted → List Record
  | .one row => row.toList
  | .many rows => rows

/-- The number of rows. -/
def size (i : Inserted) : Nat := i.records.length

/-- Whether there are no rows. -/
def isEmpty (i : Inserted) : Bool := i.records.isEmpty

/-- What an insertion returns, from the rows that came back. -/
def ofRows (bulk : Bool) (rows : List Record) : Inserted :=
  if bulk then .many rows else .one rows.head?

end Inserted

end PgStatement

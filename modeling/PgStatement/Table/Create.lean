import PgStatement.Table.Column

/-!
# CREATE TABLE

A table is created column by column. While a column is being defined, no other part of the table can
be given; the calls say so by their types: a `CreateTable.Call` leads from one `Phase` to another,
and a chain of calls is well formed by construction. Names of columns are looked at when the column
is begun, and a call that fails ends the chain. A column can also be handed over as a whole; it is
taken as it is, and of what it says only that it has a type is looked at, when the statement is
written.

Constraints of the table as a whole are looked at when the statement is written.
-/

namespace PgStatement

/-- A constraint of a table. -/
inductive TableConstraint where
  /-- The columns that identify a row. -/
  | primaryKey (columns : List String)
  /-- A column of another table that has every value of a column. -/
  | foreignKey (column table reference : String)
  /-- Columns whose values no two rows share. -/
  | unique (columns : List String)
  /-- A named expression that holds of every row. -/
  | check (name expression : String)
  deriving DecidableEq

namespace TableConstraint

/-- The columns of a constraint, if there are some and all are identifiers. -/
def columnList (kind : String) (columns : List String) : Except Error String := do
  if columns.isEmpty then
    throw (.invalidArgument (kind ++ " constraint needs at least one column"))
  columns.forM (Identifier.check "column")
  return ", ".intercalate columns

/-- **A constraint of a table, in SQL.** -/
def sql : TableConstraint → Except Error String
  | .primaryKey columns => do
    return "PRIMARY KEY (" ++ (← columnList "PRIMARY KEY" columns) ++ ")"
  | .foreignKey column table reference => do
    Identifier.check "foreign key column" column
    Identifier.check "referenced table" table
    Identifier.check "referenced column" reference
    return "FOREIGN KEY (" ++ column ++ ") REFERENCES " ++ table ++ "(" ++ reference ++ ")"
  | .unique columns => do return "UNIQUE (" ++ (← columnList "UNIQUE" columns) ++ ")"
  | .check name expression => do
    Identifier.check "constraint" name
    return "CONSTRAINT " ++ name ++ " CHECK (" ++ expression ++ ")"

end TableConstraint

/-- **A table being created.** -/
structure CreateTable where
  /-- The name. -/
  name : String
  /-- Whether it is no error that the table exists. -/
  ifNotExists : Bool
  /-- The finished columns. -/
  columns : List ColumnDefinition
  /-- The constraints of the table. -/
  constraints : List TableConstraint

namespace CreateTable

/-- The table without columns. -/
def named (name : String) : CreateTable := ⟨name, false, [], []⟩

/-- The error of a second column of one name. -/
def duplicateColumn (table column : String) : Error :=
  .invalidArgument ("Column '" ++ column ++ "' already defined on table '" ++ table ++ "'")

/-- **Begins a column**, if its name is an identifier and new. -/
def column (t : CreateTable) (name : String) : Except Error (PendingColumn CreateTable) := do
  Identifier.check "column" name
  if t.columns.any (·.name == name) then throw (duplicateColumn t.name name)
  return ⟨t, .named name⟩

/-- Adds a constraint of the table. -/
def constrain (t : CreateTable) (c : TableConstraint) : CreateTable :=
  { t with constraints := t.constraints ++ [c] }

/-- Adds a finished column. -/
def addColumn (t : CreateTable) (c : ColumnDefinition) : CreateTable :=
  { t with columns := t.columns ++ [c] }

/-- The error of a table without columns. -/
def noColumns : Error := .configuration "At least one column is required"

/-- **The statement that creates the table.** -/
def sql (t : CreateTable) : Except Error String := do
  Identifier.check "table" t.name
  if t.columns.isEmpty then throw noColumns
  let columns ← t.columns.mapM ColumnDefinition.sql
  let constraints ← t.constraints.mapM TableConstraint.sql
  return "CREATE TABLE " ++ (if t.ifNotExists then "IF NOT EXISTS " else "") ++ t.name
    ++ " (" ++ ", ".intercalate (columns ++ constraints) ++ ")"

/-- Finishes a column and adds it to its table. -/
def finishColumn (p : PendingColumn CreateTable) : Except Error CreateTable := do
  let (table, column) ← p.finish
  return table.addColumn column

/-! ## Chains of calls -/

/-- What is being defined. -/
inductive Phase where
  /-- The table. -/
  | table
  /-- A column of it. -/
  | column
  deriving DecidableEq

/-- What is known in a phase. -/
abbrev State : Phase → Type
  | .table => CreateTable
  | .column => PendingColumn CreateTable

/-- **A call**, by the phases before and after it. In a column, the calls that go on to the table or
to another column finish it first. -/
inductive Call : Phase → Phase → Type where
  /-- It is no error that the table exists. -/
  | ifNotExists : Call .table .table
  /-- Begins a column. -/
  | column (name : String) : Call .table .column
  /-- Adds a column that is handed over as a whole. -/
  | acceptColumn (c : ColumnDefinition) : Call .table .table
  /-- Adds a constraint of the table. -/
  | constraint (c : TableConstraint) : Call .table .table
  /-- Says something of the column. -/
  | define (call : ColumnCall) : Call .column .column
  /-- Finishes the column. -/
  | done : Call .column .table
  /-- Finishes the column and begins another. -/
  | nextColumn (name : String) : Call .column .column
  /-- Finishes the column and adds a constraint of the table. -/
  | thenConstraint (c : TableConstraint) : Call .column .table

/-- The state after a call. -/
def Call.apply : {before after : Phase} → Call before after → State before →
    Except Error (State after)
  | _, _, .ifNotExists, t => .ok { t with ifNotExists := true }
  | _, _, .column name, t => t.column name
  | _, _, .acceptColumn c, t => .ok (t.addColumn c)
  | _, _, .constraint c, t => .ok (t.constrain c)
  | _, _, .define call, p => .ok (p.apply call)
  | _, _, .done, p => finishColumn p
  | _, _, .nextColumn name, p => do (← finishColumn p).column name
  | _, _, .thenConstraint c, p => do return (← finishColumn p).constrain c

/-- A chain of calls. -/
inductive Chain : Phase → Phase → Type where
  /-- No call. -/
  | nil {phase : Phase} : Chain phase phase
  /-- Calls and one more. -/
  | snoc {first before after : Phase} (calls : Chain first before) (call : Call before after) :
    Chain first after

/-- The state after a chain of calls. -/
def Chain.run : {before after : Phase} → Chain before after → State before →
    Except Error (State after)
  | _, _, .nil, state => .ok state
  | _, _, .snoc calls call, state => do call.apply (← calls.run state)

/-- The table of a state; a column that is being defined is finished. -/
def finished : {phase : Phase} → State phase → Except Error CreateTable
  | .table, t => .ok t
  | .column, p => finishColumn p

end CreateTable

end PgStatement

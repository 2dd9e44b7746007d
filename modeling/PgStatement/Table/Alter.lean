import PgStatement.Table.Column

/-!
# ALTER TABLE

A table is altered by operations, each of which is a statement of its own. They are recorded in the
order of the calls and looked at when the statements are written. Operations on one column can be
given in a row: a `ColumnModification` holds the table and the name of the column until it is done.
As in the creation of tables, a call leads from one phase to another, and a new column can be handed
over as a whole.

Renaming the table does not change the name that later operations use.
-/

namespace PgStatement

/-- **An operation on a table.** -/
inductive AlterOperation where
  /-- Adds a column. -/
  | addColumn (column : ColumnDefinition)
  /-- Removes a column, and what depends on it if asked to. -/
  | dropColumn (name : String) (cascade : Bool)
  /-- Changes the type of a column. -/
  | setType (column sqlType : String)
  /-- Forbids null in a column. -/
  | setNotNull (column : String)
  /-- Allows null in a column. -/
  | dropNotNull (column : String)
  /-- Changes the default of a column. -/
  | setDefault (column : String) (v : Value)
  /-- Removes the default of a column. -/
  | dropDefault (column : String)
  /-- Renames a column. -/
  | renameColumn (name newName : String)
  /-- Renames the table. -/
  | renameTable (newName : String)
  /-- Adds a constraint. -/
  | addConstraint (name kind definition : String)
  /-- Removes a constraint, and what depends on it if asked to. -/
  | dropConstraint (name : String) (cascade : Bool)

/-- What asks for removing what depends on something. -/
def cascadeSql (cascade : Bool) : String := if cascade then " CASCADE" else ""

namespace AlterOperation

/-- The start of an operation on a column, if its name is an identifier. -/
def onColumn (column : String) : Except Error String := do
  Identifier.check "column" column
  return "ALTER COLUMN " ++ column

/-- **The operation in SQL**, after the name of the table. -/
def sql : AlterOperation → Except Error String
  | .addColumn column => do return "ADD COLUMN " ++ (← column.sql)
  | .dropColumn name cascade => do
    Identifier.check "column" name
    return "DROP COLUMN " ++ name ++ cascadeSql cascade
  | .setType column sqlType => do
    let start ← onColumn column
    if Text.isBlankText sqlType then
      throw (.invalidArgument ("New type for column '" ++ column ++ "' cannot be empty"))
    return start ++ " TYPE " ++ sqlType
  | .setNotNull column => do return (← onColumn column) ++ " SET NOT NULL"
  | .dropNotNull column => do return (← onColumn column) ++ " DROP NOT NULL"
  | .setDefault column v => do return (← onColumn column) ++ " SET DEFAULT " ++ v.defaultSql
  | .dropDefault column => do return (← onColumn column) ++ " DROP DEFAULT"
  | .renameColumn name newName => do
    Identifier.check "column" name
    Identifier.check "column" newName
    return "RENAME COLUMN " ++ name ++ " TO " ++ newName
  | .renameTable newName => do
    Identifier.check "table" newName
    return "RENAME TO " ++ newName
  | .addConstraint name kind definition => do
    Identifier.check "constraint" name
    return "ADD CONSTRAINT " ++ name ++ " " ++ Text.upper kind ++ " " ++ definition
  | .dropConstraint name cascade => do
    Identifier.check "constraint" name
    return "DROP CONSTRAINT " ++ name ++ cascadeSql cascade

end AlterOperation

/-- **A table being altered.** -/
structure AlterTable where
  /-- The name. -/
  name : String
  /-- The operations, in the order of the calls. -/
  operations : List AlterOperation

/-- A column being changed, with its table. -/
structure ColumnModification where
  /-- The table. -/
  table : AlterTable
  /-- The name of the column. -/
  column : String

namespace AlterTable

/-- The table without operations. -/
def named (name : String) : AlterTable := ⟨name, []⟩

/-- Records an operation. -/
def record (t : AlterTable) (operation : AlterOperation) : AlterTable :=
  { t with operations := t.operations ++ [operation] }

/-- Begins a new column, if its name is an identifier. -/
def addColumn (t : AlterTable) (name : String) : Except Error (PendingColumn AlterTable) := do
  Identifier.check "column" name
  return ⟨t, .named name⟩

/-- Finishes a new column and records it. -/
def finishColumn (p : PendingColumn AlterTable) : Except Error AlterTable := do
  let (table, column) ← p.finish
  return table.record (.addColumn column)

/-- The error of a table without operations. -/
def noOperations : Error := .configuration "At least one operation is required"

/-- **The statements that alter the table**, one for each operation, in order. -/
def statements (t : AlterTable) : Except Error (List String) := do
  -- the name of the table is looked at first, even if there is nothing to do
  Identifier.check "table" t.name
  if t.operations.isEmpty then throw noOperations
  t.operations.mapM fun operation => do
    return "ALTER TABLE " ++ t.name ++ " " ++ (← operation.sql)

/-! ## Chains of calls -/

/-- A change of the column that is being changed. -/
inductive Change where
  /-- Its type, which is taken in upper case. -/
  | setType (sqlType : String)
  /-- It is never null. -/
  | setNotNull
  /-- It may be null. -/
  | dropNotNull
  /-- Its default. -/
  | setDefault (v : Value)
  /-- It has no default. -/
  | dropDefault

/-- The operation of a change of a column. -/
def Change.operation (column : String) : Change → AlterOperation
  | .setType sqlType => .setType column (Text.upper sqlType)
  | .setNotNull => .setNotNull column
  | .dropNotNull => .dropNotNull column
  | .setDefault v => .setDefault column v
  | .dropDefault => .dropDefault column

/-- What is being defined. -/
inductive Phase where
  /-- The table. -/
  | table
  /-- A new column of it. -/
  | column
  /-- A change of a column. -/
  | change
  deriving DecidableEq

/-- What is known in a phase. -/
abbrev State : Phase → Type
  | .table => AlterTable
  | .column => PendingColumn AlterTable
  | .change => ColumnModification

/-- **A call**, by the phases before and after it. -/
inductive Call : Phase → Phase → Type where
  /-- Begins a new column. -/
  | addColumn (name : String) : Call .table .column
  /-- Adds a column that is handed over as a whole. -/
  | acceptColumn (c : ColumnDefinition) : Call .table .table
  /-- Removes a column. -/
  | dropColumn (name : String) (cascade : Bool) : Call .table .table
  /-- Begins changes of a column. -/
  | modifyColumn (name : String) : Call .table .change
  /-- Renames a column. -/
  | renameColumn (name newName : String) : Call .table .table
  /-- Renames the table. -/
  | renameTable (newName : String) : Call .table .table
  /-- Adds a constraint. -/
  | addConstraint (name kind definition : String) : Call .table .table
  /-- Removes a constraint. -/
  | dropConstraint (name : String) (cascade : Bool) : Call .table .table
  /-- Says something of the new column. -/
  | define (call : ColumnCall) : Call .column .column
  /-- Finishes the new column. -/
  | columnDone : Call .column .table
  /-- Changes the column. -/
  | change (c : Change) : Call .change .change
  /-- Finishes changes of a column. -/
  | changeDone : Call .change .table

/-- The state after a call. -/
def Call.apply : {before after : Phase} → Call before after → State before →
    Except Error (State after)
  | _, _, .addColumn name, t => t.addColumn name
  | _, _, .acceptColumn c, t => .ok (t.record (.addColumn c))
  | _, _, .dropColumn name cascade, t => .ok (t.record (.dropColumn name cascade))
  | _, _, .modifyColumn name, t => .ok ⟨t, name⟩
  | _, _, .renameColumn name newName, t => .ok (t.record (.renameColumn name newName))
  | _, _, .renameTable newName, t => .ok (t.record (.renameTable newName))
  | _, _, .addConstraint name kind definition, t =>
    .ok (t.record (.addConstraint name kind definition))
  | _, _, .dropConstraint name cascade, t => .ok (t.record (.dropConstraint name cascade))
  | _, _, .define call, p => .ok (p.apply call)
  | _, _, .columnDone, p => finishColumn p
  | _, _, .change c, m => .ok { m with table := m.table.record (c.operation m.column) }
  | _, _, .changeDone, m => .ok m.table

/-- A chain of calls. -/
inductive Chain : Phase → Phase → Type where
  /-- No call. -/
  | nil {phase : Phase} : Chain phase phase
  /-- Calls and one more. -/
  | snoc {first before after : Phase} (calls : Chain first before) (call : Call before after) :
    Chain first after

/-- The state after a chain of calls. -/
def Chain.run : {before after : Phase} → Chain before after → State before →
    Except Error (State after)
  | _, _, .nil, state => .ok state
  | _, _, .snoc calls call, state => do call.apply (← calls.run state)

/-- The table of a state; a new column that is being defined is finished. -/
def finished : {phase : Phase} → State phase → Except Error AlterTable
  | .table, t => .ok t
  | .column, p => finishColumn p
  | .change, m => .ok m.table

end AlterTable

end PgStatement

import PgStatement.Identifier
import PgStatement.Text.Upper
import PgStatement.Value.Literal

/-!
# Columns

A column has a name, a type and constraints, in the order they were given. While it is being defined
it belongs to a table that is being created or altered: a `PendingColumn` holds that owner, and
hands it back when the column is finished, which needs a type.
-/

namespace PgStatement

/-- A constraint of one column. -/
inductive ColumnConstraint where
  /-- The column is never null. -/
  | notNull
  /-- No two rows have the same value. -/
  | unique
  /-- The column identifies a row. -/
  | primaryKey
  /-- The value of rows that give none. -/
  | default (v : Value)
  /-- An expression that holds of every row. -/
  | check (expression : String)
  /-- A column of another table that has every value of this one. -/
  | references (table column : String)

/-- **A constraint of one column, in SQL.** -/
def ColumnConstraint.sql : ColumnConstraint → String
  | .notNull => "NOT NULL"
  | .unique => "UNIQUE"
  | .primaryKey => "PRIMARY KEY"
  | .default v => "DEFAULT " ++ v.defaultSql
  | .check expression => "CHECK (" ++ expression ++ ")"
  | .references table column => "REFERENCES " ++ table ++ "(" ++ column ++ ")"

/-- **The definition of a column.** -/
structure ColumnDefinition where
  /-- The name. -/
  name : String
  /-- The type, in upper case. -/
  sqlType? : Option String
  /-- The constraints, in the order they were given. -/
  constraints : List ColumnConstraint

namespace ColumnDefinition

/-- A column of which only the name is known. -/
def named (name : String) : ColumnDefinition := ⟨name, none, []⟩

/-- The error of a column without a type. -/
def untyped (name : String) : Error :=
  .configuration ("Column '" ++ name ++ "' must have a type specified")

/-- The column with another constraint. -/
def constrain (c : ColumnDefinition) (constraint : ColumnConstraint) : ColumnDefinition :=
  { c with constraints := c.constraints ++ [constraint] }

/-- The column with a type. -/
def withType (c : ColumnDefinition) (sqlType : String) : ColumnDefinition :=
  { c with sqlType? := some (Text.upper sqlType) }

/-- **The definition in SQL**: name, type and constraints. -/
def sql (c : ColumnDefinition) : Except Error String :=
  match c.sqlType? with
  | none => .error (untyped c.name)
  | some sqlType =>
    .ok (" ".intercalate (c.name :: sqlType :: c.constraints.map ColumnConstraint.sql))

end ColumnDefinition

/-- A call that says something of a column. -/
inductive ColumnCall where
  /-- Its type. -/
  | sqlType (name : String)
  /-- One of its constraints. -/
  | constraint (c : ColumnConstraint)

/-- The column after a call. -/
def ColumnDefinition.apply (c : ColumnDefinition) : ColumnCall → ColumnDefinition
  | .sqlType name => c.withType name
  | .constraint constraint => c.constrain constraint

/-- **A column being defined**, with the table it will belong to. -/
structure PendingColumn (α : Type) where
  /-- The table. -/
  owner : α
  /-- The column so far. -/
  column : ColumnDefinition

namespace PendingColumn

/-- The column after a call; the table is not touched. -/
def apply {α : Type} (p : PendingColumn α) (call : ColumnCall) : PendingColumn α :=
  { p with column := p.column.apply call }

/-- The table and the finished column, if it has a type. -/
def finish {α : Type} (p : PendingColumn α) : Except Error (α × ColumnDefinition) := do
  let _ ← p.column.sql
  return (p.owner, p.column)

end PendingColumn

end PgStatement

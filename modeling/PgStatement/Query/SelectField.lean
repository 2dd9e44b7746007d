import PgStatement.Identifier

/-!
# Selected fields

What a selection asks for is a list of expressions and aggregates. An aggregate is a function of a
column, under another name if it has one; counting nothing in particular counts rows.
-/

namespace PgStatement

/-- A function of all values of a column. -/
inductive AggregateFunction where
  | count | sum | avg | min | max
  deriving DecidableEq

/-- The function in SQL. -/
def AggregateFunction.sql : AggregateFunction → String
  | .count => "COUNT"
  | .sum => "SUM"
  | .avg => "AVG"
  | .min => "MIN"
  | .max => "MAX"

/-- **A function of a column.** -/
structure Aggregate where
  /-- The function. -/
  function : AggregateFunction
  /-- The column; a blank one stands for all of them. -/
  column : String
  /-- The name of the result. -/
  label? : Option String
  deriving DecidableEq

namespace Aggregate

/-- A function of a column. -/
def of (function : AggregateFunction) (column : String) : Aggregate := ⟨function, column, none⟩

/-- The number of rows. -/
def countAll : Aggregate := of .count "*"

/-- The same under another name. -/
def named (a : Aggregate) (label : String) : Aggregate := { a with label? := some label }

/-- Whether the alias, if there is one, is blank. -/
def hasBlankAlias (a : Aggregate) : Bool := a.label?.any Text.isBlankText

/-- **Lets an aggregate in** that has a column, unless it counts, and no blank alias. -/
def check (a : Aggregate) : Except Error Unit :=
  if Text.isBlankText a.column && a.function != .count then
    .error (.invalidArgument (a.function.sql ++ " requires a column"))
  else if a.hasBlankAlias then .error (.invalidArgument "Aggregate alias cannot be empty")
  else .ok ()

/-- **The aggregate in SQL.** -/
def sql (a : Aggregate) : String :=
  let column := if Text.isBlankText a.column then "*" else a.column
  let call := a.function.sql ++ "(" ++ column ++ ")"
  match a.label? with
  | some label => call ++ " AS " ++ label
  | none => call

end Aggregate

/-- **What a selection asks for.** -/
inductive SelectField where
  /-- An expression. -/
  | column (expression : String)
  /-- An aggregate. -/
  | aggregate (a : Aggregate)
  deriving DecidableEq

namespace SelectField

/-- Lets a field in that is not blank, or an aggregate that is well formed. -/
def check : SelectField → Except Error Unit
  | .column expression => checkField "SELECT field" expression
  | .aggregate a => a.check

/-- The field in SQL. -/
def sql : SelectField → String
  | .column expression => expression
  | .aggregate a => a.sql

end SelectField

end PgStatement

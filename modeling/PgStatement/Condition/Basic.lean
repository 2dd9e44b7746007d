import PgStatement.ParamList
import PgStatement.Identifier
import PgStatement.Value.Inspect

/-!
# Conditions

A condition is one predicate of a WHERE clause: a field, an operator and what the field is compared
with. Operators differ in what they need on their right-hand side – nothing, one value, two or a
list – and a condition whose operand is of another shape is refused when it is written, as are nulls
where SQL would quietly make the predicate unknown: as bounds of a range and in a list.

A list without values is no error. Nothing is in it, so the predicate is `FALSE` or, negated,
`TRUE`.
-/

namespace PgStatement

/-- A comparison operator. -/
inductive Operator where
  | eq | ne | gt | ge | lt | le
  | between | notBetween
  | oneOf | noneOf
  | isNull | isNotNull
  | like | notLike | ilike | notIlike
  deriving DecidableEq

/-- What an operator needs on its right-hand side. -/
inductive OperandShape where
  | nothing | single | pair | list
  deriving DecidableEq

namespace Operator

/-- The operator in SQL. -/
def sql : Operator → String
  | .eq => "="
  | .ne => "!="
  | .gt => ">"
  | .ge => ">="
  | .lt => "<"
  | .le => "<="
  | .between => "BETWEEN"
  | .notBetween => "NOT BETWEEN"
  | .oneOf => "IN"
  | .noneOf => "NOT IN"
  | .isNull => "IS NULL"
  | .isNotNull => "IS NOT NULL"
  | .like => "LIKE"
  | .notLike => "NOT LIKE"
  | .ilike => "ILIKE"
  | .notIlike => "NOT ILIKE"

/-- What the operator needs on its right-hand side. -/
def shape : Operator → OperandShape
  | .isNull | .isNotNull => .nothing
  | .between | .notBetween => .pair
  | .oneOf | .noneOf => .list
  | _ => .single

end Operator

/-- How a condition is joined to the one before it. -/
inductive Connector where
  | and | or
  deriving DecidableEq

/-- The connector in SQL. -/
def Connector.sql : Connector → String
  | .and => "AND"
  | .or => "OR"

/-- The right-hand side of a condition. -/
inductive Operand where
  /-- Nothing. -/
  | none
  /-- One value. -/
  | single (v : Value)
  /-- The two bounds of a range. -/
  | pair (low high : Value)
  /-- The values of a list. -/
  | list (values : List Value)

/-- The operand as messages show it. -/
def Operand.inspect : Operand → String
  | .none => "None"
  | .single v => "Single(" ++ v.inspect ++ ")"
  | .pair low high => "Pair(" ++ low.inspect ++ ", " ++ high.inspect ++ ")"
  | .list values => "List(" ++ Value.inspectList values ++ ")"

/-- **One predicate of a WHERE clause.** -/
structure Condition where
  /-- The expression that is compared. -/
  field : String
  /-- The operator. -/
  operator : Operator
  /-- The right-hand side. -/
  operand : Operand
  /-- How it is joined to the condition before it. -/
  connector : Connector

namespace Condition

/-- What is wrong with a condition. -/
inductive Fault where
  /-- The field is blank. -/
  | blankField
  /-- A bound of a range is null. -/
  | nullBound (operator : Operator) (field : String)
  /-- A value of a list is null. -/
  | nullMember (operator : Operator) (field : String)
  /-- The operand does not have the shape that the operator needs. -/
  | wrongShape (operator : Operator) (field : String) (operand : Operand)

/-- What an operator says it needs. -/
def requirement : OperandShape → String
  | .pair => "exactly 2 values"
  | .list => "a list of values"
  | _ => "a single value"

/-- The text of a fault. -/
def Fault.message : Fault → String
  | .blankField => "Field name cannot be empty in WHERE clause"
  | .nullBound operator field =>
    operator.sql ++ " values cannot be NULL (field '" ++ field ++ "')"
  | .nullMember operator field =>
    operator.sql ++ " values cannot contain NULL (field '" ++ field ++ "')"
  | .wrongShape operator field operand =>
    operator.sql ++ " requires " ++ requirement operator.shape ++ " (field '" ++ field
      ++ "'), got " ++ operand.inspect

/-- The error of a fault. -/
def Fault.error (fault : Fault) : Error := .invalidArgument fault.message

/-- The predicate that holds of nothing, or of everything if it is negated. -/
def emptyListSql (operator : Operator) : String := if operator = .oneOf then "FALSE" else "TRUE"

/-- **Writes a condition**, and binds its values. What is wrong with it is found before any of them
is bound. -/
def render (c : Condition) : Writing String :=
  let left := c.field ++ " " ++ c.operator.sql
  if Text.isBlankText c.field then throw (Fault.error .blankField)
  else
    match c.operator.shape, c.operand with
    -- an operand that is not needed is not looked at
    | .nothing, _ => return left
    | .single, .single v => do
      let place ← Writing.value v
      return left ++ " " ++ place
    | .pair, .pair low high =>
      if low.isNull || high.isNull then throw (Fault.nullBound c.operator c.field).error
      else do
        let first ← Writing.value low
        let second ← Writing.value high
        return left ++ " " ++ first ++ " AND " ++ second
    | .list, .list [] => return emptyListSql c.operator
    | .list, .list values =>
      if values.any Value.isNull then throw (Fault.nullMember c.operator c.field).error
      else do
        let places ← values.mapM Writing.value
        return left ++ " (" ++ ", ".intercalate places ++ ")"
    | _, operand => throw (Fault.wrongShape c.operator c.field operand).error

end Condition

/-! ## WHERE clauses -/

namespace Where

/-- Writes the conditions from a position on behind a text, each with its connector before it. The
connector of the first condition is not written. -/
def renderFrom (position : Nat) (sql : String) : List Condition → Writing String
  | [] => return sql
  | c :: rest => do
    let joined := if 0 < position then sql ++ " " ++ c.connector.sql ++ " " else sql
    let text ← c.render
    renderFrom (position + 1) (joined ++ text) rest

/-- **Writes a clause**; none if there are no conditions. When a condition fails, the values of
those before it stay bound. -/
def render (conditions : List Condition) : Writing (Option String) :=
  if conditions.isEmpty then return none else some <$> renderFrom 0 "WHERE " conditions

end Where

end PgStatement

import PgStatement.Condition.Basic
import PgStatement.LikePattern

/-!
# Comparisons

A `Comparison` is what can be said of a field in a chain of calls. It always has the operand that
its operator needs, so that a condition made of one can only be refused for a blank field or a null.
Four of the comparisons look for a text inside another, without regard to case and without any
character of the text having a meaning of its own.
-/

namespace PgStatement

/-- **What is said of a field.** -/
inductive Comparison where
  /-- It equals a value. -/
  | equals (v : Value)
  /-- It differs from a value. -/
  | notEquals (v : Value)
  /-- It is greater than a value. -/
  | greaterThan (v : Value)
  /-- It is greater than a value or equals it. -/
  | greaterThanOrEqual (v : Value)
  /-- It is less than a value. -/
  | lessThan (v : Value)
  /-- It is less than a value or equals it. -/
  | lessThanOrEqual (v : Value)
  /-- It lies between two bounds. -/
  | between (low high : Value)
  /-- It does not lie between two bounds. -/
  | notBetween (low high : Value)
  /-- It is one of some values. -/
  | inList (values : List Value)
  /-- It is none of some values. -/
  | notIn (values : List Value)
  /-- It is null. -/
  | isNull
  /-- It is not null. -/
  | isNotNull
  /-- It matches a pattern. -/
  | like (pattern : String)
  /-- It does not match a pattern. -/
  | notLike (pattern : String)
  /-- It matches a pattern without regard to case. -/
  | ilike (pattern : String)
  /-- It does not match a pattern without regard to case. -/
  | notIlike (pattern : String)
  /-- It holds a text. -/
  | contains (text : String)
  /-- It does not hold a text. -/
  | notContains (text : String)
  /-- It starts with a text. -/
  | startsWith (text : String)
  /-- It ends with a text. -/
  | endsWith (text : String)

namespace Comparison

/-- The operator of a comparison. -/
def operator : Comparison → Operator
  | .equals _ => .eq
  | .notEquals _ => .ne
  | .greaterThan _ => .gt
  | .greaterThanOrEqual _ => .ge
  | .lessThan _ => .lt
  | .lessThanOrEqual _ => .le
  | .between _ _ => .between
  | .notBetween _ _ => .notBetween
  | .inList _ => .oneOf
  | .notIn _ => .noneOf
  | .isNull => .isNull
  | .isNotNull => .isNotNull
  | .like _ => .like
  | .notLike _ => .notLike
  | .ilike _ | .contains _ | .startsWith _ | .endsWith _ => .ilike
  | .notIlike _ | .notContains _ => .notIlike

/-- The operand of a comparison. -/
def operand : Comparison → Operand
  | .equals v | .notEquals v | .greaterThan v | .greaterThanOrEqual v | .lessThan v
  | .lessThanOrEqual v => .single v
  | .between low high | .notBetween low high => .pair low high
  | .inList values | .notIn values => .list values
  | .isNull | .isNotNull => .none
  | .like pattern | .notLike pattern | .ilike pattern | .notIlike pattern =>
    .single (.text pattern)
  | .contains text | .notContains text => .single (.text (LikePattern.contains text))
  | .startsWith text => .single (.text (LikePattern.startsWith text))
  | .endsWith text => .single (.text (LikePattern.endsWith text))

/-- The condition that says this of a field. -/
def toCondition (c : Comparison) (connector : Connector) (field : String) : Condition :=
  ⟨field, c.operator, c.operand, connector⟩

end Comparison

end PgStatement

import Mathlib.Data.List.Induction
import PgStatement.Table.Column

/-!
# The column that calls define

A new column is defined by calls that name its type or give it a constraint. What comes of them is
said here without following them one by one (`ColumnDefinition.defined`): the type that is named
last counts, and all constraints are kept in the order of the calls.
-/

namespace PgStatement

/-- The type that a call names. -/
def ColumnCall.sqlType? : ColumnCall → Option String
  | .sqlType name => some name
  | .constraint _ => none

/-- The constraint that a call gives. -/
def ColumnCall.constraint? : ColumnCall → Option ColumnConstraint
  | .sqlType _ => none
  | .constraint c => some c

namespace ColumnDefinition

/-- **The column that calls define**: with the type that they name last, in upper case, and with all
constraints that they give. -/
def defined (name : String) (calls : List ColumnCall) : ColumnDefinition :=
  ⟨name, (calls.filterMap ColumnCall.sqlType?).getLast?.map Text.upper,
    calls.filterMap ColumnCall.constraint?⟩

theorem defined_concat (name : String) (calls : List ColumnCall) (call : ColumnCall) :
    defined name (calls ++ [call]) = (defined name calls).apply call := by
  rw [defined, defined, List.filterMap_append, List.filterMap_append]
  cases call with
  | sqlType name => simp [apply, withType, ColumnCall.sqlType?, ColumnCall.constraint?]
  | constraint c => simp [apply, constrain, ColumnCall.sqlType?, ColumnCall.constraint?]

theorem foldl_apply (name : String) (calls : List ColumnCall) :
    calls.foldl apply (named name) = defined name calls := by
  induction calls using List.reverseRecOn with
  | nil => rfl
  | append_singleton calls call ih =>
    rw [List.foldl_append, ih, defined_concat]
    rfl

theorem isSome_sqlType_defined {name : String} {calls : List ColumnCall} :
    (defined name calls).sqlType?.isSome = true ↔ calls.filterMap ColumnCall.sqlType? ≠ [] := by
  rw [defined, Option.isSome_map, List.getLast?_isSome]

end ColumnDefinition

end PgStatement

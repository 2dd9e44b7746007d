import PgStatement.Identifier

/-!
# Orderings

An ordering lists fields with a direction each, no field twice. One of them is current: the one that
was asked for last, and the one that a direction applies to. Giving a direction moves the field to
the end of the list, so that directions given later sort within those given before.
-/

namespace PgStatement

/-- A direction of sorting. -/
inductive Direction where
  | asc | desc
  deriving DecidableEq

/-- The direction in SQL. -/
def Direction.sql : Direction → String
  | .asc => "ASC"
  | .desc => "DESC"

/-- The name of the call that gives the direction. -/
def Direction.callName : Direction → String
  | .asc => "asc()"
  | .desc => "desc()"

/-- **Fields to sort by.** -/
structure OrderBy where
  /-- The fields with their directions. -/
  items : List (String × Direction)
  /-- The position of the current field. -/
  current : Option Nat
  deriving DecidableEq

namespace OrderBy

/-- The ordering without fields. -/
def empty : OrderBy := ⟨[], none⟩

/-- Whether there are no fields. -/
def isEmpty (o : OrderBy) : Bool := o.items.isEmpty

/-- **Makes a field current**, and adds it in ascending direction if it is new. -/
def select (o : OrderBy) (field : String) : OrderBy :=
  match o.items.findIdx? fun item => item.1 == field with
  | some index => { o with current := some index }
  | none => ⟨o.items ++ [(field, .asc)], some o.items.length⟩

/-- The error of a direction that comes before any field. -/
def noField (direction : Direction) : Error :=
  .invalidArgument (direction.callName ++ " requires a preceding order_by()")

/-- **Gives the current field a direction** and moves it to the end. -/
def setDirection (o : OrderBy) (direction : Direction) : Except Error OrderBy :=
  match o.current with
  | none => .error (noField direction)
  | some index =>
    match o.items[index]? with
    | none => .error (noField direction)
    | some (field, _) =>
      let others := o.items.eraseIdx index
      .ok ⟨others ++ [(field, direction)], some others.length⟩

/-- A field with its direction, unless it is blank. -/
def itemSql (item : String × Direction) : Except Error String := do
  checkField "ORDER BY field" item.1
  return item.1 ++ " " ++ item.2.sql

/-- **The clause**; none if there are no fields. -/
def clause? (o : OrderBy) : Except Error (Option String) :=
  if o.items.isEmpty then .ok none
  else do
    let items ← o.items.mapM itemSql
    return some ("ORDER BY " ++ ", ".intercalate items)

end OrderBy

end PgStatement

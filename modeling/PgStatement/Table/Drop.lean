import PgStatement.Table.Alter

/-!
# DROP TABLE and TRUNCATE TABLE

Removing a table, and removing all rows of one.
-/

namespace PgStatement

/-- **A table being removed.** -/
structure DropTable where
  /-- The name. -/
  name : String
  /-- Whether it is no error that the table does not exist. -/
  ifExists : Bool
  /-- Whether what depends on it is removed too. -/
  cascade : Bool
  deriving DecidableEq

namespace DropTable

/-- The removal of a table. -/
def named (name : String) : DropTable := ⟨name, false, false⟩

/-- A call on a removal. -/
inductive Call where
  /-- It is no error that the table does not exist. -/
  | ifExists
  /-- What depends on it is removed too. -/
  | cascade
  deriving DecidableEq

/-- The removal after a call. -/
def apply (t : DropTable) : Call → DropTable
  | .ifExists => { t with ifExists := true }
  | .cascade => { t with cascade := true }

/-- **The statement that removes the table.** -/
def sql (t : DropTable) : Except Error String := do
  Identifier.check "table" t.name
  return "DROP TABLE " ++ (if t.ifExists then "IF EXISTS " else "") ++ t.name
    ++ cascadeSql t.cascade

end DropTable

/-- **A table being emptied.** -/
structure TruncateTable where
  /-- The name. -/
  name : String
  /-- Whether its counters start again. -/
  restartIdentity : Bool
  /-- Whether tables that refer to it are emptied too. -/
  cascade : Bool
  deriving DecidableEq

namespace TruncateTable

/-- The emptying of a table. -/
def named (name : String) : TruncateTable := ⟨name, false, false⟩

/-- A call on an emptying. -/
inductive Call where
  /-- Its counters start again. -/
  | restartIdentity
  /-- Tables that refer to it are emptied too. -/
  | cascade
  deriving DecidableEq

/-- The emptying after a call. -/
def apply (t : TruncateTable) : Call → TruncateTable
  | .restartIdentity => { t with restartIdentity := true }
  | .cascade => { t with cascade := true }

/-- **The statement that empties the table.** -/
def sql (t : TruncateTable) : Except Error String := do
  Identifier.check "table" t.name
  return "TRUNCATE TABLE " ++ t.name ++ (if t.restartIdentity then " RESTART IDENTITY" else "")
    ++ cascadeSql t.cascade

end TruncateTable

end PgStatement

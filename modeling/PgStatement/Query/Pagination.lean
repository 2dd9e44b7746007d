import PgStatement.ParamList

/-!
# Limits and offsets

How many rows are taken and how many are skipped. Both amounts are bound as values, after all
others, and must fit a signed integer.
-/

namespace PgStatement

-- powers are those of the core library, whatever else is imported further on
attribute [local instance (high)] instPowNat

/-- **Which rows of a result are taken.** -/
structure Pagination where
  /-- How many rows are taken at most. -/
  limit : Option UInt64
  /-- How many rows are skipped. -/
  offset : Option UInt64
  deriving DecidableEq

namespace Pagination

/-- All rows. -/
def all : Pagination := ⟨none, none⟩

/-- The amount of a keyword as a signed integer, if it fits. -/
def signed (keyword : String) (amount : UInt64) : Except Error Int64 :=
  if amount.toNat < 2 ^ (63 : Nat) then .ok (Int64.ofNat amount.toNat)
  else
    .error (.invalidArgument (keyword ++ " " ++ Text.decimal amount.toNat ++ " is out of range"))

/-- Writes the clause of a keyword, if its amount is set. -/
def renderAmount (keyword : String) : Option UInt64 → Writing (List String)
  | none => return []
  | some amount => do
    let amount ← signed keyword amount
    return [keyword ++ " " ++ (← Writing.value (.int amount))]

/-- **Writes the clauses** of the amounts that are set. When the second one fails, the first one
stays bound. -/
def rendering (p : Pagination) : Writing (List String) := do
  let limit ← renderAmount "LIMIT" p.limit
  let offset ← renderAmount "OFFSET" p.offset
  return limit ++ offset

end Pagination

end PgStatement

import PgStatement.Error
import PgStatement.Value.Basic

/-!
# Parameter lists

The values bound so far, in the order of their placeholders. A list only grows, and its length is
the number of the last placeholder.

The parts of a statement are written one after the other against one list (`Writing`). Where a value
stands in a part, its text has a placeholder, `$1` for the first one, and the value is bound. A part
that fails ends the writing, and what was bound until then stays bound.
-/

namespace PgStatement

/-- The placeholder of a number. -/
def placeholder (n : Nat) : String := "$" ++ Text.decimal n

/-- **The values bound so far.** -/
structure ParamList where
  /-- The values, in the order of their placeholders. -/
  values : List Value

/-- **Writing against a list of values**: from the values bound before to what is written, or an
error, and the values bound afterwards. -/
abbrev Writing (α : Type) := ExceptT Error (StateM ParamList) α

namespace ParamList

/-- The list without values. -/
def empty : ParamList := ⟨[]⟩

/-- The number of values. -/
def size (p : ParamList) : Nat := p.values.length

/-- Whether there are no values. -/
def isEmpty (p : ParamList) : Bool := p.values.isEmpty

/-- The list with further values. -/
def append (p : ParamList) (values : List Value) : ParamList := ⟨p.values ++ values⟩

/-- Binds a value, and answers its number. -/
def push (p : ParamList) (v : Value) : Nat × ParamList := (p.size + 1, p.append [v])

/-- Binds a value, and answers its placeholder. -/
def pushPlaceholder (p : ParamList) (v : Value) : String × ParamList :=
  (PgStatement.placeholder (p.size + 1), p.append [v])

/-- What is written against the list, and the list afterwards. -/
def render {α : Type} (p : ParamList) (w : Writing α) : Except Error α × ParamList := w p

@[simp] theorem size_append (p : ParamList) (values : List Value) :
    (p.append values).size = p.size + values.length := by
  simp [size, append]

end ParamList

namespace Writing

/-- Binds a value, and writes its placeholder. -/
def value (v : Value) : Writing String := modifyGet fun p => p.pushPlaceholder v

/-! ### Step by step -/

variable {α β : Type}

theorem pure_apply (a : α) (p : ParamList) : (pure a : Writing α) p = (.ok a, p) := rfl

/-- What is only looked at binds nothing. -/
theorem lift_apply (x : Except Error α) (p : ParamList) : (liftM x : Writing α) p = (x, p) := rfl

/-- What was written may be changed. -/
theorem map_apply (f : α → β) (w : Writing α) (p : ParamList) :
    (f <$> w) p = (f <$> (w p).1, (w p).2) := by
  show (ExceptT.bindCont (fun a => pure (f a)) (w p).1 : Writing β) (w p).2 = _
  obtain ⟨a | e, q⟩ := w p <;> rfl

/-- What is written next is written against the values bound until then, unless something failed. -/
theorem bind_apply (w : Writing α) (next : α → Writing β) (p : ParamList) :
    (w >>= next) p = match w p with
      | (.ok a, q) => next a q
      | (.error e, q) => (.error e, q) := by
  show ExceptT.bindCont next (w p).1 (w p).2 = _
  obtain ⟨a | e, q⟩ := w p <;> rfl

end Writing

end PgStatement

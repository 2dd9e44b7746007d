import PgStatement.Calendar.Timestamp
import PgStatement.Json.Reader
import PgStatement.Uuid

/-!
# Values

A `Value` is what is bound to a placeholder and what a cell of a result holds. The type is closed:
whatever a column can carry is one of its eleven kinds, and a type of the host program enters
through the class `ToValue`.

Two values are compared with `Value.equals`, which compares floating-point numbers as numbers.
-/

namespace PgStatement

/-- **A bound or decoded value.** -/
inductive Value where
  /-- SQL's null. -/
  | null
  /-- A truth value. -/
  | bool (b : Bool)
  /-- An integer of sixty-four bits. -/
  | int (i : Int64)
  /-- A floating-point number. -/
  | float (d : Double)
  /-- A text. -/
  | text (s : String)
  /-- A string of bytes. -/
  | bytes (bytes : Bytes)
  /-- A moment in universal time. -/
  | timestamp (t : Timestamp)
  /-- A date. -/
  | date (d : Date)
  /-- A universally unique identifier. -/
  | uuid (u : Uuid)
  /-- A JSON document. -/
  | json (document : Json)
  /-- An array. -/
  | list (items : List Value)

instance : Inhabited Value := ⟨.null⟩

namespace Value

/-! ## Readings of a value -/

/-- Whether the value is null. -/
def isNull : Value → Bool
  | .null => true
  | _ => false

/-- The text, if the value is one. -/
def text? : Value → Option String
  | .text s => some s
  | _ => none

/-- The integer, if the value is one. -/
def int? : Value → Option Int64
  | .int i => some i
  | _ => none

/-- The floating-point number, if the value is one, or the one nearest to an integer. -/
def float? : Value → Option Double
  | .float d => some d
  | .int i => some (Double.ofInt i.toInt)
  | _ => none

/-- The truth value, if the value is one. -/
def bool? : Value → Option Bool
  | .bool b => some b
  | _ => none

theorem isNull_iff (v : Value) : v.isNull = true ↔ v = .null := by
  cases v <;> simp [isNull]

/-! ## Equality -/

mutual

/-- Equality of values. Values of different kinds differ, and a NaN differs from itself. -/
def equals : Value → Value → Bool
  | .null, .null => true
  | .bool a, .bool b => a == b
  | .int a, .int b => a == b
  | .float a, .float b => a.equals b
  | .text a, .text b => a == b
  | .bytes a, .bytes b => a == b
  | .timestamp a, .timestamp b => a == b
  | .date a, .date b => a == b
  | .uuid a, .uuid b => a == b
  | .json a, .json b => a.equals b
  | .list as, .list bs => equalItems as bs
  | _, _ => false

/-- Equality of arrays, item by item. -/
def equalItems : List Value → List Value → Bool
  | [], [] => true
  | a :: as, b :: bs => equals a b && equalItems as bs
  | _, _ => false

end

end Value

/-! ## Types that enter as values -/

/-- Types whose members can be bound. -/
class ToValue (α : Type) where
  /-- The value that a member is bound as. -/
  toValue : α → Value

export ToValue (toValue)

instance : ToValue Value := ⟨id⟩
instance : ToValue Bool := ⟨.bool⟩
instance : ToValue Int8 := ⟨fun i => .int i.toInt64⟩
instance : ToValue Int16 := ⟨fun i => .int i.toInt64⟩
instance : ToValue Int32 := ⟨fun i => .int i.toInt64⟩
instance : ToValue Int64 := ⟨.int⟩
instance : ToValue UInt8 := ⟨fun n => .int (Int64.ofNat n.toNat)⟩
instance : ToValue UInt16 := ⟨fun n => .int (Int64.ofNat n.toNat)⟩
instance : ToValue UInt32 := ⟨fun n => .int (Int64.ofNat n.toNat)⟩
instance : ToValue Double := ⟨.float⟩
instance : ToValue String := ⟨.text⟩
instance : ToValue Timestamp := ⟨.timestamp⟩
instance : ToValue Date := ⟨.date⟩
instance : ToValue Uuid := ⟨.uuid⟩
instance : ToValue Json := ⟨.json⟩

/-- A list is bound as an array. -/
instance {α : Type} [ToValue α] : ToValue (List α) := ⟨fun items => .list (items.map toValue)⟩

/-- A list of bytes is a string of bytes, and no array. -/
instance : ToValue Bytes := ⟨.bytes⟩

/-- What is absent is null. -/
instance {α : Type} [ToValue α] : ToValue (Option α) :=
  ⟨fun
    | some a => toValue a
    | none => .null⟩

end PgStatement

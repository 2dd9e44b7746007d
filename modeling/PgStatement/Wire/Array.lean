import PgStatement.Bytes.BigEndian
import PgStatement.Wire.Fault

/-!
# Arrays

An array is a header and its elements. The header has the number of dimensions, a flag that says
whether an element is null, the number of the element type, and for each dimension its length and
its lower bound. An element has its length in front, or minus one if it is null.

The library writes arrays of one dimension. It reads those and arrays of no dimension, which are
empty; the flag, the element type and the lower bound are not looked at, since the type of the
column says what the elements are.
-/

namespace PgStatement.Wire

-- powers are those of the core library, whatever else is imported further on
attribute [local instance (high)] instPowNat

/-- The largest length and count of the format. -/
def maxLength : Nat := 2 ^ (31 : Nat) - 1

/-- The signed integer of so many bytes at the front, and the rest. -/
def readInt (width : Nat) (raw : Bytes) : Except Fault (Int × Bytes) :=
  match raw.take? width with
  | some (front, rest) => .ok (BigEndian.toInt front, rest)
  | none => .error .unexpectedEnd

theorem readInt_ofInt_append {width : Nat} {i : Int} (rest : Bytes)
    (hlow : -(256 ^ width : Nat) ≤ 2 * i) (hhigh : 2 * i < (256 ^ width : Nat)) :
    readInt width (BigEndian.ofInt width i ++ rest) = .ok (i, rest) := by
  have h := Bytes.take?_append (BigEndian.ofInt width i) rest
  rw [BigEndian.length_ofInt] at h
  rw [readInt, h]
  simp only [BigEndian.toInt_ofInt hlow hhigh]

namespace ArrayFormat

/-- An element with its length in front. -/
def elementBytes : Option Bytes → Bytes
  | none => BigEndian.ofInt 4 (-1)
  | some bytes => BigEndian.ofInt 4 bytes.length ++ bytes

/-- **The bytes of an array** of one dimension. -/
def encode (lowerBound : Int) (elementOid : Nat) (elements : List (Option Bytes)) : Bytes :=
  BigEndian.ofInt 4 1 ++ BigEndian.ofInt 4 (if elements.any Option.isNone then 1 else 0)
    ++ BigEndian.ofNat 4 elementOid ++ BigEndian.ofInt 4 elements.length
    ++ BigEndian.ofInt 4 lowerBound ++ elements.flatMap elementBytes

/-- The number of elements that so many dimensions have, times a factor, and what follows them. -/
def readDimensions : (count : Nat) → (factor : Int) → Bytes → Except Fault (Int × Bytes)
  | 0, factor, raw => .ok (factor, raw)
  | count + 1, factor, raw => do
    let (length, raw) ← readInt 4 raw
    if length < 0 then throw .dimensionSize
    let (_, raw) ← readInt 4 raw
    if (maxLength : Int) < factor * length then throw .tooManyElements
    readDimensions count (factor * length) raw

/-- So many elements, each read by the reader of its type, and nothing after them. -/
def readElements {α : Type} (read : Option Bytes → Except Fault α) :
    (count : Nat) → Bytes → Except Fault (List α)
  | 0, [] => .ok []
  | 0, _ :: _ => .error (.notDrained "arrayvalue")
  | count + 1, raw => do
    let (length, raw) ← readInt 4 raw
    if length < 0 then
      let element ← read none
      return element :: (← readElements read count raw)
    else
      match raw.take? length.toNat with
      | none => .error .valueLength
      | some (front, rest) =>
        let element ← read (some front)
        return element :: (← readElements read count rest)

/-- **The elements of an array** of at most one dimension. -/
def decode {α : Type} (read : Option Bytes → Except Fault α) (raw : Bytes) :
    Except Fault (List α) := do
  let (dimensions, raw) ← readInt 4 raw
  if dimensions < 0 then throw .dimensionCount
  let (_, raw) ← readInt 4 raw
  let (_, raw) ← readInt 4 raw
  let (elements, raw) ← readDimensions dimensions.toNat 1 raw
  if 1 < dimensions then throw .tooManyDimensions
  readElements read (if dimensions = 0 then 0 else elements.toNat) raw

end ArrayFormat

end PgStatement.Wire

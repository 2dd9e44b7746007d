import PgStatement.Proofs.Result
import PgStatement.Wire.Array

/-!
# Arrays are read as they were written

Bytes of an array of one dimension are read element by element: if the reader gives a value for each
element that was written, the array has just these values (`ArrayFormat.decode_encode`). Nothing is
assumed of the elements but that their lengths fit the format, which the writer looks at.
-/

namespace PgStatement.Wire

/-- So many bytes at the front are read, and the rest is left. -/
theorem readInt_append {width : Nat} {front : Bytes} (h : front.length = width) (rest : Bytes) :
    readInt width (front ++ rest) = .ok (BigEndian.toInt front, rest) := by
  rw [readInt, ← h, Bytes.take?_append]

namespace ArrayFormat

variable {α : Type} {read : Option Bytes → Except Fault α}

/-- A length is read as it was written. -/
theorem readInt_length {length : Nat} (h : length ≤ maxLength) (rest : Bytes) :
    readInt 4 (BigEndian.ofInt 4 length ++ rest) = .ok ((length : Int), rest) := by
  unfold maxLength at h
  have hpower : ((256 ^ 4 : Nat) : Int) = 4294967296 := rfl
  exact readInt_ofInt_append rest (by omega) (by omega)

/-- **Elements are read in turn**, and nothing is left after them. -/
theorem readElements_flatMap {elements : List (Option Bytes)} {values : List α}
    (h : List.Forall₂ (fun element value => read element = .ok value) elements values)
    (hlength : ∀ raw, some raw ∈ elements → raw.length ≤ maxLength) :
    readElements read elements.length (elements.flatMap elementBytes) = .ok values := by
  induction h with
  | nil => rfl
  | @cons element value elements values hread _ ih =>
    have hrest := ih fun raw hraw => hlength raw (List.mem_cons_of_mem _ hraw)
    rw [List.flatMap_cons, List.length_cons, readElements]
    cases element with
    | none =>
      have hnull : readInt 4 (elementBytes none ++ elements.flatMap elementBytes)
          = .ok (-1, elements.flatMap elementBytes) :=
        readInt_ofInt_append _ (by decide) (by decide)
      rw [hnull]
      refine bind_eq_ok_iff.mpr ⟨_, rfl, ?_⟩
      simp only
      rw [if_pos (by decide), hread]
      exact bind_eq_ok_iff.mpr ⟨value, rfl, bind_eq_ok_iff.mpr ⟨values, hrest, rfl⟩⟩
    | some raw =>
      have hfront : readInt 4 (elementBytes (some raw) ++ elements.flatMap elementBytes)
          = .ok ((raw.length : Int), raw ++ elements.flatMap elementBytes) := by
        rw [elementBytes, List.append_assoc]
        exact readInt_length (hlength raw List.mem_cons_self) _
      rw [hfront]
      refine bind_eq_ok_iff.mpr ⟨_, rfl, ?_⟩
      simp only
      rw [if_neg (by omega), Int.toNat_natCast, Bytes.take?_append]
      simp only
      rw [hread]
      exact bind_eq_ok_iff.mpr ⟨value, rfl, bind_eq_ok_iff.mpr ⟨values, hrest, rfl⟩⟩

/-- **An array is read as it was written.** -/
theorem decode_encode {elements : List (Option Bytes)} {values : List α} (lowerBound : Int)
    (elementOid : Nat) (hcount : elements.length ≤ maxLength)
    (hlength : ∀ raw, some raw ∈ elements → raw.length ≤ maxLength)
    (h : List.Forall₂ (fun element value => read element = .ok value) elements values) :
    decode read (encode lowerBound elementOid elements) = .ok values := by
  have hdimensions : ∀ rest, readInt 4 (BigEndian.ofInt 4 1 ++ rest) = .ok (1, rest) := fun rest =>
    readInt_ofInt_append rest (by decide) (by decide)
  have hflag := fun rest => readInt_append
    (BigEndian.length_ofInt 4 (if elements.any Option.isNone then 1 else 0)) rest
  have hoid := fun rest => readInt_append (BigEndian.length_ofNat 4 elementOid) rest
  have hlower := fun rest => readInt_append (BigEndian.length_ofInt 4 lowerBound) rest
  have hone : readDimensions (1 : Int).toNat 1 (BigEndian.ofInt 4 elements.length
      ++ (BigEndian.ofInt 4 lowerBound ++ elements.flatMap elementBytes))
      = .ok ((elements.length : Int), elements.flatMap elementBytes) := by
    show readDimensions 1 1 _ = _
    rw [readDimensions, readInt_length hcount]
    refine bind_eq_ok_iff.mpr ⟨_, rfl, ?_⟩
    simp only
    rw [if_neg (by omega), hlower]
    refine bind_eq_ok_iff.mpr ⟨_, rfl, ?_⟩
    simp only
    rw [if_neg (by omega), Int.one_mul]
    rfl
  unfold encode decode
  simp only [List.append_assoc]
  rw [hdimensions]
  refine bind_eq_ok_iff.mpr ⟨_, rfl, ?_⟩
  simp only
  rw [if_neg (by decide), hflag]
  refine bind_eq_ok_iff.mpr ⟨_, rfl, ?_⟩
  simp only
  rw [hoid]
  refine bind_eq_ok_iff.mpr ⟨_, rfl, ?_⟩
  simp only
  rw [hone]
  refine bind_eq_ok_iff.mpr ⟨_, rfl, ?_⟩
  simp only
  rw [if_neg (by decide), if_neg (by decide), Int.toNat_natCast]
  exact readElements_flatMap h hlength

end ArrayFormat

end PgStatement.Wire

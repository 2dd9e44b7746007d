import PgStatement.Proofs.Digits
import PgStatement.Wire.Decode

/-!
# Times of day as they are read

A time is written as hours, minutes and seconds with a colon between, and a fraction of a second
behind a point if there is one. Here is the reader of such texts: two digits or more for the hours,
which may be any number; two digits below sixty for the minutes and the seconds; and up to six
digits for the fraction, which is read in microseconds (`Clock.micros?`).

The library has two writers. One takes as many fraction digits as are needed and is used for
intervals and for times with a zone; the other takes groups of three and is used for times without a
zone. Both are read as the number of microseconds that they were written from
(`Clock.micros?_timeChars`, `Clock.micros?_chars`), so that their texts can be compared although
they look different.
-/

namespace PgStatement

-- powers are those of the core library, whatever else is imported further on
attribute [local instance (high)] instPowNat

open Text

/-- **The number that digits denote**; none if there are no digits or something else among them. -/
def Text.number? (cs : List Char) : Option Nat :=
  if !cs.isEmpty && cs.all isDecimalDigit then some (ofDecimalChars cs) else none

namespace Clock

/-! ## The reader -/

/-- Hours are written with two digits or more. -/
def hours? (cs : List Char) : Option Nat := if 2 ≤ cs.length then number? cs else none

/-- Minutes and seconds are written with two digits and are below sixty. -/
def sixtieths? (cs : List Char) : Option Nat :=
  if cs.length = 2 then (number? cs).filter (· < 60) else none

/-- A fraction of a second in microseconds: nothing, or a point and up to six digits. -/
def fraction? : List Char → Option Nat
  | [] => some 0
  | c :: cs =>
    if c = '.' ∧ cs.length ≤ 6 then (number? cs).map (· * 10 ^ (6 - cs.length)) else none

/-- Hours, minutes, seconds and microseconds in microseconds. -/
def total (hours minutes seconds micros : Nat) : Nat :=
  ((hours * 60 + minutes) * 60 + seconds) * 1000000 + micros

/-- **The microseconds of a time** as it is written. -/
def micros? (cs : List Char) : Option Nat :=
  match cs.splitOn ':' with
  | [hours, minutes, seconds] => do
    let h ← hours? hours
    let m ← sixtieths? minutes
    let s ← sixtieths? (seconds.take 2)
    let f ← fraction? (seconds.drop 2)
    return total h m s f
  | _ => none

/-! ## Numbers are read as they were written -/

variable {n width : Nat} {cs : List Char}

theorem number?_of_digits (hne : cs ≠ []) (h : ∀ c ∈ cs, isDecimalDigit c = true) :
    number? cs = some (ofDecimalChars cs) := by
  rw [number?, List.isEmpty_eq_false_iff.mpr hne, List.all_eq_true.mpr h]
  rfl

theorem number?_decimalChars (n : Nat) : number? (decimalChars n) = some n := by
  rw [number?_of_digits (decimalChars_ne_nil n) fun _ => isDecimalDigit_of_mem_decimalChars,
    ofDecimalChars_decimalChars]

theorem number?_paddedChars (hwidth : 0 < width) (n : Nat) :
    number? (paddedChars width n) = some n := by
  have hne : paddedChars width n ≠ [] :=
    List.ne_nil_of_length_pos (Nat.lt_of_lt_of_le hwidth (le_length_paddedChars width n))
  rw [number?_of_digits hne fun _ => isDecimalDigit_of_mem_paddedChars, ofDecimalChars_paddedChars]

theorem hours?_paddedChars (n : Nat) : hours? (paddedChars 2 n) = some n := by
  rw [hours?, if_pos (le_length_paddedChars 2 n), number?_paddedChars (by decide)]

theorem length_paddedChars_two (h : n < 60) : (paddedChars 2 n).length = 2 :=
  length_paddedChars (by decide) (Nat.lt_trans h (by decide))

theorem sixtieths?_paddedChars (h : n < 60) : sixtieths? (paddedChars 2 n) = some n := by
  rw [sixtieths?, if_pos (length_paddedChars_two h), number?_paddedChars (by decide)]
  exact if_pos (decide_eq_true h)

theorem fraction?_digits (hne : cs ≠ []) (h : ∀ c ∈ cs, isDecimalDigit c = true)
    (hlength : cs.length ≤ 6) :
    fraction? ('.' :: cs) = some (ofDecimalChars cs * 10 ^ (6 - cs.length)) := by
  rw [fraction?, if_pos ⟨rfl, hlength⟩, number?_of_digits hne h, Option.map_some]

/-- No colon is among digits, nor in a fraction. -/
theorem colon_not_mem (h : ∀ c ∈ cs, isDecimalDigit c = true) : ':' ∉ cs :=
  fun hmem => absurd (h _ hmem) (by decide)

theorem colon_not_mem_point (h : ∀ c ∈ cs, isDecimalDigit c = true) : ':' ∉ '.' :: cs :=
  List.not_mem_cons_of_ne_of_not_mem (by decide) (colon_not_mem h)

/-- **A time is read as it was written**, whatever way its fraction is written. -/
theorem micros?_written {hours minutes seconds micros : Nat} {fraction : List Char}
    (hminutes : minutes < 60) (hseconds : seconds < 60)
    (hfraction : fraction? fraction = some micros)
    (hcolon : ':' ∉ fraction) :
    micros? (paddedChars 2 hours ++ ':' :: paddedChars 2 minutes ++ ':' :: paddedChars 2 seconds
      ++ fraction) = some (total hours minutes seconds micros) := by
  have hparts : (paddedChars 2 hours ++ ':' :: paddedChars 2 minutes ++ ':' :: paddedChars 2 seconds
      ++ fraction).splitOn ':'
      = [paddedChars 2 hours, paddedChars 2 minutes, paddedChars 2 seconds ++ fraction] := by
    have hgroups : ∀ group ∈ [paddedChars 2 hours, paddedChars 2 minutes,
        paddedChars 2 seconds ++ fraction], ':' ∉ group := by
      have hdigits : ∀ n, ':' ∉ paddedChars 2 n := fun n =>
        colon_not_mem fun _ => isDecimalDigit_of_mem_paddedChars
      simp [hdigits, hcolon]
    have hjoined := List.splitOn_intercalate ':' hgroups (List.cons_ne_nil _ _)
    rw [List.intercalate_cons_cons, List.intercalate_cons_cons,
      List.intercalate_singleton] at hjoined
    simpa only [List.append_assoc, List.cons_append, List.nil_append] using hjoined
  have hlength := length_paddedChars_two hseconds
  rw [micros?, hparts]
  simp only [List.take_left' hlength, List.drop_left' hlength, hours?_paddedChars,
    sixtieths?_paddedChars hminutes, sixtieths?_paddedChars hseconds, hfraction]
  rfl

/-! ## As many digits as are needed -/

/-- Digits are those without the zeros at their end, and these zeros. -/
theorem exists_trimZeros_append (cs : List Char) :
    ∃ count, cs = Wire.trimZeros cs ++ List.replicate count '0' := by
  refine ⟨(cs.reverse.takeWhile (· == '0')).length, ?_⟩
  have hzeros : cs.reverse.takeWhile (· == '0')
      = List.replicate (cs.reverse.takeWhile (· == '0')).length '0' := by
    refine List.eq_replicate_of_mem fun c hc => ?_
    exact beq_iff_eq.mp (List.all_eq_true.mp List.all_takeWhile c hc)
  rw [Wire.trimZeros, ← List.reverse_replicate, ← hzeros, ← List.reverse_append,
    List.takeWhile_append_dropWhile, List.reverse_reverse]

theorem isDecimalDigit_of_mem_trimZeros {c : Char} (h : c ∈ Wire.trimZeros (paddedChars width n)) :
    isDecimalDigit c = true := by
  obtain ⟨count, hcount⟩ := exists_trimZeros_append (paddedChars width n)
  refine isDecimalDigit_of_mem_paddedChars (?_ : c ∈ paddedChars width n)
  rw [hcount]
  exact List.mem_append_left _ h

/-- **Zeros at the end of a fraction** need not be written. -/
theorem fraction?_trimZeros (hlow : 0 < n) (hhigh : n < 1000000) :
    fraction? ('.' :: Wire.trimZeros (paddedChars 6 n)) = some n := by
  obtain ⟨count, hcount⟩ := exists_trimZeros_append (paddedChars 6 n)
  have hlength : (Wire.trimZeros (paddedChars 6 n)).length + count = 6 := by
    have h := congrArg List.length hcount
    rw [length_paddedChars (by decide) hhigh, List.length_append, List.length_replicate] at h
    exact h.symm
  -- What the zeros were worth is what the reader multiplies by for the digits that are missing.
  have hvalue : ofDecimalChars (Wire.trimZeros (paddedChars 6 n)) * 10 ^ count = n := by
    have h := congrArg ofDecimalChars hcount
    rw [ofDecimalChars_paddedChars, ofDecimalChars_append, ofDecimalChars_replicate,
      List.length_replicate, Nat.add_zero] at h
    exact h.symm
  have hne : Wire.trimZeros (paddedChars 6 n) ≠ [] := by
    intro hnil
    rw [hnil, ofDecimalChars, List.foldl_nil, Nat.zero_mul] at hvalue
    omega
  have hcut : 6 - (Wire.trimZeros (paddedChars 6 n)).length = count := by omega
  rw [fraction?_digits hne (fun _ => isDecimalDigit_of_mem_trimZeros) (by omega), hcut, hvalue]

/-- **A time with as many fraction digits as are needed** is read as the microseconds that it is
of. -/
theorem micros?_timeChars (micros : Nat) : micros? (Wire.timeChars micros) = some micros := by
  have htotal : total (micros / 3600000000) (micros % 3600000000 / 60000000)
      (micros % 60000000 / 1000000) (micros % 1000000) = micros := by
    unfold total
    omega
  simp only [Wire.timeChars]
  by_cases hfraction : micros % 1000000 = 0
  · have hnone : fraction? [] = some 0 := rfl
    rw [hfraction] at htotal
    rw [if_pos hfraction, micros?_written (by omega) (by omega) hnone List.not_mem_nil, htotal]
  · rw [if_neg hfraction, micros?_written (by omega) (by omega)
      (fraction?_trimZeros (by omega) (by omega))
      (colon_not_mem_point fun _ => isDecimalDigit_of_mem_trimZeros), htotal]

/-- A time is written with digits, colons and a point. -/
theorem mem_timeChars {c : Char} (h : c ∈ Wire.timeChars n) :
    isDecimalDigit c = true ∨ c = ':' ∨ c = '.' := by
  simp only [Wire.timeChars, List.mem_append, List.mem_cons] at h
  obtain ((h | rfl | h) | rfl | h) | h := h
  · exact .inl (isDecimalDigit_of_mem_paddedChars h)
  · exact .inr (.inl rfl)
  · exact .inl (isDecimalDigit_of_mem_paddedChars h)
  · exact .inr (.inl rfl)
  · exact .inl (isDecimalDigit_of_mem_paddedChars h)
  · split at h
    · cases h
    · obtain rfl | h := List.mem_cons.mp h
      · exact .inr (.inr rfl)
      · exact .inl (isDecimalDigit_of_mem_trimZeros h)

/-! ## Digits in groups of three -/

/-- A fraction of a second is read from any number of digits that has room for it. -/
theorem fraction?_paddedChars (hwidth : 0 < width) (hsix : width ≤ 6) (h : n < 10 ^ width) :
    fraction? ('.' :: paddedChars width n) = some (n * 10 ^ (6 - width)) := by
  have hlength := length_paddedChars hwidth h
  have hne : paddedChars width n ≠ [] := List.ne_nil_of_length_pos (by omega)
  rw [fraction?_digits hne (fun _ => isDecimalDigit_of_mem_paddedChars) (by omega),
    ofDecimalChars_paddedChars, hlength]

/-- Whole microseconds are written with six digits at most. -/
theorem fraction?_fractionChars (h : n < 1000000) :
    fraction? (fractionChars (n * 1000)) = some n := by
  unfold fractionChars
  split
  · rename_i hzero
    rw [show n = 0 by omega]
    rfl
  · split
    · rename_i hmillis
      rw [fraction?_paddedChars (by decide) (by decide) (by omega)]
      exact congrArg some (by omega)
    · rw [if_pos (Nat.mul_mod_left n 1000), Nat.mul_div_cancel n (by decide),
        fraction?_paddedChars (by decide) (by decide) h]
      exact congrArg some (Nat.mul_one n)

theorem colon_not_mem_fractionChars (nano : Nat) : ':' ∉ fractionChars nano := by
  have hdigits : ∀ width n, ':' ∉ '.' :: paddedChars width n := fun width n =>
    colon_not_mem_point fun _ => isDecimalDigit_of_mem_paddedChars
  unfold fractionChars
  split
  · exact nofun
  · split
    · exact hdigits _ _
    · split
      · exact hdigits _ _
      · exact hdigits _ _

/-- **A time with fraction digits in groups of three** is read as the microseconds that it is of. -/
theorem micros?_chars (micros : Nat) :
    micros? (chars (micros / 1000000) (micros % 1000000 * 1000)) = some micros := by
  have htotal : total (micros / 1000000 / 3600) (micros / 1000000 / 60 % 60)
      (micros / 1000000 % 60) (micros % 1000000) = micros := by
    unfold total
    omega
  have hleap : ¬1000000000 ≤ micros % 1000000 * 1000 := by omega
  rw [chars, if_neg hleap, hmsChars, micros?_written (by omega) (by omega)
    (fraction?_fractionChars (by omega)) (colon_not_mem_fractionChars _), htotal]

end Clock

end PgStatement

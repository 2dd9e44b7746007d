import PgStatement.Text.Digits

/-!
# Laws of digits

Digits and the numbers that they denote. Reading undoes writing (`ofDecimalChars_paddedChars`), and
since as many digits as there are cannot denote the same number twice (`ofDecimalChars_inj`),
writing undoes reading as well: with the zeros in front that were there, or without any if there
were none.

A reader takes digits for as long as there are some, as it does with the characters of a word
(`span_append`). Where words stand with a separator between, it reads one after the other
(`mapM_eq_some_map`).
-/

namespace PgStatement.Text

-- powers are those of the core library, whatever else is imported further on
attribute [local instance (high)] instPowNat

/-- The digits of the library are those of the core library. -/
theorem isDecimalDigit_eq_isDigit (c : Char) : isDecimalDigit c = c.isDigit := rfl

/-- Decimal digits are digits. -/
theorem isDecimalDigit_of_mem_decimalChars {n : Nat} {c : Char} (h : c ∈ decimalChars n) :
    isDecimalDigit c = true :=
  Nat.isDigit_of_mem_toDigits (by decide) (by decide) h

/-- Every number has a digit. -/
theorem decimalChars_ne_nil (n : Nat) : decimalChars n ≠ [] := Nat.toDigits_ne_nil

/-- One or more decimal digits. -/
def IsDigits (cs : List Char) : Prop := cs ≠ [] ∧ ∀ c ∈ cs, isDecimalDigit c = true

/-- No digit stands behind a zero at the beginning. -/
def IsUnpadded (cs : List Char) : Prop :=
  cs.head? = some '0' → ∀ c ∈ cs.tail.head?, isDecimalDigit c = false

/-- A number in so many digits. -/
def IsNumeral (width n : Nat) (cs : List Char) : Prop :=
  cs.length = width ∧ (∀ c ∈ cs, isDecimalDigit c = true) ∧ ofDecimalChars cs = n

theorem isDigits_decimalChars (n : Nat) : IsDigits (decimalChars n) :=
  ⟨decimalChars_ne_nil n, fun _ => isDecimalDigit_of_mem_decimalChars⟩

/-- An integer is written with a minus sign if it is negative. -/
theorem toList_signedDecimal (i : Int) :
    (signedDecimal i).toList = (if i < 0 then ['-'] else []) ++ decimalChars i.natAbs := by
  unfold signedDecimal
  split
  · rw [String.toList_append, toList_decimal]
    rfl
  · rw [toList_decimal]
    rfl

variable {cs as bs : List Char} {c : Char}

/-- **A run of characters ends** where one stands that does not go it on. -/
theorem span_append {p : Char → Bool} (has : ∀ c ∈ as, p c = true)
    (hbs : ∀ c ∈ bs.head?, p c = false) :
    (as ++ bs).takeWhile p = as ∧ (as ++ bs).dropWhile p = bs := by
  rw [List.takeWhile_append_of_pos has, List.dropWhile_append_of_pos has]
  cases bs with
  | nil => exact ⟨List.append_nil as, rfl⟩
  | cons c bs =>
    have hc := Bool.eq_false_iff.mp (hbs c rfl)
    rw [List.takeWhile_cons_of_neg hc, List.dropWhile_cons_of_neg hc]
    exact ⟨List.append_nil as, rfl⟩

/-- **Words that are read** one by one are all read. -/
theorem mapM_eq_some_map {α β : Type} {read? : α → Option β} {value : α → β} {words : List α}
    (h : ∀ word ∈ words, read? word = some (value word)) :
    words.mapM read? = some (words.map value) := by
  induction words with
  | nil => rfl
  | cons word words ih =>
    rw [List.forall_mem_cons] at h
    rw [List.mapM_cons, h.1, ih h.2]
    rfl

/-- What stands in words with a separator between stands in one of them or in the separator. -/
theorem mem_intercalate {separator : List Char} {words : List (List Char)}
    (h : c ∈ separator.intercalate words) : c ∈ separator ∨ ∃ word ∈ words, c ∈ word := by
  induction words with
  | nil => cases h
  | cons word words ih =>
    cases words with
    | nil =>
      rw [List.intercalate_singleton] at h
      exact .inr ⟨word, List.mem_cons_self, h⟩
    | cons next words =>
      rw [List.intercalate_cons_cons, List.mem_append, List.mem_append] at h
      obtain (h | h) | h := h
      · exact .inr ⟨word, List.mem_cons_self, h⟩
      · exact .inl h
      · exact (ih h).imp_right fun ⟨word, hword, h⟩ => ⟨word, List.mem_cons_of_mem _ hword, h⟩

theorem ofDecimalChars_eq_ofDigitChars (cs : List Char) :
    ofDecimalChars cs = Nat.ofDigitChars 10 cs 0 :=
  Nat.ofDigitChars_eq_foldl.symm

theorem ofDecimalChars_append (as bs : List Char) :
    ofDecimalChars (as ++ bs) = ofDecimalChars as * 10 ^ bs.length + ofDecimalChars bs := by
  simp only [ofDecimalChars_eq_ofDigitChars]
  rw [Nat.ofDigitChars_append, Nat.ofDigitChars_eq_ofDigitChars_zero, Nat.mul_comm]

theorem ofDecimalChars_cons (c : Char) (cs : List Char) :
    ofDecimalChars (c :: cs) = digitValue c * 10 ^ cs.length + ofDecimalChars cs := by
  have hdigit : ofDecimalChars [c] = digitValue c := Nat.zero_add _
  rw [← hdigit]
  exact ofDecimalChars_append [c] cs

theorem ofDecimalChars_replicate (count : Nat) : ofDecimalChars (List.replicate count '0') = 0 := by
  rw [ofDecimalChars_eq_ofDigitChars, Nat.ofDigitChars_replicate_zero, Nat.mul_zero]

/-- A number reads back from its digits. -/
theorem ofDecimalChars_decimalChars (n : Nat) : ofDecimalChars (decimalChars n) = n := by
  rw [ofDecimalChars_eq_ofDigitChars]
  exact Nat.ofDigitChars_ten_toDigits

theorem ofDecimalChars_paddedChars (width n : Nat) : ofDecimalChars (paddedChars width n) = n := by
  rw [paddedChars, List.leftpad, ofDecimalChars_append, ofDecimalChars_replicate, Nat.zero_mul,
    Nat.zero_add, ofDecimalChars_decimalChars]

theorem digit_bounds (h : isDecimalDigit c = true) : '0'.toNat ≤ c.toNat ∧ c.toNat ≤ '9'.toNat := by
  rw [isDecimalDigit, Bool.and_eq_true, decide_eq_true_eq, decide_eq_true_eq] at h
  exact h

theorem digitValue_lt (h : isDecimalDigit c = true) : digitValue c < 10 := by
  obtain ⟨hlow, hhigh⟩ := digit_bounds h
  unfold digitValue
  have h9 : '9'.toNat = '0'.toNat + 9 := rfl
  omega

theorem digitValue_inj {d : Char} (hc : isDecimalDigit c = true) (hd : isDecimalDigit d = true)
    (h : digitValue c = digitValue d) : c = d := by
  have hc := (digit_bounds hc).1
  have hd := (digit_bounds hd).1
  unfold digitValue at h
  exact Char.toNat_inj.mp (by omega)

theorem ofDecimalChars_lt (h : ∀ c ∈ cs, isDecimalDigit c = true) :
    ofDecimalChars cs < 10 ^ cs.length := by
  induction cs with
  | nil => exact Nat.one_pos
  | cons c cs ih =>
    rw [List.forall_mem_cons] at h
    have hrest := ih h.2
    have hdigit : (digitValue c + 1) * 10 ^ cs.length ≤ 10 * 10 ^ cs.length :=
      Nat.mul_le_mul_right _ (digitValue_lt h.1)
    rw [ofDecimalChars_cons, List.length_cons, Nat.pow_succ']
    rw [Nat.add_mul] at hdigit
    omega

/-- **Digits that are cut off** are divided off. -/
theorem ofDecimalChars_append_div (as : List Char) (h : ∀ c ∈ bs, isDecimalDigit c = true) :
    ofDecimalChars (as ++ bs) / 10 ^ bs.length = ofDecimalChars as := by
  rw [ofDecimalChars_append, Nat.add_comm, Nat.add_mul_div_right _ _ (Nat.pow_pos (by decide)),
    Nat.div_eq_of_lt (ofDecimalChars_lt h), Nat.zero_add]

/-- **Digits are determined** by their number and what they denote. -/
theorem ofDecimalChars_inj (ha : ∀ c ∈ as, isDecimalDigit c = true)
    (hb : ∀ c ∈ bs, isDecimalDigit c = true) (hlength : as.length = bs.length)
    (h : ofDecimalChars as = ofDecimalChars bs) : as = bs := by
  induction as generalizing bs with
  | nil => exact (List.eq_nil_of_length_eq_zero hlength.symm).symm
  | cons a as ih =>
    cases bs with
    | nil => cases hlength
    | cons b bs =>
      rw [List.forall_mem_cons] at ha hb
      have hlength : as.length = bs.length := Nat.succ.inj hlength
      have halt := ofDecimalChars_lt ha.2
      have hblt := ofDecimalChars_lt hb.2
      rw [ofDecimalChars_cons, ofDecimalChars_cons, hlength] at h
      rw [hlength] at halt
      -- the other digits denote the remainder, and the first one is what is left
      have hrest : ofDecimalChars as = ofDecimalChars bs := by
        have hmod := congrArg (· % 10 ^ bs.length) h
        simpa only [Nat.mul_add_mod_of_lt halt, Nat.mul_add_mod_of_lt hblt] using hmod
      rw [hrest] at h
      have hfirst := Nat.eq_of_mul_eq_mul_right (Nat.pow_pos (by decide)) (Nat.add_right_cancel h)
      rw [digitValue_inj ha.1 hb.1 hfirst, ih ha.2 hb.2 hlength hrest]

theorem isDecimalDigit_of_mem_paddedChars {width n : Nat} (h : c ∈ paddedChars width n) :
    isDecimalDigit c = true := by
  rw [paddedChars, List.leftpad, List.mem_append] at h
  rcases h with h | h
  · rw [List.eq_of_mem_replicate h]
    rfl
  · exact isDecimalDigit_of_mem_decimalChars h

theorem le_length_paddedChars (width n : Nat) : width ≤ (paddedChars width n).length := by
  rw [paddedChars, List.length_leftpad]
  exact Nat.le_max_left _ _

theorem length_paddedChars {width n : Nat} (hwidth : 0 < width) (h : n < 10 ^ width) :
    (paddedChars width n).length = width := by
  have hlength := (Nat.length_toDigits_le_iff (by decide) hwidth).mpr h
  rw [paddedChars, List.length_leftpad]
  exact Nat.max_eq_left hlength

theorem isNumeral_paddedChars {width n : Nat} (hwidth : 0 < width) (h : n < 10 ^ width) :
    IsNumeral width n (paddedChars width n) :=
  ⟨length_paddedChars hwidth h, fun _ => isDecimalDigit_of_mem_paddedChars,
    ofDecimalChars_paddedChars width n⟩

/-- **Digits are written again**, with the zeros in front that were there. -/
theorem paddedChars_ofDecimalChars (h : ∀ c ∈ cs, isDecimalDigit c = true) (hne : cs ≠ []) :
    paddedChars cs.length (ofDecimalChars cs) = cs := by
  refine ofDecimalChars_inj (fun _ => isDecimalDigit_of_mem_paddedChars) h ?_
    (ofDecimalChars_paddedChars _ _)
  exact length_paddedChars (List.length_pos_iff.mpr hne) (ofDecimalChars_lt h)

/-- **Digits without a zero in front** are those of the number that they denote. -/
theorem decimalChars_ofDecimalChars (h : ∀ c ∈ cs, isDecimalDigit c = true)
    (hne : cs ≠ []) (hzero : cs.head? ≠ some '0') : decimalChars (ofDecimalChars cs) = cs := by
  have hpadded := paddedChars_ofDecimalChars h hne
  rw [paddedChars, List.leftpad] at hpadded
  cases hcount : cs.length - (decimalChars (ofDecimalChars cs)).length with
  | zero =>
    rw [hcount] at hpadded
    exact hpadded
  | succ count =>
    rw [hcount, List.replicate_succ] at hpadded
    refine absurd ?_ hzero
    rw [← hpadded]
    rfl

/-- Only zero has a zero in front. -/
theorem head?_decimalChars {n : Nat} (h : 0 < n) : (decimalChars n).head? ≠ some '0' := by
  intro hzero
  cases hchars : decimalChars n with
  | nil => exact decimalChars_ne_nil n hchars
  | cons c rest =>
    rw [hchars, List.head?_cons, Option.some.injEq] at hzero
    have hvalue := ofDecimalChars_decimalChars n
    rw [hchars, ofDecimalChars_cons, hzero] at hvalue
    have hdigit : digitValue '0' = 0 := rfl
    rw [hdigit, Nat.zero_mul, Nat.zero_add] at hvalue
    have hrest : rest ≠ [] := by
      rintro rfl
      exact Nat.ne_of_lt h hvalue
    have hdigits : ∀ c ∈ rest, isDecimalDigit c = true := fun c hc =>
      isDecimalDigit_of_mem_decimalChars (hchars ▸ List.mem_cons_of_mem _ hc)
    have hlt := ofDecimalChars_lt hdigits
    rw [hvalue] at hlt
    -- the number has so few digits that the zero cannot be one of them
    have hlength := (Nat.length_toDigits_le_iff (by decide) (List.length_pos_iff.mpr hrest)).mpr hlt
    have hchars' : (Nat.toDigits 10 n).length = rest.length + 1 := congrArg List.length hchars
    omega

theorem isUnpadded_of_head? (h : cs.head? ≠ some '0') : IsUnpadded cs :=
  fun hzero => absurd hzero h

theorem isUnpadded_decimalChars (n : Nat) : IsUnpadded (decimalChars n) := by
  obtain rfl | hpos := Nat.eq_zero_or_pos n
  · exact fun _ => nofun
  · exact isUnpadded_of_head? (head?_decimalChars hpos)

end PgStatement.Text

import PgStatement.Double.Layout
import PgStatement.Proofs.Digits
import PgStatement.Proofs.Double.Shortest

/-!
# What floating-point texts denote

A reader of a decimal number sees digits, a point, more digits and perhaps an exponent of ten, and
what these denote is a rational number (`Text.IsUnsigned`, `Text.IsScientific`). The text of a
finite floating-point number is its sign and such a number, and of all floating-point numbers this
one is nearest to what is denoted: whoever reads the text and rounds has the number again
(`Double.toList_text_literal`, `Double.toList_text_json`).

No layout puts zeros in front that it need not have, so that the texts are numbers of JSON as well.
-/

namespace PgStatement

namespace Text

/-- **A decimal number without a sign**: digits, perhaps with a point and more digits behind, and
what they denote. -/
inductive IsUnsigned : List Char → ℚ → Prop where
  | integral {digits : List Char} (h : IsDigits digits) : IsUnsigned digits (ofDecimalChars digits)
  | fractional {digits fraction : List Char} (h : IsDigits digits) (hfraction : IsDigits fraction) :
    IsUnsigned (digits ++ '.' :: fraction)
      (ofDecimalChars digits + ofDecimalChars fraction / 10 ^ fraction.length)

/-- **A decimal number without a sign**, perhaps with an exponent of ten, and what it denotes. -/
inductive IsScientific : List Char → ℚ → Prop where
  | plain {cs : List Char} {q : ℚ} (h : IsUnsigned cs q) (hunpadded : IsUnpadded cs) :
    IsScientific cs q
  | exponent {cs sign digits : List Char} {q : ℚ} {e : ℤ} (h : IsUnsigned cs q)
    (hunpadded : IsUnpadded cs)
    (hsign : sign = ['-'] ∧ e ≤ 0 ∨ (sign = [] ∨ sign = ['+']) ∧ 0 ≤ e) (hdigits : IsDigits digits)
    (hexponent : ofDecimalChars digits = e.natAbs) :
    IsScientific (cs ++ 'e' :: (sign ++ digits)) (q * 10 ^ e)

/-- Digits with a point among them denote a quotient. -/
theorem isUnsigned_of_point {integral fraction : List Char} (hintegral : IsDigits integral)
    (hfraction : IsDigits fraction) :
    IsUnsigned (integral ++ '.' :: fraction)
      (ofDecimalChars (integral ++ fraction) / 10 ^ fraction.length) := by
  have hvalue : (ofDecimalChars (integral ++ fraction) / 10 ^ fraction.length : ℚ)
      = ofDecimalChars integral + ofDecimalChars fraction / 10 ^ fraction.length := by
    rw [ofDecimalChars_append]
    push_cast
    field_simp
  exact hvalue ▸ .fractional hintegral hfraction

/-- A number begins with a digit. -/
theorem IsUnsigned.exists_digit {cs : List Char} {q : ℚ} (h : IsUnsigned cs q) :
    ∃ c rest, cs = c :: rest ∧ isDecimalDigit c = true := by
  have hcons {digits : List Char} (hdigits : IsDigits digits) (rest : List Char) :
      ∃ c more, digits ++ rest = c :: more ∧ isDecimalDigit c = true := by
    obtain ⟨c, more, rfl⟩ := List.exists_cons_of_ne_nil hdigits.1
    exact ⟨c, more ++ rest, rfl, hdigits.2 c List.mem_cons_self⟩
  cases h with
  | integral hdigits =>
    rw [← List.append_nil cs]
    exact hcons hdigits []
  | fractional hdigits _ => exact hcons hdigits _

end Text

namespace Layout

open Text (IsDigits IsUnsigned IsUnpadded IsScientific ofDecimalChars)

variable {d : DecimalMagnitude}

/-- Digits that have a point somewhere in between. -/
theorem isDigits_split {padded : List Char} {places : Nat}
    (hdigits : ∀ c ∈ padded, Text.isDecimalDigit c = true) (hplaces : 0 < places)
    (hlength : places < padded.length) :
    IsDigits (padded.take (padded.length - places))
      ∧ IsDigits (padded.drop (padded.length - places)) := by
  refine ⟨⟨?_, fun c hc => hdigits c (List.mem_of_mem_take hc)⟩,
    ⟨?_, fun c hc => hdigits c (List.mem_of_mem_drop hc)⟩⟩
  · rw [ne_eq, ← List.length_eq_zero_iff, List.length_take]
    omega
  · rw [ne_eq, ← List.length_eq_zero_iff, List.length_drop]
    omega

/-- Without an exponent, and without a point that is needed. -/
theorem plainChars_of_nonneg (pointZero : Bool) {exponent : Nat} (h : d.exponent = exponent) :
    plainChars pointZero d = Text.decimalChars d.digits ++ List.replicate exponent '0'
      ++ (if pointZero then ['.', '0'] else []) := by
  rw [plainChars, h, if_pos (Int.natCast_nonneg _), Int.toNat_natCast]

/-- With so many digits behind the point, and one more at least. -/
theorem plainChars_of_neg (pointZero : Bool) {places : Nat} (hplaces : 0 < places)
    (h : d.exponent = -places) :
    ∃ padded, padded = Text.paddedChars (places + 1) d.digits ∧ plainChars pointZero d
      = padded.take (padded.length - places) ++ '.' :: padded.drop (padded.length - places) := by
  refine ⟨_, rfl, ?_⟩
  rw [plainChars, if_neg (by omega), h, Int.neg_neg, Int.toNat_natCast]
  rfl

theorem exponent_cases (d : DecimalMagnitude) :
    (∃ exponent : Nat, d.exponent = exponent)
      ∨ ∃ places : Nat, 0 < places ∧ d.exponent = -places := by
  obtain h | h := lt_or_ge d.exponent 0
  · exact .inr ⟨d.exponent.natAbs, by omega⟩
  · exact .inl ⟨d.exponent.natAbs, by omega⟩

/-- **A number that is written without an exponent** denotes itself. -/
theorem isUnsigned_plainChars (pointZero : Bool) (d : DecimalMagnitude) :
    IsUnsigned (plainChars pointZero d) d.number := by
  obtain ⟨exponent, hexponent⟩ | ⟨places, hplaces, hexponent⟩ := exponent_cases d
  · have hdigits : IsDigits (Text.decimalChars d.digits ++ List.replicate exponent '0') := by
      refine ⟨List.append_ne_nil_of_left_ne_nil (Text.decimalChars_ne_nil _) _,
        List.forall_mem_append.mpr ⟨(Text.isDigits_decimalChars _).2, fun c hc => ?_⟩⟩
      rw [List.eq_of_mem_replicate hc]
      rfl
    have hvalue : ofDecimalChars (Text.decimalChars d.digits ++ List.replicate exponent '0')
        = d.number := by
      rw [Text.ofDecimalChars_append, Text.ofDecimalChars_replicate,
        Text.ofDecimalChars_decimalChars, List.length_replicate, DecimalMagnitude.number, hexponent,
        zpow_natCast]
      push_cast
      ring
    rw [plainChars_of_nonneg pointZero hexponent, ← hvalue]
    cases pointZero with
    | false =>
      rw [if_neg Bool.false_ne_true, List.append_nil]
      exact .integral hdigits
    | true =>
      have hpoint := IsUnsigned.fractional hdigits (Text.isDigits_decimalChars 0)
      have hzero : ofDecimalChars (Text.decimalChars 0) = 0 := rfl
      rw [hzero, Nat.cast_zero, zero_div, add_zero] at hpoint
      exact hpoint
  · obtain ⟨padded, hpadded, hchars⟩ := plainChars_of_neg pointZero hplaces hexponent
    have hlength : places < padded.length := hpadded ▸ Text.le_length_paddedChars _ _
    obtain ⟨hintegral, hfraction⟩ := isDigits_split
      (fun c hc => Text.isDecimalDigit_of_mem_paddedChars (hpadded ▸ hc)) hplaces hlength
    have hpoint := Text.isUnsigned_of_point hintegral hfraction
    have hnumber : d.number = ofDecimalChars padded / 10 ^ places := by
      rw [hpadded, Text.ofDecimalChars_paddedChars, DecimalMagnitude.number, hexponent, zpow_neg,
        zpow_natCast, div_eq_mul_inv]
    rw [List.take_append_drop, List.length_drop, Nat.sub_sub_self hlength.le] at hpoint
    rw [hchars, hnumber]
    exact hpoint

/-- A number that is written without an exponent has a point if an integral one has it too. -/
theorem point_mem_plainChars (d : DecimalMagnitude) : '.' ∈ plainChars true d := by
  obtain ⟨exponent, hexponent⟩ | ⟨places, hplaces, hexponent⟩ := exponent_cases d
  · rw [plainChars_of_nonneg true hexponent, if_pos rfl]
    exact List.mem_append_right _ List.mem_cons_self
  · obtain ⟨padded, -, hchars⟩ := plainChars_of_neg true hplaces hexponent
    rw [hchars]
    exact List.mem_append_right _ List.mem_cons_self

/-- No zeros are put in front but the one before the point. -/
theorem isUnpadded_plainChars (pointZero : Bool) (h : d.digits ≠ 0 ∨ d.exponent = 0) :
    IsUnpadded (plainChars pointZero d) := by
  obtain ⟨exponent, hexponent⟩ | ⟨places, hplaces, hexponent⟩ := exponent_cases d
  · rw [plainChars_of_nonneg pointZero hexponent]
    obtain hzero | hpos := Nat.eq_zero_or_pos d.digits
    · obtain rfl : exponent = 0 := by omega
      rw [hzero]
      cases pointZero with
      | false => exact fun _ => nofun
      | true => rintro - _ ⟨⟩; rfl
    · refine Text.isUnpadded_of_head? ?_
      rw [List.append_assoc, List.head?_append_of_ne_nil _ (Text.decimalChars_ne_nil _)]
      exact Text.head?_decimalChars hpos
  · obtain ⟨padded, hpadded, hchars⟩ := plainChars_of_neg pointZero hplaces hexponent
    have hpos : 0 < d.digits := by omega
    rw [hchars]
    by_cases hshort : padded.length ≤ places + 1
    · have hlength : padded.length = places + 1 := by
        refine le_antisymm hshort ?_
        rw [hpadded, Text.paddedChars, List.length_leftpad]
        exact Nat.le_max_left _ _
      obtain ⟨first, rest, rfl⟩ : ∃ first rest, padded = first :: rest :=
        List.exists_cons_of_length_eq_add_one hlength
      rw [hlength, Nat.add_sub_cancel_left]
      rintro - _ ⟨⟩
      rfl
    · have hlong : places + 1 ≤ (Text.decimalChars d.digits).length := by
        rw [hpadded, Text.paddedChars, List.length_leftpad] at hshort
        omega
      rw [Text.paddedChars_of_le hlong] at hpadded
      refine Text.isUnpadded_of_head? ?_
      rw [List.head?_append_of_ne_nil, List.head?_take, if_neg (by omega), hpadded]
      · exact Text.head?_decimalChars hpos
      · rw [ne_eq, ← List.length_eq_zero_iff, List.length_take]
        omega

/-- **A number that is written with an exponent** denotes itself. -/
theorem isScientific_scientificChars (plusSign : Bool) (h : d.digits ≠ 0) :
    IsScientific (scientificChars plusSign d) d.number := by
  have hdigits := Text.isDigits_decimalChars d.digits
  have hhead := Text.head?_decimalChars (Nat.pos_of_ne_zero h)
  have hvalue := Text.ofDecimalChars_decimalChars d.digits
  rw [scientificChars]
  generalize Text.decimalChars d.digits = digits at hdigits hhead hvalue ⊢
  obtain ⟨hne, hdigits⟩ := hdigits
  obtain ⟨first, rest, rfl⟩ := List.exists_cons_of_ne_nil hne
  rw [List.forall_mem_cons] at hdigits
  have hfirst : IsDigits [first] := ⟨List.cons_ne_nil _ _, List.forall_mem_singleton.mpr hdigits.1⟩
  generalize he : d.exponent + ((first :: rest).length - 1 : Nat) = e
  have hnumber : d.number = ofDecimalChars (first :: rest) / 10 ^ rest.length * 10 ^ e := by
    rw [hvalue, DecimalMagnitude.number, ← he, List.length_cons, Nat.add_sub_cancel,
      zpow_add₀ (by norm_num), zpow_natCast]
    field_simp
  have hsign : ((if e < 0 then ['-'] else if plusSign then ['+'] else []) = ['-'] ∧ e ≤ 0)
      ∨ (((if e < 0 then ['-'] else if plusSign then ['+'] else []) = [])
        ∨ ((if e < 0 then ['-'] else if plusSign then ['+'] else []) = ['+'])) ∧ 0 ≤ e := by
    by_cases hneg : e < 0
    · rw [if_pos hneg]
      exact .inl ⟨rfl, hneg.le⟩
    · rw [if_neg hneg]
      cases plusSign with
      | false => exact .inr ⟨.inl rfl, not_lt.mp hneg⟩
      | true => exact .inr ⟨.inr rfl, not_lt.mp hneg⟩
  have hexponent := Text.ofDecimalChars_decimalChars e.natAbs
  rw [hnumber, List.append_assoc, List.cons_append]
  cases rest with
  | nil =>
    rw [List.length_nil, pow_zero, div_one]
    exact .exponent (.integral hfirst) (Text.isUnpadded_of_head? hhead) hsign
      (Text.isDigits_decimalChars _) hexponent
  | cons second rest =>
    exact .exponent (Text.isUnsigned_of_point hfirst ⟨List.cons_ne_nil _ _, hdigits.2⟩)
      (Text.isUnpadded_of_head? hhead) hsign (Text.isDigits_decimalChars _) hexponent

theorem e_mem_scientificChars (plusSign : Bool) (d : DecimalMagnitude) :
    'e' ∈ scientificChars plusSign d := by
  rw [scientificChars, List.append_assoc, List.cons_append]
  exact List.mem_append_right _ List.mem_cons_self

end Layout
namespace Double

open Text (IsUnsigned IsScientific)

variable {d : Double}

/-- Zero is the only pattern with the significand zero, and no other one is nearest to zero. -/
theorem digits_ne_zero_of_isNearest {decimal : DecimalMagnitude} {pattern : Nat}
    (hpos : 0 < pattern)
    (h : Format.binary64.IsNearest decimal.number pattern) : decimal.digits ≠ 0 := by
  intro hdigits
  have hmono := Format.binary64.number_strictMono hpos
  have hzero : Format.binary64.number 0 = 0 := Format.number_zero _
  rw [hzero] at hmono
  have hnumber : decimal.number = 0 := by
    rw [DecimalMagnitude.number, hdigits, Nat.cast_zero, zero_mul]
  have hnear := h 0 (Nat.zero_le _) (Nat.ne_of_lt hpos)
  rw [hnumber, hzero, zero_sub, abs_neg, sub_zero, abs_zero, abs_of_pos hmono] at hnear
  obtain hless | ⟨heq, -⟩ := hnear
  · exact absurd hless (not_lt.mpr hmono.le)
  · exact absurd heq hmono.ne'

/-- **The text of a finite number** is its sign and a decimal that it is nearest to. -/
theorem exists_decimal (l : Layout) (h : d.isFinite = true) :
    ∃ decimal : DecimalMagnitude,
      (d.text l).toList = (if d.isNegative then ['-'] else []) ++ l.decimalChars decimal
        ∧ (decimal.digits ≠ 0 ∨ decimal.exponent = 0)
        ∧ Format.binary64.IsNearest decimal.number d.pattern := by
  have hmagnitude : ∃ m, d.magnitude? = some m := by
    rw [isFinite, decide_eq_true_eq] at h
    unfold magnitude? Format.magnitude?
    simp only [if_neg (Nat.not_le.mpr h)]
    split <;> exact ⟨_, rfl⟩
  obtain ⟨m, hm⟩ := hmagnitude
  rw [text, hm]
  simp only [String.toList_ofList]
  refine ⟨_, rfl, ?_⟩
  have hsignificand := (Format.magnitude?_eq hm).1
  obtain hzero | hpos := Nat.eq_zero_or_pos d.pattern
  · have hm0 : m.significand = 0 := by
      rw [hsignificand, hzero]
      rfl
    rw [if_pos (beq_iff_eq.mpr hm0), hzero, DecimalMagnitude.number, Nat.cast_zero, zero_mul]
    exact ⟨.inr rfl, Format.isNearest_zero _⟩
  · have hm0 : m.significand ≠ 0 := hsignificand ▸ Format.significandOf_ne_zero hpos
    have hnearest : Format.binary64.IsNearest (m.shortest .binary64 l.tie).number d.pattern :=
      m.isNearest_shortest hm hm0
    rw [if_neg (mt beq_iff_eq.mp hm0)]
    exact ⟨.inl (digits_ne_zero_of_isNearest hpos hnearest), hnearest⟩

/-- The text of what is no finite number is a matter of the layout alone. -/
theorem text_of_not_isFinite (l : Layout) (h : d.isFinite = false) :
    d.text l
      = if d.isNaN then l.nan
        else if d.isNegative then l.negativeInfinity
        else l.infinity := by
  rw [isFinite, decide_eq_false_iff_not, Nat.not_lt] at h
  unfold text magnitude? Format.magnitude?
  simp only [if_pos h]

/-- **In SQL a finite number is its sign and digits with or without a point**, and read back as the
number. -/
theorem toList_text_literal (h : d.isFinite = true) :
    ∃ cs q, (d.text Layout.literal).toList = (if d.isNegative then ['-'] else []) ++ cs
      ∧ IsUnsigned cs q ∧ Format.binary64.IsNearest q d.pattern := by
  obtain ⟨decimal, htext, -, hnearest⟩ := exists_decimal Layout.literal h
  exact ⟨_, _, htext, Layout.isUnsigned_plainChars _ _, hnearest⟩

/-- **In a document a finite number is its sign and a number with a point or an exponent**, and read
back as the number. -/
theorem toList_text_json (h : d.isFinite = true) :
    ∃ cs q, (d.text Layout.json).toList = (if d.isNegative then ['-'] else []) ++ cs
      ∧ IsScientific cs q ∧ ('.' ∈ cs ∨ 'e' ∈ cs) ∧ Format.binary64.IsNearest q d.pattern := by
  obtain ⟨decimal, htext, hdigits, hnearest⟩ := exists_decimal Layout.json h
  have hplain : IsScientific (Layout.plainChars true decimal) decimal.number :=
    .plain (Layout.isUnsigned_plainChars _ _) (Layout.isUnpadded_plainChars _ hdigits)
  refine ⟨_, _, htext, ?_, ?_, hnearest⟩
  all_goals
    unfold Layout.decimalChars
    simp only [Layout.json]
    split
  · exact hplain
  · rename_i hexponent
    rw [Bool.or_eq_true, not_or, beq_iff_eq] at hexponent
    exact Layout.isScientific_scientificChars _ hexponent.1
  · exact .inl (Layout.point_mem_plainChars _)
  · exact .inr (Layout.e_mem_scientificChars _ _)

end Double

end PgStatement

import PgStatement.Proofs.Wire.Numeric

/-!
# Which decimal numbers are sent

A text is refused as a decimal number for two reasons only. It cannot be read as one, or it has too
many digits: more than 65535 behind the point, or more than 131072 before it without the zeros in
front (`DecimalText.IsWithinLimits`).

The fields of the format are the count of the groups, the weight of the first one and the scale,
each checked by itself and after groups that are zero have been taken away. That no other text fails
one of these checks is a matter of arithmetic: the count is at most what the two limits allow for
together, which is below its own limit, and the weight can only be too large if there are too many
integral digits (`Numeric.fits_ofDecimal_iff`).
-/

namespace PgStatement.Wire

open Text

/-- **The digits that a decimal number may have**: so many behind the point, and so many before it,
not counting zeros in front. -/
def DecimalText.IsWithinLimits (d : DecimalText) : Prop :=
  d.fraction.length ≤ 65535 ∧ (Numeric.significant d.integral).length ≤ 131072

namespace Numeric

/-! ## Fields -/

/-- The counts of a number fit their fields. -/
def Fits : Numeric → Prop
  | .finite _ weight scale groups =>
    scale < 2 ^ 16 ∧ groups.length < 2 ^ 16 ∧ -2 ^ 15 ≤ weight ∧ weight < 2 ^ 15
  | _ => True

theorem IsSpecial.fits {n : Numeric} (h : n.IsSpecial) : n.Fits := by
  cases n with
  | finite => cases h
  | nan | infinity | negativeInfinity => trivial

/-- **A number is sent if its counts fit their fields.** -/
theorem encode_cases (n : Numeric) :
    (n.Fits ∧ ∃ raw, n.encode = .ok raw) ∨ (¬n.Fits ∧ n.encode = .error .integerRange) := by
  cases n with
  | finite negative weight scale groups =>
    have hfits :
        (scale < 2 ^ 16 && groups.length < 2 ^ 16 && -2 ^ 15 ≤ weight && weight < 2 ^ 15) = true
          ↔ Fits (.finite negative weight scale groups) := by
      simp only [Bool.and_eq_true, decide_eq_true_eq, Fits, and_assoc]
    by_cases h : Fits (.finite negative weight scale groups)
    · exact .inl ⟨h, _, if_pos (hfits.mpr h)⟩
    · exact .inr ⟨h, if_neg (mt hfits.mp h)⟩
  | nan | infinity | negativeInfinity => exact .inl ⟨trivial, _, rfl⟩

theorem length_stripped_le (groups : List Nat) : (stripped groups).length ≤ groups.length :=
  (List.rdropWhile_prefix _ _).length_le.trans (List.dropWhile_sublist _).length_le

theorem leading_le_length (groups : List Nat) : leading groups ≤ groups.length :=
  (List.takeWhile_sublist _).length_le

variable {d : DecimalText}

/-- **The fields are filled if and only if the digits are within their limits.** -/
theorem fits_ofDecimal_iff (hdigits : ∀ c ∈ d.integral ++ d.fraction, isDecimalDigit c = true) :
    (ofDecimal d).Fits ↔ d.IsWithinLimits := by
  have hwhole := head?_wholeGroups (List.forall_mem_append.mp hdigits).1
  have hwholeLength := length_wholeGroups d.integral
  have hpartLength := length_partGroups d.fraction
  have hall :
      (allGroups d).length = (wholeGroups d.integral).length + (partGroups d.fraction).length :=
    List.length_append
  have hstripped := length_stripped_le (allGroups d)
  rw [ofDecimal_eq, DecimalText.IsWithinLimits]
  split
  · rename_i hnil
    -- nothing is left of a number that is zero, and it has no integral digits
    obtain ⟨hnone, -⟩ := eq_of_stripped_eq_nil hwhole (List.isEmpty_iff.mp hnil)
    rw [hnone, List.length_nil] at hwholeLength
    rw [Fits, List.length_nil]
    omega
  · rw [Fits, firstWeight]
    by_cases hnone : wholeGroups d.integral = []
    · have hleading := leading_le_length (allGroups d)
      rw [hnone, List.length_nil] at hwholeLength hall ⊢
      omega
    · have hleading : leading (allGroups d) = 0 := leading_append hnone hwhole _
      rw [hleading]
      omega

/-- **No group is too large while its digits are added up**: the first few digits of one, like any
few that stand together, denote a number of sixteen bits. -/
theorem ofDecimalChars_lt_of_infix
    (hdigits : ∀ c ∈ d.integral ++ d.fraction, isDecimalDigit c = true) {digits : List Char}
    (h : digits <:+: aligned d) (hlength : digits.length ≤ 4) : ofDecimalChars digits < 2 ^ 16 := by
  have haligned := isDecimalDigit_of_mem_aligned hdigits
  calc ofDecimalChars digits
    _ < 10 ^ digits.length := ofDecimalChars_lt fun c hc => haligned c (h.subset hc)
    _ ≤ 10 ^ 4 := Nat.pow_le_pow_right (by decide) hlength
    _ < 2 ^ 16 := by decide

/-! ## Texts -/

/-- A special text cannot be read. -/
theorem not_isReadingOf_of_special {s : String} (h : s ∈ specialTexts) (d : DecimalText) :
    ¬d.IsReadingOf s.toList := by
  intro hread
  rw [DecimalText.isReadingOf_iff] at hread
  simp only [specialTexts, List.mem_cons, List.not_mem_nil, or_false] at h
  rcases h with rfl | rfl | rfl <;> cases hread

theorem ofText_of_isReadingOf {s : String} (h : d.IsReadingOf (trim s).toList) :
    ofText s = .ok (ofDecimal d) := by
  obtain ⟨hs, -⟩ | ⟨e, he, hof⟩ | ⟨-, hnone, -⟩ := ofText_total s
  · exact absurd h (not_isReadingOf_of_special hs d)
  · rw [DecimalText.isReadingOf_iff] at h he
    rw [hof, Option.some.inj (h.symm.trans he)]
  · exact absurd h (hnone d)

end Numeric

/-- What comes of sending a text as a decimal number. -/
theorem encodeNumeric_cases (s : String) :
    ((trim s ∈ Numeric.specialTexts
          ∨ ∃ d : DecimalText, d.IsReadingOf (trim s).toList ∧ d.IsWithinLimits)
        ∧ ∃ raw, encodeNumeric s = .ok raw)
      ∨ (∃ d : DecimalText, d.IsReadingOf (trim s).toList ∧ ¬d.IsWithinLimits
        ∧ encodeNumeric s = .error .integerRange)
      ∨ (trim s ∉ Numeric.specialTexts ∧ (∀ d : DecimalText, ¬d.IsReadingOf (trim s).toList)
        ∧ encodeNumeric s = .error (.numericSyntax (trim s))) := by
  have hencode : ∀ {n}, Numeric.ofText s = .ok n → encodeNumeric s = n.encode := fun h => by
    rw [encodeNumeric, h]
    rfl
  obtain ⟨hs, n, hn, hspecial, -⟩ | ⟨d, hread, hn⟩ | ⟨hs, hread, herror⟩ := Numeric.ofText_total s
  · obtain ⟨-, raw, hraw⟩ | ⟨hnot, -⟩ := n.encode_cases
    · exact .inl ⟨.inl hs, raw, (hencode hn).trans hraw⟩
    · exact absurd hspecial.fits hnot
  · have hfits := Numeric.fits_ofDecimal_iff hread.digits
    obtain ⟨h, raw, hraw⟩ | ⟨h, herror⟩ := (Numeric.ofDecimal d).encode_cases
    · exact .inl ⟨.inr ⟨d, hread, hfits.mp h⟩, raw, (hencode hn).trans hraw⟩
    · exact .inr (.inl ⟨d, hread, mt hfits.mpr h, (hencode hn).trans herror⟩)
  · refine .inr (.inr ⟨hs, hread, ?_⟩)
    rw [encodeNumeric, herror]
    rfl

/-- **A text is sent as a decimal number if and only if** it is special or can be read as a number
whose digits are within their limits. It is refused because it cannot be read, or because it can and
has too many digits; and whatever can be read, the numbers of its groups and all sums on the way to
them have sixteen bits. -/
theorem encodeNumeric_accepts (s : String) :
    ((∃ raw, encodeNumeric s = .ok raw) ↔ trim s ∈ Numeric.specialTexts
        ∨ ∃ d : DecimalText, d.IsReadingOf (trim s).toList ∧ d.IsWithinLimits)
      ∧ (∀ e, encodeNumeric s = .error e →
        (e = .numericSyntax (trim s) ∧ ∀ d : DecimalText, ¬d.IsReadingOf (trim s).toList)
          ∨ (e = .integerRange
            ∧ ∃ d : DecimalText, d.IsReadingOf (trim s).toList ∧ ¬d.IsWithinLimits))
      ∧ ∀ d : DecimalText, d.IsReadingOf (trim s).toList →
        4 ∣ (Numeric.aligned d).length ∧ Numeric.allGroups d = Numeric.groupsOf (Numeric.aligned d)
          ∧ ∀ digits, digits <:+: Numeric.aligned d → digits.length ≤ 4 →
            ofDecimalChars digits < 2 ^ 16 := by
  have hsums : ∀ d : DecimalText, d.IsReadingOf (trim s).toList →
      4 ∣ (Numeric.aligned d).length ∧ Numeric.allGroups d = Numeric.groupsOf (Numeric.aligned d)
        ∧ ∀ digits, digits <:+: Numeric.aligned d → digits.length ≤ 4 →
          ofDecimalChars digits < 2 ^ 16 :=
    fun d hread => ⟨Numeric.dvd_length_aligned d, Numeric.allGroups_eq_groupsOf_aligned d,
      fun _ => Numeric.ofDecimalChars_lt_of_infix hread.digits⟩
  obtain ⟨hs, raw, hraw⟩ | ⟨d, hread, hlimits, herror⟩ | ⟨hs, hread, herror⟩ :=
    encodeNumeric_cases s
  · refine ⟨iff_of_true ⟨raw, hraw⟩ hs, fun e he => ?_, hsums⟩
    rw [hraw] at he
    cases he
  · rw [herror]
    refine ⟨iff_of_false nofun ?_, fun e he => .inr ⟨(Except.error.inj he).symm, d, hread, hlimits⟩,
      hsums⟩
    rintro (hs | ⟨e, he, hwithin⟩)
    · exact Numeric.not_isReadingOf_of_special hs d hread
    · rw [DecimalText.isReadingOf_iff] at hread he
      obtain rfl : d = e := Option.some.inj (hread.symm.trans he)
      exact hlimits hwithin
  · rw [herror]
    refine ⟨iff_of_false nofun ?_, fun e he => .inl ⟨(Except.error.inj he).symm, hread⟩, hsums⟩
    rintro (h | ⟨d, hd, -⟩)
    · exact hs h
    · exact hread d hd

end PgStatement.Wire

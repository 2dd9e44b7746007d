import PgStatement.Proofs.Wire.Leaf
import PgStatement.Proofs.Wire.NumericLimits
import PgStatement.Proofs.Wire.Truncation

/-!
# Decimal numbers are read exactly

What the server sends for a decimal number is laid out in fields of two bytes: the count of the
groups, the weight of the first one, the sign, the scale, and the groups (`Numeric.HasFields`). All
such bytes are read, and the text denotes the number up to the digits behind the scale, which are
cut off.

The server sends numbers in one form: no group is zero at either end, zero has no sign and no
weight, and no digit is hidden by the scale (`Numeric.IsCanonical`). Nothing is cut off then, and
the text is sent back as the bytes it was read from (`decodeNumeric_exact`), since the groups of a
number are determined by what they denote.
-/

namespace PgStatement.Wire

open Text

namespace Numeric

/-! ## Fields -/

/-- The field of two bytes that begins at a place. -/
def field (raw : Bytes) (place : Nat) : Bytes := (raw.drop place).take 2

/-- **The fields of a finite number.** -/
structure HasFields (raw : Bytes) (negative : Bool) (weight : Int) (scale : Nat)
    (groups : List Nat) : Prop where
  /-- There are four fields before the groups, and nothing behind them. -/
  length_eq : raw.length = 8 + 2 * groups.length
  /-- The first field is the count of the groups. -/
  count_eq : BigEndian.toNat (field raw 0) = groups.length
  /-- The second field is the weight of the first group. -/
  weight_eq : BigEndian.toInt (field raw 2) = weight
  /-- The third field is the sign. -/
  sign_eq : BigEndian.toNat (field raw 4) = if negative then 0x4000 else 0x0000
  /-- The fourth field is the scale. -/
  scale_eq : BigEndian.toNat (field raw 6) = scale
  /-- The other fields are the groups. -/
  group_eq : ∀ (i : Nat) (h : i < groups.length), BigEndian.toNat (field raw (8 + 2 * i))
    = groups[i]

/-- **The one form of a number**: without zero groups at either end, without a sign or a weight if
it is zero, and with a scale that hides no digit. -/
structure IsCanonical (negative : Bool) (weight : Int) (scale : Nat) (groups : List Nat) :
    Prop where
  /-- The first group is not zero. -/
  head : groups.head? ≠ some 0
  /-- The last group is not zero. -/
  last : groups.getLast? ≠ some 0
  /-- Zero is positive and has the weight zero. -/
  zero : groups = [] → negative = false ∧ weight = 0
  /-- The digits behind the scale are zeros. -/
  shown : ∃ n : Nat, magnitude weight groups * 10 ^ scale = n

variable {raw : Bytes} {negative : Bool} {weight : Int} {scale : Nat} {groups : List Nat}

theorem drop_eq_field_append (raw : Bytes) (place : Nat) :
    raw.drop place = field raw place ++ raw.drop (place + 2) := by
  rw [field, ← List.drop_drop, List.take_append_drop]

theorem length_field {place : Nat} (h : place + 2 ≤ raw.length) : (field raw place).length = 2 := by
  rw [field, List.length_take, List.length_drop]
  omega

theorem field_eq_word {place n : Nat} (h : place + 2 ≤ raw.length)
    (hn : BigEndian.toNat (field raw place) = n) : field raw place = word n := by
  rw [word, ← hn, ← length_field h, BigEndian.ofNat_toNat]

/-- Fields one behind the other are the words of their numbers. -/
theorem drop_eq_flatMap_word {place : Nat} (hlength : raw.length = place + 2 * groups.length)
    (h : ∀ (i : Nat) (hi : i < groups.length),
      BigEndian.toNat (field raw (place + 2 * i)) = groups[i]) :
    raw.drop place = groups.flatMap word := by
  induction groups generalizing place with
  | nil => exact List.drop_eq_nil_of_le hlength.le
  | cons g groups ih =>
    rw [List.length_cons] at hlength
    have hfirst : field raw place = word g := field_eq_word (by omega) (h 0 (Nat.succ_pos _))
    rw [drop_eq_field_append, hfirst, List.flatMap_cons]
    congr 1
    refine ih (by omega) fun i hi => ?_
    have hplace : place + 2 + 2 * i = place + 2 * (i + 1) := by omega
    rw [hplace]
    exact h (i + 1) (Nat.succ_lt_succ hi)

namespace HasFields

/-- **Bytes with the fields of a number** are its header and its groups. -/
theorem eq_header_append (h : HasFields raw negative weight scale groups) :
    raw = header groups.length weight (if negative then .negative else .positive) scale
      ++ groups.flatMap word := by
  have hlength := h.length_eq
  have hcount := field_eq_word (by omega) h.count_eq
  have hsign : field raw 4 = word (if negative then Sign.negative else .positive).code := by
    refine field_eq_word (by omega) (h.sign_eq.trans ?_)
    cases negative <;> rfl
  have hscale := field_eq_word (by omega) h.scale_eq
  have hweight : field raw 2 = BigEndian.ofInt 2 weight := by
    have hwidth : (field raw 2).length = 2 := length_field (by omega)
    have hbytes := BigEndian.ofInt_toInt (field raw 2)
    rw [hwidth, h.weight_eq] at hbytes
    exact hbytes.symm
  have hgroups := drop_eq_flatMap_word hlength h.group_eq
  calc raw
    _ = field raw 0 ++ (field raw 2 ++ (field raw 4 ++ (field raw 6 ++ raw.drop 8))) := by
      rw [← drop_eq_field_append, ← drop_eq_field_append, ← drop_eq_field_append,
        ← drop_eq_field_append, List.drop_zero]
    _ = _ := by
      rw [hcount, hweight, hsign, hscale, hgroups, header, List.append_assoc, List.append_assoc,
        List.append_assoc]

/-- The counts of a number that is sent fit their fields. -/
theorem fits (h : HasFields raw negative weight scale groups) :
    Fits (.finite negative weight scale groups) := by
  have hlength := h.length_eq
  have hcount := BigEndian.toNat_lt (field raw 0)
  have hscale := BigEndian.toNat_lt (field raw 6)
  rw [h.count_eq, length_field (by omega)] at hcount
  rw [h.scale_eq, length_field (by omega)] at hscale
  have hweight := BigEndian.toInt_bounds (field raw 2)
  rw [h.weight_eq, length_field (by omega)] at hweight
  exact ⟨hscale, hcount, by omega, by omega⟩

theorem encode_eq (h : HasFields raw negative weight scale groups) :
    encode (.finite negative weight scale groups) = .ok raw := by
  obtain ⟨-, bytes, hbytes⟩ | ⟨hnot, -⟩ := encode_cases (.finite negative weight scale groups)
  · rw [hbytes, (eq_of_encode_finite hbytes).2, ← h.eq_header_append]
  · exact absurd h.fits hnot

/-- **Bytes with the fields of a number are read as this number.** -/
theorem decode_eq (h : HasFields raw negative weight scale groups)
    (hgroups : ∀ g ∈ groups, g < 10000) :
    decode raw = .ok (.finite negative weight scale groups) :=
  decode_encode (fun g hg => (hgroups g hg).trans (by decide)) h.encode_eq

end HasFields

/-! ## The digits that are shown -/

/-- The digits of a number as it is shown. -/
def shownDigits (negative : Bool) (weight : Int) (scale : Nat) (groups : List Nat) :
    DecimalText where
  negative := negative
  integral := integralChars (integralGroups weight groups)
  fraction := ((fractionGroups weight groups ((scale + 3) / 4)).flatMap (paddedChars 4)).take scale

theorem integralChars_digits (groups : List Nat) :
    integralChars groups ≠ [] ∧ ∀ c ∈ integralChars groups, isDecimalDigit c = true := by
  cases groups with
  | nil => exact ⟨nofun, List.forall_mem_singleton.mpr rfl⟩
  | cons g groups =>
    refine ⟨List.append_ne_nil_of_left_ne_nil (decimalChars_ne_nil g) _, List.forall_mem_append.mpr
      ⟨fun c => isDecimalDigit_of_mem_decimalChars, fun c hc => ?_⟩⟩
    obtain ⟨_, -, hc⟩ := List.mem_flatMap.mp hc
    exact isDecimalDigit_of_mem_paddedChars hc

theorem length_fraction_shownDigits (h : ∀ g ∈ groups, g < 10000) (negative : Bool) (weight : Int)
    (scale : Nat) : (shownDigits negative weight scale groups).fraction.length = scale := by
  have hlength := length_flatMap_paddedChars (lt_of_mem_fractionGroups h weight ((scale + 3) / 4))
  rw [length_fractionGroups] at hlength
  rw [shownDigits, List.length_take, hlength]
  omega

/-- **A number is shown as its digits.** -/
theorem isReadingOf_text (negative : Bool) (weight : Int) (scale : Nat) (groups : List Nat) :
    (shownDigits negative weight scale groups).IsReadingOf
      (text (.finite negative weight scale groups)).toList := by
  obtain ⟨hne, hintegral⟩ := integralChars_digits (integralGroups weight groups)
  rw [text, String.toList_ofList, chars, ← List.append_assoc]
  refine ⟨_, _, rfl, ?_, ?_, List.forall_mem_append.mpr ⟨hintegral, fun c hc => ?_⟩,
    List.append_ne_nil_of_left_ne_nil hne _⟩
  · cases negative with
    | true => exact .inl ⟨rfl, rfl⟩
    | false => exact .inr ⟨.inl rfl, rfl⟩
  · by_cases hscale : scale = 0
    · rw [if_pos hscale, hscale]
      exact .inr ⟨rfl, rfl⟩
    · rw [if_neg hscale]
      exact .inl rfl
  · obtain ⟨_, -, hc⟩ := List.mem_flatMap.mp (List.mem_of_mem_take hc)
    exact isDecimalDigit_of_mem_paddedChars hc

/-- **What is shown is the number, cut off** behind its last digit. -/
theorem magnitude_shownDigits (h : ∀ g ∈ groups, g < 10000) (negative : Bool) (weight : Int)
    (scale : Nat) : (shownDigits negative weight scale groups).magnitude
      = ⌊magnitude weight groups * 10 ^ scale⌋₊ / 10 ^ scale := by
  rw [DecimalText.magnitude, length_fraction_shownDigits h, floor_magnitude h]
  rfl

namespace IsCanonical

/-- Nothing is cut off. -/
theorem magnitude_eq (h : IsCanonical negative weight scale groups)
    (hgroups : ∀ g ∈ groups, g < 10000) :
    (shownDigits negative weight scale groups).magnitude = magnitude weight groups := by
  obtain ⟨n, hn⟩ := h.shown
  have hpower : (10 : ℚ) ^ scale ≠ 0 := pow_ne_zero scale (by norm_num)
  rw [magnitude_shownDigits hgroups, hn, Nat.floor_natCast, ← hn, mul_div_cancel_right₀ _ hpower]

/-- No zero stands in front of other digits. -/
theorem integral (h : IsCanonical negative weight scale groups) :
    integralChars (integralGroups weight groups) = ['0']
      ∨ (integralChars (integralGroups weight groups)).head? ≠ some '0' := by
  cases groups with
  | nil =>
    rw [(h.zero rfl).2]
    exact .inl rfl
  | cons g groups =>
    have hg : 0 < g := Nat.pos_of_ne_zero fun hg => h.head (congrArg some hg)
    rw [integralGroups]
    cases (weight + 1).toNat with
    | zero =>
      rw [List.take_zero, Nat.zero_sub]
      exact .inl rfl
    | succ count =>
      refine .inr ?_
      rw [List.take_succ_cons, List.cons_append, integralChars,
        List.head?_append_of_ne_nil _ (decimalChars_ne_nil g)]
      exact head?_decimalChars hg

/-- **The number of the text is the number that was sent.** -/
theorem ofDecimal_eq (h : IsCanonical negative weight scale groups)
    (hgroups : ∀ g ∈ groups, g < 10000) :
    ofDecimal (shownDigits negative weight scale groups)
      = .finite negative weight scale groups := by
  have hread := isReadingOf_text negative weight scale groups
  have hmagnitude := h.magnitude_eq hgroups
  obtain ⟨sign, first, gs, hfinite, hexact⟩ := isExact_ofDecimal hread.digits
  obtain ⟨rfl, rfl⟩ := groups_unique hexact.lt hgroups hexact.head h.head hexact.last h.last
    hexact.weight_eq (fun hnil => (h.zero hnil).2) (hexact.magnitude_eq.trans hmagnitude)
  have hsign : sign = negative := by
    rw [Bool.eq_iff_iff, hexact.negative_iff]
    refine ⟨fun hnegative => hnegative.1, fun hnegative => ⟨hnegative, ?_⟩⟩
    rw [hmagnitude, ne_eq, magnitude_eq_zero_iff h.head]
    intro hnil
    rw [(h.zero hnil).1] at hnegative
    cases hnegative
  rw [hfinite, hsign, length_fraction_shownDigits hgroups]

end IsCanonical

end Numeric

/-- **Decimal numbers are read exactly.** Bytes with the fields of a number are read as a text that
denotes it with its sign, cut off after as many fraction digits as its scale says. If it is in the
one form of a number, then nothing is cut off, no zero stands in front of other digits, and the text
is sent as the same bytes. -/
theorem decodeNumeric_exact {raw : Bytes} {negative : Bool} {weight : Int} {scale : Nat}
    {groups : List Nat} (hraw : Numeric.HasFields raw negative weight scale groups)
    (hgroups : ∀ g ∈ groups, g < 10000) :
    ∃ (text : String) (d : DecimalText), Numeric.text <$> Numeric.decode raw = .ok text
      ∧ d.IsReadingOf text.toList ∧ d.negative = negative ∧ d.fraction.length = scale
      ∧ d.magnitude = ⌊Numeric.magnitude weight groups * 10 ^ scale⌋₊ / 10 ^ scale
      ∧ (Numeric.IsCanonical negative weight scale groups →
        d.magnitude = Numeric.magnitude weight groups
          ∧ (d.integral = ['0'] ∨ d.integral.head? ≠ some '0')
          ∧ text = String.ofList d.canonical ∧ encodeNumeric text = .ok raw) := by
  have hread := Numeric.isReadingOf_text negative weight scale groups
  refine ⟨_, _, ?_, hread, rfl, Numeric.length_fraction_shownDigits hgroups negative weight scale,
    Numeric.magnitude_shownDigits hgroups negative weight scale, fun hcanonical => ?_⟩
  · rw [hraw.decode_eq hgroups]
    rfl
  · have hnumber := hcanonical.ofDecimal_eq hgroups
    refine ⟨hcanonical.magnitude_eq hgroups, hcanonical.integral, ?_, ?_⟩
    · rw [← Numeric.text_ofDecimal hread.digits, hnumber]
    · rw [encodeNumeric, Numeric.ofText_of_isReadingOf (hread.trim_eq.symm ▸ hread), hnumber]
      exact hraw.encode_eq

/-- Zeros are shown on either side of the one group of a number. -/
theorem decodeNumeric_exact_small :
    ∃ d : DecimalText,
      Numeric.text <$> Numeric.decode [0, 1, 0xff, 0xfe, 0x40, 0, 0, 10, 0x09, 0xc4]
        = .ok "-0.0000250000"
      ∧ d.IsReadingOf "-0.0000250000".toList ∧ d.magnitude = Numeric.magnitude (-2) [2500]
      ∧ encodeNumeric "-0.0000250000" = .ok [0, 1, 0xff, 0xfe, 0x40, 0, 0, 10, 0x09, 0xc4] := by
  have hraw :
      Numeric.HasFields [0, 1, 0xff, 0xfe, 0x40, 0, 0, 10, 0x09, 0xc4] true (-2) 10 [2500] :=
    ⟨rfl, by decide, by decide, by decide, by decide, by decide⟩
  have hcanonical : Numeric.IsCanonical true (-2) 10 [2500] := by
    refine ⟨by decide, by decide, nofun, 250000, ?_⟩
    rw [Numeric.magnitude_cons, Numeric.magnitude_nil]
    norm_num
  obtain ⟨text, d, hdecode, hread, -, -, -, hexact⟩ := decodeNumeric_exact hraw (by decide)
  obtain ⟨hmagnitude, -, -, hencode⟩ := hexact hcanonical
  have htext : Numeric.text <$> Numeric.decode [0, 1, 0xff, 0xfe, 0x40, 0, 0, 10, 0x09, 0xc4]
      = .ok "-0.0000250000" := by decide
  obtain rfl : text = "-0.0000250000" := Except.ok.inj (hdecode.symm.trans htext)
  exact ⟨d, htext, hread, hmagnitude, hencode⟩

end PgStatement.Wire

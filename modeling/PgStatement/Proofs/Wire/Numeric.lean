import Mathlib.Tactic.FieldSimp
import PgStatement.Proofs.Result
import PgStatement.Proofs.Wire.Groups
import PgStatement.Wire.Encode

/-!
# Decimal numbers are sent exactly

A text that is accepted as a decimal number can be read in one way only: a sign or none, integral
digits, and fraction digits behind a point (`DecimalText.IsReadingOf`). It is sent as groups that
denote just this number, none of which could be left out (`Numeric.IsExact`), and the bytes are read
as the text that the number has in one form only (`DecimalText.canonical`): all fraction digits
stay, zeros in front of the integral digits go, and so does the sign of zero.

The proof has three parts that do not know of each other. Bytes are read as the number that was
written (`Numeric.decode_encode`); the number of a text denotes what the text does
(`Numeric.isExact_ofDecimal`); and the number is written as digits in the one form
(`Numeric.text_ofDecimal`).
-/

namespace PgStatement.Wire

open Text

/-! ## Decimal texts -/

namespace DecimalText

/-- **How a decimal number is written**: a sign or none, integral digits and, perhaps behind a
point, fraction digits; at least one digit in all. -/
def IsReadingOf (d : DecimalText) (cs : List Char) : Prop :=
  ∃ sign point : List Char, cs = sign ++ d.integral ++ point
    ∧ (sign = ['-'] ∧ d.negative = true ∨ (sign = [] ∨ sign = ['+']) ∧ d.negative = false)
    ∧ (point = '.' :: d.fraction ∨ point = [] ∧ d.fraction = [])
    ∧ (∀ c ∈ d.integral ++ d.fraction, isDecimalDigit c = true)
    ∧ d.integral ++ d.fraction ≠ []

/-- The number without its sign. -/
def magnitude (d : DecimalText) : ℚ :=
  ofDecimalChars (d.integral ++ d.fraction) / 10 ^ d.fraction.length

/-- Whether the number is below zero. -/
def IsNegative (d : DecimalText) : Prop := d.negative = true ∧ d.magnitude ≠ 0

instance (d : DecimalText) : Decidable d.IsNegative := inferInstanceAs (Decidable (_ ∧ _))

/-- **The one form of a number**: a minus sign if it is below zero, the integral digits without
zeros in front or a zero if there are none, and all fraction digits. -/
def canonical (d : DecimalText) : List Char :=
  (if d.IsNegative then ['-'] else [])
    ++ (if d.integral.dropWhile (· == '0') = [] then ['0'] else d.integral.dropWhile (· == '0'))
    ++ (if d.fraction = [] then [] else '.' :: d.fraction)

theorem sign_eq (cs : List Char) :
    ∃ sign, cs = sign ++ (DecimalText.sign cs).2
      ∧ (sign = ['-'] ∧ (DecimalText.sign cs).1 = true
        ∨ (sign = [] ∨ sign = ['+']) ∧ (DecimalText.sign cs).1 = false) := by
  unfold DecimalText.sign
  split
  · exact ⟨['-'], rfl, .inl ⟨rfl, rfl⟩⟩
  · exact ⟨['+'], rfl, .inr ⟨.inr rfl, rfl⟩⟩
  · exact ⟨[], rfl, .inr ⟨.inl rfl, rfl⟩⟩

theorem splitPoint_eq (cs : List Char) :
    ∃ point, cs = (splitPoint cs).1 ++ point
      ∧ (point = '.' :: (splitPoint cs).2 ∨ point = [] ∧ (splitPoint cs).2 = []) := by
  refine ⟨cs.dropWhile (· != '.'), List.takeWhile_append_dropWhile.symm, ?_⟩
  unfold splitPoint
  simp only
  have hnot := List.head?_dropWhile_not (· != '.') cs
  cases h : cs.dropWhile (· != '.') with
  | nil => exact .inr ⟨rfl, rfl⟩
  | cons c rest =>
    rw [h] at hnot
    have hc : c = '.' := by simpa using hnot
    rw [hc]
    exact .inl rfl

/-- **What is accepted can be read**, in the way that the parser does. -/
theorem isReadingOf_of_ofChars? {cs : List Char} {d : DecimalText} (h : ofChars? cs = some d) :
    d.IsReadingOf cs := by
  obtain ⟨sign, hsign, hnegative⟩ := sign_eq cs
  obtain ⟨point, hpoint, hfraction⟩ := splitPoint_eq (DecimalText.sign cs).2
  unfold ofChars? at h
  simp only at h
  split at h
  · cases h
  · rename_i hcond
    cases h
    rw [Bool.not_eq_true, Bool.or_eq_false_iff, Bool.not_eq_false', List.all_eq_true] at hcond
    refine ⟨sign, point, ?_, hnegative, hfraction, hcond.2, fun hnil => ?_⟩
    · rw [List.append_assoc, ← hpoint]
      exact hsign
    · obtain ⟨hintegral, hfraction⟩ := List.append_eq_nil_iff.mp hnil
      simp only at hintegral hfraction
      rw [hintegral, hfraction] at hcond
      cases hcond.1

/-- A sign is told from what follows it. -/
theorem sign_append {negative : Bool} {sign rest : List Char}
    (hsign : sign = ['-'] ∧ negative = true ∨ (sign = [] ∨ sign = ['+']) ∧ negative = false)
    (hrest : rest.head? ≠ some '-' ∧ rest.head? ≠ some '+') :
    DecimalText.sign (sign ++ rest) = (negative, rest) := by
  obtain ⟨rfl, rfl⟩ | ⟨rfl | rfl, rfl⟩ := hsign
  · rfl
  · rw [List.nil_append]
    unfold DecimalText.sign
    split
    · exact absurd rfl hrest.1
    · exact absurd rfl hrest.2
    · rfl
  · rfl

/-- Digits end at the point. -/
theorem splitPoint_append {integral fraction point : List Char}
    (hintegral : ∀ c ∈ integral, isDecimalDigit c = true)
    (hpoint : point = '.' :: fraction ∨ point = [] ∧ fraction = []) :
    splitPoint (integral ++ point) = (integral, fraction) := by
  have hne : ∀ c ∈ integral, (c != '.') = true := by
    intro c hc
    rw [bne_iff_ne]
    rintro rfl
    exact absurd (hintegral _ hc) (by decide)
  unfold splitPoint
  rw [List.takeWhile_append_of_pos hne, List.dropWhile_append_of_pos hne]
  obtain rfl | ⟨rfl, rfl⟩ := hpoint
  · simp
  · simp

/-- **What is accepted is what can be read**, and in the way that the parser does. -/
theorem isReadingOf_iff {cs : List Char} {d : DecimalText} :
    d.IsReadingOf cs ↔ ofChars? cs = some d := by
  refine ⟨?_, isReadingOf_of_ofChars?⟩
  rintro ⟨sign, point, rfl, hsign, hpoint, hdigits, hne⟩
  have hintegral := (List.forall_mem_append.mp hdigits).1
  have hrest : ∀ x : Char, isDecimalDigit x = false → x ≠ '.' →
      (d.integral ++ point).head? ≠ some x := by
    intro x hx hpointne
    cases hcs : d.integral with
    | cons c integral =>
      rintro hhead
      rw [hcs] at hintegral
      have hc := hintegral c List.mem_cons_self
      rw [List.cons_append, List.head?_cons, Option.some.injEq] at hhead
      rw [hhead, hx] at hc
      cases hc
    | nil =>
      rw [hcs, List.nil_append] at hne
      obtain rfl | ⟨-, hnil⟩ := hpoint
      · intro hhead
        exact hpointne (Option.some.inj hhead).symm
      · exact absurd hnil hne
  unfold ofChars?
  rw [List.append_assoc, sign_append hsign ⟨hrest '-' rfl (by decide), hrest '+' rfl (by decide)⟩]
  simp only
  rw [splitPoint_append hintegral hpoint]
  simp only
  rw [if_neg]
  rw [Bool.not_eq_true, Bool.or_eq_false_iff, Bool.not_eq_false', List.all_eq_true]
  refine ⟨?_, hdigits⟩
  rw [Bool.eq_false_iff, Ne, Bool.and_eq_true, List.isEmpty_iff, List.isEmpty_iff]
  exact fun hnil => hne (List.append_eq_nil_iff.mpr hnil)

end DecimalText

namespace Numeric

/-! ## Bytes -/

/-- **A number as it may be sent.** -/
def IsSendable : Numeric → Prop
  | .finite _ _ _ groups => ∀ g ∈ groups, g < 2 ^ 16
  | _ => True

/-- **A number that is none.** -/
def IsSpecial : Numeric → Prop
  | .finite _ _ _ _ => False
  | _ => True

theorem IsSpecial.isSendable {n : Numeric} (h : n.IsSpecial) : n.IsSendable := by
  cases n with
  | finite => cases h
  | nan | infinity | negativeInfinity => trivial

theorem word_eq (n : Nat) : ∃ high low, word n = [high, low] := ⟨_, _, rfl⟩

theorem toNat_word {n : Nat} (h : n < 2 ^ 16) : BigEndian.toNat (word n) = n :=
  BigEndian.toNat_ofNat h

/-- Groups are read as they were written, whatever stands behind them. -/
theorem words?_flatMap_word {groups : List Nat} (h : ∀ g ∈ groups, g < 2 ^ 16) (behind : Bytes) :
    words? groups.length (groups.flatMap word ++ behind) = some groups := by
  induction groups with
  | nil => rfl
  | cons g groups ih =>
    rw [List.forall_mem_cons] at h
    obtain ⟨high, low, hword⟩ := word_eq g
    have hg := toNat_word h.1
    rw [hword] at hg
    rw [List.flatMap_cons, hword]
    show (words? groups.length (groups.flatMap word ++ behind)).map
      (BigEndian.toNat [high, low] :: ·) = _
    rw [ih h.2, hg, Option.map_some]

theorem ofCode?_code (sign : Sign) : Sign.ofCode? sign.code = some sign := by
  cases sign <;> rfl

/-- The fields before the groups are read as they were written. -/
theorem decode_header_append {count scale : Nat} {weight : Int} (sign : Sign) (rest : Bytes)
    (hcount : count < 2 ^ 16) (hscale : scale < 2 ^ 16) (hlow : -2 ^ 15 ≤ weight)
    (hhigh : weight < 2 ^ 15) :
    decode (header count weight sign scale ++ rest) =
      match sign with
      | .nan => .ok .nan
      | .infinity => .ok .infinity
      | .negativeInfinity => .ok .negativeInfinity
      | sign =>
        match words? count rest with
        | some groups => .ok (.finite (sign == .negative) weight scale groups)
        | none => .error .numericTruncated := by
  have hcode : sign.code < 2 ^ 16 := by cases sign <;> decide
  have hcountBytes := toNat_word hcount
  have hscaleBytes := toNat_word hscale
  have hcodeBytes := toNat_word hcode
  have hweightBytes : BigEndian.toInt (BigEndian.ofInt 2 weight) = weight :=
    BigEndian.toInt_ofInt (by norm_num; omega) (by norm_num; omega)
  have hweight : ∃ high low, BigEndian.ofInt 2 weight = [high, low] := ⟨_, _, rfl⟩
  unfold header
  obtain ⟨c₁, c₀, hc⟩ := word_eq count
  obtain ⟨w₁, w₀, hw⟩ := hweight
  obtain ⟨g₁, g₀, hg⟩ := word_eq sign.code
  obtain ⟨s₁, s₀, hs⟩ := word_eq scale
  rw [hc] at hcountBytes ⊢
  rw [hw] at hweightBytes ⊢
  rw [hg] at hcodeBytes ⊢
  rw [hs] at hscaleBytes ⊢
  simp only [List.cons_append, List.nil_append, decode, hcountBytes, hweightBytes, hcodeBytes,
    hscaleBytes, ofCode?_code]
  cases sign <;> rfl

/-- What is sent is the header and the groups, if the counts fit their fields. -/
theorem eq_of_encode_finite {negative : Bool} {weight : Int} {scale : Nat} {groups : List Nat}
    {raw : Bytes} (h : encode (.finite negative weight scale groups) = .ok raw) :
    (scale < 2 ^ 16 ∧ groups.length < 2 ^ 16 ∧ -2 ^ 15 ≤ weight ∧ weight < 2 ^ 15)
      ∧ raw = header groups.length weight (if negative then .negative else .positive) scale
        ++ groups.flatMap word := by
  unfold encode at h
  simp only at h
  split at h
  · rename_i hfits
    simp only [Bool.and_eq_true, decide_eq_true_eq] at hfits
    exact ⟨⟨hfits.1.1.1, hfits.1.1.2, hfits.1.2, hfits.2⟩, (Except.ok.inj h).symm⟩
  · cases h

/-- **Bytes are read as the number that was written.** -/
theorem decode_encode {n : Numeric} {raw : Bytes} (hn : n.IsSendable) (h : n.encode = .ok raw) :
    decode raw = .ok n := by
  cases n with
  | finite negative weight scale groups =>
    obtain ⟨⟨hscale, hlength, hlow, hhigh⟩, rfl⟩ := eq_of_encode_finite h
    have hwords := words?_flatMap_word hn []
    rw [List.append_nil] at hwords
    rw [decode_header_append _ _ hlength hscale hlow hhigh, hwords]
    cases negative <;> rfl
  | nan =>
    cases h
    exact decode_header_append .nan [] (by decide) (by decide) (by decide) (by decide)
  | infinity =>
    cases h
    exact decode_header_append .infinity [] (by decide) (by decide) (by decide) (by decide)
  | negativeInfinity =>
    cases h
    exact decode_header_append .negativeInfinity [] (by decide) (by decide) (by decide) (by decide)

/-! ## The number of a text -/

/-- **Groups that stand for a decimal text**, exactly and without any that could be left out. -/
structure IsExact (d : DecimalText) (negative : Bool) (weight : Int) (groups : List Nat) :
    Prop where
  /-- Groups have four digits. -/
  lt : ∀ g ∈ groups, g < 10000
  /-- The first group is not zero. -/
  head : groups.head? ≠ some 0
  /-- The last group is not zero. -/
  last : groups.getLast? ≠ some 0
  /-- They denote the number. -/
  magnitude_eq : magnitude weight groups = d.magnitude
  /-- The sign is that of the number. -/
  negative_iff : negative = true ↔ d.IsNegative
  /-- Zero has the weight zero. -/
  weight_eq : groups = [] → weight = 0

/-- The groups of a text with those at either end that are zero. -/
def allGroups (d : DecimalText) : List Nat := wholeGroups d.integral ++ partGroups d.fraction

/-- The digits of a text, filled up to complete groups on either side. -/
def aligned (d : DecimalText) : List Char :=
  List.replicate (padding (significant d.integral).length) '0' ++ significant d.integral
    ++ (d.fraction ++ List.replicate (padding d.fraction.length) '0')

theorem dvd_length_aligned (d : DecimalText) : 4 ∣ (aligned d).length := by
  rw [aligned, List.length_append]
  exact Nat.dvd_add (dvd_length_whole d.integral) (dvd_length_part d.fraction)

theorem allGroups_eq_groupsOf_aligned (d : DecimalText) : allGroups d = groupsOf (aligned d) :=
  (groupsOf_append (dvd_length_whole d.integral) _).symm

theorem isDecimalDigit_of_mem_aligned {d : DecimalText}
    (h : ∀ c ∈ d.integral ++ d.fraction, isDecimalDigit c = true) :
    ∀ c ∈ aligned d, isDecimalDigit c = true := by
  rw [List.forall_mem_append] at h
  have hzero : ∀ count, ∀ c ∈ List.replicate count '0', isDecimalDigit c = true := by
    intro count c hc
    rw [List.eq_of_mem_replicate hc]
    rfl
  simp only [aligned, List.forall_mem_append]
  exact ⟨⟨hzero _, isDecimalDigit_of_mem_significant h.1⟩, h.2, hzero _⟩

/-- The weight of the first group of a text that is not zero. -/
def firstWeight (d : DecimalText) : Int :=
  (wholeGroups d.integral).length - 1 - leading (allGroups d)

theorem ofDecimal_eq (d : DecimalText) :
    ofDecimal d = if (stripped (allGroups d)).isEmpty then .finite false 0 d.fraction.length []
      else .finite d.negative (firstWeight d) d.fraction.length (stripped (allGroups d)) := rfl

/-- All groups of a text together denote its number. -/
theorem magnitude_allGroups (d : DecimalText) :
    Numeric.magnitude ((wholeGroups d.integral).length - 1) (allGroups d) = d.magnitude := by
  have hlength : ((wholeGroups d.integral).length : Int) - 1 + 1 - (allGroups d).length
      = -((partGroups d.fraction).length : Int) := by
    rw [allGroups, List.length_append]
    omega
  have hpart := length_groupsOf (dvd_length_part d.fraction)
  rw [List.length_append, List.length_replicate] at hpart
  have hpower : (10000 : ℚ) ^ (partGroups d.fraction).length
      = 10 ^ d.fraction.length * 10 ^ padding d.fraction.length := by
    rw [← pow_add, ← hpart, pow_mul]
    norm_num
    rfl
  have hvalue : ofDecimalChars (aligned d)
      = ofDecimalChars (d.integral ++ d.fraction) * 10 ^ padding d.fraction.length := by
    rw [aligned, List.append_assoc, ofDecimalChars_append, ofDecimalChars_replicate, Nat.zero_mul,
      Nat.zero_add, ← List.append_assoc, ofDecimalChars_append, ofDecimalChars_replicate,
      List.length_replicate, Nat.add_zero, ofDecimalChars_significant_append]
  rw [allGroups_eq_groupsOf_aligned, magnitude_groupsOf (dvd_length_aligned d),
    ← allGroups_eq_groupsOf_aligned, hlength, hvalue, zpow_neg, zpow_natCast, hpower,
    DecimalText.magnitude]
  push_cast
  have hten : ∀ n : Nat, (10 : ℚ) ^ n ≠ 0 := fun n => pow_ne_zero n (by norm_num)
  field_simp

theorem isExact_ofDecimal {d : DecimalText}
    (hdigits : ∀ c ∈ d.integral ++ d.fraction, isDecimalDigit c = true) :
    ∃ negative weight groups, ofDecimal d = .finite negative weight d.fraction.length groups
      ∧ IsExact d negative weight groups := by
  have hlt : ∀ g ∈ stripped (allGroups d), g < 10000 := by
    intro g hg
    have hg : g ∈ allGroups d :=
      (List.dropWhile_sublist _).subset ((List.rdropWhile_prefix _ _).subset hg)
    rw [allGroups_eq_groupsOf_aligned] at hg
    exact lt_of_mem_groupsOf (isDecimalDigit_of_mem_aligned hdigits) hg
  have hmagnitude : Numeric.magnitude (firstWeight d) (stripped (allGroups d)) = d.magnitude :=
    (magnitude_stripped _ _).trans (magnitude_allGroups d)
  have hzero : d.magnitude = 0 ↔ stripped (allGroups d) = [] := by
    rw [← hmagnitude]
    exact magnitude_eq_zero_iff (head?_stripped _)
  rw [ofDecimal_eq]
  split
  · rename_i hnil
    rw [List.isEmpty_iff] at hnil
    refine ⟨false, 0, [], rfl, nofun, nofun, nofun, ?_, ?_, fun _ => rfl⟩
    · rw [hzero.mpr hnil]
      rfl
    · exact iff_of_false nofun fun h => h.2 (hzero.mpr hnil)
  · rename_i hne
    rw [List.isEmpty_iff] at hne
    refine ⟨_, _, _, rfl, hlt, head?_stripped _, getLast?_stripped _, hmagnitude, ?_,
      fun h => absurd h hne⟩
    exact ⟨fun h => ⟨h, fun h0 => hne (hzero.mp h0)⟩, fun h => h.1⟩

/-- **The number of a text is written in the one form.** -/
theorem text_ofDecimal {d : DecimalText}
    (hdigits : ∀ c ∈ d.integral ++ d.fraction, isDecimalDigit c = true) :
    (ofDecimal d).text = String.ofList d.canonical := by
  obtain ⟨negative, weight, groups, hfinite, hexact⟩ := isExact_ofDecimal hdigits
  rw [List.forall_mem_append] at hdigits
  have hwhole := head?_wholeGroups hdigits.1
  have hrestored : integralChars (integralGroups weight groups)
        = integralChars (wholeGroups d.integral)
      ∧ fractionGroups weight groups (partGroups d.fraction).length = partGroups d.fraction := by
    rw [ofDecimal_eq] at hfinite
    split at hfinite
    · -- zero has the weight zero, so that one integral group is put back where there was none
      rename_i hnil
      obtain ⟨hnone, hzeros⟩ := eq_of_stripped_eq_nil hwhole (List.isEmpty_iff.mp hnil)
      cases hfinite
      rw [hnone, hzeros, List.length_replicate]
      refine ⟨rfl, ?_⟩
      have hcount : (-((0 : Int) + 1)).toNat = 0 := rfl
      rw [fractionGroups, List.drop_nil, hcount, List.replicate_zero, List.append_nil,
        List.take_nil]
      exact List.nil_append _
    · obtain ⟨hintegral, hfraction⟩ := restored hwhole (partGroups d.fraction)
      cases hfinite
      exact ⟨congrArg integralChars hintegral, hfraction⟩
  have hsign : (if negative then ['-'] else []) = if d.IsNegative then ['-'] else [] :=
    if_congr hexact.negative_iff rfl rfl
  rw [length_partGroups] at hrestored
  rw [hfinite, text, hsign, chars, hrestored.1, hrestored.2, integralChars_wholeGroups hdigits.1,
    take_flatMap_partGroups hdigits.2, DecimalText.canonical, List.append_assoc]
  simp only [List.length_eq_zero_iff]
  rfl

/-! ## What is sent and what is read -/

/-- The texts of the numbers that are none. -/
def specialTexts : List String := ["NaN", "Infinity", "-Infinity"]

/-- **The one form of a text** that is sent as a decimal number. -/
def canonicalText (s : String) : String :=
  match DecimalText.ofChars? (trim s).toList with
  | some d => String.ofList d.canonical
  | none => trim s

theorem canonicalText_of_isReadingOf {s : String} {d : DecimalText}
    (h : d.IsReadingOf (trim s).toList) : canonicalText s = String.ofList d.canonical := by
  rw [canonicalText, DecimalText.isReadingOf_iff.mp h]

theorem canonicalText_of_special {s : String} (h : trim s ∈ specialTexts) :
    canonicalText s = trim s := by
  unfold canonicalText
  simp only [specialTexts, List.mem_cons, List.not_mem_nil, or_false] at h
  rcases h with h | h | h <;> rw [h] <;> rfl

/-- A text is special, or it can be read and is the number that is read, or it is refused. -/
theorem ofText_total (s : String) :
    (trim s ∈ specialTexts ∧ ∃ n, ofText s = .ok n ∧ n.IsSpecial ∧ n.text = trim s)
      ∨ (∃ d : DecimalText, d.IsReadingOf (trim s).toList ∧ ofText s = .ok (ofDecimal d))
      ∨ (trim s ∉ specialTexts ∧ (∀ d : DecimalText, ¬d.IsReadingOf (trim s).toList)
        ∧ ofText s = .error (.numericSyntax (trim s))) := by
  have hmem : ∀ text ∈ specialTexts, trim s = text → trim s ∈ specialTexts :=
    fun _ htext hs => hs ▸ htext
  by_cases hnan : trim s = "NaN"
  · exact .inl ⟨hmem _ (by decide) hnan, .nan, if_pos hnan, trivial, hnan.symm⟩
  by_cases hinfinity : trim s = "Infinity"
  · exact .inl
      ⟨hmem _ (by decide) hinfinity, .infinity, (if_neg hnan).trans (if_pos hinfinity), trivial,
      hinfinity.symm⟩
  by_cases hnegative : trim s = "-Infinity"
  · exact .inl ⟨hmem _ (by decide) hnegative, .negativeInfinity,
      (if_neg hnan).trans ((if_neg hinfinity).trans (if_pos hnegative)), trivial, hnegative.symm⟩
  have hspecial : trim s ∉ specialTexts := by
    simp only [specialTexts, List.mem_cons, List.not_mem_nil, or_false, not_or]
    exact ⟨hnan, hinfinity, hnegative⟩
  right
  cases hd : DecimalText.ofChars? (trim s).toList with
  | some d =>
    refine .inl ⟨d, DecimalText.isReadingOf_iff.mpr hd, ?_⟩
    simp only [ofText, if_neg hnan, if_neg hinfinity, if_neg hnegative, hd]
  | none =>
    have hnone : ∀ d : DecimalText, ¬d.IsReadingOf (trim s).toList := by
      intro d hread
      rw [DecimalText.isReadingOf_iff, hd] at hread
      cases hread
    refine .inr ⟨hspecial, hnone, ?_⟩
    simp only [ofText, if_neg hnan, if_neg hinfinity, if_neg hnegative, hd]

/-- **Texts that are accepted**: the special ones, and those that can be read. -/
theorem ofText_cases {s : String} {n : Numeric} (h : ofText s = .ok n) :
    (trim s ∈ specialTexts ∧ n.IsSendable ∧ n.text = trim s)
      ∨ ∃ d : DecimalText, d.IsReadingOf (trim s).toList ∧ n = ofDecimal d := by
  obtain ⟨hs, m, hm, hspecial, htext⟩ | ⟨d, hread, hd⟩ | ⟨-, -, herror⟩ := ofText_total s
  · obtain rfl : m = n := Except.ok.inj (hm.symm.trans h)
    exact .inl ⟨hs, hspecial.isSendable, htext⟩
  · exact .inr ⟨d, hread, Except.ok.inj (h.symm.trans hd)⟩
  · rw [herror] at h
    cases h

theorem isSendable_ofDecimal {d : DecimalText}
    (hdigits : ∀ c ∈ d.integral ++ d.fraction, isDecimalDigit c = true) :
    (ofDecimal d).IsSendable := by
  obtain ⟨negative, weight, groups, hfinite, hexact⟩ := isExact_ofDecimal hdigits
  rw [hfinite]
  exact fun g hg => (hexact.lt g hg).trans (by decide)

end Numeric

theorem DecimalText.IsReadingOf.digits {d : DecimalText} {cs : List Char} (h : d.IsReadingOf cs) :
    ∀ c ∈ d.integral ++ d.fraction, isDecimalDigit c = true := by
  obtain ⟨_, _, _, _, _, hdigits, _⟩ := h
  exact hdigits

/-- **Decimal numbers are read in their one form.** -/
theorem decode_encodeNumeric {s : String} {raw : Bytes} (h : encodeNumeric s = .ok raw) :
    Numeric.text <$> Numeric.decode raw = .ok (Numeric.canonicalText s) := by
  obtain ⟨n, hn, henc⟩ := bind_eq_ok_iff.mp h
  rcases Numeric.ofText_cases hn with ⟨hs, hsendable, htext⟩ | ⟨d, hread, rfl⟩
  · rw [Numeric.decode_encode hsendable henc, Numeric.canonicalText_of_special hs, ← htext]
    rfl
  · rw [Numeric.decode_encode (Numeric.isSendable_ofDecimal hread.digits) henc,
      Numeric.canonicalText_of_isReadingOf hread, ← Numeric.text_ofDecimal hread.digits]
    rfl

/-- **Decimal numbers are sent exactly.** A special text is sent as what is read as this text. Any
other text that is sent can be read as a decimal number; the bytes are the header and groups that
stand exactly for the number, and they are read as its one form. -/
theorem encodeNumeric_exact {s : String} {raw : Bytes} (h : encodeNumeric s = .ok raw) :
    (trim s ∈ Numeric.specialTexts → Numeric.text <$> Numeric.decode raw = .ok (trim s))
      ∧ (trim s ∉ Numeric.specialTexts →
        ∃ (d : DecimalText) (negative : Bool) (weight : Int) (groups : List Nat),
          d.IsReadingOf (trim s).toList
            ∧ raw = Numeric.header groups.length weight (if negative then .negative else .positive)
                d.fraction.length ++ groups.flatMap Numeric.word
            ∧ groups.length < 2 ^ 16 ∧ d.fraction.length < 2 ^ 16
            ∧ -2 ^ 15 ≤ weight ∧ weight < 2 ^ 15
            ∧ Numeric.IsExact d negative weight groups
            ∧ Numeric.text <$> Numeric.decode raw = .ok (String.ofList d.canonical)) := by
  have hdecode := decode_encodeNumeric h
  refine ⟨fun hs => ?_, fun hs => ?_⟩
  · rw [hdecode, Numeric.canonicalText_of_special hs]
  · obtain ⟨n, hn, henc⟩ := bind_eq_ok_iff.mp h
    rcases Numeric.ofText_cases hn with ⟨hspecial, _⟩ | ⟨d, hread, rfl⟩
    · exact absurd hspecial hs
    · rw [Numeric.canonicalText_of_isReadingOf hread] at hdecode
      obtain ⟨negative, weight, groups, hfinite, hexact⟩ := Numeric.isExact_ofDecimal hread.digits
      rw [hfinite] at henc
      obtain ⟨⟨hscale, hlength, hlow, hhigh⟩, hraw⟩ := Numeric.eq_of_encode_finite henc
      exact ⟨d, negative, weight, groups, hread, hraw, hlength, hscale, hlow, hhigh, hexact,
        hdecode⟩

/-- Zeros in front of a number do not come back, those behind it do. -/
theorem encodeNumeric_exact_price :
    ∃ (raw : Bytes) (d : DecimalText), encodeNumeric " -0012.50 " = .ok raw
      ∧ d.IsReadingOf "-0012.50".toList
      ∧ Numeric.text <$> Numeric.decode raw = .ok (String.ofList d.canonical) := by
  have hraw : encodeNumeric " -0012.50 "
      = .ok [0, 2, 0, 0, 0x40, 0, 0, 2, 0, 12, 0x13, 0x88] := by decide
  obtain ⟨d, _, _, _, hread, _, _, _, _, _, _, htext⟩ :=
    (encodeNumeric_exact hraw).2 (by decide)
  exact ⟨_, d, hraw, hread, htext⟩

end PgStatement.Wire

import Mathlib.Algebra.Order.Floor.Semifield
import Mathlib.Data.Rat.Floor
import Mathlib.Tactic.FieldSimp
import PgStatement.Proofs.Wire.Groups

/-!
# Groups that are cut off

A number is shown to so many fraction digits. The groups that are needed for that may not be among
those that are stored, which may end before the point or begin behind it, and the last one may be
shown in part only. Here it is said what the digits that are shown denote: the number without the
digits behind them, cut off and not rounded (`Numeric.floor_magnitude`).

Nothing but groups and their weight is needed for this, and the same bounds on what groups denote
tell numbers apart: without zero groups at either end there is one way only to write a number in
base ten thousand (`Numeric.groups_unique`).
-/

namespace PgStatement.Wire.Numeric

open Text

variable {weight : Int} {groups : List Nat}

/-! ## Bounds -/

/-- **Groups denote less than one unit of the next weight.** -/
theorem magnitude_lt (h : ∀ g ∈ groups, g < 10000) (weight : Int) :
    magnitude weight groups < 10000 ^ (weight + 1) := by
  induction groups generalizing weight with
  | nil =>
    rw [magnitude_nil]
    exact zpow_pos (by norm_num) _
  | cons g groups ih =>
    rw [List.forall_mem_cons] at h
    have hrest := ih h.2 (weight - 1)
    have hg : (g : ℚ) + 1 ≤ 10000 := by exact_mod_cast h.1
    have hunit : (0 : ℚ) < 10000 ^ weight := zpow_pos (by norm_num) _
    rw [sub_add_cancel] at hrest
    rw [magnitude_cons, zpow_add_one₀ (by norm_num)]
    nlinarith

/-- The first group that is not zero says how large a number is at least. -/
theorem le_magnitude (h : groups.head? ≠ some 0) (hne : groups ≠ []) (weight : Int) :
    10000 ^ weight ≤ magnitude weight groups := by
  obtain ⟨g, rest, rfl⟩ := List.exists_cons_of_ne_nil hne
  have hg : (1 : ℚ) ≤ g := by
    exact_mod_cast Nat.one_le_iff_ne_zero.mpr fun hg => h (congrArg some hg)
  have hunit : (0 : ℚ) < 10000 ^ weight := zpow_pos (by norm_num) _
  have hrest := magnitude_nonneg (weight - 1) rest
  rw [magnitude_cons]
  nlinarith

/-! ## One way to write a number -/

theorem eq_nil_of_magnitude_eq_zero (h : groups.getLast? ≠ some 0)
    (hzero : magnitude weight groups = 0) : groups = [] := by
  by_contra hne
  have hlast := eq_zero_of_magnitude_eq_zero hzero _ (List.getLast_mem hne)
  exact h (by rw [List.getLast?_eq_some_getLast hne, hlast])

variable {as bs : List Nat}

/-- The first of two groups is not the larger one, since what stands behind the other is less than
one unit of it. -/
theorem first_le_of_magnitude_eq {a b : Nat} (hbs : ∀ g ∈ bs, g < 10000)
    (h : magnitude weight (a :: as) = magnitude weight (b :: bs)) : a ≤ b := by
  have hunit : (0 : ℚ) < 10000 ^ weight := zpow_pos (by norm_num) _
  have hnonneg := magnitude_nonneg (weight - 1) as
  have hrest := magnitude_lt hbs (weight - 1)
  rw [sub_add_cancel] at hrest
  rw [magnitude_cons, magnitude_cons] at h
  have hlt : (a : ℚ) * 10000 ^ weight < (b + 1) * 10000 ^ weight := by linarith
  have hab : (a : ℚ) < b + 1 := lt_of_mul_lt_mul_right hlt hunit.le
  exact Nat.lt_succ_iff.mp (by exact_mod_cast hab)

theorem weight_le_of_magnitude_eq {v w : Int} (hne : as ≠ []) (has : as.head? ≠ some 0)
    (hbs : ∀ g ∈ bs, g < 10000) (h : magnitude v as = magnitude w bs) : v ≤ w := by
  have hpower := (le_magnitude has hne v).trans_lt (h.trans_lt (magnitude_lt hbs w))
  exact Int.lt_add_one_iff.mp ((zpow_lt_zpow_iff_right₀ (by norm_num)).mp hpower)

theorem getLast?_ne_of_cons {g : Nat} (h : (g :: groups).getLast? ≠ some 0) :
    groups.getLast? ≠ some 0 := by
  cases groups with
  | nil => nofun
  | cons _ _ => exact h

/-- Groups of one weight without zeros at the end are determined by what they denote. -/
theorem groups_eq_of_magnitude_eq (has : ∀ g ∈ as, g < 10000) (hbs : ∀ g ∈ bs, g < 10000)
    (hasLast : as.getLast? ≠ some 0) (hbsLast : bs.getLast? ≠ some 0)
    (h : magnitude weight as = magnitude weight bs) : as = bs := by
  induction as generalizing weight bs with
  | nil => exact (eq_nil_of_magnitude_eq_zero hbsLast h.symm).symm
  | cons a as ih =>
    cases bs with
    | nil => exact eq_nil_of_magnitude_eq_zero hasLast h
    | cons b bs =>
      rw [List.forall_mem_cons] at has hbs
      obtain rfl : a = b := Nat.le_antisymm (first_le_of_magnitude_eq hbs.2 h)
        (first_le_of_magnitude_eq has.2 h.symm)
      rw [magnitude_cons, magnitude_cons] at h
      rw [ih has.2 hbs.2 (getLast?_ne_of_cons hasLast) (getLast?_ne_of_cons hbsLast)
        (add_left_cancel h)]

/-- **A number is written in one way only** without zero groups at either end. -/
theorem groups_unique {v w : Int} (has : ∀ g ∈ as, g < 10000) (hbs : ∀ g ∈ bs, g < 10000)
    (hasHead : as.head? ≠ some 0) (hbsHead : bs.head? ≠ some 0) (hasLast : as.getLast? ≠ some 0)
    (hbsLast : bs.getLast? ≠ some 0) (hasNil : as = [] → v = 0) (hbsNil : bs = [] → w = 0)
    (h : magnitude v as = magnitude w bs) : v = w ∧ as = bs := by
  have hnil : as = [] ↔ bs = [] := by
    have hzero : magnitude v as = 0 ↔ as = [] := magnitude_eq_zero_iff hasHead
    rw [← hzero, h, magnitude_eq_zero_iff hbsHead]
  by_cases hne : as = []
  · rw [hasNil hne, hbsNil (hnil.mp hne), hne, hnil.mp hne]
    exact ⟨rfl, rfl⟩
  · obtain rfl : v = w := le_antisymm (weight_le_of_magnitude_eq hne hasHead hbs h)
      (weight_le_of_magnitude_eq (mt hnil.mpr hne) hbsHead has h.symm)
    exact ⟨rfl, groups_eq_of_magnitude_eq has hbs hasLast hbsLast h⟩

/-! ## Digits that are shown -/

/-- Groups brought to a number, and those behind it. -/
theorem magnitude_cut (weight : Int) (groups : List Nat) (count : Nat) :
    magnitude weight groups
      = magnitude weight (groups.take count ++ List.replicate (count - groups.length) 0)
        + magnitude (weight - count) (groups.drop count) := by
  have hdrop : magnitude (weight - (groups.take count).length) (groups.drop count)
      = magnitude (weight - count) (groups.drop count) := by
    by_cases h : count ≤ groups.length
    · rw [List.length_take_of_le h]
    · rw [List.drop_eq_nil_of_le (Nat.le_of_not_le h), magnitude_nil, magnitude_nil]
  rw [magnitude_append, magnitude_replicate_zero, add_zero, ← hdrop, ← magnitude_append,
    List.take_append_drop]

/-- The groups below weight zero, down to the last that is stored. -/
def belowPoint (weight : Int) (groups : List Nat) : List Nat :=
  List.replicate (-(weight + 1)).toNat 0 ++ groups.drop (weight + 1).toNat

theorem lt_of_mem_belowPoint (h : ∀ g ∈ groups, g < 10000) (weight : Int) :
    ∀ g ∈ belowPoint weight groups, g < 10000 := by
  intro g hg
  rcases List.mem_append.mp hg with hg | hg
  · rw [List.eq_of_mem_replicate hg]
    decide
  · exact h g (List.mem_of_mem_drop hg)

theorem length_integralGroups (weight : Int) (groups : List Nat) :
    (integralGroups weight groups).length = (weight + 1).toNat := by
  rw [integralGroups, List.length_append, List.length_take, List.length_replicate]
  omega

theorem length_fractionGroups (weight : Int) (groups : List Nat) (count : Nat) :
    (fractionGroups weight groups count).length = count := by
  rw [fractionGroups, List.length_append, List.length_take, List.length_replicate]
  omega

/-- A number is what stands before the point and what stands behind it. -/
theorem magnitude_eq_integral_add (weight : Int) (groups : List Nat) :
    magnitude weight groups
      = magnitude ((integralGroups weight groups).length - 1) (integralGroups weight groups)
        + magnitude (-1) (belowPoint weight groups) := by
  have hbelow : magnitude (-1) (belowPoint weight groups)
      = magnitude (weight - (weight + 1).toNat) (groups.drop (weight + 1).toNat) := by
    rw [belowPoint, magnitude_append, magnitude_replicate_zero, zero_add, List.length_replicate]
    congr 1
    omega
  have hwhole : magnitude ((integralGroups weight groups).length - 1) (integralGroups weight groups)
      = magnitude weight (integralGroups weight groups) := by
    have hlength := length_integralGroups weight groups
    by_cases hweight : 0 ≤ weight + 1
    · congr 1
      omega
    · have hnil : integralGroups weight groups = [] := List.length_eq_zero_iff.mp (by omega)
      rw [hnil, magnitude_nil, magnitude_nil]
  rw [hbelow, hwhole]
  exact magnitude_cut weight groups _

/-- All groups that are shown, and the rest, which is less than one unit of the last of them. -/
theorem exists_magnitude_eq_shown_add (h : ∀ g ∈ groups, g < 10000) (weight : Int) (count : Nat) :
    ∃ rest : ℚ, 0 ≤ rest ∧ rest * 10000 ^ count < 1
      ∧ magnitude weight groups = magnitude ((integralGroups weight groups).length - 1)
          (integralGroups weight groups ++ fractionGroups weight groups count) + rest := by
  have hlt : ∀ g ∈ (belowPoint weight groups).drop count, g < 10000 :=
    fun g hg => lt_of_mem_belowPoint h weight g (List.mem_of_mem_drop hg)
  have hrest := magnitude_lt hlt (-1 - count)
  have hunit : (-1 - count : Int) + 1 = -count := by omega
  have hpoint :
      ((integralGroups weight groups).length : Int) - 1 - (integralGroups weight groups).length
        = -1 := by omega
  have hshown : fractionGroups weight groups count = (belowPoint weight groups).take count
      ++ List.replicate (count - (belowPoint weight groups).length) 0 := rfl
  refine ⟨magnitude (-1 - count) ((belowPoint weight groups).drop count),
    magnitude_nonneg _ _, ?_, ?_⟩
  · have hpower : (0 : ℚ) < 10000 ^ count := pow_pos (by norm_num) _
    rw [hunit, zpow_neg, zpow_natCast] at hrest
    have hscaled := mul_lt_mul_of_pos_right hrest hpower
    rwa [inv_mul_cancel₀ hpower.ne'] at hscaled
  · rw [magnitude_append, hpoint, hshown, add_assoc, ← magnitude_cut, ← magnitude_eq_integral_add]

theorem lt_of_mem_integralGroups (h : ∀ g ∈ groups, g < 10000) (weight : Int) :
    ∀ g ∈ integralGroups weight groups, g < 10000 := by
  intro g hg
  rcases List.mem_append.mp hg with hg | hg
  · exact h g (List.mem_of_mem_take hg)
  · rw [List.eq_of_mem_replicate hg]
    decide

theorem lt_of_mem_fractionGroups (h : ∀ g ∈ groups, g < 10000) (weight : Int) (count : Nat) :
    ∀ g ∈ fractionGroups weight groups count, g < 10000 := by
  intro g hg
  rcases List.mem_append.mp hg with hg | hg
  · exact lt_of_mem_belowPoint h weight g (List.mem_of_mem_take hg)
  · rw [List.eq_of_mem_replicate hg]
    decide

/-- Zeros in front of the first group do not count. -/
theorem ofDecimalChars_integralChars_append (groups : List Nat) (cs : List Char) :
    ofDecimalChars (integralChars groups ++ cs)
      = ofDecimalChars (groups.flatMap (paddedChars 4) ++ cs) := by
  cases groups with
  | nil =>
    have hzero : digitValue '0' = 0 := rfl
    show ofDecimalChars ('0' :: cs) = ofDecimalChars cs
    rw [ofDecimalChars_cons, hzero, Nat.zero_mul, Nat.zero_add]
  | cons g groups =>
    rw [integralChars, List.flatMap_cons, List.append_assoc, List.append_assoc,
      ofDecimalChars_append, ofDecimalChars_append (paddedChars 4 g), ofDecimalChars_decimalChars,
      ofDecimalChars_paddedChars]

/-- The digits behind the last one that is shown are divided off. -/
theorem ofDecimalChars_shown {whole part : List Nat} (hpart : ∀ g ∈ part, g < 10000) (scale : Nat) :
    ofDecimalChars (integralChars whole ++ (part.flatMap (paddedChars 4)).take scale)
      = ofDecimalChars ((whole ++ part).flatMap (paddedChars 4))
        / 10 ^ (4 * part.length - scale) := by
  have hdigits : (whole ++ part).flatMap (paddedChars 4)
      = whole.flatMap (paddedChars 4) ++ (part.flatMap (paddedChars 4)).take scale
        ++ (part.flatMap (paddedChars 4)).drop scale := by
    rw [List.append_assoc, List.take_append_drop, List.flatMap_append]
  have hhidden : ∀ c ∈ (part.flatMap (paddedChars 4)).drop scale, isDecimalDigit c = true := by
    intro c hc
    obtain ⟨g, -, hg⟩ := List.mem_flatMap.mp (List.mem_of_mem_drop hc)
    exact isDecimalDigit_of_mem_paddedChars hg
  have hcut := ofDecimalChars_append_div
    (whole.flatMap (paddedChars 4) ++ (part.flatMap (paddedChars 4)).take scale) hhidden
  rw [← hdigits, List.length_drop, length_flatMap_paddedChars hpart] at hcut
  rw [ofDecimalChars_integralChars_append, hcut]

/-- Groups around the point denote the number of all their digits, divided by that of those behind
it. -/
theorem magnitude_append_eq_div {whole part : List Nat} (h : ∀ g ∈ whole ++ part, g < 10000) :
    magnitude (whole.length - 1) (whole ++ part)
      = ofDecimalChars ((whole ++ part).flatMap (paddedChars 4)) / 10000 ^ part.length := by
  have hgroups := magnitude_groupsOf (length_flatMap_paddedChars h ▸ Nat.dvd_mul_right 4 _)
    ((whole.length : Int) - 1)
  have hexponent : (whole.length : Int) - 1 + 1 - (whole ++ part).length = -part.length := by
    rw [List.length_append]
    omega
  rwa [groupsOf_flatMap_paddedChars h, hexponent, zpow_neg, zpow_natCast,
    ← div_eq_mul_inv] at hgroups

/-- A rest that is less than the last group does not reach the digits that are shown. -/
theorem floor_div_add {value count scale : Nat} {rest : ℚ} (hscale : scale ≤ 4 * count)
    (hnonneg : 0 ≤ rest) (hlt : rest * 10000 ^ count < 1) :
    ⌊((value : ℚ) / 10000 ^ count + rest) * 10 ^ scale⌋₊ = value / 10 ^ (4 * count - scale) := by
  have hpower : (10000 : ℚ) ^ count = 10 ^ scale * 10 ^ (4 * count - scale) := by
    rw [← pow_add, Nat.add_sub_cancel' hscale, pow_mul]
    norm_num
  have hrest : 0 ≤ rest * 10000 ^ count := mul_nonneg hnonneg (pow_nonneg (by norm_num) count)
  have hscaled : ((value : ℚ) / 10000 ^ count + rest) * 10 ^ scale
      = (value + rest * 10000 ^ count) / ((10 ^ (4 * count - scale) : Nat) : ℚ) := by
    have hten : ∀ n : Nat, (10 : ℚ) ^ n ≠ 0 := fun n => pow_ne_zero n (by norm_num)
    push_cast
    rw [hpower]
    field_simp
  have hfloor : ⌊value + rest * 10000 ^ count⌋₊ = value :=
    (Nat.floor_eq_iff (by positivity)).mpr ⟨by linarith, by linarith⟩
  rw [hscaled, Nat.floor_div_natCast, hfloor]

/-- **Digits that are shown denote the number, cut off.** -/
theorem floor_magnitude (h : ∀ g ∈ groups, g < 10000) (weight : Int) (scale : Nat) :
    ⌊magnitude weight groups * 10 ^ scale⌋₊
      = ofDecimalChars (integralChars (integralGroups weight groups)
        ++ ((fractionGroups weight groups ((scale + 3) / 4)).flatMap (paddedChars 4)).take
          scale) := by
  have hpart := lt_of_mem_fractionGroups h weight ((scale + 3) / 4)
  have hall := List.forall_mem_append.mpr ⟨lt_of_mem_integralGroups h weight, hpart⟩
  obtain ⟨rest, hnonneg, hlt, hmagnitude⟩ :=
    exists_magnitude_eq_shown_add h weight ((scale + 3) / 4)
  rw [hmagnitude, magnitude_append_eq_div hall, ofDecimalChars_shown hpart, length_fractionGroups]
  exact floor_div_add (by omega) hnonneg hlt

end PgStatement.Wire.Numeric

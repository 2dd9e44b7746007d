import Mathlib.Algebra.BigOperators.Fin
import Mathlib.Algebra.Order.BigOperators.Group.Finset
import Mathlib.Algebra.Order.Field.Power
import Mathlib.Algebra.Order.Field.Rat
import Mathlib.Data.List.DropRight
import Mathlib.Tactic.Linarith
import PgStatement.Proofs.Digits
import PgStatement.Wire.Numeric

/-!
# Groups of four digits

A decimal number is sent in base ten thousand. What is shown here is about the groups alone: that
they are written as the digits that they were made of, that they denote the same number, and that
the groups that are not sent – zero groups at either end – are put back from the weight when the
number is read.
-/

namespace PgStatement.Wire.Numeric

open Text

variable {cs as bs : List Char}

/-! ## Digits in groups -/

theorem groupsOf_append (h : 4 ∣ as.length) (bs : List Char) :
    groupsOf (as ++ bs) = groupsOf as ++ groupsOf bs := by
  fun_induction groupsOf as with
  | case1 a b c d rest ih =>
    have hrest : 4 ∣ rest.length := by
      simp only [List.length_cons] at h
      omega
    exact congrArg (ofDecimalChars [a, b, c, d] :: ·) (ih hrest)
  | case2 as hshort =>
    obtain _ | ⟨a, _ | ⟨b, _ | ⟨c, _ | ⟨d, rest⟩⟩⟩⟩ := as
    · rfl
    · simp at h
    · simp at h
    · simp at h
    · exact absurd rfl (hshort a b c d rest)

/-- Four digits at the front are the first group. -/
theorem groupsOf_append_of_length (h : as.length = 4) (bs : List Char) :
    groupsOf (as ++ bs) = ofDecimalChars as :: groupsOf bs := by
  obtain ⟨a, b, c, d, rfl⟩ := List.length_eq_four.mp h
  rfl

/-- **Induction over complete groups.** -/
theorem groups_induction {P : List Char → Prop} (hnil : P [])
    (hcons : ∀ as bs, as.length = 4 → 4 ∣ bs.length → P bs → P (as ++ bs)) (h : 4 ∣ cs.length) :
    P cs := by
  obtain ⟨count, hcount⟩ := h
  induction count generalizing cs with
  | zero =>
    rw [List.eq_nil_of_length_eq_zero hcount]
    exact hnil
  | succ count ih =>
    have hdrop : (cs.drop 4).length = 4 * count := by
      rw [List.length_drop]
      omega
    rw [← List.take_append_drop 4 cs]
    refine hcons _ _ ?_ ⟨count, hdrop⟩ (ih hdrop)
    rw [List.length_take]
    omega

theorem length_groupsOf (h : 4 ∣ cs.length) : 4 * (groupsOf cs).length = cs.length := by
  refine groups_induction (P := fun cs => 4 * (groupsOf cs).length = cs.length) rfl ?_ h
  intro as bs has _ ih
  rw [groupsOf_append_of_length has, List.length_cons, List.length_append, Nat.mul_succ, ih, has,
    Nat.add_comm]

/-- **Groups are written as the digits that they were made of.** -/
theorem flatMap_paddedChars_groupsOf (hdigits : ∀ c ∈ cs, isDecimalDigit c = true)
    (h : 4 ∣ cs.length) : (groupsOf cs).flatMap (paddedChars 4) = cs := by
  refine groups_induction (P := fun cs => (∀ c ∈ cs, isDecimalDigit c = true) →
    (groupsOf cs).flatMap (paddedChars 4) = cs) (fun _ => rfl) ?_ h hdigits
  intro as bs has _ ih hdigits
  rw [List.forall_mem_append] at hdigits
  have hne : as ≠ [] := List.length_pos_iff.mp (by omega)
  have hpadded := paddedChars_ofDecimalChars hdigits.1 hne
  rw [has] at hpadded
  rw [groupsOf_append_of_length has, List.flatMap_cons, hpadded, ih hdigits.2]

theorem lt_of_mem_groupsOf (hdigits : ∀ c ∈ cs, isDecimalDigit c = true) {g : Nat}
    (hg : g ∈ groupsOf cs) : g < 10000 := by
  fun_induction groupsOf cs with
  | case1 a b c d rest ih =>
    have hfour : ∀ x ∈ [a, b, c, d], isDecimalDigit x = true := fun x hx =>
      hdigits x (List.mem_append_left rest hx)
    have hrest : ∀ x ∈ rest, isDecimalDigit x = true := fun x hx =>
      hdigits x (List.mem_append_right [a, b, c, d] hx)
    rcases List.mem_cons.mp hg with rfl | hg
    · exact (ofDecimalChars_lt hfour).trans_eq (by norm_num)
    · exact ih hrest hg
  | case2 => cases hg

/-- **Digits are grouped as the groups that they were written for.** -/
theorem groupsOf_flatMap_paddedChars {groups : List Nat} (h : ∀ g ∈ groups, g < 10000) :
    groupsOf (groups.flatMap (paddedChars 4)) = groups := by
  induction groups with
  | nil => rfl
  | cons g groups ih =>
    rw [List.forall_mem_cons] at h
    rw [List.flatMap_cons, groupsOf_append_of_length (length_paddedChars (by decide) h.1),
      ofDecimalChars_paddedChars, ih h.2]

theorem length_flatMap_paddedChars {groups : List Nat} (h : ∀ g ∈ groups, g < 10000) :
    (groups.flatMap (paddedChars 4)).length = 4 * groups.length := by
  induction groups with
  | nil => rfl
  | cons g groups ih =>
    rw [List.forall_mem_cons] at h
    rw [List.flatMap_cons, List.length_append, length_paddedChars (by decide) h.1, ih h.2,
      List.length_cons, Nat.mul_succ, Nat.add_comm]

theorem dvd_length_padding (digits : Nat) : 4 ∣ digits + padding digits := by
  unfold padding
  omega

/-! ## Integral digits -/

/-- **Digits without a zero in front**, filled up in front: some of them make the first group. -/
theorem exists_groupsOf_integral (hne : cs ≠ []) :
    ∃ lead rest, cs = lead ++ rest ∧ lead ≠ [] ∧ 4 ∣ rest.length
      ∧ groupsOf (List.replicate (padding cs.length) '0' ++ cs)
        = ofDecimalChars lead :: groupsOf rest := by
  have hpos := List.length_pos_iff.mpr hne
  have hdvd := dvd_length_padding cs.length
  have hlt : padding cs.length < 4 := Nat.mod_lt _ (by decide)
  generalize padding cs.length = zeros at hdvd hlt
  refine ⟨cs.take (4 - zeros), cs.drop (4 - zeros), (List.take_append_drop _ _).symm, ?_, ?_, ?_⟩
  · rw [← List.length_pos_iff, List.length_take]
    omega
  · rw [List.length_drop]
    omega
  · conv_lhs => rw [← List.take_append_drop (4 - zeros) cs, ← List.append_assoc]
    rw [groupsOf_append_of_length, ofDecimalChars_append, ofDecimalChars_replicate, Nat.zero_mul,
      Nat.zero_add]
    rw [List.length_append, List.length_replicate, List.length_take]
    omega

/-- The integral digits of a number, without zeros in front. -/
def significant (cs : List Char) : List Char := cs.dropWhile (· == '0')

theorem head?_significant (cs : List Char) : (significant cs).head? ≠ some '0' := by
  intro h
  have hnot := List.head?_dropWhile_not (· == '0') cs
  rw [significant] at h
  rw [h] at hnot
  cases hnot

theorem ofDecimalChars_significant_append (as bs : List Char) :
    ofDecimalChars (significant as ++ bs) = ofDecimalChars (as ++ bs) := by
  induction as with
  | nil => rfl
  | cons a as ih =>
    unfold significant at ih ⊢
    rw [List.dropWhile_cons]
    by_cases ha : (a == '0') = true
    · have hvalue : digitValue a = 0 := by
        rw [beq_iff_eq.mp ha]
        rfl
      rw [if_pos ha, ih, List.cons_append, ofDecimalChars_cons, hvalue, Nat.zero_mul, Nat.zero_add]
    · rw [if_neg ha]

/-- The groups of integral digits. -/
def wholeGroups (cs : List Char) : List Nat :=
  groupsOf (List.replicate (padding (significant cs).length) '0' ++ significant cs)

theorem isDecimalDigit_of_mem_significant (h : ∀ c ∈ cs, isDecimalDigit c = true) :
    ∀ c ∈ significant cs, isDecimalDigit c = true :=
  fun c hc => h c ((List.dropWhile_sublist _).subset hc)

theorem wholeGroups_of_significant_eq_nil (h : significant cs = []) : wholeGroups cs = [] := by
  rw [wholeGroups, h]
  rfl

theorem dvd_length_whole (cs : List Char) :
    4 ∣ (List.replicate (padding (significant cs).length) '0' ++ significant cs).length := by
  rw [List.length_append, List.length_replicate, Nat.add_comm]
  exact dvd_length_padding _

theorem length_wholeGroups (cs : List Char) :
    (wholeGroups cs).length = ((significant cs).length + 3) / 4 := by
  have hlength := length_groupsOf (dvd_length_whole cs)
  rw [List.length_append, List.length_replicate] at hlength
  unfold wholeGroups
  unfold padding at hlength ⊢
  omega

/-- The first group of integral digits is not zero. -/
theorem head?_wholeGroups (hdigits : ∀ c ∈ cs, isDecimalDigit c = true) :
    (wholeGroups cs).head? ≠ some 0 := by
  by_cases hne : significant cs = []
  · rw [wholeGroups_of_significant_eq_nil hne]
    nofun
  · obtain ⟨lead, rest, heq, hlead, -, hgroups⟩ := exists_groupsOf_integral hne
    have hzero := head?_significant cs
    have hdigits := isDecimalDigit_of_mem_significant hdigits
    rw [heq, List.head?_append_of_ne_nil _ hlead] at hzero
    rw [heq, List.forall_mem_append] at hdigits
    rw [wholeGroups, hgroups]
    intro h
    have hchars := decimalChars_ofDecimalChars hdigits.1 hlead hzero
    rw [Option.some.inj h] at hchars
    rw [← hchars] at hzero
    exact hzero rfl

/-- **Integral digits are written again**, and a zero if there are none. -/
theorem integralChars_wholeGroups (hdigits : ∀ c ∈ cs, isDecimalDigit c = true) :
    integralChars (wholeGroups cs)
      = if significant cs = [] then ['0'] else significant cs := by
  by_cases hne : significant cs = []
  · rw [if_pos hne, wholeGroups_of_significant_eq_nil hne]
    rfl
  · obtain ⟨lead, rest, heq, hlead, hrest, hgroups⟩ := exists_groupsOf_integral hne
    have hzero := head?_significant cs
    have hdigits := isDecimalDigit_of_mem_significant hdigits
    rw [if_neg hne, wholeGroups, hgroups, integralChars]
    rw [heq, List.head?_append_of_ne_nil _ hlead] at hzero
    rw [heq, List.forall_mem_append] at hdigits
    rw [decimalChars_ofDecimalChars hdigits.1 hlead hzero,
      flatMap_paddedChars_groupsOf hdigits.2 hrest, heq]

/-! ## Fraction digits -/

/-- The groups of fraction digits. -/
def partGroups (cs : List Char) : List Nat :=
  groupsOf (cs ++ List.replicate (padding cs.length) '0')

theorem dvd_length_part (cs : List Char) :
    4 ∣ (cs ++ List.replicate (padding cs.length) '0').length := by
  rw [List.length_append, List.length_replicate]
  exact dvd_length_padding cs.length

theorem length_partGroups (cs : List Char) : (partGroups cs).length = (cs.length + 3) / 4 := by
  have hlength := length_groupsOf (dvd_length_part cs)
  rw [List.length_append, List.length_replicate] at hlength
  unfold partGroups
  unfold padding at hlength ⊢
  omega

theorem isDecimalDigit_of_mem_part (h : ∀ c ∈ cs, isDecimalDigit c = true) (count : Nat) :
    ∀ c ∈ cs ++ List.replicate count '0', isDecimalDigit c = true := by
  rw [List.forall_mem_append]
  refine ⟨h, fun c hc => ?_⟩
  rw [List.eq_of_mem_replicate hc]
  rfl

/-- **Fraction digits are written again.** -/
theorem take_flatMap_partGroups (hdigits : ∀ c ∈ cs, isDecimalDigit c = true) :
    ((partGroups cs).flatMap (paddedChars 4)).take cs.length = cs := by
  rw [partGroups, flatMap_paddedChars_groupsOf (isDecimalDigit_of_mem_part hdigits _)
    (dvd_length_part cs)]
  exact List.take_left

/-! ## Zero groups that are not sent -/

/-- Groups without those at either end that are zero. -/
def stripped (groups : List Nat) : List Nat := (groups.dropWhile isZero).rdropWhile isZero

/-- The number of zero groups in front. -/
def leading (groups : List Nat) : Nat := (groups.takeWhile isZero).length

theorem eq_replicate_of_forall_isZero (groups : List Nat) (h : ∀ g ∈ groups, isZero g = true) :
    groups = List.replicate groups.length 0 :=
  List.eq_replicate_iff.mpr ⟨rfl, fun g hg => beq_iff_eq.mp (h g hg)⟩

/-- Nothing in front is zero where the first of some groups is not. -/
theorem leading_append {whole : List Nat} (hne : whole ≠ []) (hwhole : whole.head? ≠ some 0)
    (part : List Nat) : leading (whole ++ part) = 0 := by
  obtain ⟨first, rest, rfl⟩ := List.exists_cons_of_ne_nil hne
  have hfirst : ¬isZero first = true := fun h => hwhole (congrArg some (beq_iff_eq.mp h))
  rw [leading, List.cons_append, List.takeWhile_cons_of_neg hfirst]
  rfl

/-- **What was taken away** is zeros in front and zeros at the end. -/
theorem exists_eq_stripped (groups : List Nat) :
    ∃ trailing, groups
      = List.replicate (leading groups) 0 ++ (stripped groups ++ List.replicate trailing 0) := by
  have hfront := eq_replicate_of_forall_isZero (groups.takeWhile isZero)
    fun g hg => List.mem_takeWhile_imp hg
  have hback := eq_replicate_of_forall_isZero
    ((groups.dropWhile isZero).rtakeWhile isZero) fun g hg => List.mem_rtakeWhile_imp hg
  refine ⟨((groups.dropWhile isZero).rtakeWhile isZero).length, ?_⟩
  rw [leading, ← hfront, stripped, ← hback, List.rdropWhile_append_rtakeWhile,
    List.takeWhile_append_dropWhile]

theorem head?_stripped (groups : List Nat) : (stripped groups).head? ≠ some 0 := by
  obtain ⟨rest, hrest⟩ := List.rdropWhile_prefix isZero (groups.dropWhile isZero)
  intro h
  have hnot := List.head?_dropWhile_not isZero groups
  have hne : stripped groups ≠ [] := by
    intro hnil
    rw [hnil] at h
    cases h
  have hhead : (groups.dropWhile isZero).head? = some 0 := by
    rw [← hrest]
    show (stripped groups ++ rest).head? = _
    rw [List.head?_append_of_ne_nil _ hne, h]
  rw [hhead] at hnot
  cases hnot

theorem getLast?_stripped (groups : List Nat) : (stripped groups).getLast? ≠ some 0 := by
  intro h
  have hne : stripped groups ≠ [] := by
    intro hnil
    rw [hnil] at h
    cases h
  have hnot := List.rdropWhile_last_not isZero (groups.dropWhile isZero) hne
  rw [List.getLast?_eq_some_getLast hne] at h
  exact hnot (beq_iff_eq.mpr (Option.some.inj h))

/-- Groups that lack zeros at the end, brought to a number that they had. -/
theorem take_append_replicate {groups as bs : List Nat} {trailing : Nat}
    (h : groups ++ List.replicate trailing 0 = as ++ bs) :
    groups.take as.length ++ List.replicate (as.length - groups.length) 0 = as := by
  have hlength := congrArg List.length h
  rw [List.length_append, List.length_append, List.length_replicate] at hlength
  have htake := congrArg (List.take as.length) h
  rw [List.take_append, List.take_left, List.take_replicate] at htake
  rwa [Nat.min_eq_left (by omega)] at htake

theorem take_append_replicate_self {groups as : List Nat} {trailing : Nat}
    (h : groups ++ List.replicate trailing 0 = as) :
    groups.take as.length ++ List.replicate (as.length - groups.length) 0 = as :=
  take_append_replicate (h.trans (List.append_nil as).symm)

/-- **Groups are put back**: from the weight of the first one that is left, those of the integral
digits and those of the fraction digits. -/
theorem restored {whole : List Nat} (hwhole : whole.head? ≠ some 0) (part : List Nat) :
    integralGroups ((whole.length : Int) - 1 - leading (whole ++ part)) (stripped (whole ++ part))
        = whole
      ∧ fractionGroups ((whole.length : Int) - 1 - leading (whole ++ part))
        (stripped (whole ++ part)) part.length = part := by
  obtain ⟨trailing, heq⟩ := exists_eq_stripped (whole ++ part)
  generalize stripped (whole ++ part) = groups at heq ⊢
  by_cases hw : whole = []
  · subst hw
    rw [List.nil_append] at heq ⊢
    have hcount : ((([] : List Nat).length : Int) - 1 - leading part + 1).toNat = 0 := by
      rw [List.length_nil]
      omega
    have hzeros : (-((([] : List Nat).length : Int) - 1 - leading part + 1)).toNat
        = leading part := by
      rw [List.length_nil]
      omega
    refine ⟨?_, ?_⟩
    · rw [integralGroups, hcount, List.take_zero, Nat.zero_sub]
      rfl
    · rw [fractionGroups, hcount, hzeros, List.drop_zero]
      rw [← List.append_assoc] at heq
      exact take_append_replicate_self heq.symm
  · have hleading := leading_append hw hwhole part
    rw [hleading, List.replicate_zero, List.nil_append] at heq
    rw [hleading]
    have hcount : ((whole.length : Int) - 1 - (0 : Nat) + 1).toNat = whole.length := by omega
    have hzeros : (-((whole.length : Int) - 1 - (0 : Nat) + 1)).toNat = 0 := by omega
    refine ⟨?_, ?_⟩
    · rw [integralGroups, hcount]
      exact take_append_replicate heq.symm
    · rw [fractionGroups, hcount, hzeros, List.replicate_zero, List.nil_append]
      have hdrop := congrArg (List.drop whole.length) heq.symm
      rw [List.drop_append, List.drop_left, List.drop_replicate] at hdrop
      exact take_append_replicate_self hdrop

/-- Groups of which none is left are zeros, and none of them is integral. -/
theorem eq_of_stripped_eq_nil {whole part : List Nat} (hwhole : whole.head? ≠ some 0)
    (h : stripped (whole ++ part) = []) : whole = [] ∧ part = List.replicate part.length 0 := by
  obtain ⟨trailing, heq⟩ := exists_eq_stripped (whole ++ part)
  rw [h, List.nil_append, List.replicate_append_replicate] at heq
  have hzero : ∀ g ∈ whole ++ part, g = 0 := by
    rw [heq]
    exact fun g hg => List.eq_of_mem_replicate hg
  rw [List.forall_mem_append] at hzero
  refine ⟨?_, List.eq_replicate_iff.mpr ⟨rfl, hzero.2⟩⟩
  cases whole with
  | nil => rfl
  | cons first rest => exact absurd (congrArg some (hzero.1 first List.mem_cons_self)) hwhole

/-! ## The number that groups denote -/

/-- **The number that groups denote** in base ten thousand, the first one being of the given
weight. -/
def magnitude (weight : Int) (groups : List Nat) : ℚ :=
  ∑ i : Fin groups.length, (groups[i] : ℚ) * 10000 ^ (weight - i)

@[simp] theorem magnitude_nil (weight : Int) : magnitude weight [] = 0 := rfl

theorem magnitude_cons (weight : Int) (g : Nat) (groups : List Nat) :
    magnitude weight (g :: groups) = g * 10000 ^ weight + magnitude (weight - 1) groups := by
  unfold magnitude
  refine (Fin.sum_univ_succ (n := groups.length) _).trans ?_
  congr 1
  · simp
  · refine Finset.sum_congr rfl fun i _ => ?_
    have hweight :
        weight - ((i.succ : Fin (groups.length + 1)) : Nat) = weight - 1 - (i : Nat) := by
      rw [Fin.val_succ]
      omega
    rw [hweight]
    rfl

theorem magnitude_append (weight : Int) (as bs : List Nat) :
    magnitude weight (as ++ bs) = magnitude weight as + magnitude (weight - as.length) bs := by
  induction as generalizing weight with
  | nil => simp
  | cons a as ih =>
    have hweight : weight - 1 - as.length = weight - (a :: as).length := by
      rw [List.length_cons]
      omega
    rw [List.cons_append, magnitude_cons, magnitude_cons, ih, hweight, add_assoc]

theorem magnitude_replicate_zero (weight : Int) (count : Nat) :
    magnitude weight (List.replicate count 0) = 0 := by
  induction count generalizing weight with
  | zero => rfl
  | succ count ih => rw [List.replicate_succ, magnitude_cons, ih, Nat.cast_zero, zero_mul, add_zero]

/-- Groups that are not sent do not count. -/
theorem magnitude_stripped (weight : Int) (groups : List Nat) :
    magnitude (weight - leading groups) (stripped groups) = magnitude weight groups := by
  obtain ⟨trailing, heq⟩ := exists_eq_stripped groups
  conv_rhs => rw [heq]
  rw [magnitude_append, magnitude_append, magnitude_replicate_zero, magnitude_replicate_zero,
    List.length_replicate, zero_add, add_zero]

/-- **Groups denote what their digits do.** -/
theorem magnitude_groupsOf (h : 4 ∣ cs.length) (weight : Int) :
    magnitude weight (groupsOf cs)
      = ofDecimalChars cs * 10000 ^ (weight + 1 - (groupsOf cs).length) := by
  refine groups_induction (P := fun cs => ∀ weight : Int, magnitude weight (groupsOf cs)
    = ofDecimalChars cs * 10000 ^ (weight + 1 - (groupsOf cs).length)) ?_ ?_ h weight
  · intro weight
    show (0 : ℚ) = ((0 : Nat) : ℚ) * _
    rw [Nat.cast_zero, zero_mul]
  · intro as bs has hbs ih weight
    have hlength := length_groupsOf hbs
    have hweight : weight + 1 - ((groupsOf bs).length + 1 : Nat)
        = weight - (groupsOf bs).length := by omega
    have hpower : (10 : ℚ) ^ bs.length = 10000 ^ ((groupsOf bs).length : Int) := by
      rw [← hlength, pow_mul, zpow_natCast]
      norm_num
    rw [groupsOf_append_of_length has, magnitude_cons, ih, List.length_cons, hweight,
      ofDecimalChars_append, Nat.cast_add, Nat.cast_mul, Nat.cast_pow, Nat.cast_ofNat, hpower,
      add_mul, mul_assoc, ← zpow_add₀ (by norm_num)]
    congr 3 <;> omega

theorem magnitude_nonneg (weight : Int) (groups : List Nat) : 0 ≤ magnitude weight groups :=
  Finset.sum_nonneg fun _ _ => mul_nonneg (Nat.cast_nonneg _) (zpow_nonneg (by norm_num) _)

/-- Groups that denote nothing are zeros. -/
theorem eq_zero_of_magnitude_eq_zero {weight : Int} {groups : List Nat}
    (h : magnitude weight groups = 0) : ∀ g ∈ groups, g = 0 := by
  induction groups generalizing weight with
  | nil => nofun
  | cons g groups ih =>
    have hunit : (0 : ℚ) < 10000 ^ weight := zpow_pos (by norm_num) _
    have hfirst : (0 : ℚ) ≤ g * 10000 ^ weight := mul_nonneg (Nat.cast_nonneg _) hunit.le
    have hrest := magnitude_nonneg (weight - 1) groups
    rw [magnitude_cons] at h
    have hg : (g : ℚ) * 10000 ^ weight = 0 := by linarith
    refine List.forall_mem_cons.mpr ⟨?_, ih (by linarith)⟩
    exact Nat.cast_eq_zero.mp ((mul_eq_zero.mp hg).resolve_right hunit.ne')

/-- A number whose first group is not zero is not zero. -/
theorem magnitude_eq_zero_iff {weight : Int} {groups : List Nat} (h : groups.head? ≠ some 0) :
    magnitude weight groups = 0 ↔ groups = [] := by
  constructor
  · intro hzero
    cases groups with
    | nil => rfl
    | cons g groups =>
      have hg := eq_zero_of_magnitude_eq_zero hzero g List.mem_cons_self
      exact absurd (congrArg some hg) h
  · rintro rfl
    rfl

end PgStatement.Wire.Numeric

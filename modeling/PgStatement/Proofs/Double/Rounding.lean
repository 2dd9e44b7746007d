import Mathlib.Algebra.Order.Field.Basic
import Mathlib.Algebra.Order.Field.Power
import Mathlib.Data.Rat.Cast.Order
import Mathlib.Tactic.LinearCombination
import Mathlib.Tactic.Linarith
import Mathlib.Tactic.Ring
import PgStatement.Double.Shortest

/-!
# Which floating-point number is nearest

The pattern of a number without its sign is a natural number, and greater patterns stand for greater
numbers (`Format.number_strictMono`). Two neighbours differ by one unit in the last place of the
lower one. A number that is not farther from a pattern than half of the way to each of its
neighbours is nearest to it (`Format.isNearest_of_between`): this is what reading a decimal takes to
be the number that it means. Half-way between two patterns the even one is taken, and what follows
the largest pattern of a number is the pattern of infinity, so that numbers that are too large are
nearest to that.
-/

namespace PgStatement.Format

/-- The significand of a pattern. Below the first exponent nothing is added to the fraction. -/
def significandOf (f : Format) (pattern : Nat) : Nat :=
  if pattern < 2 ^ f.fractionBits then pattern
  else 2 ^ f.fractionBits + pattern % 2 ^ f.fractionBits

/-- The exponent of the last place of a pattern, above the smallest one. -/
def placeOf (f : Format) (pattern : Nat) : Nat := pattern / 2 ^ f.fractionBits - 1

/-- **The number that a pattern stands for.** The pattern of infinity is read like all others, as
what would come next. -/
def number (f : Format) (pattern : Nat) : ℚ :=
  f.significandOf pattern * 2 ^ (f.minExponent + f.placeOf pattern)

/-- **The pattern that is nearest to a number**, an even one if two are equally near. -/
def IsNearest (f : Format) (q : ℚ) (pattern : Nat) : Prop :=
  ∀ other ≤ f.infinity, other ≠ pattern →
    |q - f.number pattern| < |q - f.number other|
      ∨ |q - f.number pattern| = |q - f.number other| ∧ pattern % 2 = 0

variable {f : Format} {pattern : Nat} {m : Magnitude} {q : ℚ}

/-- The magnitude of a pattern is its number. -/
theorem magnitude?_eq (h : f.magnitude? pattern = some m) :
    m.significand = f.significandOf pattern ∧ m.exponent = f.minExponent + f.placeOf pattern := by
  have hpower : 0 < 2 ^ f.fractionBits := Nat.two_pow_pos _
  unfold magnitude? at h
  simp only at h
  split at h
  · cases h
  · split at h
    · rename_i hsmall
      have hlt : pattern < 2 ^ f.fractionBits :=
        (Nat.div_eq_zero_iff_lt hpower).mp (beq_iff_eq.mp hsmall)
      cases h
      rw [significandOf, if_pos hlt, placeOf, Nat.div_eq_of_lt hlt]
      exact ⟨Nat.mod_eq_of_lt hlt, (Int.add_zero _).symm⟩
    · rename_i hlarge
      have hle : ¬pattern < 2 ^ f.fractionBits := fun hlt =>
        hlarge (beq_iff_eq.mpr (Nat.div_eq_of_lt hlt))
      have hplace : 1 ≤ pattern / 2 ^ f.fractionBits :=
        (Nat.one_le_div_iff hpower).mpr (Nat.le_of_not_lt hle)
      cases h
      rw [significandOf, if_neg hle, placeOf]
      refine ⟨rfl, ?_⟩
      push_cast [hplace]
      rfl

/-- The next pattern has one more in the last place, which is a place higher where the fraction is
full. -/
theorem significandOf_succ (f : Format) (pattern : Nat) :
    f.significandOf (pattern + 1) * 2 ^ f.placeOf (pattern + 1)
      = (f.significandOf pattern + 1) * 2 ^ f.placeOf pattern := by
  unfold significandOf placeOf
  generalize hunit : 2 ^ f.fractionBits = unit
  have hpower : 0 < unit := hunit ▸ Nat.two_pow_pos _
  have hsplit := Nat.div_add_mod pattern unit
  have hrest := Nat.mod_lt pattern hpower
  by_cases hfull : pattern % unit + 1 = unit
  · have hnext : pattern + 1 = unit * (pattern / unit + 1) := by
      rw [Nat.mul_add, Nat.mul_one]
      omega
    have hdiv : (pattern + 1) / unit = pattern / unit + 1 := by
      rw [hnext, Nat.mul_div_cancel_left _ hpower]
    have hmod : (pattern + 1) % unit = 0 := by rw [hnext, Nat.mul_mod_right]
    have hlarge : ¬pattern + 1 < unit := by
      rw [hnext]
      exact Nat.not_lt.mpr (Nat.le_mul_of_pos_right _ (Nat.succ_pos _))
    rw [if_neg hlarge, hdiv, hmod, Nat.add_zero, Nat.add_sub_cancel]
    cases hplace : pattern / unit with
    | zero =>
      rw [hplace, Nat.mul_zero, Nat.zero_add] at hsplit
      rw [if_pos (hsplit ▸ hrest), ← hsplit, hfull]
    | succ place =>
      have hpattern : ¬pattern < unit := fun hlt => by
        rw [Nat.div_eq_of_lt hlt] at hplace
        cases hplace
      rw [if_neg hpattern, Nat.add_assoc, hfull, Nat.add_sub_cancel, pow_succ]
      ring
  · have hdiv : (pattern + 1) / unit = pattern / unit :=
      Nat.div_eq_of_lt_le (by rw [Nat.mul_comm]; omega) (by rw [Nat.add_mul, Nat.mul_comm]; omega)
    have hmod : (pattern + 1) % unit = pattern % unit + 1 := by
      have hnext := Nat.div_add_mod (pattern + 1) unit
      rw [hdiv] at hnext
      omega
    have hsmall : pattern + 1 < unit ↔ pattern < unit := by
      rw [← Nat.div_eq_zero_iff_lt hpower, ← Nat.div_eq_zero_iff_lt hpower, hdiv]
    rw [hdiv, hmod, if_congr hsmall rfl rfl]
    split <;> rfl

/-- The place of the next pattern is the same, except where another exponent begins. -/
theorem placeOf_succ (f : Format) (pattern : Nat) :
    f.placeOf (pattern + 1) = f.placeOf pattern
      + if f.significandOf (pattern + 1) = 2 ^ f.fractionBits ∧ 0 < f.placeOf (pattern + 1) then 1
        else 0 := by
  unfold significandOf placeOf
  generalize hunit : 2 ^ f.fractionBits = unit
  have hpower : 0 < unit := hunit ▸ Nat.two_pow_pos _
  rw [Nat.succ_div]
  by_cases hdvd : unit ∣ pattern + 1
  · have hle : ¬pattern + 1 < unit := Nat.not_lt.mpr (Nat.le_of_dvd (Nat.succ_pos _) hdvd)
    rw [if_pos hdvd, if_neg hle, Nat.mod_eq_zero_of_dvd hdvd]
    split <;> omega
  · have hrest : (pattern + 1) % unit ≠ 0 := fun h => hdvd (Nat.dvd_of_mod_eq_zero h)
    have hinner : ¬((if pattern + 1 < unit then pattern + 1 else unit + (pattern + 1) % unit) = unit
        ∧ 0 < pattern / unit + 0 - 1) := fun ⟨h, _⟩ => by
      split at h <;> omega
    rw [if_neg hdvd, if_neg hinner]
    rfl

/-- The significand has as many bits as the fraction and one more. -/
theorem significandOf_lt (f : Format) (pattern : Nat) :
    f.significandOf pattern < 2 * 2 ^ f.fractionBits := by
  have hrest := Nat.mod_lt pattern (Nat.two_pow_pos f.fractionBits)
  unfold significandOf
  split <;> omega

/-- A pattern is even if its significand is. -/
theorem significandOf_mod_two (hbits : 0 < f.fractionBits) :
    f.significandOf pattern % 2 = pattern % 2 := by
  have hdvd : 2 ∣ 2 ^ f.fractionBits := dvd_pow_self 2 (Nat.ne_of_gt hbits)
  unfold significandOf
  split
  · rfl
  · rw [Nat.add_mod, Nat.mod_eq_zero_of_dvd hdvd, Nat.mod_mod_of_dvd _ hdvd, Nat.zero_add,
      Nat.mod_mod]

/-- **Neighbours differ by one in the last place** of the lower one. -/
theorem number_succ (f : Format) (pattern : Nat) :
    f.number (pattern + 1)
      = f.number pattern + 2 ^ (f.minExponent + f.placeOf pattern) := by
  have hnext := congrArg (Nat.cast (R := ℚ)) (f.significandOf_succ pattern)
  push_cast at hnext
  simp only [number, zpow_add₀ (two_ne_zero' ℚ), zpow_natCast]
  linear_combination (2 ^ f.minExponent : ℚ) * hnext

/-- **A number is from its lower neighbour as far as from its upper one**, or half as far where its
exponent begins. -/
theorem number_pred (h : f.significandOf pattern ≠ 0) :
    f.number pattern = f.number (pattern - 1)
      + 2 ^ (f.minExponent + f.placeOf pattern)
        / if f.significandOf pattern = 2 ^ f.fractionBits
          ∧ 0 < f.placeOf pattern then 2 else 1 := by
  obtain _ | pattern := pattern
  · exact absurd (if_pos (Nat.two_pow_pos _)) h
  · have hplace := f.placeOf_succ pattern
    rw [number_succ, Nat.add_sub_cancel]
    split at hplace
    · rw [if_pos ‹_›, hplace]
      push_cast
      rw [← add_assoc, zpow_add_one₀ two_ne_zero, mul_div_cancel_right₀ _ two_ne_zero]
    · rw [if_neg ‹_›, hplace, Nat.add_zero, div_one]

/-- Greater patterns stand for greater numbers. -/
theorem number_strictMono (f : Format) : StrictMono f.number := by
  refine strictMono_nat_of_lt_succ fun pattern => ?_
  rw [number_succ]
  exact lt_add_of_pos_right _ (zpow_pos two_pos _)

/-- A number below the middle of two others is nearer to the lower one. -/
theorem abs_sub_of_le_middle {a b q : ℚ} (h : a < b) (hq : q ≤ (a + b) / 2) :
    |q - a| < |q - b| ∨ |q - a| = |q - b| ∧ q = (a + b) / 2 := by
  have hright : |q - b| = b - q := by
    rw [abs_sub_comm, abs_of_nonneg]
    linarith
  rw [hright]
  obtain hlt | heq := lt_or_eq_of_le hq
  · exact .inl (abs_lt.mpr ⟨by linarith, by linarith⟩)
  · refine .inr ⟨?_, heq⟩
    rw [abs_of_nonneg (by linarith)]
    linarith

/-- A number above the middle of two others is nearer to the upper one. -/
theorem abs_sub_of_middle_le {a b q : ℚ} (h : a < b) (hq : (a + b) / 2 ≤ q) :
    |q - b| < |q - a| ∨ |q - b| = |q - a| ∧ q = (a + b) / 2 := by
  obtain hlt | ⟨heq, hmiddle⟩ := abs_sub_of_le_middle (q := -q) (neg_lt_neg h) (by linarith)
  · exact .inl (by simpa only [neg_sub_neg, abs_sub_comm] using hlt)
  · exact .inr ⟨by simpa only [neg_sub_neg, abs_sub_comm] using heq, by linarith⟩

/-- **What is not beyond the middle to either neighbour is nearest.** Of a pattern that is odd the
middle itself belongs to its neighbours. -/
theorem isNearest_of_between (hlow : (f.number (pattern - 1) + f.number pattern) / 2 ≤ q)
    (hhigh : q ≤ (f.number pattern + f.number (pattern + 1)) / 2)
    (hodd : pattern % 2 ≠ 0 → q ≠ (f.number (pattern - 1) + f.number pattern) / 2
      ∧ q ≠ (f.number pattern + f.number (pattern + 1)) / 2) : f.IsNearest q pattern := by
  intro other _ hne
  have hmono := f.number_strictMono
  obtain hless | hgreater := Nat.lt_or_gt_of_ne hne
  · have hother : f.number other ≤ f.number (pattern - 1) :=
      hmono.monotone (Nat.le_sub_one_of_lt hless)
    refine (abs_sub_of_middle_le (hmono hless) (by linarith)).imp_right fun ⟨heq, hmiddle⟩ => ?_
    refine ⟨heq, by_contra fun h => (hodd h).1 ?_⟩
    linarith
  · have hother : f.number (pattern + 1) ≤ f.number other := hmono.monotone hgreater
    refine (abs_sub_of_le_middle (hmono hgreater) (by linarith)).imp_right fun ⟨heq, hmiddle⟩ => ?_
    refine ⟨heq, by_contra fun h => (hodd h).2 ?_⟩
    linarith

theorem number_zero (f : Format) : f.number 0 = 0 := by
  rw [number, significandOf, if_pos (Nat.two_pow_pos _), Nat.cast_zero, zero_mul]

/-- Only the pattern zero has the significand zero. -/
theorem significandOf_ne_zero (h : 0 < pattern) : f.significandOf pattern ≠ 0 := by
  have hpower := Nat.two_pow_pos f.fractionBits
  unfold significandOf
  split <;> omega

/-- Zero is nearest to itself. -/
theorem isNearest_zero (f : Format) : f.IsNearest 0 0 := by
  have hone := f.number_strictMono Nat.zero_lt_one
  rw [number_zero] at hone
  refine isNearest_of_between ?_ ?_ fun h => absurd rfl h
  · rw [Nat.zero_sub, number_zero, add_zero, zero_div]
  · rw [number_zero]
    linarith

end PgStatement.Format

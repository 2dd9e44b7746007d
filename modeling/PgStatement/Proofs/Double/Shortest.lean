import Mathlib.Tactic.FieldSimp
import Mathlib.Tactic.NormNum
import PgStatement.Proofs.Double.Rounding

/-!
# The shortest digits are read back

The digits of a number are looked for on one grid of decimals after the other, each ten times as
fine as the one before. What is found lies in the interval of the decimals that read back
(`Shortest.Interval.Contains`), since it is taken for no other reason; and the search ends, since
the finest grid that it looks at has a point there. The grids begin at the leading digit of the
number (`Shortest.leadingExponent_le`), seventeen digits further on their points are closer than the
number is to the lower end of the interval, and the point below the number is in it.

So the decimal of a positive number is always one that the number is nearest to
(`Magnitude.isNearest_shortest`).
-/

namespace PgStatement

/-- The number that a decimal is. -/
def DecimalMagnitude.number (d : DecimalMagnitude) : ℚ := d.digits * 10 ^ d.exponent

namespace Shortest

/-- A power as a quotient of powers with natural exponents. -/
theorem zpow_eq_div {b : ℚ} (hb : b ≠ 0) (e : ℤ) : b ^ e = b ^ e.toNat / b ^ (-e).toNat := by
  rw [eq_div_iff (pow_ne_zero _ hb), ← zpow_natCast, ← zpow_natCast, ← zpow_add₀ hb]
  congr 1
  omega

/-! ## The interval -/

namespace Interval

/-- **The decimals that read back.** -/
def Contains (i : Interval) (q : ℚ) : Prop :=
  if i.closed then i.low / i.den ≤ q ∧ q ≤ i.high / i.den
  else (i.low / i.den : ℚ) < q ∧ q < i.high / i.den

variable {i : Interval} {num den k : Nat}

theorem holds_iff (hi : 0 < i.den) (hden : 0 < den) :
    i.holds num den k = true ↔ i.Contains (k * (num / den)) := by
  have hi' : (0 : ℚ) < i.den := Nat.cast_pos.mpr hi
  have hden' : (0 : ℚ) < den := Nat.cast_pos.mpr hden
  have hlow (r : Nat) : (r / i.den : ℚ) ≤ k * (num / den) ↔ r * den ≤ k * num * i.den := by
    rw [← mul_div_assoc, div_le_div_iff₀ hi' hden']
    exact_mod_cast Iff.rfl
  have hhigh (r : Nat) : (k * (num / den) : ℚ) ≤ r / i.den ↔ k * num * i.den ≤ r * den := by
    rw [← mul_div_assoc, div_le_div_iff₀ hden' hi']
    exact_mod_cast Iff.rfl
  unfold holds Contains
  split
  · rw [hlow, hhigh, Bool.and_eq_true, decide_eq_true_eq, decide_eq_true_eq]
  · rw [← not_le, ← not_le, hlow, hhigh, not_le, not_le, Bool.and_eq_true, decide_eq_true_eq,
      decide_eq_true_eq]

/-- **What is taken reads back.** -/
theorem holds_of_nearest? {tie : Tie} (h : i.nearest? tie num den = some k) :
    i.holds num den k = true := by
  unfold nearest? at h
  simp only at h
  split at h
  · rename_i hbelow _
    exact Option.some.inj h ▸ hbelow
  · rename_i habove
    exact Option.some.inj h ▸ habove
  · cases h
  · rename_i hbelow habove
    split at h
    · exact Option.some.inj h ▸ hbelow
    · split at h
      · exact Option.some.inj h ▸ habove
      · cases tie with
        | up => exact Option.some.inj h ▸ habove
        | even =>
          simp only at h
          split at h
          · exact Option.some.inj h ▸ hbelow
          · exact Option.some.inj h ▸ habove

/-- A grid that has a point between the lower end and the number has one that is taken. -/
theorem isSome_nearest? {tie : Tie} 
    (h : i.holds num den (i.value * den / (num * i.den)) = true) :
    (i.nearest? tie num den).isSome = true := by
  unfold nearest?
  simp only [h]
  split
  · rfl
  · rename_i hfalse _
    cases hfalse
  · rename_i hfalse _
    cases hfalse
  · split
    · rfl
    · split
      · rfl
      · cases tie <;> rfl

end Interval

/-! ## The search -/

/-- **What is found reads back**, if one of the grids has a point that is taken. -/
theorem nearest?_search {i : Interval} {tie : Tie} {fuel : Nat} {exponent : Int} {steps : Nat}
    (hsteps : steps < fuel)
    (h : (i.nearest? tie (10 ^ (exponent - steps).toNat) (10 ^ (-(exponent - steps)).toNat)).isSome
      = true) :
    i.nearest? tie (10 ^ (search i tie fuel exponent).exponent.toNat)
        (10 ^ (-(search i tie fuel exponent).exponent).toNat)
      = some (search i tie fuel exponent).digits := by
  induction fuel generalizing exponent steps with
  | zero => cases hsteps
  | succ fuel ih =>
    rw [search]
    split
    · rename_i hfound
      exact hfound
    · rename_i hnone
      cases steps with
      | zero =>
        rw [Int.natCast_zero, Int.sub_zero, hnone] at h
        cases h
      | succ steps =>
        refine @ih _ steps (Nat.lt_of_succ_lt_succ hsteps) ?_
        rwa [Int.sub_sub, Int.add_comm 1]

/-- Zeros at the end make no difference. -/
theorem number_stripZeros (fuel : Nat) (d : DecimalMagnitude) :
    (stripZeros fuel d).number = d.number := by
  induction fuel generalizing d with
  | zero => rfl
  | succ fuel ih =>
    rw [stripZeros]
    split
    · rename_i h
      rw [Bool.and_eq_true, beq_iff_eq] at h
      have hdigits : d.digits = d.digits / 10 * 10 :=
        (Nat.div_mul_cancel (Nat.dvd_of_mod_eq_zero h.1)).symm
      rw [ih, DecimalMagnitude.number, DecimalMagnitude.number, zpow_add₀ (by norm_num), zpow_one]
      conv_rhs => rw [hdigits]
      push_cast
      ring
    · rfl

/-! ## The leading digit -/

/-- As `10 ^ 59` is below `2 ^ 196`, a power of ten is hardly above a power of two with the exponent
that the estimate of the logarithm gives. -/
theorem ten_pow_le {e b : Nat} (h : 100000 * e ≤ 30103 * b) (hb : b ≤ 60000) :
    10 ^ e ≤ 4 * 2 ^ b := by
  refine (Nat.pow_le_pow_iff_left (show 59 ≠ 0 by decide)).mp ?_
  calc (10 ^ e) ^ 59 = (10 ^ 59) ^ e := by rw [← pow_mul, ← pow_mul, Nat.mul_comm]
    _ ≤ (2 ^ 196) ^ e := Nat.pow_le_pow_left (by norm_num) e
    _ = 2 ^ (196 * e) := (pow_mul _ _ _).symm
    _ ≤ 2 ^ ((2 + b) * 59) := Nat.pow_le_pow_right (by decide) (by omega)
    _ = (4 * 2 ^ b) ^ 59 := by rw [show (4 : Nat) = 2 ^ 2 from rfl, ← pow_add, ← pow_mul]

/-- The same below one, as `2 ^ 93` is below `10 ^ 28`. -/
theorem two_pow_le {b e : Nat} (h : 30103 * b ≤ 100000 * e) (he : e ≤ 4000) :
    2 ^ b ≤ 4 * 10 ^ e := by
  refine (Nat.pow_le_pow_iff_left (show 28 ≠ 0 by decide)).mp ?_
  calc (2 ^ b) ^ 28 = 2 ^ (b * 28) := (pow_mul _ _ _).symm
    _ ≤ 2 ^ (2 * 28 + 93 * e) := Nat.pow_le_pow_right (by decide) (by omega)
    _ = 4 ^ 28 * (2 ^ 93) ^ e := by
        rw [show (4 : Nat) = 2 ^ 2 from rfl, pow_add, pow_mul, pow_mul]
    _ ≤ 4 ^ 28 * (10 ^ 28) ^ e := Nat.mul_le_mul_left _ (Nat.pow_le_pow_left (by norm_num) e)
    _ = (4 * 10 ^ e) ^ 28 := by rw [mul_pow, ← pow_mul, ← pow_mul, Nat.mul_comm 28]

/-- How far the estimate of the logarithm may be above it. -/
theorem zpow_ten_le {b : Int} (hlow : -10000 ≤ b) (hhigh : b ≤ 10000) :
    (10 : ℚ) ^ (b * 30103).fdiv 100000 ≤ 4 * 2 ^ b := by
  rw [Int.fdiv_eq_ediv_of_nonneg _ (by decide)]
  obtain ⟨n, rfl | rfl⟩ := b.eq_nat_or_neg
  · obtain ⟨e, he⟩ : ∃ e : Nat, (n * 30103 : Int) / 100000 = e := ⟨n * 30103 / 100000, by omega⟩
    rw [he, zpow_natCast, zpow_natCast]
    exact_mod_cast ten_pow_le (e := e) (b := n) (by omega) (by omega)
  · obtain ⟨e, he⟩ : ∃ e : Nat, (-(n : Int) * 30103) / 100000 = -e :=
      ⟨((n * 30103 + 99999) / 100000 : Nat), by omega⟩
    have hpower : (2 : ℚ) ^ n ≤ 4 * 10 ^ e := by
      exact_mod_cast two_pow_le (b := n) (e := e) (by omega) (by omega)
    rw [he, zpow_neg, zpow_neg, zpow_natCast, zpow_natCast, inv_le_iff_one_le_mul₀ (by positivity)]
    field_simp
    linarith

/-- **The leading digit is not beyond the number.** -/
theorem leadingExponent_le {num den : Nat} (hnum : 0 < num) (hden : 0 < den)
    (hnumBits : num.log2 ≤ 10000) (hdenBits : den.log2 ≤ 10000) :
    (10 : ℚ) ^ leadingExponent num den ≤ num / den := by
  have hden' : (0 : ℚ) < den := Nat.cast_pos.mpr hden
  have hatLeast (e : Int) (h : den * 10 ^ e.toNat ≤ num * 10 ^ (-e).toNat) :
      (10 : ℚ) ^ e ≤ num / den := by
    rw [zpow_eq_div (by norm_num), div_le_div_iff₀ (by positivity) hden', mul_comm]
    exact_mod_cast h
  unfold leadingExponent
  simp only [decide_eq_true_eq]
  split
  · exact hatLeast _ ‹_›
  · split
    · exact hatLeast _ ‹_›
    · have hestimate := zpow_ten_le (b := num.log2 - den.log2) (by omega) (by omega)
      have hlow : (2 : ℚ) ^ num.log2 ≤ num := by
        exact_mod_cast Nat.log2_self_le (Nat.ne_of_gt hnum)
      have hhigh : (den : ℚ) ≤ 2 ^ (den.log2 + 1) := by
        exact_mod_cast (Nat.lt_log2_self (n := den)).le
      rw [zpow_sub_one₀ (by norm_num)]
      calc (10 : ℚ) ^ (((num.log2 : Int) - den.log2) * 30103).fdiv 100000 * 10⁻¹
          ≤ 2 ^ num.log2 / 2 ^ (den.log2 + 1) := by
            rw [zpow_sub₀ (by norm_num), zpow_natCast, zpow_natCast] at hestimate
            rw [pow_succ]
            have hpositive : (0 : ℚ) < 2 ^ num.log2 / 2 ^ den.log2 := by positivity
            rw [← div_div]
            linarith
        _ ≤ num / den := by
            rw [div_le_div_iff₀ (by positivity) hden']
            exact mul_le_mul hlow hhigh hden'.le (Nat.cast_nonneg _)

/-! ## The interval of a pattern -/

section

variable {f : Format} {pattern : Nat} {m : Magnitude} {q : ℚ}

theorem interval_den_pos (f : Format) (m : Magnitude) : 0 < (interval f m).den :=
  Nat.mul_pos (by decide) (Nat.two_pow_pos _)

/-- The numbers of the interval as quotients. -/
theorem quarter_div_den (f : Format) (m : Magnitude) (n : Nat) :
    ((n * 2 ^ m.exponent.toNat : Nat) / (interval f m).den : ℚ) = n / 4 * 2 ^ m.exponent := by
  rw [interval, zpow_eq_div two_ne_zero]
  push_cast
  rw [mul_div_mul_comm, mul_comm]

/-- **The ends of the interval are half-way to the neighbours.** -/
theorem interval_ends (hm : f.magnitude? pattern = some m) (hpos : m.significand ≠ 0) :
    ((interval f m).low / (interval f m).den : ℚ) = (f.number (pattern - 1) + f.number pattern) / 2
      ∧ ((interval f m).value / (interval f m).den : ℚ) = f.number pattern
      ∧ ((interval f m).high / (interval f m).den : ℚ)
        = (f.number pattern + f.number (pattern + 1)) / 2 := by
  obtain ⟨hsignificand, hexponent⟩ := Format.magnitude?_eq hm
  have hnumber : f.number pattern = m.significand * 2 ^ m.exponent := by
    rw [Format.number, hsignificand, hexponent]
  refine ⟨(quarter_div_den f m _).trans ?_, (quarter_div_den f m _).trans ?_,
    (quarter_div_den f m _).trans ?_⟩
  · have hpred := Format.number_pred (hsignificand ▸ hpos)
    have hplace : f.minExponent < m.exponent ↔ 0 < f.placeOf pattern := by omega
    rw [← hexponent, ← hsignificand] at hpred
    simp only [Bool.and_eq_true, beq_iff_eq, decide_eq_true_eq, hplace]
    split at hpred
    · rw [if_pos ‹_›, Nat.cast_sub (by omega)]
      push_cast
      linarith
    · rw [if_neg ‹_›, Nat.cast_sub (by omega)]
      push_cast
      linarith
  · rw [hnumber]
    push_cast
    ring
  · rw [Format.number_succ, hnumber, ← hexponent]
    push_cast
    ring

/-- **The pattern is nearest to what its interval holds.** -/
theorem isNearest_of_contains (hbits : 0 < f.fractionBits) (hm : f.magnitude? pattern = some m)
    (hpos : m.significand ≠ 0) (h : (interval f m).Contains q) : f.IsNearest q pattern := by
  obtain ⟨hlow, -, hhigh⟩ := interval_ends hm hpos
  have hclosed : (interval f m).closed = true ↔ pattern % 2 = 0 := by
    rw [← Format.significandOf_mod_two hbits, ← (Format.magnitude?_eq hm).1]
    exact beq_iff_eq
  unfold Interval.Contains at h
  rw [hlow, hhigh, if_congr hclosed rfl rfl] at h
  split at h
  · exact Format.isNearest_of_between h.1 h.2 fun hodd => absurd ‹_› hodd
  · exact Format.isNearest_of_between h.1.le h.2.le fun _ => ⟨h.1.ne', h.2.ne⟩

/-! ## The digits of a number -/

/-- **The finest grid has a point in the interval**, the one below the number. -/
theorem contains_below (hm : f.magnitude? pattern = some m) (hpos : m.significand ≠ 0) {unit : ℚ}
    {k : Nat} (hunit : unit * 4 ≤ 2 ^ m.exponent) (hbelow : k * unit ≤ f.number pattern)
    (habove : f.number pattern < (k + 1) * unit) : (interval f m).Contains (k * unit) := by
  obtain ⟨hlow, -, hhigh⟩ := interval_ends hm hpos
  obtain ⟨hsignificand, hexponent⟩ := Format.magnitude?_eq hm
  have hpower : (0 : ℚ) < 2 ^ m.exponent := zpow_pos two_pos _
  have hpred : f.number (pattern - 1) ≤ f.number pattern - 2 ^ m.exponent / 2 := by
    have hpred := Format.number_pred (hsignificand ▸ hpos)
    rw [← hexponent] at hpred
    split at hpred <;> linarith
  have hsucc := f.number_strictMono (Nat.lt_succ_self pattern)
  have hinside : (interval f m).low / (interval f m).den < k * unit
      ∧ k * unit < (interval f m).high / (interval f m).den := by
    rw [hlow, hhigh]
    constructor <;> linarith
  unfold Interval.Contains
  split
  · exact ⟨hinside.1.le, hinside.2.le⟩
  · exact hinside

/-- The point of a grid below the number. -/
theorem floor_le {num den value unit : Nat} (hnum : 0 < num) (hunit : 0 < unit) (hden : 0 < den) :
    ((value * den / (num * unit) : Nat) * (num / den) : ℚ) ≤ value / unit
      ∧ (value / unit : ℚ) < ((value * den / (num * unit) : Nat) + 1) * (num / den) := by
  have hstep : 0 < num * unit := Nat.mul_pos hnum hunit
  have hunit' : (0 : ℚ) < unit := Nat.cast_pos.mpr hunit
  have hden' : (0 : ℚ) < den := Nat.cast_pos.mpr hden
  rw [← mul_div_assoc, ← mul_div_assoc, div_le_div_iff₀ hden' hunit', div_lt_div_iff₀ hunit' hden']
  constructor
  · exact_mod_cast (Nat.mul_assoc _ _ _).trans_le (Nat.div_mul_le_self _ _)
  · exact_mod_cast (Nat.lt_mul_of_div_lt (Nat.lt_succ_self _) hstep).trans_eq
      (by rw [Nat.mul_assoc])

/-- The spacing of a grid. -/
theorem spacing_eq (e : ℤ) : ((10 ^ e.toNat : Nat) / (10 ^ (-e).toNat : Nat) : ℚ) = 10 ^ e := by
  rw [zpow_eq_div (by norm_num)]
  push_cast
  rfl

/-- A grid that is fine enough has a point that is taken. -/
theorem isSome_of_spacing {tie : Tie} {e : ℤ} (hm : f.magnitude? pattern = some m)
    (hpos : m.significand ≠ 0) (h : (10 : ℚ) ^ e * 4 ≤ 2 ^ m.exponent) :
    ((interval f m).nearest? tie (10 ^ e.toNat) (10 ^ (-e).toNat)).isSome = true := by
  have hden := interval_den_pos f m
  have hten (n : Nat) : 0 < 10 ^ n := Nat.pow_pos (by decide)
  have hfloor := @floor_le _ _ (interval f m).value _ (hten e.toNat) hden (hten (-e).toNat)
  rw [spacing_eq, (interval_ends hm hpos).2.1] at hfloor
  refine Interval.isSome_nearest? ((Interval.holds_iff hden (hten _)).mpr ?_)
  rw [spacing_eq]
  exact contains_below hm hpos h hfloor.1 hfloor.2

/-- The decimal of a point that is taken is in the interval. -/
theorem contains_of_nearest? (tie : Tie) {d : DecimalMagnitude}
    (h : (interval f m).nearest? tie (10 ^ d.exponent.toNat) (10 ^ (-d.exponent).toNat)
      = some d.digits) : (interval f m).Contains d.number := by
  have hholds := (Interval.holds_iff (interval_den_pos f m) (Nat.pow_pos (by decide))).mp
    (Interval.holds_of_nearest? h)
  rwa [spacing_eq] at hholds

end

end Shortest

namespace Magnitude

open Shortest

variable {pattern : Nat} {m : Magnitude}

/-- The magnitudes of sixty-four bits have at most as many bits. -/
theorem bounds (hm : Format.binary64.magnitude? pattern = some m) :
    m.significand < 2 ^ 53 ∧ -1074 ≤ m.exponent ∧ m.exponent ≤ 971 := by
  obtain ⟨hsignificand, hexponent⟩ := Format.magnitude?_eq hm
  have hfinite : pattern < Format.binary64.infinity := by
    by_contra h
    rw [Format.magnitude?, if_pos (Nat.le_of_not_lt h)] at hm
    cases hm
  have hplace : pattern / 2 ^ 52 < 2047 := Nat.div_lt_of_lt_mul hfinite
  rw [hsignificand, hexponent, show Format.binary64.minExponent = -1074 from rfl, Format.placeOf,
    show Format.binary64.fractionBits = 52 from rfl]
  exact ⟨Format.significandOf_lt _ _, by omega, by omega⟩

/-- The leading digit of a number of sixty-four bits is not beyond it. -/
theorem leadingExponent_le (hm : Format.binary64.magnitude? pattern = some m)
    (hpos : m.significand ≠ 0) :
    (10 : ℚ) ^ leadingExponent (interval .binary64 m).value (interval .binary64 m).den
      ≤ Format.binary64.number pattern := by
  obtain ⟨hsignificand, hlow, hhigh⟩ := bounds hm
  have hvalue : 0 < 4 * m.significand * 2 ^ m.exponent.toNat :=
    Nat.mul_pos (Nat.mul_pos (by decide) (Nat.pos_of_ne_zero hpos)) (Nat.two_pow_pos _)
  rw [← (interval_ends hm hpos).2.1]
  refine Shortest.leadingExponent_le hvalue (interval_den_pos _ _) ?_ ?_
  · have hbits : 4 * m.significand * 2 ^ m.exponent.toNat < 2 ^ (55 + m.exponent.toNat) := by
      calc 4 * m.significand * 2 ^ m.exponent.toNat
          < 4 * 2 ^ 53 * 2 ^ m.exponent.toNat :=
            Nat.mul_lt_mul_of_pos_right (Nat.mul_lt_mul_of_pos_left hsignificand (by decide))
              (Nat.two_pow_pos _)
        _ = 2 ^ (55 + m.exponent.toNat) := (Nat.pow_add 2 55 _).symm
    exact ((Nat.log2_lt (Nat.ne_of_gt hvalue)).mpr hbits).le.trans (by omega)
  · have hlog : (interval .binary64 m).den.log2 = 2 + (-m.exponent).toNat :=
      (congrArg Nat.log2 (Nat.pow_add 2 2 _).symm).trans (Nat.log2_two_pow)
    omega

/-- Seventeen digits are enough. -/
theorem unit_le (hm : Format.binary64.magnitude? pattern = some m) {unit : ℚ}
    (h : unit * 10 ^ 17 ≤ Format.binary64.number pattern) : unit * 4 ≤ 2 ^ m.exponent := by
  obtain ⟨hsignificand, hexponent⟩ := Format.magnitude?_eq hm
  have hbits : (m.significand : ℚ) ≤ 2 ^ 53 := by exact_mod_cast (bounds hm).1.le
  have hpower : (0 : ℚ) < 2 ^ m.exponent := zpow_pos two_pos _
  rw [Format.number, ← hsignificand, ← hexponent] at h
  nlinarith

/-- **The shortest digits of a number are read back as the number.** -/
theorem isNearest_shortest {tie : Tie} (hm : Format.binary64.magnitude? pattern = some m)
    (hpos : m.significand ≠ 0) :
    Format.binary64.IsNearest (m.shortest .binary64 tie).number pattern := by
  unfold shortest
  simp only
  rw [number_stripZeros]
  refine isNearest_of_contains (by decide) hm hpos (contains_of_nearest? tie ?_)
  have hlead := leadingExponent_le hm hpos
  generalize leadingExponent _ _ = lead at hlead ⊢
  refine nearest?_search (show 17 < 18 by decide) (isSome_of_spacing hm hpos (unit_le hm ?_))
  rwa [← zpow_natCast, ← zpow_add₀ (by norm_num), Int.sub_add_cancel]

end Magnitude

end PgStatement

import CalcShell.Proofs.Number.SingleText

/-!
# Decimal values that read back

A decimal value with few digits that is read as a number of single precision need not stand on
the grid on which the number is given that many digits, but then there is one on it that is read
as the number, too.  Unless the number is a power of two, the nearest one on the grid is read as
it as well.
-/

namespace CalcShell.Number

open Format

variable {units count digits : Nat}

theorem unitsValue_mul_unitsPerOne (units : Nat) : unitsValue units * unitsPerOne = units :=
  div_mul_cancel₀ _ unitsPerOne_cast_pos.ne'

namespace Decimal

variable {decimal other : Decimal}

theorem singleUnits_eq_of_le (onGrid : single.OnGrid units) (order : other.value ≤ decimal.value)
    (below : decimal.value ≤ unitsValue units) (readsBack : other.singleUnits = units) :
    decimal.singleUnits = units := by
  refine Nat.le_antisymm (singleUnits_le onGrid decimal.denominator_pos ?_)
    (readsBack.symm.le.trans (singleUnits_le_singleUnits order))
  rw [cast_quotient, ← unitsValue_mul_unitsPerOne units]
  exact mul_le_mul_of_nonneg_right below unitsPerOne_cast_pos.le

theorem singleUnits_eq_of_ge (onGrid : single.OnGrid units) (order : decimal.value ≤ other.value)
    (above : unitsValue units ≤ decimal.value) (readsBack : other.singleUnits = units) :
    decimal.singleUnits = units := by
  refine Nat.le_antisymm ((singleUnits_le_singleUnits order).trans readsBack.le)
    (le_singleUnits onGrid decimal.denominator_pos ?_)
  rw [cast_quotient, ← unitsValue_mul_unitsPerOne units]
  exact mul_le_mul_of_nonneg_right above unitsPerOne_cast_pos.le

theorem singleUnits_congr (same : decimal.value = other.value) :
    decimal.singleUnits = other.singleUnits :=
  Nat.le_antisymm (singleUnits_le_singleUnits same.le) (singleUnits_le_singleUnits same.ge)

theorem value_pos_of_singleUnits (positive : 0 < decimal.singleUnits) : 0 < decimal.value := by
  by_contra notPositive
  have none := singleUnits_le single.holds_zero.2 decimal.denominator_pos
    (decimal.cast_quotient.trans_le (by
      rw [Nat.cast_zero]
      exact mul_nonpos_of_nonpos_of_nonneg (not_lt.mp notPositive) unitsPerOne_cast_pos.le))
  exact absurd positive (Nat.not_lt.mpr none)

theorem digits_pos_of_value_pos {digits : Nat} {exponent : ℤ}
    (positive : (0 : ℚ) < digits * 10 ^ exponent) : 0 < digits := by
  exact_mod_cast pos_of_mul_pos_left positive (zpow_ten_pos exponent).le

theorem digits_pos_of_singleUnits (positive : 0 < decimal.singleUnits) : 0 < decimal.digits :=
  digits_pos_of_value_pos (value_pos_of_singleUnits positive)

/-- How far a decimal value is away from a number, in units. -/
theorem abs_quotient_sub (decimal : Decimal) (units : Nat) :
    |((decimal.digits * unitsPerOne * 10 ^ decimal.exponent.toNat : Nat) : ℚ) /
        (10 ^ (-decimal.exponent).toNat : Nat) - units| =
      |unitsValue units - decimal.value| * unitsPerOne := by
  rw [cast_quotient, ← unitsValue_mul_unitsPerOne units, ← sub_mul, abs_mul,
    abs_of_pos unitsPerOne_cast_pos, abs_sub_comm]

end Decimal

/-- A decimal value on the grid on which a number of units is given a number of digits. -/
def decimalAt (units count digits : Nat) : Decimal :=
  ⟨digits, leadingOfUnits units - count + 1⟩

theorem value_decimalAt (units count digits : Nat) :
    (decimalAt units count digits).value = digits * decimalStep units count :=
  rfl

theorem value_decimalAt_ten_pow (units count places : Nat) :
    (decimalAt units count (10 ^ places)).value = 10 ^ places * decimalStep units count := by
  rw [value_decimalAt, Nat.cast_pow, Nat.cast_ofNat]

theorem decimalOfUnits_eq_decimalAt (units count : Nat) :
    decimalOfUnits units count = decimalAt units count (decimalOfUnits units count).digits := by
  rw [decimalAt, decimalOfUnits, DecimalGrid.nearest, DecimalGrid.ofUnits]

/-- A value on a grid is on every finer grid as well. -/
theorem value_decimalAt_add (units count further digits : Nat) :
    (decimalAt units (count + further) (digits * 10 ^ further)).value =
      (decimalAt units count digits).value := by
  have places : (further : ℤ) + (leadingOfUnits units - (count + further : Nat) + 1) =
      leadingOfUnits units - count + 1 := by
    omega
  rw [decimalAt, Decimal.value_mul_ten_pow, places, value_decimalAt, decimalStep]

theorem ten_pow_mul_decimalStep (units count : Nat) :
    10 ^ count * decimalStep units count = 10 ^ (leadingOfUnits units + 1) := by
  have places : (count : ℤ) + (leadingOfUnits units - count + 1) = leadingOfUnits units + 1 := by
    omega
  rw [decimalStep, ← zpow_natCast, ← zpow_add₀ (by norm_num), places]

/-- If a decimal value is read as a number, one with as many digits is that stands on the grid of
the number. -/
theorem exists_decimalAt (onGrid : single.OnGrid units) (positive : 0 < units)
    {decimal : Decimal} {exponent : ℤ} (few : digits < 10 ^ count)
    (value : decimal.value = digits * 10 ^ exponent) (readsBack : decimal.singleUnits = units) :
    0 < count ∧ ∃ steps ≤ 10 ^ count, (decimalAt units count steps).singleUnits = units := by
  have valuePositive := Decimal.value_pos_of_singleUnits (readsBack.symm ▸ positive)
  have digitsPositive := Decimal.digits_pos_of_value_pos (value ▸ valuePositive)
  obtain ⟨others, rfl⟩ : ∃ others, count = others + 1 := by
    refine Nat.exists_eq_succ_of_ne_zero ?_
    rintro rfl
    exact absurd digitsPositive (Nat.not_lt.mpr (Nat.le_of_lt_succ few))
  obtain ⟨above, below⟩ := leadingOfUnits_le_unitsValue positive
  have first := decimalStep_succ_mul units others
  have next := ten_pow_mul_decimalStep units (others + 1)
  refine ⟨Nat.succ_pos others, ?_⟩
  rcases le_or_gt decimal.value (10 ^ leadingOfUnits units) with low | high
  · -- the power of ten at the first digit is nearer
    refine ⟨10 ^ others, Nat.pow_le_pow_right (by decide) (Nat.le_succ others), ?_⟩
    rw [← first, mul_comm, ← value_decimalAt_ten_pow] at low above
    exact Decimal.singleUnits_eq_of_le onGrid low above readsBack
  · rcases le_or_gt (10 ^ (leadingOfUnits units + 1)) decimal.value with beyond | inside
    · -- the next power of ten is nearer
      refine ⟨10 ^ (others + 1), Nat.le_refl _, ?_⟩
      rw [← next, ← value_decimalAt_ten_pow] at beyond below
      exact Decimal.singleUnits_eq_of_ge onGrid beyond below.le readsBack
    · have coarser : leadingOfUnits units - (others + 1 : Nat) + 1 ≤ exponent := by
        have bound : (10 : ℚ) ^ leadingOfUnits units < 10 ^ ((others + 1 : Nat) + exponent) := by
          rw [zpow_add₀ (by norm_num), zpow_natCast]
          refine high.trans ?_
          rw [value]
          exact mul_lt_mul_of_pos_right (by exact_mod_cast few) (zpow_ten_pos exponent)
        have places := zpow_ten_lt_iff.mp bound
        omega
      obtain ⟨further, rfl⟩ := Int.le.dest coarser
      have same : (decimalAt units (others + 1) (digits * 10 ^ further)).value =
          decimal.value := by
        rw [value, decimalAt, Decimal.value_mul_ten_pow, add_comm]
      refine ⟨digits * 10 ^ further, ?_, ?_⟩
      · rw [← same, value_decimalAt, ← next] at inside
        have fewSteps := lt_of_mul_lt_mul_right inside (decimalStep_pos units _).le
        exact_mod_cast fewSteps.le
      · exact (Decimal.singleUnits_congr same).trans readsBack

/-- Unless a number is a power of two, the nearest decimal value with a number of digits is read
as it if any one is. -/
theorem singleUnits_decimalOfUnits_of_not_power (onGrid : single.OnGrid units)
    (positive : 0 < units) (notPower : ∀ place, units ≠ 2 ^ place)
    (readsBack : (decimalAt units count digits).singleUnits = units) :
    (decimalOfUnits units count).singleUnits = units := by
  obtain ⟨significand, normal⟩ := onGrid.exists_isNormal
  have nonzero := normal.significand_ne_zero positive
  refine (isInside_log2 normal nonzero notPower).singleUnits_eq_of_abs_le nonzero
    (Decimal.denominator_pos _) (Decimal.denominator_pos _) ?_ readsBack
  rw [Decimal.abs_quotient_sub, Decimal.abs_quotient_sub, value_decimalAt]
  exact mul_le_mul_of_nonneg_right (abs_sub_decimalOfUnits_le units count digits)
    unitsPerOne_cast_pos.le

/-! ## Six digits -/

/-- The greatest power of ten below which numbers of single precision stand closer than decimal
values with six digits. -/
def coarseFrom : Nat := 39

theorem two_mul_two_pow_le_decimalStep {significand exponent : Nat}
    (normal : single.IsNormal units significand exponent) (positive : 0 < units)
    (large : unitsPerOne ≤ units * 10 ^ coarseFrom) :
    2 * ((2 ^ exponent : Nat) : ℚ) ≤ decimalStep units 6 * unitsPerOne := by
  have unit := unitsPerOne_cast_pos
  have below := (leadingOfUnits_le_unitsValue positive).2
  rcases normal.full with finest | full
  · have placeBound : -(coarseFrom : ℤ) ≤ leadingOfUnits units := by
      have largeCast : (unitsPerOne : ℚ) ≤ units * 10 ^ (coarseFrom : ℤ) := by
        rw [zpow_natCast]
        exact_mod_cast large
      have least : (10 : ℚ) ^ (-(coarseFrom : ℤ)) ≤ unitsValue units := by
        rwa [zpow_neg, inv_le_iff_one_le_mul₀ (zpow_ten_pos _), unitsValue,
          div_mul_eq_mul_div, one_le_div unit]
      have places := zpow_ten_lt_iff.mp (least.trans_lt below)
      omega
    have stepBound : (10 : ℚ) ^ (-44 : ℤ) ≤ decimalStep units 6 := by
      rw [coarseFrom] at placeBound
      exact zpow_ten_le (by omega)
    have finestUnits : 2 * 2 ^ single.finest * 10 ^ (-(-44 : ℤ)).toNat ≤
        10 ^ (-44 : ℤ).toNat * unitsPerOne := by
      decide +kernel
    rw [finest]
    calc 2 * ((2 ^ single.finest : Nat) : ℚ) ≤ 10 ^ (-44 : ℤ) * unitsPerOne := by
          rw [← ten_pow_div_ten_pow, div_mul_eq_mul_div,
            le_div_iff₀ (Nat.cast_pos.mpr (Nat.pow_pos (by decide))), ← Nat.cast_two,
            ← Nat.cast_mul, ← Nat.cast_mul, ← Nat.cast_mul]
          exact Nat.cast_le.mpr finestUnits
      _ ≤ decimalStep units 6 * unitsPerOne := mul_le_mul_of_nonneg_right stepBound unit.le
  · have next := ten_pow_mul_decimalStep units 6
    have scaled := mul_lt_mul_of_pos_right below unit
    rw [unitsValue_mul_unitsPerOne, ← next, mul_assoc] at scaled
    have many : 2 * 10 ^ 6 * 2 ^ exponent ≤ units := by
      rw [normal.isPoint]
      exact Nat.mul_le_mul_right _ (Nat.le_trans (by decide) full)
    have manyCast : (10 : ℚ) ^ 6 * (2 * (2 ^ exponent : Nat)) ≤ units := by
      rw [← mul_assoc, mul_comm ((10 : ℚ) ^ 6)]
      exact_mod_cast many
    exact (lt_of_mul_lt_mul_left (manyCast.trans_lt scaled) (by norm_num)).le

/-- Only one decimal value with six digits is read as a number that is not too small. -/
theorem decimalAt_six_unique (onGrid : single.OnGrid units) (positive : 0 < units)
    (large : unitsPerOne ≤ units * 10 ^ coarseFrom) {otherDigits : Nat}
    (readsBack : (decimalAt units 6 digits).singleUnits = units)
    (otherReadsBack : (decimalAt units 6 otherDigits).singleUnits = units) :
    digits = otherDigits := by
  obtain ⟨significand, normal⟩ := onGrid.exists_isNormal
  have nonzero := normal.significand_ne_zero positive
  have near {steps : Nat} (read : (decimalAt units 6 steps).singleUnits = units) :
      |unitsValue units - steps * decimalStep units 6| * unitsPerOne <
        (2 ^ (single.gridExponent units) : Nat) := by
    rw [← value_decimalAt, ← Decimal.abs_quotient_sub]
    exact abs_sub_lt_of_singleUnits_eq normal (Decimal.denominator_pos _) nonzero read
  have coarse := two_mul_two_pow_le_decimalStep normal positive large
  have step := decimalStep_pos units 6
  have unit := unitsPerOne_cast_pos
  have close : |((digits : ℤ) : ℚ) - (otherDigits : ℤ)| < 1 := by
    have around := abs_sub_le (digits * decimalStep units 6) (unitsValue units)
      (otherDigits * decimalStep units 6)
    rw [abs_sub_comm _ (unitsValue units)] at around
    have scaled := mul_le_mul_of_nonneg_right around unit.le
    have first := near readsBack
    have second := near otherReadsBack
    rw [← sub_mul, abs_mul, abs_of_pos step, mul_assoc] at scaled
    have bound : |(digits : ℚ) - otherDigits| * (decimalStep units 6 * unitsPerOne) <
        1 * (decimalStep units 6 * unitsPerOne) := by
      linarith
    exact lt_of_mul_lt_mul_right bound (mul_pos step unit).le
  have same : (digits : ℤ) - otherDigits = 0 := Int.abs_lt_one_iff.mp (by exact_mod_cast close)
  omega

end CalcShell.Number

import CalcShell.Proofs.Number.DecimalValue

/-!
# The nearest decimal value

The decimal value with a number of significant digits that belongs to a number of units is the
nearest one on a grid of tenths, hundredths and so on, chosen by the first digit.  With nine
digits it is read as the same number of single precision.
-/

namespace CalcShell.Number

open Format

variable {units count : Nat}

theorem unitsPerOne_le_ten_pow : unitsPerOne ≤ 10 ^ unitPlaces := by
  decide +kernel

theorem leadingOfUnits_le_unitsValue (positive : 0 < units) :
    (10 : ℚ) ^ leadingOfUnits units ≤ unitsValue units ∧
      unitsValue units < 10 ^ (leadingOfUnits units + 1) := by
  have unitPositive : 0 < unitsPerOne := Nat.two_pow_pos unitExponent
  have scalePositive : (0 : ℚ) < 10 ^ (unitPlaces : ℤ) := zpow_ten_pos _
  have wholePositive : 0 < units * 10 ^ unitPlaces / unitsPerOne := by
    rw [Nat.div_pos_iff]
    exact ⟨unitPositive, unitsPerOne_le_ten_pow.trans (Nat.le_mul_of_pos_left _ positive)⟩
  have scaled : ((units * 10 ^ unitPlaces : Nat) : ℚ) / unitsPerOne =
      unitsValue units * 10 ^ (unitPlaces : ℤ) := by
    rw [unitsValue, Nat.cast_mul, Nat.cast_pow, Nat.cast_ofNat, zpow_natCast, div_mul_eq_mul_div]
  obtain ⟨above, below⟩ := ten_pow_length_digitsOf wholePositive
  have someDigit :
      0 < (digitsOf (units * 10 ^ unitPlaces / unitsPerOne)).length :=
    List.length_pos_of_ne_nil Nat.toDigits_ne_nil
  have belowCast := Format.div_lt_of_whole_lt unitPositive below
  have aboveCast :
      ((10 ^ ((digitsOf (units * 10 ^ unitPlaces / unitsPerOne)).length - 1) : Nat) : ℚ) ≤
        ((units * 10 ^ unitPlaces : Nat) : ℚ) / unitsPerOne :=
    (Nat.cast_le.mpr above).trans Nat.cast_div_le
  rw [scaled, Nat.cast_pow, Nat.cast_ofNat, ← zpow_natCast] at belowCast aboveCast
  rw [leadingOfUnits]
  rw [Nat.cast_pred someDigit] at aboveCast
  constructor
  · rwa [zpow_sub₀ (by norm_num), div_le_iff₀ scalePositive]
  · rw [sub_add_eq_add_sub, sub_add_cancel, zpow_sub₀ (by norm_num), lt_div_iff₀ scalePositive]
    exact belowCast

/-- A step of the grid on which a number of units is given a number of significant digits. -/
def decimalStep (units count : Nat) : ℚ :=
  10 ^ (leadingOfUnits units - count + 1)

theorem decimalStep_pos (units count : Nat) : 0 < decimalStep units count :=
  zpow_ten_pos _

theorem value_decimalOfUnits (units count : Nat) :
    (decimalOfUnits units count).value =
      (decimalOfUnits units count).digits * decimalStep units count :=
  rfl

/-- Beside the first digit there are as many steps in a place as the other digits count. -/
theorem decimalStep_succ_mul (units count : Nat) :
    decimalStep units (count + 1) * 10 ^ count = 10 ^ leadingOfUnits units := by
  have places : leadingOfUnits units - ((count + 1 : Nat) : ℤ) + 1 + (count : ℤ) =
      leadingOfUnits units := by
    omega
  rw [decimalStep, ← zpow_natCast, ← zpow_add₀ (by norm_num), places]

theorem DecimalGrid.denominator_pos (units count : Nat) : 0 < (ofUnits units count).denominator :=
  Nat.mul_pos (Nat.two_pow_pos unitExponent) (Nat.pow_pos (by decide))

theorem DecimalGrid.cast_quotient (units count : Nat) :
    ((ofUnits units count).numerator : ℚ) / (ofUnits units count).denominator =
      unitsValue units / decimalStep units count := by
  have quotient := ten_pow_div_ten_pow (-(leadingOfUnits units - count + 1))
  rw [neg_neg, zpow_neg] at quotient
  simp only [ofUnits]
  rw [Nat.cast_mul, Nat.cast_mul, mul_div_mul_comm, quotient, ← div_eq_mul_inv]
  rfl

theorem digits_decimalOfUnits (units count : Nat) :
    (decimalOfUnits units count).digits =
      roundQuotient (DecimalGrid.ofUnits units count).numerator
        (DecimalGrid.ofUnits units count).denominator := by
  rw [decimalOfUnits, DecimalGrid.nearest]

theorem isNearest_decimalOfUnits (units count : Nat) :
    IsNearest (unitsValue units / decimalStep units count)
      (decimalOfUnits units count).digits := by
  rw [← DecimalGrid.cast_quotient, digits_decimalOfUnits]
  exact isNearest_roundQuotient _ (DecimalGrid.denominator_pos units count)

/-- No multiple of the step is nearer. -/
theorem abs_sub_decimalOfUnits_le (units count candidate : Nat) :
    |unitsValue units - (decimalOfUnits units count).value| ≤
      |unitsValue units - candidate * decimalStep units count| := by
  have nearer := (isNearest_decimalOfUnits units count).abs_sub_mul_le
    (decimalStep_pos units count) candidate
  rw [Int.cast_natCast, Int.cast_natCast] at nearer
  rwa [value_decimalOfUnits]

theorem two_mul_abs_sub_decimalOfUnits_le (units count : Nat) :
    2 * |unitsValue units - (decimalOfUnits units count).value| ≤ decimalStep units count := by
  have step := decimalStep_pos units count
  have near := (isNearest_decimalOfUnits units count).two_mul_abs_sub_le
  have scaled := mul_le_mul_of_nonneg_right near step.le
  rwa [one_mul, mul_assoc, ← abs_of_pos step, ← abs_mul, abs_of_pos step, sub_mul,
    div_mul_cancel₀ _ step.ne', Int.cast_natCast, ← value_decimalOfUnits] at scaled

theorem precision_lt_ten_pow : 4 * 2 ^ single.precision < 10 ^ 8 := by
  decide +kernel

/-- With nine digits every number of single precision reads back. -/
theorem singleUnits_decimalOfUnits_nine (onGrid : single.OnGrid units) (positive : 0 < units) :
    (decimalOfUnits units 9).singleUnits = units := by
  obtain ⟨significand, normal⟩ := onGrid.exists_isNormal
  refine singleUnits_eq_of_near normal (Decimal.denominator_pos _) ?_
  rw [Decimal.cast_quotient]
  have nearDecimal := two_mul_abs_sub_decimalOfUnits_le units 9
  have firstDigit := (leadingOfUnits_le_unitsValue positive).1
  have unit := unitsPerOne_cast_pos
  have inUnits : (units : ℚ) = unitsValue units * unitsPerOne := by
    rw [unitsValue, div_mul_cancel₀ _ unit.ne']
  have bounded : units < 2 ^ single.precision * 2 ^ (single.gridExponent units) := by
    calc units = significand * 2 ^ (single.gridExponent units) := normal.isPoint
      _ < _ := Nat.mul_lt_mul_of_pos_right normal.small (Nat.two_pow_pos _)
  have boundedCast : unitsValue units * unitsPerOne <
      2 ^ single.precision * 2 ^ (single.gridExponent units) := by
    rw [← inUnits]
    exact_mod_cast bounded
  have precise : (4 * 2 ^ single.precision : ℚ) < 10 ^ 8 := by
    exact_mod_cast precision_lt_ten_pow
  have step := decimalStep_succ_mul units 8
  have scaled := mul_le_mul_of_nonneg_right nearDecimal unit.le
  have difference : 2 * |unitsValue units - (decimalOfUnits units 9).value| * unitsPerOne =
      2 * |(decimalOfUnits units 9).value * unitsPerOne - units| := by
    rw [mul_assoc, ← abs_of_pos unit, ← abs_mul, abs_of_pos unit, sub_mul, ← inUnits, abs_sub_comm]
  rw [difference] at scaled
  have placeInUnits := mul_le_mul_of_nonneg_right firstDigit unit.le
  rw [← step] at placeInUnits
  have gridPositive : (0 : ℚ) < 2 ^ (single.gridExponent units) := pow_pos two_pos _
  have stepSmall : 4 * (decimalStep units 9 * unitsPerOne) * 10 ^ 8 <
      2 ^ (single.gridExponent units) * 10 ^ 8 := by
    calc 4 * (decimalStep units 9 * unitsPerOne) * 10 ^ 8
        = 4 * (decimalStep units 9 * 10 ^ 8 * unitsPerOne) := by
          rw [mul_assoc, mul_right_comm (decimalStep units 9)]
      _ < 4 * (2 ^ single.precision * 2 ^ (single.gridExponent units)) := by linarith
      _ = 2 ^ (single.gridExponent units) * (4 * 2 ^ single.precision) := by
          rw [← mul_assoc, mul_comm]
      _ ≤ 2 ^ (single.gridExponent units) * 10 ^ 8 :=
          mul_le_mul_of_nonneg_left precise.le gridPositive.le
  have small := lt_of_mul_lt_mul_right stepSmall (by norm_num)
  rw [Nat.cast_pow, Nat.cast_ofNat]
  linarith

end CalcShell.Number

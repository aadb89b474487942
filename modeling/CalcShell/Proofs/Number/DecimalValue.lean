import CalcShell.Proofs.Number.DigitRows
import CalcShell.Proofs.Number.SingleReading
import Mathlib.Algebra.Order.Field.Power
import Mathlib.Tactic.NormNum

/-!
# The value of a decimal number

What a decimal number is read as depends on its value only, even where its first digit stands
so high or so low that the answer is known without rounding.  The decimal value with a number of
significant digits that belongs to a number of units is the nearest one on a grid of tenths,
hundredths and so on, chosen by the first digit.
-/

namespace CalcShell.Number

open Format

theorem zpow_ten_pos (exponent : ℤ) : (0 : ℚ) < 10 ^ exponent :=
  zpow_pos (by norm_num) exponent

theorem zpow_ten_le {small large : ℤ} (order : small ≤ large) : (10 : ℚ) ^ small ≤ 10 ^ large :=
  zpow_le_zpow_right₀ (by norm_num) order

theorem zpow_ten_lt_iff {small large : ℤ} : (10 : ℚ) ^ small < 10 ^ large ↔ small < large :=
  zpow_lt_zpow_iff_right₀ (by norm_num)

theorem ten_pow_div_ten_pow (exponent : ℤ) :
    ((10 ^ exponent.toNat : Nat) : ℚ) / (10 ^ (-exponent).toNat : Nat) = 10 ^ exponent := by
  rw [Nat.cast_pow, Nat.cast_pow, Nat.cast_ofNat]
  obtain ⟨count, rfl | rfl⟩ := exponent.eq_nat_or_neg
  · rw [Int.toNat_natCast, Int.toNat_neg_natCast, pow_zero, div_one, zpow_natCast]
  · rw [Int.toNat_neg_natCast, neg_neg, Int.toNat_natCast, pow_zero, zpow_neg, zpow_natCast,
      one_div]

theorem Format.holds_zero (format : Format) : format.Holds 0 :=
  ⟨Nat.two_pow_pos _, 0, format.finest, Nat.two_pow_pos _, Nat.le_refl _, (Nat.zero_mul _).symm⟩

namespace Double

variable {format : Format} {numerator denominator units : Nat} {negative : Bool}

theorem nearest_of_round_eq (same : format.round numerator denominator = units)
    (held : format.Holds units) :
    nearest format negative numerator denominator = .finite negative units held.double := by
  subst same
  rw [nearest, dif_pos held.1]

theorem nearest_of_ceiling_le
    (beyond : 2 ^ format.ceiling ≤ format.round numerator denominator) :
    nearest format negative numerator denominator = .infinite negative := by
  rw [nearest, dif_neg (Nat.not_lt.mpr beyond)]

theorem nearest_congr {otherNumerator otherDenominator : Nat}
    (same : format.round numerator denominator = format.round otherNumerator otherDenominator) :
    nearest format negative numerator denominator =
      nearest format negative otherNumerator otherDenominator := by
  simp only [nearest, same]

/-- A number of single precision is what is read in double precision and then rounded to it. -/
theorem toSingle_rounded_of_singleUnits_eq (held : single.Holds units)
    (read : singleUnits numerator denominator = units) :
    (rounded negative numerator denominator).toSingle = .finite negative units held.double := by
  have inRange : Format.double.round numerator denominator < 2 ^ Format.double.ceiling := by
    by_contra beyond
    have ceilingOnGrid : single.OnGrid (2 ^ single.ceiling) :=
      ⟨1, _, by decide, by decide, (Nat.one_mul _).symm⟩
    have reached : 2 ^ single.ceiling ≤ singleUnits numerator denominator :=
      ceilingOnGrid.le_round one_pos (by
        have ceilings : 2 ^ single.ceiling ≤ 2 ^ Format.double.ceiling :=
          Nat.pow_le_pow_right Nat.two_pos (by decide)
        rw [Nat.cast_one, div_one]
        exact_mod_cast ceilings.trans (Nat.le_of_not_lt beyond))
    exact absurd held.1 (Nat.not_lt.mpr (reached.trans_eq read))
  rw [rounded, nearest, dif_pos inRange, toSingle]
  exact nearest_of_round_eq read held

theorem eq_of_signedUnits_eq {other : Bool} {read : Nat} (positive : 0 < units)
    (same : signedUnits negative read = signedUnits other units) :
    negative = other ∧ read = units := by
  cases negative <;> cases other <;>
    simp only [signedUnits, if_true, if_false, Bool.false_eq_true] at same
  · exact ⟨rfl, by omega⟩
  · omega
  · omega
  · exact ⟨rfl, by omega⟩

theorem singleUnits_eq_of_equals {other : Bool} (held : Format.double.Holds units)
    (positive : 0 < units)
    (same : (rounded negative numerator denominator).toSingle.equals (.finite other units held) =
      true) :
    negative = other ∧ singleUnits numerator denominator = units := by
  rw [rounded, nearest] at same
  split at same
  · rw [toSingle, nearest] at same
    split at same
    · simp only [equals, quantity?, beq_iff_eq, Quantity.finite.injEq] at same
      exact eq_of_signedUnits_eq positive same
    · cases same
  · cases same

end Double

/-- The value of a number of units. -/
def unitsValue (units : Nat) : ℚ :=
  units / unitsPerOne

theorem unitsPerOne_cast_pos : (0 : ℚ) < unitsPerOne :=
  Nat.cast_pos.mpr (Nat.two_pow_pos unitExponent)

namespace Decimal

variable {decimal other : Decimal}

/-- The number that a decimal value is. -/
def value (decimal : Decimal) : ℚ :=
  decimal.digits * 10 ^ decimal.exponent

/-- Zeros at the end of the digits raise the exponent. -/
theorem value_mul_ten_pow (digits count : Nat) (exponent : ℤ) :
    (⟨digits * 10 ^ count, exponent⟩ : Decimal).value = digits * 10 ^ (count + exponent) := by
  rw [value, zpow_add₀ (by norm_num), zpow_natCast, Nat.cast_mul, Nat.cast_pow, Nat.cast_ofNat,
    mul_assoc]

theorem leading_le_value (positive : 0 < decimal.digits) :
    (10 : ℚ) ^ decimal.leading ≤ decimal.value ∧ decimal.value < 10 ^ (decimal.leading + 1) := by
  obtain ⟨above, below⟩ := ten_pow_length_digitsOf positive
  have someDigit : 0 < (digitsOf decimal.digits).length :=
    List.length_pos_of_ne_nil Nat.toDigits_ne_nil
  have scale := zpow_ten_pos decimal.exponent
  have first : (10 : ℚ) ^ decimal.leading =
      10 ^ ((digitsOf decimal.digits).length - 1) * 10 ^ decimal.exponent := by
    rw [← zpow_natCast, ← zpow_add₀ (by norm_num), leading, Nat.cast_pred someDigit]
  have next : (10 : ℚ) ^ (decimal.leading + 1) =
      10 ^ (digitsOf decimal.digits).length * 10 ^ decimal.exponent := by
    rw [← zpow_natCast, ← zpow_add₀ (by norm_num), leading]
    congr 1
    omega
  rw [first, next, value]
  exact ⟨mul_le_mul_of_nonneg_right (by exact_mod_cast above) scale.le,
    mul_lt_mul_of_pos_right (by exact_mod_cast below) scale⟩

theorem denominator_pos (decimal : Decimal) : 0 < 10 ^ (-decimal.exponent).toNat :=
  Nat.pow_pos (by decide)

/-- The quotient of units that is rounded when a decimal value is read. -/
theorem cast_quotient (decimal : Decimal) :
    ((decimal.digits * unitsPerOne * 10 ^ decimal.exponent.toNat : Nat) : ℚ) /
        (10 ^ (-decimal.exponent).toNat : Nat) = decimal.value * unitsPerOne := by
  rw [Nat.cast_mul, mul_div_assoc, ten_pow_div_ten_pow, Nat.cast_mul, value,
    mul_right_comm]

/-- The units that a decimal value is read as in single precision. -/
def singleUnits (decimal : Decimal) : Nat :=
  Number.singleUnits (decimal.digits * unitsPerOne * 10 ^ decimal.exponent.toNat)
    (10 ^ (-decimal.exponent).toNat)

theorem round_eq_zero_of_small {numerator denominator : Nat} (positive : 0 < denominator)
    (small : 2 * ((numerator : ℚ) / denominator) < 1) :
    Format.double.round numerator denominator = 0 := by
  have nonnegative : (0 : ℚ) ≤ numerator / denominator := by positivity
  have nearest := (Format.double.holds_zero).2.abs_sub_round_le numerator positive
  rw [Nat.cast_zero, sub_zero, abs_of_nonneg nonnegative] at nearest
  have below := (abs_le.mp nearest).1
  have belowOne : (Format.double.round numerator denominator : ℚ) < 1 := by linarith
  exact Nat.lt_one_iff.mp (by exact_mod_cast belowOne)

theorem value_lt_of_low (low : decimal.digits = 0 ∨ decimal.leading < leadingFloor) :
    decimal.value < 10 ^ leadingFloor := by
  rcases Nat.eq_zero_or_pos decimal.digits with isZero | positive
  · rw [value, isZero, Nat.cast_zero, zero_mul]
    exact zpow_ten_pos _
  · exact (leading_le_value positive).2.trans_le
      (zpow_ten_le (low.resolve_left positive.ne'))

theorem toDouble_of_digits_eq_zero (negative : Bool) (noDigits : decimal.digits = 0) :
    decimal.toDouble negative = Double.zero negative :=
  if_pos (Or.inl noDigits)

theorem leadingFloor_lt_half : 2 * ((10 : ℚ) ^ leadingFloor * unitsPerOne) < 1 := by
  have units : 2 * (10 ^ leadingFloor.toNat * unitsPerOne) < 10 ^ (-leadingFloor).toNat := by
    decide +kernel
  rw [← ten_pow_div_ten_pow, div_mul_eq_mul_div, ← mul_div_assoc,
    div_lt_one (Nat.cast_pos.mpr (Nat.pow_pos (by decide)))]
  exact_mod_cast units

theorem ceiling_le_leadingCeiling :
    ((2 ^ Format.double.ceiling : Nat) : ℚ) ≤ 10 ^ leadingCeiling * unitsPerOne := by
  have units : 2 ^ Format.double.ceiling * 10 ^ (-leadingCeiling).toNat ≤
      10 ^ leadingCeiling.toNat * unitsPerOne := by
    decide +kernel
  rw [← ten_pow_div_ten_pow, div_mul_eq_mul_div,
    le_div_iff₀ (Nat.cast_pos.mpr (Nat.pow_pos (by decide)))]
  exact_mod_cast units

/-- Where the first digit stands so low that the answer is zero, and where it stands so high that
the answer is infinite, rounding gives this as well. -/
theorem toDouble_eq_rounded (negative : Bool) (decimal : Decimal) :
    decimal.toDouble negative =
      Double.rounded negative (decimal.digits * unitsPerOne * 10 ^ decimal.exponent.toNat)
        (10 ^ (-decimal.exponent).toNat) := by
  have denominatorPositive := decimal.denominator_pos
  have quotient := decimal.cast_quotient
  rw [toDouble, Double.rounded]
  split
  · next low =>
      have small : 2 * (decimal.value * unitsPerOne) < 1 := by
        have scaled := mul_lt_mul_of_pos_right (value_lt_of_low low) unitsPerOne_cast_pos
        have half := leadingFloor_lt_half
        linarith
      rw [← quotient] at small
      have isZero := round_eq_zero_of_small denominatorPositive small
      exact (Double.nearest_of_round_eq isZero Format.double.holds_zero).symm
  · next notLow =>
      rw [not_or] at notLow
      split
      · next high =>
          have large : ((2 ^ Format.double.ceiling : Nat) : ℚ) ≤ decimal.value * unitsPerOne := by
            refine ceiling_le_leadingCeiling.trans
              (mul_le_mul_of_nonneg_right ?_ unitsPerOne_cast_pos.le)
            exact (zpow_ten_le high).trans
              (leading_le_value (Nat.pos_of_ne_zero notLow.1)).1
          have onGrid : Format.double.OnGrid (2 ^ Format.double.ceiling) :=
            ⟨1, _, by decide, Nat.zero_le _, (Nat.one_mul _).symm⟩
          rw [← quotient] at large
          exact (Double.nearest_of_ceiling_le (onGrid.le_round denominatorPositive large)).symm
      · rfl

section Reading

variable {negative : Bool} {units : Nat}

theorem singleUnits_le_singleUnits (order : decimal.value ≤ other.value) :
    decimal.singleUnits ≤ other.singleUnits := by
  refine Number.singleUnits_le_singleUnits decimal.denominator_pos other.denominator_pos ?_
  rw [cast_quotient, cast_quotient]
  exact mul_le_mul_of_nonneg_right order unitsPerOne_cast_pos.le

theorem toDouble_congr (negative : Bool) (same : decimal.value = other.value) :
    decimal.toDouble negative = other.toDouble negative := by
  rw [toDouble_eq_rounded, toDouble_eq_rounded]
  refine Double.nearest_congr
    (Format.double.round_congr decimal.denominator_pos other.denominator_pos ?_)
  rw [cast_quotient, cast_quotient, same]

theorem toSingle_toDouble_of_singleUnits_eq (held : single.Holds units)
    (read : decimal.singleUnits = units) :
    (decimal.toDouble negative).toSingle = .finite negative units held.double := by
  rw [toDouble_eq_rounded]
  exact Double.toSingle_rounded_of_singleUnits_eq held read

theorem singleUnits_eq_of_equals {other : Bool} (held : Format.double.Holds units)
    (positive : 0 < units)
    (same : (decimal.toDouble negative).toSingle.equals (.finite other units held) = true) :
    negative = other ∧ decimal.singleUnits = units := by
  rw [toDouble_eq_rounded] at same
  exact Double.singleUnits_eq_of_equals held positive same

end Reading

end Decimal

end CalcShell.Number

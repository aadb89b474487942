import CalcShell.Number.Arithmetic
import CalcShell.Proofs.Number.FormatOrder

/-!
# Reading single precision by way of double precision

A number of single precision is read in double precision first, so that it is rounded twice.
What lies near enough to a number of single precision is still read as it, and of two values
on either side of it the nearer one is if the other one is, unless the number is a power of
two, where the grid changes.
-/

namespace CalcShell.Number

variable {numerator denominator otherNumerator otherDenominator : Nat}

/-- The number of single precision, in units, that a quotient of units is read as. -/
def singleUnits (numerator denominator : Nat) : Nat :=
  Format.single.round (Format.double.round numerator denominator) 1

namespace Format

theorem OnGrid.double {point : Nat} (onGrid : single.OnGrid point) : double.OnGrid point := by
  obtain ⟨significand, shift, small, _, isPoint⟩ := onGrid
  have doubleSmall : 2 ^ single.precision < 2 ^ Format.double.precision :=
    Nat.pow_lt_pow_right Nat.one_lt_two (by decide)
  exact ⟨significand, shift, Nat.lt_trans small doubleSmall, Nat.zero_le _, isPoint⟩

/-- Another point of the format is away from one in normal form by at least half a step of its
grid, which is finer below a power of two. -/
theorem IsNormal.le_two_mul_abs_sub {format : Format} {point significand exponent other : Nat}
    (normal : format.IsNormal point significand exponent) (onGrid : format.OnGrid other)
    (different : other ≠ point) : ((2 ^ exponent : Nat) : ℚ) ≤ 2 * |(other : ℚ) - point| := by
  have half : 2 ^ exponent ≤ 2 ^ (exponent - 1) * 2 := by
    rw [← Nat.pow_succ]
    exact Nat.pow_le_pow_right Nat.two_pos (by omega)
  suffices apart : ((2 ^ (exponent - 1) : Nat) : ℚ) ≤ |(other : ℚ) - point| by
    have halfCast : ((2 ^ exponent : Nat) : ℚ) ≤ (2 ^ (exponent - 1) : Nat) * 2 := by
      exact_mod_cast half
    linarith
  by_cases reached : exponent - 1 ≤ format.finest ∨
      2 ^ (exponent - 1 + format.precision - 1) ≤ other
  · -- both are multiples of half a step
    obtain ⟨steps, rfl⟩ := onGrid.exists_multiple reached
    obtain ⟨pointSteps, isPoint⟩ : ∃ pointSteps, point = pointSteps * 2 ^ (exponent - 1) := by
      refine ⟨significand * 2 ^ (exponent - (exponent - 1)), ?_⟩
      rw [normal.isPoint, Nat.mul_assoc, ← Nat.pow_add, Nat.sub_add_cancel (Nat.sub_le exponent 1)]
    have stepsApart : (1 : ℚ) ≤ |(steps : ℚ) - pointSteps| := by
      have distinct : (steps : ℤ) - pointSteps ≠ 0 := by
        rw [sub_ne_zero, ne_eq, Nat.cast_inj]
        rintro rfl
        exact different isPoint.symm
      exact_mod_cast Int.one_le_abs distinct
    rw [isPoint, Nat.cast_mul, Nat.cast_mul, ← sub_mul, abs_mul, abs_of_pos (cast_two_pow_pos _)]
    exact le_mul_of_one_le_left (cast_two_pow_pos _).le stepsApart
  · -- the other point is smaller by at least a binary place
    rw [not_or, not_le, not_le] at reached
    have precise := format.precision_pos
    have full : 2 ^ (format.precision - 1 + exponent) ≤ point := by
      rw [normal.isPoint, Nat.pow_add]
      exact Nat.mul_le_mul_right _ (normal.full.resolve_left (by omega))
    have binaryPlace : format.precision - 1 + exponent =
        exponent - 1 + format.precision - 1 + 1 := by
      omega
    rw [binaryPlace, Nat.pow_succ] at full
    have stepBelow : 2 ^ (exponent - 1) ≤ 2 ^ (exponent - 1 + format.precision - 1) :=
      Nat.pow_le_pow_right Nat.two_pos (by omega)
    have difference : other + 2 ^ (exponent - 1) ≤ point := by omega
    have differenceCast : (other : ℚ) + (2 ^ (exponent - 1) : Nat) ≤ point := by
      exact_mod_cast difference
    rw [abs_sub_comm]
    exact (le_sub_iff_add_le'.mpr differenceCast).trans (le_abs_self _)

end Format

open Format

theorem singleUnits_le_singleUnits (positive : 0 < denominator)
    (otherPositive : 0 < otherDenominator)
    (order : (numerator : ℚ) / denominator ≤ otherNumerator / otherDenominator) :
    singleUnits numerator denominator ≤ singleUnits otherNumerator otherDenominator := by
  have doubles := double.round_le_round positive otherPositive order
  refine single.round_le_round one_pos one_pos ?_
  rw [Nat.cast_one, div_one, div_one]
  exact_mod_cast doubles

section Points

variable {point : Nat}

theorem le_singleUnits (onGrid : single.OnGrid point) (positive : 0 < denominator)
    (below : (point : ℚ) ≤ numerator / denominator) :
    point ≤ singleUnits numerator denominator := by
  have doubleAbove := onGrid.double.le_round positive below
  refine onGrid.le_round one_pos ?_
  rw [Nat.cast_one, div_one]
  exact_mod_cast doubleAbove

theorem singleUnits_le (onGrid : single.OnGrid point) (positive : 0 < denominator)
    (above : (numerator : ℚ) / denominator ≤ point) :
    singleUnits numerator denominator ≤ point := by
  have doubleBelow := onGrid.double.round_le positive above
  refine onGrid.round_le one_pos ?_
  rw [Nat.cast_one, div_one]
  exact_mod_cast doubleBelow

theorem abs_sub_singleUnits_le (onGrid : single.OnGrid point) (numerator : Nat)
    (positive : 0 < denominator) :
    |(singleUnits numerator denominator : ℚ) - point| ≤
      4 * |(numerator : ℚ) / denominator - point| := by
  have inDouble := onGrid.double.abs_sub_round_le numerator positive
  have inSingle := onGrid.abs_sub_round_le (double.round numerator denominator) one_pos
  rw [Nat.cast_one, div_one] at inSingle
  rw [singleUnits]
  generalize double.round numerator denominator = rounded at inDouble inSingle ⊢
  generalize single.round rounded 1 = twiceRounded at inSingle ⊢
  generalize (numerator : ℚ) / denominator = value at inDouble ⊢
  have first : |(rounded : ℚ) - point| ≤ 2 * |value - point| := by
    have around := abs_sub_le (rounded : ℚ) value point
    rw [abs_sub_comm (rounded : ℚ) value] at around
    linarith
  have second := abs_sub_le (twiceRounded : ℚ) rounded point
  rw [abs_sub_comm (twiceRounded : ℚ) rounded] at second
  linarith

/-- What is less than an eighth of a step away from a number of single precision is read as
it. -/
theorem singleUnits_eq_of_near {significand exponent : Nat}
    (normal : single.IsNormal point significand exponent) (positive : 0 < denominator)
    (near : 8 * |(numerator : ℚ) / denominator - point| < (2 ^ exponent : Nat)) :
    singleUnits numerator denominator = point := by
  by_contra different
  have apart := normal.le_two_mul_abs_sub (single.onGrid_round _ _) different
  have close := abs_sub_singleUnits_le normal.onGrid numerator positive
  rw [singleUnits] at close
  linarith

/-- What is read as a number of single precision is less than a step away from it. -/
theorem abs_sub_lt_of_singleUnits_eq {significand exponent : Nat}
    (normal : single.IsNormal point significand exponent) (positive : 0 < denominator)
    (nonzero : significand ≠ 0) (read : singleUnits numerator denominator = point) :
    |(numerator : ℚ) / denominator - point| < (2 ^ exponent : Nat) := by
  have above : single.OnGrid ((significand + 1) * 2 ^ exponent) :=
    onGrid_of_le normal.small normal.fine
  have below : single.OnGrid ((significand - 1) * 2 ^ exponent) :=
    onGrid_of_le (Nat.le_trans (Nat.sub_le _ _) normal.small.le) normal.fine
  have step := Nat.two_pow_pos exponent
  have isPoint := normal.isPoint
  rw [abs_sub_lt_iff]
  constructor
  · by_contra far
    have reached : (significand + 1) * 2 ^ exponent ≤ singleUnits numerator denominator :=
      le_singleUnits above positive (by
      rw [not_lt, le_sub_iff_add_le, add_comm] at far
      rw [Nat.succ_mul, ← isPoint]
      exact_mod_cast far)
    rw [read, Nat.succ_mul, ← isPoint] at reached
    omega
  · by_contra far
    have pointAbove : point = (significand - 1) * 2 ^ exponent + 2 ^ exponent := by
      rw [← Nat.succ_mul, Nat.succ_eq_add_one, Nat.sub_one_add_one nonzero]
      exact isPoint
    have reached : singleUnits numerator denominator ≤ (significand - 1) * 2 ^ exponent :=
      singleUnits_le below positive (by
      rw [not_lt, le_sub_comm] at far
      refine far.trans (le_of_eq ?_)
      rw [sub_eq_iff_eq_add]
      exact_mod_cast pointAbove)
    rw [read] at reached
    omega

/-! ## Between two powers of two -/

/-- A number of single precision lies by a step or more inside the powers of two around it. -/
structure IsInside (point significand exponent place : Nat) : Prop where
  normal : single.IsNormal point significand exponent
  coarse : single.finest ≤ place
  steps : exponent = max single.finest (place + 1 - single.precision)
  above : 2 ^ place + 2 ^ exponent ≤ point
  below : point + 2 ^ exponent ≤ 2 ^ (place + 1)

theorem add_le_of_multiples {few many step : Nat} (order : few * step < many * step) :
    few * step + step ≤ many * step := by
  rw [← Nat.succ_mul]
  exact Nat.mul_le_mul_right step (Nat.lt_of_mul_lt_mul_right order)

theorem isInside_log2 {significand exponent : Nat}
    (normal : single.IsNormal point significand exponent) (nonzero : significand ≠ 0)
    (notPower : ∀ place, point ≠ 2 ^ place) :
    IsInside point significand exponent point.log2 := by
  have isPoint := normal.isPoint
  have pointNonzero : point ≠ 0 := by
    rw [isPoint]
    exact Nat.mul_ne_zero nonzero (Nat.two_pow_pos exponent).ne'
  have atLeastStep : exponent ≤ point.log2 := by
    rw [Nat.le_log2 pointNonzero, isPoint]
    exact Nat.le_mul_of_pos_left _ (Nat.pos_of_ne_zero nonzero)
  have multiple (place : Nat) (coarser : exponent ≤ place) :
      2 ^ place = 2 ^ (place - exponent) * 2 ^ exponent := by
    rw [← Nat.pow_add, Nat.sub_add_cancel coarser]
  have start : 2 ^ point.log2 < point :=
    Nat.lt_of_le_of_ne (Nat.log2_self_le pointNonzero) (notPower _).symm
  have stop : point < 2 ^ (point.log2 + 1) := Nat.lt_log2_self
  refine ⟨normal, normal.fine.trans atLeastStep, normal.inForce.symm, ?_, ?_⟩
  · generalize point.log2 = place at start atLeastStep ⊢
    rw [multiple _ atLeastStep, isPoint] at start ⊢
    exact add_le_of_multiples start
  · generalize point.log2 = place at stop atLeastStep ⊢
    rw [multiple _ (Nat.le_succ_of_le atLeastStep), isPoint] at stop ⊢
    exact add_le_of_multiples stop

namespace IsInside

variable {significand exponent place : Nat} (inside : IsInside point significand exponent place)

include inside

/-- Near the number both roundings go to the multiples of a fixed power of two, so that what a
value is read as depends only on how far it is away. -/
theorem exists_isNearest (positive : 0 < denominator)
    (near : |(numerator : ℚ) / denominator - point| < (2 ^ exponent : Nat)) :
    ∃ steps : ℤ,
      IsNearest (((numerator : ℚ) / denominator - point) /
          (2 ^ max double.finest (place + 1 - double.precision) : Nat)) steps ∧
        (singleUnits numerator denominator = point ↔
          IsNearest (significand + steps *
            ((2 ^ max double.finest (place + 1 - double.precision) : Nat) /
              (2 ^ exponent : Nat) : ℚ))
            significand) := by
  obtain ⟨nearAbove, nearBelow⟩ := abs_sub_lt_iff.mp near
  have above : ((2 ^ place : Nat) : ℚ) + (2 ^ exponent : Nat) ≤ point := by
    exact_mod_cast inside.above
  have below : (point : ℚ) + (2 ^ exponent : Nat) ≤ (2 ^ (place + 1) : Nat) := by
    exact_mod_cast inside.below
  have valueAbove : ((2 ^ place : Nat) : ℚ) ≤ numerator / denominator := by linarith
  have valueBelow : (numerator : ℚ) / denominator ≤ (2 ^ (place + 1) : Nat) := by linarith
  have finer : max double.finest (place + 1 - double.precision) < exponent := by
    have coarse := inside.coarse
    have steps := inside.steps
    simp only [double, single] at coarse steps ⊢
    omega
  obtain ⟨wide, doubleSame, doubleNearest⟩ :=
    double.exists_isNearest_round_between numerator (Nat.zero_le _) positive valueAbove valueBelow
  have powerOnGrid (power : Nat) : double.OnGrid (2 ^ power) :=
    ⟨1, power, by decide, Nat.zero_le _, (Nat.one_mul _).symm⟩
  have doubleAbove := (powerOnGrid place).le_round positive valueAbove
  have doubleBelow := (powerOnGrid (place + 1)).round_le positive valueBelow
  obtain ⟨narrow, singleSame, singleNearest⟩ :=
    single.exists_isNearest_round_between (double.round numerator denominator) inside.coarse one_pos
      (by rw [Nat.cast_one, div_one]; exact_mod_cast doubleAbove)
      (by rw [Nat.cast_one, div_one]; exact_mod_cast doubleBelow)
  rw [← inside.steps] at singleSame singleNearest
  rw [Nat.cast_one, div_one, doubleSame] at singleNearest
  rw [singleUnits, singleSame, inside.normal.isPoint]
  generalize max double.finest (place + 1 - double.precision) = fine at *
  obtain ⟨further, sum⟩ := Nat.exists_eq_add_of_lt finer
  have finePositive := cast_two_pow_pos fine
  have stepPositive := cast_two_pow_pos exponent
  -- the number of units of the double grid in the number is even
  have wholeSteps : significand * 2 ^ exponent =
      significand * 2 ^ (further + 1) * 2 ^ fine := by
    rw [sum, Nat.mul_assoc, ← Nat.pow_add]
    congr 2
    omega
  have even : Even ((significand * 2 ^ (further + 1) : Nat) : ℤ) := by
    rw [Int.even_coe_nat, Nat.pow_succ]
    exact (even_two.mul_left _).mul_left _
  refine ⟨wide - (significand * 2 ^ (further + 1) : Nat), ?_, ?_⟩
  · have shifted := doubleNearest.sub_even even
    rwa [Int.cast_natCast, ← mul_div_cancel_right₀ ((significand * 2 ^ (further + 1) : Nat) : ℚ)
      finePositive.ne', ← sub_div, ← Nat.cast_mul, ← wholeSteps] at shifted
  · have scaled : (significand + ((wide - (significand * 2 ^ (further + 1) : Nat) : ℤ) : ℚ) *
        ((2 ^ fine : Nat) / (2 ^ exponent : Nat)) : ℚ) =
          (wide * 2 ^ fine : Nat) / (2 ^ exponent : Nat) := by
      have wholeStepsCast : ((significand * 2 ^ (further + 1) : Nat) : ℚ) * (2 ^ fine : Nat) =
          significand * (2 ^ exponent : Nat) := by
        exact_mod_cast wholeSteps.symm
      rw [eq_div_iff stepPositive.ne', add_mul, mul_assoc, div_mul_cancel₀ _ stepPositive.ne',
        Int.cast_sub, Int.cast_natCast, Int.cast_natCast, sub_mul, wholeStepsCast, Nat.cast_mul,
        add_sub_cancel]
    rw [scaled]
    constructor
    · intro same
      have equal : narrow = significand :=
        Nat.eq_of_mul_eq_mul_right (Nat.two_pow_pos exponent) same
      rwa [← equal]
    · intro nearest
      have equal : narrow = significand := by exact_mod_cast singleNearest.eq nearest
      rw [equal]

/-- If one of two values is read as the number and the other one is not farther away, it is read
as the number as well. -/
theorem singleUnits_eq_of_abs_le (nonzero : significand ≠ 0) (positive : 0 < denominator)
    (otherPositive : 0 < otherDenominator)
    (nearer : |(numerator : ℚ) / denominator - point| ≤
      |(otherNumerator : ℚ) / otherDenominator - point|)
    (read : singleUnits otherNumerator otherDenominator = point) :
    singleUnits numerator denominator = point := by
  have otherNear := abs_sub_lt_of_singleUnits_eq inside.normal otherPositive nonzero read
  obtain ⟨steps, nearest, readIff⟩ := inside.exists_isNearest positive (nearer.trans_lt otherNear)
  obtain ⟨otherSteps, otherNearest, otherReadIff⟩ := inside.exists_isNearest otherPositive otherNear
  have fewer : |steps| ≤ |otherSteps| := by
    refine nearest.abs_le_abs otherNearest ?_
    rw [abs_div, abs_div]
    exact div_le_div_of_nonneg_right nearer (abs_nonneg _)
  refine readIff.mpr ((otherReadIff.mp read).of_abs_le ?_)
  rw [Int.cast_natCast, add_sub_cancel_left, add_sub_cancel_left, abs_mul, abs_mul]
  exact mul_le_mul_of_nonneg_right (by exact_mod_cast fewer) (abs_nonneg _)

end IsInside

end Points

end CalcShell.Number

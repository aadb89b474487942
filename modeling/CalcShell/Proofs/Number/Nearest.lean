import CalcShell.Number.Rounding
import Mathlib.Algebra.Order.Field.Basic
import Mathlib.Algebra.Order.Ring.Rat
import Mathlib.Algebra.Group.Int.Even
import Mathlib.Tactic.Linarith
import Mathlib.Tactic.Positivity

/-!
# The nearest integer

Every rational number has one nearest integer, if of two equally near ones the even one
counts.  It grows with the number, and it follows the number when the sign of that is changed
or an even integer is added.
-/

namespace CalcShell.Number

/-- The integer is less than a half away from the value, or just a half and even. -/
def IsNearest (value : ℚ) (whole : ℤ) : Prop :=
  2 * |value - whole| < 1 ∨ 2 * |value - whole| = 1 ∧ Even whole

theorem isNearest_intCast (whole : ℤ) : IsNearest whole whole := by
  left
  rw [sub_self, abs_zero, mul_zero]
  exact one_pos

namespace IsNearest

variable {value other : ℚ} {whole otherWhole : ℤ}

theorem two_mul_abs_sub_le (nearest : IsNearest value whole) : 2 * |value - whole| ≤ 1 :=
  nearest.elim le_of_lt fun tie => tie.1.le

theorem le_of_le (nearest : IsNearest value whole) (otherNearest : IsNearest other otherWhole)
    (order : value ≤ other) : whole ≤ otherWhole := by
  by_contra reversed
  have below : (otherWhole : ℚ) + 1 ≤ whole := by exact_mod_cast not_le.mp reversed
  have lower := (abs_le.mp (by linarith [nearest.two_mul_abs_sub_le] : |value - whole| ≤ 1 / 2)).1
  have upper :=
    (abs_le.mp (by linarith [otherNearest.two_mul_abs_sub_le] : |other - otherWhole| ≤ 1 / 2)).2
  -- Both lie half-way between two neighbours, of which only one is even.
  have neighbours : whole = otherWhole + 1 := by
    have apart : (whole : ℚ) = otherWhole + 1 := by linarith
    exact_mod_cast apart
  have gap : value - whole = -(1 / 2) := by linarith
  have otherGap : other - otherWhole = 1 / 2 := by linarith
  have even : Even whole := by
    rcases nearest with close | tie
    · rw [gap, abs_neg, abs_of_pos (by norm_num)] at close
      linarith
    · exact tie.2
  have otherEven : Even otherWhole := by
    rcases otherNearest with close | tie
    · rw [otherGap, abs_of_pos (by norm_num)] at close
      linarith
    · exact tie.2
  rw [neighbours] at even
  exact Int.not_even_iff_odd.mpr (otherEven.add_one) even

theorem eq (nearest : IsNearest value whole) (otherNearest : IsNearest value otherWhole) :
    whole = otherWhole :=
  le_antisymm (nearest.le_of_le otherNearest le_rfl) (otherNearest.le_of_le nearest le_rfl)

theorem eq_of_intCast (nearest : IsNearest (otherWhole : ℚ) whole) : whole = otherWhole :=
  nearest.eq (isNearest_intCast otherWhole)

theorem neg (nearest : IsNearest value whole) : IsNearest (-value) (-whole) := by
  have gap : |-value - ((-whole : ℤ) : ℚ)| = |value - whole| := by
    rw [Int.cast_neg, ← neg_add', abs_neg, ← sub_eq_add_neg]
  rw [IsNearest, gap, even_neg]
  exact nearest

theorem sub_even (nearest : IsNearest value whole) {shift : ℤ} (even : Even shift) :
    IsNearest (value - shift) (whole - shift) := by
  have gap : |value - shift - ((whole - shift : ℤ) : ℚ)| = |value - whole| := by
    rw [Int.cast_sub, sub_sub_sub_cancel_right]
  rw [IsNearest, gap]
  exact nearest.imp_right fun tie => ⟨tie.1, tie.2.sub even⟩

theorem abs (nearest : IsNearest value whole) : IsNearest |value| |whole| := by
  rcases le_total 0 value with nonnegative | nonpositive
  · have wholeNonnegative : 0 ≤ whole :=
      (isNearest_intCast 0).le_of_le nearest (by rwa [Int.cast_zero])
    rwa [abs_of_nonneg nonnegative, abs_of_nonneg wholeNonnegative]
  · have wholeNonpositive : whole ≤ 0 :=
      nearest.le_of_le (isNearest_intCast 0) (by rwa [Int.cast_zero])
    rw [abs_of_nonpos nonpositive, abs_of_nonpos wholeNonpositive]
    exact nearest.neg

theorem abs_le_abs (nearest : IsNearest value whole) (otherNearest : IsNearest other otherWhole)
    (order : |value| ≤ |other|) : |whole| ≤ |otherWhole| :=
  nearest.abs.le_of_le otherNearest.abs order

theorem of_abs_le (nearest : IsNearest other whole)
    (nearer : |value - whole| ≤ |other - whole|) : IsNearest value whole := by
  rcases nearest with close | ⟨tie, even⟩
  · left
    linarith
  · rcases lt_or_eq_of_le nearer with closer | same
    · left
      linarith
    · exact Or.inr ⟨by rw [same, tie], even⟩

/-- No integer is nearer. -/
theorem abs_sub_le_abs_sub (nearest : IsNearest value whole) (candidate : ℤ) :
    |value - whole| ≤ |value - candidate| := by
  rcases eq_or_ne whole candidate with rfl | different
  · exact le_rfl
  · have apart : (1 : ℚ) ≤ |(whole : ℚ) - candidate| := by
      exact_mod_cast Int.one_le_abs (sub_ne_zero.mpr different)
    have around := abs_sub_le (whole : ℚ) value candidate
    rw [abs_sub_comm (whole : ℚ) value] at around
    linarith [nearest.two_mul_abs_sub_le]

/-- No multiple of a step is nearer than the one with the nearest number of steps. -/
theorem abs_sub_mul_le {step : ℚ} (positive : 0 < step) (nearest : IsNearest (value / step) whole)
    (candidate : ℤ) : |value - whole * step| ≤ |value - candidate * step| := by
  have scaled (count : ℤ) : |value - count * step| = |value / step - count| * step := by
    rw [← abs_of_pos positive, ← abs_mul, abs_of_pos positive, sub_mul,
      div_mul_cancel₀ value positive.ne']
  rw [scaled, scaled]
  exact mul_le_mul_of_nonneg_right (nearest.abs_sub_le_abs_sub candidate) positive.le

end IsNearest

theorem isNearest_roundQuotient (numerator : Nat) {denominator : Nat}
    (positive : 0 < denominator) :
    IsNearest (numerator / denominator) (roundQuotient numerator denominator : Nat) := by
  have scale : (0 : ℚ) < denominator := Nat.cast_pos.mpr positive
  have value : (numerator : ℚ) / denominator =
      (numerator / denominator : Nat) + (numerator % denominator : Nat) / (denominator : ℚ) := by
    have parts : (denominator * (numerator / denominator : Nat) +
        (numerator % denominator : Nat) : ℚ) = numerator := by
      exact_mod_cast Nat.div_add_mod numerator denominator
    rw [← mul_div_cancel_left₀ ((numerator / denominator : Nat) : ℚ) scale.ne', ← add_div, parts]
  have restBelow := Nat.mod_lt numerator positive
  rw [value, roundQuotient]
  generalize numerator / denominator = quotient
  generalize numerator % denominator = rest at restBelow ⊢
  have nonnegative : (0 : ℚ) ≤ rest / denominator := by positivity
  have belowOne : (rest / denominator : ℚ) < 1 :=
    (div_lt_one scale).mpr (Nat.cast_lt.mpr restBelow)
  have doubled : 2 * (rest / denominator : ℚ) = (2 * rest : Nat) / denominator := by
    rw [Nat.cast_mul, Nat.cast_two, mul_div_assoc]
  generalize (rest / denominator : ℚ) = fraction at nonnegative belowOne doubled ⊢
  have gapBelow : |(quotient + fraction : ℚ) - (quotient : Int)| = fraction := by
    rw [Int.cast_natCast, add_sub_cancel_left, abs_of_nonneg nonnegative]
  have gapAbove : |(quotient + fraction : ℚ) - ((quotient + 1 : Nat) : Int)| = 1 - fraction := by
    rw [Int.cast_natCast, Nat.cast_add, Nat.cast_one, add_sub_add_left_eq_sub,
      abs_of_neg (sub_neg.mpr belowOne), neg_sub]
  rw [IsNearest]
  split
  · next small =>
      left
      rw [gapBelow, doubled, div_lt_one scale]
      exact_mod_cast small
  · next notSmall =>
      split
      · next large =>
          have above : 1 < 2 * fraction := by
            rw [doubled, one_lt_div scale]
            exact_mod_cast large
          left
          rw [gapAbove]
          linarith
      · next notLarge =>
          have half : 2 * fraction = 1 := by
            rw [doubled, div_eq_one_iff_eq scale.ne']
            exact_mod_cast Nat.le_antisymm (Nat.not_lt.mp notLarge) (Nat.not_lt.mp notSmall)
          right
          rcases Nat.mod_two_eq_zero_or_one quotient with even | odd
          · rw [even, Nat.add_zero, gapBelow]
            exact ⟨half, by exact_mod_cast Nat.even_iff.mpr even⟩
          · rw [odd, gapAbove]
            refine ⟨by linarith, ?_⟩
            exact_mod_cast (Nat.odd_iff.mpr odd).add_one

end CalcShell.Number

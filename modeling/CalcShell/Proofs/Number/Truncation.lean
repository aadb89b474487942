import CalcShell.Number.Arithmetic
import CalcShell.Number.Wrap
import Mathlib.Data.Rat.Floor

/-!
# Cutting doubles down to integers

A finite double is a rational number.  Cutting it down drops the fraction of that number and
then moves the integer into the range; an infinity goes to the end of the range on its side,
and what is no number to zero.  The larger of two doubles never gives the smaller integer.
-/

namespace CalcShell.Number

/-- A rational number without its fraction. -/
def towardZero (value : ℚ) : Int :=
  if value < 0 then ⌈value⌉ else ⌊value⌋

theorem towardZero_div (numerator : Int) {denominator : Nat} (positive : 0 < denominator) :
    towardZero (numerator / denominator) = numerator.tdiv denominator := by
  have denominatorPositive : (0 : ℚ) < denominator := Nat.cast_pos.mpr positive
  rw [towardZero]
  split
  · next negative =>
      have below : numerator < 0 := by
        have scaled := (div_lt_iff₀ denominatorPositive).mp negative
        rwa [zero_mul, Int.cast_lt_zero] at scaled
      rw [Rat.ceil_intCast_div_natCast, ← Int.tdiv_eq_ediv_of_nonneg (by omega), Int.neg_tdiv,
        neg_neg]
  · next notNegative =>
      have above : 0 ≤ numerator := by
        rw [not_lt] at notNegative
        have scaled := (le_div_iff₀ denominatorPositive).mp notNegative
        rwa [zero_mul, Int.cast_nonneg_iff] at scaled
      rw [Rat.floor_intCast_div_natCast, Int.tdiv_eq_ediv_of_nonneg above]

/-- The integer of a range that is nearest to a given one. -/
def clamp (low high value : Int) : Int :=
  max low (min high value)

theorem le_clamp (low high value : Int) : low ≤ clamp low high value :=
  le_max_left low _

theorem clamp_le {low high : Int} (ordered : low ≤ high) (value : Int) :
    clamp low high value ≤ high :=
  max_le ordered (min_le_left high value)

theorem clamp_le_clamp {left right : Int} (low high : Int) (order : left ≤ right) :
    clamp low high left ≤ clamp low high right :=
  max_le_max_left low (min_le_min_left high order)

namespace Double

/-- The integer of a range that stands for a double. -/
def saturated (low high : Int) : Double → Int
  | .nan => 0
  | .infinite negative => if negative then low else high
  | .finite negative units _ =>
    clamp low high (towardZero (signedUnits negative units / unitsPerOne))

variable {low high : Int}

theorem unitsPerOne_pos : 0 < unitsPerOne :=
  Nat.two_pow_pos unitExponent

theorem saturated_finite (negative : Bool) (units : Nat) (held : Format.double.Holds units) :
    (finite negative units held).saturated low high =
      clamp low high ((signedUnits negative units).tdiv unitsPerOne) := by
  rw [saturated, towardZero_div _ unitsPerOne_pos]

/-- The bounds are compared before the fraction is dropped, which makes no difference as both
are integers. -/
theorem truncate_eq_saturated (ordered : low ≤ high) (double : Double) :
    double.truncate low high = double.saturated low high := by
  cases double with
  | nan | infinite negative => rfl
  | finite negative units held =>
      have positive : (0 : Int) < unitsPerOne := Int.natCast_pos.mpr unitsPerOne_pos
      have whole (bound : Int) : (bound * unitsPerOne).tdiv unitsPerOne = bound :=
        Int.mul_tdiv_cancel bound positive.ne'
      rw [truncate, saturated_finite, clamp]
      generalize signedUnits negative units = signed
      have dropped {least greatest : Int} (below : least ≤ greatest) :
          least.tdiv unitsPerOne ≤ greatest.tdiv unitsPerOne :=
        Int.tdiv_le_tdiv positive below
      split
      · next reached =>
          have above := dropped reached
          rw [whole] at above
          rw [min_eq_left above, max_eq_right ordered]
      · next below =>
          have belowHigh := dropped (Int.le_of_not_le below)
          rw [whole] at belowHigh
          rw [min_eq_right belowHigh]
          split
          · next reached =>
              have beneath := dropped reached
              rw [whole] at beneath
              rw [max_eq_left beneath]
          · next above =>
              have aboveLow := dropped (Int.le_of_not_le above)
              rw [whole] at aboveLow
              rw [max_eq_right aboveLow]

/-- Whether a double is at most as large as another one; what is no number is not. -/
def atMost (left right : Double) : Bool :=
  match left.quantity?, right.quantity? with
  | some leftQuantity, some rightQuantity => leftQuantity.atMost rightQuantity
  | _, _ => false

theorem saturated_mem_range (nonpositive : low ≤ 0) (nonnegative : 0 ≤ high) (double : Double) :
    low ≤ double.saturated low high ∧ double.saturated low high ≤ high := by
  have ordered : low ≤ high := nonpositive.trans nonnegative
  cases double with
  | nan => exact ⟨nonpositive, nonnegative⟩
  | infinite negative =>
      cases negative with
      | false => exact ⟨ordered, le_refl high⟩
      | true => exact ⟨le_refl low, ordered⟩
  | finite negative units held => exact ⟨le_clamp low high _, clamp_le ordered _⟩

theorem saturated_le_saturated (nonpositive : low ≤ 0) (nonnegative : 0 ≤ high)
    {left right : Double} (order : left.atMost right = true) :
    left.saturated low high ≤ right.saturated low high := by
  have inRange := saturated_mem_range nonpositive nonnegative
  cases left with
  | nan => cases order
  | infinite negative =>
      cases negative with
      | true => exact (inRange right).1
      | false =>
          -- only the infinity itself is as large as the positive infinity
          cases right with
          | nan | finite _ _ _ => cases order
          | infinite other =>
              cases other with
              | false => exact le_refl high
              | true => cases order
  | finite negative units held =>
      cases right with
      | nan => cases order
      | infinite other =>
          cases other with
          | false => exact (inRange _).2
          | true => cases order
      | finite other otherUnits otherHeld =>
          have signed : signedUnits negative units ≤ signedUnits other otherUnits :=
            of_decide_eq_true order
          have dropped := Int.tdiv_le_tdiv (Int.natCast_pos.mpr unitsPerOne_pos) signed
          rw [saturated_finite, saturated_finite]
          exact clamp_le_clamp low high dropped

end Double

end CalcShell.Number

import CalcShell.Number.Arithmetic
import CalcShell.Number.Wrap

/-!
# The range of rounding

Rounding raises a magnitude by hardly more than one point of the grid.  A magnitude
of a moderate number of bits therefore stays far below the ceiling of double
precision, and every integer of the width of a word has a double.
-/

namespace CalcShell.Number

/-- What rounding gives has few more bits than what is rounded. -/
theorem Format.round_le (format : Format) {numerator denominator bits : Nat}
    (small : numerator / denominator < 2 ^ bits) :
    format.round numerator denominator ≤
      2 ^ (format.precision + max format.finest (bits - format.precision)) := by
  have significand := format.roundQuotient_le numerator denominator
  have shift : format.gridExponent (numerator / denominator) ≤
      max format.finest (bits - format.precision) := by
    have precise := format.precision_pos
    have bitCount : (numerator / denominator).log2 < max bits 1 := by
      by_cases isZero : numerator / denominator = 0
      · rw [isZero, Nat.log2_zero]
        omega
      · exact Nat.lt_of_lt_of_le ((Nat.log2_lt isZero).mpr small) (Nat.le_max_left _ _)
    rw [gridExponent]
    omega
  rw [round, Nat.pow_add]
  exact Nat.mul_le_mul significand (Nat.pow_le_pow_right Nat.two_pos shift)

namespace Double

theorem unlessInfinite_nearest {format : Format} {negative : Bool} {numerator denominator : Nat}
    (bound : format.round numerator denominator < 2 ^ format.ceiling) :
    (nearest format negative numerator denominator).unlessInfinite =
      some (.finite negative _ (format.holds_round bound).double) := by
  rw [nearest, dif_pos bound]
  rfl

theorem isSome_ofInt?_of_lt {value : Int} {width : Nat} (bounded : width ≤ 1000)
    (small : value.natAbs < 2 ^ width) : (ofInt? value).isSome = true := by
  have units : value.natAbs * unitsPerOne / 1 < 2 ^ (width + unitExponent) := by
    rw [Nat.div_one, Nat.pow_add, unitsPerOne]
    exact Nat.mul_lt_mul_of_pos_right small (Nat.two_pow_pos unitExponent)
  have ceiling : Format.double.precision +
      max Format.double.finest (width + unitExponent - Format.double.precision) <
        Format.double.ceiling := by
    simp only [Format.double, unitExponent]
    omega
  have finite : Format.double.round (value.natAbs * unitsPerOne) 1 <
      2 ^ Format.double.ceiling :=
    Nat.lt_of_le_of_lt (Format.double.round_le units) (Nat.pow_lt_pow_right Nat.one_lt_two ceiling)
  rw [ofInt?, rounded, unlessInfinite_nearest finite]
  exact Option.isSome_some

theorem isSome_ofInt?_of_inRange {value : Int} {width : Nat} (bounded : width ≤ 1000)
    (inRange : InRange width value) : (ofInt? value).isSome = true := by
  obtain ⟨low, high⟩ := inRange
  have small : value.natAbs < 2 ^ (width - 1 + 1) := by
    have positive := Nat.two_pow_pos (width - 1)
    rw [Nat.pow_succ]
    omega
  exact isSome_ofInt?_of_lt (by omega) small

end Double

end CalcShell.Number

import CalcShell.Number.Wrap
import Mathlib.Data.Int.ModEq

/-!
# Wrapping as a homomorphism

Wrapping keeps the residue of an integer and depends on nothing else.  Sums,
differences and products may therefore be wrapped at any point on the way, as
long as the last result is.
-/

namespace CalcShell.Number

variable (width : Nat) (left right value : Int)

theorem wrap_modEq : wrap width value ≡ value [ZMOD 2 ^ width] := by
  have residue : value % (2 ^ width : Nat) ≡ value [ZMOD 2 ^ width] :=
    Int.mod_modEq value _
  simp only [wrap]
  split
  · exact (Int.sub_modulus_modEq_iff).mpr residue
  · exact residue

variable {width left right value}

theorem wrap_congr (congruent : left ≡ right [ZMOD 2 ^ width]) :
    wrap width left = wrap width right := by
  have same : left % (2 ^ width : Nat) = right % (2 ^ width : Nat) := congruent
  simp only [wrap, same]

variable (width left right)

theorem wrap_add_wrap :
    wrap width (wrap width left + wrap width right) = wrap width (left + right) :=
  wrap_congr ((wrap_modEq width left).add (wrap_modEq width right))

theorem wrap_sub_wrap :
    wrap width (wrap width left - wrap width right) = wrap width (left - right) :=
  wrap_congr ((wrap_modEq width left).sub (wrap_modEq width right))

theorem wrap_mul_wrap :
    wrap width (wrap width left * wrap width right) = wrap width (left * right) :=
  wrap_congr ((wrap_modEq width left).mul (wrap_modEq width right))

variable {width}

theorem wrap_of_inRange (positive : 0 < width) (inRange : InRange width value) :
    wrap width value = value := by
  obtain ⟨below, rfl⟩ := Nat.exists_eq_succ_of_ne_zero positive.ne'
  obtain ⟨low, high⟩ := inRange
  rw [Nat.succ_sub_one] at low high
  have modulus : 2 ^ (below + 1) = 2 ^ below * 2 := Nat.pow_succ ..
  simp only [wrap, Nat.succ_eq_add_one, Nat.add_sub_cancel, modulus]
  by_cases negative : value < 0
  · have shifted : value % ((2 ^ below * 2 : Nat) : Int) = value + (2 ^ below * 2 : Nat) := by
      rw [← Int.add_emod_right, Int.emod_eq_of_lt]
      · omega
      · omega
    rw [shifted, if_pos (by omega)]
    omega
  · have kept : value % ((2 ^ below * 2 : Nat) : Int) = value := by
      rw [Int.emod_eq_of_lt]
      · omega
      · omega
    rw [kept, if_neg (by omega)]

theorem inRange_wrap (positive : 0 < width) (value : Int) : InRange width (wrap width value) := by
  obtain ⟨below, rfl⟩ := Nat.exists_eq_succ_of_ne_zero positive.ne'
  have modulus : 2 ^ (below + 1) = 2 ^ below * 2 := Nat.pow_succ ..
  have halfPositive := Nat.two_pow_pos below
  have low : 0 ≤ value % ((2 ^ below * 2 : Nat) : Int) := Int.emod_nonneg _ (by omega)
  have high : value % ((2 ^ below * 2 : Nat) : Int) < (2 ^ below * 2 : Nat) :=
    Int.emod_lt_of_pos _ (by omega)
  simp only [InRange, wrap, Nat.succ_eq_add_one, Nat.add_sub_cancel, modulus]
  split <;> constructor <;> omega

end CalcShell.Number

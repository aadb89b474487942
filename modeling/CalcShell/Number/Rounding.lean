import CalcShell.Number.Power

/-!
# Rounding to a binary format

Magnitudes are counted in *units* of `2⁻¹⁰⁷⁴`, the smallest positive double, so
that every finite double is a whole number of units.  A format keeps a limited
number of significant bits on a grid that never gets finer than a given power
of two; rounding goes to the nearest point of the grid, and of two equally near
points to the even one.

The main statement is `Format.holds_round`: what rounding gives, if it is not too
large, belongs to the format.
-/

namespace CalcShell.Number

/-- The number of units in one, as an exponent of two. -/
def unitExponent : Nat := 1074

def unitsPerOne : Nat := 2 ^ unitExponent

/-- The integer nearest to a quotient; of two equally near ones the even one. -/
def roundQuotient (numerator denominator : Nat) : Nat :=
  let quotient := numerator / denominator
  let rest := numerator % denominator
  if 2 * rest < denominator then quotient
  else if denominator < 2 * rest then quotient + 1
  else quotient + quotient % 2

theorem roundQuotient_le_succ (numerator denominator : Nat) :
    roundQuotient numerator denominator ≤ numerator / denominator + 1 := by
  unfold roundQuotient
  dsimp only
  split
  · omega
  · split <;> omega

/-- A binary floating point format whose values are all doubles: `precision` significant
bits, no grid finer than `2 ^ finest` units, and all magnitudes below `2 ^ ceiling`
units. -/
structure Format where
  precision : Nat
  finest : Nat
  ceiling : Nat
  precision_pos : 0 < precision := by decide
  precision_le : precision ≤ 53 := by decide
  ceiling_le : ceiling ≤ 2098 := by decide

namespace Format

def double : Format where
  precision := 53
  finest := 0
  ceiling := 2098

def single : Format where
  precision := 24
  finest := 925
  ceiling := 1202

/-- The magnitudes of a format, without regard to its ceiling. -/
def OnGrid (format : Format) (units : Nat) : Prop :=
  ∃ significand shift,
    significand < 2 ^ format.precision ∧ format.finest ≤ shift ∧
      units = significand * 2 ^ shift

/-- The finite magnitudes of a format. -/
def Holds (format : Format) (units : Nat) : Prop :=
  units < 2 ^ format.ceiling ∧ format.OnGrid units

/-- The exponent of the grid that is in force at a magnitude with the given whole number
of units. -/
def gridExponent (format : Format) (wholeUnits : Nat) : Nat :=
  max format.finest (wholeUnits.log2 + 1 - format.precision)

/-- The point of the format's grid that is nearest to a quotient of units. -/
def round (format : Format) (numerator denominator : Nat) : Nat :=
  let shift := format.gridExponent (numerator / denominator)
  roundQuotient numerator (denominator * 2 ^ shift) * 2 ^ shift

theorem onGrid_of_le {format : Format} {significand shift : Nat}
    (bound : significand ≤ 2 ^ format.precision) (fine : format.finest ≤ shift) :
    format.OnGrid (significand * 2 ^ shift) := by
  rcases Nat.lt_or_eq_of_le bound with below | equal
  · exact ⟨significand, shift, below, fine, rfl⟩
  · refine ⟨2 ^ (format.precision - 1), shift + 1, ?_, Nat.le_succ_of_le fine, ?_⟩
    · exact Nat.pow_lt_pow_right (by decide) (Nat.sub_lt format.precision_pos Nat.one_pos)
    · have positive := format.precision_pos
      rw [equal, ← Nat.pow_add, ← Nat.pow_add]
      congr 1
      omega

theorem roundQuotient_le (format : Format) (numerator denominator : Nat) :
    roundQuotient numerator
        (denominator * 2 ^ (format.gridExponent (numerator / denominator))) ≤
      2 ^ format.precision := by
  refine Nat.le_trans (roundQuotient_le_succ _ _) ?_
  rw [← Nat.div_div_eq_div_mul]
  generalize numerator / denominator = whole
  have size : whole < 2 ^ (whole.log2 + 1) := Nat.lt_log2_self
  refine Nat.div_lt_of_lt_mul (Nat.lt_of_lt_of_le size ?_)
  rw [← Nat.pow_add]
  refine Nat.pow_le_pow_right (by decide) ?_
  unfold gridExponent
  omega

theorem onGrid_round (format : Format) (numerator denominator : Nat) :
    format.OnGrid (format.round numerator denominator) :=
  onGrid_of_le (format.roundQuotient_le numerator denominator) (Nat.le_max_left _ _)

/-- What rounding gives belongs to the format, if it stays below the ceiling. -/
theorem holds_round (format : Format) {numerator denominator : Nat}
    (bound : format.round numerator denominator < 2 ^ format.ceiling) :
    format.Holds (format.round numerator denominator) :=
  ⟨bound, format.onGrid_round numerator denominator⟩

theorem Holds.double {format : Format} {units : Nat} (held : format.Holds units) :
    double.Holds units := by
  obtain ⟨bound, significand, shift, small, _, equality⟩ := held
  refine ⟨Nat.lt_of_lt_of_le bound ?_, significand, shift, ?_, Nat.zero_le _, equality⟩
  · exact Nat.pow_le_pow_right (by decide) format.ceiling_le
  · exact Nat.lt_of_lt_of_le small (Nat.pow_le_pow_right (by decide) format.precision_le)

end Format

end CalcShell.Number

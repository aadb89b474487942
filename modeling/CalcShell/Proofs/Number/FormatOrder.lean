import CalcShell.Proofs.Number.Nearest
import Mathlib.Data.Nat.Cast.Order.Field
import Mathlib.Data.Nat.Log

/-!
# Rounding keeps the order

Rounding to a format depends on the value of a quotient only.  It keeps the points of the
format where they are and never turns the order of two values round, so that a value between
two points of the format is rounded to a point between them; no point is nearer to the value.
Between two neighbouring powers of two it is rounding to the multiples of one power of two.
-/

namespace CalcShell.Number

namespace Format

variable {format : Format} {numerator denominator otherNumerator otherDenominator : Nat}

theorem cast_two_pow_pos (exponent : Nat) : (0 : ℚ) < (2 ^ exponent : Nat) :=
  Nat.cast_pos.mpr (Nat.two_pow_pos exponent)

/-- What rounding gives is the nearest multiple of the grid that is in force. -/
theorem exists_isNearest_round (format : Format) (numerator : Nat)
    (positive : 0 < denominator) :
    ∃ significand : Nat,
      format.round numerator denominator =
          significand * 2 ^ format.gridExponent (numerator / denominator) ∧
        IsNearest ((numerator : ℚ) / denominator /
          (2 ^ format.gridExponent (numerator / denominator) : Nat)) significand := by
  refine ⟨_, rfl, ?_⟩
  have scaled := isNearest_roundQuotient numerator
    (Nat.mul_pos positive (Nat.two_pow_pos (format.gridExponent (numerator / denominator))))
  rwa [Nat.cast_mul, ← div_div] at scaled

theorem div_lt_of_whole_lt (positive : 0 < denominator) {bound : Nat}
    (below : numerator / denominator < bound) : (numerator : ℚ) / denominator < bound := by
  rw [div_lt_iff₀ (Nat.cast_pos.mpr positive)]
  exact_mod_cast (Nat.div_lt_iff_lt_mul positive).mp below

theorem whole_lt_iff (positive : 0 < denominator) {bound : Nat} :
    numerator / denominator < bound ↔ (numerator : ℚ) / denominator < bound :=
  ⟨div_lt_of_whole_lt positive, fun below => by
    exact_mod_cast Nat.cast_div_le.trans_lt below⟩

theorem div_lt_two_pow (format : Format) (numerator : Nat) (positive : 0 < denominator) :
    (numerator : ℚ) / denominator <
      (2 ^ (format.gridExponent (numerator / denominator) + format.precision) : Nat) := by
  rw [← whole_lt_iff positive]
  refine Nat.lt_of_lt_of_le (Nat.lt_log2_self) (Nat.pow_le_pow_right Nat.two_pos ?_)
  rw [gridExponent]
  omega

theorem two_pow_le_div (format : Format) (numerator denominator : Nat)
    (coarse : format.finest < format.gridExponent (numerator / denominator)) :
    ((2 ^ (format.gridExponent (numerator / denominator) + format.precision - 1) : Nat) : ℚ) ≤
      numerator / denominator := by
  rw [gridExponent] at coarse ⊢
  have nonzero : numerator / denominator ≠ 0 := by
    intro isZero
    rw [isZero, Nat.log2_zero] at coarse
    have precise := format.precision_pos
    omega
  have exponent : max format.finest ((numerator / denominator).log2 + 1 - format.precision) +
      format.precision - 1 = (numerator / denominator).log2 := by
    omega
  rw [exponent]
  have whole : 2 ^ (numerator / denominator).log2 ≤ numerator / denominator :=
    Nat.log2_self_le nonzero
  exact (Nat.cast_le.mpr whole).trans Nat.cast_div_le

theorem round_le_two_pow (format : Format) :
    format.round numerator denominator ≤
      2 ^ (format.gridExponent (numerator / denominator) + format.precision) := by
  rw [round, Nat.add_comm, Nat.pow_add]
  exact Nat.mul_le_mul_right _ (format.roundQuotient_le numerator denominator)

theorem two_pow_le_round (positive : 0 < denominator)
    (coarse : format.finest < format.gridExponent (numerator / denominator)) :
    2 ^ (format.gridExponent (numerator / denominator) + format.precision - 1) ≤
      format.round numerator denominator := by
  have above := two_pow_le_div format numerator denominator coarse
  obtain ⟨significand, same, nearest⟩ := format.exists_isNearest_round numerator positive
  rw [same]
  generalize format.gridExponent (numerator / denominator) = shift at above nearest ⊢
  have precise := format.precision_pos
  have exponent : shift + format.precision - 1 = format.precision - 1 + shift := by omega
  rw [exponent, Nat.pow_add] at above ⊢
  refine Nat.mul_le_mul_right _ ?_
  rw [Nat.cast_mul, ← le_div_iff₀ (cast_two_pow_pos shift)] at above
  exact_mod_cast (isNearest_intCast (2 ^ (format.precision - 1) : Nat)).le_of_le nearest
    (by exact_mod_cast above)

theorem whole_le_whole (positive : 0 < otherDenominator)
    (order : (numerator : ℚ) / denominator ≤ otherNumerator / otherDenominator) :
    numerator / denominator ≤ otherNumerator / otherDenominator := by
  have below : ((numerator / denominator : Nat) : ℚ) ≤ otherNumerator / otherDenominator :=
    Nat.cast_div_le.trans order
  rw [le_div_iff₀ (Nat.cast_pos.mpr positive)] at below
  exact (Nat.le_div_iff_mul_le positive).mpr (by exact_mod_cast below)

theorem gridExponent_le_gridExponent (format : Format) {whole otherWhole : Nat}
    (order : whole ≤ otherWhole) :
    format.gridExponent whole ≤ format.gridExponent otherWhole := by
  have logarithm : whole.log2 ≤ otherWhole.log2 := by
    rw [Nat.log2_eq_log_two, Nat.log2_eq_log_two]
    exact Nat.log_mono_right order
  rw [gridExponent, gridExponent]
  omega

/-- Rounding does not turn the order of two values round. -/
theorem round_le_round (format : Format) (positive : 0 < denominator)
    (otherPositive : 0 < otherDenominator)
    (order : (numerator : ℚ) / denominator ≤ otherNumerator / otherDenominator) :
    format.round numerator denominator ≤ format.round otherNumerator otherDenominator := by
  have finer := format.gridExponent_le_gridExponent (whole_le_whole otherPositive order)
  rcases Nat.lt_or_eq_of_le finer with coarser | sameGrid
  · -- the least power of two on the coarser grid lies between the two
    have coarse : format.finest < format.gridExponent (otherNumerator / otherDenominator) :=
      Nat.lt_of_le_of_lt (Nat.le_max_left _ _) coarser
    refine format.round_le_two_pow.trans
      (Nat.le_trans (Nat.pow_le_pow_right Nat.two_pos ?_) (two_pow_le_round otherPositive coarse))
    omega
  · obtain ⟨significand, same, nearest⟩ :=
      format.exists_isNearest_round numerator positive
    obtain ⟨other, otherSame, otherNearest⟩ :=
      format.exists_isNearest_round otherNumerator otherPositive
    rw [same, otherSame]
    rw [← sameGrid] at otherNearest ⊢
    refine Nat.mul_le_mul_right _ ?_
    exact_mod_cast nearest.le_of_le otherNearest
      (div_le_div_of_nonneg_right order (cast_two_pow_pos _).le)

theorem round_congr (format : Format) (positive : 0 < denominator)
    (otherPositive : 0 < otherDenominator)
    (same : (numerator : ℚ) / denominator = otherNumerator / otherDenominator) :
    format.round numerator denominator = format.round otherNumerator otherDenominator :=
  Nat.le_antisymm (format.round_le_round positive otherPositive same.le)
    (format.round_le_round otherPositive positive same.ge)

/-- A point of the format lies on a grid, unless it is smaller than the least power of two with
which that grid is in force. -/
theorem OnGrid.exists_multiple {point exponent : Nat} (onGrid : format.OnGrid point)
    (reached : exponent ≤ format.finest ∨ 2 ^ (exponent + format.precision - 1) ≤ point) :
    ∃ steps, point = steps * 2 ^ exponent := by
  obtain ⟨significand, shift, small, fine, isPoint⟩ := onGrid
  have coarser : exponent ≤ shift := by
    rcases reached with finest | above
    · omega
    · by_contra finer
      have precise := format.precision_pos
      have below : point < 2 ^ (format.precision + shift) := by
        rw [isPoint, Nat.pow_add]
        exact Nat.mul_lt_mul_of_pos_right small (Nat.two_pow_pos shift)
      have large : 2 ^ (format.precision + shift) ≤
          2 ^ (exponent + format.precision - 1) := Nat.pow_le_pow_right Nat.two_pos (by omega)
      omega
  obtain ⟨further, rfl⟩ := Nat.exists_eq_add_of_le coarser
  refine ⟨significand * 2 ^ further, ?_⟩
  rw [isPoint, Nat.add_comm, Nat.pow_add, Nat.mul_assoc]

/-- A point of the format in normal form: its significand has all bits, unless the grid cannot
be finer. -/
structure IsNormal (format : Format) (point significand exponent : Nat) : Prop where
  isPoint : point = significand * 2 ^ exponent
  small : significand < 2 ^ format.precision
  fine : format.finest ≤ exponent
  full : exponent = format.finest ∨ 2 ^ (format.precision - 1) ≤ significand
  inForce : format.gridExponent point = exponent

theorem IsNormal.onGrid {point significand exponent : Nat}
    (normal : format.IsNormal point significand exponent) : format.OnGrid point :=
  ⟨significand, exponent, normal.small, normal.fine, normal.isPoint⟩

theorem IsNormal.significand_ne_zero {point significand exponent : Nat}
    (normal : format.IsNormal point significand exponent) (positive : 0 < point) :
    significand ≠ 0 := by
  rintro rfl
  have isZero := normal.isPoint
  omega

theorem OnGrid.exists_isNormal {point : Nat} (onGrid : format.OnGrid point) :
    ∃ significand, format.IsNormal point significand (format.gridExponent point) := by
  have below := format.div_lt_two_pow point one_pos
  have above := format.two_pow_le_div point 1
  have fine : format.finest ≤ format.gridExponent point := Nat.le_max_left _ _
  rw [Nat.div_one, Nat.cast_one, div_one, Nat.cast_lt] at below
  rw [Nat.div_one, Nat.cast_one, div_one, Nat.cast_le] at above
  obtain ⟨significand, isPoint⟩ :=
    onGrid.exists_multiple ((Nat.lt_or_ge format.finest _).symm.imp_right above)
  refine ⟨significand, isPoint, ?_, fine, ?_, rfl⟩
  · rw [Nat.add_comm, Nat.pow_add] at below
    exact Nat.lt_of_mul_lt_mul_right (isPoint.symm.trans_lt below)
  · rcases Nat.eq_or_lt_of_le fine with finest | coarse
    · exact Or.inl finest.symm
    · have precise := format.precision_pos
      have least := above coarse
      rw [Nat.add_comm, Nat.sub_add_comm precise, Nat.pow_add] at least
      exact Or.inr (Nat.le_of_mul_le_mul_right (least.trans_eq isPoint) (Nat.two_pow_pos _))

/-- Rounding keeps the points of the format. -/
theorem OnGrid.round_eq {point : Nat} (onGrid : format.OnGrid point) :
    format.round point 1 = point := by
  obtain ⟨significand, normal⟩ := onGrid.exists_isNormal
  obtain ⟨rounded, same, nearest⟩ := format.exists_isNearest_round point one_pos
  rw [Nat.div_one] at same nearest
  have wholeSteps : (point : ℚ) / (1 : Nat) / (2 ^ format.gridExponent point : Nat) =
      (significand : ℤ) := by
    rw [Nat.cast_one, div_one, div_eq_iff (cast_two_pow_pos _).ne']
    exact_mod_cast normal.isPoint
  rw [wholeSteps] at nearest
  have exact : rounded = significand := by exact_mod_cast nearest.eq_of_intCast
  rw [same, exact, ← normal.isPoint]

section Points

variable {point : Nat}

theorem OnGrid.le_round (onGrid : format.OnGrid point) (positive : 0 < denominator)
    (below : (point : ℚ) ≤ numerator / denominator) :
    point ≤ format.round numerator denominator := by
  rw [← div_one (point : ℚ), ← Nat.cast_one] at below
  calc point = format.round point 1 := onGrid.round_eq.symm
    _ ≤ format.round numerator denominator := format.round_le_round one_pos positive below

theorem OnGrid.round_le (onGrid : format.OnGrid point) (positive : 0 < denominator)
    (above : (numerator : ℚ) / denominator ≤ point) :
    format.round numerator denominator ≤ point := by
  rw [← div_one (point : ℚ), ← Nat.cast_one] at above
  calc format.round numerator denominator ≤ format.round point 1 :=
        format.round_le_round positive one_pos above
    _ = point := onGrid.round_eq

/-- No point of the format is nearer to a value than the one it is rounded to. -/
theorem OnGrid.abs_sub_round_le (onGrid : format.OnGrid point) (numerator : Nat)
    (positive : 0 < denominator) :
    |(numerator : ℚ) / denominator - format.round numerator denominator| ≤
      |(numerator : ℚ) / denominator - point| := by
  obtain ⟨significand, same, nearest⟩ :=
    format.exists_isNearest_round numerator positive
  have above := format.two_pow_le_div numerator denominator
  have fine : format.finest ≤ format.gridExponent (numerator / denominator) :=
    Nat.le_max_left _ _
  rw [same]
  generalize format.gridExponent (numerator / denominator) = exponent at nearest above fine ⊢
  generalize (numerator : ℚ) / denominator = value at nearest above ⊢
  have noMultipleNearer (steps : Nat) : |value - (significand * 2 ^ exponent : Nat)| ≤
      |value - (steps * 2 ^ exponent : Nat)| := by
    exact_mod_cast nearest.abs_sub_mul_le (cast_two_pow_pos exponent) steps
  by_cases reached :
      exponent ≤ format.finest ∨ 2 ^ (exponent + format.precision - 1) ≤ point
  · obtain ⟨steps, rfl⟩ := onGrid.exists_multiple reached
    exact noMultipleNearer steps
  · -- the grid begins at a power of two between the point and the value
    rw [not_or, not_le, not_le] at reached
    have precise := format.precision_pos
    have start := above reached.1
    have before : (point : ℚ) ≤ (2 ^ (exponent + format.precision - 1) : Nat) :=
      Nat.cast_le.mpr reached.2.le
    have startNotNearer := noMultipleNearer (2 ^ (format.precision - 1))
    rw [← Nat.pow_add, ← Nat.sub_add_comm precise, Nat.add_comm format.precision] at startNotNearer
    rw [abs_of_nonneg (sub_nonneg.mpr start)] at startNotNearer
    rw [abs_of_nonneg (sub_nonneg.mpr (before.trans start))]
    exact startNotNearer.trans (sub_le_sub_left before value)

end Points

/-- From one power of two to the next one rounding goes to the multiples of a third one. -/
theorem exists_isNearest_round_between (format : Format) (numerator : Nat) {exponent : Nat}
    (fine : format.finest ≤ exponent)
    (positive : 0 < denominator) (above : ((2 ^ exponent : Nat) : ℚ) ≤ numerator / denominator)
    (below : (numerator : ℚ) / denominator ≤ (2 ^ (exponent + 1) : Nat)) :
    ∃ significand : Nat,
      format.round numerator denominator =
          significand * 2 ^ max format.finest (exponent + 1 - format.precision) ∧
        IsNearest ((numerator : ℚ) / denominator /
          (2 ^ max format.finest (exponent + 1 - format.precision) : Nat)) significand := by
  rcases lt_or_eq_of_le below with inside | atEnd
  · have wholeAbove : 2 ^ exponent ≤ numerator / denominator := by
      rw [← not_lt, whole_lt_iff positive, not_lt]
      exact above
    have wholeBelow : numerator / denominator < 2 ^ (exponent + 1) :=
      (whole_lt_iff positive).mpr inside
    have nonzero : numerator / denominator ≠ 0 :=
      Nat.ne_of_gt (Nat.lt_of_lt_of_le (Nat.two_pow_pos exponent) wholeAbove)
    have logarithm : (numerator / denominator).log2 = exponent :=
      (Nat.log2_eq_iff nonzero).mpr ⟨wholeAbove, wholeBelow⟩
    have sameGrid : format.gridExponent (numerator / denominator) =
        max format.finest (exponent + 1 - format.precision) := by
      rw [gridExponent, logarithm]
    rw [← sameGrid]
    exact format.exists_isNearest_round numerator positive
  · -- the end belongs to the format and to the grid below it
    have shiftLe : max format.finest (exponent + 1 - format.precision) ≤ exponent + 1 := by omega
    generalize max format.finest (exponent + 1 - format.precision) = shift at shiftLe ⊢
    obtain ⟨further, sum⟩ := Nat.exists_eq_add_of_le' shiftLe
    have onGrid : format.OnGrid (2 ^ (exponent + 1)) :=
      ⟨1, exponent + 1, Nat.one_lt_two_pow format.precision_pos.ne', by omega, by rw [Nat.one_mul]⟩
    have rounded : format.round numerator denominator = 2 ^ (exponent + 1) :=
      Nat.le_antisymm (onGrid.round_le positive atEnd.le) (onGrid.le_round positive atEnd.ge)
    refine ⟨2 ^ further, by rw [rounded, sum, Nat.pow_add], ?_⟩
    rw [atEnd, sum, Nat.pow_add, Nat.cast_mul, mul_div_cancel_right₀ _ (cast_two_pow_pos shift).ne']
    exact isNearest_intCast (2 ^ further : Nat)

end Format

end CalcShell.Number

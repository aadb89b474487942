import CalcShell.Proofs.Number.DecimalRivals

/-!
# Powers of two in decimal

Below a power of two the numbers of single precision stand twice as close as above it, so that
the nearest decimal value below may be read as another number, and a farther one above it as the
power.  With six to eight digits this happens for three powers only, which comes out when all of
them are gone through.
-/

namespace CalcShell.Number

open Format

/-! ## Rounding near a power of two -/

/-- The logarithm of a number, which is looked for at a power of two and below it first. -/
def log2Near (place value : Nat) : Nat :=
  if 2 ^ place ≤ value ∧ value < 2 ^ (place + 1) then place
  else if 2 ^ (place - 1) ≤ value ∧ value < 2 ^ place then place - 1
  else value.log2

theorem log2_eq_of_between {place value : Nat} (above : 2 ^ place ≤ value)
    (below : value < 2 ^ (place + 1)) : value.log2 = place :=
  have positive : 0 < value := Nat.lt_of_lt_of_le (Nat.two_pow_pos place) above
  (Nat.log2_eq_iff positive.ne').mpr ⟨above, below⟩

theorem log2Near_eq (place value : Nat) : log2Near place value = value.log2 := by
  rw [log2Near]
  split
  · next between => exact (log2_eq_of_between between.1 between.2).symm
  · split
    · next between =>
        have positive : place - 1 + 1 = place := by
          by_contra isZero
          have same : place - 1 = place := by omega
          rw [same] at between
          omega
        rw [← positive, Nat.add_sub_cancel] at between
        exact (log2_eq_of_between between.1 between.2).symm
    · rfl

/-- Rounding as it is computed for values near a power of two. -/
def Format.roundNear (format : Format) (place numerator denominator : Nat) : Nat :=
  let shift := max format.finest (log2Near place (numerator / denominator) + 1 - format.precision)
  roundQuotient numerator (denominator * 2 ^ shift) * 2 ^ shift

theorem Format.roundNear_eq (format : Format) (place numerator denominator : Nat) :
    format.roundNear place numerator denominator = format.round numerator denominator := by
  rw [roundNear, log2Near_eq]
  rfl

def Decimal.singleUnitsNear (place : Nat) (decimal : Decimal) : Nat :=
  single.roundNear place (double.roundNear place
    (decimal.digits * unitsPerOne * 10 ^ decimal.exponent.toNat)
    (10 ^ (-decimal.exponent).toNat)) 1

theorem Decimal.singleUnitsNear_eq (place : Nat) (decimal : Decimal) :
    decimal.singleUnitsNear place = decimal.singleUnits := by
  rw [singleUnitsNear, roundNear_eq, roundNear_eq]
  rfl

/-! ## The first digit -/

/-- The first digit of a number of units stands at an exponent of ten. -/
def LeadsAt (units : Nat) (leading : ℤ) : Prop :=
  10 ^ leading.toNat * unitsPerOne ≤ units * 10 ^ (-leading).toNat ∧
    units * 10 ^ (-(leading + 1)).toNat < 10 ^ (leading + 1).toNat * unitsPerOne

instance (units : Nat) (leading : ℤ) : Decidable (LeadsAt units leading) :=
  inferInstanceAs (Decidable (_ ∧ _))

theorem leadingOfUnits_eq {units : Nat} (positive : 0 < units) {leading : ℤ}
    (leads : LeadsAt units leading) : leadingOfUnits units = leading := by
  obtain ⟨first, next⟩ := leads
  obtain ⟨above, below⟩ := leadingOfUnits_le_unitsValue positive
  have unit := unitsPerOne_cast_pos
  have scale (exponent : ℤ) : (0 : ℚ) < (10 ^ (-exponent).toNat : Nat) :=
    Nat.cast_pos.mpr (Nat.pow_pos (by decide))
  have firstCast : (10 : ℚ) ^ leading ≤ unitsValue units := by
    rw [← ten_pow_div_ten_pow, unitsValue, div_le_div_iff₀ (scale _) unit]
    exact_mod_cast first
  have nextCast : unitsValue units < (10 : ℚ) ^ (leading + 1) := by
    rw [← ten_pow_div_ten_pow, unitsValue, div_lt_div_iff₀ unit (scale _)]
    exact_mod_cast next
  have notBelow := zpow_ten_lt_iff.mp (firstCast.trans_lt below)
  have notAbove := zpow_ten_lt_iff.mp (above.trans_lt nextCast)
  omega

/-- The exponent of ten of the first digit of a power of two, by the decimal logarithm of
two. -/
def leadingOfPower (place : Nat) : ℤ :=
  ((place : ℤ) - unitExponent) * 30103 / 100000

/-- The powers of two that single precision holds, in units. -/
def singlePowers : List Nat :=
  List.range' single.finest (single.ceiling - single.finest)

theorem mem_singlePowers {place : Nat} (held : single.Holds (2 ^ place)) :
    place ∈ singlePowers := by
  obtain ⟨below, significand, shift, _, fine, isPower⟩ := held
  have reached : single.finest ≤ place := by
    by_contra finer
    have smaller : 2 ^ place < 2 ^ shift := Nat.pow_lt_pow_right Nat.one_lt_two (by omega)
    rcases Nat.eq_zero_or_pos significand with rfl | some
    · rw [Nat.zero_mul] at isPower
      exact absurd isPower (Nat.two_pow_pos place).ne'
    · exact absurd (Nat.le_mul_of_pos_left (2 ^ shift) some)
        (Nat.not_le.mpr (isPower.symm.trans_lt smaller))
  have notBeyond : place < single.ceiling := by
    by_contra beyond
    exact absurd below (Nat.not_lt.mpr (Nat.pow_le_pow_right Nat.two_pos (Nat.not_lt.mp beyond)))
  rw [singlePowers, List.mem_range'_1]
  exact ⟨reached, by omega⟩

theorem leadsAt_of_mem_singlePowers :
    ∀ place ∈ singlePowers, LeadsAt (2 ^ place) (leadingOfPower place) := by
  decide +kernel

theorem leadingOfUnits_power {place : Nat} (member : place ∈ singlePowers) :
    leadingOfUnits (2 ^ place) = leadingOfPower place :=
  leadingOfUnits_eq (Nat.two_pow_pos place) (leadsAt_of_mem_singlePowers place member)

/-! ## Going through the powers -/

/-- The number of steps of a decimal grid below a power of two. -/
def stepsBelow (place count : Nat) : Nat :=
  2 ^ place * 10 ^ (-(leadingOfPower place - count + 1)).toNat /
    (unitsPerOne * 10 ^ (leadingOfPower place - count + 1).toNat)

/-- The number of steps of a decimal grid nearest to a power of two. -/
def stepsNearest (place count : Nat) : Nat :=
  roundQuotient (2 ^ place * 10 ^ (-(leadingOfPower place - count + 1)).toNat)
    (unitsPerOne * 10 ^ (leadingOfPower place - count + 1).toNat)

/-- A number of steps of a decimal grid is read as the power of two. -/
def StepsRead (place count steps : Nat) : Prop :=
  Decimal.singleUnitsNear place ⟨steps, leadingOfPower place - count + 1⟩ = 2 ^ place

instance (place count steps : Nat) : Decidable (StepsRead place count steps) :=
  inferInstanceAs (Decidable (_ = _))

/-- The powers of two, in units, with an eight-digit value that is farther away on the one side
than the nearest one is on the other, and is read as the power where that is not. -/
def unevenPowers : List Nat := [978, 1161, 1164]

theorem stepsNearest_read_or : ∀ place ∈ singlePowers, place ∉ unevenPowers →
    ∀ count ∈ [6, 7, 8], StepsRead place count (stepsNearest place count) ∨
      ¬ StepsRead place count (stepsBelow place count) ∧
        ¬ StepsRead place count (stepsBelow place count + 1) := by
  decide +kernel

theorem unevenPowers_read : ∀ place ∈ unevenPowers,
    (∀ count ∈ [6, 7, 8], ¬ StepsRead place count (stepsNearest place count)) ∧
      (∃ steps ∈ [stepsBelow place 8, stepsBelow place 8 + 1],
        steps ≤ 10 ^ 8 ∧ StepsRead place 8 steps) ∧
      8 < (withoutTrailingZeros (digitsOf (stepsNearest place 9))).length := by
  decide +kernel

section Steps

variable {place count : Nat} (member : place ∈ singlePowers)

include member

theorem stepsRead_iff (steps : Nat) : StepsRead place count steps ↔
    (decimalAt (2 ^ place) count steps).singleUnits = 2 ^ place := by
  rw [StepsRead, Decimal.singleUnitsNear_eq, decimalAt, leadingOfUnits_power member]

theorem decimalOfUnits_power :
    decimalOfUnits (2 ^ place) count =
      decimalAt (2 ^ place) count (stepsNearest place count) := by
  rw [decimalAt, stepsNearest, ← leadingOfUnits_power member, decimalOfUnits, DecimalGrid.nearest,
    DecimalGrid.ofUnits]

theorem counted_decimalOfUnits_power :
    (decimalOfUnits (2 ^ place) count).counted =
      withoutTrailingZeros (digitsOf (stepsNearest place count)) := by
  rw [decimalOfUnits_power member, Decimal.counted, decimalAt]

theorem stepsBelow_eq :
    stepsBelow place count = (DecimalGrid.ofUnits (2 ^ place) count).numerator /
      (DecimalGrid.ofUnits (2 ^ place) count).denominator := by
  rw [stepsBelow, ← leadingOfUnits_power member, DecimalGrid.ofUnits]

theorem value_stepsBelow_le :
    (decimalAt (2 ^ place) count (stepsBelow place count)).value ≤
      unitsValue (2 ^ place) := by
  have whole : (stepsBelow place count : ℚ) ≤ _ := (stepsBelow_eq member) ▸ Nat.cast_div_le
  rw [DecimalGrid.cast_quotient, le_div_iff₀ (decimalStep_pos _ _)] at whole
  rwa [value_decimalAt]

theorem le_value_stepsBelow_succ :
    unitsValue (2 ^ place) ≤
      (decimalAt (2 ^ place) count (stepsBelow place count + 1)).value := by
  have whole := div_lt_of_whole_lt (DecimalGrid.denominator_pos (2 ^ place) count)
    (Nat.lt_succ_of_le (stepsBelow_eq member).ge)
  rw [DecimalGrid.cast_quotient, div_lt_iff₀ (decimalStep_pos _ _)] at whole
  rw [value_decimalAt]
  exact whole.le

/-- Unless a power of two is uneven, the nearest decimal value with six to eight digits is read
as it if any one is. -/
theorem singleUnits_decimalOfUnits_of_power (even : place ∉ unevenPowers)
    (tried : count ∈ [6, 7, 8]) {digits : Nat}
    (readsBack : (decimalAt (2 ^ place) count digits).singleUnits = 2 ^ place) :
    (decimalOfUnits (2 ^ place) count).singleUnits = 2 ^ place := by
  have fine : single.finest ≤ place := (List.mem_range'_1.mp member).1
  have onGrid : single.OnGrid (2 ^ place) :=
    ⟨1, place, by decide, fine, (Nat.one_mul _).symm⟩
  have step := decimalStep_pos (2 ^ place) count
  rcases stepsNearest_read_or place member even count tried with nearest | ⟨notBelow, notAbove⟩
  · rw [decimalOfUnits_power member]
    exact (stepsRead_iff member _).mp nearest
  · -- every other value is farther away than one of the two around the power
    exfalso
    rw [stepsRead_iff member] at notBelow notAbove
    rcases le_or_gt digits (stepsBelow place count) with few | many
    · refine notBelow (Decimal.singleUnits_eq_of_le onGrid ?_ (value_stepsBelow_le member)
        readsBack)
      rw [value_decimalAt, value_decimalAt]
      exact mul_le_mul_of_nonneg_right (Nat.cast_le.mpr few) step.le
    · refine notAbove (Decimal.singleUnits_eq_of_ge onGrid ?_ (le_value_stepsBelow_succ member)
        readsBack)
      rw [value_decimalAt, value_decimalAt]
      exact mul_le_mul_of_nonneg_right (Nat.cast_le.mpr many) step.le

end Steps

end CalcShell.Number

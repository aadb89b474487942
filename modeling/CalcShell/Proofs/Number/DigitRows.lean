import CalcShell.Number.DecimalText
import CalcShell.Number.Numeral
import CalcShell.Proofs.Expression.Naming
import Mathlib.Data.List.DropRight

/-!
# Rows of digits

Zeros in front of a row of digits leave its value as it is, and each zero behind it multiplies
the value by ten.  The digits that count are those between the zeros at the two ends.
-/

namespace CalcShell.Number

/-- A row of digits without the zeros at its two ends. -/
def significantOf (digits : List Char) : List Char :=
  withoutTrailingZeros (digits.dropWhile (· == '0'))

/-- The digits of a numeral that count. -/
def Numeral.significant (numeral : Numeral) : List Char :=
  significantOf (numeral.whole ++ numeral.fraction?.getD [])

variable {digits : List Char}

theorem digitsValue_append (left right : List Char) :
    digitsValue (left ++ right) = 10 ^ right.length * digitsValue left + digitsValue right := by
  rw [digitsValue, Nat.ofDigitChars_append, Nat.ofDigitChars_eq_ofDigitChars_zero]
  rfl

theorem digitsValue_zeros (count : Nat) : digitsValue (List.replicate count '0') = 0 := by
  rw [digitsValue, Nat.ofDigitChars_replicate_zero, Nat.mul_zero]

theorem digitsValue_append_zeros (digits : List Char) (count : Nat) :
    digitsValue (digits ++ List.replicate count '0') = 10 ^ count * digitsValue digits := by
  rw [digitsValue_append, digitsValue_zeros, List.length_replicate, Nat.add_zero]

theorem digitsValue_zeros_append (count : Nat) (digits : List Char) :
    digitsValue (List.replicate count '0' ++ digits) = digitsValue digits := by
  rw [digitsValue_append, digitsValue_zeros, Nat.mul_zero, Nat.zero_add]

theorem isDigit_of_mem_digitsOf {value : Nat} {digit : Char} (member : digit ∈ digitsOf value) :
    digit.isDigit = true :=
  Nat.isDigit_of_mem_toDigits (by decide) (by decide) member

theorem length_digitsOf_le_iff {value count : Nat} (positive : 0 < count) :
    (digitsOf value).length ≤ count ↔ value < 10 ^ count :=
  Nat.length_toDigits_le_iff (by decide) positive

/-- The first digit of a positive number stands at the greatest power of ten in it. -/
theorem ten_pow_length_digitsOf {value : Nat} (positive : 0 < value) :
    10 ^ ((digitsOf value).length - 1) ≤ value ∧ value < 10 ^ (digitsOf value).length := by
  have someDigit : 0 < (digitsOf value).length := List.length_pos_of_ne_nil Nat.toDigits_ne_nil
  refine ⟨?_, (length_digitsOf_le_iff someDigit).mp (Nat.le_refl _)⟩
  by_contra below
  rcases Nat.eq_zero_or_pos ((digitsOf value).length - 1) with isZero | several
  · rw [isZero] at below
    exact below positive
  · have shorter := (length_digitsOf_le_iff several).mpr (Nat.lt_of_not_le below)
    omega

theorem digitsValue_digitsOf (value : Nat) : digitsValue (digitsOf value) = value :=
  Nat.ofDigitChars_ten_toDigits

theorem digitsValue_lt (decimal : ∀ digit ∈ digits, digit.isDigit = true) :
    digitsValue digits < 10 ^ digits.length := by
  induction digits with
  | nil => decide
  | cons digit rest inductionHypothesis =>
      have restBelow := inductionHypothesis fun other member =>
        decimal other (List.mem_cons_of_mem digit member)
      have digitBelow : digitsValue [digit] ≤ 9 := by
        have code := Expression.toNat_of_isDigit (decimal digit List.mem_cons_self)
        have zero : '0'.toNat = 48 := rfl
        rw [digitsValue, Nat.ofDigitChars_cons, Nat.ofDigitChars_nil]
        omega
      rw [← List.singleton_append, digitsValue_append, List.length_append, List.length_singleton,
        Nat.add_comm 1]
      have front := Nat.mul_le_mul_left (10 ^ rest.length) digitBelow
      omega

/-! ## Zeros at the end -/

theorem exists_zeros_of_withoutTrailingZeros (digits : List Char) :
    ∃ count, digits = withoutTrailingZeros digits ++ List.replicate count '0' := by
  have zeros : digits.rtakeWhile (· == '0') =
      List.replicate (digits.rtakeWhile (· == '0')).length '0' := by
    rw [List.eq_replicate_iff]
    refine ⟨rfl, fun digit member => ?_⟩
    have isZero : (digit == '0') = true := List.mem_rtakeWhile_imp (p := (· == '0')) member
    exact beq_iff_eq.mp isZero
  refine ⟨(digits.rtakeWhile (· == '0')).length, ?_⟩
  rw [← zeros]
  exact List.rdropWhile_append_rtakeWhile.symm

theorem withoutTrailingZeros_append_zeros (digits : List Char) (count : Nat) :
    withoutTrailingZeros (digits ++ List.replicate count '0') = withoutTrailingZeros digits := by
  induction count with
  | zero => rw [List.replicate_zero, List.append_nil]
  | succ count inductionHypothesis =>
      rw [List.replicate_succ', ← List.append_assoc]
      exact (List.rdropWhile_concat_pos _ _ '0' rfl).trans inductionHypothesis

/-- The digits that count stand between the zeros that do not. -/
theorem exists_zeros_of_significantOf (digits : List Char) :
    ∃ front behind, digits =
      List.replicate front '0' ++ (significantOf digits ++ List.replicate behind '0') := by
  have zeros : digits.takeWhile (· == '0') =
      List.replicate (digits.takeWhile (· == '0')).length '0' := by
    rw [List.eq_replicate_iff]
    refine ⟨rfl, fun digit member => ?_⟩
    have isZero : (digit == '0') = true := List.mem_takeWhile_imp (p := (· == '0')) member
    exact beq_iff_eq.mp isZero
  obtain ⟨behind, split⟩ := exists_zeros_of_withoutTrailingZeros (digits.dropWhile (· == '0'))
  refine ⟨(digits.takeWhile (· == '0')).length, behind, ?_⟩
  rw [significantOf, ← split, ← zeros]
  exact List.takeWhile_append_dropWhile.symm

theorem withoutTrailingZeros_isPrefix (digits : List Char) :
    withoutTrailingZeros digits <+: digits :=
  List.rdropWhile_prefix _ _

theorem digitsOf_mul_ten_pow {value : Nat} (positive : 0 < value) (count : Nat) :
    digitsOf (value * 10 ^ count) = digitsOf value ++ List.replicate count '0' := by
  induction count with
  | zero =>
      rw [List.replicate_zero, List.append_nil]
      exact congrArg digitsOf (Nat.mul_one value)
  | succ count inductionHypothesis =>
      have further : 0 < value * 10 ^ count :=
        Nat.mul_pos positive (Nat.pow_pos (by decide))
      have next : value * 10 ^ (count + 1) = 10 * (value * 10 ^ count) + 0 := by
        rw [Nat.pow_succ, Nat.add_zero, ← Nat.mul_assoc, Nat.mul_comm]
      have appended := Nat.toDigits_append_toDigits (b := 10) (by decide) further
        (by decide : 0 < 10)
      rw [next, digitsOf, ← appended, Nat.toDigits_zero, List.replicate_succ',
        ← List.append_assoc, ← inductionHypothesis]
      rfl

end CalcShell.Number

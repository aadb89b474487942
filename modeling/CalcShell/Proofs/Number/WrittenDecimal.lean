import CalcShell.Proofs.Expression.NumeralSpelling
import CalcShell.Proofs.Number.DigitRows
import CalcShell.Proofs.Number.NearestDecimal

/-!
# Written decimal values

However a positive decimal value is laid out, its text is a numeral of that value with the same
digits that count, and a point or an exponent in it shows that it is no integer.
-/

namespace CalcShell.Number

open Expression

namespace Decimal

variable {decimal : Decimal}

/-- The digits of a decimal value that count. -/
def counted (decimal : Decimal) : List Char :=
  withoutTrailingZeros (digitsOf decimal.digits)

theorem isDigit_of_mem_counted {digit : Char} (member : digit ∈ decimal.counted) :
    digit.isDigit = true :=
  isDigit_of_mem_digitsOf ((withoutTrailingZeros_isPrefix _).subset member)

theorem head_digitsOf_ne_zero {value : Nat} (positive : 0 < value) {first : Char}
    {rest : List Char} (spelled : digitsOf value = first :: rest) : first ≠ '0' := by
  rintro rfl
  have above := (ten_pow_length_digitsOf positive).1
  have below : digitsValue rest < 10 ^ rest.length := digitsValue_lt fun digit member => by
    have inDigits : digit ∈ digitsOf value := by
      rw [spelled]
      exact List.mem_cons_of_mem _ member
    exact isDigit_of_mem_digitsOf inDigits
  have sameValue : digitsValue rest = value := by
    rw [← digitsValue_digitsOf value, spelled]
    exact (digitsValue_zeros_append 1 rest).symm
  rw [spelled, List.length_cons, Nat.add_sub_cancel] at above
  omega

theorem exists_counted (positive : 0 < decimal.digits) :
    ∃ first rest, decimal.counted = first :: rest ∧ first ≠ '0' := by
  obtain ⟨count, spelled⟩ := exists_zeros_of_withoutTrailingZeros (digitsOf decimal.digits)
  rw [← counted] at spelled
  cases written : decimal.counted with
  | nil =>
      -- without a digit that counts the value would be zero
      have isZero := digitsValue_digitsOf decimal.digits
      rw [spelled, written, List.nil_append, digitsValue_zeros] at isZero
      omega
  | cons first rest =>
      rw [written] at spelled
      exact ⟨first, rest, rfl, head_digitsOf_ne_zero positive spelled⟩

theorem significantOf_counted (positive : 0 < decimal.digits) (front behind : Nat) :
    significantOf (List.replicate front '0' ++ (decimal.counted ++ List.replicate behind '0')) =
      decimal.counted := by
  obtain ⟨first, rest, written, nonzero⟩ := exists_counted positive
  have zeros : ∀ digit ∈ List.replicate front '0', (digit == '0') = true := fun digit member =>
    beq_iff_eq.mpr (List.eq_of_mem_replicate member)
  have frontless : (List.replicate front '0' ++
      (decimal.counted ++ List.replicate behind '0')).dropWhile (· == '0') =
        decimal.counted ++ List.replicate behind '0' := by
    rw [List.dropWhile_append_of_pos zeros, written, List.cons_append,
      List.dropWhile_cons_of_neg (by rwa [beq_iff_eq])]
  rw [significantOf, frontless, withoutTrailingZeros_append_zeros]
  exact List.rdropWhile_idempotent _ _

/-- Each digit that counts stands a place behind the one before it. -/
theorem value_eq_counted (decimal : Decimal) :
    decimal.value =
      digitsValue decimal.counted * 10 ^ (decimal.leading + 1 - decimal.counted.length) := by
  obtain ⟨count, spelled⟩ := exists_zeros_of_withoutTrailingZeros (digitsOf decimal.digits)
  rw [← counted] at spelled
  have digits : decimal.digits = digitsValue decimal.counted * 10 ^ count := by
    rw [Nat.mul_comm, ← digitsValue_append_zeros, ← spelled, digitsValue_digitsOf]
  have places : decimal.leading + 1 - decimal.counted.length = count + decimal.exponent := by
    rw [leading, spelled, List.length_append, List.length_replicate]
    omega
  rw [places, ← value_mul_ten_pow, ← digits]

end Decimal

end CalcShell.Number

namespace CalcShell.Expression

open Number

/-- A spelling writes a decimal value with a sign, and not as an integer. -/
structure NumeralSpelling.Writes (spelling : NumeralSpelling) (negative : Bool)
    (decimal : Decimal) : Prop where
  negative : spelling.numeral.negative = negative
  value : spelling.numeral.magnitude.value = decimal.value
  significant : spelling.numeral.significant = decimal.counted
  marked : '.' ∈ spelling.text ∨ 'e' ∈ spelling.text

/-- The sign that is written. -/
def signOf (negative : Bool) : Sign :=
  if negative then .minus else .none

theorem isMinus_signOf (negative : Bool) : (signOf negative).isMinus = negative := by
  cases negative <;> rfl

theorem signedText_eq (negative : Bool) (units : Nat) (write : Nat → List Char) :
    signedText negative units write =
      (signOf negative).text ++ (if units = 0 then ['0', '.', '0'] else write units) := by
  rw [signedText]
  generalize (if units = 0 then ['0', '.', '0'] else write units) = magnitude
  cases negative <;> rfl

/-- A numeral writes a decimal value if the digits that count stand in it at their places, between
zeros that do not count. -/
theorem writes_of_counted {spelling : NumeralSpelling} {decimal : Decimal} {negative : Bool}
    (positive : 0 < decimal.digits) (marked : '.' ∈ spelling.text ∨ 'e' ∈ spelling.text)
    (sign : spelling.sign = signOf negative) (front behind : Nat)
    (digits : spelling.whole ++ spelling.fraction?.getD [] =
      List.replicate front '0' ++ (decimal.counted ++ List.replicate behind '0'))
    (places : spelling.numeral.exponent - (spelling.fraction?.getD []).length + behind =
      decimal.leading + 1 - decimal.counted.length) :
    spelling.Writes negative decimal where
  negative := (congrArg Sign.isMinus sign).trans (isMinus_signOf negative)
  value := by
    have front := digitsValue_zeros_append front (decimal.counted ++ List.replicate behind '0')
    rw [digitsValue_append_zeros, ← digits] at front
    rw [decimal.value_eq_counted, ← places, add_comm, ← Decimal.value_mul_ten_pow, Nat.mul_comm,
      ← front]
    rfl
  significant := (congrArg significantOf digits).trans
    (Decimal.significantOf_counted positive front behind)
  marked := marked

/-- An exponent is written with its sign and two digits at least. -/
theorem exists_exponentText (exponent : ℤ) :
    ∃ spelling : ExponentSpelling,
      spelling.text = exponentText exponent ∧ spelling.value = exponent := by
  have areDigits : ∀ digit ∈ digitsOf exponent.natAbs, digit.isDigit = true :=
    fun _ => isDigit_of_mem_digitsOf
  obtain ⟨digits, padded, nonempty, decimal, value⟩ : ∃ digits,
      digits = (if (digitsOf exponent.natAbs).length < 2 then '0' :: digitsOf exponent.natAbs
        else digitsOf exponent.natAbs) ∧
      digits ≠ [] ∧ (∀ digit ∈ digits, digit.isDigit = true) ∧
      digitsValue digits = exponent.natAbs := by
    refine ⟨_, rfl, ?_⟩
    split
    · refine ⟨List.cons_ne_nil _ _, ?_, ?_⟩
      · rw [List.forall_mem_cons]
        exact ⟨by decide, areDigits⟩
      · exact (digitsValue_zeros_append 1 _).trans (digitsValue_digitsOf _)
    · exact ⟨Nat.toDigits_ne_nil, areDigits, digitsValue_digitsOf _⟩
  refine ⟨⟨'e', if exponent < 0 then .minus else .plus, digits, Or.inl rfl, nonempty, decimal⟩,
    ?_, ?_⟩
  · simp only [ExponentSpelling.text, exponentText, ← padded]
    split <;> rfl
  · simp only [ExponentSpelling.value, value, signedInt]
    split
    · simp only [Sign.isMinus, if_true]
      omega
    · simp only [Sign.isMinus, Bool.false_eq_true, if_false]
      omega

section Layouts

variable {decimal : Decimal} (positive : 0 < decimal.digits) (negative : Bool)

/-- The numeral with these digits before the point and behind it. -/
def pointSpelling (negative : Bool) (whole fraction : List Char) (nonempty : whole ≠ [])
    (decimal : ∀ digit ∈ whole ++ fraction, digit.isDigit = true) : NumeralSpelling :=
  ⟨signOf negative, whole, some fraction, none, fun both => nonempty both.1, decimal⟩

theorem text_pointSpelling {whole fraction : List Char} (nonempty : whole ≠ [])
    (decimal : ∀ digit ∈ whole ++ fraction, digit.isDigit = true) :
    (pointSpelling negative whole fraction nonempty decimal).text =
      (signOf negative).text ++ (whole ++ '.' :: fraction) := by
  rw [NumeralSpelling.text, NumeralSpelling.pointText, NumeralSpelling.exponentText, pointSpelling,
    Option.map_some, Option.getD_some, Option.map_none, Option.getD_none, List.append_nil]

include positive

/-- A numeral with a point and no exponent writes a decimal value if its digits are those that
count between zeros, and stand at the right distance from the point. -/
theorem exists_writes_point {whole fraction : List Char} (nonempty : whole ≠ [])
    (front behind : Nat)
    (digits : whole ++ fraction =
      List.replicate front '0' ++ (decimal.counted ++ List.replicate behind '0'))
    (places : (behind : ℤ) - fraction.length = decimal.leading + 1 - decimal.counted.length) :
    ∃ spelling : NumeralSpelling, spelling.Writes negative decimal ∧
      spelling.text = (signOf negative).text ++ (whole ++ '.' :: fraction) := by
  have areDigits : ∀ digit ∈ whole ++ fraction, digit.isDigit = true := by
    rw [digits]
    simp only [List.mem_append]
    rintro digit (zero | counted | zero)
    · rw [List.eq_of_mem_replicate zero]
      decide
    · exact Decimal.isDigit_of_mem_counted counted
    · rw [List.eq_of_mem_replicate zero]
      decide
  have text := text_pointSpelling negative nonempty areDigits
  refine ⟨pointSpelling negative whole fraction nonempty areDigits, ?_, text⟩
  refine writes_of_counted positive (Or.inl ?_) rfl front behind digits ?_
  · rw [text]
    simp
  · have unscaled : (0 : ℤ) - fraction.length + behind = behind - fraction.length := by omega
    rw [← places, ← unscaled]
    rfl

theorem exists_writes_positionalText :
    ∃ spelling : NumeralSpelling, spelling.Writes negative decimal ∧
      spelling.text = (signOf negative).text ++ positionalText decimal.counted decimal.leading := by
  rw [positionalText]
  split
  · next small =>
      -- behind the point zeros lead to the first digit
      rw [List.cons_append, List.cons_append]
      refine exists_writes_point positive negative (List.cons_ne_nil '0' [])
        ((-decimal.leading - 1).toNat + 1) 0 ?_ ?_
      · rw [List.replicate_succ, List.replicate_zero, List.append_nil, List.singleton_append,
          List.cons_append]
      · rw [List.length_append, List.length_replicate]
        omega
  · next notSmall =>
      have someDigit : 0 < decimal.counted.length := by
        obtain ⟨first, rest, written, _⟩ := Decimal.exists_counted positive
        rw [written]
        exact Nat.succ_pos _
      have nonempty : decimal.counted.take (decimal.leading.toNat + 1) ++ List.replicate
          (decimal.leading.toNat + 1 - decimal.counted.length) '0' ≠ [] := by
        rw [← List.length_pos_iff, List.length_append, List.length_take]
        omega
      by_cases short : decimal.counted.length ≤ decimal.leading.toNat + 1
      · -- zeros lead to the point, and one follows it
        simp only [List.drop_eq_nil_of_le short, if_true]
        refine exists_writes_point positive negative nonempty 0
          (decimal.leading.toNat + 1 - decimal.counted.length + 1) ?_ ?_
        · rw [List.take_of_length_le short, List.replicate_succ', List.replicate_zero,
            List.nil_append, List.append_assoc]
        · rw [List.length_singleton]
          omega
      · -- the point stands among the digits
        have some : decimal.counted.drop (decimal.leading.toNat + 1) ≠ [] := by
          rw [← List.length_pos_iff, List.length_drop]
          omega
        simp only [some, if_false]
        refine exists_writes_point positive negative nonempty 0 0 ?_ ?_
        · rw [Nat.sub_eq_zero_of_le (Nat.le_of_not_le short), List.replicate_zero,
            List.append_nil, List.take_append_drop, List.append_nil, List.nil_append]
        · rw [List.length_drop]
          omega

/-- A numeral with an exponent writes a decimal value if the exponent is that of its first digit,
which is followed by the other digits that count. -/
theorem exists_writes_scientificText :
    ∃ spelling : NumeralSpelling, spelling.Writes negative decimal ∧
      spelling.text =
        (signOf negative).text ++ scientificText decimal.counted decimal.leading := by
  obtain ⟨first, rest, written, _⟩ := Decimal.exists_counted positive
  obtain ⟨exponent, exponentWritten, exponentValue⟩ := exists_exponentText decimal.leading
  have areDigits : ∀ digit ∈ first :: rest, digit.isDigit = true := by
    rw [← written]
    exact fun digit => Decimal.isDigit_of_mem_counted
  have marked {spelling : NumeralSpelling} (scaled : spelling.exponent? = some exponent) :
      'e' ∈ spelling.text := by
    rw [NumeralSpelling.text, NumeralSpelling.exponentText, scaled, Option.map_some,
      Option.getD_some, exponentWritten, exponentText]
    simp
  rw [written, scientificText]
  by_cases single : rest = []
  · subst single
    let spelling : NumeralSpelling :=
      ⟨signOf negative, [first], none, some exponent, by simp, areDigits⟩
    refine ⟨spelling, writes_of_counted positive (Or.inr (marked rfl)) rfl 0 0 ?_ ?_, ?_⟩
    · rw [written]
      rfl
    · rw [written, ← exponentValue]
      simp [spelling, NumeralSpelling.numeral]
    · rw [← exponentWritten]
      simp [spelling, NumeralSpelling.text, NumeralSpelling.pointText,
        NumeralSpelling.exponentText]
  · let spelling : NumeralSpelling :=
      ⟨signOf negative, [first], some rest, some exponent, by simp, areDigits⟩
    refine ⟨spelling, writes_of_counted positive (Or.inr (marked rfl)) rfl 0 0 ?_ ?_, ?_⟩
    · rw [written]
      simp [spelling]
    · rw [written, ← exponentValue]
      simp [spelling, NumeralSpelling.numeral]
    · rw [← exponentWritten]
      simp [spelling, single, NumeralSpelling.text, NumeralSpelling.pointText,
        NumeralSpelling.exponentText]

/-- A positive decimal value is written as a numeral of that value, in whichever layout. -/
theorem exists_writes_decimalText (positionalBelow : ℤ) :
    ∃ spelling : NumeralSpelling, spelling.Writes negative decimal ∧
      spelling.text = (signOf negative).text ++ decimalText positionalBelow decimal := by
  rw [decimalText]
  split
  · exact exists_writes_positionalText positive negative
  · exact exists_writes_scientificText positive negative

end Layouts

end CalcShell.Expression

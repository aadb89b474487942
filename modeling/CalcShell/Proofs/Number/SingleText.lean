import CalcShell.Host.Text
import CalcShell.Proofs.Number.WrittenDecimal

/-!
# The text of a number of single precision

Of six to nine digits the fewest are written that are read back as the same number; nine always
are.  A point or an exponent tells the text from that of an integer.
-/

namespace CalcShell.Number

open Format Expression

theorem ten_pow_le_digits_decimalOfUnits {units : Nat} (positive : 0 < units) (count : Nat) :
    10 ^ count ≤ (decimalOfUnits units (count + 1)).digits := by
  have first := (leadingOfUnits_le_unitsValue positive).1
  rw [← decimalStep_succ_mul, mul_comm, ← le_div_iff₀ (decimalStep_pos _ _)] at first
  exact_mod_cast (isNearest_intCast (10 ^ count : Nat)).le_of_le
    (isNearest_decimalOfUnits units (count + 1)) (by exact_mod_cast first)

namespace Double

theorem equals_comm (left right : Double) : left.equals right = right.equals left := by
  rw [equals, equals]
  cases left.quantity? <;> cases right.quantity? <;> try rfl
  exact Bool.beq_comm

theorem finite_equals_self (negative : Bool) {units : Nat} (held : Format.double.Holds units) :
    (finite negative units held).equals (finite negative units held) = true :=
  beq_self_eq_true _

/-- What single precision holds is kept when it is rounded to single precision. -/
theorem toSingle_of_holds (negative : Bool) {units : Nat} (held : Format.single.Holds units) :
    (finite negative units held.double).toSingle = finite negative units held.double :=
  nearest_of_round_eq held.2.round_eq held

end Double

/-- The count is the first one tried with which a positive number of units reads back. -/
structure ReadsBackFirst (units count : Nat) : Prop where
  tried : count ∈ singleDigitCounts
  readsBack : (decimalOfUnits units count).singleUnits = units
  first : ∀ fewer ∈ singleDigitCounts, fewer < count →
    (decimalOfUnits units fewer).singleUnits ≠ units

theorem ReadsBackFirst.between {units count : Nat} (first : ReadsBackFirst units count) :
    6 ≤ count ∧ count ≤ 9 := by
  have tried := first.tried
  simp only [singleDigitCounts, List.mem_cons, List.not_mem_nil, or_false] at tried
  omega

variable {units : Nat} (negative : Bool) (held : Format.single.Holds units)

theorem equals_roundedDouble_iff (positive : 0 < units) (count : Nat) :
    (Double.finite negative units held.double).equals
        (roundedDouble negative count units).toSingle = true ↔
      (decimalOfUnits units count).singleUnits = units := by
  rw [roundedDouble, if_neg positive.ne', Double.equals_comm]
  constructor
  · intro same
    exact (Decimal.singleUnits_eq_of_equals held.double positive same).2
  · intro readsBack
    rw [Decimal.toSingle_toDouble_of_singleUnits_eq held readsBack]
    exact Double.finite_equals_self negative held.double

theorem singleText_of_find? {count : Nat}
    (found : singleDigitCounts.find? (fun count => (Double.finite negative units held.double).equals
      (roundedDouble negative count units).toSingle) = some count) :
    singleText (.finite negative units held.double) =
      signedText negative units (roundedText count) := by
  rw [singleText, singleText?, found, Option.map_some, Option.getD_some]

theorem exists_readsBackFirst (positive : 0 < units) :
    ∃ count, ReadsBackFirst units count ∧
      singleText (.finite negative units held.double) =
        (signOf negative).text ++ decimalText count (decimalOfUnits units count) := by
  let isSame (count : Nat) : Bool := (Double.finite negative units held.double).equals
    (roundedDouble negative count units).toSingle
  have isSame_iff (count : Nat) :
      isSame count = true ↔ (decimalOfUnits units count).singleUnits = units :=
    equals_roundedDouble_iff negative held positive count
  have nine : isSame 9 = true :=
    (isSame_iff 9).mpr (singleUnits_decimalOfUnits_nine held.2 positive)
  cases found : singleDigitCounts.find? isSame with
  | none => exact absurd nine (List.find?_eq_none.mp found 9 (by decide))
  | some count =>
      obtain ⟨isSameCount, before, after, split, notBefore⟩ :=
        List.find?_eq_some_iff_append.mp found
      have ascending : singleDigitCounts.Pairwise (· < ·) := by decide
      rw [split, List.pairwise_append] at ascending
      have laterAscend := List.pairwise_cons.mp ascending.2.1
      refine ⟨count, ⟨?_, (isSame_iff count).mp isSameCount, ?_⟩, ?_⟩
      · rw [split]
        exact List.mem_append_right before List.mem_cons_self
      · intro fewer tried less readsBack
        rw [split, List.mem_append, List.mem_cons] at tried
        rcases tried with early | rfl | late
        · have notSame := notBefore fewer early
          rw [(isSame_iff fewer).mpr readsBack] at notSame
          cases notSame
        · exact Nat.lt_irrefl fewer less
        · exact Nat.lt_asymm less (laterAscend.1 fewer late)
      · rw [singleText_of_find? negative held found, signedText_eq, if_neg positive.ne',
          roundedText]

/-- The text of a positive number of units is a numeral for the decimal value that reads back
first. -/
theorem exists_writes_singleText (positive : 0 < units) :
    ∃ count, ReadsBackFirst units count ∧ ∃ spelling : NumeralSpelling,
      spelling.Writes negative (decimalOfUnits units count) ∧
        spelling.text = singleText (.finite negative units held.double) := by
  obtain ⟨count, first, text⟩ := exists_readsBackFirst negative held positive
  have between := first.between
  obtain ⟨places, rfl⟩ := Nat.exists_eq_succ_of_ne_zero (by omega : count ≠ 0)
  have digits := ten_pow_le_digits_decimalOfUnits positive places
  obtain ⟨spelling, writes, written⟩ := exists_writes_decimalText
    (Nat.lt_of_lt_of_le (Nat.pow_pos (by decide)) digits) negative (places + 1 : Nat)
  exact ⟨places + 1, first, spelling, writes, by rw [written, text]⟩

/-- The text of every number of single precision is a numeral that is read back as the number,
and not that of an integer. -/
theorem exists_spelling_singleText :
    ∃ spelling : NumeralSpelling,
      spelling.text = singleText (.finite negative units held.double) ∧
        spelling.numeral.toDouble.toSingle = .finite negative units held.double ∧
        ('.' ∈ spelling.text ∨ 'e' ∈ spelling.text) := by
  rcases Nat.eq_zero_or_pos units with rfl | positive
  · have kept : (Double.zero negative).toSingle = .finite negative 0 held.double :=
      Double.toSingle_of_holds negative held
    have six : singleDigitCounts.find? (fun count =>
        (Double.finite negative 0 held.double).equals (roundedDouble negative count 0).toSingle) =
          some 6 := by
      refine List.find?_cons_of_pos ?_
      rw [roundedDouble, if_pos rfl, kept]
      exact Double.finite_equals_self negative held.double
    refine ⟨pointSpelling negative ['0'] ['0'] (by simp) (by simp), ?_, ?_, ?_⟩
    · rw [text_pointSpelling, singleText_of_find? negative held six, signedText_eq, if_pos rfl]
      rfl
    · rw [Numeral.toDouble, Decimal.toDouble_of_digits_eq_zero _ rfl]
      exact (congrArg (fun sign => (Double.zero sign).toSingle)
        (isMinus_signOf negative)).trans kept
    · left
      rw [text_pointSpelling]
      simp
  · obtain ⟨count, first, spelling, writes, text⟩ := exists_writes_singleText negative held positive
    refine ⟨spelling, text, ?_, writes.marked⟩
    rw [Numeral.toDouble, writes.negative, Decimal.toDouble_congr negative writes.value]
    exact Decimal.toSingle_toDouble_of_singleUnits_eq held first.readsBack

/-- Every number of single precision is written as a text that is read back as the number, the sign
of zero included, and that no integer is written as. -/
theorem singleString_readsBack :
    ∃ text : List Char,
      (Host.float (.finite negative units held.double)).singleString =
          .ok (String.ofList text) ∧
        (∃ read, readDouble? (String.ofList text) = some read ∧
          read.toSingle = .finite negative units held.double) ∧
        ('.' ∈ text ∨ 'e' ∈ text) ∧
        ∀ digits : List Char, (∀ digit ∈ digits, digit.isDigit = true) →
          text ≠ digits ∧ text ≠ '-' :: digits := by
  obtain ⟨spelling, written, readsBack, marked⟩ := exists_spelling_singleText negative held
  refine ⟨spelling.text, by rw [written, Host.singleString], ?_, marked, ?_⟩
  · exact ⟨_, readDouble?_of_scan spelling.scan_text, readsBack⟩
  · intro digits areDigits
    have noMark (char : Char) (notDigit : char.isDigit = false) : char ∉ digits := by
      intro member
      rw [areDigits char member] at notDigit
      cases notDigit
    constructor
    · intro bare
      rw [bare] at marked
      exact marked.elim (noMark '.' rfl) (noMark 'e' rfl)
    · intro bare
      rw [bare, List.mem_cons, List.mem_cons, or_iff_right (by decide : '.' ≠ '-'),
        or_iff_right (by decide : 'e' ≠ '-')] at marked
      exact marked.elim (noMark '.' rfl) (noMark 'e' rfl)

/-- The number of single precision nearest to a tenth. -/
def tenthUnits : Nat := 13421773 * 2 ^ 1047

theorem tenthUnits_held : single.Holds tenthUnits :=
  ⟨by decide +kernel, 13421773, 1047, by decide, by decide, by rw [tenthUnits]⟩

theorem singleString_readsBack_tenth :
    ∃ text : List Char,
      (Host.float (.finite true tenthUnits tenthUnits_held.double)).singleString =
          .ok (String.ofList text) ∧
        (∃ read, readDouble? (String.ofList text) = some read ∧
          read.toSingle = .finite true tenthUnits tenthUnits_held.double) ∧
        ('.' ∈ text ∨ 'e' ∈ text) :=
  let ⟨text, written, readsBack, marked, _⟩ := singleString_readsBack true tenthUnits_held
  ⟨text, written, readsBack, marked⟩

end CalcShell.Number

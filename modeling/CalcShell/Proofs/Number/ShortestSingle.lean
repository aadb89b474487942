import CalcShell.Proofs.Number.PowersOfTwo

/-!
# The shortest text of a number of single precision

The text of a number of single precision is looked for from six digits on.  No numeral with six
digits or more that is read back as the number is shorter, three powers of two apart.  Numerals
with fewer digits are found by leaving out the zeros at the end, unless the number is so small
that several decimal values with six digits are read as it.
-/

namespace CalcShell.Number

open Format Expression

/-- A text is a numeral that is read back as a number of single precision. -/
structure ReadsBackAs (value : Double) (text : List Char) (numeral : Numeral) : Prop where
  scanned : Numeral.scan text = some (numeral, [])
  readsBack : ∃ read, readDouble? (String.ofList text) = some read ∧
    read.toSingle.equals value = true

/-- A text is a numeral, and among the numerals that are read back as a number none with fewer
digits that count has at least the given number of them. -/
def IsShortest (least : Nat) (value : Double) (text : List Char) : Prop :=
  ∃ own, Numeral.scan text = some (own, []) ∧
    ∀ other numeral, ReadsBackAs value other numeral →
      own.significant.length ≤ max least numeral.significant.length

/-- A number of units is one of the uneven powers of two. -/
def IsUneven (units : Nat) : Prop :=
  ∃ place ∈ unevenPowers, units = 2 ^ place

theorem mem_six_to_eight {count : Nat} (least : 6 ≤ count) (most : count ≤ 8) :
    count ∈ [6, 7, 8] := by
  simp only [List.mem_cons, List.not_mem_nil, or_false]
  omega

/-! ## Digits that count -/

theorem length_withoutTrailingZeros_le {value count : Nat} (several : 0 < count)
    (bound : value ≤ 10 ^ count) :
    (withoutTrailingZeros (digitsOf value)).length ≤ count := by
  rcases Nat.lt_or_eq_of_le bound with below | rfl
  · exact (withoutTrailingZeros_isPrefix _).length_le.trans
      ((length_digitsOf_le_iff several).mpr below)
  · rw [← Nat.one_mul (10 ^ count), digitsOf_mul_ten_pow one_pos,
      withoutTrailingZeros_append_zeros]
    exact several

theorem digits_decimalOfUnits_le {units : Nat} (positive : 0 < units) (count : Nat) :
    (decimalOfUnits units count).digits ≤ 10 ^ count := by
  have below := (leadingOfUnits_le_unitsValue positive).2
  rw [← ten_pow_mul_decimalStep units count, ← div_lt_iff₀ (decimalStep_pos _ _)] at below
  exact_mod_cast (isNearest_decimalOfUnits units count).le_of_le
    (isNearest_intCast (10 ^ count : Nat)) (by exact_mod_cast below.le)

theorem Numeral.exists_value_eq (numeral : Numeral) :
    ∃ exponent : ℤ, numeral.magnitude.value = digitsValue numeral.significant * 10 ^ exponent := by
  obtain ⟨front, behind, split⟩ :=
    exists_zeros_of_significantOf (numeral.whole ++ numeral.fraction?.getD [])
  have digits : numeral.magnitude.digits = digitsValue numeral.significant * 10 ^ behind := by
    rw [Nat.mul_comm, significant, ← digitsValue_append_zeros, ← digitsValue_zeros_append front,
      ← split]
    rfl
  refine ⟨behind + numeral.magnitude.exponent, ?_⟩
  rw [← Decimal.value_mul_ten_pow, ← digits]

theorem digitsValue_significant_lt {text : List Char} {numeral : Numeral}
    (scanned : Numeral.scan text = some (numeral, [])) :
    digitsValue numeral.significant < 10 ^ numeral.significant.length := by
  obtain ⟨spelling, _, rfl⟩ := exists_numeralSpelling_of_scan scanned
  refine digitsValue_lt fun digit member => spelling.decimal digit ?_
  exact (List.dropWhile_suffix _).subset ((withoutTrailingZeros_isPrefix _).subset member)

variable {units : Nat} {negative : Bool}

theorem ReadsBackFirst.length_counted_le (positive : 0 < units) {count : Nat}
    (first : ReadsBackFirst units count) :
    (decimalOfUnits units count).counted.length ≤ count := by
  have several : 0 < count := Nat.lt_of_lt_of_le (by decide) first.between.1
  exact length_withoutTrailingZeros_le several (digits_decimalOfUnits_le positive count)

section Rivals

variable (held : single.Holds units) (positive : 0 < units)

include held positive

/-- A numeral that is read back stands for a decimal value on the grid of the number with as many
digits as count in the numeral. -/
theorem ReadsBackAs.exists_decimalAt {text : List Char} {numeral : Numeral}
    (rival : ReadsBackAs (.finite negative units held.double) text numeral) :
    0 < numeral.significant.length ∧ ∃ steps ≤ 10 ^ numeral.significant.length,
      (decimalAt units numeral.significant.length steps).singleUnits = units := by
  obtain ⟨read, reading, same⟩ := rival.readsBack
  rw [readDouble?_of_scan rival.scanned, Option.some.injEq] at reading
  rw [← reading, Numeral.toDouble] at same
  have readsBack := (Decimal.singleUnits_eq_of_equals held.double positive same).2
  obtain ⟨exponent, value⟩ := numeral.exists_value_eq
  exact Number.exists_decimalAt held.2 positive (digitsValue_significant_lt rival.scanned) value
    readsBack

/-- Every positive decimal value that is read back is the value of a numeral with the digits of
it that count. -/
theorem exists_readsBackAs (negative : Bool) {decimal : Decimal}
    (readsBack : decimal.singleUnits = units) :
    ∃ text numeral, ReadsBackAs (.finite negative units held.double) text numeral ∧
      numeral.significant = decimal.counted := by
  have digits := Decimal.digits_pos_of_singleUnits (readsBack.symm ▸ positive)
  obtain ⟨spelling, writes, _⟩ := exists_writes_decimalText digits negative 0
  refine ⟨spelling.text, spelling.numeral, ⟨spelling.scan_text, _,
    readDouble?_of_scan spelling.scan_text, ?_⟩, writes.significant⟩
  rw [Numeral.toDouble, writes.negative, Decimal.toDouble_congr negative writes.value,
    Decimal.toSingle_toDouble_of_singleUnits_eq held readsBack]
  exact Double.finite_equals_self negative held.double

/-- The nearest decimal value is read back where any one with as many digits is. -/
theorem singleUnits_decimalOfUnits (even : ¬ IsUneven units) {count digits : Nat}
    (tried : count ∈ [6, 7, 8]) (readsBack : (decimalAt units count digits).singleUnits = units) :
    (decimalOfUnits units count).singleUnits = units := by
  by_cases power : ∃ place, units = 2 ^ place
  · obtain ⟨place, rfl⟩ := power
    exact singleUnits_decimalOfUnits_of_power (mem_singlePowers held)
      (fun uneven => even ⟨place, uneven, rfl⟩) tried readsBack
  · exact singleUnits_decimalOfUnits_of_not_power held.2 positive (not_exists.mp power) readsBack

/-- The count of digits that is found first is not greater than six or any other one with which
a decimal value is read back. -/
theorem ReadsBackFirst.le_max (even : ¬ IsUneven units) {count otherCount digits : Nat}
    (first : ReadsBackFirst units count)
    (readsBack : (decimalAt units otherCount digits).singleUnits = units) :
    count ≤ max 6 otherCount := by
  by_contra fewer
  have most := first.between.2
  have triedBefore : max 6 otherCount ∈ [6, 7, 8] := mem_six_to_eight (by omega) (by omega)
  obtain ⟨further, refined⟩ := Nat.exists_eq_add_of_le (Nat.le_max_right 6 otherCount)
  have finer := Decimal.singleUnits_congr
    (value_decimalAt_add units otherCount further digits)
  rw [← refined, readsBack] at finer
  refine first.first _ ?_ (Nat.not_le.mp fewer)
    (singleUnits_decimalOfUnits held positive even triedBefore finer)
  exact List.mem_append_left [9] triedBefore

/-- Where only one value with six digits is read as the number, values with fewer digits are
found by leaving out its zeros. -/
theorem length_counted_six_le (large : unitsPerOne ≤ units * 10 ^ coarseFrom)
    {count digits : Nat} (few : count ≤ 6) (several : 0 < count) (bound : digits ≤ 10 ^ count)
    (readsBack : (decimalAt units count digits).singleUnits = units)
    (sixReadsBack : (decimalOfUnits units 6).singleUnits = units) :
    (decimalOfUnits units 6).counted.length ≤ count := by
  obtain ⟨further, six⟩ := Nat.exists_eq_add_of_le few
  have refined := Decimal.singleUnits_congr (value_decimalAt_add units count further digits)
  rw [← six, readsBack] at refined
  rw [decimalOfUnits_eq_decimalAt] at sixReadsBack
  have same : (decimalOfUnits units 6).digits = digits * 10 ^ further :=
    decimalAt_six_unique held.2 positive large sixReadsBack refined
  have digitsPositive : 0 < digits :=
    Decimal.digits_pos_of_singleUnits (readsBack.symm ▸ positive)
  rw [Decimal.counted, same, digitsOf_mul_ten_pow digitsPositive, withoutTrailingZeros_append_zeros]
  exact length_withoutTrailingZeros_le several bound

/-- The digits of the value that reads back first are as few as those of any other numeral that is
read back, if six digits are allowed or the number is not too small. -/
theorem ReadsBackFirst.length_counted_le_max (even : ¬ IsUneven units) {count least : Nat}
    (first : ReadsBackFirst units count)
    (allowed : 6 ≤ least ∨ unitsPerOne ≤ units * 10 ^ coarseFrom) {text : List Char}
    {numeral : Numeral}
    (rival : ReadsBackAs (.finite negative units held.double) text numeral) :
    (decimalOfUnits units count).counted.length ≤ max least numeral.significant.length := by
  obtain ⟨several, steps, bound, readsBack⟩ := rival.exists_decimalAt held positive
  have counted := first.length_counted_le positive
  have least := first.le_max held positive even readsBack
  rcases allowed with sixAllowed | large
  · omega
  · rcases le_or_gt 6 numeral.significant.length with many | few
    · omega
    · have between := first.between
      obtain rfl : count = 6 := by omega
      have fewer := length_counted_six_le held positive large few.le several bound readsBack
        first.readsBack
      omega

theorem isShortest_singleText (even : ¬ IsUneven units) {least : Nat}
    (allowed : 6 ≤ least ∨ unitsPerOne ≤ units * 10 ^ coarseFrom) :
    IsShortest least (.finite negative units held.double)
      (singleText (.finite negative units held.double)) := by
  obtain ⟨count, first, spelling, writes, text⟩ := exists_writes_singleText negative held positive
  refine ⟨spelling.numeral, by rw [← text, spelling.scan_text], fun other numeral rival => ?_⟩
  rw [writes.significant]
  exact first.length_counted_le_max held positive even allowed rival

/-- A text is not the shortest if a value with fewer digits is read back. -/
theorem not_isShortest_singleText {least : Nat} {rival : Decimal}
    (readsBack : rival.singleUnits = units)
    (longer : ∀ count, ReadsBackFirst units count →
      max least rival.counted.length < (decimalOfUnits units count).counted.length) :
    ¬ IsShortest least (.finite negative units held.double)
      (singleText (.finite negative units held.double)) := by
  rintro ⟨own, scanned, shortest⟩
  obtain ⟨count, first, spelling, writes, text⟩ := exists_writes_singleText negative held positive
  obtain ⟨other, numeral, reading, significant⟩ :=
    exists_readsBackAs held positive negative readsBack
  rw [← text, spelling.scan_text, Option.some.injEq, Prod.mk.injEq] at scanned
  have bound := shortest other numeral reading
  rw [← scanned.1, writes.significant, significant] at bound
  exact absurd (longer count first) (Nat.not_lt.mpr bound)

end Rivals

/-- An uneven power of two is written with nine digits, and eight are enough. -/
theorem not_isShortest_of_isUneven (held : single.Holds units) (uneven : IsUneven units)
    {least : Nat} (allowed : least ≤ 8) :
    ¬ IsShortest least (.finite negative units held.double)
      (singleText (.finite negative units held.double)) := by
  obtain ⟨place, member, rfl⟩ := uneven
  obtain ⟨notNearest, ⟨steps, _, bound, rivalRead⟩, nineCount⟩ := unevenPowers_read place member
  have power := mem_singlePowers held
  refine not_isShortest_singleText held (Nat.two_pow_pos place)
    ((stepsRead_iff power steps).mp rivalRead) ?_
  intro count first
  obtain rfl : count = 9 := by
    have between := first.between
    have readsBack := first.readsBack
    rw [decimalOfUnits_power power, ← stepsRead_iff power] at readsBack
    by_contra notNine
    exact notNearest count (mem_six_to_eight (by omega) (by omega)) readsBack
  have rivalCount : (decimalAt (2 ^ place) 8 steps).counted.length ≤ 8 :=
    length_withoutTrailingZeros_le (by decide) bound
  rw [counted_decimalOfUnits_power power]
  omega

/-- The text of a number of single precision has the fewest digits of all numerals with six or
more of them that are read back as the number, and of all numerals if the number is not too
small, unless it is an uneven power of two. -/
theorem singleString_isShortest_iff (negative : Bool) (held : single.Holds units)
    (positive : 0 < units) :
    ∃ text : List Char,
      (Host.float (.finite negative units held.double)).singleString =
          .ok (String.ofList text) ∧
        (IsShortest 6 (.finite negative units held.double) text ↔ ¬ IsUneven units) ∧
        (unitsPerOne ≤ units * 10 ^ coarseFrom →
          (IsShortest 0 (.finite negative units held.double) text ↔ ¬ IsUneven units)) := by
  refine ⟨singleText (.finite negative units held.double), by rw [Host.singleString], ?_, ?_⟩
  · exact ⟨fun shortest uneven =>
        not_isShortest_of_isUneven held uneven (by decide) shortest,
      fun even => isShortest_singleText held positive even (Or.inl (Nat.le_refl 6))⟩
  · intro large
    exact ⟨fun shortest uneven =>
        not_isShortest_of_isUneven held uneven (Nat.zero_le 8) shortest,
      fun even => isShortest_singleText held positive even (Or.inr large)⟩

theorem singleString_isShortest_iff_tenth :
    0 < tenthUnits ∧ unitsPerOne ≤ tenthUnits * 10 ^ coarseFrom ∧ ∃ text : List Char,
      (Host.float (.finite false tenthUnits tenthUnits_held.double)).singleString =
          .ok (String.ofList text) ∧
        IsShortest 0 (.finite false tenthUnits tenthUnits_held.double) text := by
  have positive : 0 < tenthUnits := by decide +kernel
  have large : unitsPerOne ≤ tenthUnits * 10 ^ coarseFrom := by decide +kernel
  have even : ¬ IsUneven tenthUnits := by
    have apart : ∀ place ∈ unevenPowers, tenthUnits ≠ 2 ^ place := by decide +kernel
    rintro ⟨place, member, same⟩
    exact apart place member same
  obtain ⟨text, written, _, shortest⟩ := singleString_isShortest_iff false tenthUnits_held positive
  exact ⟨positive, large, text, written, (shortest large).mpr even⟩

theorem leastSingle_held : single.Holds (2 ^ single.finest) :=
  ⟨by decide +kernel, 1, single.finest, by decide, Nat.le_refl _, (Nat.one_mul _).symm⟩

/-- The least number of single precision is written with five digits, although one is enough. -/
theorem not_forall_singleString_isShortest :
    ¬ ∀ (negative : Bool) (units : Nat) (held : single.Holds units), 0 < units →
      ∃ text : List Char,
        (Host.float (.finite negative units held.double)).singleString =
            .ok (String.ofList text) ∧
          IsShortest 0 (.finite negative units held.double) text := by
  intro always
  obtain ⟨text, written, shortest⟩ := always false _ leastSingle_held (Nat.two_pow_pos _)
  rw [Host.singleString, Except.ok.injEq] at written
  have same := congrArg String.toList written
  rw [String.toList_ofList, String.toList_ofList] at same
  rw [← same] at shortest
  have power := mem_singlePowers leastSingle_held
  have oneDigit : StepsRead single.finest 1 1 := by decide +kernel
  have severalDigits : ∀ count ∈ singleDigitCounts,
      1 < (withoutTrailingZeros (digitsOf (stepsNearest single.finest count))).length := by
    decide +kernel
  refine not_isShortest_singleText leastSingle_held (Nat.two_pow_pos _)
    ((stepsRead_iff power 1).mp oneDigit) ?_ shortest
  intro count first
  have rivalCount : (decimalAt (2 ^ single.finest) 1 1).counted.length ≤ 1 :=
    length_withoutTrailingZeros_le one_pos (by decide)
  have ownCount := severalDigits count first.tried
  rw [counted_decimalOfUnits_power power]
  omega

end CalcShell.Number

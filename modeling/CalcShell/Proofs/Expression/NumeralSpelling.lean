import CalcShell.Proofs.Expression.Literal

/-!
# How numerals are spelled

A numeral is spelled as a row of digits, with a point in it or without one, and an exponent may
follow.  A text that is a numeral to its end is spelled in this way, and a reader of numbers
takes it for the number that the numeral stands for.
-/

namespace CalcShell.Expression

open Number Text

/-- A numeral as it is spelled; it has a point if it has a fraction. -/
structure NumeralSpelling where
  sign : Sign
  whole : List Char
  fraction? : Option (List Char)
  exponent? : Option ExponentSpelling
  nonempty : ¬ (whole = [] ∧ fraction?.getD [] = [])
  decimal : ∀ digit ∈ whole ++ fraction?.getD [], digit.isDigit = true

/-- The characters that numerals are spelled with. -/
def isNumeralChar (char : Char) : Bool :=
  char.isDigit || ['+', '-', '.', 'e', 'E'].contains char

namespace NumeralSpelling

def exponentText (spelling : NumeralSpelling) : List Char :=
  (spelling.exponent?.map ExponentSpelling.text).getD []

def pointText (spelling : NumeralSpelling) : List Char :=
  (spelling.fraction?.map ('.' :: ·)).getD []

def text (spelling : NumeralSpelling) : List Char :=
  spelling.sign.text ++ (spelling.whole ++ (spelling.pointText ++ spelling.exponentText))

def numeral (spelling : NumeralSpelling) : Numeral :=
  ⟨spelling.sign.isMinus, spelling.whole, spelling.fraction?,
    (spelling.exponent?.map ExponentSpelling.value).getD 0⟩

variable (spelling : NumeralSpelling)

theorem takeExponent_exponentText :
    takeExponent spelling.exponentText = (spelling.numeral.exponent, []) := by
  rw [exponentText, numeral]
  cases spelling.exponent? with
  | none => rfl
  | some exponent =>
      have taken := takeExponent_append exponent (stops_nil).isDigit
      rwa [List.append_nil] at taken

theorem stop_exponentText : ∀ char ∈ spelling.exponentText.head?,
    char.isDigit = false ∧ char ≠ '.' := by
  rw [exponentText]
  cases spelling.exponent? with
  | none => simp
  | some exponent =>
      have marked := exponent.marked
      simp only [Option.map_some, Option.getD_some, ExponentSpelling.text,
        List.head?_cons, Option.mem_some_iff, forall_eq']
      rcases marked with mark | mark <;> rw [mark] <;> decide

theorem unsigned_whole_append {rest : List Char}
    (unsigned : ∀ char ∈ rest.head?, char ≠ '+' ∧ char ≠ '-') :
    ∀ char ∈ (spelling.whole ++ rest).head?, char ≠ '+' ∧ char ≠ '-' := by
  by_cases noWhole : spelling.whole = []
  · rwa [noWhole, List.nil_append]
  · exact unsigned_of_digits noWhole (fun digit member =>
      spelling.decimal digit (List.mem_append_left _ member)) rest

/-- A numeral is scanned to its end. -/
theorem scan_text : Numeral.scan spelling.text = some (spelling.numeral, []) := by
  have wholeDecimal : ∀ digit ∈ spelling.whole, digit.isDigit = true := fun digit member =>
    spelling.decimal digit (List.mem_append_left _ member)
  have exponentTaken := spelling.takeExponent_exponentText
  have stop : ∀ char ∈ spelling.exponentText.head?, char.isDigit = false :=
    fun char isHead => (spelling.stop_exponentText char isHead).1
  have nonempty := spelling.nonempty
  have decimal := spelling.decimal
  rw [numeral] at exponentTaken ⊢
  cases written : spelling.fraction? with
  | some fraction =>
      rw [written, Option.getD_some] at nonempty decimal
      have pointStops : ∀ char ∈ ('.' :: (fraction ++ spelling.exponentText)).head?,
          char.isDigit = false := by
        simp
      have unsigned : ∀ char ∈ ('.' :: (fraction ++ spelling.exponentText)).head?,
          char ≠ '+' ∧ char ≠ '-' := by
        simp
      have signTaken := takeSign_append spelling.sign (spelling.unsigned_whole_append unsigned)
      have wholeTaken := takeDigits_append wholeDecimal pointStops
      have fractionTaken := takeDigits_append
        (fun digit member => decimal digit (List.mem_append_right _ member)) stop
      rw [text, pointText, written, Option.map_some, Option.getD_some, List.cons_append,
        Numeral.scan]
      simp only [signTaken, wholeTaken, fractionTaken, nonempty, if_false, exponentTaken]
  | none =>
      rw [written, Option.getD_none, and_iff_left rfl] at nonempty
      have signTaken := takeSign_append spelling.sign
        (unsigned_of_digits nonempty wholeDecimal spelling.exponentText)
      have wholeTaken := takeDigits_append wholeDecimal stop
      rw [text, pointText, written, Option.map_none, Option.getD_none, List.nil_append,
        Numeral.scan]
      simp only [signTaken, wholeTaken]
      split
      · next afterPoint isPoint =>
          exact absurd rfl (spelling.stop_exponentText '.' (by rw [isPoint]; rfl)).2
      · simp only [nonempty, if_false, exponentTaken]

theorem isNumeralChar_of_mem {char : Char} (member : char ∈ spelling.text) :
    isNumeralChar char = true := by
  have ofDigit (digit : char.isDigit = true) : isNumeralChar char = true := by
    rw [isNumeralChar, digit, Bool.true_or]
  have ofSign (sign : Sign) (inSign : char ∈ sign.text) : isNumeralChar char = true := by
    cases sign with
    | none => cases inSign
    | plus | minus =>
        rw [List.mem_singleton.mp inSign]
        decide
  simp only [text, pointText, exponentText, List.mem_append] at member
  rcases member with inSign | inWhole | inPoint | inExponent
  · exact ofSign _ inSign
  · exact ofDigit (spelling.decimal char (List.mem_append_left _ inWhole))
  · cases written : spelling.fraction? with
    | none =>
        rw [written] at inPoint
        cases inPoint
    | some fraction =>
        rw [written, Option.map_some, Option.getD_some, List.mem_cons] at inPoint
        rcases inPoint with rfl | inFraction
        · decide
        · apply ofDigit
          apply spelling.decimal char
          rw [written]
          exact List.mem_append_right _ inFraction
  · cases written : spelling.exponent? with
    | none =>
        rw [written] at inExponent
        cases inExponent
    | some exponent =>
        rw [written, Option.map_some, Option.getD_some, ExponentSpelling.text, List.mem_cons,
          List.mem_append] at inExponent
        rcases inExponent with rfl | inSign | inDigits
        · rcases exponent.marked with mark | mark <;> rw [mark] <;> decide
        · exact ofSign _ inSign
        · exact ofDigit (exponent.decimal char inDigits)

theorem text_ne_nil : spelling.text ≠ [] := by
  intro isEmpty
  have scanned := spelling.scan_text
  rw [isEmpty] at scanned
  cases scanned

end NumeralSpelling

/-- What is scanned off the end of a text is an exponent or nothing. -/
theorem exists_exponent_of_takeExponent {text : List Char} {exponent : Int}
    (taken : takeExponent text = (exponent, [])) :
    ∃ exponent? : Option ExponentSpelling,
      text = (exponent?.map ExponentSpelling.text).getD [] ∧
        (exponent?.map ExponentSpelling.value).getD 0 = exponent := by
  rcases takeExponent_sound taken with ⟨nothing, isZero⟩ | ⟨spelling, spelled, same⟩
  · exact ⟨none, nothing, isZero.symm⟩
  · rw [List.append_nil] at spelled
    exact ⟨some spelling, spelled, same⟩

/-- A text that is a numeral to its end is spelled as one. -/
theorem exists_numeralSpelling_of_scan {text : List Char} {numeral : Numeral}
    (scanned : Numeral.scan text = some (numeral, [])) :
    ∃ spelling : NumeralSpelling, text = spelling.text ∧ spelling.numeral = numeral := by
  unfold Numeral.scan at scanned
  split at scanned
  next negative unsigned signTaken =>
  split at scanned
  next whole afterWhole wholeTaken =>
  obtain ⟨sign, rfl, rfl⟩ := takeSign_sound signTaken
  obtain ⟨rfl, wholeDecimal, _⟩ := takeDigits_sound wholeTaken
  split at scanned
  · next afterPoint =>
      split at scanned
      next fraction afterFraction fractionTaken =>
      obtain ⟨rfl, fractionDecimal, _⟩ := takeDigits_sound fractionTaken
      split at scanned
      · cases scanned
      · next nonempty =>
          split at scanned
          next exponent following exponentTaken =>
          cases scanned
          obtain ⟨exponent?, rfl, rfl⟩ := exists_exponent_of_takeExponent exponentTaken
          have decimal : ∀ digit ∈ whole ++ fraction, digit.isDigit = true := fun digit member =>
            (List.mem_append.mp member).elim (wholeDecimal digit) (fractionDecimal digit)
          exact ⟨⟨sign, whole, some fraction, exponent?, nonempty, decimal⟩, rfl, rfl⟩
  · split at scanned
    · cases scanned
    · next nonempty =>
        split at scanned
        next exponent following exponentTaken =>
        cases scanned
        obtain ⟨exponent?, rfl, rfl⟩ := exists_exponent_of_takeExponent exponentTaken
        have decimal : ∀ digit ∈ whole ++ [], digit.isDigit = true := by
          rwa [List.append_nil]
        exact ⟨⟨sign, whole, none, exponent?, fun both => nonempty both.1, decimal⟩, rfl, rfl⟩

theorem toNat_of_isNumeralChar {char : Char} (plain : isNumeralChar char = true) :
    0x2B ≤ char.toNat ∧ char.toNat < 0x80 ∧ char ≠ '_' := by
  rw [isNumeralChar, Bool.or_eq_true, List.contains_iff_mem] at plain
  rcases plain with digit | member
  · have code := toNat_of_isDigit digit
    refine ⟨by omega, by omega, ?_⟩
    rintro rfl
    cases digit
  · simp only [List.mem_cons, List.not_mem_nil, or_false] at member
    rcases member with rfl | rfl | rfl | rfl | rfl <;> decide

theorem not_isBlank_of_isNumeralChar {char : Char} (plain : isNumeralChar char = true) :
    isBlank char = false := by
  by_contra blank
  have blankCode := toNat_of_isBlank (Bool.of_not_eq_false blank)
  have code := toNat_of_isNumeralChar plain
  omega

/-- A reader of numbers takes a numeral for the number that it stands for. -/
theorem readDouble?_of_scan {text : List Char} {numeral : Numeral}
    (scanned : Numeral.scan text = some (numeral, [])) :
    readDouble? (String.ofList text) = some numeral.toDouble := by
  obtain ⟨spelling, rfl, _⟩ := exists_numeralSpelling_of_scan scanned
  have plain : ∀ char ∈ spelling.text, isNumeralChar char = true :=
    fun _ member => spelling.isNumeralChar_of_mem member
  have ascii : spelling.text.all (fun char => char.toNat < 0x80) = true := by
    rw [List.all_eq_true]
    intro char member
    exact decide_eq_true (toNat_of_isNumeralChar (plain char member)).2.1
  have tight : Tight spelling.text := tight_of_not_blank spelling.text_ne_nil
    fun char member => not_isBlank_of_isNumeralChar (plain char member)
  have noUnderscore : '_' ∉ spelling.text :=
    fun member => (toNat_of_isNumeralChar (plain '_' member)).2.2 rfl
  rw [readDouble?, String.toList_ofList]
  simp only [ascii, if_true]
  rw [spacedDouble?, tight.trimOf_eq fun _ blank => isBlank_of_isAsciiBlank blank,
    dropUnderscores?_eq_some false noUnderscore, Option.bind_some, bareDouble?, scanned]

end CalcShell.Expression

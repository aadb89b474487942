import CalcShell.Proofs.Expression.InternalErrors

/-!
# Exactly the literals

Without the spacing at its ends a literal is one of the spellings of a number, and its value
is the number that the spelling stands for: the integer itself, or the double that a reader of
numbers makes of the same text.  No other text is a literal, and none that is a name.
-/

namespace CalcShell.Expression

open Number Text

/-! ## Doubles from spellings -/

theorem isBlank_of_isAsciiBlank {char : Char} (blank : isAsciiBlank char = true) :
    isBlank char = true := by
  simp only [isAsciiBlank, Bool.or_eq_true, Bool.and_eq_true, beq_iff_eq,
    decide_eq_true_eq] at blank
  rcases blank with rfl | range
  · decide
  · simp [isBlank, range]

theorem dropUnderscores?_eq_some {text : List Char} (before : Bool) (absent : '_' ∉ text) :
    dropUnderscores? before text = some text := by
  induction text generalizing before with
  | nil => rfl
  | cons first rest inductionHypothesis =>
      rw [List.mem_cons, not_or] at absent
      have plain : dropUnderscores? before (first :: rest) =
          (dropUnderscores? first.isDigit rest).map (first :: ·) := by
        rw [dropUnderscores?]
        intro isUnderscore
        exact absurd isUnderscore.symm absent.1
      rw [plain, inductionHypothesis _ absent.2]
      rfl

theorem underscore_not_mem_sign (sign : Sign) : '_' ∉ sign.text := by
  cases sign <;> decide

theorem underscore_not_mem_digits {digits : List Char}
    (decimal : ∀ digit ∈ digits, digit.isDigit = true) : '_' ∉ digits := by
  intro member
  cases decimal '_' member

theorem ExponentSpelling.underscore_not_mem (exponent : ExponentSpelling) :
    '_' ∉ exponent.text := by
  simp only [text, List.mem_append, List.mem_cons]
  rintro (isMark | inSign | inDigits)
  · have marked := exponent.marked
    rw [← isMark] at marked
    revert marked
    decide
  · exact underscore_not_mem_sign _ inSign
  · exact underscore_not_mem_digits exponent.decimal inDigits

namespace DecimalSpelling

variable (spelling : DecimalSpelling)

theorem tight_text : Tight spelling.text :=
  tight_of_spelled (Spelled.decimal spelling)

theorem underscore_not_mem : '_' ∉ spelling.text := by
  simp only [text, List.mem_append, List.mem_cons]
  rintro (inSign | inWhole | isPoint | inFraction | inExponent)
  · exact underscore_not_mem_sign _ inSign
  · exact underscore_not_mem_digits spelling.wholeDecimal inWhole
  · cases isPoint
  · exact underscore_not_mem_digits spelling.fractionDecimal inFraction
  · rw [exponentText] at inExponent
    cases written : spelling.exponent? with
    | none => simp [written] at inExponent
    | some exponent =>
        rw [written, Option.map_some, Option.getD_some] at inExponent
        exact exponent.underscore_not_mem inExponent

theorem ascii_text : spelling.text.all (fun char => char.toNat < 0x80) = true := by
  rw [List.all_eq_true]
  intro char member
  rw [decide_eq_true_eq]
  rcases mem_of_spelled (Spelled.decimal spelling) member with inName | rfl | rfl | rfl
  · have code := toNat_of_isNameRest inName
    omega
  all_goals decide

/-- A reader of numbers takes the spelling for the number that the literal is. -/
theorem readDouble?_text :
    readDouble? (String.ofList spelling.text) = some spelling.numeral.toDouble := by
  have scanned := spelling.scan_append stops_nil
  rw [List.append_nil] at scanned
  rw [readDouble?, String.toList_ofList]
  simp only [spelling.ascii_text, if_true]
  rw [spacedDouble?, spelling.tight_text.trimOf_eq fun _ blank => isBlank_of_isAsciiBlank blank,
    dropUnderscores?_eq_some false spelling.underscore_not_mem, Option.bind_some, bareDouble?,
    scanned]

end DecimalSpelling

/-! ## Literals -/

section Literals

variable {text token : List Char} {value : Value}

theorem trimOf_pad_of_spelled {before body after : List Char}
    (spacingBefore : ∀ char ∈ before, isSpacing char = true)
    (spacingAfter : ∀ char ∈ after, isSpacing char = true) (spelled : Spelled body value) :
    trimOf isSpacing (before ++ (body ++ after)) = body := by
  rw [← List.append_assoc, trimOf_pad spacingBefore spacingAfter]
  exact (tight_of_spelled spelled).trimOf_eq fun _ spacing => isBlank_of_isSpacing spacing

/-- Only the spacing at the ends of a literal does not count. -/
theorem literal?_eq_ok_some_iff_spelled :
    literal? text = .ok (some value) ↔ Spelled (trimOf isSpacing text) value := by
  constructor
  · intro read
    obtain ⟨before, body, after, rfl, spacingBefore, spacingAfter, spelled⟩ :=
      literal?_eq_ok_some_iff.mp read
    rwa [trimOf_pad_of_spelled spacingBefore spacingAfter spelled]
  · intro spelled
    obtain ⟨before, after, shape, spacingBefore, spacingAfter⟩ :=
      exists_around_trimOf isSpacing text
    exact literal?_eq_ok_some_iff.mpr
      ⟨before, _, after, shape, spacingBefore, spacingAfter, spelled⟩

theorem spelled_iff :
    Spelled token value ↔
      (∃ spelling : IntegerSpelling, token = spelling.text ∧
        spelling.digits.length ≤ digitLimit ∧ InRange integerWidth spelling.value ∧
          value = ⟨.int spelling.value, .integer, none⟩) ∨
      ∃ spelling : DecimalSpelling, token = spelling.text ∧
        readDouble? (String.ofList token) = some spelling.numeral.toDouble ∧
          value = ⟨.float spelling.numeral.toDouble, .double, none⟩ := by
  have stored : ∀ number : Int, InRange integerWidth number →
      Value.integer number = ⟨.int number, .integer, none⟩ := by
    intro number inRange
    rw [Value.integer, wrap_of_inRange (by decide) inRange]
  constructor
  · intro spelled
    cases spelled with
    | integer spelling short inRange =>
        exact Or.inl ⟨spelling, rfl, short, inRange, stored _ inRange⟩
    | decimal spelling =>
        exact Or.inr ⟨spelling, rfl, spelling.readDouble?_text, rfl⟩
  · rintro (⟨spelling, rfl, short, inRange, rfl⟩ | ⟨spelling, rfl, _, rfl⟩)
    · rw [← stored _ inRange]
      exact Spelled.integer spelling short inRange
    · exact Spelled.decimal spelling

theorem literal?_spacing_append {before : List Char}
    (spacing : ∀ char ∈ before, isSpacing char = true) (text : List Char) :
    literal? (before ++ text) = literal? text := by
  have point : '.' ∈ before ++ text ↔ '.' ∈ text := by
    rw [List.mem_append, or_iff_right (point_not_mem_of_spacing spacing)]
  simp only [literal?, decimalLiteral?, integerLiteral?, point,
    List.dropWhile_append_of_pos spacing]

/-- No text is both a literal and a name. -/
theorem literal?_of_isName (named : isName text = true) : literal? text = .ok none := by
  obtain ⟨before, spelling, after, rfl, spacing, _⟩ := isName_eq_true_iff.mp named
  rw [literal?_spacing_append spacing, spelling.literal?_append]

/-! ## Without overlong digits -/

theorem not_overlongDigits_of_short (short : text.length ≤ digitLimit) (digits : List Char) :
    ¬ OverlongDigits text digits := by
  intro overlong
  exact absurd (overlong.within.length_le.trans short) (Nat.not_le.mpr overlong.long)

section Short

variable (short : ∀ digits, ¬ OverlongDigits text digits)

include short

theorem exists_found_of_short : ∃ found, literal? text = .ok found := by
  cases read : literal? text with
  | ok found => exact ⟨found, rfl⟩
  | error fault =>
      obtain ⟨digits, overlong, _⟩ := tellsOfDigits_of_literal? read
      exact absurd overlong (short digits)

theorem length_digits_le {spelling : IntegerSpelling}
    (written : trimOf isSpacing text = spelling.text) : spelling.digits.length ≤ digitLimit := by
  obtain ⟨before, after, shape, _⟩ := exists_around_trimOf isSpacing text
  rw [written, IntegerSpelling.text] at shape
  by_contra long
  refine short spelling.digits ⟨⟨before ++ spelling.sign.text, after, ?_⟩, spelling.decimal,
    Nat.lt_of_not_le long⟩
  rw [shape]
  simp only [List.append_assoc]

theorem literal?_eq_integer_iff (number : Int) :
    literal? text = .ok (some ⟨.int number, .integer, none⟩) ↔
      ∃ spelling : IntegerSpelling, trimOf isSpacing text = spelling.text ∧
        spelling.value = number ∧ InRange integerWidth number := by
  rw [literal?_eq_ok_some_iff_spelled, spelled_iff]
  constructor
  · rintro (⟨spelling, written, _, inRange, same⟩ | ⟨_, _, _, same⟩)
    · cases same
      exact ⟨spelling, written, rfl, inRange⟩
    · cases same
  · rintro ⟨spelling, written, rfl, inRange⟩
    exact Or.inl ⟨spelling, written, length_digits_le short written, inRange, rfl⟩

end Short

theorem literal?_eq_double_iff (number : Double) :
    literal? text = .ok (some ⟨.float number, .double, none⟩) ↔
      ∃ spelling : DecimalSpelling, trimOf isSpacing text = spelling.text ∧
        readDouble? (String.ofList (trimOf isSpacing text)) = some number := by
  rw [literal?_eq_ok_some_iff_spelled, spelled_iff]
  constructor
  · rintro (⟨_, _, _, _, same⟩ | ⟨spelling, written, isNumber, same⟩)
    · cases same
    · cases same
      exact ⟨spelling, written, isNumber⟩
  · rintro ⟨spelling, written, isNumber⟩
    have same := spelling.readDouble?_text
    rw [← written, isNumber] at same
    obtain rfl := Option.some.inj same
    exact Or.inr ⟨spelling, written, isNumber, rfl⟩

theorem literal?_trichotomy (short : ∀ digits, ¬ OverlongDigits text digits) :
    literal? text = .ok none ∨
      (∃ number : Int, literal? text = .ok (some ⟨.int number, .integer, none⟩)) ∨
      ∃ number : Double, literal? text = .ok (some ⟨.float number, .double, none⟩) := by
  obtain ⟨found, read⟩ := exists_found_of_short short
  cases found with
  | none => exact Or.inl read
  | some value =>
      rcases spelled_iff.mp (literal?_eq_ok_some_iff_spelled.mp read) with
        ⟨spelling, _, _, _, rfl⟩ | ⟨spelling, _, _, rfl⟩
      · exact Or.inr (Or.inl ⟨_, read⟩)
      · exact Or.inr (Or.inr ⟨_, read⟩)

theorem literal?_eq_none_iff (short : ∀ digits, ¬ OverlongDigits text digits) :
    literal? text = .ok none ↔
      (∀ spelling : IntegerSpelling, trimOf isSpacing text = spelling.text →
        ¬ InRange integerWidth spelling.value) ∧
      ∀ spelling : DecimalSpelling, trimOf isSpacing text ≠ spelling.text := by
  constructor
  · intro noLiteral
    constructor
    · intro spelling written inRange
      have read := (literal?_eq_integer_iff short _).mpr ⟨spelling, written, rfl, inRange⟩
      cases noLiteral.symm.trans read
    · intro spelling written
      have isNumber := spelling.readDouble?_text
      rw [← written] at isNumber
      have read := (literal?_eq_double_iff _).mpr ⟨spelling, written, isNumber⟩
      cases noLiteral.symm.trans read
  · rintro ⟨noInteger, noDecimal⟩
    rcases literal?_trichotomy short with noLiteral | ⟨number, read⟩ | ⟨number, read⟩
    · exact noLiteral
    · obtain ⟨spelling, written, rfl, inRange⟩ := (literal?_eq_integer_iff short number).mp read
      exact absurd inRange (noInteger spelling written)
    · obtain ⟨spelling, written, _⟩ := (literal?_eq_double_iff number).mp read
      exact absurd written (noDecimal spelling)

end Literals

/-- A text without an overlong row of digits is the literal of an integer exactly when the integer
is spelled in it between spacing and fits its width, and the literal of a double exactly when a
decimal number is spelled in it that is read as the double; otherwise it is no literal.  A name is
never one. -/
theorem literal_exact (text : List Char) :
    let token := trimOf isSpacing text
    ((∀ digits, ¬ OverlongDigits text digits) →
      (∀ number : Int, literal? text = .ok (some ⟨.int number, .integer, none⟩) ↔
        ∃ spelling : IntegerSpelling, token = spelling.text ∧ spelling.value = number ∧
          InRange integerWidth number) ∧
      (∀ number : Double, literal? text = .ok (some ⟨.float number, .double, none⟩) ↔
        ∃ spelling : DecimalSpelling, token = spelling.text ∧
          readDouble? (String.ofList token) = some number) ∧
      (literal? text = .ok none ↔
        (∀ spelling : IntegerSpelling, token = spelling.text →
          ¬ InRange integerWidth spelling.value) ∧
        ∀ spelling : DecimalSpelling, token ≠ spelling.text) ∧
      (literal? text = .ok none ∨
        (∃ number : Int, literal? text = .ok (some ⟨.int number, .integer, none⟩)) ∨
        ∃ number : Double, literal? text = .ok (some ⟨.float number, .double, none⟩))) ∧
    (isName text = true → literal? text = .ok none) := by
  intro token
  refine ⟨?_, literal?_of_isName⟩
  intro short
  exact ⟨literal?_eq_integer_iff short, literal?_eq_double_iff, literal?_eq_none_iff short,
    literal?_trichotomy short⟩

/-- The least integer, with spacing around it, and a name. -/
theorem literal_exact_of_least :
    let text := "\t-2147483648 ".toList
    (∀ digits, ¬ OverlongDigits text digits) ∧
      literal? text = .ok (some ⟨.int (-2147483648), .integer, none⟩) ∧
      isName " x1".toList = true ∧ literal? " x1".toList = .ok none := by
  intro text
  let least : IntegerSpelling :=
    ⟨.minus, ['2', '1', '4', '7', '4', '8', '3', '6', '4', '8'], nofun, List.all_eq_true.mp rfl⟩
  have short := not_overlongDigits_of_short (show text.length ≤ digitLimit by decide)
  have written : trimOf isSpacing text = least.text := by decide
  have named : isName " x1".toList = true := by decide
  obtain ⟨integer, _⟩ := (literal_exact text).1 short
  exact ⟨short, (integer _).mpr ⟨least, written, by decide +kernel, by decide +kernel⟩, named,
    (literal_exact _).2 named⟩

end CalcShell.Expression

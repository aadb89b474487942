import CalcShell.Proofs.Chain.Basic
import CalcShell.Proofs.Expression.Padding

/-!
# Mantissas

The mantissa of a decimal number is what stands in front of the mark of its exponent.
It ends with a digit or a point and has no letter in it, and together with the mark
but without the exponent it is no literal.
-/

namespace CalcShell.Expression

open Number Text

namespace DecimalSpelling

variable (spelling : DecimalSpelling)

def mantissa : List Char :=
  spelling.sign.text ++ (spelling.whole ++ '.' :: spelling.fraction)

theorem text_eq_mantissa : spelling.text = spelling.mantissa ++ spelling.exponentText := by
  simp [text, mantissa]

theorem mem_mantissa {char : Char} (member : char ∈ spelling.mantissa) :
    char.isDigit = true ∨ char = '.' ∨ char ∈ spelling.sign.text := by
  simp only [mantissa, List.mem_append, List.mem_cons] at member
  rcases member with inSign | inWhole | isPoint | inFraction
  · exact Or.inr (Or.inr inSign)
  · exact Or.inl (spelling.wholeDecimal char inWhole)
  · exact Or.inr (Or.inl isPoint)
  · exact Or.inl (spelling.fractionDecimal char inFraction)

theorem mem_mantissa_of_unsigned (unsigned : spelling.sign = .none) {char : Char}
    (member : char ∈ spelling.mantissa) : char.isDigit = true ∨ char = '.' := by
  rcases spelling.mem_mantissa member with digit | isPoint | inSign
  · exact Or.inl digit
  · exact Or.inr isPoint
  · simp [unsigned, Sign.text] at inSign

theorem exists_last_mantissa :
    ∃ char ∈ spelling.mantissa.getLast?, char.isDigit = true ∨ char = '.' := by
  have nonempty : spelling.mantissa ≠ [] := by
    simp [mantissa]
  obtain ⟨char, isLast⟩ := Option.ne_none_iff_exists'.mp (mt List.getLast?_eq_none_iff.mp nonempty)
  refine ⟨char, isLast, ?_⟩
  rw [mantissa, List.getLast?_append_of_ne_nil _ (by simp),
    List.getLast?_append_of_ne_nil _ (by simp)] at isLast
  rcases List.mem_cons.mp (List.mem_of_mem_getLast? isLast) with isPoint | inFraction
  · exact Or.inr isPoint
  · exact Or.inl (spelling.fractionDecimal char inFraction)

theorem last_text : ∀ char ∈ spelling.text.getLast?, char.isDigit = true ∨ char = '.' := by
  intro char isLast
  rw [text_eq_mantissa, exponentText] at isLast
  cases written : spelling.exponent? with
  | none =>
      obtain ⟨last, isMantissaLast, numeric⟩ := spelling.exists_last_mantissa
      rw [written, Option.map_none, Option.getD_none, List.append_nil,
        Option.mem_def.mp isMantissaLast] at isLast
      rwa [← Option.some.inj isLast]
  | some exponent =>
      rw [written, Option.map_some, Option.getD_some,
        List.getLast?_append_of_ne_nil _ (by simp [ExponentSpelling.text]),
        ExponentSpelling.text, ← List.cons_append,
        List.getLast?_append_of_ne_nil _ exponent.nonempty] at isLast
      exact Or.inl (exponent.decimal char (List.mem_of_mem_getLast? isLast))

end DecimalSpelling

/-- A literal ends with a digit or a point. -/
theorem last_of_spelled {body : List Char} {value : Value} (spelled : Spelled body value) :
    ∀ char ∈ body.getLast?, char.isDigit = true ∨ char = '.' := by
  cases spelled with
  | integer spelling =>
      intro char isLast
      rw [IntegerSpelling.text, List.getLast?_append_of_ne_nil _ spelling.nonempty] at isLast
      exact Or.inl (spelling.decimal char (List.mem_of_mem_getLast? isLast))
  | decimal spelling => exact spelling.last_text

theorem isNameStart_of_mem_sign {sign : Sign} {char : Char} (member : char ∈ sign.text) :
    isNameStart char = false := by
  rcases Sign.mem_text member with rfl | rfl <;> decide

theorem isNameStart_of_mem_signed {sign : Sign} {digits : List Char}
    (decimal : ∀ digit ∈ digits, digit.isDigit = true) :
    ∀ char ∈ sign.text ++ digits, isNameStart char = false := by
  intro char member
  rcases List.mem_append.mp member with inSign | inDigits
  · exact isNameStart_of_mem_sign inSign
  · exact isNameStart_of_isDigit (decimal char inDigits)

theorem DecimalSpelling.isNameStart_of_mem_mantissa (spelling : DecimalSpelling) :
    ∀ char ∈ spelling.mantissa, isNameStart char = false := by
  intro char member
  rcases spelling.mem_mantissa member with digit | rfl | inSign
  · exact isNameStart_of_isDigit digit
  · decide
  · exact isNameStart_of_mem_sign inSign

section Letters

variable {front rest : List Char} {letter : Char}

theorem letter_not_mem (isLetter : isNameStart letter = true) {part : List Char}
    (plain : ∀ char ∈ part, isNameStart char = false) : letter ∉ part := by
  intro member
  rw [plain letter member] at isLetter
  cases isLetter

/-- The only letter in an exponent is its mark. -/
theorem ExponentSpelling.eq_nil_of_letter (exponent : ExponentSpelling)
    (isLetter : isNameStart letter = true) (shape : exponent.text = front ++ letter :: rest) :
    front = [] := by
  cases front with
  | nil => rfl
  | cons first more =>
      have behindMark : exponent.sign.text ++ exponent.digits = more ++ letter :: rest :=
        (List.cons.inj shape).2
      have plain : letter ∉ exponent.sign.text ++ exponent.digits :=
        letter_not_mem isLetter (isNameStart_of_mem_signed exponent.decimal)
      exact absurd (by simp [behindMark]) plain

/-- The only letter in a literal is the mark of an exponent, which stands behind a digit or a
point. -/
theorem exists_last_of_spelled_letter {value : Value}
    (spelled : Spelled (front ++ letter :: rest) value) (isLetter : isNameStart letter = true) :
    ∃ char ∈ front.getLast?, char.isDigit = true ∨ char = '.' := by
  generalize shape : front ++ letter :: rest = body at spelled
  cases spelled with
  | integer spelling =>
      have plain : letter ∉ spelling.text :=
        letter_not_mem isLetter (isNameStart_of_mem_signed spelling.decimal)
      exact absurd (by simp [← shape]) plain
  | decimal spelling =>
      have plain := letter_not_mem isLetter spelling.isNameStart_of_mem_mantissa
      rw [spelling.text_eq_mantissa] at shape
      obtain ⟨middle, frontShape, exponentShape⟩ := exists_behind_of_not_mem plain shape.symm
      rw [DecimalSpelling.exponentText] at exponentShape
      cases written : spelling.exponent? with
      | none => simp [written] at exponentShape
      | some exponent =>
          rw [written, Option.map_some, Option.getD_some] at exponentShape
          have nothingBetween := exponent.eq_nil_of_letter isLetter exponentShape
          rw [frontShape, nothingBetween, List.append_nil]
          exact spelling.exists_last_mantissa

end Letters

/-! ## Broken numbers -/

/-- A text like the front of a decimal number up to the mark of its exponent: it is read as
nothing, and there is no operator in it. -/
structure Broken (text : List Char) : Prop where
  plain : ∀ char ∈ text, isNameRest char = true ∨ char = '.'
  nonempty : text ≠ []
  noLiteral : literal? text = .ok none
  noName : isName text = false

theorem Broken.solid {text : List Char} (broken : Broken text) : Solid text :=
  solid_of_plain broken.nonempty broken.plain

theorem Broken.symbol_not_mem {text : List Char} (broken : Broken text) (operator : Operator) :
    operator.symbol ∉ text := by
  intro member
  rcases broken.plain _ member with inName | isPoint
  · rw [isNameRest_symbol] at inName
    cases inName
  · exact symbol_ne_point operator isPoint

/-- The only operator in an exponent is its sign. -/
theorem ExponentSpelling.eq_of_text_eq (exponent : ExponentSpelling) {front rest : List Char}
    {operator : Operator} (shape : exponent.text = front ++ operator.symbol :: rest) :
    front = [exponent.mark] ∧ rest = exponent.digits := by
  rw [ExponentSpelling.text] at shape
  cases front with
  | nil =>
      have isMark : exponent.mark = operator.symbol := (List.cons.inj shape).1
      have inName := isNameRest_of_isNameStart exponent.isNameStart_mark
      rw [isMark, isNameRest_symbol] at inName
      cases inName
  | cons first more =>
      obtain ⟨rfl, behindMark⟩ := List.cons.inj shape
      obtain ⟨extra, signShape, rfl⟩ :=
        exists_before_of_not_mem (symbol_not_mem_of_isDigit operator exponent.decimal) behindMark
      obtain ⟨rfl, rfl⟩ := Sign.eq_nil_of_text_eq signShape
      exact ⟨rfl, rfl⟩

theorem DecimalSpelling.broken_mantissa (spelling : DecimalSpelling)
    (unsigned : spelling.sign = .none) {mark : Char} (letter : isNameStart mark = true) :
    Broken (spelling.mantissa ++ [mark]) := by
  have plain : ∀ char ∈ spelling.mantissa ++ [mark], isNameRest char = true ∨ char = '.' := by
    intro char member
    rcases List.mem_append.mp member with inMantissa | isMark
    · exact (spelling.mem_mantissa_of_unsigned unsigned inMantissa).imp_left isNameRest_of_isDigit
    · rw [List.mem_singleton.mp isMark]
      exact Or.inl (isNameRest_of_isNameStart letter)
  have nonempty : spelling.mantissa ++ [mark] ≠ [] := by simp
  refine ⟨plain, nonempty, ?_, ?_⟩
  · have point : '.' ∈ spelling.mantissa ++ [mark] := by simp [mantissa]
    have notSome : ∀ value, literal? (spelling.mantissa ++ [mark]) ≠ .ok (some value) := by
      intro value read
      have tight := (solid_of_plain nonempty plain).tight
      have spelled := (literal?_eq_ok_some_iff_of_tight tight).mp read
      rcases last_of_spelled spelled mark (by simp) with digit | rfl
      · rw [isNameStart_of_isDigit digit] at letter
        cases letter
      · revert letter
        decide
    rw [literal?, if_pos point] at notSome ⊢
    cases read : decimalLiteral? (spelling.mantissa ++ [mark]) with
    | none => rfl
    | some value => exact absurd (congrArg Except.ok read) (notSome value)
  · obtain ⟨last, isLast, _⟩ := spelling.exists_last_mantissa
    have mantissaNonempty : spelling.mantissa ≠ [] :=
      List.ne_nil_of_mem (List.mem_of_mem_getLast? isLast)
    apply isName_of_head
    intro char isHead
    rw [List.head?_append_of_ne_nil _ mantissaNonempty] at isHead
    rcases spelling.mem_mantissa_of_unsigned unsigned (List.mem_of_mem_head? isHead) with
      digit | rfl
    · exact ⟨isNameStart_of_isDigit digit, not_spacing_of_isDigit digit⟩
    · decide

end CalcShell.Expression

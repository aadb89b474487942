import CalcShell.Proofs.Chain.Basic

/-!
# Recognition of operands

An operand with an operator behind it, whatever the white space between them, is
neither a literal nor a name, and so a chain with an operator is neither.
-/

namespace CalcShell

open Expression Number Text

theorem stops_gap (gap : Gap) (operator : Operator) (more : List Char) :
    Stops (gap.text ++ operator.symbol :: more) := by
  intro char isHead
  cases shape : gap.text with
  | nil =>
      rw [shape] at isHead
      have isSymbol : operator.symbol = char := by simpa using isHead
      rw [← isSymbol]
      exact isNameRest_symbol operator
  | cons first rest =>
      rw [shape] at isHead
      have isFirst : first = char := by simpa using isHead
      rw [← isFirst]
      exact isNameRest_of_isBlank (gap.blank first (by simp [shape]))

theorem head_gap_ne_point (gap : Gap) (operator : Operator) (more : List Char) :
    ∀ char ∈ (gap.text ++ operator.symbol :: more).head?, char ≠ '.' := by
  intro char isHead
  cases shape : gap.text with
  | nil =>
      rw [shape] at isHead
      have isSymbol : operator.symbol = char := by simpa using isHead
      rw [← isSymbol]
      exact symbol_ne_point operator
  | cons first rest =>
      rw [shape] at isHead
      have isFirst : first = char := by simpa using isHead
      rw [← isFirst]
      exact ne_of_isBlank (gap.blank first (by simp [shape])) (by decide) (by decide)

theorem not_all_spacing_of_symbol (front : List Char) (operator : Operator)
    (more : List Char) : (front ++ operator.symbol :: more).all isSpacing = false := by
  simp [isSpacing_symbol operator]

/-- An integer with an operator behind it is no literal. -/
theorem UnsignedInteger.literal?_followed (spelling : UnsignedInteger) (gap : Gap)
    (operator : Operator) (more : List Char) :
    literal? (spelling.digits ++ (gap.text ++ operator.symbol :: more)) = .ok none := by
  have stops := stops_gap gap operator more
  have noSpacing := not_all_spacing_of_symbol gap.text operator more
  rw [literal?]
  split
  · have scanned := scan_digits_append spelling.nonempty spelling.decimal stops
      (head_gap_ne_point gap operator more)
    have nothingDropped :
        (spelling.digits ++ (gap.text ++ operator.symbol :: more)).dropWhile isSpacing =
          spelling.digits ++ (gap.text ++ operator.symbol :: more) := by
      rw [← spelling.text_eq]
      exact dropWhile_eq_self_of_head spelling.head_not_spacing
    rw [decimalLiteral?, nothingDropped, scanned]
    simp
  · have read := spelling.integerLiteral?_append spacing_nil stops.isDigit
      spelling.short
    rw [List.nil_append, spelling.text_eq] at read
    rw [read, noSpacing]
    simp

theorem Expression.DecimalSpelling.literal?_followed (spelling : DecimalSpelling) (gap : Gap)
    (operator : Operator) (more : List Char) :
    literal? (spelling.text ++ (gap.text ++ operator.symbol :: more)) = .ok none := by
  have point : '.' ∈ spelling.text ++ (gap.text ++ operator.symbol :: more) :=
    List.mem_append_left _ spelling.point_mem
  have read := spelling.decimalLiteral?_append spacing_nil
    (stops_gap gap operator more)
  rw [List.nil_append] at read
  rw [literal?, if_pos point, read, not_all_spacing_of_symbol gap.text operator more]
  simp

theorem Operand.literal?_followed (operand : Operand) (gap : Gap) (operator : Operator)
    (more : List Char) :
    literal? (operand.text ++ (gap.text ++ operator.symbol :: more)) = .ok none := by
  cases operand with
  | atom leaf =>
      cases leaf with
      | integer spelling =>
          rw [Operand.text, Leaf.text, spelling.text_eq]
          exact spelling.literal?_followed gap operator more
      | decimal spelling => exact spelling.literal?_followed gap operator more
      | name spelling => exact spelling.literal?_append _
      | enclosed inside => exact literal?_of_opening _
  | group inner => exact literal?_of_opening _

theorem Expression.DecimalSpelling.head_plain (spelling : DecimalSpelling)
    (unsigned : spelling.sign = .none) (more : List Char) :
    ∀ char ∈ (spelling.text ++ more).head?,
      isNameStart char = false ∧ isSpacing char = false := by
  intro char isHead
  refine ⟨?_, spelling.head_not_spacing char isHead⟩
  rw [spelling.text_append, unsigned, Sign.text, List.nil_append] at isHead
  by_cases noWhole : spelling.whole = []
  · have isPoint : '.' = char := by simpa [noWhole] using isHead
    rw [← isPoint]
    decide
  · rw [List.head?_append_of_ne_nil _ noWhole] at isHead
    exact isNameStart_of_isDigit (spelling.wholeDecimal char (List.mem_of_mem_head? isHead))

theorem UnsignedInteger.head_plain (spelling : UnsignedInteger) (more : List Char) :
    ∀ char ∈ (spelling.text ++ more).head?,
      isNameStart char = false ∧ isSpacing char = false := by
  intro char isHead
  refine ⟨?_, spelling.head_not_spacing char isHead⟩
  rw [spelling.text_eq, List.head?_append_of_ne_nil _ spelling.nonempty] at isHead
  exact isNameStart_of_isDigit (spelling.decimal char (List.mem_of_mem_head? isHead))

theorem Operand.isName_followed (operand : Operand) (gap : Gap) (operator : Operator)
    (more : List Char) :
    isName (operand.text ++ (gap.text ++ operator.symbol :: more)) = false := by
  cases operand with
  | atom leaf =>
      cases leaf with
      | integer spelling => exact isName_of_head (spelling.head_plain _)
      | decimal spelling =>
          exact isName_of_head (spelling.toDecimalSpelling.head_plain spelling.unsigned _)
      | name spelling =>
          have read := spelling.isName_append spacing_nil
            (stops_gap gap operator more)
          rw [List.nil_append, not_all_spacing_of_symbol] at read
          exact read
      | enclosed inside => exact isName_of_opening _
  | group inner => exact isName_of_opening _

/-- A chain with an operator begins with an operand that an operator follows. -/
theorem Chain.exists_first : ∀ chain : Chain, chain.operators ≠ [] →
    ∃ (operand : Operand) (gap : Gap) (operator : Operator) (more : List Char),
      chain.text = operand.text ++ (gap.text ++ operator.symbol :: more)
  | .single _, present => absurd rfl present
  | .link (.single operand) leftGap operator rightGap last, _ =>
      ⟨operand, leftGap, operator, rightGap.text ++ last.text, rfl⟩
  | .link (.link before outerLeft outer outerRight middle) leftGap operator rightGap last,
      _ => by
      obtain ⟨operand, gap, first, more, shape⟩ :=
        exists_first (.link before outerLeft outer outerRight middle) (by simp [operators])
      refine ⟨operand, gap, first,
        more ++ (leftGap.text ++ operator.symbol :: (rightGap.text ++ last.text)), ?_⟩
      rw [text, shape]
      simp

end CalcShell

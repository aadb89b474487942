import CalcShell.Proofs.Expression.Mantissa
import CalcShell.Proofs.Expression.Reading

/-!
# Texts that are integers

A text of digits, with a sign in front of them or without one, is no name, and there is
nothing in it to split at.  It has the value of the literal that it is.  One that does not
fit its width is refused, and one with more digits than are read is a failure, whatever
its value.
-/

namespace CalcShell

open Expression Number Text

namespace Expression

theorem le_ofDigitChars (digits : List Char) (before : Nat) :
    before ≤ Nat.ofDigitChars 10 digits before := by
  induction digits generalizing before with
  | nil => rw [Nat.ofDigitChars_nil]
  | cons digit rest inductionHypothesis =>
      rw [Nat.ofDigitChars_cons]
      refine Nat.le_trans ?_ (inductionHypothesis _)
      omega

/-- More digits make no number smaller. -/
theorem digitsValue_le_append (digits more : List Char) :
    digitsValue digits ≤ digitsValue (digits ++ more) := by
  rw [digitsValue, digitsValue, Nat.ofDigitChars_append]
  exact le_ofDigitChars more _

namespace IntegerSpelling

variable (spelling : IntegerSpelling)

/-! ## Characters -/

theorem paren_not_mem : '(' ∉ spelling.text ∧ ')' ∉ spelling.text := by
  have solid : ∀ paren : Char, isNameRest paren = false → paren ≠ '+' ∧ paren ≠ '-' →
      paren ∉ spelling.text := by
    intro paren notName noSign member
    rcases spelling.mem_text member with inName | inSign
    · rw [inName] at notName
      cases notName
    · exact (Sign.mem_text inSign).elim noSign.1 noSign.2
  exact ⟨solid '(' (by decide) (by decide), solid ')' (by decide) (by decide)⟩

theorem isBalanced_text : isBalanced spelling.text = true :=
  isBalanced_of_no_parens spelling.paren_not_mem.1 spelling.paren_not_mem.2

theorem stripParens_text : stripParens spelling.text = spelling.text :=
  stripParens_of_head_ne fun isOpening =>
    spelling.paren_not_mem.1 (List.mem_of_mem_head? isOpening)

/-- A text spells one integer at most. -/
theorem value_eq_of_text_eq {left right : IntegerSpelling} (same : left.text = right.text) :
    left.value = right.value := by
  have taken : ∀ spelling : IntegerSpelling,
      takeSign spelling.text = (spelling.sign.isMinus, spelling.digits) := by
    intro spelling
    have unsigned := unsigned_of_digits spelling.nonempty spelling.decimal []
    rw [List.append_nil] at unsigned
    exact takeSign_append spelling.sign unsigned
  have parts := taken left
  rw [same, taken right] at parts
  obtain ⟨signs, digits⟩ := Prod.mk.inj parts
  rw [value, value, signs, digits]

/-- The only operator in an integer is its sign, with nothing in front of it. -/
theorem eq_nil_of_symbol {spelling : IntegerSpelling} {front rest : List Char}
    {operator : Operator} (shape : spelling.text = front ++ operator.symbol :: rest) :
    front = [] := by
  have absent := symbol_not_mem_of_isDigit operator spelling.decimal
  obtain ⟨_, signShape, _⟩ := exists_before_of_not_mem absent shape
  exact (Sign.eq_nil_of_text_eq signShape).1

/-! ## Recognisers -/

theorem isName_text : isName spelling.text = false := by
  have solid : ∀ char ∈ (spelling.text ++ []).head?, isSpacing char = false :=
    spelling.head_not_spacing
  rw [List.append_nil] at solid
  apply isName_of_head
  intro char isHead
  have noLetter := isNameStart_of_mem_signed spelling.decimal char (List.mem_of_mem_head? isHead)
  exact ⟨noLetter, solid char isHead⟩

theorem split?_text : split? spelling.text = none := by
  cases found : split? spelling.text with
  | none => rfl
  | some split =>
      obtain ⟨shape, leftNonempty, _⟩ := eq_of_split?_eq_some found
      exact absurd (eq_nil_of_symbol shape) leftNonempty

theorem literal?_of_short (short : spelling.digits.length ≤ digitLimit) :
    literal? spelling.text =
      if InRange integerWidth spelling.value then .ok (some (Value.integer spelling.value))
      else .ok none := by
  have read := spelling.integerLiteral?_append spacing_nil stops_nil.isDigit short
  rw [List.nil_append, List.append_nil] at read
  rw [literal?, if_neg spelling.point_not_mem, read]
  simp

/-- Too many digits are a failure whatever follows them, short of a point. -/
theorem literal?_append_of_long {before after : List Char}
    (noPoint : '.' ∉ before ++ (spelling.text ++ after))
    (spacing : ∀ char ∈ before, isSpacing char = true)
    (stop : ∀ char ∈ after.head?, char.isDigit = false)
    (long : digitLimit < spelling.digits.length) :
    literal? (before ++ (spelling.text ++ after)) =
      .error (.numeralTooLong spelling.digits.length) := by
  have signTaken := takeSign_append spelling.sign
    (unsigned_of_digits spelling.nonempty spelling.decimal after)
  have digitsTaken := takeDigits_append spelling.decimal stop
  rw [literal?, if_neg noPoint, integerLiteral?,
    dropWhile_append_of_stop spacing spelling.head_not_spacing, text, List.append_assoc]
  simp only [signTaken, digitsTaken]
  rw [if_pos long]

theorem literal?_of_long (long : digitLimit < spelling.digits.length) :
    literal? spelling.text = .error (.numeralTooLong spelling.digits.length) := by
  have noPoint : '.' ∉ [] ++ (spelling.text ++ []) := by simpa using spelling.point_not_mem
  have read := spelling.literal?_append_of_long noPoint spacing_nil stops_nil.isDigit long
  rwa [List.nil_append, List.append_nil] at read

/-! ## Outcomes -/

variable (environment : Environment) (depth : Nat)

/-- The outcome is decided by whether the text is a literal. -/
theorem outcome_evaluateWithin_text :
    (evaluateWithin (depth + 1) environment (String.ofList spelling.text)).outcome =
      match literal? spelling.text with
      | .error fault => .error (EvalError.ofFault fault)
      | .ok (some value) => .ok value
      | .ok none => .error (.invalid (String.ofList spelling.text)) := by
  rw [outcome_evaluateWithin, String.toList_ofList,
    ofText_of_tight depth spelling.tight_text spelling.isBalanced_text, spelling.stripParens_text]
  split
  · next fault read => rw [ofCore_error read, outcome_run_refused]
  · next value read => rw [ofCore_literal read, outcome_run_literal]
  · next read =>
      rw [ofCore_invalid read spelling.isName_text spelling.split?_text, outcome_run_refused]

theorem outcome_of_long (long : digitLimit < spelling.digits.length) :
    (evaluateWithin (depth + 1) environment (String.ofList spelling.text)).outcome =
      .error (.internal (.numeralTooLong spelling.digits.length)) := by
  rw [outcome_evaluateWithin_text, spelling.literal?_of_long long]
  rfl

end IntegerSpelling

end Expression

/-- An integer that does not fit its width is no literal and is refused as an invalid expression
exactly as long as it has no more digits than are read.  With more of them, reading it is a failure
of its own, and the outcome an internal error. -/
theorem evaluateWithin_of_not_inRange (spelling : IntegerSpelling)
    (exceeds : ¬ InRange integerWidth spelling.value) (environment : Environment) (depth : Nat) :
    let text := String.ofList spelling.text
    let outcome := (evaluateWithin (depth + 1) environment text).outcome
    ((literal? spelling.text = .ok none ∧
        ∃ error, outcome = .error error ∧ error.kind = .malformed ∧
          error.message = s!"Invalid expression '{text}'") ↔
      spelling.digits.length ≤ digitLimit) ∧
      (digitLimit < spelling.digits.length →
        literal? spelling.text = .error (.numeralTooLong spelling.digits.length) ∧
          outcome = .error (.internal (.numeralTooLong spelling.digits.length))) := by
  intro text outcome
  refine ⟨⟨?_, ?_⟩, ?_⟩
  · rintro ⟨noLiteral, _⟩
    by_contra exceedsLimit
    rw [spelling.literal?_of_long (Nat.lt_of_not_le exceedsLimit)] at noLiteral
    cases noLiteral
  · intro short
    have noLiteral := spelling.literal?_of_short short
    rw [if_neg exceeds] at noLiteral
    have refused := spelling.outcome_evaluateWithin_text environment depth
    rw [noLiteral] at refused
    exact ⟨noLiteral, .invalid text, refused, rfl, rfl⟩
  · intro long
    exact ⟨spelling.literal?_of_long long, spelling.outcome_of_long environment depth long⟩

/-- The integer below the least one. -/
theorem evaluateWithin_of_not_inRange_below :
    let digits := ['2', '1', '4', '7', '4', '8', '3', '6', '4', '9']
    let spelling : IntegerSpelling := ⟨.minus, digits, nofun, List.all_eq_true.mp rfl⟩
    let environment : Environment := fun _ => .ok none
    ¬ InRange integerWidth spelling.value ∧
      literal? spelling.text = .ok none ∧
      ∃ error, (evaluateWithin 1 environment "-2147483649").outcome = .error error ∧
        error.kind = .malformed ∧ error.message = "Invalid expression '-2147483649'" := by
  intro digits spelling environment
  have exceeds : ¬ InRange integerWidth spelling.value := by decide +kernel
  have short : spelling.digits.length ≤ digitLimit := by decide +kernel
  exact ⟨exceeds, (evaluateWithin_of_not_inRange spelling exceeds environment 0).1.mpr short⟩

/-- An integer with one digit more than are read. -/
def sevens : IntegerSpelling where
  sign := .none
  digits := List.replicate (digitLimit + 1) '7'
  nonempty := nofun
  decimal := by
    intro digit member
    rw [List.eq_of_mem_replicate member]
    decide

theorem long_sevens : digitLimit < sevens.digits.length := by
  rw [sevens, List.length_replicate]
  exact Nat.lt_succ_self _

theorem not_inRange_sevens : ¬ InRange integerWidth sevens.value := by
  have count : digitLimit + 1 = 10 + (digitLimit - 9) := by decide
  have split : sevens.digits = List.replicate 10 '7' ++ List.replicate (digitLimit - 9) '7' := by
    show List.replicate (digitLimit + 1) '7' = _
    rw [count, List.replicate_add]
  have front := digitsValue_le_append (List.replicate 10 '7') (List.replicate (digitLimit - 9) '7')
  rw [← split] at front
  have begins : digitsValue (List.replicate 10 '7') = 7777777777 := by decide +kernel
  rintro ⟨_, below⟩
  have limit : ((2 ^ (integerWidth - 1) : Nat) : Int) = 2147483648 := by decide +kernel
  have value : sevens.value = digitsValue sevens.digits := rfl
  omega

/-- Not every integer that does not fit its width is refused as an invalid expression. -/
theorem not_forall_evaluate_of_not_inRange :
    ¬ ∀ spelling : IntegerSpelling, ¬ InRange integerWidth spelling.value →
      ∀ environment : Environment,
        let text := String.ofList spelling.text
        literal? spelling.text = .ok none ∧
          ∃ error, (evaluate environment text).outcome = .error error ∧
            error.kind = .malformed ∧ error.message = s!"Invalid expression '{text}'" := by
  intro refused
  obtain ⟨noLiteral, _⟩ := refused sevens not_inRange_sevens fun _ => .ok none
  rw [sevens.literal?_of_long long_sevens] at noLiteral
  cases noLiteral

end CalcShell

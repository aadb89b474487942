import CalcShell.Proofs.Expression.ReadAs

/-!
# The language of expressions

An expression is a literal, a name, an expression between parentheses, or two
expressions with an operator between them, and white space may stand around any of
these.  What has a value is an expression in this sense: the pieces that evaluation
takes a text apart into make up a derivation of it.
-/

namespace CalcShell.Expression

open Number Text

/-- The texts of the language. -/
inductive Grammatical : List Char → Prop
  | padded {before text after : List Char}
      (blankBefore : ∀ char ∈ before, isBlank char = true)
      (blankAfter : ∀ char ∈ after, isBlank char = true)
      (inner : Grammatical text) : Grammatical (before ++ (text ++ after))
  | group {text : List Char} (inner : Grammatical text) :
      Grammatical ('(' :: (text ++ [')']))
  | integer (spelling : IntegerSpelling) (inRange : InRange integerWidth spelling.value) :
      Grammatical spelling.text
  | decimal (spelling : DecimalSpelling) : Grammatical spelling.text
  | name (spelling : NameSpelling) : Grammatical spelling.text
  | operation (operator : Operator) {left right : List Char}
      (leftOperand : Grammatical left) (rightOperand : Grammatical right) :
      Grammatical (left ++ operator.symbol :: right)

namespace Grammatical

variable {text : List Char}

theorem of_spelled {value : Value} (spelled : Spelled text value) : Grammatical text := by
  cases spelled with
  | integer spelling short inRange => exact integer spelling inRange
  | decimal spelling => exact decimal spelling

theorem of_trim (inner : Grammatical (trim text)) : Grammatical text := by
  obtain ⟨before, after, shape, blankBefore, blankAfter⟩ := exists_around_trimOf isBlank text
  rw [shape]
  exact padded blankBefore blankAfter inner

/-- The layers around a text are groups. -/
theorem of_stripParens (core : Grammatical (stripParens text)) : Grammatical text := by
  induction text using stripParens.induct with
  | case1 text inner found inductionHypothesis =>
      rw [stripParens_of_innerText?_eq_some found] at core
      rw [(innerText?_eq_some_iff.mp found).1]
      exact group (inductionHypothesis core)
  | case2 text missing =>
      rwa [stripParens_of_innerText?_eq_none missing] at core

theorem of_literal? {value : Value} (read : literal? text = .ok (some value)) :
    Grammatical text := by
  obtain ⟨before, body, after, rfl, spacingBefore, spacingAfter, spelled⟩ :=
    literal?_eq_ok_some_iff.mp read
  exact padded (blank_of_spacing spacingBefore) (blank_of_spacing spacingAfter)
    (of_spelled spelled)

theorem of_isName (named : isName text = true) : Grammatical text := by
  obtain ⟨before, spelling, after, rfl, spacingBefore, spacingAfter⟩ :=
    isName_eq_true_iff.mp named
  exact padded (blank_of_spacing spacingBefore) (blank_of_spacing spacingAfter)
    (name spelling)

theorem of_split? {split : Split} (found : split? text = some split)
    (left : Grammatical split.left) (right : Grammatical split.right) : Grammatical text := by
  rw [(eq_of_split?_eq_some found).1]
  exact operation split.operator left right

theorem of_coreOf (core : Grammatical (coreOf text)) : Grammatical text :=
  of_trim (of_stripParens core)

/-- A text with a value belongs to the language. -/
theorem of_outcome {environment : Environment} {value : Value} (limit : Nat)
    (evaluated : ((ofText limit text).run environment).outcome = .ok value) :
    Grammatical text := by
  have readAs := readAs_ofText limit text
  generalize ofText limit text = expression at readAs evaluated
  induction readAs generalizing value with
  | tooDeep text => cases evaluated
  | refused reason => cases evaluated
  | literal read => exact of_coreOf (of_literal? read)
  | name named => exact of_coreOf (of_isName named)
  | operation found _ _ leftHolds rightHolds =>
      obtain ⟨leftValue, rightValue, leftOutcome, rightOutcome, _⟩ :=
        (outcome_run_binary_eq_ok_iff environment).mp evaluated
      exact of_coreOf (of_split? found (leftHolds leftOutcome) (rightHolds rightOutcome))

end Grammatical

end CalcShell.Expression

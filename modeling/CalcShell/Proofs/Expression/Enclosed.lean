import CalcShell.Proofs.Expression.Mantissa
import CalcShell.Proofs.Expression.Reading

/-!
# Spaces inside parentheses

A text is trimmed before the parentheses around it are taken off, and not again
afterwards.  Spaces just inside the parentheses therefore reach the recognition of
literals, which skips them, of names, which skips them but then looks up the name
with them, and the search for a place to split at.
-/

namespace CalcShell

open Text

namespace Expression

variable {environment : Environment}

/-! ## Operators at the end -/

theorem getLast?_right {text : List Char} {split : Split} (found : split? text = some split) :
    split.right.getLast? = text.getLast? := by
  obtain ⟨_, place, isLast, shape⟩ := split?_eq_some_iff.mp found
  have inside : place + 1 < text.length :=
    (eligible_iff_getElem?.mp (lastPlace?_eq_some_iff.mp isLast).1).2.2.2
  rw [← shape, splitAt, List.getLast?_drop, if_neg (by omega)]

/-- A text that ends with an operator has no value. -/
theorem outcome_ne_ok_of_last (operator : Operator) (limit : Nat) (text : List Char)
    (isLast : (trim text).getLast? = some operator.symbol) (value : Value) :
    ((ofText limit text).run environment).outcome ≠ .ok value := by
  induction limit generalizing text value with
  | zero =>
      rw [ofText, outcome_run_refused]
      intro evaluated
      cases evaluated
  | succ depth inductionHypothesis =>
      have nonempty : trim text ≠ [] := by
        intro gone
        rw [gone] at isLast
        cases isLast
      have tight := tight_trim nonempty
      cases balanced : isBalanced (trim text) with
      | false =>
          rw [ofText_of_unbalanced depth nonempty balanced, outcome_run_refused]
          intro evaluated
          cases evaluated
      | true =>
          have notClosing : (trim text).getLast? ≠ some ')' := by
            rw [isLast]
            intro same
            exact symbol_ne_closing operator (Option.some.inj same)
          rw [ofText_succ depth nonempty balanced, stripParens_of_last_ne notClosing]
          intro evaluated
          rcases (outcome_run_ofCore_eq_ok_iff environment).mp evaluated with
            read | ⟨_, name, _⟩ | ⟨_, _, split, _, rightValue, found, _, rightOutcome, _⟩
          · have spelled := (literal?_eq_ok_some_iff_of_tight tight).mp read
            rcases last_of_spelled spelled _ isLast with digit | isPoint
            · have inName := isNameRest_of_isDigit digit
              rw [isNameRest_symbol] at inName
              cases inName
            · exact symbol_ne_point operator isPoint
          · exact symbol_not_mem_of_isName name operator (List.mem_of_mem_getLast? isLast)
          -- An operator at the end is never split at, so it ends the right side as well.
          · have rightLast : (trim split.right).getLast? = some operator.symbol := by
              apply getLast?_trim _ (isBlank_symbol operator)
              rw [getLast?_right found, isLast]
            exact inductionHypothesis split.right rightLast rightValue rightOutcome

/-! ## Spaces around a text -/

def Spaces (text : List Char) : Prop :=
  ∀ char ∈ text, char = ' '

namespace Spaces

variable {text : List Char}

theorem isSpacing (spaces : Spaces text) : ∀ char ∈ text, isSpacing char = true := by
  intro char member
  rw [spaces char member]
  decide

theorem isBlank (spaces : Spaces text) : ∀ char ∈ text, isBlank char = true :=
  blank_of_spacing spaces.isSpacing

theorem not_mem (spaces : Spaces text) {char : Char} (other : char ≠ ' ') : char ∉ text :=
  fun member => other (spaces char member)

theorem isBalanced (spaces : Spaces text) : isBalanced text = true :=
  isBalanced_of_no_parens (spaces.not_mem (by decide)) (spaces.not_mem (by decide))

theorem clear (spaces : Spaces text) : Clear text where
  level := netDepth_of_isBalanced spaces.isBalanced
  absent := fun operator => spaces.not_mem (by cases operator <;> decide)

end Spaces

/-- A text that is evaluated in the same way with spaces in front of it: a literal, or
something to split at an operator that is searched for no later than one at its start. -/
def KeptBehind (before text : List Char) : Prop :=
  (∃ value, literal? text = .ok (some value)) ∨
    ∃ split, split? text = some split ∧
      (before ≠ [] → ∀ operator : Operator, text.head? = some operator.symbol →
        searchRank split.operator ≤ searchRank operator)

theorem keptBehind_of_literal {before text : List Char} {value : Value}
    (read : literal? text = .ok (some value)) : KeptBehind before text :=
  Or.inl ⟨value, read⟩

theorem not_keptBehind {before text : List Char} (noLiteral : literal? text = .ok none)
    (noSplit : split? text = none) : ¬ KeptBehind before text := by
  rintro (⟨value, read⟩ | ⟨split, found, _⟩)
  · rw [noLiteral] at read
    cases read
  · rw [noSplit] at found
    cases found

section Padded

variable {depth : Nat} {source text before after : List Char} {value : Value}

/-- A group between spaces has no value, because its parentheses are not at the ends. -/
theorem outcome_pad_of_enclosed {inner : List Char} (balanced : isBalanced inner = true)
    (spacesBefore : Spaces before) (spacesAfter : Spaces after) :
    ((ofCore depth source (before ++ ('(' :: (inner ++ [')']) ++ after))).run
      environment).outcome ≠ .ok value := by
  have tight : Tight ('(' :: (inner ++ [')'])) := Tight.enclosed (by decide) (by decide) inner
  have noLiteral := literal?_pad tight spacesBefore.isSpacing spacesAfter.isSpacing
  have noName := isName_pad tight spacesBefore.isSpacing spacesAfter.isSpacing
  have noSplit := split?_pad_of_enclosed spacesBefore.clear spacesAfter.clear balanced
  rw [literal?_of_opening] at noLiteral
  rw [isName_of_opening] at noName
  rw [ofCore_invalid noLiteral noName noSplit, outcome_run_refused]
  intro evaluated
  cases evaluated

/-- A name between spaces is looked up together with them. -/
theorem outcome_pad_of_isName (tight : Tight text) (noLiteral : literal? text = .ok none)
    (name : isName text = true) (spacesBefore : Spaces before) (spacesAfter : Spaces after)
    (padded : ¬ (before = [] ∧ after = []))
    (names : ∀ name value, environment name = .ok (some value) →
      ∀ char ∈ name.toList, isBlank char = false) :
    ((ofCore depth source (before ++ (text ++ after))).run environment).outcome ≠
      .ok value := by
  have noLiteralPadded := literal?_pad tight spacesBefore.isSpacing spacesAfter.isSpacing
  have namePadded := isName_pad tight spacesBefore.isSpacing spacesAfter.isSpacing
  rw [noLiteral] at noLiteralPadded
  rw [name] at namePadded
  rw [ofCore_name noLiteralPadded namePadded, outcome_run_variable]
  intro evaluated
  have bound := (outcome_lookup_eq_ok_iff environment).mp evaluated
  have solid := names _ _ bound
  rw [String.toList_ofList] at solid
  have nothing {spaces : List Char} (isSpaces : Spaces spaces)
      (inside : ∀ char ∈ spaces, char ∈ before ++ (text ++ after)) : spaces = [] := by
    rw [List.eq_nil_iff_forall_not_mem]
    intro char member
    have blank := isSpaces.isBlank char member
    rw [solid char (inside char member)] at blank
    cases blank
  exact padded ⟨nothing spacesBefore fun char member => by simp [member],
    nothing spacesAfter fun char member => by simp [member]⟩

/-- Something to split at keeps its value if the place to split at is kept, and loses it
otherwise, because nothing stands in front of the operator that is split at instead. -/
theorem outcome_pad_of_split_iff {split : Split} {leftValue rightValue : Value}
    (tight : Tight text) (noLiteral : literal? text = .ok none) (noName : isName text = false)
    (found : split? text = some split)
    (notLast : ∀ operator : Operator, text.getLast? ≠ some operator.symbol)
    (leftOutcome : ((ofText depth split.left).run environment).outcome = .ok leftValue)
    (rightOutcome : ((ofText depth split.right).run environment).outcome = .ok rightValue)
    (applied : split.operator.apply leftValue rightValue = .ok value)
    (spacesBefore : Spaces before) (spacesAfter : Spaces after) :
    ((ofCore depth source (before ++ (text ++ after))).run environment).outcome = .ok value ↔
      KeptBehind before text := by
  have noLiteralPadded := literal?_pad tight spacesBefore.isSpacing spacesAfter.isSpacing
  have noNamePadded := isName_pad tight spacesBefore.isSpacing spacesAfter.isSpacing
  rw [noLiteral] at noLiteralPadded
  rw [noName] at noNamePadded
  constructor
  · intro evaluated
    by_contra lost
    have headEarlier : before ≠ [] ∧ ∃ operator : Operator,
        text.head? = some operator.symbol ∧ searchRank operator < searchRank split.operator := by
      by_contra headLater
      push Not at headLater
      exact lost (Or.inr ⟨split, found, headLater⟩)
    obtain ⟨padded, operator, isHead, lower⟩ := headEarlier
    -- With spaces in front, the operator at the start is no longer in the first place, and
    -- so it is found before the one that the text itself is split at.
    have missing : ∀ other : Operator, searchRank other ≤ searchRank operator →
        lastPlace? text other.symbol = none := by
      intro other notLater
      exact (split?_eq_some_iff.mp found).1 other (Nat.lt_of_le_of_lt notLater lower)
    obtain ⟨right, foundPadded⟩ :=
      split?_pad_of_head spacesBefore.clear spacesAfter.clear notLast padded isHead missing
    rw [ofCore_split noLiteralPadded noNamePadded foundPadded,
      outcome_run_binary_eq_ok_iff] at evaluated
    obtain ⟨frontValue, _, frontOutcome, _⟩ := evaluated
    exact outcome_ne_ok_of_blank (trim_eq_nil_of_blank spacesBefore.isBlank) depth frontValue
      frontOutcome
  · intro kept
    have headLater : before ≠ [] → ∀ operator : Operator,
        text.head? = some operator.symbol →
          searchRank split.operator ≤ searchRank operator := by
      rcases kept with ⟨literalValue, read⟩ | ⟨other, otherFound, headLater⟩
      · rw [noLiteral] at read
        cases read
      · rw [found] at otherFound
        obtain rfl := Option.some.inj otherFound
        exact headLater
    have foundPadded :=
      split?_pad spacesBefore.clear spacesAfter.clear notLast found headLater
    rw [ofCore_split noLiteralPadded noNamePadded foundPadded, outcome_run_binary_eq_ok_iff]
    refine ⟨leftValue, rightValue, ?_, ?_, applied⟩
    · rwa [ofText_congr_trim depth (trim_append_of_blank_left spacesBefore.isBlank)]
    · rwa [ofText_congr_trim depth (trim_append_of_blank spacesAfter.isBlank)]

/-- What becomes of the value of a text when there are spaces around it, which nothing
trims. -/
theorem outcome_pad_iff (tight : Tight text) (balanced : isBalanced text = true)
    (evaluated : ((ofText (depth + 1) text).run environment).outcome = .ok value)
    (spacesBefore : Spaces before) (spacesAfter : Spaces after)
    (padded : ¬ (before = [] ∧ after = []))
    (names : ∀ name value, environment name = .ok (some value) →
      ∀ char ∈ name.toList, isBlank char = false) :
    ((ofCore depth source (before ++ (text ++ after))).run environment).outcome = .ok value ↔
      KeptBehind before text := by
  have notLast : ∀ operator : Operator, text.getLast? ≠ some operator.symbol := by
    intro operator isLast
    rw [← tight.trim_eq] at isLast
    exact outcome_ne_ok_of_last operator (depth + 1) text isLast value evaluated
  cases grouped : innerText? text with
  | some inner =>
      obtain ⟨rfl, innerBalanced⟩ := innerText?_eq_some_iff.mp grouped
      have noSplit : split? ('(' :: (inner ++ [')'])) = none := by
        have nothing : Spaces [] := by simp [Spaces]
        simpa using split?_pad_of_enclosed nothing.clear nothing.clear innerBalanced
      exact iff_of_false (outcome_pad_of_enclosed innerBalanced spacesBefore spacesAfter)
        (not_keptBehind (literal?_of_opening _) noSplit)
  | none =>
      rw [ofText_of_tight depth tight balanced, stripParens_of_innerText?_eq_none grouped,
        outcome_run_ofCore_eq_ok_iff] at evaluated
      rcases evaluated with read | ⟨noLiteral, name, _⟩ |
        ⟨noLiteral, noName, split, leftValue, rightValue, found, leftOutcome, rightOutcome,
          applied⟩
      · have readPadded := literal?_pad tight spacesBefore.isSpacing spacesAfter.isSpacing
        rw [read] at readPadded
        rw [ofCore_literal readPadded, outcome_run_literal]
        exact iff_of_true rfl (keptBehind_of_literal read)
      · exact iff_of_false
          (outcome_pad_of_isName tight noLiteral name spacesBefore spacesAfter padded names)
          (not_keptBehind noLiteral (split?_of_isName name))
      · exact outcome_pad_of_split_iff tight noLiteral noName found notLast leftOutcome
          rightOutcome applied spacesBefore spacesAfter

theorem stripParens_pad (spacesBefore : Spaces before) (spacesAfter : Spaces after)
    (padded : ¬ (before = [] ∧ after = [])) :
    stripParens (before ++ (text ++ after)) = before ++ (text ++ after) := by
  by_cases nothingBefore : before = []
  · have somethingAfter : after ≠ [] := by
      intro nothingAfter
      exact padded ⟨nothingBefore, nothingAfter⟩
    apply stripParens_of_last_ne
    rw [← List.append_assoc, List.getLast?_append_of_ne_nil _ somethingAfter]
    intro isLast
    exact spacesAfter.not_mem (by decide) (List.mem_of_mem_getLast? isLast)
  · apply stripParens_of_head_ne
    rw [List.head?_append_of_ne_nil _ nothingBefore]
    intro isHead
    exact spacesBefore.not_mem (by decide) (List.mem_of_mem_head? isHead)

theorem isBalanced_pad (balanced : isBalanced text = true) (spacesBefore : Spaces before)
    (spacesAfter : Spaces after) : isBalanced (before ++ (text ++ after)) = true := by
  rw [isBalanced_append spacesBefore.isBalanced, isBalanced_append balanced,
    spacesAfter.isBalanced]

end Padded

end Expression

open Expression in
/-- When a text has a value between parentheses, it keeps it with spaces inside them if and
only if there are none, or it is a literal, or it is split at an operator that is searched
for no later than one at its start.  A name and a group lose it. -/
theorem evaluateWithin_enclosed_iff (limit : Nat) (environment : Environment)
    (text before after : List Char) (value : Value)
    (names : ∀ name value, environment name = .ok (some value) →
      ∀ char ∈ name.toList, isBlank char = false)
    (nonempty : text ≠ []) (trimmed : trim text = text) (balanced : isBalanced text = true)
    (spacesBefore : Spaces before) (spacesAfter : Spaces after)
    (evaluated : (evaluateWithin limit environment
      (String.ofList ('(' :: (text ++ [')'])))).outcome = .ok value) :
    (evaluateWithin limit environment
      (String.ofList ('(' :: (before ++ (text ++ after) ++ [')'])))).outcome = .ok value ↔
        (before = [] ∧ after = []) ∨ KeptBehind before text := by
  rw [outcome_evaluateWithin, String.toList_ofList] at evaluated ⊢
  by_cases padded : before = [] ∧ after = []
  · obtain ⟨rfl, rfl⟩ := padded
    rw [List.nil_append, List.append_nil]
    exact iff_of_true evaluated (Or.inl ⟨rfl, rfl⟩)
  · rw [or_iff_right padded]
    cases limit with
    | zero =>
        rw [ofText, outcome_run_refused] at evaluated
        cases evaluated
    | succ depth =>
        have tight := tight_of_trim_eq trimmed nonempty
        have paddedBalanced := isBalanced_pad balanced spacesBefore spacesAfter
        rw [ofText_enclosed depth tight balanced, outcome_run_withSource] at evaluated
        rw [ofText_of_tight depth (Tight.enclosed (by decide) (by decide) _)
            (isBalanced_enclosed paddedBalanced), stripParens_enclosed paddedBalanced,
          stripParens_pad spacesBefore spacesAfter padded]
        exact outcome_pad_iff tight balanced evaluated spacesBefore spacesAfter padded names

def singleEnvironment : Environment :=
  fun name => if name = "a" then .ok (some (Value.integer 1)) else .ok none

theorem isBlank_of_singleEnvironment (name : String) (value : Value)
    (bound : singleEnvironment name = .ok (some value)) :
    ∀ char ∈ name.toList, isBlank char = false := by
  by_cases isA : name = "a"
  · subst isA
    have single : "a".toList = ['a'] := rfl
    rw [single, List.forall_mem_singleton]
    decide
  · simp [singleEnvironment, isA] at bound

open Expression in
theorem evaluateWithin_enclosed_iff_sample :
    (∀ name value, singleEnvironment name = .ok (some value) →
      ∀ char ∈ name.toList, isBlank char = false) ∧
    ['a', '+', '1'] ≠ [] ∧ trim ['a', '+', '1'] = ['a', '+', '1'] ∧
    isBalanced ['a', '+', '1'] = true ∧ Spaces [' '] ∧
    ∃ value, (evaluate singleEnvironment "(a+1)").outcome = .ok value ∧
      (evaluate singleEnvironment "( a+1 )").outcome = .ok value := by
  have nonempty : ['a', '+', '1'] ≠ [] := by decide
  have trimmed : trim ['a', '+', '1'] = ['a', '+', '1'] := by decide
  have balanced : isBalanced ['a', '+', '1'] = true := by decide
  have spaces : Spaces [' '] := by simp [Spaces]
  have evaluates : (evaluate singleEnvironment "(a+1)").outcome.isOk = true := by
    decide +kernel
  obtain ⟨value, evaluated⟩ := exists_of_isOk evaluates
  have kept : KeptBehind [' '] ['a', '+', '1'] :=
    Or.inr ⟨⟨['a'], .plus, ['1']⟩, by decide, fun _ _ _ => Nat.zero_le _⟩
  exact ⟨isBlank_of_singleEnvironment, nonempty, trimmed, balanced, spaces, value, evaluated,
    (evaluateWithin_enclosed_iff depthLimit singleEnvironment ['a', '+', '1'] [' '] [' '] value
      isBlank_of_singleEnvironment nonempty trimmed balanced spaces spaces evaluated).mpr
      (Or.inr kept)⟩

/-- `(a)` has a value and `( a )` has none. -/
theorem not_forall_evaluate_enclosed :
    ¬ ∀ (environment : Environment) (text before after : List Char) (value : Value),
      (∀ name value, environment name = .ok (some value) →
        ∀ char ∈ name.toList, isBlank char = false) →
      text ≠ [] → trim text = text → Expression.isBalanced text = true →
      Expression.Spaces before → Expression.Spaces after →
      (evaluate environment (String.ofList ('(' :: (text ++ [')'])))).outcome = .ok value →
      (evaluate environment
        (String.ofList ('(' :: (before ++ (text ++ after) ++ [')'])))).outcome = .ok value := by
  intro always
  have evaluates : (evaluate singleEnvironment "(a)").outcome.isOk = true := by
    decide +kernel
  have fails : (evaluate singleEnvironment "( a )").outcome.isOk = false := by
    decide +kernel
  have spaces : Expression.Spaces [' '] := by simp [Expression.Spaces]
  obtain ⟨value, evaluated⟩ := exists_of_isOk evaluates
  have padded : (evaluate singleEnvironment "( a )").outcome = .ok value :=
    always singleEnvironment ['a'] [' '] [' '] value isBlank_of_singleEnvironment (by decide)
      (by decide) (by decide) spaces spaces evaluated
  rw [padded] at fails
  cases fails

end CalcShell

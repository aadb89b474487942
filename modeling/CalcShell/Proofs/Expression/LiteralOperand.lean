import CalcShell.Proofs.Chain.Evaluation
import CalcShell.Proofs.Expression.Mantissa

/-!
# Literals beside an operator

A literal beside an operator is an operand of it, unless there is a sign in its
exponent that is searched for before the operator is found.  Such a text is taken
apart at the sign, and what is in front of that is no literal.
-/

namespace CalcShell

open Expression Number Text

/-- A literal without a sign in front of it. -/
inductive UnsignedLiteral where
  | integer (spelling : UnsignedInteger)
  | decimal (spelling : DecimalSpelling) (unsigned : spelling.sign = .none)

theorem sign_eq_none_of_head {sign : Sign} {rest : List Char}
    (unsigned : ∀ char ∈ (sign.text ++ rest).head?, char ≠ '+' ∧ char ≠ '-') : sign = .none := by
  cases sign with
  | none => rfl
  | plus => exact absurd rfl (unsigned '+' rfl).1
  | minus => exact absurd rfl (unsigned '-' rfl).2

namespace UnsignedLiteral

variable {environment : Environment} (literal : UnsignedLiteral)

def text : UnsignedLiteral → List Char
  | .integer spelling => spelling.text
  | .decimal spelling _ => spelling.text

def value : UnsignedLiteral → Value
  | .integer spelling => Value.integer (digitsValue spelling.digits)
  | .decimal spelling _ => Value.double spelling.numeral.toDouble

theorem literal?_text : literal? literal.text = .ok (some literal.value) := by
  cases literal with
  | integer spelling => exact spelling.literal?_eq
  | decimal spelling unsigned =>
      have read := literal?_decimal spelling spacing_nil spacing_nil
      rwa [List.nil_append, List.append_nil] at read

/-- Every literal text without a sign in front of it spells one, between spacing. -/
theorem exists_of_literal? {text : List Char} {value : Value}
    (read : literal? text = .ok (some value))
    (unsigned : ∀ char ∈ (trim text).head?, char ≠ '+' ∧ char ≠ '-') :
    ∃ (before : List Char) (literal : UnsignedLiteral) (after : List Char),
      text = before ++ (literal.text ++ after) ∧
        (∀ char ∈ before, isSpacing char = true) ∧
          (∀ char ∈ after, isSpacing char = true) ∧ literal.value = value := by
  obtain ⟨before, body, after, rfl, spacingBefore, spacingAfter, spelled⟩ :=
    literal?_eq_ok_some_iff.mp read
  rw [trim_pad_of_spacing (tight_of_spelled spelled) spacingBefore spacingAfter] at unsigned
  cases spelled with
  | integer spelling short inRange =>
      have noSign : spelling.sign = .none := sign_eq_none_of_head unsigned
      have value_eq : spelling.value = digitsValue spelling.digits := by
        rw [IntegerSpelling.value, noSign]
        rfl
      rw [value_eq] at inRange
      refine ⟨before, .integer ⟨spelling, noSign, short, inRange⟩, after, rfl, spacingBefore,
        spacingAfter, ?_⟩
      rw [value_eq]
      rfl
  | decimal spelling =>
      have noSign : spelling.sign = .none := sign_eq_none_of_head unsigned
      exact ⟨before, .decimal spelling noSign, after, rfl, spacingBefore, spacingAfter, rfl⟩

theorem tight_text : Tight literal.text := by
  cases literal with
  | integer spelling => exact (Leaf.integer spelling).solid.tight
  | decimal spelling unsigned => exact tight_of_spelled (Spelled.decimal spelling)

theorem paren_not_mem : '(' ∉ literal.text ∧ ')' ∉ literal.text :=
  not_mem_of_literal? literal.literal?_text

theorem isBalanced_text : isBalanced literal.text = true :=
  isBalanced_of_no_parens literal.paren_not_mem.1 literal.paren_not_mem.2

theorem literal?_followed (gap : Gap) (operator : Operator) (more : List Char) :
    literal? (literal.text ++ (gap.text ++ operator.symbol :: more)) = .ok none := by
  cases literal with
  | integer spelling =>
      rw [text, spelling.text_eq]
      exact spelling.literal?_followed gap operator more
  | decimal spelling unsigned => exact spelling.literal?_followed gap operator more

theorem isName_followed (more : List Char) : isName (literal.text ++ more) = false := by
  cases literal with
  | integer spelling => exact isName_of_head (spelling.head_plain more)
  | decimal spelling unsigned => exact isName_of_head (spelling.head_plain unsigned more)

theorem outcome_ofText {text : List Char} (trimmed : trim text = literal.text) (depth : Nat) :
    ((ofText (depth + 1) text).run environment).outcome = .ok literal.value := by
  have sameTrim : trim text = trim literal.text := by
    rw [trimmed, literal.tight_text.trim_eq]
  rw [ofText_congr_trim _ sameTrim,
    ofText_of_tight depth literal.tight_text literal.isBalanced_text,
    stripParens_of_literal? literal.literal?_text, ofCore_literal literal.literal?_text]
  rfl

/-- The only operator in a literal is the sign of its exponent, and what is in front of that is
no literal any more. -/
theorem exists_of_symbol {front rest : List Char} {sign : Operator}
    (shape : literal.text = front ++ sign.symbol :: rest) :
    Broken front ∧ (∀ char ∈ rest, char.isDigit = true) ∧ rest ≠ [] := by
  cases literal with
  | integer spelling =>
      rw [text, spelling.text_eq] at shape
      exact absurd (by simp [shape]) (symbol_not_mem_of_isDigit sign spelling.decimal)
  | decimal spelling unsigned =>
      have notInMantissa : sign.symbol ∉ spelling.mantissa := by
        intro member
        rcases spelling.mem_mantissa_of_unsigned unsigned member with digit | isPoint
        · rw [isDigit_symbol] at digit
          cases digit
        · exact symbol_ne_point sign isPoint
      rw [text, spelling.text_eq_mantissa] at shape
      obtain ⟨middle, rfl, inside⟩ := exists_behind_of_not_mem notInMantissa shape
      rw [DecimalSpelling.exponentText] at inside
      cases written : spelling.exponent? with
      | none => simp [written] at inside
      | some exponent =>
          rw [written, Option.map_some, Option.getD_some] at inside
          obtain ⟨rfl, rfl⟩ := exponent.eq_of_text_eq inside
          exact ⟨spelling.broken_mantissa unsigned exponent.isNameStart_mark, exponent.decimal,
            exponent.nonempty⟩

theorem eq_of_symbol_mem {front rest : List Char} {sign other : Operator}
    (shape : literal.text = front ++ sign.symbol :: rest) (member : other.symbol ∈ literal.text) :
    other = sign := by
  obtain ⟨broken, decimal, _⟩ := literal.exists_of_symbol shape
  rw [shape, List.mem_append, List.mem_cons] at member
  rcases member with inFront | same | inRest
  · exact absurd inFront (broken.symbol_not_mem other)
  · exact symbol_injective same
  · exact absurd inRest (symbol_not_mem_of_isDigit other decimal)

theorem hidden_of_ne {front rest : List Char} {sign other : Operator}
    (shape : literal.text = front ++ sign.symbol :: rest) (different : other ≠ sign) :
    Hidden other.symbol literal.text := by
  apply Hidden.of_not_mem
  intro member
  exact different (literal.eq_of_symbol_mem shape member)

/-! ## Operations -/

/-- The text of an operation with a literal as its left operand. -/
def followedBy (leftGap : Gap) (operator : Operator) (rightGap : Gap) (last : List Char) :
    List Char :=
  literal.text ++ (leftGap.text ++ operator.symbol :: (rightGap.text ++ last))

section Operation

variable {leftGap rightGap : Gap} {operator : Operator} {last : List Char}

theorem netDepth_text_gap (gap : Gap) : netDepth (literal.text ++ gap.text) = 0 := by
  rw [netDepth_append, netDepth_of_isBalanced literal.isBalanced_text,
    netDepth_of_isBalanced gap.isBalanced_text, Int.zero_add]

theorem hidden_followedBy {other : Operator} (different : other ≠ operator)
    (firstHidden : Hidden other.symbol literal.text) (lastHidden : Hidden other.symbol last) :
    Hidden other.symbol (literal.followedBy leftGap operator rightGap last) :=
  hidden_link leftGap rightGap different literal.isBalanced_text firstHidden lastHidden

theorem isBalanced_followedBy (balanced : isBalanced last = true) :
    isBalanced (literal.followedBy leftGap operator rightGap last) = true :=
  isBalanced_link leftGap rightGap operator literal.isBalanced_text balanced

theorem ofText_followedBy (depth : Nat) (tight : Tight last)
    (balanced : isBalanced last = true) {split : Split}
    (found : split? (literal.followedBy leftGap operator rightGap last) = some split) :
    ofText (depth + 1) (literal.followedBy leftGap operator rightGap last) =
      .binary (literal.followedBy leftGap operator rightGap last)
        (ofText depth split.left) split.operator (ofText depth split.right) := by
  have wholeTight : Tight (literal.followedBy leftGap operator rightGap last) := by
    have whole := literal.tight_text.append tight
      (leftGap.text ++ operator.symbol :: rightGap.text)
    simpa [followedBy] using whole
  have noLayers : stripParens (literal.followedBy leftGap operator rightGap last) =
      literal.followedBy leftGap operator rightGap last := by
    apply stripParens_of_not_hidden (symbol_ne_opening operator)
    intro hidden
    apply hidden (literal.text ++ leftGap.text) (rightGap.text ++ last) (by simp [followedBy])
    exact literal.netDepth_text_gap leftGap
  have noLiteral : literal? (literal.followedBy leftGap operator rightGap last) = .ok none :=
    literal.literal?_followed leftGap operator _
  have noName : isName (literal.followedBy leftGap operator rightGap last) = false :=
    literal.isName_followed _
  rw [ofText_of_tight depth wholeTight (literal.isBalanced_followedBy balanced), noLayers,
    ofCore_split noLiteral noName found]

/-- The operation is split at its operator, if no operator in the operands is in the way. -/
theorem split?_followedBy (nonempty : last ≠ [])
    (firstHidden : ∀ other, searchRank other < searchRank operator →
      Hidden other.symbol literal.text)
    (lastHidden : ∀ other, searchRank other ≤ searchRank operator → Hidden other.symbol last) :
    split? (literal.followedBy leftGap operator rightGap last) =
      some ⟨literal.text ++ leftGap.text, operator, rightGap.text ++ last⟩ := by
  have shape : literal.followedBy leftGap operator rightGap last =
      (literal.text ++ leftGap.text) ++ operator.symbol :: (rightGap.text ++ last) := by
    simp [followedBy]
  have hidden : Hidden operator.symbol (rightGap.text ++ last) :=
    (rightGap.hidden_text operator).append (netDepth_of_isBalanced rightGap.isBalanced_text)
      (lastHidden operator (Nat.le_refl _))
  rw [shape]
  apply split?_append_of_hidden _ _ (literal.netDepth_text_gap leftGap) hidden
  · intro earlier lower
    rw [← shape]
    exact literal.hidden_followedBy (ne_of_searchRank_lt lower) (firstHidden earlier lower)
      (lastHidden earlier (Nat.le_of_lt lower))
  · simp [literal.tight_text.nonempty]
  · simp [nonempty]

theorem outcome_followedBy (depth : Nat) (tight : Tight last) (balanced : isBalanced last = true)
    (firstHidden : ∀ other, searchRank other < searchRank operator →
      Hidden other.symbol literal.text)
    (lastHidden : ∀ other, searchRank other ≤ searchRank operator → Hidden other.symbol last) :
    ((ofText (depth + 2) (literal.followedBy leftGap operator rightGap last)).run
        environment).outcome =
      ((ofText (depth + 1) last).run environment).outcome >>= operator.apply literal.value := by
  have found : split? (literal.followedBy leftGap operator rightGap last) =
      some ⟨literal.text ++ leftGap.text, operator, rightGap.text ++ last⟩ :=
    literal.split?_followedBy tight.nonempty firstHidden lastHidden
  have trimmed : trim (literal.text ++ leftGap.text) = literal.text := by
    rw [trim_append_of_blank leftGap.blank, literal.tight_text.trim_eq]
  rw [literal.ofText_followedBy (depth + 1) tight balanced found, outcome_run_binary,
    literal.outcome_ofText trimmed depth,
    ofText_congr_trim (depth + 1) (trim_append_of_blank_left rightGap.blank)]
  rfl

end Operation

theorem outcome_of_broken {front : List Char} (broken : Broken front) (depth : Nat) :
    ((ofText (depth + 1) front).run environment).outcome =
      .error (.invalid (String.ofList front)) := by
  have noLayers : stripParens front = front := by
    apply stripParens_of_head_ne
    intro isHead
    have plain := broken.plain '(' (List.mem_of_mem_head? isHead)
    revert plain
    decide
  have noSplit : split? front = none := by
    rw [split?_eq_none_iff]
    intro operator
    exact lastPlace?_eq_none_of_hidden (broken.solid.hidden operator)
  rw [ofText_of_tight depth broken.solid.tight broken.solid.balanced, noLayers,
    ofCore_invalid broken.noLiteral broken.noName noSplit, outcome_run_refused]

section Signs

variable {leftGap rightGap : Gap} {operator sign : Operator} {front rest : List Char}

/-- An operation is taken apart at a sign in its first operand, if that is searched for
before its operator. -/
theorem outcome_of_sign_first (depth : Nat) {last : List Char} (solid : Solid last)
    (shape : literal.text = front ++ sign.symbol :: rest)
    (lower : searchRank sign < searchRank operator) :
    ((ofText (depth + 2) (literal.followedBy leftGap operator rightGap last)).run
        environment).outcome = .error (.invalid (String.ofList front)) := by
  obtain ⟨broken, decimal, nonempty⟩ := literal.exists_of_symbol shape
  have digits := solid_of_digits nonempty decimal
  have found : split? (literal.followedBy leftGap operator rightGap last) =
      some ⟨front, sign, rest ++ (leftGap.text ++ operator.symbol :: (rightGap.text ++ last))⟩ := by
    have wholeShape : literal.followedBy leftGap operator rightGap last =
        front ++ sign.symbol ::
          (rest ++ (leftGap.text ++ operator.symbol :: (rightGap.text ++ last))) := by
      simp [followedBy, shape]
    have hidden := hidden_link leftGap rightGap (ne_of_searchRank_lt lower) digits.balanced
      (digits.hidden sign) (solid.hidden sign)
    rw [wholeShape]
    apply split?_append_of_hidden broken.nonempty _ (netDepth_of_isBalanced broken.solid.balanced)
      hidden
    · intro earlier earlierLower
      have notOperator := ne_of_searchRank_lt (Nat.lt_trans earlierLower lower)
      have notSign := ne_of_searchRank_lt earlierLower
      rw [← wholeShape]
      exact literal.hidden_followedBy notOperator (literal.hidden_of_ne shape notSign)
        (solid.hidden earlier)
    · simp
  rw [literal.ofText_followedBy (depth + 1) solid.tight solid.balanced found,
    outcome_run_binary, outcome_of_broken broken depth]
  rfl

/-- An operation is taken apart at a sign in its last operand, if that is not searched for
after its operator. -/
theorem outcome_of_sign_last (depth : Nat) (solid : Solid literal.text) {last : UnsignedLiteral}
    (shape : last.text = front ++ sign.symbol :: rest)
    (notHigher : searchRank sign ≤ searchRank operator) :
    ((ofText (depth + 3) (literal.followedBy leftGap operator rightGap last.text)).run
        environment).outcome = .error (.invalid (String.ofList front)) := by
  obtain ⟨broken, decimal, nonempty⟩ := last.exists_of_symbol shape
  have digits := solid_of_digits nonempty decimal
  have found : split? (literal.followedBy leftGap operator rightGap last.text) =
      some ⟨literal.followedBy leftGap operator rightGap front, sign, rest⟩ := by
    have wholeShape : literal.followedBy leftGap operator rightGap last.text =
        literal.followedBy leftGap operator rightGap front ++ sign.symbol :: rest := by
      simp [followedBy, shape]
    have level : netDepth (literal.followedBy leftGap operator rightGap front) = 0 :=
      netDepth_of_isBalanced (literal.isBalanced_followedBy broken.solid.balanced)
    rw [wholeShape]
    apply split?_append_of_hidden _ digits.tight.nonempty level (digits.hidden sign)
    · intro earlier lower
      have notOperator := ne_of_searchRank_lt (Nat.lt_of_lt_of_le lower notHigher)
      have notSign := ne_of_searchRank_lt lower
      rw [← wholeShape]
      exact literal.hidden_followedBy notOperator (solid.hidden earlier)
        (last.hidden_of_ne shape notSign)
    · simp [followedBy]
  rw [literal.ofText_followedBy (depth + 2) last.tight_text last.isBalanced_text found,
    outcome_run_binary,
    -- In front of the sign stands an operation of its own, with a broken number at its end.
    literal.outcome_followedBy depth broken.solid.tight broken.solid.balanced
      (fun other _ => solid.hidden other) (fun other _ => broken.solid.hidden other),
    outcome_of_broken broken depth]
  rfl

end Signs

end UnsignedLiteral

/-! ## Operations in a text -/

/-- What comes of an operation on the literal in a text: the result, unless the literal has a
sign that is in the way, and otherwise the error for what is in front of the sign. -/
structure ActsAsOperand (text : List Char) (inTheWay : Operator → Prop)
    (outcome result : Outcome) : Prop where
  clear : (∀ sign : Operator, sign.symbol ∈ text → ¬ inTheWay sign) → outcome = result
  parted : ∀ (sign : Operator) (front rest : List Char), text = front ++ sign.symbol :: rest →
    inTheWay sign → outcome = .error (.invalid (String.ofList (trim front)))

theorem exists_shape_of_spacing {before text after front rest : List Char} {sign : Operator}
    (spacingBefore : ∀ char ∈ before, isSpacing char = true)
    (spacingAfter : ∀ char ∈ after, isSpacing char = true)
    (shape : before ++ (text ++ after) = front ++ sign.symbol :: rest) :
    ∃ inner behind, front = before ++ inner ∧ text = inner ++ sign.symbol :: behind := by
  have absent : ∀ {spacing : List Char}, (∀ char ∈ spacing, isSpacing char = true) →
      sign.symbol ∉ spacing := by
    intro spacing allSpacing member
    have isSpace := allSpacing _ member
    rw [isSpacing_symbol] at isSpace
    cases isSpace
  obtain ⟨inner, frontShape, inside⟩ := exists_behind_of_not_mem (absent spacingBefore) shape
  obtain ⟨behind, textShape, _⟩ := exists_before_of_not_mem (absent spacingAfter) inside
  exact ⟨inner, behind, frontShape, textShape⟩

theorem UnsignedLiteral.actsAsOperand (literal : UnsignedLiteral) {before after : List Char}
    {inTheWay : Operator → Prop} {outcome result : Outcome}
    (spacingBefore : ∀ char ∈ before, isSpacing char = true)
    (spacingAfter : ∀ char ∈ after, isSpacing char = true)
    (clear : (∀ other, inTheWay other → Hidden other.symbol literal.text) → outcome = result)
    (parted : ∀ (sign : Operator) (front rest : List Char),
      literal.text = front ++ sign.symbol :: rest → inTheWay sign →
        outcome = .error (.invalid (String.ofList front))) :
    ActsAsOperand (before ++ (literal.text ++ after)) inTheWay outcome result where
  clear := by
    intro noneInTheWay
    apply clear
    intro other blocks
    apply Hidden.of_not_mem
    intro member
    exact noneInTheWay other (by simp [member]) blocks
  parted := by
    intro sign front rest shape blocks
    obtain ⟨inner, behind, rfl, literalShape⟩ :=
      exists_shape_of_spacing spacingBefore spacingAfter shape
    have broken := (literal.exists_of_symbol literalShape).1
    rw [trim_append_of_blank_left (blank_of_spacing spacingBefore), broken.solid.tight.trim_eq]
    exact parted sign inner behind literalShape blocks

theorem UnsignedInteger.outcome_ofText (number : UnsignedInteger) (environment : Environment)
    (depth : Nat) :
    ((ofText (depth + 1) number.text).run environment).outcome =
      .ok (Value.integer number.value) := by
  have trimmed := (Leaf.integer number).solid.tight.trim_eq
  rw [number.value_eq]
  exact (UnsignedLiteral.integer number).outcome_ofText trimmed depth

/-- An operation written with single spaces. -/
def spaced (left : List Char) (operator : Operator) (right : List Char) : String :=
  String.ofList (left ++ ' ' :: operator.symbol :: ' ' :: right)

section Spaced

variable {text : List Char} {value : Value} (operator : Operator) (number : UnsignedInteger)

theorem outcome_spaced_left (depth : Nat) (environment : Environment)
    (read : literal? text = .ok (some value))
    (unsigned : ∀ char ∈ (trim text).head?, char ≠ '+' ∧ char ≠ '-') :
    ActsAsOperand text (fun sign => searchRank sign < searchRank operator)
      (evaluateWithin (depth + 2) environment (spaced text operator number.text)).outcome
      (operator.apply value (Value.integer number.value)) := by
  obtain ⟨before, literal, after, rfl, spacingBefore, spacingAfter, rfl⟩ :=
    UnsignedLiteral.exists_of_literal? read unsigned
  have blankAfter : ∀ char ∈ after ++ [' '], isBlank char = true := by
    intro char member
    rcases List.mem_append.mp member with inAfter | isSpace
    · exact isBlank_of_isSpacing (spacingAfter char inAfter)
    · rw [List.mem_singleton.mp isSpace]
      decide
  have shape : before ++ (literal.text ++ after) ++ ' ' :: operator.symbol :: ' ' ::
      number.text = before ++ literal.followedBy ⟨after ++ [' '], blankAfter⟩ operator
        .space number.text := by
    simp [UnsignedLiteral.followedBy, Gap.space]
  rw [outcome_evaluateWithin, spaced, String.toList_ofList, shape,
    ofText_congr_trim _ (trim_append_of_blank_left (blank_of_spacing spacingBefore))]
  have solid : Solid number.text := (Leaf.integer number).solid
  apply literal.actsAsOperand spacingBefore spacingAfter
  · intro literalHidden
    rw [literal.outcome_followedBy depth solid.tight solid.balanced literalHidden
      (fun other _ => solid.hidden other), number.outcome_ofText]
    rfl
  · intro sign front rest literalShape lower
    exact literal.outcome_of_sign_first depth solid literalShape lower

theorem outcome_spaced_right (depth : Nat) (environment : Environment)
    (read : literal? text = .ok (some value))
    (unsigned : ∀ char ∈ (trim text).head?, char ≠ '+' ∧ char ≠ '-') :
    ActsAsOperand text (fun sign => searchRank sign ≤ searchRank operator)
      (evaluateWithin (depth + 3) environment (spaced number.text operator text)).outcome
      (operator.apply (Value.integer number.value) value) := by
  obtain ⟨before, literal, after, rfl, spacingBefore, spacingAfter, rfl⟩ :=
    UnsignedLiteral.exists_of_literal? read unsigned
  have blankBefore : ∀ char ∈ ' ' :: before, isBlank char = true := by
    intro char member
    rcases List.mem_cons.mp member with rfl | inBefore
    · decide
    · exact isBlank_of_isSpacing (spacingBefore char inBefore)
  have shape : number.text ++ ' ' :: operator.symbol :: ' ' ::
      (before ++ (literal.text ++ after)) =
        (UnsignedLiteral.integer number).followedBy .space operator ⟨' ' :: before, blankBefore⟩
          literal.text ++ after := by
    simp [UnsignedLiteral.followedBy, UnsignedLiteral.text, Gap.space]
  rw [outcome_evaluateWithin, spaced, String.toList_ofList, shape,
    ofText_congr_trim _ (trim_append_of_blank (blank_of_spacing spacingAfter))]
  have solid : Solid (UnsignedLiteral.integer number).text := (Leaf.integer number).solid
  apply literal.actsAsOperand spacingBefore spacingAfter
  · intro literalHidden
    rw [UnsignedLiteral.outcome_followedBy _ (depth + 1) literal.tight_text
      literal.isBalanced_text (fun other _ => solid.hidden other) literalHidden,
      literal.outcome_ofText literal.tight_text.trim_eq, number.value_eq]
    rfl
  · intro sign front rest literalShape notHigher
    exact UnsignedLiteral.outcome_of_sign_last _ depth solid literalShape notHigher

/-- A literal beside an operator is its operand unless a sign in it is searched for first. -/
theorem evaluateWithin_spaced (depth : Nat) (environment : Environment)
    (read : literal? text = .ok (some value))
    (unsigned : ∀ char ∈ (trim text).head?, char ≠ '+' ∧ char ≠ '-') :
    ActsAsOperand text (fun sign => searchRank sign < searchRank operator)
        (evaluateWithin (depth + 3) environment (spaced text operator number.text)).outcome
        (operator.apply value (Value.integer number.value)) ∧
      ActsAsOperand text (fun sign => searchRank sign ≤ searchRank operator)
        (evaluateWithin (depth + 3) environment (spaced number.text operator text)).outcome
        (operator.apply (Value.integer number.value) value) :=
  ⟨outcome_spaced_left operator number (depth + 1) environment read unsigned,
    outcome_spaced_right operator number depth environment read unsigned⟩

end Spaced

/-- The literal `1.5e-3`. -/
def scientificSample : UnsignedLiteral :=
  .decimal ⟨.none, ['1'], ['5'], some ⟨'e', .minus, ['3'], by simp, by simp, by simp⟩, by simp,
    by simp, by simp⟩ rfl

theorem unsigned_scientificSample :
    ∀ char ∈ (trim scientificSample.text).head?, char ≠ '+' ∧ char ≠ '-' := by
  have isHead : (trim scientificSample.text).head? = some '1' := by
    rw [scientificSample.tight_text.trim_eq]
    rfl
  intro char isFirst
  rw [isHead, Option.mem_some] at isFirst
  rw [← isFirst]
  decide

def noNames : Environment :=
  fun _ => .ok none

open Operator in
theorem evaluateWithin_spaced_sample :
    literal? scientificSample.text = .ok (some scientificSample.value) ∧
    (∀ char ∈ (trim scientificSample.text).head?, char ≠ '+' ∧ char ≠ '-') ∧
    (evaluate noNames "1.5e-3 + 2").outcome =
      plus.apply scientificSample.value (Value.integer 2) ∧
    (evaluate noNames "2 - 1.5e-3").outcome = .error (.invalid "1.5e") := by
  have onLeft := (evaluateWithin_spaced plus Chain.numberSample (depthLimit - 3) noNames
    scientificSample.literal?_text unsigned_scientificSample).1
  have onRight := (evaluateWithin_spaced minus Chain.numberSample (depthLimit - 3) noNames
    scientificSample.literal?_text unsigned_scientificSample).2
  exact ⟨scientificSample.literal?_text, unsigned_scientificSample,
    onLeft.clear fun sign _ lower => Nat.not_lt_zero _ lower,
    onRight.parted minus ['1', '.', '5', 'e'] ['3'] rfl (Nat.le_refl _)⟩

/-- `1.5e-3 * 2` has no value. -/
theorem not_forall_evaluate_spaced :
    ¬ ∀ (environment : Environment) (operator : Operator) (text : List Char) (value : Value)
      (number : UnsignedInteger), literal? text = .ok (some value) →
      (∀ char ∈ (trim text).head?, char ≠ '+' ∧ char ≠ '-') →
      (evaluate environment (spaced text operator number.text)).outcome =
          operator.apply value (Value.integer number.value) ∧
        (evaluate environment (spaced number.text operator text)).outcome =
          operator.apply (Value.integer number.value) value := by
  intro always
  have product : (evaluate noNames "1.5e-3 * 2").outcome =
      Operator.times.apply scientificSample.value (Value.integer 2) :=
    (always noNames .times scientificSample.text scientificSample.value Chain.numberSample
      scientificSample.literal?_text unsigned_scientificSample).1
  have fails : (evaluate noNames "1.5e-3 * 2").outcome.isOk = false := by
    decide +kernel
  have applies :
      (Operator.times.apply scientificSample.value (Value.integer 2)).isOk = true := by
    decide +kernel
  rw [product, applies] at fails
  cases fails

end CalcShell

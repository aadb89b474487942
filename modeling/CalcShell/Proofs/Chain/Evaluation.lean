import CalcShell.Proofs.Chain.Recognition
import CalcShell.Proofs.Chain.Search
import CalcShell.Proofs.Expression.Reading

/-!
# Evaluation of chains

Reading the text of a chain gives its tree by the levels in which operators are
searched for, as far as the nesting is not too deep.  Evaluation therefore has
the outcome of that tree and looks up the same names in the same order.
-/

namespace CalcShell

open Expression Number Text

/-- Unless evaluation of an expression becomes too deep, it goes as for a tree. -/
def Agrees (environment : Environment) (expression : Expression) (tree : Tree) : Prop :=
  expression.reachesLimit environment = false →
    (expression.run environment).outcome = tree.outcome environment ∧
      (expression.run environment).lookups = tree.lookups environment

section Agreement

variable {environment : Environment}

theorem Agrees.tooDeep (source : List Char) (tree : Tree) :
    Agrees environment (.refused source .tooDeep) tree := by
  intro within
  cases within

theorem Agrees.withSource {expression : Expression} {tree : Tree}
    (agrees : Agrees environment expression tree) (source : List Char) :
    Agrees environment (expression.withSource source) tree := by
  intro within
  rw [reachesLimit_withSource] at within
  simpa using agrees within

theorem Agrees.binary {left right : Expression} {leftTree rightTree : Tree}
    (leftAgrees : Agrees environment left leftTree)
    (rightAgrees : Agrees environment right rightTree)
    (source : List Char) (operator : Operator) :
    Agrees environment (.binary source left operator right)
      (.apply operator leftTree rightTree) := by
  intro within
  obtain ⟨leftWithin, rightWithin⟩ := reachesLimit_binary within
  obtain ⟨leftOutcome, leftLookups⟩ := leftAgrees leftWithin
  rw [outcome_run_binary, lookups_run_binary, Tree.outcome, Tree.lookups, leftOutcome,
    leftLookups]
  cases reached : leftTree.outcome environment with
  | error error =>
      exact ⟨rfl, rfl⟩
  | ok leftValue =>
      rw [reached] at leftOutcome
      obtain ⟨rightOutcome, rightLookups⟩ := rightAgrees (rightWithin leftValue leftOutcome)
      rw [rightOutcome, rightLookups]
      exact ⟨rfl, rfl⟩

end Agreement

/-! ## Leaves -/

theorem UnsignedInteger.value_eq (spelling : UnsignedInteger) :
    spelling.value = digitsValue spelling.digits := by
  rw [IntegerSpelling.value, spelling.unsigned]
  rfl

theorem UnsignedInteger.literal?_eq (spelling : UnsignedInteger) :
    literal? spelling.text =
      .ok (some (Value.integer (digitsValue spelling.digits))) := by
  have read := literal?_integer spelling.toIntegerSpelling spacing_nil spacing_nil
    spelling.short (by rw [spelling.value_eq]; exact spelling.inRange)
  rw [spelling.value_eq] at read
  simpa using read

theorem UnsignedDecimal.literal?_eq (spelling : UnsignedDecimal) :
    literal? spelling.text = .ok (some (Value.double spelling.numeral.toDouble)) := by
  simpa using literal?_decimal spelling.toDecimalSpelling spacing_nil spacing_nil

theorem stripParens_of_literal? {text : List Char} {value : Value}
    (read : literal? text = .ok (some value)) : stripParens text = text := by
  apply stripParens_of_head_ne
  intro isHead
  exact (not_mem_of_literal? read).1 (List.mem_of_mem_head? isHead)

theorem Expression.NameSpelling.stripParens_text (spelling : NameSpelling) :
    stripParens spelling.text = spelling.text := by
  apply stripParens_of_head_ne
  intro isHead
  have inName := spelling.isNameRest_of_mem (List.mem_of_mem_head? isHead)
  revert inName
  decide

def Leaf.expression : Leaf → Expression
  | .integer spelling =>
    .literal spelling.text (Value.integer (digitsValue spelling.digits))
  | .decimal spelling => .literal spelling.text (Value.double spelling.numeral.toDouble)
  | .name spelling => .variable spelling.text (String.ofList spelling.text)
  | .enclosed inside => .literal ('(' :: (inside.text ++ [')'])) inside.value

theorem Leaf.ofText_eq (leaf : Leaf) (depth : Nat) :
    ofText (depth + 1) leaf.text = leaf.expression := by
  rw [ofText_of_tight depth leaf.solid.tight leaf.solid.balanced]
  cases leaf with
  | integer spelling =>
      have read := spelling.literal?_eq
      rw [Leaf.text, stripParens_of_literal? read, ofCore_literal read]
      rfl
  | decimal spelling =>
      have read := spelling.literal?_eq
      rw [Leaf.text, stripParens_of_literal? read, ofCore_literal read]
      rfl
  | name spelling =>
      rw [Leaf.text, spelling.stripParens_text,
        ofCore_name spelling.literal?_text spelling.isName_text]
      rfl
  | enclosed inside =>
      have noParens := not_mem_of_literal? inside.read
      rw [Leaf.text, stripParens_enclosed (isBalanced_of_no_parens noParens.1 noParens.2),
        stripParens_of_literal? inside.read, ofCore_literal inside.read]
      rfl

theorem Leaf.agrees (environment : Environment) (leaf : Leaf) :
    Agrees environment leaf.expression (.leaf leaf) := by
  intro _
  cases leaf with
  | name spelling => exact ⟨outcome_run_variable .., lookups_run_variable ..⟩
  | integer | decimal | enclosed => exact ⟨rfl, rfl⟩

/-! ## Chains -/

namespace Chain

section Joined

variable {left right : Chain} {leftGap rightGap : Gap} {operator : Operator}

/-- The text of a chain is split at the last occurrence of the operator that is searched
for before all others in it. -/
theorem split?_text_joined (absent : operator ∉ right.operators)
    (least : ∀ other ∈ (joined left leftGap operator rightGap right).operators,
      searchRank operator ≤ searchRank other) :
    split? (joined left leftGap operator rightGap right).text =
      some ⟨left.text ++ leftGap.text, operator, rightGap.text ++ right.text⟩ := by
  have level : netDepth (left.text ++ leftGap.text) = 0 := by
    rw [netDepth_append, netDepth_of_isBalanced left.isBalanced_text,
      netDepth_of_isBalanced leftGap.isBalanced_text, Int.zero_add]
  have hidden : Hidden operator.symbol (rightGap.text ++ right.text) :=
    (rightGap.hidden_text operator).append (netDepth_of_isBalanced rightGap.isBalanced_text)
      (right.hidden_text operator absent)
  rw [text_joined]
  apply split?_append_of_hidden _ _ level hidden
  · intro earlier lower
    rw [← text_joined]
    apply Chain.hidden_text
    intro member
    exact absurd lower (Nat.not_lt_of_le (least earlier member))
  · simp [left.tight_text.nonempty]
  · simp [right.tight_text.nonempty]

theorem stripParens_text_joined :
    stripParens (joined left leftGap operator rightGap right).text =
      (joined left leftGap operator rightGap right).text := by
  apply stripParens_of_not_hidden (symbol_ne_opening operator)
  intro hidden
  apply hidden (left.text ++ leftGap.text) (rightGap.text ++ right.text) (text_joined ..)
  rw [netDepth_append, netDepth_of_isBalanced left.isBalanced_text,
    netDepth_of_isBalanced leftGap.isBalanced_text, Int.zero_add]

/-- A chain is read from its two sides at the operator that is searched for first. -/
theorem ofText_joined (depth : Nat) (absent : operator ∉ right.operators)
    (least : ∀ other ∈ (joined left leftGap operator rightGap right).operators,
      searchRank operator ≤ searchRank other) :
    ofText (depth + 1) (joined left leftGap operator rightGap right).text =
      .binary (joined left leftGap operator rightGap right).text
        (ofText depth left.text) operator (ofText depth right.text) := by
  have present : (joined left leftGap operator rightGap right).operators ≠ [] := by
    simp [operators_joined]
  obtain ⟨operand, gap, first, more, shape⟩ := exists_first _ present
  have noLiteral : literal? (joined left leftGap operator rightGap right).text = .ok none := by
    rw [shape]
    exact operand.literal?_followed gap first more
  have noName : isName (joined left leftGap operator rightGap right).text = false := by
    rw [shape]
    exact operand.isName_followed gap first more
  rw [ofText_of_tight depth (tight_text _) (isBalanced_text _), stripParens_text_joined,
    ofCore_split noLiteral noName (split?_text_joined absent least)]
  rw [ofText_congr_trim depth (trim_append_of_blank leftGap.blank),
    ofText_congr_trim depth (trim_append_of_blank_left rightGap.blank)]

end Joined

section Agreement

variable {environment : Environment}

theorem agrees (chain : Chain) : ∀ limit : Nat,
    Agrees environment (ofText limit chain.text) (chain.tree searchLevels) := by
  induction chain using inductionOnSearch with
  | atom leaf =>
      intro limit
      cases limit with
      | zero => exact Agrees.tooDeep _ _
      | succ depth =>
          rw [tree_single_atom, text, Operand.text, leaf.ofText_eq]
          exact leaf.agrees environment
  | group inner inductionHypothesis =>
      intro limit
      cases limit with
      | zero => exact Agrees.tooDeep _ _
      | succ depth =>
          rw [tree_single_group, text, Operand.text,
            ofText_enclosed _ inner.tight_text inner.isBalanced_text]
          exact (inductionHypothesis (depth + 1)).withSource _
  | joined left leftGap operator rightGap right absent least leftAgrees rightAgrees =>
      intro limit
      cases limit with
      | zero => exact Agrees.tooDeep _ _
      | succ depth =>
          rw [ofText_joined depth absent least, tree_searchLevels_joined absent least]
          exact (leftAgrees depth).binary (rightAgrees depth) _ operator

/-- A limit that is no less than the height of the tree is not reached. -/
theorem reachesLimit_eq_false (environment : Environment) (chain : Chain) : ∀ limit : Nat,
    (chain.tree searchLevels).height ≤ limit →
      (ofText limit chain.text).reachesLimit environment = false := by
  induction chain using inductionOnSearch with
  | atom leaf =>
      intro limit shallow
      rw [tree_single_atom, Tree.height] at shallow
      obtain ⟨depth, rfl⟩ := Nat.exists_eq_add_of_le' shallow
      rw [text, Operand.text, leaf.ofText_eq]
      cases leaf <;> rfl
  | group inner inductionHypothesis =>
      intro limit shallow
      rw [tree_single_group] at shallow
      have within := inductionHypothesis limit shallow
      have positive := Nat.le_trans (inner.tree searchLevels).height_pos shallow
      obtain ⟨depth, rfl⟩ := Nat.exists_eq_add_of_le' positive
      rw [text, Operand.text, ofText_enclosed _ inner.tight_text inner.isBalanced_text,
        reachesLimit_withSource]
      exact within
  | joined left leftGap operator rightGap right absent least leftWithin rightWithin =>
      intro limit shallow
      rw [tree_searchLevels_joined absent least, Tree.height] at shallow
      obtain ⟨depth, rfl⟩ := Nat.exists_eq_add_of_le' (Nat.le_of_add_left_le shallow)
      rw [ofText_joined depth absent least, reachesLimit, leftWithin depth (by omega),
        rightWithin depth (by omega)]
      simp

end Agreement

/-- A chain is evaluated like its tree by the levels of the search: with the same outcome
and the same lookups, the left operand before the right one, up to the first error.  The
limit of `evaluate` is `depthLimit`. -/
theorem evaluateWithin_eq_tree (limit : Nat) (environment : Environment) (chain : Chain)
    (within : (ofText limit chain.text).reachesLimit environment = false) :
    (evaluateWithin limit environment (String.ofList chain.text)).outcome =
        (chain.tree searchLevels).outcome environment ∧
      (evaluateWithin limit environment (String.ofList chain.text)).lookups =
        (chain.tree searchLevels).lookups environment := by
  rw [outcome_evaluateWithin, lookups_evaluateWithin, String.toList_ofList]
  exact agrees chain limit within

def nameSample : NameSpelling :=
  ⟨'x', [], by decide, by simp⟩

def numberSample : UnsignedInteger :=
  ⟨⟨.none, ['2'], by simp, by simp⟩, rfl, by decide, by decide⟩

/-- The chain `x - (2 + x)*(-3)`. -/
def sample : Chain :=
  let x : Leaf := .name nameSample
  let two : Leaf := .integer numberSample
  let minusThree : Leaf := .enclosed ⟨['-', '3'], Value.integer (-3), rfl⟩
  let inner : Chain := .link (.single (.atom two)) .space .plus .space (.atom x)
  let front : Chain := .link (.single (.atom x)) .space .minus .space (.group inner)
  .link front .nothing .times .nothing (.atom minusThree)

def sampleEnvironment : Environment
  | "x" => .ok (some (Value.integer 5))
  | _ => .ok none

theorem evaluateWithin_eq_tree_sample :
    (ofText depthLimit sample.text).reachesLimit sampleEnvironment = false ∧
      (evaluate sampleEnvironment "x - (2 + x)*(-3)").outcome = .ok (Value.integer 26) ∧
      (evaluate sampleEnvironment "x - (2 + x)*(-3)").lookups = ["x", "x"] := by
  have within : (ofText depthLimit sample.text).reachesLimit sampleEnvironment = false := by
    decide +kernel
  have agrees := evaluateWithin_eq_tree depthLimit sampleEnvironment sample within
  exact ⟨within, agrees.1, agrees.2⟩

end Chain

end CalcShell

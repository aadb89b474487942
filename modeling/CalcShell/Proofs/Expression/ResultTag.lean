import CalcShell.Proofs.Expression.ReadAs
import CalcShell.Proofs.Value.Kind

/-!
# The tag of a result

The kind of number that an operation comes to depends on the kinds of its operands only.
So the tag of what an expression comes to is known before anything is computed: a
quotient anywhere in it makes it a double, and otherwise it is the widest of the tags of
all operands, in whatever way they are grouped.
-/

namespace CalcShell

open Expression Number Text

namespace NumericKind

/-- One of the kinds that is at least as wide as all of them. -/
def IsWidest (kind : NumericKind) (kinds : List NumericKind) : Prop :=
  kind ∈ kinds ∧ ∀ other ∈ kinds, other.rank ≤ kind.rank

variable {kind left right : NumericKind} {leftKinds rightKinds : List NumericKind}

theorem isWidest_singleton (kind : NumericKind) : kind.IsWidest [kind] := by
  simp [IsWidest]

theorem wider_eq_or (left right : NumericKind) :
    left.wider right = left ∨ left.wider right = right := by
  rw [wider]
  split
  · exact Or.inl rfl
  · exact Or.inr rfl

theorem rank_wider (left right : NumericKind) :
    (left.wider right).rank = max left.rank right.rank := by
  rw [wider]
  split <;> omega

theorem IsWidest.append (leftWidest : left.IsWidest leftKinds)
    (rightWidest : right.IsWidest rightKinds) :
    (left.wider right).IsWidest (leftKinds ++ rightKinds) := by
  constructor
  · rcases wider_eq_or left right with isLeft | isRight
    · rw [isLeft]
      exact List.mem_append_left _ leftWidest.1
    · rw [isRight]
      exact List.mem_append_right _ rightWidest.1
  · intro other member
    rw [rank_wider]
    rcases List.mem_append.mp member with inLeft | inRight
    · exact Nat.le_trans (leftWidest.2 other inLeft) (Nat.le_max_left _ _)
    · exact Nat.le_trans (rightWidest.2 other inRight) (Nat.le_max_right _ _)

theorem tag_eq_of_numericKind? {tag : Tag} (numeric : tag.numericKind? = some kind) :
    tag = kind.tag := by
  cases tag <;> cases numeric <;> rfl

end NumericKind

namespace Operator

variable {operator : Operator}

theorem resultKind_eq_wider (noDivision : operator ≠ .dividedBy) (left right : NumericKind) :
    operator.resultKind left right = left.wider right := by
  cases operator with
  | dividedBy => exact absurd rfl noDivision
  | _ => rfl

theorem resultKind_double_left (operator : Operator) (right : NumericKind) :
    operator.resultKind .double right = .double := by
  cases operator <;> cases right <;> rfl

theorem resultKind_double_right (operator : Operator) (left : NumericKind) :
    operator.resultKind left .double = .double := by
  cases operator <;> cases left <;> rfl

end Operator

namespace Expression

/-- The operators in an expression, from left to right. -/
def operators : Expression → List Operator
  | .literal .. | .variable .. | .refused .. => []
  | .binary _ left operator right => left.operators ++ operator :: right.operators

/-- The tags of the operands in an expression, from left to right.  A literal is a double if
it has a point and an integer if it has none, a name has the tag of the value that it is bound
to, and what has no value has no tag. -/
def operandTags (environment : Environment) : Expression → List (Option Tag)
  | .literal source _ => [some (if '.' ∈ source then .double else .integer)]
  | .variable _ name =>
    match environment name with
    | .ok (some value) => [some value.tag]
    | _ => [none]
  | .binary _ left _ right => left.operandTags environment ++ right.operandTags environment
  | .refused .. => [none]

theorem tag_of_literal? {text : List Char} {value : Value}
    (read : literal? text = .ok (some value)) :
    value.tag = if '.' ∈ text then .double else .integer := by
  obtain ⟨before, body, after, rfl, spacingBefore, spacingAfter, spelled⟩ :=
    literal?_eq_ok_some_iff.mp read
  cases spelled with
  | integer spelling short inRange =>
      have noPoint : '.' ∉ before ++ (spelling.text ++ after) := by
        simp only [List.mem_append, not_or]
        exact ⟨point_not_mem_of_spacing spacingBefore, spelling.point_not_mem,
          point_not_mem_of_spacing spacingAfter⟩
      rw [if_neg noPoint]
      rfl
  | decimal spelling =>
      have point : '.' ∈ before ++ (spelling.text ++ after) := by
        simp [spelling.point_mem]
      rw [if_pos point]
      rfl

theorem division_not_mem_of_literal? {text : List Char} {value : Value}
    (read : literal? text = .ok (some value)) : '/' ∉ text := by
  intro member
  have impossible := mem_of_literal? read member
  revert impossible
  decide

section Reading

variable {environment : Environment} {limit : Nat} {text : List Char} {expression : Expression}
  {value : Value}

/-- In a text that has a value every sign of division is an operator. -/
theorem ReadAs.division_mem_iff (readAs : ReadAs limit text expression)
    (evaluated : (expression.run environment).outcome = .ok value) :
    '/' ∈ text ↔ Operator.dividedBy ∈ expression.operators := by
  have inCore : ∀ text, '/' ∈ coreOf text ↔ '/' ∈ text := fun text =>
    isInner_isOperatorChar.mem_coreOf_iff text rfl
  induction readAs generalizing value with
  | tooDeep text => cases evaluated
  | refused reason => cases evaluated
  | @literal depth text value read =>
      rw [← inCore text]
      exact iff_of_false (division_not_mem_of_literal? read) List.not_mem_nil
  | @name depth text named =>
      rw [← inCore text]
      exact iff_of_false (symbol_not_mem_of_isName named .dividedBy) List.not_mem_nil
  | @operation depth text split found leftRead rightRead leftHolds rightHolds =>
      obtain ⟨leftValue, rightValue, leftOutcome, rightOutcome, _⟩ :=
        (outcome_run_binary_eq_ok_iff environment).mp evaluated
      have between : '/' = split.operator.symbol ↔ Operator.dividedBy = split.operator :=
        ⟨@symbol_injective .dividedBy split.operator, congrArg Operator.symbol⟩
      rw [← inCore text, (eq_of_split?_eq_some found).1, operators]
      simp only [List.mem_append, List.mem_cons, leftHolds leftOutcome,
        rightHolds rightOutcome, between]

/-- The kind of a number that a text comes to. -/
theorem ReadAs.exists_kinds (readAs : ReadAs limit text expression)
    (evaluated : (expression.run environment).outcome = .ok value) {kind : NumericKind}
    (numeric : value.numericKind? = some kind) :
    ∃ kinds : List NumericKind,
      expression.operandTags environment = kinds.map (fun kind => some kind.tag) ∧
      if .dividedBy ∈ expression.operators then kind = .double else kind.IsWidest kinds := by
  induction readAs generalizing value kind with
  | tooDeep text => cases evaluated
  | refused reason => cases evaluated
  | @literal depth text number read =>
      obtain rfl := Except.ok.inj evaluated
      have point : '.' ∈ trim text ↔ '.' ∈ coreOf text :=
        (isInner_point.mem_trim_iff text rfl).trans (isInner_point.mem_coreOf_iff text rfl).symm
      have tagged : number.tag = kind.tag := NumericKind.tag_eq_of_numericKind? numeric
      refine ⟨[kind], ?_, ?_⟩
      · rw [operandTags, List.map_singleton, ← tagged, tag_of_literal? read]
        simp only [point]
      · rw [operators, if_neg List.not_mem_nil]
        exact NumericKind.isWidest_singleton kind
  | name named =>
      have isBound := (outcome_lookup_eq_ok_iff environment).mp evaluated
      have tagged : value.tag = kind.tag := NumericKind.tag_eq_of_numericKind? numeric
      refine ⟨[kind], ?_, ?_⟩
      · rw [operandTags, isBound, List.map_singleton, ← tagged]
      · rw [operators, if_neg List.not_mem_nil]
        exact NumericKind.isWidest_singleton kind
  | @operation depth text split found leftRead rightRead leftHolds rightHolds =>
      obtain ⟨leftValue, rightValue, leftOutcome, rightOutcome, applied⟩ :=
        (outcome_run_binary_eq_ok_iff environment).mp evaluated
      obtain ⟨leftKind, rightKind, leftNumeric, rightNumeric, ofKind⟩ :=
        Operator.ofKind_of_apply applied
      obtain ⟨leftKinds, leftTags, leftWidest⟩ := leftHolds leftOutcome leftNumeric
      obtain ⟨rightKinds, rightTags, rightWidest⟩ := rightHolds rightOutcome rightNumeric
      obtain rfl : split.operator.resultKind leftKind rightKind = kind := by
        rw [ofKind.numericKind?_eq] at numeric
        exact Option.some.inj numeric
      refine ⟨leftKinds ++ rightKinds, ?_, ?_⟩
      · rw [operandTags, leftTags, rightTags, List.map_append]
      · rw [operators]
        split
        · next division =>
            rcases List.mem_append.mp division with inLeft | behind
            · rw [if_pos inLeft] at leftWidest
              rw [leftWidest, Operator.resultKind_double_left]
            · rcases List.mem_cons.mp behind with here | inRight
              · rw [← here]
                rfl
              · rw [if_pos inRight] at rightWidest
                rw [rightWidest, Operator.resultKind_double_right]
        · next noDivision =>
            simp only [List.mem_append, List.mem_cons, not_or] at noDivision
            obtain ⟨notLeft, notHere, notRight⟩ := noDivision
            rw [if_neg notLeft] at leftWidest
            rw [if_neg notRight] at rightWidest
            rw [Operator.resultKind_eq_wider (Ne.symm notHere)]
            exact leftWidest.append rightWidest

end Reading

end Expression

/-- Where an operator has been applied, the tag of the result is a double's if there is a sign of
division in the text, and otherwise the widest of the tags of all operands, which are numbers. -/
theorem tag_of_evaluateWithin (limit : Nat) (environment : Environment) (text : String)
    {value : Value} (evaluated : (evaluateWithin limit environment text).outcome = .ok value)
    (applied : (ofText limit text.toList).operators ≠ []) :
    ∃ (kinds : List NumericKind) (kind : NumericKind),
      (ofText limit text.toList).operandTags environment =
        kinds.map (fun kind => some kind.tag) ∧
      value.tag = kind.tag ∧
      if '/' ∈ text.toList then kind = .double else kind.IsWidest kinds := by
  have readAs := readAs_ofText limit text.toList
  rw [outcome_evaluateWithin] at evaluated
  obtain ⟨kind, numeric⟩ : ∃ kind, value.numericKind? = some kind := by
    cases shape : ofText limit text.toList with
    | binary source left operator right =>
        rw [shape, outcome_run_binary_eq_ok_iff] at evaluated
        obtain ⟨_, _, _, _, result⟩ := evaluated
        obtain ⟨_, _, _, _, ofKind⟩ := Operator.ofKind_of_apply result
        exact ⟨_, ofKind.numericKind?_eq⟩
    | _ => exact absurd (by rw [shape]; rfl) applied
  obtain ⟨kinds, tags, widest⟩ := readAs.exists_kinds evaluated numeric
  simp only [← readAs.division_mem_iff evaluated] at widest
  exact ⟨kinds, kind, tags, NumericKind.tag_eq_of_numericKind? numeric, widest⟩

/-- A long integer inside parentheses makes the whole a long one. -/
theorem tag_of_evaluateWithin_of_long :
    let environment : Environment := fun name =>
      if name = "a" then .ok (some (Value.long 5)) else .ok none
    (evaluateWithin 3 environment "(1 + a) * 2").outcome = .ok (Value.long 12) ∧
      (ofText 3 "(1 + a) * 2".toList).operators ≠ [] ∧
      ∃ (kinds : List NumericKind) (kind : NumericKind),
        (ofText 3 "(1 + a) * 2".toList).operandTags environment =
          kinds.map (fun kind => some kind.tag) ∧
        (Value.long 12).tag = kind.tag ∧
        if '/' ∈ "(1 + a) * 2".toList then kind = .double else kind.IsWidest kinds := by
  intro environment
  have evaluated :
      (evaluateWithin 3 environment "(1 + a) * 2").outcome = .ok (Value.long 12) := by
    with_unfolding_all rfl
  have applied : (ofText 3 "(1 + a) * 2".toList).operators ≠ [] := by decide +kernel
  exact ⟨evaluated, applied, tag_of_evaluateWithin 3 environment _ evaluated applied⟩

end CalcShell

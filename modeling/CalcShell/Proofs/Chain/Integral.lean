import CalcShell.Proofs.Chain.Evaluation
import CalcShell.Proofs.Value.Integer

/-!
# Chains of integers

Where all operands are integers and nothing is divided, the order in which
operators are searched for cannot be seen in a result: it is the exact number that
the chain stands for by the usual precedence, wrapped once.
-/

namespace CalcShell

open Expression Number

/-- The usual reading: sums and differences from left to right, of products and quotients
from left to right. -/
def precedenceLevels : List (List Operator) :=
  [[.plus, .minus], [.times, .dividedBy]]

/-- The exact integer of an operand, when names stand for the given integers. -/
def Leaf.number? (binding : String → Int) : Leaf → Option Int
  | .integer spelling => some (digitsValue spelling.digits)
  | .name spelling => some (binding (String.ofList spelling.text))
  | .decimal _ | .enclosed _ => none

def Tree.number? (binding : String → Int) : Tree → Option Int
  | .leaf operand => operand.number? binding
  | .apply operator left right => do
    return (← operator.onIntegers?) (← left.number? binding) (← right.number? binding)

theorem Tree.number?_apply_eq_some_iff {binding : String → Int} {operator : Operator}
    {left right : Tree} {number : Int} :
    (Tree.apply operator left right).number? binding = some number ↔
      ∃ exact leftNumber rightNumber, operator.onIntegers? = some exact ∧
        left.number? binding = some leftNumber ∧ right.number? binding = some rightNumber ∧
          exact leftNumber rightNumber = number := by
  simp [Tree.number?, Option.bind_eq_some_iff]

def Leaf.IsIntegral (environment : Environment) (binding : String → Int) : Leaf → Prop
  | .integer _ => True
  | .name spelling =>
    ∃ value, environment (String.ofList spelling.text) = .ok (some value) ∧
      value.Stores (binding (String.ofList spelling.text)) ∧
        InRange integerWidth (binding (String.ofList spelling.text))
  | .decimal _ | .enclosed _ => False

mutual

def Operand.IsIntegral (environment : Environment) (binding : String → Int) : Operand → Prop
  | .atom leaf => leaf.IsIntegral environment binding
  | .group inner => inner.IsIntegral environment binding

/-- All operands are integers, or names for them in the environment, and no operator is a
division. -/
def Chain.IsIntegral (environment : Environment) (binding : String → Int) : Chain → Prop
  | .single operand => operand.IsIntegral environment binding
  | .link before _ operator _ last =>
    before.IsIntegral environment binding ∧ operator ≠ .dividedBy ∧
      last.IsIntegral environment binding

end

namespace Chain

/-- The exact integer that a chain stands for. -/
def number? (binding : String → Int) (chain : Chain) : Option Int :=
  (chain.tree precedenceLevels).number? binding

variable {environment : Environment} {binding : String → Int} {left right : Chain}
  {leftGap rightGap : Gap} {operator : Operator}

theorem isIntegral_joined_iff (right : Chain) :
    (joined left leftGap operator rightGap right).IsIntegral environment binding ↔
      left.IsIntegral environment binding ∧ operator ≠ .dividedBy ∧
        right.IsIntegral environment binding := by
  induction right using inductionOnLinks with
  | single operand => rfl
  | link before lastGap last behindGap operand inFront =>
      simp only [joined, IsIntegral, inFront, and_assoc]

theorem not_mem_operators_of_isIntegral :
    ∀ chain : Chain, chain.IsIntegral environment binding → .dividedBy ∉ chain.operators
  | .single _, _ => by
      simp [operators]
  | .link before _ operator _ _, ⟨beforeIntegral, noDivision, _⟩ => by
      have inFront := not_mem_operators_of_isIntegral before beforeIntegral
      simp [operators, inFront, noDivision.symm]

/-! ## The exact integer of two joined chains -/

theorem number?_joined_of_additive (present : operator ∈ [Operator.plus, .minus])
    (absent : ∀ other ∈ right.operators, other ∉ [Operator.plus, .minus]) :
    (joined left leftGap operator rightGap right).number? binding =
      (Tree.apply operator (left.tree precedenceLevels)
        (right.tree precedenceLevels)).number? binding := by
  have split : (joined left leftGap operator rightGap right).tree precedenceLevels =
      .apply operator (left.tree precedenceLevels) (right.tree precedenceLevels) :=
    tree_joined_first present absent
  rw [number?, split]

theorem number?_joined_of_additive_eq_some_iff {number : Int}
    (present : operator ∈ [Operator.plus, .minus])
    (absent : ∀ other ∈ right.operators, other ∉ [Operator.plus, .minus]) :
    (joined left leftGap operator rightGap right).number? binding = some number ↔
      ∃ exact leftNumber rightNumber, operator.onIntegers? = some exact ∧
        left.number? binding = some leftNumber ∧ right.number? binding = some rightNumber ∧
          exact leftNumber rightNumber = number := by
  rw [number?_joined_of_additive present absent, Tree.number?_apply_eq_some_iff]
  rfl

/-- A sum may be put together anywhere: what is added on the right can be added as a whole,
whatever is added and subtracted in it. -/
theorem number?_joined_plus {right : Chain} {rightGap : Gap} {leftNumber rightNumber : Int}
    (leftExact : left.number? binding = some leftNumber)
    (rightExact : right.number? binding = some rightNumber) :
    (joined left leftGap .plus rightGap right).number? binding =
      some (leftNumber + rightNumber) := by
  -- The induction takes one term after the other off the end of the right side.
  by_cases additive : ∃ operator ∈ right.operators, operator ∈ [Operator.plus, .minus]
  · obtain ⟨operator, inner, last, innerGap, lastGap, rfl, present, absent⟩ :=
      exists_joined _ right additive
    obtain ⟨exact, innerNumber, lastNumber, known, innerExact, lastExact, rfl⟩ :=
      (number?_joined_of_additive_eq_some_iff present absent).mp rightExact
    rw [joined_joined, number?_joined_of_additive_eq_some_iff present absent]
    refine ⟨exact, leftNumber + innerNumber, lastNumber, known,
      number?_joined_plus leftExact innerExact, lastExact, ?_⟩
    cases operator with
    | plus =>
        obtain rfl := Option.some.inj known
        exact Int.add_assoc ..
    | minus =>
        obtain rfl := Option.some.inj known
        exact Int.add_sub_assoc ..
    | times | dividedBy => simp at present
  · have absent : ∀ other ∈ right.operators, other ∉ [Operator.plus, .minus] := by
      intro other member inLevel
      exact additive ⟨other, member, inLevel⟩
    rw [number?_joined_of_additive_eq_some_iff (by simp) absent]
    exact ⟨_, leftNumber, rightNumber, rfl, leftExact, rightExact, rfl⟩
termination_by right.operators.length
decreasing_by
  subst_vars
  rw [operators_joined, List.length_append, List.length_cons]
  omega

/-- The order of the search is no other than the usual one as far as exact integers are
concerned. -/
theorem number?_joined {leftNumber rightNumber : Int} {exact : Int → Int → Int}
    (known : operator.onIntegers? = some exact) (absent : operator ∉ right.operators)
    (noDivision : .dividedBy ∉ right.operators)
    (least : ∀ other ∈ (joined left leftGap operator rightGap right).operators,
      searchRank operator ≤ searchRank other)
    (leftExact : left.number? binding = some leftNumber)
    (rightExact : right.number? binding = some rightNumber) :
    (joined left leftGap operator rightGap right).number? binding =
      some (exact leftNumber rightNumber) := by
  have leastRight : ∀ other ∈ right.operators, searchRank operator ≤ searchRank other := by
    intro other member
    exact least other (by simp [operators_joined, member])
  cases operator with
  | plus =>
      obtain rfl := Option.some.inj known
      exact number?_joined_plus leftExact rightExact
  | minus =>
      have absentLevel : ∀ other ∈ right.operators, other ∉ [Operator.plus, .minus] := by
        intro other member inLevel
        rcases List.mem_pair.mp inLevel with rfl | rfl
        · exact absurd (leastRight _ member) (by decide)
        · exact absent member
      rw [number?_joined_of_additive_eq_some_iff (by simp) absentLevel]
      exact ⟨exact, leftNumber, rightNumber, known, leftExact, rightExact, rfl⟩
  | times =>
      have absentAbove : ∀ higher ∈ [[Operator.plus, .minus]],
          ∀ other ∈ (joined left leftGap .times rightGap right).operators, other ∉ higher := by
        intro higher isAdditive other member inLevel
        rw [List.mem_singleton.mp isAdditive] at inLevel
        rcases List.mem_pair.mp inLevel with rfl | rfl <;>
          exact absurd (least _ member) (by decide)
      have absentLevel : ∀ other ∈ right.operators, other ∉ [Operator.times, .dividedBy] := by
        intro other member inLevel
        rcases List.mem_pair.mp inLevel with rfl | rfl
        · exact absent member
        · exact noDivision member
      have split : (joined left leftGap .times rightGap right).tree precedenceLevels =
          .apply .times (left.tree precedenceLevels) (right.tree precedenceLevels) :=
        tree_joined absentAbove (List.mem_cons_self ..) absentLevel
      rw [number?, split, Tree.number?_apply_eq_some_iff]
      exact ⟨exact, leftNumber, rightNumber, known, leftExact, rightExact, rfl⟩
  | dividedBy => cases known

/-! ## Results -/

theorem exists_exact_of_ne {operator : Operator} (noDivision : operator ≠ .dividedBy) :
    ∃ exact, operator.onIntegers? = some exact := by
  cases operator with
  | plus | minus | times => exact ⟨_, rfl⟩
  | dividedBy => exact absurd rfl noDivision

theorem outcome_leaf (leaf : Leaf) (integral : leaf.IsIntegral environment binding) :
    ∃ number value, leaf.number? binding = some number ∧
      leaf.outcome environment = .ok value ∧ value.Stores (wrap integerWidth number) := by
  cases leaf with
  | integer spelling =>
      exact ⟨digitsValue spelling.digits, _, rfl, rfl, Value.stores_integer _⟩
  | name spelling =>
      obtain ⟨value, bound, stores, inRange⟩ := integral
      refine ⟨_, value, rfl, ?_, ?_⟩
      · simp [Leaf.outcome, Environment.lookup, bound]
      · rwa [wrap_of_inRange (by decide) inRange]
  | decimal | enclosed => cases integral

/-- What the search makes of a chain of integers is the exact number, wrapped. -/
theorem outcome_tree (chain : Chain) (integral : chain.IsIntegral environment binding) :
    ∃ number value, chain.number? binding = some number ∧
      (chain.tree searchLevels).outcome environment = .ok value ∧
        value.Stores (wrap integerWidth number) := by
  induction chain using inductionOnSearch with
  | atom leaf =>
      rw [number?, tree_single_atom, tree_single_atom]
      exact outcome_leaf leaf integral
  | group inner inductionHypothesis =>
      rw [number?, tree_single_group, tree_single_group]
      exact inductionHypothesis integral
  | joined left leftGap operator rightGap right absent least leftHypothesis
      rightHypothesis =>
      obtain ⟨leftIntegral, noDivision, rightIntegral⟩ := (isIntegral_joined_iff right).mp integral
      obtain ⟨leftNumber, leftValue, leftExact, leftOutcome, leftStores⟩ :=
        leftHypothesis leftIntegral
      obtain ⟨rightNumber, rightValue, rightExact, rightOutcome, rightStores⟩ :=
        rightHypothesis rightIntegral
      obtain ⟨exact, known⟩ := exists_exact_of_ne noDivision
      obtain ⟨value, applied, stores⟩ :=
        Operator.apply_of_stores known leftStores rightStores
      refine ⟨exact leftNumber rightNumber, value, ?_, ?_, stores⟩
      · exact number?_joined known absent (not_mem_operators_of_isIntegral right rightIntegral)
          least leftExact rightExact
      · rw [tree_searchLevels_joined absent least, Tree.outcome, leftOutcome, rightOutcome]
        exact applied

/-- A chain of integers without divisions evaluates to an integer, and that is the exact
number that the chain stands for by the usual precedence, wrapped once. -/
theorem evaluateWithin_of_isIntegral (limit : Nat) (environment : Environment)
    (binding : String → Int) (chain : Chain)
    (integral : chain.IsIntegral environment binding)
    (within : (ofText limit chain.text).reachesLimit environment = false) :
    ∃ number value, chain.number? binding = some number ∧
      (evaluateWithin limit environment (String.ofList chain.text)).outcome = .ok value ∧
        value.tag = .integer ∧ value.raw = .int (wrap integerWidth number) := by
  obtain ⟨number, value, exact, outcome, stores⟩ := outcome_tree chain integral
  rw [outcome_evaluateWithin, String.toList_ofList, (agrees chain limit within).1]
  exact ⟨number, value, exact, outcome, stores.tag, stores.raw⟩

def largeSample : UnsignedInteger :=
  ⟨⟨.none, "2147483647".toList, by decide, List.all_eq_true.mp (by decide)⟩, rfl, by decide,
    by decide⟩

/-- The chain `x + 2147483647*(2 - x)`. -/
def integralSample : Chain :=
  let x : Leaf := .name nameSample
  let two : Leaf := .integer numberSample
  let large : Leaf := .integer largeSample
  let inner : Chain := .link (.single (.atom two)) .space .minus .space (.atom x)
  let front : Chain := .link (.single (.atom x)) .space .plus .space (.atom large)
  .link front .nothing .times .nothing (.group inner)

theorem isIntegral_integralSample :
    integralSample.IsIntegral sampleEnvironment fun _ => 5 := by
  have bound : sampleEnvironment "x" = .ok (some (Value.integer 5)) := rfl
  have x : ∃ value, sampleEnvironment "x" = .ok (some value) ∧ value.Stores 5 ∧
      InRange integerWidth 5 :=
    ⟨_, bound, ⟨rfl, rfl⟩, by decide⟩
  exact ⟨⟨x, by decide, trivial⟩, by decide, trivial, by decide, x⟩

theorem evaluateWithin_of_isIntegral_sample :
    (integralSample.IsIntegral sampleEnvironment fun _ => 5) ∧
      (ofText depthLimit integralSample.text).reachesLimit sampleEnvironment = false ∧
      ∃ value, (evaluate sampleEnvironment "x + 2147483647*(2 - x)").outcome = .ok value ∧
        value.tag = .integer ∧ value.raw = .int (-2147483640) := by
  have within : (ofText depthLimit integralSample.text).reachesLimit sampleEnvironment =
      false := by
    decide +kernel
  obtain ⟨number, value, exact, outcome, tag, raw⟩ :=
    evaluateWithin_of_isIntegral depthLimit sampleEnvironment (fun _ => 5) integralSample
      isIntegral_integralSample within
  have computed : integralSample.number? (fun _ => 5) = some (-6442450936) := rfl
  obtain rfl := Option.some.inj (computed.symm.trans exact)
  exact ⟨isIntegral_integralSample, within, value, outcome, tag, raw⟩

end Chain

end CalcShell

import CalcShell.Proofs.Chain.Evaluation
import CalcShell.Proofs.Chain.Integral
import CalcShell.Proofs.Value.Double
import Mathlib.Data.List.Chain

/-!
# Reading from left to right

Operators of one level of precedence are searched for one after the other, and so
a chain of them is read from left to right only where none stands behind one that
is searched for earlier: no minus behind a plus, and no division behind a
multiplication.  Where one does, rounding makes the difference visible.
-/

namespace CalcShell

open Expression Number Text

mutual

def Operand.leftTree : Operand → Tree
  | .atom leaf => .leaf leaf
  | .group inner => inner.leftTree

/-- The tree in which every operator is applied to all that stands before it. -/
def Chain.leftTree : Chain → Tree
  | .single operand => operand.leftTree
  | .link before _ operator _ last => .apply operator before.leftTree last.leftTree

end

/-- A literal without a sign, or a name for a number. -/
def Leaf.IsNumber (environment : Environment) : Leaf → Prop
  | .integer _ | .decimal _ => True
  | .name spelling =>
    ∃ value, environment (String.ofList spelling.text) = .ok (some value) ∧
      value.isNumeric = true
  | .enclosed _ => False

def Operand.IsNumber (environment : Environment) : Operand → Prop
  | .atom leaf => leaf.IsNumber environment
  | .group _ => False

def Outcome.double? : Outcome → Option Double
  | .ok ⟨.float value, .double, _⟩ => some value
  | _ => none

namespace Chain

/-- A chain without parentheses whose operands are numbers. -/
def IsFlat (environment : Environment) : Chain → Prop
  | .single operand => operand.IsNumber environment
  | .link before _ _ _ last => before.IsFlat environment ∧ last.IsNumber environment

/-- No operator stands behind one that is searched for earlier. -/
def Descending (operators : List Operator) : Prop :=
  operators.Pairwise fun before behind => searchRank behind ≤ searchRank before

variable {environment : Environment}

theorem isFlat_joined_iff {left : Chain} {leftGap rightGap : Gap} {operator : Operator}
    (right : Chain) :
    (joined left leftGap operator rightGap right).IsFlat environment ↔
      left.IsFlat environment ∧ right.IsFlat environment := by
  induction right using inductionOnLinks with
  | single operand => rfl
  | link before lastGap last behindGap operand inFront =>
      simp only [joined, IsFlat, inFront, and_assoc]

/-! ## Where the two readings agree -/

/-- A chain is taken apart at its last operator when that is searched for no later than all
others. -/
theorem tree_searchLevels_link {before : Chain} {leftGap rightGap : Gap}
    {operator : Operator} {last : Operand}
    (least : ∀ other ∈ before.operators, searchRank operator ≤ searchRank other) :
    (link before leftGap operator rightGap last).tree searchLevels =
      .apply operator (before.tree searchLevels) ((single last).tree searchLevels) := by
  have absent : operator ∉ (single last).operators := by
    simp [operators]
  have leastJoined : ∀ other ∈
      (joined before leftGap operator rightGap (single last)).operators,
      searchRank operator ≤ searchRank other := by
    intro other member
    rcases List.mem_append.mp member with inBefore | isLast
    · exact least other inBefore
    · rw [List.mem_singleton.mp isLast]
  have split := tree_searchLevels_joined absent leastJoined
  rwa [joined] at split

theorem tree_eq_leftTree : ∀ chain : Chain, chain.IsFlat environment →
    Descending chain.operators → chain.tree searchLevels = chain.leftTree
  | .single (.atom leaf), _, _ => tree_single_atom searchLevels leaf
  | .single (.group _), flat, _ => flat.elim
  | .link _ _ _ _ (.group _), flat, _ => flat.2.elim
  | .link before leftGap operator rightGap (.atom leaf), flat, descending => by
      obtain ⟨beforeDescending, _, across⟩ := List.pairwise_append.mp descending
      have least : ∀ other ∈ before.operators, searchRank operator ≤ searchRank other := by
        intro other member
        exact across other member operator (List.mem_singleton_self operator)
      rw [tree_searchLevels_link least, tree_eq_leftTree before flat.1 beforeDescending,
        tree_single_atom]
      rfl

/-! ## Where they differ -/

/-- The first operand of a chain is one number and all others are another. -/
def Padded (first unit : UnsignedDecimal) : Chain → Prop
  | .single operand => operand = .atom (.decimal first)
  | .link before _ _ _ last => before.Padded first unit ∧ last = .atom (.decimal unit)

variable {first unit : UnsignedDecimal}

theorem padded_joined_iff {left : Chain} {leftGap rightGap : Gap} {operator : Operator}
    (right : Chain) :
    (joined left leftGap operator rightGap right).Padded first unit ↔
      left.Padded first unit ∧ right.Padded unit unit := by
  induction right using inductionOnLinks with
  | single operand => rfl
  | link before lastGap last behindGap operand inFront =>
      simp only [joined, Padded, inFront, and_assoc]

theorem exists_padded (first unit : UnsignedDecimal) (operators : List Operator) :
    ∃ chain : Chain, chain.Padded first unit ∧ chain.operators = operators := by
  induction operators using List.reverseRecOn with
  | nil => exact ⟨.single (.atom (.decimal first)), rfl, rfl⟩
  | append_singleton front last inductionHypothesis =>
      obtain ⟨before, padded, rfl⟩ := inductionHypothesis
      exact ⟨.link before .nothing last .nothing (.atom (.decimal unit)), ⟨padded, rfl⟩, rfl⟩

theorem isFlat_of_padded :
    ∀ chain : Chain, chain.Padded first unit → chain.IsFlat environment
  | .single _, rfl => trivial
  | .link before _ _ _ _, ⟨padded, rfl⟩ => ⟨isFlat_of_padded before padded, trivial⟩

end Chain

def UnsignedDecimal.double (spelling : UnsignedDecimal) : Double :=
  spelling.numeral.toDouble

namespace Chain

variable {environment : Environment} {first unit : UnsignedDecimal}

theorem outcome_of_padded (chain : Chain) (padded : chain.Padded first unit)
    (kept : ∀ operator ∈ chain.operators,
      operator.Gives first.double unit.double first.double ∧
        operator.Gives unit.double unit.double unit.double) :
    (chain.tree searchLevels).outcome environment = .ok (Value.double first.double) := by
  induction chain using inductionOnSearch generalizing first with
  | atom leaf =>
      obtain rfl := Operand.atom.inj padded
      rw [tree_single_atom]
      rfl
  | group inner inductionHypothesis => cases padded
  | joined left leftGap operator rightGap right absent least leftHypothesis
      rightHypothesis =>
      obtain ⟨leftPadded, rightPadded⟩ := (padded_joined_iff right).mp padded
      rw [operators_joined] at kept
      have leftOutcome := leftHypothesis leftPadded fun other member =>
        kept other (List.mem_append_left _ member)
      have rightOutcome := rightHypothesis rightPadded fun other member =>
        ⟨(kept other (by simp [member])).2, (kept other (by simp [member])).2⟩
      rw [tree_searchLevels_joined absent least, Tree.outcome, leftOutcome, rightOutcome]
      exact (kept operator (by simp)).1.apply_eq

theorem outcome_leftTree_of_padded : ∀ chain : Chain, chain.Padded first unit →
    (∀ operator ∈ chain.operators,
      operator.Gives first.double unit.double first.double) →
      chain.leftTree.outcome environment = .ok (Value.double first.double)
  | .single _, rfl, _ => rfl
  | .link before _ operator _ _, ⟨padded, rfl⟩, kept => by
      have inFront := outcome_leftTree_of_padded before padded fun other member =>
        kept other (List.mem_append_left _ member)
      rw [leftTree, Tree.outcome, inFront]
      exact (kept operator (by simp [operators])).apply_eq

end Chain

/-- Numbers for which two operators, the first of which is searched for earlier, do not
give the same when they are applied from left to right and when the second is applied
first.  There is a number, too, that can be the operand of either without being noticed. -/
structure Discrepancy (earlier later : Operator) where
  first : UnsignedDecimal
  second : UnsignedDecimal
  third : UnsignedDecimal
  unit : UnsignedDecimal
  inner : Double
  grouped : Double
  step : Double
  straight : Double
  unitKept : ∀ operator ∈ [earlier, later],
    operator.Gives unit.double unit.double unit.double
  firstKept : ∀ operator ∈ [earlier, later],
    operator.Gives first.double unit.double first.double
  innerApplied : later.Gives second.double third.double inner
  innerKept : later.Gives inner unit.double inner
  groupedApplied : earlier.Gives first.double inner grouped
  groupedKept : earlier.Gives grouped unit.double grouped
  stepApplied : earlier.Gives first.double second.double step
  straightApplied : later.Gives step third.double straight
  straightKept : ∀ operator ∈ [earlier, later], operator.Gives straight unit.double straight
  differ : grouped ≠ straight
  order : searchRank earlier < searchRank later

namespace Discrepancy

variable {environment : Environment} {earlier later : Operator} {head : Chain}
  {headGap behindHead thirdGap behindThird : Gap}

/-- The chain that begins with the second number, up to the next earlier operator. -/
theorem outcome_inner (numbers : Discrepancy earlier later) : ∀ tail : Chain,
    tail.Padded numbers.third numbers.unit →
      (∀ operator ∈ tail.operators, operator = later) →
        ((Chain.joined (.single (.atom (.decimal numbers.second))) thirdGap later behindThird
          tail).tree searchLevels).outcome environment = .ok (Value.double numbers.inner)
  | .single _, rfl, _ => by
      rw [Chain.joined, Chain.tree_searchLevels_link (by simp [Chain.operators]),
        Chain.tree_single_atom, Chain.tree_single_atom]
      exact numbers.innerApplied.apply_eq
  | .link before _ operator _ _, ⟨padded, rfl⟩, all => by
      have allBefore : ∀ other ∈ before.operators, other = later := by
        intro other member
        exact all other (List.mem_append_left _ member)
      have inFront := outcome_inner numbers before padded allBefore
      obtain rfl := all operator (by simp [Chain.operators])
      have least : ∀ other ∈ (Chain.joined (.single (.atom (.decimal numbers.second)))
          thirdGap operator behindThird before).operators,
          searchRank operator ≤ searchRank other := by
        intro other member
        have isOperator : other = operator := by
          simpa [Chain.operators_joined, Chain.operators, or_iff_left_of_imp (allBefore other)]
            using member
        rw [isOperator]
      rw [Chain.joined, Chain.tree_searchLevels_link least, Tree.outcome, inFront,
        Chain.tree_single_atom]
      exact numbers.innerKept.apply_eq

/-- The chain with the three numbers in a row, and nothing else that counts. -/
def chain (numbers : Discrepancy earlier later) (head : Chain)
    (headGap behindHead thirdGap behindThird : Gap) (tail : Chain) : Chain :=
  .joined head headGap earlier behindHead
    (.joined (.single (.atom (.decimal numbers.second))) thirdGap later behindThird tail)

/-- The search applies the later operator first. -/
theorem outcome_grouped (numbers : Discrepancy earlier later) (tail : Chain)
    (headPadded : head.Padded numbers.first numbers.unit)
    (tailPadded : tail.Padded numbers.third numbers.unit)
    (headLevel : ∀ operator ∈ head.operators, operator ∈ [earlier, later])
    (tailLevel : ∀ operator ∈ tail.operators, operator ∈ [earlier, later]) :
    ((numbers.chain head headGap behindHead thirdGap behindThird tail).tree
      searchLevels).outcome environment = .ok (Value.double numbers.grouped) := by
  have least : ∀ other ∈
      (numbers.chain head headGap behindHead thirdGap behindThird tail).operators,
      searchRank earlier ≤ searchRank other := by
    intro other member
    have inLevel : other ∈ [earlier, later] := by
      simp only [chain, Chain.operators_joined, List.mem_append, List.mem_cons] at member
      rcases member with inHead | rfl | (inSingle | rfl | inTail)
      · exact headLevel other inHead
      · exact List.mem_cons_self ..
      · cases inSingle
      · simp
      · exact tailLevel other inTail
    have order := numbers.order
    rcases List.mem_pair.mp inLevel with rfl | rfl <;> omega
  -- The search cuts at the last earlier operator: behind the three numbers if there is one
  -- in the tail, and between the first two of them if there is none.
  by_cases again : earlier ∈ tail.operators
  · obtain ⟨found, inner, last, innerGap, lastGap, rfl, isFound, absent⟩ :=
      Chain.exists_joined [earlier] tail ⟨earlier, again, List.mem_singleton_self earlier⟩
    obtain rfl : earlier = found := (List.mem_singleton.mp isFound).symm
    obtain ⟨innerPadded, lastPadded⟩ := (Chain.padded_joined_iff last).mp tailPadded
    rw [Chain.operators_joined] at tailLevel
    have innerOutcome := outcome_grouped numbers inner headPadded innerPadded headLevel
      fun other member => tailLevel other (by simp [member])
    have lastOutcome : (last.tree searchLevels).outcome environment =
        .ok (Value.double numbers.unit.double) := by
      apply Chain.outcome_of_padded last lastPadded
      intro other member
      have inLevel := tailLevel other (by simp [member])
      exact ⟨numbers.unitKept other inLevel, numbers.unitKept other inLevel⟩
    have notAgain : earlier ∉ last.operators := by
      intro inLast
      exact absent earlier inLast isFound
    have shape : numbers.chain head headGap behindHead thirdGap behindThird
        (.joined inner innerGap earlier lastGap last) =
        .joined (numbers.chain head headGap behindHead thirdGap behindThird inner) innerGap
          earlier lastGap last := by
      simp only [chain, Chain.joined_joined]
    rw [shape] at least ⊢
    rw [Chain.tree_searchLevels_joined notAgain least, Tree.outcome, innerOutcome, lastOutcome]
    exact numbers.groupedKept.apply_eq
  · have all : ∀ operator ∈ tail.operators, operator = later := by
      intro operator member
      rcases List.mem_pair.mp (tailLevel operator member) with rfl | rfl
      · exact absurd member again
      · rfl
    have headOutcome : (head.tree searchLevels).outcome environment =
        .ok (Value.double numbers.first.double) := by
      apply Chain.outcome_of_padded head headPadded
      intro other member
      have inLevel := headLevel other member
      exact ⟨numbers.firstKept other inLevel, numbers.unitKept other inLevel⟩
    have innerOutcome : ((Chain.joined (.single (.atom (.decimal numbers.second))) thirdGap
        later behindThird tail).tree searchLevels).outcome environment =
        .ok (Value.double numbers.inner) :=
      numbers.outcome_inner tail tailPadded all
    have absent : earlier ∉ (Chain.joined (.single (.atom (.decimal numbers.second))) thirdGap
        later behindThird tail).operators := by
      have distinct : earlier ≠ later := by
        rintro rfl
        exact Nat.lt_irrefl _ numbers.order
      simp [Chain.operators_joined, Chain.operators, again, distinct]
    rw [chain] at least ⊢
    rw [Chain.tree_searchLevels_joined absent least, Tree.outcome, headOutcome, innerOutcome]
    exact numbers.groupedApplied.apply_eq
termination_by tail.operators.length
decreasing_by
  subst_vars
  rw [Chain.operators_joined, List.length_append, List.length_cons]
  omega

theorem outcome_behind (numbers : Discrepancy earlier later) {front : Chain}
    (frontOutcome : front.leftTree.outcome environment = .ok (Value.double numbers.step)) :
    ∀ tail : Chain, tail.Padded numbers.third numbers.unit →
      (∀ operator ∈ tail.operators, operator ∈ [earlier, later]) →
        (Chain.joined front thirdGap later behindThird tail).leftTree.outcome environment =
          .ok (Value.double numbers.straight)
  | .single _, rfl, _ => by
      rw [Chain.joined, Chain.leftTree, Tree.outcome, frontOutcome]
      exact numbers.straightApplied.apply_eq
  | .link before _ operator _ _, ⟨padded, rfl⟩, inLevel => by
      have inFront := outcome_behind numbers frontOutcome before padded fun other member =>
        inLevel other (List.mem_append_left _ member)
      rw [Chain.joined, Chain.leftTree, Tree.outcome, inFront]
      have kept := numbers.straightKept operator (inLevel operator (by simp [Chain.operators]))
      exact kept.apply_eq

/-- From left to right the earlier operator is applied first. -/
theorem outcome_straight (numbers : Discrepancy earlier later) (tail : Chain)
    (headPadded : head.Padded numbers.first numbers.unit)
    (tailPadded : tail.Padded numbers.third numbers.unit)
    (headLevel : ∀ operator ∈ head.operators, operator ∈ [earlier, later])
    (tailLevel : ∀ operator ∈ tail.operators, operator ∈ [earlier, later]) :
    (numbers.chain head headGap behindHead thirdGap behindThird tail).leftTree.outcome
      environment = .ok (Value.double numbers.straight) := by
  have headOutcome : head.leftTree.outcome environment =
      .ok (Value.double numbers.first.double) :=
    Chain.outcome_leftTree_of_padded head headPadded fun other member =>
      numbers.firstKept other (headLevel other member)
  rw [chain, Chain.joined_joined]
  apply numbers.outcome_behind _ tail tailPadded tailLevel
  rw [Chain.joined, Chain.leftTree, Tree.outcome, headOutcome]
  exact numbers.stepApplied.apply_eq

theorem operators_chain (numbers : Discrepancy earlier later) (tail : Chain) :
    (numbers.chain head headGap behindHead thirdGap behindThird tail).operators =
      head.operators ++ earlier :: later :: tail.operators := by
  simp [chain, Chain.operators_joined, Chain.operators]

/-- An earlier operator with a later one behind it gives two readings that differ. -/
theorem exists_differing (numbers : Discrepancy earlier later) (environment : Environment)
    {front back : List Operator} (frontLevel : ∀ operator ∈ front, operator ∈ [earlier, later])
    (backLevel : ∀ operator ∈ back, operator ∈ [earlier, later]) :
    ∃ chain : Chain, chain.IsFlat environment ∧
      chain.operators = front ++ earlier :: later :: back ∧
        (chain.tree searchLevels).outcome environment ≠
          chain.leftTree.outcome environment := by
  obtain ⟨head, headPadded, rfl⟩ := Chain.exists_padded numbers.first numbers.unit front
  obtain ⟨tail, tailPadded, rfl⟩ := Chain.exists_padded numbers.third numbers.unit back
  refine ⟨numbers.chain head .nothing .nothing .nothing .nothing tail, ?_,
    numbers.operators_chain tail, ?_⟩
  · rw [chain, Chain.isFlat_joined_iff, Chain.isFlat_joined_iff]
    exact ⟨Chain.isFlat_of_padded head headPadded, trivial,
      Chain.isFlat_of_padded tail tailPadded⟩
  · rw [numbers.outcome_grouped tail headPadded tailPadded frontLevel backLevel,
      numbers.outcome_straight tail headPadded tailPadded frontLevel backLevel]
    intro same
    apply numbers.differ
    injection same with sameValue
    injection sameValue with sameRaw
    injection sameRaw

end Discrepancy

/-- A decimal literal with the given digits and a zero behind the point. -/
def UnsignedDecimal.ofWhole (whole : List Char)
    (decimal : whole.all Char.isDigit = true) : UnsignedDecimal :=
  ⟨⟨.none, whole, ['0'], none, by simp, List.all_eq_true.mp decimal, by simp⟩, rfl, by simp⟩

/-- `9007199254740992.0 + 1.0 - 1.0`: the second number is lost in the first one. -/
def Discrepancy.additive : Discrepancy .plus .minus where
  first := .ofWhole "9007199254740992".toList (by decide)
  second := .ofWhole ['1'] (by decide)
  third := .ofWhole ['1'] (by decide)
  unit := .ofWhole ['0'] (by decide)
  inner := Double.zero false
  grouped := (UnsignedDecimal.ofWhole "9007199254740992".toList (by decide)).double
  step := (UnsignedDecimal.ofWhole "9007199254740992".toList (by decide)).double
  straight := (UnsignedDecimal.ofWhole "9007199254740991".toList (by decide)).double
  unitKept := by decide +kernel
  firstKept := by decide +kernel
  innerApplied := by decide +kernel
  innerKept := by decide +kernel
  groupedApplied := by decide +kernel
  groupedKept := by decide +kernel
  stepApplied := by decide +kernel
  straightApplied := by decide +kernel
  straightKept := by decide +kernel
  differ := by decide +kernel
  order := by decide

/-- `49.0 * 1.0 / 49.0`: the quotient of the last two numbers has been rounded. -/
def Discrepancy.multiplicative : Discrepancy .times .dividedBy where
  first := .ofWhole ['4', '9'] (by decide)
  second := .ofWhole ['1'] (by decide)
  third := .ofWhole ['4', '9'] (by decide)
  unit := .ofWhole ['1'] (by decide)
  inner := Double.div (UnsignedDecimal.ofWhole ['1'] (by decide)).double
    (UnsignedDecimal.ofWhole ['4', '9'] (by decide)).double
  grouped := Double.mul (UnsignedDecimal.ofWhole ['4', '9'] (by decide)).double
    (Double.div (UnsignedDecimal.ofWhole ['1'] (by decide)).double
      (UnsignedDecimal.ofWhole ['4', '9'] (by decide)).double)
  step := (UnsignedDecimal.ofWhole ['4', '9'] (by decide)).double
  straight := (UnsignedDecimal.ofWhole ['1'] (by decide)).double
  unitKept := by decide +kernel
  firstKept := by decide +kernel
  innerApplied := by decide +kernel
  innerKept := by decide +kernel
  groupedApplied := by decide +kernel
  groupedKept := by decide +kernel
  stepApplied := by decide +kernel
  straightApplied := by decide +kernel
  straightKept := by decide +kernel
  differ := by decide +kernel
  order := by decide

namespace Chain

/-- Within a level, the only way to search for an operator before another one. -/
theorem exists_discrepancy {level : List Operator} (isLevel : level ∈ precedenceLevels)
    {earlier later : Operator} (earlierLevel : earlier ∈ level) (laterLevel : later ∈ level)
    (order : searchRank earlier < searchRank later) :
    level = [earlier, later] ∧ Nonempty (Discrepancy earlier later) := by
  rcases List.mem_pair.mp isLevel with rfl | rfl <;>
    rcases List.mem_pair.mp earlierLevel with rfl | rfl <;>
      rcases List.mem_pair.mp laterLevel with rfl | rfl <;>
        simp [searchRank] at order
  · exact ⟨rfl, ⟨.additive⟩⟩
  · exact ⟨rfl, ⟨.multiplicative⟩⟩

theorem exists_ascent {operators : List Operator} (ascending : ¬ Descending operators) :
    ∃ front earlier later back, operators = front ++ earlier :: later :: back ∧
      searchRank earlier < searchRank later := by
  have transitive : IsTrans Operator fun before behind =>
      searchRank behind ≤ searchRank before :=
    ⟨fun _ _ _ first second => Nat.le_trans second first⟩
  rw [Descending, ← List.isChain_iff_pairwise,
    List.isChain_iff_forall_rel_of_append_cons_cons] at ascending
  push Not at ascending
  obtain ⟨earlier, later, front, back, shape, order⟩ := ascending
  exact ⟨front, earlier, later, back, shape, order⟩

/-- For operators of one level, evaluation goes from left to right whatever the operands are
if and only if no minus stands behind a plus and no division behind a multiplication. -/
theorem evaluateWithin_eq_leftTree_iff (level operators : List Operator)
    (isLevel : level ∈ precedenceLevels)
    (inLevel : ∀ operator ∈ operators, operator ∈ level) :
    (∀ (limit : Nat) (environment : Environment) (chain : Chain),
      chain.IsFlat environment → chain.operators = operators →
        (ofText limit chain.text).reachesLimit environment = false →
          (evaluateWithin limit environment (String.ofList chain.text)).outcome =
            chain.leftTree.outcome environment) ↔
      Descending operators := by
  constructor
  · intro always
    by_contra ascending
    -- Operands that give the order away exist as soon as two neighbours are in ascent.
    obtain ⟨front, earlier, later, back, rfl, order⟩ := exists_ascent ascending
    obtain ⟨rfl, ⟨numbers⟩⟩ := exists_discrepancy isLevel (inLevel earlier (by simp))
      (inLevel later (by simp)) order
    have frontLevel : ∀ operator ∈ front, operator ∈ [earlier, later] := by
      intro operator member
      exact inLevel operator (by simp [member])
    have backLevel : ∀ operator ∈ back, operator ∈ [earlier, later] := by
      intro operator member
      exact inLevel operator (by simp [member])
    let environment : Environment := fun _ => .ok none
    obtain ⟨chain, flat, shape, differ⟩ :=
      numbers.exists_differing environment frontLevel backLevel
    have within := reachesLimit_eq_false environment chain _ (Nat.le_refl _)
    have straight := always _ environment chain flat shape within
    rw [outcome_evaluateWithin, String.toList_ofList, (agrees chain _ within).1] at straight
    exact differ straight
  · rintro descending limit environment chain flat rfl within
    rw [outcome_evaluateWithin, String.toList_ofList, (agrees chain limit within).1,
      tree_eq_leftTree chain flat descending]

theorem evaluateWithin_eq_leftTree_iff_sample :
    [.plus, .minus] ∈ precedenceLevels ∧
      (∀ operator ∈ [Operator.minus, .plus], operator ∈ [Operator.plus, .minus]) ∧
      ∀ (limit : Nat) (environment : Environment) (chain : Chain),
        chain.IsFlat environment → chain.operators = [.minus, .plus] →
          (ofText limit chain.text).reachesLimit environment = false →
            (evaluateWithin limit environment (String.ofList chain.text)).outcome =
              chain.leftTree.outcome environment := by
  have isLevel : [Operator.plus, .minus] ∈ precedenceLevels := by decide
  have inLevel : ∀ operator ∈ [Operator.minus, .plus], operator ∈ [Operator.plus, .minus] := by
    decide
  have descending : Descending [.minus, .plus] := by
    simp [Descending, searchRank]
  exact ⟨isLevel, inLevel,
    (evaluateWithin_eq_leftTree_iff _ _ isLevel inLevel).mpr descending⟩

/-- The chain `2147483647 * 2 / 2`. -/
def quotientSample : Chain :=
  let two : Leaf := .integer numberSample
  let large : Leaf := .integer largeSample
  .link (.link (.single (.atom large)) .space .times .space (.atom two)) .space .dividedBy .space
    (.atom two)

/-- From left to right the product wraps before it is divided; the search divides first. -/
theorem not_forall_evaluate_eq_leftTree :
    ¬ ∀ (environment : Environment) (chain : Chain), chain.IsFlat environment →
      (∃ level ∈ precedenceLevels, ∀ operator ∈ chain.operators, operator ∈ level) →
        (ofText depthLimit chain.text).reachesLimit environment = false →
          (evaluate environment (String.ofList chain.text)).outcome =
            chain.leftTree.outcome environment := by
  intro always
  let environment : Environment := fun _ => .ok none
  have flat : quotientSample.IsFlat environment := ⟨⟨trivial, trivial⟩, trivial⟩
  have oneLevel : ∃ level ∈ precedenceLevels,
      ∀ operator ∈ quotientSample.operators, operator ∈ level :=
    ⟨[.times, .dividedBy], by decide, by decide⟩
  have within : (ofText depthLimit quotientSample.text).reachesLimit environment = false := by
    decide +kernel
  have same := congrArg Outcome.double? (always environment quotientSample flat oneLevel within)
  revert same
  decide +kernel

end Chain

end CalcShell

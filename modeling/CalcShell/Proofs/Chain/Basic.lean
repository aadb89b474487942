import CalcShell.Proofs.Expression.Naming

/-!
# Chains of operands

A chain is a row of operands with an operator and any white space between each
two.  An operand is a literal without a sign, a name, or something between
parentheses: a literal of any kind or another chain.  All operators of a chain
stand outside the parentheses of its operands, and nothing else does that could
be taken for one.
-/

namespace CalcShell

open Expression Number Text

/-- White space beside an operator. -/
structure Gap where
  text : List Char
  blank : ∀ char ∈ text, isBlank char = true

def Gap.nothing : Gap :=
  ⟨[], by simp⟩

def Gap.space : Gap :=
  ⟨[' '], List.all_eq_true.mp (by decide)⟩

structure UnsignedInteger extends IntegerSpelling where
  unsigned : sign = .none
  short : digits.length ≤ digitLimit
  inRange : InRange integerWidth (digitsValue digits)

structure UnsignedDecimal extends DecimalSpelling where
  unsigned : sign = .none
  exponentUnsigned : ∀ exponent ∈ exponent?, exponent.sign = .none

/-- A text that is read as a literal, whatever its sign. -/
structure EnclosedLiteral where
  text : List Char
  value : Value
  read : literal? text = .ok (some value)

/-- An operand that is not put together from others. -/
inductive Leaf where
  | integer (spelling : UnsignedInteger)
  | decimal (spelling : UnsignedDecimal)
  | name (spelling : NameSpelling)
  | enclosed (inside : EnclosedLiteral)

def Leaf.text : Leaf → List Char
  | .integer spelling => spelling.toIntegerSpelling.text
  | .decimal spelling => spelling.toDecimalSpelling.text
  | .name spelling => spelling.text
  | .enclosed inside => '(' :: (inside.text ++ [')'])

mutual

inductive Operand where
  | atom (leaf : Leaf)
  | group (inner : Chain)

inductive Chain where
  | single (operand : Operand)
  | link (before : Chain) (leftGap : Gap) (operator : Operator) (rightGap : Gap)
      (last : Operand)

end

mutual

def Operand.text : Operand → List Char
  | .atom leaf => leaf.text
  | .group inner => '(' :: (inner.text ++ [')'])

def Chain.text : Chain → List Char
  | .single operand => operand.text
  | .link before leftGap operator rightGap last =>
    before.text ++ (leftGap.text ++ operator.symbol :: (rightGap.text ++ last.text))

end

namespace Chain

/-- Induction along a chain from its first operand on. -/
theorem inductionOnLinks {motive : Chain → Prop}
    (single : ∀ operand, motive (.single operand))
    (link : ∀ before leftGap operator rightGap last, motive before →
      motive (.link before leftGap operator rightGap last)) : ∀ chain, motive chain
  | .single operand => single operand
  | .link before leftGap operator rightGap last =>
    link before leftGap operator rightGap last (inductionOnLinks single link before)

def operators : Chain → List Operator
  | .single _ => []
  | .link before _ operator _ _ => before.operators ++ [operator]

def joined (left : Chain) (leftGap : Gap) (operator : Operator) (rightGap : Gap) :
    Chain → Chain
  | .single operand => .link left leftGap operator rightGap operand
  | .link before leftInner inner rightInner last =>
    .link (joined left leftGap operator rightGap before) leftInner inner rightInner last

theorem text_joined (left right : Chain) (leftGap rightGap : Gap) (operator : Operator) :
    (joined left leftGap operator rightGap right).text =
      (left.text ++ leftGap.text) ++ operator.symbol :: (rightGap.text ++ right.text) := by
  induction right using inductionOnLinks with
  | single operand => simp [joined, text]
  | link before leftInner inner rightInner last inductionHypothesis =>
      simp [joined, text, inductionHypothesis]

theorem operators_joined (left right : Chain) (leftGap rightGap : Gap)
    (operator : Operator) :
    (joined left leftGap operator rightGap right).operators =
      left.operators ++ operator :: right.operators := by
  induction right using inductionOnLinks with
  | single operand => rfl
  | link before leftInner inner rightInner last inductionHypothesis =>
      simp [joined, operators, inductionHypothesis]

/-- A chain with an operator from a list can be taken apart at the last one. -/
theorem exists_joined (level : List Operator) :
    ∀ chain : Chain, (∃ operator ∈ chain.operators, operator ∈ level) →
      ∃ (operator : Operator) (left right : Chain) (leftGap rightGap : Gap),
        chain = joined left leftGap operator rightGap right ∧
          operator ∈ level ∧ ∀ other ∈ right.operators, other ∉ level
  | .single _, present => by
      simp [operators] at present
  | .link before leftGap last rightGap operand, present => by
      by_cases atEnd : last ∈ level
      · exact ⟨last, before, .single operand, leftGap, rightGap, rfl, atEnd,
          by simp [operators]⟩
      · have inFront : ∃ operator ∈ before.operators, operator ∈ level := by
          obtain ⟨operator, member, inLevel⟩ := present
          rcases List.mem_append.mp member with inBefore | isLast
          · exact ⟨operator, inBefore, inLevel⟩
          · rw [List.mem_singleton.mp isLast] at inLevel
            exact absurd inLevel atEnd
        obtain ⟨operator, left, right, innerLeft, innerRight, rfl, inLevel, absent⟩ :=
          exists_joined level before inFront
        refine ⟨operator, left, .link right leftGap last rightGap operand, innerLeft,
          innerRight, rfl, inLevel, ?_⟩
        intro other member
        rcases List.mem_append.mp member with inRight | isLast
        · exact absent other inRight
        · rwa [List.mem_singleton.mp isLast]

theorem joined_joined (left middle right : Chain) (leftGap rightGap leftInner rightInner : Gap)
    (operator inner : Operator) :
    joined left leftGap operator rightGap (joined middle leftInner inner rightInner right) =
      joined (joined left leftGap operator rightGap middle) leftInner inner rightInner
        right := by
  induction right using inductionOnLinks with
  | single operand => rfl
  | link before lastGap last behindGap operand inductionHypothesis =>
      simp only [joined, inductionHypothesis]

theorem sizeOf_left_lt (left right : Chain) (leftGap rightGap : Gap) (operator : Operator) :
    sizeOf left < sizeOf (joined left leftGap operator rightGap right) := by
  induction right using inductionOnLinks with
  | single operand =>
      simp only [joined, link.sizeOf_spec]
      omega
  | link before lastGap last behindGap operand smaller =>
      simp only [joined, link.sizeOf_spec]
      omega

theorem sizeOf_right_lt (left right : Chain) (leftGap rightGap : Gap) (operator : Operator) :
    sizeOf right < sizeOf (joined left leftGap operator rightGap right) := by
  induction right using inductionOnLinks with
  | single operand =>
      simp only [joined, link.sizeOf_spec, single.sizeOf_spec]
      have positive : 0 < sizeOf left := by
        cases left <;> simp only [single.sizeOf_spec, link.sizeOf_spec] <;> omega
      omega
  | link before lastGap last behindGap operand smaller =>
      simp only [joined, link.sizeOf_spec]
      omega

end Chain

/-! ## Solid texts -/

/-- A text that stands in an expression like a single character. -/
structure Solid (text : List Char) : Prop where
  tight : Tight text
  balanced : isBalanced text = true
  hidden : ∀ operator : Operator, Hidden operator.symbol text

theorem solid_of_plain {text : List Char} (nonempty : text ≠ [])
    (plain : ∀ char ∈ text, isNameRest char = true ∨ char = '.') : Solid text := by
  have notBlank : ∀ char ∈ text, isBlank char = false := by
    intro char member
    rcases plain char member with inName | rfl
    · exact isBlank_of_isNameRest inName
    · decide
  have absent : ∀ other : Char, isNameRest other = false → other ≠ '.' → other ∉ text := by
    intro other notName notPoint member
    rcases plain other member with inName | isPoint
    · rw [inName] at notName
      cases notName
    · exact notPoint isPoint
  refine ⟨tight_of_not_blank nonempty notBlank, ?_, ?_⟩
  · exact isBalanced_of_no_parens (absent '(' (by decide) (by decide))
      (absent ')' (by decide) (by decide))
  · intro operator
    exact Hidden.of_not_mem
      (absent _ (isNameRest_symbol operator) (symbol_ne_point operator))

theorem solid_of_digits {digits : List Char} (nonempty : digits ≠ [])
    (decimal : ∀ digit ∈ digits, digit.isDigit = true) : Solid digits := by
  apply solid_of_plain nonempty
  intro char member
  exact Or.inl (isNameRest_of_isDigit (decimal char member))

theorem solid_enclosed {inner : List Char} (balanced : isBalanced inner = true) :
    Solid ('(' :: (inner ++ [')'])) where
  tight := Tight.enclosed (by decide) (by decide) inner
  balanced := isBalanced_enclosed balanced
  hidden := fun operator => Hidden.enclosed balanced (symbol_ne_opening operator)

theorem UnsignedInteger.text_eq (spelling : UnsignedInteger) :
    spelling.text = spelling.digits := by
  simp [IntegerSpelling.text, spelling.unsigned, Sign.text]

theorem UnsignedDecimal.plain (spelling : UnsignedDecimal) :
    ∀ char ∈ spelling.text, isNameRest char = true ∨ char = '.' := by
  intro char member
  rcases spelling.mem_text member with inName | isPoint | inSign | ⟨exponent, present, inSign⟩
  · exact Or.inl inName
  · exact Or.inr isPoint
  · simp [spelling.unsigned, Sign.text] at inSign
  · simp [spelling.exponentUnsigned exponent present, Sign.text] at inSign

theorem Leaf.solid (leaf : Leaf) : Solid leaf.text := by
  cases leaf with
  | integer spelling =>
      rw [Leaf.text, spelling.text_eq]
      exact solid_of_digits spelling.nonempty spelling.decimal
  | decimal spelling =>
      refine solid_of_plain ?_ spelling.plain
      exact List.ne_nil_of_mem spelling.point_mem
  | name spelling =>
      refine solid_of_plain (by simp [Leaf.text, NameSpelling.text]) ?_
      intro char member
      exact Or.inl (spelling.isNameRest_of_mem member)
  | enclosed inside =>
      have noParens := not_mem_of_literal? inside.read
      exact solid_enclosed (isBalanced_of_no_parens noParens.1 noParens.2)

namespace Gap

theorem noParen (gap : Gap) {paren : Char} (low : 32 < paren.toNat)
    (high : paren.toNat < 133) : paren ∉ gap.text := by
  intro member
  exact ne_of_isBlank (gap.blank paren member) low high rfl

theorem isBalanced_text (gap : Gap) : isBalanced gap.text = true :=
  isBalanced_of_blank gap.blank

theorem hidden_text (gap : Gap) (operator : Operator) :
    Hidden operator.symbol gap.text :=
  Hidden.of_not_mem (by cases operator <;> exact gap.noParen (by decide) (by decide))

end Gap

/-- Everything that follows an operand in a chain, up to its last operand, is balanced. -/
theorem isBalanced_link {left right : List Char} (leftGap rightGap : Gap)
    (operator : Operator) (leftBalanced : isBalanced left = true)
    (rightBalanced : isBalanced right = true) :
    isBalanced (left ++ (leftGap.text ++ operator.symbol :: (rightGap.text ++ right))) =
      true := by
  have behindSymbol : isBalanced (operator.symbol :: (rightGap.text ++ right)) = true := by
    rw [← List.singleton_append, isBalanced_append (isBalanced_singleton_symbol operator),
      isBalanced_append rightGap.isBalanced_text, rightBalanced]
  rw [isBalanced_append leftBalanced, isBalanced_append leftGap.isBalanced_text, behindSymbol]

theorem hidden_link {left right : List Char} (leftGap rightGap : Gap)
    {operator other : Operator} (different : other ≠ operator)
    (leftBalanced : isBalanced left = true) (leftHidden : Hidden other.symbol left)
    (rightHidden : Hidden other.symbol right) :
    Hidden other.symbol
      (left ++ (leftGap.text ++ operator.symbol :: (rightGap.text ++ right))) := by
  have symbolHidden : Hidden other.symbol [operator.symbol] := by
    apply Hidden.of_not_mem
    rw [List.mem_singleton]
    exact mt symbol_injective different
  have level {text : List Char} (balanced : isBalanced text = true) : netDepth text = 0 :=
    netDepth_of_isBalanced balanced
  show Hidden other.symbol
    (left ++ (leftGap.text ++ ([operator.symbol] ++ (rightGap.text ++ right))))
  exact leftHidden.append (level leftBalanced) <|
    (leftGap.hidden_text other).append (level leftGap.isBalanced_text) <|
      symbolHidden.append (netDepth_symbol operator) <|
        (rightGap.hidden_text other).append (level rightGap.isBalanced_text) rightHidden

mutual

theorem Operand.isBalanced_text : ∀ operand : Operand, isBalanced operand.text = true
  | .atom leaf => leaf.solid.balanced
  | .group inner => isBalanced_enclosed inner.isBalanced_text

theorem Chain.isBalanced_text : ∀ chain : Chain, isBalanced chain.text = true
  | .single operand => operand.isBalanced_text
  | .link before leftGap operator rightGap last =>
      isBalanced_link leftGap rightGap operator before.isBalanced_text last.isBalanced_text

end

theorem Operand.solid : ∀ operand : Operand, Solid operand.text
  | .atom leaf => leaf.solid
  | .group inner => solid_enclosed inner.isBalanced_text

namespace Chain

theorem tight_text : ∀ chain : Chain, Tight chain.text
  | .single operand => operand.solid.tight
  | .link before leftGap operator rightGap last => by
      have whole := before.tight_text.append last.solid.tight
        (leftGap.text ++ operator.symbol :: rightGap.text)
      simpa [text] using whole

/-- An operator that does not occur in a chain cannot be seen in its text. -/
theorem hidden_text (operator : Operator) :
    ∀ chain : Chain, operator ∉ chain.operators → Hidden operator.symbol chain.text
  | .single operand, _ => operand.solid.hidden operator
  | .link before leftGap last rightGap operand, absent => by
      simp only [operators, List.mem_append, List.mem_singleton, not_or] at absent
      exact hidden_link leftGap rightGap absent.2 before.isBalanced_text
        (hidden_text operator before absent.1) (operand.solid.hidden operator)

end Chain

end CalcShell

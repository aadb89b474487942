import CalcShell.Proofs.Chain.Evaluation
import CalcShell.Proofs.Expression.Enclosed
import CalcShell.Proofs.Expression.Frame
import CalcShell.Proofs.Expression.Mantissa
import CalcShell.Proofs.Expression.Overlong

/-!
# Substitution

A group and a name with the same value can be put in each other's place.  Whatever
is around them is a frame, and reading a filled frame goes the same way for both
until nothing of the frame is left, or until something fails without regard to what
the frame is filled with.
-/

namespace CalcShell

open Text

namespace Expression

open Number

variable {environment : Environment}

namespace Frame

/-! ## What a filled frame is read as -/

/-- Where the character that white space ends at is a parenthesis or an operator, there is
nothing but white space if there are neither. -/
theorem isBlank_of_find?_isSolid {part : List Char} {paren : Char}
    (ends : ∀ char ∈ part.find? isSolid, char = paren ∨ IsSymbol char)
    (noParen : paren ∉ part) (noSymbol : ∀ operator : Operator, operator.symbol ∉ part) :
    ∀ char ∈ part, isBlank char = true := by
  intro char member
  by_contra solid
  cases found : part.find? isSolid with
  | none =>
      have nowhere := List.find?_eq_none.mp found char member
      simp [isSolid, solid] at nowhere
  | some first =>
      have inside : first ∈ part := List.mem_of_find?_eq_some found
      rcases ends first found with rfl | ⟨operator, rfl⟩
      · exact noParen inside
      · exact noSymbol operator inside

/-- A filled frame that is a name, without white space, is nothing but its filling. -/
theorem isEmpty_of_isName {frame : Frame} {text : List Char}
    (name : isName (frame.fill text) = true)
    (notBlank : ∀ char ∈ frame.fill text, isBlank char = false) : frame.IsEmpty := by
  have nothing : ∀ {part : List Char} {paren : Char},
      isNameRest paren = false ∧ isSpacing paren = false →
      (∀ char ∈ part.find? isSolid, char = paren ∨ IsSymbol char) →
      (∀ char ∈ part, char ∈ frame.fill text) → part = [] := by
    intro part paren notInName ends inside
    have noParen : paren ∉ part := by
      intro member
      have inName := mem_of_isName name (inside paren member)
      simp [notInName.1, notInName.2] at inName
    have noSymbol : ∀ operator : Operator, operator.symbol ∉ part := by
      intro operator member
      exact symbol_not_mem_of_isName name operator (inside _ member)
    rw [List.eq_nil_iff_forall_not_mem]
    intro char member
    have blank := isBlank_of_find?_isSolid ends noParen noSymbol char member
    rw [notBlank char (inside char member)] at blank
    cases blank
  constructor
  · have reversed : frame.before.reverse = [] :=
      nothing (by decide) frame.opens fun char member => by
        simp [fill, List.mem_reverse.mp member]
    exact List.reverse_eq_nil_iff.mp reversed
  · exact nothing (by decide) frame.closes fun char member => by simp [fill, member]

/-- In a literal the letter a name begins with would be the mark of an exponent, and behind
the frame there is no place for one. -/
theorem literal?_fill_name_ne_some (frame : Frame) (spelling : NameSpelling) (value : Value) :
    literal? (frame.fill spelling.text) ≠ .ok (some value) := by
  intro read
  obtain ⟨before, body, after, shape, spacingBefore, spacingAfter, spelled⟩ :=
    literal?_eq_ok_some_iff.mp read
  have notSpacing : isSpacing spelling.first = false :=
    isSpacing_of_isNameRest (isNameRest_of_isNameStart spelling.begins)
  have absent : ∀ {part : List Char}, (∀ char ∈ part, isSpacing char = true) →
      spelling.first ∉ part := by
    intro part spacing member
    rw [spacing _ member] at notSpacing
    cases notSpacing
  have split : before ++ (body ++ after) =
      frame.before ++ spelling.first :: (spelling.rest ++ frame.after) := shape.symm
  obtain ⟨front, frontShape, inside⟩ := exists_behind_of_not_mem (absent spacingBefore) split
  obtain ⟨back, rfl, _⟩ := exists_before_of_not_mem (absent spacingAfter) inside
  obtain ⟨last, isLast, numeric⟩ := exists_last_of_spelled_letter spelled spelling.begins
  have frontNonempty : front ≠ [] := by
    rintro rfl
    cases isLast
  have endsFrame : frame.before.reverse.head? = some last := by
    rw [List.head?_reverse, frontShape, List.getLast?_append_of_ne_nil _ frontNonempty]
    exact isLast
  have lastSolid : isSolid last = true := by
    rcases numeric with digit | rfl
    · rw [isSolid, isBlank_of_isNameRest (isNameRest_of_isDigit digit)]
      rfl
    · decide
  have found : frame.before.reverse.find? isSolid = some last := by
    obtain ⟨rest, reversed⟩ := List.head?_eq_some_iff.mp endsFrame
    rw [reversed, List.find?_cons_of_pos lastSolid]
  rcases frame.opens last found with rfl | ⟨operator, rfl⟩
  · revert numeric
    decide
  · revert numeric
    cases operator <;> decide

/-- A number in front of a text that could not go on with it ends there. -/
theorem exists_behind_of_beginsNumeral {front rest left text right : List Char}
    (begins : ∀ char ∈ front, isBlank char = true ∨ beginsNumeral char = true)
    (tight : Tight text) (plain : ∀ char ∈ text.head?, beginsNumeral char = false)
    (shape : left ++ (text ++ right) = front ++ rest) :
    ∃ middle, left = front ++ middle ∧ rest = middle ++ (text ++ right) := by
  rcases List.append_eq_append_iff.mp shape with
    ⟨middle, inside, behind⟩ | ⟨middle, leftShape, behind⟩
  · cases middle with
    | nil => exact ⟨[], by simpa using inside.symm, by simpa using behind.symm⟩
    | cons first more =>
        have isHead : (text ++ right).head? = some first := by
          rw [behind]
          rfl
        rw [List.head?_append_of_ne_nil _ tight.nonempty] at isHead
        rcases begins first (by simp [inside]) with blank | numeral
        · rw [tight.first first isHead] at blank
          cases blank
        · rw [plain first isHead] at numeral
          cases numeral
  · exact ⟨middle, leftShape, behind⟩

/-- Digits in front of the filling that are too many to be read are so whatever the filling
is. -/
theorem exists_overlong_of_literal?_fill_eq_error {frame : Frame} {text other : List Char}
    {fault : Fault} (read : literal? (frame.fill other) = .error fault)
    (textNonempty : text ≠ []) (textHead : ∀ char ∈ text.head?, beginsNumeral char = false)
    (otherTight : Tight other) (otherHead : ∀ char ∈ other.head?, beginsNumeral char = false) :
    ∃ (before : List Char) (overlong : OverlongText),
      (∀ char ∈ before, isBlank char = true) ∧ frame.fill text = before ++ overlong.text := by
  obtain ⟨noPoint, before, sign, digits, rest, shape, spacing, decimal, long, stop⟩ :=
    exists_of_literal?_eq_error read
  have numeralShape : frame.before ++ (other ++ frame.after) =
      (before ++ (sign.text ++ digits)) ++ rest := by
    have filled : frame.before ++ (other ++ frame.after) =
        before ++ (sign.text ++ (digits ++ rest)) := shape
    rw [filled]
    simp
  have beginsNumber : ∀ char ∈ before ++ (sign.text ++ digits),
      isBlank char = true ∨ beginsNumeral char = true := by
    intro char member
    rcases List.mem_append.mp member with inBefore | inNumeral
    · exact Or.inl (isBlank_of_isSpacing (spacing char inBefore))
    · rcases List.mem_append.mp inNumeral with inSign | inDigits
      · rcases Sign.mem_text inSign with rfl | rfl <;> exact Or.inr (by decide)
      · exact Or.inr (by simp [beginsNumeral, decimal char inDigits])
  obtain ⟨middle, frameShape, rfl⟩ :=
    exists_behind_of_beginsNumeral beginsNumber otherTight otherHead numeralShape
  have textStop : ∀ char ∈ (middle ++ (text ++ frame.after)).head?,
      char.isDigit = false ∧ char ≠ '.' := by
    intro char isHead
    cases middle with
    | nil =>
        rw [List.nil_append, List.head?_append_of_ne_nil _ textNonempty] at isHead
        have plain := textHead char isHead
        simp only [beginsNumeral, Bool.or_eq_false_iff, beq_eq_false_iff_ne] at plain
        exact ⟨plain.1.1.1, plain.1.1.2⟩
    | cons first more =>
        obtain rfl : first = char := by simpa using isHead
        refine ⟨stop first (by simp), ?_⟩
        rintro rfl
        exact noPoint (by simp [fill, frameShape])
  refine ⟨before, ⟨sign, digits, middle ++ (text ++ frame.after), decimal, long, textStop⟩,
    blank_of_spacing spacing, ?_⟩
  simp [fill, frameShape, OverlongText.text, OverlongText.numeral]

end Frame

/-! ## Texts that stand for a value -/

/-- A text that evaluates to a value wherever it is an operand, and is never taken for a part
of a literal. -/
structure StandsFor (environment : Environment) (limit : Nat) (value : Value)
    (text : List Char) : Prop where
  solid : Solid text
  head : ∀ char ∈ text.head?, beginsNumeral char = false
  noLiteral : ∀ (frame : Frame) (found : Value), literal? (frame.fill text) ≠ .ok (some found)
  evaluated : ∀ depth, depth ≤ limit → (ofText depth text).reachesLimit environment = false →
    ((ofText depth text).run environment).outcome = .ok value

theorem standsFor_group {limit : Nat} {text : List Char} {value : Value}
    (balanced : isBalanced text = true)
    (evaluated : ((ofText limit ('(' :: (text ++ [')']))).run environment).outcome = .ok value) :
    StandsFor environment limit value ('(' :: (text ++ [')'])) where
  solid := solid_enclosed balanced
  head := by
    simp only [List.head?_cons, Option.mem_some_iff, forall_eq']
    decide
  noLiteral := by
    intro frame found read
    exact (not_mem_of_literal? read).1 (by simp [Frame.fill])
  evaluated := by
    intro depth lower within
    rw [← outcome_ofText_of_le lower _ within, evaluated]

theorem standsFor_name {limit : Nat} {spelling : NameSpelling} {value : Value}
    (bound : environment (String.ofList spelling.text) = .ok (some value)) :
    StandsFor environment limit value spelling.text where
  solid := (Leaf.name spelling).solid
  head := by
    simp only [NameSpelling.text, List.head?_cons, Option.mem_some_iff, forall_eq']
    exact beginsNumeral_of_isNameStart spelling.begins
  noLiteral := fun frame found => frame.literal?_fill_name_ne_some spelling found
  evaluated := by
    intro depth _ within
    cases depth with
    | zero => cases within
    | succ depth =>
        have read := (Leaf.name spelling).ofText_eq depth
        rw [Leaf.text] at read
        rw [read, Leaf.expression, outcome_run_variable, outcome_lookup_eq_ok_iff]
        exact bound

section Exchange

variable {limit : Nat} {value : Value} {text other : List Char}

/-- Between its layers of parentheses a text evaluates to what it stands for. -/
theorem StandsFor.outcome_ofCore (stands : StandsFor environment limit value text) {depth : Nat}
    (lower : depth + 1 ≤ limit) (source : List Char)
    (within : (ofCore depth source (stripParens text)).reachesLimit environment = false) :
    ((ofCore depth source (stripParens text)).run environment).outcome = .ok value := by
  have read := ofText_of_tight depth stands.solid.tight stands.solid.balanced
  rw [← withSource_ofCore depth source text, ← read] at within ⊢
  rw [reachesLimit_withSource] at within
  rw [outcome_run_withSource]
  exact stands.evaluated (depth + 1) lower within

theorem literal?_fill_eq_none {frame : Frame} {depth : Nat} {split : Split} {leftValue : Value}
    (stands : StandsFor environment limit value text)
    (otherStands : StandsFor environment limit value other)
    (found : split? (frame.fill text) = some split)
    (leftOutcome : ((ofText depth split.left).run environment).outcome = .ok leftValue) :
    literal? (frame.fill other) = .ok none := by
  cases read : literal? (frame.fill other) with
  | error fault =>
      obtain ⟨before, overlong, blank, shape⟩ :=
        Frame.exists_overlong_of_literal?_fill_eq_error read stands.solid.tight.nonempty
          stands.head otherStands.solid.tight otherStands.head
      rw [shape] at found
      exact absurd leftOutcome (overlong.outcome_left_ne_ok environment depth blank found _)
  | ok literalFound =>
      cases literalFound with
      | none => rfl
      | some literalValue => exact absurd read (otherStands.noLiteral frame literalValue)

theorem isName_fill_eq_false {frame : Frame} {split : Split}
    (found : split? (frame.fill text) = some split) : isName (frame.fill text) = false := by
  by_contra name
  rw [split?_of_isName (Bool.of_not_eq_false name)] at found
  cases found

variable (environment text other) in
/-- What evaluates with one text in a frame evaluates to the same with another. -/
def Exchanges (depth : Nat) : Prop :=
  ∀ (frame : Frame) (result : Value),
    (ofText depth (frame.fill text)).reachesLimit environment = false →
    (ofText depth (frame.fill other)).reachesLimit environment = false →
    ((ofText depth (frame.fill text)).run environment).outcome = .ok result →
    ((ofText depth (frame.fill other)).run environment).outcome = .ok result

/-- A frame that no layer can be taken off is split, and one of the sides is a frame with the
same filling. -/
theorem Exchanges.outcome_ofCore {depth : Nat}
    (exchanges : Exchanges environment text other depth)
    (names : ∀ name value, environment name = .ok (some value) →
      ∀ char ∈ name.toList, isBlank char = false)
    (stands : StandsFor environment limit value text)
    (otherStands : StandsFor environment limit value other)
    {core : Frame} (around : ¬ core.IsEmpty)
    (balanced : isBalanced (core.before ++ core.after) = true)
    {source otherSource : List Char} {result : Value}
    (within : (ofCore depth source (core.fill text)).reachesLimit environment = false)
    (otherWithin : (ofCore depth otherSource (core.fill other)).reachesLimit environment = false)
    (evaluated : ((ofCore depth source (core.fill text)).run environment).outcome = .ok result) :
    ((ofCore depth otherSource (core.fill other)).run environment).outcome = .ok result := by
  rcases (outcome_run_ofCore_eq_ok_iff environment).mp evaluated with
    read | ⟨_, name, bound⟩ |
      ⟨noLiteral, noName, split, leftValue, rightValue, found, leftOutcome, rightOutcome, applied⟩
  · exact absurd read (stands.noLiteral core result)
  · have notBlank := names _ _ bound
    rw [String.toList_ofList] at notBlank
    exact absurd (Frame.isEmpty_of_isName name notBlank) around
  · have otherNoLiteral : literal? (core.fill other) = .ok none :=
      literal?_fill_eq_none stands otherStands found leftOutcome
    rw [ofCore_split noLiteral noName found] at within
    obtain ⟨leftWithin, rightWithin⟩ := reachesLimit_binary within
    rcases Frame.split?_fill_eq_some stands.solid otherStands.solid balanced found with
      ⟨left, operator, side, rfl, otherFound⟩ | ⟨right, operator, side, rfl, otherFound⟩
    · have otherNoName := isName_fill_eq_false otherFound
      rw [ofCore_split otherNoLiteral otherNoName otherFound] at otherWithin ⊢
      have otherRightWithin := (reachesLimit_binary otherWithin).2 leftValue leftOutcome
      have otherRight := exchanges side rightValue (rightWithin leftValue leftOutcome)
        otherRightWithin rightOutcome
      exact (outcome_run_binary_eq_ok_iff environment).mpr
        ⟨leftValue, rightValue, leftOutcome, otherRight, applied⟩
    · have otherNoName := isName_fill_eq_false otherFound
      rw [ofCore_split otherNoLiteral otherNoName otherFound] at otherWithin ⊢
      have otherLeft := exchanges side leftValue leftWithin (reachesLimit_binary otherWithin).1
        leftOutcome
      exact (outcome_run_binary_eq_ok_iff environment).mpr
        ⟨leftValue, rightValue, otherLeft, rightOutcome, applied⟩

/-- Texts that stand for the same value can be exchanged in every frame. -/
theorem StandsFor.exchanges
    (names : ∀ name value, environment name = .ok (some value) →
      ∀ char ∈ name.toList, isBlank char = false)
    (stands : StandsFor environment limit value text)
    (otherStands : StandsFor environment limit value other) (depth : Nat)
    (lower : depth ≤ limit) : Exchanges environment text other depth := by
  induction depth with
  | zero =>
      intro frame result within
      cases within
  | succ depth inductionHypothesis =>
      intro frame result within otherWithin evaluated
      have textNonempty := stands.solid.tight.nonempty
      have otherNonempty := otherStands.solid.tight.nonempty
      obtain ⟨inner, trimmed⟩ := frame.exists_trim_fill
      have textTrimmed := trimmed text stands.solid.tight
      have otherTrimmed := trimmed other otherStands.solid.tight
      have textKept : trim (frame.fill text) ≠ [] := by
        rw [textTrimmed]
        simp [Frame.fill, textNonempty]
      have otherKept : trim (frame.fill other) ≠ [] := by
        rw [otherTrimmed]
        simp [Frame.fill, otherNonempty]
      cases balanced : isBalanced (trim (frame.fill text)) with
      | false =>
          rw [ofText_of_unbalanced depth textKept balanced, outcome_run_refused] at evaluated
          cases evaluated
      | true =>
          have otherBalanced : isBalanced (trim (frame.fill other)) = true := by
            rw [textTrimmed, inner.isBalanced_fill stands.solid.balanced] at balanced
            rw [otherTrimmed, inner.isBalanced_fill otherStands.solid.balanced, balanced]
          rw [ofText_succ depth textKept balanced, textTrimmed] at within evaluated
          rw [ofText_succ depth otherKept otherBalanced, otherTrimmed] at otherWithin ⊢
          rcases inner.exists_stripParens_fill with bare | ⟨core, around, stripped⟩
          · have textBare := bare text textNonempty stands.solid.balanced
            have otherBare := bare other otherNonempty otherStands.solid.balanced
            rw [textBare] at within evaluated
            rw [otherBare] at otherWithin ⊢
            rw [otherStands.outcome_ofCore lower _ otherWithin, ← evaluated,
              stands.outcome_ofCore lower _ within]
          · have textStripped := stripped text textNonempty stands.solid.balanced
            have otherStripped := stripped other otherNonempty otherStands.solid.balanced
            have coreBalanced : isBalanced (core.before ++ core.after) = true := by
              have kept := isBalanced_stripParens balanced
              rwa [textTrimmed, textStripped, core.isBalanced_fill stands.solid.balanced] at kept
            rw [textStripped] at within evaluated
            rw [otherStripped] at otherWithin ⊢
            have exchanges := inductionHypothesis (Nat.le_of_succ_le lower)
            exact exchanges.outcome_ofCore names stands otherStands around coreBalanced within
              otherWithin evaluated

end Exchange

end Expression

open Expression in
/-- A group can be replaced by a name that has its value, and the other way round, between any
texts that an operator or a parenthesis separates them from. -/
theorem evaluateWithin_fill_group_iff (limit : Nat) (environment : Environment) (frame : Frame)
    (text : List Char) (spelling : NameSpelling) (value result : Value)
    (names : ∀ name value, environment name = .ok (some value) →
      ∀ char ∈ name.toList, isBlank char = false)
    (balanced : isBalanced text = true)
    (bound : environment (String.ofList spelling.text) = .ok (some value))
    (evaluated : (evaluateWithin limit environment
      (String.ofList ('(' :: (text ++ [')'])))).outcome = .ok value)
    (groupWithin : (ofText limit (frame.fill ('(' :: (text ++ [')'])))).reachesLimit
      environment = false)
    (nameWithin : (ofText limit (frame.fill spelling.text)).reachesLimit environment = false) :
    (evaluateWithin limit environment
        (String.ofList (frame.fill ('(' :: (text ++ [')']))))).outcome = .ok result ↔
      (evaluateWithin limit environment
        (String.ofList (frame.fill spelling.text))).outcome = .ok result := by
  rw [outcome_evaluateWithin, String.toList_ofList] at evaluated
  rw [outcome_evaluateWithin, outcome_evaluateWithin, String.toList_ofList, String.toList_ofList]
  have group := standsFor_group balanced evaluated
  have name : StandsFor environment limit value spelling.text := standsFor_name bound
  constructor
  · have exchanges := StandsFor.exchanges names group name limit (Nat.le_refl limit)
    exact exchanges frame result groupWithin nameWithin
  · have exchanges := StandsFor.exchanges names name group limit (Nat.le_refl limit)
    exact exchanges frame result nameWithin groupWithin

/-- The frame of `2*(1)+3` around its group. -/
def sampleFrame : Expression.Frame where
  before := ['2', '*']
  after := ['+', '3']
  opens := fun _ isLast => Or.inr ⟨.times, (Option.some.inj isLast).symm⟩
  closes := fun _ isFirst => Or.inr ⟨.plus, (Option.some.inj isFirst).symm⟩

open Expression in
theorem evaluateWithin_fill_group_iff_sample :
    (∀ name value, singleEnvironment name = .ok (some value) →
      ∀ char ∈ name.toList, isBlank char = false) ∧
    isBalanced ['1'] = true ∧ singleEnvironment "a" = .ok (some (Value.integer 1)) ∧
    (evaluate singleEnvironment "(1)").outcome = .ok (Value.integer 1) ∧
    (ofText depthLimit (sampleFrame.fill ['(', '1', ')'])).reachesLimit singleEnvironment =
      false ∧
    (ofText depthLimit (sampleFrame.fill ['a'])).reachesLimit singleEnvironment = false ∧
    ∃ result, (evaluate singleEnvironment "2*a+3").outcome = .ok result ∧
      (evaluate singleEnvironment "2*(1)+3").outcome = .ok result := by
  have balanced : isBalanced ['1'] = true := by decide
  have evaluated : (evaluate singleEnvironment "(1)").outcome = .ok (Value.integer 1) := by
    have read := (Leaf.enclosed ⟨['1'], Value.integer 1, rfl⟩).ofText_eq 449
    rw [evaluate, outcome_evaluateWithin]
    exact congrArg (fun expression => (expression.run singleEnvironment).outcome) read
  have groupWithin : (ofText depthLimit (sampleFrame.fill ['(', '1', ')'])).reachesLimit
      singleEnvironment = false := by
    decide +kernel
  have nameWithin : (ofText depthLimit (sampleFrame.fill ['a'])).reachesLimit
      singleEnvironment = false := by
    decide +kernel
  have evaluates : (evaluate singleEnvironment "2*a+3").outcome.isOk = true := by
    decide +kernel
  obtain ⟨result, nameEvaluated⟩ := exists_of_isOk evaluates
  exact ⟨isBlank_of_singleEnvironment, balanced, rfl, evaluated, groupWithin, nameWithin,
    result, nameEvaluated,
    (evaluateWithin_fill_group_iff depthLimit singleEnvironment sampleFrame ['1']
      ⟨'a', [], by decide, by simp⟩ (Value.integer 1) result isBlank_of_singleEnvironment
      balanced rfl evaluated groupWithin nameWithin).mpr nameEvaluated⟩

end CalcShell

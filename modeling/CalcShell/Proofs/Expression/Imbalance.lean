import CalcShell.Proofs.Expression.Messages
import CalcShell.Proofs.Expression.Results

/-!
# Where imbalance is noticed

Each part of an expression is checked for its balance again.  White space holds no
parentheses, the inside of a layer is balanced, and an operator at depth zero stands
between two balanced texts.  So every part of a balanced text is balanced, and only the
check of the whole can fail.
-/

namespace CalcShell

open Expression Text

namespace Expression

/-- Some front part of the text closes more parentheses than it opens, or the whole of it opens
and closes different numbers of them. -/
def Imbalanced (text : List Char) : Prop :=
  (∃ front, front <+: text ∧ front.count '(' < front.count ')') ∨
    text.count '(' ≠ text.count ')'

theorem netDepth_eq_count (text : List Char) :
    netDepth text = (text.count '(' : Int) - text.count ')' := by
  induction text with
  | nil => rfl
  | cons char rest inductionHypothesis =>
      rw [netDepth, inductionHypothesis, depthAfter, List.count_cons, List.count_cons]
      split
      · next opening =>
          subst opening
          simp only [beq_self_eq_true, if_true, Char.reduceBEq, Bool.false_eq_true, if_false]
          omega
      · next notOpening =>
          split
          · next closing =>
              subst closing
              simp only [beq_self_eq_true, if_true, Char.reduceBEq, Bool.false_eq_true, if_false]
              omega
          · next notClosing =>
              simp only [beq_eq_false_iff_ne.mpr notOpening, beq_eq_false_iff_ne.mpr notClosing,
                Bool.false_eq_true, if_false]
              omega

theorem isBalanced_iff_not_imbalanced (text : List Char) :
    isBalanced text = true ↔ ¬ Imbalanced text := by
  rw [isBalanced_eq_true_iff, Imbalanced, not_or, not_exists, not_not]
  constructor
  · rintro ⟨level, above⟩
    refine ⟨?_, ?_⟩
    · rintro front ⟨⟨rest, whole⟩, deeper⟩
      have frontAbove := above front rest whole.symm
      rw [netDepth_eq_count] at frontAbove
      omega
    · rw [netDepth_eq_count] at level
      omega
  · rintro ⟨noneDeeper, level⟩
    refine ⟨by rw [netDepth_eq_count]; omega, ?_⟩
    intro front rest whole
    have frontAbove : ¬ front.count '(' < front.count ')' :=
      fun deeper => noneDeeper front ⟨⟨rest, whole.symm⟩, deeper⟩
    rw [netDepth_eq_count]
    omega

/-! ## Parts of a balanced text -/

theorem isBalanced_trim (text : List Char) : isBalanced (trim text) = isBalanced text := by
  obtain ⟨before, after, shape, blankBefore, blankAfter⟩ := exists_around_trimOf isBlank text
  have behind := closesFrom_around 0 (trim text) [] (isBalanced_of_blank blankAfter)
  rw [List.append_nil, List.append_nil] at behind
  calc isBalanced (trim text)
      = isBalanced (trim text ++ after) := behind.symm
    _ = isBalanced (before ++ (trim text ++ after)) :=
        (isBalanced_append (isBalanced_of_blank blankBefore)).symm
    _ = isBalanced text := congrArg isBalanced shape.symm

theorem imbalanced_trim_iff (text : List Char) : Imbalanced (trim text) ↔ Imbalanced text := by
  rw [← not_iff_not, ← isBalanced_iff_not_imbalanced, ← isBalanced_iff_not_imbalanced,
    isBalanced_trim]

theorem isBalanced_coreOf {text : List Char} (balanced : isBalanced text = true) :
    isBalanced (coreOf text) = true :=
  isBalanced_stripParens ((isBalanced_trim text).trans balanced)

/-- The sides of an operator at depth zero are balanced each by itself. -/
theorem isBalanced_sides {text : List Char} {split : Split} (balanced : isBalanced text = true)
    (found : split? text = some split) :
    isBalanced split.left = true ∧ isBalanced split.right = true := by
  obtain ⟨shape, _, _, level⟩ := eq_of_split?_eq_some found
  rw [shape, List.append_cons] at balanced
  have frontBalanced : isBalanced (split.left ++ [split.operator.symbol]) = true := by
    rw [isBalanced_eq_true_iff]
    refine ⟨level, ?_⟩
    intro before after shape
    rw [shape, List.append_assoc] at balanced
    exact netDepth_nonneg_of_isBalanced balanced
  refine ⟨?_, by rwa [isBalanced_append frontBalanced] at balanced⟩
  have symbolBalanced := isBalanced_singleton_symbol split.operator
  have leftBalanced := closesFrom_around 0 split.left [] symbolBalanced
  rw [List.append_nil, List.append_nil] at leftBalanced
  exact leftBalanced.symm.trans frontBalanced

/-- What the parts of an expression have been read from. -/
def sources : Expression → List (List Char)
  | .literal source _ | .variable source _ | .refused source _ => [source]
  | .binary source left _ right => source :: (left.sources ++ right.sources)

section Parts

variable {limit : Nat} {text : List Char} {expression : Expression}

theorem ReadAs.isBalanced_of_mem_sources (readAs : ReadAs limit text expression)
    (balanced : isBalanced text = true) {part : List Char} (member : part ∈ expression.sources) :
    isBalanced part = true := by
  induction readAs with
  | operation found _ _ leftBalanced rightBalanced =>
      obtain ⟨leftSide, rightSide⟩ := isBalanced_sides (isBalanced_coreOf balanced) found
      rcases List.mem_cons.mp member with rfl | inside
      · exact (isBalanced_trim _).trans balanced
      · rcases List.mem_append.mp inside with inLeft | inRight
        · exact leftBalanced leftSide inLeft
        · exact rightBalanced rightSide inRight
  | _ =>
      obtain rfl := List.mem_singleton.mp member
      exact (isBalanced_trim _).trans balanced

theorem RefusedFor.ne_unbalanced (balanced : isBalanced text = true) {error : EvalError}
    (reason : RefusedFor text error) : error ≠ .unbalanced := by
  cases reason with
  | unbalanced unmatched =>
      rw [isBalanced_trim, balanced] at unmatched
      cases unmatched
  | unreadable read => exact EvalError.ofFault_ne_unbalanced _
  | empty | invalid => nofun

theorem ReadAs.unbalanced_not_mem_refusals (readAs : ReadAs limit text expression)
    (balanced : isBalanced text = true) : EvalError.unbalanced ∉ expression.refusals := by
  intro member
  rcases readAs.reason_of_mem_refusals (fun _ part => isBalanced part = true)
    (fun _ _ _ partBalanced found => isBalanced_sides (isBalanced_coreOf partBalanced) found)
    balanced member with ⟨same, _⟩ | ⟨_, part, partBalanced, reason⟩
  · cases same
  · exact reason.ne_unbalanced partBalanced rfl

end Parts

end Expression

/-! ## Steps of a run -/

namespace Run

variable {step : TraceStep}

theorem mem_steps_both {left right : Run} {combine : Value → Value → Outcome}
    (member : step ∈ (left.both right combine).steps) : step ∈ left.steps ∨ step ∈ right.steps := by
  rw [both] at member
  split at member
  · exact Or.inl member
  · split at member <;> exact List.mem_append.mp member

theorem evaluating_mem_of_withFailure {run : Run} {source : List Char}
    (member : .evaluating source ∈ run.withFailure.steps) : .evaluating source ∈ run.steps := by
  rw [withFailure] at member
  split at member
  · simpa using member
  · exact member

end Run

namespace Expression

section Runs

variable {environment : Environment} {expression : Expression}

theorem mem_sources_of_mem_steps {part : List Char}
    (member : .evaluating part ∈ (expression.run environment).steps) :
    part ∈ expression.sources := by
  induction expression with
  | literal source value => simpa [run, Run.after, Run.done, sources] using member
  | «variable» source name =>
      rcases List.mem_cons.mp member with here | later
      · simpa [sources] using here
      · rw [Environment.lookup] at later
        split at later <;> cases later
  | binary source left operator right leftHolds rightHolds =>
      rcases List.mem_cons.mp member with here | later
      · obtain rfl := TraceStep.evaluating.inj here
        exact List.mem_cons_self
      · rcases List.mem_cons.mp later with split | operands
        · cases split
        · apply List.mem_cons_of_mem
          rw [List.mem_append]
          exact (Run.mem_steps_both operands).imp leftHolds rightHolds
  | refused source error => simpa [run, Run.after, Run.done, sources] using member

/-- Only a part that is unbalanced tells of it. -/
theorem WellRead.unbalanced_mem_refusals (wellRead : WellRead expression)
    (failed : (expression.run environment).outcome = .error .unbalanced) :
    EvalError.unbalanced ∈ expression.refusals := by
  refine (wellRead.malformed_mem_refusals failed rfl).resolve_right ?_
  rintro ⟨name, fault, _, same⟩
  exact EvalError.ofFault_ne_unbalanced fault same.symm

end Runs

end Expression

/-- A text that is not blank is refused for its parentheses exactly when they do not match, and
then nothing else happens.  In a balanced text every part that is evaluated is balanced. -/
theorem evaluateWithin_unbalanced_iff (depth : Nat) (environment : Environment) (text : String) :
    let source := trim text.toList
    let run := evaluateWithin (depth + 1) environment text
    ((∃ error, run.outcome = .error error ∧ error.kind = .malformed ∧
        error.message = "Unbalanced parentheses in expression") ↔
      source ≠ [] ∧ Imbalanced source) ∧
    (source ≠ [] ∧ Imbalanced source → run.lookups = [] ∧ run.steps = [.evaluating source]) ∧
    (¬ Imbalanced text.toList →
      ∀ part, .evaluating part ∈ run.steps → isBalanced part = true) := by
  intro source run
  have readAs := readAs_ofText (depth + 1) text.toList
  have refused : source ≠ [] → Imbalanced source →
      ofText (depth + 1) text.toList = .refused source .unbalanced := by
    intro nonempty imbalanced
    apply ofText_of_unbalanced depth nonempty
    rw [← Bool.not_eq_true, isBalanced_iff_not_imbalanced]
    exact not_not_intro imbalanced
  refine ⟨⟨?_, ?_⟩, ?_, ?_⟩
  · rintro ⟨error, failed, malformed, message⟩
    obtain rfl : error = .unbalanced :=
      EvalError.eq_of_message (Or.inr (Or.inl rfl)) malformed message
    rw [outcome_evaluateWithin] at failed
    have member := readAs.wellRead.unbalanced_mem_refusals failed
    have imbalanced : Imbalanced text.toList := by
      by_contra balanced
      exact readAs.unbalanced_not_mem_refusals
        ((isBalanced_iff_not_imbalanced _).mpr balanced) member
    refine ⟨?_, (imbalanced_trim_iff _).mpr imbalanced⟩
    intro blank
    rw [ofText_of_trim_eq_nil depth blank] at member
    cases List.mem_singleton.mp member
  · rintro ⟨nonempty, imbalanced⟩
    refine ⟨.unbalanced, ?_, rfl, rfl⟩
    rw [outcome_evaluateWithin, refused nonempty imbalanced, outcome_run_refused]
  · rintro ⟨nonempty, imbalanced⟩
    have stopped : run = ⟨.error .unbalanced, [], [.evaluating source]⟩ := by
      show ((ofText (depth + 1) text.toList).run environment).withFailure = _
      rw [refused nonempty imbalanced]
      rfl
    rw [stopped]
    exact ⟨rfl, rfl⟩
  · intro balanced part member
    exact readAs.isBalanced_of_mem_sources ((isBalanced_iff_not_imbalanced _).mpr balanced)
      (mem_sources_of_mem_steps (Run.evaluating_mem_of_withFailure member))

/-- The two ends of one text are no pair, and the parts of the other are balanced. -/
theorem evaluateWithin_unbalanced_iff_sample :
    let environment : Environment := fun _ => .ok none
    Imbalanced "a) + (b".toList ∧ (evaluateWithin 2 environment " a) + (b ").lookups = [] ∧
      ¬ Imbalanced "(1) + (2)".toList ∧
      ∀ part, .evaluating part ∈ (evaluateWithin 2 environment "(1) + (2)").steps →
        isBalanced part = true := by
  intro environment
  have closesFirst : Imbalanced "a) + (b".toList :=
    Or.inl ⟨['a', ')'], by decide, by decide⟩
  have balanced : ¬ Imbalanced "(1) + (2)".toList :=
    (isBalanced_iff_not_imbalanced _).mp (by decide)
  obtain ⟨_, nothingElse, _⟩ := evaluateWithin_unbalanced_iff 1 environment " a) + (b "
  have trimmed : trim " a) + (b ".toList = "a) + (b".toList := by decide
  rw [trimmed] at nothingElse
  exact ⟨closesFirst, (nothingElse ⟨by decide, closesFirst⟩).1, balanced,
    (evaluateWithin_unbalanced_iff 1 environment "(1) + (2)").2.2 balanced⟩

end CalcShell

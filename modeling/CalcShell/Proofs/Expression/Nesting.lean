import CalcShell.Proofs.Expression.InternalErrors
import CalcShell.Proofs.Expression.Messages
import CalcShell.Proofs.Expression.ResultTag

/-!
# How far evaluation goes

The two sides of an operator are shorter than the text that is split at it.  They share
none of its operators, and both lack the one between them, while parentheses and white
space that are taken away hold none.  So the number of operators bounds how deeply
evaluations are nested and how many there are, and a limit above it is never reached.
-/

namespace CalcShell

open Expression Text

/-- The error that tells of deep nesting is known by its message. -/
theorem EvalError.eq_tooDeep_of_message {error : EvalError} (malformed : error.kind = .malformed)
    (message : error.message = EvalError.tooDeep.message) : error = .tooDeep :=
  EvalError.eq_of_message (Or.inr (Or.inr rfl)) malformed message

namespace TraceStep

def isEvaluation : TraceStep → Bool
  | .evaluating _ => true
  | _ => false

end TraceStep

namespace Run

/-- The number of evaluations that a run has begun. -/
def evaluations (run : Run) : Nat :=
  run.steps.countP TraceStep.isEvaluation

theorem evaluations_after_evaluating (source : List Char) (run : Run) :
    (Run.after (.evaluating source) run).evaluations = run.evaluations + 1 :=
  List.countP_cons_of_pos rfl

theorem evaluations_after_split (left right : List Char) (operator : String) (run : Run) :
    (Run.after (.split left operator right) run).evaluations = run.evaluations :=
  List.countP_cons_of_neg nofun

theorem evaluations_both_le (left right : Run) (combine : Value → Value → Outcome) :
    (left.both right combine).evaluations ≤ left.evaluations + right.evaluations := by
  rw [both]
  split
  · exact Nat.le_add_right _ _
  · split <;> simp [evaluations]

theorem evaluations_withFailure (run : Run) : run.withFailure.evaluations = run.evaluations := by
  rw [withFailure]
  split
  · simp [evaluations, TraceStep.isEvaluation]
  · rfl

end Run

namespace Expression

def operatorCount (text : List Char) : Nat :=
  text.countP isOperatorChar

/-- The number of levels in an expression, each of which takes an evaluation inside the one of
the level above. -/
def height : Expression → Nat
  | .literal .. | .variable .. | .refused .. => 1
  | .binary _ left _ right => max left.height right.height + 1

/-! ## The sides of an operator -/

section Sides

variable {text : List Char} {split : Split}

theorem length_of_sides (found : split? (coreOf text) = some split) :
    split.left.length + split.right.length + 1 ≤ text.length := by
  have shorter : (coreOf text).length ≤ text.length := (coreOf_isInfix text).length_le
  rw [(eq_of_split?_eq_some found).1, List.length_append, List.length_cons] at shorter
  omega

theorem operatorCount_of_sides (found : split? (coreOf text) = some split) :
    operatorCount split.left + operatorCount split.right + 1 = operatorCount text := by
  have counted := isInner_isOperatorChar.countP_coreOf text
  rw [(eq_of_split?_eq_some found).1, List.countP_append,
    List.countP_cons_of_pos (isOperatorChar_symbol _)] at counted
  simp only [operatorCount]
  omega

end Sides

/-! ## Bounds for what has been read -/

section Bounds

variable {limit : Nat} {text : List Char} {expression : Expression}

theorem ReadAs.height_le (readAs : ReadAs limit text expression) :
    expression.height ≤ 1 + operatorCount text := by
  induction readAs with
  | operation found _ _ leftHeight rightHeight =>
      have sides := operatorCount_of_sides found
      rw [height]
      omega
  | _ => exact Nat.le_add_right _ _

theorem ReadAs.length_operators_le (readAs : ReadAs limit text expression) :
    expression.operators.length ≤ operatorCount text := by
  induction readAs with
  | operation found _ _ leftLength rightLength =>
      have sides := operatorCount_of_sides found
      rw [operators, List.length_append, List.length_cons]
      omega
  | _ => exact Nat.zero_le _

theorem RefusedFor.ne_tooDeep {error : EvalError} (reason : RefusedFor text error) :
    error ≠ .tooDeep := by
  cases reason with
  | unreadable read =>
      obtain ⟨digits, _, tells⟩ := tellsOfDigits_of_literal? read
      rw [tells]
      nofun
  | empty | unbalanced | invalid => nofun

/-- Where there are fewer operators than levels allowed, no part is too deep. -/
theorem ReadAs.tooDeep_not_mem_refusals (readAs : ReadAs limit text expression)
    (within : operatorCount text < limit) : EvalError.tooDeep ∉ expression.refusals := by
  intro member
  have sides : ∀ (depth : Nat) (part : List Char) (split : Split),
      operatorCount part < depth + 1 → split? (coreOf part) = some split →
      operatorCount split.left < depth ∧ operatorCount split.right < depth := by
    intro depth part split below found
    have counts := operatorCount_of_sides found
    omega
  rcases readAs.reason_of_mem_refusals (fun depth part => operatorCount part < depth) sides within
    member with ⟨_, part, below⟩ | ⟨_, part, _, reason⟩
  · exact Nat.not_lt_zero _ below
  · exact reason.ne_tooDeep rfl

end Bounds

/-! ## Runs -/

section Runs

variable {environment : Environment} {expression : Expression}

variable (environment expression) in
/-- An operator calls for the evaluation of two operands. -/
theorem evaluations_run_le :
    (expression.run environment).evaluations ≤ 2 * expression.operators.length + 1 := by
  induction expression with
  | literal source value => exact Nat.le_refl 1
  | «variable» source name =>
      rw [run, Run.evaluations_after_evaluating, Environment.lookup]
      split <;> exact Nat.le_refl 1
  | binary source left operator right leftBound rightBound =>
      rw [run, Run.evaluations_after_evaluating, runJoined, Run.evaluations_after_split,
        operators, List.length_append, List.length_cons]
      refine (Nat.add_le_add_right (Run.evaluations_both_le _ _ _) 1).trans ?_
      omega
  | refused source error => exact Nat.le_refl 1

/-- Where no lookup fails, only a part that is too deep tells of it. -/
theorem WellRead.tooDeep_mem_refusals (wellRead : WellRead expression)
    (sound : ∀ name fault, environment name ≠ .error fault)
    (failed : (expression.run environment).outcome = .error .tooDeep) :
    EvalError.tooDeep ∈ expression.refusals := by
  refine (wellRead.malformed_mem_refusals failed rfl).resolve_right ?_
  rintro ⟨name, fault, reported, _⟩
  exact sound name fault reported

end Runs

end Expression

/-- The sides of an operation are read from the two pieces that its text without outer parentheses
is split into, which are shorter than the text.  At most as many evaluations are under way at once
as there are operators in the text, and one more, and there are at most twice as many of them, and
one more.  So where the levels that are allowed outnumber the operators and no lookup fails, no
expression is nested too deeply. -/
theorem evaluateWithin_bounded (limit : Nat) (environment : Environment) (text : String) :
    let expression := ofText limit text.toList
    let run := evaluateWithin limit environment text
    (∀ (depth : Nat) (part source : List Char) (left right : Expression) (operator : Operator),
        ofText (depth + 1) part = .binary source left operator right →
        ∃ leftText rightText,
          split? (stripParens (trim part)) = some ⟨leftText, operator, rightText⟩ ∧
          left = ofText depth leftText ∧ right = ofText depth rightText ∧
          leftText.length < part.length ∧ rightText.length < part.length) ∧
      expression.height ≤ 1 + operatorCount text.toList ∧
      run.evaluations ≤ 2 * operatorCount text.toList + 1 ∧
      (operatorCount text.toList < limit →
        (∀ name fault, environment name ≠ .error fault) →
        ∀ error, run.outcome = .error error → error.kind = .malformed →
          error.message ≠ "Expression too deeply nested") := by
  intro expression run
  have readAs : ReadAs limit text.toList expression := readAs_ofText limit text.toList
  refine ⟨?_, readAs.height_le, ?_, ?_⟩
  · intro depth part source left right operator shape
    have partRead := readAs_ofText (depth + 1) part
    rw [shape] at partRead
    cases partRead with
    | @operation _ _ split found _ _ =>
        have shorter := length_of_sides found
        exact ⟨split.left, split.right, found, rfl, rfl, by omega, by omega⟩
  · have operators := readAs.length_operators_le
    have evaluations := evaluations_run_le environment expression
    calc run.evaluations
        = (expression.run environment).evaluations := Run.evaluations_withFailure _
      _ ≤ 2 * expression.operators.length + 1 := evaluations
      _ ≤ 2 * operatorCount text.toList + 1 := by omega
  · intro within sound error failed malformed message
    obtain rfl := EvalError.eq_tooDeep_of_message malformed message
    rw [outcome_evaluateWithin] at failed
    exact readAs.tooDeep_not_mem_refusals within
      (readAs.wellRead.tooDeep_mem_refusals sound failed)

/-- Parentheses do not count: three levels are enough for two operators. -/
theorem evaluateWithin_bounded_of_two_operators :
    let environment : Environment := fun _ => .ok none
    let run := evaluateWithin 3 environment "(((1))) + ((2 * (a)))"
    operatorCount "(((1))) + ((2 * (a)))".toList = 2 ∧
      (ofText 3 "(((1))) + ((2 * (a)))".toList).height ≤ 1 + 2 ∧
      run.evaluations ≤ 2 * 2 + 1 ∧
      ∀ error, run.outcome = .error error → error.kind = .malformed →
        error.message ≠ "Expression too deeply nested" := by
  intro environment run
  have counted : operatorCount "(((1))) + ((2 * (a)))".toList = 2 := by decide
  have sound : ∀ name fault, environment name ≠ .error fault := nofun
  have bounded := evaluateWithin_bounded 3 environment "(((1))) + ((2 * (a)))"
  simp only [counted] at bounded
  obtain ⟨_, height, evaluations, notDeep⟩ := bounded
  exact ⟨counted, height, evaluations, notDeep (by decide) sound⟩

end CalcShell

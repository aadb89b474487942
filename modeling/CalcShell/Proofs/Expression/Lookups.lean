import CalcShell.Proofs.Expression.ReadAs

/-!
# Names and lookups

A run looks up the names of its expression from left to right, up to the first error,
and each of them stands in the text.  What the other names are bound to does not
matter: environments that agree on the names that were looked up give the same run.
-/

namespace CalcShell

open Expression Text

namespace Expression

/-- The names in an expression, from left to right. -/
def names : Expression → List String
  | .literal .. | .refused .. => []
  | .variable _ name => [name]
  | .binary _ left _ right => left.names ++ right.names

theorem isInfix_of_mem_names {limit : Nat} {text : List Char} {name : String}
    (member : name ∈ (ofText limit text).names) : name.toList <:+: text := by
  have readAs := readAs_ofText limit text
  generalize ofText limit text = expression at readAs member
  induction readAs with
  | tooDeep text => exact absurd member List.not_mem_nil
  | refused reason => exact absurd member List.not_mem_nil
  | literal read => exact absurd member List.not_mem_nil
  | @name depth text named =>
      obtain rfl := List.mem_singleton.mp member
      rw [String.toList_ofList]
      exact coreOf_isInfix text
  | @operation depth text split found _ _ leftInside rightInside =>
      obtain ⟨leftPiece, rightPiece⟩ := split?_isInfix found
      rcases List.mem_append.mp member with inLeft | inRight
      · exact (leftInside inLeft).trans (leftPiece.trans (coreOf_isInfix text))
      · exact (rightInside inRight).trans (rightPiece.trans (coreOf_isInfix text))

section Runs

variable {environment other : Environment} {expression : Expression}

/-- The names that a run does not come to are the last ones, and a run that gives a value has
come to all of them. -/
theorem exists_names_eq_append (environment : Environment) (expression : Expression) :
    ∃ later, expression.names = (expression.run environment).lookups ++ later ∧
      ∀ value, (expression.run environment).outcome = .ok value → later = [] := by
  induction expression with
  | literal source value => exact ⟨[], rfl, fun _ _ => rfl⟩
  | «variable» source name =>
      refine ⟨[], ?_, fun _ _ => rfl⟩
      rw [lookups_run_variable, names, List.append_nil]
  | binary source left operator right leftNames rightNames =>
      obtain ⟨leftLater, leftSplit, leftAll⟩ := leftNames
      obtain ⟨rightLater, rightSplit, rightAll⟩ := rightNames
      rw [names, leftSplit, rightSplit, lookups_run_binary]
      cases leftOutcome : (left.run environment).outcome with
      | error error =>
          refine ⟨leftLater ++ ((right.run environment).lookups ++ rightLater), ?_, ?_⟩
          · simp [Except.isOk, Except.toBool]
          · intro value evaluated
            rw [outcome_run_binary, leftOutcome] at evaluated
            cases evaluated
      | ok leftValue =>
          refine ⟨rightLater, ?_, ?_⟩
          · simp [leftAll leftValue leftOutcome, Except.isOk, Except.toBool]
          · intro value evaluated
            obtain ⟨_, rightValue, _, rightOutcome, _⟩ :=
              (outcome_run_binary_eq_ok_iff environment).mp evaluated
            exact rightAll rightValue rightOutcome
  | refused source error => exact ⟨[], rfl, fun _ _ => rfl⟩

/-- A run is the same wherever the names that it looks up are bound to the same. -/
theorem run_eq_of_agree
    (agree : ∀ name ∈ (expression.run environment).lookups, other name = environment name) :
    expression.run other = expression.run environment := by
  induction expression with
  | literal source value => rfl
  | «variable» source name =>
      have same : other name = environment name := agree name (by simp)
      simp only [run, Environment.lookup, same]
  | binary source left operator right leftSame rightSame =>
      rw [lookups_run_binary] at agree
      have sameLeft : left.run other = left.run environment :=
        leftSame fun name member => agree name (List.mem_append_left _ member)
      cases leftOutcome : (left.run environment).outcome with
      | error error => simp only [run, runJoined, Run.both, sameLeft, leftOutcome]
      | ok leftValue =>
          have sameRight : right.run other = right.run environment := by
            apply rightSame
            intro name member
            apply agree name
            simp [leftOutcome, Except.isOk, Except.toBool, member]
          simp only [run, sameLeft, sameRight]
  | refused source error => rfl

end Runs

end Expression

/-- A run is determined by what it looks up: in any environment that agrees on these names the
whole run is the same.  They are the first names of the expression, all of them if the run gives
a value, and stand in the text.  So neither a name behind the point of failure nor one that is not
in the text makes a difference. -/
theorem evaluateWithin_determined (limit : Nat) (environment : Environment) (text : String) :
    let run := evaluateWithin limit environment text
    (∀ other : Environment, (∀ name ∈ run.lookups, other name = environment name) →
        evaluateWithin limit other text = run) ∧
      (∃ later, (ofText limit text.toList).names = run.lookups ++ later ∧
        ∀ value, run.outcome = .ok value → later = []) ∧
      ∀ name, name ∉ run.lookups ∨ ¬ name.toList <:+: text.toList →
        ∀ answer, evaluateWithin limit (Function.update environment name answer) text = run := by
  intro run
  have determined : ∀ other : Environment,
      (∀ name ∈ run.lookups, other name = environment name) →
        evaluateWithin limit other text = run := by
    intro other agree
    rw [lookups_evaluateWithin] at agree
    rw [evaluateWithin, run_eq_of_agree agree]
    rfl
  obtain ⟨later, split, all⟩ := exists_names_eq_append environment (ofText limit text.toList)
  have isSplit : (ofText limit text.toList).names = run.lookups ++ later := by
    rw [split, lookups_evaluateWithin]
  refine ⟨determined, ⟨later, isSplit, ?_⟩, ?_⟩
  · intro value evaluated
    rw [outcome_evaluateWithin] at evaluated
    exact all value evaluated
  · intro name missing answer
    have notLookedUp : name ∉ run.lookups := by
      rcases missing with unasked | absent
      · exact unasked
      · intro member
        exact absent (isInfix_of_mem_names (isSplit ▸ List.mem_append_left later member))
    apply determined
    intro lookedUp member
    have different : lookedUp ≠ name := fun same => notLookedUp (same ▸ member)
    rw [Function.update_of_ne different]

/-- The right operand of a sum is not looked up where the left one is missing. -/
theorem evaluateWithin_determined_of_missing :
    let environment : Environment := fun _ => .ok none
    (evaluateWithin 2 environment "a + b").lookups = ["a"] ∧
      evaluateWithin 2 (Function.update environment "b" (.ok (some (Value.integer 1)))) "a + b" =
        evaluateWithin 2 environment "a + b" := by
  intro environment
  have lookedUp : (evaluateWithin 2 environment "a + b").lookups = ["a"] := by decide +kernel
  refine ⟨lookedUp, (evaluateWithin_determined 2 environment "a + b").2.2 "b" (Or.inl ?_) _⟩
  rw [lookedUp]
  decide

end CalcShell

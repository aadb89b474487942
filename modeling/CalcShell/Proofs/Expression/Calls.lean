import CalcShell.Proofs.Expression.Imbalance
import CalcShell.Proofs.Expression.Literal

/-!
# Evaluations inside evaluations

The evaluation of an operation calls for that of its left operand and, if this gives a
value, for that of its right one.  Each has an address: the sides of operators that lead
to it from the whole.  Layers of parentheses are taken off before anything else is
looked at, so that they call for nothing of their own: whatever stands in them has the
same outcome, the same lookups and the same evaluations inside it as without them.
-/

namespace CalcShell

open Expression Text

/-- The text that a step begins to evaluate. -/
def TraceStep.source? : TraceStep → Option (List Char)
  | .evaluating source => some source
  | .split .. | .failed _ => none

namespace Run

/-- The texts that a run has begun to evaluate, in their order. -/
def sources (run : Run) : List (List Char) :=
  run.steps.filterMap TraceStep.source?

theorem sources_after_evaluating (source : List Char) (run : Run) :
    (Run.after (.evaluating source) run).sources = source :: run.sources :=
  rfl

theorem sources_after_split (left right : List Char) (operator : String) (run : Run) :
    (Run.after (.split left operator right) run).sources = run.sources :=
  rfl

theorem sources_both (left right : Run) (combine : Value → Value → Outcome) :
    (left.both right combine).sources =
      left.sources ++ if left.outcome.isOk then right.sources else [] := by
  rw [both]
  cases leftOutcome : left.outcome with
  | error error => simp [Except.isOk, Except.toBool]
  | ok leftValue =>
      cases right.outcome <;> simp [sources, Except.isOk, Except.toBool]

theorem sources_withFailure (run : Run) : run.withFailure.sources = run.sources := by
  rw [withFailure]
  split
  · simp [sources, TraceStep.source?]
  · rfl

end Run

inductive Side where
  | left
  | right
  deriving DecidableEq, Repr

/-- An evaluation of a text.  Its address is empty for the whole, and leads from there to an
operand otherwise. -/
structure Evaluation where
  address : List Side
  source : List Char
  deriving DecidableEq, Repr

/-- An evaluation as it is seen from one level above. -/
def Evaluation.under (side : Side) (evaluation : Evaluation) : Evaluation :=
  { evaluation with address := side :: evaluation.address }

namespace Expression

variable (environment : Environment)

/-- The evaluations that a run consists of, in the order in which they begin. -/
def evaluationsIn : Expression → List Evaluation
  | .literal source _ | .variable source _ | .refused source _ => [⟨[], source⟩]
  | .binary source left _ right =>
    ⟨[], source⟩ ::
      (left.evaluationsIn.map (.under .left) ++
        if (left.run environment).outcome.isOk then right.evaluationsIn.map (.under .right)
        else [])

theorem map_source_under (side : Side) (evaluations : List Evaluation) :
    (evaluations.map (.under side)).map Evaluation.source = evaluations.map Evaluation.source := by
  rw [List.map_map]
  rfl

/-- These are the evaluations that the run tells of. -/
theorem sources_run (expression : Expression) :
    (expression.run environment).sources =
      (expression.evaluationsIn environment).map Evaluation.source := by
  induction expression with
  | literal source value => rfl
  | «variable» source name =>
      rw [run, Run.sources_after_evaluating, Environment.lookup]
      split <;> rfl
  | binary source left operator right leftSources rightSources =>
      rw [run, Run.sources_after_evaluating, runJoined, Run.sources_after_split,
        Run.sources_both, leftSources, rightSources, evaluationsIn, List.map_cons,
        List.map_append, map_source_under]
      split
      · rw [map_source_under]
      · rfl
  | refused source error => rfl

/-- What is evaluated inside an expression does not depend on the text of the whole. -/
theorem exists_evaluationsIn_withSource (expression : Expression) :
    ∃ inner, ∀ source, (expression.withSource source).evaluationsIn environment =
      ⟨[], source⟩ :: inner := by
  cases expression with
  | literal | «variable» | refused => exact ⟨[], fun _ => rfl⟩
  | binary source left operator right => exact ⟨_, fun _ => rfl⟩

theorem inLayers_eq_replicate (layers : Nat) (text : List Char) :
    inLayers layers text =
      List.replicate layers '(' ++ text ++ List.replicate layers ')' := by
  induction layers with
  | zero => simp [inLayers]
  | succ layers inductionHypothesis =>
      rw [inLayers, inductionHypothesis, List.replicate_succ, List.replicate_succ']
      simp

variable {environment}

theorem outcome_of_isName {depth : Nat} {text : List Char} (tight : Tight text)
    (balanced : isBalanced text = true) (named : isName text = true) {value : Value}
    (bound : environment (String.ofList text) = .ok (some value)) :
    ((ofText (depth + 1) text).run environment).outcome = .ok value := by
  have bare : stripParens text = text := by
    apply stripParens_of_innerText?_eq_none
    rw [Option.eq_none_iff_forall_ne_some]
    intro inner found
    rw [(innerText?_eq_some_iff.mp found).1, isName_of_opening] at named
    cases named
  rw [ofText_of_tight depth tight balanced, bare, ofCore_name (literal?_of_isName named) named,
    outcome_run_variable, outcome_lookup_eq_ok_iff]
  exact bound

end Expression

theorem sources_evaluateWithin (limit : Nat) (environment : Environment) (text : String) :
    (evaluateWithin limit environment text).sources =
      ((ofText limit text.toList).evaluationsIn environment).map Evaluation.source := by
  rw [evaluateWithin, Run.sources_withFailure, sources_run]

/-- Layers of parentheses around a text with matching parentheses and without white space at its
ends change nothing: neither the outcome nor the lookups, nor what is evaluated inside the text,
at any limit.  So a name in any number of layers gives the value that it is bound to. -/
theorem evaluateWithin_layered (limit layers : Nat) (environment : Environment)
    (text : List Char) (tight : Tight text) (balanced : ¬ Imbalanced text) :
    let layered := List.replicate layers '(' ++ text ++ List.replicate layers ')'
    let bare := evaluateWithin limit environment (String.ofList text)
    let run := evaluateWithin limit environment (String.ofList layered)
    run.outcome = bare.outcome ∧ run.lookups = bare.lookups ∧
    (∃ inner : List Evaluation,
      (ofText limit text).evaluationsIn environment = ⟨[], text⟩ :: inner ∧
      (ofText limit layered).evaluationsIn environment = ⟨[], layered⟩ :: inner ∧
      bare.sources = text :: inner.map Evaluation.source ∧
      run.sources = layered :: inner.map Evaluation.source) ∧
    (0 < limit → isName text = true →
      ∀ value, environment (String.ofList text) = .ok (some value) → run.outcome = .ok value) := by
  intro layered bare run
  have matching : isBalanced text = true := (isBalanced_iff_not_imbalanced text).mpr balanced
  have inLayers_eq : layered = inLayers layers text := (inLayers_eq_replicate layers text).symm
  have withText : ofText limit text = (ofText limit text).withSource text :=
    ofText_inLayers limit tight matching 0
  have withLayers : ofText limit layered = (ofText limit text).withSource layered := by
    rw [inLayers_eq]
    exact ofText_inLayers limit tight matching layers
  have sameOutcome : run.outcome = bare.outcome := by
    rw [outcome_evaluateWithin, outcome_evaluateWithin, String.toList_ofList,
      String.toList_ofList, withLayers, outcome_run_withSource]
  refine ⟨sameOutcome, ?_, ?_, ?_⟩
  · rw [lookups_evaluateWithin, lookups_evaluateWithin, String.toList_ofList,
      String.toList_ofList, withLayers, lookups_run_withSource]
  · obtain ⟨inner, evaluations⟩ := exists_evaluationsIn_withSource environment (ofText limit text)
    have ofBare := evaluations text
    have ofLayered := evaluations layered
    rw [← withText] at ofBare
    rw [← withLayers] at ofLayered
    refine ⟨inner, ofBare, ofLayered, ?_, ?_⟩
    · rw [sources_evaluateWithin, String.toList_ofList, ofBare, List.map_cons]
    · rw [sources_evaluateWithin, String.toList_ofList, ofLayered, List.map_cons]
  · intro positive named value bound
    obtain ⟨depth, rfl⟩ := Nat.exists_eq_succ_of_ne_zero (Nat.ne_of_gt positive)
    rw [sameOutcome, outcome_evaluateWithin, String.toList_ofList]
    exact outcome_of_isName tight matching named bound

/-- The two ends of `(a)+(b)` are no pair, and in two layers it fails for the same name as
without them.  A name in two layers is found with no level to spare. -/
theorem evaluateWithin_layered_of_sum :
    let environment : Environment := fun name =>
      if name = "a" then .ok (some (Value.integer 1)) else .ok none
    Tight "(a)+(b)".toList ∧ ¬ Imbalanced "(a)+(b)".toList ∧
      (evaluateWithin 2 environment "(((a)+(b)))").outcome =
        (evaluateWithin 2 environment "(a)+(b)").outcome ∧
      (evaluateWithin 2 environment "(((a)+(b)))").lookups =
        (evaluateWithin 2 environment "(a)+(b)").lookups ∧
      Tight "a".toList ∧ ¬ Imbalanced "a".toList ∧
      (evaluateWithin 1 environment "((a))").outcome = .ok (Value.integer 1) := by
  intro environment
  have sumTight : Tight "(a)+(b)".toList := tight_of_trim_eq (by decide) (by decide)
  have sumBalanced : ¬ Imbalanced "(a)+(b)".toList :=
    (isBalanced_iff_not_imbalanced _).mp (by decide)
  have nameTight : Tight "a".toList := tight_of_trim_eq (by decide) (by decide)
  have nameBalanced : ¬ Imbalanced "a".toList :=
    (isBalanced_iff_not_imbalanced _).mp (by decide)
  obtain ⟨outcome, lookups, _⟩ :=
    evaluateWithin_layered 2 2 environment "(a)+(b)".toList sumTight sumBalanced
  obtain ⟨_, _, _, found⟩ :=
    evaluateWithin_layered 1 2 environment "a".toList nameTight nameBalanced
  exact ⟨sumTight, sumBalanced, outcome, lookups, nameTight, nameBalanced,
    found (by decide) (by decide) (Value.integer 1) rfl⟩

end CalcShell

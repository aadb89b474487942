import CalcShell.Proofs.Command.Reports
import CalcShell.Proofs.Table.Binding

/-!
# Assignments and evaluations report the same text

Where an evaluation reports a text, an assignment of the same expression reports
the name and that text, and an evaluation of the name reports it once more.  The
null value is written in two ways: an evaluation reports it as the shell writes it
everywhere, an assignment does not.
-/

namespace CalcShell.Command

open Expression Text

variable {limit : Nat} {tracing : Bool} {table : SymbolTable} {expression text : String}
  {value : Value}

/-- An evaluation succeeds with the text of a value, for which the null value has a word. -/
theorem execute_evaluate_eq_ok_iff :
    (execute limit tracing .evaluate table [expression]).result = .ok (Report.ok text) ↔
      ∃ value text?, valueOf? limit table expression = some value ∧ value.asString = .ok text? ∧
        text = text?.getD "null" := by
  cases evaluated : valueOf? limit table expression with
  | none =>
      have unanswered : answer? limit table [expression] = none := evaluated
      obtain ⟨_, message, failed⟩ := execute_evaluate_of_none tracing unanswered
      simp [failed, Report.failed, Report.ok]
  | some value =>
      have answered : answer? limit table [expression] = some value := evaluated
      obtain ⟨_, reported⟩ := execute_evaluate_of_some tracing answered
      rw [reported]
      cases written : value.asString with
      | error fault => simp [written, bind, Except.bind]
      | ok text? => simp [written, Report.ok, bind, Except.bind, pure, Except.pure, eq_comm]

theorem binding?_name (spelling : NameSpelling)
    (evaluated : valueOf? limit table expression = some value) :
    binding? limit table [String.ofList spelling.text, expression] =
      some (String.ofList spelling.text, value) := by
  have named : isName spelling.text = true :=
    isName_eq_true_iff.mpr ⟨[], spelling, [], by simp, by simp, by simp⟩
  refine binding?_eq_some_iff.mpr ⟨_, expression, rfl, ?_, evaluated, ?_⟩
  · rwa [String.toList_ofList, spelling.tight_text.trim_eq]
  · rw [trimmed, String.toList_ofList, spelling.tight_text.trim_eq]

/-- Nothing has a value where nothing may be read. -/
theorem positive_of_valueOf? (evaluated : valueOf? limit table expression = some value) :
    0 < limit := by
  refine Nat.pos_of_ne_zero ?_
  rintro rfl
  have outcome := valueOf?_eq_some_iff.mp evaluated
  rw [outcome_evaluateWithin] at outcome
  cases outcome

/-- After an evaluation that succeeds, an assignment of the expression reports the text of the
evaluation behind the name, except where the value is null, and the name then stands for a value
with that text. -/
theorem assign_agrees_with_evaluate (limit : Nat) (tracing : Command → Bool) {name : String}
    (spelling : NameSpelling) (spelled : name.toList = spelling.text)
    (succeeds : (execute limit (tracing .evaluate) .evaluate table [expression]).result =
      .ok (Report.ok text)) :
    (∃ value, valueOf? limit table expression = some value ∧
      (value.tag ≠ .null →
        (execute limit (tracing .assign) .assign table [name, expression]).result =
          .ok (Report.ok s!"{name} = {text}")) ∧
      (value.tag = .null → text = "null" ∧
        (execute limit (tracing .assign) .assign table [name, expression]).result =
          .ok (Report.ok (s!"{name} = " ++ "None")))) ∧
    (execute limit (tracing .evaluate) .evaluate
        (execute limit (tracing .assign) .assign table [name, expression]).state [name]).result =
      .ok (Report.ok text) := by
  obtain rfl : name = String.ofList spelling.text := by rw [← spelled, String.ofList_toList]
  obtain ⟨value, text?, evaluated, written, rfl⟩ := execute_evaluate_eq_ok_iff.mp succeeds
  obtain ⟨changed, reported⟩ :=
    execute_assign_of_some (tracing .assign) (binding?_name spelling evaluated)
  rw [written] at reported
  refine ⟨⟨value, evaluated, ?_, ?_⟩, ?_⟩
  · intro notNull
    have isText : text? ≠ none := by
      rintro rfl
      exact notNull (Value.asString_eq_ok_none_iff.mp written)
    obtain ⟨text, rfl⟩ := Option.ne_none_iff_exists'.mp isText
    exact reported
  · intro isNull
    rw [Value.asString_eq_ok_none_iff.mpr isNull] at written
    obtain rfl := Except.ok.inj written
    exact ⟨rfl, reported⟩
  · have bound : (table.insert (String.ofList spelling.text) value).find?
        (String.ofList spelling.text) = some value := table.find?_insert_self
    have found := valueOf?_name (positive_of_valueOf? evaluated) spelling bound
    rw [changed]
    exact execute_evaluate_eq_ok_iff.mpr ⟨value, text?, found, written, rfl⟩

theorem assign_agrees_with_evaluate_on_boolean :
    (execute depthLimit false .evaluate (singleTable (Value.boolean true)) ["a"]).result =
        .ok (Report.ok "true") ∧
      (execute depthLimit false .assign (singleTable (Value.boolean true)) ["b", "a"]).result =
        .ok (Report.ok "b = true") ∧
      (execute depthLimit false .evaluate
          (execute depthLimit false .assign (singleTable (Value.boolean true)) ["b", "a"]).state
          ["b"]).result = .ok (Report.ok "true") := by
  have held : valueOf? depthLimit (singleTable (Value.boolean true)) "a" = some (.boolean true) :=
    valueOf?_singleTable (by decide) _
  have succeeds :
      (execute depthLimit false .evaluate (singleTable (Value.boolean true)) ["a"]).result =
        .ok (Report.ok "true") :=
    execute_evaluate_eq_ok_iff.mpr ⟨Value.boolean true, some "true", held, rfl, rfl⟩
  have spelled : "b".toList = (⟨'b', [], by decide, by simp⟩ : NameSpelling).text := by decide
  obtain ⟨⟨value, evaluated, onOthers, _⟩, again⟩ :=
    assign_agrees_with_evaluate depthLimit (fun _ => false) _ spelled succeeds
  obtain rfl := Option.some.inj (held.symm.trans evaluated)
  exact ⟨succeeds, onOthers (by decide), again⟩

/-- The assignment of a null value reports another text than its evaluation. -/
theorem not_forall_assign_agrees :
    ¬ ∀ (table : SymbolTable) (name expression text : String) (spelling : NameSpelling),
      name.toList = spelling.text →
      (execute depthLimit false .evaluate table [expression]).result = .ok (Report.ok text) →
      (execute depthLimit false .assign table [name, expression]).result =
          .ok (Report.ok s!"{name} = {text}") ∧
        (execute depthLimit false .evaluate
          (execute depthLimit false .assign table [name, expression]).state [name]).result =
            .ok (Report.ok text) := by
  intro always
  have evaluated : (execute depthLimit false .evaluate (singleTable Value.null) ["a"]).result =
      .ok (Report.ok "null") :=
    execute_evaluate_eq_ok_iff.mpr
      ⟨Value.null, none, valueOf?_singleTable (by decide) _, rfl, rfl⟩
  obtain ⟨reported, _⟩ := always (singleTable Value.null) "b" "a" "null"
    ⟨'b', [], by decide, by simp⟩ (by decide) evaluated
  have bound : binding? depthLimit (singleTable Value.null) ["b", "a"] = some ("b", Value.null) :=
    binding?_singleTable (by decide) _
  rw [(execute_assign_of_some false bound).2] at reported
  exact absurd reported (by decide)

end CalcShell.Command

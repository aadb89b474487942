import CalcShell.Proofs.Chain.Evaluation
import CalcShell.Proofs.Command.Execute
import CalcShell.Proofs.Expression.Results
import CalcShell.Proofs.Value.Written

/-!
# What commands report

A command over values that the constructors made changes the table by exactly the
binding that it is to make, and reports what came of it, unless the value it comes to
cannot be written.  Such a value is one that a variable was bound to from outside.  An
assignment of it fails after the variable has been bound.
-/

namespace CalcShell

open Expression Number Text

/-- The execution reports a failure where it comes to no value, and a success where it comes to
one that can be written; with any other value it fails itself. -/
def Execution.Reports (execution : Execution SymbolTable Report) : Option Value → Prop
  | none => ∃ message, execution.result = .ok (Report.failed message)
  | some value =>
    if value.raw.isWritable then ∃ message, execution.result = .ok (Report.ok message)
    else ∃ fault, execution.result = .error fault

/-- What is reported about a text that was written is a success. -/
theorem Report.success_of_return {given : Type} {written : Except Fault given}
    {message : given → String} {report : Report}
    (reported : (do return Report.ok (message (← written))) = .ok report) :
    report.success = true := by
  obtain ⟨_, _, isReport⟩ := bind_eq_ok_iff.mp reported
  obtain rfl := Except.ok.inj isReport
  rfl

namespace Command

variable {limit : Nat} {table : SymbolTable} {value : Value}

theorem bound_or_ofKind_of_valueOf? {expression : String}
    (evaluated : valueOf? limit table expression = some value) :
    (∃ name, table.find? name = some value) ∨ ∃ kind, value.OfKind kind := by
  have outcome := valueOf?_eq_some_iff.mp evaluated
  rw [outcome_evaluateWithin] at outcome
  rcases (wellRead_ofText limit expression.toList).bound_or_ofKind outcome with
    ⟨name, isBound⟩ | ofKind
  · exact Or.inl ⟨name, SymbolTable.lookup_eq_ok_some_iff.mp isBound⟩
  · exact Or.inr ofKind

/-- A name stands for the value that is bound to it, if anything may be read at all. -/
theorem valueOf?_name (positive : 0 < limit) (spelling : NameSpelling)
    (bound : table.find? (String.ofList spelling.text) = some value) :
    valueOf? limit table (String.ofList spelling.text) = some value := by
  obtain ⟨depth, rfl⟩ := Nat.exists_eq_add_of_lt positive
  have read : ofText (0 + depth + 1) spelling.text =
      .variable spelling.text (String.ofList spelling.text) :=
    (Leaf.name spelling).ofText_eq (0 + depth)
  rw [valueOf?_eq_some_iff, outcome_evaluateWithin, String.toList_ofList, read]
  exact (outcome_lookup_eq_ok_iff _).mpr (SymbolTable.lookup_eq_ok_some_iff.mpr bound)

theorem made_of_valueOf? (made : ∀ binding ∈ table.bindings, binding.2.Made)
    {expression : String} (evaluated : valueOf? limit table expression = some value) :
    value.Made := by
  rcases bound_or_ofKind_of_valueOf? evaluated with ⟨name, isBound⟩ | ⟨kind, ofKind⟩
  · exact made _ (SymbolTable.mem_of_find?_eq_some isBound)
  · exact ofKind.made

theorem reports_of_text {execution : Execution SymbolTable Report}
    {message : Option String → String} (made : value.Made)
    (result : execution.result = (do return Report.ok (message (← value.asString)))) :
    execution.Reports (some value) := by
  have written := made.wellTagged.isOk_asString
  rw [Execution.Reports]
  split
  · next writable =>
      rw [writable] at written
      cases text : value.asString with
      | ok text? => exact ⟨message text?, by rw [result, text]; rfl⟩
      | error fault =>
          rw [text] at written
          cases written
  · next unwritable =>
      rw [Bool.of_not_eq_true unwritable] at written
      cases text : value.asString with
      | ok text? =>
          rw [text] at written
          cases written
      | error fault => exact ⟨fault, by rw [result, text]; rfl⟩

/-- An evaluation leaves the table alone, an assignment makes its one binding or none, and both
report; only a value bound from outside can make them fail. -/
theorem execute_of_made (limit : Nat) (tracing : Bool) (table : SymbolTable)
    (arguments : List String) (made : ∀ binding ∈ table.bindings, binding.2.Made) :
    ((execute limit tracing .evaluate table arguments).state = table ∧
      (execute limit tracing .evaluate table arguments).Reports (answer? limit table arguments)) ∧
    ((execute limit tracing .assign table arguments).state =
        (binding? limit table arguments).elim table
          (fun binding => table.insert binding.1 binding.2) ∧
      (execute limit tracing .assign table arguments).Reports
        ((binding? limit table arguments).map Prod.snd)) ∧
    ∀ expression value, valueOf? limit table expression = some value →
      value.raw.isWritable = false → ∃ name, table.find? name = some value := by
  refine ⟨?_, ?_, ?_⟩
  · cases answered : answer? limit table arguments with
    | none => exact execute_evaluate_of_none tracing answered
    | some value =>
        obtain ⟨expression, _, evaluated⟩ := answer?_eq_some_iff.mp answered
        obtain ⟨unchanged, result⟩ := execute_evaluate_of_some tracing answered
        exact ⟨unchanged, reports_of_text (made_of_valueOf? made evaluated) result⟩
  · cases bound : binding? limit table arguments with
    | none => exact execute_assign_of_none tracing bound
    | some binding =>
        obtain ⟨name, value⟩ := binding
        obtain ⟨_, expression, _, _, evaluated, _⟩ := binding?_eq_some_iff.mp bound
        obtain ⟨changed, result⟩ := execute_assign_of_some tracing bound
        exact ⟨changed, reports_of_text (made_of_valueOf? made evaluated) result⟩
  · intro expression value evaluated unwritable
    rcases bound_or_ofKind_of_valueOf? evaluated with isBound | ⟨kind, ofKind⟩
    · exact isBound
    · rw [ofKind.isWritable] at unwritable
      cases unwritable

/-- The table in which `a` is bound to a value and nothing else is bound. -/
def singleTable (value : Value) : SymbolTable :=
  SymbolTable.empty.insert "a" value

theorem valueOf?_singleTable (positive : 0 < limit) (value : Value) :
    valueOf? limit (singleTable value) "a" = some value :=
  valueOf?_name positive ⟨'a', [], by decide, by simp⟩ rfl

theorem binding?_singleTable (positive : 0 < limit) (value : Value) :
    binding? limit (singleTable value) ["b", "a"] = some ("b", value) :=
  binding?_eq_some_iff.mpr
    ⟨"b", "a", rfl, by decide, valueOf?_singleTable positive value, by decide⟩

theorem made_singleTable {value : Value} (made : value.Made) :
    ∀ binding ∈ (singleTable value).bindings, binding.2.Made := by
  intro binding member
  obtain rfl := List.mem_singleton.mp member
  exact made

theorem execute_of_made_sample :
    (∀ binding ∈ (singleTable (Value.integer 1)).bindings, binding.2.Made) ∧
      (execute depthLimit false .assign (singleTable (Value.integer 1)) ["b", "a"]).state =
        (singleTable (Value.integer 1)).insert "b" (Value.integer 1) ∧
      ∃ message, (execute depthLimit false .assign (singleTable (Value.integer 1))
        ["b", "a"]).result = .ok (Report.ok message) := by
  have made := made_singleTable (Value.OfKind.integer 1).made
  obtain ⟨_, ⟨changed, reports⟩, _⟩ :=
    execute_of_made depthLimit false (singleTable (Value.integer 1)) ["b", "a"] made
  rw [binding?_singleTable (by decide : 0 < depthLimit)] at changed reports
  rw [Option.map_some, Execution.Reports, if_pos (Value.OfKind.integer 1).isWritable] at reports
  exact ⟨made, changed, reports⟩

/-- An assignment of a list in which a text claims to be a number of single precision fails, and
has bound the variable. -/
theorem not_forall_execute_reports :
    ¬ ∀ (tracing : Bool) (table : SymbolTable) (arguments : List String),
      (∀ binding ∈ table.bindings, binding.2.Made) →
      (∃ report, (execute depthLimit tracing .evaluate table arguments).result = .ok report) ∧
      (∃ report, (execute depthLimit tracing .assign table arguments).result = .ok report) ∧
      ((∃ report, (execute depthLimit tracing .assign table arguments).result = .ok report ∧
          report.success = true) →
        ∃ binding, binding? depthLimit table arguments = some binding ∧
          (execute depthLimit tracing .assign table arguments).state =
            table.insert binding.1 binding.2) ∧
      ((¬ ∃ report, (execute depthLimit tracing .assign table arguments).result = .ok report ∧
          report.success = true) →
        (execute depthLimit tracing .assign table arguments).state = table) := by
  intro always
  obtain ⟨_, ⟨report, reported⟩, _⟩ := always false (singleTable Value.listOfMisfit) ["b", "a"]
    (made_singleTable Value.made_listOfMisfit)
  have bound : binding? depthLimit (singleTable Value.listOfMisfit) ["b", "a"] =
      some ("b", Value.listOfMisfit) := binding?_singleTable (by decide) _
  obtain ⟨_, result⟩ := execute_assign_of_some false bound
  have reports := reports_of_text Value.made_listOfMisfit result
  rw [Execution.Reports, if_neg (Bool.eq_false_iff.mp Value.isWritable_listOfMisfit)] at reports
  obtain ⟨fault, failed⟩ := reports
  rw [failed] at reported
  cases reported

end Command

end CalcShell

import CalcShell.Command
import CalcShell.Proofs.Expression.Naming
import CalcShell.Proofs.Table.Binding

/-!
# What commands do

Evaluating an expression leaves the variables alone, and an error is reported.  An
assignment over a symbol table binds the name that it is given, without white space
at its ends, and then makes its report.
-/

namespace CalcShell

open Expression Text

namespace SymbolTable

variable {table : SymbolTable} {name : String} {value : Value}

theorem lookup_eq (table : SymbolTable) (name : String) :
    Store.lookup table name = .ok (table.find? name) :=
  rfl

theorem lookup_eq_ok_some_iff :
    Store.lookup table name = .ok (some value) ↔ table.find? name = some value := by
  rw [lookup_eq, Except.ok.injEq]

end SymbolTable

namespace Command

section Values

variable {store : Type} [Store store] {limit : Nat} (tracing : Bool) {state : store}
  {expression : String} (next : store → Value → Execution store Report)

theorem withValue_of_error {error : EvalError}
    (failed : (evaluateWithin limit (Store.lookup state) expression).outcome = .error error) :
    (withValue limit tracing state expression next).state = state ∧
      (withValue limit tracing state expression next).result =
        .ok (Report.failed s!" {error.message}") := by
  simp [withValue, reportRun, traced, Execution.andThen, failed, Execution.printing,
    Execution.silent]

theorem withValue_of_ok {value : Value}
    (evaluated : (evaluateWithin limit (Store.lookup state) expression).outcome = .ok value) :
    (withValue limit tracing state expression next).state = (next state value).state ∧
      (withValue limit tracing state expression next).result = (next state value).result := by
  simp [withValue, reportRun, traced, Execution.andThen, evaluated, Execution.printing]

end Values

/-- The value that an expression is evaluated to over a table, within a limit on its nesting. -/
def valueOf? (limit : Nat) (table : SymbolTable) (expression : String) : Option Value :=
  (evaluateWithin limit (Store.lookup table) expression).outcome.toOption

/-- The value that an evaluation with the given arguments reports. -/
def answer? (limit : Nat) (table : SymbolTable) : List String → Option Value
  | [expression] => valueOf? limit table expression
  | _ => none

/-- The binding that an assignment with the given arguments makes. -/
def binding? (limit : Nat) (table : SymbolTable) : List String → Option (String × Value)
  | [name, expression] =>
    if isName (trim name.toList) then (valueOf? limit table expression).map (trimmed name, ·)
    else none
  | _ => none

section Tables

variable {limit : Nat} {table : SymbolTable} {name expression : String} {arguments : List String}
  {value : Value}

theorem valueOf?_eq_some_iff :
    valueOf? limit table expression = some value ↔
      (evaluateWithin limit (Store.lookup table) expression).outcome = .ok value := by
  rw [valueOf?]
  cases (evaluateWithin limit (Store.lookup table) expression).outcome <;> simp [Except.toOption]

theorem exists_of_valueOf?_eq_none (missing : valueOf? limit table expression = none) :
    ∃ error, (evaluateWithin limit (Store.lookup table) expression).outcome = .error error := by
  rw [valueOf?] at missing
  cases failed : (evaluateWithin limit (Store.lookup table) expression).outcome with
  | ok value => simp [failed, Except.toOption] at missing
  | error error => exact ⟨error, rfl⟩

theorem answer?_eq_some_iff :
    answer? limit table arguments = some value ↔
      ∃ expression, arguments = [expression] ∧ valueOf? limit table expression = some value := by
  unfold answer?
  split
  · next expression => simp
  · next noExpression =>
      constructor
      · nofun
      · rintro ⟨expression, rfl, _⟩
        exact absurd rfl (noExpression expression)

theorem binding?_eq_some_iff :
    binding? limit table arguments = some (name, value) ↔
      ∃ given expression, arguments = [given, expression] ∧ isName (trim given.toList) = true ∧
        valueOf? limit table expression = some value ∧ trimmed given = name := by
  unfold binding?
  split
  · next given expression =>
      split
      · next named => simp [named]
      · next unnamed => simp [unnamed]
  · next noArguments =>
      constructor
      · nofun
      · rintro ⟨given, expression, rfl, _⟩
        exact absurd rfl (noArguments given expression)

theorem isBlankText_of_isName (named : isName name.toList = true) :
    isBlankText name = false := by
  obtain ⟨before, spelling, after, shape, _, _⟩ := isName_eq_true_iff.mp named
  have solid : isBlank spelling.first = false :=
    isBlank_of_isNameRest (isNameRest_of_isNameStart spelling.begins)
  rw [isBlankText, List.all_eq_false]
  exact ⟨spelling.first, by simp [shape, NameSpelling.text], by simp [solid]⟩

theorem bindName_eq (table : SymbolTable) (value : Value) (named : isName name.toList = true) :
    bindName name table value =
      .silent (table.insert name value) (do
        let text := (← value.asString).getD "None"
        return Report.ok s!"{name} = {text}") := by
  have stored : Store.handle table (.assign (.text name) value.toHost) =
      (.ok (), table.insert name value) := by
    show SymbolTable.handle table _ = _
    rw [SymbolTable.handle, SymbolTable.set_toHost table value (isBlankText_of_isName named)]
  rw [bindName, stored]

variable (tracing : Bool)

theorem execute_assign_of_some (bound : binding? limit table arguments = some (name, value)) :
    (execute limit tracing .assign table arguments).state = table.insert name value ∧
      (execute limit tracing .assign table arguments).result = (do
        let text := (← value.asString).getD "None"
        return Report.ok s!"{name} = {text}") := by
  obtain ⟨given, expression, rfl, named, evaluated, rfl⟩ := binding?_eq_some_iff.mp bound
  have trimmedNamed : isName (trimmed given).toList = true := by
    rwa [trimmed, String.toList_ofList]
  have goesOn := withValue_of_ok tracing (bindName (trimmed given))
    (valueOf?_eq_some_iff.mp evaluated)
  rw [bindName_eq table value trimmedNamed] at goesOn
  rw [execute, if_pos named]
  exact goesOn

theorem execute_of_mismatch {command : Command} (mismatch : arguments.length ≠ command.arity)
    (checked : execute limit tracing command table arguments =
      .silent table (.ok (command.checkArity arguments))) :
    (execute limit tracing command table arguments).state = table ∧
      ∃ message, (execute limit tracing command table arguments).result =
        .ok (Report.failed message) := by
  rw [checked, checkArity, if_neg mismatch]
  exact ⟨rfl, _, rfl⟩

/-- Wrong arguments, a name that is none and an error of the evaluation are reported before
anything is bound. -/
theorem execute_assign_of_none (unbound : binding? limit table arguments = none) :
    (execute limit tracing .assign table arguments).state = table ∧
      ∃ message, (execute limit tracing .assign table arguments).result =
        .ok (Report.failed message) := by
  match arguments with
  | [] => exact execute_of_mismatch tracing (by simp [arity]) rfl
  | [_] => exact execute_of_mismatch tracing (by simp [arity]) rfl
  | [given, expression] =>
      by_cases named : isName (trim given.toList) = true
      · rw [binding?, if_pos named, Option.map_eq_none_iff] at unbound
        obtain ⟨error, failed⟩ := exists_of_valueOf?_eq_none unbound
        have reported := withValue_of_error tracing (bindName (trimmed given)) failed
        rw [execute, if_pos named]
        exact ⟨reported.1, _, reported.2⟩
      · rw [execute, if_neg named]
        exact ⟨rfl, _, rfl⟩
  | first :: second :: third :: rest => exact execute_of_mismatch tracing (by simp [arity]) rfl

theorem execute_evaluate_of_some (answered : answer? limit table arguments = some value) :
    (execute limit tracing .evaluate table arguments).state = table ∧
      (execute limit tracing .evaluate table arguments).result = (do
        return Report.ok ((← value.asString).getD "null")) := by
  obtain ⟨expression, rfl, evaluated⟩ := answer?_eq_some_iff.mp answered
  exact withValue_of_ok tracing reportValue (valueOf?_eq_some_iff.mp evaluated)

theorem execute_evaluate_of_none (unanswered : answer? limit table arguments = none) :
    (execute limit tracing .evaluate table arguments).state = table ∧
      ∃ message, (execute limit tracing .evaluate table arguments).result =
        .ok (Report.failed message) := by
  match arguments with
  | [] => exact execute_of_mismatch tracing (by simp [arity]) rfl
  | [expression] =>
      obtain ⟨error, failed⟩ := exists_of_valueOf?_eq_none unanswered
      have reported := withValue_of_error tracing reportValue failed
      exact ⟨reported.1, _, reported.2⟩
  | first :: second :: rest => exact execute_of_mismatch tracing (by simp [arity]) rfl

theorem state_execute_evaluate (table : SymbolTable) (arguments : List String) :
    (execute limit tracing .evaluate table arguments).state = table := by
  cases answered : answer? limit table arguments with
  | none => exact (execute_evaluate_of_none tracing answered).1
  | some value => exact (execute_evaluate_of_some tracing answered).1

end Tables

end Command

end CalcShell

import CalcShell.Proofs.Expression.InternalErrors
import CalcShell.Proofs.Expression.Messages
import CalcShell.Proofs.Session.Traceless

/-!
# Statements fit their commands

What is read as an assignment has a name that the command for it takes, and every
statement has as many parts as its command has arguments.  So the report on a line tells
of a value or of an error of its evaluation.  The messages about those errors begin with
other words than those that refuse arguments.
-/

namespace CalcShell

open Expression Text

/-! ## Refused arguments -/

namespace Report

/-- A report that refuses what a command was given: a name that is none, or a number of
arguments that the command does not take. -/
inductive RefusesArguments : Report → Prop
  | name (given : String) : RefusesArguments (.failed s!" Invalid variable name '{given}'")
  | number (command : Command) (arguments : List String)
      (mismatch : arguments.length ≠ command.arity) :
      RefusesArguments (command.checkArity arguments)

/-- What the messages of such reports begin with. -/
def refusals : List String :=
  [" Invalid variable name '", " command requires ", " assign requires ", " evaluate requires "]

variable {report : Report}

theorem RefusesArguments.exists_refusal (refuses : report.RefusesArguments) :
    ∃ refusal ∈ refusals, ∃ message, report = .failed message ∧ Begins refusal message := by
  cases refuses with
  | name given =>
      exact ⟨" Invalid variable name '", by simp [refusals], _, rfl,
        ((Begins.refl _).append _).append _⟩
  | number command arguments mismatch =>
      have begins : Begins (" " ++ command.name ++ " requires ")
          (" " ++ command.name ++ " requires " ++ toString command.arity ++ " arguments, got " ++
            toString arguments.length) := (((Begins.refl _).append _).append _).append _
      refine ⟨" " ++ command.name ++ " requires ", ?_, _, ?_, begins⟩
      · cases command <;> decide +kernel
      · rw [Command.checkArity, if_neg mismatch]
        rfl

theorem not_refusesArguments_of_success (succeeded : report.success = true) :
    ¬ report.RefusesArguments := by
  intro refuses
  obtain ⟨_, _, message, rfl, _⟩ := refuses.exists_refusal
  cases succeeded

theorem not_refusesArguments_of_error {error : EvalError}
    (ofEvaluation : ∀ fault, error = .internal fault → fault.OfEvaluation) :
    ¬ (Report.failed s!" {error.message}").RefusesArguments := by
  intro refuses
  obtain ⟨refusal, isRefusal, message, same, beginsRefusing⟩ := refuses.exists_refusal
  obtain rfl : " " ++ error.message = message :=
    String.append_right_inj failureMark |>.mp (Report.mk.inj same).2
  obtain ⟨opening, isOpening, begins⟩ := EvalError.exists_opening ofEvaluation
  have diverge : ∀ opening ∈ EvalError.openings, ∀ refusal ∈ refusals,
      Diverge (" " ++ opening) refusal := by
    decide +kernel
  exact (diverge opening isOpening refusal isRefusal).not_begins (begins.append_left " ")
    beginsRefusing

end Report

/-! ## Evaluations -/

section Evaluations

variable {store : Type} [Store store] {state : store}

/-- Lookups fail only in a shared table that has been stopped. -/
def Store.OnlyStops (state : store) : Prop :=
  ∀ name fault, Store.lookup state name = .error fault → fault = .tableStopped

theorem SymbolTable.onlyStops (table : SymbolTable) : Store.OnlyStops table := by
  intro name fault failed
  rw [SymbolTable.lookup_eq] at failed
  cases failed

theorem SharedTable.onlyStops (shared : SharedTable) : Store.OnlyStops shared := by
  intro name fault failed
  obtain ⟨table, alive⟩ := shared
  cases alive with
  | true => exact SymbolTable.onlyStops table name fault failed
  | false => exact (Except.error.inj failed).symm

theorem ofEvaluation_of_outcome (onlyStops : Store.OnlyStops state) {limit : Nat}
    {expression : String} {fault : Fault}
    (failed : (evaluateWithin limit (Store.lookup state) expression).outcome =
      .error (.internal fault)) : fault.OfEvaluation := by
  rw [outcome_evaluateWithin] at failed
  rcases (wellRead_ofText _ _).source_of_error (fun _ _ _ _ => trivial) failed with
    member | ⟨name, lookedUp⟩ | ⟨operator, left, right, _, _, applied⟩
  · obtain ⟨digits, _, same⟩ := tellsOfDigits_of_mem_refusals member rfl
    obtain rfl := EvalError.internal.inj same
    exact .numeral _
  · rcases eq_of_lookup_eq_error lookedUp with undefined | ⟨reported, isReported, same⟩
    · cases undefined
    · obtain rfl := onlyStops name reported isReported
      obtain rfl := EvalError.internal.inj same
      exact .stopped
  · rcases Operator.error_of_apply applied with isType | isArithmetic | ⟨found, ofOperation, same⟩
    · cases isType
    · cases isArithmetic
    · obtain rfl := EvalError.internal.inj same
      exact .operation ofOperation

namespace Command

/-- What goes on with the value of an expression is not refused for its arguments. -/
theorem not_refusesArguments_of_withValue (limit : Nat) (tracing : Bool)
    (onlyStops : Store.OnlyStops state) {expression : String}
    {next : store → Value → Execution store Report} {report : Report}
    (succeeds : ∀ value report, (next state value).result = .ok report → report.success = true)
    (reported : (withValue limit tracing state expression next).result = .ok report) :
    ¬ report.RefusesArguments := by
  cases outcome : (evaluateWithin limit (Store.lookup state) expression).outcome with
  | ok value =>
      rw [(withValue_of_ok tracing next outcome).2] at reported
      exact Report.not_refusesArguments_of_success (succeeds value report reported)
  | error error =>
      rw [(withValue_of_error tracing next outcome).2] at reported
      obtain rfl := Except.ok.inj reported
      apply Report.not_refusesArguments_of_error
      rintro fault rfl
      exact ofEvaluation_of_outcome onlyStops outcome

theorem success_of_bindName {name : String} {value : Value} {report : Report}
    (reported : (bindName name state value).result = .ok report) : report.success = true := by
  rw [bindName] at reported
  split at reported
  · cases reported
  · exact Report.success_of_return reported

end Command

end Evaluations

/-! ## Lines -/

namespace Session

variable {store : Type} [Store store]

/-- An assignment that was read goes on to its expression, under the name that was read. -/
theorem execute_assign_of_read (limit : Nat) (tracing : Bool) (state : store)
    {line name expression : String} (read : Statement.read line = .assign name expression) :
    Command.execute limit tracing .assign state [name, expression] =
      Command.withValue limit tracing state expression (Command.bindName name) := by
  obtain ⟨spelling, spelled⟩ := Statement.exists_name_of_read read
  have named : isName (trim name.toList) = true := by
    rw [spelled, String.toList_ofList, spelling.tight_text.trim_eq]
    exact spelling.isName_text
  rw [Command.execute, if_pos named, trimmed_of_read read]

theorem not_refusesArguments_of_runLine (limit : Nat) (tracing : Bool) {state : store}
    (onlyStops : Store.OnlyStops state) {line : String} {report : Report}
    (reported : (runLine limit tracing state line).result = .ok (some report)) :
    ¬ report.RefusesArguments := by
  have ofStatement := (result_runLine_eq_some_iff.mp reported).2
  cases read : Statement.read line with
  | assign name expression =>
      rw [read, runStatement, execute_assign_of_read limit tracing state read] at ofStatement
      exact Command.not_refusesArguments_of_withValue limit tracing onlyStops
        (fun _ _ => Command.success_of_bindName) ofStatement
  | expression text =>
      rw [read] at ofStatement
      exact Command.not_refusesArguments_of_withValue limit tracing onlyStops
        (fun _ _ => Report.success_of_return) ofStatement

/-- The assignments are exactly the lines that are spelled as one, all other lines are
expressions, and no line is refused for the name or the number of the arguments. -/
theorem statement_exact (line : String) :
    (∀ name expression, Statement.read line = .assign name expression ↔
      ∃ spelling : AssignmentSpelling, expandTabs (trim line.toList) = spelling.text ∧
        name = String.ofList spelling.name.text ∧
        expression = String.ofList (trim spelling.right)) ∧
    (∀ expression, Statement.read line = .expression expression ↔
      (∀ spelling : AssignmentSpelling, expandTabs (trim line.toList) ≠ spelling.text) ∧
        expression = trimmed line) ∧
    (∀ name expression, Statement.read line = .assign name expression →
      isBlankText expression = false ∧
      ∀ {store : Type} [Store store] (limit : Nat) (tracing : Bool) (state : store),
        Command.execute limit tracing .assign state [name, expression] =
          Command.withValue limit tracing state expression (Command.bindName name)) ∧
    (∀ limit tracing (table : SymbolTable) report,
      (runLine limit tracing table line).result = .ok (some report) →
        ¬ report.RefusesArguments) ∧
    ∀ limit tracing (shared : SharedTable) report,
      (runLine limit tracing shared line).result = .ok (some report) →
        ¬ report.RefusesArguments := by
  refine ⟨fun _ _ => Statement.read_eq_assign_iff, fun _ => Statement.read_eq_expression_iff,
    ?_, ?_, ?_⟩
  · intro name expression read
    exact ⟨Statement.isBlankText_of_read read,
      fun limit tracing state => execute_assign_of_read limit tracing state read⟩
  · intro limit tracing table report reported
    exact not_refusesArguments_of_runLine limit tracing table.onlyStops reported
  · intro limit tracing shared report reported
    exact not_refusesArguments_of_runLine limit tracing shared.onlyStops reported

theorem statement_exact_of_total :
    let line := " total\t= a = 1"
    let report := Report.failed " Invalid expression 'a = 1'"
    Statement.read line = .assign "total" "a = 1" ∧ isBlankText "a = 1" = false ∧
      (∃ spelling : AssignmentSpelling, expandTabs (trim line.toList) = spelling.text) ∧
      (runLine depthLimit false SymbolTable.empty line).result = .ok (some report) ∧
      ¬ report.RefusesArguments := by
  intro line report
  obtain ⟨assignments, _, fits, unrefused, _⟩ := statement_exact line
  have read : Statement.read line = .assign "total" "a = 1" := by decide +kernel
  have reported : (runLine depthLimit false SymbolTable.empty line).result = .ok (some report) := by
    decide +kernel
  obtain ⟨spelling, written, _⟩ := (assignments _ _).mp read
  exact ⟨read, (fits _ _ read).1, ⟨spelling, written⟩, reported,
    unrefused depthLimit false _ report reported⟩

end Session

end CalcShell

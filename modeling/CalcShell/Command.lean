import CalcShell.Expression.Evaluate
import CalcShell.Table.Store

/-!
# Commands

A command takes its arguments as texts and reports what came of them: success or
failure, and a message.  It checks the number of its arguments before anything
else.  An assignment binds the name only after its expression has been
evaluated, so that a failure changes nothing.  How deeply an expression may be
nested is up to the surroundings, which hand in a limit.
-/

namespace CalcShell

open Expression Text

/-- What a command reports. -/
structure Report where
  success : Bool
  message : String
  deriving DecidableEq, Repr

namespace Report

def ok (message : String) : Report :=
  ⟨true, message⟩

/-- The mark at the start of the message of a failure. -/
def failureMark : String := "[Error]"

def failed (message : String) : Report :=
  ⟨false, failureMark ++ message⟩

def shown (report : Report) : String :=
  let success := if report.success then "True" else "False"
  s!"Result(success={success}, message={quoted report.message})"

end Report

/-- What came of something that was executed: what it printed, what it gave and what the
variables are afterwards. -/
structure Execution (store answer : Type) where
  printed : String
  result : Except Fault answer
  state : store

namespace Execution

variable {store answer other : Type}

def silent (state : store) (result : Except Fault answer) : Execution store answer :=
  ⟨"", result, state⟩

def printing (text : String) (execution : Execution store answer) :
    Execution store answer :=
  { execution with printed := text ++ execution.printed }

/-- Two executions, the second of which depends on what the first one gave and takes place
only if it did not fail. -/
def andThen (first : Execution store answer)
    (next : store → answer → Execution store other) : Execution store other :=
  match first.result with
  | .error fault => ⟨first.printed, .error fault, first.state⟩
  | .ok given => (next first.state given).printing first.printed

end Execution

inductive Command where
  /-- The command that the others are made after; it has no behaviour of its own. -/
  | generic
  | assign
  | evaluate
  deriving DecidableEq, Repr

namespace Command

def name : Command → String
  | .generic => "command"
  | .assign => "assign"
  | .evaluate => "evaluate"

def arity : Command → Nat
  | .generic => 0
  | .assign => 2
  | .evaluate => 1

def checkArity (command : Command) (arguments : List String) : Report :=
  if arguments.length = command.arity then Report.ok ""
  else
    Report.failed
      s!" {command.name} requires {command.arity} arguments, got {arguments.length}"

variable {store : Type} [Store store]

/-- The execution of a run.  With tracing, the trace is printed. -/
def traced (tracing : Bool) (state : store) (run : Run) : Execution store Outcome :=
  ⟨if tracing then run.trace else "", .ok run.outcome, state⟩

def evaluateIn (limit : Nat) (tracing : Bool) (state : store) (expression : String) :
    Execution store Outcome :=
  traced tracing state (evaluateWithin limit (Store.lookup state) expression)

/-- Goes on with the value of a run; an error is reported. -/
def reportRun (tracing : Bool) (state : store) (run : Run)
    (next : store → Value → Execution store Report) : Execution store Report :=
  (traced tracing state run).andThen fun state outcome =>
    match outcome with
    | .error error => .silent state (.ok (Report.failed s!" {error.message}"))
    | .ok value => next state value

/-- Evaluates an expression over the variables of a store and goes on with its value. -/
def withValue (limit : Nat) (tracing : Bool) (state : store) (expression : String)
    (next : store → Value → Execution store Report) : Execution store Report :=
  reportRun tracing state (evaluateWithin limit (Store.lookup state) expression) next

/-- Binds a name to a value and reports the value's text. -/
def bindName (name : String) (state : store) (value : Value) : Execution store Report :=
  match Store.handle state (.assign (.text name) value.toHost) with
  | (.error fault, changed) => .silent changed (.error fault)
  | (.ok _, changed) =>
    .silent changed do
      let text := (← value.asString).getD "None"
      return Report.ok s!"{name} = {text}"

def reportValue (state : store) (value : Value) : Execution store Report :=
  .silent state do
    return Report.ok ((← value.asString).getD "null")

/-- Executes a command, whose expression may be nested as deeply as the limit says. -/
def execute (limit : Nat) (tracing : Bool) (command : Command) (state : store)
    (arguments : List String) : Execution store Report :=
  match command, arguments with
  | .generic, _ => .silent state (.error .notImplemented)
  | .assign, [name, expression] =>
    if isName (trim name.toList) then
      withValue limit tracing state expression (bindName (trimmed name))
    else
      .silent state (.ok (Report.failed s!" Invalid variable name '{name}'"))
  | .evaluate, [expression] => withValue limit tracing state expression reportValue
  | command, arguments => .silent state (.ok (command.checkArity arguments))

end Command

end CalcShell

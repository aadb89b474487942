import CalcShell.Expression.Basic
import CalcShell.Text.Quoted

/-!
# Evaluation

Evaluation goes through an expression from left to right: the left operand, then
the right one, then the operation, and it ends at the first error.  Apart from
its outcome, a run records the names that it looked up and the steps that it
took, both in order.
-/

namespace CalcShell

open Text

/-- Where names are looked up.  A lookup finds a value, or no such name, or fails. -/
abbrev Environment :=
  String → Except Fault (Option Value)

inductive TraceStep where
  | evaluating (source : List Char)
  | split (left : List Char) (operator : String) (right : List Char)
  | failed (fault : Fault)
  deriving DecidableEq, Repr

def TraceStep.line : TraceStep → String
  | .evaluating source => "Evaluating: " ++ String.ofList (quotedChars source)
  | .split left operator right =>
    "Split: " ++ String.ofList (quotedChars left) ++ " " ++ operator ++ " " ++
      String.ofList (quotedChars right)
  | .failed fault => s!"Evaluation failed: {fault.category.label}: {fault.message}"

def printedLines (lines : List String) : String :=
  String.join (lines.map fun line => line ++ "\n")

/-- What happened in an evaluation. -/
structure Run where
  outcome : Outcome
  lookups : List String
  steps : List TraceStep

namespace Run

/-- A run that looks nothing up. -/
def done (outcome : Outcome) : Run :=
  ⟨outcome, [], []⟩

def after (step : TraceStep) (run : Run) : Run :=
  { run with steps := step :: run.steps }

/-- Two runs, the second of which takes place only if the first gives a value, and then
what is made of the two values. -/
def both (left right : Run) (combine : Value → Value → Outcome) : Run :=
  match left.outcome with
  | .error _ => left
  | .ok leftValue =>
    let lookups := left.lookups ++ right.lookups
    let steps := left.steps ++ right.steps
    match right.outcome with
    | .error error => ⟨.error error, lookups, steps⟩
    | .ok rightValue => ⟨combine leftValue rightValue, lookups, steps⟩

/-- The run with a last step that tells of an internal error. -/
def withFailure (run : Run) : Run :=
  match run.outcome with
  | .error (.internal fault) => { run with steps := run.steps ++ [.failed fault] }
  | _ => run

def trace (run : Run) : String :=
  printedLines (run.steps.map TraceStep.line)

end Run

def Environment.lookup (environment : Environment) (name : String) : Run :=
  match environment name with
  | .ok (some value) => ⟨.ok value, [name], []⟩
  | .ok none => ⟨.error (.undefined name), [name], []⟩
  | .error fault => ⟨.error (EvalError.ofFault fault), [name], []⟩

namespace Expression

/-- Evaluates two operands and applies an operator, which is given by any text, to what
they come to. -/
def runJoined (left right : List Char) (operator : String) (leftRun rightRun : Run) : Run :=
  Run.after (.split left operator right) <|
    leftRun.both rightRun fun leftValue rightValue =>
      match Operator.ofText? operator with
      | some known => known.apply leftValue rightValue
      | none => .error (.unknownOperator operator)

def run (environment : Environment) : Expression → Run
  | .literal source value => Run.after (.evaluating source) (.done (.ok value))
  | .variable source name => Run.after (.evaluating source) (environment.lookup name)
  | .binary source left operator right =>
    Run.after (.evaluating source) <|
      runJoined left.source right.source (String.singleton operator.symbol)
        (left.run environment) (right.run environment)
  | .refused source error => Run.after (.evaluating source) (.done (.error error))

/-- How deeply expressions may be nested where nothing else is said. -/
def depthLimit : Nat := 450

end Expression

/-- Evaluates the expression that a text holds, which may be nested as deeply as the limit
says. -/
def evaluateWithin (limit : Nat) (environment : Environment) (text : String) : Run :=
  ((Expression.ofText limit text.toList).run environment).withFailure

def evaluate (environment : Environment) (text : String) : Run :=
  evaluateWithin Expression.depthLimit environment text

/-- Evaluates the expressions that two texts hold, and applies an operator that a third
text names. -/
def evaluateJoined (limit : Nat) (environment : Environment) (left operator right : String) :
    Run :=
  let read (text : String) := Expression.ofText limit text.toList
  let leftExpression := read left
  let rightExpression := read right
  Expression.runJoined leftExpression.source rightExpression.source operator
    (leftExpression.run environment) (rightExpression.run environment)

end CalcShell

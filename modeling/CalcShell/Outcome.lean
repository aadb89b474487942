import CalcShell.Value.Arithmetic

/-!
# Outcomes of evaluations

An evaluation ends with a value or with an error.  Errors fall into five kinds;
a fault of an operation or of a lookup becomes an internal error, except that
running out of depth is an error of syntax however it comes about.

Callers that only know values get an error as a text value that begins with a
fixed mark.
-/

namespace CalcShell

open Text

inductive ErrorKind where
  | malformed
  | undefinedVariable
  | type
  | arithmetic
  | internal
  deriving DecidableEq, Repr

def ErrorKind.text : ErrorKind → String
  | .malformed => "syntax"
  | .undefinedVariable => "undefined_variable"
  | .type => "type"
  | .arithmetic => "arithmetic"
  | .internal => "internal"

inductive EvalError where
  | empty
  | unbalanced
  /-- The expression is neither a literal nor a name, and has no operator to split at. -/
  | invalid (text : String)
  /-- An operation was asked for that there is none of. -/
  | unknownOperator (operator : String)
  | tooDeep
  | undefined (name : String)
  /-- An operation met operands of types that it does not take. -/
  | operands (operator leftType rightType : String)
  | divisionByZero
  | internal (fault : Fault)
  deriving DecidableEq, Repr

namespace EvalError

/-- What an operation, given by any text, would have done to its operands. -/
def verbOf (operator : String) : String :=
  match Operator.ofText? operator with
  | some known => known.verb
  | none => s!"apply '{operator}' to"

def kind : EvalError → ErrorKind
  | .empty | .unbalanced | .invalid _ | .unknownOperator _ | .tooDeep => .malformed
  | .undefined _ => .undefinedVariable
  | .operands .. => .type
  | .divisionByZero => .arithmetic
  | .internal _ => .internal

def message : EvalError → String
  | .empty => "Empty expression"
  | .unbalanced => "Unbalanced parentheses in expression"
  | .invalid text => s!"Invalid expression '{text}'"
  | .unknownOperator operator => s!"Unknown operator '{operator}'"
  | .tooDeep => "Expression too deeply nested"
  | .undefined name => s!"Undefined variable '{name}'"
  | .operands operator leftType rightType =>
    s!"Cannot {verbOf operator} {leftType} and {rightType}"
  | .divisionByZero => "Division by zero"
  | .internal fault => fault.description

/-- The error that a fault in the middle of an evaluation becomes. -/
def ofFault (fault : Fault) : EvalError :=
  if fault.category = .recursion then .tooDeep else .internal fault

/-- The error for operands that an operation does not take; an operand may be missing. -/
def ofOperands (operator : String) (left right : Option Value) : EvalError :=
  .operands operator (typeNameOf left) (typeNameOf right)

end EvalError

/-- How an evaluation ends. -/
abbrev Outcome :=
  Except EvalError Value

def Outcome.ofResult : Except Fault Value → Outcome
  | .ok value => .ok value
  | .error fault => .error (EvalError.ofFault fault)

/-- The outcome of applying an operator.  Operands that are no numbers and a zero divisor
are noticed beforehand. -/
def Operator.apply (operator : Operator) (left right : Value) : Outcome :=
  if !(left.isNumeric && right.isNumeric) then
    .error (EvalError.ofOperands (String.singleton operator.symbol) (some left) (some right))
  else if operator = .dividedBy then
    match right.asDouble with
    | .error fault => .error (EvalError.ofFault fault)
    | .ok divisor =>
      if divisor.isZero then .error .divisionByZero
      else Outcome.ofResult (left.divide right)
  else
    Outcome.ofResult (operator.onValues left right)

/-- The mark at the start of a text value that stands for an error. -/
def errorMark : String := "Error:"

def errorText (message : String) : String :=
  s!"{errorMark} {message}"

/-- The text value that stands for an error. -/
def errorValue (message : String) : Value :=
  Value.string (errorText message)

/-- The one value that an outcome amounts to. -/
def Outcome.toValue : Outcome → Value
  | .ok value => value
  | .error error => errorValue error.message

/-- What follows the error mark, for a value that stands for an error. -/
def markedText? (value : Value) : Except Fault (Option (List Char)) := do
  if value.tag = .string then
    let text := ((← value.asString).getD "").toList
    if errorMark.toList.isPrefixOf text then return some (text.drop errorMark.length)
  return none

/-- Whether a value, which may be missing, stands for an error. -/
def isErrorValue : Option Value → Except Fault Bool
  | some value => return (← markedText? value).isSome
  | none => .ok false

/-- The message of a value that stands for an error. -/
def errorMessage? : Option Value → Except Fault (Option String)
  | some value => return (← markedText? value).map fun text => String.ofList (trim text)
  | none => .ok none

end CalcShell

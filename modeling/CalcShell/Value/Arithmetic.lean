import CalcShell.Value.Access

/-!
# Arithmetic on values

An operation on two numbers is carried out in the wider one of their kinds, in
the order integer, long, float, double.  Integers wrap to their width.  A
quotient is a double whatever is divided.
-/

namespace CalcShell

open Number

inductive Operator where
  | plus
  | minus
  | times
  | dividedBy
  deriving DecidableEq, Repr

namespace Operator

def symbol : Operator → Char
  | .plus => '+'
  | .minus => '-'
  | .times => '*'
  | .dividedBy => '/'

/-- The operation that a text stands for, if it stands for one. -/
def ofText? (text : String) : Option Operator :=
  [plus, minus, times, dividedBy].find? fun operator => text == String.singleton operator.symbol

def noun : Operator → String
  | .plus => "Addition"
  | .minus => "Subtraction"
  | .times => "Multiplication"
  | .dividedBy => "Division"

def verb : Operator → String
  | .plus => "add"
  | .minus => "subtract"
  | .times => "multiply"
  | .dividedBy => "divide"

end Operator

namespace Value

/-- The kind of number in which an operation on two values is carried out. -/
def widen (noun : String) (left right : Value) : Except Fault NumericKind :=
  match left.numericKind?, right.numericKind? with
  | some leftKind, some rightKind => .ok (leftKind.wider rightKind)
  | _, _ => .error (.operandsNotNumeric noun)

/-- An operation that stays in the kind of number in which it is carried out. -/
def combine (noun : String) (onDoubles : Double → Double → Double)
    (onInts : Int → Int → Int) (left right : Value) : Except Fault Value := do
  match ← widen noun left right with
  | .double => return double (onDoubles (← left.asDouble) (← right.asDouble))
  | .float => return single (onDoubles (← left.asFloat) (← right.asFloat))
  | .long => return long (onInts (← left.asLong) (← right.asLong))
  | .integer => return integer (onInts (← left.asInt) (← right.asInt))

def add : Value → Value → Except Fault Value :=
  combine Operator.plus.noun Double.add (· + ·)

def subtract : Value → Value → Except Fault Value :=
  combine Operator.minus.noun Double.sub (· - ·)

def multiply : Value → Value → Except Fault Value :=
  combine Operator.times.noun Double.mul (· * ·)

/-- The quotient, a double.  A zero divisor is no failure here. -/
def divide (left right : Value) : Except Fault Value := do
  let _ ← widen Operator.dividedBy.noun left right
  return double ((← left.asDouble).div (← right.asDouble))

end Value

def Operator.onValues : Operator → Value → Value → Except Fault Value
  | .plus => Value.add
  | .minus => Value.subtract
  | .times => Value.multiply
  | .dividedBy => Value.divide

end CalcShell

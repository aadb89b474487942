import CalcShell.Expression.Parens
import CalcShell.Value.Arithmetic

/-!
# Where an expression is split

An expression is split at an operator outside all parentheses that is neither its
first nor its last character.  Of several such operators those that bind least
come first, an addition before a subtraction and a multiplication before a
division, and of equal ones the last.
-/

namespace CalcShell.Expression

/-- The places of a character at depth zero, first and last place excluded, in ascending
order. -/
def splitPlaces (text : List Char) (symbol : Char) : List Nat :=
  let size := text.length
  (text.zip (depths text)).zipIdx.filterMap fun ((char, depth), place) =>
    if char = symbol ∧ depth = 0 ∧ 0 < place ∧ place + 1 < size then some place
    else none

/-- The last place where a text can be split at a character. -/
def lastPlace? (text : List Char) (symbol : Char) : Option Nat :=
  (splitPlaces text symbol).getLast?

/-- `lastPlace?` for an operator that is given as a text; only a single character can be
one. -/
def lastPlaceOf? (text : List Char) (operator : String) : Option Nat :=
  match operator.toList with
  | [symbol] => lastPlace? text symbol
  | _ => none

/-- The operators in the order in which a place to split is looked for. -/
def splitOrder : List Operator :=
  [.plus, .minus, .times, .dividedBy]

structure Split where
  left : List Char
  operator : Operator
  right : List Char
  deriving DecidableEq, Repr

def splitAt (text : List Char) (operator : Operator) (place : Nat) : Split :=
  ⟨text.take place, operator, text.drop (place + 1)⟩

/-- Splits a text at the operator that is applied last, if there is one. -/
def split? (text : List Char) : Option Split :=
  splitOrder.findSome? fun operator =>
    (lastPlace? text operator.symbol).map (splitAt text operator)

end CalcShell.Expression

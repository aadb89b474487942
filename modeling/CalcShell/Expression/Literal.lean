import CalcShell.Number.Numeral
import CalcShell.Text.Blank
import CalcShell.Value.Basic

/-!
# Literals and names

A text with a point in it can be a decimal literal, a double; any other can be an
integer literal, which has to fit the width of an integer.  A name begins with an
ASCII letter and goes on with letters, digits and underscores.  Spaces, tabs and
line ends around a literal or a name do not count.
-/

namespace CalcShell.Expression

open Number Text

def isNameStart (char : Char) : Bool :=
  char.isAlpha

def isNameRest (char : Char) : Bool :=
  char.isAlphanum || char == '_'

/-- Splits the longest name off the front of a text. -/
def scanName (text : List Char) : Option (List Char × List Char) :=
  match text with
  | [] => none
  | first :: rest =>
    if isNameStart first then
      some (first :: rest.takeWhile isNameRest, rest.dropWhile isNameRest)
    else none

/-- Whether a text is a name, apart from the spacing around it. -/
def isName (text : List Char) : Bool :=
  match scanName (text.dropWhile isSpacing) with
  | some (_, rest) => rest.all isSpacing
  | none => false

/-- The value of a decimal literal.  It needs a point. -/
def decimalLiteral? (text : List Char) : Option Value :=
  match Numeral.scan (text.dropWhile isSpacing) with
  | some (numeral, rest) =>
    if numeral.fraction?.isSome && rest.all isSpacing then some (Value.double numeral.toDouble)
    else none
  | none => none

/-- The value of an integer literal.  The digits at the front of a text are counted before
anything else is looked at, and too many of them are a failure whatever follows. -/
def integerLiteral? (text : List Char) : Except Fault (Option Value) :=
  let (negative, unsigned) := takeSign (text.dropWhile isSpacing)
  let (digits, rest) := takeDigits unsigned
  if digitLimit < digits.length then .error (.numeralTooLong digits.length)
  else if digits = [] then .ok none
  else
    let number := signedInt negative (digitsValue digits)
    if rest.all isSpacing ∧ InRange integerWidth number then .ok (some (Value.integer number))
    else .ok none

def literal? (text : List Char) : Except Fault (Option Value) :=
  if '.' ∈ text then .ok (decimalLiteral? text) else integerLiteral? text

end CalcShell.Expression

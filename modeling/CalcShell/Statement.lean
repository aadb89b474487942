import CalcShell.Expression.Literal
import CalcShell.Text.Tabs

/-!
# Statements

A line is an assignment when it begins with a name, an equals sign and something
to the right of it on the same line; spaces, tabs and line ends may stand around
the sign.  Any other line is an expression.  The right-hand side of an assignment
is taken from the line after its tabs have been expanded.
-/

namespace CalcShell

open Expression Text

/-- What a line says. -/
inductive Statement where
  | assign (name expression : String)
  | expression (text : String)
  deriving DecidableEq, Repr

/-- The name and the right-hand side of an assignment, given a line without white space
at its ends. -/
def assignment? (line : List Char) : Option (List Char × List Char) := do
  let (name, afterName) ← scanName ((expandTabs line).dropWhile isSpacing)
  match afterName.dropWhile isSpacing with
  | '=' :: afterSign =>
    let right := afterSign.dropWhile isSpacing
    let expression := right.takeWhile (· != '\n')
    let rest := right.dropWhile (· != '\n')
    if expression ≠ [] ∧ rest.all isSpacing then some (name, trim expression) else none
  | _ => none

def Statement.read (line : String) : Statement :=
  let text := trim line.toList
  match assignment? text with
  | some (name, right) => .assign (String.ofList name) (String.ofList right)
  | none => .expression (String.ofList text)

/-- Whether a line is blank or a comment. -/
def isSkipped (line : String) : Bool :=
  match trim line.toList with
  | [] => true
  | first :: _ => first == '#'

end CalcShell

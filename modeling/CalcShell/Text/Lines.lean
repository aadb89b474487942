/-!
# Lines

A script ends its lines with a line feed, a carriage return or both; input that
is typed ends them with a line feed only.  What follows the last line end is a
line of its own unless it is empty.
-/

namespace CalcShell.Text

/-- Puts a character in front of the first of several lines. -/
def consLine (char : Char) : List (List Char) → List (List Char)
  | [] => [[char]]
  | line :: rest => (char :: line) :: rest

/-- The lines of a script, without their ends. -/
def scriptLines : List Char → List (List Char)
  | [] => []
  | '\r' :: '\n' :: rest => [] :: scriptLines rest
  | char :: rest =>
    if char = '\n' ∨ char = '\r' then [] :: scriptLines rest
    else consLine char (scriptLines rest)

/-- The lines of typed input, without their ends. -/
def typedLines : List Char → List (List Char)
  | [] => []
  | char :: rest =>
    if char = '\n' then [] :: typedLines rest
    else consLine char (typedLines rest)

end CalcShell.Text

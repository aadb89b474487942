/-!
# Tab stops

A statement is read with its tabs replaced by spaces up to the next column that
is a multiple of eight.  Columns are counted from the start of each line, and a
line feed or a carriage return starts a new line.
-/

namespace CalcShell.Text

def tabWidth : Nat := 8

/-- The text that stands from a column on, without its tabs. -/
def expandTabsFrom (column : Nat) : List Char → List Char
  | [] => []
  | char :: rest =>
    if char = '\t' then
      let gap := tabWidth - column % tabWidth
      List.replicate gap ' ' ++ expandTabsFrom (column + gap) rest
    else if char = '\n' ∨ char = '\r' then
      char :: expandTabsFrom 0 rest
    else
      char :: expandTabsFrom (column + 1) rest

/-- The text with each tab replaced by the spaces it stands for. -/
def expandTabs (text : List Char) : List Char :=
  expandTabsFrom 0 text

end CalcShell.Text

import CalcShell.Command
import CalcShell.Statement

/-!
# Lines of a session

A line of a session is skipped when it is blank or a comment; otherwise it is an
assignment or an expression, and is executed as the command for it.
-/

namespace CalcShell.Session

variable {store : Type} [Store store]

def runStatement (limit : Nat) (tracing : Bool) (state : store) :
    Statement → Execution store Report
  | .assign name expression => Command.execute limit tracing .assign state [name, expression]
  | .expression text => Command.execute limit tracing .evaluate state [text]

/-- Executes a line; a line that is skipped has no report. -/
def runLine (limit : Nat) (tracing : Bool) (state : store) (line : String) :
    Execution store (Option Report) :=
  if isSkipped line then .silent state (.ok none)
  else
    (runStatement limit tracing state (Statement.read line)).andThen fun state report =>
      .silent state (.ok (some report))

end CalcShell.Session

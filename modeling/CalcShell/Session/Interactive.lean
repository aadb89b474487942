import CalcShell.Session.Line
import CalcShell.Session.Meta
import CalcShell.Text.Lines

/-!
# Interactive sessions

An interactive session greets, and then reads one line after the other with a
prompt in front of each.  It ends at the word `exit`, at the end of the input or
when it is interrupted.
-/

namespace CalcShell.Session

open Text

variable {store : Type} [Store store]

def version : String := "DSH v0.3.0"

def prompt : String := "dsh> "

/-- What is printed when a session ends without being told to. -/
def farewell : String := "\nGoodbye!\n"

def exitWord : String := "exit"

def greeting (tracing : Bool) : String :=
  printedLines <|
    [s!"{version} - Interactive Mode", "Type 'exit' to quit, ':help' for commands"] ++
      (if tracing then ["Debug mode enabled"] else []) ++ [""]

inductive Input where
  | line (text : String)
  | interrupt
  deriving DecidableEq, Repr

/-- What a typed line amounts to: the character that stands for an interruption, alone on
its line, is one. -/
def Input.ofLine (line : List Char) : Input :=
  if line = ['\x03'] then .interrupt else .line (String.ofList line)

def Input.ofText (text : String) : List Input :=
  (typedLines text.toList).map Input.ofLine

/-- Answers a typed line, and says whether the session goes on. -/
def respond (limit : Nat) (tracing : Bool) (state : store) (line : String) :
    Execution store Bool :=
  let code := trimmed line
  if code = exitWord then .silent state (.ok false)
  else if code.toList.head? = some ':' then
    (runMeta state code).andThen fun state _ => .silent state (.ok true)
  else
    (runLine limit tracing state code).andThen fun state report? =>
      match report? with
      | none => .silent state (.ok true)
      | some report => .printing (printedLines [report.message]) (.silent state (.ok true))

/-- Answers one input after the other, until the session ends. -/
def converse (limit : Nat) (tracing : Bool) : store → List Input → Execution store Unit
  | state, [] => .printing (prompt ++ farewell) (.silent state (.ok ()))
  | state, .interrupt :: _ => .printing (prompt ++ farewell) (.silent state (.ok ()))
  | state, .line line :: rest =>
    Execution.printing prompt <|
      (respond limit tracing state line).andThen fun state goesOn =>
        if goesOn then converse limit tracing state rest else .silent state (.ok ())

def runInteractive (limit : Nat) (tracing : Bool) (state : store) (inputs : List Input) :
    Execution store Unit :=
  .printing (greeting tracing) (converse limit tracing state inputs)

end CalcShell.Session

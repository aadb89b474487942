import CalcShell.Command

/-!
# Meta commands

Besides the lines of the shell, an interactive session understands meta commands.
They begin with a colon, list the variables, tell the type of one of them or show
a summary, and change nothing.  Names that have been begun can be completed to a
variable or to one of the fixed words.
-/

namespace CalcShell.Session

open Text

variable {store : Type} [Store store]

/-- The words that a session understands besides the names of variables. -/
def fixedWords : List String :=
  [":env", ":type", ":help", "exit"]

def helpText : String :=
  printedLines [
    "REPL Commands:",
    "  :env              - Show current variables",
    "  :type <name>      - Show the type of a variable",
    "  :help             - Show this help",
    "  exit              - Exit REPL",
    "",
    "Shell lines:",
    "  x = 2 + 3         - Assign the result of an expression",
    "  (x + 1) * 2.5     - Evaluate and print an expression"]

/-- The longest text of a value that a listing shows in full. -/
def shownWidth : Nat := 60

/-- The text of a value in a listing; a long one is cut off. -/
def shortened (text : String) : String :=
  let chars := text.toList
  if shownWidth < chars.length then String.ofList (chars.take (shownWidth - 3)) ++ "..."
  else text

def variableLine (name : String) (value : Value) : Except Fault String := do
  let text := (← value.asString).getD "None"
  return s!"  {name} = {shortened text} : {value.typeName}"

def listItems (state : store) : List (String × Value) → Execution store Unit
  | [] => .silent state (.ok ())
  | (name, value) :: rest =>
    match variableLine name value with
    | .error fault => .silent state (.error fault)
    | .ok line => (listItems state rest).printing (printedLines [line])

def listVariables (state : store) : Execution store Unit :=
  Execution.printing (printedLines ["Current variables:"]) <|
    match Store.items state with
    | .error fault => .silent state (.error fault)
    | .ok [] => .printing (printedLines ["  (no variables)"]) (.silent state (.ok ()))
    | .ok items => listItems state items

def describeVariable (state : store) (name : String) : Execution store Unit :=
  match Store.lookup state name with
  | .error fault => .silent state (.error fault)
  | .ok none =>
    .printing (printedLines [s!"Undefined variable '{name}'"]) (.silent state (.ok ()))
  | .ok (some value) =>
    .printing (printedLines [s!"{name} : {value.typeName}"]) (.silent state (.ok ()))

/-- The beginning of the command that tells the type of a variable. -/
def typeCommand : String := ":type"

def runMeta (state : store) (code : String) : Execution store Unit :=
  if code = ":env" then listVariables state
  else if code = ":help" then .printing helpText (.silent state (.ok ()))
  else if typeCommand.toList.isPrefixOf code.toList then
    describeVariable state
      (String.ofList (trim (code.toList.drop typeCommand.length)))
  else
    .printing (printedLines [s!"Unknown command '{code}', try :help"])
      (.silent state (.ok ()))

/-- The completions of a text: first the variables in order, then the fixed words. -/
def completions (state : store) (text : String) : Except Fault (List String) := do
  let words := (← Store.names state) ++ fixedWords
  return words.filter fun word => text.toList.isPrefixOf word.toList

end CalcShell.Session

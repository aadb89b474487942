import CalcShell.CommandLine
import CalcShell.Session.Interactive
import CalcShell.Session.Script

/-!
# The program

The arguments decide what the program does: it evaluates one expression, executes
a script, holds an interactive session, or tells about itself.  What it does then
depends on the file that is found under the path of the script, on what is typed
and on how deeply expressions may be nested.
-/

namespace CalcShell.Program

open CommandLine Session Text

def usage : String :=
  "usage: dsh [-h] [-e EXPR] [-i] [--debug] [--version] [script]\n"

def help : String :=
  usage ++ printedLines [
    "",
    "DSH - variable shell with an arithmetic calculator",
    "",
    "positional arguments:",
    "  script                File of shell lines to execute",
    "",
    "options:",
    "  -h, --help            show this help message and exit",
    "  -e EXPR, --eval EXPR  Evaluate a single expression and print the result",
    "  -i, --interactive     Start interactive mode",
    "  --debug               Trace expression evaluation",
    "  --version             show program's version number and exit",
    "",
    "Examples:",
    "  dsh -e \"2 + 3 * 4\"          # Evaluate one expression",
    "  dsh session.dsh             # Run a file of shell lines",
    "  dsh -i                      # Interactive mode",
    "  dsh --debug session.dsh     # Trace evaluation",
    "        "]

inductive Task where
  /-- Print something and go on as if the program had not been asked for anything. -/
  | tell (output : String)
  /-- Print something and stop with a status. -/
  | stop (output errors : String) (status : Nat)
  | evaluate (tracing : Bool) (expression : FlagValue)
  | script (tracing : Bool) (path : String) (interactive : Bool)
  | interact (tracing : Bool)
  deriving DecidableEq, Repr

/-- The task that settings amount to.  An expression comes before a script, and a script
before a session without one; a script without a name is none. -/
def Task.ofSettings (settings : Settings) : Task :=
  match settings.expression?, settings.script?.filter (· ≠ "") with
  | some expression, _ => .evaluate settings.tracing expression
  | none, some path => .script settings.tracing path settings.interactive
  | none, none => if settings.interactive then .interact settings.tracing else .tell help

/-- The task that the arguments of the program ask for. -/
def Task.ofArguments (arguments : List String) : Task :=
  match CommandLine.read arguments with
  | .help => .stop help "" 0
  | .version => .stop (printedLines [version]) "" 0
  | .refused error => .stop "" (usage ++ printedLines [s!"dsh: error: {error.message}"]) 2
  | .settings settings => .ofSettings settings

/-- The run that takes place where there is no text to evaluate. -/
def runWithoutText : Run :=
  (Run.done (.error (EvalError.ofFault (.trimMissing HostClass.list.label)))).withFailure

/-- Evaluates what was given as the expression and reports on it. -/
def evaluateGiven (limit : Nat) (tracing : Bool) : FlagValue → Execution SymbolTable Report
  | .text expression => Command.execute limit tracing .evaluate .empty [expression]
  | .nothing => Command.reportRun tracing .empty runWithoutText Command.reportValue

/-- Evaluates one expression and prints the report; a failure stops the program. -/
def evaluateOnce (limit : Nat) (tracing : Bool) (expression : FlagValue) :
    Execution SymbolTable (Ending Unit) :=
  (evaluateGiven limit tracing expression).andThen fun table report =>
    .printing (printedLines [report.message]) <|
      .silent table (.ok (if report.success then .returned () else .exited 1))

/-- A path in its shortest form: without repeated separators, separators at its end and
steps from a directory to itself. -/
def shortPath (path : String) : String :=
  let names := (path.splitOn "/").filter fun name => name ≠ "" ∧ name ≠ "."
  let relative := "/".intercalate names
  if path.toList.head? = some '/' then "/" ++ relative
  else if names = [] then "."
  else relative

def isPresent (path : String) : FileContent → Except Fault Bool
  | .missing | .beyondFile => .ok false
  | .nameTooLong => .error (.nameTooLong path)
  | .directory | .bytes _ => .ok true

/-- Executes a script, and stops the program if a line failed and no session is to
follow.  Beforehand something has to be found under the short form of the path. -/
def executeScript (limit : Nat) (tracing : Bool) (path : String) (found content : FileContent)
    (interactive : Bool) : Execution SymbolTable (Ending Unit) :=
  match isPresent (shortPath path) found with
  | .error fault => .silent .empty (.error fault)
  | .ok false =>
    .printing (printedLines [s!"Error: Script file '{path}' does not exist"])
      (.silent .empty (.ok (.exited 1)))
  | .ok true =>
    (runScript limit tracing path content SymbolTable.empty).andThen fun table ending =>
      .silent table <| .ok <|
        match ending with
        | .exited status => .exited status
        | .returned failures =>
          if failures = 0 ∨ interactive then .returned () else .exited 1

/-- What a run of the program amounts to: what it wrote to its two outputs, and how it
ended. -/
structure Completion where
  output : String
  errors : String
  ending : Except Fault (Ending Unit)

/-- The completion of an execution that writes to one output only. -/
def Completion.ofExecution (execution : Execution SymbolTable (Ending Unit)) : Completion :=
  ⟨execution.printed, "", execution.result⟩

/-- An interactive session as the last part of the program. -/
def interactAtEnd (limit : Nat) (tracing : Bool) (inputs : List Input) (table : SymbolTable) :
    Execution SymbolTable (Ending Unit) :=
  (runInteractive limit tracing table inputs).andThen fun table _ =>
    .silent table (.ok (.returned ()))

/-- Carries out a task, given what is found under a path and what is typed. -/
def Task.complete (limit : Nat) (files : String → FileContent) (inputs : List Input) :
    Task → Completion
  | .tell output => ⟨output, "", .ok (.returned ())⟩
  | .stop output errors status => ⟨output, errors, .ok (.exited status)⟩
  | .evaluate tracing expression => .ofExecution (evaluateOnce limit tracing expression)
  | .script tracing path interactive =>
    .ofExecution <|
      (executeScript limit tracing path (files (shortPath path)) (files path)
          interactive).andThen fun table ending =>
        match ending with
        | .exited status => .silent table (.ok (.exited status))
        | .returned _ =>
          if interactive then interactAtEnd limit tracing inputs table
          else .silent table (.ok (.returned ()))
  | .interact tracing => .ofExecution (interactAtEnd limit tracing inputs .empty)

def run (limit : Nat) (arguments : List String) (files : String → FileContent)
    (inputs : List Input) : Completion :=
  (Task.ofArguments arguments).complete limit files inputs

end CalcShell.Program

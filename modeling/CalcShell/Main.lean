import CalcShell.Program

/-!
# The executable

Reads the script file and the typed lines, and prints what the program answers.
-/

namespace CalcShell.Console

open Expression (depthLimit)
open Program Session

def readContent (path : String) : IO FileContent := do
  try
    let handle ← IO.FS.Handle.mk path .read
    return .bytes (← handle.readBinToEnd).toList
  catch failure =>
    match failure with
    | .inappropriateType _ code _ => return if code = 20 then .beyondFile else .directory
    | .invalidArgument _ code _ => return if code = 36 then .nameTooLong else .missing
    | _ => return .missing

def report {answer : Type} (execution : Execution SymbolTable answer) :
    IO (Except Fault answer) := do
  let output ← IO.getStdout
  output.putStr execution.printed
  output.flush
  return execution.result

/-- The status for a fault that nothing handles, after a line about it. -/
def reportFault (fault : Fault) : IO UInt32 := do
  IO.eprintln s!"{fault.category.label}: {fault.message}"
  return 1

partial def converseOnline (tracing : Bool) (table : SymbolTable) : IO UInt32 := do
  let output ← IO.getStdout
  output.putStr prompt
  output.flush
  let line ← (← IO.getStdin).getLine
  match (Input.ofText line).head? with
  | none | some .interrupt =>
    output.putStr farewell
    return 0
  | some (.line text) =>
    let execution := respond depthLimit tracing table text
    match ← report execution with
    | .error fault => reportFault fault
    | .ok false => return 0
    | .ok true => converseOnline tracing execution.state

def interactOnline (tracing : Bool) (table : SymbolTable) : IO UInt32 := do
  (← IO.getStdout).putStr (greeting tracing)
  converseOnline tracing table

def perform : Task → IO UInt32
  | .tell output => do
    IO.print output
    return 0
  | .stop output errors status => do
    IO.print output
    IO.eprint errors
    return status.toUInt32
  | .evaluate tracing expression => do
    match ← report (evaluateOnce depthLimit tracing expression) with
    | .error fault => reportFault fault
    | .ok (.exited status) => return status.toUInt32
    | .ok (.returned _) => return 0
  | .script tracing path interactive => do
    let found ← readContent (shortPath path)
    let content ← readContent path
    let execution := executeScript depthLimit tracing path found content interactive
    match ← report execution with
    | .error fault => reportFault fault
    | .ok (.exited status) => return status.toUInt32
    | .ok (.returned _) =>
      if interactive then interactOnline tracing execution.state else return 0
  | .interact tracing => interactOnline tracing .empty

end CalcShell.Console

def main (arguments : List String) : IO UInt32 :=
  CalcShell.Console.perform (CalcShell.Program.Task.ofArguments arguments)

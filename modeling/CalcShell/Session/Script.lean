import CalcShell.Session.Line
import CalcShell.Text.Lines
import CalcShell.Text.Utf8

/-!
# Scripts

A script is a file of lines, which are executed one after the other.  A line that
fails is reported with its number, counted from one over all lines, and does not
stop the script.  A file that cannot be read as text is reported as a whole.
-/

namespace CalcShell.Session

open Text

variable {store : Type} [Store store]

inductive FileContent where
  | missing
  | directory
  /-- The path goes on behind a file. -/
  | beyondFile
  /-- A name in the path is too long for a file. -/
  | nameTooLong
  | bytes (content : List UInt8)

/-- Why a script cannot be read from a path, apart from there being none. -/
def FileContent.fault? (path : String) (content : FileContent) : Option Fault :=
  if path.toList.contains '\x00' then some .nullInPath
  else
    match content with
    | .directory => some (.isDirectory path)
    | .beyondFile => some (.notDirectory path)
    | .nameTooLong => some (.nameTooLong path)
    | .missing | .bytes _ => none

/-- How a part of the program ends: it goes on with something, or the whole program stops
with a status. -/
inductive Ending (answer : Type) where
  | returned (answer : answer)
  | exited (status : Nat)
  deriving DecidableEq, Repr

def decodeMessage (failure : Utf8.Failure) : String :=
  let last := failure.position + failure.length - 1
  let place :=
    if failure.length = 1 then
      "byte 0x" ++ String.ofList (hexDigits 2 failure.byte.toNat) ++
        s!" in position {failure.position}"
    else s!"bytes in position {failure.position}-{last}"
  s!"'utf-8' codec can't decode {place}: {failure.problem.reason}"

/-- What is printed for the report on a line of a script. -/
def scriptReportLine (path : String) (number : Nat) (report : Report) : String :=
  if report.success then report.message else s!"{path}:{number}: {report.message}"

/-- Executes the lines of a script, the first of which has the given number, and gives the
number of those that failed. -/
def runLines (limit : Nat) (tracing : Bool) (path : String) :
    Nat → store → List String → Execution store Nat
  | _, state, [] => .silent state (.ok 0)
  | number, state, line :: rest =>
    (runLine limit tracing state line).andThen fun state report? =>
      let later := runLines limit tracing path (number + 1) state rest
      match report? with
      | none => later
      | some report =>
        Execution.printing (printedLines [scriptReportLine path number report]) <|
          later.andThen fun state failures =>
            .silent state (.ok (if report.success then failures else failures + 1))

def stopWith (state : store) (lines : List String) : Execution store (Ending Nat) :=
  .printing (printedLines lines) (.silent state (.ok (.exited 1)))

/-- Executes a script, and gives the number of lines that failed. -/
def runScript (limit : Nat) (tracing : Bool) (path : String) (content : FileContent)
    (state : store) : Execution store (Ending Nat) :=
  match content.fault? path, content with
  | some fault, _ => .silent state (.error fault)
  | none, .bytes content =>
    match Utf8.decode content with
    | .error failure =>
      stopWith state [
        s!"Error: Cannot decode file '{path}': {decodeMessage failure}",
        "  Hint: Make sure the file is a text file with UTF-8 encoding"]
    | .ok text =>
      (runLines limit tracing path 1 state ((scriptLines text).map String.ofList)).andThen
        fun state failures => .silent state (.ok (.returned failures))
  | none, _ =>
    stopWith state [
      s!"Error: Script file '{path}' not found",
      "  Hint: Check the file path and make sure the file exists"]

end CalcShell.Session

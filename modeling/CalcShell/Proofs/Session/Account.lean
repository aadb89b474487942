import CalcShell.Program
import CalcShell.Proofs.Session.Traceless
import CalcShell.Proofs.Text.Lines

/-!
# Accounts of scripts

Without tracing a line prints nothing by itself and comes to a report, unless it is
skipped.  A script prints one line for each report, counts the failures among them and
leaves the table that its lines leave; the program stops with a status exactly when
there were failures.
-/

namespace CalcShell

open Expression Text

/-! ## What executions print -/

namespace Execution

variable {store answer other : Type}

@[simp]
theorem printing_empty (execution : Execution store answer) :
    execution.printing "" = execution := by
  rw [printing, String.empty_append]

theorem printed_andThen_of_silent {first : Execution store answer}
    {next : store → answer → Execution store other} (silentFirst : first.printed = "")
    (silentNext : ∀ state given, (next state given).printed = "") :
    (first.andThen next).printed = "" := by
  rw [andThen]
  split
  · exact silentFirst
  · rw [printing, silentFirst, silentNext, String.empty_append]

theorem eq_mk {execution : Execution store answer} {printed : String}
    {result : Except Fault answer} (isPrinted : execution.printed = printed)
    (isResult : execution.result = result) : execution = ⟨printed, result, execution.state⟩ := by
  subst isPrinted isResult
  rfl

end Execution

namespace Command

variable {store : Type} [Store store] {limit : Nat} (state : store)

theorem printed_withValue (expression : String) {next : store → Value → Execution store Report}
    (silentNext : ∀ state value, (next state value).printed = "") :
    (withValue limit false state expression next).printed = "" := by
  apply Execution.printed_andThen_of_silent rfl
  rintro later (error | value)
  · rfl
  · exact silentNext later value

theorem printed_bindName (name : String) (value : Value) :
    (bindName name state value).printed = "" := by
  rw [bindName]
  split <;> rfl

theorem printed_execute (command : Command) (arguments : List String) :
    (execute limit false command state arguments).printed = "" := by
  unfold execute
  split
  · rfl
  · split
    · exact printed_withValue state _ (printed_bindName · _)
    · rfl
  · exact printed_withValue state _ fun _ _ => rfl
  · rfl

end Command

namespace Session

/-! ## One line -/

section Line

variable {store : Type} [Store store]

theorem printed_runLine (limit : Nat) (state : store) (line : String) :
    (runLine limit false state line).printed = "" := by
  rw [runLine]
  split
  · rfl
  · apply Execution.printed_andThen_of_silent
    · cases Statement.read line <;> exact Command.printed_execute state _ _
    · exact fun _ _ => rfl

/-- White space at the ends of a line makes no difference. -/
theorem runLine_congr_trim (limit : Nat) (tracing : Bool) (state : store)
    {line other : String} (same : trim line.toList = trim other.toList) :
    runLine limit tracing state line = runLine limit tracing state other := by
  rw [runLine, runLine, isSkipped, isSkipped, Statement.read, Statement.read, same]

end Line

/-- The report on a line over a table; there is none on a line that is skipped. -/
def reportOn (limit : Nat) (table : SymbolTable) (line : String) : Option Report :=
  (runLine limit false table line).result.toOption.join

variable (limit : Nat) {table : SymbolTable}

theorem result_runLine_of_plain (plain : table.IsPlain) (line : String) :
    (runLine limit false table line).result = .ok (reportOn limit table line) := by
  have ended := isOk_result_runLine limit false line plain
  rw [reportOn]
  cases result : (runLine limit false table line).result with
  | ok report? => rfl
  | error fault =>
      rw [result] at ended
      cases ended

theorem runLine_of_plain (plain : table.IsPlain) (line : String) :
    runLine limit false table line =
      ⟨"", .ok (reportOn limit table line), (runLine limit false table line).state⟩ :=
  Execution.eq_mk (printed_runLine limit table line) (result_runLine_of_plain limit plain line)

theorem reportOn_eq_none_iff (plain : table.IsPlain) (line : String) :
    reportOn limit table line = none ↔ isSkipped line = true := by
  have result := result_runLine_of_plain limit plain line
  rw [result_runLine] at result
  split at result
  · next skipped => simp [← Except.ok.inj result, skipped]
  · next notSkipped =>
      cases report : (runStatement limit false table (Statement.read line)).result with
      | error fault =>
          rw [report] at result
          cases result
      | ok report =>
          rw [report] at result
          simp [← Except.ok.inj result, notSkipped]

/-! ## Many lines -/

/-- The reports on lines, each over the table that the lines before it have left behind. -/
def reports (limit : Nat) (table : SymbolTable) : List String → List (Option Report)
  | [] => []
  | line :: rest =>
    reportOn limit table line :: reports limit (runLine limit false table line).state rest

theorem getElem?_reports (lines : List String) (place : Nat) :
    (reports limit table lines)[place]? =
      lines[place]?.map (reportOn limit (tableFrom limit false table (lines.take place))) := by
  induction lines generalizing table place with
  | nil => rfl
  | cons line rest inductionHypothesis =>
      cases place with
      | zero => rfl
      | succ place => exact inductionHypothesis place

/-- The number of failures among reports. -/
def failures (reports : List (Option Report)) : Nat :=
  reports.countP fun report? => report?.any fun report => !report.success

theorem failures_none (rest : List (Option Report)) : failures (none :: rest) = failures rest :=
  List.countP_cons_of_neg nofun

theorem failures_some (report : Report) (rest : List (Option Report)) :
    failures (some report :: rest) =
      if report.success then failures rest else failures rest + 1 := by
  rw [failures, List.countP_cons]
  cases success : report.success <;> simp [success, failures]

theorem tableFrom_cons (tracing : Bool) (table : SymbolTable)
    (line : String) (rest : List String) :
    tableFrom limit tracing table (line :: rest) =
      tableFrom limit tracing (runLine limit tracing table line).state rest :=
  rfl

/-- The lines that are printed for the reports on the lines of a script, the first of which has
the given number. -/
def numberedLines (path : String) (number : Nat) (reports : List (Option Report)) : List String :=
  (reports.zipIdx number).filterMap fun (report?, number) =>
    report?.map (scriptReportLine path number)

theorem numberedLines_none (path : String) (number : Nat) (rest : List (Option Report)) :
    numberedLines path number (none :: rest) = numberedLines path (number + 1) rest :=
  rfl

theorem numberedLines_some (path : String) (number : Nat) (report : Report)
    (rest : List (Option Report)) :
    numberedLines path number (some report :: rest) =
      scriptReportLine path number report :: numberedLines path (number + 1) rest :=
  rfl

theorem printedLines_cons (line : String) (rest : List String) :
    printedLines (line :: rest) = printedLines [line] ++ printedLines rest := by
  simp [printedLines]

theorem length_numberedLines (path : String) (number : Nat) (plain : table.IsPlain)
    (lines : List String) :
    (numberedLines path number (reports limit table lines)).length =
      lines.countP fun line => !isSkipped line := by
  induction lines generalizing table number with
  | nil => rfl
  | cons line rest inductionHypothesis =>
      have later := inductionHypothesis (number + 1) (isPlain_runLine limit false line plain)
      have skipped := reportOn_eq_none_iff limit plain line
      rw [reports, List.countP_cons]
      cases report : reportOn limit table line with
      | none => simp [numberedLines_none, later, skipped.mp report]
      | some report =>
          have notSkipped : isSkipped line = false := by
            rw [Bool.eq_false_iff, ne_eq, ← skipped, report]
            nofun
          simp [numberedLines_some, later, notSkipped]

theorem runLines_of_plain (path : String) (number : Nat) (plain : table.IsPlain)
    (lines : List String) :
    runLines limit false path number table lines =
      ⟨printedLines (numberedLines path number (reports limit table lines)),
        .ok (failures (reports limit table lines)), tableFrom limit false table lines⟩ := by
  induction lines generalizing table number with
  | nil => rfl
  | cons line rest inductionHypothesis =>
      have later := inductionHypothesis (number + 1) (isPlain_runLine limit false line plain)
      rw [runLines, runLine_of_plain limit plain line, Execution.andThen]
      dsimp only
      rw [Execution.printing_empty, later, reports, tableFrom_cons]
      cases reportOn limit table line with
      | none => rw [numberedLines_none, failures_none]
      | some report =>
          rw [numberedLines_some, printedLines_cons, failures_some]
          simp [Execution.andThen, Execution.printing, Execution.silent]

/-! ## Scripts -/

theorem runScript_of_plain {path : String} {content : List UInt8} {lines : List String}
    (readable : '\x00' ∉ path.toList) (holds : HoldsLines content lines)
    (plain : table.IsPlain) :
    runScript limit false path (.bytes content) table =
      ⟨printedLines (numberedLines path 1 (reports limit table lines)),
        .ok (.returned (failures (reports limit table lines))),
        tableFrom limit false table lines⟩ := by
  obtain ⟨text, decoded, rfl⟩ := holds
  have noFault : (FileContent.bytes content).fault? path = none := by
    rw [FileContent.fault?, List.contains_eq_mem, if_neg (by simpa using readable)]
  unfold runScript
  rw [noFault]
  dsimp only
  rw [decoded]
  dsimp only
  rw [runLines_of_plain limit path 1 plain]
  simp [Execution.andThen, Execution.printing, Execution.silent]

end Session

namespace Program

open Session

theorem run_of_script (limit : Nat) {arguments : List String} {path : String} {content : List UInt8}
    {lines : List String} (files : String → FileContent) (inputs : List Input)
    (readable : '\x00' ∉ path.toList) (holds : HoldsLines content lines)
    (asked : Task.ofArguments arguments = .script false path false)
    (found : files path = .bytes content)
    (present : isPresent (shortPath path) (files (shortPath path)) = .ok true) :
    run limit arguments files inputs =
      ⟨printedLines (numberedLines path 1 (reports limit .empty lines)), "",
        .ok (if failures (reports limit .empty lines) = 0 then .returned () else .exited 1)⟩ := by
  have executed := runScript_of_plain limit readable holds SymbolTable.isPlain_empty
  rw [run, asked, Task.complete, executeScript, present, found]
  dsimp only
  rw [executed]
  by_cases clean : failures (reports limit .empty lines) = 0 <;>
    simp [clean, Completion.ofExecution, Execution.andThen, Execution.printing, Execution.silent]

end Program

namespace Session

open Program

/-- A script prints one line for each line that is not skipped, the message of its report with the
path and the number of the line in front where it failed; it gives the number of failures and
leaves what all lines leave one after the other.  The program that executes it over no variables
stops with a status exactly when there were failures. -/
theorem runScript_accounts (limit : Nat) (tracing : Bool) (before : List String)
    {path : String} {content : List UInt8} {text : List Char} (readable : '\x00' ∉ path.toList)
    (decoded : Utf8.decode content = .ok text) :
    let table := tableAfter limit tracing before
    let lines := (scriptLines text).map String.ofList
    runScript limit false path (.bytes content) table =
        ⟨printedLines (numberedLines path 1 (reports limit table lines)),
          .ok (.returned (failures (reports limit table lines))),
          tableFrom limit false table lines⟩ ∧
      (∀ place line, lines[place]? = some line → ∃ report?,
        (reports limit table lines)[place]? = some report? ∧
          (runLine limit false (tableFrom limit false table (lines.take place)) line).result =
            .ok report? ∧
          (report? = none ↔ isSkipped line = true)) ∧
      (numberedLines path 1 (reports limit table lines)).length =
        lines.countP (fun line => !isSkipped line) ∧
      ∀ arguments files inputs, Task.ofArguments arguments = .script false path false →
        files path = .bytes content →
        isPresent (shortPath path) (files (shortPath path)) = .ok true →
        Program.run limit arguments files inputs =
          ⟨printedLines (numberedLines path 1 (reports limit .empty lines)), "",
            .ok (if failures (reports limit .empty lines) = 0 then .returned ()
              else .exited 1)⟩ := by
  intro table lines
  have plain : table.IsPlain := isPlain_foldl limit tracing before SymbolTable.isPlain_empty
  have holds : HoldsLines content lines := ⟨text, decoded, rfl⟩
  refine ⟨runScript_of_plain limit readable holds plain, ?_,
    length_numberedLines limit path 1 plain lines, ?_⟩
  · intro place line isLine
    have plainBefore : (tableFrom limit false table (lines.take place)).IsPlain :=
      isPlain_foldl limit false (lines.take place) plain
    refine ⟨reportOn limit (tableFrom limit false table (lines.take place)) line, ?_,
      result_runLine_of_plain limit plainBefore line, reportOn_eq_none_iff limit plainBefore line⟩
    rw [getElem?_reports, isLine, Option.map_some]
  · intro arguments files inputs asked found present
    exact run_of_script limit files inputs readable holds asked found present

theorem runScript_accounts_sample :
    let content := Utf8.encode "# a note\nx = 1\ny + x\n".toList
    let files := fun _ : String => FileContent.bytes content
    ('\x00' ∉ "s".toList ∧ Utf8.decode content = .ok "# a note\nx = 1\ny + x\n".toList ∧
        Task.ofArguments ["s"] = .script false "s" false ∧
        isPresent (shortPath "s") (files (shortPath "s")) = .ok true) ∧
      Program.run depthLimit ["s"] files [] =
        ⟨"x = 1\ns:3: [Error] Undefined variable 'y'\n", "", .ok (.exited 1)⟩ := by
  intro content files
  have readable : '\x00' ∉ "s".toList := by decide
  have decoded : Utf8.decode content = .ok "# a note\nx = 1\ny + x\n".toList :=
    Utf8.decode_encode _
  have asked : Task.ofArguments ["s"] = .script false "s" false := by decide +kernel
  have reported : reports depthLimit .empty ["# a note", "x = 1", "y + x"] =
      [none, some ⟨true, "x = 1"⟩, some ⟨false, "[Error] Undefined variable 'y'"⟩] := by
    decide +kernel
  obtain ⟨_, _, _, completed⟩ := runScript_accounts depthLimit false [] readable decoded
  refine ⟨⟨readable, decoded, asked, rfl⟩, (completed ["s"] files [] asked rfl rfl).trans ?_⟩
  have lines : (scriptLines "# a note\nx = 1\ny + x\n".toList).map String.ofList =
      ["# a note", "x = 1", "y + x"] := by decide +kernel
  rw [lines, reported]
  rfl

end Session

end CalcShell

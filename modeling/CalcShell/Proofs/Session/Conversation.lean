import CalcShell.Proofs.Session.Account
import CalcShell.Proofs.Session.Runs

/-!
# Conversations and scripts

A typed line is executed like a line of a script, but for the word that ends the
session and for the meta commands, which change nothing.  A conversation therefore
leaves the table that a script of the other lines leaves, and answers each of these
with the message of the same report.
-/

namespace CalcShell.Session

open Expression Text

/-- Whether a typed line is a meta command. -/
def isMeta (line : String) : Bool :=
  (trimmed line).toList.head? == some ':'

/-- What is printed for the report on a typed line. -/
def answerTo : Option Report → String
  | none => ""
  | some report => printedLines [report.message]

/-- Typed lines that do not end the session, with what is printed for each of them. -/
def exchanges (limit : Nat) (table : SymbolTable) : List String → List (String × String)
  | [] => []
  | line :: rest =>
    let execution := respond limit false table line
    (line, execution.printed) :: exchanges limit execution.state rest

/-- The lines that are no meta commands. -/
def shellLines (typed : List String) : List String :=
  typed.filter fun line => !isMeta line

variable (limit : Nat) {table : SymbolTable}

/-! ## Meta commands -/

theorem isOk_variableLine (name : String) {value : Value} (plain : value.IsPlain) :
    (variableLine name value).isOk = true := by
  have made : value.Made := plain.elim Value.OfKind.made Value.OfKind.made
  rw [variableLine, Host.isOk_bind_return, made.wellTagged.isOk_asString]
  exact plain.elim Value.OfKind.isWritable Value.OfKind.isWritable

theorem result_listItems (items : List (String × Value))
    (plain : ∀ binding ∈ items, binding.2.IsPlain) :
    (listItems table items).result = .ok () := by
  induction items with
  | nil => rfl
  | cons binding rest inductionHypothesis =>
      have first := isOk_variableLine binding.1 (plain binding List.mem_cons_self)
      have later := inductionHypothesis fun other member =>
        plain other (List.mem_cons_of_mem binding member)
      rw [listItems]
      cases line : variableLine binding.1 binding.2 with
      | ok line => exact later
      | error fault =>
          rw [line] at first
          cases first

theorem result_listVariables (plain : table.IsPlain) : (listVariables table).result = .ok () := by
  have items : Store.items table = .ok table.bindings := rfl
  have listed : (listItems table table.bindings).result = .ok () :=
    result_listItems table.bindings plain.values
  rw [listVariables, items]
  cases bindings : table.bindings with
  | nil => rfl
  | cons first rest =>
      rw [bindings] at listed
      exact listed

theorem result_runMeta (plain : table.IsPlain) (code : String) :
    (runMeta table code).result = .ok () := by
  rw [runMeta]
  split
  · exact result_listVariables plain
  · split
    · rfl
    · split
      · rw [describeVariable, SymbolTable.lookup_eq]
        cases table.find? _ <;> rfl
      · rfl

/-! ## One typed line -/

theorem trim_trim (text : List Char) : trim (trim text) = trim text := by
  by_cases nothing : trim text = []
  · rw [nothing]
    rfl
  · exact (tight_trim nothing).trim_eq

theorem runLine_trimmed (tracing : Bool) (table : SymbolTable) (line : String) :
    runLine limit tracing table (trimmed line) = runLine limit tracing table line := by
  apply runLine_congr_trim
  rw [trimmed, String.toList_ofList, trim_trim]

theorem respond_of_exit (table : SymbolTable) {line : String} (ends : trimmed line = exitWord) :
    respond limit false table line = .silent table (.ok false) := by
  rw [respond]
  exact if_pos ends

theorem trimmed_ne_exitWord {line : String} (isCommand : isMeta line = true) :
    trimmed line ≠ exitWord := by
  intro ends
  rw [isMeta, ends] at isCommand
  cases isCommand

/-- A meta command prints something, and that is all. -/
theorem respond_of_isMeta (plain : table.IsPlain) {line : String}
    (isCommand : isMeta line = true) :
    respond limit false table line = ⟨(runMeta table (trimmed line)).printed, .ok true, table⟩ := by
  have begun : (trimmed line).toList.head? = some ':' := beq_iff_eq.mp isCommand
  rw [respond, if_neg (trimmed_ne_exitWord isCommand), if_pos begun,
    Execution.eq_mk rfl (result_runMeta plain (trimmed line)), state_runMeta]
  simp [Execution.andThen, Execution.printing, Execution.silent]

/-- Any other line is executed like a line of a script, and its message is printed. -/
theorem respond_of_shellLine (plain : table.IsPlain) {line : String}
    (goesOn : trimmed line ≠ exitWord) (noCommand : isMeta line = false) :
    respond limit false table line =
      ⟨answerTo (reportOn limit table line), .ok true, (runLine limit false table line).state⟩ := by
  have notBegun : ¬ (trimmed line).toList.head? = some ':' := by
    rw [isMeta] at noCommand
    simpa using noCommand
  rw [respond, if_neg goesOn, if_neg notBegun, runLine_trimmed, runLine_of_plain limit plain line,
    Execution.andThen]
  dsimp only
  rw [Execution.printing_empty]
  cases reportOn limit table line with
  | none => rfl
  | some report => simp [Execution.printing, Execution.silent, answerTo]

theorem result_respond (plain : table.IsPlain) (line : String) :
    (respond limit false table line).result = .ok (decide (trimmed line ≠ exitWord)) := by
  by_cases ends : trimmed line = exitWord
  · rw [respond_of_exit limit table ends]
    simp [Execution.silent, ends]
  · cases isCommand : isMeta line with
    | true => simp [respond_of_isMeta limit plain isCommand, ends]
    | false => simp [respond_of_shellLine limit plain ends isCommand, ends]

/-! ## Many typed lines -/

section Typed

variable {typed : List String}

theorem isPlain_respond (plain : table.IsPlain) (line : String) :
    (respond limit false table line).state.IsPlain :=
  holds_respond (fun _ line => isPlain_runLine limit false line) plain line

theorem map_fst_exchanges (table : SymbolTable) (typed : List String) :
    (exchanges limit table typed).map Prod.fst = typed := by
  induction typed generalizing table with
  | nil => rfl
  | cons line rest inductionHypothesis =>
      rw [exchanges, List.map_cons, inductionHypothesis]

theorem tableFrom_shellLines_cons (plain : table.IsPlain) {line : String}
    (goesOn : trimmed line ≠ exitWord) (rest : List String) :
    tableFrom limit false table (shellLines (line :: rest)) =
      tableFrom limit false (respond limit false table line).state (shellLines rest) := by
  rw [shellLines, List.filter_cons]
  cases isCommand : isMeta line with
  | true =>
      rw [respond_of_isMeta limit plain isCommand]
      rfl
  | false =>
      rw [respond_of_shellLine limit plain goesOn isCommand]
      rfl

/-- The session has gone through all lines, and reads on over the table that the lines other than
meta commands leave. -/
theorem converse_append (plain : table.IsPlain)
    (goesOn : ∀ line ∈ typed, trimmed line ≠ exitWord) (inputs : List Input) :
    converse limit false table (typed.map .line ++ inputs) =
      (converse limit false (tableFrom limit false table (shellLines typed)) inputs).printing
        (String.join ((exchanges limit table typed).map fun exchange => prompt ++ exchange.2)) := by
  induction typed generalizing table with
  | nil => exact (Execution.printing_empty _).symm
  | cons line rest inductionHypothesis =>
      have goesOnHere := goesOn line List.mem_cons_self
      have later := inductionHypothesis (isPlain_respond limit plain line) fun other member =>
        goesOn other (List.mem_cons_of_mem line member)
      have result := result_respond limit plain line
      rw [decide_eq_true goesOnHere] at result
      rw [List.map_cons, List.cons_append, converse, Execution.andThen, result]
      simp only [if_pos]
      rw [later, tableFrom_shellLines_cons limit plain goesOnHere, exchanges, List.map_cons,
        String.join_cons]
      simp only [Execution.printing, String.append_assoc]

/-- Without the meta commands the other lines are answered as they were with them. -/
theorem filter_exchanges (plain : table.IsPlain)
    (goesOn : ∀ line ∈ typed, trimmed line ≠ exitWord) :
    (exchanges limit table typed).filter (fun exchange => !isMeta exchange.1) =
      exchanges limit table (shellLines typed) := by
  induction typed generalizing table with
  | nil => rfl
  | cons line rest inductionHypothesis =>
      have later := inductionHypothesis (isPlain_respond limit plain line) fun other member =>
        goesOn other (List.mem_cons_of_mem line member)
      rw [exchanges, shellLines, List.filter_cons, List.filter_cons]
      cases isCommand : isMeta line with
      | true =>
          rw [respond_of_isMeta limit plain isCommand] at later ⊢
          exact later
      | false => exact congrArg (List.cons (line, (respond limit false table line).printed)) later

/-- Lines that are no meta commands are answered with the messages of the reports on them. -/
theorem map_snd_exchanges (plain : table.IsPlain)
    (goesOn : ∀ line ∈ typed, trimmed line ≠ exitWord)
    (noCommand : ∀ line ∈ typed, isMeta line = false) :
    (exchanges limit table typed).map Prod.snd = (reports limit table typed).map answerTo := by
  induction typed generalizing table with
  | nil => rfl
  | cons line rest inductionHypothesis =>
      have later := inductionHypothesis (isPlain_runLine limit false line plain)
        (fun other member => goesOn other (List.mem_cons_of_mem line member))
        (fun other member => noCommand other (List.mem_cons_of_mem line member))
      rw [exchanges, reports, List.map_cons, List.map_cons,
        respond_of_shellLine limit plain (goesOn line List.mem_cons_self)
          (noCommand line List.mem_cons_self), later]

end Typed

/-- A conversation of lines that do not end it and a script of those among them that are no meta
commands leave the same table, and both show the messages of the same reports, the script with
the path and the number of the line in front of failures; what is answered to the other lines is
the same with the meta commands and without.  Every such script can be written, a line end behind
a line makes no difference to it, and only the word for it ends a conversation. -/
theorem runInteractive_agrees_runScript (limit : Nat) (tracing : Bool)
    (before typed : List String) {path : String} (readable : '\x00' ∉ path.toList)
    (oneLine : ∀ line ∈ typed, IsOneLine line.toList)
    (goesOn : ∀ line ∈ typed, trimmed line ≠ exitWord) :
    let table := tableAfter limit tracing before
    let lines := shellLines typed
    let session := runInteractive limit false table (typed.map .line)
    (∃ content, HoldsLines content lines) ∧
      (∀ content, HoldsLines content lines →
        runScript limit false path (.bytes content) table =
          ⟨printedLines (numberedLines path 1 (reports limit table lines)),
            .ok (.returned (failures (reports limit table lines))), session.state⟩) ∧
      session.result = .ok () ∧
      session.printed = greeting false ++
        (String.join ((exchanges limit table typed).map fun exchange => prompt ++ exchange.2) ++
          (prompt ++ farewell)) ∧
      (exchanges limit table typed).map Prod.fst = typed ∧
      (exchanges limit table typed).filter (fun exchange => !isMeta exchange.1) =
        exchanges limit table lines ∧
      (exchanges limit table lines).map Prod.snd = (reports limit table lines).map answerTo ∧
      ∀ line, runLine limit false table (line ++ "\n") = runLine limit false table line ∧
        (respond limit false table line).result = .ok (decide (trimmed line ≠ exitWord)) := by
  intro table lines session
  have plain : table.IsPlain := isPlain_foldl limit tracing before SymbolTable.isPlain_empty
  have fromTyped : ∀ line ∈ lines, line ∈ typed ∧ isMeta line = false := by
    intro line member
    simpa using List.mem_filter.mp member
  have conversed := converse_append limit plain goesOn []
  rw [List.append_nil] at conversed
  have held : session = ((converse limit false (tableFrom limit false table lines) []).printing
      (String.join ((exchanges limit table typed).map fun exchange =>
        prompt ++ exchange.2))).printing (greeting false) :=
    congrArg (Execution.printing (greeting false)) conversed
  have sameState : session.state = tableFrom limit false table lines := by
    rw [held]
    rfl
  refine ⟨?_, ?_, ?_, ?_, map_fst_exchanges limit table typed,
    filter_exchanges limit plain goesOn, ?_, ?_⟩
  · exact exists_holdsLines fun line member => oneLine line (fromTyped line member).1
  · intro content holds
    rw [runScript_of_plain limit readable holds plain, sameState]
  · rw [held]
    rfl
  · rw [held]
    rfl
  · exact map_snd_exchanges limit plain (fun line member => goesOn line (fromTyped line member).1)
      fun line member => (fromTyped line member).2
  · intro line
    refine ⟨runLine_congr_trim limit false table ?_, result_respond limit plain line⟩
    have blank : ∀ char ∈ ['\n'], isBlank char = true :=
      List.forall_mem_singleton.mpr (by decide)
    rw [String.toList_append]
    exact trim_append_of_blank blank

theorem runInteractive_agrees_runScript_sample :
    let typed := ["x = 1", ":env", " y"]
    ('\x00' ∉ "s".toList ∧ (∀ line ∈ typed, IsOneLine line.toList) ∧
        ∀ line ∈ typed, trimmed line ≠ exitWord) ∧
      ∃ content, HoldsLines content ["x = 1", " y"] ∧
        runScript depthLimit false "s" (.bytes content) .empty =
          ⟨"x = 1\ns:2: [Error] Undefined variable 'y'\n", .ok (.returned 1),
            (runInteractive depthLimit false SymbolTable.empty (typed.map .line)).state⟩ := by
  intro typed
  have readable : '\x00' ∉ "s".toList := by decide
  have oneLine : ∀ line ∈ typed, IsOneLine line.toList := by
    simp only [IsOneLine]
    decide
  have goesOn : ∀ line ∈ typed, trimmed line ≠ exitWord := by decide
  have reported : reports depthLimit .empty ["x = 1", " y"] =
      [some ⟨true, "x = 1"⟩, some ⟨false, "[Error] Undefined variable 'y'"⟩] := by
    decide +kernel
  have lines : shellLines typed = ["x = 1", " y"] := by decide
  obtain ⟨⟨content, holds⟩, scripted, _⟩ :=
    runInteractive_agrees_runScript depthLimit false [] typed readable oneLine goesOn
  have agrees := scripted content holds
  rw [lines] at holds agrees
  refine ⟨⟨readable, oneLine, goesOn⟩, content, holds, agrees.trans ?_⟩
  have start : tableAfter depthLimit false [] = SymbolTable.empty := rfl
  rw [start, reported]
  rfl

end CalcShell.Session

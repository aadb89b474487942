import CalcShell.Proofs.Command.Reports
import CalcShell.Proofs.Session.Invariant
import CalcShell.Proofs.Session.Statement
import CalcShell.Proofs.Table.Binding

/-!
# Lines without a trace

A line that is skipped, an expression and a failure leave the table as it was.
Leaving out such lines therefore changes nothing for the other ones: each meets the
same table as before and comes to the same report.  What a successful assignment
changes is what is found under its name.
-/

namespace CalcShell.Session

open Expression Text

/-- The executions of lines, one after the other, each over the table that the one before it
has left behind. -/
def executions (limit : Nat) (tracing : Bool) (table : SymbolTable) :
    List String → List (Execution SymbolTable (Option Report))
  | [] => []
  | line :: rest =>
    let execution := runLine limit tracing table line
    execution :: executions limit tracing execution.state rest

/-- The table that lines leave behind. -/
def tableFrom (limit : Nat) (tracing : Bool) (table : SymbolTable) (lines : List String) :
    SymbolTable :=
  lines.foldl (fun table line => (runLine limit tracing table line).state) table

/-- The members of a list at the places that are kept. -/
def keeping {member : Type} (keep : Nat → Bool) : List member → List member
  | [] => []
  | first :: rest =>
    let kept := keeping (fun place => keep (place + 1)) rest
    if keep 0 then first :: kept else kept

/-- A line that is blank, a comment or an expression, or whose report is a failure. -/
def Traceless (line : String) (execution : Execution SymbolTable (Option Report)) : Prop :=
  isSkipped line = true ∨ (∃ text, Statement.read line = .expression text) ∨
    ∃ report, execution.result = .ok (some report) ∧ report.success = false

variable {limit : Nat} {tracing : Bool} {table : SymbolTable} {line : String}

/-! ## One line -/

section Results

variable {store : Type} [Store store]

theorem result_runLine (limit : Nat) (tracing : Bool) (state : store) (line : String) :
    (runLine limit tracing state line).result =
      if isSkipped line then .ok none
      else some <$> (runStatement limit tracing state (Statement.read line)).result := by
  rw [runLine]
  split
  · rfl
  · rw [Execution.andThen]
    split <;> next outcome => rw [outcome]; rfl

theorem result_runLine_eq_some_iff {limit : Nat} {tracing : Bool} {state : store} {line : String}
    {report : Report} :
    (runLine limit tracing state line).result = .ok (some report) ↔
      isSkipped line = false ∧
        (runStatement limit tracing state (Statement.read line)).result = .ok report := by
  rw [result_runLine]
  cases isSkipped line with
  | true => simp
  | false =>
      cases (runStatement limit tracing state (Statement.read line)).result <;> simp

end Results

/-- An assignment that binds its name does not report a failure. -/
theorem success_of_binding? {arguments : List String} {name : String} {value : Value}
    {report : Report} (bound : Command.binding? limit table arguments = some (name, value))
    (reported : (Command.execute limit tracing .assign table arguments).result = .ok report) :
    report.success = true := by
  rw [(Command.execute_assign_of_some tracing bound).2] at reported
  exact Report.success_of_return reported

theorem state_of_traceless (traceless : Traceless line (runLine limit tracing table line)) :
    (runLine limit tracing table line).state = table := by
  rw [state_runLine]
  split
  · rfl
  · next notSkipped =>
      cases read : Statement.read line with
      | expression text => exact Command.state_execute_evaluate tracing table [text]
      | assign name expression =>
          cases bound : Command.binding? limit table [name, expression] with
          | none => exact (Command.execute_assign_of_none tracing bound).1
          | some binding =>
              rcases traceless with skipped | ⟨text, isExpression⟩ | ⟨report, reported, failed⟩
              · exact absurd skipped notSkipped
              · rw [read] at isExpression
                cases isExpression
              · have result := (result_runLine_eq_some_iff.mp reported).2
                rw [read] at result
                rw [success_of_binding? bound result] at failed
                cases failed

/-- Over integers and doubles every line comes to a report, unless it is skipped. -/
theorem isOk_result_runLine (limit : Nat) (tracing : Bool) (line : String) (plain : table.IsPlain) :
    (runLine limit tracing table line).result.isOk = true := by
  have reported : ∀ value : Value, value.IsPlain → value.asString.isOk = true := by
    intro value valuePlain
    have made : value.Made := valuePlain.elim Value.OfKind.made Value.OfKind.made
    rw [made.wellTagged.isOk_asString]
    exact valuePlain.elim Value.OfKind.isWritable Value.OfKind.isWritable
  have ofStatement :
      (runStatement limit tracing table (Statement.read line)).result.isOk = true := by
    cases Statement.read line with
    | expression text =>
        show (Command.execute limit tracing .evaluate table [text]).result.isOk = true
        cases answered : Command.answer? limit table [text] with
        | none =>
            obtain ⟨_, message, result⟩ := Command.execute_evaluate_of_none tracing answered
            rw [result]
            rfl
        | some value =>
            obtain ⟨expression, _, evaluated⟩ := Command.answer?_eq_some_iff.mp answered
            rw [(Command.execute_evaluate_of_some tracing answered).2, Host.isOk_bind_return]
            exact reported value (plain.of_valueOf? evaluated)
    | assign name expression =>
        show (Command.execute limit tracing .assign table [name, expression]).result.isOk = true
        cases bound : Command.binding? limit table [name, expression] with
        | none =>
            obtain ⟨_, message, result⟩ := Command.execute_assign_of_none tracing bound
            rw [result]
            rfl
        | some binding =>
            obtain ⟨boundName, value⟩ := binding
            obtain ⟨_, _, _, _, evaluated, _⟩ := Command.binding?_eq_some_iff.mp bound
            rw [(Command.execute_assign_of_some tracing bound).2]
            exact (Host.isOk_bind_return value.asString _).trans
              (reported value (plain.of_valueOf? evaluated))
  rw [result_runLine]
  split
  · rfl
  · cases result : (runStatement limit tracing table (Statement.read line)).result with
    | ok report => rfl
    | error fault =>
        rw [result] at ofStatement
        cases ofStatement

/-! ## Names of assignments -/

/-- The name that an assignment is read with stands by itself. -/
theorem trimmed_of_read {name expression : String}
    (read : Statement.read line = .assign name expression) : trimmed name = name := by
  obtain ⟨spelling, rfl⟩ := Statement.exists_name_of_read read
  rw [trimmed, String.toList_ofList, spelling.tight_text.trim_eq]

/-- A successful assignment changes what is found under its name, and under no other. -/
theorem find?_of_assign {name expression : String} {report : Report}
    (read : Statement.read line = .assign name expression)
    (reported : (runLine limit tracing table line).result = .ok (some report))
    (succeeded : report.success = true) :
    ∃ value, Command.valueOf? limit table expression = some value ∧
      (runLine limit tracing table line).state.find? name = some value ∧
      ∀ other, other ≠ name →
        (runLine limit tracing table line).state.find? other = table.find? other := by
  obtain ⟨notSkipped, result⟩ := result_runLine_eq_some_iff.mp reported
  rw [state_runLine, if_neg (Bool.eq_false_iff.mp notSkipped), read]
  rw [read] at result
  cases bound : Command.binding? limit table [name, expression] with
  | none =>
      obtain ⟨_, message, failed⟩ := Command.execute_assign_of_none tracing bound
      rw [runStatement, failed] at result
      obtain rfl := Except.ok.inj result
      cases succeeded
  | some binding =>
      obtain ⟨boundName, value⟩ := binding
      obtain ⟨_, _, arguments, _, evaluated, isName⟩ := Command.binding?_eq_some_iff.mp bound
      cases arguments
      rw [trimmed_of_read read] at isName
      subst isName
      rw [runStatement, (Command.execute_assign_of_some tracing bound).1]
      exact ⟨value, evaluated, table.find?_insert_self,
        fun other different => table.find?_insert_of_ne different⟩

/-! ## Many lines -/

theorem executions_keeping_from (lines : List String) (keep : Nat → Bool)
    (traceless : ∀ place line execution, keep place = false → lines[place]? = some line →
      (executions limit tracing table lines)[place]? = some execution → Traceless line execution) :
    executions limit tracing table (keeping keep lines) =
        keeping keep (executions limit tracing table lines) ∧
      tableFrom limit tracing table (keeping keep lines) = tableFrom limit tracing table lines := by
  -- The induction is on the longer run; at a line that is left out, the shorter one stays where
  -- it is, and so does the table.
  induction lines generalizing table keep with
  | nil => exact ⟨rfl, rfl⟩
  | cons line rest inductionHypothesis =>
      have later := @inductionHypothesis (runLine limit tracing table line).state
        (fun place => keep (place + 1)) fun place => traceless (place + 1)
      cases isKept : keep 0 with
      | true =>
          simp only [keeping, isKept, if_true, executions, tableFrom, List.foldl_cons]
          exact ⟨congrArg _ later.1, later.2⟩
      | false =>
          have unchanged : (runLine limit tracing table line).state = table :=
            state_of_traceless (traceless 0 line _ isKept rfl rfl)
          simp only [keeping, isKept, executions, tableFrom, List.foldl_cons, Bool.false_eq_true,
            if_false]
          rw [unchanged] at later ⊢
          exact later

theorem isOk_of_mem_executions (lines : List String) (plain : table.IsPlain)
    {execution : Execution SymbolTable (Option Report)}
    (member : execution ∈ executions limit tracing table lines) : execution.result.isOk = true := by
  induction lines generalizing table with
  | nil => cases member
  | cons line rest inductionHypothesis =>
      rcases List.mem_cons.mp member with rfl | later
      · exact isOk_result_runLine limit tracing line plain
      · exact inductionHypothesis (isPlain_runLine limit tracing line plain) later

/-- Leaving out lines without a trace changes no other execution and not the last table, every
line comes to a report or is skipped, and a successful assignment changes what is found under
its own name only. -/
theorem executions_keeping (limit : Nat) (tracing : Bool) (lines : List String)
    (keep : Nat → Bool)
    (traceless : ∀ place line execution, keep place = false → lines[place]? = some line →
      (executions limit tracing .empty lines)[place]? = some execution → Traceless line execution) :
    executions limit tracing .empty (keeping keep lines) =
        keeping keep (executions limit tracing .empty lines) ∧
      tableAfter limit tracing (keeping keep lines) = tableAfter limit tracing lines ∧
      (∀ execution ∈ executions limit tracing .empty lines, execution.result.isOk = true) ∧
      ∀ before line name expression report, Statement.read line = .assign name expression →
        (runLine limit tracing (tableAfter limit tracing before) line).result = .ok (some report) →
        report.success = true →
        ∃ value, Command.valueOf? limit (tableAfter limit tracing before) expression = some value ∧
          (tableAfter limit tracing (before ++ [line])).find? name = some value ∧
          ∀ other, other ≠ name → (tableAfter limit tracing (before ++ [line])).find? other =
            (tableAfter limit tracing before).find? other := by
  obtain ⟨sameExecutions, sameTable⟩ := executions_keeping_from lines keep traceless
  refine ⟨sameExecutions, sameTable, ?_, ?_⟩
  · intro execution member
    exact isOk_of_mem_executions lines SymbolTable.isPlain_empty member
  · intro before line name expression report read reported succeeded
    have last : tableAfter limit tracing (before ++ [line]) =
        (runLine limit tracing (tableAfter limit tracing before) line).state := by
      rw [tableAfter, List.foldl_append]
      rfl
    rw [last]
    exact find?_of_assign read reported succeeded

theorem executions_keeping_sample :
    let lines := ["a = 1", "# a note", "b + 1", "b = a"]
    let keep := fun place : Nat => place == 0 || place == 3
    (∀ place line execution, keep place = false → lines[place]? = some line →
      (executions depthLimit false .empty lines)[place]? = some execution →
        Traceless line execution) ∧
      tableAfter depthLimit false ["a = 1", "b = a"] = tableAfter depthLimit false lines := by
  intro lines keep
  have traceless : ∀ place line execution, keep place = false → lines[place]? = some line →
      (executions depthLimit false .empty lines)[place]? = some execution →
        Traceless line execution := by
    intro place line execution left isLine _
    match place with
    | 0 | 3 => cases left
    | 1 =>
        obtain rfl := Option.some.inj isLine
        exact Or.inl (by decide)
    | 2 =>
        obtain rfl := Option.some.inj isLine
        exact Or.inr (Or.inl ⟨"b + 1", by decide⟩)
    | later + 4 => cases isLine
  exact ⟨traceless, (executions_keeping depthLimit false lines keep traceless).2.1⟩

end CalcShell.Session

import CalcShell.Proofs.Command.Execute
import CalcShell.Proofs.Expression.Results
import CalcShell.Proofs.Number.Wrap
import CalcShell.Session.Line

/-!
# What sessions keep

Lines bind names as they are spelled to integers within the width and to doubles, and
to nothing else, whatever they say.  Over such variables no expression fails for the
types of operands.
-/

namespace CalcShell

open Expression Number Text

/-- The values that expressions have where nothing comes from outside: integers and doubles. -/
def Value.IsPlain (value : Value) : Prop :=
  value.OfKind .integer ∨ value.OfKind .double

namespace Value

variable {value left right : Value}

theorem IsPlain.isNumeric (plain : value.IsPlain) : value.isNumeric = true :=
  plain.elim OfKind.isNumeric OfKind.isNumeric

/-- What an operation makes of integers and doubles is an integer or a double. -/
theorem IsPlain.apply {operator : Operator} (leftPlain : left.IsPlain)
    (rightPlain : right.IsPlain) (applied : operator.apply left right = .ok value) :
    value.IsPlain := by
  obtain ⟨leftKind, rightKind, leftNumeric, rightNumeric, ofKind⟩ :=
    Operator.ofKind_of_apply applied
  have kindOf : ∀ {kind : NumericKind} {operand : Value}, operand.IsPlain →
      operand.numericKind? = some kind → kind = .integer ∨ kind = .double := by
    rintro kind operand (isInteger | isDouble) numeric
    · rw [isInteger.numericKind?_eq] at numeric
      exact Or.inl (Option.some.inj numeric).symm
    · rw [isDouble.numericKind?_eq] at numeric
      exact Or.inr (Option.some.inj numeric).symm
  have resultKind : operator.resultKind leftKind rightKind = .integer ∨
      operator.resultKind leftKind rightKind = .double := by
    rcases kindOf leftPlain leftNumeric with rfl | rfl <;>
      rcases kindOf rightPlain rightNumeric with rfl | rfl <;> cases operator <;> decide
  rcases resultKind with isInteger | isDouble
  · rw [isInteger] at ofKind
    exact Or.inl ofKind
  · rw [isDouble] at ofKind
    exact Or.inr ofKind

theorem isPlain_iff :
    value.IsPlain ↔
      (∃ number, InRange integerWidth number ∧ value = ⟨.int number, .integer, none⟩) ∨
        ∃ number, value = ⟨.float number, .double, none⟩ := by
  constructor
  · rintro (ofKind | ofKind)
    · cases ofKind with
      | integer number =>
          exact Or.inl ⟨wrap integerWidth number, inRange_wrap (by decide) number, rfl⟩
    · cases ofKind with
      | double number => exact Or.inr ⟨number, rfl⟩
  · rintro (⟨number, inRange, rfl⟩ | ⟨number, rfl⟩)
    · have stored := OfKind.integer number
      rw [integer, wrap_of_inRange (by decide) inRange] at stored
      exact Or.inl stored
    · exact Or.inr (OfKind.double number)

end Value

/-- A name without white space at its ends has no spacing around it either. -/
theorem exists_spelling_of_isName_trim {text : List Char} (named : isName (trim text) = true) :
    ∃ spelling : NameSpelling, trim text = spelling.text := by
  have nonempty : trim text ≠ [] := by
    intro gone
    rw [gone] at named
    cases named
  have tight := tight_trim nonempty
  obtain ⟨before, spelling, after, shape, spacingBefore, spacingAfter⟩ :=
    isName_eq_true_iff.mp named
  have nothingBefore : before = [] := by
    cases before with
    | nil => rfl
    | cons first rest =>
        have blank := isBlank_of_isSpacing (spacingBefore first (by simp))
        rw [tight.first first (by simp [shape])] at blank
        cases blank
  have nothingAfter : after = [] := by
    rcases List.eq_nil_or_concat' after with nothing | ⟨front, last, rfl⟩
    · exact nothing
    · have blank := isBlank_of_isSpacing (spacingAfter last (by simp))
      rw [tight.last last (by simp [shape])] at blank
      cases blank
  refine ⟨spelling, ?_⟩
  rw [shape, nothingBefore, nothingAfter, List.nil_append, List.append_nil]

namespace SymbolTable

/-- All names are spelled as names are, and all values are integers and doubles. -/
structure IsPlain (table : SymbolTable) : Prop where
  names : ∀ binding ∈ table.bindings,
    ∃ spelling : NameSpelling, binding.1 = String.ofList spelling.text
  values : ∀ binding ∈ table.bindings, binding.2.IsPlain

theorem isPlain_empty : empty.IsPlain where
  names := nofun
  values := nofun

variable {limit : Nat} {table : SymbolTable}

theorem IsPlain.insert (plain : table.IsPlain) (spelling : NameSpelling) {value : Value}
    (valuePlain : value.IsPlain) :
    (table.insert (String.ofList spelling.text) value).IsPlain where
  names := by
    intro binding member
    rcases mem_of_mem_insertBinding member with rfl | inTable
    · exact ⟨spelling, rfl⟩
    · exact plain.names binding inTable
  values := by
    intro binding member
    rcases mem_of_mem_insertBinding member with rfl | inTable
    · exact valuePlain
    · exact plain.values binding inTable

theorem IsPlain.of_lookup (plain : table.IsPlain) {name : String} {value : Value}
    (bound : Store.lookup table name = .ok (some value)) : value.IsPlain :=
  plain.values _ (mem_of_find?_eq_some (lookup_eq_ok_some_iff.mp bound))

theorem IsPlain.of_valueOf? (plain : table.IsPlain) {expression : String} {value : Value}
    (evaluated : Command.valueOf? limit table expression = some value) : value.IsPlain := by
  have outcome := Command.valueOf?_eq_some_iff.mp evaluated
  rw [outcome_evaluateWithin] at outcome
  refine (wellRead_ofText limit expression.toList).holds Value.IsPlain ?_ ?_ ?_ outcome
  · intro literal plainLiteral
    exact plainLiteral
  · intro name found bound
    exact plain.of_lookup bound
  · intro operator left right result leftPlain rightPlain applied
    exact leftPlain.apply rightPlain applied

theorem IsPlain.kind_ne_type (plain : table.IsPlain) {expression : String} {error : EvalError}
    (failed : (evaluateWithin limit (Store.lookup table) expression).outcome = .error error) :
    error.kind ≠ .type := by
  rw [outcome_evaluateWithin] at failed
  refine (wellRead_ofText limit expression.toList).kind_ne_type ?_ failed
  intro name value bound
  exact (plain.of_lookup bound).isNumeric

end SymbolTable

namespace Session

/-- The table that a session of the given lines leaves behind. -/
def tableAfter (limit : Nat) (tracing : Bool) (lines : List String) : SymbolTable :=
  lines.foldl (fun table line => (runLine limit tracing table line).state) .empty

variable {table : SymbolTable} (limit : Nat)

theorem isPlain_assign (tracing : Bool) (arguments : List String) (plain : table.IsPlain) :
    (Command.execute limit tracing .assign table arguments).state.IsPlain := by
  cases bound : Command.binding? limit table arguments with
  | none => rwa [(Command.execute_assign_of_none tracing bound).1]
  | some binding =>
      obtain ⟨name, value⟩ := binding
      obtain ⟨given, expression, _, named, evaluated, rfl⟩ :=
        Command.binding?_eq_some_iff.mp bound
      obtain ⟨spelling, spelled⟩ := exists_spelling_of_isName_trim named
      rw [(Command.execute_assign_of_some tracing bound).1, trimmed, spelled]
      exact plain.insert spelling (plain.of_valueOf? evaluated)

theorem isPlain_evaluate (tracing : Bool) (arguments : List String) (plain : table.IsPlain) :
    (Command.execute limit tracing .evaluate table arguments).state.IsPlain := by
  rwa [Command.state_execute_evaluate]

theorem state_runLine (tracing : Bool) (table : SymbolTable) (line : String) :
    (runLine limit tracing table line).state =
      if isSkipped line then table
      else (runStatement limit tracing table (Statement.read line)).state := by
  rw [runLine]
  split
  · rfl
  · rw [Execution.andThen]
    split <;> rfl

theorem isPlain_runLine (tracing : Bool) (line : String) (plain : table.IsPlain) :
    (runLine limit tracing table line).state.IsPlain := by
  rw [state_runLine]
  split
  · exact plain
  · cases Statement.read line with
    | assign name expression => exact isPlain_assign limit tracing [name, expression] plain
    | expression text => exact isPlain_evaluate limit tracing [text] plain

theorem isPlain_foldl (tracing : Bool) (lines : List String) (plain : table.IsPlain) :
    (lines.foldl (fun table line => (runLine limit tracing table line).state) table).IsPlain := by
  induction lines generalizing table with
  | nil => exact plain
  | cons line rest inductionHypothesis =>
      exact inductionHypothesis (isPlain_runLine limit tracing line plain)

/-- After any lines, every name is spelled as one, every value is an integer within the width or
a double, and no expression fails for the types of its operands. -/
theorem plain_tableAfter (limit : Nat) (tracing : Bool) (lines : List String) :
    (∀ binding ∈ (tableAfter limit tracing lines).bindings,
      (∃ spelling : NameSpelling, binding.1 = String.ofList spelling.text) ∧
        ((∃ number, InRange integerWidth number ∧
            binding.2 = ⟨.int number, .integer, none⟩) ∨
          ∃ number, binding.2 = ⟨.float number, .double, none⟩)) ∧
      ∀ depth expression error,
        (evaluateWithin depth (Store.lookup (tableAfter limit tracing lines)) expression).outcome =
          .error error →
        error.kind ≠ .type := by
  have plain : (tableAfter limit tracing lines).IsPlain :=
    isPlain_foldl limit tracing lines SymbolTable.isPlain_empty
  constructor
  · intro binding member
    exact ⟨plain.names binding member, Value.isPlain_iff.mp (plain.values binding member)⟩
  · intro depth expression error failed
    exact plain.kind_ne_type failed

end Session

end CalcShell

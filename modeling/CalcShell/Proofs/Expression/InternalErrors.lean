import CalcShell.Proofs.Command.Reports
import CalcShell.Proofs.Expression.IntegerText
import CalcShell.Proofs.Expression.Overlong
import CalcShell.Proofs.Value.Numeric

/-!
# Where internal errors come from

Reading stores the errors that it finds in the expression, and every internal one
among them is a row of digits in the text that is too long to be read.  Running the
expression adds what lookups report and what operations on the values report.
Lookups in a table report nothing, and operations on made values have checked
beforehand whatever could go wrong.
-/

namespace CalcShell.Expression

open Number Text

/-- The digits stand side by side in the text, and there are more of them than are read. -/
structure OverlongDigits (text digits : List Char) : Prop where
  within : digits <:+: text
  decimal : ∀ digit ∈ digits, digit.isDigit = true
  long : digitLimit < digits.length

/-- The error tells of a row of digits in the text. -/
def TellsOfDigits (text : List Char) (error : EvalError) : Prop :=
  ∃ digits, OverlongDigits text digits ∧ error = .internal (.numeralTooLong digits.length)

theorem TellsOfDigits.mono {text larger : List Char} {error : EvalError}
    (tells : TellsOfDigits text error) (inside : text <:+: larger) :
    TellsOfDigits larger error := by
  obtain ⟨digits, overlong, rfl⟩ := tells
  exact ⟨digits, ⟨overlong.within.trans inside, overlong.decimal, overlong.long⟩, rfl⟩

/-! ## Rows of digits -/

theorem tellsOfDigits_of_literal? {text : List Char} {fault : Fault}
    (read : literal? text = .error fault) : TellsOfDigits text (EvalError.ofFault fault) := by
  obtain ⟨noPoint, before, sign, digits, rest, rfl, spacing, decimal, long, stop⟩ :=
    exists_of_literal?_eq_error read
  have nonempty : digits ≠ [] := List.ne_nil_of_length_pos (Nat.zero_lt_of_lt long)
  rw [← List.append_assoc sign.text digits rest] at noPoint read
  have overlong := IntegerSpelling.literal?_append_of_long
    ⟨sign, digits, nonempty, decimal⟩ noPoint spacing stop long
  obtain rfl := Except.error.inj (read.symm.trans overlong)
  refine ⟨digits, ⟨⟨before ++ sign.text, rest, ?_⟩, decimal, long⟩, rfl⟩
  simp only [List.append_assoc]

/-- Digits that are too many to be read, and nothing else, are such an error. -/
theorem outcome_of_digits (environment : Environment) (depth : Nat) {digits : List Char}
    (decimal : ∀ digit ∈ digits, digit.isDigit = true) (long : digitLimit < digits.length) :
    (evaluateWithin (depth + 1) environment (String.ofList digits)).outcome =
      .error (.internal (.numeralTooLong digits.length)) := by
  have nonempty : digits ≠ [] := List.ne_nil_of_length_pos (Nat.zero_lt_of_lt long)
  exact IntegerSpelling.outcome_of_long ⟨.none, digits, nonempty, decimal⟩ environment depth
    long

/-! ## Errors in an expression -/

theorem tellsOfDigits_of_mem_refusals {limit : Nat} {text : List Char} {error : EvalError}
    (member : error ∈ (ofText limit text).refusals) (internal : error.kind = .internal) :
    TellsOfDigits text error := by
  have sides : ∀ (depth : Nat) (part : List Char) (split : Split), part <:+: text →
      split? (coreOf part) = some split → split.left <:+: text ∧ split.right <:+: text := by
    intro _ part split within found
    obtain ⟨leftInside, rightInside⟩ := split?_isInfix found
    have core := (coreOf_isInfix part).trans within
    exact ⟨leftInside.trans core, rightInside.trans core⟩
  rcases (readAs_ofText limit text).reason_of_mem_refusals (fun _ part => part <:+: text) sides
    (List.infix_refl text) member with ⟨rfl, _⟩ | ⟨_, part, within, reason⟩
  · cases internal
  · cases reason with
    | unreadable read =>
        exact (tellsOfDigits_of_literal? read).mono ((coreOf_isInfix part).trans within)
    | empty | unbalanced | invalid => cases internal

section Runs

variable {environment : Environment} {expression : Expression}

theorem WellRead.made (bound : ∀ name value, environment name = .ok (some value) → value.Made)
    (wellRead : WellRead expression) {value : Value}
    (evaluated : (expression.run environment).outcome = .ok value) : value.Made := by
  rcases wellRead.bound_or_ofKind evaluated with ⟨name, isBound⟩ | ⟨kind, ofKind⟩
  · exact bound name value isBound
  · exact ofKind.made

/-- Over made values an internal error was there when the expression was read, or a lookup
has reported it. -/
theorem WellRead.mem_refusals
    (bound : ∀ name value, environment name = .ok (some value) → value.Made)
    (wellRead : WellRead expression) {error : EvalError}
    (failed : (expression.run environment).outcome = .error error)
    (internal : error.kind = .internal) :
    error ∈ expression.refusals ∨ ∃ name fault, environment name = .error fault := by
  rcases wellRead.source_of_error (fun _ _ read => read.made bound) failed with
    member | ⟨name, lookedUp⟩ | ⟨operator, left, right, leftMade, rightMade, applied⟩
  · exact Or.inl member
  · rcases eq_of_lookup_eq_error lookedUp with rfl | ⟨fault, reported, _⟩
    · cases internal
    · exact Or.inr ⟨name, fault, reported⟩
  · rcases Operator.apply_of_made leftMade rightMade applied with rfl | rfl <;> cases internal

end Runs

/-- Over a table of made values no operation fails of its own accord: an internal error always
tells of a row of digits in the text that is too long to be read. -/
theorem tellsOfDigits_of_internal {table : SymbolTable}
    (made : ∀ binding ∈ table.bindings, binding.2.Made) (limit : Nat) (text : String)
    {error : EvalError}
    (failed : (evaluateWithin limit (Store.lookup table) text).outcome = .error error)
    (internal : error.kind = .internal) : TellsOfDigits text.toList error := by
  rw [outcome_evaluateWithin] at failed
  have bound : ∀ name value, Store.lookup table name = .ok (some value) → value.Made := by
    intro name value found
    exact made _ (SymbolTable.mem_of_find?_eq_some (SymbolTable.lookup_eq_ok_some_iff.mp found))
  have wellRead := wellRead_ofText limit text.toList
  rcases wellRead.mem_refusals bound failed internal with member | ⟨name, fault, reported⟩
  · exact tellsOfDigits_of_mem_refusals member internal
  · rw [SymbolTable.lookup_eq] at reported
    cases reported

theorem tellsOfDigits_of_sevens :
    (∀ binding ∈ (Command.singleTable (Value.integer 1)).bindings, binding.2.Made) ∧
      TellsOfDigits (List.replicate (digitLimit + 1) '7')
        (.internal (.numeralTooLong (digitLimit + 1))) := by
  have made := Command.made_singleTable (Value.OfKind.integer 1).made
  have decimal : ∀ digit ∈ List.replicate (digitLimit + 1) '7', digit.isDigit = true := by
    intro digit member
    rw [List.eq_of_mem_replicate member]
    decide
  have long : digitLimit < (List.replicate (digitLimit + 1) '7').length := by
    rw [List.length_replicate]
    exact Nat.lt_succ_self _
  have failed := outcome_of_digits (Store.lookup (Command.singleTable (Value.integer 1))) 449
    decimal long
  have tells := tellsOfDigits_of_internal made 450 _ failed rfl
  rw [String.toList_ofList, List.length_replicate] at tells
  exact ⟨made, tells⟩

end CalcShell.Expression

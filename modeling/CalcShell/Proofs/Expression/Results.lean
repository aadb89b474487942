import CalcShell.Proofs.Expression.ReadAs
import CalcShell.Proofs.Value.Faults

/-!
# What expressions come to

The value of an expression is one that a name is bound to, or a number that a
literal or an operation gives.  Where names are bound to numbers only, no
expression fails for the types of operands.
-/

namespace CalcShell.Expression

open Text

theorem ofKind_of_literal? {text : List Char} {value : Value}
    (read : literal? text = .ok (some value)) :
    Value.OfKind .integer value ∨ Value.OfKind .double value := by
  obtain ⟨_, _, _, _, _, _, spelled⟩ := literal?_eq_ok_some_iff.mp read
  cases spelled with
  | integer spelling => exact Or.inl (Value.OfKind.integer _)
  | decimal spelling => exact Or.inr (Value.OfKind.double _)

/-- An expression as reading a text can give it: its literals are integers and doubles, and
nothing in it is refused for the types of operands. -/
inductive WellRead : Expression → Prop
  | literal (source : List Char) {value : Value}
      (number : Value.OfKind .integer value ∨ Value.OfKind .double value) :
      WellRead (.literal source value)
  | name (source : List Char) (name : String) : WellRead (.variable source name)
  | operation (source : List Char) {left right : Expression} (operator : Operator)
      (leftRead : WellRead left) (rightRead : WellRead right) :
      WellRead (.binary source left operator right)
  | refused (source : List Char) {error : EvalError} (kind : error.kind ≠ .type) :
      WellRead (.refused source error)

theorem ReadAs.wellRead {limit : Nat} {text : List Char} {expression : Expression}
    (readAs : ReadAs limit text expression) : WellRead expression := by
  induction readAs with
  | tooDeep text => exact WellRead.refused _ (by simp [EvalError.kind])
  | refused reason =>
      cases reason with
      | unreadable read => exact WellRead.refused _ (EvalError.kind_ofFault_ne_type _)
      | empty | unbalanced | invalid => exact WellRead.refused _ (by simp [EvalError.kind])
  | literal read => exact WellRead.literal _ (ofKind_of_literal? read)
  | name named => exact WellRead.name _ _
  | operation found _ _ leftRead rightRead => exact WellRead.operation _ _ leftRead rightRead

theorem wellRead_ofText (limit : Nat) (text : List Char) : WellRead (ofText limit text) :=
  (readAs_ofText limit text).wellRead

/-- The errors that the parts of an expression have been refused with. -/
def refusals : Expression → List EvalError
  | .literal .. | .variable .. => []
  | .binary _ left _ right => left.refusals ++ right.refusals
  | .refused _ error => [error]

/-- An error in an expression tells why some part is refused, or that no depth was left for it.
What holds of the text and its depth, and goes over to the sides of operators, holds of the
part. -/
theorem ReadAs.reason_of_mem_refusals (Holds : Nat → List Char → Prop)
    (sides : ∀ depth text split, Holds (depth + 1) text → split? (coreOf text) = some split →
      Holds depth split.left ∧ Holds depth split.right)
    {limit : Nat} {text : List Char} {expression : Expression}
    (readAs : ReadAs limit text expression) (holds : Holds limit text) {error : EvalError}
    (member : error ∈ expression.refusals) :
    (error = .tooDeep ∧ ∃ part, Holds 0 part) ∨
      ∃ depth part, Holds (depth + 1) part ∧ RefusedFor part error := by
  induction readAs with
  | tooDeep text => exact Or.inl ⟨List.mem_singleton.mp member, text, holds⟩
  | refused reason =>
      obtain rfl := List.mem_singleton.mp member
      exact Or.inr ⟨_, _, holds, reason⟩
  | literal read => exact absurd member List.not_mem_nil
  | name named => exact absurd member List.not_mem_nil
  | operation found _ _ leftReason rightReason =>
      obtain ⟨leftHolds, rightHolds⟩ := sides _ _ _ holds found
      rcases List.mem_append.mp member with inLeft | inRight
      · exact leftReason leftHolds inLeft
      · exact rightReason rightHolds inRight

section Runs

variable {environment : Environment} {expression : Expression}

/-- What holds of integers and doubles, of everything that is bound, and of the results of
operations where it holds of their operands, holds of the value of every expression. -/
theorem WellRead.holds (Holds : Value → Prop)
    (literal : ∀ value, Value.OfKind .integer value ∨ Value.OfKind .double value → Holds value)
    (bound : ∀ name value, environment name = .ok (some value) → Holds value)
    (applied : ∀ (operator : Operator) (left right value : Value), Holds left → Holds right →
      operator.apply left right = .ok value → Holds value)
    (wellRead : WellRead expression) {value : Value}
    (evaluated : (expression.run environment).outcome = .ok value) : Holds value := by
  induction wellRead generalizing value with
  | literal source number =>
      obtain rfl := Except.ok.inj evaluated
      exact literal _ number
  | name source name =>
      exact bound name value ((outcome_lookup_eq_ok_iff environment).mp evaluated)
  | operation source operator _ _ leftHolds rightHolds =>
      obtain ⟨leftValue, rightValue, leftOutcome, rightOutcome, result⟩ :=
        (outcome_run_binary_eq_ok_iff environment).mp evaluated
      exact applied operator leftValue rightValue value (leftHolds leftOutcome)
        (rightHolds rightOutcome) result
  | refused source kind => cases evaluated

theorem WellRead.bound_or_ofKind (wellRead : WellRead expression) {value : Value}
    (evaluated : (expression.run environment).outcome = .ok value) :
    (∃ name, environment name = .ok (some value)) ∨ ∃ kind, Value.OfKind kind value := by
  refine wellRead.holds
    (fun value => (∃ name, environment name = .ok (some value)) ∨ ∃ kind, Value.OfKind kind value)
    ?_ ?_ ?_ evaluated
  · rintro found (isInteger | isDouble)
    · exact Or.inr ⟨_, isInteger⟩
    · exact Or.inr ⟨_, isDouble⟩
  · intro name found isBound
    exact Or.inl ⟨name, isBound⟩
  · intro operator left right result _ _ applied
    obtain ⟨_, _, _, _, ofKind⟩ := Operator.ofKind_of_apply applied
    exact Or.inr ⟨_, ofKind⟩

/-! ## Errors -/

theorem WellRead.kind_of_mem_refusals (wellRead : WellRead expression) {error : EvalError}
    (member : error ∈ expression.refusals) : error.kind ≠ .type := by
  induction wellRead with
  | literal source number => exact absurd member List.not_mem_nil
  | name source name => exact absurd member List.not_mem_nil
  | operation source operator _ _ leftKind rightKind =>
      exact (List.mem_append.mp member).elim leftKind rightKind
  | refused source kind =>
      obtain rfl := List.mem_singleton.mp member
      exact kind

/-- An error of a run was there when the expression was read, or comes from a lookup, or from
an operation on values that parts of the expression have come to. -/
theorem WellRead.source_of_error {Holds : Value → Prop}
    (holds : ∀ (part : Expression) (value : Value), WellRead part →
      (part.run environment).outcome = .ok value → Holds value)
    (wellRead : WellRead expression) {error : EvalError}
    (failed : (expression.run environment).outcome = .error error) :
    error ∈ expression.refusals ∨
      (∃ name, (environment.lookup name).outcome = .error error) ∨
      ∃ (operator : Operator) (left right : Value), Holds left ∧ Holds right ∧
        operator.apply left right = .error error := by
  induction wellRead with
  | literal source number => cases failed
  | name source name => exact Or.inr (Or.inl ⟨name, failed⟩)
  | @operation source left right operator leftRead rightRead leftSource rightSource =>
      rw [outcome_run_binary] at failed
      cases leftOutcome : (left.run environment).outcome with
      | error leftError =>
          rw [leftOutcome] at failed
          obtain rfl := Except.error.inj failed
          exact (leftSource leftOutcome).imp_left (List.mem_append_left _)
      | ok leftValue =>
          cases rightOutcome : (right.run environment).outcome with
          | error rightError =>
              rw [leftOutcome, rightOutcome] at failed
              obtain rfl := Except.error.inj failed
              exact (rightSource rightOutcome).imp_left (List.mem_append_right _)
          | ok rightValue =>
              rw [leftOutcome, rightOutcome] at failed
              exact Or.inr (Or.inr ⟨operator, leftValue, rightValue,
                holds left leftValue leftRead leftOutcome,
                holds right rightValue rightRead rightOutcome, failed⟩)
  | refused source kind =>
      obtain rfl := Except.error.inj failed
      exact Or.inl (List.mem_singleton_self _)

theorem eq_of_lookup_eq_error {name : String} {error : EvalError}
    (failed : (environment.lookup name).outcome = .error error) :
    error = .undefined name ∨
      ∃ fault, environment name = .error fault ∧ error = EvalError.ofFault fault := by
  unfold Environment.lookup at failed
  split at failed
  · cases failed
  · exact Or.inl (Except.error.inj failed).symm
  · next fault reported => exact Or.inr ⟨fault, reported, (Except.error.inj failed).symm⟩

/-- An error of syntax was there when the expression was read, unless a lookup has reported it. -/
theorem WellRead.malformed_mem_refusals (wellRead : WellRead expression) {error : EvalError}
    (failed : (expression.run environment).outcome = .error error)
    (malformed : error.kind = .malformed) :
    error ∈ expression.refusals ∨
      ∃ name fault, environment name = .error fault ∧ error = EvalError.ofFault fault := by
  rcases wellRead.source_of_error (fun _ _ _ _ => trivial) failed with
    member | ⟨name, lookedUp⟩ | ⟨operator, left, right, _, _, applied⟩
  · exact Or.inl member
  · rcases eq_of_lookup_eq_error lookedUp with rfl | ⟨fault, reported, same⟩
    · cases malformed
    · exact Or.inr ⟨name, fault, reported, same⟩
  · exact absurd malformed (Operator.kind_ne_malformed_of_apply applied)

/-- Over numbers nothing fails for the types of operands. -/
theorem WellRead.kind_ne_type
    (numbers : ∀ name value, environment name = .ok (some value) → value.isNumeric = true)
    (wellRead : WellRead expression) {error : EvalError}
    (failed : (expression.run environment).outcome = .error error) : error.kind ≠ .type := by
  have numeric : ∀ (part : Expression) (value : Value), WellRead part →
      (part.run environment).outcome = .ok value → value.isNumeric = true := by
    intro part value read evaluated
    rcases read.bound_or_ofKind evaluated with ⟨name, isBound⟩ | ⟨kind, ofKind⟩
    · exact numbers name value isBound
    · exact ofKind.isNumeric
  rcases wellRead.source_of_error numeric failed with
    member | ⟨name, lookedUp⟩ | ⟨operator, left, right, leftNumeric, rightNumeric, applied⟩
  · exact wellRead.kind_of_mem_refusals member
  · rcases eq_of_lookup_eq_error lookedUp with rfl | ⟨fault, _, rfl⟩
    · simp [EvalError.kind]
    · exact EvalError.kind_ofFault_ne_type fault
  · exact Operator.kind_ne_type_of_apply leftNumeric rightNumeric applied

end Runs

end CalcShell.Expression

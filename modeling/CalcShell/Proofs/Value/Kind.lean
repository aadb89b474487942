import CalcShell.Outcome

/-!
# Numbers of a kind

An operation on two numbers gives a number of the wider one of their kinds, and a
quotient is a double.  An operation goes wrong for the types of its operands only
where one of them is no number.
-/

namespace CalcShell

open Number

theorem bind_eq_ok_iff {fault given answer : Type} {first : Except fault given}
    {next : given → Except fault answer} {result : answer} :
    first >>= next = .ok result ↔ ∃ found, first = .ok found ∧ next found = .ok result := by
  cases first <;> simp [bind, Except.bind]

theorem bind_eq_error_iff {fault given answer : Type} {first : Except fault given}
    {next : given → Except fault answer} {reason : fault} :
    first >>= next = .error reason ↔
      first = .error reason ∨ ∃ found, first = .ok found ∧ next found = .error reason := by
  cases first <;> simp [bind, Except.bind]

theorem exists_of_return_eq_ok {fault given answer : Type} {first : Except fault given}
    {make : given → answer} {result : answer}
    (made : (do return make (← first)) = (.ok result : Except fault answer)) :
    ∃ found, make found = result := by
  obtain ⟨found, _, last⟩ := bind_eq_ok_iff.mp made
  exact ⟨found, Except.ok.inj last⟩

theorem exists_of_both_eq_ok {fault given answer : Type} {first second : Except fault given}
    {make : given → given → answer} {result : answer}
    (made : (do return make (← first) (← second)) = (.ok result : Except fault answer)) :
    ∃ firstGiven secondGiven, make firstGiven secondGiven = result := by
  obtain ⟨firstGiven, _, rest⟩ := bind_eq_ok_iff.mp made
  obtain ⟨secondGiven, _, last⟩ := bind_eq_ok_iff.mp rest
  exact ⟨firstGiven, secondGiven, Except.ok.inj last⟩

namespace Value

/-- The numbers of a kind, as they come out of operations. -/
inductive OfKind : NumericKind → Value → Prop
  | integer (number : Int) : OfKind .integer (integer number)
  | long (number : Int) : OfKind .long (long number)
  | float (number : Double) : OfKind .float (single number)
  | double (number : Double) : OfKind .double (double number)

variable {kind : NumericKind} {value left right : Value}

theorem OfKind.numericKind?_eq (ofKind : OfKind kind value) :
    value.numericKind? = some kind := by
  cases ofKind <;> rfl

theorem OfKind.isNumeric (ofKind : OfKind kind value) : value.isNumeric = true := by
  rw [Value.isNumeric, ofKind.numericKind?_eq]
  rfl

theorem widen_eq_ok_iff {noun : String} :
    widen noun left right = .ok kind ↔
      ∃ leftKind rightKind, left.numericKind? = some leftKind ∧
        right.numericKind? = some rightKind ∧ leftKind.wider rightKind = kind := by
  rw [widen]
  cases left.numericKind? with
  | none => simp
  | some leftKind => cases right.numericKind? <;> simp

theorem ofKind_of_combine {noun : String} {onDoubles : Double → Double → Double}
    {onInts : Int → Int → Int} (combined : combine noun onDoubles onInts left right = .ok value) :
    ∃ kind, widen noun left right = .ok kind ∧ OfKind kind value := by
  obtain ⟨kind, widened, inKind⟩ := bind_eq_ok_iff.mp combined
  refine ⟨kind, widened, ?_⟩
  cases kind with
  | integer =>
      obtain ⟨_, _, rfl⟩ := exists_of_both_eq_ok inKind
      exact OfKind.integer _
  | long =>
      obtain ⟨_, _, rfl⟩ := exists_of_both_eq_ok inKind
      exact OfKind.long _
  | float =>
      obtain ⟨_, _, rfl⟩ := exists_of_both_eq_ok inKind
      exact OfKind.float _
  | double =>
      obtain ⟨_, _, rfl⟩ := exists_of_both_eq_ok inKind
      exact OfKind.double _

theorem ofKind_of_divide (divided : left.divide right = .ok value) :
    (∃ kind, widen Operator.dividedBy.noun left right = .ok kind) ∧ OfKind .double value := by
  obtain ⟨kind, widened, quotient⟩ := bind_eq_ok_iff.mp divided
  obtain ⟨_, _, rfl⟩ := exists_of_both_eq_ok quotient
  exact ⟨⟨kind, widened⟩, OfKind.double _⟩

end Value

/-! ## Errors of operations -/

theorem EvalError.kind_ofFault_ne_type (fault : Fault) :
    (EvalError.ofFault fault).kind ≠ .type := by
  rw [EvalError.ofFault]
  split <;> simp [EvalError.kind]

theorem EvalError.ofFault_ne_unbalanced (fault : Fault) :
    EvalError.ofFault fault ≠ .unbalanced := by
  rw [EvalError.ofFault]
  split <;> nofun

namespace Outcome

theorem ofResult_eq_ok_iff {result : Except Fault Value} {value : Value} :
    ofResult result = .ok value ↔ result = .ok value := by
  cases result <;> simp [ofResult]

end Outcome

namespace Operator

/-- The kind of the result for numbers of two kinds. -/
def resultKind : Operator → NumericKind → NumericKind → NumericKind
  | .dividedBy, _, _ => .double
  | .plus, left, right | .minus, left, right | .times, left, right => left.wider right

variable {operator : Operator} {left right : Value}

theorem ofKind_of_onValues {value : Value} (applied : operator.onValues left right = .ok value) :
    ∃ leftKind rightKind, left.numericKind? = some leftKind ∧
      right.numericKind? = some rightKind ∧
        Value.OfKind (operator.resultKind leftKind rightKind) value := by
  have inWider : ∀ {noun : String} {onDoubles : Double → Double → Double}
      {onInts : Int → Int → Int}, Value.combine noun onDoubles onInts left right = .ok value →
      ∃ leftKind rightKind, left.numericKind? = some leftKind ∧
        right.numericKind? = some rightKind ∧
          Value.OfKind (leftKind.wider rightKind) value := by
    intro noun onDoubles onInts combined
    obtain ⟨kind, widened, ofKind⟩ := Value.ofKind_of_combine combined
    obtain ⟨leftKind, rightKind, leftNumeric, rightNumeric, rfl⟩ :=
      Value.widen_eq_ok_iff.mp widened
    exact ⟨leftKind, rightKind, leftNumeric, rightNumeric, ofKind⟩
  cases operator with
  | plus | minus | times => exact inWider applied
  | dividedBy =>
      obtain ⟨⟨kind, widened⟩, ofKind⟩ := Value.ofKind_of_divide applied
      obtain ⟨leftKind, rightKind, leftNumeric, rightNumeric, _⟩ :=
        Value.widen_eq_ok_iff.mp widened
      exact ⟨leftKind, rightKind, leftNumeric, rightNumeric, ofKind⟩

/-- The result of an operation is a number of the kind that goes with the operands. -/
theorem ofKind_of_apply {value : Value} (applied : operator.apply left right = .ok value) :
    ∃ leftKind rightKind, left.numericKind? = some leftKind ∧
      right.numericKind? = some rightKind ∧
        Value.OfKind (operator.resultKind leftKind rightKind) value := by
  rw [apply] at applied
  split at applied
  · cases applied
  · split at applied
    · next isDivision =>
        subst isDivision
        split at applied
        · cases applied
        · split at applied
          · cases applied
          · exact ofKind_of_onValues (Outcome.ofResult_eq_ok_iff.mp applied)
    · exact ofKind_of_onValues (Outcome.ofResult_eq_ok_iff.mp applied)

/-- What goes wrong when an operator is applied. -/
inductive FailsWith (operator : Operator) (left right : Value) : EvalError → Prop
  | operands (noNumbers : (left.isNumeric && right.isNumeric) = false) :
      FailsWith operator left right
        (EvalError.ofOperands (String.singleton operator.symbol) (some left) (some right))
  | zeroDivisor : FailsWith operator left right .divisionByZero
  | divisor {fault : Fault} (unconverted : right.asDouble = .error fault) :
      FailsWith operator left right (EvalError.ofFault fault)
  | operation {fault : Fault} (stopped : operator.onValues left right = .error fault) :
      FailsWith operator left right (EvalError.ofFault fault)

theorem FailsWith.of_ofResult {error : EvalError}
    (failed : Outcome.ofResult (operator.onValues left right) = .error error) :
    FailsWith operator left right error := by
  cases result : operator.onValues left right with
  | ok value =>
      rw [result] at failed
      cases failed
  | error fault =>
      rw [result] at failed
      obtain rfl := Except.error.inj failed
      exact FailsWith.operation result

theorem failsWith_of_apply {error : EvalError} (failed : operator.apply left right = .error error) :
    FailsWith operator left right error := by
  rw [apply] at failed
  split at failed
  · next noNumbers =>
      obtain rfl := Except.error.inj failed
      exact FailsWith.operands (by rwa [Bool.not_eq_true'] at noNumbers)
  · split at failed
    · next isDivision =>
        subst isDivision
        split at failed
        · next fault unconverted =>
            obtain rfl := Except.error.inj failed
            exact FailsWith.divisor unconverted
        · split at failed
          · obtain rfl := Except.error.inj failed
            exact FailsWith.zeroDivisor
          · exact FailsWith.of_ofResult failed
    · exact FailsWith.of_ofResult failed

/-- Numbers are never refused for their types. -/
theorem kind_ne_type_of_apply {error : EvalError} (leftNumeric : left.isNumeric = true)
    (rightNumeric : right.isNumeric = true)
    (failed : operator.apply left right = .error error) : error.kind ≠ .type := by
  cases failsWith_of_apply failed with
  | operands noNumbers =>
      rw [leftNumeric, rightNumeric] at noNumbers
      cases noNumbers
  | zeroDivisor => simp [EvalError.kind]
  | divisor unconverted => exact EvalError.kind_ofFault_ne_type _
  | operation stopped => exact EvalError.kind_ofFault_ne_type _

end Operator

end CalcShell

import CalcShell.Proofs.Number.Rounding
import CalcShell.Proofs.Value.Written

/-!
# Operations on numbers that store what they say

A number that stores what its tag says stores an integer in range, or a double.  None of
the conversions that an operation asks of it goes wrong, and so the only failures of
operations on such numbers are those that are noticed before anything is converted.  The
numbers that the constructors make are among them.
-/

namespace CalcShell

open Host Number

namespace Value

variable {kind leftKind rightKind : NumericKind} {value left right : Value}

/-! ## Conversions of numbers -/

theorem isOk_intToDouble {width : Nat} {number : Int} (bounded : width ≤ 1000)
    (inRange : InRange width number) : (intToDouble number).isOk = true := by
  have present := Double.isSome_ofInt?_of_inRange bounded inRange
  obtain ⟨double, isDouble⟩ := Option.isSome_iff_exists.mp present
  rw [intToDouble, isDouble, Option.elim_some]
  rfl

theorem IsNumber.isOk_toDouble (isNumber : IsNumber kind value) :
    value.raw.toDouble.isOk = true := by
  cases isNumber with
  | integer inRange _ | long inRange _ =>
      rw [toDouble]
      exact isOk_intToDouble (by decide) inRange
  | float number _ | double number _ => rfl

theorem IsNumber.isOk_asDouble (isNumber : IsNumber kind value) : value.asDouble.isOk = true := by
  rw [asDouble, if_pos isNumber.isNumeric]
  exact isNumber.isOk_toDouble

theorem IsNumber.isOk_asFloat (isNumber : IsNumber kind value) : value.asFloat.isOk = true := by
  rw [asFloat, if_pos isNumber.isNumeric]
  exact (isOk_bind_return _ Double.toSingle).trans isNumber.isOk_toDouble

theorem IsNumber.isOk_narrowed (isNumber : IsNumber kind value) (width : Nat) (target : String) :
    (value.narrowed width target).isOk = true := by
  cases isNumber <;> rfl

/-! ## Operations -/

theorem widen_of_isNumber (noun : String) (leftIs : IsNumber leftKind left)
    (rightIs : IsNumber rightKind right) :
    widen noun left right = .ok (leftKind.wider rightKind) :=
  widen_eq_ok_iff.mpr
    ⟨leftKind, rightKind, leftIs.numericKind?_eq, rightIs.numericKind?_eq, rfl⟩

theorem isOk_combine (noun : String) (onDoubles : Double → Double → Double)
    (onInts : Int → Int → Int) (leftIs : IsNumber leftKind left)
    (rightIs : IsNumber rightKind right) :
    (combine noun onDoubles onInts left right).isOk = true := by
  rw [combine, widen_of_isNumber noun leftIs rightIs]
  have both : ∀ {given : Type} {first second : Except Fault given}
      (make : given → given → Value), first.isOk = true → second.isOk = true →
      (do return make (← first) (← second) : Except Fault Value).isOk = true := by
    intro given first second make firstOk secondOk
    rw [isOk_both, firstOk, secondOk]
    rfl
  cases leftKind.wider rightKind with
  | integer =>
      exact both (fun left right => integer (onInts left right))
        (leftIs.isOk_narrowed _ _) (rightIs.isOk_narrowed _ _)
  | long =>
      exact both (fun left right => long (onInts left right))
        (leftIs.isOk_narrowed _ _) (rightIs.isOk_narrowed _ _)
  | float =>
      exact both (fun left right => single (onDoubles left right))
        leftIs.isOk_asFloat rightIs.isOk_asFloat
  | double =>
      exact both (fun left right => double (onDoubles left right))
        leftIs.isOk_asDouble rightIs.isOk_asDouble

theorem isOk_divide (leftIs : IsNumber leftKind left) (rightIs : IsNumber rightKind right) :
    (left.divide right).isOk = true := by
  rw [divide, widen_of_isNumber _ leftIs rightIs]
  have quotient := isOk_both left.asDouble right.asDouble fun dividend divisor =>
    double (dividend.div divisor)
  rw [leftIs.isOk_asDouble, rightIs.isOk_asDouble] at quotient
  exact quotient

end Value

namespace Operator

variable {operator : Operator} {left right : Value} {leftKind rightKind : NumericKind}

theorem isOk_onValues (operator : Operator) (leftIs : Value.IsNumber leftKind left)
    (rightIs : Value.IsNumber rightKind right) :
    (operator.onValues left right).isOk = true := by
  cases operator with
  | plus | minus | times => exact Value.isOk_combine _ _ _ leftIs rightIs
  | dividedBy => exact Value.isOk_divide leftIs rightIs

/-- Over numbers that can be converted, a zero divisor is all that can be wrong. -/
theorem eq_divisionByZero_of_apply {error : EvalError}
    (leftIs : Value.IsNumber leftKind left) (rightIs : Value.IsNumber rightKind right)
    (failed : operator.apply left right = .error error) : error = .divisionByZero := by
  cases failsWith_of_apply failed with
  | operands noNumbers =>
      rw [leftIs.isNumeric, rightIs.isNumeric] at noNumbers
      cases noNumbers
  | zeroDivisor => rfl
  | divisor unconverted =>
      have converted := rightIs.isOk_asDouble
      rw [unconverted] at converted
      cases converted
  | operation stopped =>
      have succeeds := operator.isOk_onValues leftIs rightIs
      rw [stopped] at succeeds
      cases succeeds

/-- Whatever an operation on made values reports was noticed by one of the checks that come
before it. -/
theorem apply_of_made {error : EvalError} (leftMade : left.Made) (rightMade : right.Made)
    (failed : operator.apply left right = .error error) :
    error = EvalError.ofOperands (String.singleton operator.symbol) (some left) (some right) ∨
      error = .divisionByZero := by
  by_cases numeric : (left.isNumeric && right.isNumeric) = true
  · obtain ⟨leftNumeric, rightNumeric⟩ := Bool.and_eq_true_iff.mp numeric
    obtain ⟨leftKind, leftIs⟩ := Option.isSome_iff_exists.mp leftNumeric
    obtain ⟨rightKind, rightIs⟩ := Option.isSome_iff_exists.mp rightNumeric
    exact Or.inr <|
      eq_divisionByZero_of_apply (Value.IsNumber.of_admits leftMade.admits leftIs)
        (Value.IsNumber.of_admits rightMade.admits rightIs) failed
  · rw [apply, Bool.eq_false_iff.mpr numeric] at failed
    exact Or.inl (Except.error.inj failed).symm

end Operator

end CalcShell

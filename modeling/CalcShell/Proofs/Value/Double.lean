import CalcShell.Outcome

/-!
# Operations on doubles

All four operations take doubles to doubles, only that a divisor of zero is an
error.
-/

namespace CalcShell

open Number

def Operator.onDoubles : Operator → Double → Double → Double
  | .plus => Double.add
  | .minus => Double.sub
  | .times => Double.mul
  | .dividedBy => Double.div

namespace Operator

/-- An operation on doubles, other than a division by zero, and its result. -/
def Gives (operator : Operator) (left right result : Double) : Prop :=
  (operator = .dividedBy → right.isZero = false) ∧ operator.onDoubles left right = result

instance (operator : Operator) (left right result : Double) :
    Decidable (operator.Gives left right result) :=
  inferInstanceAs (Decidable (_ ∧ _))

theorem Gives.apply_eq {operator : Operator} {left right result : Double}
    (gives : operator.Gives left right result) :
    operator.apply (Value.double left) (Value.double right) = .ok (Value.double result) := by
  obtain ⟨divisor, rfl⟩ := gives
  cases operator with
  | plus | minus | times => rfl
  | dividedBy =>
      have notZero := divisor rfl
      have asDouble : (Value.double right).asDouble = .ok right := rfl
      have numeric : (Value.double left).isNumeric = true := rfl
      have divisorNumeric : (Value.double right).isNumeric = true := rfl
      rw [apply, numeric, divisorNumeric, asDouble]
      simp only [Bool.and_self, Bool.not_true, Bool.false_eq_true, if_false, if_true, notZero]
      rfl

end Operator

end CalcShell

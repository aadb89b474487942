import CalcShell.Proofs.Value.Kind

/-!
# What goes wrong in operations

Whatever two values are, an operation on them goes wrong in one of a few ways: one of
them is no number, or what is stored under the tag of a number is none or is too large.
Running out of depth is not among them.
-/

namespace CalcShell

open Host Number

/-- What can go wrong in an operation on two values. -/
inductive Fault.OfOperation : Fault → Prop
  | castFailed (typeName target : String) : OfOperation (.castFailed typeName target)
  | operandsNotNumeric (operator : Operator) : OfOperation (.operandsNotNumeric operator.noun)
  | unreadableNumber (shown : String) : OfOperation (.unreadableNumber shown)
  | numberExpected (className : String) : OfOperation (.numberExpected className)
  | realExpected (className : String) : OfOperation (.realExpected className)
  | operandsRefused (symbol leftClass rightClass : String) :
      OfOperation (.operandsRefused symbol leftClass rightClass)
  | integerTooLarge : OfOperation .integerTooLarge

/-- The computation goes wrong in one of these ways, if it does. -/
def IsComputed {given : Type} (result : Except Fault given) : Prop :=
  ∀ fault, result = .error fault → fault.OfOperation

namespace IsComputed

variable {given answer : Type}

theorem ok (value : given) : IsComputed (.ok value) := by
  nofun

theorem error {fault : Fault} (ofOperation : fault.OfOperation) :
    IsComputed (.error fault : Except Fault given) := by
  rintro _ ⟨⟩
  exact ofOperation

theorem bind {first : Except Fault given} {next : given → Except Fault answer}
    (firstComputed : IsComputed first) (nextComputed : ∀ value, IsComputed (next value)) :
    IsComputed (first >>= next) := by
  cases first with
  | ok value => exact nextComputed value
  | error fault => exact error (firstComputed fault rfl)

theorem both {first second : Except Fault given} (firstComputed : IsComputed first)
    (secondComputed : IsComputed second) (make : given → given → answer) :
    IsComputed (do return make (← first) (← second)) :=
  firstComputed.bind fun _ => secondComputed.bind fun _ => ok _

end IsComputed

/-! ## Conversions -/

namespace Host

theorem isComputed_intToDouble (value : Int) : IsComputed (intToDouble value) := by
  rw [intToDouble]
  cases Double.ofInt? value with
  | none => exact IsComputed.error .integerTooLarge
  | some double => exact IsComputed.ok double

theorem isComputed_storedDouble {host : Host} (content : List UInt8)
    (shown : IsComputed host.shown) : IsComputed (host.storedDouble content) := by
  rw [storedDouble]
  split
  · exact IsComputed.ok _
  · exact shown.bind fun text => IsComputed.error (.unreadableNumber text)

theorem isComputed_toDouble (raw : Host) : IsComputed raw.toDouble := by
  cases raw with
  | float value => exact IsComputed.ok value
  | int value | bool value => exact isComputed_intToDouble _
  | text value =>
      rw [toDouble]
      split
      · exact IsComputed.ok _
      · exact IsComputed.error (.unreadableNumber _)
  | bytes resizable content =>
      exact isComputed_storedDouble content (by rw [shown]; exact IsComputed.ok _)
  | array elements =>
      exact isComputed_storedDouble _ (by rw [shown]; exact IsComputed.ok _)
  | _ => exact IsComputed.error (.numberExpected _)

theorem isComputed_wrapped (width : Nat) (raw : Host) : IsComputed (raw.wrapped width) := by
  cases raw with
  | int value | bool value => exact IsComputed.ok _
  | _ => exact IsComputed.error (.operandsRefused _ _ _)

theorem isComputed_truncated (low high : Int) (raw : Host) :
    IsComputed (raw.truncated low high) := by
  cases raw with
  | float value | bool value => exact IsComputed.ok _
  | int value => exact (isComputed_intToDouble value).bind fun _ => IsComputed.ok _
  | _ => exact IsComputed.error (.realExpected _)

end Host

namespace Value

variable (value left right : Value)

theorem isComputed_asDouble : IsComputed value.asDouble := by
  rw [asDouble]
  split
  · exact isComputed_toDouble value.raw
  · exact IsComputed.error (.castFailed _ _)

theorem isComputed_asFloat : IsComputed value.asFloat := by
  rw [asFloat]
  split
  · exact (isComputed_toDouble value.raw).bind fun _ => IsComputed.ok _
  · exact IsComputed.error (.castFailed _ _)

theorem isComputed_narrowed (width : Nat) (target : String) :
    IsComputed (value.narrowed width target) := by
  rw [narrowed]
  split
  · exact isComputed_wrapped width value.raw
  · exact isComputed_wrapped width value.raw
  · exact isComputed_truncated _ _ value.raw
  · exact isComputed_truncated _ _ value.raw
  · exact IsComputed.error (.castFailed _ _)

/-! ## Operations -/

theorem isComputed_widen (operator : Operator) :
    IsComputed (widen operator.noun left right) := by
  rw [widen]
  split
  · exact IsComputed.ok _
  · exact IsComputed.error (.operandsNotNumeric operator)

theorem isComputed_combine (operator : Operator) (onDoubles : Double → Double → Double)
    (onInts : Int → Int → Int) :
    IsComputed (combine operator.noun onDoubles onInts left right) := by
  refine (isComputed_widen left right operator).bind fun kind => ?_
  cases kind with
  | double => exact (isComputed_asDouble left).both (isComputed_asDouble right) _
  | float => exact (isComputed_asFloat left).both (isComputed_asFloat right) _
  | long => exact (isComputed_narrowed left _ _).both (isComputed_narrowed right _ _) _
  | integer => exact (isComputed_narrowed left _ _).both (isComputed_narrowed right _ _) _

theorem isComputed_divide : IsComputed (left.divide right) :=
  (isComputed_widen left right .dividedBy).bind fun _ =>
    (isComputed_asDouble left).both (isComputed_asDouble right) _

end Value

theorem Fault.OfOperation.ofFault_eq {fault : Fault} (ofOperation : fault.OfOperation) :
    EvalError.ofFault fault = .internal fault := by
  cases ofOperation <;> rfl

namespace Operator

theorem isComputed_onValues (operator : Operator) (left right : Value) :
    IsComputed (operator.onValues left right) := by
  cases operator with
  | plus => exact Value.isComputed_combine left right .plus _ _
  | minus => exact Value.isComputed_combine left right .minus _ _
  | times => exact Value.isComputed_combine left right .times _ _
  | dividedBy => exact Value.isComputed_divide left right

/-- An operator is refused for its operands or its divisor, or goes wrong as operations do. -/
theorem error_of_apply {operator : Operator} {left right : Value} {error : EvalError}
    (failed : operator.apply left right = .error error) :
    error.kind = .type ∨ error.kind = .arithmetic ∨
      ∃ fault : Fault, fault.OfOperation ∧ error = .internal fault := by
  cases failsWith_of_apply failed with
  | operands noNumbers => exact Or.inl rfl
  | zeroDivisor => exact Or.inr (Or.inl rfl)
  | divisor unconverted =>
      have ofOperation := Value.isComputed_asDouble right _ unconverted
      exact Or.inr (Or.inr ⟨_, ofOperation, ofOperation.ofFault_eq⟩)
  | operation stopped =>
      have ofOperation := operator.isComputed_onValues left right _ stopped
      exact Or.inr (Or.inr ⟨_, ofOperation, ofOperation.ofFault_eq⟩)

/-- The syntax of an expression is no matter of operations on values. -/
theorem kind_ne_malformed_of_apply {operator : Operator} {left right : Value} {error : EvalError}
    (failed : operator.apply left right = .error error) : error.kind ≠ .malformed := by
  rcases error_of_apply failed with isType | isArithmetic | ⟨fault, _, rfl⟩
  · simp [isType]
  · simp [isArithmetic]
  · simp [EvalError.kind]

end Operator

end CalcShell

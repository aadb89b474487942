import CalcShell.Outcome
import CalcShell.Proofs.Number.Wrap

/-!
# Operations on integers

Sums, differences and products of integers are integers again, at the wider of the two
widths, and depend on the residues of their operands only: they are the exact results,
wrapped.
-/

namespace CalcShell

open Number

namespace Operator

/-- The operation on exact integers.  There is none for quotients, which are doubles. -/
def onIntegers? : Operator → Option (Int → Int → Int)
  | .plus => some (· + ·)
  | .minus => some (· - ·)
  | .times => some (· * ·)
  | .dividedBy => none

variable {operator : Operator} {exact : Int → Int → Int}

/-- An operation on integers depends on residues only. -/
theorem exact_modEq (known : operator.onIntegers? = some exact)
    {modulus first second firstOther secondOther : Int}
    (firstCongruent : first ≡ firstOther [ZMOD modulus])
    (secondCongruent : second ≡ secondOther [ZMOD modulus]) :
    exact first second ≡ exact firstOther secondOther [ZMOD modulus] := by
  cases operator with
  | plus =>
      obtain rfl := Option.some.inj known
      exact firstCongruent.add secondCongruent
  | minus =>
      obtain rfl := Option.some.inj known
      exact firstCongruent.sub secondCongruent
  | times =>
      obtain rfl := Option.some.inj known
      exact firstCongruent.mul secondCongruent
  | dividedBy => cases known

end Operator

/-- The two kinds of number that are integers. -/
inductive IntegerKind where
  | integer
  | long
  deriving DecidableEq, Repr

namespace IntegerKind

def numericKind : IntegerKind → NumericKind
  | .integer => .integer
  | .long => .long

def tag (kind : IntegerKind) : Tag :=
  kind.numericKind.tag

def width : IntegerKind → Nat
  | .integer => integerWidth
  | .long => longWidth

/-- The long kind if one of the two is that, and the other one if not. -/
def wider : IntegerKind → IntegerKind → IntegerKind
  | .integer, .integer => .integer
  | _, _ => .long

/-- The value of a kind that has the residue of a number. -/
def value (kind : IntegerKind) (number : Int) : Value :=
  ⟨.int (wrap kind.width number), kind.tag, none⟩

variable {kind : IntegerKind} {left right : Int}

theorem width_pos (kind : IntegerKind) : 0 < kind.width := by
  cases kind <;> decide

theorem wider_self (kind : IntegerKind) : kind.wider kind = kind := by
  cases kind <;> rfl

theorem wider_comm (left right : IntegerKind) : left.wider right = right.wider left := by
  cases left <;> cases right <;> rfl

theorem numericKind_wider (left right : IntegerKind) :
    left.numericKind.wider right.numericKind = (left.wider right).numericKind := by
  cases left <;> cases right <;> rfl

theorem numericKind?_tag (kind : IntegerKind) :
    kind.tag.numericKind? = some kind.numericKind := by
  cases kind <;> rfl

theorem value_congr (congruent : left ≡ right [ZMOD 2 ^ kind.width]) :
    kind.value left = kind.value right := by
  rw [value, value, wrap_congr congruent]

end IntegerKind

theorem Host.wrapped_of_integral? {raw : Host} {number : Int}
    (isNumber : raw.integral? = some number) (width : Nat) :
    raw.wrapped width = .ok (wrap width number) := by
  cases raw with
  | int stored | bool stored =>
      obtain rfl := Option.some.inj isNumber
      rfl
  | _ => cases isNumber

namespace Value

/-- The value is tagged as an integer of a kind and stores the number, be it in range or not. -/
structure Holds (value : Value) (kind : IntegerKind) (number : Int) : Prop where
  tag : value.tag = kind.tag
  raw : value.raw.integral? = some number

variable {kind leftKind rightKind : IntegerKind} {value left right : Value}
  {number leftNumber rightNumber : Int} {operator : Operator} {exact : Int → Int → Int}

theorem Holds.numericKind?_eq (holds : value.Holds kind number) :
    value.numericKind? = some kind.numericKind := by
  rw [numericKind?, holds.tag, kind.numericKind?_tag]

theorem Holds.isNumeric (holds : value.Holds kind number) : value.isNumeric = true := by
  rw [Value.isNumeric, holds.numericKind?_eq]
  rfl

theorem Holds.narrowed_eq (holds : value.Holds kind number) (width : Nat) (target : String) :
    value.narrowed width target = .ok (wrap width number) := by
  rw [narrowed, holds.numericKind?_eq, Host.wrapped_of_integral? holds.raw]
  cases kind <;> rfl

/-- An operation that stays in its kind is carried out on the residues at the wider width. -/
theorem combine_of_holds (noun : String) (onDoubles : Double → Double → Double)
    (onInts : Int → Int → Int) (leftHolds : left.Holds leftKind leftNumber)
    (rightHolds : right.Holds rightKind rightNumber) :
    let kind := leftKind.wider rightKind
    combine noun onDoubles onInts left right =
      .ok (kind.value (onInts (wrap kind.width leftNumber) (wrap kind.width rightNumber))) := by
  intro kind
  have widened : widen noun left right = .ok kind.numericKind := by
    rw [widen, leftHolds.numericKind?_eq, rightHolds.numericKind?_eq]
    exact congrArg _ (leftKind.numericKind_wider rightKind)
  rw [combine, widened]
  cases kind with
  | integer =>
      show (do return Value.integer (onInts (← left.asInt) (← right.asInt))) = _
      rw [asInt, asInt, leftHolds.narrowed_eq, rightHolds.narrowed_eq]
      rfl
  | long =>
      show (do return Value.long (onInts (← left.asLong) (← right.asLong))) = _
      rw [asLong, asLong, leftHolds.narrowed_eq, rightHolds.narrowed_eq]
      rfl

theorem onValues_of_holds (known : operator.onIntegers? = some exact)
    (leftHolds : left.Holds leftKind leftNumber)
    (rightHolds : right.Holds rightKind rightNumber) :
    operator.onValues left right =
      .ok ((leftKind.wider rightKind).value (exact leftNumber rightNumber)) := by
  have residues (width : Nat) :
      exact (wrap width leftNumber) (wrap width rightNumber) ≡ exact leftNumber rightNumber
        [ZMOD 2 ^ width] :=
    Operator.exact_modEq known (wrap_modEq width leftNumber) (wrap_modEq width rightNumber)
  rw [← IntegerKind.value_congr (residues _)]
  cases operator with
  | plus | minus | times =>
      obtain rfl := Option.some.inj known
      exact combine_of_holds _ _ _ leftHolds rightHolds
  | dividedBy => cases known

/-- The value is an integer and stores the number. -/
structure Stores (value : Value) (number : Int) : Prop where
  tag : value.tag = .integer
  raw : value.raw = .int number

theorem stores_integer (number : Int) :
    (integer number).Stores (wrap integerWidth number) :=
  ⟨rfl, rfl⟩

theorem Stores.holds (stores : value.Stores number) : value.Holds .integer number :=
  ⟨stores.tag, by rw [stores.raw]; rfl⟩

end Value

/-- What an operator makes of integers that have been wrapped is what it makes of the exact
ones, wrapped. -/
theorem Operator.apply_of_stores {operator : Operator} {exact : Int → Int → Int}
    {left right : Value} {leftNumber rightNumber : Int}
    (known : operator.onIntegers? = some exact)
    (leftStores : left.Stores (wrap integerWidth leftNumber))
    (rightStores : right.Stores (wrap integerWidth rightNumber)) :
    ∃ value, operator.apply left right = .ok value ∧
      value.Stores (wrap integerWidth (exact leftNumber rightNumber)) := by
  have leftHolds := leftStores.holds
  have rightHolds := rightStores.holds
  have computed := Value.onValues_of_holds known leftHolds rightHolds
  have residues : exact (wrap integerWidth leftNumber) (wrap integerWidth rightNumber) ≡
      exact leftNumber rightNumber [ZMOD 2 ^ IntegerKind.integer.width] :=
    Operator.exact_modEq known (wrap_modEq _ leftNumber) (wrap_modEq _ rightNumber)
  have noDivision : operator ≠ .dividedBy := by
    rintro rfl
    cases known
  refine ⟨Value.integer (exact leftNumber rightNumber), ?_, Value.stores_integer _⟩
  rw [apply, leftHolds.isNumeric, rightHolds.isNumeric, if_neg (by simp), if_neg noDivision,
    computed, IntegerKind.wider_self, IntegerKind.value_congr residues]
  rfl

end CalcShell

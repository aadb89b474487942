import CalcShell.Proofs.Value.Integer

/-!
# Integers modulo a power of two

Integers and long integers are residues modulo a power of two: an operation gives the
representative in range of the exact result, at the wider of the two widths, whatever numbers
are stored.  Sums and products therefore obey the laws of a commutative ring, also where
something on the way does not fit.
-/

namespace CalcShell

open Number

namespace Value

variable {kind : IntegerKind} {value left right : Value}
  {number leftNumber rightNumber : Int} {exact : Int → Int → Int}

/-- The value is tagged as an integer of a kind and has the residue of a number. -/
structure Represents (value : Value) (kind : IntegerKind) (number : Int) : Prop where
  tag : value.tag = kind.tag
  residue : ∃ stored, value.raw.integral? = some stored ∧ stored ≡ number [ZMOD 2 ^ kind.width]

theorem Holds.represents (holds : value.Holds kind number) : value.Represents kind number :=
  ⟨holds.tag, number, holds.raw, Int.ModEq.refl number⟩

theorem represents_value (kind : IntegerKind) (number : Int) :
    (kind.value number).Represents kind number :=
  ⟨rfl, _, rfl, wrap_modEq kind.width number⟩

/-- Within one kind only the residues of the operands matter. -/
theorem onValues_of_represents (operator : Operator)
    (known : operator.onIntegers? = some exact)
    (leftRepresents : left.Represents kind leftNumber)
    (rightRepresents : right.Represents kind rightNumber) :
    operator.onValues left right = .ok (kind.value (exact leftNumber rightNumber)) := by
  obtain ⟨leftTag, leftStored, leftRaw, leftCongruent⟩ := leftRepresents
  obtain ⟨rightTag, rightStored, rightRaw, rightCongruent⟩ := rightRepresents
  rw [onValues_of_holds known ⟨leftTag, leftRaw⟩ ⟨rightTag, rightRaw⟩, kind.wider_self]
  exact congrArg _
    (IntegerKind.value_congr (Operator.exact_modEq known leftCongruent rightCongruent))

section OneKind

variable {first second third : Value} {firstNumber secondNumber thirdNumber : Int}
  (firstIs : first.Represents kind firstNumber) (secondIs : second.Represents kind secondNumber)
  (thirdIs : third.Represents kind thirdNumber)

include firstIs secondIs

theorem add_eq : first.add second = .ok (kind.value (firstNumber + secondNumber)) :=
  onValues_of_represents .plus rfl firstIs secondIs

theorem multiply_eq : first.multiply second = .ok (kind.value (firstNumber * secondNumber)) :=
  onValues_of_represents .times rfl firstIs secondIs

include thirdIs

theorem add_assoc :
    (do (← first.add second).add third) = (do first.add (← second.add third)) := by
  have inFront := add_eq (represents_value kind (firstNumber + secondNumber)) thirdIs
  have behind := add_eq firstIs (represents_value kind (secondNumber + thirdNumber))
  rw [add_eq firstIs secondIs, add_eq secondIs thirdIs]
  show (kind.value _).add third = first.add (kind.value _)
  rw [inFront, behind, Int.add_assoc]

theorem multiply_assoc :
    (do (← first.multiply second).multiply third) =
      (do first.multiply (← second.multiply third)) := by
  have inFront := multiply_eq (represents_value kind (firstNumber * secondNumber)) thirdIs
  have behind := multiply_eq firstIs (represents_value kind (secondNumber * thirdNumber))
  rw [multiply_eq firstIs secondIs, multiply_eq secondIs thirdIs]
  show (kind.value _).multiply third = first.multiply (kind.value _)
  rw [inFront, behind, Int.mul_assoc]

theorem multiply_add :
    (do first.multiply (← second.add third)) =
      (do (← first.multiply second).add (← first.multiply third)) := by
  have whole := multiply_eq firstIs (represents_value kind (secondNumber + thirdNumber))
  have parts := add_eq (represents_value kind (firstNumber * secondNumber))
    (represents_value kind (firstNumber * thirdNumber))
  rw [add_eq secondIs thirdIs, multiply_eq firstIs secondIs, multiply_eq firstIs thirdIs]
  show first.multiply (kind.value _) = (kind.value _).add (kind.value _)
  rw [whole, parts, Int.mul_add]

end OneKind

end Value

/-- Sums, differences and products of integers are computed modulo the power of two of the wider
kind, and given in range.  Hence sums and products are commutative, and within one kind they are
associative, and products distribute over sums. -/
theorem integer_arithmetic_modular :
    (∀ (operator : Operator) (exact : Int → Int → Int) (left right : Value)
        (leftKind rightKind : IntegerKind) (leftNumber rightNumber : Int),
      operator.onIntegers? = some exact → left.Holds leftKind leftNumber →
      right.Holds rightKind rightNumber →
      ∃ number, operator.onValues left right =
          .ok ⟨.int number, (leftKind.wider rightKind).tag, none⟩ ∧
        InRange (leftKind.wider rightKind).width number ∧
        number ≡ exact leftNumber rightNumber [ZMOD 2 ^ (leftKind.wider rightKind).width]) ∧
    (∀ (left right : Value) (leftKind rightKind : IntegerKind) (leftNumber rightNumber : Int),
      left.Holds leftKind leftNumber → right.Holds rightKind rightNumber →
      left.add right = right.add left ∧ left.multiply right = right.multiply left) ∧
    ∀ (kind : IntegerKind) (first second third : Value)
        (firstNumber secondNumber thirdNumber : Int),
      first.Holds kind firstNumber → second.Holds kind secondNumber →
      third.Holds kind thirdNumber →
      (do (← first.add second).add third) = (do first.add (← second.add third)) ∧
      (do (← first.multiply second).multiply third) =
        (do first.multiply (← second.multiply third)) ∧
      (do first.multiply (← second.add third)) =
        (do (← first.multiply second).add (← first.multiply third)) := by
  refine ⟨?_, ?_, ?_⟩
  · intro operator exact left right leftKind rightKind leftNumber rightNumber known leftHolds
      rightHolds
    refine ⟨_, Value.onValues_of_holds known leftHolds rightHolds, ?_, ?_⟩
    · exact inRange_wrap (IntegerKind.width_pos _) _
    · exact wrap_modEq _ _
  · intro left right leftKind rightKind leftNumber rightNumber leftHolds rightHolds
    have swapped (operator : Operator) {exact : Int → Int → Int}
        (known : operator.onIntegers? = some exact)
        (commutes : exact leftNumber rightNumber = exact rightNumber leftNumber) :
        operator.onValues left right = operator.onValues right left := by
      rw [Value.onValues_of_holds known leftHolds rightHolds,
        Value.onValues_of_holds known rightHolds leftHolds, leftKind.wider_comm, commutes]
    exact ⟨swapped .plus rfl (Int.add_comm _ _),
      swapped .times rfl (Int.mul_comm _ _)⟩
  · intro kind first second third firstNumber secondNumber thirdNumber firstHolds secondHolds
      thirdHolds
    have firstIs := firstHolds.represents
    have secondIs := secondHolds.represents
    have thirdIs := thirdHolds.represents
    exact ⟨Value.add_assoc firstIs secondIs thirdIs, Value.multiply_assoc firstIs secondIs thirdIs,
      Value.multiply_add firstIs secondIs thirdIs⟩

/-- An integer far out of its range times the greatest long integer, and a sum that leaves the range
on the way. -/
theorem integer_arithmetic_modular_of_overflow :
    let stray : Value := ⟨.int 1099511627781, .integer, none⟩
    let greatestLong : Value := ⟨.int 9223372036854775807, .long, none⟩
    let greatestInt : Value := ⟨.int 2147483647, .integer, none⟩
    (stray.Holds .integer 1099511627781 ∧ greatestLong.Holds .long 9223372036854775807 ∧
      ∃ number, stray.multiply greatestLong = .ok ⟨.int number, .long, none⟩ ∧
        InRange longWidth number ∧
        number ≡ 1099511627781 * 9223372036854775807 [ZMOD 2 ^ longWidth]) ∧
    stray.add greatestLong = greatestLong.add stray ∧
    (greatestInt.Holds .integer 2147483647 ∧
      (do (← greatestInt.add greatestInt).add stray) =
        (do greatestInt.add (← greatestInt.add stray))) := by
  intro stray greatestLong greatestInt
  have strayHolds : stray.Holds .integer 1099511627781 := ⟨rfl, rfl⟩
  have longHolds : greatestLong.Holds .long 9223372036854775807 := ⟨rfl, rfl⟩
  have intHolds : greatestInt.Holds .integer 2147483647 := ⟨rfl, rfl⟩
  obtain ⟨computed, commutes, laws⟩ := integer_arithmetic_modular
  exact ⟨⟨strayHolds, longHolds,
      computed .times _ stray greatestLong _ _ _ _ rfl strayHolds longHolds⟩,
    (commutes _ _ _ _ _ _ strayHolds longHolds).1, intHolds,
    (laws _ _ _ _ _ _ _ intHolds intHolds strayHolds).1⟩

end CalcShell

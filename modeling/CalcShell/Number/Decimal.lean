import CalcShell.Number.Arithmetic

/-!
# Decimal values of doubles

A decimal value is a whole number of digits times a power of ten.  It is read as
the nearest double.  In the other direction a double has a nearest decimal value
for each number of significant digits, and a shortest one: of the decimal values
that are read as that double it has the fewest digits, and of those with equally
many it is the nearest.
-/

namespace CalcShell.Number

def digitsOf (value : Nat) : List Char :=
  Nat.toDigits 10 value

/-- The value `digits · 10 ^ exponent`. -/
structure Decimal where
  digits : Nat
  exponent : Int
  deriving DecidableEq, Repr

namespace Decimal

/-- The exponent of ten of the first digit. -/
def leading (decimal : Decimal) : Int :=
  (digitsOf decimal.digits).length - 1 + decimal.exponent

/-- The first digit of every finite double that is not zero stands at an exponent of ten
below this one. -/
def leadingCeiling : Int := 309

/-- A decimal value whose first digit stands below this exponent of ten is less than half
of the least positive double. -/
def leadingFloor : Int := -330

/-- The double nearest to a decimal value with a sign. -/
def toDouble (negative : Bool) (decimal : Decimal) : Double :=
  if decimal.digits = 0 ∨ decimal.leading < leadingFloor then Double.zero negative
  else if leadingCeiling ≤ decimal.leading then .infinite negative
  else
    Double.rounded negative
      (decimal.digits * unitsPerOne * 10 ^ decimal.exponent.toNat)
      (10 ^ (-decimal.exponent).toNat)

end Decimal

/-- Every positive number of units is at least `10 ^ -unitPlaces`. -/
def unitPlaces : Nat := 324

/-- The exponent of ten of the first digit of a positive number of units. -/
def leadingOfUnits (units : Nat) : Int :=
  (digitsOf (units * 10 ^ unitPlaces / unitsPerOne)).length - 1 - unitPlaces

/-- A number of units seen on the grid of the decimal values with a number of significant
digits: it is `numerator / denominator` steps of `10 ^ exponent`. -/
structure DecimalGrid where
  numerator : Nat
  denominator : Nat
  exponent : Int

namespace DecimalGrid

/-- The grid for a number of units and a number of significant digits. -/
def ofUnits (units count : Nat) : DecimalGrid :=
  let exponent := leadingOfUnits units - count + 1
  ⟨units * 10 ^ (-exponent).toNat, unitsPerOne * 10 ^ exponent.toNat, exponent⟩

/-- The nearest point of the grid; of two equally near ones the one with an even last
digit. -/
def nearest (grid : DecimalGrid) : Decimal :=
  ⟨roundQuotient grid.numerator grid.denominator, grid.exponent⟩

/-- The other point of the grid beside the value. -/
def second (grid : DecimalGrid) : Decimal :=
  let below := grid.numerator / grid.denominator
  ⟨if grid.nearest.digits = below then below + 1 else below, grid.exponent⟩

end DecimalGrid

/-- The decimal value with a number of significant digits that is nearest to a number of
units. -/
def decimalOfUnits (units count : Nat) : Decimal :=
  (DecimalGrid.ofUnits units count).nearest

/-- With this many significant digits every double is told apart. -/
def enoughDigits : Nat := 17

/-- The shortest decimal value that is read as a positive number of units. -/
def shortestDecimal (units : Nat) : Decimal :=
  let readsBack (decimal : Decimal) : Bool :=
    (decimal.toDouble false).quantity? == some (.finite units)
  let candidate (count : Nat) : Option Decimal :=
    let grid := DecimalGrid.ofUnits units (count + 1)
    if readsBack grid.nearest then some grid.nearest
    else if readsBack grid.second then some grid.second
    else none
  ((List.range enoughDigits).findSome? candidate).getD (decimalOfUnits units enoughDigits)

end CalcShell.Number

import CalcShell.Number.Double

/-!
# Arithmetic on doubles

Sum, product and quotient are the exact results rounded to double precision, with
the usual rules for infinities and signed zeros.  Rounding to single precision
and truncation to an integer range are here as well.
-/

namespace CalcShell.Number

namespace Double

/-- The finite value with the given sign and exact magnitude, rounded to double precision. -/
def rounded (negative : Bool) (numerator denominator : Nat) : Double :=
  nearest .double negative numerator denominator

def neg : Double → Double
  | .nan => .nan
  | .infinite negative => .infinite !negative
  | .finite negative units held => .finite (!negative) units held

/-- The sum.  An exact sum of zero is negative only where both terms are. -/
def add : Double → Double → Double
  | .nan, _ => .nan
  | _, .nan => .nan
  | .infinite left, .infinite right => if left = right then .infinite left else .nan
  | .infinite left, .finite .. => .infinite left
  | .finite .., .infinite right => .infinite right
  | .finite left leftUnits _, .finite right rightUnits _ =>
    let sum := signedUnits left leftUnits + signedUnits right rightUnits
    if sum = 0 then zero (left && right) else rounded (sum < 0) sum.natAbs 1

def sub (left right : Double) : Double :=
  left.add right.neg

def mul : Double → Double → Double
  | .nan, _ => .nan
  | _, .nan => .nan
  | .infinite left, .infinite right => .infinite (left != right)
  | .infinite left, .finite right units _ =>
    if units = 0 then .nan else .infinite (left != right)
  | .finite left units _, .infinite right =>
    if units = 0 then .nan else .infinite (left != right)
  | .finite left leftUnits _, .finite right rightUnits _ =>
    rounded (left != right) (leftUnits * rightUnits) unitsPerOne

/-- The quotient.  A zero divisor gives an infinity with the sign of the quotient, or no
number where the dividend is zero as well. -/
def div : Double → Double → Double
  | .nan, _ => .nan
  | _, .nan => .nan
  | .infinite _, .infinite _ => .nan
  | .infinite left, .finite right _ _ => .infinite (left != right)
  | .finite left _ _, .infinite right => zero (left != right)
  | .finite left leftUnits _, .finite right rightUnits _ =>
    if rightUnits = 0 then
      if leftUnits = 0 then .nan else .infinite (left != right)
    else
      rounded (left != right) (leftUnits * unitsPerOne) rightUnits

def toSingle : Double → Double
  | .nan => .nan
  | .infinite negative => .infinite negative
  | .finite negative units _ => nearest .single negative units 1

theorem heldBy_toSingle (value : Double) : value.toSingle.HeldBy .single := by
  cases value with
  | nan => exact .nan
  | infinite negative => exact .infinite negative
  | finite negative units _ => exact heldBy_nearest .single negative units 1

def unlessInfinite : Double → Option Double
  | .infinite _ => none
  | double => some double

/-- The double nearest to an integer, unless the integer is beyond all doubles. -/
def ofInt? (value : Int) : Option Double :=
  (rounded (value < 0) (value.natAbs * unitsPerOne) 1).unlessInfinite

def isZero (double : Double) : Bool :=
  double.quantity? == some (.finite 0)

/-- Equality as numbers: the zeros are equal, and what is no number equals nothing. -/
def equals (left right : Double) : Bool :=
  match left.quantity?, right.quantity? with
  | some leftQuantity, some rightQuantity => leftQuantity == rightQuantity
  | _, _ => false

/-- The integer between two bounds that a number is cut down to: toward zero, then into
the bounds, and zero for what is no number. -/
def truncate (low high : Int) : Double → Int
  | .nan => 0
  | .infinite negative => if negative then low else high
  | .finite negative units _ =>
    let signed := signedUnits negative units
    if high * unitsPerOne ≤ signed then high
    else if signed ≤ low * unitsPerOne then low
    else signed.tdiv unitsPerOne

end Double

/-- The number of single precision that a double is rounded to. -/
def Single.ofDouble (value : Double) : Single :=
  ⟨value.toSingle, value.heldBy_toSingle⟩

end CalcShell.Number

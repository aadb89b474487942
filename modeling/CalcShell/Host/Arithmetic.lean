import CalcShell.Host.Convert

/-!
# Arithmetic on host values

Numbers of the host can be wrapped to a width, cut down between bounds, rounded to
single precision and divided by one another.  A truth value counts as an integer
here.  Whatever is no number is refused, even a text that spells one.
-/

namespace CalcShell

open Number

/-- Integers with more bits than this cannot be represented. -/
def bitLimit : Nat := 69175290276410818320

namespace Host

/-- An integer, a truth value or a double. -/
def isNumber : Host → Bool
  | .int _ | .bool _ | .float _ => true
  | _ => false

def real : Host → Except Fault Double
  | .float value => .ok value
  | .int value => intToDouble value
  | .bool value => intToDouble (boolInt value)
  | other => .error (.realExpected other.qualifiedClassName)

/-- Zero, of whatever class and sign. -/
def isZero (host : Host) : Bool :=
  host.quantity? == some (.finite 0)

/-- The integer of a width that agrees with a stored integer on the low bits. -/
def wrapped (width : Nat) : Host → Except Fault Int
  | .int value => .ok (wrap width value)
  | .bool value => .ok (wrap width (boolInt value))
  | other => .error (.operandsRefused "&=" other.qualifiedClassName HostClass.int.label)

/-- `wrapped` for a width that the host hands in, where there is memory for integers of the
given number of bits.  The width is looked at first; a width of zero is found out last. -/
def wrappedTo (memory : Nat) (raw width : Host) : Except Fault Int :=
  match width.integral? with
  | none => .error (.operandsRefused "<<" HostClass.int.label width.qualifiedClassName)
  | some width => do
    if width < 0 then .error .negativeShift
    if bitLimit < width then .error .integerTooWide
    if memory < width then .error .memoryExceeded
    let value ← raw.wrapped width.toNat
    if width = 0 then .error .negativeShift
    return value

/-- An integer moved into a range. -/
def clampInt (low high value : Int) : Int :=
  if high ≤ value then high else if value ≤ low then low else value

/-- The integer in a range that a stored number is cut down to. -/
def truncated (low high : Int) : Host → Except Fault Int
  | .float value => .ok (value.truncate low high)
  | .int value => do
    let _ ← intToDouble value
    return clampInt low high value
  | .bool value => .ok (clampInt low high (boolInt value))
  | other => .error (.realExpected other.qualifiedClassName)

/-- Whether two numbers compare in a certain way; what is no number in the strict sense
compares with none in any.  The symbol stands for the comparison where it is refused. -/
def compares (symbol : String) (holds : Quantity → Quantity → Bool) (left right : Host) :
    Except Fault Bool :=
  if left.isNumber && right.isNumber then
    match left.quantity?, right.quantity? with
    | some leftQuantity, some rightQuantity => .ok (holds leftQuantity rightQuantity)
    | _, _ => .ok false
  else .error (.notComparable symbol left.qualifiedClassName right.qualifiedClassName)

/-- The integer that is left of a number without its fraction. -/
def integerPart : Host → Except Fault Int
  | .float (.finite negative units _) => .ok ((signedUnits negative units).tdiv unitsPerOne)
  | .float (.infinite _) => .error .infinityNotInteger
  | other => .ok (other.integral?.getD 0)

/-- A number cut down to an integer between bounds that the host hands in.  A bound that is
reached is given back as it came, the upper one being tried first. -/
def cutDown (low high value : Host) : Except Fault Host := do
  match ← value.real with
  | .nan => return .int 0
  | _ =>
    if ← compares ">=" (fun left right => right.atMost left) value high then return high
    if ← compares "<=" Quantity.atMost value low then return low
    return .int (← value.integerPart)

/-- The number of single precision that a number is packed as. -/
def toSingle (host : Host) : Except Fault Double :=
  match host.double? with
  | some value => .ok value.toSingle
  | none => .error .singleExpected

/-- The quotient of two integers, rounded once. -/
def integerQuotient (dividend divisor : Int) : Except Fault Double :=
  let negative := decide (dividend < 0) != decide (divisor < 0)
  match Double.rounded negative (dividend.natAbs * unitsPerOne) divisor.natAbs with
  | .infinite _ => .error .quotientTooLarge
  | quotient => .ok quotient

/-- The quotient by a zero: an infinity, or no number where the dividend is none either or
is zero as well. -/
def dividedByZero (dividend zero : Host) : Except Fault Double := do
  if dividend.isZero then return .nan
  match ← dividend.real with
  | .nan => return .nan
  | value => return .infinite (value.isNegative != (← zero.real).isNegative)

/-- The quotient of two numbers.  That of two integers is rounded only once. -/
def divide (dividend divisor : Host) : Except Fault Double :=
  if divisor.isZero then dividedByZero dividend divisor
  else
    match dividend.integral?, divisor.integral? with
    | some left, some right => integerQuotient left right
    | _, _ =>
      if dividend.isNumber && divisor.isNumber then
        return (← dividend.real).div (← divisor.real)
      else
        .error (.operandsRefused "/" dividend.qualifiedClassName divisor.qualifiedClassName)

end Host

end CalcShell

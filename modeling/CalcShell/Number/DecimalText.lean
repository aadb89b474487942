import CalcShell.Number.Decimal

/-!
# The text of a double

A double is written with the fewest digits that are read back as the same double;
a number of single precision with six to nine digits, as few as suffice to read
it back in single precision.  Both are written by one layout: positional from
`0.0001` on up to a limit that depends on the precision, always with a point,
and with an exponent otherwise.
-/

namespace CalcShell.Number

def intText (value : Int) : String :=
  toString value

/-- An exponent of ten with its sign and at least two digits. -/
def exponentText (exponent : Int) : List Char :=
  let digits := digitsOf exponent.natAbs
  let sign := if exponent < 0 then '-' else '+'
  'e' :: sign :: (if digits.length < 2 then '0' :: digits else digits)

/-- The exponent of ten of the first digit from which on numbers are written positionally. -/
def positionalFrom : Int := -4

/-- Digits, the first of which is not zero, without the zeros at their end. -/
def withoutTrailingZeros (digits : List Char) : List Char :=
  (digits.reverse.dropWhile (· == '0')).reverse

/-- Digits with a point, the first of them at the given exponent of ten. -/
def positionalText (digits : List Char) (leading : Int) : List Char :=
  if leading < 0 then
    '0' :: '.' :: List.replicate (-leading - 1).toNat '0' ++ digits
  else
    let places := leading.toNat + 1
    let whole := digits.take places ++ List.replicate (places - digits.length) '0'
    let fraction := digits.drop places
    whole ++ '.' :: (if fraction = [] then ['0'] else fraction)

/-- Digits with an exponent: a point follows the first digit if more digits do. -/
def scientificText (digits : List Char) (leading : Int) : List Char :=
  match digits with
  | [] => []
  | first :: rest =>
    first :: (if rest = [] then [] else '.' :: rest) ++ exponentText leading

/-- A positive decimal value, positionally if its first digit stands below the given
exponent of ten and not too far behind the point. -/
def decimalText (positionalBelow : Int) (decimal : Decimal) : List Char :=
  let digits := withoutTrailingZeros (digitsOf decimal.digits)
  if positionalFrom ≤ decimal.leading ∧ decimal.leading < positionalBelow then
    positionalText digits decimal.leading
  else
    scientificText digits decimal.leading

/-- The text of a finite value: its sign and the text of its magnitude, for which a way of
writing positive numbers of units is given. -/
def signedText (negative : Bool) (units : Nat) (write : Nat → List Char) : List Char :=
  let magnitude := if units = 0 then ['0', '.', '0'] else write units
  if negative then '-' :: magnitude else magnitude

def infiniteText (negative : Bool) : List Char :=
  (if negative then ['-'] else []) ++ ['i', 'n', 'f']

/-- Numbers with their first digit at this exponent of ten or beyond are written with an
exponent. -/
def doublePositionalBelow : Int := 16

def doubleText : Double → List Char
  | .nan => ['n', 'a', 'n']
  | .infinite negative => infiniteText negative
  | .finite negative units _ =>
    signedText negative units fun units =>
      decimalText doublePositionalBelow (shortestDecimal units)

/-- The digit counts that are tried for a number of single precision, in this order. -/
def singleDigitCounts : List Nat := [6, 7, 8, 9]

/-- A value with a limited number of significant digits, the zeros at their end left
out. -/
def roundedText (count : Nat) (units : Nat) : List Char :=
  decimalText count (decimalOfUnits units count)

/-- The double that `roundedText` is read as, once it has been given its sign. -/
def roundedDouble (negative : Bool) (count : Nat) (units : Nat) : Double :=
  if units = 0 then Double.zero negative
  else (decimalOfUnits units count).toDouble negative

/-- The first of the texts with six to nine digits that single precision reads as a
number for which `isSame` holds. -/
def singleText? (isSame : Double → Bool) : Double → Option (List Char)
  | .finite negative units _ =>
    let count? := singleDigitCounts.find? fun count =>
      isSame (roundedDouble negative count units).toSingle
    count?.map fun count => signedText negative units (roundedText count)
  | _ => none

/-- The text of a number of single precision; a double that is none is written as a
double. -/
def singleText (double : Double) : List Char :=
  (singleText? double.equals double).getD (doubleText double)

end CalcShell.Number

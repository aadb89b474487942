import CalcShell.Number.Decimal

/-!
# Numerals

A numeral is an optional sign, digits with or without a point among them, and an
optional exponent.  `Numeral.scan` splits the longest numeral off the front of a
text; which of them are literals or readable numbers is decided elsewhere.  Only
the ASCII digits count here.
-/

namespace CalcShell.Number

/-- A numeral: its sign, its digits before the point, those behind it if it has one, and
the power of ten by which it is scaled. -/
structure Numeral where
  negative : Bool
  whole : List Char
  fraction? : Option (List Char)
  exponent : Int
  deriving DecidableEq, Repr

def digitsValue (digits : List Char) : Nat :=
  Nat.ofDigitChars 10 digits 0

def signedInt (negative : Bool) (magnitude : Nat) : Int :=
  if negative then -magnitude else magnitude

/-- Splits an optional sign off a text, and says whether it is a minus sign. -/
def takeSign : List Char → Bool × List Char
  | '+' :: rest => (false, rest)
  | '-' :: rest => (true, rest)
  | text => (false, text)

/-- Splits the longest row of digits off a text. -/
def takeDigits (text : List Char) : List Char × List Char :=
  (text.takeWhile Char.isDigit, text.dropWhile Char.isDigit)

/-- Splits an optional exponent off a text.  Without a digit it is none. -/
def takeExponent (text : List Char) : Int × List Char :=
  match text with
  | mark :: signed =>
    let (negative, unsigned) := takeSign signed
    let (digits, rest) := takeDigits unsigned
    if (mark = 'e' ∨ mark = 'E') ∧ digits ≠ [] then
      (signedInt negative (digitsValue digits), rest)
    else (0, text)
  | [] => (0, [])

namespace Numeral

/-- The longest numeral at the front of a text, and what follows it. -/
def scan (text : List Char) : Option (Numeral × List Char) :=
  let (negative, unsigned) := takeSign text
  let (whole, afterWhole) := takeDigits unsigned
  match afterWhole with
  | '.' :: afterPoint =>
    let (fraction, afterFraction) := takeDigits afterPoint
    if whole = [] ∧ fraction = [] then none
    else
      let (exponent, rest) := takeExponent afterFraction
      some (⟨negative, whole, some fraction, exponent⟩, rest)
  | _ =>
    if whole = [] then none
    else
      let (exponent, rest) := takeExponent afterWhole
      some (⟨negative, whole, none, exponent⟩, rest)

/-- The decimal value of a numeral without its sign. -/
def magnitude (numeral : Numeral) : Decimal :=
  let fraction := numeral.fraction?.getD []
  ⟨digitsValue (numeral.whole ++ fraction), numeral.exponent - fraction.length⟩

def toDouble (numeral : Numeral) : Double :=
  numeral.magnitude.toDouble numeral.negative

end Numeral

end CalcShell.Number

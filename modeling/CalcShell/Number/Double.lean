import CalcShell.Number.Rounding

/-!
# Doubles

A double is a number that is not a number, an infinity, or a sign together with
a whole number of units (see `CalcShell.Number.Rounding`) that double precision
holds.  Zero has two signs.
-/

namespace CalcShell.Number

inductive Double where
  | nan
  | infinite (negative : Bool)
  | finite (negative : Bool) (units : Nat) (held : Format.double.Holds units)
  deriving DecidableEq

namespace Double

def zero (negative : Bool) : Double :=
  .finite negative 0
    ⟨Nat.two_pow_pos _, 0, 0, Nat.two_pow_pos _, Nat.le_refl _, (Nat.zero_mul _).symm⟩

instance : Inhabited Double := ⟨zero false⟩

/-- The number of a format that is nearest to a quotient of units; a magnitude beyond the
format becomes infinite. -/
def nearest (format : Format) (negative : Bool) (numerator denominator : Nat) : Double :=
  if bound : format.round numerator denominator < 2 ^ format.ceiling then
    .finite negative _ (format.holds_round bound).double
  else
    .infinite negative

/-- A format has all numbers that are not finite, and those of its magnitudes. -/
inductive HeldBy (format : Format) : Double → Prop
  | nan : HeldBy format .nan
  | infinite (negative : Bool) : HeldBy format (.infinite negative)
  | finite (negative : Bool) {units : Nat} (held : format.Holds units) :
    HeldBy format (.finite negative units held.double)

theorem heldBy_nearest (format : Format) (negative : Bool) (numerator denominator : Nat) :
    (nearest format negative numerator denominator).HeldBy format := by
  unfold nearest
  split
  · next bound => exact .finite negative (format.holds_round bound)
  · exact .infinite negative

/-- The number with a significand and a shift, in units. -/
def scaled (negative : Bool) (significand shift : Nat)
    (small : significand < 2 ^ Format.double.precision) (low : shift ≤ 2045) : Double :=
  have bound : significand * 2 ^ shift < 2 ^ Format.double.ceiling := by
    refine Nat.lt_of_lt_of_le
      (Nat.mul_lt_mul_of_pos_right small (Nat.two_pow_pos shift)) ?_
    rw [← Nat.pow_add]
    exact Nat.pow_le_pow_right (by decide) (Nat.add_le_add_left low Format.double.precision)
  .finite negative (significand * 2 ^ shift)
    ⟨bound, significand, shift, small, Nat.zero_le _, rfl⟩

/-- The double that a 64-bit word stands for: one bit of sign, eleven of exponent and
fifty-two of fraction. -/
def ofBits (bits : BitVec 64) : Double :=
  let negative := bits.getLsbD 63
  let exponent := (bits.extractLsb' 52 11).toNat
  let fraction := bits.extractLsb' 0 52
  let leading := 2 ^ (Format.double.precision - 1)
  have small : fraction.toNat < leading := fraction.isLt
  have doubled := Nat.two_pow_pred_mul_two Format.double.precision_pos
  if special : exponent = 2047 then
    if fraction = 0 then .infinite negative else .nan
  else if exponent = 0 then
    scaled negative fraction.toNat 0 (by omega) (Nat.zero_le _)
  else
    scaled negative (leading + fraction.toNat) (exponent - 1)
      (by omega) (by
        have : exponent < 2048 := (bits.extractLsb' 52 11).isLt
        omega)

/-- The word that stands for a double; all numbers that are not numbers share one. -/
def toBits : Double → BitVec 64
  | .nan => 0x7FF8000000000000
  | .infinite negative => BitVec.ofBool negative ++ (0x7FF : BitVec 11) ++ (0 : BitVec 52)
  | .finite negative units _ =>
    let shift := units.log2 - 52
    let exponent := if units < 2 ^ (Format.double.precision - 1) then 0 else shift + 1
    let fraction := units / 2 ^ shift
    BitVec.ofBool negative ++ BitVec.ofNat 11 exponent ++ BitVec.ofNat 52 fraction

/-- Whether the sign of a number is the negative one; zeros have a sign, too. -/
def isNegative : Double → Bool
  | .nan => false
  | .infinite negative | .finite negative _ _ => negative

end Double

/-- A number of single precision, kept as the double that it is equal to. -/
structure Single where
  value : Double
  held : value.HeldBy .single
  deriving DecidableEq

/-- What a number amounts to when it is compared: an infinity or a whole number of units.
The two zeros amount to the same. -/
inductive Quantity where
  | infinite (negative : Bool)
  | finite (units : Int)
  deriving DecidableEq, Repr

def signedUnits (negative : Bool) (units : Nat) : Int :=
  if negative then -units else units

/-- Whether one quantity is at most as large as another one. -/
def Quantity.atMost : Quantity → Quantity → Bool
  | .infinite left, right => left || right == .infinite false
  | .finite _, .infinite right => !right
  | .finite left, .finite right => left ≤ right

def Quantity.ofInt (value : Int) : Quantity :=
  .finite (value * unitsPerOne)

/-- The quantity of a double; the number that is none has no quantity, and so equals
nothing. -/
def Double.quantity? : Double → Option Quantity
  | .nan => none
  | .infinite negative => some (.infinite negative)
  | .finite negative units _ => some (.finite (signedUnits negative units))

end CalcShell.Number

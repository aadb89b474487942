import CalcShell.Host.Basic

/-!
# The storage of arrays

The members of an array are stored one after the other in their machine format,
each with its lowest byte first.  Negative integers are stored in two's
complement.
-/

namespace CalcShell

open Number

/-- The lowest bytes of a number, the lowest one first. -/
def littleEndian : Nat → Nat → List UInt8
  | 0, _ => []
  | count + 1, value => UInt8.ofNat (value % 256) :: littleEndian count (value / 256)

/-- The word that stands for a number of single precision. -/
def singleBits (number : Single) : BitVec 32 :=
  match number.value with
  | .nan => 0x7FC00000
  | .infinite negative => BitVec.ofBool negative ++ (0xFF : BitVec 8) ++ (0 : BitVec 23)
  | .finite negative units _ =>
    let quanta := units / 2 ^ Format.single.finest
    let shift := quanta.log2 - 23
    let exponent := if quanta < 2 ^ (Format.single.precision - 1) then 0 else shift + 1
    let fraction := quanta / 2 ^ shift
    BitVec.ofBool negative ++ BitVec.ofNat 8 exponent ++ BitVec.ofNat 23 fraction

/-- The bytes in which an array is stored. -/
def ArrayElements.storage : ArrayElements → List UInt8
  | .words elements => elements.flatMap fun element => littleEndian 4 element.toUInt32.toNat
  | .bytes elements => elements
  | .singles elements => elements.flatMap fun element => littleEndian 4 (singleBits element).toNat
  | .doubles elements => elements.flatMap fun element => littleEndian 8 element.toBits.toNat

end CalcShell

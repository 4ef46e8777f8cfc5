import Mathlib.Algebra.Group.Nat.Defs
import Mathlib.Data.Nat.Basic

set_option autoImplicit false

namespace WakeAlpha.Words

variable {w : Nat}

-- A mask splits a word into two parts that add up to it.
theorem clear_add_masked (x mask : BitVec w) : (x &&& ~~~mask).toNat + (x &&& mask).toNat = x.toNat := by
  have disjoint : (x &&& ~~~mask) &&& (x &&& mask) = 0#w := by
    ext i
    simp only [BitVec.getElem_and, BitVec.getElem_not, BitVec.getElem_zero]
    cases mask[i]
    · simp
    · simp
  have joined : (x &&& ~~~mask) ||| (x &&& mask) = x := by
    ext i
    simp only [BitVec.getElem_or, BitVec.getElem_and, BitVec.getElem_not]
    cases mask[i]
    · simp
    · simp
  rw [← BitVec.toNat_add_of_and_eq_zero disjoint, BitVec.add_eq_or_of_and_eq_zero _ _ disjoint, joined]

-- The words below a power of two.
theorem low_mask_toNat {unit : BitVec w} {k : Nat} (power : unit.toNat = 2 ^ k) : (unit - 1#w).toNat = 2 ^ k - 1 := by
  have pos := Nat.two_pow_pos k
  have bound := unit.isLt
  by_cases empty : w = 0
  · subst empty
    omega
  · have one : (1#w).toNat = 1 := by
      rw [BitVec.toNat_ofNat]
      exact Nat.mod_eq_of_lt (Nat.one_lt_two_pow empty)
    rw [BitVec.toNat_sub_of_le (by rw [BitVec.le_def, one]; omega), one, power]

theorem masked_toNat (x : BitVec w) {unit : BitVec w} {k : Nat} (power : unit.toNat = 2 ^ k) :
    (x &&& (unit - 1#w)).toNat = x.toNat % 2 ^ k := by
  rw [BitVec.toNat_and, low_mask_toNat power, Nat.and_two_pow_sub_one_eq_mod]

theorem multiple_iff (x : BitVec w) {unit : BitVec w} {k : Nat} (power : unit.toNat = 2 ^ k) :
    x &&& (unit - 1#w) = 0#w ↔ 2 ^ k ∣ x.toNat := by
  rw [← BitVec.toNat_inj, masked_toNat x power, BitVec.toNat_zero]
  exact (Nat.dvd_iff_mod_eq_zero).symm

-- The next multiple of a power of two.
def roundUp (x unit : BitVec w) : BitVec w := (x + (unit - 1#w)) &&& ~~~(unit - 1#w)

theorem round_up_toNat {x unit : BitVec w} {k : Nat} (power : unit.toNat = 2 ^ k)
    (fits : x.toNat + (2 ^ k - 1) < 2 ^ w) :
    (roundUp x unit).toNat = (x.toNat + (2 ^ k - 1)) / 2 ^ k * 2 ^ k := by
  have mask := low_mask_toNat power
  have sum : (x + (unit - 1#w)).toNat = x.toNat + (2 ^ k - 1) := by
    rw [BitVec.toNat_add, mask, Nat.mod_eq_of_lt fits]
  have parts := clear_add_masked (x + (unit - 1#w)) (unit - 1#w)
  rw [masked_toNat _ power, sum] at parts
  have split := Nat.div_add_mod' (x.toNat + (2 ^ k - 1)) (2 ^ k)
  unfold roundUp
  omega

end WakeAlpha.Words

import Mathlib.Data.Nat.Bitwise

/-!
# Fields of a machine word

A mask of low bits is a remainder, a shift of a word whose top bit is clear is a division, and disjoint fields
put together with `|` add up. So what was packed is read back by `omega`.
-/

namespace Crm.Lib

section
variable {w : Nat} {x : BitVec w}

theorem toNat_and_mask (x : BitVec w) {n : Nat} (hn : n < w) :
    (x &&& BitVec.ofNat w (2 ^ n - 1)).toNat = x.toNat % 2 ^ n := by
  have hmask : 2 ^ n - 1 < 2 ^ w := lt_of_le_of_lt (Nat.sub_le _ _) (Nat.pow_lt_pow_right (by decide) hn)
  rw [BitVec.toNat_and, BitVec.toNat_ofNat, Nat.mod_eq_of_lt hmask, Nat.and_two_pow_sub_one_eq_mod]

/-- The arithmetic shift of a word that is not negative. -/
theorem toNat_sshiftRight_of_nonneg (h : 2 * x.toNat < 2 ^ w) (n : Nat) :
    (x.sshiftRight n).toNat = x.toNat / 2 ^ n := by
  have hmsb : x.msb = false := BitVec.msb_eq_false_iff_two_mul_lt.2 h
  rw [BitVec.sshiftRight_eq_of_msb_false hmsb, BitVec.toNat_ushiftRight, Nat.shiftRight_eq_div_pow]

/-- A word that is not negative keeps its number when it is widened. -/
theorem toNat_signExtend_of_nonneg {v : Nat} (hv : w ≤ v) (h : 2 * x.toNat < 2 ^ w) : (x.signExtend v).toNat = x.toNat := by
  have hmsb : x.msb = false := BitVec.msb_eq_false_iff_two_mul_lt.2 h
  have hlt : x.toNat < 2 ^ v := lt_of_lt_of_le x.isLt (Nat.pow_le_pow_right (by decide) hv)
  rw [BitVec.signExtend_eq_setWidth_of_msb_false hmsb, BitVec.toNat_setWidth, Nat.mod_eq_of_lt hlt]

/-- A negative one gets all the bits above. -/
theorem toNat_signExtend_of_neg {v : Nat} (hv : w ≤ v) (h : 2 ^ w ≤ 2 * x.toNat) :
    (x.signExtend v).toNat = x.toNat + (2 ^ v - 2 ^ w) := by
  have hmsb : x.msb = true := BitVec.msb_eq_true_iff_two_mul_ge.2 h
  have hlt : x.toNat < 2 ^ v := lt_of_lt_of_le x.isLt (Nat.pow_le_pow_right (by decide) hv)
  rw [BitVec.toNat_signExtend, hmsb, BitVec.toNat_setWidth, Nat.mod_eq_of_lt hlt]
  rfl

/-- A word that is not negative in `v` bits survives being cut to them and widened again. -/
theorem signExtend_setWidth {v : Nat} (h : 2 * x.toNat < 2 ^ v) : (x.setWidth v).signExtend w = x := by
  have hcut : (x.setWidth v).toNat = x.toNat := by
    rw [BitVec.toNat_setWidth, Nat.mod_eq_of_lt (by omega)]
  have hmsb : (x.setWidth v).msb = false := by
    rw [BitVec.msb_eq_false_iff_two_mul_lt, hcut]
    exact h
  refine BitVec.eq_of_toNat_eq ?_
  rw [BitVec.signExtend_eq_setWidth_of_msb_false hmsb, BitVec.toNat_setWidth, hcut, Nat.mod_eq_of_lt x.isLt]

/-- A word that was widened is the low half of the result. -/
theorem setWidth_signExtend {v : Nat} (h : w ≤ v) (x : BitVec w) : (x.signExtend v).setWidth w = x := by
  ext i hi
  simp only [BitVec.getElem_setWidth, BitVec.getLsbD_signExtend, hi, if_true]
  simp [hi]
  omega

/-- Which words survive it: those in the range of `v` bits, sign included. -/
theorem signExtend_setWidth_iff {v : Nat} (h : v + 1 ≤ w) :
    (x.setWidth (v + 1)).signExtend w = x ↔ -2 ^ v ≤ x.toInt ∧ x.toInt < 2 ^ v := by
  have hcut : ((x.setWidth (v + 1)).signExtend w).toInt = x.toInt.bmod (2 ^ (v + 1)) := by
    rw [BitVec.toInt_signExtend_of_le h, BitVec.toInt_setWidth, BitVec.toInt_eq_toNat_bmod,
      Int.bmod_bmod_of_dvd (Nat.pow_dvd_pow 2 h)]
  have hpow : ((2 ^ (v + 1) : Nat) : Int) = 2 * 2 ^ v := by
    rw [Int.natCast_pow, pow_succ, Int.mul_comm]
    rfl
  rw [← BitVec.toInt_inj, hcut, Int.bmod_eq_iff (Nat.pow_pos (by decide)), hpow]
  constructor
  · rintro ⟨hlow, hhigh, -⟩
    omega
  · rintro ⟨hlow, hhigh⟩
    refine ⟨by omega, by omega, by simp⟩

/-- A field of `n` bits over what lies below it. -/
theorem shiftLeft_or {a b n : Nat} (h : b < 2 ^ n) : a <<< n ||| b = 2 ^ n * a + b := by
  rw [Nat.shiftLeft_eq, Nat.mul_comm, Nat.two_pow_add_eq_or_of_lt h]

end

end Crm.Lib

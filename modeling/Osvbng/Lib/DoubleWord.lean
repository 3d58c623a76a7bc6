import Mathlib.Tactic.Ring

/-!
# Numbers in two words

A 128-bit number held in a high and a low word of 64 bits. `join` is its value. The lemmas
say what the usual code for two words computes: addition with a carry and subtraction with a
borrow are exact modulo `2 ^ 128`, a shift to the left keeps what fits into two words, and a
shift to the right keeps what fits into one.
-/

namespace Osvbng.Lib.DoubleWord
open Nat

def join (hi lo : BitVec 64) : Nat := hi.toNat * 2 ^ 64 + lo.toNat

theorem join_extract (x : BitVec 128) :
    join (x.extractLsb' 64 64) (x.extractLsb' 0 64) = x.toNat := by
  unfold join
  simp only [BitVec.extractLsb'_toNat, shiftRight_eq_div_pow, pow_zero]
  omega

variable (aHi aLo bHi bLo : BitVec 64)

theorem join_add : join (aHi + bHi + if aLo + bLo < aLo then 1#64 else 0#64) (aLo + bLo) =
      (join aHi aLo + join bHi bLo) % 2 ^ 128 := by
  unfold join
  split
  · rename_i hcarry
    rw [BitVec.lt_def, BitVec.toNat_add] at hcarry
    simp only [BitVec.toNat_add, BitVec.toNat_ofNat]
    omega
  · rename_i hcarry
    rw [BitVec.lt_def, BitVec.toNat_add] at hcarry
    simp only [BitVec.toNat_add, BitVec.toNat_ofNat]
    omega

theorem join_sub : join (aHi - bHi - if aLo < bLo then 1#64 else 0#64) (aLo - bLo) =
      (join aHi aLo + (2 ^ 128 - join bHi bLo)) % 2 ^ 128 := by
  unfold join
  split
  · rename_i hborrow
    rw [BitVec.lt_def] at hborrow
    simp only [BitVec.toNat_sub, BitVec.toNat_ofNat]
    omega
  · rename_i hborrow
    rw [BitVec.lt_def] at hborrow
    simp only [BitVec.toNat_sub, BitVec.toNat_ofNat]
    omega

theorem pow_split {m n : Nat} (h : m ≤ n) : 2 ^ n = 2 ^ (n - m) * 2 ^ m := by
  rw [← pow_add, Nat.sub_add_cancel h]

theorem join_shiftLeft (i : BitVec 64) (s : Nat) :
    join
      (if 64 ≤ s then i <<< (s - 64) else if s = 0 then 0#64 else i >>> (64 - s))
      (if 64 ≤ s then 0#64 else if s = 0 then i else i <<< s) =
      i.toNat * 2 ^ s % 2 ^ 128 := by
  have hi := i.isLt
  unfold join
  by_cases hs : 64 ≤ s
  · rw [if_pos hs, if_pos hs, BitVec.toNat_shiftLeft, shiftLeft_eq, pow_split hs, ← mul_assoc,
      show (2 : Nat) ^ 128 = 2 ^ 64 * 2 ^ 64 from rfl, mul_mod_mul_right]
    simp
  · rw [if_neg hs, if_neg hs]
    by_cases hzero : s = 0
    · rw [if_pos hzero, if_pos hzero, hzero, Nat.pow_zero, mul_one, Nat.mod_eq_of_lt (by omega)]
      simp
    · rw [if_neg hzero, if_neg hzero, BitVec.toNat_ushiftRight, BitVec.toNat_shiftLeft,
        shiftRight_eq_div_pow, shiftLeft_eq]
      have hpow : (2 : Nat) ^ s < 2 ^ 64 := Nat.pow_lt_pow_right (by omega) (by omega)
      have hfits : i.toNat * 2 ^ s < 2 ^ 128 := by
        calc i.toNat * 2 ^ s < 2 ^ 64 * 2 ^ 64 := Nat.mul_lt_mul_of_lt_of_lt hi hpow
          _ = 2 ^ 128 := rfl
      have hhigh : i.toNat / 2 ^ (64 - s) = i.toNat * 2 ^ s / 2 ^ 64 := by
        rw [pow_split (show s ≤ 64 by omega), Nat.mul_div_mul_right _ _ (Nat.two_pow_pos s)]
      rw [hhigh, Nat.mod_eq_of_lt hfits, Nat.mul_comm, div_add_mod]

/-- Two words shifted to the right into one; what does not fit is lost. -/
theorem toNat_shiftRight (hi lo : BitVec 64) (s : Nat) :
    (if 64 ≤ s then hi >>> (s - 64)
      else if s = 0 then lo else (hi <<< (64 - s)) ||| (lo >>> s)).toNat =
      join hi lo / 2 ^ s % 2 ^ 64 := by
  have hhi := hi.isLt
  have hlo := lo.isLt
  by_cases hs : 64 ≤ s
  · have hhigh : join hi lo / 2 ^ 64 = hi.toNat := by
      unfold join
      omega
    rw [if_pos hs, BitVec.toNat_ushiftRight, shiftRight_eq_div_pow, pow_split hs,
      Nat.mul_comm, ← Nat.div_div_eq_div_mul, hhigh,
      Nat.mod_eq_of_lt ((div_le_self _ _).trans_lt hhi)]
  · rw [if_neg hs]
    by_cases hzero : s = 0
    · rw [if_pos hzero, hzero, Nat.pow_zero, Nat.div_one]
      unfold join
      omega
    · rw [if_neg hzero, BitVec.toNat_or, BitVec.toNat_shiftLeft, BitVec.toNat_ushiftRight,
        shiftRight_eq_div_pow]
      have hsplit : (2 : Nat) ^ 64 = 2 ^ (64 - s) * 2 ^ s := pow_split (by omega)
      have hlow : lo.toNat / 2 ^ s < 2 ^ (64 - s) := by
        rw [Nat.div_lt_iff_lt_mul (Nat.two_pow_pos s), ← hsplit]
        exact hlo
      -- The words do not overlap: the high one keeps its last `s` bits.
      have hhigh : hi.toNat <<< (64 - s) % 2 ^ 64 = (hi.toNat % 2 ^ s) <<< (64 - s) := by
        rw [shiftLeft_eq, shiftLeft_eq, hsplit, Nat.mul_comm (2 ^ (64 - s)), mul_mod_mul_right]
      rw [hhigh, ← shiftLeft_add_eq_or_of_lt hlow, shiftLeft_eq]
      have hquot : join hi lo / 2 ^ s = hi.toNat * 2 ^ (64 - s) + lo.toNat / 2 ^ s := by
        unfold join
        rw [hsplit, ← mul_assoc, Nat.add_comm, Nat.add_mul_div_right _ _ (Nat.two_pow_pos s),
          Nat.add_comm]
      rw [hquot, hsplit, mod_mul, Nat.add_comm (hi.toNat * _), add_mul_mod_self_right,
        Nat.add_mul_div_right _ _ (Nat.two_pow_pos _), Nat.mod_eq_of_lt hlow,
        div_eq_of_lt hlow, zero_add, Nat.mul_comm, Nat.add_comm]

end Osvbng.Lib.DoubleWord

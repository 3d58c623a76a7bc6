import Mathlib.Algebra.Order.Group.Nat
import Mathlib.Data.Nat.ModEq

/-!
# Aligned blocks of numbers

Numbers below `q`, counted around a circle, and blocks of `n` consecutive numbers that start
at a multiple of `n`. `offset_lt_iff` says that membership in a block can be decided by the
distance from its start; `offset_mod_lt` says what is left of this when the distance is
known only modulo a larger block.
-/

namespace Osvbng.Lib.Blocks
open Nat
variable {q m n b v : Nat}

def offset (q b v : Nat) : Nat := (v + (q - b)) % q

theorem offset_of_le (hv : v < q) (hb : b ≤ v) : offset q b v = v - b := by
  unfold offset
  rw [show v + (q - b) = v - b + q by omega, add_mod_right, mod_eq_of_lt (by omega)]

theorem offset_of_lt (hb : b ≤ q) (hlt : v < b) : offset q b v = q - (b - v) := by
  unfold offset
  rw [show v + (q - b) = q - (b - v) by omega, mod_eq_of_lt (by omega)]

theorem add_le_of_dvd {a c n : Nat} (ha : n ∣ a) (hc : n ∣ c) (h : a < c) : a + n ≤ c := by
  have hdvd : n ∣ c - a := dvd_sub hc ha
  have hle := le_of_dvd (by omega) hdvd
  omega

theorem offset_lt_iff (hn : 0 < n) (hnq : n ∣ q) (hnb : n ∣ b) (hb : b < q) (hv : v < q) :
    offset q b v < n ↔ v / n = b / n := by
  have hfits := add_le_of_dvd hnb hnq hb
  have hstart : n * (b / n) = b := Nat.mul_div_cancel' hnb
  by_cases hle : b ≤ v
  · rw [offset_of_le hv hle]
    constructor
    · intro hlt
      apply Nat.div_eq_of_lt_le
      · rw [Nat.mul_comm, hstart]
        exact hle
      · rw [Nat.mul_comm, mul_add, hstart]
        omega
    · intro heq
      have hmod := div_add_mod v n
      have hlt := mod_lt v hn
      rw [heq, hstart] at hmod
      omega
  · rw [offset_of_lt (by omega) (by omega)]
    constructor
    · omega
    · intro heq
      have hmod := div_add_mod v n
      rw [heq, hstart] at hmod
      omega

theorem offset_mod_lt (hn : 0 < n) (hnm : n ∣ m) (hmq : m ∣ q) (hnb : n ∣ b) (hb : b < q)
    (hv : v < q) (hm : 0 < m) (h : offset q b v % m < n) :
    v / m = b / m ↔ v / n = b / n := by
  constructor
  · intro heq
    rw [← offset_lt_iff hn (hnm.trans hmq) hnb hb hv]
    have hvm := div_add_mod v m
    have hbm := div_add_mod b m
    have hvlt := mod_lt v hm
    have hblt := mod_lt b hm
    rw [heq] at hvm
    by_cases hbv : b ≤ v
    · rw [offset_of_le hv hbv] at h ⊢
      rwa [mod_eq_of_lt (by omega)] at h
    · -- Below `b` the offset modulo `m` would reach beyond the last block of `n`.
      have hlast : b % m + n ≤ m := add_le_of_dvd ((dvd_mod_iff hnm).mpr hnb) hnm hblt
      rw [offset_of_lt (by omega) (by omega)] at h
      obtain ⟨c, rfl⟩ := hmq
      have hc : 0 < c := pos_of_ne_zero fun hc => by simp [hc] at hb
      obtain ⟨c, rfl⟩ := exists_eq_succ_of_ne_zero hc.ne'
      rw [show m * (c + 1) - (b - v) = m - (b - v) + m * c by rw [mul_add]; omega,
        add_mul_mod_self_left, mod_eq_of_lt (by omega)] at h
      omega
  · intro heq
    obtain ⟨c, rfl⟩ := hnm
    rw [← Nat.div_div_eq_div_mul, heq, Nat.div_div_eq_div_mul]

end Osvbng.Lib.Blocks

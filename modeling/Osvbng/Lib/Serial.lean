import Mathlib.Data.Nat.Bitwise

/-!
# Serial numbers

A sequence of messages is numbered 0, 1, 2, … and the wire carries the low 16
bits. Two numbers less than 2^16 apart are told apart by these bits, and the
serial comparison of their bits agrees with their order when they are less than
2^15 apart.
-/

namespace Osvbng.Lib.Serial

/-- The serial comparison: the difference has its top bit set. -/
def less (a b : UInt16) : Bool := (a - b) &&& 0x8000 ≠ 0

variable {i j : Nat}

theorem ofNat_eq_ofNat_iff : UInt16.ofNat i = UInt16.ofNat j ↔ i % 65536 = j % 65536 := by
  rw [← UInt16.toNat_inj, UInt16.toNat_ofNat', UInt16.toNat_ofNat']

theorem eq_of_ofNat_eq (h : UInt16.ofNat i = UInt16.ofNat j) (hij : i < j + 65536)
    (hji : j < i + 65536) : i = j := by
  rw [ofNat_eq_ofNat_iff] at h
  omega

theorem ofNat_succ (i : Nat) : UInt16.ofNat i + 1 = UInt16.ofNat (i + 1) := by
  rw [UInt16.ofNat_add]
  rfl

theorem toNat_ofNat_sub (h : j ≤ i) :
    (UInt16.ofNat i - UInt16.ofNat j).toNat = (i - j) % 65536 := by
  rw [UInt16.toNat_sub, UInt16.toNat_ofNat', UInt16.toNat_ofNat']
  omega

theorem and_top_eq_zero {d : UInt16} (h : d.toNat < 32768) : d &&& 0x8000 = 0 := by
  rw [← UInt16.toNat_inj, UInt16.toNat_and]
  have htop : (0x8000 : UInt16).toNat = 2 ^ 15 := rfl
  rw [htop, Nat.and_two_pow, Nat.testBit_lt_two_pow (by omega)]
  rfl

theorem less_eq_false (h : j ≤ i) (hd : i < j + 32768) :
    less (UInt16.ofNat i) (UInt16.ofNat j) = false := by
  have hdist := toNat_ofNat_sub h
  have hsmall : (UInt16.ofNat i - UInt16.ofNat j).toNat < 32768 := by
    omega
  simp [less, and_top_eq_zero hsmall]

/-- The first number from `base` on that has the bits `n`. -/
def indexFrom (base : Nat) (n : UInt16) : Nat := base + (n - .ofNat base).toNat

theorem indexFrom_ofNat {base i : Nat} (h : base ≤ i) (hd : i < base + 65536) :
    indexFrom base (.ofNat i) = i := by
  rw [indexFrom, toNat_ofNat_sub h, Nat.mod_eq_of_lt (by omega)]
  omega

end Osvbng.Lib.Serial

import Mathlib.Data.List.Basic
import Mathlib.Data.Option.Basic

/-!
# Checked byte slices

Byte strings with the bounds rules of a language that checks every index and
every slice expression at run time. A result `none` is the run-time fault; a
computation that is to survive every input has to be shown to return `some`.

Main results: `slice_isSome` and `uint16_isSome` give the exact bounds under
which an access is in range.
-/

namespace Osvbng.Lib.Slice

abbrev Bytes := List UInt8

/-- A computation that may stop with a bounds fault. -/
abbrev Checked (X : Type) := Option X

variable (b : Bytes)

def index (i : Nat) : Checked UInt8 := b[i]?

def slice (lo hi : Nat) : Checked Bytes :=
  if lo ≤ hi ∧ hi ≤ b.length then some ((b.take hi).drop lo) else none

def sliceFrom (lo : Nat) : Checked Bytes := slice b lo b.length

/-- The big-endian value of a byte string. -/
def beNat : Nat := b.foldl (fun acc x => acc * 256 + x.toNat) 0

def uint16 : Checked Nat := do
  let hi ← index b 0
  let lo ← index b 1
  pure (hi.toNat * 256 + lo.toNat)

def uint32 : Checked Nat := do
  let word ← slice b 0 4
  pure (beNat word)

def putBe : (n : Nat) → (v : Nat) → Bytes
  | 0, _ => []
  | n + 1, v => putBe n (v / 256) ++ [UInt8.ofNat v]

@[simp] theorem length_putBe (n v : Nat) : (putBe n v).length = n := by
  induction n generalizing v with
  | zero => rfl
  | succ n ih => simp [putBe, ih]

theorem index_of_lt {b : Bytes} {i : Nat} (h : i < b.length) : index b i = some b[i] := by
  simp [index, h]

@[simp] theorem slice_isSome (lo hi : Nat) : (slice b lo hi).isSome ↔ lo ≤ hi ∧ hi ≤ b.length := by
  unfold slice
  split <;> simp_all

theorem slice_of_le {b : Bytes} {lo hi : Nat} (hlo : lo ≤ hi) (hhi : hi ≤ b.length) :
    slice b lo hi = some ((b.take hi).drop lo) := by
  simp [slice, hlo, hhi]

theorem slice_eq_none_iff (lo hi : Nat) : slice b lo hi = none ↔ hi < lo ∨ b.length < hi := by
  unfold slice
  split <;> simp <;> omega

theorem sliceFrom_of_le {b : Bytes} {lo : Nat} (h : lo ≤ b.length) :
    sliceFrom b lo = some (b.drop lo) := by
  simp [sliceFrom, slice, h]

theorem uint16_isSome : (uint16 b).isSome ↔ 2 ≤ b.length := by
  match b with
  | [] => simp [uint16, index]
  | [_] => simp [uint16, index]
  | _ :: _ :: _ => simp [uint16, index]

theorem exists_uint16 {b : Bytes} (h : 2 ≤ b.length) : ∃ v, uint16 b = some v :=
  Option.isSome_iff_exists.mp ((uint16_isSome b).mpr h)

theorem exists_uint32 {b : Bytes} (h : 4 ≤ b.length) : ∃ v, uint32 b = some v := by
  simp [uint32, slice_of_le (Nat.zero_le 4) h]

theorem exists_foldlM {B C : Type} (step : B → C → Checked B)
    (hstep : ∀ b c, ∃ r, step b c = some r) (l : List C) (b : B) :
    ∃ r, l.foldlM step b = some r := by
  induction l generalizing b with
  | nil => exact ⟨b, rfl⟩
  | cons c l ih =>
    obtain ⟨b', hb'⟩ := hstep b c
    obtain ⟨r, hr⟩ := ih b'
    exact ⟨r, by simp [List.foldlM_cons, hb', hr]⟩

theorem foldlM_invariant {B C : Type} {step : B → C → Checked B} (P : B → Prop)
    (hstep : ∀ b c r, step b c = some r → P b → P r) {l : List C} {b r : B}
    (h : l.foldlM step b = some r) (hb : P b) : P r := by
  induction l generalizing b with
  | nil =>
    cases h
    exact hb
  | cons c l ih =>
    obtain ⟨b', hb', h⟩ := Option.bind_eq_some_iff.mp h
    exact ih h (hstep b c b' hb' hb)

end Osvbng.Lib.Slice

import Mathlib.Data.List.Basic
import Mathlib.Data.Nat.Bitwise

/-!
# Bitmaps

A set of numbers kept as the bits of a list of 64-bit words. `test` reads one
bit; `test_setBit` and `test_clearBit` say what the updates do to it, and
`firstFree_spec` that the scan returns a number that is not in the set.
-/

namespace Osvbng.Lib.Bitmap
open List

abbrev Words := List (BitVec 64)

variable (words : Words) {i : Nat} {total base : Nat}

def test (i : Nat) : Bool := (words[i / 64]?.getD 0#64).getLsbD (i % 64)

def setBit (i : Nat) : Words :=
  words.modify (i / 64) fun w => w ||| 1#64 <<< (i % 64)

def clearBit (i : Nat) : Words :=
  words.modify (i / 64) fun w => w &&& ~~~(1#64 <<< (i % 64))

/-- The scan of one word from number `base` on: `some none` when the numbers are
used up, `none` when no bit of the word is free. -/
def scanBits (total base : Nat) (word : BitVec 64) : List Nat → Option (Option Nat)
  | [] => none
  | bit :: bits =>
    if total ≤ base + bit then some none
    else if word.getLsbD bit then scanBits total base word bits
    else some (some (base + bit))

/-- The first number below `total` that is not in the set. -/
def firstFree (total : Nat) : (base : Nat) → Words → Option Nat
  | _, [] => none
  | base, word :: words =>
    if word = .allOnes 64 then firstFree total (base + 64) words
    else
      match scanBits total base word (range 64) with
      | some r => r
      | none => firstFree total (base + 64) words

/-! ## Reading after an update -/

@[simp] theorem length_setBit (i : Nat) : (setBit words i).length = words.length := by
  simp [setBit]

@[simp] theorem length_clearBit (i : Nat) : (clearBit words i).length = words.length := by
  simp [clearBit]

theorem test_replicate_zero (n i : Nat) : test (replicate n 0#64) i = false := by
  unfold test
  rw [getElem?_replicate]
  split <;> simp

theorem getLsbD_one_shiftLeft {i j : Nat} (hj : j < 64) :
    (1#64 <<< i).getLsbD j = decide (i = j) := by
  by_cases h : i = j
  · simp [h, hj]
  · have hne : j < i ∨ j - i ≠ 0 := by omega
    rcases hne with hlt | hne
    · simp [h, hlt]
    · simp [h, hne]

theorem mod_eq_iff {i j : Nat} (hdiv : i / 64 = j / 64) : i % 64 = j % 64 ↔ i = j := by
  omega

theorem test_setBit {words : Words} (hi : i < 64 * words.length) (j : Nat) :
    test (setBit words i) j = (test words j || decide (i = j)) := by
  unfold test setBit
  rw [getElem?_modify]
  by_cases hdiv : i / 64 = j / 64
  · have hword : j / 64 < words.length := by omega
    have hmod : j % 64 < 64 := by omega
    rw [getElem?_eq_getElem hword]
    simp only [if_pos hdiv, Option.map_eq_map, Option.map_some, Option.getD_some,
      BitVec.getLsbD_or, getLsbD_one_shiftLeft hmod, mod_eq_iff hdiv]
  · have hne : i ≠ j := fun h => hdiv (by rw [h])
    cases words[j / 64]? <;> simp [hdiv, hne]

theorem test_clearBit (i j : Nat) :
    test (clearBit words i) j = (test words j && !decide (i = j)) := by
  unfold test clearBit
  rw [getElem?_modify]
  by_cases hdiv : i / 64 = j / 64
  · have hmod : j % 64 < 64 := by omega
    cases words[j / 64]? with
    | none => simp
    | some w =>
      simp only [if_pos hdiv, Option.map_eq_map, Option.map_some, Option.getD_some,
        BitVec.getLsbD_and, BitVec.getLsbD_not, getLsbD_one_shiftLeft hmod, mod_eq_iff hdiv,
        hmod, decide_true, Bool.true_and]
  · have hne : i ≠ j := fun h => hdiv (by rw [h])
    cases words[j / 64]? <;> simp [hdiv, hne]

/-! ## The scan -/

theorem scanBits_spec {word : BitVec 64} {bits : List Nat}
    (h : scanBits total base word bits = some (some i)) :
    ∃ bit ∈ bits, i = base + bit ∧ i < total ∧ word.getLsbD bit = false := by
  induction bits with
  | nil => cases h
  | cons bit bits ih =>
    unfold scanBits at h
    split at h
    · cases h
    · split at h
      · obtain ⟨b, hb, hrest⟩ := ih h
        exact ⟨b, mem_cons_of_mem _ hb, hrest⟩
      · rename_i hfree
        cases h
        exact ⟨bit, mem_cons_self, rfl, by omega, Bool.eq_false_of_not_eq_true hfree⟩

theorem firstFree_spec {words : Words} (h : firstFree total base words = some i) :
    i < total ∧ base ≤ i ∧ i - base < 64 * words.length ∧ test words (i - base) = false := by
  induction words generalizing base with
  | nil => cases h
  | cons word words ih =>
    -- What is found in a later word is at the same distance from its start.
    have hlater (hfound : firstFree total (base + 64) words = some i) :
        i < total ∧ base ≤ i ∧ i - base < 64 * (word :: words).length ∧
          test (word :: words) (i - base) = false := by
      obtain ⟨htotal, hle, hlt, hfree⟩ := ih hfound
      have hdiv : (i - base) / 64 = (i - (base + 64)) / 64 + 1 := by omega
      have hmod : (i - base) % 64 = (i - (base + 64)) % 64 := by omega
      refine ⟨htotal, by omega, ?_, ?_⟩
      · rw [length_cons]
        omega
      · unfold test at hfree ⊢
        rw [hdiv, hmod, getElem?_cons_succ]
        exact hfree
    unfold firstFree at h
    split at h
    · exact hlater h
    · split at h
      · rename_i hscan
        rw [h] at hscan
        obtain ⟨bit, hbit, rfl, htotal, hfree⟩ := scanBits_spec hscan
        rw [mem_range] at hbit
        refine ⟨htotal, by omega, ?_, ?_⟩
        · rw [length_cons]
          omega
        · have hsub : base + bit - base = bit := by omega
          have hdiv : bit / 64 = 0 := by omega
          have hmod : bit % 64 = bit := by omega
          rw [test, hsub, hdiv, hmod]
          exact hfree
      · exact hlater h

end Osvbng.Lib.Bitmap

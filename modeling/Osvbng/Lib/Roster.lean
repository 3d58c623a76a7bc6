import Osvbng.Lib.Run

/-!
# Objects with a reservation, an entry and a worker

Objects are entered under keys. A key is reserved before its object is entered
and given back when the entry is deleted, and a worker runs for each object. The
three are kept in tables of their own, so that they agree only as long as
nobody touches one of them alone.

`Consistent` says that they agree. It is kept by `add` and `drop`, which touch all
three (`Consistent.add`, `Consistent.drop`).
-/

namespace Osvbng.Lib
open Function Option List

/-- The objects by number, each with its key and whether its worker runs, and the
tables by key. -/
@[ext] structure Roster (K : Type) where
  objects : List (K × Bool)
  entries : K → Option Nat
  workers : K → Option Nat
  reserved : K → Bool

namespace Roster
variable {K : Type}

def empty : Roster K := ⟨[], fun _ => none, fun _ => none, fun _ => false⟩

structure Consistent (r : Roster K) : Prop where
  entry : ∀ k i, r.entries k = some i → ∃ b, r.objects[i]? = some (k, b)
  reserved : ∀ k, r.reserved k = true ↔ (r.entries k).isSome
  workers : r.workers = r.entries
  running : ∀ i k b, r.objects[i]? = some (k, b) → (b = true ↔ r.entries k = some i)

theorem consistent_empty : (empty : Roster K).Consistent :=
  ⟨by simp [empty], by simp [empty], rfl, by simp [empty]⟩

variable [DecidableEq K]

def add (r : Roster K) (k : K) : Roster K where
  objects := r.objects ++ [(k, true)]
  entries := update r.entries k (some r.objects.length)
  workers := update r.workers k (some r.objects.length)
  reserved := update r.reserved k true

def drop (r : Roster K) (k : K) : Roster K where
  objects := (r.workers k).elim r.objects fun i => r.objects.modify i fun o => (o.1, false)
  entries := update r.entries k none
  workers := update r.workers k none
  reserved := update r.reserved k false

variable {r : Roster K} {k k' : K}

omit [DecidableEq K] in
theorem Consistent.lt_length (h : r.Consistent) {i : Nat} (hk : r.entries k = some i) :
    i < r.objects.length := by
  obtain ⟨b, hb⟩ := h.entry k i hk
  exact (List.getElem?_eq_some_iff.mp hb).1

omit [DecidableEq K] in
theorem Consistent.entries_eq_none (h : r.Consistent) (hfree : r.reserved k = false) :
    r.entries k = none := by
  rw [← not_isSome_iff_eq_none, ← h.reserved k, hfree]
  exact Bool.false_ne_true

theorem Consistent.add (h : r.Consistent) (hfree : r.reserved k = false) :
    (r.add k).Consistent := by
  refine ⟨fun k' i hi => ?_, fun k' => ?_, ?_, fun i k' b hi => ?_⟩
  · obtain ⟨rfl, ⟨⟩⟩ | ⟨-, hi⟩ := update_cases hi
    · exact ⟨true, getElem?_concat_length⟩
    · obtain ⟨b, hb⟩ := h.entry k' i hi
      exact ⟨b, (getElem?_append_left (h.lt_length hi)).trans hb⟩
  · simp only [Roster.add, update_apply]
    split
    · simp
    · exact h.reserved k'
  · rw [Roster.add, h.workers]
  · simp only [Roster.add, update_apply, getElem?_append] at hi ⊢
    split at hi
    · have hold := h.running i k' b hi
      split
      · rename_i hk
        rw [hk, h.entries_eq_none hfree] at hold
        simp only [hold, reduceCtorEq, some.injEq, false_iff]
        omega
      · exact hold
    · -- The new object.
      obtain ⟨hlast, hi⟩ := List.getElem?_eq_some_iff.mp hi
      rw [length_singleton] at hlast
      rw [getElem_singleton, Prod.mk.injEq] at hi
      obtain ⟨rfl, rfl⟩ := hi
      rw [if_pos rfl, some.injEq]
      simp only [true_iff]
      omega

theorem Consistent.getElem?_drop (h : r.Consistent) (hk : k' ≠ k) {i : Nat} {b : Bool} :
    (r.drop k).objects[i]? = some (k', b) ↔ r.objects[i]? = some (k', b) := by
  unfold Roster.drop
  cases hw : r.workers k with
  | none => rfl
  | some j =>
    rw [h.workers] at hw
    obtain ⟨bj, hj⟩ := h.entry k j hw
    by_cases hij : j = i
    · subst hij
      simp [hj, Ne.symm hk]
    · simp [hij]

theorem Consistent.not_running_drop (h : r.Consistent) (k : K) (i : Nat) :
    (r.drop k).objects[i]? ≠ some (k, true) := by
  intro hi
  unfold Roster.drop at hi
  cases hw : r.workers k with
  | none =>
    rw [hw, elim_none] at hi
    have hrun := (h.running i k true hi).mp rfl
    rw [← h.workers, hw] at hrun
    cases hrun
  | some j =>
    rw [hw, elim_some, getElem?_modify] at hi
    by_cases hij : j = i
    · simp [hij] at hi
    · have hrun := (h.running i k true (by simpa [hij] using hi)).mp rfl
      rw [← h.workers, hw, some.injEq] at hrun
      exact hij hrun

theorem Consistent.drop (h : r.Consistent) (k : K) : (r.drop k).Consistent := by
  refine ⟨fun k' i hi => ?_, fun k' => ?_, ?_, fun i k' b hi => ?_⟩
  · obtain ⟨-, ⟨⟩⟩ | ⟨hk, hi⟩ := update_cases hi
    obtain ⟨b, hb⟩ := h.entry k' i hi
    exact ⟨b, (h.getElem?_drop hk).mpr hb⟩
  · simp only [Roster.drop, update_apply]
    split
    · simp
    · exact h.reserved k'
  · rw [Roster.drop, h.workers]
  · rw [show (r.drop k).entries = update r.entries k none from rfl, update_apply]
    split
    · rename_i hk
      subst hk
      simp only [reduceCtorEq, iff_false]
      rintro rfl
      exact h.not_running_drop k' i hi
    · rename_i hk
      exact h.running i k' b ((h.getElem?_drop hk).mp hi)

end Roster
end Osvbng.Lib

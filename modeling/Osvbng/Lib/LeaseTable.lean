import Mathlib.Data.List.Nodup

/-!
# Lease tables

Keys handed out from a stack of free keys and recorded with their owner. A
table carries the proof that its free keys are distinct and unleased, so a key
can be handed out only when nobody owns it.

The lemmas `allocate_eq_some`, `leases_release` and `reserve_eq_some` say what
each operation does to the record of owners; callers use them and never unfold
an operation.
-/

namespace Osvbng.Lib
open Function List

structure LeaseTable (K S : Type) where
  leases : K → Option S
  /-- The stack of free keys, its top at the end. -/
  free : List K
  free_nodup : free.Nodup
  not_leased : ∀ k ∈ free, leases k = none

namespace LeaseTable
variable {K S : Type} {t t' : LeaseTable K S} {owner : S} {key : K}

def ofFree (free : List K) (h : free.Nodup) : LeaseTable K S :=
  ⟨fun _ => none, free, h, fun _ _ => rfl⟩

/-- The table with its free keys listed anew: those of `keys` that are not leased. -/
def refill (t : LeaseTable K S) (keys : List K) (h : keys.Nodup) : LeaseTable K S where
  leases := t.leases
  free := keys.filter fun k => (t.leases k).isNone
  free_nodup := h.filter _
  not_leased _ hk := Option.isNone_iff_eq_none.mp (mem_filter.mp hk).2

theorem mem_free_refill (t : LeaseTable K S) {keys : List K} (h : keys.Nodup) (k : K) :
    k ∈ (t.refill keys h).free ↔ k ∈ keys ∧ t.leases k = none := by
  simp [refill, mem_filter]

theorem getLast_ne_of_mem_dropLast {l : List K} (h : l ≠ []) (hl : l.Nodup) {k : K}
    (hk : k ∈ l.dropLast) : k ≠ l.getLast h := by
  rw [← dropLast_concat_getLast h, nodup_append] at hl
  exact hl.2.2 k hk _ (mem_singleton.mpr rfl)

variable [DecidableEq K]

def allocate (t : LeaseTable K S) (owner : S) : Option (K × LeaseTable K S) :=
  if h : t.free = [] then none
  else some (t.free.getLast h,
    { leases := update t.leases (t.free.getLast h) (some owner)
      free := t.free.dropLast
      free_nodup := t.free_nodup.sublist (dropLast_sublist _)
      not_leased := fun k hk => by
        rw [update_of_ne (getLast_ne_of_mem_dropLast h t.free_nodup hk)]
        exact t.not_leased k (dropLast_subset _ hk) })

def release (t : LeaseTable K S) (key : K) : LeaseTable K S :=
  if h : t.leases key = none then t
  else
    { leases := update t.leases key none
      free := t.free ++ [key]
      free_nodup := by
        refine nodup_append.mpr ⟨t.free_nodup, nodup_singleton key, ?_⟩
        rintro k hk _ hkey rfl
        rw [mem_singleton] at hkey
        exact h (t.not_leased key (hkey ▸ hk))
      not_leased := fun k hk => by
        by_cases hkey : k = key
        · rw [hkey, update_self]
        · rw [update_of_ne hkey]
          simp only [mem_append, mem_singleton, hkey, or_false] at hk
          exact t.not_leased k hk }

def reserve [DecidableEq S] (t : LeaseTable K S) (key : K) (owner : S) : Option (LeaseTable K S) :=
  match t.leases key with
  | some other => if other = owner then some t else none
  | none => some
      { leases := update t.leases key (some owner)
        free := t.free.erase key
        free_nodup := t.free_nodup.erase key
        not_leased := fun k hk => by
          have hkey : k ≠ key := fun h => t.free_nodup.not_mem_erase (h ▸ hk)
          rw [update_of_ne hkey]
          exact t.not_leased k (mem_of_mem_erase hk) }

theorem allocate_eq_some (h : t.allocate owner = some (key, t')) :
    key ∈ t.free ∧ t.leases key = none ∧
      t'.leases = update t.leases key (some owner) ∧ t'.free = t.free.dropLast := by
  unfold allocate at h
  split at h
  · cases h
  · cases h
    exact ⟨getLast_mem _, t.not_leased _ (getLast_mem _), rfl, rfl⟩

theorem allocate_eq_none_iff (t : LeaseTable K S) (owner : S) :
    t.allocate owner = none ↔ t.free = [] := by
  unfold allocate
  split <;> simp_all

theorem leases_release (t : LeaseTable K S) (key : K) :
    (t.release key).leases = update t.leases key none := by
  unfold release
  split
  · rename_i h
    rw [← h, update_eq_self]
  · rfl

theorem free_allocate (h : t.allocate owner = some (key, t')) : t.free = t'.free ++ [key] := by
  unfold allocate at h
  split at h
  · cases h
  · rename_i hne
    cases h
    exact (dropLast_concat_getLast hne).symm

theorem mem_free_allocate
    (h : t.allocate owner = some (key, t')) (k : K) : k ∈ t.free ↔ k ∈ t'.free ∨ k = key := by
  rw [free_allocate h, mem_append, mem_singleton]

theorem free_release (h : t.leases key ≠ none) : (t.release key).free = t.free ++ [key] := by
  unfold release
  rw [dif_neg h]

theorem mem_free_release_iff (t : LeaseTable K S) (key k : K) :
    k ∈ (t.release key).free ↔ k ∈ t.free ∨ (k = key ∧ t.leases key ≠ none) := by
  unfold release
  split
  · rename_i hnone
    simp [hnone]
  · rename_i hleased
    rw [mem_append, mem_singleton, and_iff_left hleased]

theorem mem_free_release {k : K} (h : k ∈ (t.release key).free) :
    k ∈ t.free ∨ (k = key ∧ t.leases key ≠ none) :=
  (t.mem_free_release_iff key k).mp h

theorem reserve_eq_some [DecidableEq S] (h : t.reserve key owner = some t') :
    (t.leases key = none ∨ t.leases key = some owner) ∧
      t'.leases = update t.leases key (some owner) ∧ t'.free ⊆ t.free := by
  unfold reserve at h
  split at h
  · rename_i other hother
    split at h
    · rename_i heq
      cases h
      subst heq
      exact ⟨.inr hother, by rw [← hother, update_eq_self], fun _ hk => hk⟩
    · cases h
  · rename_i hnone
    cases h
    exact ⟨.inl hnone, rfl, erase_subset⟩

theorem mem_free_reserve [DecidableEq S]
    (h : t.reserve key owner = some t') (k : K) : k ∈ t'.free ↔ k ∈ t.free ∧ k ≠ key := by
  unfold reserve at h
  split at h
  · rename_i other hother
    split at h
    · cases h
      refine ⟨fun hk => ⟨hk, ?_⟩, And.left⟩
      intro hkey
      rw [← hkey, t.not_leased k hk] at hother
      cases hother
    · cases h
  · cases h
    rw [t.free_nodup.mem_erase_iff]
    exact and_comm

theorem reserve_eq_none_iff [DecidableEq S] (t : LeaseTable K S) (key : K) (owner : S) :
    t.reserve key owner = none ↔ ∃ other, t.leases key = some other ∧ other ≠ owner := by
  unfold reserve
  split
  · split <;> simp_all
  · rename_i hnone
    simp [hnone]

end LeaseTable
end Osvbng.Lib

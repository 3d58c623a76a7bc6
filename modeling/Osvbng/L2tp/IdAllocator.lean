import Osvbng.Lib.Run

/-!
# Tunnel ids

The ids of the tunnels to one peer: a counter that skips 0 and, once it has gone
round, looks for an id that is not in use.

`allocate_spec`: an id that is handed out is not 0, was not in use and is then
marked, and nothing else is. `allocate_exact` adds that there is one as long as an id
is not in use.
-/

namespace Osvbng.L2tp
open Function Lib

structure IDAllocator where
  next : UInt16
  inUse : UInt16 → Bool
  wrapped : Bool

def newIDAllocator : IDAllocator := ⟨1, fun _ => false, false⟩

namespace IDAllocator

def bump (next : UInt16) : UInt16 := if next + 1 = 0 then 1 else next + 1

variable (a : IDAllocator)

def mark (id : UInt16) (used : Bool) : IDAllocator :=
  { a with inUse := update a.inUse id used }

def search : (rounds : Nat) → IDAllocator → IDAllocator × Option UInt16
  | 0, a => (a, none)
  | rounds + 1, a =>
    let id := a.next
    let a := { a with next := bump a.next }
    if a.inUse id then search rounds a else (a.mark id true, some id)

def allocate : IDAllocator × Option UInt16 :=
  if a.wrapped then a.search 0xffff
  else
    let id := a.next
    let a := { a with next := bump a.next, wrapped := a.next + 1 == 0 }
    if a.inUse id then a.search 0xffff else (a.mark id true, some id)

def release (id : UInt16) : IDAllocator := if id = 0 then a else a.mark id false

structure Valid (a : IDAllocator) : Prop where
  next : a.next ≠ 0
  zero : a.inUse 0 = false

theorem valid_new : newIDAllocator.Valid := ⟨by decide, rfl⟩

theorem bump_ne_zero (next : UInt16) : bump next ≠ 0 := by
  unfold bump
  split
  · decide
  · assumption

/-- What `allocate` does: the ids in use stay, and at most one is added. -/
structure Takes (a : IDAllocator) (r : IDAllocator × Option UInt16) : Prop where
  valid : r.1.Valid
  none : r.2 = none → r.1.inUse = a.inUse
  some : ∀ id, r.2 = some id → id ≠ 0 ∧ a.inUse id = false ∧ r.1.inUse = update a.inUse id true

variable {a}

theorem takes_mark (h : a.Valid) (hfree : a.inUse a.next = false) (wrapped : Bool) :
    Takes a ({ a with next := bump a.next, wrapped := wrapped }.mark a.next true, some a.next) := by
  refine ⟨⟨bump_ne_zero a.next, ?_⟩, by simp, ?_⟩
  · exact (update_of_ne h.next.symm _ _).trans h.zero
  · rintro id ⟨⟩
    exact ⟨h.next, hfree, rfl⟩

theorem takes_search (rounds : Nat) {a : IDAllocator} (h : a.Valid) :
    Takes a (a.search rounds) := by
  induction rounds generalizing a with
  | zero => exact ⟨h, fun _ => rfl, by simp [search]⟩
  | succ rounds ih =>
    unfold search
    dsimp only
    split
    · have hnext := ih (a := { a with next := bump a.next }) ⟨bump_ne_zero a.next, h.zero⟩
      exact ⟨hnext.valid, hnext.none, hnext.some⟩
    · rename_i hfree
      exact takes_mark h (by simpa using hfree) a.wrapped

theorem allocate_spec (h : a.Valid) : Takes a a.allocate := by
  unfold allocate
  split
  · exact takes_search _ h
  · dsimp only
    split
    · have hsearch := takes_search 0xffff
        (a := { a with next := bump a.next, wrapped := a.next + 1 == 0 })
        ⟨bump_ne_zero a.next, h.zero⟩
      exact ⟨hsearch.valid, hsearch.none, hsearch.some⟩
    · rename_i hfree
      exact takes_mark h (by simpa using hfree) _

theorem release_valid (h : a.Valid) (id : UInt16) : (a.release id).Valid := by
  unfold release
  split
  · exact h
  · rename_i hid
    exact ⟨h.next, (update_of_ne (Ne.symm hid) _ _).trans h.zero⟩

variable (a)

theorem release_inUse {id : UInt16} (hid : id ≠ 0) :
    (a.release id).inUse = update a.inUse id false := by
  rw [release, if_neg hid, mark]

variable {a} {id : UInt16}

/-! ## Runs -/

def reserve (a : IDAllocator) (id : UInt16) : IDAllocator × Bool :=
  if id = 0 || a.inUse id then (a, false)
  else
    let a := a.mark id true
    if !a.wrapped && a.next ≤ id then ({ a with next := bump id, wrapped := id + 1 == 0 }, true)
    else (a, true)

theorem reserve_valid (h : a.Valid) (id : UInt16) : (a.reserve id).1.Valid := by
  unfold reserve
  split
  · exact h
  · rename_i hid
    have hne : id ≠ 0 := fun hzero => by simp [hzero] at hid
    have hzero : (a.mark id true).inUse 0 = false := (update_of_ne hne.symm _ _).trans h.zero
    dsimp only
    split
    · exact ⟨bump_ne_zero id, hzero⟩
    · exact ⟨h.next, hzero⟩

inductive Call where
  | allocate
  | reserve (id : UInt16)
  | release (id : UInt16)

def call (a : IDAllocator) : Call → IDAllocator
  | .allocate => a.allocate.1
  | .reserve id => (a.reserve id).1
  | .release id => a.release id

def machine : Machine IDAllocator Call := .ofNext (· = newIDAllocator) fun a c => some (a.call c)

theorem toNat_bump (next : UInt16) :
    (bump next).toNat = if next.toNat = 65535 then 1 else next.toNat + 1 := by
  have hlt := next.toNat_lt
  have hadd : (next + 1).toNat = (next.toNat + 1) % 65536 := by simp
  have hzero : next + 1 = 0 ↔ next.toNat = 65535 := by
    rw [← UInt16.toNat_inj, hadd, UInt16.toNat_zero]
    omega
  simp only [bump, hzero]
  split
  · rfl
  · omega

/-- A search looks at the ids in their order from the cursor on, without 0. -/
theorem search_exhausted {rounds : Nat} {a : IDAllocator} (h : (a.search rounds).2 = none)
    (hnext : a.next ≠ 0) (hid : id ≠ 0)
    (hnear : (id.toNat + 65535 - a.next.toNat) % 65535 < rounds) : a.inUse id = true := by
  induction rounds generalizing a with
  | zero => omega
  | succ rounds ih =>
    unfold search at h
    dsimp only at h
    split at h
    · rename_i hused
      by_cases heq : id = a.next
      · rw [heq]
        exact hused
      · refine ih (a := { a with next := bump a.next }) h (bump_ne_zero a.next) ?_
        have hne : id.toNat ≠ a.next.toNat := fun h => heq (UInt16.toNat_inj.mp h)
        have hpos : id.toNat ≠ 0 := fun h => hid (UInt16.toNat_inj.mp h)
        have hpos' : a.next.toNat ≠ 0 := fun h => hnext (UInt16.toNat_inj.mp h)
        have hlt := id.toNat_lt
        have hlt' := a.next.toNat_lt
        dsimp only
        rw [toNat_bump]
        split <;> omega
    · cases h

theorem allocate_exhausted (h : a.Valid) (hnone : a.allocate.2 = none) (hid : id ≠ 0) :
    a.inUse id = true := by
  have hnear (next : UInt16) : (id.toNat + 65535 - next.toNat) % 65535 < 0xffff := by omega
  unfold allocate at hnone
  split at hnone
  · exact search_exhausted hnone h.next hid (hnear _)
  · dsimp only at hnone
    split at hnone
    · have hused := search_exhausted hnone (bump_ne_zero a.next) hid (hnear _)
      exact hused
    · cases hnone

/-- In every run `allocate` marks exactly the id that it returns, which is not 0 and was not in
use, or every id but 0 is in use. -/
theorem allocate_exact {ok : IDAllocator → Call → Prop} (h : machine.Reach ok a) :
    (∀ id, a.allocate.2 = some id →
      id ≠ 0 ∧ a.inUse id = false ∧ a.allocate.1.inUse = update a.inUse id true) ∧
    (a.allocate.2 = none → a.allocate.1.inUse = a.inUse ∧ ∀ id, id ≠ 0 → a.inUse id = true) := by
  have hvalid : a.Valid := by
    refine h.invariant Valid (fun a hinit => ?_) ?_
    · cases hinit
      exact valid_new
    · rintro a c _ hvalid - ⟨⟩
      cases c with
      | allocate => exact (allocate_spec hvalid).valid
      | reserve id => exact reserve_valid hvalid id
      | release id => exact release_valid hvalid id
  have hspec := allocate_spec hvalid
  exact ⟨hspec.some, fun hnone => ⟨hspec.none hnone, fun id => allocate_exhausted hvalid hnone⟩⟩

/-- The ids have wrapped around, and the one that was released is used again. -/
theorem allocate_exact_wrapped : ∃ a : IDAllocator, a.inUse 1 = true ∧ a.allocate.2 = some 2 ∧
    a.allocate.1.inUse = update a.inUse 2 true := by
  obtain ⟨a, h, hused, hid⟩ : ∃ a, machine.Reach (fun _ _ => True) a ∧ a.inUse 1 = true ∧
      a.allocate.2 = some 2 :=
    Machine.exists_reach_of_run rfl [.allocate, .allocate, .reserve 65535, .release 2]
      (by decide +kernel)
  exact ⟨a, hused, hid, ((allocate_exact h).1 2 hid).2.2⟩

end IDAllocator
end Osvbng.L2tp

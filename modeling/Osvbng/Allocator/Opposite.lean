import Mathlib.Data.List.Perm.Subperm
import Osvbng.Allocator.Pool
import Osvbng.Lib.Run

/-!
# Two nodes with one pool

Two nodes have the same pool. One hands it out from below and the other from above, and
neither knows what the other has handed out. A key that comes back is the next to be handed
out again, so that a node has touched as many keys as it has held at once (`Within`).

`apart_of_peaks` says that the nodes never hold the same key as long as the most that each
has held fits into the pool. It does not help that what they hold fits at every time.
-/

namespace Osvbng.Allocator.Opposite
open Function Option List Lib Lib.NetIP LeasePool LeaseTable
variable {A R K S : Type} [LeasePool A R K S] [DecidableEq K]

/-- The pool after `SetDirection`. Its configuration offers `keys`, in ascending order: the
addresses of the range that are not excluded, or the indexes of the prefixes. -/
def setDirection (a : A) {keys : List K} (hkeys : keys.Nodup) : Bool → A
  | true => withTable a ((table a).refill keys.reverse (nodup_reverse.mpr hkeys))
  | false => withTable a ((table a).refill keys hkeys)

inductive Operation (R S : Type) where
  | allocate (sessionID : S)
  | release (r : R)

/-- A pool, with how many leases it has and how many it has had at most. -/
structure Node (A : Type) where
  pool : A
  held : Nat
  peak : Nat

def Node.next (n : Node A) : Operation R S → Node A
  | .allocate sessionID =>
    match allocate n.pool sessionID with
    | none => n
    | some (_, pool) => ⟨pool, n.held + 1, max n.peak (n.held + 1)⟩
  | .release r =>
    { n with
      pool := release n.pool r
      held := if ∀ k ∈ keyOf n.pool r, owner n.pool k = none then n.held else n.held - 1 }

/-- The node that walks up and the one that walks down. -/
abbrev Nodes (A : Type) := Bool → Node A

def next (s : Nodes A) (e : Bool × Operation R S) : Nodes A :=
  update s e.1 ((s e.1).next e.2)

def machine (a : A) {keys : List K} (hkeys : keys.Nodup) :
    Machine (Nodes A) (Bool × Operation R S) :=
  .ofNext (fun s => ∀ up, s up = ⟨setDirection a hkeys up, 0, 0⟩) fun s e => some (next s e)

/-- What a node has touched of the keys that were free at first. -/
structure Within (free : List K) (n : Node A) : Prop where
  count : n.held + (table n.pool).free.length = free.length
  untouched : free.take (free.length - n.peak) <+: (table n.pool).free
  free_subset : (table n.pool).free ⊆ free
  leased_mem : ∀ k, owner n.pool k ≠ none → k ∈ free

variable {free : List K} {n : Node A}

theorem Within.allocate (h : Within free n) (sessionID : S) :
    Within free (n.next (.allocate sessionID : Operation R S)) := by
  unfold Node.next LeasePool.allocate
  dsimp only
  cases halloc : (table n.pool).allocate sessionID with
  | none => exact h
  | some kt =>
    obtain ⟨key, t⟩ := kt
    obtain ⟨hkey, -, hleases, -⟩ := allocate_eq_some halloc
    have hfree := free_allocate halloc
    have hcount := h.count
    rw [hfree, length_append, length_singleton] at hcount
    constructor <;> simp only [map_some, owner, table_withTable]
    · omega
    · -- The last free key is touched, if it was not before.
      refine prefix_of_prefix_length_le ?_ ⟨[key], hfree.symm⟩ ?_
      · exact (take_prefix_take_left (by omega)).trans h.untouched
      · rw [length_take]
        omega
    · intro k hk
      exact h.free_subset (hfree ▸ mem_append_left _ hk)
    · intro k hk
      by_cases hkk : k = key
      · exact h.free_subset (hkk ▸ hkey)
      · rw [hleases, update_of_ne hkk] at hk
        exact h.leased_mem k hk

theorem Within.release (h : Within free n) (r : R) :
    Within free (n.next (.release r : Operation R S)) := by
  unfold Node.next LeasePool.release
  dsimp only
  cases hkey : keyOf n.pool r with
  | none => exact ⟨by simpa using h.count, h.untouched, h.free_subset, h.leased_mem⟩
  | some key =>
    by_cases hnone : owner n.pool key = none
    · have hsame : (table n.pool).release key = table n.pool := dif_pos hnone
      simp only [mem_some_iff, forall_eq', hnone, if_true, hsame, withTable_table]
      exact ⟨h.count, h.untouched, h.free_subset, h.leased_mem⟩
    · have hfree := free_release hnone
      have hsubset : ((table n.pool).release key).free ⊆ free := by
        rw [hfree]
        exact append_subset.mpr ⟨h.free_subset, by simpa using h.leased_mem key hnone⟩
      have hlength := (subperm_of_subset (free_nodup _) hsubset).length_le
      have hcount := h.count
      rw [hfree, length_append, length_singleton] at hlength
      simp only [mem_some_iff, forall_eq', hnone, if_false]
      constructor <;> simp only [owner, table_withTable]
      · rw [hfree, length_append, length_singleton]
        omega
      · rw [hfree]
        exact h.untouched.trans (prefix_append _ _)
      · exact hsubset
      · intro k hk
        rw [leases_release] at hk
        by_cases hkk : k = key
        · rw [hkk]
          exact h.leased_mem key hnone
        · rw [update_of_ne hkk] at hk
          exact h.leased_mem k hk

omit [DecidableEq K] in
theorem Within.notMem_take (h : Within free n) {k : K} (hk : owner n.pool k ≠ none) :
    k ∉ free.take (free.length - n.peak) := fun hmem =>
  hk ((table n.pool).not_leased k (h.untouched.subset hmem))

/-- Whatever the nodes do, they hold no key in common as long as the most that each of them has
held fits into the pool. -/
theorem apart_of_peaks {a : A} {keys : List K} {hkeys : keys.Nodup} {s : Nodes A}
    (hnew : ∀ k, owner a k = none)
    (h : (machine a hkeys).Reach (fun _ (_ : Bool × Operation R S) => True) s)
    (hpeaks : (s true).peak + (s false).peak ≤ keys.length) (k : K) :
    owner (s true).pool k = none ∨ owner (s false).pool k = none := by
  have hwithin : ∀ up, Within (bif up then keys.reverse else keys) (s up) := by
    refine h.invariant (fun s => ∀ up, Within (bif up then keys.reverse else keys) (s up)) ?_ ?_
    · intro s hs up
      have hleases : (table a).leases = fun _ => none := funext hnew
      rw [hs up]
      cases up <;> constructor <;> simp [setDirection, refill, owner, hleases,
        take_prefix]
    · rintro s ⟨side, op⟩ _ hs - ⟨⟩ up
      by_cases hup : up = side
      · subst hup
        rw [next, update_self]
        cases op with
        | allocate sessionID => exact (hs up).allocate sessionID
        | release r => exact (hs up).release r
      · rw [next, update_of_ne hup]
        exact hs up
  by_contra hboth
  rw [not_or] at hboth
  have hup := (hwithin true).notMem_take hboth.1
  have hdown := (hwithin false).notMem_take hboth.2
  have hmem : k ∈ keys := (hwithin false).leased_mem k hboth.2
  rw [cond_true, length_reverse, take_reverse, mem_reverse] at hup
  rw [cond_false] at hdown
  rw [← take_append_drop (keys.length - (keys.length - (s true).peak)) keys,
    mem_append, or_iff_left hup] at hmem
  exact hdown ((take_prefix_take_left (by omega)).subset hmem)

def address (n : Nat) : Addr := .v4 (BitVec.ofNat 32 (0x0a000000 + n))

def threeAddresses : PoolAllocator Nat :=
  (newPoolAllocator 4 (address 1) (address 3) []).get (by decide)

theorem nodup_addresses : [address 1, address 2, address 3].Nodup := by decide

example : setDirection threeAddresses nodup_addresses true = threeAddresses := by
  rfl

def start : Nodes (PoolAllocator Nat) := fun up =>
  ⟨setDirection threeAddresses nodup_addresses up, 0, 0⟩

theorem apart_of_peaks_once :
    let s := next (next start (true, .allocate 1)) (false, .allocate 2)
    owner (s true).pool (address 1) = none ∨ owner (s false).pool (address 1) = none :=
  apart_of_peaks (a := threeAddresses) (fun _ => rfl)
    (.step (.step (.init fun _ => rfl) trivial rfl) trivial rfl) (by decide +kernel) (address 1)

/-- The nodes hold at most three addresses at every time and none is handed out twice by a node,
but both hold 10.0.0.2. -/
theorem overlap :
    (Machine.run (fun s e => some (next s e))
      (fun s e => (next s e true).held + (next s e false).held ≤ 3) start
      [(true, .allocate 1), (true, .allocate 2), (true, .release [10, 0, 0, 1]),
        (false, .allocate 3), (false, .allocate 4)]).any
      (fun s => [true, false].all fun up => (owner (s up).pool (address 2)).isSome) = true := by
  decide +kernel

end Osvbng.Allocator.Opposite

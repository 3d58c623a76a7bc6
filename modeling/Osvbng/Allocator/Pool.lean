import Osvbng.Lib.LeaseTable
import Osvbng.Lib.NetIP

/-!
# Address pools and prefix pools

The two allocators behind the subscriber pools: one hands out single addresses
of a range, the other prefixes of a fixed length by their index in a network.
Both keep a lease table; they differ in how a resource is turned into a key
and in what they contain. The class `LeasePool` states that common shape, and
the registry is written against it.
-/

namespace Osvbng.Allocator
open Function List Lib Lib.Slice Lib.NetIP LeaseTable Addr BitVec

/-- A pool of resources `R`, leased by key `K` to sessions `S`. -/
class LeasePool (A : Type) (R K S : outParam Type) where
  table : A → LeaseTable K S
  withTable : A → LeaseTable K S → A
  /-- The key of a resource; `none` if it has none in this pool. -/
  keyOf : A → R → Option K
  ofKey : A → K → R
  contains : A → R → Bool
  /-- The keys of the resources the pool contains. -/
  InRange : A → K → Prop
  table_withTable : ∀ a t, table (withTable a t) = t
  withTable_table : ∀ a, withTable a (table a) = a
  withTable_withTable : ∀ a t t', withTable (withTable a t) t' = withTable a t'
  keyOf_withTable : ∀ a t, keyOf (withTable a t) = keyOf a
  contains_withTable : ∀ a t, contains (withTable a t) = contains a
  inRange_withTable : ∀ a t, InRange (withTable a t) = InRange a
  contains_iff : ∀ {a r k}, keyOf a r = some k → (contains a r ↔ InRange a k)
  keyOf_of_contains : ∀ {a r}, contains a r → (keyOf a r).isSome

attribute [simp] LeasePool.table_withTable LeasePool.withTable_table LeasePool.withTable_withTable
  LeasePool.keyOf_withTable LeasePool.contains_withTable LeasePool.inRange_withTable

namespace LeasePool
variable {A R K S : Type} [LeasePool A R K S]

def owner (a : A) (k : K) : Option S := (table a).leases k

variable [DecidableEq K]

def allocate (a : A) (sessionID : S) : Option (R × A) :=
  ((table a).allocate sessionID).map fun (k, t) => (ofKey a k, withTable a t)

def release (a : A) (r : R) : A :=
  match keyOf a r with
  | none => a
  | some k => withTable a ((table a).release k)

theorem release_spec (a : A) (r : R) :
    ∃ t, release a r = withTable a t ∧
      (∀ k, t.leases k = if keyOf a r = some k then none else owner a k) ∧
      ∀ k ∈ t.free, k ∈ (table a).free ∨ (keyOf a r = some k ∧ owner a k ≠ none) := by
  unfold release
  cases hk : keyOf a r with
  | none => exact ⟨table a, by simp, by simp [owner], fun k hmem => .inl hmem⟩
  | some j =>
    refine ⟨(table a).release j, rfl, fun k => ?_, fun k hmem => ?_⟩
    · rw [leases_release]
      by_cases hj : j = k
      · simp [hj]
      · simp [hj, update_of_ne (Ne.symm hj), owner]
    · rcases mem_free_release hmem with h | ⟨rfl, h⟩
      · exact .inl h
      · exact .inr ⟨rfl, h⟩

variable [DecidableEq S]

/-- `none` is `ErrAlreadyReserved`; a resource without a key is accepted and
not recorded. -/
def reserve (a : A) (r : R) (sessionID : S) : Option A :=
  match keyOf a r with
  | none => some a
  | some k => ((table a).reserve k sessionID).map (withTable a)

/-- A reservation that succeeds records the session under the key, which was
free or its own; without a key it changes nothing. -/
theorem reserve_spec {a a' : A} {r : R} {s : S} (h : reserve a r s = some a') :
    ∃ t, a' = withTable a t ∧
      (∀ k, t.leases k = if keyOf a r = some k then some s else owner a k) ∧
      (∀ k, keyOf a r = some k → owner a k = none ∨ owner a k = some s) ∧
      t.free ⊆ (table a).free := by
  unfold reserve at h
  cases hk : keyOf a r with
  | none =>
    rw [hk] at h
    cases h
    exact ⟨table a, by simp, by simp [owner], by simp, List.Subset.refl _⟩
  | some j =>
    rw [hk] at h
    obtain ⟨t, ht, rfl⟩ := Option.map_eq_some_iff.mp h
    obtain ⟨hfree, hleases, hsub⟩ := reserve_eq_some ht
    refine ⟨t, rfl, fun k => ?_, fun k hkey => ?_, hsub⟩
    · rw [hleases]
      by_cases hj : j = k
      · simp [hj]
      · simp [hj, update_of_ne (Ne.symm hj), owner]
    · cases hkey
      exact hfree

end LeasePool

/-! ## Single addresses -/

structure PoolAllocator (S : Type) where
  rangeStart : Addr
  rangeEnd : Addr
  excluded : List Addr
  table : LeaseTable Addr S

/-- The free list of a new pool: the range without the excluded addresses, its
first address on top. -/
def buildFreeList (excluded addrs : List Addr) : List Addr :=
  (addrs.filter (· ∉ excluded)).reverse

/-- A new pool; `none` if walking the range takes more than `fuel` steps. -/
def newPoolAllocator {S : Type} (fuel : Nat) (rangeStart rangeEnd : Addr)
    (excludeAddrs : List Addr) : Option (PoolAllocator S) :=
  match h : range fuel rangeStart.unmap rangeEnd.unmap with
  | none => none
  | some addrs => some
      { rangeStart := rangeStart.unmap
        rangeEnd := rangeEnd.unmap
        excluded := excludeAddrs.map unmap
        table := .ofFree (buildFreeList (excludeAddrs.map unmap) addrs)
          (nodup_reverse.mpr ((nodup_range h).filter _)) }

namespace PoolAllocator
variable {S : Type} {a : PoolAllocator S}

def InRange (a : PoolAllocator S) (k : Addr) : Prop := a.rangeStart.le k ∧ k.le a.rangeEnd
deriving Decidable

variable (a)

def contains (ip : IP) : Bool :=
  match canon ip with
  | none => false
  | some k => a.InRange k

def IsNew : Prop :=
  ∃ fuel rangeStart rangeEnd excludeAddrs,
    newPoolAllocator fuel rangeStart rangeEnd excludeAddrs = some a

variable {a}

theorem spec_of_new {fuel : Nat} {rangeStart rangeEnd : Addr} {excludeAddrs : List Addr}
    (h : newPoolAllocator fuel rangeStart rangeEnd excludeAddrs = some a) :
    a.rangeStart = rangeStart.unmap ∧ a.rangeEnd = rangeEnd.unmap ∧
      a.excluded = excludeAddrs.map unmap ∧ (∀ k, a.table.leases k = none) ∧
      ∀ k, k ∈ a.table.free ↔ a.InRange k ∧ k ∉ a.excluded := by
  unfold newPoolAllocator at h
  split at h
  · cases h
  · rename_i addrs hrange
    cases h
    refine ⟨rfl, rfl, rfl, fun _ => rfl, fun k => ?_⟩
    unfold InRange
    rw [← mem_range_iff hrange]
    simp [ofFree, buildFreeList, mem_filter]

theorem IsNew.leases_eq_none (h : a.IsNew) (k : Addr) : a.table.leases k = none := by
  obtain ⟨_, _, _, _, h⟩ := h
  exact (spec_of_new h).2.2.2.1 k

theorem IsNew.free_iff (h : a.IsNew) (k : Addr) :
    k ∈ a.table.free ↔ a.InRange k ∧ k ∉ a.excluded := by
  obtain ⟨_, _, _, _, h⟩ := h
  exact (spec_of_new h).2.2.2.2 k

end PoolAllocator

instance {S : Type} : LeasePool (PoolAllocator S) IP Addr S where
  table := PoolAllocator.table
  withTable a t := { a with table := t }
  keyOf _ ip := canon ip
  ofKey _ k := k.asSlice
  contains := PoolAllocator.contains
  InRange := PoolAllocator.InRange
  table_withTable _ _ := rfl
  withTable_table _ := rfl
  withTable_withTable _ _ _ := rfl
  keyOf_withTable _ _ := rfl
  contains_withTable _ _ := rfl
  inRange_withTable _ _ := rfl
  contains_iff h := by simp [PoolAllocator.contains, h]
  keyOf_of_contains {a ip} h := by
    unfold PoolAllocator.contains at h
    split at h <;> simp_all

/-! ## Prefixes -/

structure PrefixAllocator (S : Type) where
  base : Addr
  networkBits : Nat
  prefixLength : Nat
  count : Nat
  table : LeaseTable Nat S

def as16 : Addr → BitVec 128
  | .invalid n => n
  | .v4 a => 0xffff00000000#128 ||| a.zeroExtend 128
  | .v6 a => a

def masked (bits : Nat) : Addr → Addr
  | .invalid n => .invalid n
  | .v4 a => .v4 (a &&& (allOnes 32 <<< (32 - bits)))
  | .v6 a => .v6 (a &&& (allOnes 128 <<< (128 - bits)))

def newPrefixAllocator {S : Type} (network : Addr) (networkBits prefixLength : Nat) :
    Option (PrefixAllocator S) :=
  if prefixLength < networkBits ∨ 63 < prefixLength - networkBits then none
  else some
    { base := masked networkBits network
      networkBits := networkBits
      prefixLength := prefixLength
      count := 2 ^ (prefixLength - networkBits)
      table := .ofFree (List.range (2 ^ (prefixLength - networkBits))).reverse
        (nodup_reverse.mpr nodup_range) }

namespace PrefixAllocator
variable {S : Type} (a : PrefixAllocator S)

def shift : Nat := (2 ^ 64 + 128 - a.prefixLength) % 2 ^ 64

def indexToIPNet (idx : Nat) : IPNet :=
  let i := BitVec.ofNat 64 idx
  let hi := (as16 a.base).extractLsb' 64 64
  let lo := (as16 a.base).extractLsb' 0 64
  let addHi := if 64 ≤ a.shift then i <<< (a.shift - 64)
    else if a.shift = 0 then 0#64 else i >>> (64 - a.shift)
  let addLo := if 64 ≤ a.shift then 0#64 else if a.shift = 0 then i else i <<< a.shift
  let newLo := lo + addLo
  let carry := if newLo < lo then 1#64 else 0#64
  { ip := putBe 8 (hi + addHi + carry).toNat ++ putBe 8 newLo.toNat
    ones := a.prefixLength
    bits := 128 }

def prefixToIndex (pfx : IPNet) : Option Nat :=
  if pfx.bits ≠ 128 ∨ pfx.ones ≠ a.prefixLength then none
  else
    match canon pfx.ip with
    | none => none
    | some addr =>
      let addrHi := (as16 addr).extractLsb' 64 64
      let addrLo := (as16 addr).extractLsb' 0 64
      let baseHi := (as16 a.base).extractLsb' 64 64
      let baseLo := (as16 a.base).extractLsb' 0 64
      let diffLo := addrLo - baseLo
      let borrow := if addrLo < baseLo then 1#64 else 0#64
      let diffHi := addrHi - baseHi - borrow
      let idx := if 64 ≤ a.shift then diffHi >>> (a.shift - 64)
        else if a.shift = 0 then diffLo
        else (diffHi <<< (64 - a.shift)) ||| (diffLo >>> a.shift)
      if a.count ≤ idx.toNat then none else some idx.toNat

def IsNew : Prop :=
  ∃ network networkBits prefixLength, newPrefixAllocator network networkBits prefixLength = some a

theorem IsNew.leases_eq_none {a : PrefixAllocator S} (h : a.IsNew) (k : Nat) :
    a.table.leases k = none := by
  obtain ⟨network, bits, len, h⟩ := h
  unfold newPrefixAllocator at h
  split at h
  · cases h
  · cases h
    rfl

end PrefixAllocator

instance {S : Type} : LeasePool (PrefixAllocator S) IPNet Nat S where
  table := PrefixAllocator.table
  withTable a t := { a with table := t }
  keyOf := PrefixAllocator.prefixToIndex
  ofKey := PrefixAllocator.indexToIPNet
  contains a pfx := (a.prefixToIndex pfx).isSome
  InRange _ _ := True
  table_withTable _ _ := rfl
  withTable_table _ := rfl
  withTable_withTable _ _ _ := rfl
  keyOf_withTable _ _ := rfl
  contains_withTable _ _ := rfl
  inRange_withTable _ _ := rfl
  contains_iff h := by simp [h]
  keyOf_of_contains h := h

end Osvbng.Allocator

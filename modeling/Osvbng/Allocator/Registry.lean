import Osvbng.Allocator.Pool

/-!
# The pool registry

All pools of the system by key: IPv4 addresses, IPv6 addresses and delegated
prefixes. The three families share one set of operations, written once over a
bank of pools and instantiated under the names of the source.

Go iterates a map in an unspecified order. Where the order matters, namely
which of several pools containing an address is taken, it is an argument: the
list of keys in the order in which the loop visits them.
-/

namespace Osvbng.Allocator
open Option List Lib Lib.NetIP LeasePool LeaseTable List.Subset

structure Bank (P N A : Type) where
  allocators : P → Option A
  profilePools : N → List P

namespace Bank
variable {P N A R K S : Type} [DecidableEq P] [DecidableEq N] [LeasePool A R K S] [DecidableEq K]
  [DecidableEq S] {b b' : Bank P N A} {pool : P} {r : R}
variable (b)

def set (pool : P) (a : A) : Bank P N A :=
  { b with allocators := Function.update b.allocators pool (some a) }

/-- Allocates from the first of `keys` that has something free. -/
def allocateFirst (b : Bank P N A) (sessionID : S) : List P → Option (K × P × Bank P N A)
  | [] => none
  | pool :: keys =>
    match (b.allocators pool).bind fun a => ((table a).allocate sessionID).map (a, ·) with
    | some (a, k, t) => some (k, pool, b.set pool (withTable a t))
    | none => allocateFirst b sessionID keys

/-- The pools tried for a subscriber: the override, whatever its VRF, then the
profile's pools of the subscriber's VRF. -/
def candidates (poolKey : N → N → P) (poolVRFs : P → N) (profile : N)
    (poolOverride : Option N) (vrf : N) : List P :=
  (poolOverride.map (poolKey profile)).toList ++
    (b.profilePools profile).filter fun pool => poolVRFs pool = vrf

def release (b : Bank P N A) (pool : P) (r : R) : Bank P N A :=
  match b.allocators pool with
  | none => b
  | some a => b.set pool (LeasePool.release a r)

def releaseAll (r : R) : Bank P N A :=
  { b with allocators := fun pool => (b.allocators pool).map (LeasePool.release · r) }

def contains (b : Bank P N A) (pool : P) (r : R) : Bool :=
  (b.allocators pool).any (LeasePool.contains · r)

variable (order : List P)

/-- The pool a loop with `if alloc.Contains(..)` stops at. -/
def firstContaining (r : R) : Option P :=
  order.find? fun pool => b.contains pool r

def releaseFirst (r : R) : Bank P N A :=
  match b.firstContaining order r with
  | none => b
  | some pool => b.release pool r

/-- Reserves in a named pool; `none` is `ErrAlreadyReserved`. -/
def reserveAt (pool : P) (r : R) (sessionID : S) : Option (Bank P N A) :=
  match b.allocators pool with
  | none => some b
  | some a => (reserve a r sessionID).map (b.set pool)

def reserve (r : R) (sessionID : S) : Option (Bank P N A) :=
  match b.firstContaining order r with
  | none => some b
  | some pool => b.reserveAt pool r sessionID

def reserveInPool (pool : P) (r : R) (sessionID : S) : Option (Bank P N A) :=
  if (b.allocators pool).isSome then b.reserveAt pool r sessionID
  else b.reserve order r sessionID

/-! ### What the operations do -/

def owner (b : Bank P N A) (pool : P) (k : K) : Option S :=
  (b.allocators pool).bind (LeasePool.owner · k)

def keyOf (b : Bank P N A) (pool : P) (r : R) : Option K :=
  (b.allocators pool).bind (LeasePool.keyOf · r)

def free (b : Bank P N A) (pool : P) : List K :=
  match b.allocators pool with
  | none => []
  | some a => (table a).free

def InRange (b : Bank P N A) (pool : P) (k : K) : Prop :=
  ∃ a, b.allocators pool = some a ∧ LeasePool.InRange a k

/-- Two banks that differ in their lease tables only. -/
def SameShape (b b' : Bank P N A) : Prop :=
  ∀ pool, (b.allocators pool = none ∧ b'.allocators pool = none) ∨
    ∃ a t, b.allocators pool = some a ∧ b'.allocators pool = some (withTable a t)

omit [DecidableEq P] [DecidableEq N] [DecidableEq K] [DecidableEq S]

theorem SameShape.refl : SameShape b b := by
  intro pool
  cases ha : b.allocators pool with
  | none => exact .inl ⟨rfl, rfl⟩
  | some a => exact .inr ⟨a, table a, rfl, by simp⟩

variable {b}

theorem SameShape.trans {b'' : Bank P N A} (h : SameShape b b') (h' : SameShape b' b'') :
    SameShape b b'' := by
  intro pool
  rcases h pool with ⟨hb, hb'⟩ | ⟨a, t, hb, hb'⟩
  · rcases h' pool with ⟨-, hb''⟩ | ⟨a, t, hcon, -⟩
    · exact .inl ⟨hb, hb''⟩
    · simp [hb'] at hcon
  · rcases h' pool with ⟨hcon, -⟩ | ⟨a', t', heq, hb''⟩
    · simp [hb'] at hcon
    · cases hb'.symm.trans heq
      exact .inr ⟨a, t', hb, by simp [hb'']⟩

theorem SameShape.keyOf_eq (h : SameShape b b') (pool : P) (r : R) :
    b'.keyOf pool r = b.keyOf pool r := by
  rcases h pool with ⟨hb, hb'⟩ | ⟨a, t, hb, hb'⟩ <;> simp [keyOf, hb, hb']

theorem SameShape.contains_eq (h : SameShape b b') (pool : P) (r : R) :
    b'.contains pool r = b.contains pool r := by
  rcases h pool with ⟨hb, hb'⟩ | ⟨a, t, hb, hb'⟩ <;> simp [contains, hb, hb']

theorem SameShape.inRange_iff (h : SameShape b b') (pool : P) (k : K) :
    b'.InRange pool k ↔ b.InRange pool k := by
  rcases h pool with ⟨hb, hb'⟩ | ⟨a, t, hb, hb'⟩ <;> simp [InRange, hb, hb']

theorem contains_iff {k : K} (h : b.keyOf pool r = some k) :
    b.contains pool r ↔ b.InRange pool k := by
  obtain ⟨a, ha, hk⟩ := bind_eq_some_iff.mp h
  simp [contains, InRange, ha, LeasePool.contains_iff hk]

theorem exists_keyOf_of_contains (h : b.contains pool r) : ∃ k, b.keyOf pool r = some k := by
  unfold contains at h
  cases ha : b.allocators pool with
  | none => simp [ha] at h
  | some a =>
    rw [ha, any_some] at h
    obtain ⟨k, hk⟩ := isSome_iff_exists.mp (LeasePool.keyOf_of_contains h)
    exact ⟨k, by simp [keyOf, ha, hk]⟩

variable [DecidableEq P]

theorem sameShape_set {a : A} (h : b.allocators pool = some a)
    (t : LeaseTable K S) : SameShape b (b.set pool (withTable a t)) := by
  intro q
  by_cases hq : q = pool
  · subst hq
    exact .inr ⟨a, t, h, by simp [set]⟩
  · simpa [set, hq] using SameShape.refl b q

variable (b)

theorem owner_set (pool : P) (a : A) (t : LeaseTable K S) (q : P) (k : K) :
    (b.set pool (withTable a t)).owner q k = if q = pool then t.leases k else b.owner q k := by
  by_cases hq : q = pool
  · simp [owner, set, hq, LeasePool.owner]
  · simp [owner, set, hq]

theorem free_set (pool : P) (a : A) (t : LeaseTable K S) (q : P) :
    (b.set pool (withTable a t)).free q = if q = pool then t.free else b.free q := by
  by_cases hq : q = pool
  · simp [free, set, hq]
  · simp [free, set, hq]

variable [DecidableEq K]

theorem release_spec (pool : P) (r : R) : SameShape b (b.release pool r) ∧
      (∀ q k, (b.release pool r).owner q k =
        if q = pool ∧ b.keyOf pool r = some k then none else b.owner q k) ∧
      ∀ q, ∀ k ∈ (b.release pool r).free q, k ∈ b.free q ∨ b.owner q k ≠ none := by
  unfold release
  cases ha : b.allocators pool with
  | none => exact ⟨.refl b, by simp [keyOf, ha], fun q k hk => .inl hk⟩
  | some a =>
    obtain ⟨t, ht, hleases, hfree⟩ := LeasePool.release_spec a r
    simp only [ht]
    refine ⟨sameShape_set ha t, fun q k => ?_, fun q k hk => ?_⟩
    · rw [owner_set]
      by_cases hq : q = pool
      · simp [hq, hleases, keyOf, owner, ha]
      · simp [hq]
    · rw [free_set] at hk
      split at hk
      · rename_i hq
        subst hq
        rcases hfree k hk with h | ⟨-, h⟩
        · exact .inl (by simpa [free, ha] using h)
        · exact .inr (by simpa [owner, ha] using h)
      · exact .inl hk

omit [DecidableEq P] in
theorem releaseAll_spec (r : R) : SameShape b (b.releaseAll r) ∧
      (∀ q k, (b.releaseAll r).owner q k =
        if b.keyOf q r = some k then none else b.owner q k) ∧
      ∀ q, ∀ k ∈ (b.releaseAll r).free q, k ∈ b.free q ∨ b.owner q k ≠ none := by
  have hpool q a : b.allocators q = some a → ∃ t,
      (b.releaseAll r).allocators q = some (withTable a t) ∧
      (∀ k, t.leases k = if LeasePool.keyOf a r = some k then none else LeasePool.owner a k) ∧
      ∀ k ∈ t.free, k ∈ (table a).free ∨ LeasePool.owner a k ≠ none := by
    intro ha
    obtain ⟨t, ht, hleases, hfree⟩ := LeasePool.release_spec a r
    exact ⟨t, by simp [releaseAll, ha, ht], hleases, fun k hk => (hfree k hk).imp_right And.right⟩
  have hnone q : b.allocators q = none → (b.releaseAll r).allocators q = none := by
    intro ha
    simp [releaseAll, ha]
  refine ⟨fun q => ?_, fun q k => ?_, fun q k hk => ?_⟩
  · cases ha : b.allocators q with
    | none => exact .inl ⟨rfl, hnone q ha⟩
    | some a =>
      obtain ⟨t, ht, -, -⟩ := hpool q a ha
      exact .inr ⟨a, t, rfl, ht⟩
  · cases ha : b.allocators q with
    | none => simp [owner, keyOf, ha, hnone q ha]
    | some a =>
      obtain ⟨t, ht, hleases, -⟩ := hpool q a ha
      simp [owner, keyOf, ha, ht, LeasePool.owner, hleases]
  · cases ha : b.allocators q with
    | none => simp [free, hnone q ha] at hk
    | some a =>
      obtain ⟨t, ht, -, hfree⟩ := hpool q a ha
      simpa [free, owner, ha] using hfree k (by simpa [free, ht] using hk)

variable {b}

/-- A successful allocation takes a free key of one of the pools it tries and
records the session under it. -/
theorem allocateFirst_spec {s : S} {keys : List P} {k : K}
    (h : b.allocateFirst s keys = some (k, pool, b')) :
    pool ∈ keys ∧ k ∈ b.free pool ∧ b.owner pool k = none ∧ SameShape b b' ∧
      (∀ q j, b'.owner q j = if q = pool ∧ j = k then some s else b.owner q j) ∧
      ∀ q, b'.free q ⊆ b.free q := by
  induction keys with
  | nil => cases h
  | cons p keys ih =>
    unfold allocateFirst at h
    split at h
    · rename_i a j t htry
      cases h
      obtain ⟨a', ha, hmap⟩ := bind_eq_some_iff.mp htry
      obtain ⟨⟨k', t'⟩, halloc, heq⟩ := map_eq_some_iff.mp hmap
      cases heq
      obtain ⟨hmem, hnone, hleases, hfree⟩ := allocate_eq_some halloc
      refine ⟨mem_cons_self, by simpa [free, ha] using hmem,
        by simpa [owner, ha, LeasePool.owner] using hnone, sameShape_set ha t,
        fun q j => ?_, fun q => ?_⟩
      · rw [owner_set, hleases]
        by_cases hq : q = pool
        · by_cases hj : j = k
          · simp [hq, hj]
          · simp [hq, hj, owner, ha, LeasePool.owner]
        · simp [hq]
      · rw [free_set]
        split
        · rename_i hq
          simpa [hq, free, ha, hfree] using dropLast_subset _
        · exact refl _
    · obtain ⟨hmem, hrest⟩ := ih h
      exact ⟨mem_cons_of_mem _ hmem, hrest⟩

/-- Allocation fails exactly when every pool it tries is missing or exhausted. -/
theorem allocateFirst_eq_none_iff (b : Bank P N A) (s : S) (keys : List P) :
    b.allocateFirst s keys = none ↔ ∀ pool ∈ keys, b.free pool = [] := by
  induction keys with
  | nil => simp [allocateFirst]
  | cons p keys ih =>
    unfold allocateFirst
    cases ha : b.allocators p with
    | none => simp [ih, free, ha]
    | some a =>
      cases hall : (table a).allocate s with
      | none =>
        have hempty := (allocate_eq_none_iff (table a) s).mp hall
        simp [hall, ih, free, ha, hempty]
      | some r =>
        have hne : (table a).free ≠ [] := by
          rw [ne_eq, ← allocate_eq_none_iff (table a) s, hall]
          simp
        simp [hall, free, ha, hne]

variable [DecidableEq S]

theorem reserveAt_spec {s : S} (h : b.reserveAt pool r s = some b') : SameShape b b' ∧
      (∀ q k, b'.owner q k =
        if q = pool ∧ b.keyOf pool r = some k then some s else b.owner q k) ∧
      (∀ k, b.keyOf pool r = some k → b.owner pool k = none ∨ b.owner pool k = some s) ∧
      ∀ q, b'.free q ⊆ b.free q := by
  unfold reserveAt at h
  cases ha : b.allocators pool with
  | none =>
    rw [ha] at h
    cases h
    exact ⟨.refl b, by simp [keyOf, ha], by simp [keyOf, ha], fun q => refl _⟩
  | some a =>
    rw [ha] at h
    obtain ⟨a', ha', rfl⟩ := map_eq_some_iff.mp h
    obtain ⟨t, rfl, hleases, hown, hsub⟩ := LeasePool.reserve_spec ha'
    refine ⟨sameShape_set ha t, fun q k => ?_, fun k hk => ?_, fun q => ?_⟩
    · rw [owner_set]
      by_cases hq : q = pool
      · simp [hq, hleases, keyOf, owner, ha]
      · simp [hq]
    · simpa [owner, ha] using hown k (by simpa [keyOf, ha] using hk)
    · rw [free_set]
      split
      · rename_i hq
        simpa [hq, free, ha] using hsub
      · exact refl _

theorem reserveAt_eq_none_iff (b : Bank P N A) (pool : P) (r : R) (s : S) :
    b.reserveAt pool r s = none ↔
      ∃ k other, b.keyOf pool r = some k ∧ b.owner pool k = some other ∧ other ≠ s := by
  unfold reserveAt
  cases ha : b.allocators pool with
  | none => simp [keyOf, ha]
  | some a =>
    cases hk : LeasePool.keyOf a r with
    | none => simp [LeasePool.reserve, hk, keyOf, ha]
    | some k =>
      simp [LeasePool.reserve, hk, keyOf, ha, reserve_eq_none_iff, owner,
        LeasePool.owner]

end Bank

structure Registry (P N S : Type) where
  poolVRFs : P → N
  /-- `profileName + "/" + poolName`. -/
  poolKey : N → N → P
  v4 : Bank P N (PoolAllocator S)
  iana : Bank P N (PoolAllocator S)
  pd : Bank P N (PrefixAllocator S)

namespace Registry
variable {P N S : Type} [DecidableEq P] [DecidableEq N] [DecidableEq S]

def granted {A R K : Type} [LeasePool A R K S] (b : Bank P N A)
    (g : K × P × Bank P N A) : Option (R × P) :=
  (b.allocators g.2.1).map fun a => (ofKey a g.1, g.2.1)

variable (r : Registry P N S) (profileName : N) (poolOverride : Option N) (subscriberVRF : N)
  (sessionID : S)

def allocateFromProfile : Option (IP × P × Registry P N S) := do
  let g ← r.v4.allocateFirst sessionID
    (r.v4.candidates r.poolKey r.poolVRFs profileName poolOverride subscriberVRF)
  let (ip, pool) ← granted r.v4 g
  pure (ip, pool, { r with v4 := g.2.2 })

def allocateIANAFromProfile : Option (IP × P × Registry P N S) := do
  let g ← r.iana.allocateFirst sessionID
    (r.iana.candidates r.poolKey r.poolVRFs profileName poolOverride subscriberVRF)
  let (ip, pool) ← granted r.iana g
  pure (ip, pool, { r with iana := g.2.2 })

def allocatePDFromProfile : Option (IPNet × P × Registry P N S) := do
  let g ← r.pd.allocateFirst sessionID
    (r.pd.candidates r.poolKey r.poolVRFs profileName poolOverride subscriberVRF)
  let (pfx, pool) ← granted r.pd g
  pure (pfx, pool, { r with pd := g.2.2 })

variable (poolName : P) (ip : IP)

def release : Registry P N S :=
  { r with v4 := r.v4.release poolName ip }

def releaseIANA : Registry P N S :=
  { r with iana := r.iana.release poolName ip }

def releasePD (pfx : IPNet) : Registry P N S :=
  { r with pd := r.pd.release poolName pfx }

def releaseIP : Registry P N S :=
  { r with v4 := r.v4.releaseAll ip }

def releaseIANAByIP : Registry P N S :=
  { r with iana := r.iana.releaseAll ip }

variable (order : List P)

def releasePDByPrefix (pfx : IPNet) : Registry P N S :=
  { r with pd := r.pd.releaseFirst order pfx }

def reserveIP (ip : IP) (sessionID : S) : Option (Registry P N S) :=
  (r.v4.reserve order ip sessionID).map fun b => { r with v4 := b }

def reserveIANA (ip : IP) (sessionID : S) : Option (Registry P N S) :=
  (r.iana.reserve order ip sessionID).map fun b => { r with iana := b }

def reservePD (pfx : IPNet) (sessionID : S) : Option (Registry P N S) :=
  (r.pd.reserve order pfx sessionID).map fun b => { r with pd := b }

variable (poolKey : P)

def reserveIPInPool (ip : IP) (sessionID : S) : Option (Registry P N S) :=
  (r.v4.reserveInPool order poolKey ip sessionID).map fun b => { r with v4 := b }

def reserveIANAInPool (ip : IP) (sessionID : S) : Option (Registry P N S) :=
  (r.iana.reserveInPool order poolKey ip sessionID).map fun b => { r with iana := b }

def reservePDInPool (pfx : IPNet) (sessionID : S) : Option (Registry P N S) :=
  (r.pd.reserveInPool order poolKey pfx sessionID).map fun b => { r with pd := b }

end Registry
end Osvbng.Allocator

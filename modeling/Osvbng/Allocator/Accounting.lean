import Osvbng.Allocator.Pool
import Osvbng.Lib.Run

/-!
# The accounts of an address pool

An address pool with the direction in which it is walked, under any sequence of
allocations, reservations, releases and changes of direction. A reservation and a release
take any address: neither asks whether the pool contains it.

`accounts_exact` says when the accounts of the pool are exact: the free addresses and
the leased addresses of the range are together the addresses that the configuration offers.
From such a state the next operation keeps them exact if and only if it does not reserve an
excluded address of the range and does not release a reserved address from outside of it.
-/

namespace Osvbng.Allocator
open Function Option List Lib Lib.NetIP LeaseTable Addr Machine PoolAllocator Prod

/-- `NewPoolAllocator` returns exactly when the range is empty, or lies in one family and ends
before the last address of that family. -/
theorem newPoolAllocator_returns_iff (S : Type) (rangeStart rangeEnd : Addr)
    (excludeAddrs : List Addr) :
    (∃ fuel, (newPoolAllocator fuel rangeStart rangeEnd excludeAddrs :
      Option (PoolAllocator S)).isSome) ↔
      (rangeStart.unmap.le rangeEnd.unmap →
        rangeStart.unmap.bitLen = rangeEnd.unmap.bitLen ∧
          rangeEnd.unmap.next ≠ .invalid 0#128) := by
  rw [← exists_range_iff]
  refine exists_congr fun fuel => ?_
  unfold newPoolAllocator
  split
  · rename_i hnone
    simp [hnone]
  · rename_i addrs hrange
    simp [hrange]

/-! ## Walks over ranges -/

def Ends (a stop : Addr) : Prop :=
  a.le stop → a.bitLen = stop.bitLen ∧ stop.next ≠ .invalid 0#128

section Exclusions
variable (parseAddr : List Char → Option Addr) (s : List Char)

/-- An exclusion: one address, or the bounds of a range. `parseAddr` trims its text. -/
def excludeEntry : Option (Addr × Option Addr) :=
  match s.span (· ≠ '-') with
  | (_, []) => (parseAddr s).map (·, none)
  | (start, _ :: stop) =>
    (parseAddr start).bind fun a => (parseAddr stop).map fun b => (a, some b)

def parseExcludeRange (fuel : Nat) : Option (List Addr) :=
  match excludeEntry parseAddr s with
  | none => some []
  | some (a, none) => some [a]
  | some (a, some stop) => range fuel a stop

/-- The free list of a new pool and the list of an exclusion are exact if and only if the walks
behind them end: neither goes on to another family or to the last address of its own. -/
theorem walks_iff (S : Type) (rangeStart rangeEnd : Addr) (excludeAddrs : List Addr) :
    ((∃ fuel, ∃ a ∈ (newPoolAllocator fuel rangeStart rangeEnd excludeAddrs :
        Option (PoolAllocator S)), a.table.free.Nodup ∧ ∀ k, k ∈ a.table.free ↔
          (rangeStart.unmap.le k ∧ k.le rangeEnd.unmap) ∧ k ∉ excludeAddrs.map unmap) ↔
      Ends rangeStart.unmap rangeEnd.unmap) ∧
    ((∃ fuel, ∃ l ∈ parseExcludeRange parseAddr s fuel, l.Nodup ∧ ∀ k, k ∈ l ↔
        ∃ e ∈ excludeEntry parseAddr s, e.2.elim (k = e.1) fun stop => e.1.le k ∧ k.le stop) ↔
      ∀ e ∈ excludeEntry parseAddr s, ∀ stop ∈ e.2, Ends e.1 stop) := by
  have hreturns := newPoolAllocator_returns_iff S rangeStart rangeEnd excludeAddrs
  refine ⟨⟨fun ⟨fuel, a, ha, _⟩ => hreturns.mp ⟨fuel, isSome_of_mem ha⟩, fun hends => ?_⟩, ?_⟩
  · obtain ⟨fuel, hsome⟩ := hreturns.mpr hends
    obtain ⟨a, ha⟩ := isSome_iff_exists.mp hsome
    obtain ⟨hstart, hend, hexcluded, -, hfree⟩ := spec_of_new ha
    refine ⟨fuel, a, ha, a.table.free_nodup, fun k => ?_⟩
    rw [hfree, InRange, hstart, hend, hexcluded]
  · unfold parseExcludeRange
    cases excludeEntry parseAddr s with
    | none => simp
    | some e =>
      obtain ⟨a, stop⟩ := e
      cases stop with
      | none => simp
      | some stop =>
        simp only [mem_some_iff, forall_eq', exists_eq_left', elim_some]
        unfold Ends
        rw [← exists_range_iff]
        refine exists_congr fun fuel => exists_congr fun l => and_iff_left_of_imp fun hl => ?_
        exact ⟨nodup_range hl, mem_range_iff hl⟩

/-- The pool of the last two IPv4 addresses is never built. -/
theorem walk_never_ends : le (.v4 0xfffffffe#32) (.v4 0xffffffff#32) ∧
    ¬ ∃ fuel, (newPoolAllocator fuel (.v4 0xfffffffe#32) (.v4 0xffffffff#32) [] :
      Option (PoolAllocator String)).isSome := by
  refine ⟨by decide, fun hreturns => ?_⟩
  have hends := (newPoolAllocator_returns_iff String _ _ []).mp hreturns
  exact (hends (by decide)).2 (by decide)

end Exclusions

/-! ## The pool -/

/-- An address pool with its direction. The walk over its range has ended when it was
created; the addresses it met are kept. -/
structure DirectedPool (S : Type) extends PoolAllocator S where
  addrs : List Addr
  walk : ∃ fuel, range fuel rangeStart rangeEnd = some addrs
  ascending : Bool

namespace DirectedPool
variable {S : Type} (a : DirectedPool S)

theorem nodup_addrs : a.addrs.Nodup := by
  obtain ⟨fuel, hwalk⟩ := a.walk
  exact nodup_range hwalk

theorem mem_addrs_iff (k : Addr) : k ∈ a.addrs ↔ a.InRange k := by
  obtain ⟨fuel, hwalk⟩ := a.walk
  exact mem_range_iff hwalk k

def withTable (t : LeaseTable Addr S) : DirectedPool S :=
  { a with table := t }

variable (ascending : Bool)

/-- The addresses of the range that are not excluded, the next one to hand out at the end. -/
def offered : List Addr :=
  let addrs := a.addrs.filter (· ∉ a.excluded)
  if ascending then addrs.reverse else addrs

theorem nodup_offered : (a.offered ascending).Nodup := by
  have hnodup : (a.addrs.filter (· ∉ a.excluded)).Nodup := a.nodup_addrs.filter _
  unfold offered
  split
  · exact nodup_reverse.mpr hnodup
  · exact hnodup

def Offers (k : Addr) : Prop := a.InRange k ∧ k ∉ a.excluded
deriving Decidable

theorem mem_offered_iff (k : Addr) : k ∈ a.offered ascending ↔ a.Offers k := by
  unfold offered Offers
  split <;> simp [mem_filter, a.mem_addrs_iff]

def buildFreeList : DirectedPool S :=
  a.withTable (a.table.refill (a.offered a.ascending) (a.nodup_offered a.ascending))

theorem mem_free_buildFreeList (k : Addr) :
    k ∈ a.buildFreeList.table.free ↔ a.Offers k ∧ a.table.leases k = none := by
  rw [← a.mem_offered_iff a.ascending]
  exact a.table.mem_free_refill (a.nodup_offered a.ascending) k

def setDirection : DirectedPool S :=
  if a.ascending = ascending then a else buildFreeList { a with ascending := ascending }

def allocate (sessionID : S) : Option (IP × DirectedPool S) :=
  (LeasePool.allocate a.toPoolAllocator sessionID).map fun (ip, pool) =>
    (ip, a.withTable pool.table)

def release (ip : IP) : DirectedPool S :=
  a.withTable (LeasePool.release a.toPoolAllocator ip).table

def reserve [DecidableEq S] (a : DirectedPool S) (ip : IP) (sessionID : S) :
    Option (DirectedPool S) :=
  (LeasePool.reserve a.toPoolAllocator ip sessionID).map fun pool => a.withTable pool.table

theorem allocate_eq (sessionID : S) : a.allocate sessionID =
      (a.table.allocate sessionID).map fun (k, t) => (k.asSlice, a.withTable t) := by
  unfold allocate LeasePool.allocate
  rw [Option.map_map]
  rfl

theorem release_eq (ip : IP) :
    a.release ip = (canon ip).elim a fun k => a.withTable (a.table.release k) := by
  have hkey : LeasePool.keyOf a.toPoolAllocator ip = canon ip := rfl
  unfold release LeasePool.release
  rw [hkey]
  cases canon ip with
  | none | some => rfl

theorem reserve_eq [DecidableEq S] (a : DirectedPool S) (ip : IP) (sessionID : S) :
    a.reserve ip sessionID =
      (canon ip).elim (some a) fun k => (a.table.reserve k sessionID).map a.withTable := by
  have hkey : LeasePool.keyOf a.toPoolAllocator ip = canon ip := rfl
  unfold reserve LeasePool.reserve
  rw [hkey]
  cases canon ip with
  | none => rfl
  | some k =>
    rw [Option.map_map]
    rfl

inductive Operation (S : Type) where
  | allocate (sessionID : S)
  | release (ip : IP)
  | reserve (ip : IP) (sessionID : S)
  | setDirection (ascending : Bool)

def next [DecidableEq S] (a : DirectedPool S) : Operation S → DirectedPool S
  | .allocate sessionID => (a.allocate sessionID).elim a snd
  | .release ip => a.release ip
  | .reserve ip sessionID => (a.reserve ip sessionID).getD a
  | .setDirection ascending => a.setDirection ascending

def Initial : Prop := a.toPoolAllocator.IsNew ∧ a.ascending = true

def machine (S : Type) [DecidableEq S] : Machine (DirectedPool S) (Operation S) :=
  .ofNext Initial fun a op => some (a.next op)

/-! ## Exact accounts -/

structure Accounted (a : DirectedPool S) : Prop where
  free_nodup : a.table.free.Nodup
  free_not_leased : ∀ k ∈ a.table.free, a.table.leases k = none
  /-- Free addresses and leased addresses of the range are what the configuration offers. -/
  exact : ∀ k, k ∈ a.table.free ∨ (a.InRange k ∧ a.table.leases k ≠ none) ↔ a.Offers k
  /-- What is handed out next is offered and not leased. -/
  allocated : ∀ sessionID ip a', a.allocate sessionID = some (ip, a') →
    ∃ k, ip = k.asSlice ∧ a.Offers k ∧ a.table.leases k = none

theorem accounted_iff : a.Accounted ↔
      ∀ k, k ∈ a.table.free ∨ (a.InRange k ∧ a.table.leases k ≠ none) ↔ a.Offers k := by
  refine ⟨Accounted.exact, fun hexact => ⟨a.table.free_nodup, a.table.not_leased, hexact, ?_⟩⟩
  intro sessionID ip a' halloc
  rw [allocate_eq] at halloc
  obtain ⟨⟨k, t⟩, hk, heq⟩ := map_eq_some_iff.mp halloc
  cases heq
  obtain ⟨hfree, hnone, -⟩ := allocate_eq_some hk
  exact ⟨k, rfl, (hexact k).mp (.inl hfree), hnone⟩

theorem accounted_withTable {a : DirectedPool S} {t : LeaseTable Addr S} {j : Addr}
    (h : a.Accounted) (hfree : ∀ k, k ≠ j → (k ∈ t.free ↔ k ∈ a.table.free))
    (hleases : ∀ k, k ≠ j → t.leases k = a.table.leases k) :
    (a.withTable t).Accounted ↔ (j ∈ t.free ∨ (a.InRange j ∧ t.leases j ≠ none) ↔ a.Offers j) := by
  rw [accounted_iff]
  show (∀ k, k ∈ t.free ∨ (a.InRange k ∧ t.leases k ≠ none) ↔ a.Offers k) ↔ _
  refine ⟨fun hall => hall j, fun hj k => ?_⟩
  by_cases hk : k = j
  · rw [hk]
    exact hj
  · rw [hfree k hk, hleases k hk]
    exact h.exact k

/-- What an operation has to leave alone: a reservation the excluded addresses of the range,
a release the reserved addresses outside of it. -/
def Careful : Operation S → Prop
  | .release ip => ∀ k ∈ canon ip, a.table.leases k ≠ none → a.InRange k
  | .reserve ip _ => ∀ k ∈ canon ip, a.InRange k → k ∉ a.excluded
  | _ => True

instance (a : DirectedPool S) [DecidableEq S] (op : Operation S) : Decidable (a.Careful op) := by
  rcases op <;> dsimp only [Careful] <;> infer_instance

theorem accounted_of_initial {a : DirectedPool S} (h : a.Initial) : a.Accounted := by
  rw [accounted_iff]
  intro k
  simp [h.1.free_iff, h.1.leases_eq_none, Offers]

section Step
variable {a : DirectedPool S}

theorem accounted_allocate (h : a.Accounted) (sessionID : S) :
    ((a.allocate sessionID).elim a snd).Accounted := by
  rw [allocate_eq]
  cases hk : a.table.allocate sessionID with
  | none => exact h
  | some kt =>
    obtain ⟨j, t⟩ := kt
    obtain ⟨hfree, -, hleases, -⟩ := allocate_eq_some hk
    have hmem := mem_free_allocate hk
    have hoffers : a.Offers j := (h.exact j).mp (.inl hfree)
    show (a.withTable t).Accounted
    rw [accounted_withTable h (j := j)]
    · refine iff_of_true (.inr ⟨hoffers.1, ?_⟩) hoffers
      rw [hleases, update_self]
      exact some_ne_none _
    · intro k hkj
      rw [hmem k, or_iff_left hkj]
    · intro k hkj
      rw [hleases, update_of_ne hkj]

theorem accounted_release_iff (h : a.Accounted) (ip : IP) :
    (a.release ip).Accounted ↔ ∀ k ∈ canon ip, a.table.leases k ≠ none → a.InRange k := by
  rw [release_eq]
  cases hip : canon ip with
  | none => simp [h]
  | some j =>
    have hmem := a.table.mem_free_release_iff j
    show (a.withTable (a.table.release j)).Accounted ↔ _
    rw [accounted_withTable h (j := j)]
    · rw [hmem, leases_release, update_self, ← h.exact j]
      -- What is leased is not free, so only the range decides.
      by_cases hleased : a.table.leases j = none
      · simp [hleased]
      · have hnot : j ∉ a.table.free := fun hj => hleased (a.table.not_leased j hj)
        simp [hleased, hnot]
    · intro k hkj
      rw [hmem k, or_iff_left fun hk => hkj hk.1]
    · intro k hkj
      rw [leases_release, update_of_ne hkj]

theorem accounted_reserve_iff [DecidableEq S] (h : a.Accounted) (ip : IP) (sessionID : S) :
    ((a.reserve ip sessionID).getD a).Accounted ↔ ∀ k ∈ canon ip, a.InRange k → k ∉ a.excluded := by
  rw [reserve_eq]
  cases hip : canon ip with
  | none => simp [h]
  | some j =>
    simp only [mem_some_iff, forall_eq', elim_some]
    cases ht : a.table.reserve j sessionID with
    | none =>
      obtain ⟨other, hother, -⟩ := (a.table.reserve_eq_none_iff j sessionID).mp ht
      refine iff_of_true h fun hrange => ?_
      have hleased : a.table.leases j ≠ none := by
        rw [hother]
        exact some_ne_none _
      exact ((h.exact j).mp (.inr ⟨hrange, hleased⟩)).2
    | some t =>
      obtain ⟨-, hleases, -⟩ := reserve_eq_some ht
      have hmem := mem_free_reserve ht
      show (a.withTable t).Accounted ↔ _
      rw [accounted_withTable h (j := j)]
      · simp [hmem, hleases, Offers]
      · intro k hkj
        rw [hmem k, and_iff_left hkj]
      · intro k hkj
        rw [hleases, update_of_ne hkj]

/-- A free list built anew is exact where no excluded address is leased. -/
theorem accounted_setDirection (h : a.Accounted) (ascending : Bool) :
    (a.setDirection ascending).Accounted := by
  unfold setDirection
  split
  · exact h
  · rw [accounted_iff]
    intro k
    rw [mem_free_buildFreeList]
    show (a.Offers k ∧ a.table.leases k = none) ∨ (a.InRange k ∧ a.table.leases k ≠ none) ↔
      a.Offers k
    have hexact := h.exact k
    constructor
    · rintro (⟨hoffers, -⟩ | hleased)
      · exact hoffers
      · exact hexact.mp (.inr hleased)
    · intro hoffers
      by_cases hnone : a.table.leases k = none
      · exact .inl ⟨hoffers, hnone⟩
      · exact .inr ⟨hoffers.1, hnone⟩

/-- From exact accounts the careful operations, and no others, lead to exact accounts. -/
theorem accounted_next_iff [DecidableEq S] (h : a.Accounted) (op : Operation S) :
    (a.next op).Accounted ↔ a.Careful op := by
  cases op with
  | allocate sessionID => exact iff_of_true (accounted_allocate h sessionID) trivial
  | release ip => exact accounted_release_iff h ip
  | reserve ip sessionID => exact accounted_reserve_iff h ip sessionID
  | setDirection ascending => exact iff_of_true (accounted_setDirection h ascending) trivial

end Step

/-- Every pool that careful operations lead to has exact accounts, and the next operation
keeps them exact if and only if it is careful as well. -/
theorem accounts_exact [DecidableEq S] {a : DirectedPool S}
    (h : (machine S).Reach Careful a) :
    a.Accounted ∧ ∀ op, (a.next op).Accounted ↔ a.Careful op := by
  have haccounted : a.Accounted := by
    refine h.invariant Accounted (fun s hs => accounted_of_initial hs) ?_
    intro s op s' hs hop hstep
    cases hstep
    exact (accounted_next_iff hs op).mpr hop
  exact ⟨haccounted, accounted_next_iff haccounted⟩

/-! ## Runs -/

/-- A pool of two addresses, 10.0.0.2 and 10.0.0.3; the gateway 10.0.0.1 is excluded. -/
def twoAddresses : DirectedPool String where
  rangeStart := .v4 0x0a000001#32
  rangeEnd := .v4 0x0a000003#32
  excluded := [.v4 0x0a000001#32]
  table := .ofFree [.v4 0x0a000003#32, .v4 0x0a000002#32] (by decide)
  addrs := [.v4 0x0a000001#32, .v4 0x0a000002#32, .v4 0x0a000003#32]
  walk := ⟨4, by decide⟩
  ascending := true

theorem initial_twoAddresses : twoAddresses.Initial :=
  ⟨⟨4, .v4 0x0a000001#32, .v4 0x0a000003#32, [.v4 0x0a000001#32], rfl⟩, rfl⟩

/-- Two sessions lease both addresses, one of them reserves its own again and the pool is
walked downwards; then the other address comes back. -/
theorem accounts_exact_twoAddresses :
    ∃ a, (machine String).Reach Careful a ∧ a.table.free = [.v4 0x0a000002#32] ∧
      a.Accounted ∧ ∀ op, (a.next op).Accounted ↔ a.Careful op := by
  obtain ⟨a, hreach, hfree⟩ : ∃ a, (machine String).Reach Careful a ∧
      a.table.free = [.v4 0x0a000002#32] :=
    exists_reach_of_run initial_twoAddresses
      [.allocate "a", .allocate "b", .reserve [10, 0, 0, 3] "b", .setDirection false,
        .release [10, 0, 0, 2]] (by decide +kernel)
  exact ⟨a, hreach, hfree, accounts_exact hreach⟩

/-- The excluded gateway and an address from outside of the range: each is reserved by name
and released again. The pool hands it to the next session. -/
theorem strays :
    [([10, 0, 0, 1], .v4 0x0a000001#32), ([192, 168, 7, 7], .v4 0xc0a80707#32)].Forall
      fun (stray : IP × Addr) =>
        ∃ a, run (fun a op => some (next a op)) (fun _ _ => True) twoAddresses
            [.reserve stray.1 "a", .release stray.1] = some a ∧
          (machine String).Reach (fun _ _ => True) a ∧
          (a.allocate "b").map fst = some stray.1 ∧ canon stray.1 = some stray.2 ∧
          ¬ a.Offers stray.2 ∧ ¬ a.Accounted := by
  refine forall_exists_run initial_twoAddresses _ (fun stray a =>
    (a.allocate "b").map fst = some stray.1 ∧ canon stray.1 = some stray.2 ∧
      ¬ a.Offers stray.2 ∧ stray.2 ∈ a.table.free) (by decide +kernel) ?_
  rintro stray a hreach ⟨halloc, hcanon, hoffers, hfree⟩
  exact ⟨hreach, halloc, hcanon, hoffers, fun h => hoffers ((h.exact _).mp (.inl hfree))⟩

end DirectedPool
end Osvbng.Allocator

import Mathlib.Data.List.Nodup
import Osvbng.Cgnat.Pool

/-!
# Who holds a port block

The purpose of a pool: every block of every outside address has at most one
holder. `Owners` is that table, and `PoolState.Refines` relates it to a pool,
whose bitmaps are its domain and whose block lists are its values.

Allocation, release and, where the block is free, restoration keep the relation:
`Sound.allocateLocked`, `Sound.releaseBlocks` and `Sound.restore`. What it means
for the blocks is in `Sound.disjoint` and `Sound.exact`.
-/

namespace Osvbng.Cgnat
open Function Option List Lib.NetIP Lib.Bitmap UInt16 Nat
variable {key : SubscriberKey} {b : BlockAllocation} {o : Owners} {i : Nat}
  {l : List OutsideAddressState}

/-! ## The blocks of an address -/

namespace Pool

def blocksPerAddr (p : Pool) : Nat := (p.getPortRangeSize / p.getBlockSize.toUInt32).toNat

def IsBlock (p : Pool) (i : Nat) (b : BlockAllocation) : Prop :=
  b.portBlockStart.toNat = p.getPortRangeStart.toNat + i * p.getBlockSize.toNat ∧
    b.portBlockEnd.toNat + 1 =
      p.getPortRangeStart.toNat + i * p.getBlockSize.toNat + p.getBlockSize.toNat
deriving Decidable

variable {p : Pool} (h : p.getPortRangeStart ≤ p.getPortRangeEnd)
include h

theorem getPortRangeSize_toNat :
    p.getPortRangeSize.toNat = p.getPortRangeEnd.toNat - p.getPortRangeStart.toNat + 1 := by
  have hlt := p.getPortRangeEnd.toNat_lt
  have hle : p.getPortRangeStart.toNat ≤ p.getPortRangeEnd.toNat := h
  have hle32 : p.getPortRangeStart.toUInt32 ≤ p.getPortRangeEnd.toUInt32 := by
    exact hle
  have hone : (1 : UInt32).toNat = 1 := rfl
  rw [getPortRangeSize, UInt32.toNat_add, UInt32.toNat_sub_of_le _ _ hle32, toNat_toUInt32,
    toNat_toUInt32, hone]
  omega

theorem end_of_block_le (hi : i < p.blocksPerAddr) :
    p.getPortRangeStart.toNat + i * p.getBlockSize.toNat + p.getBlockSize.toNat ≤ 65536 := by
  have hlt := p.getPortRangeEnd.toNat_lt
  have hle : p.getPortRangeStart.toNat ≤ p.getPortRangeEnd.toNat := h
  rw [blocksPerAddr, UInt32.toNat_div, toNat_toUInt32, getPortRangeSize_toNat h] at hi
  have hmul : (i + 1) * p.getBlockSize.toNat ≤
      p.getPortRangeEnd.toNat - p.getPortRangeStart.toNat + 1 :=
    calc (i + 1) * p.getBlockSize.toNat
        ≤ (p.getPortRangeEnd.toNat - p.getPortRangeStart.toNat + 1) / p.getBlockSize.toNat *
            p.getBlockSize.toNat := mul_le_mul_right _ hi
      _ ≤ p.getPortRangeEnd.toNat - p.getPortRangeStart.toNat + 1 := div_mul_le_self _ _
  rw [Nat.add_mul, Nat.one_mul] at hmul
  omega

omit h

theorem toNat_pos_of_ne {n : UInt16} (h : n ≠ 0) : 0 < n.toNat := by
  have hne : n.toNat ≠ 0 := fun hz => h (UInt16.toNat_inj.mp hz)
  omega

theorem isBlock_allocated (h : p.getPortRangeStart ≤ p.getPortRangeEnd)
    (hsize : p.getBlockSize ≠ 0) (hi : i < p.blocksPerAddr) (ip : IP) :
    p.IsBlock i ⟨ip, p.getPortRangeStart + UInt16.ofNat i * p.getBlockSize,
      p.getPortRangeStart + UInt16.ofNat i * p.getBlockSize + p.getBlockSize - 1⟩ := by
  have hend := end_of_block_le h hi
  have hpos := toNat_pos_of_ne hsize
  have hi16 : i < 65536 := by
    have hle : i * 1 ≤ i * p.getBlockSize.toNat := mul_le_mul_left i hpos
    omega
  have hstart : (p.getPortRangeStart + UInt16.ofNat i * p.getBlockSize).toNat =
      p.getPortRangeStart.toNat + i * p.getBlockSize.toNat := by
    rw [UInt16.toNat_add, UInt16.toNat_mul, UInt16.toNat_ofNat_of_lt' hi16,
      mod_eq_of_lt (b := 2 ^ 16) (by omega), mod_eq_of_lt (by omega)]
  refine ⟨hstart, ?_⟩
  have hone : (1 : UInt16).toNat = 1 := rfl
  rw [UInt16.toNat_sub, UInt16.toNat_add, hstart, hone]
  omega

theorem IsBlock.div_eq (h : p.IsBlock i b) (hsize : p.getBlockSize ≠ 0) :
    (b.portBlockStart - p.getPortRangeStart).toNat / p.getBlockSize.toNat = i := by
  have hpos := toNat_pos_of_ne hsize
  have hstart := h.1
  have hlt := b.portBlockStart.toNat_lt
  have hsub : (b.portBlockStart - p.getPortRangeStart).toNat = i * p.getBlockSize.toNat := by
    rw [UInt16.toNat_sub]
    omega
  rw [hsub, Nat.mul_div_cancel _ hpos]

theorem IsBlock.disjoint {j : Nat} {c : BlockAllocation} (hb : p.IsBlock i b)
    (hc : p.IsBlock j c) (hne : i ≠ j) :
    b.portBlockEnd < c.portBlockStart ∨ c.portBlockEnd < b.portBlockStart := by
  rw [lt_iff_toNat_lt, lt_iff_toNat_lt]
  obtain ⟨hbs, hbe⟩ := hb
  obtain ⟨hcs, hce⟩ := hc
  rcases lt_or_gt_of_ne hne with hlt | hlt
  all_goals
    have hmul := mul_le_mul_right p.getBlockSize.toNat (succ_le_of_lt hlt)
    rw [succ_mul] at hmul
    omega

end Pool

/-! ## Updates of one address -/

variable (hnodup : (l.map fun a => unmapped a.ip).Nodup)
include hnodup

theorem modify_eq_map {p : Nat} {a : OutsideAddressState}
    (ha : l[p]? = some a) (f : OutsideAddressState → OutsideAddressState) :
    l.modify p f = l.map fun x => if unmapped x.ip = unmapped a.ip then f x else x := by
  refine ext_getElem? fun q => ?_
  rw [getElem?_modify, getElem?_map]
  cases hq : l[q]? with
  | none => rfl
  | some x =>
    have hiff : p = q ↔ unmapped x.ip = unmapped a.ip := by
      refine ⟨fun h => ?_, fun h => ?_⟩
      · rw [h, hq] at ha
        cases ha
        rfl
      · obtain ⟨hp, hpa⟩ := List.getElem?_eq_some_iff.mp ha
        obtain ⟨hq, hqx⟩ := List.getElem?_eq_some_iff.mp hq
        have hpm : p < (l.map fun a => unmapped a.ip).length := by simpa using hp
        have hqm : q < (l.map fun a => unmapped a.ip).length := by simpa using hq
        have heq : (l.map fun a => unmapped a.ip)[p] = (l.map fun a => unmapped a.ip)[q] := by
          rw [getElem_map, getElem_map, hpa, hqx, h]
        exact hnodup.getElem_inj_iff.mp heq
    simp only [Option.map_eq_map, Option.map_some, hiff]

theorem updateAddress_eq_map (ip : IP) (f : OutsideAddressState → OutsideAddressState) :
    updateAddress l ip f = l.map fun x => if unmapped x.ip = unmapped ip then f x else x := by
  unfold updateAddress
  split
  · rename_i hnone
    rw [findIdx?_eq_none_iff] at hnone
    refine (map_id' l).symm.trans (map_congr_left fun x hx => ?_)
    have hne : ¬ unmapped x.ip = unmapped ip := by
      rw [← equal_iff_unmapped, hnone x hx]
      decide
    rw [if_neg hne]
  · rename_i p hp
    obtain ⟨hlt, hequal, -⟩ := findIdx?_eq_some_iff_getElem.mp hp
    rw [modify_eq_map hnodup (getElem?_eq_getElem hlt), equal_iff_unmapped.mp hequal]

omit hnodup
namespace PoolState
variable {N : Type} (ps : PoolState N) (addr : OutsideAddressState) (block : BlockAllocation)

def freeOn : OutsideAddressState :=
  if unmapped addr.ip = unmapped block.outsideIP then
    freeBlock addr (ps.blockIdx block.portBlockStart)
  else addr

theorem freeOn_ip : (ps.freeOn addr block).ip = addr.ip := by
  unfold freeOn
  split <;> rfl

theorem freeBlocks_eq_map (hnodup : (ps.outsideAddresses.map fun a => unmapped a.ip).Nodup)
    (blocks : List BlockAllocation) :
    ps.freeBlocks blocks = ps.outsideAddresses.map fun a => blocks.foldl ps.freeOn a := by
  unfold freeBlocks
  generalize ps.outsideAddresses = l at hnodup
  induction blocks generalizing l with
  | nil => simp
  | cons b blocks ih =>
    rw [foldl_cons, updateAddress_eq_map hnodup]
    have hkeys : ((l.map (ps.freeOn · b)).map fun a => unmapped a.ip).Nodup := by
      rw [List.map_map]
      have hsame : ((fun a => unmapped a.ip) ∘ fun a => ps.freeOn a b) =
          fun a : OutsideAddressState => unmapped a.ip := by
        funext a
        rw [comp_apply, freeOn_ip]
      rw [hsame]
      exact hnodup
    exact (ih _ hkeys).trans (by rw [List.map_map]; rfl)

theorem foldl_freeOn (blocks : List BlockAllocation) (a : OutsideAddressState) :
    (blocks.foldl ps.freeOn a).ip = a.ip ∧
      (blocks.foldl ps.freeOn a).totalBlocks = a.totalBlocks ∧
      (blocks.foldl ps.freeOn a).allocatedBits.length = a.allocatedBits.length ∧
      ∀ i, test (blocks.foldl ps.freeOn a).allocatedBits i = true ↔
        test a.allocatedBits i = true ∧
          ∀ b ∈ blocks, unmapped a.ip = unmapped b.outsideIP →
            ps.blockIdx b.portBlockStart ≠ i := by
  induction blocks generalizing a with
  | nil => simp
  | cons b blocks ih =>
    obtain ⟨hip, htotal, hlen, htest⟩ := ih (ps.freeOn a b)
    rw [foldl_cons]
    by_cases hon : unmapped a.ip = unmapped b.outsideIP
    · have hstep : ps.freeOn a b = freeBlock a (ps.blockIdx b.portBlockStart) := if_pos hon
      rw [hstep] at hip htotal hlen htest ⊢
      refine ⟨hip, htotal, hlen.trans (length_clearBit _ _), fun i => ?_⟩
      rw [htest i, forall_mem_cons]
      simp only [freeBlock, test_clearBit, Bool.and_eq_true, Bool.not_eq_true',
        decide_eq_false_iff_not, hon, forall_true_left, and_assoc, ne_eq]
    · have hstep : ps.freeOn a b = a := if_neg hon
      rw [hstep] at hip htotal hlen htest ⊢
      refine ⟨hip, htotal, hlen, fun i => ?_⟩
      rw [htest i, forall_mem_cons]
      simp only [hon, false_implies, true_and]

end PoolState

/-! ## The table of holders -/

/-- By outside address and number of the block: the subscriber that holds it, and
its place among the blocks of the subscriber. -/
abbrev Owners := IP → Nat → Option (SubscriberKey × Nat)

namespace Owners

def claim (o : Owners) (ip : IP) (i : Nat) (holder : SubscriberKey × Nat) : Owners :=
  fun ip' i' => if ip' = ip ∧ i' = i then some holder else o ip' i'

def release (o : Owners) (key : SubscriberKey) : Owners :=
  fun ip i => (o ip i).filter fun holder => holder.1 ≠ key

theorem claim_isSome (o : Owners) (ip : IP) (i : Nat) (holder : SubscriberKey × Nat) (ip' : IP)
    (i' : Nat) :
    (o.claim ip i holder ip' i').isSome = ((o ip' i').isSome || decide (ip' = ip ∧ i' = i)) := by
  unfold claim
  split <;> simp_all

theorem release_eq_some {ip : IP} {holder : SubscriberKey × Nat} :
    o.release key ip i = some holder ↔ o ip i = some holder ∧ holder.1 ≠ key := by
  simp [release, filter_eq_some_iff]

end Owners

namespace PoolState
variable {N : Type} (ps : PoolState N) {m : CGNATMapping N} {insideVRF swIfIndex : UInt32} {j : Nat}
  {a : OutsideAddressState} {c : BlockAllocation} {k : SubscriberKey} {insideIP : IP}

def Holds (key : SubscriberKey) (j : Nat) (b : BlockAllocation) : Prop :=
  ∃ sub, ps.subscribers key = some sub ∧ sub.blocks[j]? = some b

theorem Holds.unique {ps : PoolState N}
    (hb : ps.Holds key j b) (hc : ps.Holds key j c) : b = c := by
  obtain ⟨sub, hsub, hb⟩ := hb
  obtain ⟨sub', hsub', hc⟩ := hc
  rw [hsub] at hsub'
  cases hsub'
  rw [hb] at hc
  exact some_inj.mp hc

def blockCount (key : SubscriberKey) : Nat :=
  ((ps.subscribers key).map fun sub => sub.blocks.length).getD 0

theorem holds_addBlock {ps : PoolState N} {swIfIndex : UInt32} :
    (ps.addBlock key swIfIndex b).Holds k j c ↔
      ps.Holds k j c ∨ (k = key ∧ j = ps.blockCount key ∧ c = b) := by
  unfold Holds addBlock blockCount
  by_cases hk : k = key
  · rw [hk]
    cases hsub : ps.subscribers key with
    | none => simp [getElem?_singleton, eq_comm]
    | some sub =>
      simp only [getD_some, update_self, some.injEq, exists_eq_left',
        map_some, true_and]
      rw [getElem?_append]
      split
      · refine ⟨.inl, fun h => h.resolve_right fun hnew => ?_⟩
        omega
      · rw [getElem?_eq_none (by omega : sub.blocks.length ≤ j), getElem?_singleton]
        by_cases hj : j = sub.blocks.length
        · simp [hj, eq_comm]
        · have hpos : j - sub.blocks.length ≠ 0 := by omega
          simp [hj, hpos]
  · simp only [update_of_ne hk, hk, false_and, or_false]

structure Shape (ps : PoolState N) : Prop where
  ports : ps.config.getPortRangeStart ≤ ps.config.getPortRangeEnd
  size : ps.config.getBlockSize ≠ 0
  ipv4 : ∀ a ∈ ps.outsideAddresses, to4 a.ip ≠ []
  nodup : (ps.outsideAddresses.map fun a => unmapped a.ip).Nodup
  blocks : ∀ a ∈ ps.outsideAddresses, a.totalBlocks = ps.config.blocksPerAddr
  words : ∀ a ∈ ps.outsideAddresses, ps.config.blocksPerAddr ≤ 64 * a.allocatedBits.length

theorem Shape.map {ps ps' : PoolState N} (h : ps.Shape)
    {f : OutsideAddressState → OutsideAddressState} (hip : ∀ a, (f a).ip = a.ip)
    (htotal : ∀ a, (f a).totalBlocks = a.totalBlocks)
    (hlen : ∀ a, (f a).allocatedBits.length = a.allocatedBits.length)
    (hconfig : ps'.config = ps.config)
    (haddr : ps'.outsideAddresses = ps.outsideAddresses.map f) : ps'.Shape := by
  have hkeys : ps'.outsideAddresses.map (fun a => unmapped a.ip) =
      ps.outsideAddresses.map fun a => unmapped a.ip := by
    rw [haddr, List.map_map]
    refine map_congr_left fun a _ => ?_
    rw [comp_apply, hip]
  have hmem (P : OutsideAddressState → Prop) (hP : ∀ a ∈ ps.outsideAddresses, P (f a)) :
      ∀ a ∈ ps'.outsideAddresses, P a := by
    intro a ha
    rw [haddr, List.mem_map] at ha
    obtain ⟨x, hx, rfl⟩ := ha
    exact hP x hx
  refine ⟨hconfig ▸ h.ports, hconfig ▸ h.size, hmem _ fun a ha => ?_, hkeys ▸ h.nodup,
    hmem _ fun a ha => ?_, hmem _ fun a ha => ?_⟩
  · rw [hip]
    exact h.ipv4 a ha
  · rw [htotal, hconfig]
    exact h.blocks a ha
  · rw [hlen, hconfig]
    exact h.words a ha

/-- The pool keeps the table of holders: its bitmaps are the blocks that have
one, and its block lists are the blocks of each. -/
structure Refines (ps : PoolState N) (o : Owners) : Prop where
  bits : ∀ a ∈ ps.outsideAddresses, ∀ i, test a.allocatedBits i = (o (unmapped a.ip) i).isSome
  held : ∀ ip i key j, o ip i = some (key, j) → i < ps.config.blocksPerAddr ∧
    ∃ b, ps.Holds key j b ∧ unmapped b.outsideIP = ip ∧ ps.config.IsBlock i b
  listed : ∀ key j b, ps.Holds key j b →
    (∃ a ∈ ps.outsideAddresses, unmapped a.ip = unmapped b.outsideIP) →
    ∃ i, o (unmapped b.outsideIP) i = some (key, j)

theorem Refines.exists_isBlock {ps : PoolState N} (h : ps.Refines o) (hb : ps.Holds key j b)
    (hon : ∃ a ∈ ps.outsideAddresses, unmapped a.ip = unmapped b.outsideIP) :
    ∃ i, o (unmapped b.outsideIP) i = some (key, j) ∧ ps.config.IsBlock i b := by
  obtain ⟨i, hi⟩ := h.listed key j b hb hon
  obtain ⟨-, c, hc, -, hblock⟩ := h.held _ i key j hi
  rw [hb.unique hc]
  exact ⟨i, hb.unique hc ▸ hi, hblock⟩

theorem Refines.claim {ps : PoolState N} (h : ps.Refines o) (hshape : ps.Shape)
    (ha : a ∈ ps.outsideAddresses)
    (hi : i < ps.config.blocksPerAddr) (hfree : test a.allocatedBits i = false)
    (hip : unmapped b.outsideIP = unmapped a.ip)
    (hblock : ps.config.IsBlock i b) (key : SubscriberKey) (swIfIndex : UInt32) : Refines ({ ps with
        outsideAddresses := ps.outsideAddresses.map fun x : OutsideAddressState =>
          if unmapped x.ip = unmapped a.ip then markBlock x i else x }.addBlock key swIfIndex b)
      (o.claim (unmapped a.ip) i (key, ps.blockCount key)) := by
  have hnone : o (unmapped a.ip) i = none := by
    rw [h.bits a ha, isSome_eq_false_iff, isNone_iff_eq_none] at hfree
    exact hfree
  have hkeep (x : OutsideAddressState) :
      (if unmapped x.ip = unmapped a.ip then markBlock x i else x).ip = x.ip := by
    split <;> rfl
  refine ⟨fun x' hx' i' => ?_, fun ip i' k j hk => ?_, fun k j c hc hon => ?_⟩
  · obtain ⟨x, hx, rfl⟩ := mem_map.mp hx'
    rw [hkeep, Owners.claim_isSome, ← h.bits x hx]
    by_cases hxa : unmapped x.ip = unmapped a.ip
    · have hlt : i < 64 * x.allocatedBits.length := hi.trans_le (hshape.words x hx)
      rw [if_pos hxa, markBlock, test_setBit hlt]
      simp only [hxa, true_and, eq_comm]
    · simp [hxa]
  · simp only [holds_addBlock]
    unfold Owners.claim at hk
    split at hk
    · rename_i heq
      cases hk
      exact ⟨heq.2 ▸ hi, b, .inr ⟨rfl, rfl, rfl⟩, hip.trans heq.1.symm, heq.2 ▸ hblock⟩
    · obtain ⟨hlt, c, hc, hrest⟩ := h.held ip i' k j hk
      exact ⟨hlt, c, .inl hc, hrest⟩
  · rw [holds_addBlock] at hc
    rcases hc with hc | ⟨rfl, rfl, rfl⟩
    · have hon' : ∃ x ∈ ps.outsideAddresses, unmapped x.ip = unmapped c.outsideIP := by
        obtain ⟨x', hx', hequal⟩ := hon
        obtain ⟨x, hx, rfl⟩ := mem_map.mp hx'
        exact ⟨x, hx, by rwa [hkeep] at hequal⟩
      obtain ⟨i', hi'⟩ := h.listed k j c hc hon'
      refine ⟨i', ?_⟩
      unfold Owners.claim
      rw [if_neg, hi']
      rintro ⟨heq, rfl⟩
      rw [heq, hnone] at hi'
      cases hi'
    · exact ⟨i, if_pos ⟨hip, rfl⟩⟩

theorem Refines.addBlock {ps : PoolState N} (h : ps.Refines o)
    (hforeign : ∀ a ∈ ps.outsideAddresses, unmapped a.ip ≠ unmapped b.outsideIP)
    (key : SubscriberKey) (swIfIndex : UInt32) : (ps.addBlock key swIfIndex b).Refines o := by
  refine ⟨h.bits, fun ip i k j hk => ?_, fun k j c hc hon => ?_⟩
  · obtain ⟨hlt, c, hc, hrest⟩ := h.held ip i k j hk
    exact ⟨hlt, c, holds_addBlock.mpr (.inl hc), hrest⟩
  · rw [holds_addBlock] at hc
    rcases hc with hc | ⟨-, -, rfl⟩
    · exact h.listed k j c hc hon
    · obtain ⟨a, ha, hequal⟩ := hon
      exact absurd hequal (hforeign a ha)

theorem holds_release {ps : PoolState N} :
    (ps.releaseBlocks key).Holds k j b ↔ ps.Holds k j b ∧ k ≠ key := by
  unfold Holds releaseBlocks
  by_cases hk : k = key
  · rw [hk]
    split
    · rename_i hnone
      simp [hnone]
    · simp
  · split <;> simp [hk]

theorem Refines.release {ps : PoolState N} (h : ps.Refines o) (hshape : ps.Shape)
    (key : SubscriberKey) : (ps.releaseBlocks key).Refines (o.release key) := by
  have hconfig : (ps.releaseBlocks key).config = ps.config := by
    unfold releaseBlocks
    split <;> rfl
  have hbits : ∀ a ∈ (ps.releaseBlocks key).outsideAddresses, ∃ x ∈ ps.outsideAddresses,
      a.ip = x.ip ∧ ∀ i, test a.allocatedBits i = true ↔ test x.allocatedBits i = true ∧
        ∀ j b, ps.Holds key j b → unmapped x.ip = unmapped b.outsideIP →
          ps.blockIdx b.portBlockStart ≠ i := by
    intro a ha
    unfold releaseBlocks at ha
    split at ha
    · rename_i hnone
      refine ⟨a, ha, rfl, fun i => ⟨fun ht => ⟨ht, ?_⟩, fun ht => ht.1⟩⟩
      rintro j b ⟨sub, hsub, -⟩
      rw [hnone] at hsub
      cases hsub
    · rename_i sub hsub
      rw [freeBlocks_eq_map ps hshape.nodup, List.mem_map] at ha
      obtain ⟨x, hx, rfl⟩ := ha
      obtain ⟨hip, -, -, htest⟩ := foldl_freeOn ps sub.blocks x
      refine ⟨x, hx, hip, fun i => (htest i).trans (and_congr_right fun _ => ?_)⟩
      refine ⟨fun hall j b hb => ?_, fun hall b hb => ?_⟩
      · obtain ⟨sub', hsub', hj⟩ := hb
        rw [hsub] at hsub'
        cases hsub'
        exact hall b (mem_of_getElem? hj)
      · obtain ⟨j, hj⟩ := mem_iff_getElem?.mp hb
        exact hall j b ⟨sub, hsub, hj⟩
  refine ⟨fun a ha i => ?_, fun ip i k j hk => ?_, fun k j b hb hon => ?_⟩
  · obtain ⟨x, hx, hip, htest⟩ := hbits a ha
    rw [Bool.eq_iff_iff, htest i, h.bits x hx, hip, isSome_iff_exists, isSome_iff_exists]
    refine ⟨fun ⟨⟨holder, hholder⟩, hall⟩ => ?_, fun ⟨holder, hholder⟩ => ?_⟩
    · refine ⟨holder, Owners.release_eq_some.mpr ⟨hholder, fun hkey => ?_⟩⟩
      obtain ⟨-, b, hb, hbip, hblock⟩ := h.held _ i holder.1 holder.2 hholder
      rw [hkey] at hb
      exact hall _ b hb hbip.symm (hblock.div_eq hshape.size)
    · rw [Owners.release_eq_some] at hholder
      refine ⟨⟨holder, hholder.1⟩, fun j b hb hbip hidx => ?_⟩
      obtain ⟨i', hi', hblock⟩ := h.exists_isBlock hb ⟨x, hx, hbip⟩
      have hsame : i' = i := (hblock.div_eq hshape.size).symm.trans hidx
      rw [hsame, ← hbip, hholder.1] at hi'
      cases hi'
      exact hholder.2 rfl
  · rw [Owners.release_eq_some] at hk
    obtain ⟨hlt, b, hb, hbip, hblock⟩ := h.held ip i k j hk.1
    rw [hconfig]
    exact ⟨hlt, b, holds_release.mpr ⟨hb, hk.2⟩, hbip, hblock⟩
  · rw [holds_release] at hb
    obtain ⟨a, ha, hequal⟩ := hon
    obtain ⟨x, hx, hip, -⟩ := hbits a ha
    obtain ⟨i, hi⟩ := h.listed k j b hb.1 ⟨x, hx, by rw [← hip, hequal]⟩
    exact ⟨i, Owners.release_eq_some.mpr ⟨hi, hb.2⟩⟩

structure Sound (ps : PoolState N) : Prop where
  shape : ps.Shape
  refines : ∃ o, ps.Refines o

variable {ps ps' : PoolState N}

theorem markBlock_shape (h : ps.Shape) (ip : IP) (i : Nat) (hconfig : ps'.config = ps.config)
    (haddr : ps'.outsideAddresses = ps.outsideAddresses.map fun x =>
      if unmapped x.ip = unmapped ip then markBlock x i else x) : ps'.Shape := by
  refine h.map (fun a => ?_) (fun a => ?_) (fun a => ?_) hconfig haddr
  · split <;> rfl
  · split <;> rfl
  · split
    · exact length_setBit _ _
    · rfl

theorem unmapped_copy4 {ip : IP} (h : to4 ip ≠ []) : unmapped (copy4 (to4 ip)) = unmapped ip := by
  obtain ⟨hsame, hlen⟩ := unmapped_to4 h
  have hcopy : copy4 (to4 ip) = to4 ip := by
    rw [copy4, take_append_of_le_length (by omega), take_of_length_le (by omega)]
  rw [hcopy, hsame]

theorem allocateLocked_spec (h : ps.allocateLocked insideIP insideVRF swIfIndex = .ok (ps', m)) :
    ∃ p a i b, ps.outsideAddresses[p]? = some a ∧
      firstFree a.totalBlocks 0 a.allocatedBits = some i ∧
      b = ⟨copy4 (to4 a.ip), ps.config.getPortRangeStart + ofNat i * ps.config.getBlockSize,
        ps.config.getPortRangeStart + ofNat i * ps.config.getBlockSize +
          ps.config.getBlockSize - 1⟩ ∧ ps' = { ps with
        outsideAddresses := ps.outsideAddresses.modify p fun _ => markBlock a i }.addBlock
        (makeSubscriberKey insideVRF insideIP) swIfIndex b ∧
      m = ⟨ps.name, ps.id, to4 insideIP, insideVRF, b.outsideIP, b.portBlockStart, b.portBlockEnd,
        swIfIndex⟩ := by
  unfold allocateLocked at h
  dsimp only at h
  split at h
  · cases h
  split at h
  · cases h
  rename_i p _
  split at h
  · cases h
  rename_i a ha
  split at h
  · cases h
  rename_i i a' hblock
  obtain ⟨i', hi', heq⟩ := map_eq_some_iff.mp hblock
  cases heq
  cases h
  exact ⟨p, a, i, _, ha, hi', rfl, rfl, rfl⟩

theorem Sound.allocateLocked (h : ps.Sound)
    (hok : ps.allocateLocked insideIP insideVRF swIfIndex = .ok (ps', m)) : ps'.Sound := by
  obtain ⟨p, a, i, b, ha, hfirst, rfl, rfl, -⟩ := allocateLocked_spec hok
  obtain ⟨o, ho⟩ := h.refines
  have hmem := mem_of_getElem? ha
  obtain ⟨hi, -, -, hfree⟩ := firstFree_spec hfirst
  rw [h.shape.blocks a hmem] at hi
  have hmodify : (ps.outsideAddresses.modify p fun _ => markBlock a i) =
      ps.outsideAddresses.map fun x =>
        if unmapped x.ip = unmapped a.ip then markBlock x i else x := by
    rw [← modify_eq_map h.shape.nodup ha]
    refine ext_getElem? fun q => ?_
    rw [getElem?_modify, getElem?_modify]
    by_cases hpq : p = q
    · rw [← hpq, ha]
      rfl
    · simp [hpq]
  rw [hmodify]
  exact ⟨markBlock_shape h.shape a.ip i rfl rfl, _, ho.claim h.shape hmem hi hfree
    (unmapped_copy4 (h.shape.ipv4 a hmem))
    (Pool.isBlock_allocated h.shape.ports h.shape.size hi _) _ _⟩

theorem Sound.releaseBlocks (h : ps.Sound) (key : SubscriberKey) :
    (ps.releaseBlocks key).Sound := by
  obtain ⟨o, ho⟩ := h.refines
  refine ⟨?_, o.release key, ho.release h.shape key⟩
  unfold PoolState.releaseBlocks
  split
  · exact h.shape
  · rename_i sub _
    have hfold := foldl_freeOn ps sub.blocks
    exact h.shape.map (fun a => (hfold a).1) (fun a => (hfold a).2.1) (fun a => (hfold a).2.2.1)
      rfl (freeBlocks_eq_map ps h.shape.nodup sub.blocks)

/-- The mapping may be restored: its block is the subscriber's already, or on an
address the pool does not have, or a free block of the pool. -/
def Restorable (m : CGNATMapping N) (ifAbsent : Bool) : Prop :=
  (ifAbsent = true ∧ ps.hasBlock (makeSubscriberKey m.insideVRFID m.insideIP) m = true) ∨
    (∀ a ∈ ps.outsideAddresses, equal a.ip m.outsideIP = false) ∨
    ∃ a ∈ ps.outsideAddresses, equal a.ip m.outsideIP = true ∧ ∃ i < ps.config.blocksPerAddr,
      ps.config.IsBlock i ⟨m.outsideIP, m.portBlockStart, m.portBlockEnd⟩ ∧
        test a.allocatedBits i = false

theorem Sound.restore (h : ps.Sound) {ifAbsent : Bool}
    (hm : ps.Restorable m ifAbsent) : (ps.restore m ifAbsent).Sound := by
  obtain ⟨o, ho⟩ := h.refines
  unfold PoolState.restore
  dsimp only
  split
  · exact h
  · rename_i habsent
    rw [updateAddress_eq_map h.shape.nodup]
    have hshape : ∀ i, Shape ({ ps with
        outsideAddresses := ps.outsideAddresses.map fun x : OutsideAddressState =>
          if unmapped x.ip = unmapped m.outsideIP then markBlock x i else x }.addBlock
        (makeSubscriberKey m.insideVRFID m.insideIP) m.swIfIndex
        ⟨m.outsideIP, m.portBlockStart, m.portBlockEnd⟩) :=
      fun i => markBlock_shape h.shape m.outsideIP i rfl rfl
    refine ⟨hshape _, ?_⟩
    rcases hm with ⟨hif, hhas⟩ | hforeign | ⟨a, ha, hequal, i, hi, hblock, hfree⟩
    · rw [hif, hhas] at habsent
      exact absurd rfl habsent
    · have hne : ∀ a ∈ ps.outsideAddresses, unmapped a.ip ≠ unmapped m.outsideIP := by
        intro a ha
        rw [Ne, ← equal_iff_unmapped, hforeign a ha]
        decide
      have hsame : (ps.outsideAddresses.map fun x =>
          if unmapped x.ip = unmapped m.outsideIP then
            markBlock x (ps.blockIdx m.portBlockStart)
          else x) = ps.outsideAddresses := by
        refine (map_congr_left fun x hx => ?_).trans (map_id' _)
        rw [if_neg (hne x hx)]
      rw [hsame]
      exact ⟨o, ho.addBlock hne _ _⟩
    · rw [equal_iff_unmapped] at hequal
      have hidx : ps.blockIdx m.portBlockStart = i := hblock.div_eq h.shape.size
      rw [hidx, ← hequal]
      exact ⟨_, ho.claim h.shape ha hi hfree hequal.symm hblock _ _⟩

def Disjoint : Prop :=
  ∀ key j b key' j' b', ps.Holds key j b → ps.Holds key' j' b' → (key, j) ≠ (key', j') →
    (∃ a ∈ ps.outsideAddresses, equal a.ip b.outsideIP = true) →
    equal b.outsideIP b'.outsideIP = true →
    b.portBlockEnd < b'.portBlockStart ∨ b'.portBlockEnd < b.portBlockStart

def Exact (a : OutsideAddressState) : Prop :=
  (∀ i, test a.allocatedBits i = true ↔ i < a.totalBlocks ∧ ∃ key j b, ps.Holds key j b ∧
    equal a.ip b.outsideIP = true ∧ ps.config.IsBlock i b) ∧
  ∀ key j b, ps.Holds key j b → equal a.ip b.outsideIP = true → ∃ i, ps.config.IsBlock i b

theorem Sound.disjoint (h : ps.Sound) : ps.Disjoint := by
  intro key j b key' j' b' hb hb' hne hon hequal
  obtain ⟨o, ho⟩ := h.refines
  simp only [equal_iff_unmapped] at hon hequal
  obtain ⟨i, hi, hblock⟩ := ho.exists_isBlock hb hon
  obtain ⟨i', hi', hblock'⟩ := ho.exists_isBlock hb' (hequal ▸ hon)
  refine hblock.disjoint hblock' fun hsame => hne ?_
  rw [hequal, hsame, hi'] at hi
  exact (some_inj.mp hi).symm

theorem Sound.exact (h : ps.Sound) (ha : a ∈ ps.outsideAddresses) : ps.Exact a := by
  obtain ⟨o, ho⟩ := h.refines
  refine ⟨fun i => ?_, fun key j b hb hon => ?_⟩
  · rw [ho.bits a ha, isSome_iff_exists, h.shape.blocks a ha]
    refine ⟨fun ⟨holder, hholder⟩ => ?_, fun ⟨_, key, j, b, hb, hon, hblock⟩ => ?_⟩
    · obtain ⟨hlt, b, hb, hbip, hblock⟩ := ho.held _ i holder.1 holder.2 hholder
      exact ⟨hlt, _, _, b, hb, equal_iff_unmapped.mpr hbip.symm, hblock⟩
    · rw [equal_iff_unmapped] at hon
      obtain ⟨i', hi', hblock'⟩ := ho.exists_isBlock hb ⟨a, ha, hon⟩
      have hsame : i' = i := by
        rw [← hblock'.div_eq h.shape.size, hblock.div_eq h.shape.size]
      rw [hsame, ← hon] at hi'
      exact ⟨_, hi'⟩
  · obtain ⟨i, -, hblock⟩ := ho.exists_isBlock hb ⟨a, ha, equal_iff_unmapped.mp hon⟩
    exact ⟨i, hblock⟩

end PoolState
end Osvbng.Cgnat

import Osvbng.Cgnat.Ownership
import Osvbng.Lib.Run

/-!
# Runs of the pool manager

The pool manager under any sequence of its operations. It is locked during each,
so operations do not interleave.

`PoolManager.blocks_exclusive` says that no two held blocks overlap and that the
bitmaps are exactly the blocks held, in every run in which a pool lists no
outside address twice and a mapping is restored only if its block is free or
already its own. Nothing in the code asks for that, and in
`PoolManager.restore_shares_block` two subscribers end up with one block.
-/

namespace Osvbng.Cgnat
open List Lib Lib.NetIP Lib.Bitmap PoolManager Machine Bool

inductive PoolEvent (N : Type) where
  | configure (name : N) (id : UInt32) (cfg : Pool)
  | remove (name : N)
  | getOrAllocate (name : N) (insideIP : IP) (insideVRF swIfIndex : UInt32)
  | release (name : N) (insideIP : IP) (insideVRF : UInt32)
  | restore (mapping : CGNATMapping N) (ifAbsent : Bool)

namespace Pool

def outsideIPs (p : Pool) : List IP := p.outsideAddresses.flatMap fun e => (expandCIDR e).getD []

@[mk_iff]
structure WellFormed (p : Pool) : Prop where
  ports : p.getPortRangeStart ≤ p.getPortRangeEnd
  ipv4 : ∀ ip ∈ p.outsideIPs, to4 ip ≠ []
  nodup : (p.outsideIPs.map unmapped).Nodup

instance (p : Pool) : Decidable p.WellFormed := decidable_of_iff' _ p.wellFormed_iff

theorem blocksPerAddr_le_words {p : Pool} (h : p.WellFormed) :
    p.blocksPerAddr ≤ 64 * ((p.blocksPerAddr + 63) % 2 ^ 32 / 64) := by
  have hlt := p.getPortRangeEnd.toNat_lt
  have hle : p.blocksPerAddr ≤ 65536 := by
    rw [blocksPerAddr, UInt32.toNat_div, getPortRangeSize_toNat h.ports]
    exact (Nat.div_le_self _ _).trans (by omega)
  omega

end Pool

namespace PoolState
variable {N : Type}

theorem sound_configured {p : Pool} (h : p.WellFormed) (hsize : p.getBlockSize ≠ 0) (name : N)
    (id : UInt32) :
    Sound { name := name, id := id, config := p,
            outsideAddresses := newAddresses p p.blocksPerAddr p.outsideIPs,
            subscribers _ := none } := by
  have hmem (P : OutsideAddressState → Prop) (hP : ∀ ip ∈ p.outsideIPs, P
      ⟨ip, p.blocksPerAddr, replicate ((p.blocksPerAddr + 63) % 2 ^ 32 / 64) 0#64,
        p.excludedAddresses.contains (ipString ip)⟩) :
      ∀ a ∈ newAddresses p p.blocksPerAddr p.outsideIPs, P a := by
    intro a ha
    obtain ⟨ip, hip, rfl⟩ := mem_map.mp ha
    exact hP ip hip
  refine ⟨⟨h.ports, hsize, hmem _ h.ipv4, ?_, hmem _ fun _ _ => rfl, hmem _ fun _ _ => ?_⟩,
    fun _ _ => none, hmem _ fun _ _ i => ?_, by simp, ?_⟩
  · have hkeys : (newAddresses p p.blocksPerAddr p.outsideIPs).map (fun a => unmapped a.ip) =
        p.outsideIPs.map unmapped := by
      rw [newAddresses, map_map]
      rfl
    exact hkeys ▸ h.nodup
  · rw [length_replicate]
    exact Pool.blocksPerAddr_le_words h
  · exact test_replicate_zero _ _
  · rintro key j b ⟨sub, hsub, -⟩
    cases hsub

instance (ps : PoolState N) (m : CGNATMapping N) (ifAbsent : Bool) :
    Decidable (ps.Restorable m ifAbsent) :=
  inferInstanceAs (Decidable (_ ∨ _ ∨ _))

end PoolState

namespace PoolManager
variable {N : Type} [DecidableEq N] {pm : PoolManager N} {ps : PoolState N} {name : N}

def orSame (pm : PoolManager N) : Except (PoolError N) (PoolManager N) → PoolManager N
  | .ok pm' => pm'
  | .error _ => pm

def next (pm : PoolManager N) : PoolEvent N → Option (PoolManager N)
  | .configure name id cfg => (pm.configurePool name id cfg).map pm.orSame
  | .remove name => some (pm.removePool name)
  | .getOrAllocate name insideIP insideVRF swIfIndex =>
    some (pm.orSame ((pm.getOrAllocate name insideIP insideVRF swIfIndex).map Prod.fst))
  | .release name insideIP insideVRF => some (pm.orSame (pm.releaseBlocks name insideIP insideVRF))
  | .restore mapping ifAbsent => some (pm.orSame (pm.restoreLocked mapping ifAbsent))

def machine (N : Type) [DecidableEq N] : Machine (PoolManager N) (PoolEvent N) :=
  .ofNext (fun pm => pm = newPoolManager) next

/-- A pool is configured with each outside address once, and a mapping restored
only where the pool has it free. -/
def Careful (pm : PoolManager N) : PoolEvent N → Prop
  | .configure _ _ cfg => cfg.WellFormed
  | .restore mapping ifAbsent =>
    ∀ ps ∈ pm.pools mapping.poolName, ps.Restorable mapping ifAbsent
  | _ => True

instance (pm : PoolManager N) (e : PoolEvent N) : Decidable (Careful pm e) := by
  rcases e <;> dsimp only [Careful] <;> infer_instance

def Sound (pm : PoolManager N) : Prop := ∀ name ps, pm.pools name = some ps → ps.Sound

variable (h : pm.Sound)
include h

theorem Sound.put (name : N) (hps : ps.Sound) : (pm.put name ps).Sound := by
  intro name' ps' hps'
  rcases update_cases hps' with ⟨-, hps'⟩ | ⟨-, hps'⟩
  · cases hps'
    exact hps
  · exact h name' ps' hps'

theorem Sound.configurePool {id : UInt32}
    {cfg : Pool} (hcfg : cfg.WellFormed) {r : Except (PoolError N) (PoolManager N)}
    (hr : pm.configurePool name id cfg = some r) : (pm.orSame r).Sound := by
  unfold PoolManager.configurePool at hr
  split at hr
  · cases hr
  · rename_i hsize
    split at hr
    · cases hr
      exact h
    · cases hr
      exact h.put name (PoolState.sound_configured hcfg hsize name id)

theorem Sound.removePool (name : N) : (pm.removePool name).Sound := by
  intro name' ps hps
  rcases update_cases hps with ⟨-, hps⟩ | ⟨-, hps⟩
  · cases hps
  · exact h name' ps hps

theorem Sound.getOrAllocate (name : N) (insideIP : IP) (insideVRF swIfIndex : UInt32) :
    (pm.orSame ((pm.getOrAllocate name insideIP insideVRF swIfIndex).map Prod.fst)).Sound := by
  unfold PoolManager.getOrAllocate
  split
  · exact h
  · rename_i ps hps
    dsimp only
    split
    · exact h
    · cases hok : ps.allocateLocked insideIP insideVRF swIfIndex with
      | error e => exact h
      | ok r => exact h.put name ((h name ps hps).allocateLocked hok)

omit h

theorem Sound.next {pm pm' : PoolManager N} (h : pm.Sound) {e : PoolEvent N} (hc : Careful pm e)
    (hnext : pm.next e = some pm') : pm'.Sound := by
  cases e with
  | configure name id cfg =>
    obtain ⟨r, hr, rfl⟩ := Option.map_eq_some_iff.mp hnext
    exact h.configurePool hc hr
  | remove name =>
    cases hnext
    exact h.removePool name
  | getOrAllocate name insideIP insideVRF swIfIndex =>
    cases hnext
    exact h.getOrAllocate name insideIP insideVRF swIfIndex
  | release name insideIP insideVRF =>
    cases hnext
    unfold releaseBlocks
    split
    · exact h
    · rename_i ps hps
      exact h.put name ((h name ps hps).releaseBlocks _)
  | restore mapping ifAbsent =>
    cases hnext
    unfold restoreLocked
    split
    · exact h
    · rename_i ps hps
      exact h.put _ ((h _ ps hps).restore (hc ps hps))

/-- In every pool, no two held blocks overlap and the set bits of every address
are the blocks held on it. -/
theorem blocks_exclusive (h : (machine N).Reach Careful pm) (hps : pm.pools name = some ps) :
    ps.Disjoint ∧ ∀ a ∈ ps.outsideAddresses, ps.Exact a := by
  have hinit : Sound (newPoolManager : PoolManager N) := by
    intro name ps hps
    cases hps
  have hsound : pm.Sound :=
    Reach.invariant Sound (fun _ h => h ▸ hinit)
      (fun _ _ _ hs hc hnext => hs.next hc hnext) h
  exact ⟨(hsound name ps hps).disjoint, fun a ha => (hsound name ps hps).exact ha⟩

/-! ## One pool with one outside address -/

def oneAddress : Pool :=
  ⟨[.address [203, 0, 113, 1]], [], 0, 0, 0, some (1024, 2047), .unset⟩

def firstBlock (insideIP : IP) : CGNATMapping Nat :=
  ⟨0, 1, insideIP, 0, [203, 0, 113, 1], 1024, 1535, 7⟩

def hasFirst (pm : PoolManager Nat) (insideIP : IP) : Bool :=
  (pm.pools 0).any fun ps => decide (ps.outsideAddresses.map (·.ip) = [[203, 0, 113, 1]]) &&
    ((ps.subscribers (makeSubscriberKey 0 insideIP)).any fun sub =>
      decide (sub.blocks[0]? = some ⟨[203, 0, 113, 1], 1024, 1535⟩))

theorem exists_of_hasFirst {pm : PoolManager Nat} {insideIP : IP} (h : pm.hasFirst insideIP) :
    ∃ ps, pm.pools 0 = some ps ∧
      (∃ a ∈ ps.outsideAddresses, equal a.ip [203, 0, 113, 1] = true) ∧
      ps.Holds (makeSubscriberKey 0 insideIP) 0 ⟨[203, 0, 113, 1], 1024, 1535⟩ := by
  unfold hasFirst at h
  rw [Option.any_eq_true] at h
  obtain ⟨ps, hps, h⟩ := h
  rw [and_eq_true, decide_eq_true_iff, Option.any_eq_true] at h
  obtain ⟨hips, sub, hsub, hblock⟩ := h
  have hmem : [203, 0, 113, 1] ∈ ps.outsideAddresses.map (·.ip) := by
    rw [hips]
    exact mem_singleton.mpr rfl
  obtain ⟨a, ha, hip⟩ := mem_map.mp hmem
  exact ⟨ps, hps, ⟨a, ha, by rw [hip]; decide⟩, sub, hsub, of_decide_eq_true hblock⟩

theorem blocks_exclusive_restored :
    ∃ (pm : PoolManager Nat) (ps : PoolState Nat), pm.pools 0 = some ps ∧
      ps.Holds (makeSubscriberKey 0 [10, 0, 0, 2]) 0 ⟨[203, 0, 113, 1], 1024, 1535⟩ ∧
      ps.Disjoint ∧ ∀ a ∈ ps.outsideAddresses, ps.Exact a := by
  obtain ⟨pm, hpm, hfirst⟩ : ∃ pm : PoolManager Nat, (machine Nat).Reach Careful pm ∧
      pm.hasFirst [10, 0, 0, 2] = true :=
    exists_reach_of_run rfl
      [.configure 0 1 oneAddress, .getOrAllocate 0 [10, 0, 0, 1] 0 7, .release 0 [10, 0, 0, 1] 0,
        .restore (firstBlock [10, 0, 0, 2]) true, .getOrAllocate 0 [10, 0, 0, 1] 0 7] (by decide)
  obtain ⟨ps, hps, -, hholds⟩ := exists_of_hasFirst hfirst
  exact ⟨pm, ps, hps, hholds, blocks_exclusive hpm hps⟩

/-- A mapping is restored whose block another subscriber has got since. -/
theorem restore_shares_block :
    ∃ pm : PoolManager Nat, (machine Nat).Reach (fun _ _ => True) pm ∧
      ∃ ps, pm.pools 0 = some ps ∧ ¬ ps.Disjoint := by
  obtain ⟨pm, hpm, hfirst⟩ : ∃ pm : PoolManager Nat, (machine Nat).Reach (fun _ _ => True) pm ∧
      (pm.hasFirst [10, 0, 0, 1] && pm.hasFirst [10, 0, 0, 2]) = true :=
    exists_reach_of_run rfl
      [.configure 0 1 oneAddress, .getOrAllocate 0 [10, 0, 0, 1] 0 7,
        .restore (firstBlock [10, 0, 0, 2]) true] (by decide)
  rw [and_eq_true] at hfirst
  obtain ⟨ps, hps, hon, hholds⟩ := exists_of_hasFirst hfirst.1
  obtain ⟨ps', hps', -, hholds'⟩ := exists_of_hasFirst hfirst.2
  rw [hps] at hps'
  cases hps'
  refine ⟨pm, hpm, ps, hps, fun hdisjoint => ?_⟩
  exact absurd (hdisjoint _ 0 _ _ 0 _ hholds hholds' (by decide) hon (by decide)) (by decide)

end PoolManager
end Osvbng.Cgnat

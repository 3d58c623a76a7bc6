import Osvbng.Cgnat.Release

/-!
# A block the dataplane refuses

The callback of a refused mapping does not know the block: it releases the subscriber in
the pool of the activation and in VRF 0, with whatever the subscriber holds by then.
`Component.freed_iff` says when this takes back the attempt and nothing else. `stolen` is a
run in which the callback of one session takes the block that another has got since.
-/

namespace Osvbng.Cgnat
open List Function Lib Lib.NetIP Lib.Slice Ha Machine PoolManager

namespace Component
variable (decode : Bytes → Option SessionMapping) (c : Component) (s : String)

/-- The steps of the callback of a request that has failed. -/
def fail (r : Request) : Component :=
  r.onError.foldl (fun c step => (c.perform decode s step).1) c

/-- The blocks `new` have been added to those of a subscriber, and nothing else. -/
def Added (name : String) (key : SubscriberKey) (new : List BlockAllocation)
    (pm pm' : PoolManager String) : Prop :=
  ∀ n k, pm'.blocksOf n k =
    if n = name ∧ k = key then pm.blocksOf n k ++ new else pm.blocksOf n k

/-- The blocks `new` of a subscriber are freed, and nothing else. -/
def Freed (name : String) (key : SubscriberKey) (new : List BlockAllocation)
    (pm pm' : PoolManager String) : Prop :=
  ∀ n k, pm'.blocksOf n k =
    if n = name ∧ k = key then (pm.blocksOf n k).filter (· ∉ new) else pm.blocksOf n k

variable {decode c s} {name poolName : String} {key : SubscriberKey} {new : List BlockAllocation}
  {insideIP : IP} {m : SessionMapping} {finish : List Step}

theorem pools_fail (c₂ : Component) :
    (c₂.fail decode s (c.addRequest poolName m insideIP finish)).pools =
      c₂.pools.orSame (c₂.pools.releaseBlocks poolName insideIP 0) := rfl

theorem sound_releaseBlocks {pm : PoolManager String} (h : pm.Sound) :
    (pm.orSame (pm.releaseBlocks poolName insideIP 0)).Sound :=
  h.next (e := .release poolName insideIP 0) trivial rfl

theorem freed_releaseBlocks_iff (pm : PoolManager String) :
    Freed name key new pm (pm.orSame (pm.releaseBlocks poolName insideIP 0)) ↔
      if name = poolName ∧ key = makeSubscriberKey 0 insideIP then
        ∀ b ∈ pm.blocksOf name key, b ∈ new
      else pm.blocksOf poolName (makeSubscriberKey 0 insideIP) = [] ∧
        ∀ b ∈ pm.blocksOf name key, b ∉ new := by
  unfold Freed
  simp only [blocksOf_releaseBlocks]
  split
  · rename_i hat
    obtain ⟨rfl, rfl⟩ := hat
    constructor
    · intro h
      have hall := h name (makeSubscriberKey 0 insideIP)
      simpa [eq_comm (a := []), filter_eq_nil_iff] using hall
    · intro h n k
      split
      · rename_i hat
        obtain ⟨rfl, rfl⟩ := hat
        simpa [eq_comm (a := []), filter_eq_nil_iff] using h
      · rfl
  · rename_i hne
    constructor
    · intro h
      have hold := h poolName (makeSubscriberKey 0 insideIP)
      have hnew := h name key
      rw [if_pos ⟨rfl, rfl⟩, if_neg fun hat => hne ⟨hat.1.symm, hat.2.symm⟩] at hold
      rw [if_neg hne, if_pos ⟨rfl, rfl⟩, eq_comm, filter_eq_self] at hnew
      exact ⟨hold.symm, by simpa using hnew⟩
    · rintro ⟨hold, hnew⟩ n k
      split
      · rename_i hat
        obtain ⟨rfl, rfl⟩ := hat
        rw [if_neg fun hat => hne ⟨hat.1.symm, hat.2.symm⟩, hold]
      · split
        · rename_i hat
          obtain ⟨rfl, rfl⟩ := hat
          rw [eq_comm, filter_eq_self]
          simpa using hnew
        · rfl

theorem restored_of_tryRestore {opdb : Store} {pm pools : PoolManager String} {ifIndex : UInt32}
    (h : tryRestoreSyncedMapping decode opdb pm s ifIndex = some (m, pools)) :
    pm.restoreMappingIfAbsent m.toCGNATMapping = .ok pools := by
  obtain ⟨found, -, h⟩ := Option.bind_eq_some_iff.mp h
  obtain ⟨m', -, h⟩ := Option.bind_eq_some_iff.mp h
  dsimp only at h
  split at h
  · cases h
  · rename_i hrestore
    cases h
    exact hrestore

/-- An attempt adds its block to a subscriber that has none, or a block of the peer to those
there are. When the dataplane refuses it, the callback frees exactly that block if and only if
the subscriber has no other in the pool of the activation by then; and a block of the peer must
be one of that pool and of VRF 0, or gone. -/
theorem freed_iff (decode : Bytes → Option SessionMapping) (c : Component) (s : String)
    (sess : SubscriberSession) (poolName : String) :
    (∀ c₁ r, c.perform decode s (.allocate sess poolName) = (c₁, []) →
      c₁.requests s = c.requests s ++ [r] →
      Added poolName (makeSubscriberKey 0 sess.ipv4Address) [r.block] c.pools c₁.pools ∧
      ∀ c₂ : Component, (c₂.pools.Sound → (c₂.fail decode s r).pools.Sound) ∧
        (Freed poolName (makeSubscriberKey 0 sess.ipv4Address) [r.block] c₂.pools
            (c₂.fail decode s r).pools ↔
          ∀ b ∈ c₂.pools.blocksOf poolName (makeSubscriberKey 0 sess.ipv4Address),
            b = r.block)) ∧
    ∀ m pools c₁ r,
      tryRestoreSyncedMapping decode c.receiver.opdb c.pools s sess.ifIndex = some (m, pools) →
      c.perform decode s (.restoreSynced sess poolName) = (c₁, []) →
      c₁.requests s = c.requests s ++ [r] →
      ∃ new, (new = [] ∨ new = [r.block]) ∧
        Added m.poolName (subscriberOf m) new c.pools c₁.pools ∧
        ∀ c₂ : Component, (c₂.pools.Sound → (c₂.fail decode s r).pools.Sound) ∧
          (Freed m.poolName (subscriberOf m) new c₂.pools (c₂.fail decode s r).pools ↔
            if m.poolName = poolName ∧ m.insideVRFID = 0 then
              ∀ b ∈ c₂.pools.blocksOf m.poolName (subscriberOf m), b ∈ new
            else c₂.pools.blocksOf poolName (makeSubscriberKey 0 m.insideIP) = [] ∧
              ∀ b ∈ c₂.pools.blocksOf m.poolName (subscriberOf m), b ∉ new) := by
  refine ⟨fun c₁ r hperform hr => ?_, fun m pools c₁ r htry hperform hr => ?_⟩
  · rw [perform] at hperform
    split at hperform
    · cases hperform
    · rename_i pools m isNew hget
      dsimp only at hperform
      split at hperform
      · rename_i hnew
        subst hnew
        cases hperform
        obtain ⟨hnil, hspec⟩ := getOrAllocate_spec hget
        obtain ⟨-, -, hblocks⟩ := hspec rfl
        obtain rfl : c.addRequest poolName ⟨m, s⟩ sess.ipv4Address [.done] = r := by
          simpa [request, give] using hr
        refine ⟨fun n k => ?_, fun c₂ => ⟨sound_releaseBlocks, ?_⟩⟩
        · refine (hblocks n k).trans ?_
          split
          · rename_i hat
            rw [hat.1, hat.2, hnil.mp rfl]
            rfl
          · rfl
        · rw [pools_fail, freed_releaseBlocks_iff, if_pos ⟨rfl, rfl⟩]
          simp
      · simp [commitMapping] at hperform
  · rw [perform, htry] at hperform
    cases hperform
    obtain rfl : c.addRequest poolName m m.insideIP [.deleteSynced, .done] = r := by
      simpa [request, give] using hr
    have hrestore := restored_of_tryRestore htry
    cases hps : c.pools.pools m.poolName with
    | none =>
      rw [restoreMappingIfAbsent, restoreLocked, hps] at hrestore
      cases hrestore
    | some ps =>
      obtain ⟨hok, -, hblocks⟩ := restoreMappingIfAbsent_spec hps
      cases hok.symm.trans hrestore
      refine ⟨_, ?_, hblocks, fun c₂ => ⟨sound_releaseBlocks, ?_⟩⟩
      · split
        · exact .inl rfl
        · exact .inr rfl
      · have hkey : subscriberOf m = makeSubscriberKey 0 m.insideIP ↔ m.insideVRFID = 0 :=
          SubscriberKey.mk.injEq .. ▸ and_iff_left rfl
        simp only [pools_fail, freed_releaseBlocks_iff, hkey]

/-- The dataplane refuses the block of a session, when another one has a block in the pool. -/
theorem freed_iff_second :
    ∃ c c₁ r, (machine fun _ => none).Reach (fun _ _ => True) c ∧
      c.pools.blocksOf "cgn" (makeSubscriberKey 0 [10, 0, 0, 2]) ≠ [] ∧
      c.perform (fun _ => none) "s2" (.allocate (sessionAt [10, 0, 0, 3]) "cgn") = (c₁, []) ∧
      c₁.requests "s2" = c.requests "s2" ++ [r] ∧
      Freed "cgn" (makeSubscriberKey 0 [10, 0, 0, 3]) [r.block] c₁.pools
        (c₁.fail (fun _ => none) "s2" r).pools := by
  obtain ⟨c, hc, hother, hsteps, hnil, hone, hblocks⟩ :
      ∃ c, (machine fun _ => none).Reach (fun _ _ => True) c ∧
        c.pools.blocksOf "cgn" (makeSubscriberKey 0 [10, 0, 0, 2]) ≠ [] ∧
        let result := c.perform (fun _ => none) "s2" (.allocate (sessionAt [10, 0, 0, 3]) "cgn")
        result.2.length = 0 ∧ (c.requests "s2").length = 0 ∧ (result.1.requests "s2").length = 1 ∧
        ∀ b ∈ result.1.pools.blocksOf "cgn" (makeSubscriberKey 0 [10, 0, 0, 3]),
          ∀ r ∈ result.1.requests "s2", b = r.block :=
    exists_reach_of_run rfl (started ++ activated "s1" [10, 0, 0, 2] ++ answered "s1" ++
      (activated "s2" [10, 0, 0, 3]).take 3) (by decide +kernel)
  generalize hperform : c.perform (fun _ => none) "s2" (.allocate (sessionAt [10, 0, 0, 3]) "cgn") =
    result at hsteps hone hblocks
  obtain ⟨c₁, steps⟩ := result
  cases length_eq_zero_iff.mp hsteps
  obtain ⟨r, hr⟩ := length_eq_one_iff.mp hone
  have hrequests : c₁.requests "s2" = c.requests "s2" ++ [r] := by
    rw [length_eq_zero_iff.mp hnil]
    exact hr
  refine ⟨c, c₁, r, hc, hother, hperform, hrequests, ?_⟩
  refine (((freed_iff (fun _ => none) c "s2" (sessionAt [10, 0, 0, 3]) "cgn").1 c₁ r hperform
    hrequests).2 c₁).2.mpr fun b hb => hblocks b hb r ?_
  rw [hr]
  exact mem_singleton_self r

/-! ## A block that is not the callback's -/

/-- A session of another subscriber's address finds its block and is recorded with it. -/
def shared (s : String) (ip : IP) : List Event :=
  activated s ip ++ replicate 3 (.step s 0)

/-- The dataplane refuses a block of `s1`. Before that, `s2` had got the address and the block and
left, `s3` had got the block, and `s4` the address and another block. -/
theorem stolen :
    ∃ c, (machine fun _ => none).Reach (fun _ _ => True) c ∧
      (c.requests "s1").map (·.block) = [⟨[203, 0, 113, 1], 1024, 1535⟩] ∧
      c.pools.blocksOf "cgn" (makeSubscriberKey 0 [10, 0, 0, 2]) =
        [⟨[203, 0, 113, 1], 1536, 2047⟩] ∧
      c.committed "s4" ≠ none ∧
      ∃ c' ∈ run (next fun _ => none) (fun _ _ => True) c [.reply "s1" 0 false, .step "s1" 0],
        c'.pools.blocksOf "cgn" (makeSubscriberKey 0 [10, 0, 0, 2]) = [] :=
  exists_reach_of_run rfl (started ++ activated "s1" [10, 0, 0, 2] ++ shared "s2" [10, 0, 0, 2] ++
    released "s2" [10, 0, 0, 2] ++ activated "s3" [10, 0, 0, 3] ++ activated "s4" [10, 0, 0, 2] ++
    answered "s4") (by decide +kernel)

end Component
end Osvbng.Cgnat

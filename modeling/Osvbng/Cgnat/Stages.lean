import Osvbng.Cgnat.Component

/-!
# The stages of a session

Where a session is between its activation and the end of its release, as long as
its events are handled one after the other and no other session has its address.
A stage says which handler the session has, which request is under way for it, and
in which of the tables it stands. `Stage.Next` is the way of a session through them.

`Staged` relates the component to an assignment of stages. `Staged.set` is the rule
by which one session goes to another stage, with `Own.frame` for the others and
`Blocks.same`, `Blocks.give` and `Blocks.free` for the pools.
-/

namespace Osvbng.Cgnat
open Function Option List Lib Lib.NetIP Ha PoolState

/-! ## The blocks of a subscriber -/

theorem PoolState.blocks_addBlock {N : Type} (ps : PoolState N) (key : SubscriberKey)
    (swIfIndex : UInt32) (b : BlockAllocation) (key' : SubscriberKey) :
    ((ps.addBlock key swIfIndex b).subscribers key').elim [] (·.blocks) =
      if key' = key then (ps.subscribers key').elim [] (·.blocks) ++ [b]
      else (ps.subscribers key').elim [] (·.blocks) := by
  unfold addBlock
  dsimp only
  by_cases hkey : key' = key
  · rw [if_pos hkey, hkey, update_self]
    cases ps.subscribers key with
    | none | some => rfl
  · rw [if_neg hkey, update_of_ne hkey]

namespace PoolManager
variable {N : Type}

def blocksOf (pm : PoolManager N) (poolName : N) (key : SubscriberKey) : List BlockAllocation :=
  ((pm.pools poolName).bind fun ps => ps.subscribers key).elim [] (·.blocks)

def Named (pm : PoolManager N) : Prop := ∀ name ps, pm.pools name = some ps → ps.name = name

variable [DecidableEq N] {pm : PoolManager N} {poolName : N} {insideIP : IP}

theorem blocksOf_put (pm : PoolManager N) (name : N) (ps : PoolState N) (name' : N)
    (key : SubscriberKey) :
    (pm.put name ps).blocksOf name' key =
      if name' = name then (ps.subscribers key).elim [] (·.blocks) else pm.blocksOf name' key := by
  unfold blocksOf put
  dsimp only
  split
  · rename_i heq
    rw [heq, update_self]
    rfl
  · rename_i hne
    rw [update_of_ne hne]

theorem blocksOf_put_of_blocks {ps ps' : PoolState N} (hps : pm.pools poolName = some ps)
    {key₀ : SubscriberKey} {l : List BlockAllocation}
    (hblocks : ∀ key, (ps'.subscribers key).elim [] (·.blocks) =
      if key = key₀ then l else (ps.subscribers key).elim [] (·.blocks))
    (name : N) (key : SubscriberKey) : (pm.put poolName ps').blocksOf name key =
      if name = poolName ∧ key = key₀ then l else pm.blocksOf name key := by
  rw [blocksOf_put, hblocks]
  by_cases hname : name = poolName
  · rw [if_pos hname, hname]
    by_cases hkey : key = key₀
    · rw [if_pos hkey, if_pos ⟨rfl, hkey⟩]
    · rw [if_neg hkey, if_neg fun h => hkey h.2, blocksOf, hps]
      rfl
  · rw [if_neg hname, if_neg fun h => hname h.1]

theorem Named.put (h : pm.Named) {name : N} {ps : PoolState N}
    (hname : ps.name = name) : (pm.put name ps).Named := by
  intro name' ps' hps'
  rcases update_cases hps' with ⟨heq, hps'⟩ | ⟨-, hps'⟩
  · cases hps'
    rw [hname, heq]
  · exact h name' ps' hps'

theorem makeSubscriberKey_to4 (vrf : UInt32) {ip : IP} (h : to4 ip ≠ []) :
    makeSubscriberKey vrf (to4 ip) = makeSubscriberKey vrf ip := by
  have hfour : to4 (to4 ip) = to4 ip := by
    have hlen := (unmapped_to4 h).2
    unfold to4 at hlen ⊢
    rw [if_pos hlen]
  rw [makeSubscriberKey, hfour]
  rfl

theorem getOrAllocate_spec {pm pm' : PoolManager N} {swIfIndex : UInt32} {m : CGNATMapping N}
    {isNew : Bool} (h : pm.getOrAllocate poolName insideIP 0 swIfIndex = .ok (pm', m, isNew)) :
    (isNew = true ↔ pm.blocksOf poolName (makeSubscriberKey 0 insideIP) = []) ∧
      (isNew = true → (pm.Named → m.poolName = poolName ∧ pm'.Named) ∧
        (to4 insideIP ≠ [] →
          makeSubscriberKey m.insideVRFID m.insideIP = makeSubscriberKey 0 insideIP) ∧
        ∀ name key, pm'.blocksOf name key =
          if name = poolName ∧ key = makeSubscriberKey 0 insideIP then
            [⟨m.outsideIP, m.portBlockStart, m.portBlockEnd⟩]
          else pm.blocksOf name key) := by
  unfold getOrAllocate at h
  split at h
  · cases h
  · rename_i ps hps
    have hblocksOf : pm.blocksOf poolName (makeSubscriberKey 0 insideIP) =
        (ps.subscribers (makeSubscriberKey 0 insideIP)).elim [] (·.blocks) := by
      rw [blocksOf, hps]
      rfl
    rw [hblocksOf]
    dsimp only at h
    split at h
    · rename_i sub b hsome hhead
      cases h
      rw [hsome, bind_some] at hhead
      rw [hsome, elim_some]
      refine ⟨⟨nofun, fun hnil => ?_⟩, nofun⟩
      rw [hnil] at hhead
      cases hhead
    · rename_i hnone
      have hsub : (ps.subscribers (makeSubscriberKey 0 insideIP)).elim [] (·.blocks) = [] := by
        cases hold : ps.subscribers (makeSubscriberKey 0 insideIP) with
        | none => rfl
        | some sub =>
          refine head?_eq_none_iff.mp (eq_none_iff_forall_ne_some.mpr fun b hb => ?_)
          exact hnone sub b hold (by rw [hold]; exact hb)
      cases halloc : ps.allocateLocked insideIP 0 swIfIndex with
      | error e =>
        rw [halloc] at h
        cases h
      | ok r =>
        rw [halloc] at h
        cases h
        obtain ⟨p, a, i, b, -, -, -, hps', hm⟩ := allocateLocked_spec halloc
        have hblocks key : (r.1.subscribers key).elim [] (·.blocks) =
            if key = makeSubscriberKey 0 insideIP then [b]
            else (ps.subscribers key).elim [] (·.blocks) := by
          rw [hps', blocks_addBlock]
          split
          · rename_i heq
            rw [heq, hsub, nil_append]
          · rfl
        refine ⟨iff_of_true rfl hsub, fun _ =>
          ⟨fun hnamed => ⟨?_, hnamed.put ?_⟩, fun hip => ?_, ?_⟩⟩
        · rw [hm]
          exact hnamed poolName ps hps
        · rw [hps']
          exact hnamed poolName ps hps
        · rw [hm]
          exact makeSubscriberKey_to4 0 hip
        · rw [hm]
          exact blocksOf_put_of_blocks hps hblocks

theorem restoreMappingIfAbsent_spec {pm : PoolManager String} {m : CGNATMapping String}
    {ps : PoolState String} (hps : pm.pools m.poolName = some ps) :
    pm.restoreMappingIfAbsent m = .ok (pm.put m.poolName (ps.restore m true)) ∧
      (ps.restore m true).name = ps.name ∧
      ∀ name key, (pm.put m.poolName (ps.restore m true)).blocksOf name key =
        if name = m.poolName ∧ key = subscriberOf m then
          pm.blocksOf name key ++ if ps.hasBlock (subscriberOf m) m then [] else [blockOf m]
        else pm.blocksOf name key := by
  refine ⟨by rw [restoreMappingIfAbsent, restoreLocked, hps], ?_, fun name key => ?_⟩
  · unfold restore
    dsimp only
    split
    · rfl
    · rfl
  · have hrestore : ps.restore m true = if ps.hasBlock (subscriberOf m) m then ps else
        { ps with
          outsideAddresses := updateAddress ps.outsideAddresses m.outsideIP fun addr =>
            markBlock addr (ps.blockIdx m.portBlockStart) }.addBlock (subscriberOf m) m.swIfIndex
          (blockOf m) := rfl
    rw [blocksOf_put, hrestore]
    by_cases hname : name = m.poolName
    · have hblocks : pm.blocksOf name key = (ps.subscribers key).elim [] (·.blocks) := by
        rw [blocksOf, hname, hps]
        rfl
      rw [if_pos hname, hblocks]
      split
      · rw [append_nil, ite_self]
      · rw [blocks_addBlock]
        exact ite_congr (propext (and_iff_right hname).symm) (fun _ => rfl) fun _ => rfl
    · rw [if_neg hname, if_neg fun h => hname h.1]

theorem blocksOf_releaseBlocks (pm : PoolManager N) (poolName : N) (insideIP : IP)
    (name : N) (key : SubscriberKey) :
    (pm.orSame (pm.releaseBlocks poolName insideIP 0)).blocksOf name key =
      if name = poolName ∧ key = makeSubscriberKey 0 insideIP then []
      else pm.blocksOf name key := by
  unfold releaseBlocks
  split
  · rename_i hnone
    split
    · rename_i heq
      rw [heq.1, orSame, blocksOf, hnone]
      rfl
    · rfl
  · rename_i ps hps
    refine blocksOf_put_of_blocks hps (fun key => ?_) name key
    · unfold PoolState.releaseBlocks
      split
      · rename_i hnone
        split
        · rename_i heq
          rw [heq, hnone]
          rfl
        · rfl
      · dsimp only
        split
        · rename_i heq
          rw [heq, update_self]
          rfl
        · rename_i hne
          rw [update_of_ne hne]

theorem Named.releaseBlocks (h : pm.Named) (poolName : N) (insideIP : IP) :
    (pm.orSame (pm.releaseBlocks poolName insideIP 0)).Named := by
  unfold PoolManager.releaseBlocks
  split
  · exact h
  · rename_i ps hps
    refine h.put ?_
    unfold PoolState.releaseBlocks
    split
    · exact h poolName ps hps
    · exact h poolName ps hps

omit [DecidableEq N] in
theorem getMappings_of_singleton
    {b : BlockAllocation} (h : pm.blocksOf poolName (makeSubscriberKey 0 insideIP) = [b]) :
    ∃ id swIfIndex, pm.getMappings poolName insideIP 0 =
      [⟨poolName, id, to4 insideIP, 0, b.outsideIP, b.portBlockStart, b.portBlockEnd,
        swIfIndex⟩] := by
  unfold blocksOf at h
  unfold getMappings
  cases hps : pm.pools poolName with
  | none =>
    rw [hps] at h
    cases h
  | some ps =>
    rw [hps, bind_some] at h
    dsimp only
    cases hsub : ps.subscribers (makeSubscriberKey 0 insideIP) with
    | none =>
      rw [hsub] at h
      cases h
    | some sub =>
      rw [hsub] at h
      change sub.blocks = [b] at h
      dsimp only
      rw [h]
      exact ⟨ps.id, sub.swIfIndex, rfl⟩

end PoolManager

/-! ## Stages -/

structure Grant where
  mapping : SessionMapping
  insideIP : IP

namespace Grant
variable (g : Grant)

def poolName : String := g.mapping.poolName

def key : SubscriberKey := subscriberOf g.mapping

def block : BlockAllocation := blockOf g.mapping

structure Of (g : Grant) (s : String) : Prop where
  sessionID : g.mapping.sessionID = s
  key : makeSubscriberKey 0 g.insideIP = g.key
  ip : to4 g.insideIP ≠ []

end Grant

inductive Stage where
  | clean
  /-- The activation has taken nothing yet. -/
  | begun (step : Step)
  | waiting (g : Grant) (r : Request)
  | failing (g : Grant)
  | taken (g : Grant)
  | recorded (g : Grant)
  | indexed (g : Grant)
  | stored (g : Grant)
  | mapped (g : Grant)
  /-- The release has the mapping that was found in the pool. -/
  | leaving (g : Grant) (sess : SubscriberSession)
  | removing (g : Grant) (m : CGNATMapping String)
  | unindexing (g : Grant) (m : CGNATMapping String)
  | releasing (g : Grant)
  | dropping (g : Grant)
  | forgetting (g : Grant)

namespace Stage

def handlers : Stage → List (List Step)
  | clean => []
  | begun step => [[step]]
  | waiting _ _ => []
  | failing g => [[.releaseBlocks g.poolName g.insideIP, .done]]
  | taken g => [[.setPool g.poolName g.mapping, .addReverse g.mapping, .put g.mapping, .done]]
  | recorded g => [[.addReverse g.mapping, .put g.mapping, .done]]
  | indexed g => [[.put g.mapping, .done]]
  | stored _ => [[.done]]
  | mapped _ => []
  | leaving g sess => [[.getMappings sess g.poolName]]
  | removing g m => [[.remove g.poolName m, .removeReverse m.outsideIP m.portBlockStart,
      .releaseBlocks g.poolName g.insideIP, .deletePool, .deletePersisted]]
  | unindexing g m => [[.removeReverse m.outsideIP m.portBlockStart,
      .releaseBlocks g.poolName g.insideIP, .deletePool, .deletePersisted]]
  | releasing g => [[.releaseBlocks g.poolName g.insideIP, .deletePool, .deletePersisted]]
  | dropping _ => [[.deletePool, .deletePersisted]]
  | forgetting _ => [[.deletePersisted]]

theorem handlers_eq (S : Stage) : S.handlers = [] ∨ ∃ steps, S.handlers = [steps] := by
  cases S with
  | clean | waiting g r | mapped g => exact .inl rfl
  | _ => exact .inr ⟨_, rfl⟩

def pool : Stage → Option String
  | recorded g | indexed g | stored g | mapped g | leaving g _ | removing g _ | unindexing g _
  | releasing g | dropping g => some g.poolName
  | _ => none

def activating : Stage → Bool
  | begun _ | waiting _ _ | failing _ | taken _ | recorded _ | indexed _ | stored _ => true
  | _ => false

def persisted : Stage → Option SessionMapping
  | stored g | mapped g | leaving g _ | removing g _ | unindexing g _ | releasing g | dropping g
  | forgetting g => some g.mapping
  | _ => none

def block : Stage → Option SessionMapping
  | waiting g _ | failing g | taken g | recorded g | indexed g | stored g | mapped g | leaving g _
  | removing g _ | unindexing g _ | releasing g => some g.mapping
  | _ => none

def entry : Stage → Option SessionMapping
  | indexed g | stored g | mapped g | leaving g _ | removing g _ | unindexing g _ =>
    some g.mapping
  | _ => none

def key : Stage → Option SubscriberKey
  | clean => none
  | begun (.classify sess _) | begun (.restoreSynced sess _) | begun (.allocate sess _) =>
    some (makeSubscriberKey 0 sess.ipv4Address)
  | begun _ => none
  | waiting g _ | failing g | taken g | recorded g | indexed g | stored g | mapped g | leaving g _
  | removing g _ | unindexing g _ | releasing g | dropping g | forgetting g => some g.key

/-- Until a release the last event of the session is an activation. -/
def activated : Stage → Bool
  | begun _ | waiting _ _ | failing _ | taken _ | recorded _ | indexed _ | stored _ | mapped _ =>
    true
  | _ => false

def asking : Stage → Option (Grant × Request)
  | waiting g r => some (g, r)
  | _ => none

variable {S : Stage} {r : Request}

theorem eq_of_asking {g : Grant} (h : S.asking = some (g, r)) : S = waiting g r := by
  cases S <;> cases h
  rfl

def recording : Stage → Option SessionMapping
  | recorded g | indexed g | stored g | mapped g | leaving g _ | removing g _ | unindexing g _
  | releasing g | dropping g => some g.mapping
  | _ => none

def Valid (s : String) : Stage → Prop
  | clean => True
  | begun (.classify _ _) => True
  | begun (.restoreSynced sess _) | begun (.allocate sess _) => to4 sess.ipv4Address ≠ []
  | begun step => step = .done
  | waiting g r => g.Of s ∧ r.isAdd = true ∧
      r.onError = [.releaseBlocks g.poolName g.insideIP, .done] ∧
      r.onSuccess = [.setPool g.poolName g.mapping, .addReverse g.mapping, .put g.mapping, .done]
  | leaving g sess => g.Of s ∧ sess.ipv4Address = g.insideIP
  | removing g m | unindexing g m => g.Of s ∧ blockOf m = g.block ∧ subscriberOf m = g.key
  | failing g | taken g | recorded g | indexed g | stored g | mapped g | releasing g
  | dropping g | forgetting g => g.Of s

def Removal (r : Request) : Prop := r.isAdd = false ∧ r.onError = [] ∧ r.onSuccess = []

/-- The requests for the session: the one it waits for, or after a release the
removals. -/
def Requests (rs : List Request) : Stage → Prop
  | waiting _ r => rs = [r]
  | begun _ | failing _ | taken _ | recorded _ | indexed _ | stored _ | mapped _ => rs = []
  | clean | leaving _ _ | removing _ _ | unindexing _ _ | releasing _ | dropping _ | forgetting _ =>
    ∀ r ∈ rs, Removal r

theorem Requests.removal {rs : List Request} (h : S.Requests rs)
    (hask : S.asking = none) (hr : r ∈ rs) : Removal r := by
  cases S with
  | clean | leaving g sess | removing g m | unindexing g m | releasing g | dropping g
  | forgetting g => exact h r hr
  | waiting g r => cases hask
  | _ =>
    have hnil : rs = [] := h
    rw [hnil] at hr
    exact absurd hr not_mem_nil

theorem Requests.replace {rs rs' : List Request} (h : S.Requests rs)
    (hask : S.asking = none) (hne : rs ≠ []) (hrs : ∀ r ∈ rs', Removal r) : S.Requests rs' := by
  cases S with
  | clean | leaving g sess | removing g m | unindexing g m | releasing g | dropping g
  | forgetting g => exact hrs
  | waiting g r => cases hask
  | _ => exact absurd h hne

theorem key_of_block {m : SessionMapping} (h : S.block = some m) :
    S.key = some (subscriberOf m) := by
  cases S <;> cases h <;> rfl

inductive Next : Stage → Stage → Prop
  | activate (step : Step) : Next clean (begun step)
  | goOn (step step' : Step) : Next (begun step) (begun step')
  | allocate (step : Step) (g : Grant) (r : Request) : Next (begun step) (waiting g r)
  | finished : Next (begun .done) clean
  | apply (g : Grant) (r : Request) : Next (waiting g r) (waiting g { r with applied := true })
  | fail (g : Grant) (r : Request) : Next (waiting g r) (failing g)
  | free (g : Grant) : Next (failing g) (begun .done)
  | succeed (g : Grant) (r : Request) (h : r.applied = true) : Next (waiting g r) (taken g)
  | record (g : Grant) : Next (taken g) (recorded g)
  | index (g : Grant) : Next (recorded g) (indexed g)
  | store (g : Grant) : Next (indexed g) (stored g)
  | finish (g : Grant) : Next (stored g) (mapped g)
  | leave (g : Grant) (sess : SubscriberSession) :
      Next (mapped g) (leaving { g with insideIP := sess.ipv4Address } sess)
  | find (g : Grant) (sess : SubscriberSession) (m : CGNATMapping String) :
      Next (leaving g sess) (removing g m)
  | remove (g : Grant) (m : CGNATMapping String) : Next (removing g m) (unindexing g m)
  | unindex (g : Grant) (m : CGNATMapping String) : Next (unindexing g m) (releasing g)
  | release (g : Grant) : Next (releasing g) (dropping g)
  | drop (g : Grant) : Next (dropping g) (forgetting g)
  | forget (g : Grant) : Next (forgetting g) clean

end Stage

namespace Component
variable {c c' : Component} {A : String → Stage} {s t : String} {S : Stage} {m : SessionMapping}

/-- What a stage says of the session. -/
structure Own (c : Component) (s : String) (S : Stage) : Prop where
  valid : S.Valid s
  handlers : c.handlers s = S.handlers
  requests : S.Requests (c.requests s)
  pool : c.sessionPoolMap s = S.pool
  activating : c.activations s = S.activating
  /-- The address is the session's as long as it has something there or asks for
  something. -/
  claims : ∀ k, S.key = some k → c.address s = some k ∧ c.claimant k = some s
  asks : ∀ r ∈ c.requests s, c.claimant r.key.subscriber = some s
  programs : ∀ g r, S.asking = some (g, r) →
    r.key = ⟨c.poolID g.poolName, g.key⟩ ∧ r.block = g.block
  committed : ∀ m, S.recording = some m → c.committed s = some m
  last : S.activated = true → c.last s = some .activation

def Idle (c : Component) (s : String) : Prop := c.handlers s = [] ∧ c.requests s = []
deriving Decidable

theorem Own.clean (hidle : c.Idle s) (hpool : c.sessionPoolMap s = none)
    (hactivating : c.activations s = false) : c.Own s .clean where
  valid := trivial
  handlers := hidle.1
  requests r hr := absurd hr (hidle.2 ▸ not_mem_nil)
  pool := hpool
  activating := hactivating
  claims _ hk := by cases hk
  asks r hr := absurd hr (hidle.2 ▸ not_mem_nil)
  programs _ _ hr := by cases hr
  committed _ hm := by cases hm
  last hactive := by cases hactive

/-- The pools hold the blocks that the sessions have, and no others. -/
structure Blocks (c : Component) (A : String → Stage) : Prop where
  held : ∀ s m, (A s).block = some m →
    c.pools.blocksOf m.poolName (subscriberOf m) = [blockOf m] ∧
      c.holder m.poolName (subscriberOf m) = some s
  owned : ∀ poolName key, c.pools.blocksOf poolName key ≠ [] →
    ∃ s m, (A s).block = some m ∧ m.poolName = poolName ∧ subscriberOf m = key

structure Staged (c : Component) (A : String → Stage) : Prop where
  named : c.pools.Named
  synced : ∀ s, Unreadable c.receiver.opdb s
  own : ∀ s, c.Own s (A s)
  blocks : c.Blocks A

theorem staged_new : Staged new fun _ => .clean where
  named _ _ hps := by cases hps
  synced _ _ hdata := by cases hdata
  own _ := .clean ⟨rfl, rfl⟩ rfl rfl
  blocks := ⟨nofun, fun _ _ hne => absurd rfl hne⟩

theorem Staged.eq_of_key (h : Staged c A) {k : SubscriberKey} (hs : (A s).key = some k)
    (ht : (A t).key = some k) : s = t := by
  have hsame := ((h.own s).claims k hs).2.symm.trans ((h.own t).claims k ht).2
  exact some_inj.mp hsame

/-! ## The other sessions -/

structure Frame (c c' : Component) (s : String) : Prop where
  handlers : ∀ t, t ≠ s → c'.handlers t = c.handlers t
  requests : ∀ t, t ≠ s → c'.requests t = c.requests t
  pool : ∀ t, t ≠ s → c'.sessionPoolMap t = c.sessionPoolMap t
  activating : ∀ t, t ≠ s → c'.activations t = c.activations t
  address : ∀ t, t ≠ s → c'.address t = c.address t
  committed : ∀ t, t ≠ s → c'.committed t = c.committed t
  last : ∀ t, t ≠ s → c'.last t = c.last t

theorem Frame.refl (c : Component) (s : String) : Frame c c s :=
  ⟨fun _ _ => rfl, fun _ _ => rfl, fun _ _ => rfl, fun _ _ => rfl, fun _ _ => rfl, fun _ _ => rfl,
    fun _ _ => rfl⟩

theorem Own.frame (h : c.Own t S) (hf : Frame c c' s) (hne : t ≠ s)
    (hkey : ∀ k, S.key = some k → c'.claimant k = c.claimant k)
    (hasks : ∀ r ∈ c.requests t, c'.claimant r.key.subscriber = c.claimant r.key.subscriber)
    (hpool : ∀ g r, S.asking = some (g, r) → c'.poolID g.poolName = c.poolID g.poolName) :
    c'.Own t S where
  valid := h.valid
  handlers := (hf.handlers t hne).trans h.handlers
  requests := hf.requests t hne ▸ h.requests
  pool := (hf.pool t hne).trans h.pool
  activating := (hf.activating t hne).trans h.activating
  claims k hk :=
    ⟨(hf.address t hne).trans (h.claims k hk).1, (hkey k hk).trans (h.claims k hk).2⟩
  asks := by
    rw [hf.requests t hne]
    exact fun r hr => (hasks r hr).trans (h.asks r hr)
  programs g r hr := hpool g r hr ▸ h.programs g r hr
  committed m hm := (hf.committed t hne).trans (h.committed m hm)
  last hactive := (hf.last t hne).trans (h.last hactive)

theorem Staged.set (hnamed : c'.pools.Named)
    (hsynced : ∀ t, Unreadable c'.receiver.opdb t) (hothers : ∀ t, t ≠ s → c'.Own t (A t))
    (hown : c'.Own s S) (hblocks : c'.Blocks (update A s S)) :
    Staged c' (update A s S) where
  named := hnamed
  synced := hsynced
  own := (forall_update_iff A fun t σ => c'.Own t σ).mpr ⟨hown, hothers⟩
  blocks := hblocks

/-! ## The blocks of the sessions -/

theorem Blocks.same (h : c.Blocks A) (hpools : c'.pools = c.pools) (hholder : c'.holder = c.holder)
    (hblock : S.block = (A s).block) : c'.Blocks (update A s S) := by
  have hsame t : (update A s S t).block = (A t).block := by
    by_cases hts : t = s
    · rw [hts, update_self, hblock]
    · rw [update_of_ne hts]
  constructor
  · intro t m hm
    rw [hpools, hholder]
    exact h.held t m (hsame t ▸ hm)
  · intro poolName key hne
    rw [hpools] at hne
    obtain ⟨t, m, hm, hrest⟩ := h.owned poolName key hne
    exact ⟨t, m, (hsame t).trans hm, hrest⟩

theorem Blocks.give (h : c.Blocks A) (hblocks : ∀ name key, c'.pools.blocksOf name key =
      if name = m.poolName ∧ key = subscriberOf m then
        [blockOf m]
      else c.pools.blocksOf name key)
    (hholder : c'.holder = (c.give s c'.pools m).holder)
    (hnone : (A s).block = none) (hblock : S.block = some m)
    (halone : ∀ t, t ≠ s → (A t).key ≠ some (subscriberOf m)) :
    c'.Blocks (update A s S) := by
  have hgiven : c'.holder m.poolName (subscriberOf m) = some s := by
    rw [hholder, Component.give]
    dsimp only
    rw [update_self, update_self]
  have hothers name key : ¬ (name = m.poolName ∧ key = subscriberOf m) →
      c'.holder name key = c.holder name key := by
    intro hne
    rw [hholder, Component.give]
    dsimp only
    by_cases hname : name = m.poolName
    · rw [hname, update_self, update_of_ne fun hkey => hne ⟨hname, hkey⟩]
    · rw [update_of_ne hname]
  constructor
  · intro t m' hm'
    by_cases hts : t = s
    · rw [hts, update_self, hblock] at hm'
      cases hm'
      rw [hblocks, if_pos ⟨rfl, rfl⟩, hts]
      exact ⟨rfl, hgiven⟩
    · rw [update_of_ne hts] at hm'
      have hne : ¬ (m'.poolName = m.poolName ∧
          subscriberOf m' = subscriberOf m) := by
        intro heq
        apply halone t hts
        rw [Stage.key_of_block hm', heq.2]
      rw [hblocks, if_neg hne, hothers _ _ hne]
      exact h.held t m' hm'
  · intro name key hne
    rw [hblocks] at hne
    split at hne
    · rename_i heq
      exact ⟨s, m, by rw [update_self, hblock], heq.1.symm, heq.2.symm⟩
    · obtain ⟨t, m', hm', hrest⟩ := h.owned name key hne
      refine ⟨t, m', ?_, hrest⟩
      rw [update_of_ne, hm']
      rintro rfl
      rw [hnone] at hm'
      cases hm'

theorem Blocks.free (h : c.Blocks A) (hblocks : ∀ name key, c'.pools.blocksOf name key =
      if name = m.poolName ∧ key = subscriberOf m then []
      else c.pools.blocksOf name key)
    (hholder : c'.holder = c.holder) (hsome : (A s).block = some m) (hnone : S.block = none) :
    c'.Blocks (update A s S) := by
  constructor
  · intro t m' hm'
    by_cases hts : t = s
    · rw [hts, update_self, hnone] at hm'
      cases hm'
    · rw [update_of_ne hts] at hm'
      obtain ⟨hheld, hholds⟩ := h.held t m' hm'
      rw [hholder, hblocks, if_neg]
      · exact ⟨hheld, hholds⟩
      · rintro ⟨hname, hkey⟩
        rw [hname, hkey, (h.held s m hsome).2] at hholds
        exact hts (some_inj.mp hholds).symm
  · intro name key hne
    rw [hblocks] at hne
    split at hne
    · exact absurd rfl hne
    · rename_i hother
      obtain ⟨t, m', hm', hname, hkey⟩ := h.owned name key hne
      refine ⟨t, m', ?_, hname, hkey⟩
      rw [update_of_ne, hm']
      rintro rfl
      rw [hsome] at hm'
      cases hm'
      exact hother ⟨hname.symm, hkey.symm⟩

end Component
end Osvbng.Cgnat

import Osvbng.Cgnat.Stages

/-!
# The lifecycle of a session

What each event does to the stages, as long as the events of a session come when
nothing of it is under way and no two sessions have one address at a time.
`Staged.next` says it for all events: one session goes to its next stage, or none.
-/

namespace Osvbng.Cgnat
open Function Option List Lib Lib.Slice Lib.NetIP Ha Handlers PoolManager Component Stage PoolState

/-! ## What the pools keep -/

namespace PoolManager
variable {N : Type} [DecidableEq N] (pm : PoolManager N)
  {f : OutsideAddressState → OutsideAddressState} {insideVRF swIfIndex : UInt32}
  {m : CGNATMapping N} {insideIP : IP} {name : N}

def ipsOf (name : N) : List IP :=
  (pm.pools name).elim [] fun ps => ps.outsideAddresses.map fun a => unmapped a.ip

structure Proper (pm : PoolManager N) : Prop where
  sound : pm.Sound
  within : ∀ name key, ∀ b ∈ pm.blocksOf name key,
    unmapped b.outsideIP ∈ pm.ipsOf name ∧ to4 b.outsideIP ≠ []

structure Keeps (pm pm' : PoolManager N) : Prop where
  proper : pm.Proper → pm'.Proper
  ips : ∀ name, pm'.ipsOf name = pm.ipsOf name

omit [DecidableEq N] in
theorem Keeps.refl : Keeps pm pm := ⟨id, fun _ => rfl⟩

theorem ipsOf_put (name : N) (ps : PoolState N) (name' : N) : (pm.put name ps).ipsOf name' =
      if name' = name then ps.outsideAddresses.map (fun a => unmapped a.ip)
      else pm.ipsOf name' := by
  unfold ipsOf put
  dsimp only
  split
  · rename_i heq
    rw [heq, update_self]
    rfl
  · rename_i hne
    rw [update_of_ne hne]

theorem map_modify_ip (l : List OutsideAddressState) (p : Nat) (h : ∀ a ∈ l[p]?, (f a).ip = a.ip) :
    (l.modify p f).map (fun a => unmapped a.ip) = l.map fun a => unmapped a.ip := by
  refine ext_getElem? fun q => ?_
  rw [getElem?_map, getElem?_map, getElem?_modify]
  cases hq : l[q]? with
  | none => rfl
  | some a =>
    by_cases hpq : p = q
    · have hip := h a (hpq ▸ hq)
      simp only [Option.map_eq_map, Option.map_some, if_pos hpq, hip]
    · simp only [Option.map_eq_map, Option.map_some, if_neg hpq]

omit [DecidableEq N] in
theorem map_freeBlocks_ip (ps : PoolState N) (blocks : List BlockAllocation) :
    (ps.freeBlocks blocks).map (fun a => unmapped a.ip) =
      ps.outsideAddresses.map fun a => unmapped a.ip := by
  unfold freeBlocks
  generalize ps.outsideAddresses = l
  induction blocks generalizing l with
  | nil => rfl
  | cons b blocks ih =>
    rw [foldl_cons, ih]
    unfold updateAddress
    split
    · rfl
    · exact map_modify_ip l _ fun _ _ => rfl

omit [DecidableEq N] in
theorem ipsOf_allocateLocked {ps ps' : PoolState N}
    (h : ps.allocateLocked insideIP insideVRF swIfIndex = .ok (ps', m)) :
    ps'.outsideAddresses.map (fun a => unmapped a.ip) =
      ps.outsideAddresses.map fun a => unmapped a.ip := by
  obtain ⟨p, a, i, b, ha, -, -, hps', -⟩ := allocateLocked_spec h
  rw [hps']
  refine map_modify_ip ps.outsideAddresses p fun x hx => ?_
  rw [ha] at hx
  cases hx
  rfl

theorem keeps_getOrAllocate {pm pm' : PoolManager N} {isNew : Bool}
    (h : pm.getOrAllocate name insideIP insideVRF swIfIndex = .ok (pm', m, isNew)) :
    Keeps pm pm' := by
  have hnext := fun hsound : pm.Sound => hsound.getOrAllocate name insideIP insideVRF swIfIndex
  rw [h] at hnext
  unfold getOrAllocate at h
  split at h
  · cases h
  rename_i ps hps
  dsimp only at h
  split at h
  · cases h
    exact .refl pm
  cases halloc : ps.allocateLocked insideIP insideVRF swIfIndex with
  | error e =>
    rw [halloc] at h
    cases h
  | ok r =>
    rw [halloc] at h
    cases h
    have hips name' : (pm.put name r.1).ipsOf name' = pm.ipsOf name' := by
      rw [ipsOf_put]
      split
      · rename_i heq
        rw [heq, ipsOf, hps]
        exact ipsOf_allocateLocked halloc
      · rfl
    refine ⟨fun hproper => ⟨hnext hproper.sound, fun name' key b hb => ?_⟩, hips⟩
    rw [hips]
    rw [blocksOf_put] at hb
    split at hb
    · rename_i heq
      subst heq
      -- A block of the pool is an old one, or the one that was taken.
      obtain ⟨p, a, i, b', ha, -, hb', hps', -⟩ := allocateLocked_spec halloc
      have hold : ∀ b ∈ (ps.subscribers key).elim [] (·.blocks),
          unmapped b.outsideIP ∈ pm.ipsOf name' ∧ to4 b.outsideIP ≠ [] := by
        intro b hb
        refine hproper.within name' key b ?_
        rw [blocksOf, hps]
        exact hb
      rw [hps', blocks_addBlock] at hb
      split at hb
      · rcases mem_append.mp hb with hb | hb
        · exact hold b hb
        · have hmem := mem_of_getElem? ha
          have hfour := (hproper.sound name' ps hps).shape.ipv4 a hmem
          rw [mem_singleton.mp hb, hb', ipsOf, hps]
          refine ⟨?_, to4_copy4 _⟩
          rw [unmapped_copy4 hfour]
          exact mem_map_of_mem hmem
      · exact hold b hb
    · exact hproper.within name' key b hb

theorem keeps_releaseBlocks (name : N) (insideIP : IP) :
    Keeps pm (pm.orSame (pm.releaseBlocks name insideIP 0)) := by
  have hips name' : (pm.orSame (pm.releaseBlocks name insideIP 0)).ipsOf name' =
      pm.ipsOf name' := by
    unfold releaseBlocks
    split
    · rfl
    · rename_i ps hps
      rw [orSame, ipsOf_put]
      split
      · rename_i heq
        rw [heq, ipsOf, hps]
        unfold PoolState.releaseBlocks
        split
        · rfl
        · exact map_freeBlocks_ip ps _
      · rfl
  refine ⟨fun hproper => ⟨?_, fun name' key b hb => ?_⟩, hips⟩
  · exact hproper.sound.next (e := .release name insideIP 0) trivial rfl
  · rw [hips]
    rw [blocksOf_releaseBlocks] at hb
    split at hb
    · exact absurd hb not_mem_nil
    · exact hproper.within name' key b hb

/-- A pool that is new has no blocks, and nothing changes for the others. -/
theorem configurePool_of_none {pm : PoolManager N} {id : UInt32} {cfg : Pool}
    {r : Except (PoolError N) (PoolManager N)} (hnone : pm.pools name = none)
    (h : pm.configurePool name id cfg = some r) :
    (pm.Named → (pm.orSame r).Named) ∧
      (∀ name' key, (pm.orSame r).blocksOf name' key = pm.blocksOf name' key) ∧
      ∀ name', (pm.orSame r).ipsOf name' = pm.ipsOf name' ∨
        name' = name ∧ (pm.orSame r).ipsOf name' = cfg.outsideIPs.map unmapped := by
  unfold configurePool at h
  split at h
  · cases h
  split at h
  · cases h
    exact ⟨fun hnamed => hnamed, fun _ _ => rfl, fun _ => .inl rfl⟩
  · cases h
    refine ⟨fun hnamed => hnamed.put rfl, fun name' key => ?_, fun name' => ?_⟩
    · rw [orSame, blocksOf_put]
      split
      · rename_i heq
        rw [heq, blocksOf, hnone]
        rfl
      · rfl
    · rw [orSame, ipsOf_put]
      split
      · rename_i heq
        refine .inr ⟨heq, ?_⟩
        rw [newAddresses, List.map_map]
        rfl
      · exact .inl rfl

end PoolManager

namespace Stage

def reverse (ri : ReverseIndex) : Stage → ReverseIndex
  | recorded g => ri.add g.mapping
  | unindexing _ m => ri.remove m.outsideIP m.portBlockStart
  | _ => ri

def persist (s : String) (persisted : String → Option SessionMapping) :
    Stage → String → Option SessionMapping
  | indexed g => update persisted s (some g.mapping)
  | forgetting _ => update persisted s none
  | _ => persisted

end Stage

namespace Component
variable {c c' : Component} {A : String → Stage} {s t : String} {σ σ' : Stage} {g : Grant}
  {sess : SubscriberSession} {receiver : SyncReceiver} {steps : List Step} {i : Nat} {st : Step}

/-! ## What a step changes -/

structure Performs (c c' : Component) (s : String) : Prop where
  dataplane : c'.dataplane = c.dataplane
  poolIDMap : c'.poolIDMap = c.poolIDMap
  outsideIPs : c'.outsideIPs = c.outsideIPs
  claimant : c'.claimant = c.claimant
  frame : Frame c c' s
  applied : ∀ t, ∀ r ∈ c'.requests t, r.applied = true → r ∈ c.requests t

theorem Performs.request {r : Request} (h : Performs c c' s) (hfalse : r.applied = false) :
    Performs c (c'.request s r) s where
  dataplane := h.dataplane
  poolIDMap := h.poolIDMap
  outsideIPs := h.outsideIPs
  claimant := h.claimant
  frame := { h.frame with
    requests t hne := (update_of_ne hne _ _).trans (h.frame.requests t hne) }
  applied t r' hr' happlied := by
    refine h.applied t r' ?_ happlied
    unfold Component.request at hr'
    dsimp only at hr'
    by_cases hts : t = s
    · rw [hts, update_self, mem_append, mem_singleton] at hr'
      rcases hr' with hr' | rfl
      · exact hts ▸ hr'
      · rw [hfalse] at happlied
        cases happlied
    · rwa [update_of_ne hts] at hr'

section Perform
variable (decode : Bytes → Option SessionMapping)

theorem performs (c : Component) (s : String) (st : Step) :
    Performs c (c.perform decode s st).1 s := by
  have hframe := Frame.refl c s
  have hsame : Performs c c s := ⟨rfl, rfl, rfl, rfl, hframe, fun _ _ hr _ => hr⟩
  have hgive : ∀ pools m, Performs c (c.give s pools m) s := fun _ _ =>
    { hsame with frame := { hframe with } }
  cases st with
  | classify sess order =>
    rw [perform]
    split
    · exact hsame
    · split <;> exact hsame
  | restoreSynced sess poolName =>
    rw [perform]
    split
    · exact hsame
    · exact (hgive _ _).request rfl
  | allocate sess poolName =>
    rw [perform]
    split
    · exact hsame
    · split
      · exact (hgive _ _).request rfl
      · exact hgive _ _
  | setPool poolName m =>
    exact { hsame with
      frame := { hframe with
        pool t hne := update_of_ne hne _ _
        committed t hne := update_of_ne hne _ _ } }
  | done =>
    exact { hsame with
      frame := { hframe with activating t hne := update_of_ne hne _ _ } }
  | getMappings sess poolName =>
    rw [perform]
    split <;> exact hsame
  | remove poolName m => exact hsame.request rfl
  | deletePool =>
    exact { hsame with frame := { hframe with pool t hne := update_of_ne hne _ _ } }
  | addReverse | put | deleteSynced | removeReverse | releaseBlocks | deletePersisted =>
    exact { hsame with frame := { hframe with } }

def resume (c : Component) (s : String) (handlers : Handlers String Step) (st : Step)
    (steps : List Step) : Component :=
  let r := { c with handlers := handlers }.perform decode s st
  { r.1 with handlers := r.1.handlers.spawn s (r.2 ++ steps) }

variable {decode}

theorem exists_of_step (h : c.step decode s i = some c') :
    ∃ st steps handlers, c.handlers.next s i = some (st, steps, handlers) ∧
      c' = c.resume decode s handlers st steps := by
  obtain ⟨⟨st, steps, handlers⟩, hnext, rfl⟩ := map_eq_some_iff.mp h
  exact ⟨st, steps, handlers, hnext, rfl⟩

theorem frame_resume {handlers : Handlers String Step}
    (hne : ∀ t, t ≠ s → handlers t = c.handlers t) (st : Step) (steps : List Step) :
    Frame c (c.resume decode s handlers st steps) s := by
  have hf := (performs decode { c with handlers := handlers } s st).frame
  refine { hf with handlers t hts := ?_ }
  exact ((spawn_of_ne _ hts _).trans (hf.handlers t hts)).trans (hne t hts)

end Perform

/-! ## What an event leaves -/

def Event.sessionID : Event → Option String
  | .activate data _ => some data.sessionID
  | .release data => some data.sessionID
  | .step s _ | .apply s _ | .reply s _ _ => some s
  | .configurePool _ _ _ _ | .configure _ | .sync _ _ _ _ | .syncPage _ _ _ => none

section Leaves
variable {decode : Bytes → Option SessionMapping}

structure Leaves (c c' : Component) (e : Event) : Prop where
  pools : (∀ name id cfg prefixes, e ≠ .configurePool name id cfg prefixes) →
    c'.outsideIPs = c.outsideIPs ∧ c'.poolIDMap = c.poolIDMap
  dataplane : (∀ s i, e ≠ .apply s i) → c'.dataplane = c.dataplane
  handlers : ∀ t, e.sessionID ≠ some t → c'.handlers t = c.handlers t
  requests : ∀ t, e.sessionID ≠ some t → c'.requests t = c.requests t
  applied : (∀ s i, e ≠ .apply s i) → ∀ t, ∀ r ∈ c'.requests t, r.applied = true → r ∈ c.requests t

theorem leaves_next {e : Event} (hnext : c.next decode e = some c') : Leaves c c' e := by
  have hsame : Leaves c c e :=
    ⟨fun _ => ⟨rfl, rfl⟩, fun _ => rfl, fun _ _ => rfl, fun _ _ => rfl, fun _ _ _ hr _ => hr⟩
  have hts : ∀ s t, e.sessionID = some s → e.sessionID ≠ some t → t ≠ s := by
    rintro s t hs hne rfl
    exact hne hs
  cases e with
  | configurePool name id cfg prefixes =>
    unfold next configurePool at hnext
    dsimp only at hnext
    split at hnext
    · cases hnext
    · obtain ⟨r, -, rfl⟩ := map_eq_some_iff.mp hnext
      exact { hsame with pools hne := absurd rfl (hne name id cfg prefixes) }
  | configure config =>
    cases hnext
    exact { hsame with }
  | activate data order =>
    cases hnext
    unfold activate
    dsimp only
    split
    · exact { hsame with }
    · split <;>
        exact { hsame with
          handlers t hne := spawn_of_ne c.handlers (hts _ t rfl hne) [_] }
  | release data =>
    cases hnext
    unfold release
    dsimp only
    split
    · exact { hsame with }
    · split
      · exact { hsame with }
      · split
        · exact { hsame with }
        · exact { hsame with
            handlers t hne := spawn_of_ne c.handlers (hts _ t rfl hne) [_] }
  | step s i =>
    obtain ⟨st, steps, handlers, htaken, rfl⟩ := exists_of_step hnext
    have hp := performs decode { c with handlers := handlers } s st
    have hf : Frame c (c.resume decode s handlers st steps) s :=
      frame_resume (fun t hts => next_of_ne hts htaken) st steps
    exact {
      pools _ := ⟨hp.outsideIPs, hp.poolIDMap⟩
      dataplane _ := hp.dataplane
      handlers t hne := hf.handlers t (hts s t rfl hne)
      requests t hne := hf.requests t (hts s t rfl hne)
      applied _ := hp.applied }
  | apply s i =>
    obtain ⟨r, -, hnext⟩ := bind_eq_some_iff.mp hnext
    split at hnext
    · cases hnext
    · cases hnext
      exact { hsame with
        dataplane hne := absurd rfl (hne s i)
        requests t hne := update_of_ne (hts s t rfl hne) _ _
        applied hne := absurd rfl (hne s i) }
  | reply s i ok =>
    obtain ⟨r', -, hnext⟩ := bind_eq_some_iff.mp hnext
    obtain ⟨-, hnext⟩ := ite_none_left_eq_some.mp hnext
    cases hnext
    exact { hsame with
      handlers t hne := spawn_of_ne c.handlers (hts s t rfl hne) _
      requests t hne := update_of_ne (hts s t rfl hne) _ _
      applied _ t r hr _ := by
        dsimp only at hr
        by_cases heq : t = s
        · rw [heq, update_self] at hr
          exact heq ▸ mem_of_mem_eraseIdx hr
        · rwa [update_of_ne heq] at hr }
  | sync | syncPage =>
    unfold next at hnext
    dsimp only at hnext
    split at hnext
    · cases hnext
    · cases hnext
      exact { hsame with }

end Leaves

/-! ## Stages -/

structure Moves (c c' : Component) (A : String → Stage) (s : String) (σ σ' : Stage) : Prop where
  stage : A s = σ
  staged : Staged c' (update A s σ')
  next : σ.Next σ'
  keeps : c.pools.Keeps c'.pools
  reverse : c'.reverse = σ.reverse c.reverse
  persisted : c'.persisted = σ.persist s c.persisted

theorem Moves.of_same (h : Staged c A) (hσ : A s = σ) (hnext : σ.Next σ')
    (hothers : ∀ t, t ≠ s → c'.Own t (A t)) (hown : c'.Own s σ') (hpools : c'.pools = c.pools)
    (hholder : c'.holder = c.holder) (hreceiver : c'.receiver = c.receiver)
    (hblock : σ'.block = σ.block) (hreverse : c'.reverse = σ.reverse c.reverse)
    (hpersisted : c'.persisted = σ.persist s c.persisted) : Moves c c' A s σ σ' where
  stage := hσ
  staged := .set (hpools ▸ h.named) (hreceiver ▸ h.synced) hothers hown
    (h.blocks.same hpools hholder (hσ ▸ hblock))
  next := hnext
  keeps := hpools ▸ .refl _
  reverse := hreverse
  persisted := hpersisted

section Steps
variable (decode : Bytes → Option SessionMapping) (h : Staged c A)
  {handlers : Handlers String Step} (hnil : handlers s = [])
  (hne : ∀ t, t ≠ s → handlers t = c.handlers t)

omit h hne in
include hnil in
theorem spawn_of_nil (st : Step) (steps : List Step) :
    handlers.spawn s (st :: steps) s = [st :: steps] := by
  rw [spawn_cons, hnil, nil_append]

include h hne

theorem Staged.own_resume (st : Step) (steps : List Step) (t : String) (hts : t ≠ s) :
    (c.resume decode s handlers st steps).Own t (A t) := by
  have hp := performs decode { c with handlers := handlers } s st
  have hclaimant : (c.resume decode s handlers st steps).claimant = c.claimant := hp.claimant
  have hids : (c.resume decode s handlers st steps).poolIDMap = c.poolIDMap := hp.poolIDMap
  refine (h.own t).frame (frame_resume hne st steps) hts (fun k _ => congrFun hclaimant k)
    (fun r _ => congrFun hclaimant r.key.subscriber) fun g _ _ => ?_
  rw [poolID, poolID, hids]

include hnil
variable {decode} {m : CGNATMapping String} {poolName : String}

/-! ### The steps of an activation -/

theorem Staged.resume_done (hσ : A s = .begun .done) :
    Moves c (c.resume decode s handlers .done []) A s (.begun .done) .clean := by
  have hown := h.own s
  rw [hσ] at hown
  have hnone : c.requests s = [] := hown.requests
  refine .of_same h hσ .finished (h.own_resume decode hne _ _) ?_ rfl rfl rfl rfl rfl rfl
  exact { hown with
    valid := trivial
    handlers := hnil
    requests r hr := by
      exact absurd hr (hnone ▸ not_mem_nil)
    activating := update_self ..
    last hfalse := by cases hfalse }

/-- An activation that has taken nothing goes on, or ends. -/
theorem Staged.goOn (hσ : A s = .begun st) (st' : Step) (hvalid : (begun st').Valid s)
    (hkey : ∀ k, (begun st').key = some k → (begun st).key = some k)
    (hresume : { c with handlers := handlers }.perform decode s st =
      ({ c with handlers := handlers }, [st'])) (hsteps : steps = []) :
    Moves c (c.resume decode s handlers st steps) A s (.begun st) (.begun st') := by
  have hothers := h.own_resume decode hne st steps
  have hown := h.own s
  rw [hσ] at hown
  rw [resume, hresume, hsteps] at hothers ⊢
  refine .of_same h hσ (.goOn st st') hothers ?_ rfl rfl rfl rfl rfl rfl
  exact { hown with
    valid := hvalid
    handlers := spawn_of_nil hnil _ _
    claims k hk := hown.claims k (hkey k hk) }

theorem Staged.resume_classify {order : List String} (hσ : A s = .begun (.classify sess order)) :
    ∃ st, Moves c (c.resume decode s handlers (.classify sess order) []) A s
      (.begun (.classify sess order)) (.begun st) := by
  by_cases hip : to4 sess.ipv4Address = []
  · refine ⟨.done, h.goOn hnil hne hσ .done rfl nofun ?_ rfl⟩
    rw [perform, if_pos hip]
  · rcases hclass : { c with handlers := handlers }.classifySession order sess with
      _ | _ | poolName | poolName
    case pba =>
      refine ⟨.restoreSynced sess poolName, h.goOn hnil hne hσ (.restoreSynced sess poolName) hip
    (fun k hk => hk) ?_ rfl⟩
      rw [perform, if_neg hip, hclass]
    all_goals
      refine ⟨.done, h.goOn hnil hne hσ .done rfl nofun ?_ rfl⟩
      rw [perform, if_neg hip, hclass]

/-- What the peer has told of cannot be read, and so the block is a new one. -/
theorem Staged.resume_restoreSynced (hσ : A s = .begun (.restoreSynced sess poolName)) :
    Moves c (c.resume decode s handlers (.restoreSynced sess poolName) []) A s
      (.begun (.restoreSynced sess poolName)) (.begun (.allocate sess poolName)) := by
  have hvalid := (h.own s).valid
  rw [hσ] at hvalid
  refine h.goOn hnil hne hσ (.allocate sess poolName) hvalid (fun k hk => hk) ?_ rfl
  rw [perform, tryRestoreSyncedMapping_of_unreadable (h.synced s)]

theorem Staged.resume_allocate (hσ : A s = .begun (.allocate sess poolName)) :
    ∃ σ', Moves c (c.resume decode s handlers (.allocate sess poolName) []) A s
      (.begun (.allocate sess poolName)) σ' := by
  have hown := h.own s
  rw [hσ] at hown
  have hip : to4 sess.ipv4Address ≠ [] := hown.valid
  -- No session has a block at the address: it would be this one.
  have hfree : c.pools.blocksOf poolName (makeSubscriberKey 0 sess.ipv4Address) = [] := by
    by_contra hheld
    obtain ⟨t, m, hm, -, hkey⟩ := h.blocks.owned _ _ hheld
    have hts : t = s := h.eq_of_key ((key_of_block hm).trans (congrArg some hkey))
      (by rw [hσ]; rfl)
    rw [hts, hσ] at hm
    cases hm
  cases hget : c.pools.getOrAllocate poolName sess.ipv4Address 0 sess.ifIndex with
  | error e =>
    refine ⟨.begun .done, h.goOn hnil hne hσ .done rfl nofun ?_ rfl⟩
    rw [perform, hget]
  | ok r =>
    obtain ⟨pools, mapping, isNew⟩ := r
    obtain ⟨hiff, hspec⟩ := getOrAllocate_spec hget
    have hnew := hiff.mpr hfree
    obtain ⟨hname, hkey, hblocks⟩ := hspec hnew
    obtain ⟨hname, hnamed⟩ := hname h.named
    have hkey := hkey hip
    subst hname
    let g : Grant := ⟨⟨mapping, s⟩, sess.ipv4Address⟩
    let r := c.addRequest mapping.poolName g.mapping sess.ipv4Address [.done]
    have hresume : c.resume decode s handlers (.allocate sess mapping.poolName) [] =
        ({ c with handlers := handlers }.give s pools g.mapping).request s r := by
      rw [resume, perform, hget]
      dsimp only
      rw [if_pos hnew]
      rfl
    have hothers := h.own_resume decode hne (.allocate sess mapping.poolName) []
    rw [hresume] at hothers ⊢
    refine ⟨.waiting g r, hσ, .set hnamed h.synced hothers ?_
      (h.blocks.give (m := g.mapping) ?_ rfl ?_ rfl ?_), .allocate _ g r,
      keeps_getOrAllocate hget, rfl, rfl⟩
    · have hclaim := hown.claims _ rfl
      have hrequests : (({ c with handlers := handlers }.give s pools g.mapping).request s
          r).requests s = [r] := by
        have hnone : c.requests s = [] := hown.requests
        refine (update_self ..).trans ?_
        exact congrArg (· ++ [r]) hnone
      exact { hown with
        valid := ⟨⟨rfl, hkey.symm, hip⟩, rfl, rfl, rfl⟩
        handlers := hnil
        requests := hrequests
        claims k hk := by
          have hgk : g.key = makeSubscriberKey 0 sess.ipv4Address := hkey
          have hk : g.key = k := some_inj.mp hk
          rw [← hk, hgk]
          exact hclaim
        asks r' hr' := by
          rw [hrequests, mem_singleton] at hr'
          rw [hr']
          exact hclaim.2
        programs g' r' hr' := by
          cases hr'
          exact ⟨congrArg (DataplaneKey.mk _) hkey.symm, rfl⟩ }
    · intro name key
      rw [← hkey] at hblocks
      exact hblocks name key
    · rw [hσ]
      rfl
    · intro t hts ht
      apply hts
      refine h.eq_of_key ht ?_
      rw [hσ]
      exact congrArg some hkey.symm

/-! ### The steps of the callback -/

omit hnil in
theorem Staged.resume_releaseBlocks {σ' : Stage} (hσ : A s = σ)
    (hblock : σ.block = some g.mapping) (hnone : σ'.block = none) (hnext : σ.Next σ')
    (hreverse : σ.reverse c.reverse = c.reverse) (hpersist : σ.persist s c.persisted = c.persisted)
    (hof : g.Of s)
    (hown : (c.resume decode s handlers (.releaseBlocks g.poolName g.insideIP) steps).Own s σ') :
    Moves c (c.resume decode s handlers (.releaseBlocks g.poolName g.insideIP) steps) A s σ σ' where
  stage := hσ
  staged := by
    refine .set (h.named.releaseBlocks g.poolName g.insideIP) h.synced
      (h.own_resume decode hne _ _) hown ?_
    refine h.blocks.free (m := g.mapping) (fun name key => ?_) rfl (hσ ▸ hblock) hnone
    refine (c.pools.blocksOf_releaseBlocks g.poolName g.insideIP name key).trans ?_
    rw [hof.key]
    rfl
  next := hnext
  keeps := c.pools.keeps_releaseBlocks g.poolName g.insideIP
  reverse := hreverse.symm
  persisted := hpersist.symm

/-! ### The steps of a release -/

theorem Staged.resume_getMappings (hσ : A s = .leaving g sess) :
    ∃ m, Moves c (c.resume decode s handlers (.getMappings sess g.poolName) []) A s
      (.leaving g sess) (.removing g m) := by
  have hown := h.own s
  rw [hσ] at hown
  obtain ⟨hof, hsess⟩ := hown.valid
  have hheld : c.pools.blocksOf g.poolName (makeSubscriberKey 0 sess.ipv4Address) = [g.block] := by
    rw [hsess, hof.key]
    exact (h.blocks.held s g.mapping (by rw [hσ]; rfl)).1
  obtain ⟨id, swIfIndex, hget⟩ := getMappings_of_singleton hheld
  let m : CGNATMapping String := ⟨g.poolName, id, to4 sess.ipv4Address, 0, g.block.outsideIP,
    g.block.portBlockStart, g.block.portBlockEnd, swIfIndex⟩
  have hresume : c.resume decode s handlers (.getMappings sess g.poolName) [] =
      { c with handlers := handlers.spawn s (releaseSteps g.poolName sess.ipv4Address [m]) } := by
    rw [resume, perform, hget]
    rfl
  have hothers := h.own_resume decode hne (.getMappings sess g.poolName) []
  rw [hresume] at hothers ⊢
  refine ⟨m, .of_same h hσ (.find g sess m) hothers ?_ rfl rfl rfl rfl rfl rfl⟩
  exact { hown with
    valid := by
      refine ⟨hof, rfl, ?_⟩
      rw [← hof.key, ← hsess]
      exact makeSubscriberKey_to4 0 (hsess ▸ hof.ip)
    handlers := by
      rw [hsess]
      exact spawn_of_nil hnil _ _ }

theorem Staged.resume_remove (hσ : A s = .removing g m) :
    Moves c (c.resume decode s handlers (.remove g.poolName m)
      [.removeReverse m.outsideIP m.portBlockStart, .releaseBlocks g.poolName g.insideIP,
        .deletePool, .deletePersisted]) A s (.removing g m) (.unindexing g m) := by
  have hown := h.own s
  rw [hσ] at hown
  have hclaim := (hown.claims g.key rfl).2
  refine .of_same h hσ (.remove g m) (h.own_resume decode hne _ _) ?_ rfl rfl rfl rfl rfl rfl
  have hrequests rest : (c.resume decode s handlers (.remove g.poolName m) rest).requests s =
      c.requests s ++ [⟨false, ⟨c.poolID g.poolName, subscriberOf m⟩, blockOf m, false, [], []⟩] :=
    update_self ..
  exact { hown with
    handlers := spawn_of_nil hnil _ _
    requests r hr := by
      rw [hrequests] at hr
      rcases mem_append.mp hr with hr | hr
      · exact hown.requests r hr
      · rw [mem_singleton.mp hr]
        exact ⟨rfl, rfl, rfl⟩
    asks r hr := by
      rw [hrequests] at hr
      rcases mem_append.mp hr with hr | hr
      · exact hown.asks r hr
      · rw [mem_singleton.mp hr]
        rw [← hown.valid.2.2] at hclaim
        exact hclaim }

theorem Staged.resume (hall : (A s).handlers = [st :: steps]) :
    ∃ σ', Moves c (c.resume decode s handlers st steps) A s (A s) σ' := by
  have hown := h.own s
  have hothers := h.own_resume decode hne st steps
  obtain ⟨σ, hσ⟩ : ∃ σ, A s = σ := ⟨_, rfl⟩
  rw [hσ] at hall hown ⊢
  cases σ with
  | clean | waiting g r | mapped g => cases hall
  | begun step =>
    cases hall
    cases st with
    | classify sess order =>
      obtain ⟨st, hm⟩ := h.resume_classify hnil hne hσ
      exact ⟨_, hm⟩
    | restoreSynced sess poolName => exact ⟨_, h.resume_restoreSynced hnil hne hσ⟩
    | allocate sess poolName => exact h.resume_allocate hnil hne hσ
    | done => exact ⟨_, h.resume_done hnil hne hσ⟩
    | _ => cases hown.valid
  | failing g =>
    cases hall
    refine ⟨.begun .done, h.resume_releaseBlocks hne hσ rfl rfl (.free g) rfl rfl hown.valid ?_⟩
    exact { hown with
      valid := rfl
      handlers := spawn_of_nil hnil _ _
      claims k hk := by cases hk }
  | taken g =>
    cases hall
    refine ⟨_, .of_same h hσ (.record g) hothers ?_ rfl rfl rfl rfl rfl rfl⟩
    exact { hown with
      handlers := spawn_of_nil hnil _ _
      pool := update_self ..
      committed m hm := (update_self ..).trans hm }
  | recorded g =>
    cases hall
    refine ⟨_, .of_same h hσ (.index g) hothers ?_ rfl rfl rfl rfl rfl rfl⟩
    exact { hown with handlers := spawn_of_nil hnil _ _ }
  | indexed g =>
    cases hall
    refine ⟨_, .of_same h hσ (.store g) hothers ?_ rfl rfl rfl rfl rfl rfl⟩
    exact { hown with handlers := spawn_of_nil hnil _ _ }
  | stored g =>
    cases hall
    refine ⟨_, .of_same h hσ (.finish g) hothers ?_ rfl rfl rfl rfl rfl rfl⟩
    exact { hown with
      handlers := hnil
      activating := update_self .. }
  | leaving g sess =>
    cases hall
    obtain ⟨m, hm⟩ := h.resume_getMappings hnil hne hσ
    exact ⟨_, hm⟩
  | removing g m =>
    cases hall
    exact ⟨_, h.resume_remove hnil hne hσ⟩
  | unindexing g m =>
    cases hall
    refine ⟨_, .of_same h hσ (.unindex g m) hothers ?_ rfl rfl rfl rfl rfl rfl⟩
    exact { hown with
      valid := hown.valid.1
      handlers := spawn_of_nil hnil _ _ }
  | releasing g =>
    cases hall
    refine ⟨.dropping g, h.resume_releaseBlocks hne hσ rfl rfl (.release g) rfl rfl hown.valid ?_⟩
    exact { hown with handlers := spawn_of_nil hnil _ _ }
  | dropping g =>
    cases hall
    refine ⟨_, .of_same h hσ (.drop g) hothers ?_ rfl rfl rfl rfl rfl rfl⟩
    exact { hown with
      handlers := spawn_of_nil hnil _ _
      pool := update_self ..
      committed m hm := by cases hm }
  | forgetting g =>
    cases hall
    refine ⟨_, .of_same h hσ (.forget g) hothers ?_ rfl rfl rfl rfl rfl rfl⟩
    exact { hown with
      valid := trivial
      handlers := hnil
      claims k hk := by cases hk }

end Steps

/-! ## Events -/

def Free (c : Component) (s : String) : Prop := c.sessionPoolMap s = none ∧ c.Idle s
deriving Decidable

/-- The events of a session come one after the other: each when nothing of it is
under way, its release with the address it was activated with, and no other session
has that address then. No two pools have an outside address in common. -/
def Careful (c : Component) : Event → Prop
  | .configurePool _ _ cfg _ =>
    cfg.WellFormed ∧ ∀ ip ∈ cfg.outsideIPs, unmapped ip ∉ c.outsideIPs
  | .activate data _ => c.Idle data.sessionID ∧ ∀ sess ∈ data.session,
      ∀ t ∈ c.claimant (makeSubscriberKey 0 sess.ipv4Address), t = data.sessionID ∨ c.Free t
  | .release data => c.Idle data.sessionID ∧ (c.sessionPoolMap data.sessionID = none ∨
      ∃ sess ∈ data.session, to4 sess.ipv4Address ≠ [] ∧ c.releasesBypass sess = false ∧
        c.address data.sessionID = some (makeSubscriberKey 0 sess.ipv4Address))
  | _ => True

/-- The stages stay, and so do the pools, the reverse index and the database. -/
structure Rests (c c' : Component) (A : String → Stage) : Prop where
  staged : Staged c' A
  pools : c'.pools = c.pools
  reverse : c'.reverse = c.reverse
  persisted : c'.persisted = c.persisted

section Events
variable {decode : Bytes → Option SessionMapping} (h : Staged c A) {data : SessionLifecycleEvent}
include h

theorem Staged.step (hstep : c.step decode s i = some c') : ∃ σ', Moves c c' A s (A s) σ' := by
  obtain ⟨st, steps, handlers, hnext, rfl⟩ := exists_of_step hstep
  have hown := (h.own s).handlers
  rcases (A s).handlers_eq with hempty | ⟨all, hall⟩
  · rw [next_of_nil (hown.trans hempty)] at hnext
    cases hnext
  · obtain ⟨rfl, hnil⟩ := next_of_eq (hown.trans hall) hnext
    exact h.resume hnil (fun t hts => next_of_ne hts hnext) hall

theorem Staged.of_idle (hidle : c.Idle s) : A s = .clean ∨ ∃ g, A s = .mapped g := by
  have hhandlers := (h.own s).handlers.symm.trans hidle.1
  have hrequests := (h.own s).requests
  rw [hidle.2] at hrequests
  cases hσ : A s with
  | clean => exact .inl rfl
  | mapped g => exact .inr ⟨g, rfl⟩
  | waiting g r =>
    rw [hσ] at hrequests
    cases hrequests
  | _ =>
    rw [hσ] at hhandlers
    cases hhandlers

theorem Staged.of_free (hfree : c.Free s) : A s = .clean := by
  rcases h.of_idle hfree.2 with hσ | ⟨g, hσ⟩
  · exact hσ
  · have hpool := (h.own s).pool.symm.trans hfree.1
    rw [hσ] at hpool
    cases hpool

theorem Staged.note {kind : EventKind} (hlast : (A s).activated = true → kind = .activation) :
    Rests c (c.note s kind) A := by
  refine ⟨⟨h.named, h.synced, fun t => ?_, ⟨h.blocks.held, h.blocks.owned⟩⟩, rfl, rfl, rfl⟩
  have hown := h.own t
  refine { hown with last hactive := ?_ }
  by_cases hts : t = s
  · rw [hts] at hactive ⊢
    exact (update_self ..).trans (congrArg some (hlast hactive))
  · exact (update_of_ne hts ..).trans (hown.last hactive)

theorem Staged.begin {address : String → Option SubscriberKey}
    {claimant : SubscriberKey → Option String} (hσ : A s = .clean) (hidle : c.Idle s)
    (hvalid : (begun st).Valid s) (haddress : ∀ t, t ≠ s → address t = c.address t)
    (hclaims : ∀ k, (begun st).key = some k → address s = some k ∧ claimant k = some s)
    (hothers : ∀ t, t ≠ s → ∀ k, c.claimant k = some t → ¬ c.Free t → claimant k = c.claimant k) :
    Moves c { c.note s .activation with
      activations := update c.activations s true
      handlers := c.handlers.spawn s [st]
      address := address
      claimant := claimant } A s .clean (.begun st) := by
  have hown := h.own s
  rw [hσ] at hown
  refine .of_same h hσ (.activate st) (fun t hts => ?_) ?_ rfl rfl rfl rfl rfl rfl
  · refine (h.own t).frame
      { Frame.refl c s with
        handlers t hts := spawn_of_ne c.handlers hts [st]
        activating t hts := update_of_ne hts _ _
        address := haddress
        last t hts := update_of_ne hts _ _ }
      hts (fun k hk => ?_) (fun r hr => ?_) fun _ _ _ => rfl
    · refine hothers t hts k ((h.own t).claims k hk).2 fun hfree => ?_
      rw [h.of_free hfree] at hk
      cases hk
    · refine hothers t hts _ ((h.own t).asks r hr) fun hfree => ?_
      rw [hfree.2.2] at hr
      exact not_mem_nil hr
  · exact { hown with
      valid := hvalid
      handlers := spawn_of_nil hidle.1 _ _
      requests := hidle.2
      activating := update_self ..
      claims := hclaims
      asks r hr := by
        have hr : r ∈ c.requests s := hr
        rw [hidle.2] at hr
        exact absurd hr not_mem_nil
      last _ := update_self .. }

theorem Staged.activate {order : List String} (hc : c.Careful (.activate data order)) :
    Rests c (c.activate data order) A ∨
      ∃ σ', Moves c (c.activate data order) A data.sessionID (A data.sessionID) σ' := by
  obtain ⟨hidle, hfree⟩ := hc
  obtain ⟨s, session⟩ := data
  have hown := h.own s
  rcases h.of_idle hidle with hσ | ⟨g, hσ⟩
  · have hnew : ¬ ((c.sessionPoolMap s).isSome || c.activations s) = true := by
      rw [hown.pool, hown.activating, hσ]
      decide
    refine .inr ?_
    rw [hσ]
    cases session with
    | none =>
      have hact : c.activate ⟨s, none⟩ order =
          { c.note s .activation with
            activations := update c.activations s true
            handlers := c.handlers.spawn s [.done] } := if_neg hnew
      rw [hact]
      exact ⟨_, h.begin hσ hidle rfl (fun _ _ => rfl) nofun
        fun _ _ _ _ _ => rfl⟩
    | some sess =>
      have hact : c.activate ⟨s, some sess⟩ order =
          { c.note s .activation with
            activations := update c.activations s true
            handlers := c.handlers.spawn s [.classify sess order]
            address := update c.address s (some (makeSubscriberKey 0 sess.ipv4Address))
            claimant := update c.claimant (makeSubscriberKey 0 sess.ipv4Address)
              (some s) } := if_neg hnew
      rw [hact]
      refine ⟨_, h.begin hσ hidle trivial (fun t hts => update_of_ne hts _ _)
        (fun k hk => ?_) fun t hts k hk hbusy => update_of_ne (fun heq => ?_) _ _⟩
      · cases hk
        exact ⟨update_self .., update_self ..⟩
      · rw [heq] at hk
        exact (hfree sess rfl t hk).elim hts hbusy
  · have hact : c.activate ⟨s, session⟩ order = c.note s .activation := by
      refine if_pos ?_
      change ((c.sessionPoolMap s).isSome || c.activations s) = true
      rw [hown.pool, hσ]
      rfl
    rw [hact]
    exact .inl (h.note fun _ => rfl)

theorem Staged.release (hc : c.Careful (.release data)) : Rests c (c.release data) A ∨
      ∃ σ', Moves c (c.release data) A data.sessionID (A data.sessionID) σ' := by
  obtain ⟨hidle, hrelease⟩ := hc
  obtain ⟨s, session⟩ := data
  have hown := h.own s
  rcases h.of_idle hidle with hσ | ⟨g, hσ⟩
  · left
    have hpool : (c.note s .release).sessionPoolMap s = none := by
      refine hown.pool.trans ?_
      rw [hσ]
      rfl
    have hrel : c.release ⟨s, session⟩ = c.note s .release := by
      unfold release
      dsimp only
      split
      · rfl
      · split
        · rfl
        · rw [hpool]
    rw [hrel]
    refine h.note fun hactive => ?_
    rw [hσ] at hactive
    cases hactive
  · right
    rw [hσ] at hown ⊢
    rcases hrelease with hnone | ⟨sess, hsess, hip, hbypass, haddress⟩
    · rw [hown.pool] at hnone
      cases hnone
    · cases hsess
      have hkey : g.key = makeSubscriberKey 0 sess.ipv4Address :=
        some_inj.mp ((hown.claims g.key rfl).1.symm.trans haddress)
      have hrel : c.release ⟨s, some sess⟩ =
          { c.note s .release with
            handlers := c.handlers.spawn s [.getMappings sess g.poolName] } := by
        have hno : ¬ (decide (to4 sess.ipv4Address = []) ||
            (c.note s .release).releasesBypass sess) = true := by
          change ¬ (decide (to4 sess.ipv4Address = []) || c.releasesBypass sess) = true
          rw [hbypass, decide_eq_false hip]
          decide
        have hpool : (c.note s .release).sessionPoolMap s = some g.poolName := hown.pool
        unfold release
        dsimp only
        rw [if_neg hno, hpool]
        rfl
      rw [hrel]
      refine ⟨_, .of_same h hσ (.leave g sess) (fun t hts => ?_) ?_ rfl rfl rfl rfl rfl rfl⟩
      · have hf : Frame c { c.note s .release with
            handlers := c.handlers.spawn s [.getMappings sess g.poolName] } s :=
          { Frame.refl c s with
            handlers t hts := spawn_of_ne c.handlers hts [_]
            last t hts := update_of_ne hts _ _ }
        exact (h.own t).frame hf hts (fun _ _ => rfl) (fun _ _ => rfl) fun _ _ _ => rfl
      · exact { hown with
          valid := ⟨⟨hown.valid.sessionID, hkey.symm, hip⟩, rfl⟩
          handlers := spawn_of_nil hidle.1 _ _
          requests r hr := by
            have hr : r ∈ c.requests s := hr
            rw [hidle.2] at hr
            exact absurd hr not_mem_nil
          last hactive := by cases hactive }

theorem Staged.removals {rs : List Request} {dataplane : DataplaneKey → Option BlockAllocation}
    (hask : (A s).asking = none) (hne : c.requests s ≠ [])
    (hsub : ∀ r ∈ rs, ∃ r' ∈ c.requests s, r.key = r'.key ∧ (Removal r' → Removal r)) :
    Rests c { c with
      dataplane := dataplane, requests := update c.requests s rs } A := by
  refine ⟨⟨h.named, h.synced, fun t => ?_, ⟨h.blocks.held, h.blocks.owned⟩⟩, rfl, rfl, rfl⟩
  have hown := h.own t
  by_cases hts : t = s
  · subst hts
    have hrequests : update c.requests t rs t = rs := update_self ..
    exact { hown with
      requests := by
        refine hown.requests.replace hask hne fun r hr => ?_
        change r ∈ update c.requests t rs t at hr
        rw [hrequests] at hr
        obtain ⟨r', hr', -, hremoval⟩ := hsub r hr
        exact hremoval (hown.requests.removal hask hr')
      asks r hr := by
        change r ∈ update c.requests t rs t at hr
        rw [hrequests] at hr
        obtain ⟨r', hr', hkey, -⟩ := hsub r hr
        rw [hkey]
        exact hown.asks r' hr' }
  · exact hown.frame
      { Frame.refl c s with requests := fun t hts => update_of_ne hts _ _ } hts
      (fun _ _ => rfl) (fun _ _ => rfl) fun _ _ _ => rfl

omit h in
theorem eq_of_getElem?_singleton {X : Type} {a b : X} (h : [a][i]? = some b) : i = 0 ∧ b = a := by
  cases i with
  | zero => exact ⟨rfl, (some_inj.mp h).symm⟩
  | succ i => cases h

theorem Staged.apply (happly : c.apply s i = some c') : ((A s).asking = none ∧ Rests c c' A) ∨
      ∃ g r, A s = .waiting g r ∧ c.requests s = [r] ∧ i = 0 ∧
        Moves c c' A s (.waiting g r) (.waiting g { r with applied := true }) := by
  obtain ⟨r, hr, happly⟩ := bind_eq_some_iff.mp happly
  obtain ⟨-, happly⟩ := ite_none_left_eq_some.mp happly
  cases happly
  have hmem := mem_of_getElem? hr
  cases hask : (A s).asking with
  | none =>
    refine .inl ⟨rfl, h.removals hask (ne_nil_of_mem hmem) fun r' hr' => ?_⟩
    rcases mem_or_eq_of_mem_set hr' with hold | rfl
    · exact ⟨r', hold, rfl, id⟩
    · exact ⟨r, hmem, rfl, id⟩
  | some gr =>
    obtain ⟨g, r'⟩ := gr
    have hσ := eq_of_asking hask
    have hown := h.own s
    rw [hσ] at hown
    have hone : c.requests s = [r'] := hown.requests
    rw [hone] at hr
    obtain ⟨rfl, rfl⟩ := eq_of_getElem?_singleton hr
    rw [hone]
    refine .inr ⟨g, r, hσ, rfl, rfl, .of_same h hσ (.apply g r) (fun t hts => ?_) ?_ rfl rfl
      rfl rfl rfl rfl⟩
    · exact (h.own t).frame
        { Frame.refl c s with requests := fun t hts => update_of_ne hts _ _ } hts
        (fun _ _ => rfl) (fun _ _ => rfl) fun _ _ _ => rfl
    · exact { hown with
        requests := update_self ..
        asks r' hr' := by
          change r' ∈ update c.requests s [{ r with applied := true }] s at hr'
          rw [update_self, mem_singleton] at hr'
          rw [hr']
          exact hown.asks r hmem
        programs g' r' hr' := by
          cases hr'
          exact hown.programs g r rfl }

theorem Staged.reply {ok : Bool} (hreply : c.reply s i ok = some c') :
    Rests c c' A ∨ ∃ σ', Moves c c' A s (A s) σ' := by
  obtain ⟨r, hr, hreply⟩ := bind_eq_some_iff.mp hreply
  obtain ⟨happlied, hreply⟩ := ite_none_left_eq_some.mp hreply
  cases hreply
  have hmem := mem_of_getElem? hr
  have hown := h.own s
  cases hask : (A s).asking with
  | none =>
    obtain ⟨-, herror, hsuccess⟩ := hown.requests.removal hask hmem
    have hnone : (if ok then r.onSuccess else r.onError) = [] := by
      rw [herror, hsuccess, ite_self]
    rw [hnone]
    exact .inl (h.removals hask (ne_nil_of_mem hmem) fun r' hr' =>
      ⟨r', mem_of_mem_eraseIdx hr', rfl, id⟩)
  | some gr =>
    obtain ⟨g, r'⟩ := gr
    have hσ := eq_of_asking hask
    rw [hσ] at hown ⊢
    obtain ⟨hof, hadd, herror, hsuccess⟩ := hown.valid
    have hidle : c.handlers s = [] := hown.handlers
    have hone : c.requests s = [r'] := hown.requests
    rw [hone] at hr
    obtain ⟨rfl, rfl⟩ := eq_of_getElem?_singleton hr
    rw [hone, herror, hsuccess]
    right
    have hothers : ∀ steps t, t ≠ s → Own { c with
        requests := update c.requests s []
        handlers := c.handlers.spawn s steps } t (A t) := by
      intro steps t hts
      exact (h.own t).frame
        { Frame.refl c s with
          handlers t hts := spawn_of_ne c.handlers hts steps
          requests t hts := update_of_ne hts _ _ } hts
        (fun _ _ => rfl) (fun _ _ => rfl) fun _ _ _ => rfl
    have hasks : ∀ r ∈ update c.requests s [] s, c.claimant r.key.subscriber = some s := by
      intro r hr
      rw [update_self] at hr
      exact absurd hr not_mem_nil
    cases ok
    on_goal 1 =>
      refine ⟨.failing g, .of_same h hσ (.fail g r) (hothers _) ?_ rfl rfl rfl rfl rfl rfl⟩
    on_goal 2 =>
      have happlied : r.applied = true := by simpa using happlied
      refine ⟨.taken g, .of_same h hσ (.succeed g r happlied) (hothers _) ?_ rfl rfl rfl rfl
        rfl rfl⟩
    all_goals
      exact { hown with
        valid := hof
        handlers := spawn_of_nil hidle _ _
        requests := update_self ..
        asks := hasks
        programs g r hr := by cases hr }

theorem Staged.receive (hsynced : ∀ t, Unreadable receiver.opdb t) : Rests c
    { c with receiver := receiver } A :=
  ⟨⟨h.named, hsynced, fun t => { h.own t with }, ⟨h.blocks.held, h.blocks.owned⟩⟩, rfl, rfl, rfl⟩

omit h in
theorem unreadable_sync (hr : Unreadable receiver.opdb t)
    (srgName : String) (sequence : UInt64) (action : SyncAction) {m : SessionMapping}
    (hm : to4 m.outsideIP ≠ []) : Unreadable (receiver.handleSyncCGNATMapping
      ⟨srgName, sequence, action, mappingToCheckpoint srgName m⟩).opdb t := by
  cases action with
  | create | update =>
    exact SyncReceiver.unreadable_store_of_unreadable _ (valid_marshal srgName hm) hr
  | delete =>
    intro data hdata
    have hdata : receiver.opdb.delete Store.namespaceHASyncedCGNAT m.sessionID
        Store.namespaceHASyncedCGNAT t = some data := hdata
    rcases update_cases hdata with ⟨-, hdata⟩ | ⟨-, hdata⟩
    · cases hdata
    · exact hr data hdata

omit h in
theorem unreadable_syncPage (hr : Unreadable receiver.opdb t)
    (srgName : String) {ms : List SessionMapping} (sequence : UInt64)
    (hms : ∀ m ∈ ms, to4 m.outsideIP ≠ []) : Unreadable (receiver.handleBulkSyncCGNATPage
      ⟨srgName, ms.map (mappingToCheckpoint ""), sequence⟩).opdb t := by
  have hpage : Unreadable ((ms.map (mappingToCheckpoint "")).foldl
      SyncReceiver.storeCGNATCheckpoint receiver).opdb t := by
    refine SyncReceiver.unreadable_page _ (fun cp hcp => ?_) (.inl hr)
    obtain ⟨m, hm, rfl⟩ := mem_map.mp hcp
    exact valid_marshal "" (hms m hm)
  unfold SyncReceiver.handleBulkSyncCGNATPage
  split
  · exact hpage
  · exact hpage

theorem Staged.configurePool {name : String} {id : UInt32} {cfg : Pool}
    {prefixes : List InsidePrefix} (hnext : c.configurePool name id cfg prefixes = some c') :
    Staged c' A ∧ c'.reverse = c.reverse ∧ c'.persisted = c.persisted := by
  unfold Component.configurePool at hnext
  split at hnext
  · cases hnext
  rename_i hnew
  have hnone : c.pools.pools name = none := by simpa using hnew
  obtain ⟨r, hr, rfl⟩ := map_eq_some_iff.mp hnext
  obtain ⟨hnamed, hblocks, -⟩ := configurePool_of_none hnone hr
  refine ⟨⟨hnamed h.named, h.synced, fun t => ?_, ?_⟩, rfl, rfl⟩
  · have hown := h.own t
    refine { hown with programs g r hr := ?_ }
    have hheld := (h.blocks.held t g.mapping (by rw [eq_of_asking hr]; rfl)).1
    have hname : g.poolName ≠ name := by
      rintro rfl
      rw [blocksOf, show c.pools.pools g.mapping.poolName = none from hnone] at hheld
      cases hheld
    have hid : update c.poolIDMap name (some id) g.poolName = c.poolIDMap g.poolName :=
      update_of_ne hname _ _
    obtain ⟨hkey, hblock⟩ := hown.programs g r hr
    refine ⟨hkey.trans ?_, hblock⟩
    rw [poolID, poolID]
    dsimp only
    rw [hid]
  · constructor
    · intro s m hm
      rw [hblocks]
      exact h.blocks.held s m hm
    · intro poolName key hne
      rw [hblocks] at hne
      exact h.blocks.owned poolName key hne

theorem Staged.next {e : Event} (hc : c.Careful e) (hnext : c.next decode e = some c')
    (hne : ∀ name id cfg prefixes, e ≠ .configurePool name id cfg prefixes) :
    Rests c c' A ∨ ∃ s σ', Moves c c' A s (A s) σ' := by
  cases e with
  | configurePool name id cfg prefixes => exact absurd rfl (hne name id cfg prefixes)
  | configure config =>
    cases hnext
    exact .inl ⟨⟨h.named, h.synced, fun t => { h.own t with }, ⟨h.blocks.held, h.blocks.owned⟩⟩,
      rfl, rfl, rfl⟩
  | activate data order =>
    cases hnext
    exact (h.activate hc).imp id fun ⟨σ', hm⟩ => ⟨_, σ', hm⟩
  | release data =>
    cases hnext
    exact (h.release hc).imp id fun ⟨σ', hm⟩ => ⟨_, σ', hm⟩
  | step s i =>
    obtain ⟨σ', hm⟩ := h.step hnext
    exact .inr ⟨s, σ', hm⟩
  | apply s i =>
    rcases h.apply hnext with ⟨-, hr⟩ | ⟨g, r, hσ, -, -, hm⟩
    · exact .inl hr
    · exact .inr ⟨s, _, hσ ▸ hm⟩
  | reply s i ok => exact (h.reply hnext).imp id fun ⟨σ', hm⟩ => ⟨s, σ', hm⟩
  | sync srgName sequence action m =>
    unfold Component.next at hnext
    dsimp only at hnext
    split at hnext
    · cases hnext
    · rename_i hip
      cases hnext
      exact .inl (h.receive fun t => unreadable_sync (h.synced t) srgName sequence action hip)
  | syncPage srgName ms sequence =>
    unfold Component.next at hnext
    dsimp only at hnext
    obtain ⟨hips, hnext⟩ := ite_none_left_eq_some.mp hnext
    cases hnext
    refine .inl (h.receive fun t => unreadable_syncPage (h.synced t) srgName sequence ?_)
    simpa using hips

end Events
end Component
end Osvbng.Cgnat

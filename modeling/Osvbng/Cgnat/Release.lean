import Osvbng.Cgnat.Lifecycle

/-!
# What a release leaves

`Component.clean_of_released` says that a released session holds nothing, once
nothing of it is under way: no block, no entry of the reverse index, no pool and no
mapping in the database. It is so as long as the events are `Careful`.

The component asks for none of that. In `Component.released_sessions_hold` sessions
are released and keep a block, an entry or a mapping, with every callback delivered.
-/

namespace Osvbng.Cgnat
open Function Option List Lib Lib.Slice Lib.NetIP Ha ReverseIndex PoolManager Machine Stage Bool

/-! ## Blocks with a port in common -/

namespace PoolManager
variable {N : Type} [DecidableEq N]

omit [DecidableEq N] in
theorem holds_of_mem {pm : PoolManager N} {name : N} {key : SubscriberKey} {b : BlockAllocation}
    (h : b ∈ pm.blocksOf name key) : ∃ ps j, pm.pools name = some ps ∧ ps.Holds key j b := by
  unfold blocksOf at h
  cases hps : pm.pools name with
  | none =>
    rw [hps] at h
    exact absurd h not_mem_nil
  | some ps =>
    rw [hps, bind_some] at h
    cases hsub : ps.subscribers key with
    | none =>
      rw [hsub] at h
      exact absurd h not_mem_nil
    | some sub =>
      rw [hsub] at h
      obtain ⟨j, hj⟩ := mem_iff_getElem?.mp h
      exact ⟨ps, j, rfl, sub, hsub, hj⟩

omit [DecidableEq N] in
theorem Proper.start_le_end {pm : PoolManager N} (h : pm.Proper) {name : N} {key : SubscriberKey}
    {b : BlockAllocation} (hb : b ∈ pm.blocksOf name key) : b.portBlockStart ≤ b.portBlockEnd := by
  obtain ⟨ps, j, hps, hholds⟩ := holds_of_mem hb
  have hon := (h.within name key b hb).1
  rw [ipsOf, hps] at hon
  obtain ⟨hshape, o, ho⟩ := h.sound name ps hps
  obtain ⟨i, -, hstart, hend⟩ := ho.exists_isBlock hholds (mem_map.mp hon)
  have hsize := Pool.toNat_pos_of_ne hshape.size
  rw [UInt16.le_iff_toNat_le]
  omega

omit [DecidableEq N] in
theorem Proper.key_eq {pm : PoolManager N} (h : pm.Proper) {name : N}
    {key key' : SubscriberKey} {b b' : BlockAllocation} (hb : b ∈ pm.blocksOf name key)
    (hb' : b' ∈ pm.blocksOf name key') (hip : unmapped b.outsideIP = unmapped b'.outsideIP)
    {port : UInt16} (hport : b.portBlockStart ≤ port ∧ port ≤ b.portBlockEnd)
    (hport' : b'.portBlockStart ≤ port ∧ port ≤ b'.portBlockEnd) : key = key' := by
  obtain ⟨ps, j, hps, hholds⟩ := holds_of_mem hb
  obtain ⟨ps', j', hps', hholds'⟩ := holds_of_mem hb'
  have hon := (h.within name key b hb).1
  rw [ipsOf, hps] at hon
  rw [hps] at hps'
  cases hps'
  obtain ⟨a, ha, haip⟩ := mem_map.mp hon
  by_contra hne
  have hapart := (h.sound name ps hps).disjoint _ j b _ j' b' hholds hholds'
    (fun heq => hne (congrArg Prod.fst heq)) ⟨a, ha, equal_iff_unmapped.mpr haip⟩
    (equal_iff_unmapped.mpr hip)
  simp only [UInt16.lt_iff_toNat_lt, UInt16.le_iff_toNat_le] at hapart hport hport'
  omega

end PoolManager

namespace Stage

theorem block_of_entry {σ : Stage} {m : SessionMapping} (h : σ.entry = some m) :
    σ.block = some m := by
  cases σ <;> cases h <;> rfl

theorem sessionID_of_entry {σ : Stage} {s : String} {m : SessionMapping} (h : σ.entry = some m)
    (hvalid : σ.Valid s) : m.sessionID = s := by
  cases σ with
  | indexed g | stored g | mapped g =>
    cases h
    exact hvalid.sessionID
  | leaving g sess | removing g m | unindexing g m =>
    cases h
    exact hvalid.1.sessionID
  | _ => cases h

theorem Next.entry {σ σ' : Stage} (h : σ.Next σ') :
    (∃ g, σ = recorded g ∧ σ' = indexed g) ∨ (∃ g m, σ = unindexing g m ∧ σ' = releasing g) ∨
      (σ'.entry = σ.entry ∧ ∀ ri, σ.reverse ri = ri) := by
  cases h with
  | index g => exact .inl ⟨g, rfl, rfl⟩
  | unindex g m => exact .inr (.inl ⟨g, m, rfl, rfl⟩)
  | _ => exact .inr (.inr ⟨rfl, fun _ => rfl⟩)

theorem persist_of_ne (σ : Stage) {s t : String} (hne : t ≠ s)
    {persisted : String → Option SessionMapping} : σ.persist s persisted t = persisted t := by
  cases σ with
  | indexed | forgetting => exact update_of_ne hne _ _
  | _ => rfl

theorem Next.persisted {σ σ' : Stage} (h : σ.Next σ') {s : String}
    {persisted : String → Option SessionMapping} (hs : persisted s = σ.persisted) :
    σ.persist s persisted s = σ'.persisted := by
  cases h with
  | store | forget => exact update_self ..
  | _ => exact hs

end Stage

namespace Component
variable {c c' : Component} {A : String → Stage} {s t : String}

/-! ## The reverse index -/

structure Apart (c : Component) : Prop where
  listed : ∀ name, ∀ ip ∈ c.pools.ipsOf name, ip ∈ c.outsideIPs
  apart : ∀ name name', ∀ ip ∈ c.pools.ipsOf name, ip ∈ c.pools.ipsOf name' → name = name'

structure Entries (c : Component) (A : String → Stage) : Prop where
  indexed : c.reverse.Indexed
  entered : ∀ key m, c.reverse.lookup key = some m → ∃ s, (A s).entry = some m

structure Kept (c : Component) (A : String → Stage) : Prop where
  staged : Staged c A
  proper : c.pools.Proper
  apart : c.Apart
  entries : c.Entries A
  persisted : ∀ s, c.persisted s = (A s).persisted

variable (h : Kept c A)
include h

theorem Kept.eq_of_reverseKey {m m' : SessionMapping} (hs : (A s).block = some m)
    (ht : (A t).block = some m') (hkey : reverseKey m = reverseKey m') : s = t := by
  have hheld := (h.staged.blocks.held s m hs).1
  have hheld' := (h.staged.blocks.held t m' ht).1
  have hb : blockOf m ∈
      c.pools.blocksOf m.poolName (subscriberOf m) :=
    hheld ▸ mem_singleton_self _
  have hb' : blockOf m' ∈
      c.pools.blocksOf m'.poolName (subscriberOf m') :=
    hheld' ▸ mem_singleton_self _
  obtain ⟨hip, hfour⟩ := h.proper.within _ _ _ hb
  obtain ⟨hip', hfour'⟩ := h.proper.within _ _ _ hb'
  have hsame : unmapped (blockOf m).outsideIP =
      unmapped (blockOf m').outsideIP :=
    calc unmapped m.outsideIP
        = unmapped (copy4 (to4 m.outsideIP)) := (PoolState.unmapped_copy4 hfour).symm
      _ = unmapped (copy4 (to4 m'.outsideIP)) :=
        congrArg (fun key : ReverseKey => unmapped key.outsideIP) hkey
      _ = unmapped m'.outsideIP := PoolState.unmapped_copy4 hfour'
  have hname : m.poolName = m'.poolName := by
    refine h.apart.apart _ _ _ hip ?_
    rw [hsame]
    exact hip'
  rw [← hname] at hb'
  have hport : (blockOf m).portBlockStart = (blockOf m').portBlockStart :=
    congrArg ReverseKey.portStart hkey
  have hsub : subscriberOf m = subscriberOf m' :=
    h.proper.key_eq hb hb' hsame ⟨UInt16.le_refl _, h.proper.start_le_end hb⟩
      ⟨hport ▸ UInt16.le_refl _, hport ▸ h.proper.start_le_end hb'⟩
  refine h.staged.eq_of_key (key_of_block hs) ?_
  rw [hsub]
  exact key_of_block ht

theorem Kept.entries_of_moves {σ' : Stage} (hm : Moves c c' A s (A s) σ') :
    c'.Entries (update A s σ') := by
  have hreverse := hm.reverse
  have hothers t m : (A t).entry = some m → t ≠ s → ∃ t', (update A s σ' t').entry = some m := by
    intro ht hts
    exact ⟨t, by rwa [update_of_ne hts]⟩
  rcases hm.next.entry with ⟨g, hσ, rfl⟩ | ⟨g, m, hσ, rfl⟩ | ⟨hentry, hsame⟩
  · -- An entry is added, at a place where no other session has a block.
    rw [hσ] at hreverse
    have hreverse : c'.reverse = c.reverse.add g.mapping := hreverse
    have hne : ∀ t m, (A t).entry = some m → t ≠ s := by
      rintro t m ht rfl
      rw [hσ] at ht
      cases ht
    have hfree : c.reverse.lookup (reverseKey g.mapping) = none := by
      cases hlook : c.reverse.lookup (reverseKey g.mapping) with
      | none => rfl
      | some m =>
        obtain ⟨t, ht⟩ := h.entries.entered _ m hlook
        obtain ⟨e, he, rfl⟩ := map_eq_some_iff.mp hlook
        have hts : t = s := h.eq_of_reverseKey (block_of_entry ht) (by rw [hσ]; rfl)
          (h.entries.indexed.found _ e he).symm
        exact absurd hts (hne t _ ht)
    refine ⟨hreverse ▸ h.entries.indexed.add hfree, fun key m hlook => ?_⟩
    rw [hreverse, lookup_add] at hlook
    rcases update_cases hlook with ⟨-, hlook⟩ | ⟨-, hlook⟩
    · exact ⟨s, by rw [update_self, ← hlook]; rfl⟩
    · obtain ⟨t, ht⟩ := h.entries.entered key m hlook
      exact hothers t m ht (hne t m ht)
  · -- The entry of the session is removed.
    rw [hσ] at hreverse
    have hreverse : c'.reverse = c.reverse.remove m.outsideIP m.portBlockStart := hreverse
    have hvalid := (h.staged.own s).valid
    rw [hσ] at hvalid
    have hplace : makeReverseKey m.outsideIP m.portBlockStart = reverseKey g.mapping :=
      congrArg (fun b : BlockAllocation => makeReverseKey b.outsideIP b.portBlockStart) hvalid.2.1
    refine ⟨hreverse ▸ h.entries.indexed.remove _ _, fun key m' hlook => ?_⟩
    rw [hreverse, lookup_remove, hplace] at hlook
    rcases update_cases hlook with ⟨-, hlook⟩ | ⟨hkey, hlook⟩
    · cases hlook
    · obtain ⟨t, ht⟩ := h.entries.entered key m' hlook
      refine hothers t m' ht ?_
      rintro rfl
      obtain ⟨e, he, rfl⟩ := map_eq_some_iff.mp hlook
      rw [hσ] at ht
      have hg : g.mapping = e.mapping := some_inj.mp ht
      exact hkey ((h.entries.indexed.found key e he).trans (congrArg reverseKey hg.symm))
  · rw [hsame] at hreverse
    refine ⟨hreverse ▸ h.entries.indexed, fun key m hlook => ?_⟩
    rw [hreverse] at hlook
    obtain ⟨t, ht⟩ := h.entries.entered key m hlook
    by_cases hts : t = s
    · subst hts
      exact ⟨t, by rw [update_self, hentry, ht]⟩
    · exact hothers t m ht hts

theorem Kept.persisted_of_moves {σ' : Stage} (hm : Moves c c' A s (A s) σ')
    (t : String) : c'.persisted t = (update A s σ' t).persisted := by
  rw [hm.persisted]
  by_cases hts : t = s
  · rw [hts, update_self]
    exact hm.next.persisted (h.persisted s)
  · rw [update_of_ne hts, persist_of_ne _ hts]
    exact h.persisted t

/-! ## Runs -/

theorem Kept.configurePool {name : String} {id : UInt32} {cfg : Pool}
    {prefixes : List InsidePrefix} (hc : c.Careful (.configurePool name id cfg prefixes))
    (hnext : c.configurePool name id cfg prefixes = some c') : Kept c' A := by
  obtain ⟨hcfg, hfresh⟩ := hc
  obtain ⟨hstaged, hreverse, hpersisted⟩ := h.staged.configurePool hnext
  have hentries : c'.Entries A := by
    refine ⟨hreverse ▸ h.entries.indexed, fun key m hlook => ?_⟩
    rw [hreverse] at hlook
    exact h.entries.entered key m hlook
  unfold Component.configurePool at hnext
  split at hnext
  · cases hnext
  rename_i hnew
  have hnone : c.pools.pools name = none := by simpa using hnew
  obtain ⟨r, hr, rfl⟩ := map_eq_some_iff.mp hnext
  obtain ⟨-, hblocks, hips⟩ := configurePool_of_none hnone hr
  have hempty : c.pools.ipsOf name = [] := by
    rw [ipsOf, hnone]
    rfl
  -- An address of a pool is an old one, or one of the new pool's.
  have hmem name' ip : ip ∈ (c.pools.orSame r).ipsOf name' →
      ip ∈ c.pools.ipsOf name' ∨ name' = name ∧ ip ∈ cfg.outsideIPs.map unmapped := by
    intro hip
    rcases hips name' with hsame | ⟨hname, hnew⟩
    · exact .inl (hsame ▸ hip)
    · exact .inr ⟨hname, hnew ▸ hip⟩
  have hfresh name' ip : ip ∈ c.pools.ipsOf name' → ip ∉ cfg.outsideIPs.map unmapped := by
    intro hip hcfg
    obtain ⟨x, hx, rfl⟩ := mem_map.mp hcfg
    exact hfresh x hx (h.apart.listed name' _ hip)
  refine ⟨hstaged, ⟨h.proper.sound.configurePool hcfg hr, fun name' key b hb => ?_⟩,
    ⟨fun name' ip hip => ?_, fun name₁ name₂ ip hip₁ hip₂ => ?_⟩, hentries,
    hpersisted ▸ h.persisted⟩
  · rw [hblocks] at hb
    obtain ⟨hip, hfour⟩ := h.proper.within name' key b hb
    refine ⟨?_, hfour⟩
    rcases hips name' with hsame | ⟨hname, -⟩
    · rw [hsame]
      exact hip
    · rw [hname, hempty] at hip
      exact absurd hip not_mem_nil
  · rcases hmem name' ip hip with hold | ⟨-, hnew⟩
    · exact mem_append_left _ (h.apart.listed name' ip hold)
    · exact mem_append_right _ hnew
  · rcases hmem name₁ ip hip₁ with hold₁ | ⟨rfl, hnew₁⟩ <;>
      rcases hmem name₂ ip hip₂ with hold₂ | ⟨hname₂, hnew₂⟩
    · exact h.apart.apart name₁ name₂ ip hold₁ hold₂
    · exact absurd hnew₂ (hfresh name₁ ip hold₁)
    · exact absurd hnew₁ (hfresh name₂ ip hold₂)
    · exact hname₂.symm

omit h
variable {decode : Bytes → Option SessionMapping}

theorem Kept.next (h : Kept c A) {e : Event}
    (hc : c.Careful e) (hnext : c.next decode e = some c') : ∃ A', Kept c' A' := by
  by_cases hconf : ∃ name id cfg prefixes, e = .configurePool name id cfg prefixes
  · obtain ⟨name, id, cfg, prefixes, rfl⟩ := hconf
    exact ⟨A, h.configurePool hc hnext⟩
  · have hne name id cfg prefixes : e ≠ .configurePool name id cfg prefixes :=
      fun he => hconf ⟨name, id, cfg, prefixes, he⟩
    have hips := ((leaves_next hnext).pools hne).1
    rcases h.staged.next hc hnext hne with hr | ⟨s, σ', hm⟩
    · refine ⟨A, hr.staged, hr.pools ▸ h.proper, ⟨?_, ?_⟩, ⟨hr.reverse ▸ h.entries.indexed, ?_⟩,
        hr.persisted ▸ h.persisted⟩
      · rw [hr.pools, hips]
        exact h.apart.listed
      · rw [hr.pools]
        exact h.apart.apart
      · rw [hr.reverse]
        exact h.entries.entered
    · refine ⟨_, hm.staged, hm.keeps.proper h.proper, ⟨?_, ?_⟩, h.entries_of_moves hm,
        h.persisted_of_moves hm⟩
      · intro name
        rw [hm.keeps.ips, hips]
        exact h.apart.listed name
      · intro name name'
        rw [hm.keeps.ips, hm.keeps.ips]
        exact h.apart.apart name name'

theorem kept_new : Kept new fun _ => .clean where
  staged := staged_new
  proper := ⟨nofun, fun _ _ _ hb => absurd hb not_mem_nil⟩
  apart := ⟨fun _ _ hip => absurd hip not_mem_nil, fun _ _ _ hip => absurd hip not_mem_nil⟩
  entries := ⟨indexed_new, nofun⟩
  persisted _ := rfl

theorem exists_kept (h : (machine decode).Reach Careful c) : ∃ A, Kept c A :=
  Reach.invariant (fun c => ∃ A, Kept c A) (fun _ hinit => ⟨_, hinit ▸ kept_new⟩)
    (fun _ _ _ ⟨_, hA⟩ hc hnext => hA.next hc hnext) h

/-! ## Released sessions -/

structure Clean (c : Component) (s : String) : Prop where
  blocks : ∀ poolName key, c.holder poolName key = some s → c.pools.blocksOf poolName key = []
  byBlock : ∀ key, ∀ e ∈ c.reverse.byBlock key, e.mapping.sessionID ≠ s
  byIP : ∀ ip, ∀ e ∈ c.reverse.byIP ip, e.mapping.sessionID ≠ s
  pool : c.sessionPoolMap s = none
  persisted : c.persisted s = none

theorem Kept.clean (h : Kept c A) (hσ : A s = .clean) : c.Clean s := by
  have hown := h.staged.own s
  rw [hσ] at hown
  have hentry : ∀ key m, c.reverse.lookup key = some m → m.sessionID ≠ s := by
    rintro key m hlook rfl
    obtain ⟨t, ht⟩ := h.entries.entered key m hlook
    rw [sessionID_of_entry ht (h.staged.own t).valid] at hσ
    rw [hσ] at ht
    cases ht
  refine ⟨fun poolName key hholder => ?_, fun key e he => ?_, fun ip e he => ?_, hown.pool,
    (h.persisted s).trans (by rw [hσ]; rfl)⟩
  · by_contra hne
    obtain ⟨t, m, hm, rfl, rfl⟩ := h.staged.blocks.owned poolName key hne
    have hts : t = s :=
      some_inj.mp ((h.staged.blocks.held t m hm).2.symm.trans hholder)
    rw [hts, hσ] at hm
    cases hm
  · refine hentry key e.mapping ?_
    rw [ReverseIndex.lookup, he]
    rfl
  · refine hentry (reverseKey e.mapping) e.mapping ?_
    rw [ReverseIndex.lookup, (h.entries.indexed.listed _ e he).1]
    rfl

/-- A session whose last event was a release holds nothing, once nothing of it is
under way. -/
theorem clean_of_released
    (h : (machine decode).Reach Careful c) (hidle : c.Idle s) (hlast : c.last s = some .release) :
    c.Clean s := by
  obtain ⟨A, hkept⟩ := exists_kept h
  rcases hkept.staged.of_idle hidle with hσ | ⟨g, hσ⟩
  · exact hkept.clean hσ
  · have hactive := (hkept.staged.own s).last
    rw [hσ, hlast] at hactive
    cases hactive rfl

instance (c : Component) (e : Event) : Decidable (c.Careful e) := by
  rcases e <;> dsimp only [Careful] <;> infer_instance

/-! ## Sessions without events -/

section Others
variable {decode : Bytes → Option SessionMapping} {ok : Component → Event → Prop}

theorem idle_of_run [∀ c e, Decidable (ok c e)] {es : List Event}
    (hrun : run (next decode) ok c es = some c') (h : c.Idle t)
    (hne : ∀ e ∈ es, e.sessionID ≠ some t) : c'.Idle t := by
  induction es generalizing c with
  | nil =>
    cases hrun
    exact h
  | cons e es ih =>
    unfold run at hrun
    split at hrun
    · obtain ⟨c₁, hnext, hrun⟩ := bind_eq_some_iff.mp hrun
      have hother := hne e mem_cons_self
      have hleaves := leaves_next hnext
      have hfirst : c₁.Idle t :=
        ⟨(hleaves.handlers t hother).trans h.1, (hleaves.requests t hother).trans h.2⟩
      exact ih hrun hfirst fun e' he' => hne e' (mem_cons_of_mem _ he')
    · cases hrun

theorem idle_of_all [∀ c e, Decidable (ok c e)] {es : List Event}
    (hrun : run (next decode) ok new es = some c)
    (hall : ∀ s ∈ es.filterMap Event.sessionID, c.Idle s) (s : String) : c.Idle s := by
  by_cases hs : s ∈ es.filterMap Event.sessionID
  · exact hall s hs
  · refine idle_of_run hrun ⟨rfl, rfl⟩ fun e he heq => hs ?_
    exact mem_filterMap.mpr ⟨e, he, heq⟩

end Others

/-! ## A pool with one outside address -/

def started : List Event :=
  [.configurePool "cgn" 1 oneAddress [⟨some ⟨[10, 0, 0, 0], 8, 32⟩, ""⟩],
    .configure (some ⟨fun name => if name = "cgn" then some (some .pba) else none, fun _ => none⟩)]

def sessionAt (ip : IP) : SubscriberSession := ⟨ip, "", 7, "business"⟩

def activated (s : String) (ip : IP) : List Event :=
  .activate ⟨s, some (sessionAt ip)⟩ ["cgn"] :: replicate 3 (.step s 0)

def answered (s : String) : List Event :=
  [.apply s 0, .reply s 0 true] ++ replicate 4 (.step s 0)

def released (s : String) (ip : IP) : List Event :=
  .release ⟨s, some (sessionAt ip)⟩ :: replicate 6 (.step s 0) ++ [.apply s 0, .reply s 0 true]

theorem clean_of_released_one :
    ∃ c, (machine fun _ => none).Reach Careful c ∧ c.Idle "s1" ∧ c.last "s1" = some .release ∧
      c.Clean "s1" := by
  obtain ⟨c, hc, hidle, hlast⟩ : ∃ c, (machine fun _ => none).Reach Careful c ∧
      (c.Idle "s1" ∧ c.last "s1" = some .release) :=
    exists_reach_of_run rfl (started ++ activated "s1" [10, 0, 0, 2] ++ answered "s1" ++
      released "s1" [10, 0, 0, 2]) (by decide +kernel)
  exact ⟨c, hc, hidle, hlast, clean_of_released hc hidle hlast⟩

/-- The session that is found under an outside address and a port holds a block with the
port, and no other subscriber of any pool does. -/
theorem lookupPort_holder (h : (machine decode).Reach Careful c) {ip : IP} {port : UInt16}
    {m : SessionMapping} (hm : c.reverse.lookupPort ip port = some m) :
    c.holder m.poolName (subscriberOf m) = some m.sessionID ∧
      ∀ name key, (name = m.poolName ∧ key = subscriberOf m) ↔
        ∃ b ∈ c.pools.blocksOf name key, copy4 (to4 b.outsideIP) = copy4 (to4 ip) ∧
          b.portBlockStart ≤ port ∧ port ≤ b.portBlockEnd := by
  obtain ⟨A, hkept⟩ := exists_kept h
  obtain ⟨e, he, rfl⟩ := mem_map.mp (mem_of_find?_eq_some hm)
  have hport : e.mapping.portBlockStart ≤ port ∧ port ≤ e.mapping.portBlockEnd := by
    simpa using find?_some hm
  obtain ⟨hentry, hip⟩ := hkept.entries.indexed.listed _ e he
  obtain ⟨s, hs⟩ := hkept.entries.entered (reverseKey e.mapping) e.mapping (by
    rw [ReverseIndex.lookup, hentry]
    rfl)
  obtain ⟨hheld, hholder⟩ := hkept.staged.blocks.held s _ (block_of_entry hs)
  have hmem : blockOf e.mapping ∈ c.pools.blocksOf e.mapping.poolName (subscriberOf e.mapping) :=
    hheld ▸ mem_singleton_self _
  refine ⟨by rw [hholder, sessionID_of_entry hs (hkept.staged.own s).valid], fun name key =>
    ⟨?_, ?_⟩⟩
  · rintro ⟨rfl, rfl⟩
    exact ⟨_, hmem, hip, hport⟩
  · rintro ⟨b, hb, hbip, hbport⟩
    obtain ⟨hon, hfour⟩ := hkept.proper.within _ _ _ hmem
    obtain ⟨hbon, hbfour⟩ := hkept.proper.within _ _ _ hb
    have hsame : unmapped b.outsideIP = unmapped (blockOf e.mapping).outsideIP := by
      rw [← PoolState.unmapped_copy4 hbfour, hbip, ← hip]
      exact PoolState.unmapped_copy4 hfour
    obtain rfl := hkept.apart.apart _ _ _ hbon (hsame ▸ hon)
    exact ⟨rfl, hkept.proper.key_eq hb hmem hsame hbport hport⟩

theorem lookupPort_holder_second : ∃ (c : Component) (m : SessionMapping),
    c.holder "cgn" (makeSubscriberKey 0 [10, 0, 0, 2]) = some "s1" ∧
      c.reverse.lookupPort [203, 0, 113, 1] 1540 = some m ∧ m.sessionID = "s2" ∧
      c.holder m.poolName (subscriberOf m) = some m.sessionID := by
  obtain ⟨c, hc, hfirst, m, hm, hs⟩ : ∃ c, (machine fun _ => none).Reach Careful c ∧
      c.holder "cgn" (makeSubscriberKey 0 [10, 0, 0, 2]) = some "s1" ∧
      ∃ m ∈ c.reverse.lookupPort [203, 0, 113, 1] 1540, m.sessionID = "s2" :=
    exists_reach_of_run rfl (started ++ activated "s1" [10, 0, 0, 2] ++ answered "s1" ++
      activated "s2" [10, 0, 0, 3] ++ answered "s2") (by decide +kernel)
  exact ⟨c, m, hfirst, hm, hs, (lookupPort_holder hc hm).1⟩

/-- The session is in the table of sessions or in the database, has an entry for the
outside address, or holds a block at its inside address. -/
def leftover (c : Component) (s : String) (ip : IP) : Bool :=
  (c.sessionPoolMap s).isSome || (c.persisted s).isSome ||
    (c.reverse.byIP [203, 0, 113, 1]).any (fun e => e.mapping.sessionID = s) ||
    (decide (c.holder "cgn" (makeSubscriberKey 0 ip) = some s) &&
      !(c.pools.blocksOf "cgn" (makeSubscriberKey 0 ip)).isEmpty)

theorem not_clean_of_leftover {ip : IP} (h : c.leftover s ip = true) : ¬ c.Clean s := by
  intro hclean
  unfold leftover at h
  rw [or_eq_true, or_eq_true, or_eq_true, List.any_eq_true, and_eq_true,
    decide_eq_true_eq, hclean.pool, hclean.persisted] at h
  rcases h with ((h | h) | ⟨e, he, hs⟩) | ⟨hholder, hblocks⟩
  · cases h
  · cases h
  · exact hclean.byIP _ e he (of_decide_eq_true hs)
  · rw [hclean.blocks _ _ hholder] at hblocks
    cases hblocks

/-- Runs after which the session `s1` has been released and still holds something:
* it was released while the dataplane was adding its block;
* it was released while the callback was recording it;
* its address had changed;
* another session had its address;
* its service group had been taken out of the translation;
* another pool had its outside address;
* the event had no session. -/
def leftovers : List (List Event) :=
  let first := [10, 0, 0, 2]
  let mapped := started ++ activated "s1" first ++ answered "s1"
  [started ++ activated "s1" first ++ [.release ⟨"s1", some (sessionAt first)⟩] ++ answered "s1",
    started ++ activated "s1" first ++ [.apply "s1" 0, .reply "s1" 0 true, .step "s1" 0,
      .release ⟨"s1", some (sessionAt first)⟩] ++ replicate 6 (.step "s1" 1) ++
      replicate 3 (.step "s1" 0) ++ [.apply "s1" 0, .reply "s1" 0 true],
    mapped ++ [.release ⟨"s1", some (sessionAt [10, 0, 0, 3])⟩, .step "s1" 0, .step "s1" 0],
    mapped ++ activated "s2" first ++ replicate 3 (.step "s2" 0) ++ released "s2" first ++
      [.release ⟨"s1", some (sessionAt first)⟩, .step "s1" 0, .step "s1" 0],
    mapped ++ [.configure (some ⟨fun _ => none, fun _ => some ⟨true, ""⟩⟩),
      .release ⟨"s1", some (sessionAt first)⟩],
    mapped ++ [.configurePool "cgn2" 2 oneAddress [],
      .configure (some ⟨fun _ => some (some .pba), fun _ => some ⟨false, "cgn2"⟩⟩)] ++
      activated "s2" [10, 0, 0, 3] ++ answered "s2" ++ released "s1" first,
    mapped ++ [.release ⟨"s1", none⟩]]

theorem released_sessions_hold :
    leftovers.Forall fun es => ∃ c,
      run (next fun _ => none) (fun _ _ => True) new es = some c ∧
        (machine fun _ => none).Reach (fun _ _ => True) c ∧ (∀ s, c.Idle s) ∧
        c.last "s1" = some .release ∧ ¬ c.Clean "s1" := by
  have hruns : ∀ es ∈ leftovers, (run (next fun _ => none) (fun _ _ => True) new es).any
      (fun c => decide (∀ s ∈ es.filterMap Event.sessionID, c.Idle s) &&
        decide (c.last "s1" = some .release) && c.leftover "s1" [10, 0, 0, 2]) = true := by
    decide +kernel
  rw [forall_iff_forall_mem]
  intro es hes
  have hrun := hruns es hes
  rw [Option.any_eq_true] at hrun
  obtain ⟨c, hc, hleft⟩ := hrun
  rw [and_eq_true, and_eq_true, decide_eq_true_eq, decide_eq_true_eq] at hleft
  obtain ⟨⟨hidle, hlast⟩, hleft⟩ := hleft
  exact ⟨c, hc, (Reach.init rfl).of_run hc, idle_of_all hc hidle, hlast,
    not_clean_of_leftover hleft⟩

end Component
end Osvbng.Cgnat

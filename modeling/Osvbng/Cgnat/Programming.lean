import Osvbng.Cgnat.Release
import Osvbng.Cgnat.Restore

/-!
# Mapped sessions and the dataplane

A session in the table of sessions ought to have its block in the dataplane.
`Component.programmed_of_careful` says so for runs with restarts of the component
and of the dataplane, as long as the events are `NodeCareful`.

`Component.mapped_unprogrammed` are runs in which a session is in the table and the
dataplane does not have its block.
-/

namespace Osvbng.Cgnat
variable {m : SessionMapping} {x : Record × SessionMapping} {records : List Record}
open Function Option List Lib Lib.Slice Lib.NetIP Ha Stage Machine.Reach DataplaneKey PoolManager

theorem PoolManager.restore_of_nil {pm : PoolManager String} (hnamed : pm.Named)
    {m : CGNATMapping String} (hpool : (pm.pools m.poolName).isSome)
    (hnil : pm.blocksOf m.poolName (subscriberOf m) = []) :
    ∃ pm', pm.restoreMappingIfAbsent m = .ok pm' ∧ pm'.Named ∧
      (∀ name key, pm'.blocksOf name key =
        if name = m.poolName ∧ key = subscriberOf m then [blockOf m]
        else pm.blocksOf name key) ∧
      ∀ name, (pm'.pools name).isSome = (pm.pools name).isSome := by
  obtain ⟨ps, hps⟩ := isSome_iff_exists.mp hpool
  have hsub : (ps.subscribers (subscriberOf m)).elim [] (·.blocks) = [] := by
    rwa [blocksOf, hps] at hnil
  have hhas : ps.hasBlock (subscriberOf m) m = false := by
    unfold PoolState.hasBlock
    cases hold : ps.subscribers (subscriberOf m) with
    | none => rfl
    | some sub =>
      rw [hold] at hsub
      change sub.blocks = [] at hsub
      rw [any_some, hsub]
      rfl
  obtain ⟨hok, hname, hblocks⟩ := restoreMappingIfAbsent_spec hps
  refine ⟨pm.put m.poolName (ps.restore m true), hok, hnamed.put ?_, fun name key => ?_,
    fun name => ?_⟩
  · rw [hname]
    exact hnamed m.poolName ps hps
  · rw [hblocks, hhas]
    split
    · rename_i hat
      rw [hat.1, hat.2, hnil]
      rfl
    · rfl
  · unfold put
    dsimp only
    by_cases hname : name = m.poolName
    · rw [hname, update_self, hps]
      rfl
    · rw [update_of_ne hname]

namespace Stage

def programmed : Stage → Option SessionMapping
  | waiting g r => if r.applied then some g.mapping else none
  | taken g | recorded g | indexed g | stored g | mapped g | leaving g _ | removing g _
  | unindexing g _ | releasing g | dropping g => some g.mapping
  | _ => none

theorem programmed_of_recording {σ : Stage} (h : σ.recording = some m) : σ.programmed = some m := by
  cases σ <;> cases h <;> rfl

theorem key_of_programmed {σ : Stage} (h : σ.programmed = some m) :
    σ.key = some (subscriberOf m) := by
  cases σ with
  | waiting g r =>
    unfold programmed at h
    dsimp only at h
    split at h
    · cases h
      rfl
    · cases h
  | _ =>
    cases h
    try rfl

end Stage

namespace Component
variable {c c' : Component} {A : String → Stage} {s t : String} {σ σ' : Stage}
  {decode : Bytes → Option SessionMapping} {todo : List (Record × SessionMapping)}
  {setups : List PoolSetup} {e : NodeEvent}

/-! ## The blocks in the dataplane -/

/-- The dataplane has the blocks of the sessions, as far as their stages say so. -/
structure Plane (c : Component) (A : String → Stage) : Prop where
  staged : Staged c A
  programmed : ∀ s m, (A s).programmed = some m →
    c.dataplane ⟨c.poolID m.poolName, subscriberOf m⟩ =
      some (blockOf m)
  vrf : ∀ s m, c.persisted s = some m → m.insideVRFID = 0

theorem programmed_of_moves (hm : Moves c c' A s σ σ') (hown : c.Own s σ)
    (hold : ∀ r ∈ c'.requests s, r.applied = true → r ∈ c.requests s)
    (h : σ'.programmed = some m) : σ.programmed = some m := by
  have hown' := hm.staged.own s
  rw [update_self] at hown'
  have hrequests := hown.requests
  have hrequests' := hown'.requests
  have happlied : ∀ g r, σ' = .waiting g r → r.applied = true ∧ r ∈ c.requests s := by
    rintro g r rfl
    have hr : r.applied = true := by
      unfold programmed at h
      dsimp only at h
      split at h
      · assumption
      · cases h
    exact ⟨hr, hold r (hrequests' ▸ mem_singleton_self r) hr⟩
  cases hm.next with
  | allocate step g r =>
    have hnone : c.requests s = [] := hrequests
    have hmem := (happlied g r rfl).2
    rw [hnone] at hmem
    exact absurd hmem not_mem_nil
  | apply g r =>
    have hone : c.requests s = [r] := hrequests
    have hmem := (happlied g _ rfl).2
    rw [hone, mem_singleton] at hmem
    rw [hmem] at h
    exact h
  | succeed g r hr =>
    unfold programmed
    dsimp only
    rw [if_pos hr]
    exact h
  | _ =>
    cases h
    try rfl

theorem vrf_of_moves (hm : Moves c c' A s (A s) σ') (hown : c.Own s (A s))
    (h : ∀ t m, c.persisted t = some m → m.insideVRFID = 0)
    (hpersisted : c'.persisted t = some m) : m.insideVRFID = 0 := by
  have hvalid := hown.valid
  rw [hm.persisted] at hpersisted
  cases hσ : A s with
  | indexed g =>
    rw [hσ] at hpersisted hvalid
    rcases update_cases hpersisted with ⟨-, hpersisted⟩ | ⟨-, hpersisted⟩
    · cases hpersisted
      exact (congrArg SubscriberKey.insideVRF hvalid.key).symm
    · exact h t m hpersisted
  | forgetting g =>
    rw [hσ] at hpersisted
    rcases update_cases hpersisted with ⟨-, hpersisted⟩ | ⟨-, hpersisted⟩
    · cases hpersisted
    · exact h t m hpersisted
  | _ =>
    rw [hσ] at hpersisted
    exact h t m hpersisted

theorem Plane.next (h : Plane c A) {e : Event} (hc : c.Careful e)
    (hnext : c.next decode e = some c')
    (hconf : ∀ name id cfg prefixes, e ≠ .configurePool name id cfg prefixes)
    (happly : ∀ s i, e ≠ .apply s i) : ∃ A', Plane c' A' := by
  have hleaves := leaves_next hnext
  have hids name : c'.poolID name = c.poolID name := by
    rw [poolID, poolID, (hleaves.pools hconf).2]
  rcases h.staged.next hc hnext hconf with hr | ⟨s, σ', hm⟩
  · refine ⟨A, hr.staged, fun t m hm => ?_, hr.persisted ▸ h.vrf⟩
    rw [hleaves.dataplane happly, hids]
    exact h.programmed t m hm
  · refine ⟨_, hm.staged, fun t m hp => ?_, fun t m hp => ?_⟩
    · rw [hleaves.dataplane happly, hids]
      rw [update_apply] at hp
      split at hp
      · exact h.programmed s m (programmed_of_moves hm (h.staged.own s)
          (hleaves.applied happly s) hp)
      · exact h.programmed t m hp
    · exact vrf_of_moves hm (h.staged.own s) h.vrf hp

theorem not_programmed_of_unmapped (hown : c.Own s σ) (hne : c.requests s ≠ [])
    (hask : σ.asking = none) (hpool : c.sessionPoolMap s = none) : ¬ σ.programmed = some m := by
  have hnone := hown.pool.symm.trans hpool
  have hrequests := hown.requests
  intro h
  cases σ with
  | waiting g r => cases hask
  | taken g => exact hne hrequests
  | recorded g | indexed g | stored g | mapped g | leaving g sess | removing g m
  | unindexing g m | releasing g | dropping g => cases hnone
  | clean | begun step | failing g | forgetting g => cases h

/-- The dataplane carries a request out: an addition for the session that waits for
it, or a removal for a session that is not in the table any more. -/
theorem Plane.apply (h : Plane c A) {i : Nat} (happly : c.apply s i = some c')
    (hc : ∀ r ∈ (c.requests s)[i]?, r.isAdd = false → c.sessionPoolMap s = none) :
    ∃ A', Plane c' A' := by
  have hstaged := h.staged.apply happly
  have hown := h.staged.own s
  obtain ⟨r, hr, happly⟩ := bind_eq_some_iff.mp happly
  have hmem := mem_of_getElem? hr
  split at happly
  · cases happly
  cases happly
  -- No other session has its block where the request goes.
  have hother t m : (A t).programmed = some m → t ≠ s →
      (⟨c.poolID m.poolName, subscriberOf m⟩ : DataplaneKey) ≠ r.key := by
    intro hm hts heq
    have hclaim := ((h.staged.own t).claims _ (key_of_programmed hm)).2
    have hasks := hown.asks r hmem
    rw [← heq, hclaim] at hasks
    exact hts (some_inj.mp hasks)
  have hkeep t m : (A t).programmed = some m → t ≠ s →
      Request.carryOut r c.dataplane ⟨c.poolID m.poolName, subscriberOf m⟩ =
        some (blockOf m) := by
    intro hm hts
    rw [Request.carryOut, update_of_ne (hother t m hm hts)]
    exact h.programmed t m hm
  rcases hstaged with ⟨hask, hrests⟩ | ⟨g, r', hσ, hone, rfl, hm⟩
  · have hremoval := hown.requests.removal hask hmem
    have hnone := hc r hr hremoval.1
    refine ⟨A, hrests.staged, fun t m hp => ?_, h.vrf⟩
    by_cases hts : t = s
    · rw [hts] at hp
      exact absurd hp (not_programmed_of_unmapped hown (ne_nil_of_mem hmem) hask hnone)
    · exact hkeep t m hp hts
  · rw [hone] at hr
    cases hr
    rw [hσ] at hown
    obtain ⟨hkey, hblock⟩ := hown.programs g r rfl
    refine ⟨_, hm.staged, fun t m hp => ?_, h.vrf⟩
    rw [update_apply] at hp
    split at hp
    · cases hp
      have hadd : r.isAdd = true := hown.valid.2.1
      refine (congrArg (Request.carryOut r c.dataplane) hkey.symm).trans ?_
      rw [Request.carryOut, update_self, if_pos hadd, hblock]
      rfl
    · exact hkeep t m hp ‹_›

/-! ## Restoring -/

/-- What is left to restore: mappings of sessions that are clean, each at an address
of its own. -/
structure Restoring (c : Component) (A : String → Stage)
    (todo : List (Record × SessionMapping)) : Prop where
  plane : Plane c A
  idle : ∀ t, c.Idle t
  clean : ∀ x ∈ todo, A x.2.sessionID = .clean
  free : ∀ x ∈ todo, ∀ t, (A t).key ≠ some (subscriberOf x.2)
  ids : (todo.map fun x => x.2.sessionID).Nodup
  keys : (todo.map fun x => subscriberOf x.2).Nodup
  vrf : ∀ x ∈ todo, x.2.insideVRFID = 0
  pools : ∀ x ∈ todo, (c.poolIDMap x.2.poolName).isSome → (c.pools.pools x.2.poolName).isSome

def restoredGrant (m : SessionMapping) : Grant := ⟨m, copy4 (to4 m.insideIP)⟩

theorem of_restoredGrant (hvrf : m.insideVRFID = 0) : (restoredGrant m).Of m.sessionID where
  sessionID := rfl
  key := by
    have hfour : to4 (copy4 (to4 m.insideIP)) = copy4 (to4 m.insideIP) := by
      rw [to4, if_pos (length_copy4 _)]
    have hcopy : copy4 (copy4 (to4 m.insideIP)) = copy4 (to4 m.insideIP) := by
      rw [copy4, take_append_of_le_length (by rw [length_copy4]),
        take_of_length_le (by rw [length_copy4])]
    change (⟨0, copy4 (to4 (copy4 (to4 m.insideIP)))⟩ : SubscriberKey) =
      ⟨m.insideVRFID, copy4 (to4 m.insideIP)⟩
    rw [hfour, hcopy, hvrf]
  ip := to4_copy4 _

theorem Staged.restore (h : Staged c A) (hidle : ∀ t, c.Idle t)
    (hvrf : m.insideVRFID = 0) (hpool : (c.pools.pools m.poolName).isSome)
    (hclean : A m.sessionID = .clean)
    (hfree : ∀ t, (A t).key ≠ some (subscriberOf m)) (id : UInt32) :
    Staged ((c.programMapping id m).commitRestoredPBA m)
        (update A m.sessionID (.mapped (restoredGrant m))) ∧
      ∀ name, (((c.programMapping id m).commitRestoredPBA m).pools.pools name).isSome =
        (c.pools.pools name).isSome := by
  have hnil : c.pools.blocksOf m.poolName (subscriberOf m) = [] := by
    by_contra hheld
    obtain ⟨t, m', hm', -, hkey⟩ := h.blocks.owned _ _ hheld
    exact hfree t ((key_of_block hm').trans (congrArg some hkey))
  obtain ⟨pools, hrestore, hnamed, hblocks, hsome⟩ :=
    restore_of_nil h.named hpool hnil
  have hlocal : (c.programMapping id m).restoreLocally m =
      (c.programMapping id m).give m.sessionID pools m := by
    unfold restoreLocally
    rw [show (c.programMapping id m).pools = c.pools from rfl, hrestore]
  unfold commitRestoredPBA
  rw [hlocal]
  have hown := h.own m.sessionID
  rw [hclean] at hown
  refine ⟨Staged.set hnamed h.synced (fun t hts => ?_) ?_ (h.blocks.give (m := m) hblocks rfl ?_ rfl
    fun t _ => hfree t), hsome⟩
  · refine (h.own t).frame
      { Frame.refl c m.sessionID with
        pool t hts := update_of_ne hts _ _
        address t hts := update_of_ne hts _ _
        committed t hts := update_of_ne hts _ _
        last t hts := update_of_ne hts _ _ } hts (fun k hk => ?_) (fun r hr => ?_)
      fun _ _ _ => rfl
    · refine update_of_ne ?_ _ _
      rintro rfl
      exact hfree t hk
    · rw [(hidle t).2] at hr
      exact absurd hr not_mem_nil
  · exact { hown with
      valid := of_restoredGrant hvrf
      handlers := (hidle _).1
      requests := (hidle _).2
      pool := update_self ..
      claims k hk := by
        cases hk
        exact ⟨update_self .., update_self ..⟩
      asks r hr := by
        have hr : r ∈ c.requests m.sessionID := hr
        rw [(hidle _).2] at hr
        exact absurd hr not_mem_nil
      committed m' hm' := by
        exact (update_self ..).trans hm'
      last _ := update_self .. }
  · rw [hclean]
    rfl

theorem exists_restoreLocally (c : Component) (m : SessionMapping) :
    ∃ pools holder, c.restoreLocally m = { c with pools := pools, holder := holder } := by
  unfold restoreLocally
  split
  · exact ⟨c.pools, c.holder, rfl⟩
  · exact ⟨_, _, rfl⟩

theorem Restoring.skip (h : Restoring c A (x :: todo)) : Restoring c A todo where
  plane := h.plane
  idle := h.idle
  clean y hy := h.clean y (mem_cons_of_mem _ hy)
  free y hy := h.free y (mem_cons_of_mem _ hy)
  ids := (nodup_cons.mp h.ids).2
  keys := (nodup_cons.mp h.keys).2
  vrf y hy := h.vrf y (mem_cons_of_mem _ hy)
  pools y hy := h.pools y (mem_cons_of_mem _ hy)

theorem Restoring.reprogram
    (h : Restoring c A (x :: todo)) : ∃ A', Restoring (c.reprogram x) A' todo := by
  unfold Component.reprogram
  split
  case h_2 => exact ⟨A, h.skip⟩
  rename_i id hfate
  split
  case isFalse => exact ⟨A, h.skip⟩
  have hid : c.poolIDMap x.2.poolName = some id := by
    unfold fate at hfate
    split at hfate
    · split at hfate <;> cases hfate
    · split at hfate
      · cases hfate
      · rename_i hid
        cases hfate
        exact hid
  have hx := mem_cons_self (a := x) (l := todo)
  have hpool : (c.pools.pools x.2.poolName).isSome := h.pools x hx (by rw [hid]; rfl)
  obtain ⟨hstaged, hsome⟩ := h.plane.staged.restore h.idle (h.vrf x hx) hpool (h.clean x hx)
    (h.free x hx) id
  obtain ⟨pools, holder, hlocal⟩ := exists_restoreLocally (c.programMapping id x.2) x.2
  rw [commitRestoredPBA, hlocal] at hstaged hsome ⊢
  have hother : ∀ y ∈ todo, y.2.sessionID ≠ x.2.sessionID ∧
      subscriberOf y.2 ≠ subscriberOf x.2 := by
    intro y hy
    refine ⟨fun heq => ?_, fun heq => ?_⟩
    · exact (nodup_cons.mp h.ids).1 (mem_map.mpr ⟨y, hy, heq⟩)
    · exact (nodup_cons.mp h.keys).1 (mem_map.mpr ⟨y, hy, heq⟩)
  have hold := h.skip
  refine ⟨_, { hold with
    plane := ⟨hstaged, fun t m hm => ?_, fun t m hm => ?_⟩
    clean y hy := ?_
    free y hy t hkey := ?_
    pools y hy hsome' := ?_ }⟩
  · -- The block of the session is where the dataplane has just taken it.
    rw [update_apply] at hm
    split at hm
    · cases hm
      have hpid : c.poolID x.2.poolName = id := by
        rw [poolID, hid]
        rfl
      change update c.dataplane ⟨id, subscriberOf x.2⟩
        (some (blockOf x.2))
        ⟨c.poolID x.2.poolName, subscriberOf x.2⟩ = _
      rw [hpid, update_self]
      rfl
    · have hne : (⟨c.poolID m.poolName, subscriberOf m⟩ : DataplaneKey) ≠
          ⟨id, subscriberOf x.2⟩ := by
        intro heq
        have hsub : subscriberOf m = subscriberOf x.2 :=
          congrArg subscriber heq
        apply h.free x hx t
        rw [← hsub]
        exact key_of_programmed hm
      exact (update_of_ne hne _ _).trans (h.plane.programmed t m hm)
  · obtain ⟨-, ⟨⟩⟩ | ⟨-, hm⟩ := update_cases hm
    · exact h.vrf x hx
    · exact h.plane.vrf t m hm
  · rw [update_of_ne (hother y hy).1]
    exact hold.clean y hy
  · rw [update_apply] at hkey
    split at hkey
    · exact (hother y hy).2 (some_inj.mp hkey).symm
    · exact hold.free y hy t hkey
  · rw [hsome]
    exact hold.pools y hy hsome'

theorem Restoring.fold (h : Restoring c A todo) :
    ∃ A', Plane (todo.foldl .reprogram c) A' := by
  induction todo generalizing c A with
  | nil => exact ⟨A, h.plane⟩
  | cons x todo ih =>
    obtain ⟨A', h'⟩ := h.reprogram
    exact ih h'

theorem Plane.deleteOrphan (h : Plane c A) (x : Record × SessionMapping) :
    Plane (c.deleteOrphan x) A := by
  unfold Component.deleteOrphan
  split
  · refine ⟨⟨h.staged.named, h.staged.synced, fun t => { h.staged.own t with },
      ⟨h.staged.blocks.held, h.staged.blocks.owned⟩⟩, h.programmed, fun t m hm => ?_⟩
    obtain ⟨-, ⟨⟩⟩ | ⟨-, hm⟩ := update_cases hm
    exact h.vrf t m hm
  · exact h

theorem Plane.foldl_deleteOrphan (h : Plane c A) (loaded : List (Record × SessionMapping)) :
    Plane (loaded.foldl .deleteOrphan c) A := by
  induction loaded generalizing c with
  | nil => exact h
  | cons x loaded ih => exact ih (h.deleteOrphan x)

structure Blank (c : Component) : Prop where
  plane : Plane c fun _ => .clean
  idle : ∀ t, c.Idle t

theorem Blank.configurePool (h : Blank c) {p : PoolSetup}
    (hnext : c.configurePool p.name p.id p.cfg p.prefixes = some c') :
    Blank c' ∧ c'.persisted = c.persisted := by
  obtain ⟨hstaged, -, hpersisted⟩ := h.plane.staged.configurePool hnext
  have hevent : c.next (fun _ => none) (.configurePool p.name p.id p.cfg p.prefixes) = some c' :=
    hnext
  have hleaves := leaves_next hevent
  have hidle t : c'.Idle t := by
    have hne : (Event.configurePool p.name p.id p.cfg p.prefixes).sessionID ≠ some t :=
      some_ne_none t |>.symm
    exact ⟨(hleaves.handlers t hne).trans (h.idle t).1, (hleaves.requests t hne).trans (h.idle t).2⟩
  exact ⟨⟨⟨hstaged, nofun, hpersisted ▸ h.plane.vrf⟩, hidle⟩, hpersisted⟩

theorem Blank.fold (h : Blank c)
    (hfold : setups.foldlM (fun c p => c.configurePool p.name p.id p.cfg p.prefixes) c =
      some c') : Blank c' ∧ c'.persisted = c.persisted := by
  induction setups generalizing c with
  | nil =>
    cases hfold
    exact ⟨h, rfl⟩
  | cons p setups ih =>
    obtain ⟨c₁, hfirst, hfold⟩ := bind_eq_some_iff.mp hfold
    obtain ⟨hblank, hpersisted⟩ := h.configurePool hfirst
    obtain ⟨hlast, hsame⟩ := ih hblank hfold
    exact ⟨hlast, hsame.trans hpersisted⟩

theorem Plane.newProcess (h : Plane c A) (replaced : List UInt32) :
    Blank (c.newProcess replaced) := by
  refine ⟨⟨⟨?_, h.staged.synced, fun t => .clean ⟨rfl, rfl⟩ rfl rfl, ⟨?_, ?_⟩⟩, ?_, h.vrf⟩,
    fun t => ⟨rfl, rfl⟩⟩
  · intro name ps hps
    cases hps
  · intro s m hm
    cases hm
  · intro name key hne
    exact absurd rfl hne
  · intro s m hm
    cases hm

theorem mem_load (h : x ∈ c.load records) : x.1 ∈ records ∧ x.2.sessionID = x.1.sessionID ∧
      ∃ m, c.persisted x.1.sessionID = some m ∧ x.2.insideVRFID = m.insideVRFID := by
  obtain ⟨r, hr, hx⟩ := mem_filterMap.mp h
  obtain ⟨m, hm, rfl⟩ := map_eq_some_iff.mp hx
  exact ⟨hr, rfl, m, hm, rfl⟩

theorem nodup_load (h : (records.map (·.sessionID)).Nodup) :
    ((c.load records).map fun x => x.2.sessionID).Nodup := by
  refine h.sublist ?_
  induction records with
  | nil => exact .slnil
  | cons r records ih =>
    have hrest := ih (nodup_cons.mp h).2
    unfold load
    cases hm : c.persisted r.sessionID with
    | none =>
      rw [filterMap_cons_none (by rw [hm]; rfl)]
      exact hrest.cons _
    | some m =>
      rw [filterMap_cons_some (by rw [hm]; rfl), map_cons]
      exact hrest.cons_cons _

/-! ## Runs -/

def RemovesUnmapped (c : Component) : Event → Prop
  | .apply s i => ∀ r ∈ (c.requests s)[i]?, r.isAdd = false → c.sessionPoolMap s = none
  | _ => True

/-- The conditions on the events of a session, and:
* a removal is carried out when the session is not in the table any more;
* after a restart every mapping in the database is of a session that is there or is
  gone for good, at an inside address of its own, and in a pool that is configured;
* the dataplane restarts when no session has anything, and what is programmed again
  is what the session is recorded with. -/
def NodeCareful (c : Component) : NodeEvent → Prop
  | .event e => c.Careful e ∧ c.RemovesUnmapped e
  | .restart setups replaced records =>
    (∀ x ∈ c.load records, x.1.resolveIfIndex = none → x.1.hasAccessRecord = false) ∧
      (records.map (·.sessionID)).Nodup ∧
      ((c.load records).map fun x => subscriberOf x.2).Nodup ∧
      ∀ c' ∈ c.configured setups replaced, ∀ x ∈ c.load records,
        (c'.poolIDMap x.2.poolName).isSome → (c'.pools.pools x.2.poolName).isSome
  | .dataplaneRestart => ∀ s, c.Free s
  | .recoverDataplane records => ∀ x ∈ c.load records, x.1.programmed = true →
      ∃ m ∈ c.committed x.2.sessionID, c.sessionPoolMap x.2.sessionID = some x.2.poolName ∧
        subscriberOf m = subscriberOf x.2 ∧
        blockOf m = blockOf x.2

theorem foldl_putOff_eq {loaded : List (Record × SessionMapping)}
    (h : ∀ x ∈ loaded, x.1.resolveIfIndex = none → x.1.hasAccessRecord = false) :
    loaded.foldl putOff c = c := by
  induction loaded with
  | nil => rfl
  | cons x loaded ih =>
    have hx : c.putOff x = c := by
      refine if_neg fun hfate => ?_
      unfold fate at hfate
      split at hfate
      · rename_i hnone
        rw [h x mem_cons_self hnone] at hfate
        cases hfate
      · split at hfate <;> cases hfate
    rw [foldl_cons, hx]
    exact ih fun y hy => h y (mem_cons_of_mem _ hy)

theorem Plane.restart (h : Plane c A) {replaced : List UInt32}
    (hc : c.NodeCareful (.restart setups replaced records))
    (hnext : c.restart setups replaced records = some c') : ∃ A', Plane c' A' := by
  obtain ⟨hthere, hids, hkeys, hpools⟩ := hc
  obtain ⟨c₁, hconf, rfl⟩ := map_eq_some_iff.mp hnext
  obtain ⟨hblank, hpersisted⟩ := (h.newProcess replaced).fold hconf
  have hload : c₁.load records = c.load records := by
    unfold load
    rw [hpersisted]
    rfl
  have hrestoring : Restoring c₁ (fun _ => .clean) (c.load records) :=
    { plane := hblank.plane
      idle := hblank.idle
      clean _ _ := rfl
      free x _ t hk := by cases hk
      ids := nodup_load hids
      keys := hkeys
      vrf x hx := by
        obtain ⟨-, -, m, hm, hvrf⟩ := mem_load hx
        exact hvrf.trans (h.vrf _ m hm)
      pools := hpools c₁ hconf }
  obtain ⟨A', hplane⟩ := hrestoring.fold
  refine ⟨A', ?_⟩
  unfold restoreFromOpDB
  dsimp only
  rw [hload, foldl_putOff_eq hthere]
  exact hplane.foldl_deleteOrphan (c.load records)

theorem Plane.recoverMapping (h : Plane c A) (hvrf : x.2.insideVRFID = 0)
    (hx : x.1.programmed = true → ∃ m, (A x.2.sessionID).programmed = some m ∧
      m.poolName = x.2.poolName ∧
      subscriberOf m = subscriberOf x.2 ∧
      blockOf m = blockOf x.2) : Plane (c.recoverMapping x) A := by
  unfold Component.recoverMapping
  split
  case h_2 => exact h
  rename_i id hfate
  split
  case isFalse => exact h
  rename_i hprogrammed
  obtain ⟨m, hm, hname, hsub, hblock⟩ := hx hprogrammed
  refine ⟨⟨h.staged.named, h.staged.synced, fun t => { h.staged.own t with },
    ⟨h.staged.blocks.held, h.staged.blocks.owned⟩⟩, fun t m' hm' => ?_, fun t m' hm' => ?_⟩
  · have hold := h.programmed t m' hm'
    by_cases heq : (⟨c.poolID m'.poolName, subscriberOf m'⟩ : DataplaneKey) =
        ⟨id, subscriberOf x.2⟩
    · -- The address is this session's, and so the block is the same.
      have hkey : subscriberOf m' = subscriberOf m :=
        (congrArg subscriber heq).trans hsub.symm
      have hts : t = x.2.sessionID := by
        refine h.staged.eq_of_key (key_of_programmed hm') ?_
        rw [hkey]
        exact key_of_programmed hm
      rw [hts, hm] at hm'
      cases hm'
      refine (congrArg _ heq).trans ((update_self ..).trans ?_)
      rw [hblock]
    · exact (update_of_ne heq _ _).trans hold
  · obtain ⟨-, ⟨⟩⟩ | ⟨-, hm'⟩ := update_cases hm'
    · exact hvrf
    · exact h.vrf t m' hm'

theorem recording_of_pool {poolName : String} (hown : c.Own s σ)
    (hpool : c.sessionPoolMap s = some poolName) :
    ∃ m, σ.recording = some m ∧ m.poolName = poolName ∧ c.committed s = some m := by
  have hσ := hown.pool.symm.trans hpool
  have hcommitted := hown.committed
  cases σ with
  | recorded g | indexed g | stored g | mapped g | leaving g sess | removing g m
  | unindexing g m | releasing g | dropping g =>
    exact ⟨g.mapping, rfl, some_inj.mp hσ, hcommitted g.mapping rfl⟩
  | clean | begun step | waiting g r | failing g | taken g | forgetting g => cases hσ

theorem Plane.recoverDataplane (h : Plane c A)
    (hc : c.NodeCareful (.recoverDataplane records)) : Plane (c.recoverDataplane records) A := by
  have hvrf : ∀ x ∈ c.load records, x.2.insideVRFID = 0 := by
    intro x hx
    obtain ⟨-, -, m, hm, hsame⟩ := mem_load hx
    exact hsame.trans (h.vrf _ m hm)
  have hmapped : ∀ x ∈ c.load records, x.1.programmed = true →
      ∃ m, (A x.2.sessionID).programmed = some m ∧ m.poolName = x.2.poolName ∧
        subscriberOf m = subscriberOf x.2 ∧
        blockOf m = blockOf x.2 := by
    intro x hx hprogrammed
    obtain ⟨m, hm, hpool, hsub, hblock⟩ := hc x hx hprogrammed
    obtain ⟨m', hrecording, hname, hcommitted⟩ := recording_of_pool (h.staged.own _) hpool
    rw [hm] at hcommitted
    cases hcommitted
    exact ⟨m, programmed_of_recording hrecording, hname, hsub, hblock⟩
  unfold Component.recoverDataplane
  generalize c.load records = loaded at hvrf hmapped
  clear hc
  induction loaded generalizing c with
  | nil => exact h
  | cons x loaded ih =>
    exact ih (h.recoverMapping (hvrf x mem_cons_self) (hmapped x mem_cons_self))
      (fun y hy => hvrf y (mem_cons_of_mem _ hy))
      fun y hy => hmapped y (mem_cons_of_mem _ hy)

theorem Plane.nodeNext (h : Plane c A) (hc : c.NodeCareful e)
    (hnext : c.nodeNext decode e = some c') : ∃ A', Plane c' A' := by
  cases e with
  | restart setups replaced records => exact h.restart hc hnext
  | dataplaneRestart =>
    cases hnext
    refine ⟨A, ⟨h.staged.named, h.staged.synced, fun t => { h.staged.own t with },
      ⟨h.staged.blocks.held, h.staged.blocks.owned⟩⟩, fun s m hm => ?_, h.vrf⟩
    rw [h.staged.of_free (hc s)] at hm
    cases hm
  | recoverDataplane records =>
    cases hnext
    exact ⟨A, h.recoverDataplane hc⟩
  | event e =>
    unfold Component.nodeNext at hnext
    dsimp only at hnext
    split at hnext
    · cases hnext
    rename_i hno
    by_cases happly : ∃ s i, e = .apply s i
    · obtain ⟨s, i, rfl⟩ := happly
      exact h.apply hnext hc.2
    · refine h.next hc.1 hnext ?_ fun s i he => happly ⟨s, i, he⟩
      rintro name id cfg prefixes rfl
      exact hno rfl

def Programmed (c : Component) : Prop :=
  ∀ s poolName, c.sessionPoolMap s = some poolName → ∃ m, c.committed s = some m ∧
    m.poolName = poolName ∧
    c.dataplane ⟨c.poolID poolName, subscriberOf m⟩ =
      some (blockOf m)

theorem plane_new : Plane new fun _ => .clean where
  staged := staged_new
  programmed _ _ hm := by cases hm
  vrf _ _ hm := by cases hm

/-- A session that is recorded as mapped has its block in the dataplane: it was
programmed since the dataplane last started, and not removed since. -/
theorem programmed_of_careful (h : (node decode).Reach NodeCareful c) : c.Programmed := by
  obtain ⟨A, hplane⟩ := invariant (fun c => ∃ A, Plane c A)
    (fun _ hinit => ⟨_, hinit ▸ plane_new⟩)
    (fun _ _ _ ⟨_, hA⟩ hc hnext => hA.nodeNext hc hnext) h
  intro s poolName hpool
  obtain ⟨m, hrecording, hname, hcommitted⟩ := recording_of_pool (hplane.staged.own s) hpool
  refine ⟨m, hcommitted, hname, ?_⟩
  rw [← hname]
  exact hplane.programmed s m (programmed_of_recording hrecording)

/-! ## A pool with one outside address -/

def boot (records : List Record) : List NodeEvent :=
  [.restart [⟨"cgn", 1, oneAddress, [⟨some ⟨[10, 0, 0, 0], 8, 32⟩, ""⟩]⟩] [] records,
    .event (.configure
      (some ⟨fun name => if name = "cgn" then some (some .pba) else none, fun _ => none⟩))]

def events (es : List Event) : List NodeEvent := es.map .event

def Checked (c : Component) : NodeEvent → Prop
  | .dataplaneRestart => False
  | e => c.NodeCareful e

instance (c : Component) (e : Event) : Decidable (c.RemovesUnmapped e) := by
  rcases e <;> dsimp only [RemovesUnmapped] <;> infer_instance

instance (c : Component) (e : NodeEvent) : Decidable (c.Checked e) := by
  rcases e <;> dsimp only [Checked, NodeCareful] <;> infer_instance

theorem careful_of_checked (h : c.Checked e) : c.NodeCareful e := by
  cases e with
  | dataplaneRestart => exact h.elim
  | _ => exact h

/-- A session is mapped, and mapped again after a restart of the component. -/
theorem programmed_of_careful_restored :
    ∃ c, (node fun _ => none).Reach NodeCareful c ∧ c.sessionPoolMap "s1" = some "cgn" ∧
      c.Programmed := by
  obtain ⟨c, hc, hpool⟩ : ∃ c, (node fun _ => none).Reach Checked c ∧
      c.sessionPoolMap "s1" = some "cgn" :=
    Machine.exists_reach_of_run rfl (boot [] ++
      events (activated "s1" [10, 0, 0, 2] ++ answered "s1") ++
      boot [⟨"s1", some 9, true, true⟩]) (by decide +kernel)
  have hreach := hc.mono fun _ _ => careful_of_checked
  exact ⟨c, hreach, hpool, programmed_of_careful hreach⟩

def unprogrammed (c : Component) (s : String) : Bool :=
  (c.sessionPoolMap s).any fun poolName => !(c.committed s).any fun m : SessionMapping =>
    decide (c.dataplane ⟨c.poolID poolName, subscriberOf m⟩ =
      some (blockOf m))

theorem not_programmed_of_unprogrammed (h : c.unprogrammed s = true) : ¬ c.Programmed := by
  intro hprogrammed
  unfold unprogrammed at h
  rw [Option.any_eq_true] at h
  obtain ⟨poolName, hpool, h⟩ := h
  obtain ⟨m, hm, -, hplane⟩ := hprogrammed s poolName hpool
  rw [hm, any_some, hplane, decide_eq_true rfl] at h
  cases h

/-- Runs that end with a session in the table whose block the dataplane does not have:
* the dataplane restarts;
* it restarts, and the block is not programmed again;
* both restart, the session is not in the cache yet and is activated then;
* two sessions have one address, and the block is still being programmed for the first;
* programming it fails for the first;
* the first is released;
* the block is removed while the session is being released. -/
def windows : List (List NodeEvent × String) :=
  let first := [10, 0, 0, 2]
  let mapped := boot [] ++ events (activated "s1" first ++ answered "s1")
  let second := activated "s2" first ++ [.step "s2" 0]
  [(mapped ++ [.dataplaneRestart], "s1"),
    (mapped ++ [.dataplaneRestart, .recoverDataplane [⟨"s1", some 9, true, false⟩]], "s1"),
    (mapped ++ [.dataplaneRestart] ++ boot [⟨"s1", none, true, false⟩] ++
      events (activated "s1" first ++ [.step "s1" 0]), "s1"),
    (boot [] ++ events (activated "s1" first ++ second), "s2"),
    (boot [] ++ events (activated "s1" first ++ second ++
      [.reply "s1" 0 false, .step "s1" 0, .step "s1" 0]), "s2"),
    (mapped ++ events (second ++ released "s1" first), "s2"),
    (mapped ++ events [.release ⟨"s1", some (sessionAt first)⟩, .step "s1" 0, .step "s1" 0,
      .apply "s1" 0], "s1")]

theorem mapped_unprogrammed :
    windows.Forall fun w => ∃ c,
      Machine.run (nodeNext fun _ => none) (fun _ _ => True) new w.1 = some c ∧
        (node fun _ => none).Reach (fun _ _ => True) c ∧ (c.sessionPoolMap w.2).isSome ∧
        ¬ c.Programmed := by
  have hruns : ∀ w ∈ windows,
      (Machine.run (nodeNext fun _ => none) (fun _ _ => True) new w.1).any
        (fun c => (c.sessionPoolMap w.2).isSome && c.unprogrammed w.2) = true := by
    decide +kernel
  rw [forall_iff_forall_mem]
  intro w hw
  have hrun := hruns w hw
  rw [Option.any_eq_true] at hrun
  obtain ⟨c, hc, hbad⟩ := hrun
  rw [Bool.and_eq_true] at hbad
  exact ⟨c, hc, (init rfl).of_run hc, hbad.1, not_programmed_of_unprogrammed hbad.2⟩

end Component
end Osvbng.Cgnat

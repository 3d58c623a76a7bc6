import Osvbng.Session.Access

/-!
# Evictions across protocols

A place on a VLAN with both protocols should have one live session, which the
registry names, and a session that claims the place of the other protocol should end
the session that was there.

It does, and it ends itself: the terminate event names the place, and the component
of the claimer finds the claimer there (`padr_terminates_claimer`,
`claim_terminates_claimer`). Nor is a place released when an IPoE session ends by its
client, by a reject or by the clean-up.

`Access.exclusive_of_careful`: what remains is that places are used one after the
other. In runs where a session is made only on a place that nobody has, and starts
with a Discover, and an IPoE session ends by a terminate event that does not overtake
its own claim, the registry names exactly the live sessions.
-/

namespace Osvbng.Session
open Function Option List Lib Machine Prod
namespace Access
variable {s s' : Access} {t : TupleKey} {o : Owner} {sess : SessionState} {W : Owner → Prop}
  {id : Nat} {p : Protocol} {ipoeSessions : SessionKey → Option Nat} {ev : SubscriberTerminateEvent}
  {i : Nat} {sess' : SessionState} {key : SessionKey}

/-! ## The invariant -/

def Mixed (s : Access) (t : TupleKey) : Prop := s.isMixedAccessSVLAN t.svlan = true
deriving Decidable

def LiveIfMixed (s : Access) (o : Owner) : Prop :=
  ∀ sess, s.object o = some sess → s.Mixed sess.tuple → s.index o = true

/-- The registry names the live sessions, except those in `W` that are about to make
their claim. -/
structure Inv (W : Owner → Prop) (s : Access) : Prop where
  fresh : ∀ o, s.nextID ≤ o.sessionID → s.object o = none
  stored : ∀ key id, s.ipoeSessions key = some id →
    (s.object ⟨.ipoe, id⟩).map (·.tuple) = some key.tuple
  mixedAccess : ∀ o sess, s.object o = some sess →
    sess.mixedAccess = s.isMixedAccessSVLAN sess.tuple.svlan
  unique : ∀ t, s.Mixed t → ∀ o o', s.Holds t o → s.Holds t o' → o = o'
  named : ∀ t o, s.registry.lookup t = some o → s.Mixed t ∧ s.Holds t o
  waiting : ∀ t, s.Mixed t → ∀ o, s.Holds t o → s.registry.lookup t = some o ∨ W o
  live : ∀ o, W o → s.LiveIfMixed o
  deliveries : ∀ d ∈ s.deliveries, d.2.key = none
  toDelete : ∀ d ∈ s.toDelete, ∃ sess, s.object ⟨.ipoe, d.2⟩ = some sess ∧ ¬ s.Mixed sess.tuple
  evictions : s.evictions = []

theorem holds_of_object (hobj : s.object o = some sess) (hindex : s.index o = true) :
    s.Holds sess.tuple o := by
  refine ⟨hindex, ?_⟩
  rw [hobj]
  rfl

theorem Holds.tuple (h : s.Holds t o) (hobj : s.object o = some sess) : sess.tuple = t := by
  have htuple := h.2
  rw [hobj] at htuple
  exact some.inj htuple

theorem Inv.weaken {W' : Owner → Prop} (h : Inv W s) (hsub : ∀ o, W o → W' o)
    (hlive : ∀ o, W' o → s.LiveIfMixed o) : Inv W' s :=
  { h with
    waiting t ht o ho := (h.waiting t ht o ho).imp_right (hsub o)
    live := hlive }

/-! ## Changes that no mixed place sees -/

/-- Only sessions elsewhere are ended, and only events and notes change. -/
structure Spares (s s' : Access) : Prop where
  mixed : s'.isMixedAccessSVLAN = s.isMixedAccessSVLAN
  registry : s'.registry = s.registry
  nextID : s'.nextID = s.nextID
  place : ∀ o, (s'.object o).map (fun sess => (sess.tuple, sess.mixedAccess)) =
    (s.object o).map fun sess => (sess.tuple, sess.mixedAccess)
  index : ∀ o, s'.index o = true → s.index o = true
  kept : ∀ o sess, s.object o = some sess → s.Mixed sess.tuple → s'.index o = s.index o
  ipoeSessions : ∀ key id, s'.ipoeSessions key = some id → s.ipoeSessions key = some id
  evictions : s'.evictions = s.evictions

theorem Spares.exists_object (h : Spares s s') (hobj : s'.object o = some sess') :
    ∃ sess, s.object o = some sess ∧ sess.tuple = sess'.tuple ∧
      sess.mixedAccess = sess'.mixedAccess := by
  have hplace := h.place o
  rw [hobj] at hplace
  obtain ⟨sess, hsess, heq⟩ := map_eq_some_iff.mp hplace.symm
  exact ⟨sess, hsess, congrArg fst heq, congrArg snd heq⟩

theorem Spares.mixed_iff (h : Spares s s') (t : TupleKey) : s'.Mixed t ↔ s.Mixed t := by
  unfold Mixed
  rw [h.mixed]

theorem Spares.tuple_eq (h : Spares s s') (o : Owner) :
    (s'.object o).map (·.tuple) = (s.object o).map (·.tuple) := by
  have hplace := congrArg (Option.map fst) (h.place o)
  rw [Option.map_map, Option.map_map] at hplace
  exact hplace

theorem Spares.holds (h : Spares s s') (hholds : s'.Holds t o) : s.Holds t o :=
  ⟨h.index o hholds.1, (h.tuple_eq o).symm.trans hholds.2⟩

theorem Spares.holds_of (h : Spares s s') (hmixed : s.Mixed t) (hholds : s.Holds t o) :
    s'.Holds t o := by
  refine ⟨?_, (h.tuple_eq o).trans hholds.2⟩
  obtain ⟨sess, hobj, htuple⟩ := map_eq_some_iff.mp hholds.2
  rw [h.kept o sess hobj (htuple ▸ hmixed)]
  exact hholds.1

theorem Inv.spares (h : Inv W s) (hs : Spares s s')
    (hdeliveries : ∀ d ∈ s'.deliveries, d.2.key = none)
    (htoDelete : ∀ d ∈ s'.toDelete, d ∈ s.toDelete ∨
      ∃ sess, s.object ⟨.ipoe, d.2⟩ = some sess ∧ ¬ s.Mixed sess.tuple) : Inv W s' where
  fresh o ho := by
    have hplace := hs.place o
    rw [h.fresh o (hs.nextID ▸ ho)] at hplace
    exact map_eq_none_iff.mp hplace
  stored key id hkey := by
    rw [hs.tuple_eq]
    exact h.stored key id (hs.ipoeSessions key id hkey)
  mixedAccess o sess' hobj := by
    obtain ⟨sess, hsome, htuple, hmixed⟩ := hs.exists_object hobj
    rw [← hmixed, ← htuple, hs.mixed]
    exact h.mixedAccess o sess hsome
  unique t ht o o' ho ho' := by
    exact h.unique t ((hs.mixed_iff t).mp ht) o o' (hs.holds ho) (hs.holds ho')
  named t o ho := by
    rw [hs.registry] at ho
    obtain ⟨ht, hholds⟩ := h.named t o ho
    exact ⟨(hs.mixed_iff t).mpr ht, hs.holds_of ht hholds⟩
  waiting t ht o ho := by
    rw [hs.registry]
    exact h.waiting t ((hs.mixed_iff t).mp ht) o (hs.holds ho)
  live o ho sess' hobj hmixed := by
    obtain ⟨sess, hsome, htuple, -⟩ := hs.exists_object hobj
    rw [hs.mixed_iff, ← htuple] at hmixed
    rw [hs.kept o sess hsome hmixed]
    exact h.live o ho sess hsome hmixed
  deliveries := hdeliveries
  toDelete d hd := by
    obtain ⟨sess, hobj, hmixed⟩ := (htoDelete d hd).elim (h.toDelete d) id
    have htuple := hs.tuple_eq ⟨.ipoe, d.2⟩
    rw [hobj] at htuple
    obtain ⟨sess', hobj', htuple⟩ := map_eq_some_iff.mp htuple
    refine ⟨sess', hobj', ?_⟩
    rw [hs.mixed_iff, htuple]
    exact hmixed
  evictions := hs.evictions.trans h.evictions

/-! ## Sessions that come and go -/

def Free (s : Access) (t : TupleKey) : Prop :=
  s.registry.lookup t = none ∧
    ∀ id, id < s.nextID → ¬ s.Holds t ⟨.ipoe, id⟩ ∧ ¬ s.Holds t ⟨.pppoe, id⟩

theorem Inv.lt_nextID (h : Inv W s) (hobj : s.object o = some sess) : o.sessionID < s.nextID := by
  by_contra hle
  rw [h.fresh o (by omega)] at hobj
  cases hobj

theorem Inv.ne_nextID (h : Inv W s) (hobj : s.object o = some sess) (p : Protocol) :
    o ≠ ⟨p, s.nextID⟩ := by
  intro heq
  have hlt := h.lt_nextID hobj
  rw [heq] at hlt
  exact absurd hlt (Nat.lt_irrefl _)

theorem Inv.not_holds (h : Inv W s) (hfree : s.Free t) (o : Owner) : ¬ s.Holds t o := by
  intro hholds
  obtain ⟨sess, hobj, -⟩ := map_eq_some_iff.mp hholds.2
  have hfree := hfree.2 o.sessionID (h.lt_nextID hobj)
  cases o with
  | mk protocol id =>
    cases protocol with
    | ipoe => exact hfree.1 hholds
    | pppoe => exact hfree.2 hholds

theorem store_object_of_ne (hne : o ≠ ⟨p, s.nextID⟩) : (s.store p sess).object o = s.object o :=
  update_of_ne hne ..

theorem store_object_self : (s.store p sess).object ⟨p, s.nextID⟩ = some sess :=
  update_self ..

theorem store_cases (hobj : (s.store p sess).object o = some sess') :
    (o = ⟨p, s.nextID⟩ ∧ sess' = sess) ∨ (o ≠ ⟨p, s.nextID⟩ ∧ s.object o = some sess') := by
  obtain ⟨heq, ⟨⟩⟩ | hold := update_cases hobj
  · exact .inl ⟨heq, rfl⟩
  · exact .inr hold

theorem holds_store (hholds : (s.store p sess).Holds t o) :
    (o = ⟨p, s.nextID⟩ ∧ sess.tuple = t) ∨ s.Holds t o := by
  obtain ⟨rfl, -⟩ | ⟨hne, hindex⟩ := update_cases hholds.1
  · exact .inl ⟨rfl, hholds.tuple store_object_self⟩
  · have htuple := hholds.2
    rw [store_object_of_ne hne] at htuple
    exact .inr ⟨hindex, htuple⟩

theorem Inv.holds_store_of (h : Inv W s) (hholds : s.Holds t o) : (s.store p sess).Holds t o := by
  obtain ⟨sess', hobj, -⟩ := map_eq_some_iff.mp hholds.2
  have hne := h.ne_nextID hobj p
  refine ⟨?_, ?_⟩
  · unfold store
    dsimp only
    rw [update_of_ne hne]
    exact hholds.1
  · rw [store_object_of_ne hne]
    exact hholds.2

theorem Inv.store (h : Inv W s) (p : Protocol) (sess : SessionState)
    (hfree : s.Mixed sess.tuple → s.Free sess.tuple)
    (hmixed : sess.mixedAccess = s.isMixedAccessSVLAN sess.tuple.svlan)
    {pppoeSessions : TupleKey → Option Nat} {claiming : List Nat}
    (hstored : ∀ key id, ipoeSessions key = some id → s.ipoeSessions key = some id ∨
      (p = .ipoe ∧ id = s.nextID ∧ key.tuple = sess.tuple)) :
    Inv (fun o => W o ∨ o = ⟨p, s.nextID⟩) { s.store p sess with
      ipoeSessions := ipoeSessions, pppoeSessions := pppoeSessions, claiming := claiming } where
  fresh o ho := by
    have ho : s.nextID + 1 ≤ o.sessionID := ho
    have hne : o ≠ ⟨p, s.nextID⟩ := by
      rintro rfl
      exact absurd ho (by simp)
    exact (store_object_of_ne hne).trans (h.fresh o (by omega))
  stored key id hkey := by
    rcases hstored key id hkey with hold | ⟨rfl, rfl, htuple⟩
    · have htuple := h.stored key id hold
      obtain ⟨sess', hobj, -⟩ := map_eq_some_iff.mp htuple
      exact (congrArg _ (store_object_of_ne (h.ne_nextID hobj p))).trans htuple
    · exact (congrArg _ store_object_self).trans (congrArg some htuple.symm)
  mixedAccess o sess' hobj := by
    rcases store_cases hobj with ⟨-, rfl⟩ | ⟨-, hold⟩
    · exact hmixed
    · exact h.mixedAccess o sess' hold
  unique t ht o o' ho ho' := by
    rcases holds_store ho with ⟨rfl, htuple⟩ | hold
    · rcases holds_store ho' with ⟨rfl, -⟩ | hold'
      · rfl
      · exact absurd (htuple ▸ hold') (h.not_holds (hfree (htuple ▸ ht)) o')
    · rcases holds_store ho' with ⟨rfl, htuple⟩ | hold'
      · exact absurd (htuple ▸ hold) (h.not_holds (hfree (htuple ▸ ht)) o)
      · exact h.unique t ht o o' hold hold'
  named t o ho := by
    obtain ⟨ht, hholds⟩ := h.named t o ho
    exact ⟨ht, h.holds_store_of hholds⟩
  waiting t ht o ho := by
    rcases holds_store ho with ⟨rfl, -⟩ | hold
    · exact .inr (.inr rfl)
    · exact (h.waiting t ht o hold).imp_right .inl
  live o ho sess' hobj hmixed' := by
    rcases store_cases hobj with ⟨rfl, rfl⟩ | ⟨hne, hold⟩
    · exact update_self ..
    · have hlive := h.live o (ho.resolve_right hne) sess' hold hmixed'
      exact (update_of_ne hne ..).trans hlive
  deliveries := h.deliveries
  toDelete d hd := by
    obtain ⟨sess', hobj, hmixed'⟩ := h.toDelete d hd
    exact ⟨sess', (store_object_of_ne (h.ne_nextID hobj p)).trans hobj, hmixed'⟩
  evictions := h.evictions

theorem Inv.claimTuple (h : Inv W s) (hobj : s.object o = some sess)
    (hlive : s.Mixed sess.tuple → s.index o = true) :
    ∃ r, s.claimTuple o sess = { s with registry := r } ∧
      Inv (fun o' => W o' ∧ o' ≠ o) { s with registry := r } := by
  have hmixed := h.mixedAccess o sess hobj
  have hwaiting t (ht : s.Mixed t) o' (ho' : s.Holds t o') (hne : t ≠ sess.tuple) :
      s.registry.lookup t = some o' ∨ W o' ∧ o' ≠ o := by
    refine (h.waiting t ht o' ho').imp_right fun hwait => ⟨hwait, ?_⟩
    rintro rfl
    exact hne (ho'.tuple hobj).symm
  unfold Access.claimTuple
  by_cases haccess : sess.mixedAccess = true
  · have ht : s.Mixed sess.tuple := hmixed.symm.trans haccess
    have hholds := holds_of_object hobj (hlive ht)
    have hprev : (s.registry.claim sess.tuple o).2 = none := by
      cases hclaim : (s.registry.claim sess.tuple o).2 with
      | none => rfl
      | some prev =>
        obtain ⟨hlookup, hne⟩ := (s.registry.claim_snd_eq_some_iff sess.tuple o prev).mp hclaim
        exact absurd (h.unique _ ht prev o (h.named _ prev hlookup).2 hholds) hne
    rw [if_pos haccess]
    refine ⟨(s.registry.claim sess.tuple o).1, ?_, ?_⟩
    · dsimp only
      rw [hprev]
    · have hlookup := s.registry.lookup_claim sess.tuple o
      exact {
        h with
        named t o' ho' := by
          rw [hlookup] at ho'
          split at ho'
          · rename_i heq
            cases ho'
            rw [heq]
            exact ⟨ht, hholds⟩
          · exact h.named t o' ho'
        waiting t ht' o' ho' := by
          rw [hlookup]
          by_cases heq : t = sess.tuple
          · rw [if_pos heq]
            exact .inl (congrArg some (h.unique _ ht o o' hholds (heq ▸ ho')))
          · rw [if_neg heq]
            exact hwaiting t ht' o' ho' heq
        live o' ho' := h.live o' ho'.1 }
  · rw [if_neg haccess]
    refine ⟨s.registry, rfl, ?_⟩
    have hunmixed : ¬ s.Mixed sess.tuple := fun ht => haccess (hmixed.trans ht)
    exact {
      h with
      waiting t ht o' ho' := hwaiting t ht o' ho' fun heq => hunmixed (heq ▸ ht)
      live o' ho' := h.live o' ho'.1 }

theorem lookup_releaseTuple (s : Access) (o : Owner) (sess : SessionState) (t : TupleKey) :
    (s.releaseTuple o sess).registry.lookup t =
      if sess.mixedAccess = true ∧ t = sess.tuple ∧ s.registry.lookup sess.tuple = some o then none
      else s.registry.lookup t := by
  unfold releaseTuple
  by_cases haccess : sess.mixedAccess = true
  · rw [if_pos haccess, Registry.lookup_release]
    simp only [haccess, true_and]
  · rw [if_neg haccess, if_neg fun h => haccess h.1]

theorem Inv.remove (h : Inv W s) (hobj : s.object o = some sess)
    (hW : s.Mixed sess.tuple → ¬ W o) :
    Inv W ({ s with index := update s.index o false }.releaseTuple o sess) := by
  have hholds : ∀ {t o'}, ({ s with index := update s.index o false }.releaseTuple o
      sess).Holds t o' → o' ≠ o ∧ s.Holds t o' := by
    rintro t o' ⟨hindex, htuple⟩
    obtain ⟨-, ⟨⟩⟩ | ⟨hne, hold⟩ := update_cases hindex
    exact ⟨hne, hold, htuple⟩
  have hlookup := { s with index := update s.index o false }.lookup_releaseTuple o sess
  exact {
    h with
    unique t ht o1 o2 ho1 ho2 := by
      exact h.unique t ht o1 o2 (hholds ho1).2 (hholds ho2).2
    named t o' ho' := by
      rw [hlookup] at ho'
      split at ho'
      · cases ho'
      · rename_i hkept
        obtain ⟨ht, hold⟩ := h.named t o' ho'
        refine ⟨ht, ?_, hold.2⟩
        have hne : o' ≠ o := by
          rintro rfl
          have htuple := hold.tuple hobj
          subst htuple
          exact hkept ⟨(h.mixedAccess o' sess hobj).trans ht, rfl, ho'⟩
        exact (update_of_ne hne ..).trans hold.1
    waiting t ht o' ho' := by
      obtain ⟨hne, hold⟩ := hholds ho'
      rw [hlookup]
      rcases h.waiting t ht o' hold with hnamed | hwait
      · left
        rw [if_neg]
        · exact hnamed
        · rintro ⟨-, rfl, howner⟩
          exact hne (some.inj (hnamed.symm.trans howner))
      · exact .inr hwait
    live o' ho' sess' hobj' hmixed := by
      have hne : o' ≠ o := by
        rintro rfl
        have hsess := some.inj (hobj.symm.trans hobj')
        subst hsess
        exact hW hmixed ho'
      exact (update_of_ne hne ..).trans (h.live o' ho' sess' hobj' hmixed) }

/-! ## Steps -/

def Waits (s : Access) (o : Owner) : Prop := o.protocol = .ipoe ∧ o.sessionID ∈ s.claiming

theorem Spares.of_drop (hobj : s.object ⟨.ipoe, id⟩ = some sess)
    (hmixed : ¬ s.Mixed sess.tuple) (keys : List SessionKey) : Spares s (s.drop id sess keys) where
  mixed := rfl
  registry := rfl
  nextID := rfl
  place o := by
    unfold drop
    dsimp only
    by_cases heq : o = ⟨.ipoe, id⟩
    · rw [heq, update_self, hobj]
      rfl
    · rw [update_of_ne heq]
  index o ho := by
    obtain ⟨-, ⟨⟩⟩ | ⟨-, hold⟩ := update_cases ho
    exact hold
  kept o sess' hobj' hmixed' := by
    have hne : o ≠ ⟨.ipoe, id⟩ := by
      rintro rfl
      rw [hobj] at hobj'
      cases hobj'
      exact hmixed hmixed'
    exact update_of_ne hne ..
  ipoeSessions key id' hkey := by
    exact (ite_none_left_eq_some.mp hkey).2
  evictions := rfl

theorem Spares.of_closing (s : Access) (hobj : s.object o = some sess)
    (hkeys : ∀ key id, ipoeSessions key = some id → s.ipoeSessions key = some id)
    (terminating : List Nat) :
    Spares s { s with
      object := update s.object o (some { sess with closing := true })
      ipoeSessions := ipoeSessions
      terminating := terminating } where
  mixed := rfl
  registry := rfl
  nextID := rfl
  place o' := by
    dsimp only
    by_cases heq : o' = o
    · rw [heq, update_self, hobj]
      rfl
    · rw [update_of_ne heq]
  index _ ho := ho
  kept _ _ _ _ := rfl
  ipoeSessions := hkeys
  evictions := rfl

/-- Where the condition of the runs stands: a session is made on a free place, starts
with a Discover, and ends by a terminate event after its claim. -/
def Careful (s : Access) : Event → Prop
  | .first message t => s.Mixed t →
      (s.ipoeSessions (s.makeSessionKey message.family t)).isSome = true ∨
        (message = .discover ∧ s.Free t)
  | .padr t => s.Mixed t → s.Free t
  | .release key deleteSession => s.Mixed key.tuple → deleteSession = false
  | .aaaReject id => ∀ sess ∈ s.object ⟨.ipoe, id⟩, ¬ s.Mixed sess.tuple
  | .scan key => ¬ s.Mixed key.tuple
  | .finish i => ∀ id ∈ s.terminating[i]?, id ∉ s.claiming
  | _ => True

theorem Inv.first (h : Inv s.Waits s) {message : First}
    (hok : s.Careful (.first message t)) : Inv (s.first message t).Waits (s.first message t) := by
  unfold Access.first
  dsimp only
  split
  · exact h
  · rename_i hnone
    have hdiscover : s.Mixed t → message = .discover ∧ s.Free t :=
      fun ht => (hok ht).resolve_left hnone
    have hmixed : (decide (message = .discover) && s.isMixedAccessSVLAN t.svlan) =
        s.isMixedAccessSVLAN t.svlan := by
      by_cases ht : s.isMixedAccessSVLAN t.svlan = true
      · rw [decide_eq_true (hdiscover ht).1, Bool.true_and]
      · rw [Bool.not_eq_true] at ht
        rw [ht, Bool.and_false]
    have hstored key id : update s.ipoeSessions (s.makeSessionKey message.family t)
        (some s.nextID) key = some id → s.ipoeSessions key = some id ∨
          (Protocol.ipoe = .ipoe ∧ id = s.nextID ∧ key.tuple = t) := by
      intro hkey
      rcases update_cases hkey with ⟨rfl, hkey'⟩ | ⟨-, hkey'⟩
      · cases hkey'
        exact .inr ⟨rfl, rfl, rfl⟩
      · exact .inl hkey'
    have hstore : Inv (fun o => s.Waits o ∨ o = ⟨.ipoe, s.nextID⟩) {
        s.store .ipoe ⟨t, message = .discover && s.isMixedAccessSVLAN t.svlan, false⟩ with
        ipoeSessions := update s.ipoeSessions (s.makeSessionKey message.family t) (some s.nextID)
        claiming := s.claiming ++ [s.nextID] } :=
      h.store .ipoe ⟨t, message = .discover && s.isMixedAccessSVLAN t.svlan, false⟩
        (fun ht => (hdiscover ht).2) hmixed hstored
    apply hstore.weaken
    · rintro o (⟨hproto, hmem⟩ | rfl)
      · exact ⟨hproto, mem_append_left _ hmem⟩
      · exact ⟨rfl, mem_append_right _ (mem_singleton.mpr rfl)⟩
    · rintro o ⟨hproto, hmem⟩
      apply hstore.live
      rcases mem_append.mp hmem with hmem | hmem
      · exact .inl ⟨hproto, hmem⟩
      · right
        cases o
        cases hproto
        cases mem_singleton.mp hmem
        rfl

theorem Inv.claim (h : Inv s.Waits s) (hs' : s.claim i = some s') : Inv s'.Waits s' := by
  obtain ⟨id, hid, hs'⟩ := bind_eq_some_iff.mp hs'
  obtain ⟨sess, hobj, hs'⟩ := bind_eq_some_iff.mp hs'
  cases hs'
  have hmem : id ∈ s.claiming := mem_of_getElem? hid
  have h0 : Inv s.Waits { s with claiming := s.claiming.eraseIdx i } := { h with }
  obtain ⟨r, heq, hclaimed⟩ :=
    h0.claimTuple hobj fun ht => h.live ⟨.ipoe, id⟩ ⟨rfl, hmem⟩ sess hobj ht
  rw [heq]
  apply hclaimed.weaken
  · rintro o ⟨⟨hproto, ho⟩, hne⟩
    refine ⟨hproto, ?_⟩
    obtain ⟨j, hj⟩ := getElem?_of_mem ho
    refine mem_eraseIdx_iff_getElem?.mpr ⟨j, ?_, hj⟩
    rintro rfl
    rw [hid] at hj
    cases o
    cases hproto
    cases hj
    exact hne rfl
  · rintro o ⟨hproto, ho⟩
    exact h.live o ⟨hproto, mem_of_mem_eraseIdx ho⟩

theorem Inv.padr (h : Inv s.Waits s) (hok : s.Careful (.padr t)) :
    Inv (s.padr t).Waits (s.padr t) := by
  have hstore : Inv (fun o => s.Waits o ∨ o = ⟨.pppoe, s.nextID⟩) {
      s.store .pppoe ⟨t, s.isMixedAccessSVLAN t.svlan, false⟩ with
      pppoeSessions := update s.pppoeSessions t (some s.nextID) } :=
    h.store .pppoe ⟨t, s.isMixedAccessSVLAN t.svlan, false⟩ hok rfl fun _ _ hkey => .inl hkey
  obtain ⟨r, heq, hclaimed⟩ :=
    hstore.claimTuple store_object_self fun _ => update_self ..
  unfold Access.padr
  rw [heq]
  apply hclaimed.weaken
  · rintro o ⟨ho, hne⟩
    exact ho.resolve_right hne
  · intro o ho
    exact hstore.live o (.inl ho)

theorem Inv.drop (h : Inv W s) (hobj : s.object ⟨.ipoe, id⟩ = some sess)
    (hmixed : ¬ s.Mixed sess.tuple) (keys : List SessionKey) : Inv W (s.drop id sess keys) :=
  h.spares (.of_drop hobj hmixed keys) h.deliveries fun _ hd => .inl hd

variable (h : Inv s.Waits s)
include h

theorem Inv.release {deleteSession : Bool} (hok : s.Careful (.release key deleteSession))
    (hs' : s.release key deleteSession = some s') : Inv s'.Waits s' := by
  obtain ⟨id, hid, hs'⟩ := bind_eq_some_iff.mp hs'
  obtain ⟨sess, hobj, hs'⟩ := bind_eq_some_iff.mp hs'
  cases hs'
  split
  · rename_i hdelete
    obtain ⟨sess', hobj', htuple⟩ := map_eq_some_iff.mp (h.stored key id hid)
    rw [hobj] at hobj'
    cases hobj'
    have hmixed : ¬ s.Mixed sess.tuple := by
      intro ht
      rw [hok (htuple ▸ ht)] at hdelete
      cases hdelete
    exact h.drop hobj hmixed _
  · exact h

theorem Inv.aaaReject (hok : s.Careful (.aaaReject id))
    (hs' : s.aaaReject id = some s') : Inv s'.Waits s' := by
  obtain ⟨sess, hobj, hs'⟩ := bind_eq_some_iff.mp hs'
  split at hs'
  · cases hs'
    exact h.drop hobj (hok sess hobj) _
  · cases hs'

theorem Inv.scan (hok : s.Careful (.scan key)) (hs' : s.scan key = some s') : Inv s'.Waits s' := by
  obtain ⟨id, hid, rfl⟩ := map_eq_some_iff.mp hs'
  obtain ⟨sess, hobj, htuple⟩ := map_eq_some_iff.mp (h.stored key id hid)
  exact { h with
    toDelete d hd := by
      rcases mem_append.mp hd with hold | hnew
      · exact h.toDelete d hold
      · cases mem_singleton.mp hnew
        exact ⟨sess, hobj, htuple ▸ hok⟩ }

theorem Inv.sweep (hs' : s.sweep i = some s') : Inv s'.Waits s' := by
  obtain ⟨⟨key, id⟩, hitem, hs'⟩ := bind_eq_some_iff.mp hs'
  obtain ⟨sess, hobj, hs'⟩ := bind_eq_some_iff.mp hs'
  cases hs'
  obtain ⟨sess', hobj', hmixed⟩ := h.toDelete (key, id) (mem_of_getElem? hitem)
  rw [hobj] at hobj'
  cases hobj'
  have h0 : Inv s.Waits { s with toDelete := s.toDelete.eraseIdx i } :=
    { h with toDelete d hd := h.toDelete d (mem_of_mem_eraseIdx hd) }
  exact h0.drop hobj hmixed [key]

theorem Inv.finish (hok : s.Careful (.finish i))
    (hs' : s.finish i = some s') : Inv s'.Waits s' := by
  obtain ⟨id, hid, hs'⟩ := bind_eq_some_iff.mp hs'
  obtain ⟨sess, hobj, hs'⟩ := bind_eq_some_iff.mp hs'
  cases hs'
  have hremoved := h.remove hobj fun _ hwaits => hok id hid hwaits.2
  have hkeys : ∀ key id', (if key ∈ s.bothKeys sess.tuple then none else s.ipoeSessions key) =
      some id' → s.ipoeSessions key = some id' := fun _ _ hkey => (ite_none_left_eq_some.mp hkey).2
  have hspares := Spares.of_closing
    ({ s with index := update s.index ⟨.ipoe, id⟩ false }.releaseTuple ⟨.ipoe, id⟩ sess)
    hobj hkeys (s.terminating.eraseIdx i)
  exact hremoved.spares hspares hremoved.deliveries fun _ hd => .inl hd

theorem Inv.tearDown (hs' : s.tearDown id = some s') : Inv s'.Waits s' := by
  obtain ⟨sess, hobj, rfl⟩ := map_eq_some_iff.mp hs'
  have hremoved := h.remove hobj fun _ hwaits => absurd hwaits.1 nofun
  exact { hremoved with }

theorem Inv.deliver (hs' : s.deliver i = some s') : Inv s'.Waits s' := by
  obtain ⟨⟨protocol, ev⟩, hd, rfl⟩ := map_eq_some_iff.mp hs'
  have hkey : ev.key = none := h.deliveries _ (mem_of_getElem? hd)
  have h0 : Inv s.Waits { s with deliveries := s.deliveries.eraseIdx i } :=
    { h with deliveries d hd := h.deliveries d (mem_of_mem_eraseIdx hd) }
  cases protocol with
  | ipoe =>
    dsimp only
    unfold terminateIPoE
    split
    · exact h0
    · rename_i id _
      split
      · exact h0
      · rename_i sess hobj
        split
        · exact h0
        · unfold noteEvicted
          rw [hkey]
          exact h0.spares (.of_closing _ hobj (fun _ _ hkey => hkey) (s.terminating ++ [id]))
            h0.deliveries fun _ hd => .inl hd
  | pppoe =>
    dsimp only
    unfold terminatePPPoE
    split
    · exact h0
    · split
      · exact h0
      · rename_i sess hobj
        unfold noteEvicted
        rw [hkey]
        have hremoved := h0.remove hobj fun _ hwaits => absurd hwaits.1 nofun
        exact { hremoved with }

omit h

theorem Inv.next {e : Event} (h : Inv s.Waits s) (hok : s.Careful e)
    (hs' : s.next e = some s') : Inv s'.Waits s' := by
  cases e with
  | first message t =>
    cases hs'
    exact h.first hok
  | claim i => exact h.claim hs'
  | release key deleteSession => exact h.release hok hs'
  | aaaReject id => exact h.aaaReject hok hs'
  | scan key => exact h.scan hok hs'
  | sweep i => exact h.sweep hs'
  | finish i => exact h.finish hok hs'
  | padr t =>
    cases hs'
    exact h.padr hok
  | padt id =>
    change (if _ then _ else _) = _ at hs'
    split at hs'
    · exact h.tearDown hs'
    · cases hs'
  | tearDown id => exact h.tearDown hs'
  | disconnect id =>
    cases hs'
    exact { h with
      deliveries d hd := by
        rcases mem_append.mp hd with hold | hnew
        · exact h.deliveries d hold
        · simp only [mem_cons, not_mem_nil, or_false] at hnew
          rcases hnew with rfl | rfl <;> rfl }
  | deliver i => exact h.deliver hs'

theorem Initial.inv (h : Initial s) : Inv s.Waits s where
  fresh o _ := h.object o
  stored key id hkey := by
    rw [h.ipoeSessions] at hkey
    cases hkey
  mixedAccess o sess hobj := by
    rw [h.object] at hobj
    cases hobj
  unique t _ o o' ho := by
    rw [Holds, h.index] at ho
    cases ho.1
  named t o ho := by
    rw [h.registry] at ho
    cases ho
  waiting t _ o ho := by
    rw [Holds, h.index] at ho
    cases ho.1
  live := by
    rintro o ⟨-, ho⟩
    rw [h.claiming] at ho
    cases ho
  deliveries := by
    rw [h.deliveries]
    exact nofun
  toDelete := by
    rw [h.toDelete]
    exact nofun
  evictions := h.evictions

/-- When every handler is done, evictions have hit the right sessions, and a place on
a mixed VLAN has at most one live session, which the registry names. -/
theorem exclusive_of_careful (h : machine.Reach Careful s) (hdrained : s.Drained) :
    s.EvictionsHit ∧ ∀ t, s.Mixed t → s.Exclusive t := by
  have hinv : Inv s.Waits s :=
    Reach.invariant (fun s => Inv s.Waits s) (fun _ => Initial.inv)
      (fun _ _ _ h hok hnext => h.next hok hnext) h
  constructor
  · intro claimer prev hmem
    rw [hinv.evictions] at hmem
    cases hmem
  · intro t ht
    refine ⟨hinv.unique t ht, fun o => ⟨fun ho => (hinv.named t o ho).2, fun ho => ?_⟩⟩
    rcases hinv.waiting t ht o ho with hnamed | ⟨-, hmem⟩
    · exact hnamed
    · rw [hdrained.claiming] at hmem
      cases hmem

/-! ## A claim ends the claimer -/

theorem index_terminatePPPoE (hkey : ev.key = some t)
    (hplace : s.pppoeSessions t = some id) (hobj : s.object ⟨.pppoe, id⟩ = some sess) :
    (s.terminatePPPoE ev).index ⟨.pppoe, id⟩ = false := by
  have htarget : s.resolveTerminateTargetLocked ev = some id := by
    unfold resolveTerminateTargetLocked
    rw [hkey, bind_some, hplace, some_or]
  unfold terminatePPPoE noteEvicted
  rw [htarget]
  dsimp only
  rw [hobj, hkey]
  exact update_self ..

theorem terminating_terminateIPoE
    (hkey : ev.key = some t) (hplace : s.ipoeSessions (s.makeSessionKey .v4 t) = some id)
    (hobj : s.object ⟨.ipoe, id⟩ = some sess) (hopen : sess.closing = false) :
    id ∈ (s.terminateIPoE ev).terminating := by
  have htarget : s.resolveTerminateTarget ev = some id := by
    unfold resolveTerminateTarget
    rw [hkey, bind_some, hplace, some_or, some_or]
  unfold terminateIPoE noteEvicted
  rw [htarget]
  dsimp only
  rw [hobj, hkey]
  dsimp only
  rw [hopen]
  exact mem_append_right _ (mem_singleton.mpr rfl)

theorem claimTuple_eq (s : Access) (o : Owner) (sess : SessionState) {prev : Owner}
    (hmixed : sess.mixedAccess = true)
    (hprev : s.registry.lookup sess.tuple = some prev) (hne : prev.protocol ≠ o.protocol) :
    s.claimTuple o sess = publish { s with
        registry := (s.registry.claim sess.tuple o).1
        evictions := s.evictions ++ [(o, prev)] } ⟨some sess.tuple, prev.sessionID⟩ := by
  have hclaim : (s.registry.claim sess.tuple o).2 = some prev := by
    refine (s.registry.claim_snd_eq_some_iff sess.tuple o prev).mpr ⟨hprev, ?_⟩
    rintro rfl
    exact hne rfl
  unfold claimTuple
  rw [if_pos hmixed]
  dsimp only
  rw [hclaim]
  exact if_neg hne

/-- The terminate event of a PPPoE session that claims the place of an IPoE session
ends the PPPoE session. -/
theorem padr_terminates_claimer (hmixed : s.Mixed t)
    (hprev : s.registry.lookup t = some ⟨.ipoe, id⟩) :
    ∃ ev, (.pppoe, ev) ∈ (s.padr t).deliveries ∧
      ((s.padr t).terminatePPPoE ev).index ⟨.pppoe, s.nextID⟩ = false := by
  have hpadr : s.padr t = _ := claimTuple_eq _ ⟨.pppoe, s.nextID⟩ _ hmixed hprev nofun
  rw [hpadr]
  refine ⟨⟨some t, id⟩, mem_append_right _ (by simp), ?_⟩
  exact index_terminatePPPoE rfl (update_self ..) store_object_self

theorem claim_terminates_claimer {i id id' : Nat} (hid : s.claiming[i]? = some id')
    (hobj : s.object ⟨.ipoe, id'⟩ = some sess) (hmixed : sess.mixedAccess = true)
    (hopen : sess.closing = false)
    (hplace : s.ipoeSessions (s.makeSessionKey .v4 sess.tuple) = some id')
    (hprev : s.registry.lookup sess.tuple = some ⟨.pppoe, id⟩) :
    ∃ s' ev, s.claim i = some s' ∧ (.ipoe, ev) ∈ s'.deliveries ∧
      id' ∈ (s'.terminateIPoE ev).terminating := by
  have hclaim : s.claim i = some ({ s with claiming := s.claiming.eraseIdx i }.claimTuple
      ⟨.ipoe, id'⟩ sess) := by
    unfold claim
    rw [hid, bind_eq_bind, bind_some, hobj, bind_eq_bind, bind_some]
  have heq := claimTuple_eq { s with claiming := s.claiming.eraseIdx i } ⟨.ipoe, id'⟩ sess hmixed
    hprev nofun
  rw [heq] at hclaim
  refine ⟨_, ⟨some sess.tuple, id⟩, hclaim, mem_append_right _ (by simp), ?_⟩
  exact terminating_terminateIPoE rfl hplace hobj hopen

/-! ## One place -/

instance (s : Access) (t : TupleKey) : Decidable (s.Free t) :=
  inferInstanceAs (Decidable (_ ∧ ∀ _, _ → _))

instance (s : Access) (e : Event) : Decidable (s.Careful e) := by
  rcases e <;> dsimp only [Careful] <;> infer_instance

instance (s : Access) : Decidable s.Drained :=
  decidable_of_iff' _ s.drained_iff

def start : Access :=
  ⟨fun _ _ => true, fun _ => true, .newRegistry, 0, fun _ => none, fun _ => false, fun _ => none,
    fun _ => none, [], [], [], [], [], []⟩

theorem initial_start : Initial start :=
  ⟨fun _ => rfl, fun _ => rfl, fun _ => rfl, fun _ => rfl, fun _ => rfl, rfl, rfl, rfl, rfl, rfl,
    rfl⟩

def place : TupleKey := ⟨100, 200, [2, 0, 0, 0, 0, 1]⟩

def placeKey : SessionKey := ⟨none, place⟩

theorem padr_terminates_claimer_place : ∃ s : Access, ∃ ev,
    (.pppoe, ev) ∈ (s.padr place).deliveries ∧
      ((s.padr place).terminatePPPoE ev).index ⟨.pppoe, s.nextID⟩ = false := by
  obtain ⟨s, -, hmixed, hprev⟩ : ∃ s, machine.Reach (fun _ _ => True) s ∧ s.Mixed place ∧
      s.registry.lookup place = some ⟨.ipoe, 0⟩ :=
    exists_reach_of_run initial_start [.first .discover place, .claim 0] (by decide +kernel)
  exact ⟨s, padr_terminates_claimer hmixed hprev⟩

/-- PPPoE, then IPoE that is ended by an operator, then IPoE again. -/
theorem exclusive_of_careful_inTurn :
    ∃ s, machine.Reach Careful s ∧ s.Drained ∧ s.Holds place ⟨.ipoe, 2⟩ ∧
      s.EvictionsHit ∧ ∀ t, s.Mixed t → s.Exclusive t := by
  obtain ⟨s, hs, hdrained, hholds⟩ : ∃ s, machine.Reach Careful s ∧
      s.Drained ∧ s.Holds place ⟨.ipoe, 2⟩ :=
    exists_reach_of_run initial_start
      [.padr place, .padt 0, .first .discover place, .claim 0, .disconnect 1, .deliver 0, .finish 0,
        .deliver 0, .first .discover place, .claim 0] (by decide +kernel)
  exact ⟨s, hs, hdrained, hholds, exclusive_of_careful hs hdrained⟩

/-- A claimer was ended by an eviction, or the registry names a session that is gone,
or a live session has the place and is not named. -/
def broken (s : Access) (t : TupleKey) : Bool :=
  s.evictions.any (fun e => decide (e.1 ∈ s.evicted)) ||
    (s.registry.lookup t).any (fun o => !s.index o) ||
    [⟨.ipoe, 0⟩, ⟨.ipoe, 1⟩, ⟨.pppoe, 0⟩, ⟨.pppoe, 1⟩].any fun o =>
      decide (s.Holds t o ∧ s.registry.lookup t ≠ some o)

theorem not_exclusive_of_broken (h : s.broken t = true) : ¬ (s.EvictionsHit ∧ s.Exclusive t) := by
  rintro ⟨hevictions, hexclusive⟩
  unfold broken at h
  rw [Bool.or_eq_true, Bool.or_eq_true, List.any_eq_true, Option.any_eq_true, List.any_eq_true] at h
  rcases h with (⟨⟨claimer, prev⟩, hmem, hevicted⟩ | ⟨o, hlookup, hindex⟩) | ⟨o, -, hholds⟩
  · exact (hevictions claimer prev hmem).2 (of_decide_eq_true hevicted)
  · rw [((hexclusive.named o).mp hlookup).1] at hindex
    cases hindex
  · obtain ⟨hholds, hnamed⟩ := of_decide_eq_true hholds
    exact hnamed ((hexclusive.named o).mpr hholds)

/-- Runs after which a place is not exclusive:
* PPPoE claims the place of IPoE, and both end;
* IPoE claims the place of PPPoE, and both end;
* the client of an IPoE session releases it;
* the server rejects an IPoE session;
* the clean-up pass deletes an IPoE session;
* an IPoE session starts with a Request on the place of a PPPoE session;
* a client starts a second PPPoE session;
* an IPoE session is terminated before it claims its place. -/
def failures : List (List Event) :=
  [[.first .discover place, .claim 0, .padr place, .deliver 0, .finish 0, .deliver 0],
    [.padr place, .first .discover place, .claim 0, .deliver 1, .deliver 0, .finish 0],
    [.first .discover place, .claim 0, .release placeKey true],
    [.first .discover place, .claim 0, .aaaReject 0],
    [.first .discover place, .claim 0, .scan placeKey, .sweep 0],
    [.padr place, .first .request place, .claim 0],
    [.padr place, .padr place],
    [.first .discover place, .disconnect 0, .deliver 0, .finish 0, .deliver 0, .claim 0]]

theorem exclusivity_fails :
    failures.Forall fun es => ∃ s, run next (fun _ _ => True) start es = some s ∧
      machine.Reach (fun _ _ => True) s ∧ s.Drained ∧ s.Mixed place ∧
      ¬ (s.EvictionsHit ∧ s.Exclusive place) := by
  refine forall_exists_run initial_start _ (fun _ s => s.Drained ∧ s.Mixed place ∧ s.broken place)
    (by decide +kernel) ?_
  rintro es s hreach ⟨hdrained, hmixed, hbroken⟩
  exact ⟨hreach, hdrained, hmixed, not_exclusive_of_broken hbroken⟩

end Access
end Osvbng.Session

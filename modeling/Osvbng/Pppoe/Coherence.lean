import Osvbng.Pppoe.Numbers

/-!
# Coherence of the indexes

The indexes are coherent if every entry leads to a live session that has its key and every live
session is found by its two identifiers. Entries are written and deleted without a look at what
is there, so that the removal of a session also takes what a later one is entered under.
`Server.coherent_iff` says which events keep the indexes coherent, in which states.
-/

namespace Osvbng.Pppoe
open Option Lib Lib.Slice Lib.NetIP Machine

def Key.isID : Key → Bool
  | .pppoeSessionID _ | .sessionID _ => true
  | _ => false

def SessionState.ids (sess : SessionState) : List Key :=
  [.pppoeSessionID sess.pppoeSessionID, .sessionID sess.sessionID]

namespace Server
variable (s : Server)

/-- Entries lead to live sessions that have the key. -/
def Accurate : Prop := Index.Sound (fun _ => True) SessionState.keys s.live s.index

def Coherent : Prop :=
  s.Accurate ∧ ∀ j sess, s.live j = some sess → ∀ k ∈ sess.ids, s.index k = some j

/-- The indexes are coherent, and no entry of a session that is still live is removed. -/
def Keeps (s' : Server) : Prop :=
  s'.Coherent ∧ ∀ k j, s.index k = some j → s'.live j ≠ none → s'.index k ≠ none

def keysAt (id : Nat) : List Key := s.objects[id]?.elim [] (·.1.keys)

/-- No other session is entered under the keys of this one. -/
def Alone (id : Nat) : Prop := ∀ k ∈ s.keysAt id, ∀ j ∈ s.index k, j = id
deriving Decidable

def Fresh (sess : SessionState) : Prop := ∀ k ∈ sess.ids, s.index k = none
deriving Decidable

/-- A live session that changes keeps the keys under which it is entered. -/
def Careful (i : ServerEnv × ServerEvent) : Prop :=
  match i.2 with
  | .rename id username ipv4 ipv6 => ∀ sess ∈ s.live id, ∀ k ∈ sess.keys,
    s.index k = some id → k ∈ (sess.rename username ipv4 ipv6).keys
  | _ => True

/-- There is an identifier for a new session, those of one that is installed or restored are
fresh, and a session that is removed is alone. -/
def Orderly (i : ServerEnv × ServerEvent) : Prop :=
  match i.2 with
  | .discovery place sid code acCookie => dropped i.1 place = false →
    (code = padr → accepts i.1 place acCookie → ∃ free, s.sidIndex free = none) ∧
      (code = padt → ∀ id ∈ s.sidIndex sid, s.Alone id)
  | .rename .. => s.Careful i
  | .deadPeer sid => ∀ id ∈ s.sidIndex sid, s.Alone id
  | .vppFailure id => s.Alone id
  | .subscriberTerminate ev => ∀ id ∈ s.resolveTerminateTargetLocked ev, s.Alone id
  | .restart => True
  | .installInMemoryState sess | .restoreFromHASync sess => s.Fresh sess

instance : Decidable (∃ free, s.sidIndex free = none) :=
  if h : s.sidIndex s.nextSessionID = none then .isTrue ⟨_, h⟩
  else decidable_of_iff (∃ n < 65536, s.sidIndex (.ofNat n) = none)
    ⟨fun ⟨_, _, h⟩ => ⟨_, h⟩, fun ⟨x, h⟩ => ⟨x.toNat, x.toNat_lt, by simpa using h⟩⟩

instance (i : ServerEnv × ServerEvent) : Decidable (s.Careful i) := by
  obtain ⟨env, e⟩ := i
  rcases e <;> dsimp only [Careful] <;> infer_instance

instance (i : ServerEnv × ServerEvent) : Decidable (s.Orderly i) := by
  obtain ⟨env, e⟩ := i
  rcases e <;> dsimp only [Orderly] <;> infer_instance

/-- A step to `s'` keeps the entries accurate if `p`, and the indexes coherent exactly if `q`. -/
def Effect (s' : Server) (p q : Prop) : Prop :=
  (s.Accurate → p → s'.Accurate) ∧ (s.Coherent → (s.Keeps s' ↔ q))

variable {s} {sess a : SessionState} {k : Key} {i : ServerEnv × ServerEvent} {s' : Server}
  {id j : Nat}

theorem mem_ids : k ∈ sess.ids ↔ k ∈ sess.keys ∧ k.isID := by
  cases k <;> simp [SessionState.ids, SessionState.keys, Key.isID]

theorem live_eq_some : s.live j = some sess ↔ s.objects[j]? = some (sess, true) := by
  unfold live
  rcases s.objects[j]? with _ | ⟨a, _ | _⟩ <;> simp

theorem live_add : (s.add sess).live j = if j = s.objects.length then some sess else s.live j := by
  unfold live add
  grind

theorem index_add : (s.add sess).index k =
    if k ∈ sess.keys then some s.objects.length else s.index k := rfl

theorem live_remove : (s.remove id).live j = if j = id then none else s.live j := by
  unfold live remove removeFromIndexes
  grind

theorem index_remove :
    (s.remove id).index k = if k ∈ s.keysAt id then none else s.index k := by
  cases hid : s.objects[id]? <;> simp [remove, keysAt, hid, removeFromIndexes, Index.erase]

theorem keysAt_of_live (ha : s.live id = some a) : s.keysAt id = a.keys := by
  rw [keysAt, live_eq_some.mp ha]
  rfl

theorem sidIndex_allocateSessionID {found next : UInt16}
    (halloc : s.allocateSessionID = some (found, next)) :
    s.sidIndex found = none ↔ ∃ free, s.sidIndex free = none := by
  refine ⟨fun hfree => ⟨found, hfree⟩, fun ⟨free, hfree⟩ => ?_⟩
  by_contra hused
  by_cases hzero : found = 0
  · -- The search is over without an identifier, but there is a first one.
    subst hzero
    obtain ⟨least, ⟨hne, hleast⟩, hmin⟩ := (measure (ahead s.nextSessionID)).wf.has_min
      {x | x ≠ 0 ∧ s.sidIndex x = none} ⟨free, by rintro rfl; exact hused hfree, hfree⟩
    obtain ⟨next', hfound⟩ := (allocateSessionID_iff hne).mpr
      ⟨.inr hused, hleast, fun x hx hnone => not_lt.mp (hmin x ⟨hx, hnone⟩)⟩
    cases halloc.symm.trans hfound
    exact hne rfl
  · exact hused ((allocateSessionID_iff hzero).mp ⟨next, halloc⟩).2.1

theorem effect_self : s.Effect s True True :=
  ⟨fun h _ => h, fun h => iff_of_true ⟨h, fun _ _ hj _ => hj ▸ nofun⟩ trivial⟩

theorem effect_add : s.Effect (s.add sess) True (s.Fresh sess) := by
  have hlive {j a} (ha : s.live j = some a) : j ≠ s.objects.length :=
    (List.getElem?_eq_some_iff.mp (live_eq_some.mp ha)).1.ne
  have hadd (h : s.Accurate) : (s.add sess).Accurate := by
    intro k j _ hj
    have := h k j trivial
    grind [live_add, index_add]
  refine ⟨fun h _ => hadd h, fun ⟨haccurate, hfound⟩ => ⟨?_, fun hfresh => ?_⟩⟩
  · rintro ⟨⟨-, hfound'⟩, -⟩ k hk
    by_contra hne
    obtain ⟨j, hj⟩ := ne_none_iff_exists'.mp hne
    obtain ⟨a, ha, hka⟩ := haccurate k j trivial hj
    have := hfound' j a
    grind [mem_ids, live_add, index_add]
  · refine ⟨⟨hadd haccurate, fun j a ha k hk => ?_⟩, fun k j hj _ => ?_⟩
    · have := hfound j a
      grind [Fresh, mem_ids, live_add, index_add]
    · grind [index_add]

theorem effect_remove : s.Effect (s.remove id) True (s.Alone id) := by
  have hremove (h : s.Accurate) : (s.remove id).Accurate := by
    intro k j _ hj
    have := h k j trivial
    grind [index_remove, live_remove, keysAt_of_live]
  refine ⟨fun h _ => hremove h, fun ⟨haccurate, hfound⟩ => ⟨?_, fun halone => ?_⟩⟩
  · rintro ⟨-, hspares⟩ k hk j hj
    obtain ⟨a, ha, -⟩ := haccurate k j trivial hj
    have := hspares k j hj
    grind [index_remove, live_remove]
  · have halone {k j} (hk : k ∈ s.keysAt id) (hj : s.index k = some j) : j = id := halone k hk j hj
    refine ⟨⟨hremove haccurate, fun j a ha k hk => ?_⟩, fun k j hj hlive => ?_⟩
    · have := hfound j a
      grind [index_remove, live_remove]
    · grind [index_remove, live_remove]

theorem effect_elim (found : Option Nat) :
    s.Effect (found.elim s s.remove) True (∀ id ∈ found, s.Alone id) := by
  cases found with
  | none => simpa using effect_self
  | some id => simpa using effect_remove

theorem effect_rename {username : Bytes} {ipv4 ipv6 : IP} {env : ServerEnv}
    (hstep : s.next (env, .rename id username ipv4 ipv6) = some s') :
    s.Effect s' (s.Careful (env, .rename id username ipv4 ipv6))
      (s.Careful (env, .rename id username ipv4 ipv6)) := by
  obtain ⟨⟨sess, alive⟩, hid, hs'⟩ := Option.map_eq_some_iff.mp hstep
  have hindex : s'.index = s.index := hs' ▸ rfl
  have hlive j : s'.live j =
      if j = id then (s.live id).map (·.rename username ipv4 ipv6) else s.live j := by
    rw [← hs']
    unfold live
    grind
  have hrename (h : s.Accurate) (hkeys : s.Careful (env, .rename id username ipv4 ipv6)) :
      s'.Accurate := by
    intro k j _ hj
    have := h k j trivial
    simp only [Careful, mem_def] at hkeys
    grind
  refine ⟨hrename, fun ⟨haccurate, hfound⟩ => ⟨?_, fun hkeys => ?_⟩⟩
  · rintro ⟨⟨haccurate', -⟩, -⟩ old hold k hk hj
    have := haccurate' k id trivial
    rw [mem_def] at hold
    grind
  · refine ⟨⟨hrename haccurate hkeys, fun j a ha k hk => ?_⟩, fun k j hj _ => ?_⟩
    · rw [hlive] at ha
      rw [hindex]
      split at ha
      · obtain ⟨old, hold, rfl⟩ := map_eq_some_iff.mp ha
        exact ‹j = id› ▸ hfound id old hold k hk
      · exact hfound j a ha k hk
    · rw [hindex, hj]
      nofun

theorem effect_next (h : s.Accurate) (hstep : s.next i = some s') :
    s.Effect s' (s.Careful i) (s.Orderly i) := by
  obtain ⟨env, e⟩ := i
  cases e with
  | discovery place sid code acCookie =>
    simp only [next, handleDiscovery, handlePADR, handlePADT, Orderly, Careful] at hstep ⊢
    split_ifs at hstep with hdropped hpadi hpadr haccepts hdrawn hpadt
    · cases hstep
      simpa [hdropped] using effect_self
    · cases hstep
      simpa [hpadi, padi, padr, padt] using effect_self
    · cases hstep
      simp_all [padr, padt, effect_self]
    · obtain ⟨⟨sid', following⟩, halloc, rfl⟩ := Option.map_eq_some_iff.mp hstep
      have hnone : s.index (.sessionID env.sessionID) = none := by
        by_contra hne
        obtain ⟨j, hj⟩ := ne_none_iff_exists'.mp hne
        obtain ⟨a, ha, hk⟩ := h _ j trivial hj
        refine hdrawn (List.any_eq_true.mpr ⟨_, List.mem_of_getElem? (live_eq_some.mp ha), ?_⟩)
        simpa [SessionState.keys, eq_comm] using hk
      have hsid := sidIndex_allocateSessionID halloc
      refine ⟨effect_add.1, fun hc => (effect_add.2 hc).trans ?_⟩
      simp_all [Fresh, SessionState.ids, newSession, sidIndex, padr, padt]
    · cases hstep
      simpa [hdropped, hpadt, padr, padt] using effect_elim (s.sidIndex sid)
    · cases hstep
      simpa [hpadr, hpadt] using effect_self
  | rename => exact effect_rename hstep
  | deadPeer | subscriberTerminate =>
    cases hstep
    exact effect_elim _
  | vppFailure id =>
    cases hstep
    exact effect_remove
  | restart =>
    cases hstep
    exact ⟨fun _ _ => nofun,
      fun _ => iff_of_true ⟨⟨nofun, nofun⟩, fun _ _ _ hlive => absurd rfl hlive⟩ trivial⟩
  | installInMemoryState sess =>
    cases hstep
    unfold installInMemoryState
    split <;> exact effect_add
  | restoreFromHASync sess =>
    cases hstep
    exact effect_add

theorem accurate_of_reach (hreach : machine.Reach Careful s) : s.Accurate := by
  apply hreach.invariant Accurate
  · rintro _ rfl
    exact nofun
  · exact fun s i s' h hcareful hstep => (effect_next h hstep).1 h hcareful

theorem coherent_of_reach (hreach : machine.Reach Orderly s) : s.Coherent := by
  apply hreach.invariant Coherent
  · rintro _ rfl
    exact ⟨nofun, nofun⟩
  · exact fun s i s' h horderly hstep => (((effect_next h.1 hstep).2 h).mpr horderly).1

/-- In the states that orderly events lead to the indexes are coherent. The next event keeps
them so, and the entries of every session that is still live, if and only if it is orderly. -/
theorem coherent_iff (hreach : machine.Reach Orderly s) (hstep : s.next i = some s') :
    s.Coherent ∧ (s.Keeps s' ↔ s.Orderly i) :=
  have h := coherent_of_reach hreach
  ⟨h, (effect_next h.1 hstep).2 h⟩

theorem coherent_iff_leave : ∃ s s' : Server, s.next (leave south 2) = some s' ∧ (s.live 1).isSome ∧
    (s'.live 0).isSome ∧ s.Coherent ∧ s.Keeps s' := by
  obtain ⟨s, hreach, hlive, hlive', horderly⟩ : ∃ s, machine.Reach Orderly s ∧ (s.live 1).isSome ∧
      ((s.handlePADT 2).live 0).isSome ∧ s.Orderly (leave south 2) :=
    exists_reach_of_run rfl [connect north [1], connect south [2]] (by decide +kernel)
  obtain ⟨hcoherent, hkeeps⟩ := coherent_iff hreach (i := leave south 2) rfl
  exact ⟨s, _, rfl, hlive, hlive', hcoherent, hkeeps.mpr horderly⟩

/-- A client that connects twice and leaves with its first session takes the place of the second,
a session whose name changes is entered under the old one, and one of the peer takes the
identifier of one that is here. -/
theorem indexes_break :
    (∃ s, machine.Reach (fun _ _ => True) s ∧ (s.live 1).map (·.place) = some north ∧
      s.index (.place north) = none) ∧
    (∃ s, machine.Reach (fun _ _ => True) s ∧ (s.live 0).map (·.username) = some [66] ∧
      s.index (.username [65]) = some 0) ∧
    ∃ s, machine.Reach (fun _ _ => True) s ∧ (s.live 0).map (·.pppoeSessionID) = some 1 ∧
      s.sidIndex 1 = some 1 :=
  ⟨exists_reach_of_run rfl [connect north [1], connect north [2], leave north 1]
      (by decide +kernel),
    exists_reach_of_run rfl [(openEnv [], .restoreFromHASync ⟨[1], [1], 1, north, [65], [], []⟩),
      (openEnv [], .rename 0 [66] [] [])] (by decide +kernel),
    exists_reach_of_run rfl [connect north [1], synced [9] 1] (by decide +kernel)⟩

end Server
end Osvbng.Pppoe

import Osvbng.Ipoe.Counters

/-!
# What is left of a removed session

A session may be removed while the AAA server, the dataplane or a provider still has
something of it. `Component.removed_stays` says when nothing comes of that: no answer may be
taken by a session that is removed, the dataplane must not make an interface for it any more,
and its interface must be deleted under the key under which it was made.
-/

namespace Osvbng.Ipoe
open List Lib Lib.Slice Machine Held Prod
namespace Component

def isRemoved (c : Component) (i : Nat) : Bool := (c.objects[i]?).any (·.closing)

/-- The interfaces of removed sessions are about to be deleted. -/
def Covered (c : Component) : Prop :=
  ∀ f ∈ c.interfaces, ∀ i ∈ f.owner, c.isRemoved i → .deleteIPoESession f.key ∈ c.vpp

structure Untouched (c : Component) (i : Nat) (c' : Component) : Prop where
  removed : c'.isRemoved i
  lease : ∀ s ∈ c.objects[i]?, ∀ s' ∈ c'.objects[i]?, (s'.ipv4 = s.ipv4 ∨ s'.ipv4 = []) ∧
    (s'.ipv6Bound = s.ipv6Bound ∨ s'.ipv6Bound = false)
  index : ∀ k, c'.index k = some i → c.index k = some i
  writes : ∀ s, (i, s) ∈ c'.writes → (i, s) ∈ c.writes

end Component

/-- An effect that leaves nothing of a removed session. A restart is none. -/
def Effect.Clears (c : Component) : Effect → Prop
  | .quiet made _ => ∀ p ∈ made, c.isRemoved p.1 → .deleteIPoESession p.2 ∈ c.vpp
  | .leased _ old _ _ => old.closing = false
  | .removed i old _ _ _ freed => ∀ f ∈ c.interfaces, f.owner = some i →
      .deleteIPoESession f.key ∈ c.vpp ∨ (freed ∧ old.ipoeSwIfIndex ≠ 0 ∧ f.key = old.ifKey)
  | .restarted _ => False

instance (c : Component) (e : Effect) : Decidable (e.Clears c) := by
  rcases e <;> dsimp only [Effect.Clears] <;> infer_instance

namespace Component
variable {c c' : Component} {e : ComponentEvent} {i j : Nat} {old new : Subscriber}
  {made : Option (Nat × IfKey)} {named : Option (Nat × Bytes)}

theorem isRemoved_eq (c : Component) (i : Nat) :
    c.isRemoved i = ((c.objects.map (·.held))[i]?).any (·.closing) := by
  rw [getElem?_map, Option.any_map]
  rfl

theorem isRemoved_quiet (h : c.Quiet made named c') (i : Nat) : c'.isRemoved i = c.isRemoved i := by
  obtain ⟨fresh, heq, hnew⟩ := h.held
  rw [isRemoved_eq, isRemoved_eq, heq, getElem?_append]
  split
  · rfl
  · rename_i hlen
    rw [getElem?_eq_none (Nat.le_of_not_lt hlen), Option.any_none, Option.any_eq_false]
    intro x hx
    exact (hnew x (mem_of_getElem? hx)).2

theorem isRemoved_changed (h : c.Changed i old new c') (j : Nat) :
    c'.isRemoved j = if i = j then new.closing else c.isRemoved j := by
  unfold isRemoved
  rw [h.objects, getElem?_set]
  split
  · rw [if_pos (List.getElem?_eq_some_iff.mp h.found).1]
    rfl
  · rfl

theorem Changed.untouched (h : c.Changed i old new c') (hremoved : c.isRemoved j) (hne : i ≠ j)
    (hindex : ∀ k, c'.index k = some j → c.index k = some j)
    (hwrites : ∀ s, (j, s) ∈ c'.writes → (j, s) ∈ c.writes) : c.Untouched j c' := by
  refine ⟨?_, fun s hs s' hs' => ?_, hindex, hwrites⟩
  · rw [isRemoved_changed h, if_neg hne]
    exact hremoved
  · rw [h.objects, getElem?_set_ne hne, hs] at hs'
    cases hs'
    exact ⟨.inl rfl, .inl rfl⟩

theorem untouched_next (h : c.next e = some c') (hclears : (c.effect e).Clears c)
    (hremoved : c.isRemoved j) : c.Untouched j c' := by
  have hdone := next_effect h
  generalize c.effect e = effect at hdone hclears
  cases effect with
  | quiet made named =>
    have hremoved' := (isRemoved_quiet hdone j).trans hremoved
    refine ⟨hremoved', fun s hs s' hs' => ?_, fun k hk => ?_, fun s => hdone.writes (j, s)⟩
    · obtain ⟨s'', hs'', hheld⟩ := hdone.object hs
      rw [hs'] at hs''
      cases hs''
      exact ⟨.inl (congrArg ipv4 hheld), .inl (congrArg ipv6Bound hheld)⟩
    · refine (hdone.index k j hk).resolve_right ?_
      rintro ⟨sess, hsess, hopen, -⟩
      simp [isRemoved, hsess, hopen] at hremoved'
  | leased i old new counted =>
    have hne : i ≠ j := by
      rintro rfl
      simp [isRemoved, hdone.found, show old.closing = false from hclears] at hremoved
    refine hdone.toChanged.untouched hremoved hne (fun k hk => ?_) fun s hs => ?_
    · exact (hdone.index k j hk).resolve_right fun hk => hne hk.1.symm
    · rw [hdone.writes] at hs
      refine (mem_append.mp hs).resolve_right fun hs => hne ?_
      exact (congrArg fst (mem_singleton.mp hs)).symm
  | removed i old new ks counted freed =>
    have hindex k : c'.index k = some j → c.index k = some j := fun hk => by
      rw [hdone.index] at hk
      exact (Index.erase_eq_some hk).2
    have hwrites s : (j, s) ∈ c'.writes → (j, s) ∈ c.writes := by
      rw [hdone.writes]
      exact id
    by_cases hij : i = j
    · subst hij
      refine ⟨?_, fun s hs s' hs' => ?_, hindex, hwrites⟩
      · rw [isRemoved_changed hdone.toChanged, if_pos rfl, hdone.closing]
      · rw [hdone.objects, List.getElem?_set_self (List.getElem?_eq_some_iff.mp hdone.found).1]
          at hs'
        rw [hdone.found] at hs
        cases hs
        cases hs'
        exact ⟨hdone.ipv4, hdone.ipv6Bound⟩
    · exact hdone.toChanged.untouched hremoved hij hindex hwrites
  | restarted r => exact hclears.elim

theorem covered_next (hc : c.Covered) (h : c.next e = some c')
    (hclears : (c.effect e).Clears c) : c'.Covered := by
  have hdone := next_effect h
  generalize c.effect e = effect at hdone hclears
  intro f hf i hi hremoved
  cases effect with
  | quiet made named =>
    rw [isRemoved_quiet hdone] at hremoved
    have hdelete : .deleteIPoESession f.key ∈ c.vpp := by
      rcases hdone.interfaces f hf with hf | hmade
      · exact hc f hf i hi hremoved
      · rw [hi] at hmade
        exact hclears _ hmade.symm hremoved
    exact (hdone.vpp f.key hdelete).resolve_right fun hnone => hnone f hf rfl
  | leased j old new counted =>
    rw [hdone.interfaces] at hf
    rw [isRemoved_changed hdone.toChanged] at hremoved
    rw [hdone.vpp]
    refine hc f hf i hi ?_
    split at hremoved
    · rw [hdone.closing, show old.closing = false from hclears] at hremoved
      cases hremoved
    · exact hremoved
  | removed j old new ks counted freed =>
    rw [hdone.interfaces] at hf
    rw [isRemoved_changed hdone.toChanged] at hremoved
    rw [hdone.vpp, mem_append]
    split at hremoved
    · rename_i hji
      subst hji
      -- The interface is under way already, or the removal asks for its deletion.
      rcases hclears f hf hi with hdelete | ⟨hfreed, hsw, hkey⟩
      · exact .inl hdelete
      · rw [hfreed, if_pos rfl, if_neg hsw, hkey]
        exact .inr (mem_singleton.mpr rfl)
    · exact .inl (hc f hf i hi hremoved)
  | restarted r => exact hclears.elim

/-- A release or a terminate before the dataplane has made the interface, and a Discover from
another interface before a release. -/
def abandoned : List (List ComponentEvent) :=
  [[.discover (policy 1) client, .aaaResponse 0 true true true, .answer 0 100 .other,
      .release client.tuple [], .vpp 0 (some 5)],
    [.discover (policy 1) client, .aaaResponse 0 true true true, .answer 0 100 .other,
      .terminate ⟨some client.tuple, [], [], [], [], []⟩, .vpp 0 (some 5)],
    setUp ++ [.discover (policy 2) { client with swIfIndex := 2 }, .answer 0 100 .other,
      .release client.tuple [], .vpp 0 none]]

/-- A release or a terminate while a provider has a Request. -/
def overtaken : List (List ComponentEvent) :=
  [.release client.tuple [], .terminate ⟨some client.tuple, [], [], [], [], []⟩].map fun e =>
    setUp ++ [.request (policy 2) client, e]

end Component
end Osvbng.Ipoe

import Mathlib.Data.Finset.Card
import Osvbng.Ha.Srg
import Osvbng.Lib.Run

/-!
# The interfaces that a group tracks

A group loses a part of its priority for each of its interfaces that is down. The manager
counts these interfaces from the events about them, and finds the group of an interface in a
map that has room for one. `priority_exact` says when the priority is right: every event is a
change, the interface belongs to one group, and the numbers fit into 32 bits.
-/

namespace Osvbng.Ha
open Function Option List Lib Int32 Finset SRGStateMachine

structure SRGConfig where
  interfaces : List String
  trackPriorityDecrement : UInt32

structure InterfaceStateEvent where
  swIfIndex : UInt32
  linkUp : Bool
  deleted : Bool

def InterfaceStateEvent.isDown (ev : InterfaceStateEvent) : Bool := !ev.linkUp || ev.deleted

structure Tracker where
  cfg : String → Option SRGConfig
  /-- The names of the groups, in the order in which the loop visits them. -/
  order : List String
  mem_order : ∀ name, name ∈ order ↔ (cfg name).isSome
  ifResolver : String → Option UInt32
  srgs : String → Option SRGStateMachine
  ifToSRG : UInt32 → Option String
  ifDownCount : String → Nat
  /-- History: whether the last event about an interface has it down. -/
  down : UInt32 → Bool

namespace Tracker
variable (t : Tracker) (cfg : SRGConfig) (ev : InterfaceStateEvent)

def indexes : List UInt32 := cfg.interfaces.filterMap t.ifResolver

def enter (m : UInt32 → Option String) (e : UInt32 × String) : UInt32 → Option String :=
  update m e.1 (some e.2)

def buildInterfaceMap : Tracker :=
  let entries := t.order.flatMap fun name => (t.cfg name).elim [] fun cfg =>
    if cfg.trackPriorityDecrement = 0 then [] else (t.indexes cfg).map (·, name)
  { t with
    ifToSRG := entries.foldl enter fun _ => none
    ifDownCount := fun _ => 0 }

def told : Tracker := { t with down := update t.down ev.swIfIndex ev.isDown }

def handleInterfaceEvent : Tracker :=
  let t := t.told ev
  match t.ifToSRG ev.swIfIndex with
  | none => t
  | some name =>
    match t.srgs name, t.cfg name with
    | some sm, some cfg =>
      let wasDown := t.ifDownCount name
      -- The count stops at zero.
      let downCount := if ev.isDown then wasDown + 1 else wasDown - 1
      let delta := -cfg.trackPriorityDecrement.toInt32 * ofNat downCount
      let sm := sm.adjustPriority delta
      { t with
        srgs := update t.srgs name (some (if ev.isDown then sm.trackerPromote.1 else sm))
        ifDownCount := update t.ifDownCount name downCount }
    | _, _ => t

def downCount : Nat := ((t.indexes cfg).toFinset.filter (t.down · = true)).card

/-- The priority a group should have. -/
def priority (sm : SRGStateMachine) : Int :=
  max (0 : Int) (sm.priority.toNat - cfg.trackPriorityDecrement.toNat * t.downCount cfg)

def Exact : Prop :=
  ∀ name sm cfg, t.srgs name = some sm → t.cfg name = some cfg →
    (sm.effectivePriority.toNat : Int) = t.priority cfg sm

structure Initial : Prop where
  map : t.ifToSRG = t.buildInterfaceMap.ifToSRG
  counts : ∀ name, t.ifDownCount name = 0
  priority : ∀ name sm, t.srgs name = some sm → sm.effectivePriority = sm.priority
  up : ∀ i, t.down i = false

def machine : Machine Tracker InterfaceStateEvent :=
  .ofNext Initial fun t ev => some (t.handleInterfaceEvent ev)

/-- What is asked of an event, for each group that tracks its interface: the map leads to the
group, which it does for one of them, the interface was in the other state before, or is up
like all of the group, and the numbers are small enough. -/
def Careful : Prop :=
  ∀ name ∈ t.order, ∀ cfg ∈ t.cfg name, cfg.trackPriorityDecrement ≠ 0 →
    ev.swIfIndex ∈ t.indexes cfg →
      t.ifToSRG ev.swIfIndex = some name ∧
      (if ev.isDown then t.down ev.swIfIndex = false
        else t.down ev.swIfIndex = true ∨ t.downCount cfg = 0) ∧
      ∀ sm ∈ t.srgs name,
        sm.priority.toNat + cfg.trackPriorityDecrement.toNat * cfg.interfaces.length < 2 ^ 31

end Tracker

theorem SRGStateMachine.effectivePriority_adjustPriority (sm : SRGStateMachine) {dec : UInt32}
    {n : Nat} (h : sm.priority.toNat + dec.toNat * n < 2 ^ 31) :
    ((sm.adjustPriority (-dec.toInt32 * ofNat n)).effectivePriority.toNat : Int) =
      max (0 : Int) (sm.priority.toNat - dec.toNat * n) := by
  have hbase : sm.priority.toInt32.toInt = sm.priority.toNat :=
    BitVec.toInt_eq_toNat_of_lt (show 2 * sm.priority.toNat < 2 ^ 32 by omega)
  have hdelta : (-dec.toInt32 * ofNat n).toInt = -(dec.toNat * n : Int) := by
    rcases Nat.eq_zero_or_pos n with rfl | hpos
    · simp
    · have hle : dec.toNat ≤ dec.toNat * n := Nat.le_mul_of_pos_right _ hpos
      have hdec : dec.toInt32.toInt = dec.toNat :=
        BitVec.toInt_eq_toNat_of_lt (show 2 * dec.toNat < 2 ^ 32 by omega)
      have hn : (ofNat n).toInt = (n : Int).bmod (2 ^ 32) := toInt_ofNat'
      rw [toInt_mul, toInt_neg, hdec, hn, Int.bmod_mul_bmod, Int.mul_bmod_bmod,
        Int.neg_mul, Int.bmod_eq_of_le]
      · omega
      · omega
  have hsum : (sm.priority.toInt32 + -dec.toInt32 * ofNat n).toInt =
      sm.priority.toNat - dec.toNat * n := by
    rw [toInt_add, hbase, hdelta, Int.bmod_eq_of_le]
    · omega
    · omega
    · omega
  unfold adjustPriority
  dsimp only
  split
  · rename_i hneg
    rw [lt_iff_toInt_lt, hsum] at hneg
    have hneg' : (sm.priority.toNat : Int) - dec.toNat * n < 0 := hneg
    rw [max_eq_left hneg'.le]
    rfl
  · rename_i hpos
    rw [lt_iff_toInt_lt, hsum] at hpos
    have hnonneg : (0 : Int) ≤ sm.priority.toNat - dec.toNat * n := not_lt.mp hpos
    rw [toNat_toUInt32_of_le]
    · rw [toNatClampNeg, hsum, Int.toNat_of_nonneg hnonneg, max_eq_right hnonneg]
    · rw [le_iff_toInt_le, hsum]
      exact hnonneg

namespace Tracker
variable {t : Tracker} {cfg : SRGConfig} {ev : InterfaceStateEvent}

theorem downCount_told_of_notMem (h : ev.swIfIndex ∉ t.indexes cfg) :
    (t.told ev).downCount cfg = t.downCount cfg := by
  unfold downCount
  congr 1
  refine filter_congr fun i hi => ?_
  have hne : i ≠ ev.swIfIndex := fun heq => h (heq ▸ mem_toFinset.mp hi)
  simp only [told, update_of_ne hne]

theorem downCount_told (h : ev.swIfIndex ∈ t.indexes cfg)
    (hchange : if ev.isDown then t.down ev.swIfIndex = false
      else t.down ev.swIfIndex = true ∨ t.downCount cfg = 0) :
    (t.told ev).downCount cfg = if ev.isDown then t.downCount cfg + 1 else t.downCount cfg - 1 := by
  have hmem := mem_toFinset.mpr h
  cases hdown : ev.isDown with
  | true =>
    rw [hdown, if_pos rfl] at hchange
    have hinsert : (t.indexes cfg).toFinset.filter ((t.told ev).down · = true) =
        insert ev.swIfIndex ((t.indexes cfg).toFinset.filter (t.down · = true)) := by
      ext i
      by_cases hi : i = ev.swIfIndex <;> simp_all [told]
    have hcard : (t.told ev).downCount cfg = _ := congrArg card hinsert
    rw [hcard, card_insert_of_notMem (by simp [hchange]), if_pos rfl]
    rfl
  | false =>
    rw [hdown, if_neg Bool.false_ne_true] at hchange
    have herase : (t.indexes cfg).toFinset.filter ((t.told ev).down · = true) =
        ((t.indexes cfg).toFinset.filter (t.down · = true)).erase ev.swIfIndex := by
      ext i
      by_cases hi : i = ev.swIfIndex <;> simp_all [told]
    have hcard : (t.told ev).downCount cfg = _ := congrArg card herase
    rw [hcard, if_neg Bool.false_ne_true]
    rcases hchange with hwas | hnone
    · rw [card_erase_of_mem (mem_filter.mpr ⟨hmem, hwas⟩)]
      rfl
    · rw [hnone, card_eq_zero.mp hnone]
      rfl

theorem downCount_le (t : Tracker) (cfg : SRGConfig) : t.downCount cfg ≤ cfg.interfaces.length :=
  ((card_filter_le _ _).trans (toFinset_card_le _)).trans (length_filterMap_le _ _)

def Right (t : Tracker) (name : String) : Prop :=
  ∀ sm cfg, t.srgs name = some sm → t.cfg name = some cfg →
    (cfg.trackPriorityDecrement ≠ 0 → t.ifDownCount name = t.downCount cfg) ∧
      (sm.effectivePriority.toNat : Int) = t.priority cfg sm

structure Inv (t : Tracker) : Prop where
  mapped : ∀ i name, t.ifToSRG i = some name → ∃ cfg, t.cfg name = some cfg ∧
    cfg.trackPriorityDecrement ≠ 0 ∧ i ∈ t.indexes cfg
  right : ∀ name, t.Right name

theorem mem_of_foldl_enter {entries : List (UInt32 × String)} {m : UInt32 → Option String}
    {i : UInt32} {name : String} (h : entries.foldl enter m i = some name) :
    (i, name) ∈ entries ∨ m i = some name := by
  induction entries generalizing m with
  | nil => exact .inr h
  | cons e entries ih =>
    rcases ih h with hmem | hm
    · exact .inl (mem_cons_of_mem _ hmem)
    · rcases update_cases hm with ⟨rfl, hm'⟩ | ⟨-, hm'⟩
      · cases hm'
        exact .inl mem_cons_self
      · exact .inr hm'

theorem inv_of_initial (h : t.Initial) : t.Inv where
  mapped i name hi := by
    rw [h.map] at hi
    rcases mem_of_foldl_enter hi with hmem | hnone
    · obtain ⟨name', -, hentry⟩ := mem_flatMap.mp hmem
      cases hcfg : t.cfg name' with
      | none => simp [hcfg] at hentry
      | some cfg =>
        rw [hcfg, elim_some] at hentry
        split at hentry
        · cases hentry
        · rename_i hdec
          obtain ⟨i', hi', heq⟩ := mem_map.mp hentry
          cases heq
          exact ⟨cfg, hcfg, hdec, hi'⟩
    · cases hnone
  right name sm cfg hsm _ := by
    rw [h.counts, h.priority name sm hsm]
    simp [Tracker.priority, downCount, h.up]

theorem Right.of_same {t' : Tracker} {name : String} (h : t.Right name)
    (hsrgs : t'.srgs name = t.srgs name) (hcfg : t'.cfg = t.cfg)
    (hcount : t'.ifDownCount name = t.ifDownCount name)
    (hdown : ∀ cfg ∈ t.cfg name, cfg.trackPriorityDecrement ≠ 0 →
      t'.downCount cfg = t.downCount cfg) : t'.Right name := by
  intro sm cfg hsm hc
  rw [hsrgs] at hsm
  rw [hcfg] at hc
  obtain ⟨hcounted, hexact⟩ := h sm cfg hsm hc
  unfold priority at hexact ⊢
  by_cases hdec : cfg.trackPriorityDecrement = 0
  · simp_all
  · rw [hcount, hdown cfg hc hdec]
    exact ⟨hcounted, hexact⟩

theorem Inv.handleInterfaceEvent (h : t.Inv) (hok : t.Careful ev) :
    (t.handleInterfaceEvent ev).Inv := by
  have hother name : t.ifToSRG ev.swIfIndex ≠ some name → ∀ cfg ∈ t.cfg name,
      cfg.trackPriorityDecrement ≠ 0 → (t.told ev).downCount cfg = t.downCount cfg := by
    intro hne cfg hcfg hdec
    refine downCount_told_of_notMem fun hmem => hne ?_
    have horder : name ∈ t.order := (t.mem_order name).mpr (by rw [hcfg]; rfl)
    exact (hok name horder cfg hcfg hdec hmem).1
  unfold Tracker.handleInterfaceEvent
  dsimp only
  split
  · rename_i hnone
    have hnone : t.ifToSRG ev.swIfIndex = none := hnone
    refine ⟨h.mapped, fun name => (h.right name).of_same rfl rfl rfl (hother name ?_)⟩
    rw [hnone]
    nofun
  · rename_i name hname
    have hname : t.ifToSRG ev.swIfIndex = some name := hname
    have hothers other : other ≠ name → ∀ cfg ∈ t.cfg other,
        cfg.trackPriorityDecrement ≠ 0 → (t.told ev).downCount cfg = t.downCount cfg := by
      intro hne
      refine hother other fun heq => hne ?_
      rw [hname] at heq
      exact (some_inj.mp heq).symm
    obtain ⟨cfg, hcfg, hdec, hmem⟩ := h.mapped _ _ hname
    split
    · rename_i sm cfg' hsm hcfg'
      cases hcfg.symm.trans hcfg'
      have horder : name ∈ t.order := (t.mem_order name).mpr (by rw [hcfg]; rfl)
      obtain ⟨-, hchange, hsmall⟩ := hok name horder cfg hcfg hdec hmem
      have hcount := downCount_told hmem hchange
      rw [← ((h.right name) sm cfg hsm hcfg).1 hdec] at hcount
      have hle : sm.priority.toNat + cfg.trackPriorityDecrement.toNat * (t.told ev).downCount cfg ≤
          sm.priority.toNat + cfg.trackPriorityDecrement.toNat * cfg.interfaces.length :=
        Nat.add_le_add_left (Nat.mul_le_mul_left _ (downCount_le _ cfg)) _
      have hadjust := sm.effectivePriority_adjustPriority (hle.trans_lt (hsmall sm hsm))
      refine ⟨h.mapped, fun other => ?_⟩
      by_cases hne : other = name
      · subst hne
        intro sm' cfg' hsm' hc'
        cases hcfg.symm.trans hc'
        dsimp only at hsm' ⊢
        rw [update_self] at hsm' ⊢
        cases hsm'
        have hsame (m : SRGStateMachine) :
            (if ev.isDown then m.trackerPromote.1 else m).effectivePriority = m.effectivePriority ∧
              (if ev.isDown then m.trackerPromote.1 else m).priority = m.priority := by
          unfold trackerPromote
          repeat' split
          all_goals simp [transitionTo_fst]
        have hnew : (t.told ev).ifDownCount other = t.ifDownCount other := rfl
        rw [priority, (hsame _).1, (hsame _).2, hnew, ← hcount]
        exact ⟨fun _ => rfl, hadjust⟩
      · exact (h.right other).of_same (update_of_ne hne _ _) rfl
          (update_of_ne hne _ _) (hothers other hne)
    · rename_i hnot
      refine ⟨h.mapped, fun other => ?_⟩
      by_cases hne : other = name
      · subst hne
        intro sm _ hsm _
        exact (hnot sm cfg hsm hcfg).elim
      · exact (h.right other).of_same rfl rfl rfl (hothers other hne)

/-- The priorities are right as long as every event is a change that the map and the numbers
have room for. -/
theorem priority_exact (h : machine.Reach Careful t) : t.Exact := by
  have hinv : t.Inv := h.invariant Inv (fun _ => inv_of_initial) fun t ev t' ht hok hstep => by
    cases hstep
    exact ht.handleInterfaceEvent hok
  exact fun name sm cfg hsm hcfg => (hinv.right name sm cfg hsm hcfg).2

variable (interfaces : List String)

/-- Two groups of priority 100. The first has two interfaces, the second the interfaces given. -/
def twoGroups (decrement : UInt32) : Tracker :=
  buildInterfaceMap
    { cfg := fun name => if name = "a" then some ⟨["x", "y"], 10⟩
        else if name = "b" then some ⟨interfaces, decrement⟩ else none
      order := ["a", "b"]
      mem_order := fun name => by
        by_cases ha : name = "a" <;> by_cases hb : name = "b" <;> simp [ha, hb]
      ifResolver := fun name => if name = "x" then some 1 else if name = "y" then some 2
        else if name = "z" then some 3 else none
      srgs := fun name => some ⟨name, 100, false, "node", .init, 100, 0, .init⟩
      ifToSRG := fun _ => none
      ifDownCount := fun _ => 0
      down := fun _ => false }

theorem initial_twoGroups (decrement : UInt32) : (twoGroups interfaces decrement).Initial := by
  refine ⟨rfl, fun _ => rfl, fun name sm hsm => ?_, fun _ => rfl⟩
  cases hsm
  rfl

theorem priority_exact_down :
    ((twoGroups ["z"] 20).handleInterfaceEvent ⟨3, false, false⟩).Exact := by
  have hok : (twoGroups ["z"] 20).Careful ⟨3, false, false⟩ := by
    refine List.forall_mem_cons.mpr ⟨?_, List.forall_mem_singleton.mpr ?_⟩
    · rintro _ ⟨⟩
      decide +kernel
    · rintro _ ⟨⟩
      decide +kernel
  exact priority_exact (.step (.init (initial_twoGroups _ _)) hok rfl)

/-- The priority of a group after some events, and the one it should have. -/
def priorities (t : Tracker) (evs : List InterfaceStateEvent) (name : String) :
    Option (Int × Int) := do
  let t := evs.foldl handleInterfaceEvent t
  let sm ← t.srgs name
  return (sm.effectivePriority.toNat, t.priority (← t.cfg name) sm)

/-- An interface that goes down and is deleted counts twice; an interface that is told of as up
again hides another one that is down; an interface of two groups counts for one of them; and a
large decrement is taken for a negative number. -/
theorem priority_inexact :
    priorities (twoGroups ["z"] 10) [⟨1, false, false⟩, ⟨1, false, true⟩] "a" = some (80, 90) ∧
    priorities (twoGroups ["z"] 10) [⟨1, false, false⟩, ⟨2, true, false⟩] "a" = some (100, 90) ∧
    priorities (twoGroups ["x"] 10) [⟨1, false, false⟩] "a" = some (100, 90) ∧
    priorities (twoGroups ["z"] 4294967295) [⟨3, false, false⟩] "b" = some (101, 0) := by
  decide +kernel

end Tracker
end Osvbng.Ha

import Osvbng.Accounting.Session

/-!
# The records of a session

When the counters of a session's interface are zero at its binding and never
restart, and its updates are sent one after the other, the baseline of the
session stays zero and a record is the reading it is computed from. `Sound`
keeps every record on its way between the last one sent and the live counters.

`Life.records_steady` is the result: the counts sent never decrease, are never
below those acknowledged, and never exceed the traffic since binding.
-/

namespace Osvbng.Accounting
open Option List Lib Machine
namespace Life

def Quiet (l : Life) : Prop := l.started = [] ∧ l.ready = []
deriving Decidable

def Idle (l : Life) : Prop :=
  l.Quiet ∧ l.cached = false ∧ l.checkpoint = none ∧ l.writes = [] ∧ l.awaiting = [] ∧
    l.records = []

/-- The counters are zero when the session is bound, neither restart nor wrap
around while it is, and are read for both directions of a circuit; an update
starts when the record before it is sent; a record without a reading is made
only when the counts last acknowledged are those last sent; and the session is
known when it ends. -/
def Steady (l : Life) : Event → Prop
  | .count delta => ∀ f, (l.counters f).toNat + (delta f).toNat < 2 ^ 64
  | .vppRestart => l.bound = false
  | .active => l.bound = false → l.counters = .zero ∧ ∀ stats ∈ l.snapshot, stats = .zero
  | .tick upOK downOK => l.Quiet ∧ (l.accessType = .l2gw → upOK = downOK)
  | .compute i => l.started[i]? = some none → l.session.lastReported = l.lastSent
  | .release other => l.Quiet ∧ l.cached = true ∧ (l.accessType = .l2gw → other = none) ∧
      (l.stopReading other = none → l.session.lastReported = l.lastSent)
  | _ => True

instance (l : Life) (e : Event) : Decidable (l.Steady e) := by
  have : Decidable (∀ stats ∈ l.snapshot, stats = .zero) := Option.decidableForallMem l.snapshot
  rcases e <;> dsimp only [Steady] <;> infer_instance

def Fresh (l : Life) (values : Counters) : Prop :=
  l.lastSent.Le values ∧ values.Le l.counters ∧
    (l.accessType = .interface → ∀ stats ∈ l.snapshot, values.Le stats)

def Plain (s : AccountingSession) : Prop := s.currentBaseline = .zero ∧ s.priorDelta = .zero

structure Steadily (records : List Sent) : Prop where
  increasing : records.Pairwise fun a b => a.values.Le b.values
  acknowledged : ∀ r ∈ records, r.acknowledged.Le r.values
  traffic : ∀ r ∈ records, ∀ f, (r.values f).toNat ≤ r.traffic f

structure Sound (l : Life) : Prop where
  session : Plain l.session
  checkpoint : ∀ s ∈ l.checkpoint, Plain s
  writes : ∀ w ∈ l.writes, ∀ s ∈ w, Plain s
  records : Steadily l.records
  acknowledged : l.acknowledged.Le l.lastSent
  awaiting : ∀ values ∈ l.awaiting, values.Le l.lastSent
  unbound : l.bound = false → l.Idle
  traffic : l.bound = true → ∀ f, l.traffic f = (l.counters f).toNat
  lastSent : l.bound = true → l.Fresh l.lastSent
  snapshot : l.bound = true → ∀ stats ∈ l.snapshot, stats.Le l.counters
  started : ∀ reading ∈ l.started, ∀ stats ∈ reading, l.Fresh stats
  ready : ∀ out ∈ l.ready, l.Fresh out.values
  single : l.started.length + l.ready.length ≤ 1

/-! ## Single steps -/

theorem Plain.fresh : Plain .fresh := ⟨rfl, rfl⟩

theorem Plain.account {s : AccountingSession} (h : Plain s) (reading : Option Counters) :
    Plain (s.account reading).1 ∧ (s.account reading).2 = reading.getD s.lastReported := by
  cases reading with
  | none => exact ⟨h, rfl⟩
  | some stats =>
    have hregressed : ¬s.regressed stats := by
      rintro ⟨f, hf⟩
      rw [h.1, UInt64.lt_iff_toNat_lt] at hf
      exact absurd hf (Nat.not_lt_zero _)
    have happly : s.applyVPPCounters stats =
        (s, fun f => (stats f - s.currentBaseline f) + s.priorDelta f) := by
      simp only [AccountingSession.applyVPPCounters, if_neg hregressed]
    simp only [AccountingSession.account, happly]
    refine ⟨h, funext fun f => ?_⟩
    rw [h.1, h.2]
    simp [Counters.zero]

theorem Steadily.le_last {l : Life} (h : Steadily l.records) :
    ∀ r ∈ l.records, r.values.Le l.lastSent := by
  intro r hr
  rcases eq_nil_or_concat l.records with hnil | ⟨init, last, heq⟩
  · simp [hnil] at hr
  · have hlast : l.lastSent = last.values := by simp [lastSent, heq]
    have hpairwise := h.increasing
    rw [heq, concat_eq_append, pairwise_append] at hpairwise
    rw [heq, concat_eq_append, mem_append, mem_singleton] at hr
    rw [hlast]
    rcases hr with hr | rfl
    · exact hpairwise.2.2 r hr last mem_cons_self
    · exact .refl _

theorem Steadily.append {l : Life} (h : Steadily l.records) {values : Counters}
    (hlast : l.lastSent.Le values) (hacknowledged : l.acknowledged.Le l.lastSent)
    (htraffic : ∀ f, (values f).toNat ≤ l.traffic f) :
    Steadily (l.records ++ [⟨values, l.acknowledged, l.traffic⟩]) := by
  refine ⟨?_, fun r hr => ?_, fun r hr => ?_⟩
  · rw [pairwise_append]
    refine ⟨h.increasing, pairwise_singleton _ _, fun a ha b hb => ?_⟩
    rw [mem_singleton] at hb
    subst hb
    exact (h.le_last a ha).trans hlast
  · rcases mem_append.mp hr with hr | hr
    · exact h.acknowledged r hr
    · rw [mem_singleton] at hr
      subst hr
      exact hacknowledged.trans hlast
  · rcases mem_append.mp hr with hr | hr
    · exact h.traffic r hr
    · rw [mem_singleton] at hr
      subst hr
      exact htraffic

theorem Sound.of_initial {l : Life} (h : l.Initial) : l.Sound where
  session := h.session ▸ Plain.fresh
  checkpoint := by simp [h.checkpoint]
  writes := by simp [h.writes]
  records := by
    rw [h.records]
    exact ⟨.nil, by simp, by simp⟩
  acknowledged := h.acknowledged ▸ Counters.zero_le _
  awaiting := by simp [h.awaiting]
  unbound _ := ⟨⟨h.started, h.ready⟩, h.cached, h.checkpoint, h.writes, h.awaiting, h.records⟩
  traffic hbound := by simp [h.bound] at hbound
  lastSent hbound := by simp [h.bound] at hbound
  snapshot hbound := by simp [h.bound] at hbound
  started := by simp [h.started]
  ready := by simp [h.ready]
  single := by simp [h.started, h.ready]

variable {l : Life} (h : l.Sound) {l' : Life} {i : Nat} {upOK downOK : Bool} {stats : Counters}
include h

theorem Sound.bound_of_not_idle (hidle : ¬l.Idle) : l.bound = true := by
  by_contra hbound
  exact hidle (h.unbound (Bool.eq_false_iff.mpr hbound))

theorem Sound.bound_of_cached (hcached : l.cached = true) : l.bound = true := by
  refine h.bound_of_not_idle fun hidle => ?_
  rw [hidle.2.1] at hcached
  cases hcached

theorem Sound.count {delta : Counters} (hok : l.Steady (.count delta)) :
    Sound { l with
      counters f := l.counters f + delta f
      traffic f := l.traffic f + (delta f).toNat } := by
  have hsum f : (l.counters f + delta f).toNat = (l.counters f).toNat + (delta f).toNat := by
    rw [UInt64.toNat_add, Nat.mod_eq_of_lt (hok f)]
  have hgrow : l.counters.Le fun f => l.counters f + delta f := by
    intro f
    rw [UInt64.le_iff_toNat_le, hsum]
    exact Nat.le_add_right _ _
  have hfresh : ∀ values, l.Fresh values → Fresh { l with
      counters f := l.counters f + delta f
      traffic f := l.traffic f + (delta f).toNat } values :=
    fun values hv => ⟨hv.1, hv.2.1.trans hgrow, hv.2.2⟩
  exact { h with
    traffic hbound f := by rw [hsum, ← h.traffic hbound f]
    lastSent hbound := hfresh _ (h.lastSent hbound)
    snapshot hbound stats hstats := (h.snapshot hbound stats hstats).trans hgrow
    started reading hr stats hs := hfresh stats (h.started reading hr stats hs)
    ready out hout := hfresh _ (h.ready out hout) }

theorem Sound.vppRestart (hok : l.Steady .vppRestart) : Sound { l with counters := .zero } := by
  have hbound : l.bound = false := hok
  obtain ⟨⟨hstarted, hready⟩, -⟩ := h.unbound hbound
  exact { h with
    traffic htrue := by simp [hbound] at htrue
    lastSent htrue := by simp [hbound] at htrue
    snapshot htrue := by simp [hbound] at htrue
    started := by simp [hstarted]
    ready := by simp [hready] }

theorem Sound.refresh (ok : Bool) :
    Sound { l with snapshot := if ok then some l.counters else none } := by
  have hfresh : ∀ values, l.Fresh values →
      Fresh { l with snapshot := if ok then some l.counters else none } values := by
    intro values hv
    refine ⟨hv.1, hv.2.1, fun _ stats hstats => ?_⟩
    cases ok with
    | false => cases hstats
    | true =>
      cases hstats
      exact hv.2.1
  exact { h with
    lastSent hbound := hfresh _ (h.lastSent hbound)
    snapshot hbound stats hstats := by
      cases ok with
      | false => cases hstats
      | true =>
        cases hstats
        exact .refl _
    started reading hr stats hs := hfresh stats (h.started reading hr stats hs)
    ready out hout := hfresh _ (h.ready out hout) }

theorem Sound.append_write {w : Option AccountingSession} (hw : ∀ s ∈ w, Plain s) :
    ∀ w' ∈ l.writes ++ [w], ∀ s ∈ w', Plain s := by
  intro w' hw'
  rcases mem_append.mp hw' with hw' | hw'
  · exact h.writes w' hw'
  · rw [mem_singleton] at hw'
    subst hw'
    exact hw

theorem Sound.active (hok : l.Steady .active) : l.active.Sound := by
  have hwrites := h.append_write (w := some .fresh) (by simp [Plain.fresh])
  unfold Life.active
  split
  · exact h
  · cases hbound : l.bound with
    | true =>
      exact { h with
        session := Plain.fresh
        writes := hwrites
        unbound hfalse := by cases hfalse
        traffic _ := h.traffic hbound
        lastSent _ := h.lastSent hbound
        snapshot _ := h.snapshot hbound }
    | false =>
      obtain ⟨hcounters, hsnapshot⟩ := hok hbound
      obtain ⟨-, -, -, -, -, hrecords⟩ := h.unbound hbound
      have hlast : l.lastSent = .zero := by simp [Life.lastSent, hrecords]
      exact { h with
        session := Plain.fresh
        writes := hwrites
        unbound hfalse := by cases hfalse
        traffic _ f := by simp [hcounters, Counters.zero]
        lastSent _ := by
          refine ⟨.refl _, ?_, fun _ stats _ => ?_⟩
          · exact hlast ▸ Counters.zero_le _
          · exact hlast ▸ Counters.zero_le _
        snapshot _ stats hstats := hsnapshot stats hstats ▸ Counters.zero_le _ }

theorem Sound.restored : l.restored.Sound := by
  unfold Life.restored
  split
  · exact h
  · rename_i hbound
    have hbound : l.bound = true := by simpa using hbound
    split
    · exact { h with unbound hfalse := by simp [hbound] at hfalse }
    · exact { h with
        session := .fresh
        unbound hfalse := by simp [hbound] at hfalse }

theorem Sound.fresh_snapshot (hbound : l.bound = true) (htype : l.accessType = .interface)
    (hstats : l.snapshot = some stats) : l.Fresh stats := by
  refine ⟨(h.lastSent hbound).2.2 htype stats hstats, h.snapshot hbound stats hstats, ?_⟩
  intro _ stats' hstats'
  rw [hstats] at hstats'
  cases hstats'
  exact .refl _

theorem Sound.fresh_reading (hbound : l.bound = true) (hboth : l.accessType = .l2gw → upOK = downOK)
    (hstats : l.reading upOK downOK = some stats) : l.Fresh stats := by
  unfold reading at hstats
  cases htype : l.accessType with
  | interface =>
    rw [htype] at hstats
    exact h.fresh_snapshot hbound htype hstats
  | l2gw =>
    rw [htype] at hstats
    have heq := hboth htype
    subst heq
    cases upOK with
    | false => cases hstats
    | true =>
      have hcounters : stats = l.counters := by
        cases hstats
        funext f
        cases f <;> rfl
      subst hcounters
      refine ⟨(h.lastSent hbound).2.1, .refl _, fun hcontra => ?_⟩
      rw [htype] at hcontra
      cases hcontra

theorem Sound.tick (hok : l.Steady (.tick upOK downOK)) : (l.tick upOK downOK).Sound := by
  obtain ⟨⟨hstarted, hready⟩, hboth⟩ := hok
  unfold Life.tick
  split
  · rename_i hlive
    rw [Bool.and_eq_true] at hlive
    have hbound := h.bound_of_cached hlive.2
    have hfresh : ∀ r ∈ l.started ++ [l.reading upOK downOK], ∀ stats ∈ r, l.Fresh stats := by
      intro r hr stats hs
      rw [hstarted, nil_append, mem_singleton] at hr
      subst hr
      exact h.fresh_reading hbound hboth hs
    exact { h with
      unbound hfalse := by simp [hbound] at hfalse
      started := hfresh
      single := by simp [hstarted, hready] }
  · exact h

/-- What a plain session makes of a reading may be sent. -/
theorem Sound.fresh_account (hbound : l.bound = true) {stats : Option Counters}
    (hread : ∀ r ∈ stats, l.Fresh r)
    (hlast : stats = none → l.session.lastReported = l.lastSent) :
    l.Fresh (l.session.account stats).2 := by
  rw [(h.session.account stats).2]
  cases stats with
  | none =>
    rw [getD_none, hlast rfl]
    exact h.lastSent hbound
  | some r => exact hread r rfl

theorem Sound.append_ready {values : Counters} (hv : l.Fresh values) (stop : Bool) :
    ∀ out ∈ l.ready ++ [⟨values, stop⟩], l.Fresh out.values := by
  intro out hout
  rcases mem_append.mp hout with hout | hout
  · exact h.ready out hout
  · rw [mem_singleton] at hout
    subst hout
    exact hv

theorem Sound.release {other : Option Counters} (hok : l.Steady (.release other)) :
    (l.release other).Sound := by
  obtain ⟨⟨hstarted, hready⟩, hcached, hother, hlast⟩ := hok
  have hbound := h.bound_of_cached hcached
  have hread : ∀ r ∈ l.stopReading other, l.Fresh r := by
    intro r hr
    unfold stopReading at hr
    cases htype : l.accessType with
    | interface =>
      rw [htype] at hr
      exact h.fresh_snapshot hbound htype hr
    | l2gw =>
      rw [htype, hother htype] at hr
      cases hr
  have hfresh := h.append_ready (h.fresh_account hbound hread hlast) true
  unfold Life.release
  rw [hcached]
  exact { h with
    session := (h.session.account _).1
    writes := h.append_write (by simp)
    unbound hfalse := by simp [hbound] at hfalse
    ready := hfresh
    single := by simp [hstarted, hready] }

theorem Sound.compute (hok : l.Steady (.compute i)) (hs : l.compute i = some l') : l'.Sound := by
  obtain ⟨stats, hi, rfl⟩ := map_eq_some_iff.mp hs
  have hmem := mem_of_getElem? hi
  have hbound := h.bound_of_not_idle fun hidle => by simp [hidle.1.1] at hmem
  have hfresh := h.append_ready (h.fresh_account hbound (h.started stats hmem)
    fun hnone => hok (hnone ▸ hi)) false
  have hlt := (List.getElem?_eq_some_iff.mp hi).1
  have hsingle := h.single
  exact { h with
    session := (h.session.account _).1
    unbound hfalse := by simp [hbound] at hfalse
    started r hr := h.started r (mem_of_mem_eraseIdx hr)
    ready := hfresh
    single := by
      simp only [length_eraseIdx, hlt, if_true, length_append, length_singleton]
      omega }

theorem Sound.send (hs : l.send i = some l') : l'.Sound := by
  obtain ⟨out, hi, rfl⟩ := map_eq_some_iff.mp hs
  have hmem := mem_of_getElem? hi
  have hbound := h.bound_of_not_idle fun hidle => by simp [hidle.1.2] at hmem
  obtain ⟨hlast, hcounters, hsnapshot⟩ := h.ready out hmem
  have hlt := (List.getElem?_eq_some_iff.mp hi).1
  have hsingle := h.single
  have hstarted : l.started = [] := eq_nil_of_length_eq_zero (by omega)
  have hready : l.ready.eraseIdx i = [] := by
    refine eq_nil_of_length_eq_zero ?_
    rw [length_eraseIdx, if_pos hlt]
    omega
  have htraffic f : (out.values f).toNat ≤ l.traffic f := by
    rw [h.traffic hbound f]
    exact UInt64.le_iff_toNat_le.mp (hcounters f)
  have hsent : ∀ ready awaiting, Life.lastSent { l with
      ready := ready
      awaiting := awaiting
      records := l.records ++ [⟨out.values, l.acknowledged, l.traffic⟩] } = out.values := by
    simp [Life.lastSent]
  have hawaiting : ∀ values ∈ if out.stop then l.awaiting else l.awaiting ++ [out.values],
      values.Le out.values := by
    intro values hv
    have hv : values ∈ l.awaiting ++ [out.values] := by
      split at hv
      · exact mem_append_left _ hv
      · exact hv
    rcases mem_append.mp hv with hv | hv
    · exact (h.awaiting values hv).trans hlast
    · rw [mem_singleton.mp hv]
      exact .refl _
  exact { h with
    records := h.records.append hlast h.acknowledged htraffic
    acknowledged := by
      rw [hsent]
      exact h.acknowledged.trans hlast
    awaiting := by
      rw [hsent]
      exact hawaiting
    unbound hfalse := by simp [hbound] at hfalse
    lastSent _ := by
      rw [hsent]
      refine ⟨?_, hcounters, hsnapshot⟩
      rw [hsent]
      exact .refl _
    started := by simp [hstarted]
    ready := by simp [hready]
    single := by simp [hstarted, hready] }

theorem Sound.complete {ok : Bool} (hs : l.complete i ok = some l') : l'.Sound := by
  obtain ⟨values, hi, rfl⟩ := map_eq_some_iff.mp hs
  have hmem := mem_of_getElem? hi
  have hbound := h.bound_of_not_idle fun hidle => by simp [hidle.2.2.2.2.1] at hmem
  have hawaiting : ∀ v ∈ l.awaiting.eraseIdx i, v.Le l.lastSent :=
    fun v hv => h.awaiting v (mem_of_mem_eraseIdx hv)
  cases ok with
  | false =>
    exact { h with
      awaiting := hawaiting
      unbound hfalse := by simp [hbound] at hfalse }
  | true =>
    have hplain : Plain (l.session.advanceLastReported values) := h.session
    exact { h with
      session := hplain
      writes := h.append_write (by simp [hplain])
      acknowledged := h.awaiting values hmem
      awaiting := hawaiting
      unbound hfalse := by simp [hbound] at hfalse }

theorem Sound.persist (hs : l.persist i = some l') : l'.Sound := by
  obtain ⟨w, hi, rfl⟩ := map_eq_some_iff.mp hs
  have hmem := mem_of_getElem? hi
  have hbound := h.bound_of_not_idle fun hidle => by simp [hidle.2.2.2.1] at hmem
  exact { h with
    checkpoint := h.writes w hmem
    writes w' hw' := h.writes w' (mem_of_mem_eraseIdx hw')
    unbound hfalse := by simp [hbound] at hfalse }

theorem Sound.restart : l.restart.Sound := by
  have hsession : Plain (l.checkpoint.getD .fresh) := by
    cases hcheckpoint : l.checkpoint with
    | none => exact .fresh
    | some s => exact h.checkpoint s hcheckpoint
  exact { h with
    session := hsession
    writes := by simp [Life.restart]
    awaiting := by simp [Life.restart]
    unbound hbound := by
      obtain ⟨-, -, hcheckpoint, -, -, hrecords⟩ := h.unbound hbound
      exact ⟨⟨rfl, rfl⟩, by simp [Life.restart, hcheckpoint], hcheckpoint, rfl, rfl, hrecords⟩
    lastSent hbound := ⟨.refl _, (h.lastSent hbound).2.1, by simp [Life.restart]⟩
    snapshot := by simp [Life.restart]
    started := by simp [Life.restart]
    ready := by simp [Life.restart]
    single := by simp [Life.restart] }

theorem Sound.prune : l.prune.Sound := by
  unfold Life.prune
  split
  · rename_i hcached
    rw [Bool.and_eq_true] at hcached
    have hbound := h.bound_of_cached hcached.1
    exact { h with
      writes := h.append_write (by simp)
      unbound hfalse := by simp [hbound] at hfalse }
  · exact h

theorem Sound.next {e : Event} (hok : l.Steady e) (hs : l.next e = some l') : l'.Sound := by
  cases e with
  | count delta => exact some.inj hs ▸ h.count hok
  | vppRestart => exact some.inj hs ▸ h.vppRestart hok
  | refresh ok => exact some.inj hs ▸ h.refresh ok
  | active => exact some.inj hs ▸ h.active hok
  | restored => exact some.inj hs ▸ h.restored
  | release other => exact some.inj hs ▸ h.release hok
  | tick upOK downOK => exact some.inj hs ▸ h.tick hok
  | compute i => exact h.compute hok hs
  | send i => exact h.send hs
  | complete i ok => exact h.complete hs
  | persist i => exact h.persist hs
  | restart => exact some.inj hs ▸ h.restart
  | prune => exact some.inj hs ▸ h.prune

omit h

/-! ## Whole runs -/

theorem sound_of_reach (h : machine.Reach Steady l) : l.Sound :=
  h.invariant Sound (fun _ hinit => .of_initial hinit) fun _ _ _ hs hok hstep => hs.next hok hstep

/-- While the session is steady, its successive records never decrease, are
never below what was acknowledged when they were sent, and count nothing but
the traffic since it was bound. -/
theorem records_steady (h : machine.Reach Steady l) :
    (l.records.Pairwise fun a b => a.values.Le b.values) ∧
      ∀ r ∈ l.records, r.acknowledged.Le r.values ∧ ∀ f, (r.values f).toNat ≤ r.traffic f := by
  have hrecords := (sound_of_reach h).records
  exact ⟨hrecords.increasing, fun r hr => ⟨hrecords.acknowledged r hr, hrecords.traffic r hr⟩⟩

def unused : Life where
  accessType := .interface
  counters := .zero
  snapshot := none
  session := .fresh
  cached := false
  inBucket := false
  pendingSessionConfirm := false
  checkpoint := none
  writes := []
  started := []
  ready := []
  awaiting := []
  bound := false
  traffic := fun _ => 0
  acknowledged := .zero
  records := []

theorem unused_initial : unused.Initial :=
  ⟨rfl, rfl, rfl, rfl, rfl, rfl, rfl, rfl, rfl, rfl, rfl⟩

def interim : List Event := [.refresh true, .tick true true, .compute 0, .send 0, .complete 0 true]

/-- Two interim records with a restart of the control plane between them, and
the stop record. -/
theorem records_steady_restart :
    ∃ l : Life, l.records.length = 3 ∧ l.records.Pairwise fun a b => a.values.Le b.values := by
  obtain ⟨l, hreach, hlength⟩ : ∃ l : Life, machine.Reach Steady l ∧ l.records.length = 3 :=
    exists_reach_of_run unused_initial
      ([.active, .count fun _ => 500] ++ interim ++ [.persist 1, .restart, .restored] ++
        [.count fun _ => 10] ++ interim ++ [.release none, .send 0]) (by decide +kernel)
  exact ⟨l, hlength, (records_steady hreach).1⟩

/-- The first record holds what was counted before the session was bound; the
second, after a restart of the dataplane, is below the first, which was
acknowledged. -/
theorem records_drop_after_vppRestart :
    ∃ l : Life, machine.Reach (fun _ _ => True) l ∧ ∃ a b, l.records = [a, b] ∧
      (∃ f, a.traffic f < (a.values f).toNat) ∧ ¬a.values.Le b.values ∧
        ¬b.acknowledged.Le b.values := by
  obtain ⟨l, hreach, hlength, hdrop⟩ : ∃ l : Life, machine.Reach (fun _ _ => True) l ∧
      l.records.length = 2 ∧ ∀ p ∈ l.records.zip l.records.tail,
        (∃ f, p.1.traffic f < (p.1.values f).toNat) ∧ ¬p.1.values.Le p.2.values ∧
          ¬p.2.acknowledged.Le p.2.values :=
    exists_reach_of_run unused_initial
      ([.count fun _ => 500, .active] ++ interim ++ [.vppRestart, .count fun _ => 10] ++ interim)
      (by decide +kernel)
  obtain ⟨a, b, hrecords⟩ := length_eq_two.mp hlength
  rw [hrecords] at hdrop
  exact ⟨l, hreach, a, b, hrecords, hdrop (a, b) mem_cons_self⟩

end Life
end Osvbng.Accounting

import Osvbng.Ipoe.Acks

/-!
# The session counters

The limit of concurrent sessions looks at a counter for each place, which is raised when a
session becomes bound and lowered when one is released. `Component.balanced_iff` says which
events leave it the number of bound sessions: it is exact for a first bind and a full release
of a bound session, and for no other event that binds, frees or removes one. What an event has
to be like is said of the session it finds, as it is before (`Component.Counts`).
-/

namespace Osvbng.Ipoe
open Function Option List Lib Lib.NetIP Lib.Slice Effect Machine Subscriber Component Nat Held Bool
open Ne
open Session (TupleKey)

def Held.isBound (h : Held) : Bool := h.ipv4 ≠ [] && !h.closing

/-- An effect that changes the counter of a place by as much as the number of sessions that
are bound there. -/
def Effect.Fair (c : Component) : Effect → Prop
  | .quiet _ _ => True
  | .leased _ old new counted => counted + old.held.isBound.toNat = new.held.isBound.toNat
  | .removed _ old _ _ counted _ =>
    (old.held.isBound → counted = some old.tuple) ∧
      (¬ old.held.isBound → ∀ t ∈ counted, c.counters t = 0)
  | .restarted r => ∀ s ∈ c.opdb,
      (c.opdb.countP fun s' => s'.tuple = s.tuple ∧ isCounted r s') =
        c.opdb.countP fun s' => s'.tuple = s.tuple ∧ isKept r s' ∧ s'.ipv4 ≠ []

namespace Component

def bound (c : Component) (t : TupleKey) : Nat :=
  (c.objects.map (·.held)).countP fun h => h.tuple = t && h.isBound

def Balanced (c : Component) : Prop := ∀ t, c.counters t = c.bound t

variable {c c' : Component} {e : ComponentEvent} {i : Nat} {old new : Subscriber}

theorem bound_changed (h : c.Changed i old new c') (t : TupleKey) :
    c'.bound t + (if old.tuple = t then old.held.isBound.toNat else 0) =
      c.bound t + if old.tuple = t then new.held.isBound.toNat else 0 := by
  have hlen : i < (c.objects.map (·.held)).length := by
    simpa using (List.getElem?_eq_some_iff.mp h.found).1
  have hold : (c.objects.map (·.held))[i] = old.held := by
    simpa using congrArg _ (List.getElem?_eq_some_iff.mp h.found).2
  have hpos : (decide (old.tuple = t) && old.held.isBound) = true → 0 < c.bound t := fun hp =>
    countP_pos_iff.mpr ⟨_, getElem_mem hlen, by rw [hold]; exact hp⟩
  have htuple : new.held.tuple = old.tuple := h.tuple
  have hset : c'.bound t = c.bound t - (if decide (old.tuple = t) && old.held.isBound then 1 else 0)
      + if decide (old.tuple = t) && new.held.isBound then 1 else 0 := by
    unfold bound
    rw [h.objects, map_set, countP_set hlen, hold, htuple]
    rfl
  rw [hset]
  by_cases ht : old.tuple = t
  · cases hb : old.held.isBound <;> cases hb' : new.held.isBound <;> simp [ht, hb] at hpos ⊢ <;>
      omega
  · simp [ht]

theorem bound_quiet {made : Option (Nat × IfKey)}
    {named : Option (Nat × Bytes)} (h : c.Quiet made named c') (t : TupleKey) :
    c'.bound t = c.bound t := by
  obtain ⟨fresh, heq, hnew⟩ := h.held
  have hzero : (fresh.countP fun h => h.tuple = t && h.isBound) = 0 := by
    rw [countP_eq_zero]
    intro x hx
    simp [isBound, (hnew x hx).1]
  unfold bound
  rw [heq, countP_append, hzero, add_zero]

variable (r : Restart)

theorem bound_restart (t : TupleKey) : (c.restart r).bound t =
      c.opdb.countP fun s => s.tuple = t ∧ isKept r s ∧ s.ipv4 ≠ [] := by
  unfold bound restart
  rw [(foldl_restoreSession r c.opdb c.forget).1]
  change countP _ ([] ++ _) = _
  rw [nil_append, countP_map, countP_filter]
  congr 1
  funext s
  cases isKept r s <;> simp [isBound, held]

theorem counters_restart (t : TupleKey) :
    (c.restart r).counters t = c.opdb.countP fun s => s.tuple = t ∧ isCounted r s :=
  ((foldl_restoreSession r c.opdb c.forget).2 t).trans (zero_add _)

theorem balanced_restart : (c.restart r).Balanced ↔ (restarted r).Fair c := by
  constructor
  · intro hb s _
    rw [← counters_restart, ← bound_restart]
    exact hb s.tuple
  · intro hcounts t
    rw [counters_restart, bound_restart]
    by_cases hs : ∃ s ∈ c.opdb, s.tuple = t
    · obtain ⟨s, hs, rfl⟩ := hs
      exact hcounts s hs
    · rw [countP_eq_zero.mpr, countP_eq_zero.mpr]
      · intro s hs' hp
        exact hs ⟨s, hs', (of_decide_eq_true hp).1⟩
      · intro s hs' hp
        exact hs ⟨s, hs', (of_decide_eq_true hp).1⟩

theorem balanced_removed {ks : List Key} {counted : Option TupleKey} {freed : Bool}
    (hb : c.Balanced) (h : c.Removed i old new ks counted freed c') :
    c'.Balanced ↔ (removed i old new ks counted freed).Fair c := by
  have hgone : new.held.isBound = false := by simp [isBound, held, h.closing]
  have hbound := bound_changed h.toChanged
  unfold Balanced Fair
  simp only [hgone, toNat_false, ite_self, add_zero] at hbound
  simp only [h.counters]
  cases hold : old.held.isBound with
  | true =>
    have hown := hbound old.tuple
    rw [if_pos rfl, hold, toNat_true, ← hb] at hown
    refine ⟨fun hb' => ⟨fun _ => ?_, fun hnot => absurd rfl hnot⟩, fun hcounts t => ?_⟩
    · have hown' := hb' old.tuple
      cases counted with
      | none =>
        rw [elim_none] at hown'
        omega
      | some t =>
        by_cases ht : t = old.tuple
        · rw [ht]
        · rw [elim_some, update_of_ne (Ne.symm ht)] at hown'
          omega
    · rw [hcounts.1 rfl, elim_some, update_apply]
      split
      · rename_i ht
        rw [ht]
        omega
      · rename_i ht
        rw [hb, ← hbound t, if_neg (Ne.symm ht), add_zero]
  | false =>
    simp only [hold, toNat_false, ite_self, add_zero] at hbound
    refine ⟨fun hb' => ⟨fun h => absurd h (by decide), fun _ t ht => ?_⟩, fun hcounts t => ?_⟩
    · have hown := hb' t
      rw [ht, elim_some, update_self, hbound, ← hb] at hown
      omega
    · cases counted with
      | none => rw [elim_none, hb, hbound]
      | some t' =>
        rw [elim_some, update_apply, hbound, ← hb]
        split
        · rename_i ht
          rw [ht, hcounts.2 (by decide) t' rfl]
        · rfl

/-- The counters after an event are exact if and only if its effect counts right. -/
theorem balanced_step (hb : c.Balanced) (h : c.next e = some c') :
    c'.Balanced ↔ (c.effect e).Fair c := by
  have hdone := next_effect h
  generalize c.effect e = effect at hdone ⊢
  cases effect with
  | quiet made named =>
    refine iff_of_true (fun t => ?_) trivial
    rw [hdone.counters, bound_quiet hdone, hb]
  | leased i old new counted =>
    have hbound := bound_changed hdone.toChanged
    unfold Balanced
    rw [hdone.counters]
    constructor
    · intro hb'
      have hold := hb' old.tuple
      have hchange := hbound old.tuple
      rw [update_self, hb] at hold
      rw [if_pos rfl, if_pos rfl] at hchange
      unfold Fair
      omega
    · intro hcounts t
      have hchange := hbound t
      unfold Fair at hcounts
      rw [update_apply]
      split
      · rename_i ht
        rw [if_pos ht.symm, if_pos ht.symm, ht] at hchange
        rw [hb, ht]
        omega
      · rename_i ht
        rw [if_neg (symm ht), if_neg (symm ht)] at hchange
        rw [hb]
        omega
  | removed i old new ks counted freed => exact balanced_removed hb hdone
  | restarted r =>
    rw [show c' = c.restart r from hdone]
    exact balanced_restart r

/-! ## Events -/

/-- An Ack of a session: it is counted unless the state is bound. -/
def CountsAck (sess : Subscriber) : Prop :=
  if sess.closing then sess.state = .bound else sess.state = .bound ↔ sess.ipv4 ≠ []
deriving Decidable

/-- A release of a session that ends it: one is taken from the counter of the place `t`. -/
def CountsRelease (c : Component) (t : TupleKey) (sess : Subscriber) : Prop :=
  if sess.held.isBound then sess.tuple = t else c.counters t = 0
deriving Decidable

/-- An event that changes the counter of a place by as much as the number of sessions that are
bound there. -/
def Counts (c : Component) : ComponentEvent → Prop
  | .answer n _ (.ack _ _) => ∀ x ∈ c.exchanges[n]?, x.origin = .live →
      ∀ sess ∈ c.objects[x.sess]?, CountsAck sess
  | .serverResponse xid _ _ (.ack _ _) => ∀ i ∈ c.index (.xid xid),
      ∀ sess ∈ c.objects[i]?, CountsAck sess
  | .aaaResponse n false _ _ => ∀ i ∈ (c.aaa[n]?).bind (c.index <| .sessionID ·),
      ∀ sess ∈ c.objects[i]?, sess.held.isBound = false
  | .release t _ => ∀ i ∈ c.index (.sessions (c.makeSessionKeyV4 t)), ∀ sess ∈ c.objects[i]?,
      if c.unified t.svlan t.cvlan && sess.ipv6Bound then sess.held.isBound = false
      else c.CountsRelease t sess
  | .release6 t => ∀ i ∈ c.index (.sessions (c.makeSessionKeyV6 t)), ∀ sess ∈ c.objects[i]?,
      (c.unified t.svlan t.cvlan ∧ sess.ipv4 ≠ []) ∨ c.CountsRelease t sess
  | .terminate ev => ∀ i ∈ c.resolveTerminateTarget ev,
      ∀ sess ∈ c.objects[i]?, sess.held.isBound = false
  | .sweep n => ∀ x ∈ c.toDelete[n]?, ∀ sess ∈ c.objects[x.2]?, sess.held.isBound = false
  | .restart r => ∀ s ∈ c.opdb,
      (c.opdb.countP fun s' => s'.tuple = s.tuple ∧ isCounted r s') =
        c.opdb.countP fun s' => s'.tuple = s.tuple ∧ isKept r s' ∧ s'.ipv4 ≠ []
  | _ => True

instance (c : Component) : DecidablePred c.Counts := fun e => by
  unfold Counts
  split <;> infer_instance

theorem fair_found {o : Option Nat} {f : Nat → Subscriber → Effect} :
    (c.found o f).Fair c ↔ ∀ i ∈ o, ∀ sess ∈ c.objects[i]?, (f i sess).Fair c := by
  cases o with
  | none => simp [found, Fair]
  | some i =>
    cases hsess : c.objects[i]? with
    | none => simp [found, Fair, hsess]
    | some sess => simp [found, hsess]

theorem fair_acked {now : Nat} {ip : IP} {leaseTime : UInt32} (hip : ip ≠ []) :
    (acked now ip leaseTime i old).Fair c ↔ CountsAck old := by
  cases hclosing : old.closing <;> by_cases hstate : old.state = .bound <;>
    by_cases hipv4 : old.ipv4 = [] <;>
      simp [acked, Fair, CountsAck, isBound, held, Subscriber.handleAck, SessionState.handleAck,
        hip, hclosing, hstate, hipv4]

theorem fair_removed {ks : List Key} {freed : Bool} :
    (removed i old new ks none freed).Fair c ↔ old.held.isBound = false := by
  simp [Fair]

theorem fair_removed_some {ks : List Key} {freed : Bool} {t : TupleKey} :
    (removed i old new ks (some t) freed).Fair c ↔ c.CountsRelease t old := by
  cases hbound : old.held.isBound <;> simp [Fair, CountsRelease, hbound, @eq_comm _ t]

theorem fair_iff (h : c.next e = some c') : (c.effect e).Fair c ↔ c.Counts e := by
  cases e with
  | answer n now response =>
    obtain ⟨x, hx, h⟩ := bind_eq_some_iff.mp h
    obtain ⟨m, hm, h⟩ := bind_eq_some_iff.mp h
    obtain ⟨sess, hsess, h⟩ := bind_eq_some_iff.mp h
    have hfits := (ite_none_right_eq_some.mp h).1
    cases response with
    | ack ip leaseTime =>
      have hip : ip ≠ [] := by
        rintro rfl
        simp [Response.fits] at hfits
      simp only [effect, Counts, hx, mem_some_iff, forall_eq']
      split
      · rename_i hlive
        simp only [fair_found, mem_some_iff, forall_eq', fair_acked hip, hlive, forall_const]
      · rename_i hlive
        simp [Fair, hlive]
    | reply r =>
      simp only [effect, Counts, hx, iff_true]
      split
      · rw [fair_found]
        exact fun _ _ _ _ => zero_add _
      · trivial
    | other | failed =>
      simp only [effect, Counts, hx]
      rfl
  | serverResponse xid now isRelayed response =>
    cases response with
    | ack ip leaseTime =>
      obtain ⟨i, hi, h⟩ := bind_eq_some_iff.mp h
      obtain ⟨sess, hsess, h⟩ := bind_eq_some_iff.mp h
      have hip : ip ≠ [] := by
        rintro rfl
        simp at h
      rw [effect, fair_found]
      simp only [fair_acked hip, Counts]
    | reply | other | failed => rfl
  | aaaResponse n allowed isVRFResolved isSetUp =>
    cases allowed with
    | true => rfl
    | false =>
      rw [effect, fair_found]
      simp only [fair_removed, Counts]
  | release t ciaddr =>
    rw [effect, fair_found]
    refine forall₄_congr fun i hi sess hsess => ?_
    cases hkept : c.unified t.svlan t.cvlan && sess.ipv6Bound
    · simp [released, SessionState.handleRelease, hkept, fair_removed_some]
    · simp [released, SessionState.handleRelease, hkept, Fair, isBound, held, Subscriber.release]
  | release6 t =>
    rw [effect, fair_found]
    refine forall₄_congr fun i hi sess hsess => ?_
    by_cases hkept : c.unified t.svlan t.cvlan = true ∧ sess.ipv4 ≠ []
    · simp [released, SessionState.handleDHCPv6Release, hkept, Fair, isBound, held,
        Subscriber.release]
    · have hgone : (c.unified t.svlan t.cvlan && decide (sess.ipv4 ≠ [])) = false := by
        simpa using hkept
      rw [or_iff_right hkept]
      simp only [released, SessionState.handleDHCPv6Release, hgone, Bool.not_false, if_true,
        fair_removed_some]
  | terminate ev =>
    rw [effect, fair_found]
    simp only [fair_removed, Counts]
  | sweep n =>
    simp only [effect, Counts]
    cases hn : c.toDelete[n]? with
    | none => simp [Fair]
    | some x => simp [fair_found, fair_removed]
  | vpp n result =>
    simp only [Counts, iff_true]
    unfold effect
    repeat' split
    all_goals trivial
  | _ => rfl

/-- As long as all events count right, the counters are exact, and the first one that does
not count right makes them wrong. -/
theorem balanced_iff (h : machine.Reach Counts c) :
    c.Balanced ∧ ∀ e c', c.next e = some c' → (c'.Balanced ↔ c.Counts e) := by
  have hb : c.Balanced := by
    apply h.invariant Balanced
    · intro c hinit t
      rw [hinit.counters t, bound, hinit.objects]
      rfl
    · intro c e c' hb hcounts hstep
      exact (balanced_step hb hstep).mpr ((fair_iff hstep).mpr hcounts)
  exact ⟨hb, fun e c' hstep => (balanced_step hb hstep).trans (fair_iff hstep)⟩

/-! ## Runs -/

def bindUp : List ComponentEvent := setUp ++ [.request (policy 2) client, ack]

theorem balanced_iff_bindUp : ∃ c, machine.Reach Counts c ∧
    c.counters client.tuple = 1 ∧ c.bound client.tuple = 1 := by
  obtain ⟨c, hreach, hone⟩ : ∃ c, machine.Reach Counts c ∧
      c.counters client.tuple = 1 :=
    exists_reach_of_run (initial_empty true) bindUp (by decide +kernel)
  refine ⟨c, hreach, hone, ?_⟩
  rw [← (balanced_iff hreach).1 client.tuple, hone]

/-- A renewal, a terminate, a clean-up, a release of one family of two, and a restart after
which the dataplane does not take the session back. -/
def miscounts : List (List ComponentEvent) :=
  [[.request (policy 3) client, ack], [.terminate ⟨some client.tuple, [], [], [], [], []⟩],
    [.scan 10000000000000 ⟨none, client.tuple⟩, .sweep 0],
    [.solicit (policy 3) client, .answer 0 100 (.reply ⟨some ([32], 3600), none⟩),
      .release client.tuple [10, 0, 0, 5]],
    [.persist 0, .restart ⟨100, fun _ => none⟩]]

theorem unbalanced : (miscounts.map (bindUp ++ ·)).Forall fun es =>
    ∃ c, run next (fun _ _ => True) (empty true) es = some c ∧
      machine.Reach (fun _ _ => True) c ∧ c.counters client.tuple ≠ c.bound client.tuple :=
  forall_run (initial_empty true) (by decide +kernel)

end Component
end Osvbng.Ipoe

import Osvbng.Ha.Pair

/-!
# The election converges

Two nodes that exchange heartbeats and nothing else agree on who is active after
three complete rounds, from any states of the two machines, with any heartbeats
on their way and in their handlers.

The argument goes round by round, and for the node that outranks the other and
the one that does not.

* After the first round the heartbeats of before are gone, each node knows the
  other and has left the two states in which it waits for a peer (`Contact`).
* After the second round the higher node is active for good, or never will be.
* In the third round the lower node hears the outcome and yields (`Outcome`).

`election_converges` is the result.
-/

namespace Osvbng.Ha
open Option List Lib SRGStateMachine Handling Nat Machine Side

def SRGState.Met (s : SRGState) : Prop := s ≠ .waiting ∧ s ≠ .activeSolo

/-- What a handler has seen of the state when it is at a stage. -/
def Stage.Met : Stage → SRGState → Prop
  | .checkWaiting, _ => True
  | .discover, _ => True
  | .checkActiveSolo, s => s ≠ .waiting
  | .checkReady, s => s.Met
  | .elect, s => s.Met
  | .update, s => s.Met

/-- The stages of a handler that does not discover the peer. -/
def Stage.Steady (s : Stage) : Prop := s = .checkWaiting ∨ s = .checkActiveSolo ∨ s = .update

namespace SRGStateMachine
variable {sm : SRGStateMachine} {p : UInt32} {id : String} {s : SRGState}

/-! ## A heartbeat in the steady state -/

theorem updated_of_outranks (h : Outranks sm.effectivePriority sm.localNodeID p id) :
    sm.updated p id s = if sm.preempt ∧ sm.state = .standby then .active else sm.state := by
  unfold updated
  by_cases hpromote : sm.preempt = true ∧ sm.state = .standby
  · rw [if_pos ⟨hpromote.1, hpromote.2, h⟩, if_pos hpromote]
  · rw [if_neg (fun hall => hpromote ⟨hall.1, hall.2.1⟩), if_neg (fun hall => hall.2.2 h),
      if_neg hpromote]

theorem updated_of_not_outranks (h : ¬ Outranks sm.effectivePriority sm.localNodeID p id) :
    sm.updated p id s = if sm.state = .active ∧ s = .active then .standby else sm.state := by
  unfold updated
  rw [if_neg (fun hall => h hall.2.2)]
  by_cases hyield : sm.state = .active ∧ s = .active
  · rw [if_pos ⟨hyield.1, hyield.2, h⟩, if_pos hyield]
  · rw [if_neg (fun hall => hyield ⟨hall.1, hall.2.1⟩), if_neg hyield]

end SRGStateMachine

namespace Handling
variable {h : Handling} {sm : SRGStateMachine} {h' : Handling}

theorem sameNode_advance : sm.SameNode (h.advance sm).1 := by
  unfold advance
  split
  · exact ⟨rfl, rfl, rfl⟩
  · exact ⟨rfl, rfl, rfl⟩
  · rw [peerDiscovered_fst]
    exact ⟨rfl, rfl, rfl⟩
  · exact ⟨rfl, rfl, rfl⟩
  · rw [elect_fst]
    exact ⟨rfl, rfl, rfl⟩
  · rw [peerHeartbeatUpdate_fst]
    exact ⟨rfl, rfl, rfl⟩

theorem advance_state_of_wait {s : SRGState} (hs : s = .waiting ∨ s = .activeSolo)
    (hstate : (h.advance sm).1.state = s) : sm.state = s := by
  unfold advance at hstate
  split at hstate
  · exact hstate
  · exact hstate
  · rw [peerDiscovered_fst] at hstate
    split at hstate
    · rcases hs with rfl | rfl <;> cases hstate
    · exact hstate
  · exact hstate
  · rw [elect_fst] at hstate
    split at hstate
    · split at hstate <;> rcases hs with rfl | rfl <;> cases hstate
    · exact hstate
  · rw [peerHeartbeatUpdate_fst] at hstate
    dsimp only [updated] at hstate
    split at hstate
    · rcases hs with rfl | rfl <;> cases hstate
    · split at hstate
      · rcases hs with rfl | rfl <;> cases hstate
      · exact hstate

theorem met_advance (hmet : sm.state.Met) : (h.advance sm).1.state.Met :=
  ⟨fun hw => hmet.1 (advance_state_of_wait (.inl rfl) hw),
    fun hs => hmet.2 (advance_state_of_wait (.inr rfl) hs)⟩

theorem stageMet_advance {stage : Stage} (hmet : stage.Met sm.state) :
    stage.Met (h.advance sm).1.state := by
  cases stage with
  | checkWaiting | discover => trivial
  | checkActiveSolo => exact fun hw => hmet (advance_state_of_wait (.inl rfl) hw)
  | checkReady | elect | update => exact met_advance hmet

theorem stageMet_next (hmet : h.stage.Met sm.state)
    (hnext : (h.advance sm).2 = some h') : h'.stage.Met (h.advance sm).1.state := by
  unfold advance at hnext ⊢
  cases hstage : h.stage with
  | checkWaiting =>
    rw [hstage] at hnext
    cases hnext
    split
    · trivial
    · assumption
  | checkActiveSolo =>
    rw [hstage] at hnext hmet
    cases hnext
    split
    · trivial
    · rename_i hsolo
      exact ⟨hmet, hsolo⟩
  | discover =>
    rw [hstage] at hnext
    cases hnext
    rw [peerDiscovered_fst]
    dsimp only
    split
    · exact ⟨by decide, by decide⟩
    · rename_i hother
      exact ⟨fun hw => hother (.inl hw), fun hs => hother (.inr (.inl hs))⟩
  | checkReady =>
    rw [hstage] at hnext hmet
    dsimp only at hnext ⊢
    split at hnext
    · cases hnext
      exact hmet
    · cases hnext
  | elect | update =>
    rw [hstage] at hnext
    cases hnext

theorem met_of_done (hmet : h.stage.Met sm.state) (hdone : (h.advance sm).2 = none) :
    (h.advance sm).1.state.Met := by
  apply met_advance
  unfold advance at hdone
  cases hstage : h.stage with
  | checkWaiting | checkActiveSolo | discover => simp [hstage] at hdone
  | checkReady | elect | update =>
    rw [hstage] at hmet
    exact hmet

theorem steady_next (hmet : sm.state.Met) (hsteady : h.stage.Steady)
    (hnext : (h.advance sm).2 = some h') : h'.stage.Steady := by
  unfold advance at hnext
  rcases hsteady with hstage | hstage | hstage <;> rw [hstage] at hnext <;> cases hnext
  · rw [if_neg hmet.1]
    exact .inr (.inl rfl)
  · rw [if_neg hmet.2]
    exact .inr (.inr rfl)

theorem update_of_steady_done (hsteady : h.stage.Steady) (hdone : (h.advance sm).2 = none) :
    h.stage = .update := by
  unfold advance at hdone
  rcases hsteady with hstage | hstage | hstage
  · simp [hstage] at hdone
  · simp [hstage] at hdone
  · exact hstage

theorem advance_update (hstage : h.stage = .update) :
    h.advance sm =
      ({ sm with
          peerPriority := h.msg.priority
          peerState := h.msg.state
          state := sm.updated h.msg.priority h.msg.nodeID h.msg.state }, none) := by
  unfold advance
  rw [hstage]
  rw [peerHeartbeatUpdate_fst]

theorem advance_of_steady (hsteady : h.stage.Steady) :
    (h.advance sm).1.state = sm.state ∨ h.stage = .update := by
  unfold advance
  rcases hsteady with hstage | hstage | hstage
  · exact .inl (by rw [hstage])
  · exact .inl (by rw [hstage])
  · exact .inr hstage

end Handling

namespace Pair
variable {p : Pair} {n k : Side} {i : Nat} {h : Handling} {p' : Pair} {e : Event}

def Wins (p : Pair) (n : Side) : Prop :=
  Outranks (p.srg n).effectivePriority (p.srg n).localNodeID
    (p.srg n.other).effectivePriority (p.srg n.other).localNodeID
deriving Decidable

theorem wins_other (hdistinct : (p.srg n).localNodeID ≠ (p.srg n.other).localNodeID) :
    p.Wins n.other ↔ ¬ p.Wins n := by
  unfold Wins
  rw [other_other]
  exact outranks_iff_not (Ne.symm hdistinct)

def SameNodes (p p' : Pair) : Prop := ∀ n, (p.srg n).SameNode (p'.srg n)

theorem SameNodes.wins_iff (hsame : p.SameNodes p') : p'.Wins n ↔ p.Wins n := by
  unfold Wins
  rw [(hsame n).effectivePriority, (hsame n).localNodeID, (hsame n.other).effectivePriority,
    (hsame n.other).localNodeID]

theorem sameNodes_of_eq (h : ∀ n, p'.srg n = p.srg n) : p.SameNodes p' := by
  intro n
  rw [h n]
  exact ⟨rfl, rfl, rfl⟩

theorem sameNodes_advance : p.SameNodes (p.advance n i h) := by
  intro k
  by_cases hk : k = n
  · subst hk
    rw [srg_advance_self]
    exact sameNode_advance
  · rw [srg_advance_of_ne hk]
    exact ⟨rfl, rfl, rfl⟩

/-! ## Delivery -/

structure Delivery (p : Pair) : Prop extends p.Named where
  fresh : ∀ n, ∀ m ∈ p.pending n, m.built ≠ 0 → m.priority = (p.srg n.other).effectivePriority
  built_ge : ∀ n, ∀ m ∈ p.pending n, p.rounds ≤ m.built
  built_le : ∀ n, ∀ m ∈ p.pending n, m.built ≤ p.rounds + 1
  heard_ge : ∀ n, p.rounds ≤ p.heard n
  heard_le : ∀ n, p.heard n ≤ p.rounds + 1

theorem Delivery.init (h : p.Initial) : p.Delivery where
  toNamed := h.toNamed
  fresh n m hm hbuilt := absurd (h.built n m hm) hbuilt
  built_ge n m _ := by
    rw [h.rounds]
    exact zero_le _
  built_le n m hm := by
    rw [h.built n m hm]
    exact zero_le _
  heard_ge n := by
    rw [h.rounds]
    exact zero_le _
  heard_le n := by
    rw [h.heard n]
    exact zero_le _

variable (hd : p.Delivery)
include hd

/-- Every heartbeat on its way was on its way before, or is the one its sender builds now. -/
theorem Delivery.of_messages (hsame : p.SameNodes p') (hpending : ∀ k, ∀ m ∈ p'.pending k,
      m ∈ p.pending k ∨ m = p.buildHeartbeatMessage k.other) (hrounds : p'.rounds = p.rounds)
    (hheard : ∀ k, p'.heard k = p.heard k ∨
      ∃ m ∈ p.pending k, p'.heard k = max (p.heard k) m.built) : p'.Delivery where
  nodeID_ne k := by
    rw [(hsame k).localNodeID]
    exact hd.nodeID_ne k
  distinct k := by
    rw [(hsame k).localNodeID, (hsame k.other).localNodeID]
    exact hd.distinct k
  sender k m hm := by
    rw [(hsame k.other).localNodeID]
    rcases hpending k m hm with hold | rfl
    · exact hd.sender k m hold
    · rfl
  fresh k m hm hbuilt := by
    rw [(hsame k.other).effectivePriority]
    rcases hpending k m hm with hold | rfl
    · exact hd.fresh k m hold hbuilt
    · rfl
  built_ge k m hm := by
    rw [hrounds]
    rcases hpending k m hm with hold | rfl
    · exact hd.built_ge k m hold
    · exact le_succ _
  built_le k m hm := by
    rw [hrounds]
    rcases hpending k m hm with hold | rfl
    · exact hd.built_le k m hold
    · exact le_refl _
  heard_ge k := by
    have hge := hd.heard_ge k
    rcases hheard k with heq | ⟨m, _, heq⟩ <;> omega
  heard_le k := by
    have hle := hd.heard_le k
    rcases hheard k with heq | ⟨m, hm, heq⟩
    · omega
    · have hbuilt := hd.built_le k m hm
      omega

theorem Delivery.completeRound (hcomplete : p.RoundComplete) :
    Delivery { p with rounds := p.rounds + 1 } where
  toNamed := { hd.toNamed with }
  fresh := hd.fresh
  built_ge k m hm := (hcomplete k).1 m hm
  built_le k m hm := le_succ_of_le (hd.built_le k m hm)
  heard_ge k := (hcomplete k).2
  heard_le k := le_succ_of_le (hd.heard_le k)

theorem Delivery.advance (hh : (p.node n).handling[i]? = some h) : (p.advance n i h).Delivery := by
  apply hd.of_messages sameNodes_advance (fun k m hm => .inl (mem_pending_advance hh hm))
    rounds_advance
  intro k
  rcases heard_advance p n k i h with heq | ⟨rfl, -, heq⟩
  · exact .inl heq
  · exact .inr ⟨h.msg, mem_pending_of_handling hh, heq⟩

omit hd

/-! ## Contact -/

structure Contact (p : Pair) : Prop where
  contacted : ∀ n, ∀ h ∈ (p.node n).handling, h.msg.built ≠ 0 → (p.node n).peerNodeID ≠ ""
  known : ∀ n, p.heard n ≠ 0 → (p.node n).peerNodeID ≠ ""
  met : ∀ n, p.heard n ≠ 0 → (p.state n).Met
  stage : ∀ n, ∀ h ∈ (p.node n).handling, h.msg.built ≠ 0 → h.stage.Met (p.state n)
  steady : ∀ n, ∀ h ∈ (p.node n).handling, 2 ≤ h.msg.built → h.stage.Steady

theorem Contact.init (h : p.Initial) : p.Contact := by
  have hbuilt n : ∀ handler ∈ (p.node n).handling, handler.msg.built = 0 :=
    fun handler hh => h.built n _ (mem_append_right _ (mem_map_of_mem hh))
  constructor
  · intro n handler hh hne
    exact absurd (hbuilt n handler hh) hne
  · intro n hne
    exact absurd (h.heard n) hne
  · intro n hne
    exact absurd (h.heard n) hne
  · intro n handler hh hne
    exact absurd (hbuilt n handler hh) hne
  · intro n handler hh hle
    rw [hbuilt n handler hh] at hle
    exact absurd hle (by decide)

theorem Contact.receive (hd : p.Delivery) (hc : p.Contact) {msg : Heartbeat}
    (hmsg : (p.inFlight n)[i]? = some msg) : (p.receive n i msg).Contact := by
  have hpending : msg ∈ p.pending n := mem_append_left _ (mem_of_getElem? hmsg)
  have hnodeID : msg.nodeID ≠ "" := by
    rw [hd.sender n msg hpending]
    exact hd.nodeID_ne n.other
  constructor
  · intro k handler hh hbuilt
    rw [peerNodeID_receive]
    split
    · exact hnodeID
    · rcases mem_handling_receive hh with hold | ⟨rfl, -⟩
      · exact hc.contacted k handler hold hbuilt
      · contradiction
  · intro k hheard
    rw [peerNodeID_receive]
    split
    · exact hnodeID
    · exact hc.known k hheard
  · intro k hheard
    rw [state_receive]
    exact hc.met k hheard
  · intro k handler hh hbuilt
    rw [state_receive]
    rcases mem_handling_receive hh with hold | ⟨rfl, rfl⟩
    · exact hc.stage k handler hold hbuilt
    · unfold Handling.start
      split <;> trivial
  · intro k handler hh hbuilt
    rcases mem_handling_receive hh with hold | ⟨rfl, rfl⟩
    · exact hc.steady k handler hold hbuilt
    · -- a heartbeat of the second round finds the peer known
      have hle := hd.built_le k msg hpending
      have hge := hd.heard_ge k
      have hknown := hc.known k (by unfold Handling.start at hbuilt; dsimp only at hbuilt; omega)
      unfold Handling.start
      rw [if_neg hknown]
      exact .inl rfl

theorem Contact.advance (hd : p.Delivery) (hc : p.Contact)
    (hh : (p.node n).handling[i]? = some h) : (p.advance n i h).Contact := by
  have hmem := mem_of_getElem? hh
  constructor
  · intro k handler hhandler hbuilt
    rw [peerNodeID_advance]
    rcases mem_handling_advance hhandler with hold | ⟨rfl, hnext⟩
    · exact hc.contacted k handler hold hbuilt
    · rw [msg_next hnext] at hbuilt
      exact hc.contacted k h hmem hbuilt
  · intro k hheard
    rw [peerNodeID_advance]
    rcases heard_advance p n k i h with heq | ⟨rfl, -, heq⟩
    · rw [heq] at hheard
      exact hc.known k hheard
    · by_cases hbuilt : h.msg.built = 0
      · rw [heq, hbuilt, max_zero] at hheard
        exact hc.known k hheard
      · exact hc.contacted k h hmem hbuilt
  · intro k hheard
    by_cases hk : k = n
    · subst hk
      rw [state_advance_self]
      rcases heard_advance p k k i h with heq | ⟨-, hdone, heq⟩
      · rw [heq] at hheard
        exact met_advance (hc.met k hheard)
      · by_cases hbuilt : h.msg.built = 0
        · rw [heq, hbuilt, max_zero] at hheard
          exact met_advance (hc.met k hheard)
        · exact met_of_done (hc.stage k h hmem hbuilt) hdone
    · rw [state_advance_of_ne hk]
      rcases heard_advance p n k i h with heq | ⟨rfl, -, -⟩
      · rw [heq] at hheard
        exact hc.met k hheard
      · exact absurd rfl hk
  · intro k handler hhandler hbuilt
    by_cases hk : k = n
    · subst hk
      rw [state_advance_self]
      rcases mem_handling_advance hhandler with hold | ⟨-, hnext⟩
      · exact stageMet_advance (hc.stage k handler hold hbuilt)
      · rw [msg_next hnext] at hbuilt
        exact stageMet_next (hc.stage k h hmem hbuilt) hnext
    · rw [state_advance_of_ne hk]
      rcases mem_handling_advance hhandler with hold | ⟨rfl, -⟩
      · exact hc.stage k handler hold hbuilt
      · exact absurd rfl hk
  · intro k handler hhandler hbuilt
    rcases mem_handling_advance hhandler with hold | ⟨rfl, hnext⟩
    · exact hc.steady k handler hold hbuilt
    · rw [msg_next hnext] at hbuilt
      have hle := hd.built_le k h.msg (mem_pending_of_handling hh)
      have hge := hd.heard_ge k
      exact steady_next (hc.met k (by omega)) (hc.steady k h hmem hbuilt) hnext

/-! ## Outcome -/

structure Outcome (p : Pair) : Prop where
  /-- The higher node has taken its chance. -/
  settled : ∀ n, p.Wins n → 2 ≤ p.heard n →
    (p.srg n).peerPriority = (p.srg n.other).effectivePriority ∧
      (p.state n = .standby → (p.srg n).preempt = false)
  /-- A heartbeat that says the higher node is active tells the truth. -/
  claim : ∀ n, p.Wins n.other → ∀ m ∈ p.pending n, 2 ≤ m.built → m.state = .active →
    p.state n.other = .active
  exact : ∀ n, p.Wins n.other → ∀ m ∈ p.pending n, 3 ≤ m.built → m.state = p.state n.other
  /-- The lower node has heard. -/
  yielded : ∀ n, ¬ p.Wins n → 3 ≤ p.heard n → p.state n.other = .active → p.state n ≠ .active

theorem Outcome.init (h : p.Initial) : p.Outcome := by
  constructor
  · intro n _ hheard
    rw [h.heard n] at hheard
    exact absurd hheard (by decide)
  · intro n _ m hm hbuilt
    rw [h.built n m hm] at hbuilt
    exact absurd hbuilt (by decide)
  · intro n _ m hm hbuilt
    rw [h.built n m hm] at hbuilt
    exact absurd hbuilt (by decide)
  · intro n _ hheard
    rw [h.heard n] at hheard
    exact absurd hheard (by decide)

theorem Outcome.of_messages (ho : p.Outcome) (hsrg : ∀ k, p'.srg k = p.srg k)
    (hpending : ∀ k, ∀ m ∈ p'.pending k, m ∈ p.pending k ∨ m = p.buildHeartbeatMessage k.other)
    (hheard : p'.heard = p.heard) : p'.Outcome := by
  have hstate k : p'.state k = p.state k := congrArg SRGStateMachine.state (hsrg k)
  have hwins k : p'.Wins k ↔ p.Wins k := (sameNodes_of_eq hsrg).wins_iff
  constructor
  · intro k hk hle
    rw [hwins] at hk
    rw [hheard] at hle
    rw [hsrg, hsrg, hstate]
    exact ho.settled k hk hle
  · intro k hk m hm hbuilt hactive
    rw [hwins] at hk
    rw [hstate]
    rcases hpending k m hm with hold | rfl
    · exact ho.claim k hk m hold hbuilt hactive
    · exact hactive
  · intro k hk m hm hbuilt
    rw [hwins] at hk
    rw [hstate]
    rcases hpending k m hm with hold | rfl
    · exact ho.exact k hk m hold hbuilt
    · rfl
  · intro k hk hle hactive
    rw [hwins] at hk
    rw [hheard] at hle
    rw [hstate] at hactive ⊢
    exact ho.yielded k hk hle hactive

section Advance
variable (hd : p.Delivery) (hc : p.Contact) (ho : p.Outcome) (hh : (p.node n).handling[i]? = some h)

include hd hh in
theorem outranks_iff_wins (hrounds : 1 ≤ p.rounds) :
    Outranks (p.srg n).effectivePriority (p.srg n).localNodeID h.msg.priority h.msg.nodeID ↔
      p.Wins n := by
  have hpending := mem_pending_of_handling hh
  have hge := hd.built_ge n h.msg hpending
  rw [hd.fresh n h.msg hpending (by omega), hd.sender n h.msg hpending]
  rfl

include hd hh in
theorem active_of_wins (hwins : p.Wins n) (hrounds : 1 ≤ p.rounds)
    (hactive : p.state n = .active) : (p.advance n i h).state n = .active := by
  rw [state_advance_self]
  apply active_advance _ hactive
  intro hyields
  exact hyields.2.2.2 ((outranks_iff_wins hd hh hrounds).mpr hwins)

include hd hc hh in
theorem steady_handling (hrounds : 2 ≤ p.rounds) : h.stage.Steady :=
  hc.steady n h (mem_of_getElem? hh)
    (le_trans hrounds (hd.built_ge n h.msg (mem_pending_of_handling hh)))

include hd hc ho hh in
theorem state_advance_of_wins (hwins : p.Wins n) (hrounds : 2 ≤ p.rounds) :
    (p.advance n i h).state n = p.state n := by
  rw [state_advance_self]
  rcases advance_of_steady (steady_handling hd hc hh hrounds) with hsame | hupdate
  · exact hsame
  · rw [advance_update hupdate]
    rw [updated_of_outranks ((outranks_iff_wins hd hh (le_of_succ_le hrounds)).mpr hwins)]
    have hsettled := (ho.settled n hwins (le_trans hrounds (hd.heard_ge n))).2
    split
    · rename_i hpromote
      rw [hsettled hpromote.2] at hpromote
      exact absurd hpromote.1 (by decide)
    · rfl

include hd hc hh in
theorem not_active_advance (hlower : ¬ p.Wins n) (hrounds : 2 ≤ p.rounds)
    (hactive : p.state n ≠ .active) : (p.advance n i h).state n ≠ .active := by
  rw [state_advance_self]
  rcases advance_of_steady (steady_handling hd hc hh hrounds) with hsame | hupdate
  · rw [hsame]
    exact hactive
  · rw [advance_update hupdate]
    dsimp only
    rw [updated_of_not_outranks (mt (outranks_iff_wins hd hh (le_of_succ_le hrounds)).mp hlower)]
    split
    · decide
    · exact hactive

include hd hc ho hh in
theorem settled_advance (hwins : p.Wins n) (hheard : 2 ≤ (p.advance n i h).heard n) :
    ((p.advance n i h).srg n).peerPriority = (p.srg n.other).effectivePriority ∧
      ((p.advance n i h).state n = .standby → (p.srg n).preempt = false) := by
  have hmem := mem_of_getElem? hh
  have hpending := mem_pending_of_handling hh
  rw [state_advance_self, srg_advance_self]
  have hbuilt_le := hd.built_le n h.msg hpending
  have hheard_le := hd.heard_le n
  have hrounds : 1 ≤ p.rounds := by
    rcases heard_advance p n n i h with heq | ⟨-, -, heq⟩ <;> omega
  have hfresh : h.msg.priority = (p.srg n.other).effectivePriority :=
    hd.fresh n h.msg hpending (by have := hd.built_ge n h.msg hpending; omega)
  have houtranks := (outranks_iff_wins hd hh hrounds).mpr hwins
  by_cases hupdate : h.stage = .update
  · -- the last step of a steady handler promotes a node that may be
    rw [advance_update hupdate]
    refine ⟨hfresh, fun hstandby => ?_⟩
    rw [updated_of_outranks houtranks] at hstandby
    split at hstandby
    · cases hstandby
    · rename_i hpromote
      exact Bool.eq_false_iff.mpr fun hpreempt => hpromote ⟨hpreempt, hstandby⟩
  · have hold : 2 ≤ p.heard n := by
      rcases heard_advance p n n i h with heq | ⟨-, hdone, heq⟩
      · omega
      · by_cases hbuilt : 2 ≤ h.msg.built
        · exact absurd (update_of_steady_done (hc.steady n h hmem hbuilt) hdone) hupdate
        · omega
    obtain ⟨hpriority, hstandby⟩ := ho.settled n hwins hold
    unfold Handling.advance
    split
    · exact ⟨hpriority, hstandby⟩
    · exact ⟨hpriority, hstandby⟩
    · rw [peerDiscovered_fst]
      refine ⟨hfresh, fun hstate => ?_⟩
      split at hstate
      · cases hstate
      · exact hstandby hstate
    · exact ⟨hpriority, hstandby⟩
    · rw [elect_fst]
      refine ⟨hpriority, fun hstate => ?_⟩
      have hwon : (p.srg n).WinsElection h.msg.nodeID := by
        unfold WinsElection
        rw [hpriority, ← hfresh]
        exact houtranks
      split at hstate
      · cases hstate
      · exact hstandby hstate
    · rename_i hstage
      exact absurd hstage hupdate

include hd hc ho hh in
theorem yielded_advance (hlower : ¬ p.Wins n) (hheard : 3 ≤ (p.advance n i h).heard n)
    (hactive : p.state n.other = .active) : (p.advance n i h).state n ≠ .active := by
  have hpending := mem_pending_of_handling hh
  have hbuilt_le := hd.built_le n h.msg hpending
  have hheard_le := hd.heard_le n
  have hrounds : 2 ≤ p.rounds := by
    rcases heard_advance p n n i h with heq | ⟨-, -, heq⟩ <;> omega
  by_cases hold : 3 ≤ p.heard n
  · exact not_active_advance hd hc hh hlower hrounds (ho.yielded n hlower hold hactive)
  · -- the handler is done with a heartbeat of the third round, which says active
    rcases heard_advance p n n i h with heq | ⟨-, hdone, heq⟩
    · omega
    · have hbuilt : 3 ≤ h.msg.built := by omega
      have hupdate := update_of_steady_done (steady_handling hd hc hh hrounds) hdone
      have hsays : h.msg.state = .active := by
        rw [ho.exact n ((wins_other (hd.distinct n)).mpr hlower) h.msg hpending hbuilt]
        exact hactive
      rw [state_advance_self, advance_update hupdate]
      dsimp only
      rw [updated_of_not_outranks (mt (outranks_iff_wins hd hh (le_of_succ_le hrounds)).mp hlower)]
      split
      · decide
      · rename_i hyield
        exact fun hstate => hyield ⟨hstate, hsays⟩

include hd hc ho hh in
theorem Outcome.advance : (p.advance n i h).Outcome := by
  have hsame : p.SameNodes (p.advance n i h) := sameNodes_advance
  have hheard k : k ≠ n → (p.advance n i h).heard k = p.heard k := by
    intro hk
    rcases heard_advance p n k i h with heq | ⟨rfl, -, -⟩
    · exact heq
    · exact absurd rfl hk
  constructor
  · intro k hk hle
    rw [hsame.wins_iff] at hk
    rw [(hsame k.other).effectivePriority, (hsame k).preempt]
    by_cases hkn : k = n
    · subst hkn
      exact settled_advance hd hc ho hh hk hle
    · rw [hheard k hkn] at hle
      rw [srg_advance_of_ne hkn, state_advance_of_ne hkn]
      exact ho.settled k hk hle
  · intro k hk m hm hbuilt hactive
    rw [hsame.wins_iff] at hk
    have hpending := mem_pending_advance hh hm
    have hclaim := ho.claim k hk m hpending hbuilt hactive
    by_cases hkn : k.other = n
    · subst hkn
      have hle := hd.built_le k m hpending
      exact active_of_wins hd hh hk (by omega) hclaim
    · rw [state_advance_of_ne hkn]
      exact hclaim
  · intro k hk m hm hbuilt
    rw [hsame.wins_iff] at hk
    have hpending := mem_pending_advance hh hm
    have hexact := ho.exact k hk m hpending hbuilt
    by_cases hkn : k.other = n
    · subst hkn
      have hle := hd.built_le k m hpending
      rw [state_advance_of_wins hd hc ho hh hk (by omega)]
      exact hexact
    · rw [state_advance_of_ne hkn]
      exact hexact
  · intro k hk hle hactive
    rw [hsame.wins_iff] at hk
    by_cases hkn : k = n
    · subst hkn
      rw [state_advance_of_ne (other_ne k)] at hactive
      exact yielded_advance hd hc ho hh hk hle hactive
    · have hn : k.other = n := by
        rcases eq_or_eq_other k n with rfl | rfl
        · exact absurd rfl hkn
        · rfl
      rw [hheard k hkn] at hle
      rw [state_advance_of_ne hkn]
      subst hn
      have hwins := (wins_other (hd.distinct k)).mpr hk
      have hheard_le := hd.heard_le k
      rw [state_advance_of_wins hd hc ho hh hwins (by omega)] at hactive
      exact ho.yielded k hk hle hactive

end Advance

/-! ## Convergence -/

structure Inv (p : Pair) : Prop where
  delivery : p.Delivery
  contact : p.Contact
  outcome : p.Outcome

theorem Inv.next (hinv : p.Inv) (he : e.isHeartbeat) (hstep : p.next e = some p') : p'.Inv := by
  obtain ⟨hd, hc, ho⟩ := hinv
  cases e with
  | send n =>
    cases hstep
    exact ⟨hd.of_messages (sameNodes_of_eq fun _ => rfl) (fun _ _ => mem_pending_send) rfl
      fun _ => .inl rfl,
      { hc with }, ho.of_messages (fun _ => rfl) (fun _ _ => mem_pending_send) rfl⟩
  | drop n i =>
    cases hstep
    exact ⟨hd.of_messages (sameNodes_of_eq fun _ => rfl)
      (fun _ _ hm => .inl (mem_pending_drop hm)) rfl fun _ => .inl rfl,
      { hc with }, ho.of_messages (fun _ => rfl) (fun _ _ hm => .inl (mem_pending_drop hm)) rfl⟩
  | receive n i =>
    obtain ⟨msg, hmsg, rfl⟩ := map_eq_some_iff.mp hstep
    exact ⟨hd.of_messages (sameNodes_of_eq fun _ => srg_receive)
      (fun _ _ hm => .inl (mem_pending_receive hmsg hm)) rfl fun _ => .inl rfl, hc.receive hd hmsg,
      ho.of_messages (fun _ => srg_receive) (fun _ _ hm => .inl (mem_pending_receive hmsg hm)) rfl⟩
  | advance n i =>
    obtain ⟨h, hh, rfl⟩ := map_eq_some_iff.mp hstep
    exact ⟨hd.advance hh, hc.advance hd hh, ho.advance hd hc hh⟩
  | completeRound =>
    change (if p.RoundComplete then _ else none) = _ at hstep
    split at hstep
    · rename_i hcomplete
      cases hstep
      exact ⟨hd.completeRound hcomplete, { hc with }, { ho with }⟩
    · cases hstep
  | requestSwitchover | serveSwitchover | failSwitchover | start | peerLost | interfaceState =>
    cases he

theorem Inv.of_reach (hreach : machine.Reach (fun _ e => e.isHeartbeat) p) : p.Inv :=
  hreach.invariant Inv (fun _ h => ⟨.init h, .init h, .init h⟩)
    (fun _ _ _ hinv he hstep => hinv.next he hstep)

/-- Both nodes have handled a heartbeat of the third round. -/
theorem Inv.at_most_one_active (hinv : p.Inv) (hrounds : 3 ≤ p.rounds) :
    ¬ ((p.state n).IsActive ∧ (p.state n.other).IsActive) := by
  obtain ⟨hd, hc, ho⟩ := hinv
  have hactive k : (p.state k).IsActive → p.state k = .active := by
    intro hk
    have hge := hd.heard_ge k
    exact hk.resolve_right (hc.met k (by omega)).2
  rintro ⟨hn, hother⟩
  by_cases hwins : p.Wins n
  · have hlower : ¬ p.Wins n.other := fun h => (wins_other (hd.distinct n)).mp h hwins
    have hheard := le_trans hrounds (hd.heard_ge n.other)
    refine ho.yielded n.other hlower hheard ?_ (hactive _ hother)
    rw [other_other]
    exact hactive _ hn
  · have hheard := le_trans hrounds (hd.heard_ge n)
    exact ho.yielded n hwins hheard (hactive _ hother) (hactive _ hn)

theorem Inv.state_advance (hinv : p.Inv) (hrounds : 3 ≤ p.rounds)
    (hh : (p.node n).handling[i]? = some h) : (p.advance n i h).state n = p.state n := by
  obtain ⟨hd, hc, ho⟩ := hinv
  by_cases hwins : p.Wins n
  · exact state_advance_of_wins hd hc ho hh hwins (by omega)
  · rw [state_advance_self]
    rcases advance_of_steady (steady_handling hd hc hh (by omega)) with hsame | hupdate
    · exact hsame
    · rw [advance_update hupdate]
      rw [updated_of_not_outranks (mt (outranks_iff_wins hd hh (by omega)).mp hwins)]
      split
      · -- the lower node has yielded before
        rename_i hyield
        have hpending := mem_pending_of_handling hh
        have hexact := ho.exact n ((wins_other (hd.distinct n)).mpr hwins) h.msg hpending
          (le_trans hrounds (hd.built_ge n h.msg hpending))
        rw [hyield.2] at hexact
        exact absurd hyield.1 (ho.yielded n hwins (le_trans hrounds (hd.heard_ge n)) hexact.symm)
      · rfl

/-- After three rounds no heartbeat changes a state. -/
theorem Inv.state_next (hinv : p.Inv) (hrounds : 3 ≤ p.rounds)
    (he : e.isHeartbeat) (hstep : p.next e = some p') :
    p.rounds ≤ p'.rounds ∧ ∀ n, p'.state n = p.state n := by
  cases e with
  | send | drop =>
    cases hstep
    exact ⟨le_refl _, fun _ => rfl⟩
  | receive n i =>
    obtain ⟨msg, -, rfl⟩ := map_eq_some_iff.mp hstep
    exact ⟨le_refl _, fun _ => state_receive⟩
  | advance n i =>
    obtain ⟨h, hh, rfl⟩ := map_eq_some_iff.mp hstep
    refine ⟨le_of_eq rounds_advance.symm, fun k => ?_⟩
    by_cases hk : k = n
    · subst hk
      exact hinv.state_advance hrounds hh
    · exact state_advance_of_ne hk
  | completeRound =>
    change (if p.RoundComplete then _ else none) = _ at hstep
    split at hstep
    · cases hstep
      exact ⟨le_succ _, fun _ => rfl⟩
    · cases hstep
  | requestSwitchover | serveSwitchover | failSwitchover | start | peerLost | interfaceState =>
    cases he

theorem Inv.state_run {es : List Event} (hinv : p.Inv) (hrounds : 3 ≤ p.rounds)
    (hrun : run Pair.next (fun _ e => e.isHeartbeat = true) p es = some p') (n : Side) :
    p'.state n = p.state n := by
  induction es generalizing p with
  | nil =>
    cases hrun
    rfl
  | cons e es ih =>
    unfold run at hrun
    obtain ⟨he, hrun⟩ := ite_none_right_eq_some.mp hrun
    obtain ⟨p1, hstep, hrun⟩ := bind_eq_some_iff.mp hrun
    obtain ⟨hle, hstate⟩ := hinv.state_next hrounds he hstep
    rw [ih (hinv.next he hstep) (le_trans hrounds hle) hrun, hstate]

/-- Once three rounds of heartbeats are complete, at most one node is active, and
heartbeats change no state any more. -/
theorem election_converges (hreach : machine.Reach (fun _ e => e.isHeartbeat) p)
    (hrounds : 3 ≤ p.rounds) :
    ¬ ((p.state .left).IsActive ∧ (p.state .right).IsActive) ∧
      ∀ es p', run next (fun _ e => e.isHeartbeat = true) p es = some p' →
        ∀ n, p'.state n = p.state n := by
  have hinv := Inv.of_reach hreach
  exact ⟨hinv.at_most_one_active hrounds, fun es p' hrun n => hinv.state_run hrounds hrun n⟩

def bothSolo : Pair where
  node
    | .left => ⟨⟨"group", 100, false, "node-a", .activeSolo, 100, 0, .init⟩, "", []⟩
    | .right => ⟨⟨"group", 100, true, "node-b", .activeSolo, 100, 0, .init⟩, "", []⟩
  inFlight _ := []
  requests _ := 0
  rounds := 0
  heard _ := 0

def round (steps : Nat) : List Event :=
  [.send .left, .send .right, .receive .left 0, .receive .right 0] ++
    replicate steps (.advance .left 0) ++ replicate steps (.advance .right 0) ++
    [.completeRound]

theorem election_converges_bothSolo :
    ∃ p, (p.rounds = 3 ∧ p.state .left = .active ∧ p.state .right = .standby) ∧
      ¬ ((p.state .left).IsActive ∧ (p.state .right).IsActive) ∧
      ∀ es p', run next (fun _ e => e.isHeartbeat = true) p es = some p' →
        ∀ n, p'.state n = p.state n := by
  have hinit : bothSolo.Initial :=
    ⟨⟨by decide, by decide, by decide⟩, by decide, rfl, fun _ => rfl⟩
  obtain ⟨p, hreach, hp⟩ : ∃ p, machine.Reach (fun _ e => e.isHeartbeat) p ∧
      p.rounds = 3 ∧ p.state .left = .active ∧ p.state .right = .standby :=
    exists_reach_of_run hinit (round 3 ++ round 3 ++ round 3) (by decide +kernel)
  exact ⟨p, hp, election_converges hreach (le_of_eq hp.1.symm)⟩

/-- From the third round on a node that outranks its peer and may preempt is never in standby,
and while it is active its peer is not. -/
theorem preempting_prevails (hreach : machine.Reach (fun _ e => e.isHeartbeat) p)
    (hrounds : 3 ≤ p.rounds) (hwins : p.Wins n) (hpreempt : (p.srg n).preempt = true)
    (es : List Event) (hrun : run next (fun _ e => e.isHeartbeat = true) p es = some p') :
    p'.state n ≠ .standby ∧ (p'.state n = .active → ¬ (p'.state n.other).IsActive) := by
  have hinv := Inv.of_reach hreach
  have hstate := hinv.state_run hrounds hrun
  rw [hstate, hstate]
  refine ⟨fun hstandby => ?_, fun hactive hother =>
    hinv.at_most_one_active hrounds ⟨.inl hactive, hother⟩⟩
  have hheard := hinv.delivery.heard_ge n
  have hsettled := (hinv.outcome.settled n hwins (by omega)).2 hstandby
  rw [hpreempt] at hsettled
  cases hsettled

def preempting : Pair :=
  { bothSolo with
    node n := { bothSolo.node n with srg := { bothSolo.srg n with preempt := true } } }

theorem preempting_prevails_left : ∃ p : Pair, p.Wins .left ∧ p.state .left = .active ∧
    ¬ (p.state .right).IsActive := by
  have hinit : preempting.Initial :=
    ⟨⟨by decide, by decide, by decide⟩, by decide, rfl, fun _ => rfl⟩
  obtain ⟨p, hreach, hrounds, hwins, hpreempt, hactive⟩ : ∃ p,
      machine.Reach (fun _ e => e.isHeartbeat) p ∧ p.rounds = 3 ∧ p.Wins .left ∧
        (p.srg .left).preempt = true ∧ p.state .left = .active :=
    exists_reach_of_run hinit (round 3 ++ round 3 ++ round 3) (by decide +kernel)
  have hprevails := preempting_prevails hreach hrounds.ge hwins hpreempt [] rfl
  exact ⟨p, hwins, hactive, hprevails.2 hactive⟩

end Pair
end Osvbng.Ha

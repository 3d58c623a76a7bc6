import Osvbng.Ha.Pair

/-!
# Switchover

A switchover toggles the node it is requested on and then asks the peer to toggle
too. The two toggles are independent, heartbeats are handled between them, and
the request to the peer may fail, so that both nodes can end up in standby with
neither allowed to take over.

`switchover_keeps_active` says what has to hold at each step for one of the nodes
to be active once the requests are served; `failed_request_leaves_none` is the run
in which the request to the peer fails.
-/

namespace Osvbng.Ha
open Function Option Lib SRGStateMachine Handling Side Machine
variable {sm : SRGStateMachine}

theorem Handling.standby_advance {h : Handling} (hstandby : sm.state = .standby) :
    (h.advance sm).1.state = .standby ∨ (h.advance sm).1.state = .active := by
  unfold advance
  split
  · exact .inl hstandby
  · exact .inl hstandby
  · simp [peerDiscovered_fst, hstandby]
  · exact .inl hstandby
  · simp [elect_fst, hstandby]
  · rw [peerHeartbeatUpdate_fst]
    dsimp only [updated]
    split
    · exact .inr rfl
    · rw [if_neg (by simp [hstandby])]
      exact .inl hstandby

theorem SRGStateMachine.switchover_of_standby (h : sm.state = .standby)
    (force : Bool) : (sm.switchover force).1.state = .active := by
  unfold switchover
  rw [h]
  rw [transitionTo_fst]

namespace Pair
variable {p : Pair} {n k : Side} {i : Nat} {sm : SRGStateMachine} {r : Side → Nat}

/-- A connected pair with one active node, neither of which may preempt. -/
structure Connected (p : Pair) : Prop where
  initial : p.Initial
  active : ∃ n, p.state n = .active ∧ p.state n.other ≠ .active
  preempt : ∀ n, (p.srg n).preempt = false
  peerNodeID : ∀ n, (p.node n).peerNodeID = (p.srg n.other).localNodeID
  requests : ∀ n, p.requests n = 0

def connected : Machine Pair Event := .ofNext Connected next

def Served (p : Pair) : Prop :=
  ∃ n, p.state n = .active ∨ (p.state n = .standby ∧ 0 < p.requests n)

/-- The condition on a step. A node yields, or is toggled by its peer, only while
the peer is active; an active node hands over only to one in standby; and a request
to the peer fails only while a node is active. -/
def Careful (p : Pair) : Event → Prop
  | .send _ => True
  | .drop _ _ => True
  | .receive _ _ => True
  | .completeRound => True
  | .advance n i => ∀ h ∈ (p.node n).handling[i]?, h.Yields (p.srg n) → p.state n.other = .active
  | .requestSwitchover n _ =>
    p.state n = .active → p.state n.other = .standby ∨ p.state n.other = .active
  | .serveSwitchover n => p.state n = .active → p.state n.other = .active
  | .failSwitchover n => p.state n = .active ∨ p.state n.other = .active
  | .start _ => False
  | .peerLost _ _ => False
  | .interfaceState _ _ _ => False

instance (p : Pair) (e : Event) : Decidable (p.Careful e) := by
  rcases e <;> dsimp only [Careful] <;> infer_instance

theorem state_setSRG_self : (p.setSRG n sm).state n = sm.state := by
  unfold setSRG state
  dsimp only
  rw [update_self]

theorem state_setSRG_of_ne (hk : k ≠ n) : (p.setSRG n sm).state k = p.state k := by
  unfold setSRG state
  dsimp only
  rw [update_of_ne hk]

theorem Served.advance {h : Handling} (hs : p.Served)
    (hok : h.Yields (p.srg n) → p.state n.other = .active) : (p.advance n i h).Served := by
  have hrequests : (p.advance n i h).requests = p.requests := by
    unfold Pair.advance
    split <;> rfl
  obtain ⟨k, hk⟩ := hs
  by_cases hkn : k = n
  · subst hkn
    rcases hk with hactive | ⟨hstandby, hrequest⟩
    · by_cases hyield : h.Yields (p.srg k)
      · refine ⟨k.other, .inl ?_⟩
        rw [state_advance_of_ne (other_ne k)]
        exact hok hyield
      · refine ⟨k, .inl ?_⟩
        rw [state_advance_self]
        exact active_advance hyield hactive
    · refine ⟨k, ?_⟩
      rw [state_advance_self, hrequests]
      rcases standby_advance hstandby with hstill | hactive
      · exact .inr ⟨hstill, hrequest⟩
      · exact .inl hactive
  · refine ⟨k, ?_⟩
    rw [state_advance_of_ne hkn, hrequests]
    exact hk

theorem Served.switchover {force : Bool} (hs : p.Served)
    (hok : p.state n = .active →
      p.state n.other = .active ∨ p.state n.other = .standby ∧ 0 < r n.other)
    (hr : 0 < p.requests n.other → 0 < r n.other) :
    Served { p.setSRG n ((p.srg n).switchover force).1 with requests := r } := by
  have hself sm : (p.setSRG n sm).state n = sm.state := state_setSRG_self
  have hother sm : (p.setSRG n sm).state n.other = p.state n.other :=
    state_setSRG_of_ne (other_ne n)
  have hpeer : p.state n.other = .active ∨ p.state n.other = .standby ∧ 0 < r n.other →
      Served { p.setSRG n ((p.srg n).switchover force).1 with requests := r } :=
    fun h => ⟨n.other, h.imp (hother _).trans (And.imp_left (hother _).trans)⟩
  obtain ⟨k, hk⟩ := hs
  rcases eq_or_eq_other n k with rfl | rfl
  · rcases hk with hactive | ⟨hstandby, -⟩
    · exact hpeer (hok hactive)
    · refine ⟨k, .inl ((hself _).trans ?_)⟩
      exact switchover_of_standby hstandby force
  · exact hpeer (hk.imp_right (And.imp_right hr))

theorem Served.next {p' : Pair} {e : Event} (hs : p.Served) (hok : p.Careful e)
    (hstep : p.next e = some p') : p'.Served := by
  cases e with
  | send | drop =>
    cases hstep
    exact hs
  | receive n i =>
    obtain ⟨msg, -, rfl⟩ := map_eq_some_iff.mp hstep
    obtain ⟨k, hk⟩ := hs
    refine ⟨k, ?_⟩
    rw [state_receive]
    exact hk
  | advance n i =>
    obtain ⟨h, hh, rfl⟩ := map_eq_some_iff.mp hstep
    exact hs.advance (hok h hh)
  | completeRound =>
    change (if p.RoundComplete then _ else none) = _ at hstep
    split at hstep
    · cases hstep
      exact hs
    · cases hstep
  | requestSwitchover n force =>
    cases hstep
    have hr : 0 < update p.requests n.other (p.requests n.other + 1) n.other := by
      rw [update_self]
      exact Nat.succ_pos _
    exact hs.switchover (fun h => (hok h).symm.imp_right (⟨·, hr⟩)) fun _ => hr
  | serveSwitchover n =>
    change (if p.requests n = 0 then none else _) = _ at hstep
    split at hstep
    · cases hstep
    · cases hstep
      refine hs.switchover (fun h => .inl (hok h)) fun hr => ?_
      rwa [update_of_ne (other_ne n)]
  | failSwitchover n =>
    change (if p.requests n = 0 then none else _) = _ at hstep
    split at hstep
    · cases hstep
    · cases hstep
      rcases hok with hactive | hactive
      · exact ⟨n, .inl hactive⟩
      · exact ⟨n.other, .inl hactive⟩
  | start | peerLost | interfaceState => cases hok

/-- When no request is on its way to a node any more, one of them is active. -/
theorem switchover_keeps_active (hreach : connected.Reach Careful p)
    (hdrained : ∀ n, p.requests n = 0) : ∃ n, p.state n = .active := by
  have hserved : p.Served := by
    refine hreach.invariant Served ?_ fun _ _ _ hs hok hstep => hs.next hok hstep
    rintro p ⟨-, ⟨n, hactive, -⟩, -, -, -⟩
    exact ⟨n, .inl hactive⟩
  obtain ⟨n, hactive | ⟨-, hrequest⟩⟩ := hserved
  · exact ⟨n, hactive⟩
  · exact absurd (hdrained n) (Nat.pos_iff_ne_zero.mp hrequest)

def leftActive : Pair where
  node
    | .left => ⟨⟨"group", 100, false, "node-a", .active, 100, 100, .standby⟩, "node-b", []⟩
    | .right => ⟨⟨"group", 100, false, "node-b", .standby, 100, 100, .active⟩, "node-a", []⟩
  inFlight _ := []
  requests _ := 0
  rounds := 0
  heard _ := 0

theorem leftActive_connected : leftActive.Connected where
  initial := ⟨⟨by decide, by decide, by decide⟩, by decide, rfl, fun _ => rfl⟩
  active := ⟨.left, by decide⟩
  preempt := by decide
  peerNodeID := by decide
  requests _ := rfl

def exchange : List Event :=
  [.send .left, .send .right, .receive .left 0, .receive .right 0,
    .advance .left 0, .advance .left 0, .advance .left 0,
    .advance .right 0, .advance .right 0, .advance .right 0, .completeRound]

theorem switchover_keeps_active_served :
    ∃ p : Pair, (p.rounds = 1 ∧ p.state .left = .standby ∧ p.state .right = .active) ∧
      ∃ n, p.state n = .active := by
  obtain ⟨p, hreach, hdrained, hp⟩ : ∃ p, connected.Reach Careful p ∧ (∀ n, p.requests n = 0) ∧
      p.rounds = 1 ∧ p.state .left = .standby ∧ p.state .right = .active :=
    exists_reach_of_run leftActive_connected
      ([.requestSwitchover .left false, .serveSwitchover .right] ++ exchange) (by decide +kernel)
  exact ⟨p, hp, switchover_keeps_active hreach hdrained⟩

/-- The request to the peer fails. Nothing is on its way any more, the nodes have
exchanged heartbeats, and both are in standby. -/
theorem failed_request_leaves_none :
    ∃ p, connected.Reach (fun _ e => e.isHeartbeat || e.isSwitchover) p ∧
      (∀ n, p.requests n = 0 ∧ p.pending n = []) ∧ p.rounds = 3 ∧
      ∀ n, p.state n = .standby :=
  exists_reach_of_run leftActive_connected
    ([.requestSwitchover .left false, .failSwitchover .right] ++ exchange ++ exchange ++ exchange)
    (by decide +kernel)

end Pair
end Osvbng.Ha

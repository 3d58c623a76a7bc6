import Osvbng.Ha.Srg
import Osvbng.Lib.Run

/-!
# A pair of nodes

The two nodes of a pair and what is on its way between them, for one subscriber
redundancy group that both of them have.

A node builds a heartbeat at any time: its own loop does so once an interval, and
the server of the other direction answers each heartbeat with one. Heartbeats
arrive in any order. They are handled by the goroutine that receives them, and
there are two of those, so that `handlePeerHeartbeat` is cut into the steps it
takes under the locks: `Handling.advance` takes one of them.
`Handling.finish_eq` says that a handler nothing interferes with is the function
as it is written.

Rounds are counted next to the program. Each heartbeat carries the round it was
built in, and a round is complete when all heartbeats built before it are handled
and each node has handled one that was built in it.
-/

namespace Osvbng.Ha
open Function List Lib SRGStateMachine

inductive Side where
  | left
  | right
deriving DecidableEq

namespace Side

def other : Side → Side
  | left => right
  | right => left

@[simp] theorem other_other (n : Side) : n.other.other = n := by cases n <;> rfl

@[simp] theorem other_ne (n : Side) : n.other ≠ n := by cases n <;> decide

theorem eq_or_eq_other (n k : Side) : k = n ∨ k = n.other := by
  cases n <;> cases k <;> decide

instance {P : Side → Prop} [DecidablePred P] : Decidable (∀ n, P n) :=
  decidable_of_iff (P left ∧ P right)
    ⟨fun h n => match n with | left => h.1 | right => h.2, fun h => ⟨h left, h right⟩⟩

end Side

/-- What a heartbeat says of the group, and the round it was built in. -/
structure Heartbeat where
  nodeID : String
  priority : UInt32
  state : SRGState
  built : Nat
deriving DecidableEq

/-! ## Handling a heartbeat -/

def SRGStateMachine.handlePeerHeartbeat (sm : SRGStateMachine) (firstContact : Prop)
    [Decidable firstContact] (msg : Heartbeat) : SRGStateMachine :=
  if firstContact ∨ sm.state = .waiting ∨ sm.state = .activeSolo then
    let sm := (sm.peerDiscovered msg.priority msg.state).1
    if sm.state = .ready then (sm.elect msg.nodeID).1 else sm
  else (sm.peerHeartbeatUpdate msg.priority msg.nodeID msg.state).1

inductive Stage where
  | checkWaiting
  | checkActiveSolo
  | discover
  | checkReady
  | elect
  | update
deriving DecidableEq

structure Handling where
  msg : Heartbeat
  stage : Stage
deriving DecidableEq

namespace Handling

/-- After the first step, which notes the peer's identifier. -/
def start (peerNodeID : String) (msg : Heartbeat) : Handling :=
  ⟨msg, if peerNodeID = "" then .discover else .checkWaiting⟩

def advance (h : Handling) (sm : SRGStateMachine) : SRGStateMachine × Option Handling :=
  match h.stage with
  | .checkWaiting =>
    (sm, some { h with stage := if sm.state = .waiting then .discover else .checkActiveSolo })
  | .checkActiveSolo =>
    (sm, some { h with stage := if sm.state = .activeSolo then .discover else .update })
  | .discover =>
    ((sm.peerDiscovered h.msg.priority h.msg.state).1, some { h with stage := .checkReady })
  | .checkReady => (sm, if sm.state = .ready then some { h with stage := .elect } else none)
  | .elect => ((sm.elect h.msg.nodeID).1, none)
  | .update => ((sm.peerHeartbeatUpdate h.msg.priority h.msg.nodeID h.msg.state).1, none)

variable {sm : SRGStateMachine}

theorem msg_next {h h' : Handling} (hnext : (h.advance sm).2 = some h') : h'.msg = h.msg := by
  unfold advance at hnext
  split at hnext
  · cases hnext
    rfl
  · cases hnext
    rfl
  · cases hnext
    rfl
  · split at hnext <;> cases hnext
    rfl
  · cases hnext
  · cases hnext

def Yields (h : Handling) (sm : SRGStateMachine) : Prop :=
  h.stage = .update ∧ sm.state = .active ∧ h.msg.state = .active ∧
    ¬ Outranks sm.effectivePriority sm.localNodeID h.msg.priority h.msg.nodeID
deriving Decidable

theorem active_advance {h : Handling} (hyield : ¬ h.Yields sm)
    (hactive : sm.state = .active) : (h.advance sm).1.state = .active := by
  unfold advance
  split
  · exact hactive
  · exact hactive
  · simp [peerDiscovered_fst, hactive]
  · exact hactive
  · simp [elect_fst, hactive]
  · rename_i hstage
    rw [peerHeartbeatUpdate_fst]
    dsimp only [updated]
    rw [if_neg (by simp [hactive]), if_neg]
    · exact hactive
    · exact fun hall => hyield ⟨hstage, hall.1, hall.2.1, hall.2.2⟩

def finish : Nat → Handling → SRGStateMachine → SRGStateMachine
  | 0, _, sm => sm
  | fuel + 1, h, sm =>
    match h.advance sm with
    | (sm, none) => sm
    | (sm, some h) => finish fuel h sm

theorem finish_discover (fuel : Nat) (msg : Heartbeat) (sm : SRGStateMachine) :
    finish (fuel + 3) ⟨msg, .discover⟩ sm =
      let sm := (sm.peerDiscovered msg.priority msg.state).1
      if sm.state = .ready then (sm.elect msg.nodeID).1 else sm := by
  simp only [finish, advance]
  by_cases hready : (sm.peerDiscovered msg.priority msg.state).1.state = .ready
  · rw [if_pos hready, if_pos hready]
  · rw [if_neg hready, if_neg hready]

theorem finish_eq (peerNodeID : String) (msg : Heartbeat) (sm : SRGStateMachine) :
    (start peerNodeID msg).finish 5 sm = sm.handlePeerHeartbeat (peerNodeID = "") msg := by
  unfold start handlePeerHeartbeat
  by_cases hfirst : peerNodeID = ""
  · rw [if_pos hfirst, if_pos (.inl hfirst)]
    exact finish_discover 2 msg sm
  · rw [if_neg hfirst]
    by_cases hwaiting : sm.state = .waiting
    · rw [if_pos (.inr (.inl hwaiting)), finish]
      simp only [advance, if_pos hwaiting]
      exact finish_discover 1 msg sm
    · by_cases hsolo : sm.state = .activeSolo
      · rw [if_pos (.inr (.inr hsolo)), finish]
        simp only [advance, if_neg hwaiting]
        rw [finish]
        simp only [advance, if_pos hsolo]
        exact finish_discover 0 msg sm
      · rw [if_neg (by simp [hfirst, hwaiting, hsolo])]
        simp [finish, advance, hwaiting, hsolo]

end Handling

/-! ## The pair -/

structure Node where
  srg : SRGStateMachine
  peerNodeID : String
  handling : List Handling

structure Pair where
  node : Side → Node
  /-- The heartbeats and the switchover requests on their way to a side. -/
  inFlight : Side → List Heartbeat
  requests : Side → Nat
  /-- The complete rounds, and the last round each side has handled a heartbeat of. -/
  rounds : Nat
  heard : Side → Nat

inductive Event where
  /-- Heartbeats. -/
  | send (n : Side)
  | drop (n : Side) (i : Nat)
  | receive (n : Side) (i : Nat)
  | advance (n : Side) (i : Nat)
  | completeRound
  /-- A switchover: on the node that is asked, and on its peer. -/
  | requestSwitchover (n : Side) (force : Bool)
  | serveSwitchover (n : Side)
  | failSwitchover (n : Side)
  /-- What else can happen to a node. -/
  | start (n : Side)
  | peerLost (n : Side) (interfacesDown : Bool)
  | interfaceState (n : Side) (delta : Int32) (down : Bool)
deriving DecidableEq

namespace Event

def isHeartbeat : Event → Bool
  | .send _ => true
  | .drop _ _ => true
  | .receive _ _ => true
  | .advance _ _ => true
  | .completeRound => true
  | _ => false

def isSwitchover : Event → Bool
  | .requestSwitchover _ _ => true
  | .serveSwitchover _ => true
  | .failSwitchover _ => true
  | _ => false

end Event

namespace Pair

def srg (p : Pair) (n : Side) : SRGStateMachine := (p.node n).srg

def state (p : Pair) (n : Side) : SRGState := (p.node n).srg.state

variable (p : Pair)

def pending (n : Side) : List Heartbeat :=
  p.inFlight n ++ (p.node n).handling.map (·.msg)

def RoundComplete : Prop :=
  ∀ n, (∀ m ∈ p.pending n, p.rounds < m.built) ∧ p.rounds < p.heard n
deriving Decidable

variable (n : Side)

def setSRG (sm : SRGStateMachine) : Pair :=
  { p with node := update p.node n { p.node n with srg := sm } }

def buildHeartbeatMessage : Heartbeat :=
  ⟨(p.srg n).localNodeID, (p.srg n).effectivePriority, p.state n, p.rounds + 1⟩

def send : Pair :=
  { p with
    inFlight := update p.inFlight n.other (p.inFlight n.other ++ [p.buildHeartbeatMessage n]) }

def drop (i : Nat) : Pair :=
  { p with inFlight := update p.inFlight n ((p.inFlight n).eraseIdx i) }

def receive (i : Nat) (msg : Heartbeat) : Pair :=
  { p with
    inFlight := update p.inFlight n ((p.inFlight n).eraseIdx i)
    node := update p.node n
      { p.node n with
        peerNodeID := msg.nodeID
        handling := (p.node n).handling ++ [.start (p.node n).peerNodeID msg] } }

def advance (i : Nat) (h : Handling) : Pair :=
  match h.advance (p.srg n) with
  | (sm, some h') =>
    { p with
      node := update p.node n
        { p.node n with srg := sm, handling := (p.node n).handling.set i h' } }
  | (sm, none) =>
    { p with
      node := update p.node n
        { p.node n with srg := sm, handling := (p.node n).handling.eraseIdx i }
      heard := update p.heard n (max (p.heard n) h.msg.built) }

def peerLost (interfacesDown : Bool) : Pair :=
  let lost := (p.srg n).peerLost
  let promoted :=
    if lost.2.any (·.newState = .standbyAlone) && interfacesDown then lost.1.trackerPromote.1
    else lost.1
  { p with node := update p.node n { p.node n with srg := promoted, peerNodeID := "" } }

def interfaceState (delta : Int32) (down : Bool) : Pair :=
  let sm := (p.srg n).adjustPriority delta
  p.setSRG n (if down then sm.trackerPromote.1 else sm)

def next : Event → Option Pair
  | .send n => some (p.send n)
  | .drop n i => some (p.drop n i)
  | .receive n i => (p.inFlight n)[i]?.map (p.receive n i)
  | .advance n i => (p.node n).handling[i]?.map (p.advance n i)
  | .completeRound => if p.RoundComplete then some { p with rounds := p.rounds + 1 } else none
  | .requestSwitchover n force =>
    let p := p.setSRG n ((p.srg n).switchover force).1
    some { p with requests := update p.requests n.other (p.requests n.other + 1) }
  | .serveSwitchover n =>
    if p.requests n = 0 then none
    else
      let p := p.setSRG n ((p.srg n).switchover false).1
      some { p with requests := update p.requests n (p.requests n - 1) }
  | .failSwitchover n =>
    if p.requests n = 0 then none
    else some { p with requests := update p.requests n (p.requests n - 1) }
  | .start n => some (p.setSRG n (p.srg n).start.1)
  | .peerLost n interfacesDown => some (p.peerLost n interfacesDown)
  | .interfaceState n delta down => some (p.interfaceState n delta down)

structure Named (p : Pair) : Prop where
  nodeID_ne : ∀ n, (p.srg n).localNodeID ≠ ""
  distinct : ∀ n, (p.srg n).localNodeID ≠ (p.srg n.other).localNodeID
  sender : ∀ n, ∀ m ∈ p.pending n, m.nodeID = (p.srg n.other).localNodeID

/-- Two configured nodes with different identifiers. The state of each is
anything, and so are the heartbeats on their way and in their handlers. -/
structure Initial (p : Pair) : Prop extends p.Named where
  built : ∀ n, ∀ m ∈ p.pending n, m.built = 0
  rounds : p.rounds = 0
  heard : ∀ n, p.heard n = 0

def machine : Machine Pair Event := .ofNext Initial next

/-! ## What the events of heartbeats change -/

section Changes
variable {p : Pair} {n k : Side} {i : Nat} {msg : Heartbeat} {m : Heartbeat}

theorem mem_pending_send (h : m ∈ (p.send n).pending k) :
    m ∈ p.pending k ∨ m = p.buildHeartbeatMessage k.other := by
  rcases mem_append.mp h with hflight | hhandling
  · rcases update_cases (y := (p.send n).inFlight k) rfl with ⟨rfl, heq⟩ | ⟨-, heq⟩
    · rw [← heq] at hflight
      rcases mem_append.mp hflight with hold | hnew
      · exact .inl (mem_append_left _ hold)
      · exact .inr (by simpa using hnew)
    · rw [← heq] at hflight
      exact .inl (mem_append_left _ hflight)
  · exact .inl (mem_append_right _ hhandling)

theorem mem_pending_drop (h : m ∈ (p.drop n i).pending k) : m ∈ p.pending k := by
  unfold pending drop at h
  dsimp only at h
  rcases mem_append.mp h with hflight | hhandling
  · by_cases hk : k = n
    · subst hk
      rw [update_self] at hflight
      exact mem_append_left _ (mem_of_mem_eraseIdx hflight)
    · rw [update_of_ne hk] at hflight
      exact mem_append_left _ hflight
  · exact mem_append_right _ hhandling

theorem mem_handling_receive {h : Handling} (hh : h ∈ ((p.receive n i msg).node k).handling) :
    h ∈ (p.node k).handling ∨ (k = n ∧ h = .start (p.node n).peerNodeID msg) := by
  unfold receive at hh
  dsimp only at hh
  by_cases hk : k = n
  · subst hk
    rw [update_self] at hh
    rcases mem_append.mp hh with hold | hnew
    · exact .inl hold
    · exact .inr ⟨rfl, mem_singleton.mp hnew⟩
  · rw [update_of_ne hk] at hh
    exact .inl hh

theorem mem_pending_receive (hmsg : (p.inFlight n)[i]? = some msg)
    (h : m ∈ (p.receive n i msg).pending k) : m ∈ p.pending k := by
  rcases mem_append.mp h with hflight | hhandling
  · exact mem_pending_drop (mem_append_left _ hflight)
  · obtain ⟨handler, hh, rfl⟩ := mem_map.mp hhandling
    rcases mem_handling_receive hh with hold | ⟨rfl, rfl⟩
    · exact mem_append_right _ (mem_map_of_mem hold)
    · exact mem_append_left _ (mem_of_getElem? hmsg)

theorem srg_receive : (p.receive n i msg).srg k = p.srg k :=
  (apply_update (fun _ => Node.srg) ..).trans (congrFun (update_eq_self n p.srg) k)

theorem state_receive : (p.receive n i msg).state k = p.state k :=
  congrArg SRGStateMachine.state srg_receive

theorem peerNodeID_receive : ((p.receive n i msg).node k).peerNodeID =
      if k = n then msg.nodeID else (p.node k).peerNodeID :=
  (apply_update (fun _ => Node.peerNodeID) ..).trans (update_apply ..)

section Advance
variable {h : Handling}

theorem advance_eq : p.advance n i h = { p with
    node := update p.node n { p.node n with
      srg := (h.advance (p.srg n)).1
      handling := (h.advance (p.srg n)).2.elim ((p.node n).handling.eraseIdx i)
        ((p.node n).handling.set i) }
    heard := (h.advance (p.srg n)).2.elim (update p.heard n (max (p.heard n) h.msg.built))
      fun _ => p.heard } := by
  unfold advance
  split <;> rename_i heq <;> rw [heq] <;> rfl

theorem srg_advance :
    (p.advance n i h).srg k = if k = n then (h.advance (p.srg n)).1 else p.srg k := by
  rw [advance_eq]
  exact (apply_update (fun _ => Node.srg) ..).trans (update_apply ..)

theorem srg_advance_self : (p.advance n i h).srg n = (h.advance (p.srg n)).1 := by
  rw [srg_advance, if_pos rfl]

theorem srg_advance_of_ne (hk : k ≠ n) : (p.advance n i h).srg k = p.srg k := by
  rw [srg_advance, if_neg hk]

theorem state_advance_self : (p.advance n i h).state n = (h.advance (p.srg n)).1.state :=
  congrArg SRGStateMachine.state srg_advance_self

theorem state_advance_of_ne (hk : k ≠ n) : (p.advance n i h).state k = p.state k :=
  congrArg SRGStateMachine.state (srg_advance_of_ne hk)

theorem peerNodeID_advance : ((p.advance n i h).node k).peerNodeID = (p.node k).peerNodeID := by
  rw [advance_eq]
  exact (apply_update (fun _ => Node.peerNodeID) ..).trans (congrFun (update_eq_self n _) k)

theorem mem_handling_advance {h' : Handling} (hh : h' ∈ ((p.advance n i h).node k).handling) :
    h' ∈ (p.node k).handling ∨ (k = n ∧ (h.advance (p.srg n)).2 = some h') := by
  rw [advance_eq] at hh
  dsimp only at hh
  by_cases hk : k = n
  · subst hk
    rw [update_self] at hh
    cases hnext : (h.advance (p.srg k)).2 with
    | none =>
      rw [hnext] at hh
      exact .inl (mem_of_mem_eraseIdx hh)
    | some next =>
      rw [hnext] at hh
      exact (mem_or_eq_of_mem_set hh).imp id fun hnew => ⟨rfl, congrArg some hnew.symm⟩
  · rw [update_of_ne hk] at hh
    exact .inl hh

theorem mem_pending_of_handling (hh : (p.node n).handling[i]? = some h) : h.msg ∈ p.pending n :=
  mem_append_right _ (mem_map_of_mem (mem_of_getElem? hh))

theorem mem_pending_advance (hh : (p.node n).handling[i]? = some h)
    (hm : m ∈ (p.advance n i h).pending k) : m ∈ p.pending k := by
  have hflight : (p.advance n i h).inFlight = p.inFlight := by rw [advance_eq]
  rcases mem_append.mp hm with hm | hm
  · rw [hflight] at hm
    exact mem_append_left _ hm
  · obtain ⟨handler, hmem, rfl⟩ := mem_map.mp hm
    rcases mem_handling_advance hmem with hold | ⟨rfl, hnext⟩
    · exact mem_append_right _ (mem_map_of_mem hold)
    · rw [Handling.msg_next hnext]
      exact mem_pending_of_handling hh

theorem rounds_advance : (p.advance n i h).rounds = p.rounds := by rw [advance_eq]

theorem heard_advance (p : Pair) (n k : Side) (i : Nat) (h : Handling) :
    (p.advance n i h).heard k = p.heard k ∨
      (k = n ∧ (h.advance (p.srg n)).2 = none ∧
        (p.advance n i h).heard n = max (p.heard n) h.msg.built) := by
  rw [advance_eq]
  cases (h.advance (p.srg n)).2 with
  | some => exact .inl rfl
  | none =>
    by_cases hk : k = n
    · subst hk
      exact .inr ⟨rfl, rfl, update_self ..⟩
    · exact .inl (update_of_ne hk ..)

end Advance
end Changes
end Pair
end Osvbng.Ha

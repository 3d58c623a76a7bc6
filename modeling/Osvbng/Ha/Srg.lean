import Mathlib.Data.String.Basic

/-!
# The state machine of a subscriber redundancy group

Each node of a pair runs one `SRGStateMachine` for every subscriber redundancy
group. A method changes the state and returns the transition it made, if it made
one; all of them are translated as the machine after the call and the transition.

The rank of a node is its priority and then its identifier. Of two nodes with
different identifiers exactly one outranks the other, which is all that the
election rests on.
-/

namespace Osvbng.Ha

inductive SRGState where
  | init
  | waiting
  | ready
  | active
  | standby
  | activeSolo
  | standbyAlone
deriving DecidableEq

structure StateTransition where
  srgName : String
  oldState : SRGState
  newState : SRGState
deriving DecidableEq

structure SRGStateMachine where
  name : String
  priority : UInt32
  preempt : Bool
  localNodeID : String
  state : SRGState
  effectivePriority : UInt32
  peerPriority : UInt32
  peerState : SRGState

/-- A higher priority wins, then the identifier that comes first. -/
def Outranks (priority : UInt32) (nodeID : String) (peerPriority : UInt32) (peerNodeID : String) :
    Prop :=
  if priority ≠ peerPriority then peerPriority < priority else nodeID < peerNodeID
deriving Decidable

theorem outranks_iff_not {priority peerPriority : UInt32} {nodeID peerNodeID : String}
    (h : nodeID ≠ peerNodeID) :
    Outranks priority nodeID peerPriority peerNodeID ↔
      ¬ Outranks peerPriority peerNodeID priority nodeID := by
  unfold Outranks
  by_cases heq : priority = peerPriority
  · subst heq
    simp only [ne_eq, not_true_eq_false, if_false]
    constructor
    · intro hlt
      exact not_lt_of_gt hlt
    · intro hnot
      exact lt_of_le_of_ne (not_lt.mp hnot) h
  · rw [if_pos heq, if_pos (Ne.symm heq)]
    rw [UInt32.lt_iff_toNat_lt, UInt32.lt_iff_toNat_lt]
    rw [← UInt32.toNat_inj] at heq
    omega

def SRGState.IsActive (s : SRGState) : Prop := s = .active ∨ s = .activeSolo
deriving Decidable

namespace SRGStateMachine
variable (sm : SRGStateMachine)

def transitionTo (newState : SRGState) : SRGStateMachine × Option StateTransition :=
  if sm.state = newState then (sm, none)
  else ({ sm with state := newState }, some ⟨sm.name, sm.state, newState⟩)

theorem transitionTo_fst (newState : SRGState) :
    (sm.transitionTo newState).1 = { sm with state := newState } := by
  unfold transitionTo
  split
  · rename_i h
    subst h
    rfl
  · rfl

def start : SRGStateMachine × Option StateTransition :=
  if sm.state ≠ .init then (sm, none) else sm.transitionTo .waiting

variable (peerPriority : UInt32)

def peerDiscovered (peerState : SRGState) : SRGStateMachine × Option StateTransition :=
  let sm := { sm with peerPriority := peerPriority, peerState := peerState }
  match sm.state with
  | .waiting => sm.transitionTo .ready
  | .activeSolo => sm.transitionTo .ready
  | .standbyAlone => sm.transitionTo .ready
  | _ => (sm, none)

variable (peerNodeID : String)

def WinsElection : Prop :=
  Outranks sm.effectivePriority sm.localNodeID sm.peerPriority peerNodeID
deriving Decidable

def elect : SRGStateMachine × Option StateTransition :=
  if sm.state ≠ .ready then (sm, none)
  else if sm.WinsElection peerNodeID then sm.transitionTo .active
  else sm.transitionTo .standby

def peerLost : SRGStateMachine × Option StateTransition :=
  match sm.state with
  | .active => sm.transitionTo .activeSolo
  | .standby => sm.transitionTo .standbyAlone
  | .ready => sm.transitionTo .waiting
  | .waiting => sm.transitionTo .activeSolo
  | _ => (sm, none)

def switchover (force : Bool) : SRGStateMachine × Option StateTransition :=
  match sm.state with
  | .active => sm.transitionTo .standby
  | .standby => sm.transitionTo .active
  | .standbyAlone => if force then sm.transitionTo .active else (sm, none)
  | _ => (sm, none)

def trackerPromote : SRGStateMachine × Option StateTransition :=
  if sm.state = .standbyAlone then sm.transitionTo .activeSolo else (sm, none)

/-- The sum is computed in 32 bits. -/
def adjustPriority (delta : Int32) : SRGStateMachine :=
  let newPrio := sm.priority.toInt32 + delta
  { sm with effectivePriority := if newPrio < 0 then 0 else newPrio.toUInt32 }

variable (peerState : SRGState)

def peerHeartbeatUpdate : SRGStateMachine × Option StateTransition :=
  let sm := { sm with peerPriority := peerPriority, peerState := peerState }
  if sm.preempt ∧ sm.state = .standby ∧ sm.WinsElection peerNodeID then sm.transitionTo .active
  else if sm.state = .active ∧ peerState = .active ∧ ¬ sm.WinsElection peerNodeID then
    sm.transitionTo .standby
  else (sm, none)

/-! ## What the methods a heartbeat calls do -/

structure SameNode (sm sm' : SRGStateMachine) : Prop where
  localNodeID : sm'.localNodeID = sm.localNodeID
  effectivePriority : sm'.effectivePriority = sm.effectivePriority
  preempt : sm'.preempt = sm.preempt

theorem peerDiscovered_fst : (sm.peerDiscovered peerPriority peerState).1 =
      { sm with
        peerPriority := peerPriority
        peerState := peerState
        state := if sm.state = .waiting ∨ sm.state = .activeSolo ∨ sm.state = .standbyAlone then
          .ready else sm.state } := by
  unfold peerDiscovered
  cases hstate : sm.state <;> simp [transitionTo_fst]

theorem elect_fst : (sm.elect peerNodeID).1 =
      { sm with
        state := if sm.state = .ready then
          (if sm.WinsElection peerNodeID then .active else .standby) else sm.state } := by
  unfold elect
  by_cases hready : sm.state = .ready
  · by_cases hwins : sm.WinsElection peerNodeID <;> simp [hready, hwins, transitionTo_fst]
  · simp [hready]

/-- The state a heartbeat in the steady state leads to. -/
def updated : SRGState :=
  if sm.preempt ∧ sm.state = .standby ∧
      Outranks sm.effectivePriority sm.localNodeID peerPriority peerNodeID then .active
  else if sm.state = .active ∧ peerState = .active ∧
      ¬ Outranks sm.effectivePriority sm.localNodeID peerPriority peerNodeID then .standby
  else sm.state

theorem peerHeartbeatUpdate_fst : (sm.peerHeartbeatUpdate peerPriority peerNodeID peerState).1 =
      { sm with
        peerPriority := peerPriority
        peerState := peerState
        state := sm.updated peerPriority peerNodeID peerState } := by
  unfold peerHeartbeatUpdate updated WinsElection
  dsimp only
  split
  · rw [transitionTo_fst]
  · split
    · rw [transitionTo_fst]
    · rfl

end SRGStateMachine
end Osvbng.Ha

import Osvbng.Ha.Srg
import Osvbng.Lib.Run

/-!
# Replication of session events to the peer

The manager of a node drives the senders with the transitions of its groups. The
sender of sessions has one flag for the whole node, which each change of a group
between active and inactive overwrites; the sender of address mappings has a flag
for every group.

A transition is made under the lock of its group and drives the senders after it
(`publishTransition`), so that transitions may be driven late and out of order.

`replicates_iff` says when a session event is handed to the sender just when its
group is active.
-/

namespace Osvbng.Ha
open Function Option Lib Ha.StateTransition Machine SRGState

inductive SyncAction where
  | create
  | update
  | delete
deriving DecidableEq

structure SyncSessionRequest (Checkpoint : Type) where
  srgName : String
  sequence : UInt64
  action : SyncAction
  session : Checkpoint

structure SyncBacklog (Checkpoint : Type) where
  entries : Nat → Option (SyncSessionRequest Checkpoint)
  head : Nat
  size : Nat
  capacity : Nat

namespace SyncBacklog
variable {Checkpoint : Type}

def empty (capacity : Nat) : SyncBacklog Checkpoint :=
  ⟨fun _ => none, 0, 0, if capacity = 0 then 10000 else capacity⟩

def push (b : SyncBacklog Checkpoint) (req : SyncSessionRequest Checkpoint) :
    SyncBacklog Checkpoint :=
  { b with
    entries := update b.entries b.head (some req)
    head := (b.head + 1) % b.capacity
    size := if b.size < b.capacity then b.size + 1 else b.size }

end SyncBacklog

structure SyncSender (Checkpoint : Type) where
  backlogs : String → Option (SyncBacklog Checkpoint)
  seqNums : String → Option UInt64
  updates : String → UInt64
  deletes : String → UInt64
  sendCh : List (SyncSessionRequest Checkpoint)
  active : Bool

structure SessionLifecycleEvent (Session : Type) where
  session : Option Session
  released : Bool

structure SubscriberMutationResultEvent (Session : Type) where
  ok : Bool
  session : Option Session

namespace SyncSender
variable {Session Checkpoint : Type} (getSRGName : Session → String)
  (sessionToCheckpoint : Session → Checkpoint)

def new (backlogSize : Nat) (srgs : String → Bool) : SyncSender Checkpoint where
  backlogs name := if srgs name then some (.empty backlogSize) else none
  seqNums name := if srgs name then some 0 else none
  updates _ := 0
  deletes _ := 0
  sendCh := []
  active := false

variable (s : SyncSender Checkpoint)

def setActive (active : Bool) : SyncSender Checkpoint :=
  { s with active := active }

def sendChCapacity : Nat := 1024

/-- Numbers a request, keeps it in the backlog and queues it, unless the queue is full. -/
def replicate (srgName : String) (action : SyncAction)
    (cp : Checkpoint) : SyncSender Checkpoint × Option (SyncSessionRequest Checkpoint) :=
  match s.backlogs srgName, s.seqNums srgName with
  | some backlog, some n =>
    let req := ⟨srgName, n + 1, action, cp⟩
    ({ s with
        backlogs := update s.backlogs srgName (some (backlog.push req))
        seqNums := update s.seqNums srgName (some (n + 1))
        updates := if action = .delete then s.updates
          else update s.updates srgName (s.updates srgName + 1)
        deletes := if action = .delete then
            update s.deletes srgName (s.deletes srgName + 1)
          else s.deletes
        sendCh := if s.sendCh.length < sendChCapacity then s.sendCh ++ [req] else s.sendCh },
      some req)
  | _, _ => (s, none)

def handleEvent (data : SessionLifecycleEvent Session) :
    SyncSender Checkpoint × Option (SyncSessionRequest Checkpoint) :=
  if !s.active then (s, none)
  else
    match data.session with
    | none => (s, none)
    | some sess =>
      if getSRGName sess = "" then (s, none)
      else s.replicate (getSRGName sess) (if data.released then .delete else .update)
        (sessionToCheckpoint sess)

def handleMutationResult (data : SubscriberMutationResultEvent Session) :
    SyncSender Checkpoint × Option (SyncSessionRequest Checkpoint) :=
  if !data.ok || !s.active then (s, none)
  else
    match data.session with
    | none => (s, none)
    | some sess =>
      if getSRGName sess = "" then (s, none)
      else s.replicate (getSRGName sess) .update (sessionToCheckpoint sess)

/-- One turn of `Run`: what it takes from the queue is sent while the node is active. -/
def dequeue : SyncSender Checkpoint × Option (SyncSessionRequest Checkpoint) :=
  match s.sendCh with
  | [] => (s, none)
  | req :: rest => ({ s with sendCh := rest }, if s.active then some req else none)

/-! ### What an event leaves of a sender -/

section
variable {Session Checkpoint : Type} {getSRGName : Session → String}
  {sessionToCheckpoint : Session → Checkpoint} {s : SyncSender Checkpoint} {action : SyncAction}
  {srgName : String} {cp : Checkpoint}

structure Keeps (s s' : SyncSender Checkpoint) : Prop where
  active : s'.active = s.active
  backlogs : ∀ name, (s'.backlogs name).isSome = (s.backlogs name).isSome
  seqNums : ∀ name, (s'.seqNums name).isSome = (s.seqNums name).isSome

theorem Keeps.refl (s : SyncSender Checkpoint) : s.Keeps s := ⟨rfl, fun _ => rfl, fun _ => rfl⟩

theorem isSome_ite {X : Type} (b : Bool) (a : X) : (if b then some a else none).isSome = b := by
  cases b <;> rfl

theorem isSome_update {X : Type} {f : String → Option X} {a a' : X} {key : String}
    (h : f key = some a) (name : String) :
    (update f key (some a') name).isSome = (f name).isSome := by
  by_cases hname : name = key
  · subst hname
    rw [update_self, h]
    rfl
  · rw [update_of_ne hname]

theorem keeps_replicate : s.Keeps (s.replicate srgName action cp).1 := by
  unfold replicate
  split
  · rename_i backlog n hbacklog hn
    exact ⟨rfl, isSome_update hbacklog, isSome_update hn⟩
  · exact .refl s

theorem isSome_replicate : (s.replicate srgName action cp).2.isSome =
      ((s.backlogs srgName).isSome && (s.seqNums srgName).isSome) := by
  unfold replicate
  cases s.backlogs srgName <;> cases s.seqNums srgName <;> rfl

theorem keeps_handleEvent {data : SessionLifecycleEvent Session} :
    s.Keeps (s.handleEvent getSRGName sessionToCheckpoint data).1 := by
  unfold handleEvent
  split
  · exact .refl s
  · split
    · exact .refl s
    · split
      · exact .refl s
      · exact keeps_replicate

theorem keeps_handleMutationResult {data : SubscriberMutationResultEvent Session} :
    s.Keeps (s.handleMutationResult getSRGName sessionToCheckpoint data).1 := by
  unfold handleMutationResult
  split
  · exact .refl s
  · split
    · exact .refl s
    · split
      · exact .refl s
      · exact keeps_replicate

theorem keeps_dequeue : s.Keeps s.dequeue.1 := by
  unfold dequeue
  split
  · exact .refl s
  · exact ⟨rfl, fun _ => rfl, fun _ => rfl⟩

theorem isSome_handleEvent {sess : Session} {released : Bool} :
    (s.handleEvent getSRGName sessionToCheckpoint ⟨some sess, released⟩).2.isSome = true ↔
      s.active = true ∧ getSRGName sess ≠ "" ∧ (s.backlogs (getSRGName sess)).isSome = true ∧
        (s.seqNums (getSRGName sess)).isSome = true := by
  unfold handleEvent
  cases hactive : s.active with
  | false => simp
  | true =>
    by_cases hname : getSRGName sess = ""
    · simp [hname]
    · simp [hname, isSome_replicate]

end
end SyncSender

structure CGNATMappingEvent (Mapping : Type) where
  srgName : String
  mapping : Mapping
  isAdd : Bool

structure SyncCGNATMappingRequest (Checkpoint : Type) where
  srgName : String
  sequence : UInt64
  action : SyncAction
  mapping : Checkpoint

structure CGNATSyncSender (Checkpoint : Type) where
  seqNums : String → Option UInt64
  active : String → Option Bool
  sendCh : List (SyncCGNATMappingRequest Checkpoint)

namespace CGNATSyncSender
variable {Mapping Checkpoint : Type} (mappingToCheckpoint : String → Mapping → Checkpoint)

def new (srgs : String → Bool) : CGNATSyncSender Checkpoint where
  seqNums name := if srgs name then some 0 else none
  active name := if srgs name then some false else none
  sendCh := []

variable (s : CGNATSyncSender Checkpoint)

def setActive (srgName : String) (active : Bool) : CGNATSyncSender Checkpoint :=
  match s.active srgName with
  | none => s
  | some _ => { s with active := update s.active srgName (some active) }

def handleEvent (data : CGNATMappingEvent Mapping) :
    CGNATSyncSender Checkpoint × Option (SyncCGNATMappingRequest Checkpoint) :=
  if data.srgName = "" then (s, none)
  else
    match s.active data.srgName, s.seqNums data.srgName with
    | some true, some n =>
      let req := ⟨data.srgName, n + 1, if data.isAdd then .create else .delete,
        mappingToCheckpoint data.srgName data.mapping⟩
      ({ s with
          seqNums := update s.seqNums data.srgName (some (n + 1))
          sendCh := if s.sendCh.length < SyncSender.sendChCapacity then s.sendCh ++ [req]
            else s.sendCh },
        some req)
    | _, _ => (s, none)

section
variable {mappingToCheckpoint : String → Mapping → Checkpoint} {s : CGNATSyncSender Checkpoint}

theorem seqNums_setActive {srgName : String} {active : Bool} :
    (s.setActive srgName active).seqNums = s.seqNums := by
  unfold setActive
  split <;> rfl

theorem seqNums_handleEvent {data : CGNATMappingEvent Mapping} (name : String) :
    ((s.handleEvent mappingToCheckpoint data).1.seqNums name).isSome = (s.seqNums name).isSome := by
  unfold handleEvent
  split
  · rfl
  · split
    · rename_i n _ hn
      exact SyncSender.isSome_update hn name
    · rfl

end
end CGNATSyncSender

/-! ## The manager -/

structure Manager (S M : Type) where
  srgs : String → Option SRGStateMachine
  syncSender : SyncSender S
  cgnatSyncSender : CGNATSyncSender M
  /-- The transitions that have still to drive the senders, and those that have. -/
  undriven : List StateTransition
  driven : List StateTransition

inductive ManagerEvent (Session Mapping : Type) where
  | transition (srgName : String) (newState : SRGState)
  | drive (i : Nat)
  | session (data : SessionLifecycleEvent Session)
  | mutation (data : SubscriberMutationResultEvent Session)
  | mapping (data : CGNATMappingEvent Mapping)
  | dequeue

namespace StateTransition

def Rises (t : StateTransition) : Prop := t.newState.IsActive ∧ ¬ t.oldState.IsActive
deriving Decidable

def Falls (t : StateTransition) : Prop := ¬ t.newState.IsActive ∧ t.oldState.IsActive
deriving Decidable

def drive (t : StateTransition) (b : Bool) : Bool :=
  if t.Rises then true else if t.Falls then false else b

variable (ts : List StateTransition)

/-- Whether the last change of activity among some transitions is a rise. -/
def lastRises : Bool := ts.foldl (fun b t => t.drive b) false

theorem lastRises_append (t : StateTransition) :
    lastRises (ts ++ [t]) = t.drive (lastRises ts) := by
  unfold lastRises
  rw [List.foldl_append]
  rfl

end StateTransition

namespace Manager
variable {S M Session Mapping : Type} (getSRGName : Session → String)
  (sessionToCheckpoint : Session → S) (mappingToCheckpoint : String → Mapping → M) (m : Manager S M)

/-- The part of `driveSync` that concerns the senders. -/
def driveSync (t : StateTransition) : Manager S M :=
  if t.Rises then
    { m with
      syncSender := m.syncSender.setActive true
      cgnatSyncSender := m.cgnatSyncSender.setActive t.srgName true }
  else if t.Falls then
    { m with
      syncSender := m.syncSender.setActive false
      cgnatSyncSender := m.cgnatSyncSender.setActive t.srgName false }
  else m

def transition (srgName : String) (newState : SRGState) : Manager S M :=
  match m.srgs srgName with
  | none => m
  | some sm =>
    let made := sm.transitionTo newState
    { m with
      srgs := update m.srgs srgName (some made.1)
      undriven := m.undriven ++ made.2.toList }

def next : ManagerEvent Session Mapping → Option (Manager S M)
  | .transition srgName newState => some (m.transition srgName newState)
  | .drive i =>
    m.undriven[i]?.map fun t =>
      { m.driveSync t with undriven := m.undriven.eraseIdx i, driven := m.driven ++ [t] }
  | .session data =>
    some { m with
      syncSender := (m.syncSender.handleEvent getSRGName sessionToCheckpoint data).1 }
  | .mutation data =>
    some { m with
      syncSender := (m.syncSender.handleMutationResult getSRGName sessionToCheckpoint data).1 }
  | .mapping data =>
    some { m with
      cgnatSyncSender := (m.cgnatSyncSender.handleEvent mappingToCheckpoint data).1 }
  | .dequeue => some { m with syncSender := m.syncSender.dequeue.1 }

structure Initial (m : Manager S M) : Prop where
  srgs : ∀ name, ∀ sm ∈ m.srgs name, sm.name = name ∧ sm.state = .init
  syncSender : ∃ backlogSize, m.syncSender = .new backlogSize fun name => (m.srgs name).isSome
  cgnatSyncSender : m.cgnatSyncSender = .new fun name => (m.srgs name).isSome
  undriven : m.undriven = []
  driven : m.driven = []

def machine : Machine (Manager S M) (ManagerEvent Session Mapping) :=
  .ofNext Initial (next getSRGName sessionToCheckpoint mappingToCheckpoint)

/-! ## When a session event is replicated -/

variable {getSRGName sessionToCheckpoint mappingToCheckpoint}
variable {m m' : Manager S M} {e : ManagerEvent Session Mapping} {name : String}
  {t : StateTransition} {newState : SRGState} {srgName : String}

theorem active_driveSync : (m.driveSync t).syncSender.active = t.drive m.syncSender.active := by
  unfold driveSync drive
  split
  · rfl
  · split <;> rfl

structure Configured (m : Manager S M) : Prop where
  name : ∀ name, ∀ sm ∈ m.srgs name, sm.name = name
  backlogs : ∀ name, (m.syncSender.backlogs name).isSome = (m.srgs name).isSome
  seqNums : ∀ name, (m.syncSender.seqNums name).isSome = (m.srgs name).isSome
  cgnatSeqNums : ∀ name, (m.cgnatSyncSender.seqNums name).isSome = (m.srgs name).isSome

theorem Configured.init (h : m.Initial) : m.Configured := by
  obtain ⟨backlogSize, hsender⟩ := h.syncSender
  constructor
  · intro name sm hsm
    exact (h.srgs name sm hsm).1
  · intro name
    rw [hsender]
    exact SyncSender.isSome_ite _ _
  · intro name
    rw [hsender]
    exact SyncSender.isSome_ite _ _
  · intro name
    rw [h.cgnatSyncSender]
    exact SyncSender.isSome_ite _ _

theorem Configured.of_keeps {s : SyncSender S} (hc : m.Configured) (hs : m.syncSender.Keeps s) :
    Configured { m with syncSender := s } where
  name := hc.name
  backlogs name := (hs.backlogs name).trans (hc.backlogs name)
  seqNums name := (hs.seqNums name).trans (hc.seqNums name)
  cgnatSeqNums := hc.cgnatSeqNums

theorem srgs_transition : (m.transition srgName newState).srgs name =
      if name = srgName then (m.srgs name).map ({ · with state := newState })
      else m.srgs name := by
  unfold transition
  cases h : m.srgs srgName with
  | none =>
    by_cases hname : name = srgName
    · rw [if_pos hname, hname, h]
      rfl
    · rw [if_neg hname]
  | some sm =>
    by_cases hname : name = srgName
    · subst hname
      rw [if_pos rfl, h]
      dsimp only
      rw [update_self, SRGStateMachine.transitionTo_fst]
      rfl
    · rw [if_neg hname]
      exact update_of_ne hname ..

theorem Configured.transition (hc : m.Configured) : (m.transition srgName newState).Configured := by
  have hsome name :
      ((m.transition srgName newState).srgs name).isSome = (m.srgs name).isSome := by
    rw [srgs_transition]
    split
    · exact isSome_map
    · rfl
  have hsender : (m.transition srgName newState).syncSender = m.syncSender ∧
      (m.transition srgName newState).cgnatSyncSender = m.cgnatSyncSender := by
    unfold Manager.transition
    split <;> exact ⟨rfl, rfl⟩
  constructor
  · intro name sm hsm
    rw [srgs_transition] at hsm
    split at hsm
    · obtain ⟨sm', hsm', rfl⟩ := map_eq_some_iff.mp hsm
      exact hc.name name sm' hsm'
    · exact hc.name name sm hsm
  · intro name
    rw [hsender.1, hsome]
    exact hc.backlogs name
  · intro name
    rw [hsender.1, hsome]
    exact hc.seqNums name
  · intro name
    rw [hsender.2, hsome]
    exact hc.cgnatSeqNums name

theorem Configured.driveSync {undriven driven : List StateTransition} (hc : m.Configured) :
    Configured { m.driveSync t with undriven := undriven, driven := driven } := by
  have hset srgName active name :
      ((m.cgnatSyncSender.setActive srgName active).seqNums name).isSome =
        (m.srgs name).isSome := by
    rw [CGNATSyncSender.seqNums_setActive]
    exact hc.cgnatSeqNums name
  unfold Manager.driveSync
  split
  · exact { hc with cgnatSeqNums := hset _ _ }
  · split
    · exact { hc with cgnatSeqNums := hset _ _ }
    · exact { hc with }

theorem Configured.next (hc : m.Configured)
    (hstep : m.next getSRGName sessionToCheckpoint mappingToCheckpoint e = some m') :
    m'.Configured := by
  cases e with
  | transition srgName newState =>
    cases hstep
    exact hc.transition
  | drive i =>
    obtain ⟨t, -, rfl⟩ := map_eq_some_iff.mp hstep
    exact hc.driveSync
  | session data =>
    cases hstep
    exact hc.of_keeps SyncSender.keeps_handleEvent
  | mutation data =>
    cases hstep
    exact hc.of_keeps SyncSender.keeps_handleMutationResult
  | mapping data =>
    cases hstep
    refine ⟨hc.name, hc.backlogs, hc.seqNums, fun name => ?_⟩
    exact (CGNATSyncSender.seqNums_handleEvent name).trans (hc.cgnatSeqNums name)
  | dequeue =>
    cases hstep
    exact hc.of_keeps SyncSender.keeps_dequeue

theorem active_next (hflag : m.syncSender.active = lastRises m.driven)
    (hstep : m.next getSRGName sessionToCheckpoint mappingToCheckpoint e = some m') :
    m'.syncSender.active = lastRises m'.driven := by
  cases e with
  | transition srgName newState =>
    cases hstep
    unfold transition
    split <;> exact hflag
  | drive i =>
    obtain ⟨t, -, rfl⟩ := map_eq_some_iff.mp hstep
    rw [lastRises_append, active_driveSync, hflag]
  | session data =>
    cases hstep
    exact SyncSender.keeps_handleEvent.active.trans hflag
  | mutation data =>
    cases hstep
    exact SyncSender.keeps_handleMutationResult.active.trans hflag
  | mapping data =>
    cases hstep
    exact hflag
  | dequeue =>
    cases hstep
    exact SyncSender.keeps_dequeue.active.trans hflag

theorem configured_of_reach {ok : Manager S M → ManagerEvent Session Mapping → Prop}
    (hreach : (machine getSRGName sessionToCheckpoint mappingToCheckpoint).Reach ok m) :
    m.Configured ∧ m.syncSender.active = lastRises m.driven := by
  apply hreach.invariant fun m =>
    m.Configured ∧ m.syncSender.active = lastRises m.driven
  · intro m hinit
    refine ⟨.init hinit, ?_⟩
    obtain ⟨backlogSize, hsender⟩ := hinit.syncSender
    rw [hsender, hinit.driven]
    rfl
  · rintro m e m' ⟨hc, hflag⟩ - hstep
    exact ⟨hc.next hstep, active_next hflag hstep⟩

/-- A session event is handed to the sender just when its group is active, exactly
when the group's activity is that of the change that was driven last, whichever
group it was of. -/
theorem replicates_iff
    (hreach : (machine getSRGName sessionToCheckpoint mappingToCheckpoint).Reach
      (fun _ _ => True) m)
    {sess : Session} {released : Bool} {sm : SRGStateMachine}
    (hsrg : m.srgs (getSRGName sess) = some sm) :
    ((m.syncSender.handleEvent getSRGName sessionToCheckpoint ⟨some sess, released⟩).2.isSome ↔
        sm.state.IsActive) ↔
      ((lastRises m.driven ∧ getSRGName sess ≠ "") ↔ sm.state.IsActive) := by
  obtain ⟨hc, hflag⟩ := configured_of_reach hreach
  have hbacklog := hc.backlogs (getSRGName sess)
  have hseq := hc.seqNums (getSRGName sess)
  rw [hsrg, isSome_some] at hbacklog hseq
  rw [SyncSender.isSome_handleEvent, hbacklog, hseq, hflag]
  simp only [and_true]

/-! ## Two groups -/

def groups (name : String) : Option SRGStateMachine :=
  if name = "north" ∨ name = "south" then
    some ⟨name, 100, false, "node-a", .init, 100, 0, .init⟩
  else none

def northSouth : Manager String Unit where
  srgs := groups
  syncSender := .new 16 fun name => (groups name).isSome
  cgnatSyncSender := .new fun name => (groups name).isSome
  undriven := []
  driven := []

def northSouthMachine : Machine (Manager String Unit) (ManagerEvent String Unit) :=
  machine id id fun _ _ => ()

theorem northSouth_initial : northSouth.Initial where
  srgs name sm hsm := by
    change groups name = some sm at hsm
    unfold groups at hsm
    split at hsm
    · cases hsm
      exact ⟨rfl, rfl⟩
    · cases hsm
  syncSender := ⟨16, rfl⟩
  cgnatSyncSender := rfl
  undriven := rfl
  driven := rfl

/-- A group's state and whether an event of a session in it is replicated. -/
def replicated (m : Manager String Unit) (name : String) : Option SRGState × Bool :=
  ((m.srgs name).map (·.state), (m.syncSender.handleEvent id id ⟨some name, false⟩).2.isSome)

def path (name : String) (states : List SRGState) : List (ManagerEvent String Unit) :=
  states.flatMap fun s => [.transition name s, .drive 0]

theorem replicates_iff_north :
    ∃ m : Manager String Unit, m.replicated "north" = (some .active, true) ∧
      (((m.syncSender.handleEvent id id ⟨some "north", false⟩).2.isSome ↔
          active.IsActive) ↔
        ((lastRises m.driven ∧ "north" ≠ "") ↔ active.IsActive)) := by
  obtain ⟨m, hreach, hm⟩ : ∃ m, northSouthMachine.Reach (fun _ _ => True) m ∧
      m.replicated "north" = (some .active, true) :=
    exists_reach_of_run northSouth_initial
      (path "north" [.waiting, .ready, .active] ++ path "south" [.waiting, .ready, .standby])
      (by decide +kernel)
  obtain ⟨sm, hsrg, hstate⟩ := map_eq_some_iff.mp (congrArg Prod.fst hm)
  refine ⟨m, hm, ?_⟩
  rw [← hstate]
  exact replicates_iff hreach hsrg

/-- An event of a group in standby is replicated because another group is active,
and when a third transition makes that group inactive, the events of an active
group are lost. -/
theorem flag_is_shared :
    (∃ m, northSouthMachine.Reach (fun _ _ => True) m ∧ m.undriven = [] ∧
      m.replicated "south" = (some .standby, true)) ∧
    ∃ m, northSouthMachine.Reach (fun _ _ => True) m ∧ m.undriven = [] ∧
      m.replicated "north" = (some .active, false) :=
  ⟨exists_reach_of_run northSouth_initial
      (path "north" [.waiting, .ready, .active] ++ path "south" [.waiting, .ready, .standby])
      (by decide +kernel),
    exists_reach_of_run northSouth_initial
      (path "north" [.waiting, .ready, .active] ++
        path "south" [.waiting, .ready, .active, .standby])
      (by decide +kernel)⟩

end Manager
end Osvbng.Ha

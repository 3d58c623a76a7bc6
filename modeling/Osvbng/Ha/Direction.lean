import Osvbng.Ha.Pair
import Osvbng.Lib.LeaseTable
import Osvbng.Lib.NetIP

/-!
# The direction in which a node allocates

So that two nodes do not hand out the same address, one of them walks the shared pools
upwards and the other downwards. The direction belongs to the whole node: each election
of a group sets it for all pools, by whether the node wins that group.

Each node has any number of groups. Heartbeats are handled group by group, in any
order, and a transition is driven some time after it was made.

`opposite_iff` says what follows for two pools: they are walked in opposite directions
exactly when, of the groups whose elections the nodes drove last, one node was to win its
own and the other was not, as the groups stood when the drive began.
-/

namespace Osvbng.Ha.Direction
open Function Option List Lib Lib.NetIP Machine

/-! ## Pools with a direction -/

/-- What the two kinds of allocators have in common: their keys in ascending order. -/
structure DirectedAllocator (K : Type) where
  keys : List K
  keys_nodup : keys.Nodup
  table : LeaseTable K String
  ascending : Bool

namespace DirectedAllocator
variable {K : Type} (a : DirectedAllocator K)

def unleased : List K := a.keys.filter fun k => (a.table.leases k).isNone

variable (ascending : Bool)

def freeList : List K :=
  if ascending then a.unleased.reverse else a.unleased

theorem mem_freeList {a : DirectedAllocator K} {ascending : Bool} {k : K} :
    k ∈ a.freeList ascending ↔ k ∈ a.unleased := by
  unfold freeList
  split
  · exact mem_reverse
  · exact Iff.rfl

def buildFreeList : LeaseTable K String where
  leases := a.table.leases
  free := a.freeList ascending
  free_nodup := by
    have hnodup : a.unleased.Nodup := a.keys_nodup.filter _
    unfold freeList
    split
    · exact nodup_reverse.mpr hnodup
    · exact hnodup
  not_leased k hk :=
    isNone_iff_eq_none.mp (mem_filter.mp (mem_freeList.mp hk)).2

def setDirection : DirectedAllocator K :=
  if a.ascending = ascending then a
  else { a with ascending := ascending, table := a.buildFreeList ascending }

@[simp] theorem ascending_setDirection : (a.setDirection ascending).ascending = ascending := by
  unfold setDirection
  split
  · assumption
  · rfl

end DirectedAllocator

structure Registry where
  allocators : String → Option (DirectedAllocator Addr)
  ianaAllocators : String → Option (DirectedAllocator Addr)
  pdAllocators : String → Option (DirectedAllocator Nat)

inductive PoolKey where
  | v4 (name : String)
  | iana (name : String)
  | pd (name : String)

namespace Registry
variable (r : Registry) (ascending : Bool)

def setAllocDirection : Registry where
  allocators name := (r.allocators name).map (·.setDirection ascending)
  ianaAllocators name := (r.ianaAllocators name).map (·.setDirection ascending)
  pdAllocators name := (r.pdAllocators name).map (·.setDirection ascending)

def direction : PoolKey → Option Bool
  | .v4 name => (r.allocators name).map (·.ascending)
  | .iana name => (r.ianaAllocators name).map (·.ascending)
  | .pd name => (r.pdAllocators name).map (·.ascending)

def Walks : Prop := ∀ pool, ∀ d ∈ r.direction pool, d = ascending

theorem walks_setAllocDirection : (r.setAllocDirection ascending).Walks ascending := by
  have hset : ∀ {K : Type} (o : Option (DirectedAllocator K)),
      ∀ d ∈ (o.map (·.setDirection ascending)).map (·.ascending), d = ascending := by
    intro K o d hd
    obtain ⟨a, ha, rfl⟩ := map_eq_some_iff.mp hd
    obtain ⟨b, -, rfl⟩ := map_eq_some_iff.mp ha
    exact b.ascending_setDirection ascending
  intro pool d hd
  cases pool with
  | v4 | iana | pd => exact hset _ d hd

end Registry

/-! ## Nodes with any number of groups -/

structure SRGStatus where
  srgName : String
  priority : UInt32
  state : SRGState

structure HeartbeatMessage where
  nodeID : String
  srgStatuses : List SRGStatus

/-- A heartbeat that is being handled: the groups it has still to visit. -/
structure Handler where
  firstContact : Bool
  nodeID : String
  left : List SRGStatus

structure Node where
  nodeID : String
  srgs : String → Option SRGStateMachine
  /-- The names of the groups, in the order in which a loop visits them. -/
  names : List String
  peerNodeID : String
  handlers : List Handler
  undriven : List StateTransition
  registry : Registry

namespace Node
variable (node : Node)

def call (name : String)
    (method : SRGStateMachine → SRGStateMachine × Option StateTransition) : Node :=
  match node.srgs name with
  | none => node
  | some sm =>
    { node with
      srgs := update node.srgs name (some (method sm).1)
      undriven := node.undriven ++ (method sm).2.toList }

def buildHeartbeatMessage : HeartbeatMessage where
  nodeID := node.nodeID
  srgStatuses := node.names.filterMap fun name =>
    (node.srgs name).map fun sm => ⟨name, sm.effectivePriority, sm.state⟩

/-- What `handlePeerHeartbeat` does before its loop. -/
def receive (msg : HeartbeatMessage) : Node :=
  { node with
    peerNodeID := msg.nodeID
    handlers := node.handlers ++ [⟨node.peerNodeID = "", msg.nodeID, msg.srgStatuses⟩] }

/-- One turn of the loop of `handlePeerHeartbeat`. -/
def visit (h : Handler) (status : SRGStatus) : Node :=
  match node.srgs status.srgName with
  | none => node
  | some sm =>
    if h.firstContact ∨ sm.state = .waiting ∨ sm.state = .activeSolo then
      let node := node.call status.srgName (·.peerDiscovered status.priority status.state)
      if (node.srgs status.srgName).any (·.state = .ready) then
        node.call status.srgName (·.elect h.nodeID)
      else node
    else node.call status.srgName (·.peerHeartbeatUpdate status.priority h.nodeID status.state)

/-- The part of `driveSync` that sets the direction. -/
def driveSync (t : StateTransition) : Node :=
  if (t.newState = .active ∨ t.newState = .standby) ∧ t.oldState = .ready then
    match node.srgs t.srgName with
    | none => node
    | some sm =>
      let ascending := decide (sm.WinsElection node.peerNodeID)
      { node with registry := node.registry.setAllocDirection ascending }
  else node

def handlePeerLost : Node :=
  node.names.foldl (fun node name => node.call name (·.peerLost)) { node with peerNodeID := "" }

/-- Every election is over and has been driven. -/
def Elected : Prop :=
  node.undriven = [] ∧
    ∀ name ∈ node.names, ∀ sm ∈ node.srgs name, sm.state = .active ∨ sm.state = .standby
deriving Decidable

structure Initial : Prop where
  nodeID_ne : node.nodeID ≠ ""
  srgs : ∀ name, ∀ sm ∈ node.srgs name,
    sm.name = name ∧ sm.localNodeID = node.nodeID ∧ sm.state = .init
  peerNodeID : node.peerNodeID = ""
  handlers : node.handlers = []
  undriven : node.undriven = []
  registry : node.registry.Walks true

end Node

structure Nodes where
  node : Side → Node
  inFlight : Side → List HeartbeatMessage
  /-- The transitions that have been driven, each with the node before. This is not part of
  the program. -/
  drives : Side → List (Node × StateTransition)

inductive NodeEvent where
  | start (name : String)
  | send
  | receive (i : Nat)
  /-- A handler visits one of the groups it has left. -/
  | visit (i j : Nat)
  | drive (i : Nat)
  | peerLost
  | trackerPromote (name : String)
  | adjustPriority (name : String) (delta : Int32)
  | switchover (name : String) (force : Bool)

namespace Nodes

def set (s : Nodes) (n : Side) (node : Node) : Nodes :=
  { s with node := update s.node n node }

/-- What a handler does to its node, and the handler without the group it visits. -/
def visit (node : Node) (i j : Nat) : Option Node := do
  let h ← node.handlers[i]?
  let status ← h.left[j]?
  let node := node.visit h status
  pure { node with handlers := node.handlers.set i { h with left := h.left.eraseIdx j } }

def next (s : Nodes) : Side × NodeEvent → Option Nodes
  | (n, .start name) => some (s.set n ((s.node n).call name (·.start)))
  | (n, .send) =>
    some { s with
      inFlight := update s.inFlight n.other
        (s.inFlight n.other ++ [(s.node n).buildHeartbeatMessage]) }
  | (n, .receive i) => (s.inFlight n)[i]?.map fun msg =>
    { s.set n ((s.node n).receive msg) with
      inFlight := update s.inFlight n ((s.inFlight n).eraseIdx i) }
  | (n, .visit i j) => (visit (s.node n) i j).map (s.set n)
  | (n, .drive i) => (s.node n).undriven[i]?.map fun t =>
    { s.set n { (s.node n).driveSync t with undriven := (s.node n).undriven.eraseIdx i } with
      drives := update s.drives n (s.drives n ++ [(s.node n, t)]) }
  | (n, .peerLost) => some (s.set n (s.node n).handlePeerLost)
  | (n, .trackerPromote name) => some (s.set n ((s.node n).call name (·.trackerPromote)))
  | (n, .adjustPriority name delta) =>
    some (s.set n ((s.node n).call name fun sm => (sm.adjustPriority delta, none)))
  | (n, .switchover name force) =>
    some (s.set n ((s.node n).call name (·.switchover force)))

structure Initial (s : Nodes) : Prop where
  distinct : (s.node .left).nodeID ≠ (s.node .right).nodeID
  node : ∀ n, (s.node n).Initial
  inFlight : ∀ n, s.inFlight n = []
  drives : ∀ n, s.drives n = []

def machine : Machine Nodes (Side × NodeEvent) := .ofNext Initial next

variable {s s' : Nodes} {e : Side × NodeEvent} {node : Node}

theorem node_set (n k : Side) (node : Node) :
    (s.set n node).node k = if k = n then node else s.node k :=
  update_apply ..

/-! ### What sets the direction -/

/-- The group whose election the transition ends, and the peer it was held with. -/
def election : Node × StateTransition → Option (SRGStateMachine × String)
  | (before, t) =>
    if (t.newState = .active ∨ t.newState = .standby) ∧ t.oldState = .ready then
      (before.srgs t.srgName).map fun sm => (sm, before.peerNodeID)
    else none

/-- Whether the node was to win the election that it drove last. -/
def lastWins (s : Nodes) (n : Side) : Bool :=
  ((s.drives n).filterMap election).getLast?.all fun e => e.1.WinsElection e.2

variable (node)

theorem registry_call (name : String)
    (method : SRGStateMachine → SRGStateMachine × Option StateTransition) :
    (node.call name method).registry = node.registry := by
  unfold Node.call
  split <;> rfl

theorem registry_visit (h : Handler) (status : SRGStatus) :
    (node.visit h status).registry = node.registry := by
  unfold Node.visit
  split
  · rfl
  · split
    · dsimp only
      split
      · rw [registry_call, registry_call]
      · exact registry_call ..
    · exact registry_call ..

theorem registry_handlePeerLost : node.handlePeerLost.registry = node.registry := by
  have hloop : ∀ (names : List String) (node : Node),
      (names.foldl (fun node name => node.call name (·.peerLost)) node).registry =
        node.registry := by
    intro names
    induction names with
    | nil => exact fun _ => rfl
    | cons name names ih => exact fun node => (ih _).trans (registry_call node name _)
  exact hloop node.names { node with peerNodeID := "" }

theorem registry_driveSync (t : StateTransition) : (node.driveSync t).registry =
    (election (node, t)).elim node.registry fun e =>
      node.registry.setAllocDirection (e.1.WinsElection e.2) := by
  unfold Node.driveSync election
  dsimp only
  split
  · cases node.srgs t.srgName <;> rfl
  · rfl

/-- The pools go the way of the election that was driven last. -/
def Led (s : Nodes) : Prop := ∀ n, (s.node n).registry.Walks (s.lastWins n)

variable {node}

theorem Led.set (h : s.Led) {n : Side} (hnodes : s'.node = (s.set n node).node)
    (hdrives : s'.drives = s.drives) (hnode : node.registry = (s.node n).registry) : s'.Led := by
  intro k
  unfold lastWins
  rw [hdrives, hnodes, node_set]
  split
  · rename_i hk
    subst hk
    rw [hnode]
    exact h k
  · exact h k

theorem Led.drive (h : s.Led) (n : Side) (t : StateTransition) (undriven : List StateTransition) :
    Led { s.set n { (s.node n).driveSync t with undriven := undriven } with
      drives := update s.drives n (s.drives n ++ [(s.node n, t)]) } := by
  intro k
  unfold lastWins
  dsimp only
  rw [node_set, update_apply]
  split
  · rename_i hk
    subst hk
    change ((s.node k).driveSync t).registry.Walks _
    rw [registry_driveSync]
    cases helection : election (s.node k, t) with
    | none =>
      rw [filterMap_append, filterMap_cons_none helection, filterMap_nil, append_nil]
      exact h k
    | some e =>
      rw [filterMap_append, filterMap_cons_some helection, filterMap_nil, getLast?_concat]
      exact Registry.walks_setAllocDirection _ _
  · exact h k

theorem led_next (h : s.Led) (hstep : s.next e = some s') : s'.Led := by
  obtain ⟨k, e⟩ := e
  cases e with
  | start name | trackerPromote | adjustPriority | switchover =>
    cases hstep
    exact h.set rfl rfl (registry_call ..)
  | send =>
    cases hstep
    exact h
  | receive i =>
    obtain ⟨msg, -, rfl⟩ := map_eq_some_iff.mp hstep
    exact h.set rfl rfl rfl
  | visit i j =>
    obtain ⟨node, hvisit, rfl⟩ := map_eq_some_iff.mp hstep
    obtain ⟨handler, -, hvisit⟩ := bind_eq_some_iff.mp hvisit
    obtain ⟨status, -, hvisit⟩ := bind_eq_some_iff.mp hvisit
    cases hvisit
    exact h.set rfl rfl (registry_visit ..)
  | drive i =>
    obtain ⟨t, -, rfl⟩ := map_eq_some_iff.mp hstep
    exact h.drive k t _
  | peerLost =>
    cases hstep
    exact h.set rfl rfl (registry_handlePeerLost _)

theorem led_of_reach {ok : Nodes → Side × NodeEvent → Prop} (hreach : machine.Reach ok s) :
    s.Led := by
  apply hreach.invariant Led
  · intro s hinit n
    unfold lastWins
    rw [hinit.drives n]
    exact (hinit.node n).registry
  · exact fun s e s' h _ hstep => led_next h hstep

/-- Two pools are walked in opposite directions exactly when one node was to win the election
that it drove last and the other was not, whichever groups they were of. -/
theorem opposite_iff (hreach : machine.Reach (fun _ _ => True) s)
    {pool pool' : PoolKey} {d d' : Bool}
    (hd : (s.node .left).registry.direction pool = some d)
    (hd' : (s.node .right).registry.direction pool' = some d') :
    d ≠ d' ↔ s.lastWins .left ≠ s.lastWins .right := by
  rw [led_of_reach hreach .left pool d hd, led_of_reach hreach .right pool' d' hd']

/-! ## Two groups, each won by one node -/

def pool : DirectedAllocator Addr where
  keys := [.v4 0x0a000001#32, .v4 0x0a000002#32]
  keys_nodup := by decide
  table := .ofFree [.v4 0x0a000002#32, .v4 0x0a000001#32] (by decide)
  ascending := true

def configured (nodeID : String) (north south : UInt32) : Node where
  nodeID := nodeID
  srgs name :=
    if name = "north" then some ⟨"north", north, false, nodeID, .init, north, 0, .init⟩
    else if name = "south" then some ⟨"south", south, false, nodeID, .init, south, 0, .init⟩
    else none
  names := ["north", "south"]
  peerNodeID := ""
  handlers := []
  undriven := []
  registry := ⟨fun name => if name = "p" then some pool else none, fun _ => none, fun _ => none⟩

def split : Nodes where
  node
    | .left => configured "a" 200 100
    | .right => configured "b" 100 200
  inFlight _ := []
  drives _ := []

theorem configured_initial {nodeID : String} (hne : nodeID ≠ "") (north south : UInt32) :
    (configured nodeID north south).Initial := by
  refine ⟨hne, fun name sm hsm => ?_, rfl, rfl, rfl, fun key d hd => ?_⟩
  · change (if _ then _ else if _ then _ else none) = some sm at hsm
    split_ifs at hsm with hnorth hsouth
    · cases hsm
      exact ⟨hnorth.symm, rfl, rfl⟩
    · cases hsm
      exact ⟨hsouth.symm, rfl, rfl⟩
  · cases key with
    | v4 name =>
      obtain ⟨a, ha, rfl⟩ := map_eq_some_iff.mp hd
      change (if name = "p" then some pool else none) = some a at ha
      split_ifs at ha
      cases ha
      rfl
    | iana | pd => cases hd

theorem split_initial : split.Initial := by
  refine ⟨by decide, fun n => ?_, fun _ => rfl, fun _ => rfl⟩
  cases n with
  | left | right => exact configured_initial (by decide) _ _

def exchange : List (Side × NodeEvent) :=
  [.left, .right].flatMap (fun n => [(n, .start "north"), (n, .start "south"), (n, .drive 0),
    (n, .drive 0), (n, .send)]) ++ [(.left, .receive 0), (.right, .receive 0)]

def elects (n : Side) (j : Nat) : List (Side × NodeEvent) :=
  [(n, .visit 0 j), (n, .drive 0), (n, .drive 0)]

/-- Both nodes visit north first. -/
theorem opposite_iff_split :
    ∃ s, machine.Reach (fun _ _ => True) s ∧ (∀ n, (s.node n).Elected) ∧
      (true ≠ false ↔ s.lastWins .left ≠ s.lastWins .right) := by
  obtain ⟨s, hreach, helected, hleft, hright⟩ :
      ∃ s, machine.Reach (fun _ _ => True) s ∧ (∀ n, (s.node n).Elected) ∧
        (s.node .left).registry.direction (.v4 "p") = some false ∧
        (s.node .right).registry.direction (.v4 "p") = some true :=
    exists_reach_of_run split_initial
      (exchange ++ elects .left 0 ++ elects .left 0 ++ elects .right 0 ++ elects .right 0)
      (by decide +kernel)
  refine ⟨s, hreach, helected, ?_⟩
  rw [ne_comm]
  exact opposite_iff hreach hleft hright

/-- The nodes visit the groups in different orders, and end up going the same way. -/
theorem same_direction :
    ∃ s, machine.Reach (fun _ _ => True) s ∧ (∀ n, (s.node n).Elected) ∧
      (s.node .left).registry.direction (.v4 "p") = some false ∧
      (s.node .right).registry.direction (.v4 "p") = some false :=
  exists_reach_of_run split_initial
    (exchange ++ elects .left 0 ++ elects .left 0 ++ elects .right 1 ++ elects .right 0)
    (by decide +kernel)

end Nodes
end Osvbng.Ha.Direction

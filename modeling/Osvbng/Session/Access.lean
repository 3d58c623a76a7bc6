import Osvbng.Lib.Run
import Osvbng.Session.Exclusivity

/-!
# Two access protocols on one VLAN

The session tables of the IPoE and the PPPoE component, the exclusivity registry
between them and the bus that carries terminate events. A session that claims a
place of the other protocol publishes a terminate event for it. Every event goes to
both components, each of which looks for the session it means in its own tables, by
the place first and then by the identifier of the session.

An event of the model is what happens under one lock. An IPoE session is stored, and
claims its place later; it is terminated in two steps; the clean-up pass notes the
sessions it found stale and deletes them after. Deliveries are made in any order.
A rejected PPPoE session stays in the tables until the client or the echo timer ends
it, so it has no event of its own. Restarts are left out.

Next to the program stands the history: the claims that found an owner of the other
protocol, and the sessions that such an eviction has ended.
-/

namespace Osvbng.Session
open Function Lib

inductive Family where
  | v4 | v6
deriving DecidableEq

/-- The family is part of the key unless the VLANs have unified sessions. -/
structure SessionKey where
  family : Option Family
  tuple : TupleKey
deriving DecidableEq

structure SessionState where
  tuple : TupleKey
  mixedAccess : Bool
  closing : Bool

/-- A terminate event; evictions name the place too. -/
structure SubscriberTerminateEvent where
  key : Option TupleKey
  sessionID : Nat

inductive First where
  | discover | request | solicit
deriving DecidableEq

def First.family : First → Family
  | .discover => .v4
  | .request => .v4
  | .solicit => .v6

structure Access where
  isUnified : UInt16 → UInt16 → Bool
  isMixedAccessSVLAN : UInt16 → Bool
  registry : Registry
  nextID : Nat
  /-- Every session there ever was; those that are in the index of their component by
  session identifier. -/
  object : Owner → Option SessionState
  index : Owner → Bool
  /-- The tables by place. -/
  ipoeSessions : SessionKey → Option Nat
  pppoeSessions : TupleKey → Option Nat
  /-- IPoE handlers that are under way: sessions that are stored and have not claimed
  their place yet, those the clean-up pass is going to delete, those being terminated. -/
  claiming : List Nat
  toDelete : List (SessionKey × Nat)
  terminating : List Nat
  deliveries : List (Protocol × SubscriberTerminateEvent)
  /-- The history: claimer and previous owner; sessions ended by an eviction. -/
  evictions : List (Owner × Owner)
  evicted : List Owner

inductive Event where
  | first (message : First) (tuple : TupleKey)
  | claim (i : Nat)
  | release (key : SessionKey) (deleteSession : Bool)
  | aaaReject (sessionID : Nat)
  | scan (key : SessionKey)
  | sweep (i : Nat)
  | finish (i : Nat)
  | padr (tuple : TupleKey)
  /-- The client or the echo timer ends a session; the dataplane refuses it. -/
  | padt (sessionID : Nat)
  | tearDown (sessionID : Nat)
  /-- An operator or a server ends a session. -/
  | disconnect (sessionID : Nat)
  | deliver (i : Nat)

namespace Access
variable (s : Access)

def makeSessionKey (family : Family) (t : TupleKey) : SessionKey :=
  ⟨if s.isUnified t.svlan t.cvlan then none else some family, t⟩

variable (ev : SubscriberTerminateEvent)

def publish : Access :=
  { s with deliveries := s.deliveries ++ [(.ipoe, ev), (.pppoe, ev)] }

def store (protocol : Protocol) (sess : SessionState) : Access :=
  { s with
    nextID := s.nextID + 1
    object := update s.object ⟨protocol, s.nextID⟩ (some sess)
    index := update s.index ⟨protocol, s.nextID⟩ true }

/-- The claim of a session, and the terminate event for an owner of the other
protocol. -/
def claimTuple (owner : Owner) (sess : SessionState) : Access :=
  if sess.mixedAccess then
    let (registry, prev) := s.registry.claim sess.tuple owner
    let s := { s with registry := registry }
    match prev with
    | none => s
    | some prev =>
      if prev.protocol = owner.protocol then s
      else
        publish { s with evictions := s.evictions ++ [(owner, prev)] }
          ⟨some sess.tuple, prev.sessionID⟩
  else s

def releaseTuple (owner : Owner) (sess : SessionState) : Access :=
  { s with registry :=
      if sess.mixedAccess then s.registry.release sess.tuple owner else s.registry }

/-! ## IPoE -/

/-- Only a session that starts with a Discover is made with `MixedAccess`. -/
def first (message : First) (t : TupleKey) : Access :=
  let key := s.makeSessionKey message.family t
  if (s.ipoeSessions key).isSome then s
  else
    let mixed := message = .discover && s.isMixedAccessSVLAN t.svlan
    { s.store .ipoe ⟨t, mixed, false⟩ with
      ipoeSessions := update s.ipoeSessions key (some s.nextID)
      claiming := s.claiming ++ [s.nextID] }

variable (i : Nat)

def claim : Option Access := do
  let id ← s.claiming[i]?
  let sess ← s.object ⟨.ipoe, id⟩
  some ({ s with claiming := s.claiming.eraseIdx i }.claimTuple ⟨.ipoe, id⟩ sess)

/-- The session leaves the tables; its place is not released. -/
def drop (id : Nat) (sess : SessionState) (keys : List SessionKey) : Access :=
  { s with
    object := update s.object ⟨.ipoe, id⟩ (some { sess with closing := true })
    index := update s.index ⟨.ipoe, id⟩ false
    ipoeSessions := fun key => if key ∈ keys then none else s.ipoeSessions key }

def bothKeys (t : TupleKey) : List SessionKey :=
  [s.makeSessionKey .v4 t, s.makeSessionKey .v6 t]

def release (key : SessionKey) (deleteSession : Bool) : Option Access := do
  let id ← s.ipoeSessions key
  let sess ← s.object ⟨.ipoe, id⟩
  some (if deleteSession then s.drop id sess [key] else s)

def aaaReject (id : Nat) : Option Access := do
  let sess ← s.object ⟨.ipoe, id⟩
  if s.index ⟨.ipoe, id⟩ then some (s.drop id sess (s.bothKeys sess.tuple)) else none

def scan (key : SessionKey) : Option Access :=
  (s.ipoeSessions key).map fun id => { s with toDelete := s.toDelete ++ [(key, id)] }

def sweep : Option Access := do
  let (key, id) ← s.toDelete[i]?
  let sess ← s.object ⟨.ipoe, id⟩
  some ({ s with toDelete := s.toDelete.eraseIdx i }.drop id sess [key])

def resolveTerminateTarget : Option Nat :=
  let byKey := ev.key.bind fun t =>
    (s.ipoeSessions (s.makeSessionKey .v4 t)).or (s.ipoeSessions (s.makeSessionKey .v6 t))
  byKey.or (if s.index ⟨.ipoe, ev.sessionID⟩ then some ev.sessionID else none)

/-- Evictions are the events that name a place. -/
def noteEvicted (owner : Owner) : Access :=
  if ev.key.isSome then { s with evicted := s.evicted ++ [owner] } else s

/-- The first half of `handleSubscriberTerminate`, up to the end of the lock. -/
def terminateIPoE : Access :=
  match s.resolveTerminateTarget ev with
  | none => s
  | some id =>
    match s.object ⟨.ipoe, id⟩ with
    | none => s
    | some sess =>
      if sess.closing then s
      else
        noteEvicted { s with
          object := update s.object ⟨.ipoe, id⟩ (some { sess with closing := true })
          terminating := s.terminating ++ [id] } ev ⟨.ipoe, id⟩

def finish : Option Access := do
  let id ← s.terminating[i]?
  let sess ← s.object ⟨.ipoe, id⟩
  some (({ s with terminating := s.terminating.eraseIdx i }.drop id sess
    (s.bothKeys sess.tuple)).releaseTuple ⟨.ipoe, id⟩ sess)

/-! ## PPPoE -/

/-- `handlePADR`: a new session takes the place in the table, whoever has it. -/
def padr (t : TupleKey) : Access :=
  let sess : SessionState := ⟨t, s.isMixedAccessSVLAN t.svlan, false⟩
  claimTuple { s.store .pppoe sess with
    pppoeSessions := update s.pppoeSessions t (some s.nextID) } ⟨.pppoe, s.nextID⟩ sess

def removeFromIndexes (id : Nat) (sess : SessionState) : Access :=
  releaseTuple { s with
    pppoeSessions := update s.pppoeSessions sess.tuple none
    index := update s.index ⟨.pppoe, id⟩ false } ⟨.pppoe, id⟩ sess

def tearDown (id : Nat) : Option Access :=
  (s.object ⟨.pppoe, id⟩).map (s.removeFromIndexes id)

def padt (id : Nat) : Option Access :=
  if s.index ⟨.pppoe, id⟩ then s.tearDown id else none

def resolveTerminateTargetLocked : Option Nat :=
  (ev.key.bind s.pppoeSessions).or
    (if s.index ⟨.pppoe, ev.sessionID⟩ then some ev.sessionID else none)

def terminatePPPoE : Access :=
  match s.resolveTerminateTargetLocked ev with
  | none => s
  | some id =>
    match s.object ⟨.pppoe, id⟩ with
    | none => s
    | some sess => (s.removeFromIndexes id sess).noteEvicted ev ⟨.pppoe, id⟩

/-! ## Both -/

def deliver : Option Access :=
  s.deliveries[i]?.map fun (protocol, ev) =>
    let s := { s with deliveries := s.deliveries.eraseIdx i }
    match protocol with
    | .ipoe => s.terminateIPoE ev
    | .pppoe => s.terminatePPPoE ev

def next : Event → Option Access
  | .first message t => some (s.first message t)
  | .claim i => s.claim i
  | .release key deleteSession => s.release key deleteSession
  | .aaaReject id => s.aaaReject id
  | .scan key => s.scan key
  | .sweep i => s.sweep i
  | .finish i => s.finish i
  | .padr t => some (s.padr t)
  | .padt id => s.padt id
  | .tearDown id => s.tearDown id
  | .disconnect id => some (s.publish ⟨none, id⟩)
  | .deliver i => s.deliver i

structure Initial (s : Access) : Prop where
  registry : ∀ t, s.registry.lookup t = none
  object : ∀ owner, s.object owner = none
  index : ∀ owner, s.index owner = false
  ipoeSessions : ∀ key, s.ipoeSessions key = none
  pppoeSessions : ∀ t, s.pppoeSessions t = none
  claiming : s.claiming = []
  toDelete : s.toDelete = []
  terminating : s.terminating = []
  deliveries : s.deliveries = []
  evictions : s.evictions = []
  evicted : s.evicted = []

def machine : Machine Access Event := .ofNext Initial next

/-! ## What should hold -/

def Holds (t : TupleKey) (owner : Owner) : Prop :=
  s.index owner = true ∧ (s.object owner).map (·.tuple) = some t
deriving Decidable

@[mk_iff]
structure Drained (s : Access) : Prop where
  deliveries : s.deliveries = []
  claiming : s.claiming = []
  terminating : s.terminating = []
  toDelete : s.toDelete = []

/-- A place has at most one live session, and the registry names it. -/
structure Exclusive (s : Access) (t : TupleKey) : Prop where
  unique : ∀ owner owner', s.Holds t owner → s.Holds t owner' → owner = owner'
  named : ∀ owner, s.registry.lookup t = some owner ↔ s.Holds t owner

def EvictionsHit : Prop :=
  ∀ claimer prev, (claimer, prev) ∈ s.evictions → s.index prev = false ∧ claimer ∉ s.evicted

end Access
end Osvbng.Session

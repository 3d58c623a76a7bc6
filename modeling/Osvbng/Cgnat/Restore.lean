import Osvbng.Cgnat.Component

/-!
# Restarts

What the component does when it starts with a database that has mappings, and when
the dataplane has come back without them. The order in which the database lists the
mappings, what is known of each session and the answers of the dataplane are part
of the event.

A mapping is programmed and then recorded, put off if its session is not there yet,
or deleted if its session or its pool is gone. A mapping that is put off is in the
pools all the same.
-/

namespace Osvbng.Cgnat
open Function Lib Lib.Slice Ha

/-- What is known of a session whose mapping is in the database. -/
structure Record where
  sessionID : String
  /-- The interface in the snapshot of the session, if there is one. -/
  snapshot : Option UInt32
  hasAccessRecord : Bool
  /-- The dataplane's answer for its mapping. -/
  programmed : Bool

namespace Record

def resolveIfIndex (r : Record) : Option UInt32 := r.snapshot.filter fun i => i ≠ 0

end Record

inductive Fate where
  | program (poolID : UInt32)
  | putOff
  | orphan
deriving DecidableEq

structure PoolSetup where
  name : String
  id : UInt32
  cfg : Pool
  prefixes : List InsidePrefix

namespace Component
variable (c : Component) (records : List Record)

def load : List (Record × SessionMapping) :=
  records.filterMap fun r => (c.persisted r.sessionID).map fun m =>
    (r, { m with sessionID := r.sessionID, swIfIndex := r.resolveIfIndex.getD m.swIfIndex })

def fate (r : Record) (m : SessionMapping) : Fate :=
  match r.resolveIfIndex with
  | none => if r.hasAccessRecord then .putOff else .orphan
  | some _ =>
    match c.poolIDMap m.poolName with
    | none => .orphan
    | some id => .program id

def programMapping (poolID : UInt32) (m : SessionMapping) : Component :=
  { c with
    dataplane := update c.dataplane ⟨poolID, subscriberOf m⟩
      (some (blockOf m)) }

def restoreLocally (m : SessionMapping) : Component :=
  match c.pools.restoreMappingIfAbsent m with
  | .error _ => c
  | .ok pools => c.give m.sessionID pools m

def commitRestoredPBA (m : SessionMapping) : Component :=
  let c := c.restoreLocally m
  { c with
    reverse := c.reverse.add m
    sessionPoolMap := update c.sessionPoolMap m.sessionID (some m.poolName)
    persisted := update c.persisted m.sessionID (some m)
    address := update c.address m.sessionID (some (subscriberOf m))
    claimant := update c.claimant (subscriberOf m) (some m.sessionID)
    committed := update c.committed m.sessionID (some m)
    last := update c.last m.sessionID (some .activation) }

def putOff (x : Record × SessionMapping) : Component :=
  if c.fate x.1 x.2 = .putOff then
    match c.pools.restoreMappingIfAbsent x.2 with
    | .error _ => c
    | .ok pools =>
      let c := c.give x.2.sessionID pools x.2
      { c with reverse := c.reverse.add x.2 }
  else c

variable (x : Record × SessionMapping)

def reprogram : Component :=
  match c.fate x.1 x.2 with
  | .program id => if x.1.programmed then (c.programMapping id x.2).commitRestoredPBA x.2 else c
  | _ => c

def deleteOrphan : Component :=
  if c.fate x.1 x.2 = .orphan then
    { c with persisted := update c.persisted x.2.sessionID none }
  else c

def restoreFromOpDB : Component :=
  let loaded := c.load records
  loaded.foldl deleteOrphan (loaded.foldl reprogram (loaded.foldl putOff c))

/-- A new process: the database and the dataplane stay, except the mappings of pools
that have to be replaced in the dataplane. -/
def newProcess (replaced : List UInt32) : Component :=
  { new with
    config := c.config
    persisted := c.persisted
    receiver := ⟨c.receiver.opdb, fun _ => 0⟩
    dataplane := fun key => if key.poolID ∈ replaced then none else c.dataplane key }

variable (setups : List PoolSetup)

def configured (replaced : List UInt32) : Option Component :=
  setups.foldlM (fun c p => c.configurePool p.name p.id p.cfg p.prefixes) (c.newProcess replaced)

def restart (replaced : List UInt32) (records : List Record) : Option Component :=
  (c.configured setups replaced).map fun c => c.restoreFromOpDB records

def recoverMapping : Component :=
  match c.fate x.1 x.2 with
  | .program id =>
    if x.1.programmed then
      { c.programMapping id x.2 with
        persisted := update c.persisted x.2.sessionID (some x.2) }
    else c
  | _ => c

def recoverDataplane : Component :=
  (c.load records).foldl recoverMapping c

end Component

inductive NodeEvent where
  | event (e : Component.Event)
  | restart (setups : List PoolSetup) (replaced : List UInt32) (records : List Record)
  | dataplaneRestart
  | recoverDataplane (records : List Record)

namespace Component
variable (decode : Bytes → Option SessionMapping)

def Event.configuresPool : Event → Bool
  | .configurePool _ _ _ _ => true
  | _ => false

/-- Pools are configured at a restart only. -/
def nodeNext (c : Component) : NodeEvent → Option Component
  | .event e => if e.configuresPool then none else c.next decode e
  | .restart setups replaced records => c.restart setups replaced records
  | .dataplaneRestart => some { c with dataplane := fun _ => none }
  | .recoverDataplane records => some (c.recoverDataplane records)

def node : Machine Component NodeEvent := .ofNext (fun c => c = new) (nodeNext decode)

end Component
end Osvbng.Cgnat

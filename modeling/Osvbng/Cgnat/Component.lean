import Osvbng.Cgnat.Manager
import Osvbng.Cgnat.ReverseIndex
import Osvbng.Lib.Handlers

/-!
# The address translation component

A session that is activated gets a port block. The block is taken from a pool at
once and programmed into the dataplane; only the callback of the dataplane records
it: in the table of sessions, in the reverse index and in the database. A release
goes through the same places.

The handlers of events and the callbacks run in goroutines of their own. A handler
here is the list of the steps it takes, one for each lock it takes. A request to the
dataplane carries the two ways its callback goes on. It is carried out, or not,
before the callback comes.

Next to the program stands the history: the outside addresses of the pools, the
session each block was given to last, the address each session was activated with,
the session each address was last activated for, the mapping each session was
recorded with and its last event: the last that was dispatched. The queue that keeps
events while the database is read back (`maybeEnqueue`) is left out.
-/

namespace Osvbng.Cgnat
open Function Lib Lib.Slice Lib.NetIP Ha

/-! ## Sessions and their classification -/

/-- What is read of an IPoE or a PPP session. -/
structure SubscriberSession where
  ipv4Address : IP
  vrf : String
  ifIndex : UInt32
  serviceGroup : String

/-- An event, with the session if that has the type of the access type. -/
structure SessionLifecycleEvent where
  sessionID : String
  session : Option SubscriberSession

inductive PoolMode where
  | pba | deterministic
deriving DecidableEq

structure ServiceGroupCGNAT where
  bypass : Bool
  policy : String

/-- The running configuration, where it has a part for address translation. A pool
can be named and have no settings. -/
structure Config where
  pools : String → Option (Option PoolMode)
  serviceGroups : String → Option ServiceGroupCGNAT

structure InsidePrefix where
  network : Option IPNet
  vrf : String

inductive Classification where
  | none
  | bypass
  | deterministic (poolName : String)
  | pba (poolName : String)

/-! ## Steps -/

inductive Step where
  /-- An activation. -/
  | classify (sess : SubscriberSession) (order : List String)
  | restoreSynced (sess : SubscriberSession) (poolName : String)
  | allocate (sess : SubscriberSession) (poolName : String)
  | setPool (poolName : String) (mapping : SessionMapping)
  | addReverse (mapping : SessionMapping)
  | put (mapping : SessionMapping)
  | deleteSynced
  | done
  /-- A release. -/
  | getMappings (sess : SubscriberSession) (poolName : String)
  | remove (poolName : String) (mapping : CGNATMapping String)
  | removeReverse (outsideIP : IP) (portStart : UInt16)
  | releaseBlocks (poolName : String) (insideIP : IP)
  | deletePool
  | deletePersisted

/-- The dataplane has one block for an inside address of a pool. -/
structure DataplaneKey where
  poolID : UInt32
  subscriber : SubscriberKey
deriving DecidableEq

structure Request where
  isAdd : Bool
  key : DataplaneKey
  block : BlockAllocation
  applied : Bool
  onError : List Step
  onSuccess : List Step

inductive EventKind where
  | activation | release
deriving DecidableEq

structure Component where
  config : Option Config
  insidePrefixes : String → List InsidePrefix
  pools : PoolManager String
  poolIDMap : String → Option UInt32
  reverse : ReverseIndex
  sessionPoolMap : String → Option String
  activations : String → Bool
  /-- The mappings in the database: those of this node, and those of its peer. -/
  persisted : String → Option SessionMapping
  receiver : SyncReceiver
  dataplane : DataplaneKey → Option BlockAllocation
  handlers : Handlers String Step
  requests : String → List Request
  /-- The history. -/
  outsideIPs : List IP
  holder : String → SubscriberKey → Option String
  address : String → Option SubscriberKey
  claimant : SubscriberKey → Option String
  committed : String → Option SessionMapping
  last : String → Option EventKind

variable (m : CGNATMapping String)

def blockOf : BlockAllocation :=
  ⟨m.outsideIP, m.portBlockStart, m.portBlockEnd⟩

def subscriberOf : SubscriberKey :=
  makeSubscriberKey m.insideVRFID m.insideIP

namespace Component
variable (c : Component)

def poolID (poolName : String) : UInt32 := (c.poolIDMap poolName).getD 0

/-- The first pool with a prefix for the address, in the order in which the pools
are gone through, or the empty name. -/
def findPoolForIP (order : List String) (insideIP : IP) (insideVRF : String) : String :=
  (order.find? fun name => (c.insidePrefixes name).any fun p =>
    (p.vrf = "" || p.vrf = insideVRF) && p.network.any fun n => n.contains (to4 insideIP)).getD ""

def classifyByAddress (cfg : Config) (order : List String) (insideIP : IP)
    (vrfName : String) : Classification :=
  let poolName := c.findPoolForIP order insideIP vrfName
  if poolName = "" then .none
  else
    match cfg.pools poolName with
    | some (some .deterministic) => .deterministic poolName
    | some (some .pba) => .pba poolName
    | _ => .none

def serviceGroup (cfg : Config) (name : String) : Option ServiceGroupCGNAT :=
  if name = "" then none else cfg.serviceGroups name

def classifySession (order : List String) (sess : SubscriberSession) : Classification :=
  match c.config with
  | none => .none
  | some cfg =>
    match serviceGroup cfg sess.serviceGroup with
    | none => c.classifyByAddress cfg order sess.ipv4Address sess.vrf
    | some sg =>
      if sg.bypass then .bypass
      else if sg.policy ≠ "" ∧ (cfg.pools sg.policy).isSome then .pba sg.policy
      else c.classifyByAddress cfg order sess.ipv4Address sess.vrf

def releasesBypass (sess : SubscriberSession) : Bool :=
  (c.config.bind fun cfg => serviceGroup cfg sess.serviceGroup).any (·.bypass)

/-! ## What a step does -/

def request (sessionID : String) (r : Request) : Component :=
  { c with requests := update c.requests sessionID (c.requests sessionID ++ [r]) }

def give (sessionID : String) (pools : PoolManager String) (m : SessionMapping) : Component :=
  { c with
    pools := pools
    holder := update c.holder m.poolName
      (update (c.holder m.poolName) (subscriberOf m) (some sessionID)) }

variable (poolName : String)

def commitMapping (m : SessionMapping) (persist : Bool) : List Step :=
  [.setPool poolName m, .addReverse m] ++ if persist then [.put m] else []

def addRequest (m : SessionMapping) (insideIP : IP) (finish : List Step) : Request where
  isAdd := true
  key := ⟨c.poolID poolName, makeSubscriberKey 0 insideIP⟩
  block := blockOf m
  applied := false
  onError := [.releaseBlocks poolName insideIP, .done]
  onSuccess := commitMapping poolName m true ++ finish

/-- The steps of a release that has found the session's pool and mappings. -/
def releaseSteps (insideIP : IP) (ms : List (CGNATMapping String)) : List Step :=
  ms.flatMap (fun m => [.remove poolName m, .removeReverse m.outsideIP m.portBlockStart]) ++
    [.releaseBlocks poolName insideIP, .deletePool, .deletePersisted]

variable (decode : Bytes → Option SessionMapping) (c : Component) (sessionID : String)

def perform : Step → Component × List Step
  | .classify sess order =>
    if to4 sess.ipv4Address = [] then (c, [.done])
    else
      match c.classifySession order sess with
      | .pba poolName => (c, [.restoreSynced sess poolName])
      | _ => (c, [.done])
  | .restoreSynced sess poolName =>
    match tryRestoreSyncedMapping decode c.receiver.opdb c.pools sessionID sess.ifIndex with
    | none => (c, [.allocate sess poolName])
    | some (m, pools) =>
      ((c.give sessionID pools m).request sessionID
        (c.addRequest poolName m m.insideIP [.deleteSynced, .done]), [])
  | .allocate sess poolName =>
    match c.pools.getOrAllocate poolName sess.ipv4Address 0 sess.ifIndex with
    | .error _ => (c, [.done])
    | .ok (pools, mapping, isNew) =>
      let m : SessionMapping := ⟨mapping, sessionID⟩
      if isNew then
        ((c.give sessionID pools m).request sessionID
          (c.addRequest poolName m sess.ipv4Address [.done]), [])
      else (c.give sessionID pools m, commitMapping poolName m false ++ [.done])
  | .setPool poolName m =>
    ({ c with
      sessionPoolMap := update c.sessionPoolMap sessionID (some poolName)
      committed := update c.committed sessionID (some m) }, [])
  | .addReverse m => ({ c with reverse := c.reverse.add m }, [])
  | .put m => ({ c with persisted := update c.persisted sessionID (some m) }, [])
  | .deleteSynced =>
    ({ c with receiver := { c.receiver with
        opdb := c.receiver.opdb.delete Store.namespaceHASyncedCGNAT sessionID } }, [])
  | .done => ({ c with activations := update c.activations sessionID false }, [])
  | .getMappings sess poolName =>
    match c.pools.getMappings poolName sess.ipv4Address 0 with
    | [] => (c, [.deletePool])
    | ms => (c, releaseSteps poolName sess.ipv4Address ms)
  | .remove poolName m =>
    (c.request sessionID
      { isAdd := false
        key := ⟨c.poolID poolName, subscriberOf m⟩
        block := blockOf m
        applied := false
        onError := []
        onSuccess := [] }, [])
  | .removeReverse outsideIP portStart =>
    ({ c with reverse := c.reverse.remove outsideIP portStart }, [])
  | .releaseBlocks poolName insideIP =>
    ({ c with pools := c.pools.orSame (c.pools.releaseBlocks poolName insideIP 0) }, [])
  | .deletePool =>
    ({ c with sessionPoolMap := update c.sessionPoolMap sessionID none }, [])
  | .deletePersisted =>
    ({ c with persisted := update c.persisted sessionID none }, [])

/-! ## Events -/

inductive Event where
  | configurePool (name : String) (id : UInt32) (cfg : Pool) (prefixes : List InsidePrefix)
  | configure (config : Option Config)
  | activate (data : SessionLifecycleEvent) (order : List String)
  | release (data : SessionLifecycleEvent)
  /-- A handler of a session takes its next step. -/
  | step (sessionID : String) (i : Nat)
  /-- The dataplane carries a request out; its callback comes. -/
  | apply (sessionID : String) (i : Nat)
  | reply (sessionID : String) (i : Nat) (ok : Bool)
  /-- The peer tells of a mapping, or of many. -/
  | sync (srgName : String) (sequence : UInt64) (action : SyncAction) (m : SessionMapping)
  | syncPage (srgName : String) (ms : List SessionMapping) (sequence : UInt64)

def configurePool (name : String) (id : UInt32) (cfg : Pool)
    (prefixes : List InsidePrefix) : Option Component :=
  if (c.pools.pools name).isSome then none
  else (c.pools.configurePool name id cfg).map fun r =>
    { c with
      pools := c.pools.orSame r
      poolIDMap := update c.poolIDMap name (some id)
      insidePrefixes := update c.insidePrefixes name prefixes
      outsideIPs := c.outsideIPs ++ cfg.outsideIPs.map unmapped }

def note (kind : EventKind) : Component :=
  { c with last := update c.last sessionID (some kind) }

variable (data : SessionLifecycleEvent)

/-- `handleSessionActivate`, up to the end of `beginActivation`. -/
def activate (order : List String) : Component :=
  let c := c.note data.sessionID .activation
  if (c.sessionPoolMap data.sessionID).isSome || c.activations data.sessionID then c
  else
    let c := { c with activations := update c.activations data.sessionID true }
    match data.session with
    | none => { c with handlers := c.handlers.spawn data.sessionID [.done] }
    | some sess =>
      { c with
        handlers := c.handlers.spawn data.sessionID [.classify sess order]
        address := update c.address data.sessionID (some (makeSubscriberKey 0 sess.ipv4Address))
        claimant := update c.claimant (makeSubscriberKey 0 sess.ipv4Address) (some data.sessionID) }

/-- `handleSessionRelease`, up to the look at the table of sessions. -/
def release : Component :=
  let c := c.note data.sessionID .release
  match data.session with
  | none => c
  | some sess =>
    if to4 sess.ipv4Address = [] || c.releasesBypass sess then c
    else
      match c.sessionPoolMap data.sessionID with
      | none => c
      | some poolName =>
        { c with handlers := c.handlers.spawn data.sessionID [.getMappings sess poolName] }

def step (i : Nat) : Option Component :=
  (c.handlers.next sessionID i).map fun (step, steps, handlers) =>
    let r := { c with handlers := handlers }.perform decode sessionID step
    { r.1 with handlers := r.1.handlers.spawn sessionID (r.2 ++ steps) }

def Request.carryOut (r : Request) (dataplane : DataplaneKey → Option BlockAllocation) :
    DataplaneKey → Option BlockAllocation :=
  update dataplane r.key (if r.isAdd then some r.block else none)

def apply (i : Nat) : Option Component :=
  (c.requests sessionID)[i]?.bind fun r =>
    if r.applied then none
    else some { c with
      dataplane := Request.carryOut r c.dataplane
      requests := update c.requests sessionID
        ((c.requests sessionID).set i { r with applied := true }) }

def reply (i : Nat) (ok : Bool) : Option Component :=
  (c.requests sessionID)[i]?.bind fun r =>
    if ok && !r.applied then none
    else some { c with
      requests := update c.requests sessionID ((c.requests sessionID).eraseIdx i)
      handlers := c.handlers.spawn sessionID (if ok then r.onSuccess else r.onError) }

/-- The mappings of the peer have an IPv4 outside address. -/
def next : Event → Option Component
  | .configurePool name id cfg prefixes => c.configurePool name id cfg prefixes
  | .configure config => some { c with config := config }
  | .activate data order => some (c.activate data order)
  | .release data => some (c.release data)
  | .step sessionID i => c.step decode sessionID i
  | .apply sessionID i => c.apply sessionID i
  | .reply sessionID i ok => c.reply sessionID i ok
  | .sync srgName sequence action m =>
    if to4 m.outsideIP = [] then none
    else
      let req := ⟨srgName, sequence, action, mappingToCheckpoint srgName m⟩
      some { c with receiver := c.receiver.handleSyncCGNATMapping req }
  | .syncPage srgName ms sequence =>
    if ms.any fun m => to4 m.outsideIP = [] then none
    else
      let resp := ⟨srgName, ms.map (mappingToCheckpoint ""), sequence⟩
      some { c with receiver := c.receiver.handleBulkSyncCGNATPage resp }

def new : Component where
  config := none
  insidePrefixes := fun _ => []
  pools := .newPoolManager
  poolIDMap := fun _ => none
  reverse := .newReverseIndex
  sessionPoolMap := fun _ => none
  activations := fun _ => false
  persisted := fun _ => none
  receiver := ⟨fun _ _ => none, fun _ => 0⟩
  dataplane := fun _ => none
  handlers := fun _ => []
  requests := fun _ => []
  outsideIPs := []
  holder := fun _ _ => none
  address := fun _ => none
  claimant := fun _ => none
  committed := fun _ => none
  last := fun _ => none

def machine : Machine Component Event := .ofNext (fun c => c = new) (next decode)

end Component
end Osvbng.Cgnat

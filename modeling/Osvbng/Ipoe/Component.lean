import Osvbng.Ipoe.Session
import Osvbng.Lib.Index
import Osvbng.Session.Access

/-!
# The IPoE component

The sessions of the component with everything that refers to them: the table by place,
the indexes, the session counters in the cache, the records in the database and the
interfaces in the dataplane.

A handler waits for four things: the AAA server, the dataplane, a DHCP provider and the
database. Between two of them it runs in one step. What is under way is part of the
state, and is answered in any order:

* `aaa`: requests to the AAA server;
* `vpp`: requests to the dataplane, which a pool of workers makes;
* `exchanges`: messages that a provider has, with those to be forwarded after them;
* `writes`: background writes to the database.

A session is a pointer into `objects`. Objects are not dropped before a restart: a handler
may have a pointer to a session that is in no table any more.

What the component reads from its configuration in the course of a handler comes with
the event (`Env`); only the session mode of the VLANs is fixed. Leases and pools are the
subject of `Dhcp.Sessions`, the exclusivity registry is that of `Session.Access`.
-/

namespace Osvbng.Ipoe
open Function Lib Lib.Slice Lib.NetIP Index Prod
open Session (TupleKey SessionKey Family Target toAcctSessionID)

/-- The lease of a session is its `SessionState`. Of a message that is kept for later
only its presence matters. -/
structure Subscriber extends SessionState where
  sessionID : Bytes
  acctSessionID : Bytes
  tuple : TupleKey
  encapIfIndex : UInt32
  ipoeSwIfIndex : UInt32
  xid : UInt32
  username : Bytes
  aaaInFlight : Bool
  pendingDHCPDiscover : Bool
  pendingDHCPRequest : Bool
  pendingDHCPv6Solicit : Bool
  pendingDHCPv6Request : Bool
  pendingIPv4Binding : IP
  pendingIPv6Binding : IP
  pendingPDBinding : Option IPNet

/-- The keys of the maps. The text of an address is the same for both forms of an
IPv4 address. -/
inductive Key where
  | sessions (key : SessionKey)
  | xid (xid : UInt32)
  | sessionID (id : Bytes)
  | acctSessionID (id : Bytes)
  | username (name : Bytes)
  | ipv4 (text : IP)
  | ipv6 (text : IP)
deriving DecidableEq

/-- How the dataplane finds the interface of a session. -/
structure IfKey where
  mac : Bytes
  encapIfIndex : UInt32
  innerVLAN : UInt16
deriving DecidableEq

namespace Subscriber
variable (s : Subscriber)

def ifKey : IfKey := ⟨s.tuple.mac, s.encapIfIndex, s.tuple.cvlan⟩

/-- The keys under which `addSessionToIndexes` enters a session, and from which
`removeSessionFromIndexes` deletes what is there. -/
def indexKeys : List Key :=
  (if s.acctSessionID = [] then [] else [.acctSessionID s.acctSessionID]) ++
    (if s.username = [] then [] else [.username s.username]) ++
    (if s.ipv4 = [] then [] else [.ipv4 (unmapped s.ipv4)]) ++
    (if s.ipv6Address = [] then [] else [.ipv6 (unmapped s.ipv6Address)])

def new (sessionID : Bytes) (tuple : TupleKey) (swIfIndex : UInt32) (state : State) :
    Subscriber where
  toSessionState := .fresh state
  sessionID := sessionID
  acctSessionID := toAcctSessionID sessionID
  tuple := tuple
  encapIfIndex := swIfIndex
  ipoeSwIfIndex := 0
  xid := 0
  username := []
  aaaInFlight := false
  pendingDHCPDiscover := false
  pendingDHCPRequest := false
  pendingDHCPv6Solicit := false
  pendingDHCPv6Request := false
  pendingIPv4Binding := []
  pendingIPv6Binding := []
  pendingPDBinding := none

def drained : Subscriber :=
  { s with
    pendingDHCPDiscover := false
    pendingDHCPRequest := false
    pendingDHCPv6Solicit := false
    pendingDHCPv6Request := false
    pendingIPv4Binding := []
    pendingIPv6Binding := []
    pendingPDBinding := none }

def installed : Subscriber :=
  { s.drained with closing := false, aaaInFlight := false }

/-- The session after an Ack. Without an interface the address is bound later. -/
def handleAck (now : Nat) (yourClientIP : IP) (leaseTime : UInt32) : Subscriber :=
  { s with
    toSessionState := s.toSessionState.handleAck now yourClientIP leaseTime
    pendingIPv4Binding := if s.ipoeSwIfIndex = 0 then yourClientIP else s.pendingIPv4Binding }

def handleDHCPv6Reply (now : Nat) (r : Reply) : Subscriber :=
  { s with
    toSessionState := s.toSessionState.handleDHCPv6Reply now r
    pendingIPv6Binding :=
      if s.ipoeSwIfIndex = 0 then (r.iana.map fst).getD [] else s.pendingIPv6Binding
    pendingPDBinding := if s.ipoeSwIfIndex = 0 then r.iapd.map fst else s.pendingPDBinding }

def onSessionCreated (swIfIndex : UInt32) : Subscriber :=
  { s.drained with
    toSessionState := s.toSessionState.onSessionCreated
    ipoeSwIfIndex := swIfIndex }

def release (lease : SessionState) : Subscriber :=
  { s with toSessionState := lease }

def close : Subscriber := { s with closing := true }

end Subscriber

inductive Message where
  | discover | request | solicit | request6
deriving DecidableEq

/-- Why a provider has a message: it has just arrived, it arrived before the AAA server
had answered, or before the dataplane had. -/
inductive Origin where
  | live | pending | late
deriving DecidableEq

/-- The messages of a session that go to a provider one after the other. The provider
has the first one. -/
structure Exchange where
  sess : Nat
  origin : Origin
  messages : List Message

/-- What a provider answers: an Ack to a Request, a Reply to a Solicit or to a Request of
DHCPv6, another message that is only forwarded, or nothing. -/
inductive Response where
  | ack (yourClientIP : IP) (leaseTime : UInt32)
  | reply (reply : Reply)
  | other
  | failed

namespace Response

def fits : Response → Message → Bool
  | .ack yourClientIP _, m => m = .request && yourClientIP.length = 4
  | .reply _, m => m = .solicit || m = .request6
  | .other, _ => true
  | .failed, _ => true

end Response

inductive VppCall where
  | addIPoESession (sess : Nat) (key : IfKey)
  | deleteIPoESession (key : IfKey)
deriving DecidableEq

/-- An interface in the dataplane, with the session of this process for which it was made. -/
structure Interface where
  key : IfKey
  swIfIndex : UInt32
  owner : Option Nat
deriving DecidableEq

inductive Binding where
  | ipv4 (ip : IP)
  | ipv6 (ip : IP)
  | delegatedPrefix (pfx : IPNet)
deriving DecidableEq

inductive Lifecycle where
  | active (protocol : Family) (ipv4 : IP)
  | released
deriving DecidableEq

structure Env where
  now : Nat
  isReady : Bool
  /-- A subscriber group has the VLANs and serves the family; the session does. -/
  isGroupEnabled : Bool
  isSessionEnabled : Bool
  /-- Zero is no limit. -/
  maxConcurrentSessions : Nat
  /-- What is drawn for a new session, and the name that the policy makes. -/
  sessionID : Bytes
  username : Bytes

structure Packet where
  tuple : TupleKey
  swIfIndex : UInt32
  xid : UInt32

/-- A restart: the sessions that the dataplane takes back, each with the access interface
and the one of the session. -/
structure Restart where
  now : Nat
  programmed : Bytes → Option (UInt32 × UInt32)

structure Component where
  unified : UInt16 → UInt16 → Bool
  objects : List Subscriber
  /-- The maps as one: the kind of a key says which. -/
  index : Key → Option Nat
  counters : TupleKey → Nat
  opdb : List Subscriber
  /-- What is on its way to the database, each with its session. -/
  writes : List (Nat × Subscriber)
  aaa : List Bytes
  vpp : List VppCall
  exchanges : List Exchange
  /-- What the clean-up pass has found and not deleted yet. -/
  toDelete : List (SessionKey × Nat)
  interfaces : List Interface
  bindings : List (UInt32 × Binding)
  /-- The history of lifecycle events. -/
  published : List (Nat × Lifecycle)

namespace Component

/-! ## Keys -/

variable (c : Component)

def makeSessionKey (family : Family) (t : TupleKey) : SessionKey :=
  ⟨if c.unified t.svlan t.cvlan then none else some family, t⟩

def makeSessionKeyV4 (t : TupleKey) : SessionKey := c.makeSessionKey .v4 t

def makeSessionKeyV6 (t : TupleKey) : SessionKey := c.makeSessionKey .v6 t

/-! ## What handlers do to the rest -/

variable (i : Nat)

def setObject (sess : Subscriber) : Component :=
  { c with objects := c.objects.set i sess }

def deleteKeys (ks : List Key) : Component :=
  { c with index := erase ks c.index }

def addSessionToIndexes (sess : Subscriber) : Component :=
  { c with index := insert sess.indexKeys i c.index }

variable (sess : Subscriber)

def removeSessionFromIndexes : Component :=
  c.deleteKeys sess.indexKeys

def checkpointSession : Component :=
  { c.addSessionToIndexes i sess with writes := c.writes ++ [(i, sess)] }

def deleteSessionCheckpoint (sessionID : Bytes) : Component :=
  { c with opdb := c.opdb.filter (·.sessionID ≠ sessionID) }

def putRecord : Component :=
  { c with opdb := c.opdb.filter (·.sessionID ≠ sess.sessionID) ++ [sess] }

def addCounter (t : TupleKey) (n : Nat) : Component :=
  { c with counters := update c.counters t (c.counters t + n) }

/-- A counter that would be zero or less is deleted, which reads as zero. -/
def decrCounter (t : TupleKey) : Component :=
  { c with counters := update c.counters t (c.counters t - 1) }

def bind (swIfIndex : UInt32) (bs : List Binding) : Component :=
  { c with bindings := c.bindings ++ bs.map (swIfIndex, ·) }

def unbind (swIfIndex : UInt32) (bs : List Binding) : Component :=
  { c with bindings := c.bindings.filter (· ∉ bs.map (swIfIndex, ·)) }

def publish (evs : List Lifecycle) : Component :=
  { c with published := c.published ++ evs.map (i, ·) }

def storeXid (xid : UInt32) (i : Nat) : Component :=
  { c with index := update c.index (.xid xid) (some i) }

def exchange (origin : Origin) (ms : List Message) : Component :=
  { c with exchanges := c.exchanges ++ if ms = [] then [] else [⟨i, origin, ms⟩] }

def addIPoESession (isWanted : Bool) : Component :=
  { c with vpp := c.vpp ++ if isWanted then [.addIPoESession i sess.ifKey] else [] }

def deleteIPoESession : Component :=
  { c with
    vpp := c.vpp ++ if sess.ipoeSwIfIndex = 0 then [] else [.deleteIPoESession sess.ifKey] }

def addInterface (f : Interface) : Component :=
  { c with interfaces := c.interfaces.filter (·.key ≠ f.key) ++ [f] }

/-! ## Messages of a client -/

variable (env : Env)

def checkSessionLimit (t : TupleKey) : Bool :=
  env.maxConcurrentSessions = 0 || c.counters t < env.maxConcurrentSessions

def store (key : SessionKey) (sess : Subscriber) : Component :=
  { c with
    objects := c.objects ++ [sess]
    index := insert [.sessions key, .sessionID sess.sessionID] c.objects.length c.index }

variable (pkt : Packet)

/-- The session of a message: the one in the table if it serves the family, or else a
new one if it is allowed. -/
def sessionFor (family : Family) (state : State) (allowed : Bool) : Option (Component × Nat) :=
  let key := c.makeSessionKey family pkt.tuple
  match c.index (.sessions key) with
  | some i => if env.isSessionEnabled then some (c, i) else none
  | none =>
    if env.isGroupEnabled && allowed then
      some (c.store key (.new env.sessionID pkt.tuple pkt.swIfIndex state), c.objects.length)
    else none

/-- What a message that waits for the AAA server does to the session. -/
def awaiting : Subscriber :=
  { sess with aaaInFlight := sess.aaaInFlight || !sess.aaaApproved }

/-- The message of an approved session goes to the provider if it is time for it. For
another one the AAA server is asked, unless it already is. `sess` is the session before
the message, `sess'` the one after. -/
def proceed (i : Nat) (sess sess' : Subscriber) (m : Message) (isTime : Bool) : Component :=
  let asks := !sess.aaaApproved && !sess.aaaInFlight
  { c with
    objects := c.objects.set i (if asks then { sess' with username := env.username } else sess')
    aaa := c.aaa ++ if asks then [sess.sessionID] else []
    exchanges := c.exchanges ++
      if sess.aaaApproved && isTime then [⟨i, .live, [m]⟩] else [] }

/-- A message that is dropped is no event. -/
def handleDiscover : Option Component := do
  let (c, i) ← c.sessionFor env pkt .v4 .discovering
    (env.isReady && c.checkSessionLimit env pkt.tuple)
  let sess ← c.objects[i]?
  if sess.closing then none
  else
    let sess' := awaiting { sess with
      xid := pkt.xid
      lastSeen := env.now
      encapIfIndex := pkt.swIfIndex
      pendingDHCPDiscover := true }
    some ((c.storeXid pkt.xid i).proceed env i sess sess' .discover sess.ipoeSessionCreated)

/-- The state is set before anything else, also for a session that is closing. -/
def handleRequest : Option Component := do
  let (c, i) ← c.sessionFor env pkt .v4 .requesting true
  let sess ← c.objects[i]?
  let sess := { sess with toSessionState := sess.toSessionState.renewing }
  if sess.closing then some (c.setObject i sess)
  else
    let sess' := awaiting { sess with
      xid := pkt.xid
      lastSeen := env.now
      pendingDHCPRequest := true }
    some ((c.storeXid pkt.xid i).proceed env i sess sess' .request true)

def handleDHCPv6Solicit : Option Component := do
  let (c, i) ← c.sessionFor env pkt .v6 .soliciting env.isReady
  let sess ← c.objects[i]?
  if sess.closing then none
  else
    let sess' := awaiting { sess with
      lastSeen := env.now
      pendingDHCPv6Solicit := true }
    some (c.proceed env i sess sess' .solicit sess.ipoeSessionCreated)

/-- Request, Renew and Rebind of a session that is in the table. -/
def handleDHCPv6Request : Option Component := do
  let i ← c.index (.sessions (c.makeSessionKeyV6 pkt.tuple))
  let sess ← c.objects[i]?
  if env.isSessionEnabled then
    some ((c.setObject i { sess with lastSeen := env.now, pendingDHCPv6Request := true }).exchange
      i .live (if sess.aaaApproved && sess.ipoeSessionCreated then [.request6] else []))
  else none

/-! ## Answers of a DHCP server -/

def handleAck (i : Nat) (sess : Subscriber) (now : Nat) (yourClientIP : IP)
    (leaseTime : UInt32) : Component :=
  let bound := sess.handleAck now yourClientIP leaseTime
  let c := (c.setObject i bound).bind sess.ipoeSwIfIndex
    (if sess.ipoeSwIfIndex = 0 then [] else [.ipv4 yourClientIP])
  let c := c.addCounter sess.tuple (if sess.state = .bound then 0 else 1)
  (c.checkpointSession i bound).publish i [.active .v4 yourClientIP]

/-- The event of a unified session comes with its IPv4 address. -/
def handleDHCPv6Reply (i : Nat) (sess : Subscriber) (now : Nat) (r : Reply) : Component :=
  let ianaAddr := (r.iana.map fst).getD []
  let bound := sess.handleDHCPv6Reply now r
  let c := (c.setObject i bound).bind sess.ipoeSwIfIndex
    (if sess.ipoeSwIfIndex = 0 then []
    else (if ianaAddr = [] then [] else [.ipv6 ianaAddr]) ++
      (r.iapd.map fst).toList.map .delegatedPrefix)
  let isTold := !c.unified sess.tuple.svlan sess.tuple.cvlan ||
    (sess.state = .bound && sess.ipv4 ≠ [])
  (c.checkpointSession i bound).publish i (if isTold then [.active .v6 sess.ipv4] else [])

/-- What a provider has after an answer. A failure ends the forwarding of the DHCPv4
messages that were kept for the AAA server. -/
def advance (n : Nat) (x : Exchange) (m : Message) (response : Response) : Component :=
  let isOver := match response with
    | .failed => x.origin = .pending && (m = .discover || m = .request)
    | _ => false
  { c with exchanges :=
      if isOver || x.messages.tail.isEmpty then c.exchanges.eraseIdx n
      else c.exchanges.set n { x with messages := x.messages.tail } }

/-- The answer of a provider is sent to the client. The session takes an Ack only if the
Request has just arrived, and a Reply also if it answers a Request kept for later. -/
def answer (n now : Nat) (response : Response) : Option Component := do
  let x ← c.exchanges[n]?
  let m ← x.messages.head?
  let sess ← c.objects[x.sess]?
  if response.fits m then
    let c := c.advance n x m response
    match response with
    | .ack yourClientIP leaseTime =>
      some (if x.origin = .live then c.handleAck x.sess sess now yourClientIP leaseTime else c)
    | .reply r =>
      some (if x.origin = .live || m = .request6 then c.handleDHCPv6Reply x.sess sess now r
        else c)
    | .other => some c
    | .failed => some c
  else none

/-- A message of a DHCP server, which is forwarded for relayed sessions only. -/
def handleServerResponse (xid : UInt32) (now : Nat) (isRelayed : Bool)
    (response : Response) : Option Component := do
  let i ← c.index (.xid xid)
  let sess ← c.objects[i]?
  match response with
  | .ack yourClientIP leaseTime =>
    if isRelayed && yourClientIP.length = 4 then
      some (c.handleAck i sess now yourClientIP leaseTime)
    else none
  | _ => none

/-! ## Set-up -/

def keptV4 : List Message :=
  (if sess.pendingDHCPDiscover then [.discover] else []) ++
    (if sess.pendingDHCPRequest then [.request] else [])

def keptV6 : List Message :=
  (if sess.pendingDHCPv6Solicit then [.solicit] else []) ++
    (if sess.pendingDHCPv6Request then [.request6] else [])

/-- The tables of both families lose the session's place. -/
def rejectSession (i : Nat) (sess : Subscriber) : Component :=
  let closed := { sess.close with
    aaaApproved := false
    aaaInFlight := false
    pendingDHCPDiscover := false
    pendingDHCPRequest := false }
  ((c.setObject i closed).deleteKeys
    [.xid sess.xid, .sessions (c.makeSessionKeyV4 sess.tuple),
      .sessions (c.makeSessionKeyV6 sess.tuple),
      .sessionID sess.sessionID]).removeSessionFromIndexes sess

/-- The interface is asked for and the messages kept so far go to the providers. -/
def approveSession (i : Nat) (sess : Subscriber) (isVRFResolved isSetUp : Bool) : Component :=
  let approved := { sess with
    aaaApproved := true
    aaaInFlight := false
    pendingDHCPDiscover := false
    pendingDHCPRequest := false }
  if isVRFResolved then
    let c := c.setObject i { approved with
      pendingDHCPv6Solicit := false
      pendingDHCPv6Request := false }
    let c := c.addIPoESession i sess (!sess.ipoeSessionCreated && isSetUp)
    (c.exchange i .pending (keptV4 sess)).exchange i .pending (keptV6 sess)
  else c.setObject i approved

def handleAAAResponse (n : Nat) (allowed isVRFResolved isSetUp : Bool) : Option Component := do
  let sessID ← c.aaa[n]?
  let c := { c with aaa := c.aaa.eraseIdx n }
  match c.index (.sessionID sessID) with
  | none => some c
  | some i =>
    let sess ← c.objects[i]?
    some (if allowed then c.approveSession i sess isVRFResolved isSetUp
      else c.rejectSession i sess)

/-- The dataplane has made the interface. Whether the session is closing is not asked. -/
def onSessionCreated (i : Nat) (sess : Subscriber) (swIfIndex : UInt32) : Component :=
  if sess.ipoeSessionCreated then c
  else
    ((c.setObject i (sess.onSessionCreated swIfIndex)).bind swIfIndex
      ((if sess.pendingIPv4Binding = [] then [] else [.ipv4 sess.pendingIPv4Binding]) ++
        (if sess.pendingIPv6Binding = [] then [] else [.ipv6 sess.pendingIPv6Binding]) ++
        sess.pendingPDBinding.toList.map .delegatedPrefix)).exchange i .late
      (keptV4 sess ++ keptV6 sess)

/-- The dataplane makes a request: it refuses to add an interface, as always when it has the
key, or adds it under a number that is not zero. A deletion does not fail. -/
def runVpp (n : Nat) (result : Option UInt32) : Option Component :=
  match c.vpp[n]? with
  | none => none
  | some (.deleteIPoESession key) =>
    some { c with
      vpp := c.vpp.eraseIdx n
      interfaces := c.interfaces.filter (·.key ≠ key) }
  | some (.addIPoESession i key) =>
    let c := { c with vpp := c.vpp.eraseIdx n }
    match result, c.objects[i]? with
    | none, _ => some c
    | some _, none => none
    | some swIfIndex, some sess =>
      if swIfIndex ≠ 0 ∧ key ∉ c.interfaces.map (·.key) then
        some ((c.addInterface ⟨key, swIfIndex, some i⟩).onSessionCreated i sess swIfIndex)
      else none

/-! ## Removal -/

def bindings4 : List Binding := [.ipv4 sess.ipv4]

def bindings6 : List Binding :=
  .ipv6 sess.ipv6Address :: sess.ipv6Prefix.toList.map .delegatedPrefix

/-- A release of a bound session must come from its address. The addresses are cleared
before the indexes are. -/
def handleRelease (t : TupleKey) (ciaddr : IP) : Option Component := do
  let i ← c.index (.sessions (c.makeSessionKeyV4 t))
  let sess ← c.objects[i]?
  if sess.ipv4 ≠ [] && !equal sess.ipv4 ciaddr then none
  else
    let lease := sess.toSessionState.handleRelease (c.unified t.svlan t.cvlan)
    let gone := sess.release lease.1
    let c := (c.setObject i gone).deleteKeys [.xid sess.xid]
    if lease.2 then
      let c := (c.deleteKeys [.sessions (c.makeSessionKeyV4 t), .sessionID
        sess.sessionID]).removeSessionFromIndexes gone
      let c := c.unbind sess.ipoeSwIfIndex (bindings4 sess ++ bindings6 sess)
      let c := c.deleteIPoESession sess
      let c := (c.decrCounter t).deleteSessionCheckpoint sess.sessionID
      some (c.publish i [.released])
    else
      let c := (c.unbind sess.ipoeSwIfIndex (bindings4 sess)).checkpointSession i gone
      some (c.publish i [.released])

/-- Release and Decline. The session is told of in independent mode only. -/
def handleDHCPv6Release (t : TupleKey) : Option Component := do
  let i ← c.index (.sessions (c.makeSessionKeyV6 t))
  let sess ← c.objects[i]?
  let unified := c.unified t.svlan t.cvlan
  let lease := sess.toSessionState.handleDHCPv6Release unified
  let gone := sess.release lease.1
  let c := c.setObject i gone
  if lease.2 then
    let c := (c.deleteKeys [.sessions (c.makeSessionKeyV6 t), .sessionID
      sess.sessionID]).removeSessionFromIndexes gone
    let c := (c.unbind sess.ipoeSwIfIndex (bindings4 sess ++ bindings6 sess)).deleteIPoESession sess
    let c := (c.decrCounter t).deleteSessionCheckpoint sess.sessionID
    some (c.publish i (if unified then [] else [.released]))
  else
    let c := (c.unbind sess.ipoeSwIfIndex (bindings6 sess)).checkpointSession i gone
    some (c.publish i (if unified then [] else [.released]))

def lookupName (name : Bytes) (key : Bytes → Key) : Option Nat :=
  if name = [] then none else c.index (key name)

/-- The lookups that both cascades end with. -/
def lookupNames (ev : Target) : Option Nat :=
  (c.lookupName ev.acctSessionID .acctSessionID).or <|
    (c.lookupName ev.username .username).or <|
      (c.lookupName ev.framedIPv4 .ipv4).or (c.lookupName ev.framedIPv6 .ipv6)

def resolveTerminateTarget (ev : Target) : Option Nat :=
  let byKey := ev.key.bind fun t =>
    (c.index (.sessions (c.makeSessionKeyV4 t))).or (c.index (.sessions (c.makeSessionKeyV6 t)))
  byKey.or <| (c.lookupName ev.sessionID .sessionID).or <| c.lookupNames ev

/-- `sessionKey` tells which key of the table of sessions a text is. -/
def resolveTargetFromEvent (sessionKey : Bytes → Option SessionKey) (ev : Target) : Option Nat :=
  let byID := if ev.sessionID = [] then none
    else (sessionKey ev.sessionID).bind fun key => c.index (.sessions key)
  byID.or <| c.lookupNames ev

def handleSubscriberTerminate (ev : Target) : Option Component := do
  let i ← c.resolveTerminateTarget ev
  let sess ← c.objects[i]?
  if sess.closing then none
  else
    let c := (c.setObject i sess.close).deleteIPoESession sess
    let c := (c.deleteKeys [.sessions (c.makeSessionKeyV4 sess.tuple),
      .sessions (c.makeSessionKeyV6 sess.tuple),
      .sessionID sess.sessionID]).removeSessionFromIndexes sess
    some ((c.deleteSessionCheckpoint sess.sessionID).publish i [.released])

def scan (now : Nat) (key : SessionKey) : Option Component := do
  let i ← c.index (.sessions key)
  let sess ← c.objects[i]?
  if sess.reap now then some { c with toDelete := c.toDelete ++ [(key, i)] } else none

/-- The second half. The entry of the table goes, whatever session it is by now. -/
def sweep (n : Nat) : Option Component := do
  let (key, i) ← c.toDelete[n]?
  let sess ← c.objects[i]?
  let c := { c with toDelete := c.toDelete.eraseIdx n }
  let c := ((c.setObject i sess.close).deleteKeys [.xid sess.xid, .sessions key,
    .sessionID sess.sessionID]).removeSessionFromIndexes sess
  some (((c.deleteIPoESession sess).deleteSessionCheckpoint sess.sessionID).publish i [.released])

/-! ## The database -/

def persist (n : Nat) : Option Component :=
  c.writes[n]?.map fun w => { c with writes := c.writes.eraseIdx n }.putRecord w.2

/-- A restored session is entered under the key of DHCPv4, whatever it was made for. -/
def installInMemoryState : Component :=
  { c with
    objects := c.objects ++ [sess]
    index := insert (.sessions (c.makeSessionKeyV4 sess.tuple) ::
      .sessionID sess.sessionID :: sess.indexKeys) c.objects.length c.index }

/-- A session in the dataplane again, and counted if it is bound. -/
def setupSessionRestore (encapIfIndex swIfIndex : UInt32) : Component :=
  let restored := { sess.onSessionCreated swIfIndex with encapIfIndex := encapIfIndex }
  let i := c.objects.length
  let c := (c.installInMemoryState restored).checkpointSession i restored
  let c := c.addInterface ⟨restored.ifKey, swIfIndex, some i⟩
  c.addCounter sess.tuple (if sess.state = .bound then 1 else 0)

def restoreSession (r : Restart) (c : Component) (record : Subscriber) : Component :=
  if record.isSessionExpired r.now then c.deleteSessionCheckpoint record.sessionID
  else if record.aaaApproved && !record.ipoeSessionCreated then
    let reset := { record with aaaApproved := false }
    (c.putRecord reset).installInMemoryState reset.installed
  else
    match r.programmed record.sessionID with
    | none => c.installInMemoryState record.installed
    | some (encapIfIndex, swIfIndex) =>
      c.setupSessionRestore record.installed encapIfIndex swIfIndex

/-- A new process: what it had in memory is gone, and the history starts again. The
interfaces have no session yet. -/
def forget : Component :=
  { c with
    objects := []
    index := fun _ => none
    counters := fun _ => 0
    writes := []
    aaa := []
    vpp := []
    exchanges := []
    toDelete := []
    interfaces := c.interfaces.map ({ · with owner := none })
    published := [] }

def restart (r : Restart) : Component :=
  c.opdb.foldl (restoreSession r) c.forget

end Component

inductive ComponentEvent where
  | discover (env : Env) (pkt : Packet)
  | request (env : Env) (pkt : Packet)
  | solicit (env : Env) (pkt : Packet)
  | request6 (env : Env) (pkt : Packet)
  | answer (n now : Nat) (response : Response)
  | serverResponse (xid : UInt32) (now : Nat) (isRelayed : Bool) (response : Response)
  | aaaResponse (n : Nat) (allowed isVRFResolved isSetUp : Bool)
  | vpp (n : Nat) (result : Option UInt32)
  | release (t : TupleKey) (ciaddr : IP)
  | release6 (t : TupleKey)
  | terminate (ev : Target)
  | scan (now : Nat) (key : SessionKey)
  | sweep (n : Nat)
  | persist (n : Nat)
  | restart (r : Restart)

namespace Component

def isUnused (c : Component) (sessionID : Bytes) : Bool :=
  c.objects.all (·.sessionID ≠ sessionID)

def next (c : Component) : ComponentEvent → Option Component
  | .discover env pkt => if c.isUnused env.sessionID then c.handleDiscover env pkt else none
  | .request env pkt => if c.isUnused env.sessionID then c.handleRequest env pkt else none
  | .solicit env pkt => if c.isUnused env.sessionID then c.handleDHCPv6Solicit env pkt else none
  | .request6 env pkt => c.handleDHCPv6Request env pkt
  | .answer n now response => c.answer n now response
  | .serverResponse xid now isRelayed response => c.handleServerResponse xid now isRelayed response
  | .aaaResponse n allowed isVRFResolved isSetUp =>
    c.handleAAAResponse n allowed isVRFResolved isSetUp
  | .vpp n result => c.runVpp n result
  | .release t ciaddr => c.handleRelease t ciaddr
  | .release6 t => c.handleDHCPv6Release t
  | .terminate ev => c.handleSubscriberTerminate ev
  | .scan now key => c.scan now key
  | .sweep n => c.sweep n
  | .persist n => c.persist n
  | .restart r => some (c.restart r)

structure Initial (c : Component) : Prop where
  objects : c.objects = []
  index : ∀ k, c.index k = none
  counters : ∀ t, c.counters t = 0
  opdb : c.opdb = []
  writes : c.writes = []
  aaa : c.aaa = []
  vpp : c.vpp = []
  exchanges : c.exchanges = []
  toDelete : c.toDelete = []
  interfaces : c.interfaces = []
  bindings : c.bindings = []
  published : c.published = []

def machine : Machine Component ComponentEvent := .ofNext Initial next

end Component
end Osvbng.Ipoe

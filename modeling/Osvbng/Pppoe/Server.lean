import Osvbng.Lib.Index
import Osvbng.Session.Exclusivity

/-!
# The PPPoE server and its indexes

Sessions as discovery creates them, with the place of their client and the
PPPoE session identifier, and the seven maps in which the server looks them up.
A session is a pointer: its position in `objects`, where every session there
ever was stays, with the mark that tells whether it has been removed.

An event is what happens under one lock. What a session does with its own frames,
timers and answers gives it a name and addresses, here any at any time, and
writes none of the maps. The exclusivity registry is left out.
-/

namespace Osvbng.Pppoe
open Lib Lib.Slice Lib.NetIP
open Osvbng.Session (Target TupleKey toAcctSessionID)

def padi : UInt8 := 0x09
def padr : UInt8 := 0x19
def padt : UInt8 := 0xa7

structure SessionState where
  sessionID : Bytes
  acctSessionID : Bytes
  pppoeSessionID : UInt16
  place : TupleKey
  username : Bytes
  ipv4Address : IP
  ipv6Address : IP

/-- The keys of the seven maps. The text `sessionKey` makes of a place is one to one, and
that of an address is the same for both forms of an IPv4 address. -/
inductive Key where
  | place (place : TupleKey)
  | pppoeSessionID (sid : UInt16)
  | sessionID (id : Bytes)
  | acctSessionID (id : Bytes)
  | username (name : Bytes)
  | ipv4 (text : IP)
  | ipv6 (text : IP)
deriving DecidableEq

/-- The keys under which `addToIndexes` enters a session, and from which
`removeFromIndexes` deletes what is there. -/
def SessionState.keys (sess : SessionState) : List Key :=
  [.place sess.place, .pppoeSessionID sess.pppoeSessionID, .sessionID sess.sessionID] ++
    (if sess.acctSessionID = [] then [] else [.acctSessionID sess.acctSessionID]) ++
    (if sess.username = [] then [] else [.username sess.username]) ++
    (if sess.ipv4Address = [] then [] else [.ipv4 (unmapped sess.ipv4Address)]) ++
    (if sess.ipv6Address = [] then [] else [.ipv6 (unmapped sess.ipv6Address)])

def SessionState.rename (sess : SessionState) (username : Bytes) (ipv4Address ipv6Address : IP) :
    SessionState :=
  { sess with username := username, ipv4Address := ipv4Address, ipv6Address := ipv6Address }

structure ServerEnv where
  /-- Whether the redundancy group of the VLANs is active here. -/
  isActive : UInt16 → UInt16 → Bool
  validate : Bytes → TupleKey → Bool
  /-- Whether a subscriber group has the VLANs. -/
  lookupSubscriberGroup : UInt16 → UInt16 → Bool
  /-- What is drawn for a new session. -/
  sessionID : Bytes

inductive ServerEvent where
  /-- A frame with its code, and its AC-Cookie if the tags parse. -/
  | discovery (place : TupleKey) (sid : UInt16) (code : UInt8) (acCookie : Option Bytes)
  | rename (id : Nat) (username : Bytes) (ipv4Address ipv6Address : IP)
  | deadPeer (sid : UInt16)
  /-- The dataplane refuses a session, which may have been removed by then. -/
  | vppFailure (id : Nat)
  | subscriberTerminate (ev : Target)
  | restart
  /-- A session of the database is brought back after a restart. -/
  | installInMemoryState (checkpoint : SessionState)
  /-- A session of the peer is brought up on a promotion. -/
  | restoreFromHASync (checkpoint : SessionState)

structure Server where
  objects : List (SessionState × Bool)
  /-- The maps as one: the kind of a key says which. -/
  index : Key → Option Nat
  nextSessionID : UInt16

namespace Server
variable (s : Server)

def sidIndex (sid : UInt16) : Option Nat := s.index (.pppoeSessionID sid)

def live (id : Nat) : Option SessionState :=
  s.objects[id]?.bind fun p => if p.2 then some p.1 else none

def addToIndexes (id : Nat) (sess : SessionState) : Server :=
  { s with index := Index.insert sess.keys id s.index }

def removeFromIndexes (sess : SessionState) : Server :=
  { s with index := Index.erase sess.keys s.index }

def add (sess : SessionState) : Server :=
  { s.addToIndexes s.objects.length sess with objects := s.objects ++ [(sess, true)] }

def remove (id : Nat) : Server :=
  match s.objects[id]? with
  | none => s
  | some (sess, _) => { s.removeFromIndexes sess with objects := s.objects.set id (sess, false) }

/-- Searches for a free identifier from `next` on; the search is over when it is
back at `startID`. -/
def findSessionID (startID : UInt16) : Nat → UInt16 → Option (UInt16 × UInt16)
  | 0, _ => none
  | fuel + 1, sid =>
    let next := if sid + 1 = 0 then 1 else sid + 1
    if s.sidIndex sid = none then some (sid, next)
    else if next = startID then some (0, next)
    else findSessionID startID fuel next

/-- The identifier for a new session, or zero if there is none left, and the one
to try next. As many rounds as there are identifiers see them all; a search that
has found none by then does not end. -/
def allocateSessionID : Option (UInt16 × UInt16) :=
  s.findSessionID s.nextSessionID 65536 s.nextSessionID

variable (env : ServerEnv) (place : TupleKey)

def newSession (sid : UInt16) : SessionState :=
  ⟨env.sessionID, toAcctSessionID env.sessionID, sid, place, [], [], []⟩

/-- Whether a request is answered: its tags parse, its cookie is valid, and a
subscriber group has its VLANs. -/
def accepts (acCookie : Option Bytes) : Bool :=
  acCookie.any (env.validate · place) && env.lookupSubscriberGroup place.svlan place.cvlan

def handlePADR (acCookie : Option Bytes) : Option Server :=
  if !accepts env place acCookie then some s
  -- Identifiers are drawn at random and do not repeat.
  else if s.objects.any fun p => p.1.sessionID = env.sessionID then none
  else
    s.allocateSessionID.map fun (sid, next) =>
      { s with nextSessionID := next }.add (newSession env place sid)

variable (sid : UInt16)

def handlePADT : Server := (s.sidIndex sid).elim s s.remove

def handleDeadPeer : Server := (s.sidIndex sid).elim s s.remove

/-- A discovery frame from VLANs whose redundancy group is not active here. -/
def dropped : Bool :=
  place.svlan ≠ 0 ∧ !env.isActive place.svlan place.cvlan

def handleDiscovery (code : UInt8) (acCookie : Option Bytes) : Option Server :=
  if dropped env place then some s
  -- The answer to a first request changes nothing.
  else if code = padi then some s
  else if code = padr then s.handlePADR env place acCookie
  else if code = padt then some (s.handlePADT sid)
  else some s

def resolveTargetLocked (ev : Target) : Option Nat :=
  if ev.sessionID ≠ [] then s.index (.sessionID ev.sessionID)
  else if ev.acctSessionID ≠ [] then s.index (.acctSessionID ev.acctSessionID)
  else if ev.username ≠ [] then s.index (.username ev.username)
  else if ev.framedIPv4 ≠ [] then s.index (.ipv4 ev.framedIPv4)
  else if ev.framedIPv6 ≠ [] then s.index (.ipv6 ev.framedIPv6)
  else none

def resolveTerminateTargetLocked (ev : Target) : Option Nat :=
  (ev.key.bind (s.index <| .place ·)).or (s.resolveTargetLocked ev)

def handleSubscriberTerminate (ev : Target) : Server :=
  (s.resolveTerminateTargetLocked ev).elim s s.remove

/-- Keeps new sessions clear of the identifier of an installed one. -/
def passSessionID : Server :=
  { s with nextSessionID := if s.nextSessionID ≤ sid then sid + 1 else s.nextSessionID }

variable (sess : SessionState)

def installInMemoryState : Server :=
  if 0 < sess.pppoeSessionID then (s.add sess).passSessionID sess.pppoeSessionID else s.add sess

def restoreFromHASync : Server :=
  (s.add sess).passSessionID sess.pppoeSessionID

def start : Server := ⟨[], fun _ => none, 1⟩

def next (i : ServerEnv × ServerEvent) : Option Server :=
  match i.2 with
  | .discovery place sid code acCookie => s.handleDiscovery i.1 place sid code acCookie
  | .rename id username ipv4 ipv6 => s.objects[id]?.map fun p =>
    { s with objects := s.objects.set id (p.1.rename username ipv4 ipv6, p.2) }
  | .deadPeer sid => some (s.handleDeadPeer sid)
  | .vppFailure id => some (s.remove id)
  | .subscriberTerminate ev => some (s.handleSubscriberTerminate ev)
  | .restart => some start
  | .installInMemoryState checkpoint => some (s.installInMemoryState checkpoint)
  | .restoreFromHASync checkpoint => some (s.restoreFromHASync checkpoint)

def machine : Machine Server (ServerEnv × ServerEvent) := .ofNext (· = start) next

end Server
end Osvbng.Pppoe

import Osvbng.Lib.NetIP
import Osvbng.Lib.Run

/-!
# A subscriber session and its leases

One session of the IPoE component: what the DHCP messages of the two families
write to it, the pass that cleans up stale sessions, and the record of it in the
database that a restart reads.

A message handler runs in a goroutine of its own and takes the lock of the session
for a short time. Every such time is an event, so handlers overlap as they may; the
answer of a DHCP server comes when it comes. The clean-up pass first looks at the
sessions and then deletes those it found stale.

Next to the program stands the history: until when each family was leased to the
client, and whether the session was removed too early.
-/

namespace Osvbng.Ipoe
open Lib Lib.NetIP Prod

/-- Times are in nanoseconds. Zero is the time of a field that was never set. -/
def second : Nat := 1000000000

def minute : Nat := 60 * second

def reclaimGrace : Nat := 5 * minute

def halfOpenIdleTimeout : Nat := 2 * minute

def leaseGrace (leaseSeconds : UInt32) : Nat :=
  let g := leaseSeconds.toNat * second / 4
  if g < reclaimGrace then g else reclaimGrace

inductive State where
  | discovering | requesting | soliciting | bound | released
deriving DecidableEq

structure SessionState where
  state : State
  ipv4 : IP
  leaseTime : UInt32
  boundAt : Nat
  lastSeen : Nat
  aaaApproved : Bool
  ipoeSessionCreated : Bool
  closing : Bool
  ipv6Address : IP
  ipv6Prefix : Option IPNet
  ipv6LeaseTime : UInt32
  ipv6BoundAt : Nat
  ipv6Bound : Bool

structure Reply where
  iana : Option (IP × UInt32)
  iapd : Option (IPNet × UInt32)

namespace Reply

def validTime (r : Reply) : UInt32 := (r.iana.map snd).getD 0

def granted (r : Reply) : Nat :=
  max r.validTime.toNat ((r.iapd.map (·.2.toNat)).getD 0)

end Reply

namespace SessionState

def fresh (state : State) : SessionState :=
  ⟨state, [], 0, 0, 0, false, false, false, [], none, 0, 0, false⟩

variable (s : SessionState)

def end4 : Nat := s.boundAt + s.leaseTime.toNat * second

def end6 : Nat := s.ipv6BoundAt + s.ipv6LeaseTime.toNat * second

/-! ## Expiry -/

def v4Active : Bool := s.ipv4 ≠ [] && 0 < s.leaseTime && s.boundAt ≠ 0

def v6Active : Bool := s.ipv6Bound && 0 < s.ipv6LeaseTime && s.ipv6BoundAt ≠ 0

variable (now : Nat)

def sessionPastLease : Bool :=
  if !s.v4Active && !s.v6Active then false
  else if s.v4Active && decide (now < s.end4 + leaseGrace s.leaseTime) then false
  else if s.v6Active && decide (now < s.end6 + leaseGrace s.ipv6LeaseTime) then false
  else true

/-- What the clean-up pass decides about a session. -/
def reap : Bool :=
  if s.state = .bound then s.sessionPastLease now
  else decide (halfOpenIdleTimeout < now - s.lastSeen)

def isSessionExpired : Bool :=
  if s.state ≠ .bound then false
  else if s.v4Active && decide (s.end4 < now) then true
  else if s.v6Active && decide (s.end6 < now) then true
  else false

/-! ## Messages -/

/-- A Discover, a Request or a Solicit is received. -/
def seen : SessionState :=
  if s.closing then s else { s with lastSeen := now }

def renewing : SessionState := { s with state := .requesting }

def handleAck (yourClientIP : IP) (leaseTime : UInt32) : SessionState :=
  { s with state := .bound, ipv4 := yourClientIP, leaseTime := leaseTime, boundAt := now }

def handleDHCPv6Request : SessionState :=
  { s with lastSeen := now }

def handleDHCPv6Reply (r : Reply) : SessionState :=
  { s with
    ipv6Address := (r.iana.map fst).getD []
    ipv6Prefix := r.iapd.map fst
    ipv6LeaseTime := r.validTime
    ipv6BoundAt := now
    ipv6Bound := true }

def onSessionCreated : SessionState := { s with ipoeSessionCreated := true }

/-- `handleRelease`: the session, and whether it is deleted. -/
def handleRelease (unified : Bool) : SessionState × Bool :=
  let deleteSession := !(unified && s.ipv6Bound)
  let s := { s with ipv4 := [], state := .released }
  if deleteSession then
    ({ s with closing := true, ipv6Bound := false, ipv6Address := [], ipv6Prefix := none }, true)
  else (s, false)

def handleDHCPv6Release (unified : Bool) : SessionState × Bool :=
  let deleteSession := !(unified && s.ipv4 ≠ [])
  let s := { s with ipv6Bound := false, ipv6Address := [], ipv6Prefix := none }
  if deleteSession then ({ s with ipv4 := [], closing := true }, true) else (s, false)

end SessionState

inductive Event where
  /-- The first message of a client makes the session. -/
  | create (state : State)
  /-- Discover, Request or Solicit; the state that a Request sets before. -/
  | seen (now : Nat)
  | renewing
  | request6 (now : Nat)
  /-- The answers of the servers. -/
  | ack (now : Nat) (yourClientIP : IP) (leaseTime : UInt32)
  | reply6 (now : Nat) (reply : Reply)
  /-- Releases, with the session mode of the VLANs. -/
  | release (unified : Bool) (ciaddr : IP)
  | release6 (unified : Bool)
  | aaaResponse (allowed : Bool)
  | created
  | terminate
  /-- The two halves of a clean-up pass. -/
  | scan (now : Nat)
  | sweep (now : Nat)
  /-- A write to the database; a restart, and a restore without one. -/
  | persist (i : Nat)
  | restart (now : Nat) (programmed : Bool)
  | recover (now : Nat) (programmed : Bool)

structure Life where
  clock : Nat
  /-- The session, which object it is, and whether it is in the table. -/
  sess : SessionState
  generation : Nat
  present : Bool
  /-- The object that the clean-up pass is going to delete. -/
  toDelete : Option Nat
  /-- The record in the database, and the writes on their way to it. -/
  record : Option SessionState
  writes : List SessionState
  /-- The history. -/
  lease4 : Nat
  lease6 : Nat
  dropped : Bool

namespace Life
variable (l : Life) (now : Nat)

def Leased : Prop :=
  (l.sess.ipv4 ≠ [] ∧ now < l.lease4) ∨ (l.sess.ipv6Bound ∧ now < l.lease6)
deriving Decidable

def checkpointSession : Life := { l with writes := l.writes ++ [l.sess] }

def create (state : State) : Option Life :=
  if l.present then none
  else some { l with
    sess := .fresh state, generation := l.generation + 1, present := true, record := none
    writes := [], lease4 := 0, lease6 := 0 }

def ack (yourClientIP : IP) (leaseTime : UInt32) : Life :=
  checkpointSession { l with
    sess := l.sess.handleAck now yourClientIP leaseTime
    lease4 := now + leaseTime.toNat * second }

def reply6 (r : Reply) : Life :=
  checkpointSession { l with
    sess := l.sess.handleDHCPv6Reply now r
    lease6 := now + r.granted * second }

def released (sess : SessionState) (deleteSession : Bool) : Life :=
  if deleteSession then { l with sess := sess, present := false, record := none }
  else checkpointSession { l with sess := sess }

/-- A release of a bound session must come from its address. -/
def release (unified : Bool) (ciaddr : IP) : Life :=
  if l.sess.ipv4 ≠ [] && !equal l.sess.ipv4 ciaddr then l
  else l.released (l.sess.handleRelease unified).1 (l.sess.handleRelease unified).2

def release6 (unified : Bool) : Life :=
  l.released (l.sess.handleDHCPv6Release unified).1 (l.sess.handleDHCPv6Release unified).2

def aaaResponse (allowed : Bool) : Life :=
  if allowed then { l with sess := { l.sess with aaaApproved := true } }
  else { l with sess := { l.sess with aaaApproved := false, closing := true }, present := false }

def terminate : Life :=
  if l.sess.closing then l
  else { l with sess := { l.sess with closing := true }, present := false, record := none }

def scan : Option Life :=
  if l.toDelete.isSome || !l.present then none
  else some { l with toDelete := if l.sess.reap now then some l.generation else none }

/-- The entry of the table goes, whatever object it is by now. -/
def sweep : Option Life :=
  l.toDelete.map fun generation =>
    let l := { l with
      toDelete := none
      present := false
      dropped := l.dropped || (l.present && decide (l.Leased now)) }
    if generation = l.generation then
      { l with sess := { l.sess with closing := true }, record := none }
    else l

def persist (i : Nat) : Option Life :=
  l.writes[i]?.map fun w => { l with record := some w, writes := l.writes.eraseIdx i }

/-- `restoreSessions`, for the record of this session. -/
def restoreSessions (programmed : Bool) : Life :=
  match l.record with
  | none => l
  | some sess =>
    if sess.isSessionExpired now then { l with record := none }
    else
      let installed := { sess with closing := false }
      if sess.aaaApproved && !sess.ipoeSessionCreated then
        { l with
          sess := { installed with aaaApproved := false }
          generation := l.generation + 1
          present := true
          record := some { sess with aaaApproved := false } }
      else if programmed then
        checkpointSession { l with
          sess := { installed with ipoeSessionCreated := true }
          generation := l.generation + 1
          present := true }
      else { l with sess := installed, generation := l.generation + 1, present := true }

def restart (programmed : Bool) : Life :=
  let expired := l.record.any (·.isSessionExpired now)
  restoreSessions { l with
    present := false
    toDelete := none
    writes := []
    dropped := l.dropped || (expired && l.present && decide (l.Leased now)) } now programmed

def advance : Option Life :=
  if l.clock ≤ now then some { l with clock := now } else none

def found (f : SessionState → SessionState) : Option Life :=
  if l.present then some { l with sess := f l.sess } else none

def next : Event → Option Life
  | .create state => l.create state
  | .seen now => (l.advance now).bind (·.found (·.seen now))
  | .renewing => l.found (·.renewing)
  | .request6 now => (l.advance now).bind (·.found (·.handleDHCPv6Request now))
  | .ack now yourClientIP leaseTime => (l.advance now).map (·.ack now yourClientIP leaseTime)
  | .reply6 now r => (l.advance now).map (·.reply6 now r)
  | .release unified ciaddr => (l.found id).map (·.release unified ciaddr)
  | .release6 unified => (l.found id).map (·.release6 unified)
  | .aaaResponse allowed => (l.found id).map (·.aaaResponse allowed)
  | .created => l.found (·.onSessionCreated)
  | .terminate => (l.found id).map terminate
  | .scan now => (l.advance now).bind (·.scan now)
  | .sweep now => (l.advance now).bind (·.sweep now)
  | .persist i => l.persist i
  | .restart now programmed => (l.advance now).map (·.restart now programmed)
  | .recover now programmed => (l.advance now).map (·.restoreSessions now programmed)

structure Initial (l : Life) : Prop where
  clock : 0 < l.clock
  sess : l.sess = .fresh .released
  present : l.present = false
  toDelete : l.toDelete = none
  record : l.record = none
  writes : l.writes = []
  dropped : l.dropped = false

def machine : Machine Life Event := .ofNext Initial next

end Life
end Osvbng.Ipoe

import Osvbng.Allocator.Registry

/-!
# The local DHCPv4 server

Leases by hardware address and by address. The hardware address is the one
inside the message. Both tables point to one lease object, which a refresh
changes in place: `ref` is the identity of the object.

The replies of the server are not modelled beyond the address they grant.
-/

namespace Osvbng.Dhcp
open Function Lib.Slice Lib.NetIP Allocator

structure Lease (K S : Type) where
  ref : Nat
  ip : IP
  mac : Bytes
  sessionID : S
  /-- The pool of the registry the address comes from, if it is known. -/
  poolName : Option K
  expireTime : Nat

structure Provider4 (K S : Type) where
  leases : Bytes → Option (Lease K S)
  /-- By the text of the address, which is that of its plain form. -/
  leasesByIP : IP → Option (Lease K S)
  nextRef : Nat
  /-- The lease time of the pool that contains an address. -/
  findPoolForIP : IP → Option Nat

structure Resolved4 (K : Type) where
  yourIP : IP
  poolName : Option K
  leaseTime : Nat

namespace Provider4
variable {K N S : Type} [DecidableEq K] [DecidableEq N] [DecidableEq S] (p : Provider4 K S)

def refresh (ref expireTime : Nat) : Provider4 K S :=
  let set (l : Lease K S) := if l.ref = ref then { l with expireTime := expireTime } else l
  { p with
    leases := fun mac => (p.leases mac).map set
    leasesByIP := fun ip => (p.leasesByIP ip).map set }

def addLease (ip : IP) (mac : Bytes) (sessionID : S) (poolName : Option K)
    (expireTime : Nat) : Provider4 K S :=
  let lease := ⟨p.nextRef, ip, mac, sessionID, poolName, expireTime⟩
  { p with
    leases := update p.leases mac (some lease)
    leasesByIP := update p.leasesByIP (unmapped ip) (some lease)
    nextRef := p.nextRef + 1 }

variable (r : Registry K N S)

def releaseIn (poolName : Option K) (ip : IP) : Registry K N S :=
  match poolName with
  | none => r
  | some pool => r.release pool ip

/-- Records an address for a hardware address; refused while someone else has
it. -/
def reserveIP (now : Nat) (ip : IP) (mac : Bytes)
    (sessionID : S) (poolName : Option K) (leaseTime : Nat) :
    Option (Provider4 K S × Registry K N S) :=
  match p.leasesByIP (unmapped ip) with
  | none => some (p.addLease ip mac sessionID poolName (now + leaseTime), r)
  | some existing =>
    if existing.mac = mac then some (p.refresh existing.ref (now + leaseTime), r)
    else if existing.expireTime < now then
      let p := { p with
        leasesByIP := update p.leasesByIP (unmapped ip) none
        leases := update p.leases existing.mac none }
      some (p.addLease ip mac sessionID poolName (now + leaseTime),
        releaseIn r existing.poolName existing.ip)
    else none

def releaseLease (mac : Bytes) : Provider4 K S × Registry K N S :=
  match p.leases mac with
  | none => (p, r)
  | some lease =>
    ({ p with
        leasesByIP := update p.leasesByIP (unmapped lease.ip) none
        leases := update p.leases mac none },
      releaseIn r lease.poolName lease.ip)

/-- `none` is an error; a lease without a resolved address is only offered
again. -/
def handleDiscover (now : Nat) (sessionID : S)
    (resolved : Option (Resolved4 K)) (mac : Bytes) : Option (Provider4 K S × Registry K N S) :=
  match resolved with
  | some a => p.reserveIP r now a.yourIP mac sessionID a.poolName a.leaseTime
  | none => (p.leases mac).map fun _ => (p, r)

/-- The address acknowledged comes with the tables. -/
def handleRequest (now : Nat) (sessionID : S)
    (resolved : Option (Resolved4 K)) (mac : Bytes) (requestedIP : Option IP) (clientIP : IP) :
    Option (IP × Provider4 K S × Registry K N S) :=
  match resolved with
  | some a =>
    (p.reserveIP r now a.yourIP mac sessionID a.poolName a.leaseTime).map (a.yourIP, ·)
  | none =>
    match p.leases mac with
    | none => none
    | some lease =>
      let requestedIP := requestedIP.getD clientIP
      if equal lease.ip requestedIP then
        let p' := match p.findPoolForIP requestedIP with
          | none => p
          | some leaseTime => p.refresh lease.ref (now + leaseTime)
        some (requestedIP, p', r)
      else none

end Provider4
end Osvbng.Dhcp

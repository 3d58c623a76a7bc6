import Osvbng.Allocator.Registry

/-!
# The local DHCPv6 server

Leases of addresses and of delegated prefixes, each by the client identifier
inside the message and by the resource. The two kinds are handled alike:
`LeaseTables` is written once over the resource.

Times are not modelled: the server writes when a lease expires and never reads
it. A search for a prefix that comes back to where it began does not end; here it
gives up.
-/

namespace Osvbng.Dhcp
open Function Lib.Slice Lib.NetIP Allocator Option Bool

structure Lease6 (K S R : Type) where
  resource : R
  duid : Bytes
  iaid : UInt32
  sessionID : S
  poolName : Option K

structure LeaseTables (K S R : Type) where
  byDUID : Bytes → Option (Lease6 K S R)
  byResource : R → Option (Lease6 K S R)

namespace LeaseTables
variable {K S R : Type} [DecidableEq R] [DecidableEq S] (t : LeaseTables K S R)

def put (key : R) (lease : Lease6 K S R) : LeaseTables K S R where
  byDUID := update t.byDUID lease.duid (some lease)
  byResource := update t.byResource key (some lease)

def reserve (key : R) (lease : Lease6 K S R) : Option (LeaseTables K S R) :=
  if (t.byResource key).any fun existing => decide (existing.sessionID ≠ lease.sessionID) then none
  else some (t.put key lease)

def remove (duid : Bytes) (key : R) : LeaseTables K S R where
  byDUID := update t.byDUID duid none
  byResource := update t.byResource key none

end LeaseTables

structure IANAPool where
  network : IPNet
  rangeStart : BitVec 128
  rangeEnd : BitVec 128

/-- `nextPrefix` is the address of `network`: the two are one slice, and the network moves
with the prefix to try next. -/
structure PDPool where
  network : IPNet
  prefixLength : UInt8

structure Provider6 (K S : Type) where
  iana : LeaseTables K S IP
  pd : LeaseTables K S IPNet
  ianaPools : List IANAPool
  pdPools : List PDPool

/-- What was resolved for a session: an address and a prefix, each with its
pool if it was allocated. -/
structure Resolved6 (K : Type) where
  ianaAddress : Option IP
  ianaPoolName : Option K
  pdPrefix : Option IPNet
  pdPoolName : Option K

/-- The options of a client message that the server reads: the client
identifier, and the identifiers of the associations it asks for. -/
structure Options6 where
  clientID : Option Bytes
  iana : Option UInt32
  iapd : Option UInt32
deriving DecidableEq

abbrev Grant6 := Option IP × Option IPNet

/-- The key of a prefix is its text, which has the address in plain form. -/
def prefixKey (pfx : IPNet) : IPNet := { pfx with ip := unmapped pfx.ip }

namespace Provider6
variable {K N S : Type} [DecidableEq K] [DecidableEq N] [DecidableEq S] (p : Provider6 K S)
  {fuel : Nat}

def reserveIANA (addr : IP) (duid : Bytes) (iaid : UInt32) (sessionID : S)
    (poolName : Option K) : Option (Provider6 K S) :=
  (p.iana.reserve (unmapped addr) ⟨addr, duid, iaid, sessionID, poolName⟩).map
    fun iana => { p with iana := iana }

def reservePD (pfx : IPNet) (duid : Bytes) (iaid : UInt32) (sessionID : S)
    (poolName : Option K) : Option (Provider6 K S) :=
  (p.pd.reserve (prefixKey pfx) ⟨pfx, duid, iaid, sessionID, poolName⟩).map
    fun pd => { p with pd := pd }

/-! ### Allocation from the pools of the server -/

/-- The first address from `addr` on, up to the end of the range, that has no lease. -/
def firstUnused (used : IP → Bool) (rangeEnd : BitVec 128) :
    (fuel : Nat) → BitVec 128 → Option IP
  | 0, _ => none
  | fuel + 1, addr =>
    if rangeEnd < addr then none
    else if used (unmapped (putBe 16 addr.toNat)) then firstUnused used rangeEnd fuel (addr + 1)
    else some (putBe 16 addr.toNat)

def allocateIANAAddress (pool : IANAPool) (duid : Bytes) (iaid : UInt32)
    (sessionID : S) : Option (Provider6 K S) :=
  (firstUnused (fun ip => (p.iana.byResource ip).isSome) pool.rangeEnd (2 ^ 128)
    pool.rangeStart).map fun addr =>
      { p with iana := p.iana.put (unmapped addr) ⟨addr, duid, iaid, sessionID, none⟩ }

def incIPBy (ip : BitVec 128) (bits : Nat) : BitVec 128 :=
  if bits < 128 then ip + .ofNat 128 (2 ^ bits) else ip

def advance (network : IPNet) (bits : Nat) : IPNet :=
  { network with ip := putBe 16 (incIPBy (.ofNat 128 (beNat network.ip)) bits).toNat }

/-- The search for a free prefix, and where it leaves the network. -/
def nextFreePrefix (used : IPNet → Bool) (prefixLength : UInt8) :
    (fuel : Nat) → IPNet → Option IPNet × IPNet
  | 0, network => (none, network)
  | fuel + 1, network =>
    let pfx : IPNet := ⟨network.ip, prefixLength.toNat, 128⟩
    let next := advance network (128 - prefixLength).toNat
    if !network.contains pfx.ip then (none, network)
    else if used (prefixKey pfx) then
      if next.contains next.ip then nextFreePrefix used prefixLength fuel next else (none, next)
    else (some pfx, next)

/-- Allocates from the pool number `i`, which remembers where it stopped. -/
def allocatePDPrefix (i : Nat) (pool : PDPool) (duid : Bytes) (iaid : UInt32)
    (sessionID : S) : Provider6 K S :=
  let (found, network) := nextFreePrefix (fun pfx => (p.pd.byResource pfx).isSome)
    pool.prefixLength (2 ^ pool.prefixLength.toNat + 1) pool.network
  let p := { p with pdPools := p.pdPools.set i { pool with network := network } }
  match found with
  | none => p
  | some pfx =>
    { p with pd := p.pd.put (prefixKey pfx) ⟨pfx, duid, iaid, sessionID, none⟩ }

theorem firstUnused_spec {used : IP → Bool} {rangeEnd addr : BitVec 128} {ip : IP}
    (h : firstUnused used rangeEnd fuel addr = some ip) : used (unmapped ip) = false := by
  induction fuel generalizing addr with
  | zero => cases h
  | succ fuel ih =>
    rw [firstUnused] at h
    split at h
    · cases h
    · split at h
      · exact ih h
      · rename_i hused
        rw [← some.inj h]
        exact eq_false_iff.mpr hused

theorem nextFreePrefix_spec {used : IPNet → Bool} {prefixLength : UInt8} {network pfx : IPNet}
    (h : (nextFreePrefix used prefixLength fuel network).1 = some pfx) :
    used (prefixKey pfx) = false := by
  induction fuel generalizing network with
  | zero => cases h
  | succ fuel ih =>
    rw [nextFreePrefix] at h
    dsimp only at h
    split at h
    · simp only [reduceCtorEq] at h
    · split at h
      · split at h
        · exact ih h
        · simp only [reduceCtorEq] at h
      · rename_i hused
        rw [← some.inj h]
        exact eq_false_iff.mpr hused

/-- The pool a loop over the map of pools meets first; `pick` is the order. -/
def pickPool {P : Type} (pools : List P) (pick : Nat) : Option (Nat × P) :=
  let i := pick % pools.length
  pools[i]?.map (i, ·)

/-! ### Messages -/

variable (a : Resolved6 K) (o : Options6) (duid : Bytes) (sessionID : S)

def reserveAskedIANA : Option (Provider6 K S) :=
  match o.iana, a.ianaAddress with
  | some iaid, some addr => p.reserveIANA addr duid iaid sessionID a.ianaPoolName
  | _, _ => some p

def reserveAskedPD : Option (Provider6 K S) :=
  match o.iapd, a.pdPrefix with
  | some iaid, some pfx => p.reservePD pfx duid iaid sessionID a.pdPoolName
  | _, _ => some p

/-- The part common to a solicit and a request whose address is resolved. An
error after the first reservation leaves that reservation in place. -/
def reserveResolved : Provider6 K S × Option Grant6 :=
  match p.reserveAskedIANA a o duid sessionID with
  | none => (p, none)
  | some p =>
    match p.reserveAskedPD a o duid sessionID with
    | none => (p, none)
    | some p =>
      (p, some (o.iana.bind fun _ => a.ianaAddress, o.iapd.bind fun _ => a.pdPrefix))

/-- A retry finds its leases in place and takes no lock. -/
def alreadyReserved : Bool :=
  (o.iana.isNone || a.ianaAddress.isNone ||
      (p.iana.byDUID duid).any fun l => decide (l.sessionID = sessionID)) &&
    (o.iapd.isNone || a.pdPrefix.isNone ||
      (p.pd.byDUID duid).any fun l => decide (l.sessionID = sessionID))

def allocateAskedIANA (pick : Nat) : Option (Provider6 K S) :=
  match o.iana, pickPool p.ianaPools pick with
  | some iaid, some (_, pool) => p.allocateIANAAddress pool duid iaid sessionID
  | _, _ => some p

def allocateAskedPD (pick : Nat) : Provider6 K S :=
  match o.iapd, pickPool p.pdPools pick with
  | some iaid, some (i, pool) => p.allocatePDPrefix i pool duid iaid sessionID
  | _, _ => p

/-- The first allocation of a client without a resolved address. -/
def allocateLocal (pickIANA pickPD : Nat) : Provider6 K S :=
  match p.allocateAskedIANA o duid sessionID pickIANA with
  | none => p
  | some p => p.allocateAskedPD o duid sessionID pickPD

variable (resolved : Option (Resolved6 K))

def handleSolicit (o : Options6) (pickIANA pickPD : Nat) : Provider6 K S :=
  match o.clientID with
  | none => p
  | some duid =>
    match resolved with
    | some a =>
      if p.alreadyReserved a o duid sessionID then p
      else (p.reserveResolved a o duid sessionID).1
    | none =>
      if (p.iana.byDUID duid).isSome || (p.pd.byDUID duid).isSome then p
      else p.allocateLocal o duid sessionID pickIANA pickPD

/-- What a reply grants without a resolved address: the leases of the client
identifier that lie in a pool of the server. -/
def existingGrant : Grant6 :=
  (((p.iana.byDUID duid).map (·.resource)).filter fun addr =>
      p.ianaPools.any fun pool => pool.network.contains addr,
    ((p.pd.byDUID duid).map (·.resource)).filter fun pfx =>
      p.pdPools.any fun pool => pool.network.contains pfx.ip)

/-- Request, Renew and Rebind. -/
def handleRequest (o : Options6) : Provider6 K S × Option Grant6 :=
  match o.clientID with
  | none => (p, none)
  | some duid =>
    match resolved with
    | some a => p.reserveResolved a o duid sessionID
    | none => (p, some (p.existingGrant duid))

variable (r : Registry K N S)

def releaseIANA (duid : Bytes) : Provider6 K S × Registry K N S :=
  match p.iana.byDUID duid with
  | none => (p, r)
  | some lease =>
    ({ p with iana := p.iana.remove duid (unmapped lease.resource) },
      match lease.poolName with
      | none => r
      | some pool => r.releaseIANA pool lease.resource)

def releasePD (duid : Bytes) : Provider6 K S × Registry K N S :=
  match p.pd.byDUID duid with
  | none => (p, r)
  | some lease =>
    ({ p with pd := p.pd.remove duid (prefixKey lease.resource) },
      match lease.poolName with
      | none => r
      | some pool => r.releasePD pool lease.resource)

def releaseLease (duid : Bytes) : Provider6 K S × Registry K N S :=
  let (p, r) := p.releaseIANA r duid
  p.releasePD r duid

/-- Release and Decline. -/
def handleRelease (o : Options6) : Provider6 K S × Registry K N S :=
  match o.clientID with
  | none => (p, r)
  | some duid => p.releaseLease r duid

end Provider6
end Osvbng.Dhcp

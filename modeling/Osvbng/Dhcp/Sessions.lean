import Osvbng.Dhcp.Local4
import Osvbng.Dhcp.Local6
import Osvbng.Lib.Run

/-!
# Subscriber sessions and their DHCP messages

A session is found by the hardware address of the frame and its VLANs, one for
both families or one for each. Messages of a session that is set up go to the
local servers; a release also returns what the session itself remembers. A session
keeps the last message of each kind, and what it has kept when it is approved or
its interface is there goes to the servers then.

Relayed and proxied subscribers use other servers and are not modelled. A session
enters by `attach`; the message that made it comes after. A kept message is taken out
when it is handed over, one at a time.
-/

namespace Osvbng.Dhcp
open Function Lib Lib.Slice Lib.NetIP Allocator

inductive Family where
  | v4 | v6
deriving DecidableEq

/-- The family is part of the key unless the VLANs have unified sessions. -/
structure SessionKey where
  family : Option Family
  mac : Bytes
  svlan : UInt16
  cvlan : UInt16
deriving DecidableEq

/-- What the session's addresses are resolved from. An address is remembered
once it is resolved. Before the approval it has the profiles of the group only. -/
structure AllocContext (N : Type) where
  vrf : N
  profileName : Option N
  poolOverride : Option N
  leaseTime : Nat
  ipv4Address : IP
  ipv6ProfileName : Option N
  ianaPoolOverride : Option N
  pdPoolOverride : Option N
  ipv6Address : IP
  ipv6Prefix : Option IPNet

structure Orders (K : Type) where
  v4 : List K
  iana : List K
  pd : List K
  pickIANA : Nat
  pickPD : Nat

inductive MsgType6 where
  | solicit | request | renew | rebind | release | decline
deriving DecidableEq

inductive Body where
  | discover (chaddr : Bytes)
  | request (chaddr : Bytes) (requestedIP : Option IP) (ciaddr : IP)
  | release (ciaddr : IP)
  | v6 (msgType : MsgType6) (options : Options6)
deriving DecidableEq

/-- The messages that a session keeps: `PendingDHCPDiscover` and so on. -/
inductive Pending where
  | dhcpDiscover | dhcpRequest | dhcpv6Solicit | dhcpv6Request
deriving DecidableEq

structure SessionState (N S : Type) where
  sessionID : S
  mac : Bytes
  aaaApproved : Bool
  ipoeSessionCreated : Bool
  allocCtx : AllocContext N
  ipv4 : IP
  ipv6Address : IP
  ipv6Prefix : Option IPNet
  ipv6Bound : Bool
  dhcpv6DUID : Option Bytes
  pending : Pending → Option Body := fun _ => none

structure Stores (K N S : Type) where
  registry : Registry K N S
  v4 : Provider4 K S
  v6 : Provider6 K S

structure Component (K N S : Type) where
  stores : Stores K N S
  sessions : SessionKey → Option (SessionState N S)
  /-- Whether the VLANs have unified sessions. -/
  unified : UInt16 → UInt16 → Bool

structure Message (K : Type) where
  mac : Bytes
  svlan : UInt16
  cvlan : UInt16
  now : Nat
  body : Body
  orders : Orders K

variable {K N S : Type} [DecidableEq K] [DecidableEq N] [DecidableEq S]

/-! ## Resolving addresses -/

variable (r : Registry K N S)

def resolveV4 (order : List K) (sessionID : S) (ctx : AllocContext N) :
    Registry K N S × AllocContext N × Option (Resolved4 K) :=
  match ctx.profileName with
  | none => (r, ctx, none)
  | some profile =>
    if ctx.ipv4Address = [] then
      match r.allocateFromProfile profile ctx.poolOverride ctx.vrf sessionID with
      | none => (r, ctx, none)
      | some (ip, pool, r) =>
        (r, { ctx with ipv4Address := ip }, some ⟨ip, some pool, ctx.leaseTime⟩)
    else
      match r.reserveIP order ctx.ipv4Address sessionID with
      | none => (r, ctx, none)
      | some r => (r, ctx, some ⟨ctx.ipv4Address, none, ctx.leaseTime⟩)

/-- The address part of `ResolveV6`; `none` is a refusal. -/
def resolveIANA (order : List K) (sessionID : S) (profile : N)
    (ctx : AllocContext N) : Option (Registry K N S × AllocContext N × Option K) :=
  if ctx.ipv6Address = [] then
    match r.allocateIANAFromProfile profile ctx.ianaPoolOverride ctx.vrf sessionID with
    | none => some (r, ctx, none)
    | some (ip, pool, r) => some (r, { ctx with ipv6Address := ip }, some pool)
  else (r.reserveIANA order ctx.ipv6Address sessionID).map fun r => (r, ctx, none)

def resolvePD (order : List K) (sessionID : S) (profile : N)
    (ctx : AllocContext N) : Option (Registry K N S × AllocContext N × Option K) :=
  match ctx.ipv6Prefix with
  | none =>
    match r.allocatePDFromProfile profile ctx.pdPoolOverride ctx.vrf sessionID with
    | none => some (r, ctx, none)
    | some (pfx, pool, r) => some (r, { ctx with ipv6Prefix := some pfx }, some pool)
  | some pfx => (r.reservePD order pfx sessionID).map fun r => (r, ctx, none)

def resolveV6 (orders : Orders K) (sessionID : S) (ctx : AllocContext N) :
    Registry K N S × AllocContext N × Option (Resolved6 K) :=
  match ctx.ipv6ProfileName with
  | none => (r, ctx, none)
  | some profile =>
    match resolveIANA r orders.iana sessionID profile ctx with
    | none => (r, ctx, none)
    | some (r, ctx, ianaPool) =>
      match resolvePD r orders.pd sessionID profile ctx with
      | none => (r, ctx, none)
      | some (r, ctx, pdPool) =>
        if ctx.ipv6Address = [] ∧ ctx.ipv6Prefix = none then (r, ctx, none)
        else
          (r, ctx, some
            ⟨if ctx.ipv6Address = [] then none else some ctx.ipv6Address, ianaPool,
              ctx.ipv6Prefix, pdPool⟩)

/-! ## Returning leases -/

namespace Stores
variable (st : Stores K N S)

def releaseIP (ip : IP) : Stores K N S :=
  if ip = [] then st else { st with registry := st.registry.releaseIP ip }

def releaseIANAByIP (ip : IP) : Stores K N S :=
  if ip = [] then st else { st with registry := st.registry.releaseIANAByIP ip }

def releasePDByPrefix (order : List K) : Option IPNet → Stores K N S
  | none => st
  | some pfx => { st with registry := st.registry.releasePDByPrefix order pfx }

def releaseLease4 (mac : Bytes) : Stores K N S :=
  let (v4, registry) := st.v4.releaseLease st.registry mac
  { st with v4 := v4, registry := registry }

def releaseLease6 : Option Bytes → Stores K N S
  | none => st
  | some duid =>
    let (v6, registry) := st.v6.releaseLease st.registry duid
    { st with v6 := v6, registry := registry }

def handleRelease6 (o : Options6) : Stores K N S :=
  let (v6, registry) := st.v6.handleRelease st.registry o
  { st with v6 := v6, registry := registry }

section Frame

omit [DecidableEq N] [DecidableEq S]

theorem handleRelease6_eq (o : Options6) : st.handleRelease6 o = st.releaseLease6 o.clientID := by
  unfold handleRelease6 Provider6.handleRelease
  cases o.clientID <;> rfl

@[simp] theorem releasePDByPrefix_v4 (order : List K) (pfx : Option IPNet) :
    (st.releasePDByPrefix order pfx).v4 = st.v4 := by
  cases pfx <;> rfl

@[simp] theorem releasePDByPrefix_v6 (order : List K) (pfx : Option IPNet) :
    (st.releasePDByPrefix order pfx).v6 = st.v6 := by
  cases pfx <;> rfl

@[simp] theorem releaseLease4_v6 (mac : Bytes) : (st.releaseLease4 mac).v6 = st.v6 := rfl

@[simp] theorem releaseLease6_v4 (duid : Option Bytes) : (st.releaseLease6 duid).v4 = st.v4 := by
  cases duid <;> rfl

omit [DecidableEq K]

@[simp] theorem releaseIP_v4 (ip : IP) : (st.releaseIP ip).v4 = st.v4 := by
  unfold releaseIP
  split <;> rfl

@[simp] theorem releaseIP_v6 (ip : IP) : (st.releaseIP ip).v6 = st.v6 := by
  unfold releaseIP
  split <;> rfl

@[simp] theorem releaseIANAByIP_v4 (ip : IP) : (st.releaseIANAByIP ip).v4 = st.v4 := by
  unfold releaseIANAByIP
  split <;> rfl

@[simp] theorem releaseIANAByIP_v6 (ip : IP) : (st.releaseIANAByIP ip).v6 = st.v6 := by
  unfold releaseIANAByIP
  split <;> rfl

end Frame
end Stores

/-! ## Messages -/

namespace Component
variable (c : Component K N S) (m : Message K)

def makeSessionKey (family : Family) : SessionKey :=
  ⟨if c.unified m.svlan m.cvlan then none else some family, m.mac, m.svlan, m.cvlan⟩

def store (key : SessionKey) (sess : SessionState N S) (st : Stores K N S) : Component K N S :=
  { c with stores := st, sessions := update c.sessions key (some sess) }

def finish (key : SessionKey) (sess : SessionState N S) (deleteSession : Bool)
    (st : Stores K N S) : Component K N S :=
  { c with
    stores := st
    sessions := update c.sessions key (if deleteSession then none else some sess) }

variable (sess : SessionState N S)

def provideDiscover (chaddr : Bytes) : Component K N S :=
  let (r, ctx, resolved) := resolveV4 c.stores.registry m.orders.v4 sess.sessionID sess.allocCtx
  let sess := { sess with allocCtx := ctx }
  match c.stores.v4.handleDiscover r m.now sess.sessionID resolved chaddr with
  | none => c.store (c.makeSessionKey m .v4) sess { c.stores with registry := r }
  | some (v4, r) => c.store (c.makeSessionKey m .v4) sess { c.stores with registry := r, v4 := v4 }

/-- The same for a Request. The acknowledgement of one that was kept does not reach
the session. -/
def provideRequest (isKept : Bool) (chaddr : Bytes) (requestedIP : Option IP) (ciaddr : IP) :
    Component K N S :=
  let (r, ctx, resolved) := resolveV4 c.stores.registry m.orders.v4 sess.sessionID sess.allocCtx
  let sess := { sess with allocCtx := ctx }
  match c.stores.v4.handleRequest r m.now sess.sessionID resolved chaddr requestedIP ciaddr with
  | none => c.store (c.makeSessionKey m .v4) sess { c.stores with registry := r }
  | some (ip, v4, r) =>
    c.store (c.makeSessionKey m .v4) { sess with ipv4 := if isKept then sess.ipv4 else to4 ip }
      { c.stores with registry := r, v4 := v4 }

def provideSolicit (o : Options6) : Component K N S :=
  let (r, ctx, resolved) := resolveV6 c.stores.registry m.orders sess.sessionID sess.allocCtx
  let v6 := c.stores.v6.handleSolicit sess.sessionID resolved o m.orders.pickIANA m.orders.pickPD
  c.store (c.makeSessionKey m .v6) { sess with allocCtx := ctx }
    { c.stores with registry := r, v6 := v6 }

/-- Request, Renew and Rebind. The session takes what the reply grants. -/
def provideRequest6 (o : Options6) : Component K N S :=
  let (r, ctx, resolved) := resolveV6 c.stores.registry m.orders sess.sessionID sess.allocCtx
  let (v6, reply) := c.stores.v6.handleRequest sess.sessionID resolved o
  let sess := { sess with allocCtx := ctx }
  let sess := match reply with
    | none => sess
    | some (ip, pfx) =>
      { sess with ipv6Address := ip.getD [], ipv6Prefix := pfx, ipv6Bound := true }
  c.store (c.makeSessionKey m .v6) sess { c.stores with registry := r, v6 := v6 }

def keep (sess : SessionState N S) (kind : Pending) (body : Body) : SessionState N S :=
  { sess with pending := update sess.pending kind (some body) }

def handleDiscover (chaddr : Bytes) : Component K N S :=
  if sess.allocCtx.profileName.isSome then
    let sess := keep sess .dhcpDiscover m.body
    if sess.aaaApproved && sess.ipoeSessionCreated then c.provideDiscover m sess chaddr
    else c.store (c.makeSessionKey m .v4) sess c.stores
  else c

def handleRequest (chaddr : Bytes) (requestedIP : Option IP) (ciaddr : IP) : Component K N S :=
  if sess.allocCtx.profileName.isSome then
    let sess := keep sess .dhcpRequest m.body
    if sess.aaaApproved then c.provideRequest m sess false chaddr requestedIP ciaddr
    else c.store (c.makeSessionKey m .v4) sess c.stores
  else c

variable (sess : SessionState N S)

/-- A release of one family ends the session, unless it is unified and the
other family is bound. -/
def endsOnRelease4 : Bool :=
  !(c.unified m.svlan m.cvlan && sess.ipv6Bound)

def endsOnRelease6 : Bool :=
  !(c.unified m.svlan m.cvlan && sess.ipv4 ≠ [])

/-- A release of a bound session must come from its address. -/
def handleRelease (ciaddr : IP) : Component K N S :=
  if sess.ipv4 ≠ [] && !equal sess.ipv4 ciaddr then c
  else
    let deleteSession := c.endsOnRelease4 m sess
    let st := (c.stores.releaseIP sess.ipv4).releaseLease4 sess.mac
    let st :=
      if deleteSession then
        ((st.releaseIANAByIP sess.ipv6Address).releasePDByPrefix m.orders.pd
          sess.ipv6Prefix).releaseLease6 sess.dhcpv6DUID
      else st
    c.finish (c.makeSessionKey m .v4) { sess with ipv4 := [] } deleteSession st

variable (o : Options6)

def handleDHCPv6Solicit : Component K N S :=
  if sess.allocCtx.ipv6ProfileName.isSome then
    let sess := { keep sess .dhcpv6Solicit m.body with dhcpv6DUID := o.clientID }
    if sess.aaaApproved && sess.ipoeSessionCreated then c.provideSolicit m sess o
    else c.store (c.makeSessionKey m .v6) sess c.stores
  else c

def handleDHCPv6Request : Component K N S :=
  if sess.allocCtx.ipv6ProfileName.isSome then
    let sess := keep sess .dhcpv6Request m.body
    if sess.aaaApproved && sess.ipoeSessionCreated then c.provideRequest6 m sess o
    else c.store (c.makeSessionKey m .v6) sess c.stores
  else c

/-- Release and Decline. The server releases by the identifier in the message. -/
def handleDHCPv6Release : Component K N S :=
  let deleteSession := c.endsOnRelease6 m sess
  let st := ((c.stores.handleRelease6 o).releaseIANAByIP
    sess.ipv6Address).releasePDByPrefix m.orders.pd sess.ipv6Prefix
  let st := if deleteSession then (st.releaseIP sess.ipv4).releaseLease4 sess.mac else st
  c.finish (c.makeSessionKey m .v6)
    { sess with ipv6Bound := false, ipv6Address := [], ipv6Prefix := none } deleteSession st

def family : Body → Family
  | .v6 _ _ => .v6
  | _ => .v4

def sessionOf : Option (SessionState N S) := c.sessions (c.makeSessionKey m (family m.body))

def handle : Component K N S :=
  match c.sessionOf m with
  | none => c
  | some sess =>
    match m.body with
    | .discover chaddr => c.handleDiscover m sess chaddr
    | .request chaddr requestedIP ciaddr => c.handleRequest m sess chaddr requestedIP ciaddr
    | .release ciaddr => c.handleRelease m sess ciaddr
    | .v6 .solicit o => c.handleDHCPv6Solicit m sess o
    | .v6 .request o => c.handleDHCPv6Request m sess o
    | .v6 .renew o => c.handleDHCPv6Request m sess o
    | .v6 .rebind o => c.handleDHCPv6Request m sess o
    | .v6 .release o => c.handleDHCPv6Release m sess o
    | .v6 .decline o => c.handleDHCPv6Release m sess o

/-- `forwardPendingDHCPv4` and `forwardPendingDHCPv6`, for one message. -/
def forward : Component K N S :=
  match m.body with
  | .discover chaddr => c.provideDiscover m sess chaddr
  | .request chaddr requestedIP ciaddr => c.provideRequest m sess true chaddr requestedIP ciaddr
  | .v6 .solicit o => c.provideSolicit m sess o
  | .v6 .request o | .v6 .renew o | .v6 .rebind o => c.provideRequest6 m sess o
  | .release _ | .v6 .release _ | .v6 .decline _ => c

end Component

inductive ComponentEvent (K N S : Type) where
  | attach (key : SessionKey) (sess : SessionState N S)
  | message (m : Message K)
  /-- The session is approved; its interface is there. -/
  | aaaResponse (key : SessionKey) (allocCtx : AllocContext N)
  | sessionCreated (key : SessionKey)
  /-- A kept message, as a message that comes when it is handed over. -/
  | forward (kind : Pending) (m : Message K)

namespace Component

def next (c : Component K N S) : ComponentEvent K N S → Option (Component K N S)
  | .attach key sess => some (c.store key sess c.stores)
  | .message m => some (c.handle m)
  | .aaaResponse key allocCtx =>
    (c.sessions key).map fun sess =>
      c.store key { sess with aaaApproved := true, allocCtx := allocCtx } c.stores
  | .sessionCreated key =>
    (c.sessions key).map fun sess => c.store key { sess with ipoeSessionCreated := true } c.stores
  | .forward kind m =>
    (c.sessionOf m).bind fun sess =>
      if sess.aaaApproved ∧ sess.pending kind = some m.body then
        some (c.forward m { sess with pending := update sess.pending kind none })
      else none

structure Initial (c : Component K N S) : Prop where
  sessions : ∀ key, c.sessions key = none
  leases : ∀ mac, c.stores.v4.leases mac = none
  leasesByIP : ∀ ip, c.stores.v4.leasesByIP ip = none
  iana : ∀ duid, c.stores.v6.iana.byDUID duid = none
  leasesByAddr : ∀ ip, c.stores.v6.iana.byResource ip = none
  pd : ∀ duid, c.stores.v6.pd.byDUID duid = none
  leasesByPfx : ∀ pfx, c.stores.v6.pd.byResource pfx = none
  poolsV4 : ∀ pool a, c.stores.registry.v4.allocators pool = some a → a.IsNew
  poolsIANA : ∀ pool a, c.stores.registry.iana.allocators pool = some a → a.IsNew
  poolsPD : ∀ pool a, c.stores.registry.pd.allocators pool = some a → a.IsNew

def machine (K N S : Type) [DecidableEq K] [DecidableEq N] [DecidableEq S] :
    Machine (Component K N S) (ComponentEvent K N S) :=
  .ofNext Initial next

end Component
end Osvbng.Dhcp

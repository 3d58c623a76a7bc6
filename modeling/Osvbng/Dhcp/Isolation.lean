import Osvbng.Dhcp.Effects

/-!
# Whose leases a message touches

A message reaches records by identifiers: the hardware address and the client
identifier inside it, and the addresses its session remembers. Nothing checks
that the records found that way are the session's.

`Component.handle_spares_iff` puts the effects of the servers together: a
message leaves the bindings of the other sessions alone exactly when no record
that it reaches is theirs, when it comes and, if its session keeps it, when it is
handed to the servers later.
-/

namespace Osvbng.Dhcp
open Lib Lib.Slice Lib.NetIP Lib.Owned Allocator Stores Set Acts
variable {K N S : Type} [DecidableEq K] [DecidableEq N] [DecidableEq S]
namespace Component
variable (c : Component K N S) (m : Message K) (sess : SessionState N S) (chaddr : Bytes)

def addressSlots : Set (Slot K) :=
  match (resolveV4 c.stores.registry m.orders.v4 sess.sessionID sess.allocCtx).2.2 with
  | none => ∅
  | some a => reserveSlots4 c.stores.v4 c.stores.registry m.now a.yourIP chaddr

def clientSlots (o : Options6) : Set (Slot K) :=
  solicitSlots c.stores.v6 sess.sessionID
    (resolveV6 c.stores.registry m.orders sess.sessionID sess.allocCtx).2.2 o

/-- The address the session remembers, in every pool, and the DHCPv4 lease of
its hardware address. -/
def heldSlots4 : Set (Slot K) :=
  trySlots c.stores.registry (if sess.ipv4 = [] then none else some (.releaseIP sess.ipv4)) ∪
    leaseSlots4 c.stores.v4 c.stores.registry sess.mac

def addressSlots6 (order : List K) : Set (Slot K) :=
  trySlots c.stores.registry
      (if sess.ipv6Address = [] then none else some (.releaseIANAByIP sess.ipv6Address)) ∪
    trySlots c.stores.registry (sess.ipv6Prefix.map (.releasePDByPrefix order))

/-- With them the DHCPv6 leases of a client identifier. -/
def heldSlots6 (duid : Option Bytes) : Set (Slot K) :=
  c.addressSlots6 sess m.orders.pd ∪ leaseSlots6 c.stores.v6 c.stores.registry duid

def reach : Set (Slot K) :=
  match m.body with
  | .discover chaddr =>
    if sess.aaaApproved && sess.ipoeSessionCreated && sess.allocCtx.profileName.isSome then
      c.addressSlots m sess chaddr
    else ∅
  | .request chaddr _ _ =>
    if sess.aaaApproved && sess.allocCtx.profileName.isSome then c.addressSlots m sess chaddr
    else ∅
  | .release ciaddr =>
    if sess.ipv4 ≠ [] && !equal sess.ipv4 ciaddr then ∅
    else c.heldSlots4 sess ∪
      if c.endsOnRelease4 m sess then c.heldSlots6 m sess sess.dhcpv6DUID else ∅
  | .v6 .release o | .v6 .decline o =>
    c.heldSlots6 m sess o.clientID ∪ if c.endsOnRelease6 m sess then c.heldSlots4 sess else ∅
  | .v6 _ o =>
    if sess.aaaApproved && sess.ipoeSessionCreated && sess.allocCtx.ipv6ProfileName.isSome then
      c.clientSlots m sess o
    else ∅

/-- What a message that was kept reaches when it is handed over. -/
def forwardReach : Set (Slot K) :=
  match m.body with
  | .discover chaddr | .request chaddr _ _ => c.addressSlots m sess chaddr
  | .release _ | .v6 .release _ | .v6 .decline _ => ∅
  | .v6 _ o => c.clientSlots m sess o

theorem moves_addressSlots {r : Registry K N S} {ctx : AllocContext N}
    {resolved : Option (Resolved4 K)} {x : Option (Provider4 K S × Registry K N S)}
    (hg : resolveV4 c.stores.registry m.orders.v4 sess.sessionID sess.allocCtx = (r, ctx, resolved))
    (hnone : resolved = none → Moves sess.sessionID ∅ { c.stores with registry := r }
      (withV4 { c.stores with registry := r } x))
    (hsome : ∀ a, resolved = some a → x =
      c.stores.v4.reserveIP r m.now a.yourIP chaddr sess.sessionID a.poolName a.leaseTime) :
    Moves sess.sessionID (c.addressSlots m sess chaddr) c.stores
      (withV4 { c.stores with registry := r } x) := by
  have hresolve := c.stores.moves_resolveV4 m.orders.v4 sess.sessionID sess.allocCtx
  unfold addressSlots
  rw [hg] at hresolve ⊢
  cases resolved with
  | none =>
    have h := hresolve.trans (hnone rfl)
    rwa [empty_union] at h
  | some a =>
    rw [hsome a rfl]
    have hreserve := hresolve.trans
      (moves_reserveIP _ sess.sessionID m.now a.yourIP chaddr a.poolName a.leaseTime)
    rwa [empty_union, reserveSlots4_eq hresolve.shape] at hreserve

theorem moves_provideDiscover : Moves sess.sessionID (c.addressSlots m sess chaddr) c.stores
    (c.provideDiscover m sess chaddr).stores := by
  unfold provideDiscover
  generalize hg : resolveV4 c.stores.registry m.orders.v4 sess.sessionID sess.allocCtx = g
  obtain ⟨r, ctx, resolved⟩ := g
  have h := c.moves_addressSlots m sess chaddr
    (x := c.stores.v4.handleDiscover r m.now sess.sessionID resolved chaddr) hg ?_ ?_
  · dsimp only at h ⊢
    split <;> rename_i hx <;> rw [hx] at h <;> exact h
  · rintro rfl
    simp only [Provider4.handleDiscover]
    cases c.stores.v4.leases chaddr <;> exact .refl _
  · rintro a rfl
    rfl

theorem moves_provideRequest (isKept : Bool) (requestedIP : Option IP) (ciaddr : IP) :
    Moves sess.sessionID (c.addressSlots m sess chaddr) c.stores
      (c.provideRequest m sess isKept chaddr requestedIP ciaddr).stores := by
  unfold provideRequest
  generalize hg : resolveV4 c.stores.registry m.orders.v4 sess.sessionID sess.allocCtx = g
  obtain ⟨r, ctx, resolved⟩ := g
  have h := c.moves_addressSlots m sess chaddr (x := (c.stores.v4.handleRequest r m.now
    sess.sessionID resolved chaddr requestedIP ciaddr).map (·.2)) hg ?_ ?_
  · dsimp only at h ⊢
    split <;> rename_i hx <;> rw [hx] at h <;> exact h
  · rintro rfl
    simp only [Provider4.handleRequest]
    cases c.stores.v4.leases chaddr with
    | none => exact .refl _
    | some l =>
      dsimp only
      split
      · cases c.stores.v4.findPoolForIP (requestedIP.getD ciaddr) with
        | none => exact .refl _
        | some leaseTime => exact moves_refresh ..
      · exact .refl _
  · rintro a rfl
    simp [Provider4.handleRequest]

variable (o : Options6)

theorem moves_provideSolicit :
    Moves sess.sessionID (c.clientSlots m sess o) c.stores (c.provideSolicit m sess o).stores := by
  have hresolve := c.stores.moves_resolveV6 m.orders sess.sessionID sess.allocCtx
  have hsolicit := hresolve.trans (moves_handleSolicit _ sess.sessionID
    (resolveV6 c.stores.registry m.orders sess.sessionID sess.allocCtx).2.2 o
    m.orders.pickIANA m.orders.pickPD)
  rw [empty_union] at hsolicit
  exact hsolicit

theorem moves_provideRequest6 :
    Moves sess.sessionID (c.clientSlots m sess o) c.stores (c.provideRequest6 m sess o).stores := by
  unfold provideRequest6
  have hresolve := c.stores.moves_resolveV6 m.orders sess.sessionID sess.allocCtx
  unfold clientSlots solicitSlots
  generalize resolveV6 c.stores.registry m.orders sess.sessionID sess.allocCtx = g at *
  obtain ⟨r, ctx, resolved⟩ := g
  unfold Provider6.handleRequest
  cases o.clientID with
  | none => exact hresolve
  | some duid =>
    cases resolved with
    | none => exact hresolve
    | some a =>
      have h := hresolve.trans
        (moves_reserveResolved { c.stores with registry := r } sess.sessionID a o duid)
      rw [empty_union] at h
      exact h

omit [DecidableEq K] [DecidableEq N] [DecidableEq S] in
/-- A handler hands the message over if the family is enabled and the session is ready. -/
theorem moves_handler {enabled ready : Bool} {T : Set (Slot K)} {s : S} {c' : Component K N S}
    (key : SessionKey) (sess : SessionState N S) (hprovide : Moves s T c.stores c'.stores) :
    Moves s (if ready && enabled then T else ∅) c.stores
      (if enabled then if ready then c' else c.store key sess c.stores else c).stores := by
  cases enabled with
  | false => simpa using refl c.stores
  | true =>
    cases ready with
    | false => exact refl c.stores
    | true => exact hprovide

/-! ### Releases -/

variable {c m sess} {T : Set (Slot K)} {st : Stores K N S}

theorem clears_return4 (sess : SessionState N S) (h : Clears T c.stores st)
    (hv4 : st.v4 = c.stores.v4) :
    Clears (T ∪ c.heldSlots4 sess) c.stores
      ((st.releaseIP sess.ipv4).releaseLease4 sess.mac) := by
  have hip := h.trans (st.clears_releaseIP sess.sessionID sess.ipv4)
  have hlease := hip.trans ((st.releaseIP sess.ipv4).clears_releaseLease4 sess.sessionID sess.mac)
  rwa [leaseSlots4_eq hip.shape, trySlots_eq h.shape, releaseIP_v4, hv4, union_assoc] at hlease

theorem clears_returnAddresses6 (sess : SessionState N S) (order : List K)
    (h : Clears T c.stores st) : Clears (T ∪ c.addressSlots6 sess order) c.stores
      ((st.releaseIANAByIP sess.ipv6Address).releasePDByPrefix order sess.ipv6Prefix) := by
  have hiana := h.trans (st.clears_releaseIANAByIP sess.sessionID sess.ipv6Address)
  have hpd := hiana.trans ((st.releaseIANAByIP sess.ipv6Address).clears_releasePDByPrefix
    sess.sessionID order sess.ipv6Prefix)
  rwa [trySlots_eq hiana.shape, trySlots_eq h.shape, union_assoc] at hpd

theorem clears_handleRelease (ciaddr : IP) :
    Clears
      (if sess.ipv4 ≠ [] && !equal sess.ipv4 ciaddr then ∅
        else c.heldSlots4 sess ∪
          if c.endsOnRelease4 m sess then c.heldSlots6 m sess sess.dhcpv6DUID else ∅)
      c.stores (c.handleRelease m sess ciaddr).stores := by
  unfold handleRelease
  split
  · exact .refl _
  · have h4 := clears_return4 sess (refl c.stores) rfl
    rw [empty_union] at h4
    dsimp only [finish]
    split
    · have haddresses := clears_returnAddresses6 sess m.orders.pd h4
      have hlease := haddresses.trans (clears_releaseLease6 _ sess.sessionID sess.dhcpv6DUID)
      rw [leaseSlots6_eq haddresses.shape] at hlease
      simpa [heldSlots6, union_assoc] using hlease
    · rw [union_empty]
      exact h4

theorem clears_handleDHCPv6Release : Clears (c.heldSlots6 m sess o.clientID ∪
        if c.endsOnRelease6 m sess then c.heldSlots4 sess else ∅)
      c.stores (c.handleDHCPv6Release m sess o).stores := by
  have hlease := c.stores.clears_releaseLease6 sess.sessionID o.clientID
  have h6 := clears_returnAddresses6 sess m.orders.pd hlease
  rw [union_comm] at h6
  unfold handleDHCPv6Release
  rw [handleRelease6_eq]
  dsimp only [finish]
  split
  · exact clears_return4 sess h6 (by simp)
  · rw [union_empty]
    exact h6

theorem moves_handle (hsess : c.sessionOf m = some sess) :
    Moves sess.sessionID (c.reach m sess) c.stores (c.handle m).stores := by
  unfold handle reach
  rw [hsess]
  cases m.body with
  | discover chaddr =>
    exact moves_handler _ _ _ (c.moves_provideDiscover m (keep sess _ _) chaddr)
  | request chaddr requestedIP ciaddr =>
    exact moves_handler _ _ _ (c.moves_provideRequest m (keep sess _ _) chaddr _ requestedIP ciaddr)
  | release ciaddr => exact (clears_handleRelease ciaddr).moves sess.sessionID
  | v6 msgType o =>
    cases msgType with
    | solicit =>
      exact moves_handler _ _ _
        (c.moves_provideSolicit m { keep sess _ _ with dhcpv6DUID := o.clientID } o)
    | request | renew | rebind =>
      exact moves_handler _ _ _ (c.moves_provideRequest6 m (keep sess _ _) o)
    | release | decline => exact (clears_handleDHCPv6Release o).moves sess.sessionID

theorem moves_forward (sess : SessionState N S) :
    Moves sess.sessionID (c.forwardReach m sess) c.stores (c.forward m sess).stores := by
  unfold forward forwardReach
  cases m.body with
  | discover chaddr => exact c.moves_provideDiscover m sess chaddr
  | request chaddr requestedIP ciaddr =>
    exact c.moves_provideRequest m sess chaddr _ requestedIP ciaddr
  | release ciaddr => exact refl c.stores
  | v6 msgType o =>
    cases msgType with
    | solicit => exact c.moves_provideSolicit m sess o
    | request | renew | rebind => exact c.moves_provideRequest6 m sess o
    | release | decline => exact refl c.stores

/-- A message leaves the bindings of the other sessions alone exactly when the
records it reaches are free, expired or its own session's: when it is received, and when
a session that kept it hands it over, though the session be removed by then. -/
theorem handle_spares_iff (sess : SessionState N S) :
    (c.sessionOf m = some sess →
      (Spares sess.sessionID (c.stores.Counts m.now) c.stores.view (c.handle m).stores.view ↔
        ∀ x ∈ c.reach m sess, c.stores.Counts m.now x → Own sess.sessionID (c.stores.view x))) ∧
    (Spares sess.sessionID (c.stores.Counts m.now) c.stores.view (c.forward m sess).stores.view ↔
      ∀ x ∈ c.forwardReach m sess, c.stores.Counts m.now x →
        Own sess.sessionID (c.stores.view x)) :=
  ⟨fun hsess => (moves_handle hsess).view.spares_iff _, (moves_forward sess).view.spares_iff _⟩

/-! ### Two subscribers -/

variable (n : UInt8)

def subscriber : SessionState Nat Nat where
  sessionID := n.toNat
  mac := [2, 0, 0, 0, 0, n]
  aaaApproved := false
  ipoeSessionCreated := false
  allocCtx :=
    { vrf := 0, profileName := none, poolOverride := none, leaseTime := 0, ipv4Address := []
      ipv6ProfileName := some 0, ianaPoolOverride := none, pdPoolOverride := none
      ipv6Address := [0x20, 1, 0xd, 0xb8, 0, 0, 0, 0, 0, 0, 0, 0, 0, 0, 0, n]
      ipv6Prefix := none }
  ipv4 := []
  ipv6Address := []
  ipv6Prefix := none
  ipv6Bound := false
  dhcpv6DUID := none

def empty : Component Nat Nat Nat where
  stores :=
    { registry := ⟨fun _ => 0, fun profile _ => profile, ⟨fun _ => none, fun _ => []⟩,
        ⟨fun _ => none, fun _ => []⟩, ⟨fun _ => none, fun _ => []⟩⟩
      v4 := ⟨fun _ => none, fun _ => none, 0, fun _ => none⟩
      v6 := ⟨⟨fun _ => none, fun _ => none⟩, ⟨fun _ => none, fun _ => none⟩, [], []⟩ }
  sessions := fun _ => none
  unified := fun _ _ => false

def keyOf : SessionKey := ⟨some .v6, [2, 0, 0, 0, 0, n], 100, n.toUInt16⟩

def send (msgType : MsgType6) (duid : Bytes) : Message Nat where
  mac := [2, 0, 0, 0, 0, n]
  svlan := 100
  cvlan := n.toUInt16
  now := 0
  body := .v6 msgType ⟨some duid, some 1, none⟩
  orders := ⟨[], [], [], 0, 0⟩

def setUp : List (ComponentEvent Nat Nat Nat) :=
  [.attach (keyOf n) (subscriber n), .message (send n .solicit [n]),
    .aaaResponse (keyOf n) (subscriber n).allocCtx, .sessionCreated (keyOf n)]

def leased : List (ComponentEvent Nat Nat Nat) :=
  setUp n ++ [.forward .dhcpv6Solicit (send n .solicit [n])]

def after (evs : List (ComponentEvent Nat Nat Nat)) : Component Nat Nat Nat :=
  (Machine.run next (fun _ _ => True) empty evs).getD empty

theorem reach_twoSubscribers :
    (machine Nat Nat Nat).Reach (fun _ _ => True) (after (leased 1 ++ leased 2)) := by
  have hinit : (machine Nat Nat Nat).init empty := by
    constructor <;> first | exact fun _ => rfl | exact fun _ _ h => nomatch h
  have hrun : Machine.run next (fun _ _ => True) empty (leased 1 ++ leased 2) =
      some (after (leased 1 ++ leased 2)) := rfl
  exact (Machine.Reach.init hinit).of_run hrun

/-- The solicit that the second subscriber's session kept, and a release, both under
its own identifier. -/
theorem handle_spares_own :
    (∃ sess, (after (leased 1 ++ setUp 2)).sessionOf (send 2 .solicit [2]) = some sess ∧
      sess.pending .dhcpv6Solicit = some (send 2 .solicit [2]).body ∧
      Spares sess.sessionID ((after (leased 1 ++ setUp 2)).stores.Counts 0)
        (after (leased 1 ++ setUp 2)).stores.view
        ((after (leased 1 ++ setUp 2)).forward (send 2 .solicit [2]) sess).stores.view) ∧
    ∃ sess, (after (leased 1 ++ leased 2)).sessionOf (send 2 .release [2]) = some sess ∧
      Spares sess.sessionID ((after (leased 1 ++ leased 2)).stores.Counts 0)
        (after (leased 1 ++ leased 2)).stores.view
        ((after (leased 1 ++ leased 2)).handle (send 2 .release [2])).stores.view := by
  constructor
  · obtain ⟨sess, hsess, hkept⟩ : ∃ sess, (after (leased 1 ++ setUp 2)).sessionOf
        (send 2 .solicit [2]) = some sess ∧
          sess.pending .dhcpv6Solicit = some (send 2 .solicit [2]).body := ⟨_, rfl, rfl⟩
    refine ⟨sess, hsess, hkept,
      (handle_spares_iff (m := send 2 .solicit [2]) sess).2.mpr fun x hx _ => ?_⟩
    change x ∈ solicitSlots _ _ _ ⟨some [2], some 1, none⟩ at hx
    unfold solicitSlots at hx
    split at hx
    · rename_i hduid _
      cases hduid
      obtain ⟨-, ⟨rfl, -⟩ | ⟨-, hasked, -⟩⟩ := hx
      · exact own_none
      · cases hasked
    · cases hx
  · obtain ⟨sess, hsess, hid, hreach⟩ : ∃ sess, (after (leased 1 ++ leased 2)).sessionOf
        (send 2 .release [2]) = some sess ∧ sess.sessionID = 2 ∧
          (after (leased 1 ++ leased 2)).reach (send 2 .release [2]) sess =
            ∅ ∪ ∅ ∪ (Set.image Slot.iana {.client [2],
              .resource (subscriber 2).allocCtx.ipv6Address} ∪ ∅ ∪ ∅) ∪ (∅ ∪ ∅) :=
      ⟨_, rfl, rfl, rfl⟩
    refine ⟨sess, hsess, ((handle_spares_iff sess).1 hsess).mpr fun x hx _ => ?_⟩
    rw [hreach] at hx
    simp only [empty_union, union_empty] at hx
    rw [hid]
    rcases hx with ⟨y, rfl | rfl, rfl⟩
    · exact own_some _
    · exact own_some _

/-- A release under the identifier of the other subscriber takes that
subscriber's lease away. -/
theorem release_takes_other_lease :
    (machine Nat Nat Nat).Reach (fun _ _ => True) (after (leased 1 ++ leased 2)) ∧
      ∃ sess, (after (leased 1 ++ leased 2)).sessionOf (send 2 .release [1]) = some sess ∧
        ¬Spares sess.sessionID ((after (leased 1 ++ leased 2)).stores.Counts 0)
          (after (leased 1 ++ leased 2)).stores.view
          ((after (leased 1 ++ leased 2)).handle (send 2 .release [1])).stores.view := by
  obtain ⟨sess, hsess, hid⟩ : ∃ sess, (after (leased 1 ++ leased 2)).sessionOf
      (send 2 .release [1]) = some sess ∧ sess.sessionID = 2 := ⟨_, rfl, rfl⟩
  refine ⟨reach_twoSubscribers, sess, hsess, fun h => ?_⟩
  rw [hid] at h
  have hlost := h (.iana (.client [1])) 1 (.address (subscriber 1).allocCtx.ipv6Address [1] none)
    trivial (by decide) (by decide)
  revert hlost
  decide

end Component
end Osvbng.Dhcp

import Osvbng.Dhcp.Isolation

/-!
# The end of a session

A session leaves the table by a release of its client in either family, by a
terminate event, by the clean-up pass or by a reject of the server. What is
returned differs: a terminate event returns the bound addresses to the registry,
the clean-up also the DHCPv4 lease, a release the leases of both servers, a reject
nothing. Each of them is one step here. Which sessions the clean-up finds stale is
not modelled, and an answer of the server comes to a session that is not approved.

`Component.removal_forgets_iff`: nothing is left of a session exactly when every
record of it is one that the removal finds, by a bound address, by its hardware
address or by its client identifier. Addresses that are resolved and not bound are
found only through a lease that knows its pool. A session that keeps IPv6 asks for the
address it released (`Component.offers_after_release_iff`).
-/

namespace Osvbng.Dhcp
open Function Option Lib Lib.Slice Lib.NetIP Lib.Owned Allocator Stores Machine Bank

/-- What happens to the sessions. A removal names the key of its session; `order`
is that of the loop over the prefix pools. -/
inductive LifeEvent (P N S : Type) where
  | component (e : ComponentEvent P N S)
  | terminate (key : SessionKey) (order : List P)
  | cleanup (key : SessionKey) (order : List P)
  | aaaReject (key : SessionKey)

variable {P N S : Type} [DecidableEq P] [DecidableEq N] [DecidableEq S]

def Stores.releaseBound (st : Stores P N S) (order : List P) (sess : SessionState N S) :
    Stores P N S :=
  ((st.releaseIP sess.ipv4).releaseIANAByIP sess.ipv6Address).releasePDByPrefix order
    sess.ipv6Prefix

namespace Component
variable (c : Component P N S) (key : SessionKey)

def bothKeys (sess : SessionState N S) : List SessionKey :=
  [.v4, .v6].map fun family =>
    ⟨if c.unified key.svlan key.cvlan then none else some family, sess.mac, key.svlan, key.cvlan⟩

variable (order : List P) (sess : SessionState N S)

def handleSubscriberTerminate : Component P N S :=
  { c with
    stores := c.stores.releaseBound order sess
    sessions := fun k => if k ∈ c.bothKeys key sess then none else c.sessions k }

/-- `cleanupSessions`, for a session that it found stale. -/
def cleanupSession : Component P N S :=
  { c with
    stores := (c.stores.releaseBound order sess).releaseLease4 sess.mac
    sessions := update c.sessions key none }

/-- `handleAAAResponse`, for a session that is not allowed. -/
def handleAAAReject : Component P N S :=
  { c with sessions := fun k => if k ∈ c.bothKeys key sess then none else c.sessions k }

def step : LifeEvent P N S → Option (Component P N S)
  | .component e => c.next e
  | .terminate key order => (c.sessions key).map (c.handleSubscriberTerminate key order)
  | .cleanup key order => (c.sessions key).map (c.cleanupSession key order)
  | .aaaReject key =>
    (c.sessions key).bind fun sess =>
      if sess.aaaApproved then none else some (c.handleAAAReject key sess)

def lifeMachine (P N S : Type) [DecidableEq P] [DecidableEq N] [DecidableEq S] :
    Machine (Component P N S) (LifeEvent P N S) :=
  .ofNext Initial step

/-! ## What a removal gives back -/

def boundSlots : Set (Slot P) :=
  trySlots c.stores.registry (if sess.ipv4 = [] then none else some (.releaseIP sess.ipv4)) ∪
    c.addressSlots6 sess order

def givesBack : LifeEvent P N S → Set (Slot P)
  | .component (.message m) => (c.sessionOf m).elim ∅ (c.reach m)
  | .component _ => ∅
  | .terminate key order => (c.sessions key).elim ∅ (c.boundSlots order)
  | .cleanup key order =>
    (c.sessions key).elim ∅ fun sess =>
      c.boundSlots order sess ∪ leaseSlots4 c.stores.v4 c.stores.registry sess.mac
  | .aaaReject _ => ∅

variable {c} {c' : Component P N S} {m : Message P} {key : SessionKey} {sess : SessionState N S}
  {e : LifeEvent P N S}

theorem clears_releaseBound (sess : SessionState N S) :
    Clears (c.boundSlots order sess) c.stores (c.stores.releaseBound order sess) :=
  clears_returnAddresses6 sess order (c.stores.clears_releaseIP sess.sessionID sess.ipv4)

theorem clears_cleanupSession (key : SessionKey) (order : List P) (sess : SessionState N S) :
    Clears
      (c.boundSlots order sess ∪ leaseSlots4 c.stores.v4 c.stores.registry sess.mac)
      c.stores (c.cleanupSession key order sess).stores := by
  have hbound := clears_releaseBound (c := c) order sess
  have hlease := hbound.trans
    ((c.stores.releaseBound order sess).clears_releaseLease4 sess.sessionID sess.mac)
  have hv4 : (c.stores.releaseBound order sess).v4 = c.stores.v4 := by
    simp [releaseBound]
  rwa [leaseSlots4_eq hbound.shape, hv4] at hlease

omit [DecidableEq P] [DecidableEq N] [DecidableEq S] in
theorem sessions_store_ne_none {key' : SessionKey} {sess' : SessionState N S}
    {st : Stores P N S} (h : c.sessions key = some sess) :
    (c.store key' sess' st).sessions key ≠ none := by
  unfold store
  by_cases hkey : key = key'
  · simp [hkey]
  · simp [hkey, h]

section Provide
variable (sess₀ : SessionState N S) (h : c.sessions key = some sess)
include h

theorem sessions_provideDiscover (chaddr : Bytes) :
    (c.provideDiscover m sess₀ chaddr).sessions key ≠ none := by
  dsimp only [provideDiscover]
  split <;> exact sessions_store_ne_none h

theorem sessions_provideRequest (isKept : Bool) (chaddr : Bytes) (requestedIP : Option IP)
    (ciaddr : IP) :
    (c.provideRequest m sess₀ isKept chaddr requestedIP ciaddr).sessions key ≠ none := by
  dsimp only [provideRequest]
  split <;> exact sessions_store_ne_none h

theorem sessions_forward : (c.forward m sess₀).sessions key ≠ none := by
  unfold forward
  split
  · exact sessions_provideDiscover sess₀ h _
  · exact sessions_provideRequest sess₀ h _ _ _ _
  all_goals first | exact sessions_store_ne_none h | simp [h]

end Provide

omit [DecidableEq P] [DecidableEq N] [DecidableEq S] in
theorem sessions_handler {enabled ready : Bool} {c' : Component P N S} {key' : SessionKey}
    {sess' : SessionState N S} (h : c.sessions key = some sess)
    (hprovide : c'.sessions key ≠ none) :
    (if enabled then if ready then c' else c.store key' sess' c.stores else c).sessions key ≠
      none := by
  split_ifs
  · exact hprovide
  · exact sessions_store_ne_none h
  · simp [h]

/-- A message that removes a session is a release, which only gives back. -/
theorem clears_of_message {sess₀ : SessionState N S} (hsess : c.sessionOf m = some sess₀)
    (hbefore : c.sessions key = some sess) (hafter : (c.handle m).sessions key = none) :
    Clears (c.reach m sess₀) c.stores (c.handle m).stores := by
  unfold handle at hafter ⊢
  unfold reach
  rw [hsess] at hafter ⊢
  cases hbody : m.body with
  | discover chaddr =>
    rw [hbody] at hafter
    exact absurd hafter (sessions_handler hbefore (sessions_provideDiscover _ hbefore _))
  | request chaddr requestedIP ciaddr =>
    rw [hbody] at hafter
    exact absurd hafter (sessions_handler hbefore (sessions_provideRequest _ hbefore _ _ _ _))
  | release ciaddr => exact clears_handleRelease ciaddr
  | v6 msgType o =>
    rw [hbody] at hafter
    cases msgType with
    | solicit => exact absurd hafter (sessions_handler hbefore (sessions_store_ne_none hbefore))
    | request | renew | rebind =>
      exact absurd hafter (sessions_handler hbefore (sessions_store_ne_none hbefore))
    | release | decline => exact clears_handleDHCPv6Release o

theorem clears_of_removal (hstep : c.step e = some c')
    (hbefore : c.sessions key = some sess) (hafter : c'.sessions key = none) :
    Clears (c.givesBack e) c.stores c'.stores := by
  cases e with
  | component e =>
    cases e with
    | attach key' sess' =>
      cases hstep
      exact absurd hafter (sessions_store_ne_none hbefore)
    | message m =>
      cases hstep
      cases hsess : c.sessionOf m with
      | none =>
        rw [handle, hsess] at hafter
        exact absurd (hafter.symm.trans hbefore) nofun
      | some sess₀ =>
        rw [givesBack, hsess]
        exact clears_of_message hsess hbefore hafter
    | aaaResponse key' allocCtx =>
      obtain ⟨sess', -, rfl⟩ := map_eq_some_iff.mp hstep
      exact absurd hafter (sessions_store_ne_none hbefore)
    | sessionCreated key' =>
      obtain ⟨sess', -, rfl⟩ := map_eq_some_iff.mp hstep
      exact absurd hafter (sessions_store_ne_none hbefore)
    | forward kind m =>
      obtain ⟨sess', -, hforward⟩ := bind_eq_some_iff.mp hstep
      split at hforward
      · cases hforward
        exact absurd hafter (sessions_forward _ hbefore)
      · cases hforward
  | terminate key' order =>
    obtain ⟨sess', hsess', rfl⟩ := map_eq_some_iff.mp hstep
    rw [givesBack, hsess']
    exact clears_releaseBound order sess'
  | cleanup key' order =>
    obtain ⟨sess', hsess', rfl⟩ := map_eq_some_iff.mp hstep
    rw [givesBack, hsess']
    exact clears_cleanupSession key' order sess'
  | aaaReject key' =>
    obtain ⟨sess', hsess', hreject⟩ := bind_eq_some_iff.mp hstep
    split at hreject
    · cases hreject
    · cases hreject
      exact .refl _

/-- After a step that removes a session nothing is left of it exactly when the step
gives back every record of it. -/
theorem removal_forgets_iff (hstep : c.step e = some c')
    (hbefore : c.sessions key = some sess) (hafter : c'.sessions key = none) :
    Forgotten sess.sessionID c'.stores.view ↔
      ∀ x b, c.stores.view x = some (sess.sessionID, b) → x ∈ c.givesBack e :=
  (clears_of_removal hstep hbefore hafter).view.forgotten_iff sess.sessionID

/-! ### One subscriber -/

def pools : Component Nat Nat Nat where
  stores :=
    { empty.stores with
      registry :=
        { Tracked.onePool.registry with
          iana :=
            { allocators := fun pool =>
                if pool = 0 then
                  newPoolAllocator 4 (.v6 0x20010db8000000000000000000000001#128)
                    (.v6 0x20010db8000000000000000000000002#128) []
                else none
              profilePools := fun _ => [0] }
          pd :=
            { allocators := fun pool =>
                if pool = 0 then
                  newPrefixAllocator (.v6 0x20010db8000100000000000000000000#128) 62 64
                else none
              profilePools := fun _ => [0] } } }
  sessions := fun _ => none
  unified := fun _ _ => true

theorem initial_pools : Initial pools where
  sessions _ := rfl
  leases _ := rfl
  leasesByIP _ := rfl
  iana _ := rfl
  leasesByAddr _ := rfl
  pd _ := rfl
  leasesByPfx _ := rfl
  poolsV4 := Tracked.onePool_initial.1
  poolsIANA pool a h := by
    dsimp only [pools] at h
    split at h
    · exact ⟨_, _, _, _, h⟩
    · cases h
  poolsPD pool a h := by
    dsimp only [pools] at h
    split at h
    · exact ⟨_, _, _, h⟩
    · cases h

def clientMAC : Bytes := [2, 0, 0, 0, 0, 1]

def clientKey : SessionKey := ⟨none, clientMAC, 100, 1⟩

def client (ipv4Address : IP) : SessionState Nat Nat where
  sessionID := 1
  mac := clientMAC
  aaaApproved := true
  ipoeSessionCreated := true
  allocCtx :=
    { vrf := 0, profileName := some 0, poolOverride := none, leaseTime := 3600
      ipv4Address := ipv4Address, ipv6ProfileName := some 0, ianaPoolOverride := none
      pdPoolOverride := none, ipv6Address := [], ipv6Prefix := none }
  ipv4 := []
  ipv6Address := []
  ipv6Prefix := none
  ipv6Bound := false
  dhcpv6DUID := none

def attach (ipv4Address : IP) : LifeEvent Nat Nat Nat :=
  .component (.attach clientKey (client ipv4Address))

def receive (body : Body) : LifeEvent Nat Nat Nat :=
  .component (.message ⟨clientMAC, 100, 1, 0, body, ⟨[0], [0], [0], 0, 0⟩⟩)

def receive6 (msgType : MsgType6) (duid : Bytes) (iapd : Option UInt32) : LifeEvent Nat Nat Nat :=
  receive (.v6 msgType ⟨some duid, some 1, iapd⟩)

def offered : Component Nat Nat Nat :=
  ((pools.store clientKey (client []) pools.stores).handle
    ⟨clientMAC, 100, 1, 0, .discover clientMAC, ⟨[0], [0], [0], 0, 0⟩⟩).handle
    ⟨clientMAC, 100, 1, 0, .v6 .solicit ⟨some [1], some 1, some 1⟩, ⟨[0], [0], [0], 0, 0⟩⟩

theorem reach_offered : (lifeMachine Nat Nat Nat).Reach (fun _ _ => True) offered := by
  have hrun : run step (fun _ _ => True) pools
      [attach [], receive (.discover clientMAC), receive6 .solicit [1] (some 1)] =
        some offered := rfl
  exact (Reach.init initial_pools).of_run hrun

theorem key_of_single {X B L : Type} [DecidableEq X] {t : X → Option L} {k x : X} {f : L → B}
    {y : B} (ht : t = update (fun _ => none) k (t k)) (h : (t x).map f = some y) :
    x = k := by
  by_contra hne
  rw [ht, update_of_ne hne] at h
  cases h

theorem key_of_bank {A R K : Type} [LeasePool A R K Nat] [DecidableEq K] {b : Bank Nat Nat A}
    {k : K} {x : Nat × K} {y : Nat × Binding Nat} (hpool : ∀ q, q ≠ 0 → b.allocators q = none)
    (howner : b.owner 0 = update (fun _ => none) k (b.owner 0 k))
    (h : bankView b x = some y) : x = (0, k) := by
  obtain ⟨q, k'⟩ := x
  by_cases hq : q = 0
  · subst hq
    have hk : k' = k := key_of_single howner h
    rw [hk]
  · simp [bankView, owner, hpool q hq] at h

/-- A release of the client returns what it was offered. -/
theorem removal_forgets_offered :
    ∃ c c' sess, (lifeMachine Nat Nat Nat).Reach (fun _ _ => True) c ∧
      c.step (receive (.release [0, 0, 0, 0])) = some c' ∧ c.sessions clientKey = some sess ∧
      c'.sessions clientKey = none ∧ (∃ x b, c.stores.view x = some (sess.sessionID, b)) ∧
      Forgotten sess.sessionID c'.stores.view := by
  have hsess : ∃ sess, offered.sessions clientKey = some sess ∧ sess.sessionID = 1 :=
    ⟨_, rfl, rfl⟩
  obtain ⟨sess, hsess, hid⟩ := hsess
  refine ⟨offered, _, sess, reach_offered, rfl, hsess, rfl, ?_, ?_⟩
  · rw [hid]
    exact ⟨.v4 (.client clientMAC), _, rfl⟩
  have hstep : offered.step (receive (.release [0, 0, 0, 0])) = some (offered.handle
      ⟨clientMAC, 100, 1, 0, .release [0, 0, 0, 0], ⟨[0], [0], [0], 0, 0⟩⟩) := rfl
  refine (removal_forgets_iff hstep hsess rfl).mpr ?_
  intro x b hview
  cases x with
  | v4 x =>
    cases x with
    | client mac =>
      have hmac : mac = clientMAC := key_of_single rfl hview
      subst hmac
      exact .inl (.inr (.inl ⟨_, .inl rfl, rfl⟩))
    | resource ip =>
      have hip : ip = [10, 0, 0, 1] := key_of_single rfl hview
      subst hip
      exact .inl (.inr (.inl ⟨_, .inr rfl, rfl⟩))
  | iana x =>
    cases x with
    | client duid =>
      have hduid : duid = [1] := key_of_single rfl hview
      subst hduid
      exact .inr (.inr (.inl (.inl ⟨_, .inl rfl, rfl⟩)))
    | resource ip =>
      have hip : ip = [0x20, 1, 0xd, 0xb8, 0, 0, 0, 0, 0, 0, 0, 0, 0, 0, 0, 1] :=
        key_of_single rfl hview
      subst hip
      exact .inr (.inr (.inl (.inl ⟨_, .inr rfl, rfl⟩)))
  | pd x =>
    cases x with
    | client duid =>
      have hduid : duid = [1] := key_of_single rfl hview
      subst hduid
      exact .inr (.inr (.inr (.inl ⟨_, .inl rfl, rfl⟩)))
    | resource pfx =>
      have hpfx : pfx = ⟨[0x20, 1, 0xd, 0xb8, 0, 1, 0, 0, 0, 0, 0, 0, 0, 0, 0, 0], 64, 128⟩ :=
        key_of_single rfl hview
      subst hpfx
      exact .inr (.inr (.inr (.inl ⟨_, .inr rfl, rfl⟩)))
  | poolV4 x =>
    have hx : x = (0, .v4 0x0a000001#32) :=
      key_of_bank (fun q hq => (update_of_ne hq _ _).trans (if_neg hq)) rfl hview
    subst hx
    exact .inl (.inr (.inr (.inl (.inl ⟨_, ⟨_, rfl, by decide +kernel⟩, rfl⟩))))
  | poolIANA x =>
    have hx : x = (0, .v6 0x20010db8000000000000000000000001#128) :=
      key_of_bank (fun q hq => (update_of_ne hq _ _).trans (if_neg hq)) rfl hview
    subst hx
    exact .inr (.inr (.inl (.inr (.inl (.inr ⟨_, ⟨_, rfl, by decide +kernel⟩, rfl⟩)))))
  | poolPD x =>
    have hx : x = (0, 0) :=
      key_of_bank (fun q hq => (update_of_ne hq _ _).trans (if_neg hq)) rfl hview
    subst hx
    exact .inr (.inr (.inr (.inr (.inr ⟨_, ⟨_, rfl, by decide +kernel⟩, rfl⟩))))

/-- Histories that end in the removal of the session, each with a record of it that
is left:
* bound and terminated: the lease of the DHCPv4 server;
* offered an address and terminated: the address in the pool;
* advertised an address and cleaned up: the address in the pool;
* bound in DHCPv6 and cleaned up: the lease of the DHCPv6 server;
* offered the address that AAA gave it and released: the address in the pool;
* asked for an address only and released: the prefix that was resolved with it;
* released under another client identifier: the lease of the first one. -/
def leaks : List (List (LifeEvent Nat Nat Nat) × Slot Nat) :=
  [([attach [], receive (.discover clientMAC), receive (.request clientMAC none []),
      .terminate clientKey [0]], .v4 (.client clientMAC)),
    ([attach [], receive (.discover clientMAC), .terminate clientKey [0]],
      .poolV4 (0, .v4 0x0a000001#32)),
    ([attach [], receive6 .solicit [1] (some 1), .cleanup clientKey [0]],
      .poolIANA (0, .v6 0x20010db8000000000000000000000001#128)),
    ([attach [], receive6 .solicit [1] (some 1), receive6 .request [1] (some 1),
      .cleanup clientKey [0]], .iana (.client [1])),
    ([attach [10, 0, 0, 2], receive (.discover clientMAC), receive (.release [0, 0, 0, 0])],
      .poolV4 (0, .v4 0x0a000002#32)),
    ([attach [], receive6 .solicit [1] none, receive6 .request [1] none,
      receive6 .release [1] none], .poolPD (0, 0)),
    ([attach [], receive6 .solicit [1] (some 1), receive6 .request [1] (some 1),
      receive6 .release [2] (some 1)], .iana (.client [1]))]

theorem removal_leaks :
    leaks.Forall fun h => ∃ c, run step (fun _ _ => True) pools h.1 = some c ∧
      (lifeMachine Nat Nat Nat).Reach (fun _ _ => True) c ∧ c.sessions clientKey = none ∧
      ¬ Forgotten 1 c.stores.view := by
  refine forall_exists_run initial_pools _ (fun h c => (c.sessions clientKey).isNone ∧
    ∃ held ∈ c.stores.view h.2, held.1 = 1) (by decide +kernel) ?_
  rintro h c hreach ⟨hgone, ⟨_, b⟩, hview, rfl⟩
  exact ⟨hreach, isNone_iff_eq_none.mp hgone, fun hforgotten => hforgotten h.2 b hview⟩

/-! ## A session that keeps IPv6 -/

section Kept
variable (c : Component P N S) (m : Message P)

def offers (chaddr : Bytes) : Bool :=
  (c.sessionOf m).any fun sess =>
    sess.aaaApproved && sess.ipoeSessionCreated && sess.allocCtx.profileName.isSome &&
      let (r, _, resolved) := resolveV4 c.stores.registry m.orders.v4 sess.sessionID sess.allocCtx
      (c.stores.v4.handleDiscover r m.now sess.sessionID resolved chaddr).isSome

/-- The pool that the loop finds has leased the address to another session. -/
def TakenFrom (s : S) (ip : IP) : Prop :=
  ∃ pool k other, c.stores.registry.v4.firstContaining m.orders.v4 ip = some pool ∧
    c.stores.registry.v4.keyOf pool ip = some k ∧
    c.stores.registry.v4.owner pool k = some other ∧ other ≠ s

variable {c m} {c' : Component P N S} {m' : Message P} {sess : SessionState N S}
  {ciaddr ip : IP} {chaddr : Bytes} {s : S}

omit [DecidableEq N] in
theorem reserveIP_eq_none_iff :
    c.stores.registry.reserveIP m.orders.v4 ip s = none ↔ c.TakenFrom m s ip := by
  unfold Registry.reserveIP reserve TakenFrom
  cases c.stores.registry.v4.firstContaining m.orders.v4 ip with
  | none => simp
  | some pool => simp [reserveAt_eq_none_iff]

omit [DecidableEq N] [DecidableEq S] in
theorem isSome_reserveIP {p : Provider4 P S} {r : Registry P N S} {now leaseTime : Nat}
    {poolName : Option P} : (p.reserveIP r now ip chaddr s poolName leaseTime).isSome ↔
      ∀ l ∈ p.leasesByIP (unmapped ip), l.mac = chaddr ∨ l.expireTime < now := by
  unfold Provider4.reserveIP
  cases p.leasesByIP (unmapped ip) with
  | none => simp
  | some l =>
    dsimp only
    split_ifs with hmac hexpired <;> simp [*]

/-- The session remembers the address that it released. -/
theorem sessionOf_release (hm : m.body = .release ciaddr) (hsess : c.sessionOf m = some sess)
    (hkept : c.endsOnRelease4 m sess = false) :
    ∃ ipv4, (c.handle m).sessionOf m = some { sess with ipv4 := ipv4 } := by
  unfold handle
  rw [hsess, hm]
  dsimp only [handleRelease]
  split
  · exact ⟨sess.ipv4, hsess⟩
  · refine ⟨[], ?_⟩
    simp [sessionOf, finish, hkept, hm, makeSessionKey, family]

/-- After a release that keeps the session, a discover is offered an address exactly if the
one that the session had is not another's, however many are free. -/
theorem offers_after_release_iff (hm : m.body = .release ciaddr) (hsess : c.sessionOf m = some sess)
    (hready : sess.aaaApproved && sess.ipoeSessionCreated && sess.allocCtx.profileName.isSome)
    (hheld : sess.allocCtx.ipv4Address ≠ []) (hkept : c.endsOnRelease4 m sess = false)
    (hlater : c'.sessionOf m' = (c.handle m).sessionOf m) :
    c'.offers m' chaddr ↔
      (c'.TakenFrom m' sess.sessionID sess.allocCtx.ipv4Address ∧
        (c'.stores.v4.leases chaddr).isSome) ∨
      (¬ c'.TakenFrom m' sess.sessionID sess.allocCtx.ipv4Address ∧
        ∀ l ∈ c'.stores.v4.leasesByIP (unmapped sess.allocCtx.ipv4Address),
          l.mac = chaddr ∨ l.expireTime < m'.now) := by
  obtain ⟨ipv4, hafter⟩ := sessionOf_release hm hsess hkept
  rw [← reserveIP_eq_none_iff]
  unfold offers resolveV4
  rw [hlater, hafter, any_some, hready, Bool.true_and]
  rw [Bool.and_eq_true] at hready
  obtain ⟨profile, hprofile⟩ := isSome_iff_exists.mp hready.2
  simp only [hprofile, hheld, if_false]
  cases c'.stores.registry.reserveIP m'.orders.v4 sess.allocCtx.ipv4Address sess.sessionID with
  | none => simp [Provider4.handleDiscover]
  | some r => simp [Provider4.handleDiscover, isSome_reserveIP]

end Kept

def message (mac : Bytes) (cvlan : UInt16) (body : Body) : Message Nat :=
  ⟨mac, 100, cvlan, 0, body, ⟨[0], [0], [0], 0, 0⟩⟩

def dualStack : Component Nat Nat Nat :=
  pools.store clientKey { client [10, 0, 0, 1] with ipv4 := [10, 0, 0, 1], ipv6Bound := true }
    pools.stores

theorem offers_after_release_own :
    (dualStack.handle (message clientMAC 1 (.release [10, 0, 0, 1]))).offers
      (message clientMAC 1 (.discover clientMAC)) clientMAC = true := by
  refine (offers_after_release_iff (c := dualStack) rfl rfl rfl (by decide) (by decide)
    rfl).mpr (.inr ⟨?_, nofun⟩)
  rw [← reserveIP_eq_none_iff]
  decide +kernel

/-- The released address goes to another subscriber. The session is not offered the other
address of the pool. -/
theorem discover_refused : ∃ c : Component Nat Nat Nat,
    (lifeMachine Nat Nat Nat).Reach (fun _ _ => True) c ∧
    (c.sessions clientKey).any (fun sess => sess.ipv6Bound) = true ∧
    c.stores.registry.v4.free 0 ≠ [] ∧
    c.offers (message clientMAC 1 (.discover clientMAC)) clientMAC = false :=
  exists_reach_of_run initial_pools
    [attach [], receive (.discover clientMAC), receive (.request clientMAC none []),
      receive6 .solicit [1] none, receive6 .request [1] none, receive (.release [10, 0, 0, 1]),
      .component (.attach ⟨none, [2], 100, 2⟩ { client [] with sessionID := 2, mac := [2] }),
      .component (.message (message [2] 2 (.discover [2])))] (by decide +kernel)
end Component
end Osvbng.Dhcp

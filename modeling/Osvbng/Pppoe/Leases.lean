import Osvbng.Allocator.Ownership
import Osvbng.Pppoe.Component
import Osvbng.Pppoe.Holding

/-!
# The leases behind a session's addresses

Every address a session holds, has negotiated or offers should be leased to it
in the registry, either in the only pool that contains the address or in the
pool of the session's own VRF that it was allocated from (`Holds`). The lemmas
here follow this through the steps of one session: `accept_result` for a
bring-up that finds an address, `terminate_result` for a removal, and
`result_handleEvent` for everything else.
-/

namespace Osvbng.Pppoe
open Option List Lib.Slice Lib.NetIP Ppp Allocator Host Bank Addr Registry Bool Ipcp
variable {K N S Q : Type}
variable {h h' : Host K N S Q} {b b' : Bank K N (PoolAllocator S)} {ip : IP} {r r' : Registry K N S}
  {hd : Holding K N S} {pool : K}

/-! ## Leases -/

structure WithinRange (b : Bank K N (PoolAllocator S)) : Prop where
  owner : ∀ pool k, b.owner pool k ≠ none → b.InRange pool k
  free : ∀ pool, ∀ k ∈ b.free pool, b.InRange pool k

theorem WithinRange.of_isNew
    (hnew : ∀ pool a, b.allocators pool = some a → a.IsNew) : WithinRange b where
  owner pool k hk := by
    cases ha : b.allocators pool with
    | none => simp [Bank.owner, ha] at hk
    | some a =>
      have hnone : LeasePool.owner a k = none := (hnew pool a ha).leases_eq_none k
      simp [Bank.owner, ha, hnone] at hk
  free pool k hk := by
    cases ha : b.allocators pool with
    | none => simp [Bank.free, ha] at hk
    | some a =>
      rw [Bank.free, ha] at hk
      exact ⟨a, ha, ((hnew pool a ha).free_iff k).mp hk |>.1⟩

theorem canon_of_keyOf {k : Addr} (h : b.keyOf pool ip = some k) : canon ip = some k := by
  obtain ⟨a, -, hk⟩ := bind_eq_some_iff.mp h
  exact hk

theorem contains_of_inRange {k : Addr}
    (hk : canon ip = some k) (h : b.InRange pool k) : b.contains pool ip := by
  obtain ⟨a, ha, hrange⟩ := h
  have hkey : b.keyOf pool ip = some k := by
    rw [keyOf, ha]
    exact hk
  exact (contains_iff hkey).mpr ⟨a, ha, hrange⟩

structure Extends (b b' : Bank K N (PoolAllocator S)) : Prop where
  shape : b.SameShape b'
  owner : ∀ pool k s, b.owner pool k = some s → b'.owner pool k = some s
  new : ∀ pool k, b'.owner pool k ≠ none → b.owner pool k ≠ none ∨ b.InRange pool k
  free : ∀ pool, b'.free pool ⊆ b.free pool

theorem Extends.refl (b : Bank K N (PoolAllocator S)) : Extends b b :=
  ⟨.refl b, fun _ _ _ h => h, fun _ _ h => .inl h, fun _ => List.Subset.refl _⟩

theorem Extends.withinRange (h : Extends b b') (hb : WithinRange b) : WithinRange b' where
  owner pool k hk := by
    rw [h.shape.inRange_iff]
    exact (h.new pool k hk).elim (hb.owner pool k) id
  free pool k hk := by
    rw [h.shape.inRange_iff]
    exact hb.free pool k (h.free pool hk)

theorem Extends.keeps (h : Extends b b') (s : S) : Keeps s b b' :=
  fun pool k other hk _ => h.owner pool k other hk

def OnlyIn (b : Bank K N (PoolAllocator S)) (pool : K) (k : Addr) : Prop :=
  ∀ q, b.InRange q k → q = pool

/-- The address is leased to the session, in the only pool that contains it or
in the pool of the session's VRF that it was allocated from. -/
def Holds (r : Registry K N S) (hd : Holding K N S) (ip : IP) : Prop :=
  ∃ pool k, canon ip = some k ∧ r.v4.InRange pool k ∧ r.v4.owner pool k = some hd.sessionID ∧
    (OnlyIn r.v4 pool k ∨ (hd.allocatedPool = some pool ∧ r.poolVRFs pool = hd.vrf))

theorem Holds.of_canon_eq {ip' : IP}
    (h : Holds r hd ip) (hip : canon ip' = canon ip) : Holds r hd ip' := by
  obtain ⟨pool, k, hk, hrest⟩ := h
  exact ⟨pool, k, hip.trans hk, hrest⟩

/-- Everything a session holds, has negotiated or offers is leased to it. -/
structure Leased (r : Registry K N S) (hd : Holding K N S) (network : Prop) : Prop where
  own : hd.ipv4Address ≠ [] → Holds r hd hd.ipv4Address
  negotiated : hd.negotiated ≠ [] → Holds r hd hd.negotiated
  assigned : network → isUsableIPv4 hd.assigned = true ∧ Holds r hd hd.assigned

section Mono
variable (hshape : r.v4.SameShape r'.v4) (hvrfs : r'.poolVRFs = r.poolVRFs)
  (howner : ∀ pool k, r.v4.owner pool k = some hd.sessionID →
    r'.v4.owner pool k = some hd.sessionID)
include hshape hvrfs howner

theorem Holds.mono (h : Holds r hd ip) : Holds r' hd ip := by
  obtain ⟨pool, k, hk, hrange, hown, hpool⟩ := h
  refine ⟨pool, k, hk, (hshape.inRange_iff pool k).mpr hrange, howner pool k hown, ?_⟩
  rw [hvrfs]
  exact hpool.imp_left fun honly q hq => honly q ((hshape.inRange_iff q k).mp hq)

theorem Leased.mono {network : Prop} (h : Leased r hd network) : Leased r' hd network where
  own hne := (h.own hne).mono hshape hvrfs howner
  negotiated hne := (h.negotiated hne).mono hshape hvrfs howner
  assigned hnet := (h.assigned hnet).imp_right fun hh => hh.mono hshape hvrfs howner

end Mono

namespace Host

def Leases (h : Host K N S Q) : Prop :=
  Leased h.registry h.holding (IsNetwork h.session.phase)

theorem Still.leases (hs : Still h h') (hl : h.Leases) : h'.Leases := by
  unfold Leases
  rw [hs.holding, hs.registry]
  exact ⟨hl.own, hl.negotiated, fun hnet => hl.assigned (hs.phase hnet)⟩

theorem Negotiates.leases (hn : Negotiates h h') (hl : h.Leases) : h'.Leases := by
  have hassigned := fun hnet => hl.assigned (hn.phase hnet)
  unfold Leases
  rw [hn.registry]
  rcases hn.holding with heq | heq
  · rw [heq]
    exact ⟨hl.own, hl.negotiated, hassigned⟩
  · rw [heq]
    exact ⟨hl.negotiated, hl.negotiated, hassigned⟩

/-- A packet of IPCP can only make the peer's address the assigned one. -/
theorem leases_applyIPCP_input {code id : UInt8} {data : Bytes}
    {r : Fsm Ipcp × List Action} (hl : h.Leases) (hnet : IsNetwork h.session.phase)
    (hr : h.session.ipcp.input code id data = some r) : (h.applyIPCP r).Leases := by
  obtain ⟨husable, hassigned⟩ := hl.assigned hnet
  obtain ⟨hsame, haddress⟩ := Fsm.handlerInvariant_input
    (address_invariant husable h.holding.negotiated) hr ⟨rfl, .inl rfl⟩
  refine (h.negotiates_applyIPCP r).leases ?_
  have hholding : (h.modify fun s => { s with ipcp := r.1 }).holding =
      { h.holding with negotiated := r.1.handler.peerConfig.address } := by
    simp only [holding, modify] at hsame ⊢
    rw [hsame]
  have hset : Leased h.registry
      { h.holding with negotiated := r.1.handler.peerConfig.address }
      (IsNetwork h.session.phase) := by
    refine ⟨hl.own, fun hne => ?_, hl.assigned⟩
    rcases haddress with hold | hnew
    · rw [hold] at hne ⊢
      exact hl.negotiated hne
    · exact Holds.of_canon_eq hassigned hnew
  unfold Leases
  rw [hholding]
  exact hset

end Host

/-! ## Bringing a session up -/

structure SameIPv4 (h h' : Host K N S Q) : Prop where
  holding : h'.holding = h.holding
  v4 : h'.registry.v4 = h.registry.v4
  poolVRFs : h'.registry.poolVRFs = h.registry.poolVRFs

theorem SameIPv4.trans {h'' : Host K N S Q} (h1 : SameIPv4 h h') (h2 : SameIPv4 h' h'') :
    SameIPv4 h h'' :=
  ⟨h2.holding.trans h1.holding, h2.v4.trans h1.v4, h2.poolVRFs.trans h1.poolVRFs⟩

theorem sameIPv4_applyProfileDNS (env : Env K N Q) (h : Host K N S Q) :
    SameIPv4 h (h.modify (applyProfileDNS env)) := by
  refine ⟨?_, rfl, rfl⟩
  unfold applyProfileDNS Host.modify
  dsimp only
  split <;> rfl

theorem sendAuthAccept_session (h : Host K N S Q) :
    h.sendAuthAccept.session = h.session ∧ h.sendAuthAccept.registry = h.registry := by
  unfold sendAuthAccept
  split <;> exact ⟨rfl, rfl⟩

section Assign
variable [DecidableEq K] [DecidableEq N] [DecidableEq S] {pool : K}

omit [DecidableEq N] in
theorem extends_reserveAt {s : S}
    (h : b.reserveAt pool ip s = some b') (hin : b.contains pool ip) : Extends b b' := by
  obtain ⟨hshape, howner, hfree, hsub⟩ := reserveAt_spec h
  refine ⟨hshape, fun q k o ho => ?_, fun q k hne => ?_, hsub⟩
  · rw [howner]
    split
    · rename_i hkey
      obtain ⟨rfl, hk⟩ := hkey
      rcases hfree k hk with hnone | hself
      · rw [hnone] at ho
        cases ho
      · rw [← hself, ho]
    · exact ho
  · rw [howner] at hne
    split at hne
    · rename_i hkey
      obtain ⟨rfl, hk⟩ := hkey
      exact .inr ((contains_iff hk).mp hin)
    · exact .inl hne

omit [DecidableEq N] [DecidableEq S] in
theorem extends_allocateFirst {keys : List K} {s : S} {k : Addr} (hb : WithinRange b)
    (h : b.allocateFirst s keys = some (k, pool, b')) : Extends b b' := by
  obtain ⟨-, hmem, hnone, hshape, howner, hsub⟩ := allocateFirst_spec h
  refine ⟨hshape, fun q j o ho => ?_, fun q j hne => ?_, hsub⟩
  · rw [howner]
    split
    · rename_i hkey
      obtain ⟨rfl, rfl⟩ := hkey
      rw [hnone] at ho
      cases ho
    · exact ho
  · rw [howner] at hne
    split at hne
    · rename_i hkey
      obtain ⟨rfl, rfl⟩ := hkey
      exact .inr (hb.free _ _ hmem)
    · exact .inl hne

omit [DecidableEq K] [DecidableEq N] [DecidableEq S] in
theorem firstContaining_eq_some {order : List K} (hmem : pool ∈ order) (hin : b.contains pool ip)
    (honly : ∀ q, b.contains q ip → q = pool) : b.firstContaining order ip = some pool := by
  unfold firstContaining
  cases hfind : order.find? fun q => b.contains q ip with
  | none => exact absurd hin (find?_eq_none.mp hfind pool hmem)
  | some q => rw [honly q (by simpa using find?_some hfind)]

/-- The IPv4 pools hold IPv4 addresses other than zero, and the pools of a VRF
have no address in common. -/
structure PoolsSound (r : Registry K N S) : Prop where
  ipv4 : ∀ pool k, r.v4.InRange pool k → ∃ a : BitVec 32, a ≠ 0#32 ∧ k = .v4 a
  distinct : ∀ pool pool' k, r.v4.InRange pool k → r.v4.InRange pool' k →
    r.poolVRFs pool = r.poolVRFs pool' → pool = pool'

variable (env : Env K N Q) {ctx : AllocContext N}

/-- The address `ip` that AAA has assigned is usable, in one pool only, and
there free or the session's own. -/
def Reservable (r : Registry K N S) (sessionID : S) (ip : IP) : Prop :=
  isUsableIPv4 ip = true ∧ ∃ pool ∈ env.v4Order, r.v4.contains pool ip ∧
    (∀ q, r.v4.contains q ip → q = pool) ∧
    ∀ k, canon ip = some k → r.v4.owner pool k = none ∨ r.v4.owner pool k = some sessionID

/-- One of the pools that are tried has a free address, and a pool named by the
group or by AAA belongs to the VRF of the session. -/
def Allocatable (r : Registry K N S) (ctx : AllocContext N) : Prop :=
  ∃ profile, ctx.profileName = some profile ∧
    (∀ name, ctx.poolOverride = some name → r.poolVRFs (r.poolKey profile name) = ctx.vrf) ∧
    ∃ pool ∈ r.v4.candidates r.poolKey r.poolVRFs profile ctx.poolOverride ctx.vrf,
      r.v4.free pool ≠ []

instance (r : Registry K N S) (ctx : AllocContext N) : Decidable (Allocatable r ctx) :=
  inferInstanceAs (Decidable (∃ profile ∈ ctx.profileName, (∀ name ∈ ctx.poolOverride, _) ∧
    ∃ pool ∈ r.v4.candidates r.poolKey r.poolVRFs profile ctx.poolOverride ctx.vrf, _))

omit [DecidableEq K] [DecidableEq S] in
theorem poolVRFs_of_mem_candidates {profile : N} {poolOverride : Option N}
    {vrf : N} (hover : ∀ name, poolOverride = some name → r.poolVRFs (r.poolKey profile name) = vrf)
    (hmem : pool ∈ r.v4.candidates r.poolKey r.poolVRFs profile poolOverride vrf) :
    r.poolVRFs pool = vrf := by
  unfold candidates at hmem
  rw [mem_append] at hmem
  rcases hmem with hmem | hmem
  · simp only [mem_toList, map_eq_some_iff] at hmem
    obtain ⟨name, hname, rfl⟩ := hmem
    exact hover name hname
  · simpa using (mem_filter.mp hmem).2

theorem isUsableIPv4_asSlice {a : BitVec 32} (ha : a ≠ 0#32) :
    isUsableIPv4 (v4 a).asSlice = true := by
  have hlen : (v4 a).asSlice.length = 4 := by simp [asSlice]
  have hto4 : to4 (v4 a).asSlice = (v4 a).asSlice := by simp [to4, hlen]
  have hne : (v4 a).asSlice ≠ [] := by
    intro h
    simp [h] at hlen
  have hcanon : canon (v4 a).asSlice = some (.v4 a) := canon_asSlice trivial
  have hunspec : isUnspecified (v4 a).asSlice = false := by
    by_contra h
    rw [not_eq_false, isUnspecified, or_eq_true] at h
    rcases h with h | h
    · have hzero := (canon_eq_of_equal h).symm.trans hcanon
      cases hzero
      exact ha rfl
    · have hzero := (canon_eq_of_equal h).symm.trans hcanon
      cases hzero
  simp [isUsableIPv4, hto4, hne, hunspec]

structure Granted (h h' : Host K N S Q) : Prop where
  registry : Extends h.registry.v4 h'.registry.v4
  poolVRFs : h'.registry.poolVRFs = h.registry.poolVRFs
  usable : isUsableIPv4 h'.session.ipv4Address = true
  holds : Holds h'.registry h'.holding h'.session.ipv4Address
  holding : h'.holding = { h.holding with
    ipv4Address := h'.session.ipv4Address, allocatedPool := h'.session.allocatedPool }

omit [DecidableEq N] in
theorem granted_reserve
    (hres : Reservable env h.registry h.session.sessionID h.session.ipv4Address) :
    ∃ registry, h.registry.reserveIP env.v4Order h.session.ipv4Address h.session.sessionID =
      some registry ∧ Granted h { h with registry := registry } := by
  obtain ⟨husable, pool, hmem, hin, honly, hfree⟩ := hres
  have hfirst := firstContaining_eq_some hmem hin honly
  obtain ⟨k, hk⟩ := exists_keyOf_of_contains hin
  have hcanon := canon_of_keyOf hk
  obtain hnone | ⟨b, hb⟩ := eq_none_or_eq_some
    (h.registry.v4.reserveAt pool h.session.ipv4Address h.session.sessionID)
  · obtain ⟨k', other, hk', hother, hne'⟩ := (reserveAt_eq_none_iff _ _ _ _).mp hnone
    rcases hfree k' (canon_of_keyOf hk') with hfree | hfree
    · simp [hother] at hfree
    · exact absurd (some.inj (hother.symm.trans hfree)) hne'
  · have hext := extends_reserveAt hb hin
    have hrange := (contains_iff hk).mp hin
    obtain ⟨-, howner, -, -⟩ := reserveAt_spec hb
    refine ⟨{ h.registry with v4 := b }, ?_, hext, rfl, husable, ?_, rfl⟩
    · simp [reserveIP, reserve, hfirst, hb]
    · refine ⟨pool, k, hcanon, (hext.shape.inRange_iff pool k).mpr hrange, ?_, .inl fun q hq => ?_⟩
      · rw [howner, if_pos ⟨rfl, hk⟩]
        rfl
      · exact honly q (contains_of_inRange hcanon ((hext.shape.inRange_iff q k).mp hq))

omit [DecidableEq S] in
theorem granted_allocate (hpools : PoolsSound h.registry) (hw : WithinRange h.registry.v4)
    (hctx : h.session.allocCtx = some ctx) (hvrf : h.session.vrf = ctx.vrf)
    (hall : Allocatable h.registry ctx) : Granted h h.allocateFromPool := by
  obtain ⟨profile, hprofile, hover, pool, hmem, hfree⟩ := hall
  obtain hnone | ⟨⟨k, p, b⟩, hb⟩ := eq_none_or_eq_some
    (h.registry.v4.allocateFirst h.session.sessionID
      (h.registry.v4.candidates h.registry.poolKey h.registry.poolVRFs profile ctx.poolOverride
        ctx.vrf))
  · exact absurd ((allocateFirst_eq_none_iff _ _ _).mp hnone pool hmem) hfree
  · obtain ⟨hp, hk, -, -, howner, -⟩ := allocateFirst_spec hb
    have hext := extends_allocateFirst hw hb
    have hrange := hw.free p k hk
    obtain ⟨a, ha, rfl⟩ := hpools.ipv4 p k hrange
    obtain ⟨x, hx⟩ := granted_of_allocateFirst hb
    have hgrant : granted h.registry.v4 (v4 a, p, b) =
        some ((v4 a).asSlice, p) := by
      obtain ⟨al, hal, hpair⟩ := map_eq_some_iff.mp hx
      simp only [granted, hal, map_some]
      rfl
    have hresult : h.allocateFromPool = { h with
        registry := { h.registry with v4 := b }
        session := { h.session with
          ipv4Address := (v4 a).asSlice, allocatedPool := some p } } := by
      simp [allocateFromPool, hctx, hprofile, allocateFromProfile, hb, hgrant]
    rw [hresult]
    refine ⟨hext, rfl, isUsableIPv4_asSlice ha, ?_, rfl⟩
    refine ⟨p, .v4 a, canon_asSlice (a := .v4 a) trivial,
      (hext.shape.inRange_iff p _).mpr hrange, ?_, .inr ?_⟩
    · rw [howner, if_pos ⟨rfl, rfl⟩]
      rfl
    · exact ⟨rfl, (poolVRFs_of_mem_candidates hover hp).trans hvrf.symm⟩

theorem granted_assignIPv4 (hpools : PoolsSound h.registry) (hw : WithinRange h.registry.v4)
    (hctx : h.session.allocCtx = some ctx) (hvrf : h.session.vrf = ctx.vrf)
    (hres : h.session.ipv4Address ≠ [] →
      Reservable env h.registry h.session.sessionID h.session.ipv4Address)
    (hall : h.session.ipv4Address = [] → Allocatable h.registry ctx) :
    Granted h (assignIPv4 env h) := by
  unfold assignIPv4
  split
  · rename_i hnil
    exact granted_allocate hpools hw hctx hvrf (hall hnil)
  · rename_i hne
    obtain ⟨registry, hreserve, hgranted⟩ := granted_reserve env (hres hne)
    rw [hreserve]
    exact hgranted

theorem sameIPv4_assignIPv6 (h : Host K N S Q) : SameIPv4 h (assignIPv6 env h) := by
  unfold assignIPv6 allocateIANAFromPool
  split
  · split
    · exact ⟨rfl, rfl, rfl⟩
    · split
      · exact ⟨rfl, rfl, rfl⟩
      · split
        · exact ⟨rfl, rfl, rfl⟩
        · rename_i hgrant
          obtain ⟨g, -, hgrant⟩ := bind_eq_some_iff.mp hgrant
          obtain ⟨x, -, hgrant⟩ := bind_eq_some_iff.mp hgrant
          cases hgrant
          exact ⟨rfl, rfl, rfl⟩
  · split
    · rename_i hreserve
      obtain ⟨b, -, rfl⟩ := map_eq_some_iff.mp hreserve
      exact ⟨rfl, rfl, rfl⟩
    · exact ⟨rfl, rfl, rfl⟩

omit [DecidableEq N] in
theorem sameIPv4_assignPD (h : Host K N S Q) : SameIPv4 h (assignPD env h) := by
  unfold assignPD
  split
  · exact ⟨rfl, rfl, rfl⟩
  · split
    · rename_i hreserve
      obtain ⟨b, -, rfl⟩ := map_eq_some_iff.mp hreserve
      exact ⟨rfl, rfl, rfl⟩
    · exact ⟨rfl, rfl, rfl⟩

theorem isUsableIPv4_to4 (h : isUsableIPv4 ip = true) : isUsableIPv4 (to4 ip) = true := by
  have hne := to4_ne_nil_of_isUsableIPv4 h
  have htwice : to4 (to4 ip) = to4 ip := if_pos (unmapped_to4 hne).2
  simp only [isUsableIPv4, and_eq_true] at h ⊢
  rw [htwice]
  exact ⟨⟨by simpa using hne, h.1.2⟩, h.2⟩

theorem leased_assignAddresses (hgranted : Granted h (assignIPv4 env h))
    (hneg : h.holding.negotiated ≠ [] → ∀ r : Registry K N S,
      Extends h.registry.v4 r.v4 → Holds r (assignIPv4 env h).holding h.holding.negotiated) :
    Leased (assignAddresses env h).registry (assignAddresses env h).holding True ∧
      Extends h.registry.v4 (assignAddresses env h).registry.v4 ∧
      (assignAddresses env h).registry.poolVRFs = h.registry.poolVRFs ∧
      (assignAddresses env h).holding.sessionID = h.holding.sessionID ∧
      (assignAddresses env h).holding.wantAuth = h.holding.wantAuth := by
  have hassign := (sameIPv4_assignIPv6 env (assignIPv4 env h)).trans (sameIPv4_assignPD env _)
  obtain ⟨h4, hsame, hresult⟩ : ∃ h4, SameIPv4 (assignIPv4 env h) h4 ∧
      assignAddresses env h = h4.modify fun s => configureIPCP (applyFallbacks s) := by
    unfold assignAddresses
    dsimp only
    split
    · exact ⟨_, hassign.trans (sameIPv4_applyProfileDNS env _), rfl⟩
    · exact ⟨_, hassign, rfl⟩
  generalize assignIPv4 env h = h1 at hgranted hneg hsame
  have hip : h4.session.ipv4Address = h1.session.ipv4Address :=
    congrArg Holding.ipv4Address hsame.holding
  have hto4 := to4_ne_nil_of_isUsableIPv4 hgranted.usable
  have hne : h4.session.ipv4Address ≠ [] := by
    rw [hip]
    intro hnil
    simp [hnil, to4] at hto4
  have hholding : (assignAddresses env h).holding =
      { h1.holding with assigned := to4 h1.session.ipv4Address } := by
    rw [← hsame.holding, ← hip, hresult]
    simp [holding, Host.modify, configureIPCP, applyFallbacks, hne, setPeerAddress,
      setDNS]
  have hv4 : (assignAddresses env h).registry.v4 = h1.registry.v4 := by
    rw [hresult]
    exact hsame.v4
  have hvrfs : (assignAddresses env h).registry.poolVRFs = h1.registry.poolVRFs := by
    rw [hresult]
    exact hsame.poolVRFs
  have hext : Extends h.registry.v4 (assignAddresses env h).registry.v4 := by
    rw [hv4]
    exact hgranted.registry
  have hholds : Holds (assignAddresses env h).registry h1.holding h1.session.ipv4Address := by
    refine hgranted.holds.mono ?_ hvrfs fun pool k hk => ?_
    · rw [hv4]
      exact .refl _
    · rw [hv4]
      exact hk
  rw [hholding]
  refine ⟨⟨fun _ => hholds, fun hne => ?_, fun _ => ?_⟩, hext, hvrfs.trans hgranted.poolVRFs,
    by rw [hgranted.holding], by rw [hgranted.holding]⟩
  · have hneg' : h1.holding.negotiated = h.holding.negotiated := by rw [hgranted.holding]
    have hsession := hneg (by rwa [← hneg']) _ hext
    rw [← hneg'] at hsession
    exact hsession
  · exact ⟨isUsableIPv4_to4 hgranted.usable, Holds.of_canon_eq hholds (canon_to4 hto4)⟩

/-- The address AAA has assigned, in this reply or before, or else the one the
session already has. -/
def replyAddress (s : Session K N S Q) (attrs : Attributes N) : IP :=
  extractIP (s.attributes.merge attrs).ipv4Address s.ipv4Address

/-- The addresses the session already has lie in one pool each, and the reply
leads to an address that is leased to the session. -/
structure FindsAddress (env : Env K N Q) (r : Registry K N S) (s : Session K N S Q)
    (attrs : Attributes N) : Prop where
  only : ∀ ip, ip = s.ipv4Address ∨ ip = s.ipcp.handler.peerConfig.address →
    ∀ pool k, canon ip = some k → r.v4.InRange pool k → OnlyIn r.v4 pool k
  given : replyAddress s attrs ≠ [] → Reservable env r s.sessionID (replyAddress s attrs)
  pooled : replyAddress s attrs = [] →
    Allocatable r (buildAllocContext env (env.resolveServiceGroup attrs) attrs)

/-- What a step of a session keeps: its identity, the leases of the others, and
its own. -/
structure Result (h h' : Host K N S Q) : Prop where
  sessionID : h'.holding.sessionID = h.holding.sessionID
  wantAuth : h'.holding.wantAuth = h.holding.wantAuth
  shape : h.registry.v4.SameShape h'.registry.v4
  keeps : Keeps h.holding.sessionID h.registry.v4 h'.registry.v4
  within : WithinRange h'.registry.v4
  poolVRFs : h'.registry.poolVRFs = h.registry.poolVRFs

omit [DecidableEq K] [DecidableEq N] [DecidableEq S] in
theorem Host.Negotiates.result (hn : Negotiates h h')
    (hw : WithinRange h.registry.v4) : Result h h' := by
  have hid : h'.holding.sessionID = h.holding.sessionID ∧
      h'.holding.wantAuth = h.holding.wantAuth := by
    rcases hn.holding with heq | heq
    · rw [heq]
      exact ⟨rfl, rfl⟩
    · rw [heq]
      exact ⟨rfl, rfl⟩
  refine ⟨hid.1, hid.2, ?_, ?_, ?_, by rw [hn.registry]⟩
  · rw [hn.registry]
    exact .refl _
  · rw [hn.registry]
    exact (Extends.refl _).keeps _
  · rw [hn.registry]
    exact hw

theorem negotiates_startNCP (h : Host K N S Q) :
    Negotiates (assignAddresses env h) (startNCP env h) := by
  have hup (h : Host K N S Q) : Negotiates h (h.applyIPCP h.session.ipcp.up) :=
    negotiates_applyIPCP_of_not_input (e := .up) rfl (by simp)
  have hopen (h : Host K N S Q) : Negotiates h (h.applyIPCP h.session.ipcp.open) :=
    negotiates_applyIPCP_of_not_input (e := .open) rfl (by simp)
  have hconf (h : Host K N S Q) : Negotiates h (h.modify (configureIPv6CP env)) := by
    have hsame : (h.modify (configureIPv6CP env)).holding = h.holding ∧
        (configureIPv6CP env h.session).phase = h.session.phase := by
      unfold configureIPv6CP Host.modify
      split <;> exact ⟨rfl, rfl⟩
    exact (h.still_modify hsame.1 hsame.2).negotiates
  have hv6 (h : Host K N S Q) r : Negotiates h (h.applyIPv6CP r) :=
    (h.still_applyIPv6CP r).negotiates
  exact ((((hup _).trans (hopen _)).trans (hconf _)).trans (hv6 _ _)).trans (hv6 _ _)

theorem accept_result {attrs : Attributes N}
    (hlac : env.lacEnabled = false) (hpools : PoolsSound h.registry)
    (hw : WithinRange h.registry.v4) (hl : h.Leases)
    (hfinds : FindsAddress env h.registry h.session attrs) :
    Result h (onAuthResult env true attrs h) ∧ (onAuthResult env true attrs h).Leases := by
  obtain ⟨hsession, hregistry⟩ := sendAuthAccept_session (h.modify (adoptReply env attrs))
  -- The host on which the network protocols are started.
  obtain ⟨h1, hh1⟩ : ∃ h1, h1 = (h.modify (adoptReply env attrs)).sendAuthAccept.modify
    (fun s => { s with phase := .network }) := ⟨_, rfl⟩
  have hreg : h1.registry = h.registry := by
    rw [hh1]
    exact hregistry
  have hs1 : h1.session = { adoptReply env attrs h.session with phase := .network } := by
    have hset : ∀ h : Host K N S Q, (h.modify fun s => { s with phase := .network }).session =
      { h.session with phase := .network } := fun _ => rfl
    rw [hh1, hset, hsession]
    rfl
  have hresult : onAuthResult env true attrs h = (startNCP env h1).modify clearPending := by
    have htunnel : shouldTunnelToLAC env (h.modify (adoptReply env attrs)).session = false := by
      simp [shouldTunnelToLAC, hlac]
    simp only [onAuthResult, if_true, htunnel, false_eq_true, if_false, onAuthSuccess, ← hh1]
  have hgranted : Granted h1 (assignIPv4 env h1) := by
    have hctx : h1.session.allocCtx =
        some (buildAllocContext env (env.resolveServiceGroup attrs) attrs) := by
      rw [hs1]
      rfl
    refine granted_assignIPv4 env (by rw [hreg]; exact hpools) (by rw [hreg]; exact hw) hctx
      (by rw [hs1]; rfl) ?_ ?_
    · rw [hreg, hs1]
      exact hfinds.given
    · rw [hreg, hs1]
      exact hfinds.pooled
  have hid : h1.holding.sessionID = h.holding.sessionID ∧
      h1.holding.wantAuth = h.holding.wantAuth ∧ h1.holding.negotiated = h.holding.negotiated := by
    simp only [holding, hs1]
    exact ⟨rfl, rfl, rfl⟩
  -- What the session had negotiated before stays leased, whatever pool is recorded now.
  have hneg : h1.holding.negotiated ≠ [] → ∀ r : Registry K N S, Extends h1.registry.v4 r.v4 →
      Holds r (assignIPv4 env h1).holding h1.holding.negotiated := by
    rw [hid.2.2, hreg]
    intro hne r hext
    obtain ⟨pool, k, hk, hrange, howner, -⟩ := hl.negotiated hne
    refine ⟨pool, k, hk, (hext.shape.inRange_iff pool k).mpr hrange, ?_, .inl fun q hq => ?_⟩
    · rw [hgranted.holding, hid.1]
      exact hext.owner pool k _ howner
    · exact hfinds.only _ (.inr rfl) pool k hk hrange q ((hext.shape.inRange_iff q k).mp hq)
  obtain ⟨hleased, hext, hvrfs, hsid, hauth⟩ := leased_assignAddresses env hgranted hneg
  rw [hreg] at hext hvrfs
  have hncp := (negotiates_startNCP env h1).trans
    (still_modify (f := clearPending) _ rfl rfl).negotiates
  rw [hresult]
  have hres := hncp.result (hext.withinRange hw)
  refine ⟨⟨?_, ?_, ?_, ?_, hres.within, hres.poolVRFs.trans hvrfs⟩, hncp.leases ?_⟩
  · rw [hres.sessionID, hsid, hid.1]
  · rw [hres.wantAuth, hauth, hid.2.1]
  · rw [hncp.registry]
    exact hext.shape
  · rw [hncp.registry]
    exact hext.keeps _
  · exact ⟨hleased.own, hleased.negotiated, fun _ => hleased.assigned trivial⟩

end Assign

/-! ## The other events -/

theorem result_applyIPCP_input {code id : UInt8} {data : Bytes}
    {r : Fsm Ipcp × List Action} (hl : h.Leases) (hw : WithinRange h.registry.v4)
    (hnet : IsNetwork h.session.phase) (hr : h.session.ipcp.input code id data = some r) :
    Result h (h.applyIPCP r) ∧ (h.applyIPCP r).Leases := by
  have hset : Result (h.modify fun s => { s with ipcp := r.1 }) (h.applyIPCP r) :=
    (h.negotiates_applyIPCP r).result hw
  exact ⟨⟨hset.sessionID, hset.wantAuth, hset.shape, hset.keeps, hset.within, hset.poolVRFs⟩,
    leases_applyIPCP_input hl hnet hr⟩

theorem Host.Negotiates.result_leases (hn : Negotiates h h')
    (hw : WithinRange h.registry.v4) (hl : h.Leases) : Result h h' ∧ h'.Leases :=
  ⟨hn.result hw, hn.leases hl⟩

section Events
variable [DecidableEq K] [DecidableEq N] [DecidableEq S]

variable (env : Env K N Q)

theorem result_handlePPP {proto : UInt16}
    {payload : Bytes} (hauth : h.holding.wantAuth = true) (hw : WithinRange h.registry.v4)
    (hl : h.Leases) (hh : handlePPP env proto payload h = some (.ok h')) :
    Result h h' ∧ h'.Leases := by
  cases routed_handlePPP env hh with
  | nothing => exact (Still.refl h).negotiates.result_leases hw hl
  | emits e he => exact (h.still_emit e).negotiates.result_leases hw hl
  | protocolReject rejected =>
    exact (negotiates_handleProtocolReject rejected h).result_leases hw hl
  | stopsTimer | asks =>
    refine Negotiates.result_leases ?_ hw hl
    exact ⟨.inl rfl, rfl, id⟩
  | ipcp code id data r hnet hr => exact result_applyIPCP_input hl hw hnet hr
  | ipv6cp code id data r hnet hr =>
    exact (h.still_applyIPv6CP r).negotiates.result_leases hw hl
  | lcp code id data r hproto hhdr hr =>
    exact (still_applyLCP env (e := .input code id data) hauth hr).negotiates.result_leases hw hl

/-- The events that neither bring a session up nor remove it. Only a timer or a
completion may find a session that is no longer in the indexes. -/
theorem result_handleEvent [DecidableEq Q]
    {e : Event N Q} (hauth : h.holding.wantAuth = true) (hw : WithinRange h.registry.v4)
    (hlac : Component.isLAC e = false) (hterm : e ≠ .terminate)
    (haccept : ∀ id attrs, e = .aaaResponse id true attrs →
      h.session.pendingAuthRequestID ≠ some id) (hh : handleEvent env h e = some h') :
    (h.Leases → Result h h' ∧ h'.Leases) ∧ (e.afterRemoval = true → Result h h') := by
  have hneg : Negotiates h h' →
      (h.Leases → Result h h' ∧ h'.Leases) ∧ (e.afterRemoval = true → Result h h') :=
    fun hn => ⟨fun hl => hn.result_leases hw hl, fun _ => hn.result hw⟩
  cases e with
  | frame proto payload =>
    refine ⟨fun hl => ?_, by simp [Event.afterRemoval]⟩
    obtain ⟨r, hr, rfl⟩ := map_eq_some_iff.mp hh
    cases r with
    | error e => exact (Still.refl h).negotiates.result_leases hw hl
    | ok h' => exact result_handlePPP env hauth hw hl hr
  | lcpTimeout =>
    cases hh
    exact hneg (still_applyLCP env (e := .timeout) hauth rfl).negotiates
  | ipcpTimeout =>
    cases hh
    exact hneg (negotiates_applyIPCP_of_not_input (e := .timeout) rfl (by simp))
  | ipv6cpTimeout =>
    cases hh
    exact hneg (h.still_applyIPv6CP _).negotiates
  | chapTimeout =>
    cases hh
    exact hneg (still_handleCHAPTimeout env hauth).negotiates
  | aaaResponse requestID allowed attrs =>
    cases hh
    refine hneg ?_
    unfold handleAAAResponse
    split
    · rename_i hpending
      cases allowed with
      | true => exact absurd hpending (haccept requestID attrs rfl)
      | false => exact (still_onAuthResult_reject env hauth attrs).negotiates
    · exact (Still.refl h).negotiates
  | lacDecision | lacVPPSessionCreated => cases hlac
  | terminate => exact absurd rfl hterm

omit [DecidableEq K] [DecidableEq N] [DecidableEq S] in
/-- A release, by pool or in every pool, of an address that is held there or in one pool only. -/
theorem keeps_of_cleared {b : Bank K N (PoolAllocator S)} {Cleared : K → Addr → Prop}
    [∀ q j, Decidable (Cleared q j)] (hw : WithinRange r.v4) (hh : Holds r hd ip)
    (hspec : r.v4.SameShape b ∧
      (∀ q j, b.owner q j = if Cleared q j then none else r.v4.owner q j) ∧
      ∀ q, ∀ j ∈ b.free q, j ∈ r.v4.free q ∨ r.v4.owner q j ≠ none)
    (hcleared : ∀ q j, Cleared q j →
      canon ip = some j ∧ ∀ pool, hd.allocatedPool = some pool → q = pool) :
    r.v4.SameShape b ∧ Keeps hd.sessionID r.v4 b ∧ WithinRange b := by
  obtain ⟨hshape, howner, hfree⟩ := hspec
  obtain ⟨p, k, hk, -, hown, honly⟩ := hh
  refine ⟨hshape, fun q j other hother hne => ?_, fun q j hj => ?_, fun q j hj => ?_⟩
  · rw [howner, if_neg]
    · exact hother
    intro hclear
    -- The key released is the session's own, so nobody else can be its owner.
    obtain ⟨hkey, hpool⟩ := hcleared q j hclear
    cases hk.symm.trans hkey
    have hp : q = p := by
      rcases honly with honly | ⟨halloc, -⟩
      · exact honly q (hw.owner q k (by simp [hother]))
      · exact hpool p halloc
    rw [hp, hown] at hother
    exact hne (some.inj hother).symm
  · rw [hshape.inRange_iff]
    rw [howner] at hj
    split at hj
    · exact absurd rfl hj
    · exact hw.owner q j hj
  · rw [hshape.inRange_iff]
    exact (hfree q j hj).elim (hw.free q j) (hw.owner q j)

omit [DecidableEq N] [DecidableEq S] in
theorem terminate_registry (h : Host K N S Q) :
    (terminate env h).registry.poolVRFs = h.registry.poolVRFs ∧ (terminate env h).registry.v4 =
        if h.session.ipv4Address = [] then h.registry.v4 else match h.session.allocatedPool with
          | some pool => h.registry.v4.release pool h.session.ipv4Address
          | none => h.registry.v4.releaseAll h.session.ipv4Address := by
  unfold terminate
  by_cases hnil : h.session.ipv4Address = []
  · simp only [hnil, if_true]
    repeat' split
    all_goals exact ⟨rfl, rfl⟩
  · cases hp : h.session.allocatedPool with
    | none | some =>
      simp only [hnil, hp, if_false]
      repeat' split
      all_goals exact ⟨rfl, rfl⟩

omit [DecidableEq N] [DecidableEq S] in
theorem terminate_result
    (hw : WithinRange h.registry.v4) (hl : h.Leases) : Result h (terminate env h) := by
  obtain ⟨hvrfs, hv4⟩ := terminate_registry env h
  suffices hbank : h.registry.v4.SameShape (terminate env h).registry.v4 ∧
      Keeps h.holding.sessionID h.registry.v4 (terminate env h).registry.v4 ∧
      WithinRange (terminate env h).registry.v4 from
    ⟨rfl, rfl, hbank.1, hbank.2.1, hbank.2.2, hvrfs⟩
  rw [hv4]
  split
  · exact ⟨.refl _, (Extends.refl _).keeps _, hw⟩
  · rename_i hne
    split
    · rename_i pool hpool
      refine keeps_of_cleared hw (hl.own hne) (release_spec _ pool _) ?_
      rintro q j ⟨rfl, hkey⟩
      exact ⟨canon_of_keyOf hkey, fun p hp => some.inj (hpool.symm.trans hp)⟩
    · rename_i hpool
      refine keeps_of_cleared hw (hl.own hne) (releaseAll_spec _ _) fun q j hkey => ?_
      exact ⟨canon_of_keyOf hkey, fun p hp => absurd (hpool.symm.trans hp) (by simp)⟩

end Events
end Osvbng.Pppoe

import Osvbng.L2tp.Lns
import Osvbng.L2tp.Registration

/-!
# What is left of a session

Addresses are allocated for a session when its network protocols start, and the
dataplane gets it with the ICRQ. A session ends when the peer disconnects it, when
its tunnel goes, or when the link is terminated. None of these ways gives anything
back: `reclaimed_iff` says that the sessions that have ended are reclaimed exactly
when there was nothing to reclaim.
-/

namespace Osvbng.L2tp.Lns
open Option List Lib Lib.Slice Lib.NetIP Ppp Allocator Component Host Bool LeasePool
variable {P N Q : Type} {h h' : Host P N Q}

/-! ## Leases stay -/

/-- Leases are kept, and what is granted on top is leased to the session. -/
structure Leases {A R K : Type} [LeasePool A R K SessionID] (sid : SessionID)
    (granted granted' : P → K → Bool) (b b' : Bank P N A) : Prop where
  kept : ∀ pool k o, b.owner pool k = some o → b'.owner pool k = some o
  leased : ∀ pool k, granted' pool k = true → granted pool k = true ∨ b'.owner pool k = some sid

section Leases
variable {A R K : Type} [LeasePool A R K SessionID] {sid : SessionID}
  {g g' g'' : P → K → Bool} {b b' b'' : Bank P N A}

theorem Leases.refl : Leases sid g g b b := ⟨fun _ _ _ h => h, fun _ _ h => .inl h⟩

theorem Leases.trans (h : Leases sid g g' b b') (h' : Leases sid g' g'' b' b'') :
    Leases sid g g'' b b'' where
  kept pool k o ho := h'.kept pool k o (h.kept pool k o ho)
  leased pool k hk := by
    rcases h'.leased pool k hk with hg | ho
    · exact (h.leased pool k hg).imp id (h'.kept pool k sid)
    · exact .inr ho

theorem leases_allocateFirst [DecidableEq P] [DecidableEq K] {keys : List P} {k : K} {pool : P}
    (h : b.allocateFirst sid keys = some (k, pool, b')) :
    Leases sid g (grantedBy g b b') b b' := by
  obtain ⟨-, -, hfree, -, howner, -⟩ := Bank.allocateFirst_spec h
  constructor
  · intro q j o ho
    rw [howner]
    split
    · rename_i hqj
      rw [hqj.1, hqj.2, hfree] at ho
      cases ho
    · exact ho
  · intro q j hj
    rw [grantedBy, or_eq_true, decide_eq_true_eq] at hj
    refine hj.imp id fun hne => ?_
    rw [howner] at hne ⊢
    split
    · rfl
    · rename_i hqj
      rw [if_neg hqj] at hne
      exact absurd rfl hne

theorem not_mem_free {pool : P} {k : K} {o : SessionID} (h : b.owner pool k = some o) :
    k ∉ b.free pool := by
  unfold Bank.owner at h
  unfold Bank.free
  cases ha : b.allocators pool with
  | none => simp
  | some a =>
    rw [ha, bind_some, owner] at h
    intro hk
    rw [(table a).not_leased k hk] at h
    cases h

end Leases

namespace Host

/-- What a step of a session does to the registry and to its record. -/
structure Grows (h h' : Host P N Q) : Prop where
  sessionID : h'.session.sessionID = h.session.sessionID
  programmed : h'.session.programmedInVPP = h.session.programmedInVPP
  v4 : Leases h.session.sessionID h.session.granted.v4 h'.session.granted.v4 h.registry.v4
    h'.registry.v4
  iana : Leases h.session.sessionID h.session.granted.iana h'.session.granted.iana
    h.registry.iana h'.registry.iana
  pd : Leases h.session.sessionID h.session.granted.pd h'.session.granted.pd h.registry.pd
    h'.registry.pd
  /-- Nothing is allocated before AAA has accepted the subscriber. -/
  unassigned : h'.session.allocCtx = none →
    h.session.allocCtx = none ∧ h'.session.granted = h.session.granted

theorem Grows.trans {h'' : Host P N Q} (h1 : Grows h h') (h2 : Grows h' h'') : Grows h h'' where
  sessionID := h2.sessionID.trans h1.sessionID
  programmed := h2.programmed.trans h1.programmed
  v4 := h1.v4.trans (h1.sessionID ▸ h2.v4)
  iana := h1.iana.trans (h1.sessionID ▸ h2.iana)
  pd := h1.pd.trans (h1.sessionID ▸ h2.pd)
  unassigned hnone := by
    obtain ⟨hnone', hgranted'⟩ := h2.unassigned hnone
    obtain ⟨hnone'', hgranted⟩ := h1.unassigned hnone'
    exact ⟨hnone'', hgranted'.trans hgranted⟩

def holdings (h : Host P N Q) :
    SessionID × Bool × Option (Pppoe.AllocContext N) × Granted P × Registry P N SessionID :=
  (h.session.sessionID, h.session.programmedInVPP, h.session.allocCtx, h.session.granted,
    h.registry)

theorem grows_of_holdings (heq : h'.holdings = h.holdings) : Grows h h' := by
  simp only [holdings, Prod.mk.injEq] at heq
  obtain ⟨hid, hprog, hctx, hgranted, hregistry⟩ := heq
  refine ⟨hid, hprog, ?_, ?_, ?_, fun hnone => ⟨hctx.symm.trans hnone, hgranted⟩⟩
  all_goals
    rw [hgranted, hregistry]
    exact .refl

theorem Grows.refl (h : Host P N Q) : Grows h h := grows_of_holdings rfl

theorem Grows.after {h'' : Host P N Q} (h1 : Grows h' h'') (heq : h'.holdings = h.holdings) :
    Grows h h'' :=
  (grows_of_holdings heq).trans h1

/-! ## Network control protocols -/

variable (h)

theorem holdings_checkSessionOpen : h.checkSessionOpen.holdings = h.holdings := by
  unfold checkSessionOpen
  split
  · unfold programSessionVPP
    split <;> rfl
  · rfl

theorem holdings_ncpAction (a : Action) :
    (h.ipcpAction a).holdings = h.holdings ∧ (h.ipv6cpAction a).holdings = h.holdings := by
  cases a with
  | layerUp => exact ⟨holdings_checkSessionOpen _, holdings_checkSessionOpen _⟩
  | send | layerDown | layerStarted | layerFinished => exact ⟨rfl, rfl⟩

theorem holdings_foldl {f : Host P N Q → Action → Host P N Q}
    (hf : ∀ h a, (f h a).holdings = h.holdings) (acts : List Action) (h : Host P N Q) :
    (acts.foldl f h).holdings = h.holdings := by
  induction acts generalizing h with
  | nil => rfl
  | cons a acts ih => exact (ih (f h a)).trans (hf h a)

theorem holdings_applyIPCP (r : Fsm Ipcp × List Action) : (h.applyIPCP r).holdings = h.holdings :=
  (holdings_foldl (fun h a => (h.holdings_ncpAction a).1) r.2 _).trans rfl

theorem holdings_applyIPv6CP (r : Fsm Ipv6cp × List Action) :
    (h.applyIPv6CP r).holdings = h.holdings :=
  (holdings_foldl (fun h a => (h.holdings_ncpAction a).2) r.2 _).trans rfl

/-! ## Authentication -/

variable (env : Env N Q) {data : Bytes} {code id : UInt8}

theorem holdings_sendAuthReject : h.sendAuthReject.holdings = h.holdings := by
  unfold sendAuthReject
  split <;> rfl

theorem holdings_sendAuthAccept : h.sendAuthAccept.holdings = h.holdings := by
  unfold sendAuthAccept
  split <;> rfl

variable {h}

theorem Grows.clearPending (hg : Grows h h') : Grows h (h'.modify clearPending) :=
  hg.trans (grows_of_holdings rfl)

theorem holdings_publishAAARequest (credentials : Pppoe.Credentials) (h : Host P N Q) :
    (publishAAARequest env credentials h).holdings = h.holdings := by
  unfold publishAAARequest
  split <;> rfl

theorem grows_handleCHAPPacket
    (hh : handleCHAPPacket env code id data h = some h') : Grows h h' := by
  unfold handleCHAPPacket at hh
  split at hh
  · cases hh
    exact .refl h
  · obtain ⟨parsed, -, hh⟩ := bind_eq_some_iff.mp hh
    cases parsed with
    | none =>
      cases hh
      exact grows_of_holdings rfl
    | some p =>
      cases hh
      exact grows_of_holdings (holdings_publishAAARequest env _ _)

theorem grows_handlePAPPacket (hh : handlePAPPacket env code id data h = some h') : Grows h h' := by
  unfold handlePAPPacket at hh
  split at hh
  · cases hh
    exact .refl h
  · obtain ⟨parsed, -, hh⟩ := bind_eq_some_iff.mp hh
    cases parsed with
    | none =>
      cases hh
      exact .refl h
    | some p =>
      cases hh
      exact grows_of_holdings (holdings_publishAAARequest env _ _)

theorem holdings_sendEchoReply
    (hh : sendEchoReply id data h = some h') : h'.holdings = h.holdings := by
  unfold sendEchoReply at hh
  split at hh
  · obtain ⟨tail, -, hh⟩ := bind_eq_some_iff.mp hh
    cases hh
    rfl
  · cases hh
    rfl

/-! ## Addresses -/

theorem granted_configureIPCP (s : Session P N Q) :
    (configureIPCP env s).sessionID = s.sessionID ∧
      (configureIPCP env s).programmedInVPP = s.programmedInVPP ∧
      (configureIPCP env s).allocCtx = s.allocCtx ∧
      (configureIPCP env s).granted = s.granted := by
  have hprofile : ∀ s : Session P N Q,
      ∃ ipcp, applyIPv4ProfileToIPCP env s = { s with ipcp := ipcp } := by
    intro s
    unfold applyIPv4ProfileToIPCP
    split
    · exact ⟨s.ipcp, rfl⟩
    · exact ⟨_, rfl⟩
  unfold configureIPCP
  dsimp only
  generalize hs1 : (if s.ipv4Address = [] then s else _ : Session P N Q) = s1
  have h1 : s1.sessionID = s.sessionID ∧ s1.programmedInVPP = s.programmedInVPP ∧
      s1.allocCtx = s.allocCtx ∧ s1.granted = s.granted := by
    rw [← hs1]
    split
    · exact ⟨rfl, rfl, rfl, rfl⟩
    · exact ⟨rfl, rfl, rfl, rfl⟩
  obtain ⟨ipcp, heq⟩ := hprofile s1
  rw [heq]
  split
  · exact h1
  · exact h1

variable [DecidableEq P] [DecidableEq N]

theorem grows_allocate (h : Host P N Q) :
    Grows h h.allocateIPv4 ∧ Grows h h.allocateIANA ∧ Grows h h.allocatePD := by
  unfold allocateIPv4 allocateIANA allocatePD
  refine ⟨?_, ?_, ?_⟩
  all_goals
    split
    · exact .refl h
    · rename_i ctx hctx
      split
      · exact .refl h
      · split
        · exact .refl h
        · rename_i halloc
          obtain ⟨⟨k, p, b⟩, hfirst, hrest⟩ := bind_eq_some_iff.mp halloc
          obtain ⟨granted, -, heq⟩ := bind_eq_some_iff.mp hrest
          cases heq
          refine ⟨rfl, rfl, ?_, ?_, ?_, by simp [hctx]⟩
          all_goals first
            | exact .refl
            | exact leases_allocateFirst hfirst

theorem grows_assignAddresses (h : Host P N Q) : Grows h h.assignAddresses := by
  have hif : ∀ (p : Prop) [Decidable p] (h : Host P N Q) (f : Host P N Q → Host P N Q),
      (∀ h, Grows h (f h)) → Grows h (if p then f h else h) := by
    intro p _ h f hf
    split
    · exact hf h
    · exact .refl h
  exact ((hif _ h _ fun h => (grows_allocate h).1).trans
    (hif _ _ _ fun h => (grows_allocate h).2.1)).trans (hif _ _ _ fun h => (grows_allocate h).2.2)

theorem grows_startNCP (h : Host P N Q) : Grows h (startNCP env h) := by
  unfold startNCP
  refine (grows_assignAddresses h).trans (grows_of_holdings ?_)
  rw [holdings_applyIPv6CP, holdings_applyIPv6CP, holdings_applyIPCP, holdings_applyIPCP]
  obtain ⟨hid, hprog, hctx, hgranted⟩ := granted_configureIPCP env h.assignAddresses.session
  simp only [holdings, modify, hid, hprog, hctx, hgranted]

/-! ## Link control and authentication -/

theorem grows_lcpAction (h : Host P N Q) (a : Action) : Grows h (lcpAction env h a) := by
  cases a with
  | send code id data => exact grows_of_holdings rfl
  | layerUp =>
    unfold lcpAction onLCPUp
    dsimp only
    split
    · exact grows_of_holdings rfl
    · exact (grows_startNCP env _).after rfl
  | layerDown => exact grows_of_holdings rfl
  | layerStarted | layerFinished => exact .refl h

theorem grows_applyLCP (h : Host P N Q) (r : Fsm Lcp × List Action) :
    Grows h (applyLCP env h r) := by
  have hset : Grows h (h.modify fun s => { s with lcp := r.1 }) := grows_of_holdings rfl
  unfold applyLCP
  generalize h.modify (fun s => { s with lcp := r.1 }) = h0 at hset ⊢
  induction r.2 generalizing h0 with
  | nil => exact hset
  | cons a acts ih => exact ih _ (hset.trans (grows_lcpAction env h0 a))

theorem grows_initSessionPPP (h : Host P N Q) : Grows h (initSessionPPP env h) := by
  unfold initSessionPPP
  generalize hready : h.modify _ = h0
  have heq : h0.holdings = h.holdings := by
    rw [← hready]
    rfl
  exact ((grows_applyLCP env h0 _).after heq).trans (grows_applyLCP env _ _)

theorem grows_handleCHAPTimeout (h : Host P N Q) : Grows h (handleCHAPTimeout env h) := by
  unfold handleCHAPTimeout
  split
  · exact .refl h
  · dsimp only
    split
    · exact (grows_applyLCP env _ _).after rfl
    · exact grows_of_holdings rfl

theorem grows_onAuthResult (allowed : Bool) (attrs : Pppoe.Attributes N) (h : Host P N Q) :
    Grows h (onAuthResult env allowed attrs h) := by
  unfold onAuthResult
  split
  · generalize hadopt : h.modify _ = h0
    have hgrows : Grows h h0 := by
      rw [← hadopt]
      exact ⟨rfl, rfl, .refl, .refl, .refl, nofun⟩
    have hphase : ∀ h : Host P N Q,
        (h.modify fun s => { s with phase := .network }).holdings = h.holdings := fun _ => rfl
    refine hgrows.trans (Grows.clearPending ((grows_startNCP env _).after ?_))
    rw [hphase, holdings_sendAuthAccept]
  · exact ((grows_applyLCP env _ _).after (holdings_sendAuthReject h)).clearPending

/-! ## Frames -/

theorem respects_grows : (dispatcher env : Dispatcher (Host P N Q)).Respects Grows where
  refl := by
    rintro s _ ⟨⟩
    exact .refl s
  lcp := by
    rintro _ ⟨⟩ code id data s s' hs'
    obtain ⟨r, -, rfl⟩ := map_eq_some_iff.mp hs'
    exact grows_applyLCP env s r
  ipcp := by
    rintro _ ⟨⟩ code id data s s' hs'
    obtain ⟨r, -, rfl⟩ := map_eq_some_iff.mp hs'
    exact grows_of_holdings (holdings_applyIPCP s r)
  ipv6cp := by
    rintro _ ⟨⟩ code id data s s' hs'
    obtain ⟨r, -, rfl⟩ := map_eq_some_iff.mp hs'
    exact grows_of_holdings (holdings_applyIPv6CP s r)
  handlePAP := by
    rintro _ ⟨⟩ code id data s s' hs'
    exact grows_handlePAPPacket env hs'
  handleCHAP := by
    rintro _ ⟨⟩ code id data s s' hs'
    exact grows_handleCHAPPacket env hs'
  onEchoReq := by
    rintro _ ⟨⟩ id data s s' hs'
    dsimp only at hs'
    split at hs'
    · exact grows_of_holdings (holdings_sendEchoReply hs')
    · cases hs'
      exact .refl s
  onEchoRep := by
    rintro _ ⟨⟩
  onProtocolReject := by
    rintro _ ⟨⟩ proto s s' hs'
    cases hs'
    refine grows_of_holdings ?_
    unfold onProtocolReject
    split
    · exact holdings_applyIPCP s _
    · split
      · exact holdings_applyIPv6CP s _
      · rfl
  sendProtocolReject := by
    rintro _ ⟨⟩
  handleIPv6 := by
    rintro _ ⟨⟩

theorem grows_dispatchPPPFrame {frame : Bytes}
    (hh : dispatchPPPFrame env frame h = some h') : Grows h h' := by
  unfold dispatchPPPFrame at hh
  dsimp only at hh
  split at hh
  · split at hh
    · cases hh
      exact .refl h
    · obtain ⟨r, hr, rfl⟩ := map_eq_some_iff.mp hh
      cases r with
      | error e => exact .refl h
      | ok h1 => exact (respects_grows env).handleFrame hr
  · cases hh
    exact .refl h

end Host

/-! ## Runs -/

structure Session.Bare (s : Session P N Q) : Prop where
  v4 : ∀ pool k, s.granted.v4 pool k = false
  iana : ∀ pool k, s.granted.iana pool k = false
  pd : ∀ pool k, s.granted.pd pool k = false
  programmed : s.programmedInVPP = false

namespace State
variable {c c' : State P N Q} {n : Nat} {s : Session P N Q}

/-- What was granted to a session is leased to it, and the dataplane has the sessions
that were programmed. -/
structure Accounted (c : State P N Q) : Prop where
  v4 : ∀ s ∈ c.sessions, ∀ pool k, s.granted.v4 pool k = true →
    c.registry.v4.owner pool k = some s.sessionID
  iana : ∀ s ∈ c.sessions, ∀ pool k, s.granted.iana pool k = true →
    c.registry.iana.owner pool k = some s.sessionID
  pd : ∀ s ∈ c.sessions, ∀ pool k, s.granted.pd pool k = true →
    c.registry.pd.owner pool k = some s.sessionID
  dataplane : ∀ n, n ∈ c.dataplane ↔ ∃ s, c.sessions[n]? = some s ∧ s.programmedInVPP = true
  unassigned : ∀ s ∈ c.sessions, s.allocCtx = none →
    s.granted = ⟨fun _ _ => false, fun _ _ => false, fun _ _ => false⟩

/-- Leases of the others are kept, and the session's own are leased to it. -/
theorem leased_set {A R K : Type} [LeasePool A R K SessionID] {b b' : Bank P N A}
    {granted : Session P N Q → P → K → Bool} {sessions : List (Session P N Q)}
    {s' : Session P N Q}
    (h : ∀ s ∈ sessions, ∀ pool k, granted s pool k = true → b.owner pool k = some s.sessionID)
    (hs : s ∈ sessions) (hid : s'.sessionID = s.sessionID)
    (hleases : Leases s.sessionID (granted s) (granted s') b b') :
    ∀ s1 ∈ sessions.set n s', ∀ pool k, granted s1 pool k = true →
      b'.owner pool k = some s1.sessionID := by
  intro s1 hs1 pool k hk
  rcases mem_or_eq_of_mem_set hs1 with hold | rfl
  · exact hleases.kept pool k _ (h s1 hold pool k hk)
  · rw [hid]
    rcases hleases.leased pool k hk with hg | ho
    · exact hleases.kept pool k _ (h s hs pool k hg)
    · exact ho

theorem Accounted.run (h : c.Accounted) {f : Host P N Q → Checked (Host P N Q)}
    (hf : ∀ host host', f host = some host' → host.Grows host')
    (hrun : c.run n f = some c') : c'.Accounted := by
  unfold State.run at hrun
  split at hrun
  · cases hrun
    exact h
  · rename_i s hs
    obtain ⟨host, hhost, rfl⟩ := map_eq_some_iff.mp hrun
    have hgrows := hf _ _ hhost
    have hmem : s ∈ c.sessions := mem_of_getElem? hs
    refine ⟨leased_set h.v4 hmem hgrows.sessionID hgrows.v4,
      leased_set h.iana hmem hgrows.sessionID hgrows.iana,
      leased_set h.pd hmem hgrows.sessionID hgrows.pd, ?_, ?_⟩
    · intro m
      rw [h.dataplane m]
      by_cases hm : n = m
      · subst hm
        have hlt : n < c.sessions.length := (List.getElem?_eq_some_iff.mp hs).1
        simp only [getElem?_set_self hlt, hs, some.injEq, exists_eq_left']
        rw [hgrows.programmed]
      · simp only [getElem?_set_ne hm]
    · intro s1 hs1 hnone
      rcases mem_or_eq_of_mem_set hs1 with hold | rfl
      · exact h.unassigned s1 hold hnone
      · obtain ⟨hbefore, hsame⟩ := hgrows.unassigned hnone
        exact hsame.trans (h.unassigned s hmem hbefore)

theorem Accounted.create (h : c.Accounted) (env : Env N Q) (i : Nat) (k : TunnelKey)
    (s : Component.Session) : (c.create env i k s).Accounted where
  v4 := by
    refine forall_mem_append.mpr ⟨h.v4, forall_mem_singleton.mpr fun _ _ hk => ?_⟩
    cases hk
  iana := by
    refine forall_mem_append.mpr ⟨h.iana, forall_mem_singleton.mpr fun _ _ hk => ?_⟩
    cases hk
  pd := by
    refine forall_mem_append.mpr ⟨h.pd, forall_mem_singleton.mpr fun _ _ hk => ?_⟩
    cases hk
  dataplane m := by
    have hold := h.dataplane m
    unfold State.create
    rcases Nat.lt_trichotomy m c.sessions.length with hm | hm | hm
    · rw [getElem?_append_left hm, ← hold]
      split
      · simp [show m ≠ c.sessions.length by omega]
      · rfl
    · subst hm
      have hnot : c.sessions.length ∉ c.dataplane := by
        rw [hold]
        simp
      cases hp : s.programmedInVPP with
      | true => simp [Session.new]
      | false => simp [Session.new, hnot]
    · have hnone : (c.sessions ++ [Session.new ⟨k, s.localID⟩ i s.swIfIndex s.programmedInVPP
          env])[m]? = none := by
        rw [getElem?_eq_none_iff, length_append, length_singleton]
        omega
      have hnot : m ∉ c.dataplane := by
        rw [hold, getElem?_eq_none (by omega)]
        simp
      rw [hnone]
      split
      · simp [hnot, show m ≠ c.sessions.length by omega]
      · simp [hnot]
  unassigned := forall_mem_append.mpr ⟨h.unassigned, forall_mem_singleton.mpr fun _ => rfl⟩

variable [DecidableEq P] [DecidableEq N] {env : Env N Q}

theorem Accounted.follow (h : c.Accounted) {i : Nat} {k : TunnelKey} {id : UInt16}
    {before after : Option Component.Session} (hf : c.follow env i k id before after = some c') :
    c'.Accounted := by
  unfold State.follow at hf
  split at hf
  · cases hf
    split
    · exact h.create env i k _
    · exact h
  · cases hf
    exact ⟨h.v4, h.iana, h.pd, h.dataplane, h.unassigned⟩
  · split at hf
    · split at hf
      · cases hf
        exact h
      · refine h.run (fun host host' hh => ?_) hf
        cases hh
        exact grows_initSessionPPP env host
    · cases hf
      exact h
  · cases hf
    exact h

theorem Accounted.punt (h : c.Accounted) {control : Component} {src : IP}
    {body : Bytes} (hp : c.punt env control src body = some c') : c'.Accounted := by
  have hcontrol : Accounted
    { c with control := control } := ⟨h.v4, h.iana, h.pd, h.dataplane, h.unassigned⟩
  unfold State.punt at hp
  split at hp
  · split at hp
    · cases hp
      exact hcontrol
    · split at hp
      · exact hcontrol.run (fun _ _ hh => grows_dispatchPPPFrame env hh) hp
      · cases hp
        exact hcontrol
  · split at hp
    · split at hp
      · cases hp
        exact hcontrol
      · exact hcontrol.follow hp
    · cases hp
      exact hcontrol

variable [DecidableEq Q]

theorem Accounted.next (h : c.Accounted) {inp : Input N Q} (hnext : next c inp = some c') :
    c'.Accounted := by
  unfold State.next at hnext
  split at hnext
  · split at hnext
    · cases hnext
    · split at hnext
      · exact h.punt hnext
      · cases hnext
        exact ⟨h.v4, h.iana, h.pd, h.dataplane, h.unassigned⟩
  · unfold handleAAAResponse at hnext
    split at hnext
    · cases hnext
    · split at hnext
      · cases hnext
      · split at hnext
        · refine h.run (fun host host' hh => ?_) hnext
          cases hh
          exact grows_onAuthResult inp.ppp _ _ host
        · cases hnext
  · refine h.run (fun host host' hh => ?_) hnext
    cases hh
    exact grows_applyLCP inp.ppp host _
  · refine h.run (fun host host' hh => ?_) hnext
    cases hh
    exact grows_of_holdings (holdings_applyIPCP host _)
  · refine h.run (fun host host' hh => ?_) hnext
    cases hh
    exact grows_of_holdings (holdings_applyIPv6CP host _)
  · refine h.run (fun host host' hh => ?_) hnext
    cases hh
    exact grows_handleCHAPTimeout inp.ppp host

theorem accounted_of_reach (h : (machine P N Q).Reach (fun _ _ => True) c) : c.Accounted := by
  refine h.invariant Accounted ?_ ?_
  · rintro c ⟨-, hsessions, -, hdataplane⟩
    exact ⟨by simp [hsessions], by simp [hsessions], by simp [hsessions],
      by simp [hsessions, hdataplane], by simp [hsessions]⟩
  · exact fun c inp c' hc _ hnext => hc.next hnext

/-! ## Sessions that have ended -/

/-- The session has left the tables, or its link has been terminated. -/
def Ended (c : State P N Q) (n : Nat) : Prop :=
  ∃ s ∈ c.sessions[n]?, c.find s.tunnel s.sessionID.id ≠ some n ∨
    s.lcp.state ∈ [.closing, .stopping, .closed, .stopped]
deriving Decidable

/-- What was allocated for the session is back in the pools, and the dataplane does
not have it. -/
def Reclaimed (c : State P N Q) (n : Nat) : Prop :=
  (∀ s ∈ c.sessions[n]?,
    (∀ pool k, s.granted.v4 pool k = true → k ∈ c.registry.v4.free pool) ∧
    (∀ pool k, s.granted.iana pool k = true → k ∈ c.registry.iana.free pool) ∧
    ∀ pool k, s.granted.pd pool k = true → k ∈ c.registry.pd.free pool) ∧
  n ∉ c.dataplane

/-- The sessions that have ended are reclaimed exactly when there was nothing to
reclaim. -/
theorem reclaimed_iff (h : (machine P N Q).Reach (fun _ _ => True) c) :
    (∀ n, c.Ended n → c.Reclaimed n) ↔ ∀ n, c.Ended n → ∀ s ∈ c.sessions[n]?, s.Bare := by
  have hacc := accounted_of_reach h
  have hmem : ∀ {n : Nat} {s : Session P N Q}, s ∈ c.sessions[n]? → s ∈ c.sessions := by
    intro n s hs
    exact mem_of_getElem? hs
  constructor
  · intro hrec n hend s hs
    obtain ⟨hback, hdataplane⟩ := hrec n hend
    obtain ⟨hv4, hiana, hpd⟩ := hback s hs
    refine ⟨?_, ?_, ?_, ?_⟩
    · intro pool k
      rw [eq_false_iff]
      exact fun hk => not_mem_free (hacc.v4 s (hmem hs) pool k hk) (hv4 pool k hk)
    · intro pool k
      rw [eq_false_iff]
      exact fun hk => not_mem_free (hacc.iana s (hmem hs) pool k hk) (hiana pool k hk)
    · intro pool k
      rw [eq_false_iff]
      exact fun hk => not_mem_free (hacc.pd s (hmem hs) pool k hk) (hpd pool k hk)
    · rw [eq_false_iff]
      exact fun hp => hdataplane ((hacc.dataplane n).mpr ⟨s, hs, hp⟩)
  · intro hbare n hend
    refine ⟨fun s hs => ?_, fun hn => ?_⟩
    · have hb := hbare n hend s hs
      exact ⟨by simp [hb.v4], by simp [hb.iana], by simp [hb.pd]⟩
    · obtain ⟨s, hs, hp⟩ := (hacc.dataplane n).mp hn
      rw [(hbare n hend s hs).programmed] at hp
      cases hp

/-! ## Sample runs -/

def sample : State Nat Nat Nat where
  control := .new
  registry :=
    { poolVRFs := fun _ => 0
      poolKey := fun profile _ => profile
      v4 :=
        { allocators := fun _ => newPoolAllocator 4 (.v4 0x64400001#32) (.v4 0x64400002#32) []
          profilePools := fun _ => [0] }
      iana := ⟨fun _ => none, fun _ => []⟩
      pd := ⟨fun _ => none, fun _ => []⟩ }
  sessions := []
  current := fun _ _ => none
  dataplane := []

theorem initial_sample : Initial sample := ⟨rfl, rfl, fun _ _ => rfl, rfl⟩

/-- Surroundings in which every call succeeds and subscribers have an IPv4 profile. -/
def sampleInput (southbound : Option Southbound) (event : Event Nat Nat) : Input Nat Nat where
  event := event
  env := { openEnv 0 openConfig with vpp := southbound }
  ppp :=
    { magic := 5
      ipv6cp := ⟨.replicate 8 1, .replicate 8 0, [], fun _ => .replicate 8 2⟩
      requestID := 7
      challenge := .replicate 16 1
      localHostname := [108]
      eventBus := true
      ipv4Profile := some 0
      ipv6Profile := none
      resolveServiceGroup := fun _ => ⟨0, none, none, none⟩
      profiles := fun _ => none }

def vpp : Option Southbound := some ⟨true, some 7, some 0⟩

def message (tunnelID sessionID ns : UInt16) (avps : Body) : Event Nat Nat :=
  .control (.punt lac lns
    (datagram (newControl tunnelID sessionID ns 0) avps))

def pppFrame (proto : UInt16) (packet : Bytes) : Event Nat Nat :=
  .control (.punt lac lns (be16 2 ++ be16 1 ++ be16 1 ++ be16 proto ++ packet))

def connect : List (Event Nat Nat) :=
  [.control .start, message 0 0 0 (buildSCCRQ ⟨9, 16, [97], [], []⟩),
    message 1 0 1 (buildSCCCN []), message 1 0 2 (buildICRQ 5 1),
    message 1 1 3 (buildICCN ⟨0, framingSync, [], [], 0, [], [], []⟩)]

def signIn : List (Event Nat Nat) :=
  [pppFrame protoLCP [1, 1, 0, 4], pppFrame protoLCP [2, 1, 0, 4],
    pppFrame protoCHAP [2, 1, 0, 5, 0], .aaaResponse 0 1 7 true .empty]

def cdn : Event Nat Nat := message 1 1 4 [messageTypeAVP .cdn]

/-- Without a dataplane, a session that ends before the subscriber signs in. -/
theorem reclaimed_iff_bare :
    ∃ c, Machine.run next (fun _ _ => True) sample
        ((connect ++ [cdn]).map (sampleInput none)) = some c ∧
      c.Ended 0 ∧ ∀ n, c.Ended n → c.Reclaimed n := by
  refine Machine.exists_run initial_sample (fun c => c.Ended 0 ∧ ∀ s ∈ c.sessions,
    s.allocCtx.isNone ∧ s.programmedInVPP = false) (by decide +kernel) ?_
  rintro c hreach ⟨hend, hall⟩
  refine ⟨hend, (reclaimed_iff hreach).mpr fun n _ s hs => ?_⟩
  have hmem := mem_of_getElem? hs
  have hgranted :=
    (accounted_of_reach hreach).unassigned s hmem (isNone_iff_eq_none.mp (hall s hmem).1)
  exact ⟨by simp [hgranted], by simp [hgranted], by simp [hgranted], (hall s hmem).2⟩

/-- The session that has signed in is disconnected, its tunnel is stopped, its link is
terminated by the peer, and its channel gives the peer up. -/
def endings : List (List (Input Nat Nat)) :=
  [[cdn].map (sampleInput vpp), [message 1 0 4 [messageTypeAVP .stopCCN]].map (sampleInput vpp),
    [pppFrame protoLCP [5, 9, 0, 4]].map (sampleInput vpp),
    [1, 3, 7, 15, 23].map fun s =>
      { sampleInput vpp (.control (.tick 0)) with
        env := openEnv (s * 1000000000) openConfig }]

theorem leftovers :
    endings.Forall fun ending =>
      ∃ c, Machine.run next (fun _ _ => True) sample
          ((connect ++ signIn).map (sampleInput vpp) ++ ending) = some c ∧
        (machine Nat Nat Nat).Reach (fun _ _ => True) c ∧ c.Ended 0 ∧ ¬ c.Reclaimed 0 ∧
        0 ∈ c.dataplane := by
  refine Machine.forall_exists_run initial_sample _ (fun _ c => c.Ended 0 ∧ 0 ∈ c.dataplane ∧
    ∃ s ∈ c.sessions[0]?, s.granted.v4 0 (.v4 0x64400001#32) ∧
      .v4 0x64400001#32 ∉ c.registry.v4.free 0) (by decide +kernel) ?_
  rintro ending c hreach ⟨hend, hdataplane, s, hs, hgranted, hfree⟩
  exact ⟨hreach, hend, fun hrec => hfree ((hrec.1 s hs).1 0 _ hgranted), hdataplane⟩

end State
end Osvbng.L2tp.Lns

import Osvbng.Pppoe.Session

/-!
# What a session step does to the lifecycle

The lifecycle of a session is told by its phase, the states of its automata and
the request it awaits. `Host.view` is that part of a host, and the lemmas here
say what each operation does to it, once; the invariants of a session are
derived from them.
-/

namespace Osvbng.Pppoe
open Option List Lib.Slice Ppp Dispatcher FrameError

structure View (Q : Type) where
  phase : Phase
  lcp : State
  wantAuth : Bool
  ipcp : State
  ipv6cp : State
  pending : Option Q

def IsNetwork (p : Phase) : Prop := p = .network ∨ p = .open
deriving Decidable

def requests {Q : Type} (out : List (Effect Q)) : List Q :=
  out.filterMap fun
    | .aaaRequest id _ _ => some id
    | _ => none

def PhaseStep (p p' : Phase) : Prop := p' = p ∨ (p = .network ∧ p' = .open)

theorem PhaseStep.refl (p : Phase) : PhaseStep p p := .inl rfl

theorem PhaseStep.trans {p q r : Phase} (h : PhaseStep p q) (h' : PhaseStep q r) :
    PhaseStep p r := by
  rcases h with rfl | ⟨rfl, rfl⟩
  · exact h'
  · rcases h' with rfl | ⟨h, -⟩
    · exact .inr ⟨rfl, rfl⟩
    · cases h

namespace Host
variable {K N S Q : Type} {h h' h'' : Host K N S Q} {data payload : Bytes} {code : UInt8}
  {e : Fsm.Event}

def view (h : Host K N S Q) : View Q where
  phase := h.session.phase
  lcp := h.session.lcp.state
  wantAuth := h.session.lcp.handler.localConfig.wantAuth
  ipcp := h.session.ipcp.state
  ipv6cp := h.session.ipv6cp.state
  pending := h.session.pendingAuthRequestID

/-- A step that leaves the lifecycle as it is and requests nothing. -/
def Quiet (h h' : Host K N S Q) : Prop := h'.view = h.view ∧ requests h'.out = requests h.out

theorem Quiet.refl (h : Host K N S Q) : Quiet h h := ⟨rfl, rfl⟩

theorem Quiet.trans (h1 : Quiet h h') (h2 : Quiet h' h'') : Quiet h h'' :=
  ⟨h2.1.trans h1.1, h2.2.trans h1.2⟩

theorem quiet_emit (h : Host K N S Q) {e : Effect Q} (he : requests [e] = []) :
    Quiet h (h.emit e) := by
  refine ⟨rfl, ?_⟩
  simpa [emit, requests] using he

theorem quiet_modify (h : Host K N S Q) {f : Session K N S Q → Session K N S Q}
    (hf : (h.modify f).view = h.view) : Quiet h (h.modify f) :=
  ⟨hf, rfl⟩

def Opens (h h' : Host K N S Q) : Prop :=
  ∃ p, PhaseStep h.view.phase p ∧ h'.view = { h.view with phase := p } ∧
    requests h'.out = requests h.out

theorem Quiet.opens (hq : Quiet h h') : Opens h h' :=
  ⟨h.view.phase, .refl _, hq.1, hq.2⟩

theorem Opens.trans (h1 : Opens h h') (h2 : Opens h' h'') : Opens h h'' := by
  obtain ⟨p, hp, hv, hr⟩ := h1
  obtain ⟨q, hq, hv', hr'⟩ := h2
  rw [hv] at hq hv'
  exact ⟨q, hp.trans hq, hv', hr'.trans hr⟩

theorem Opens.foldl {X : Type} {f : Host K N S Q → X → Host K N S Q}
    (hf : ∀ h a, Opens h (f h a)) (l : List X) (h : Host K N S Q) : Opens h (l.foldl f h) := by
  induction l generalizing h with
  | nil => exact (Quiet.refl h).opens
  | cons a l ih => exact (hf h a).trans (ih (f h a))

/-! ## Network control protocols -/

variable (h)

theorem opens_checkOpen : Opens h h.checkOpen := by
  unfold checkOpen
  split
  · rename_i hc
    have hopen : PhaseStep h.view.phase .open := .inr ⟨hc.1, rfl⟩
    dsimp only
    split
    all_goals exact ⟨.open, hopen, rfl, by simp [requests, emit, modify]⟩
  · exact (Quiet.refl h).opens

theorem opens_action (a : Action) : Opens h (h.ipcpAction a) ∧ Opens h (h.ipv6cpAction a) := by
  cases a with
  | send code id data => exact ⟨(h.quiet_emit rfl).opens, (h.quiet_emit rfl).opens⟩
  | layerUp =>
    exact ⟨(h.quiet_modify rfl).opens.trans (opens_checkOpen _),
      (h.quiet_modify rfl).opens.trans (opens_checkOpen _)⟩
  | layerDown => exact ⟨(h.quiet_modify rfl).opens, (h.quiet_modify rfl).opens⟩
  | layerStarted | layerFinished => exact ⟨(Quiet.refl h).opens, (Quiet.refl h).opens⟩

theorem view_applyIPCP (r : Fsm Ipcp × List Action) : ∃ p, PhaseStep h.view.phase p ∧
      (h.applyIPCP r).view = { h.view with phase := p, ipcp := r.1.state } ∧
      requests (h.applyIPCP r).out = requests h.out := by
  obtain ⟨p, hp, hv, hr⟩ :=
    Opens.foldl (fun h a => (h.opens_action a).1) r.2 (h.modify fun s => { s with ipcp := r.1 })
  exact ⟨p, hp, hv, hr⟩

theorem view_applyIPv6CP (r : Fsm Ipv6cp × List Action) : ∃ p, PhaseStep h.view.phase p ∧
      (h.applyIPv6CP r).view = { h.view with phase := p, ipv6cp := r.1.state } ∧
      requests (h.applyIPv6CP r).out = requests h.out := by
  obtain ⟨p, hp, hv, hr⟩ :=
    Opens.foldl (fun h a => (h.opens_action a).2) r.2 (h.modify fun s => { s with ipv6cp := r.1 })
  exact ⟨p, hp, hv, hr⟩

/-- A step that moves the network protocols without opening one. -/
def MovesNCP (h h' : Host K N S Q) : Prop :=
  ∃ p ipcp ipv6cp, PhaseStep h.view.phase p ∧
    (ipcp = .opened → h.view.ipcp = .opened) ∧ (ipv6cp = .opened → h.view.ipv6cp = .opened) ∧
    h'.view = { h.view with phase := p, ipcp := ipcp, ipv6cp := ipv6cp } ∧
    requests h'.out = requests h.out

variable {h}

theorem Quiet.movesNCP (hq : Quiet h h') : MovesNCP h h' :=
  ⟨_, _, _, .refl _, id, id, hq.1, hq.2⟩

theorem MovesNCP.trans (h1 : MovesNCP h h') (h2 : MovesNCP h' h'') : MovesNCP h h'' := by
  obtain ⟨p, i, j, hp, hi, hj, hv, hr⟩ := h1
  obtain ⟨p', i', j', hp', hi', hj', hv', hr'⟩ := h2
  rw [hv] at hp' hi' hj' hv'
  exact ⟨p', i', j', hp.trans hp', fun h => hi (hi' h), fun h => hj (hj' h), hv', hr'.trans hr⟩

theorem movesNCP_applyIPCP (h : Host K N S Q) {r : Fsm Ipcp × List Action}
    (hr : h.session.ipcp.handle e = some r) (he : ∀ code id data, e ≠ .input code id data) :
    MovesNCP h (h.applyIPCP r) := by
  obtain ⟨p, hp, hv, hreq⟩ := h.view_applyIPCP r
  refine ⟨p, r.1.state, h.view.ipv6cp, hp, fun hopened => ?_, id, hv, hreq⟩
  by_contra hne
  exact Fsm.state_ne_opened_of_handle hr he hne hopened

theorem movesNCP_applyIPv6CP (h : Host K N S Q) {r : Fsm Ipv6cp × List Action}
    (hr : h.session.ipv6cp.handle e = some r) (he : ∀ code id data, e ≠ .input code id data) :
    MovesNCP h (h.applyIPv6CP r) := by
  obtain ⟨p, hp, hv, hreq⟩ := h.view_applyIPv6CP r
  refine ⟨p, h.view.ipcp, r.1.state, hp, id, fun hopened => ?_, hv, hreq⟩
  by_contra hne
  exact Fsm.state_ne_opened_of_handle hr he hne hopened

/-! ## Messages and settings -/

variable (env : Env K N Q)

theorem quiet_configureIPv6CP (h : Host K N S Q) : Quiet h (h.modify (configureIPv6CP env)) := by
  refine h.quiet_modify ?_
  unfold configureIPv6CP modify
  split <;> rfl

theorem quiet_applyProfileDNS (h : Host K N S Q) : Quiet h (h.modify (applyProfileDNS env)) := by
  refine h.quiet_modify ?_
  unfold applyProfileDNS modify
  dsimp only
  split <;> rfl

theorem quiet_sendCHAPChallenge (h : Host K N S Q) : Quiet h (sendCHAPChallenge env h) :=
  (h.quiet_modify rfl).trans (quiet_emit _ rfl)

theorem quiet_startAuth (proto : UInt16) (h : Host K N S Q) : Quiet h (startAuth env proto h) := by
  unfold startAuth
  split
  · exact (h.quiet_modify rfl).trans (quiet_sendCHAPChallenge env _)
  · exact .refl h

theorem quiet_sendAuthAccept (h : Host K N S Q) : Quiet h h.sendAuthAccept := by
  unfold sendAuthAccept
  split
  · exact h.quiet_emit rfl
  · exact h.quiet_emit rfl
  · exact .refl h

theorem quiet_sendAuthReject (h : Host K N S Q) : Quiet h h.sendAuthReject := by
  unfold sendAuthReject
  split
  · exact h.quiet_emit rfl
  · exact h.quiet_emit rfl
  · exact .refl h

/-! ## Address assignment -/

variable [DecidableEq K] [DecidableEq N] [DecidableEq S] {id : UInt8} {r : Fsm Lcp × List Action}
  {acts : List Action} {proto : UInt16}

theorem quiet_assignIPv4 (h : Host K N S Q) : Quiet h (assignIPv4 env h) := by
  unfold assignIPv4 allocateFromPool
  repeat' split
  all_goals exact ⟨rfl, rfl⟩

theorem quiet_assignIPv6 (h : Host K N S Q) : Quiet h (assignIPv6 env h) := by
  unfold assignIPv6 allocateIANAFromPool
  repeat' split
  all_goals exact ⟨rfl, rfl⟩

omit [DecidableEq N] in
theorem quiet_assignPD (h : Host K N S Q) : Quiet h (assignPD env h) := by
  unfold assignPD
  repeat' split
  all_goals exact ⟨rfl, rfl⟩

theorem quiet_assignAddresses (h : Host K N S Q) : Quiet h (assignAddresses env h) := by
  unfold assignAddresses
  have hassign := ((quiet_assignIPv4 env h).trans (quiet_assignIPv6 env _)).trans
    (quiet_assignPD env _)
  refine hassign.trans ?_
  dsimp only
  split
  · exact (quiet_applyProfileDNS env _).trans (quiet_modify _ rfl)
  · exact quiet_modify _ rfl

theorem movesNCP_startNCP (h : Host K N S Q) : MovesNCP h (startNCP env h) := by
  have hassign := (quiet_assignAddresses env h).movesNCP
  have hipcp (h : Host K N S Q) : MovesNCP h (h.applyIPCP h.session.ipcp.up) :=
    h.movesNCP_applyIPCP (e := .up) rfl (by simp)
  have hipcp' : ∀ h : Host K N S Q, MovesNCP h (h.applyIPCP h.session.ipcp.open) := fun h =>
    h.movesNCP_applyIPCP (e := .open) rfl (by simp)
  have hipv6cp (h : Host K N S Q) : MovesNCP h (h.applyIPv6CP h.session.ipv6cp.up) :=
    h.movesNCP_applyIPv6CP (e := .up) rfl (by simp)
  have hipv6cp' : ∀ h : Host K N S Q, MovesNCP h (h.applyIPv6CP h.session.ipv6cp.open) := fun h =>
    h.movesNCP_applyIPv6CP (e := .open) rfl (by simp)
  have hconf (h : Host K N S Q) : MovesNCP h (h.modify (configureIPv6CP env)) :=
    (quiet_configureIPv6CP env h).movesNCP
  exact ((((hassign.trans (hipcp _)).trans (hipcp' _)).trans (hconf _)).trans
    (hipv6cp _)).trans (hipv6cp' _)

/-! ## Link control and authentication -/

def phaseAfterLCP (phase : Phase) (s s' : State) : Phase :=
  if s = .opened then (if s' = .opened then phase else .establish)
  else (if s' = .opened then .authenticate else phase)

theorem view_onLCPUp (hauth : h.view.wantAuth = true) :
    (onLCPUp env h).view = { h.view with phase := .authenticate } ∧
      requests (onLCPUp env h).out = requests h.out := by
  have hcfg : h.session.lcp.handler.localConfig.wantAuth = true := hauth
  obtain ⟨hv, hr⟩ := quiet_startAuth env h.session.lcp.handler.localConfig.authProto
    (h.modify fun s => { s with phase := .authenticate })
  unfold onLCPUp
  simp only [hcfg, if_true]
  exact ⟨hv, hr⟩

theorem quiet_foldl_lcpAction (hacts : Fsm.layerActs acts = [])
    (h : Host K N S Q) : Quiet h (acts.foldl (lcpAction env) h) := by
  induction acts generalizing h with
  | nil => exact .refl h
  | cons a acts ih =>
    cases a with
    | send code id data =>
      exact (h.quiet_emit rfl).trans (ih hacts _)
    | layerUp | layerDown => simp at hacts
    | layerStarted =>
      exact ih hacts h
    | layerFinished =>
      exact ih hacts h

theorem quiet_around_layerAct {a : Action} (hacts : Fsm.layerActs acts = [a]) (h : Host K N S Q) :
    ∃ h', Quiet h h' ∧ Quiet (lcpAction env h' a) (acts.foldl (lcpAction env) h) := by
  obtain ⟨pre, post, rfl, hpre, -, hpost⟩ := filter_eq_cons_iff.mp hacts
  refine ⟨pre.foldl (lcpAction env) h, quiet_foldl_lcpAction env (filter_eq_nil_iff.mpr hpre) h, ?_⟩
  rw [foldl_append, foldl_cons]
  exact quiet_foldl_lcpAction env hpost _

theorem view_applyLCP (hspec : Fsm.LayerSpec h.session.lcp r)
    (hauth : r.1.handler.localConfig.wantAuth = true) : (applyLCP env h r).view =
        { h.view with
          lcp := r.1.state
          wantAuth := true
          phase := phaseAfterLCP h.view.phase h.view.lcp r.1.state } ∧
      requests (applyLCP env h r).out = requests h.out := by
  have hset : (h.modify fun s => { s with lcp := r.1 }).view =
      { h.view with lcp := r.1.state, wantAuth := true } := by
    simp only [view, modify, hauth]
  have hout : (h.modify fun s => { s with lcp := r.1 }).out = h.out := rfl
  have hlcp : h.view.lcp = h.session.lcp.state := rfl
  unfold Fsm.LayerSpec Fsm.layerMove at hspec
  unfold applyLCP phaseAfterLCP
  rw [hlcp, ← hout]
  generalize (h.modify fun s => { s with lcp := r.1 }) = h0 at hset
  by_cases hs : h.session.lcp.state = .opened <;> by_cases hs' : r.1.state = .opened
  · -- stays opened
    simp only [hs, hs', if_true] at hspec ⊢
    obtain ⟨hv, hr⟩ := quiet_foldl_lcpAction env hspec h0
    exact ⟨by rw [hv, hset, hs'], hr⟩
  · -- leaves opened
    simp only [hs, hs', if_true, if_false] at hspec ⊢
    obtain ⟨h1, ⟨hv1, hr1⟩, hv2, hr2⟩ := quiet_around_layerAct env hspec h0
    have hdown : (lcpAction env h1 .layerDown).view = { h1.view with phase := .establish } := rfl
    exact ⟨by rw [hv2, hdown, hv1, hset], hr2.trans hr1⟩
  · -- enters opened
    simp only [hs, hs', if_true, if_false] at hspec ⊢
    obtain ⟨h1, ⟨hv1, hr1⟩, hv2, hr2⟩ := quiet_around_layerAct env hspec h0
    obtain ⟨hup, hrup⟩ := view_onLCPUp env (h := h1) (by rw [hv1, hset])
    refine ⟨?_, (hr2.trans hrup).trans hr1⟩
    rw [hv2, lcpAction, hup, hv1, hset, hs']
  · -- stays below opened
    simp only [hs, hs', if_false] at hspec ⊢
    obtain ⟨hv, hr⟩ := quiet_foldl_lcpAction env hspec h0
    exact ⟨by rw [hv, hset], hr⟩

/-- A step that moves LCP to the state `lcp` and lets the phase follow. -/
def MovesLCP (h h' : Host K N S Q) (lcp : State) : Prop :=
  h'.view = { h.view with lcp := lcp, phase := phaseAfterLCP h.view.phase h.view.lcp lcp } ∧
    requests h'.out = requests h.out

theorem movesLCP_applyLCP (hr : h.session.lcp.handle e = some r) (hauth : h.view.wantAuth = true) :
    MovesLCP h (applyLCP env h r) r.1.state := by
  have hnew : r.1.handler.localConfig.wantAuth = true :=
    Fsm.handlerInvariant_handle Lcp.wantAuth_invariant hr hauth
  have hmove := view_applyLCP env (Fsm.layerSpec_handle hr) hnew
  rw [← hauth] at hmove
  exact hmove

theorem movesLCP_closeLCP (hauth : h.view.wantAuth = true) :
    MovesLCP h (closeLCP env h) h.session.lcp.close.1.state :=
  movesLCP_applyLCP env (e := .close) rfl hauth

/-! ## Requests -/

/-- A step that publishes a request and awaits its answer. -/
def Asks (h h' : Host K N S Q) : Prop :=
  h.view.phase = .authenticate ∧ h'.view = { h.view with pending := some env.requestID } ∧
    requests h'.out = requests h.out ++ [env.requestID]

omit [DecidableEq K] [DecidableEq N] [DecidableEq S] in
theorem view_publishAAARequest (credentials : Credentials) (h : Host K N S Q) :
    (publishAAARequest env credentials h).view = { h.view with pending := some env.requestID } ∧
      requests (publishAAARequest env credentials h).out = requests h.out ++ [env.requestID] := by
  refine ⟨rfl, ?_⟩
  simp [publishAAARequest, emit, modify, requests]

omit [DecidableEq K] [DecidableEq N] [DecidableEq S] in
theorem movesNCP_handleProtocolReject (proto : UInt16) (h : Host K N S Q) :
    MovesNCP h (h.handleProtocolReject proto) := by
  unfold handleProtocolReject
  split
  · exact h.movesNCP_applyIPCP (e := .close) rfl (by simp)
  split
  · exact h.movesNCP_applyIPv6CP (e := .close) rfl (by simp)
  · exact (Quiet.refl h).movesNCP

/-! ## Frames -/

/-- Everything a frame can do, by the operation it reaches. -/
inductive Routed (h : Host K N S Q) (proto : UInt16) (payload : Bytes) : Host K N S Q → Prop
  | nothing : Routed h proto payload h
  | emits (e : Effect Q) (he : requests [e] = []) : Routed h proto payload (h.emit e)
  | protocolReject (rejected : UInt16) : Routed h proto payload (h.handleProtocolReject rejected)
  | stopsTimer : Routed h proto payload (h.modify fun s => { s with chapRetryTimer := false })
  | asks (credentials : Credentials) (timer : Bool) (username : Bytes) (type : AuthType)
      (papID chapID : UInt8) (response : Bytes) (hphase : h.session.phase = .authenticate) :
      Routed h proto payload (publishAAARequest env credentials (h.modify fun s =>
        { s with
          chapRetryTimer := timer
          username := username
          pendingAuthType := some type
          pendingPAPID := papID
          pendingCHAPID := chapID
          chapResponse := response }))
  | ipcp (code id : UInt8) (data : Bytes) (r : Fsm Ipcp × List Action)
      (hnet : IsNetwork h.session.phase) (hr : h.session.ipcp.input code id data = some r) :
      Routed h proto payload (h.applyIPCP r)
  | ipv6cp (code id : UInt8) (data : Bytes) (r : Fsm Ipv6cp × List Action)
      (hnet : IsNetwork h.session.phase) (hr : h.session.ipv6cp.input code id data = some r) :
      Routed h proto payload (h.applyIPv6CP r)
  | lcp (code id : UInt8) (data : Bytes) (r : Fsm Lcp × List Action) (hproto : proto = protoLCP)
      (hhdr : parseHeader errFrameShort .errFrameLengthMismatch payload =
        some (.ok (code, id, data)))
      (hr : h.session.lcp.input code id data = some r) :
      Routed h proto payload (applyLCP env h r)

theorem routed_handleLCP
    (hhdr : parseHeader errFrameShort .errFrameLengthMismatch payload =
      some (.ok (code, id, data))) (hh : (dispatcher env).handleLCP code id data h = some h') :
    Routed env h protoLCP payload h' := by
  simp only [handleLCP, dispatcher, call] at hh
  split at hh
  · split at hh
    · unfold sendLCPEchoReply at hh
      split at hh
      · obtain ⟨tail, -, hh⟩ := bind_eq_some_iff.mp hh
        cases hh
        exact .emits _ rfl
      · cases hh
        exact .emits _ rfl
    · cases hh
      exact .nothing
  split at hh
  · cases hh
    exact .emits _ rfl
  split at hh
  · split at hh
    · obtain ⟨b, -, hh⟩ := bind_eq_some_iff.mp hh
      obtain ⟨rejected, -, hh⟩ := bind_eq_some_iff.mp hh
      cases hh
      exact .protocolReject _
    · cases hh
      exact .nothing
  · obtain ⟨r, hr, rfl⟩ := map_eq_some_iff.mp hh
    exact .lcp code id data r rfl hhdr hr

theorem routed_handlePAPPacket (hh : handlePAPPacket env code id data h = some h') :
    Routed env h proto payload h' := by
  unfold handlePAPPacket at hh
  split at hh
  · cases hh
    exact .nothing
  · rename_i hcode
    obtain ⟨parsed, -, hh⟩ := bind_eq_some_iff.mp hh
    cases parsed with
    | none =>
      cases hh
      exact .nothing
    | some p =>
      cases hh
      exact .asks _ h.session.chapRetryTimer _ _ _ h.session.pendingCHAPID h.session.chapResponse
        (not_not.mp (not_or.mp hcode).1)

theorem routed_handleCHAPPacket (hh : handleCHAPPacket env code id data h = some h') :
    Routed env h proto payload h' := by
  unfold handleCHAPPacket at hh
  split at hh
  · cases hh
    exact .nothing
  · rename_i hcode
    obtain ⟨parsed, -, hh⟩ := bind_eq_some_iff.mp hh
    cases parsed with
    | none =>
      cases hh
      exact .stopsTimer
    | some p =>
      cases hh
      exact .asks _ false _ _ h.session.pendingPAPID _ _ (not_not.mp (not_or.mp hcode).1)

omit [DecidableEq K] [DecidableEq N] [DecidableEq S] in
theorem isNetwork_of_inNetworkPhase {d : Dispatcher (Host K N S Q)}
    (hd : d.phaseFn = some fun h => h.session.phase)
    (hin : d.inNetworkPhase h = true) : IsNetwork h.session.phase := by
  simp only [inNetworkPhase, hd, decide_eq_true_eq] at hin
  exact hin

theorem routed_route (hhdr : parseHeader errFrameShort .errFrameLengthMismatch payload =
      some (.ok (code, id, data)))
    (hh : (dispatcher env).route proto payload code id data h = some h') :
    Routed env h proto payload h' := by
  unfold route at hh
  split at hh
  · rename_i hproto
    rw [hproto]
    exact routed_handleLCP env hhdr hh
  split at hh
  · exact routed_handlePAPPacket env hh
  split at hh
  · exact routed_handleCHAPPacket env hh
  split at hh
  · split at hh
    · rename_i hin
      obtain ⟨r, hr, rfl⟩ := map_eq_some_iff.mp hh
      exact .ipcp code id data r (isNetwork_of_inNetworkPhase rfl hin) hr
    · cases hh
      exact .nothing
  split at hh
  · split at hh
    · rename_i hin
      obtain ⟨r, hr, rfl⟩ := map_eq_some_iff.mp hh
      exact .ipv6cp code id data r (isNetwork_of_inNetworkPhase rfl hin) hr
    · cases hh
      exact .nothing
  · cases hh
    exact .emits _ rfl

theorem routed_handlePPP
    (hh : handlePPP env proto payload h = some (.ok h')) : Routed env h proto payload h' := by
  unfold handlePPP handleFrame at hh
  split at hh
  · obtain ⟨h1, hr, hh⟩ := bind_eq_some_iff.mp hh
    cases hh
    have hbare (b : Bool) : (if b then some (h.emit (.ipv6 payload)) else some h) = some h' →
        Routed env h proto payload h' := by
      intro hb
      split at hb
      · cases hb
        exact .emits _ rfl
      · cases hb
        exact .nothing
    exact hbare _ hr
  · obtain ⟨parsed, hhdr, hh⟩ := bind_eq_some_iff.mp hh
    match parsed, hh with
    | .error e, hh => cases hh
    | .ok (code, id, data), hh =>
      obtain ⟨h1, hr, hh⟩ := bind_eq_some_iff.mp hh
      cases hh
      exact routed_route env hhdr hr

end Host
end Osvbng.Pppoe

import Osvbng.Pppoe.Steps

/-!
# What a session holds

The IPv4 address of a session comes from AAA, from a pool or from the peer
through IPCP, and the registry records who leases it. `Host.holding` is the
part of a session this concerns. The lemmas here say which steps leave it and
the registry alone (`Still`), and what the ones of IPCP can do to it
(`Negotiates`).
-/

namespace Osvbng.Pppoe
open Lib.NetIP Ppp

structure Holding (K N S : Type) where
  sessionID : S
  wantAuth : Bool
  ipv4Address : IP
  negotiated : IP
  assigned : IP
  allocatedPool : Option K
  vrf : N

namespace Host
variable {K N S Q : Type} {h h' : Host K N S Q} {h'' : Host K N S Q} {e : Fsm.Event}

def holding (h : Host K N S Q) : Holding K N S where
  sessionID := h.session.sessionID
  wantAuth := h.session.lcp.handler.localConfig.wantAuth
  ipv4Address := h.session.ipv4Address
  negotiated := h.session.ipcp.handler.peerConfig.address
  assigned := h.session.ipcp.handler.peerConfig.peerAddress
  allocatedPool := h.session.allocatedPool
  vrf := h.session.vrf

/-- A step that leaves holdings and registry alone and does not start the
network protocols. -/
structure Still (h h' : Host K N S Q) : Prop where
  holding : h'.holding = h.holding
  registry : h'.registry = h.registry
  phase : IsNetwork h'.session.phase → IsNetwork h.session.phase

theorem Still.refl (h : Host K N S Q) : Still h h := ⟨rfl, rfl, id⟩

theorem Still.trans (h1 : Still h h') (h2 : Still h' h'') : Still h h'' :=
  ⟨h2.holding.trans h1.holding, h2.registry.trans h1.registry, fun h => h1.phase (h2.phase h)⟩

variable (h)

theorem still_emit (e : Effect Q) : Still h (h.emit e) := ⟨rfl, rfl, id⟩

theorem still_modify {f : Session K N S Q → Session K N S Q}
    (hf : (h.modify f).holding = h.holding) (hp : (f h.session).phase = h.session.phase) :
    Still h (h.modify f) :=
  ⟨hf, rfl, fun h' => by rwa [modify, hp] at h'⟩

/-! ## Network control protocols -/

theorem still_checkOpen : Still h h.checkOpen := by
  unfold checkOpen
  split
  · rename_i hc
    dsimp only
    split
    · exact ⟨rfl, rfl, fun _ => .inl hc.1⟩
    · exact ⟨rfl, rfl, fun _ => .inl hc.1⟩
  · exact .refl h

theorem still_ipv6cpAction (a : Action) : Still h (h.ipv6cpAction a) := by
  cases a with
  | send code id data => exact h.still_emit _
  | layerUp =>
    have hup : Still h (h.modify fun s => { s with ipv6cpOpen := true }) := ⟨rfl, rfl, id⟩
    exact hup.trans (still_checkOpen _)
  | layerDown => exact ⟨rfl, rfl, id⟩
  | layerStarted | layerFinished => exact .refl h

theorem Still.foldl {X : Type} {f : Host K N S Q → X → Host K N S Q}
    (hf : ∀ h a, Still h (f h a)) (l : List X) (h : Host K N S Q) : Still h (l.foldl f h) := by
  induction l generalizing h with
  | nil => exact .refl h
  | cons a l ih => exact (hf h a).trans (ih (f h a))

theorem still_applyIPv6CP (r : Fsm Ipv6cp × List Action) : Still h (h.applyIPv6CP r) :=
  (h.still_modify rfl rfl).trans (.foldl still_ipv6cpAction r.2 _)

variable {h}

/-- A step that at most makes the negotiated address the session's own. -/
structure Negotiates (h h' : Host K N S Q) : Prop where
  holding : h'.holding = h.holding ∨
    h'.holding = { h.holding with ipv4Address := h.holding.negotiated }
  registry : h'.registry = h.registry
  phase : IsNetwork h'.session.phase → IsNetwork h.session.phase

theorem Still.negotiates (hs : Still h h') : Negotiates h h' :=
  ⟨.inl hs.holding, hs.registry, hs.phase⟩

theorem Negotiates.trans (h1 : Negotiates h h') (h2 : Negotiates h' h'') : Negotiates h h'' := by
  refine ⟨?_, h2.registry.trans h1.registry, fun h => h1.phase (h2.phase h)⟩
  rcases h1.holding with h1 | h1 <;> rcases h2.holding with h2 | h2
  · exact .inl (h2.trans h1)
  · exact .inr (by rw [h2, h1])
  · exact .inr (h2.trans h1)
  · exact .inr (by rw [h2, h1])

theorem negotiates_ipcpAction (h : Host K N S Q) (a : Action) : Negotiates h (h.ipcpAction a) := by
  cases a with
  | send code id data => exact (h.still_emit _).negotiates
  | layerUp =>
    have hup : Negotiates h (h.modify fun s =>
        { s with ipv4Address := s.ipcp.handler.peerConfig.address, ipcpOpen := true }) :=
      ⟨.inr rfl, rfl, id⟩
    exact hup.trans (still_checkOpen _).negotiates
  | layerDown => exact ⟨.inl rfl, rfl, id⟩
  | layerStarted | layerFinished => exact (Still.refl h).negotiates

theorem negotiates_applyIPCP (h : Host K N S Q) (r : Fsm Ipcp × List Action) :
    Negotiates (h.modify fun s => { s with ipcp := r.1 }) (h.applyIPCP r) := by
  unfold applyIPCP
  generalize h.modify (fun s => { s with ipcp := r.1 }) = h0
  induction r.2 generalizing h0 with
  | nil => exact (Still.refl h0).negotiates
  | cons a acts ih => exact (negotiates_ipcpAction h0 a).trans (ih _)

theorem negotiates_applyIPCP_of_not_input
    {r : Fsm Ipcp × List Action} (hr : h.session.ipcp.handle e = some r)
    (he : ∀ code id data, e ≠ .input code id data) : Negotiates h (h.applyIPCP r) := by
  have hsame : (h.modify fun s => { s with ipcp := r.1 }).holding = h.holding := by
    simp [holding, modify, Fsm.handler_handle hr he]
  exact (h.still_modify hsame rfl).negotiates.trans (h.negotiates_applyIPCP r)

theorem negotiates_handleProtocolReject (proto : UInt16) (h : Host K N S Q) :
    Negotiates h (h.handleProtocolReject proto) := by
  unfold handleProtocolReject
  split
  · exact negotiates_applyIPCP_of_not_input (e := .close) rfl (by simp)
  split
  · exact (h.still_applyIPv6CP _).negotiates
  · exact (Still.refl h).negotiates

/-! ## Link control and authentication -/

variable (env : Env K N Q) {code id : UInt8} {data : Bytes}

theorem still_sendCHAPChallenge (h : Host K N S Q) : Still h (sendCHAPChallenge env h) :=
  (h.still_modify rfl rfl).trans (still_emit _ _)

theorem still_sendAuthReject (h : Host K N S Q) : Still h h.sendAuthReject := by
  unfold sendAuthReject
  split
  · exact h.still_emit _
  · exact h.still_emit _
  · exact .refl h

variable [DecidableEq K] [DecidableEq N] [DecidableEq S] (hauth : h.holding.wantAuth = true)
include hauth

theorem still_onLCPUp : Still h (onLCPUp env h) := by
  have hcfg : h.session.lcp.handler.localConfig.wantAuth = true := hauth
  have hphase : Still h (h.modify fun s => { s with phase := .authenticate }) :=
    ⟨rfl, rfl, fun hnet => by simp [modify, IsNetwork] at hnet⟩
  unfold onLCPUp startAuth
  simp only [hcfg, if_true]
  split
  · exact (hphase.trans (still_modify _ rfl rfl)).trans (still_sendCHAPChallenge env _)
  · exact hphase

theorem still_foldl_lcpAction (acts : List Action) : Still h (acts.foldl (lcpAction env) h) := by
  have hstep (h : Host K N S Q) (a : Action) : h.holding.wantAuth = true →
      Still h (lcpAction env h a) := by
    intro hauth
    cases a with
    | send code id data => exact h.still_emit _
    | layerUp => exact still_onLCPUp env hauth
    | layerDown =>
      exact ⟨rfl, rfl, fun hnet => by simp [lcpAction, onLCPDown, modify, IsNetwork] at hnet⟩
    | layerStarted | layerFinished => exact .refl h
  induction acts generalizing h with
  | nil => exact .refl h
  | cons a acts ih =>
    have ha := hstep h a hauth
    exact ha.trans (ih (by rw [ha.holding]; exact hauth))

theorem still_applyLCP {r : Fsm Lcp × List Action} (hr : h.session.lcp.handle e = some r) :
    Still h (applyLCP env h r) := by
  have hnew : r.1.handler.localConfig.wantAuth = true :=
    Fsm.handlerInvariant_handle Lcp.wantAuth_invariant hr hauth
  have hcfg : h.session.lcp.handler.localConfig.wantAuth = true := hauth
  have hset : (h.modify fun s => { s with lcp := r.1 }).holding = h.holding := by
    simp [holding, modify, hnew, hcfg]
  exact (h.still_modify hset rfl).trans (still_foldl_lcpAction env (by rw [hset]; exact hauth) r.2)

theorem still_closeLCP : Still h (closeLCP env h) :=
  still_applyLCP env (e := .close) hauth rfl

theorem still_handleCHAPTimeout : Still h (handleCHAPTimeout env h) := by
  have hcount : Still h (h.modify fun s => { s with chapRetryCount := s.chapRetryCount + 1 }) :=
    h.still_modify rfl rfl
  unfold handleCHAPTimeout
  split
  · exact .refl h
  dsimp only
  split
  · exact hcount.trans (still_closeLCP env hauth)
  · exact hcount.trans (still_sendCHAPChallenge env _)

theorem still_onAuthResult_reject (attrs : Attributes N) :
    Still h (onAuthResult env false attrs h) := by
  have hreject := still_sendAuthReject h
  have hclose := still_closeLCP env (h := h.sendAuthReject) (by rw [hreject.holding]; exact hauth)
  exact (hreject.trans hclose).trans (still_modify _ rfl rfl)

theorem still_up : Still h (up env h) := by
  have hphase : Still h (h.modify fun s => { s with phase := .establish }) :=
    ⟨rfl, rfl, fun hnet => by simp [modify, IsNetwork] at hnet⟩
  have hup := still_applyLCP env
    (h := h.modify fun s => { s with phase := .establish }) (e := .up) hauth rfl
  have hopen := still_applyLCP env (e := .open) (by rw [hup.holding]; exact hauth) rfl
  exact (hphase.trans hup).trans hopen

end Host
end Osvbng.Pppoe

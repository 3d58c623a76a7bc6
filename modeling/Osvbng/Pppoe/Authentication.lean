import Osvbng.Lib.Run
import Osvbng.Pppoe.Frames
import Osvbng.Pppoe.Steps

/-!
# Network protocols only on an authenticated link

A network protocol should be open, and the session in a network phase, only
while LCP is open and AAA has accepted credentials that were sent after LCP
last opened. The history this speaks about is kept next to the session: how
often LCP has opened, and in which of these epochs the credentials were sent
that AAA last judged and accepted.

The source drops neither an answer that arrives after LCP has left `opened` nor
the network protocols when LCP goes down. `Life.network_only_authenticated`
proves the property for the runs in which neither happens, and
`accept_after_renegotiation` is a run in which the first does.
-/

namespace Osvbng.Pppoe
open Option Lib Lib.Slice Ppp Allocator Host View Session Machine

/-! ## The invariant on the lifecycle -/

/-- The epoch after LCP has moved from `s` to `s'`. -/
def epochAfter (epoch : Nat) (s s' : State) : Nat :=
  if s ≠ .opened ∧ s' = .opened then epoch + 1 else epoch

theorem epochAfter_self (epoch : Nat) (s : State) : epochAfter epoch s s = epoch := by
  unfold epochAfter
  rw [if_neg]
  exact fun h => h.1 h.2

namespace View
variable {Q : Type} {v : View Q} {a : Option Nat} {n : Nat} {p : Phase}

def NCPOpened (v : View Q) : Prop := v.ipcp = .opened ∨ v.ipv6cp = .opened

/-- The network protocols run on an open link that AAA accepted in this epoch. -/
structure Authorised (v : View Q) (lcpEpoch : Nat) (acceptEpoch : Option Nat) : Prop where
  wantAuth : v.wantAuth = true
  ncp : v.NCPOpened → IsNetwork v.phase
  link : IsNetwork v.phase → v.lcp = .opened ∧ acceptEpoch = some lcpEpoch
  answered : IsNetwork v.phase → v.pending = none

structure Dormant (v : View Q) : Prop where
  wantAuth : v.wantAuth = true
  ncp : ¬v.NCPOpened
  phase : ¬IsNetwork v.phase

theorem Dormant.authorised (hv : v.Dormant) (n : Nat) (a : Option Nat) : v.Authorised n a where
  wantAuth := hv.wantAuth
  ncp h := absurd h hv.ncp
  link h := absurd h hv.phase
  answered h := absurd h hv.phase

theorem Authorised.dormant (hv : v.Authorised n a) (hphase : ¬IsNetwork v.phase) : v.Dormant :=
  ⟨hv.wantAuth, fun h => hphase (hv.ncp h), hphase⟩

theorem not_isNetwork_phaseAfterLCP (hp : ¬IsNetwork p) (s s' : State) :
    ¬IsNetwork (phaseAfterLCP p s s') := by
  unfold phaseAfterLCP
  split <;> split
  · exact hp
  · simp [IsNetwork]
  · simp [IsNetwork]
  · exact hp

theorem Dormant.moveLCP (hv : v.Dormant) (s : State) :
    { v with lcp := s, phase := phaseAfterLCP v.phase v.lcp s : View Q }.Dormant where
  wantAuth := hv.wantAuth
  ncp := hv.ncp
  phase := not_isNetwork_phaseAfterLCP hv.phase v.lcp s

theorem Authorised.moveLCP (hv : v.Authorised n a) (s : State) (hkeep : v.NCPOpened → s = .opened) :
    { v with lcp := s, phase := phaseAfterLCP v.phase v.lcp s : View Q }.Authorised
      (epochAfter n v.lcp s) a := by
  by_cases hnet : IsNetwork v.phase
  · have hopened := (hv.link hnet).1
    by_cases hs : s = .opened
    · have hphase : phaseAfterLCP v.phase v.lcp s = v.phase := by
        simp [phaseAfterLCP, hopened, hs]
      have hepoch : epochAfter n v.lcp s = n := by simp [epochAfter, hopened]
      rw [hphase, hepoch]
      exact ⟨hv.wantAuth, hv.ncp, fun h => ⟨hs, (hv.link h).2⟩, hv.answered⟩
    · have hphase : phaseAfterLCP v.phase v.lcp s = .establish := by
        simp [phaseAfterLCP, hopened, hs]
      have hdormant : { v with lcp := s, phase := .establish : View Q }.Dormant :=
        ⟨hv.wantAuth, fun h => hs (hkeep h), by simp [IsNetwork]⟩
      rw [hphase]
      exact hdormant.authorised _ _
  · exact ((hv.dormant hnet).moveLCP s).authorised _ _

theorem PhaseStep.isNetwork_iff {p q : Phase} (h : PhaseStep p q) : IsNetwork q ↔ IsNetwork p := by
  rcases h with rfl | ⟨rfl, rfl⟩
  · rfl
  · simp [IsNetwork]

theorem Authorised.moveNCP (hv : v.Authorised n a) (hp : PhaseStep v.phase p) (i j : State)
    (hopen : i = .opened ∨ j = .opened → IsNetwork v.phase) :
    { v with phase := p, ipcp := i, ipv6cp := j : View Q }.Authorised n a where
  wantAuth := hv.wantAuth
  ncp h := (PhaseStep.isNetwork_iff hp).mpr (hopen h)
  link h := hv.link ((PhaseStep.isNetwork_iff hp).mp h)
  answered h := hv.answered ((PhaseStep.isNetwork_iff hp).mp h)

end View

/-! ## Steps of a session -/

namespace Host
variable {K N S Q : Type} (env : Env K N Q) {h h' h'' : Host K N S Q} {a : Option Nat} {n : Nat}
  {v : View Q}

theorem Quiet.dormant (hq : Quiet h h') (hd : h.view.Dormant) : h'.view.Dormant := by
  rw [hq.1]
  exact hd

theorem MovesLCP.dormant {s : State} (hm : MovesLCP h h' s)
    (hd : h.view.Dormant) : h'.view.Dormant := by
  rw [hm.1]
  exact hd.moveLCP s

theorem dormant_modify_clearPending (hd : h.view.Dormant) : (h.modify clearPending).view.Dormant :=
  ⟨hd.wantAuth, hd.ncp, hd.phase⟩

theorem MovesNCP.authorised
    (hm : MovesNCP h h') (hv : h.view.Authorised n a) : h'.view.Authorised n a := by
  obtain ⟨p, i, j, hp, hi, hj, hview, -⟩ := hm
  rw [hview]
  refine hv.moveNCP hp i j fun hopen => hv.ncp ?_
  exact hopen.imp hi hj

theorem MovesNCP.lcp_eq (hm : MovesNCP h h') : h'.view.lcp = h.view.lcp := by
  obtain ⟨p, i, j, -, -, -, hview, -⟩ := hm
  rw [hview]

variable [DecidableEq K] [DecidableEq N] [DecidableEq S] (hd : h.view.Dormant)
include hd

theorem dormant_closeLCP : (closeLCP env h).view.Dormant :=
  (movesLCP_closeLCP env hd.wantAuth).dormant hd

theorem dormant_failLACBringUp : (failLACBringUp env h).view.Dormant := by
  have hreject : h.sendAuthReject.view.Dormant := (quiet_sendAuthReject h).dormant hd
  exact dormant_closeLCP env (dormant_modify_clearPending hreject)

theorem dormant_handleCHAPTimeout : (handleCHAPTimeout env h).view.Dormant := by
  unfold handleCHAPTimeout
  have hcount :
      (h.modify fun s => { s with chapRetryCount := s.chapRetryCount + 1 }).view.Dormant := hd
  split
  · exact hd
  dsimp only
  split
  · exact dormant_closeLCP env hcount
  · exact (quiet_sendCHAPChallenge env _).dormant hcount

theorem dormant_handleLACDecision
    (success vppFails : Bool) : (handleLACDecision env success vppFails h).view.Dormant := by
  unfold handleLACDecision
  split
  · exact hd
  split
  · have haccept : h.sendAuthAccept.view.Dormant := (quiet_sendAuthAccept h).dormant hd
    exact ⟨haccept.wantAuth, haccept.ncp, by simp [view, emit, modify, clearPending, IsNetwork]⟩
  · exact dormant_failLACBringUp env hd

omit hd

omit [DecidableEq N] [DecidableEq S] in
theorem dormant_terminate (hv : h.view.Authorised n a) : (terminate env h).view.Dormant := by
  have hphase : (terminate env h).view.phase = .terminate := rfl
  refine ⟨hv.wantAuth, ?_, by simp [hphase, IsNetwork]⟩
  -- Outside the network phases the network protocols are left as they are.
  by_cases hnet : h.session.phase = .open ∨ h.session.phase = .network
  · simp [NCPOpened, view, terminate, hnet, Fsm.kill]
  · have hncp : ¬h.view.NCPOpened := fun hopen => hnet (hv.ncp hopen).symm
    simpa [NCPOpened, view, terminate, hnet] using hncp

variable (attrs : Attributes N)

theorem view_onAuthResult_accept (hd : h.view.Dormant) :
    (onAuthResult env true attrs h).view.Dormant ∨
      ∃ p i j, IsNetwork p ∧ (i ≠ .opened ∧ j ≠ .opened) ∧ (onAuthResult env true attrs h).view =
          { h.view with phase := p, ipcp := i, ipv6cp := j, pending := none } := by
  unfold onAuthResult
  rw [if_pos rfl]
  dsimp only
  split
  · left
    have hpending : (((h.modify (adoptReply env attrs)).modify fun s =>
        { s with phase := .lacTunnelPending, pendingAuthRequestID := none }).view).Dormant :=
      ⟨hd.wantAuth, hd.ncp, by simp [view, modify, IsNetwork]⟩
    split
    · exact dormant_failLACBringUp env hpending
    · exact hpending
  · right
    have hsend := quiet_sendAuthAccept (h.modify (adoptReply env attrs))
    obtain ⟨p, i, j, hp, hi, hj, hview, -⟩ := movesNCP_startNCP env
      ((h.modify (adoptReply env attrs)).sendAuthAccept.modify fun s =>
        { s with phase := .network })
    have hstart : ((h.modify (adoptReply env attrs)).sendAuthAccept.modify fun s =>
        { s with phase := .network }).view = { h.view with phase := .network } := by
      have hset : ∀ h : Host K N S Q, (h.modify fun s => { s with phase := .network }).view =
        { h.view with phase := .network } := fun _ => rfl
      rw [hset, hsend.1]
      rfl
    rw [hstart] at hp hi hj hview
    refine ⟨p, i, j, (PhaseStep.isNetwork_iff hp).mpr (.inl rfl), ?_, ?_⟩
    · exact ⟨fun h => hd.ncp (.inl (hi h)), fun h => hd.ncp (.inr (hj h))⟩
    · have hclear : ∀ h : Host K N S Q, (h.modify clearPending).view =
        { h.view with pending := none } := fun _ => rfl
      rw [onAuthSuccess, hclear, hview]

theorem dormant_onAuthResult_reject
    (hd : h.view.Dormant) : (onAuthResult env false attrs h).view.Dormant := by
  have hreject : h.sendAuthReject.view.Dormant := (quiet_sendAuthReject h).dormant hd
  exact dormant_modify_clearPending (dormant_closeLCP env hreject)

/-- The packet, if its header is readable, takes an open LCP out of `opened`. -/
def LeavesOpened (lcp : Fsm Lcp) : Checked (Except FrameError (UInt8 × UInt8 × Bytes)) → Prop
  | some (.ok (code, id, data)) => lcp.LeavesOpened code id data
  | some (.error _) | none => False

/-- The events that take LCP out of `opened` without a look at the network
protocols: packets that make it renegotiate or terminate, and a failed hand-off
to a tunnel. -/
def TakesLinkDown (lcp : Fsm Lcp) : Event N Q → Prop
  | .frame proto payload =>
    proto = protoLCP ∧ LeavesOpened lcp (parseHeader .errFrameShort .errFrameLengthMismatch payload)
  | .lacVPPSessionCreated ok triggerFails => (ok && !triggerFails) = false
  | _ => False

instance (lcp : Fsm Lcp) : (r : Checked (Except FrameError (UInt8 × UInt8 × Bytes))) →
    Decidable (LeavesOpened lcp r)
  | some (.ok (code, id, data)) => inferInstanceAs (Decidable (lcp.LeavesOpened code id data))
  | some (.error _) | none => isFalse id

instance (lcp : Fsm Lcp) (e : Event N Q) : Decidable (TakesLinkDown lcp e) := by
  rcases e <;> dsimp only [TakesLinkDown] <;> infer_instance

/-- A frame keeps the invariant unless it takes the link down below a network
protocol. -/
theorem authorised_handlePPP (hv : h.view.Authorised n a) {proto : UInt16} {payload : Bytes}
    (hkeep : h.view.NCPOpened → ¬(proto = protoLCP ∧ LeavesOpened h.session.lcp
      (parseHeader .errFrameShort .errFrameLengthMismatch payload)))
    (hh : handlePPP env proto payload h = some (.ok h')) :
    h'.view.Authorised (epochAfter n h.view.lcp h'.view.lcp) a := by
  have hdormant : h.view.phase = .authenticate → h.view.Dormant := fun hphase =>
    hv.dormant (by simp [hphase, IsNetwork])
  have hquiet : Quiet h h' → h'.view.Authorised (epochAfter n h.view.lcp h'.view.lcp) a := by
    intro hq
    rw [hq.1, epochAfter_self]
    exact hv
  have hasks : Asks env h h' → h'.view.Authorised (epochAfter n h.view.lcp h'.view.lcp) a := by
    rintro ⟨hphase, hview, -⟩
    have hd : h'.view.Dormant := by
      rw [hview]
      exact ⟨(hdormant hphase).wantAuth, (hdormant hphase).ncp, (hdormant hphase).phase⟩
    exact hd.authorised _ _
  cases routed_handlePPP env hh with
  | nothing => exact hquiet (.refl h)
  | emits e he => exact hquiet (h.quiet_emit he)
  | protocolReject rejected =>
    have hm := movesNCP_handleProtocolReject rejected h
    rw [hm.lcp_eq, epochAfter_self]
    exact hm.authorised hv
  | stopsTimer => exact hquiet (h.quiet_modify rfl)
  | asks credentials timer username type papID chapID response hphase =>
    exact hasks ⟨hphase, view_publishAAARequest env credentials _⟩
  | ipcp code id data r hnet hr =>
    obtain ⟨p, hp, hview, -⟩ := h.view_applyIPCP r
    rw [hview, epochAfter_self]
    exact hv.moveNCP hp _ _ fun _ => hnet
  | ipv6cp code id data r hnet hr =>
    obtain ⟨p, hp, hview, -⟩ := h.view_applyIPv6CP r
    rw [hview, epochAfter_self]
    exact hv.moveNCP hp _ _ fun _ => hnet
  | lcp code id data r hproto hhdr hr =>
    have hm := movesLCP_applyLCP env (e := .input code id data) hr hv.wantAuth
    rw [hm.1]
    refine hv.moveLCP _ fun hopen => ?_
    have hopened := (hv.link (hv.ncp hopen)).1
    refine Fsm.state_eq_opened_of_input hr hopened fun hleaves => ?_
    exact hkeep hopen ⟨hproto, by rw [hhdr]; exact hleaves⟩

theorem authorised_lcpTimeout (hv : h.view.Authorised n a) :
    (applyLCP env h h.session.lcp.timeout).view.Authorised
      (epochAfter n h.view.lcp (applyLCP env h h.session.lcp.timeout).view.lcp) a := by
  have hm := movesLCP_applyLCP env (h := h) (e := .timeout) rfl hv.wantAuth
  rw [hm.1]
  refine hv.moveLCP _ fun hopen => ?_
  exact Fsm.state_timeout_of_opened (hv.link (hv.ncp hopen)).1

theorem authorised_onLACVPPSessionCreated (hv : h.view.Authorised n a) {ok triggerFails : Bool}
    (hkeep : h.view.NCPOpened → ¬(ok && !triggerFails) = false) :
    (onLACVPPSessionCreated env ok triggerFails h).view.Authorised
      (epochAfter n h.view.lcp (onLACVPPSessionCreated env ok triggerFails h).view.lcp) a := by
  unfold onLACVPPSessionCreated
  split
  · rw [epochAfter_self]
    exact hv
  · rename_i hfail
    have hclear : (h.sendAuthReject.modify clearPending).view =
        { h.view with pending := none } := by
      have hset : ∀ h : Host K N S Q, (h.modify clearPending).view =
        { h.view with pending := none } := fun _ => rfl
      rw [hset, (quiet_sendAuthReject h).1]
    have hv' : { h.view with pending := none : View Q }.Authorised n a :=
      ⟨hv.wantAuth, hv.ncp, hv.link, fun _ => rfl⟩
    have hm := movesLCP_closeLCP env (h := h.sendAuthReject.modify clearPending)
      (by rw [hclear]; exact hv.wantAuth)
    rw [failLACBringUp, hm.1, hclear]
    refine hv'.moveLCP _ fun hopen => absurd ?_ (hkeep hopen)
    simpa using hfail

/-- An accept keeps the invariant if it comes on the open link its request was
sent on. -/
theorem authorised_accept (hd : h.view.Dormant) (hopened : h.view.lcp = .opened) :
    (onAuthResult env true attrs h).view.Authorised
      (epochAfter n h.view.lcp (onAuthResult env true attrs h).view.lcp) (some n) := by
  rcases view_onAuthResult_accept env attrs hd with hd' | ⟨p, i, j, hnet, hclosed, hview⟩
  · exact hd'.authorised _ _
  · rw [hview, epochAfter_self]
    refine ⟨hd.wantAuth, fun hopen => ?_, fun _ => ⟨hopened, rfl⟩, fun _ => rfl⟩
    exact absurd hopen (by simp [NCPOpened, hclosed])

end Host

/-! ## Runs of a session -/

/-- A session with the history of its link: how often LCP has opened, and the
epoch in which the credentials were sent that AAA was last asked about, and
that it last accepted. -/
structure Life (K N S Q : Type) where
  host : Host K N S Q
  live : Bool
  lcpEpoch : Nat
  requestEpoch : Nat
  acceptEpoch : Option Nat

/-- An event, with what the session finds around it when it happens. -/
structure Input (K N S Q : Type) where
  env : Env K N Q
  registry : Registry K N S
  event : Event N Q

namespace Life
variable {K N S Q : Type} [DecidableEq K] [DecidableEq N] [DecidableEq S] [DecidableEq Q]
  (s : Life K N S Q) {h h' : Host K N S Q} {env : Env K N Q} {e : Event N Q}

/-- An accept that answers the request the session awaits. -/
def Accepts : Event N Q → Prop
  | .aaaResponse requestID true _ => s.host.session.pendingAuthRequestID = some requestID
  | _ => False

instance (s : Life K N S Q) (e : Event N Q) : Decidable (s.Accepts e) := by
  rcases e
  case aaaResponse _ allowed _ => rcases allowed <;> dsimp only [Accepts] <;> infer_instance
  all_goals dsimp only [Accepts]; infer_instance

/-- The history after an event that leaves the session at `h`. -/
def after (e : Event N Q) (h : Host K N S Q) : Life K N S Q where
  host := h
  live := s.live && !(e matches .terminate)
  lcpEpoch := epochAfter s.lcpEpoch s.host.view.lcp h.view.lcp
  requestEpoch := if requests h.out = [] then s.requestEpoch else s.lcpEpoch
  acceptEpoch := if s.Accepts e then some s.requestEpoch else s.acceptEpoch

variable (i : Input K N S Q)

def found : Host K N S Q :=
  { s.host with registry := i.registry, out := [] }

def next : Option (Life K N S Q) :=
  if s.live || i.event.afterRemoval then
    ((s.found i).handleEvent i.env i.event).map (s.after i.event)
  else none

def Initial : Prop :=
  ∃ env sessionID vrf magic ipv6cp registry,
    s = ⟨up env ⟨.new sessionID vrf magic ipv6cp, registry, []⟩, true, 0, 0, none⟩

def machine (K N S Q : Type) [DecidableEq K] [DecidableEq N] [DecidableEq S] [DecidableEq Q] :
    Machine (Life K N S Q) (Input K N S Q) :=
  .ofNext Initial next

/-- The network protocols run only on a link that is open and accepted in its
current epoch. -/
def NetworkOnlyAuthenticated : Prop :=
  s.host.session.ipcp.state = .opened ∨ s.host.session.ipv6cp.state = .opened ∨
      IsNetwork s.host.session.phase →
    s.host.session.lcp.state = .opened ∧ s.acceptEpoch = some s.lcpEpoch

/-- An accept comes while LCP is still open since its request was sent, and the
link is not taken down below an open network protocol. -/
def Undisturbed : Prop :=
  (s.Accepts i.event →
    s.host.session.lcp.state = .opened ∧ s.requestEpoch = s.lcpEpoch) ∧
  (s.host.session.ipcp.state = .opened ∨ s.host.session.ipv6cp.state = .opened →
    ¬TakesLinkDown s.host.session.lcp i.event)

instance (s : Life K N S Q) (i : Input K N S Q) : Decidable (s.Undisturbed i) :=
  inferInstanceAs (Decidable (_ ∧ _))

def Authorised : Prop :=
  s.host.view.Authorised s.lcpEpoch s.acceptEpoch

/-- Every event but an accept, on a host in the state of the session. -/
theorem authorised_handleEvent {s : Life K N S Q} (hs : s.Authorised) (hview : h.view = s.host.view)
    (hlcp : h.session.lcp = s.host.session.lcp) (hnot : ¬s.Accepts e)
    (hkeep : s.host.view.NCPOpened → ¬TakesLinkDown s.host.session.lcp e)
    (hh : h.handleEvent env e = some h') :
    h'.view.Authorised (epochAfter s.lcpEpoch s.host.view.lcp h'.view.lcp) s.acceptEpoch := by
  have hv : h.view.Authorised s.lcpEpoch s.acceptEpoch := by
    rw [hview]
    exact hs
  rw [← hview, ← hlcp] at hkeep
  rw [← hview]
  cases e with
  | frame proto payload =>
    obtain ⟨r, hr, rfl⟩ := map_eq_some_iff.mp hh
    cases r with
    | error e =>
      rw [epochAfter_self]
      exact hv
    | ok h' => exact authorised_handlePPP env hv hkeep hr
  | lcpTimeout =>
    cases hh
    exact authorised_lcpTimeout env hv
  | ipcpTimeout =>
    cases hh
    have hm := h.movesNCP_applyIPCP (e := .timeout) rfl (by simp)
    rw [hm.lcp_eq, epochAfter_self]
    exact hm.authorised hv
  | ipv6cpTimeout =>
    cases hh
    have hm := h.movesNCP_applyIPv6CP (e := .timeout) rfl (by simp)
    rw [hm.lcp_eq, epochAfter_self]
    exact hm.authorised hv
  | chapTimeout =>
    cases hh
    by_cases hphase : h.session.phase = .authenticate
    · have hd := hv.dormant (by simp [view, hphase, IsNetwork])
      exact (dormant_handleCHAPTimeout env hd).authorised _ _
    · rw [handleCHAPTimeout, if_pos hphase, epochAfter_self]
      exact hv
  | aaaResponse requestID allowed attrs =>
    cases hh
    unfold handleAAAResponse
    split
    · rename_i hpending
      have hd := hv.dormant fun hnet => by
        have hnone := hv.answered hnet
        rw [view, hpending] at hnone
        cases hnone
      cases allowed with
      | true =>
        have hsame : s.host.session.pendingAuthRequestID = h.session.pendingAuthRequestID :=
          congrArg pending hview.symm
        exact absurd (hsame.trans hpending) hnot
      | false => exact (dormant_onAuthResult_reject env attrs hd).authorised _ _
    · rw [epochAfter_self]
      exact hv
  | lacDecision success vppFails =>
    cases hh
    by_cases hphase : h.session.phase = .lacTunnelPending
    · have hd := hv.dormant (by simp [view, hphase, IsNetwork])
      exact (dormant_handleLACDecision env hd success vppFails).authorised _ _
    · rw [handleLACDecision, if_pos hphase, epochAfter_self]
      exact hv
  | lacVPPSessionCreated ok triggerFails =>
    cases hh
    exact authorised_onLACVPPSessionCreated env hv hkeep
  | terminate =>
    cases hh
    exact (dormant_terminate env hv).authorised _ _

theorem authorised_accepts {s : Life K N S Q} (hs : s.Authorised) (hview : h.view = s.host.view)
    (hopened : s.host.view.lcp = .opened) (hacc : s.Accepts e)
    (hh : h.handleEvent env e = some h') :
    h'.view.Authorised (epochAfter s.lcpEpoch s.host.view.lcp h'.view.lcp) (some s.lcpEpoch) := by
  match e, hacc, hh with
  | .aaaResponse requestID true attrs, hacc, hh =>
    have hpending : s.host.view.pending = some requestID := hacc
    have hd : s.host.view.Dormant := Authorised.dormant hs fun hnet => by
      have hnone := hs.answered hnet
      rw [hpending] at hnone
      cases hnone
    rw [← hview] at hpending hd hopened ⊢
    have hawaited : h.session.pendingAuthRequestID = some requestID := hpending
    have hresult : handleAAAResponse env requestID true attrs h = h' := Option.some.inj hh
    rw [handleAAAResponse, if_pos hawaited] at hresult
    rw [← hresult]
    exact authorised_accept env attrs hd hopened

theorem Authorised.next {s s' : Life K N S Q} {i : Input K N S Q} (hs : s.Authorised)
    (hok : s.Undisturbed i) (hn : s.next i = some s') : s'.Authorised := by
  unfold Life.next at hn
  split at hn
  · obtain ⟨h', hh, rfl⟩ := map_eq_some_iff.mp hn
    by_cases hacc : s.Accepts i.event
    · obtain ⟨hopened, hepoch⟩ := hok.1 hacc
      simp only [Authorised, after, if_pos hacc, hepoch]
      exact authorised_accepts (h := s.found i) hs rfl hopened hacc hh
    · simp only [Authorised, after, if_neg hacc]
      exact authorised_handleEvent (h := s.found i) hs rfl rfl hacc hok.2 hh
  · cases hn

omit [DecidableEq Q] in
theorem Initial.authorised {s : Life K N S Q} (hs : s.Initial) : s.Authorised := by
  obtain ⟨env, sessionID, vrf, magic, ipv6cp, registry, rfl⟩ := hs
  have hnew : ((Host.mk (new sessionID vrf magic ipv6cp) registry []).modify
      fun s => { s with phase := .establish } : Host K N S Q).view.Dormant :=
    ⟨rfl, by simp [NCPOpened, Host.view, Host.modify, new, newFsm], by
      simp [Host.view, Host.modify, IsNetwork]⟩
  have hup := (movesLCP_applyLCP env (e := .up) rfl hnew.wantAuth).dormant hnew
  have hopen := (movesLCP_applyLCP env (e := .open) rfl hup.wantAuth).dormant hup
  exact Dormant.authorised hopen _ _

/-- In every undisturbed run, network protocols are open and the session is in
a network phase only while LCP is open and AAA has accepted credentials sent
since LCP last opened. -/
theorem network_only_authenticated {s : Life K N S Q}
    (h : (machine K N S Q).Reach Undisturbed s) : s.NetworkOnlyAuthenticated := by
  have hs : s.Authorised := h.invariant Authorised (fun _ => Initial.authorised)
    fun _ _ _ hs hok hn => Authorised.next hs hok hn
  rintro (hipcp | hipv6cp | hnet)
  · exact hs.link (hs.ncp (.inl hipcp))
  · exact hs.link (hs.ncp (.inr hipv6cp))
  · exact hs.link hnet

def bareLife : Life Nat Nat Nat Nat := ⟨up (bareEnv 7) bareHost, true, 0, 0, none⟩

theorem bareLife_initial : bareLife.Initial :=
  ⟨bareEnv 7, 1, 0, 7, _, bareHost.registry, rfl⟩

def bareInput (event : Event Nat Nat) : Input Nat Nat Nat Nat :=
  ⟨bareEnv 7, bareHost.registry, event⟩

def signIn : List (Input Nat Nat Nat Nat) :=
  [bareInput (.frame protoLCP [1, 1, 0, 4]), bareInput (.frame protoLCP [2, 1, 0, 4]),
    bareInput (.frame protoCHAP [2, 1, 0, 5, 0])]

/-- AAA accepts, and the peer opens IPCP. -/
def acceptance : List (Input Nat Nat Nat Nat) :=
  [bareInput (.aaaResponse 7 true .empty), bareInput (.frame protoIPCP [1, 1, 0, 4]),
    bareInput (.frame protoIPCP [2, 1, 0, 4])]

theorem network_only_authenticated_admitted :
    ∃ s : Life Nat Nat Nat Nat,
      (s.host.session.ipcp.state = .opened ∧ s.host.session.phase = .open) ∧
        s.NetworkOnlyAuthenticated := by
  obtain ⟨s, hs, hopened⟩ : ∃ s : Life Nat Nat Nat Nat,
      (machine Nat Nat Nat Nat).Reach Undisturbed s ∧
      s.host.session.ipcp.state = .opened ∧ s.host.session.phase = .open :=
    exists_reach_of_run bareLife_initial (signIn ++ acceptance) (by decide)
  exact ⟨s, hopened, network_only_authenticated hs⟩

/-- The peer renegotiates LCP while its credentials are being judged. The accept
then starts the network protocols, and the session opens while LCP is not. -/
theorem accept_after_renegotiation :
    ∃ s : Life Nat Nat Nat Nat, (machine Nat Nat Nat Nat).Reach (fun _ _ => True) s ∧
      s.host.session.ipcp.state = .opened ∧ s.host.session.phase = .open ∧
      s.host.session.lcp.state ≠ .opened ∧ ¬s.NetworkOnlyAuthenticated := by
  obtain ⟨s, hs, hipcp, hphase, hlcp⟩ : ∃ s : Life Nat Nat Nat Nat,
      (machine Nat Nat Nat Nat).Reach (fun _ _ => True) s ∧
      s.host.session.ipcp.state = .opened ∧ s.host.session.phase = .open ∧
      s.host.session.lcp.state ≠ .opened :=
    exists_reach_of_run bareLife_initial
      (signIn ++ bareInput (.frame protoLCP [1, 2, 0, 4]) :: acceptance) (by decide)
  exact ⟨s, hs, hipcp, hphase, hlcp, fun h => hlcp (h (.inl hipcp)).1⟩

end Life
end Osvbng.Pppoe

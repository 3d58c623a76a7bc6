import Osvbng.L2tp.Component

/-!
# What a message does to its tunnel

`Advances` is what the handlers of control messages may do to a tunnel: it keeps
its name, its secret and its runner, no new challenge is sent on it, a challenge
is cleared only by a response that verifies, and the tunnel is established only
when none is outstanding. `advances_recv` and `advances_handle` say that each
handler keeps to this.
-/

namespace Osvbng.L2tp.Component.Tunnel
open Option TunnelFSM
open Lib.Slice (Bytes)
variable (env : Env) {t t' t'' : Tunnel} {h : Header} {avps : Body} {ch : Bytes} {f f' : TunnelFSM}
  {body : Body}

/-! ## Histories -/

variable (t)

def submitted : List Body := (t.channel.map Endpoint.submitted).getD []

def received : List Body := (t.channel.map Endpoint.received).getD []

def Challenged (ch : Bytes) : Prop := ∃ body ∈ t.submitted, challengeOf body = some ch

/-- A message of the peer had a response that verifies against the challenge and
the secret of the tunnel. -/
def Answered (ch : Bytes) : Prop :=
  ∃ msg ∈ t.received, ∃ response, findFirst msg 0 avpChallengeResponse = some response ∧
    verifyChallengeResponse (decodeMessageType msg).toUInt8 t.secret ch response.value = .ok ()

variable {t}

theorem Answered.mono (h : t.Answered ch) (hsecret : t'.secret = t.secret)
    (hreceived : ∀ msg ∈ t.received, msg ∈ t'.received) : t'.Answered ch := by
  obtain ⟨msg, hmsg, response, hfind, hverify⟩ := h
  exact ⟨msg, hreceived msg hmsg, response, hfind, by rw [hsecret]; exact hverify⟩

/-! ## Advances -/

structure Advances (t t' : Tunnel) : Prop where
  peerIP : t'.peerIP = t.peerIP
  localID : t'.localID = t.localID
  running : t'.running = t.running
  secret : t'.secret = t.secret
  state : t'.fsm.state = t.fsm.state ∨ t'.fsm.state = .established
  challenged : ∀ ch, t'.Challenged ch ↔ t.Challenged ch
  received : ∀ msg ∈ t.received, msg ∈ t'.received
  outstanding : ∀ ch, t.Challenged ch → t.outstandingChallenge = ch →
    t'.outstandingChallenge = ch ∨ t'.Answered ch
  cleared : t.outstandingChallenge = [] → t'.outstandingChallenge = []
  established : t'.fsm.state = .established →
    t.fsm.state = .established ∨ t'.outstandingChallenge = []

theorem Advances.answered (h : Advances t t') (hch : t.Answered ch) : t'.Answered ch :=
  hch.mono h.secret h.received

theorem Advances.key (h : Advances t t') : t'.key = t.key := by
  rw [Tunnel.key, h.peerIP, h.localID, Tunnel.key]

theorem Advances.trans (h : Advances t t') (h' : Advances t' t'') : Advances t t'' where
  peerIP := h'.peerIP.trans h.peerIP
  localID := h'.localID.trans h.localID
  running := h'.running.trans h.running
  secret := h'.secret.trans h.secret
  state := by
    rcases h'.state with hs | hs
    · rw [hs]
      exact h.state
    · exact .inr hs
  challenged ch := (h'.challenged ch).trans (h.challenged ch)
  received msg hmsg := h'.received msg (h.received msg hmsg)
  outstanding ch hch ho := by
    rcases h.outstanding ch hch ho with ho' | hans
    · exact h'.outstanding ch ((h.challenged ch).mpr hch) ho'
    · exact .inr (h'.answered hans)
  cleared ho := h'.cleared (h.cleared ho)
  established he := by
    rcases h'.established he with he' | ho
    · exact (h.established he').imp id h'.cleared
    · exact .inr ho

/-- What of a tunnel `Advances` speaks about. -/
def core (t : Tunnel) : (Lib.NetIP.IP × UInt16 × Bool) × Bytes × Option (Endpoint Body) × Bytes ×
    TunnelFSM :=
  ((t.peerIP, t.localID, t.running), t.secret, t.channel, t.outstandingChallenge, t.fsm)

theorem advances_of_core (h : t'.core = t.core) : Advances t t' := by
  simp only [core, Prod.mk.injEq] at h
  obtain ⟨⟨hip, hid, hrun⟩, hsecret, hchannel, ho, hfsm⟩ := h
  have hchallenged (ch : Bytes) : t'.Challenged ch ↔ t.Challenged ch := by
    rw [Challenged, Challenged, submitted, submitted, hchannel]
  have hreceived : ∀ msg ∈ t.received, msg ∈ t'.received := by
    intro msg hmsg
    rwa [received, hchannel]
  exact ⟨hip, hid, hrun, hsecret, .inl (by rw [hfsm]), hchallenged, hreceived,
    fun ch _ hch => .inl (ho.trans hch), fun hch => ho.trans hch, fun he => .inl (by rwa [← hfsm])⟩

theorem Advances.refl (t : Tunnel) : Advances t t := advances_of_core rfl

theorem advances_channel {e e' : Endpoint Body} (hchannel : t.channel = some e)
    (hsubmitted : e'.submitted = e.submitted ∨
      ∃ body, challengeOf body = none ∧ e'.submitted = e.submitted ++ [body])
    (hreceived : ∀ msg ∈ e.received, msg ∈ e'.received) :
    Advances t { t with channel := some e' } where
  peerIP := rfl
  localID := rfl
  running := rfl
  secret := rfl
  state := .inl rfl
  challenged ch := by
    simp only [Challenged, submitted, hchannel, map_some, getD_some]
    rcases hsubmitted with hs | ⟨body, hbody, hs⟩
    · rw [hs]
    · rw [hs]
      simp [or_and_right, exists_or, hbody]
  received := by
    simpa [received, hchannel] using hreceived
  outstanding _ _ ho := .inl ho
  cleared := id
  established := .inl

/-! ## The channel -/

theorem advances_sendSession (hbody : challengeOf body = none) (sessionID : UInt16) :
    Advances t (t.sendSession env body sessionID).1 := by
  unfold sendSession
  split
  · exact .refl t
  · rename_i e hchannel
    refine advances_channel hchannel (.inr ⟨body, hbody, ?_⟩) ?_
    · rw [Endpoint.submit, Endpoint.count_submitted]
    · intro msg hmsg
      rwa [Endpoint.submit, Endpoint.count_received]

theorem advances_recv : Advances t (t.recv env h avps).1 := by
  unfold recv
  split
  · exact .refl t
  · rename_i e hchannel
    refine advances_channel hchannel (.inl ?_) ?_
    · rw [Endpoint.dispatch, Endpoint.count_submitted]
    · intro msg hmsg
      rw [Endpoint.dispatch, Endpoint.count_received]
      dsimp only
      split
      · exact List.mem_append_left _ hmsg
      · exact hmsg

theorem mem_received_recv {env : Env} (haccept : (t.recv env h avps).2 = true) (hne : avps ≠ []) :
    (t.recv env h avps).1.channel = none ∨ avps ∈ (t.recv env h avps).1.received := by
  unfold recv at haccept ⊢
  split at haccept
  · rename_i hchannel
    exact .inl hchannel
  · refine .inr ?_
    simp only [received, map_some, getD_some, Endpoint.dispatch, Endpoint.count_received]
    rw [if_pos haccept, if_neg hne]
    simp

/-! ## The handshake -/

/-- The response has been verified, if there was a challenge. -/
theorem advances_answerChallenge {type : MessageType} (htype : decodeMessageType avps = type.code)
    (hmem : t.channel = none ∨ avps ∈ t.received)
    (hok : t.answerChallenge type avps t.outstandingChallenge = .ok t') :
    Advances t t' ∧ t'.outstandingChallenge = [] ∧ t'.fsm = t.fsm := by
  unfold answerChallenge at hok
  split at hok
  · rename_i ho
    cases hok
    exact ⟨.refl t, ho, rfl⟩
  · split at hok
    · cases hok
    · rename_i response hfind
      split at hok
      · cases hok
      · rename_i hverify
        cases hok
        refine ⟨⟨rfl, rfl, rfl, rfl, .inl rfl, fun _ => Iff.rfl, fun _ hmsg => hmsg, ?_,
          fun _ => rfl, .inl⟩, rfl, rfl⟩
        rintro ch hch rfl
        rcases hmem with hnone | hmem
        · obtain ⟨body, hbody, -⟩ := hch
          simp [submitted, hnone] at hbody
        · exact .inr ⟨avps, hmem, response, hfind, by rw [htype]; exact hverify⟩

theorem sessions_answerChallenge {type : MessageType} {outstanding : Bytes}
    (hok : t.answerChallenge type avps outstanding = .ok t') : t'.sessions = t.sessions := by
  unfold answerChallenge at hok
  split at hok
  · cases hok
    rfl
  · split at hok
    · cases hok
    · split at hok
      · cases hok
      · cases hok
        rfl

theorem advances_established {fsm : TunnelFSM} (ho : t.outstandingChallenge = [])
    (hfsm : fsm.state = .established) : Advances t { t with fsm := fsm } :=
  ⟨rfl, rfl, rfl, rfl, .inr hfsm, fun _ => Iff.rfl, fun _ hmsg => hmsg, fun _ _ hch => .inl hch, id,
    fun _ => .inr ho⟩

theorem state_of_recvSCCCN (h : f.recvSCCCN = some f') : f'.state = .established := by
  unfold recvSCCCN at h
  split at h
  · cases h
  · cases h
    rfl

theorem state_of_recvSCCRP (h : f.recvSCCRP = some f') : f'.state = .established := by
  unfold recvSCCRP at h
  split at h
  · cases h
  · cases h
    rfl

theorem core_installTunnelVPP (t : Tunnel) : (t.installTunnelVPP env).1.core = t.core := by
  unfold installTunnelVPP
  repeat' split
  all_goals rfl

theorem sessions_installTunnelVPP (t : Tunnel) :
    (t.installTunnelVPP env).1.sessions = t.sessions := by
  unfold installTunnelVPP
  repeat' split
  all_goals rfl

theorem advances_handleSCCCN (hmem : t.channel = none ∨ avps ∈ t.received) :
    Advances t (t.handleSCCCN env avps t.outstandingChallenge).1 := by
  unfold handleSCCCN
  split
  · exact .refl t
  · rename_i htype
    split
    · exact .refl t
    · rename_i t1 hok
      obtain ⟨hadv, ho, -⟩ := advances_answerChallenge (not_not.mp htype) hmem hok
      split
      · exact hadv
      · rename_i fsm hfsm
        exact (hadv.trans (advances_established ho (state_of_recvSCCCN hfsm))).trans
          (advances_of_core (core_installTunnelVPP env _))

/-! ## Sessions -/

theorem advances_handleICRQ (avps : Body) : Advances t (t.handleICRQ env avps).1 := by
  unfold handleICRQ
  repeat' split
  · exact .refl t
  · exact .refl t
  · exact .refl t
  · exact .refl t
  · dsimp only
    split
    · exact advances_of_core rfl
    · exact advances_of_core rfl

theorem challengeOf_handleICRQ {env : Env} {t1 : Tunnel} {s : Session}
    (h : t.handleICRQ env avps = (t1, .ok (body, s))) : challengeOf body = none := by
  unfold handleICRQ at h
  repeat' split at h
  · cases h
  · cases h
  · cases h
  · cases h
  · dsimp only at h
    split at h
    · cases h
    · cases h
      exact challengeOf_buildICRP _

theorem advances_handleICCN (s : Session) : Advances t (t.handleICCN s avps).1 := by
  unfold handleICCN
  repeat' split
  all_goals exact advances_of_core rfl

theorem advances_openLACSession (req : LACBringUpRequest) (serial : UInt32) :
    Advances t (t.openLACSession env req serial).tunnel := by
  unfold openLACSession
  repeat' split
  · exact .refl t
  · exact .refl t
  · rename_i id _ _ fsm _
    generalize ht1 : t.addSession _ = t1
    have hadv1 : Advances t t1 := advances_of_core (by rw [← ht1]; rfl)
    exact hadv1.trans (advances_sendSession env (challengeOf_buildICRQ id serial) 0)

theorem advances_completeSCCRP (peerResp : Bytes) (pending : Option LACBringUpRequest)
    (serial : UInt32) : Advances t (t.completeSCCRP env peerResp pending serial).tunnel := by
  have hsend := advances_sendSession (t := t) env (challengeOf_buildSCCCN peerResp) 0
  unfold completeSCCRP
  split
  · rename_i t1 e hs
    rw [hs] at hsend
    exact hsend
  · rename_i t1 hs
    rw [hs] at hsend
    have hvpp := advances_of_core (core_installTunnelVPP env t1)
    split
    · rename_i t2 e hv
      rw [hv] at hvpp
      exact hsend.trans hvpp
    · rename_i t2 hv
      rw [hv] at hvpp
      split
      · exact hsend.trans hvpp
      · exact (hsend.trans hvpp).trans (advances_openLACSession env _ serial)

theorem advances_handleSCCRP (hmem : t.channel = none ∨ avps ∈ t.received)
    (pending : Option LACBringUpRequest) (serial : UInt32) :
    Advances t (t.handleSCCRP env avps pending serial).tunnel := by
  unfold handleSCCRP
  split
  · exact .refl t
  · rename_i htype
    split
    · exact .refl t
    · split
      · exact .refl t
      · rename_i peerTunnelID _
        dsimp only
        generalize ht1 : ({ t with
          peerHostname := ((findFirst avps 0 avpHostName).map AVP.value).getD t.peerHostname
          peerID := peerTunnelID } : Tunnel) = t1
        have hadv1 : Advances t t1 := advances_of_core (by rw [← ht1]; rfl)
        have hmem1 : t1.channel = none ∨ avps ∈ t1.received := by
          rw [← ht1]
          exact hmem
        have ho1 : t.outstandingChallenge = t1.outstandingChallenge := by rw [← ht1]
        rw [ho1]
        split
        · exact hadv1
        · rename_i t2 hok
          obtain ⟨hadv2, ho, -⟩ := advances_answerChallenge (not_not.mp htype) hmem1 hok
          split
          · exact hadv1.trans hadv2
          · split
            · exact hadv1.trans hadv2
            · rename_i fsm hfsm
              exact ((hadv1.trans hadv2).trans
                (advances_established ho (state_of_recvSCCRP hfsm))).trans
                (advances_completeSCCRP env _ pending serial)

theorem advances_handleICRP (s : Session) (pending : Option LACBringUpRequest) :
    Advances t (t.handleICRP env s avps pending).tunnel := by
  unfold handleICRP
  split
  · exact .refl t
  · split
    · exact .refl t
    · split
      · exact .refl t
      · rename_i peerID _
        dsimp only
        split
        · exact advances_of_core rfl
        · split
          · exact advances_of_core rfl
          · generalize ht1 : t.setSession _ = t1
            generalize hiccn : buildICCN _ = iccn
            have hadv1 : Advances t t1 := advances_of_core (by rw [← ht1]; rfl)
            have hnone : challengeOf iccn = none := by
              rw [← hiccn]
              exact challengeOf_buildICCN _
            have hsend := advances_sendSession (t := t1) env hnone peerID
            split
            · rename_i t2 e hs
              rw [hs] at hsend
              exact hadv1.trans hsend
            · rename_i t2 hs
              rw [hs] at hsend
              refine (hadv1.trans hsend).trans ?_
              unfold bindLACSession
              repeat' split
              all_goals exact advances_of_core rfl

theorem advances_handle (hmem : t.channel = none ∨ avps ∈ t.received)
    (pending : Option LACBringUpRequest) (serial : UInt32) (msgType : Option MessageType) :
    Advances t (t.handle env h avps pending serial msgType).tunnel := by
  unfold handle
  split
  · exact advances_handleSCCRP env hmem pending serial
  · split
    · exact .refl t
    · exact advances_handleICRP env _ pending
  · exact advances_handleSCCCN env hmem
  · exact .refl t
  · have hicrq := advances_handleICRQ (t := t) env avps
    split
    · rename_i t1 e heq
      rw [heq] at hicrq
      exact hicrq
    · rename_i t1 icrp s heq
      rw [heq] at hicrq
      exact hicrq.trans (advances_sendSession env (challengeOf_handleICRQ heq) s.peerID)
  · split
    · exact .refl t
    · exact advances_handleICCN _
  · split
    · exact .refl t
    · exact advances_of_core rfl
  · exact .refl t

end Osvbng.L2tp.Component.Tunnel

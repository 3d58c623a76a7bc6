import Osvbng.L2tp.Registration

/-!
# Who is let in

A tunnel is established when its peer has answered the challenge it was sent, if it
was sent one; `authentic` says that of every run. Sessions are to be created and
brought up on established tunnels only. No handler looks at the state of the tunnel
when the peer asks for a session: `admitted_step` is for a peer that asks after the
tunnel is established, and `breaches` has runs of a peer that does not wait, with
the challenge unanswered.
-/

namespace Osvbng.L2tp.Component
open Function List Lib Component Option MessageType Component.Tunnel Machine Roster Relation Bool
open Lib.NetIP
open Lib.Slice (Bytes)
variable {c c' : Component} {env : Env} {inp : Input} {i : Nat} {t t' : Tunnel}
  {f : Tunnel → Tunnel} {avps : Body} {h : Header}

/-! ## Authentication -/

namespace Tunnel

/-- A challenge that was sent is outstanding until it is answered, and none is
outstanding on a tunnel that is established. -/
structure Honest (t : Tunnel) : Prop where
  challenged : ∀ ch, t.Challenged ch → ch ≠ [] ∧ (t.outstandingChallenge = ch ∨ t.Answered ch)
  established : t.fsm.state = .established → t.outstandingChallenge = []

def Authentic (t : Tunnel) : Prop :=
  t.fsm.state = .established → ∀ ch, t.Challenged ch → t.Answered ch

theorem Honest.authentic (h : t.Honest) : t.Authentic := by
  intro hstate ch hch
  obtain ⟨hne, ho | hans⟩ := h.challenged ch hch
  · exact absurd (ho.symm.trans (h.established hstate)) hne
  · exact hans

theorem Honest.advances (h : t.Honest) (hadv : t.Advances t') : t'.Honest where
  challenged ch hch := by
    have hbefore := (hadv.challenged ch).mp hch
    obtain ⟨hne, ho | hans⟩ := h.challenged ch hbefore
    · exact ⟨hne, hadv.outstanding ch hbefore ho⟩
    · exact ⟨hne, .inr (hadv.answered hans)⟩
  established hstate := by
    rcases hadv.established hstate with hbefore | ho
    · exact hadv.cleared (h.established hbefore)
    · exact ho

theorem Honest.of_eq (h : t.Honest) (hsecret : t'.secret = t.secret)
    (hsubmitted : t'.submitted = t.submitted) (hreceived : t'.received = t.received)
    (ho : t'.outstandingChallenge = t.outstandingChallenge)
    (hstate : t'.fsm.state = .established → t.fsm.state = .established) : t'.Honest where
  challenged ch hch := by
    rw [Challenged, hsubmitted] at hch
    obtain ⟨hne, hcase⟩ := h.challenged ch hch
    refine ⟨hne, ?_⟩
    rw [ho]
    exact hcase.imp id fun hans => hans.mono hsecret (by simp [hreceived])
  established hs := ho.trans (h.established (hstate hs))

theorem Fresh.honest (h : t.Fresh) : t.Honest where
  challenged ch hch := ⟨(h.challenged ch hch).1, .inl (h.challenged ch hch).2⟩
  established hstate := by
    rcases h.state with hs | hs <;> rw [hs] at hstate <;> cases hstate

end Tunnel

structure Trusted (c : Component) : Prop where
  valid : c.Valid
  honest : ∀ t ∈ c.objects, t.Honest

/-- What happens on a tunnel for which no message is handled. -/
structure Tunnel.Calm (t t' : Tunnel) : Prop where
  sessions : t'.sessions = t.sessions
  honest : t.Honest → t'.Honest

theorem Tunnel.Honest.stopped (h : t.Honest) : Honest { t with running := false } :=
  h.of_eq rfl rfl rfl rfl id

def Quiet (c c' : Component) : Prop :=
  ∀ (j : Nat) (t' : Tunnel), c'.objects[j]? = some t' → ∃ t, c.objects[j]? = some t ∧ t.Calm t'

theorem Quiet.of_eq (h : c'.objects = c.objects) : Quiet c c' :=
  fun _ t' ht' => ⟨t', h ▸ ht', rfl, id⟩

theorem Quiet.modify {c1 : Component} (h : Quiet c c1) (hobjects : c'.objects = c1.objects)
    (hf : ∀ t, c'.objects[i]? = some t → t.Calm (f t)) : Quiet c (c'.modify i f) := by
  intro j t' ht'
  simp only [Component.modify, getElem?_modify] at ht'
  obtain ⟨t1, ht1, heq⟩ := map_eq_some_iff.mp ht'
  obtain ⟨t, ht, hcalm⟩ := h j t1 (hobjects ▸ ht1)
  refine ⟨t, ht, ?_⟩
  split at heq
  · rename_i hij
    subst hij heq
    have hf := hf t1 ht1
    exact ⟨hf.sessions.trans hcalm.sessions, fun ht => hf.honest (hcalm.honest ht)⟩
  · exact heq ▸ hcalm

theorem Quiet.uninstall {c1 : Component} (h : Quiet c c1) (hobjects : c'.objects = c1.objects)
    (env : Env) (i : Nat) : Quiet c (c'.modify i (uninstallTunnelVPP env)) := by
  refine h.modify hobjects fun t _ => ?_
  obtain ⟨installed, heq⟩ := uninstallTunnelVPP_fields env t
  rw [heq]
  exact ⟨rfl, fun ht => ht.of_eq rfl rfl rfl rfl id⟩

theorem Quiet.close (h : Quiet c c') (i : Nat) :
    Quiet c (c'.modify i fun t => { t with fsm := t.fsm.stop }) :=
  h.modify rfl fun _ _ => ⟨rfl, fun ht => ht.of_eq rfl rfl rfl rfl (by simp [TunnelFSM.stop])⟩

theorem Quiet.handleStopCCN (h : Quiet c c') (env : Env) (i : Nat) (t : Tunnel) :
    Quiet c (c'.handleStopCCN env i t) := by
  have hstopped : Quiet c ((c'.modify i fun t => { t with fsm := t.fsm.stop }).stopTunnelRunner
      (makeTunnelKey t.peerIP t.localID)) := by
    unfold stopTunnelRunner
    split
    · exact h.close i
    · exact (h.close i).modify rfl fun _ _ => ⟨rfl, fun ht => ht.stopped⟩
  exact hstopped.uninstall (objects_releaseTunnelID (unregisterTunnel ..) ..) env i

theorem quiet_replace (ht : c.objects[i]? = some t) (hsessions : t'.sessions = t.sessions)
    (hadv : t.Advances t') : Quiet c (c.modify i fun _ => t') := by
  refine (Quiet.of_eq rfl).modify rfl fun t1 ht1 => ?_
  rw [ht, some.injEq] at ht1
  subst ht1
  exact ⟨hsessions, fun hhonest => hhonest.advances hadv⟩

theorem quiet_tick (env : Env) (ht : c.objects[i]? = some t) : Quiet c (c.tick env i t) := by
  unfold tick
  split
  · exact .of_eq rfl
  · rename_i e hchannel
    have hticked : Quiet c (c.modify i fun t =>
        { t with channel := some (e.tick env.now env.sendOk).1 }) := by
      refine (Quiet.of_eq rfl).modify rfl fun t1 ht1 => ⟨rfl, fun hhonest => ?_⟩
      rw [ht, some.injEq] at ht1
      subst ht1
      refine hhonest.advances (advances_channel hchannel (.inl ?_) ?_)
      · rw [Endpoint.tick, Endpoint.count_submitted]
      · intro msg hmsg
        rwa [Endpoint.tick, Endpoint.count_received]
    split
    · exact (hticked.close i).uninstall rfl env i
    · exact hticked

theorem quiet_stop : Quiet c c.stop := by
  intro j t' ht'
  simp only [stop, getElem?_mapIdx] at ht'
  obtain ⟨t, ht, heq⟩ := map_eq_some_iff.mp ht'
  refine ⟨t, ht, ?_⟩
  split at heq
  · exact heq ▸ ⟨rfl, fun ht => ht.stopped⟩
  · exact heq ▸ ⟨rfl, id⟩

theorem openings_objects (h : ReflTransGen (Opening env) c c') :
    ∃ ts, c'.objects = c.objects ++ ts ∧ ∀ t ∈ ts, t.Honest ∧ ∀ id, t.sessions id = none := by
  induction h with
  | refl => exact ⟨[], by simp, by simp⟩
  | tail _ hopening ih =>
    obtain ⟨ts, hts, hnew⟩ := ih
    cases hopening with
    | refused _ _ hobjects => exact ⟨ts, hobjects.trans hts, hnew⟩
    | @opened _ t hopen hfresh =>
      refine ⟨ts ++ [t], by rw [hopen.objects, hts, append_assoc], ?_⟩
      exact forall_mem_append.mpr
        ⟨hnew, forall_mem_singleton.mpr ⟨hfresh.honest, hfresh.sessions⟩⟩
    | @dropped _ _ t _ hfresh _ _ hobjects =>
      refine ⟨ts ++ [{ t with running := false }], by rw [hobjects, hts, append_assoc], ?_⟩
      exact forall_mem_append.mpr
        ⟨hnew, forall_mem_singleton.mpr ⟨hfresh.honest.stopped, hfresh.sessions⟩⟩

/-- A step opens tunnels, handles a message for one of them, or leaves them alone. -/
theorem Step.objects (hstep : Step c inp c') :
    (∃ ts, c'.objects = c.objects ++ ts ∧ ∀ t ∈ ts, t.Honest ∧ ∀ id, t.sessions id = none) ∨
      (∃ src dst body h avps i t t', inp.event = .punt src dst body ∧
        readPacket body = .ok (h, some avps) ∧ c.lookupTunnel src h.tunnelID = some (i, t) ∧
        Handled inp.env h avps t t' ∧ c'.objects = c.objects.modify i fun _ => t') ∨
      Quiet c c' := by
  cases hstep with
  | idle _ _ hobjects => exact .inr (.inr (.of_eq hobjects))
  | openings hopenings => exact .inl (openings_objects hopenings)
  | message hevent hread hlookup hh _ _ _ hobjects =>
    exact .inr (.inl ⟨_, _, _, _, _, _, _, _, hevent, hread, hlookup, hh, hobjects⟩)
  | @stopCCN src hdr avps i t hlookup =>
    obtain ⟨channel, heq⟩ := recv_fields inp.env t hdr avps
    have hadv : t.Advances (t.recv inp.env hdr avps).1 := advances_recv inp.env
    have hrecv := quiet_replace (lookupTunnel_eq_some hlookup).2 (by rw [heq]) hadv
    exact .inr (.inr (hrecv.handleStopCCN inp.env _ _))
  | tick _ ht => exact .inr (.inr (quiet_tick inp.env ht))
  | hello n =>
    refine .inr (.inr ((Quiet.of_eq rfl).modify rfl fun t _ => ⟨?_, fun ht => ?_⟩))
    · obtain ⟨channel, heq⟩ := sendSession_fields inp.env t buildHello 0
      rw [heq]
    · exact ht.advances (advances_sendSession inp.env rfl 0)
  | stop _ => exact .inr (.inr quiet_stop)

theorem Step.valid (hvalid : c.Valid) (hstep : Step c inp c') : c'.Valid := by
  cases hstep with
  | idle hvalid _ _ | message _ _ _ _ hvalid _ _ _ => exact hvalid
  | openings hopenings =>
    induction hopenings with
    | refl => exact hvalid
    | tail _ hopening _ => exact hopening.valid
  | stopCCN =>
    exact valid_removeTunnel (c := Component.modify (Component.modify ..) ..) hvalid _ _
  | tick =>
    unfold Component.tick
    split
    · exact hvalid
    · split
      · exact hvalid
      · exact hvalid
  | hello | stop => exact hvalid

theorem Trusted.step (h : c.Trusted) (hstep : Step c inp c') : c'.Trusted := by
  refine ⟨hstep.valid h.valid, ?_⟩
  intro t' ht'
  obtain ⟨j, hj⟩ := mem_iff_getElem?.mp ht'
  rcases hstep.objects with ⟨ts, hobjects, hnew⟩ | hmessage | hquiet
  · rw [hobjects] at ht'
    exact (mem_append.mp ht').elim (h.honest t') fun hnewt => (hnew t' hnewt).1
  · obtain ⟨_, _, _, _, _, i, t, t1, -, -, hlookup, hh, hobjects⟩ := hmessage
    have ht := (lookupTunnel_eq_some hlookup).2
    rw [hobjects, getElem?_modify, Option.map_eq_map, Option.map_eq_some_iff] at hj
    obtain ⟨t0, ht0, heq⟩ := hj
    split at heq
    · exact heq ▸ (h.honest t (mem_of_getElem? ht)).advances hh.advances
    · exact heq ▸ h.honest t0 (mem_of_getElem? ht0)
  · obtain ⟨t, ht, hcalm⟩ := hquiet j t' hj
    exact hcalm.honest (h.honest t (mem_of_getElem? ht))

theorem trusted_of_reach (h : machine.Reach (fun _ _ => True) c) : c.Trusted := by
  refine h.invariant Trusted ?_ ?_
  · rintro _ rfl
    exact ⟨sound_new.valid, by simp [new]⟩
  · intro c inp c' hc _ hnext
    exact hc.step (step_next hc.valid hnext)

/-! ## Sessions -/

/-- Sessions of a tunnel that is not established change by a request of the peer, or
when there already are some. -/
theorem Tunnel.handle_sessions (env : Env) (t : Tunnel) (h : Header) (avps : Body)
    (pending : Option LACBringUpRequest) (serial : UInt32) (msgType : Option MessageType) :
    (t.handle env h avps pending serial msgType).tunnel.fsm.state = .established ∨
      (t.handle env h avps pending serial msgType).tunnel.sessions = t.sessions ∨
      msgType = some .icrq ∨ ∃ id s, t.sessions id = some s := by
  unfold handle
  split
  · unfold handleSCCRP
    split
    · exact .inr (.inl rfl)
    · split
      · exact .inr (.inl rfl)
      · split
        · exact .inr (.inl rfl)
        · dsimp only
          split
          · exact .inr (.inl rfl)
          · rename_i t2 hok
            have hsessions : t2.sessions = t.sessions := (sessions_answerChallenge hok).trans rfl
            split
            · exact .inr (.inl hsessions)
            · split
              · exact .inr (.inl hsessions)
              · rename_i peerResp _ _ fsm hfsm
                -- Everything after the transition keeps the state.
                refine .inl ?_
                have hadv := advances_completeSCCRP (t := { t2 with fsm := fsm }) env peerResp
                  pending serial
                rcases hadv.state with hs | hs
                · exact hs.trans (state_of_recvSCCRP hfsm)
                · exact hs
  · split
    · exact .inr (.inl rfl)
    · rename_i s hs
      exact .inr (.inr (.inr ⟨_, s, hs⟩))
  · refine .inr (.inl ?_)
    dsimp only [Outcome.of]
    unfold handleSCCCN
    split
    · rfl
    · split
      · rfl
      · rename_i t2 hok
        have hsessions : t2.sessions = t.sessions := sessions_answerChallenge hok
        split
        · exact hsessions
        · rw [sessions_installTunnelVPP]
          exact hsessions
  · exact .inr (.inl rfl)
  · exact .inr (.inr (.inl rfl))
  · split
    · exact .inr (.inl rfl)
    · rename_i s hs
      exact .inr (.inr (.inr ⟨_, s, hs⟩))
  · split
    · exact .inr (.inl rfl)
    · rename_i s hs
      exact .inr (.inr (.inr ⟨_, s, hs⟩))
  · exact .inr (.inl rfl)

def Tunnel.Settled (t : Tunnel) : Prop :=
  ∀ id s, t.sessions id = some s → t.fsm.state = .established

/-- A registration leads to a tunnel of that name, whose sessions are settled. -/
structure Placed (c : Component) : Prop where
  valid : c.Valid
  registered : ∀ k i, c.tunnels k = some i → ∃ t, c.objects[i]? = some t ∧ t.key = k ∧ t.Settled

theorem Placed.of_eq (h : c.Placed) (hvalid : c'.Valid) (htunnels : c'.tunnels = c.tunnels)
    (hobjects : c'.objects = c.objects) : c'.Placed :=
  ⟨hvalid, by rw [htunnels, hobjects]; exact h.registered⟩

theorem Placed.modify (h : c.Placed)
    (hf : ∀ t, c.objects[i]? = some t → (f t).key = t.key ∧ (t.Settled → (f t).Settled)) :
    (c.modify i f).Placed := by
  refine ⟨h.valid, ?_⟩
  intro k j hk
  obtain ⟨t, ht, hkey, hsettled⟩ := h.registered k j hk
  simp only [Component.modify, getElem?_modify, ht]
  by_cases hij : i = j
  · subst hij
    obtain ⟨hkey', hsettled'⟩ := hf t ht
    exact ⟨f t, by simp, hkey'.trans hkey, hsettled' hsettled⟩
  · exact ⟨t, by simp [hij], hkey, hsettled⟩

theorem Placed.retire (h : c.Placed) (ht : c.objects[i]? = some t) (f : Tunnel → Tunnel) :
    ((c.modify i f).unregisterTunnel t.key).Placed := by
  refine ⟨h.valid, ?_⟩
  intro k j hk
  simp only [unregisterTunnel, Component.modify, update_apply] at hk ⊢
  split at hk
  · cases hk
  · rename_i hne
    obtain ⟨t1, ht1, hkey, hsettled⟩ := h.registered k j hk
    have hij : i ≠ j := by
      rintro rfl
      rw [ht, some.injEq] at ht1
      subst ht1
      exact hne hkey.symm
    exact ⟨t1, by rw [getElem?_modify, ht1]; simp [hij], hkey, hsettled⟩

theorem Placed.append (h : c.Placed) {ts : List Tunnel} (hvalid : c'.Valid)
    (hobjects : c'.objects = c.objects ++ ts)
    (htunnels : ∀ k j, c'.tunnels k = some j → c.tunnels k = some j ∨
      ∃ t, c'.objects[j]? = some t ∧ t.key = k ∧ t.Settled) : c'.Placed := by
  refine ⟨hvalid, ?_⟩
  intro k j hk
  rcases htunnels k j hk with hold | hnew
  · obtain ⟨t, ht, hkey, hsettled⟩ := h.registered k j hold
    refine ⟨t, ?_, hkey, hsettled⟩
    rw [hobjects, List.getElem?_append_left (List.getElem?_eq_some_iff.mp ht).1]
    exact ht
  · exact hnew

theorem Tunnel.Fresh.settled (h : t.Fresh) : t.Settled := by
  intro id s hs
  rw [h.sessions id] at hs
  cases hs

theorem Placed.opening (h : c.Placed) (hopening : Opening env c c') : c'.Placed := by
  cases hopening with
  | refused hvalid hroster hobjects =>
    exact h.of_eq hvalid (congrArg entries hroster) hobjects
  | @opened _ t hopen hfresh =>
    refine h.append hopen.valid hopen.objects fun k j hk => ?_
    rw [hopen.tunnels, update_apply] at hk
    split at hk
    · rename_i hkey
      rw [some.injEq] at hk
      subst hk
      exact .inr ⟨t, hopen.getElem?, hkey.symm, hfresh.settled⟩
    · exact .inl hk
  | @dropped c1 _ t hopen hfresh hvalid hroster hobjects =>
    refine h.append hvalid hobjects fun k j hk => .inl ?_
    have htunnels : c'.tunnels = update c1.tunnels t.key none :=
      congrArg entries hroster
    rw [htunnels, hopen.tunnels, update_idem, update_apply] at hk
    split at hk
    · cases hk
    · exact hk

theorem Placed.openings (h : c.Placed)
    (hopenings : ReflTransGen (Opening env) c c') : c'.Placed := by
  induction hopenings with
  | refl => exact h
  | tail _ hopening ih => exact ih.opening hopening

theorem Placed.uninstall (h : c.Placed) (env : Env) (i : Nat) :
    (c.modify i (uninstallTunnelVPP env)).Placed := by
  refine h.modify fun t _ => ?_
  obtain ⟨installed, heq⟩ := uninstallTunnelVPP_fields env t
  rw [heq]
  exact ⟨rfl, id⟩

theorem unregisterTunnel_stopTunnelRunner (c : Component) (k k' : TunnelKey) :
    (c.stopTunnelRunner k).unregisterTunnel k' = (c.unregisterTunnel k').stopTunnelRunner k := by
  unfold stopTunnelRunner unregisterTunnel
  split <;> simp only [*, modify]

theorem Placed.stopTunnelRunner (h : c.Placed) (k : TunnelKey) : (c.stopTunnelRunner k).Placed := by
  unfold Component.stopTunnelRunner
  split
  · exact h
  · have hrunners : Placed { c with runners := update c.runners k none } :=
      h.of_eq h.valid rfl rfl
    exact hrunners.modify fun _ _ => ⟨rfl, id⟩

theorem Placed.releaseTunnelID (h : c.Placed) (ip : IP) (id : UInt16) :
    (c.releaseTunnelID ip id).Placed := by
  refine h.of_eq (valid_releaseTunnelID h.valid ip id) ?_ (objects_releaseTunnelID c ip id)
  unfold Component.releaseTunnelID
  split <;> rfl

theorem Placed.handleStopCCN (h : c.Placed) (env : Env) (ht : c.objects[i]? = some t) :
    (c.handleStopCCN env i t).Placed := by
  unfold Component.handleStopCCN Component.removeTunnel
  dsimp only
  rw [unregisterTunnel_stopTunnelRunner]
  exact (((h.retire ht _).stopTunnelRunner _).releaseTunnelID _ _).uninstall env i

theorem Placed.tick (h : c.Placed) (env : Env) (ht : c.objects[i]? = some t) :
    (c.tick env i t).Placed := by
  unfold Component.tick
  split
  · exact h
  · rename_i e hchannel
    have hticked : (c.modify i fun t =>
        { t with channel := some (e.tick env.now env.sendOk).1 }).Placed :=
      h.modify fun _ _ => ⟨rfl, id⟩
    split
    · have hobject : (c.modify i fun t =>
          { t with channel := some (e.tick env.now env.sendOk).1 }).objects[i]? =
          some { t with channel := some (e.tick env.now env.sendOk).1 } := by
        rw [Component.modify, getElem?_modify, ht]
        simp
      exact (hticked.retire hobject _).uninstall env i
    · exact hticked

/-! ### Messages -/

/-- The tunnel that a message is for which asks for a session. -/
def tunnelOfICRQ (c : Component) (inp : Input) : Option Tunnel :=
  match inp.event with
  | .punt src _ body =>
    match readPacket body with
    | .ok (h, some avps) =>
      if ofCode (decodeMessageType avps) = some .icrq then
        (c.lookupTunnel src h.tunnelID).map Prod.snd
      else none
    | _ => none
  | _ => none

/-- The peer asks for sessions after the tunnel is established. -/
def Patient (c : Component) (inp : Input) : Prop :=
  ∀ t ∈ c.tunnelOfICRQ inp, t.fsm.state = .established
deriving Decidable

/-- A message changes the sessions of established tunnels only. -/
theorem Handled.sessions (hsettled : t.Settled)
    (hicrq : ofCode (decodeMessageType avps) = some .icrq → t.fsm.state = .established)
    (hh : Handled env h avps t t') : t'.sessions = t.sessions ∨ t'.fsm.state = .established := by
  have hkeep : t.fsm.state = .established → t'.fsm.state = .established := by
    intro hstate
    rcases hh.advances.state with hs | hs
    · exact hs.trans hstate
    · exact hs
  obtain ⟨channel, heq⟩ := recv_fields env t h avps
  cases hh with
  | recv => exact .inl (by rw [heq])
  | handle _ _ pending serial =>
    rcases handle_sessions env (t.recv env h avps).1 h avps pending serial
      (ofCode (decodeMessageType avps)) with hs | hs | hs | ⟨id, s, hs⟩
    · exact .inr hs
    · exact .inl (hs.trans (by rw [heq]))
    · exact .inr (hkeep (hicrq hs))
    · rw [heq] at hs
      exact .inr (hkeep (hsettled id s hs))

theorem Handled.settled (hsettled : t.Settled)
    (hicrq : ofCode (decodeMessageType avps) = some .icrq → t.fsm.state = .established)
    (hh : Handled env h avps t t') : t'.Settled := by
  intro id s hs
  rcases hh.sessions hsettled hicrq with hsame | hstate
  · rw [hsame] at hs
    rcases hh.advances.state with hst | hst
    · exact hst.trans (hsettled id s hs)
    · exact hst
  · exact hstate

theorem Patient.established {src dst : IP} {body : Bytes}
    (hpatient : c.Patient inp) (hevent : inp.event = .punt src dst body)
    (hread : readPacket body = .ok (h, some avps))
    (hlookup : c.lookupTunnel src h.tunnelID = some (i, t))
    (hicrq : ofCode (decodeMessageType avps) = some .icrq) :
    t.fsm.state = .established :=
  hpatient t (by simp [tunnelOfICRQ, hevent, hread, hicrq, hlookup])

theorem Placed.step (h : c.Placed) (hpatient : c.Patient inp) (hstep : Step c inp c') :
    c'.Placed := by
  cases hstep with
  | idle hvalid hroster hobjects =>
    exact h.of_eq hvalid (congrArg entries hroster) hobjects
  | openings hopenings => exact h.openings hopenings
  | @message _ src dst body hdr avps i t t' hevent hread hlookup hh hvalid htunnels _ hobjects =>
    obtain ⟨-, ht⟩ := lookupTunnel_eq_some hlookup
    have hreplaced : (c.modify i fun _ => t').Placed := by
      refine h.modify fun t1 ht1 => ?_
      rw [ht, some.injEq] at ht1
      subst ht1
      exact ⟨hh.advances.key, fun hsettled =>
        hh.settled hsettled (hpatient.established hevent hread hlookup)⟩
    exact hreplaced.of_eq hvalid htunnels hobjects
  | @stopCCN src hdr avps i t hlookup =>
    obtain ⟨-, ht⟩ := lookupTunnel_eq_some hlookup
    obtain ⟨channel, heq⟩ := recv_fields inp.env t hdr avps
    have hreplaced : (c.modify i fun _ => (t.recv inp.env hdr avps).1).Placed := by
      refine h.modify fun t1 ht1 => ?_
      rw [ht, some.injEq] at ht1
      subst ht1
      rw [heq]
      exact ⟨rfl, id⟩
    refine hreplaced.handleStopCCN inp.env ?_
    rw [Component.modify, getElem?_modify, ht]
    simp
  | tick _ ht => exact h.tick inp.env ht
  | hello n =>
    refine h.modify fun t _ => ?_
    obtain ⟨channel, heq⟩ := sendSession_fields inp.env t buildHello 0
    rw [heq]
    exact ⟨rfl, id⟩
  | stop _ => exact ⟨h.valid, fun k i hk => by cases hk⟩

theorem placed_of_patient (h : machine.Reach Patient c) : c.Placed := by
  refine h.invariant Placed ?_ ?_
  · rintro _ rfl
    exact ⟨sound_new.valid, nofun⟩
  · intro c inp c' hc hpatient hnext
    exact hc.step hpatient (step_next hc.valid hnext)

/-! ## What a step admits -/

/-- A session on a tunnel that is not established was there before, and is not
brought up now. -/
def Admitted (c c' : Component) : Prop :=
  ∀ (i : Nat) (t' : Tunnel) (id : UInt16) (s' : Session),
    c'.objects[i]? = some t' → t'.sessions id = some s' →
      t'.fsm.state = .established ∨ ∃ t s, c.objects[i]? = some t ∧ t.sessions id = some s ∧
        (s'.fsm.state = .established → s.fsm.state = .established)

theorem admitted_of_sessions (h : ∀ (i : Nat) (t' : Tunnel), c'.objects[i]? = some t' →
      (∀ id, t'.sessions id = none) ∨ ∃ t, c.objects[i]? = some t ∧
        (t'.sessions = t.sessions ∨ t'.fsm.state = .established)) : Admitted c c' := by
  intro i t' n s' ht' hs'
  rcases h i t' ht' with hnone | ⟨t, ht, hsame | hstate⟩
  · rw [hnone n] at hs'
    cases hs'
  · exact .inr ⟨t, s', ht, hsame ▸ hs', id⟩
  · exact .inl hstate

theorem admitted_step (h : c.Placed) (hpatient : c.Patient inp) (hstep : Step c inp c') :
    Admitted c c' := by
  refine admitted_of_sessions fun j t' ht' => ?_
  rcases hstep.objects with ⟨ts, hobjects, hnew⟩ | hmessage | hquiet
  · rw [hobjects, getElem?_append] at ht'
    split at ht'
    · exact .inr ⟨t', ht', .inl rfl⟩
    · exact .inl (hnew t' (mem_of_getElem? ht')).2
  · obtain ⟨src, dst, body, hdr, avps, i, t, t1, hevent, hread, hlookup, hh, hobjects⟩ := hmessage
    obtain ⟨hentry, ht⟩ := lookupTunnel_eq_some hlookup
    obtain ⟨t2, ht2, -, hsettled⟩ := h.registered _ i hentry
    rw [ht, Option.some.injEq] at ht2
    subst ht2
    rw [hobjects, getElem?_modify, Option.map_eq_map, Option.map_eq_some_iff] at ht'
    obtain ⟨t0, ht0, heq⟩ := ht'
    refine .inr ⟨t0, ht0, ?_⟩
    split at heq
    · rename_i hij
      subst hij heq
      rw [ht, Option.some.injEq] at ht0
      subst ht0
      exact hh.sessions hsettled (hpatient.established hevent hread hlookup)
    · exact .inl (by rw [← heq])
  · obtain ⟨t, ht, hcalm⟩ := hquiet j t' ht'
    exact .inr ⟨t, ht, .inl hcalm.sessions⟩

/-- In every run, a tunnel that is established has had its challenges answered. If
the peer asks for sessions after its tunnel is established, sessions are created and
brought up on established tunnels only. -/
theorem admission (hnext : next c inp = some c') :
    (machine.Reach (fun _ _ => True) c → ∀ t ∈ c'.objects, t.Authentic) ∧
      (machine.Reach Patient c → c.Patient inp → Admitted c c') := by
  constructor
  · intro hreach t ht
    have htrusted := trusted_of_reach (hreach.step trivial hnext)
    exact (htrusted.honest t ht).authentic
  · intro hreach hpatient
    have hplaced := placed_of_patient hreach
    exact admitted_step hplaced hpatient (step_next hplaced.valid hnext)

/-! ## Sample runs -/

def secretConfig : LNSConfig := ⟨[108], [], 16, [115], true, 2⟩

def challengedSCCRQ : Input := punted secretConfig 0 0 0 (buildSCCRQ ⟨9, 16, [97], [], [1]⟩)

def answeredSCCCN : Input :=
  punted secretConfig 1 0 1 (buildSCCCN
    (computeChallengeResponse scccn.code.toUInt8 [115] (replicate 16 7)))

def icrq (ns : UInt16) : Input := punted secretConfig 1 0 ns (buildICRQ 5 1)

def iccn (ns : UInt16) : Input :=
  punted secretConfig 1 1 ns (buildICCN ⟨0, framingSync, [], [], 0, [], [], []⟩)

def firstStates (c : Component) : Option (TunnelState × Option SessionState) :=
  (c.objects[0]?).map fun t => (t.fsm.state, (t.sessions 1).map (·.fsm.state))

/-- The peer answers the challenge, asks for a session and brings it up. -/
theorem admission_answered :
    ∃ c c', machine.Reach Patient c ∧ c.Patient (iccn 3) ∧ next c (iccn 3) = some c' ∧
      c.firstStates = some (.established, some .waitReply) ∧
      c'.firstStates = some (.established, some .established) ∧
      (∀ t ∈ c'.objects, t.Authentic) ∧ Admitted c c' := by
  obtain ⟨c, hreach, hbefore, hpatient, c', hnext, hafter⟩ : ∃ c, machine.Reach Patient c ∧
      c.firstStates = some (.established, some .waitReply) ∧ c.Patient (iccn 3) ∧
      ∃ c' ∈ next c (iccn 3), c'.firstStates = some (.established, some .established) :=
    exists_reach_of_run initial_new
      [⟨.start, openEnv 0 secretConfig⟩, challengedSCCRQ, answeredSCCCN, icrq 2] (by decide +kernel)
  have hadmit := admission hnext
  exact ⟨c, c', hreach, hpatient, hnext, hbefore, hafter,
    hadmit.1 (hreach.mono fun _ _ _ => trivial), hadmit.2 hreach hpatient⟩

/-- A session of the first tunnel is created or brought up although the tunnel is not
established. -/
def breached (c c' : Component) : Bool :=
  (c'.objects[0]?).any fun t' => t'.fsm.state != .established && (t'.sessions 1).any fun s' =>
    match (c.objects[0]?).bind (·.sessions 1) with
    | none => true
    | some s => decide (s'.fsm.state = .established) && decide (s.fsm.state ≠ .established)

theorem not_admitted_of_breached (h : breached c c' = true) : ¬ Admitted c c' := by
  intro hadmit
  obtain ⟨t', ht', hcheck⟩ := (Option.any_eq_true _ _).mp h
  rw [and_eq_true, bne_iff_ne, Option.any_eq_true] at hcheck
  obtain ⟨hstate, s', hs', hold⟩ := hcheck
  rcases hadmit 0 t' 1 s' ht' hs' with hest | ⟨t, s, ht, hs, hup⟩
  · exact hstate hest
  · simp only [ht, Option.bind_some, hs, and_eq_true, decide_eq_true_eq] at hold
    exact hold.2 (hup hold.1)

/-- Runs with their last message: the peer asks for a session, and brings it up, before
it has answered the challenge. -/
def impatient : List (List Input × Input) :=
  [([⟨.start, openEnv 0 secretConfig⟩, challengedSCCRQ], icrq 1),
    ([⟨.start, openEnv 0 secretConfig⟩, challengedSCCRQ, icrq 1], iccn 2)]

theorem breaches :
    impatient.Forall fun run =>
      ∃ c c', Machine.run next (fun _ _ => True) new run.1 = some c ∧
        machine.Reach (fun _ _ => True) c ∧ next c run.2 = some c' ∧ ¬ Admitted c c' := by
  simp only [exists_and_left]
  refine forall_exists_run initial_new _ (fun run c => ∃ c' ∈ next c run.2, breached c c')
    (by decide +kernel) ?_
  rintro run c hreach ⟨c', hnext, hbreached⟩
  exact ⟨hreach, c', hnext, not_admitted_of_breached hbreached⟩

end Osvbng.L2tp.Component

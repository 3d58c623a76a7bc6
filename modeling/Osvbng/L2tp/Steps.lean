import Osvbng.L2tp.Handlers
import Osvbng.Lib.Roster

/-!
# The steps of the component

`Step` says what an input can do to the component: it opens tunnels, hands a
message to the handler of a tunnel, takes a tunnel out, or lets a timer run.
`step_next` derives it from the handlers once, and the invariants of the
component follow from it.

The registrations, the ids in use and the runners of tunnels are the tables of a
`Roster`.
-/

namespace Osvbng.L2tp.Component
open Function Option List Lib Component Component.Tunnel Roster IDAllocator Relation
open Lib.NetIP
open Lib.Slice (Bytes)
variable {c c' : Component} {env : Env} {i : Nat} {t : Tunnel} {id : UInt16} {c1 : Component}
  {ip : IP} {t' : Tunnel} {avps : Body} {inp : Input} {h : Header}

/-! ## The tables -/

variable (c)

def inUse (k : TunnelKey) : Bool := (c.tunnelIDs k.peerIP).any (·.inUse k.id)

def roster : Roster TunnelKey where
  objects := c.objects.map fun t => (t.key, t.running)
  entries := c.tunnels
  workers := c.runners
  reserved := c.inUse

def Valid : Prop := ∀ ip a, c.tunnelIDs ip = some a → a.Valid

variable {c}

theorem roster_modify {f : Tunnel → Tunnel}
    (hf : ∀ t, c.objects[i]? = some t → (f t).key = t.key ∧ (f t).running = t.running) :
    (c.modify i f).roster = c.roster := by
  refine Roster.ext ?_ rfl rfl rfl
  apply ext_getElem?
  intro j
  simp only [roster, modify, getElem?_map, getElem?_modify]
  by_cases hij : i = j
  · subst hij
    cases ht : c.objects[i]? with
    | none => rfl
    | some t => simp [hf t ht]
  · simp [hij]

theorem inUse_update (c : Component) (ip : Option Addr) (a : IDAllocator) (k : TunnelKey) :
    inUse { c with tunnelIDs := update c.tunnelIDs ip (some a) } k =
      if k.peerIP = ip then a.inUse k.id else c.inUse k := by
  unfold inUse
  by_cases hk : k.peerIP = ip
  · subst hk
    rw [if_pos rfl]
    dsimp only
    rw [update_self, any_some]
  · rw [if_neg hk]
    dsimp only
    rw [update_of_ne hk]

theorem inUse_mark (c : Component) {a a' : IDAllocator} {b : Bool}
    (ha : ∀ n, c.inUse ⟨canon ip, n⟩ = a.inUse n) (hmark : a'.inUse = update a.inUse id b) :
    inUse { c with tunnelIDs := update c.tunnelIDs (canon ip) (some a') } =
      update c.inUse (makeTunnelKey ip id) b := by
  ext k
  rw [inUse_update, hmark]
  obtain ⟨peer, n⟩ := k
  by_cases hpeer : peer = canon ip
  · subst hpeer
    rw [if_pos rfl]
    by_cases hn : n = id
    · subst hn
      rw [update_self]
      exact (update_self (makeTunnelKey ip n) b c.inUse).symm
    · rw [update_of_ne hn, update_of_ne (by simp [makeTunnelKey, hn]), ha]
  · rw [if_neg hpeer, update_of_ne (by simp [makeTunnelKey, hpeer])]

theorem valid_update (h : c.Valid) {a : IDAllocator} (ha : a.Valid) (ip : Option Addr) :
    Valid { c with tunnelIDs := update c.tunnelIDs ip (some a) } := by
  intro ip' a' ha'
  obtain ⟨-, ⟨⟩⟩ | ⟨-, ha'⟩ := update_cases ha'
  · exact ha
  · exact h ip' a' ha'

theorem allocateTunnelID_spec (h : c.Valid) (ip : IP) :
    (c.allocateTunnelID ip).1.Valid ∧
    (c.allocateTunnelID ip).1.objects = c.objects ∧
    ((c.allocateTunnelID ip).2 = none → (c.allocateTunnelID ip).1.roster = c.roster) ∧
    ∀ id, (c.allocateTunnelID ip).2 = some id → id ≠ 0 ∧ c.inUse (makeTunnelKey ip id) = false ∧
      (c.allocateTunnelID ip).1.roster = { c.roster with
        reserved := update c.inUse (makeTunnelKey ip id) true } := by
  generalize ha : (c.tunnelIDs (canon ip)).getD newIDAllocator = a
  have hvalid : a.Valid := by
    rw [← ha]
    cases hip : c.tunnelIDs (canon ip) with
    | none => exact valid_new
    | some a' => exact h _ _ hip
  have huse (n : UInt16) : c.inUse ⟨canon ip, n⟩ = a.inUse n := by
    rw [← ha, inUse]
    cases c.tunnelIDs (canon ip) with
    | none | some => rfl
  have htakes := allocate_spec hvalid
  unfold allocateTunnelID
  rw [ha]
  refine ⟨valid_update h htakes.valid _, rfl, fun hnone => ?_, fun id hid => ?_⟩
  · refine Roster.ext rfl rfl rfl ?_
    ext k
    change inUse _ k = c.inUse k
    rw [inUse_update, htakes.none hnone]
    split
    · rename_i hk
      rw [← huse, ← hk]
    · rfl
  · obtain ⟨hne, hfree, hmark⟩ := htakes.some id hid
    exact ⟨hne, (huse id).trans hfree, Roster.ext rfl rfl rfl (inUse_mark c huse hmark)⟩

theorem valid_releaseTunnelID (h : c.Valid) (ip : IP) (id : UInt16) :
    (c.releaseTunnelID ip id).Valid := by
  unfold releaseTunnelID
  split
  · exact h
  · rename_i a ha
    exact valid_update h (release_valid (h _ _ ha) id) _

theorem roster_releaseTunnelID (c : Component) (ip : IP) (hid : id ≠ 0) :
    (c.releaseTunnelID ip id).roster = { c.roster with
      reserved := update c.inUse (makeTunnelKey ip id) false } := by
  unfold releaseTunnelID
  split
  · rename_i hnone
    have hfree : c.inUse (makeTunnelKey ip id) = false := by
      rw [inUse, makeTunnelKey, hnone, any_none]
    rw [← hfree, update_eq_self]
    rfl
  · rename_i a ha
    refine Roster.ext rfl rfl rfl ?_
    refine inUse_mark c (a := a) (fun n => ?_) (release_inUse a hid)
    rw [inUse, ha, any_some]

theorem roster_release_allocated (h : c.Valid) (halloc : c.allocateTunnelID ip = (c1, some id)) :
    (c1.releaseTunnelID ip id).roster = c.roster := by
  obtain ⟨-, -, -, hsome⟩ := allocateTunnelID_spec h ip
  rw [halloc] at hsome
  obtain ⟨hid, hfree, hroster⟩ := hsome id rfl
  have huse : c1.inUse = update c.inUse (makeTunnelKey ip id) true :=
    congrArg reserved hroster
  have hsame : update c1.inUse (makeTunnelKey ip id) false = c.inUse := by
    rw [huse, update_idem, ← hfree, update_eq_self]
  rw [roster_releaseTunnelID c1 ip hid, hroster, hsame]
  rfl

theorem objects_releaseTunnelID (c : Component) (ip : IP) (id : UInt16) :
    (c.releaseTunnelID ip id).objects = c.objects := by
  unfold releaseTunnelID
  split <;> rfl

theorem roster_removeTunnel (c : Component) (ip : IP) (hid : id ≠ 0) :
    (c.removeTunnel ip id).roster = c.roster.drop (makeTunnelKey ip id) := by
  unfold removeTunnel
  rw [roster_releaseTunnelID _ ip hid]
  unfold stopTunnelRunner Roster.drop
  cases hw : c.runners (makeTunnelKey ip id) with
  | none =>
    refine Roster.ext ?_ rfl ?_ rfl
    · simp only [roster, unregisterTunnel, hw, elim_none]
    · simp only [roster, unregisterTunnel]
      rw [← hw, update_eq_self]
  | some j =>
    refine Roster.ext ?_ rfl rfl rfl
    simp only [roster, unregisterTunnel, modify, hw, elim_some]
    apply ext_getElem?
    intro n
    by_cases hjn : j = n
    · simp [hjn, comp_def, key]
    · simp [hjn]

theorem valid_removeTunnel (h : c.Valid) (ip : IP) (id : UInt16) :
    (c.removeTunnel ip id).Valid := by
  have hstop : (c.stopTunnelRunner (makeTunnelKey ip id)).tunnelIDs = c.tunnelIDs := by
    unfold stopTunnelRunner
    split <;> rfl
  apply valid_releaseTunnelID
  intro ip' a ha
  exact h ip' a (by rw [← hstop]; exact ha)

/-! ## New tunnels -/

theorem modify_concat {X : Type} (l : List X) (x : X) (f : X → X) :
    (l ++ [x]).modify l.length f = l ++ [f x] := by
  rw [modify_eq_take_cons_drop (by simp)]
  simp

structure Tunnel.Fresh (t : Tunnel) : Prop where
  state : t.fsm.state = .waitCtlReply ∨ t.fsm.state = .waitCtlConn
  sessions : ∀ id, t.sessions id = none
  challenged : ∀ ch, t.Challenged ch → ch ≠ [] ∧ t.outstandingChallenge = ch

/-- The component after a tunnel has been opened; it has a runner if there is a
transmitter. -/
structure Opened (env : Env) (c c' : Component) (t : Tunnel) : Prop where
  valid : c'.Valid
  id_ne_zero : t.localID ≠ 0
  free : c.inUse t.key = false
  objects : c'.objects = c.objects ++ [t]
  tunnels : c'.tunnels = update c.tunnels t.key (some c.objects.length)
  roster : env.sendConfigured = true → c'.roster = c.roster.add t.key

def Tunnel.entered (env : Env) (t : Tunnel) (fsm : TunnelFSM) : Tunnel :=
  if env.sendConfigured then
    { t with fsm := fsm, channel := some (.new ⟨0, 0, 0, 16, 0⟩), running := true }
  else { t with fsm := fsm }

theorem enterTunnel_cases (env : Env) (h : c.Valid)
    (halloc : c.allocateTunnelID t.peerIP = (c1, some t.localID)) (fsm : TunnelFSM) :
    (c1.enterTunnel env t (some fsm)).1 = c1.releaseTunnelID t.peerIP t.localID ∧
        (∃ e, (c1.enterTunnel env t (some fsm)).2 = .error e) ∨
      (c1.enterTunnel env t (some fsm)).2 = .ok c.objects.length ∧
        Opened env c (c1.enterTunnel env t (some fsm)).1 (t.entered env fsm) := by
  obtain ⟨hvalid, hobjects, -, hsome⟩ := allocateTunnelID_spec h t.peerIP
  rw [halloc] at hvalid hobjects hsome
  dsimp only at hvalid hobjects hsome
  obtain ⟨hid, hfree, hroster⟩ := hsome t.localID rfl
  have htunnels : c1.tunnels = c.tunnels := congrArg Roster.entries hroster
  have hrunners : c1.runners = c.runners := congrArg Roster.workers hroster
  have huse : c1.inUse = update c.inUse t.key true := congrArg Roster.reserved hroster
  have hentry : update c1.tunnels t.key (some c1.objects.length) =
      update c.tunnels t.key (some c.objects.length) := by
    rw [htunnels, hobjects]
  unfold enterTunnel
  dsimp only
  split
  · exact .inl ⟨rfl, .tunnelExists, rfl⟩
  · rename_i c2 hregister
    unfold registerTunnel at hregister
    split at hregister
    · cases hregister
    · cases hregister
      refine .inr ⟨by rw [hobjects], ?_⟩
      unfold startTunnelRunner entered
      split
      · have hobjects' : ∀ x : Tunnel, (c1.objects ++ [x]).modify c1.objects.length (fun t =>
            { t with channel := some (.new ⟨0, 0, 0, 16, 0⟩), running := true }) =
            c.objects ++ [{ x with
              channel := some (.new ⟨0, 0, 0, 16, 0⟩), running := true }] := by
          intro x
          rw [modify_concat, hobjects]
        refine ⟨hvalid, hid, hfree, hobjects' _, hentry, fun _ => Roster.ext ?_ ?_ ?_ huse⟩
        · simp only [roster, modify, Roster.add]
          rw [hobjects' _, map_append]
          rfl
        · rw [Roster.add, roster, roster, length_map]
          exact hentry
        · rw [Roster.add, roster, roster, length_map]
          simp only [modify, hrunners, hobjects]
          rfl
      · rename_i hsend
        exact ⟨hvalid, hid, hfree, by rw [hobjects], hentry, fun hs => absurd hs hsend⟩

theorem Opened.replace (h : Opened env c c' t) (hid : t'.localID = t.localID)
    (hip : t'.peerIP = t.peerIP) (hrun : t'.running = t.running) :
    Opened env c (c'.modify c.objects.length fun _ => t') t' := by
  have hkey : t'.key = t.key := by rw [key, hip, hid, key]
  have hobjects : (c'.modify c.objects.length fun _ => t').objects = c.objects ++ [t'] := by
    rw [modify, h.objects, modify_concat]
  refine ⟨h.valid, hid ▸ h.id_ne_zero, hkey ▸ h.free, hobjects, hkey ▸ h.tunnels, fun hsend => ?_⟩
  rw [hkey, ← h.roster hsend]
  refine roster_modify fun t1 ht1 => ?_
  rw [h.objects, getElem?_concat_length, some.injEq] at ht1
  rw [← ht1]
  exact ⟨hkey, hrun⟩

theorem Opened.getElem? (h : Opened env c c' t) : c'.objects[c.objects.length]? = some t := by
  rw [h.objects, getElem?_concat_length]

inductive Opening (env : Env) (c : Component) : Component → Prop
  | refused {c' : Component} (hvalid : c'.Valid) (hroster : c'.roster = c.roster)
      (hobjects : c'.objects = c.objects) : Opening env c c'
  | opened {c' : Component} {t : Tunnel} (h : Opened env c c' t) (hfresh : t.Fresh) :
      Opening env c c'
  /-- The first message cannot be sent. -/
  | dropped {c1 c' : Component} {t : Tunnel} (h : Opened env c c1 t) (hfresh : t.Fresh)
      (hvalid : c'.Valid) (hroster : c'.roster = c1.roster.drop t.key)
      (hobjects : c'.objects = c.objects ++ [{ t with running := false }]) : Opening env c c'

theorem Opening.of_allocate_none (h : c.Valid)
    (halloc : c.allocateTunnelID ip = (c1, none)) : Opening env c c1 := by
  obtain ⟨hvalid, hobjects, hnone, -⟩ := allocateTunnelID_spec h ip
  rw [halloc] at hvalid hobjects hnone
  exact .refused hvalid (hnone rfl) hobjects

theorem Opening.of_release (h : c.Valid) (halloc : c.allocateTunnelID ip = (c1, some id)) :
    Opening env c (c1.releaseTunnelID ip id) := by
  obtain ⟨hvalid, hobjects, -, -⟩ := allocateTunnelID_spec h ip
  rw [halloc] at hvalid hobjects
  exact .refused (valid_releaseTunnelID hvalid ip id) (roster_release_allocated h halloc)
    ((objects_releaseTunnelID c1 ip id).trans hobjects)

/-! ### The first message of a tunnel -/

theorem sendSession_fields (env : Env) (t : Tunnel) (body : Body) (sessionID : UInt16) :
    ∃ channel, (t.sendSession env body sessionID).1 = { t with channel := channel } := by
  unfold sendSession
  split
  · exact ⟨t.channel, rfl⟩
  · exact ⟨_, rfl⟩

theorem recv_fields (env : Env) (t : Tunnel) (h : Header) (avps : Body) :
    ∃ channel, (t.recv env h avps).1 = { t with channel := channel } := by
  unfold recv
  split
  · exact ⟨t.channel, rfl⟩
  · exact ⟨_, rfl⟩

theorem submitted_recv (env : Env) (t : Tunnel) (h : Header) (avps : Body) :
    (t.recv env h avps).1.submitted = t.submitted := by
  unfold recv
  split
  · rfl
  · rename_i e hchannel
    simp only [submitted, hchannel, map_some, getD_some, Endpoint.dispatch,
      Endpoint.count_submitted]

theorem mem_submitted_sendSession {body b : Body} {sessionID : UInt16}
    (h : b ∈ (t.sendSession env body sessionID).1.submitted) : b ∈ t.submitted ∨ b = body := by
  unfold sendSession at h
  split at h
  · exact .inl h
  · rename_i e hchannel
    simp only [submitted, hchannel, map_some, getD_some, Endpoint.submit,
      Endpoint.count_submitted, mem_append, mem_singleton] at h ⊢
    exact h

theorem submitted_entered (fsm : TunnelFSM) (hchannel : t.channel = none) :
    (t.entered env fsm).submitted = [] := by
  unfold entered
  split
  · rfl
  · simp [submitted, hchannel]

theorem entered_fields (env : Env) (t : Tunnel) (fsm : TunnelFSM) :
    ∃ channel running, t.entered env fsm =
      { t with fsm := fsm, channel := channel, running := running } := by
  unfold entered
  split
  · exact ⟨_, _, rfl⟩
  · exact ⟨_, _, rfl⟩

theorem Opened.send {t1 : Tunnel} {body : Body} {fsm : TunnelFSM}
    (h : Opened env c c' (t.entered env fsm))
    (hsubmitted : t1.submitted = [])
    (hfields : ∃ channel, t1 = { t.entered env fsm with channel := channel })
    (hstate : fsm.state = .waitCtlReply ∨ fsm.state = .waitCtlConn)
    (hsessions : ∀ id, t.sessions id = none)
    (hbody : ∀ ch, challengeOf body = some ch → ch ≠ [] ∧ t.outstandingChallenge = ch) :
    Opened env c (c'.modify c.objects.length fun _ => (t1.sendSession env body 0).1)
        (t1.sendSession env body 0).1 ∧ (t1.sendSession env body 0).1.Fresh := by
  obtain ⟨_, h1⟩ := hfields
  obtain ⟨_, h2⟩ := sendSession_fields env t1 body 0
  obtain ⟨_, _, h0⟩ := entered_fields env t fsm
  refine ⟨h.replace ?_ ?_ ?_, ?_, ?_, ?_⟩
  · rw [h2, h1]
  · rw [h2, h1]
  · rw [h2, h1]
  · rw [h2, h1, h0]
    exact hstate
  · rw [h2, h1, h0]
    exact hsessions
  · rintro ch ⟨b, hb, hch⟩
    rcases mem_submitted_sendSession hb with hb | rfl
    · rw [hsubmitted] at hb
      cases hb
    · rw [h2, h1, h0]
      exact hbody ch hch

theorem enter_new_cases (env : Env) (fsm : TunnelFSM) (h : c.Valid)
    (halloc : c.allocateTunnelID t.peerIP = (c1, some t.localID)) :
    (∃ c2 e, c1.enterTunnel env t (some fsm) = (c2, .error e) ∧ Opening env c c2) ∨
      ∃ c2, c1.enterTunnel env t (some fsm) = (c2, .ok c.objects.length) ∧
        Opened env c c2 (t.entered env fsm) := by
  rcases enterTunnel_cases env h halloc fsm with ⟨hrel, e, he⟩ | ⟨hok, hopen⟩
  · exact .inl ⟨_, e, Prod.ext hrel he, .of_release h halloc⟩
  · exact .inr ⟨_, Prod.ext rfl hok, hopen⟩

/-- A request is refused, or its tunnel is entered and owes the reply. -/
theorem handleSCCRQ_cases (env : Env) (h : c.Valid) (localIP peerIP : IP) (avps : Body)
    (cfg : LNSConfig) :
    (∃ c1 e, c.handleSCCRQ env localIP peerIP avps cfg = (c1, .error e) ∧ Opening env c c1) ∨
      ∃ (c1 : Component) (t : Tunnel) (body : Body),
        c.handleSCCRQ env localIP peerIP avps cfg = (c1, .ok (body, c.objects.length)) ∧
        Opened env c c1 (t.entered env ⟨.waitCtlConn, .responder⟩) ∧
        t.channel = none ∧ (∀ id, t.sessions id = none) ∧
        ∀ ch, challengeOf body = some ch → ch ≠ [] ∧ t.outstandingChallenge = ch := by
  unfold handleSCCRQ
  split
  · rename_i e _
    exact .inl ⟨c, e, rfl, .refused h rfl rfl⟩
  · split
    · rename_i c1 halloc
      exact .inl ⟨c1, .tunnelExhaustion, rfl, .of_allocate_none h halloc⟩
    · rename_i c1 localID halloc
      dsimp only
      generalize ht : Tunnel.new _ _ _ _ _ _ _ _ _ _ = t
      have hfsm : t.fsm.recvSCCRQ = some ⟨.waitCtlConn, .responder⟩ := ht ▸ rfl
      have halloc' : c.allocateTunnelID t.peerIP = (c1, some t.localID) := by
        rw [← ht]
        exact halloc
      rw [hfsm]
      rcases enter_new_cases env ⟨.waitCtlConn, .responder⟩ h halloc' with
        ⟨c2, e, he, hopening⟩ | ⟨c2, hok, hopen⟩
      · rw [he]
        exact .inl ⟨c2, e, rfl, hopening⟩
      · rw [hok]
        subst ht
        exact .inr ⟨c2, _, _, rfl, hopen, rfl, fun _ => rfl,
          fun ch hch => challengeOf_buildSCCRP hch⟩

theorem opening_dispatchSCCRQ (h : c.Valid) (src dst : IP) (hdr : Header) (avps : Body) :
    Opening env c (c.dispatchSCCRQ env src dst hdr avps).1 := by
  have hsame : Opening env c c := .refused h rfl rfl
  unfold dispatchSCCRQ
  split
  · exact hsame
  · split
    · exact hsame
    · split
      · exact hsame
      · rename_i cfg _
        rcases handleSCCRQ_cases env h dst src avps cfg with
          ⟨c1, e, he, hopening⟩ | ⟨c1, t, body, hok, hopen, hchannel, hsessions, hbody⟩
        · rw [he]
          exact hopening
        · rw [hok]
          dsimp only
          rw [hopen.getElem?]
          dsimp only
          -- The tunnel takes the request and sends the reply.
          have hsubmitted := submitted_recv env (t.entered env ⟨.waitCtlConn, .responder⟩) hdr avps
          rw [submitted_entered _ hchannel] at hsubmitted
          obtain ⟨hopen', hfresh⟩ := hopen.send hsubmitted (recv_fields env _ hdr avps)
            (.inr rfl) hsessions hbody
          exact .opened hopen' hfresh

theorem objects_removeTunnel_opened (h : Opened env c c' t) (hsend : env.sendConfigured = true) :
    (c'.removeTunnel t.peerIP t.localID).objects = c.objects ++ [{ t with running := false }] := by
  have hrunner : c'.runners t.key = some c.objects.length := by
    have hworkers : c'.runners = _ := congrArg workers (h.roster hsend)
    rw [hworkers, add, roster, length_map]
    exact update_self t.key _ _
  unfold removeTunnel
  rw [objects_releaseTunnelID]
  change (c'.stopTunnelRunner t.key).objects = _
  unfold stopTunnelRunner
  rw [hrunner]
  simp only [modify, h.objects]
  rw [modify_concat]

theorem opening_tryLACTunnel (h : c.Valid) (hsend : env.sendConfigured = true) (attempt : Nat)
    (req : LACBringUpRequest) (spec : TunnelSpec) :
    Opening env c (c.tryLACTunnel env attempt req spec).1 := by
  unfold tryLACTunnel
  dsimp only
  split
  · exact .refused h rfl rfl
  · split
    · rename_i c1 halloc
      exact .of_allocate_none h halloc
    · rename_i c1 localTunnelID halloc
      generalize (if req.localName = [] then env.localHostname else req.localName) = hostName
      split
      · exact .of_release h halloc
      · rename_i challenge _
        generalize ht : Tunnel.new _ _ _ _ _ _ _ _ _ _ = t
        have hfsm : t.fsm.sendSCCRQ = some ⟨.waitCtlReply, .initiator⟩ := ht ▸ rfl
        have halloc' : c.allocateTunnelID t.peerIP = (c1, some t.localID) := by
          rw [← ht]
          exact halloc
        rw [hfsm]
        rcases enter_new_cases env ⟨.waitCtlReply, .initiator⟩ h halloc' with
          ⟨c2, e, he, hopening⟩ | ⟨c2, hok, hopen⟩
        · rw [he]
          exact hopening
        · rw [hok]
          dsimp only
          rw [hopen.getElem?]
          dsimp only
          -- The request is pending from now on, which `Opened` does not see.
          have hpending : Opened env c { c2 with
              lacPending := update c2.lacPending t.key (some req) }
              (t.entered env ⟨.waitCtlReply, .initiator⟩) := { hopen with }
          have hsubmitted : (t.entered env ⟨.waitCtlReply, .initiator⟩).submitted = [] :=
            submitted_entered _ (by rw [← ht]; rfl)
          have hbody : ∀ ch, challengeOf (buildSCCRQ ⟨localTunnelID, 16, hostName, [], challenge⟩) =
              some ch → ch ≠ [] ∧ t.outstandingChallenge = ch := by
            rw [← ht]
            exact fun ch hch => challengeOf_buildSCCRQ hch
          generalize buildSCCRQ ⟨localTunnelID, 16, hostName, [], challenge⟩ = body at hbody ⊢
          obtain ⟨hopen', hfresh⟩ := hpending.send hsubmitted ⟨_, rfl⟩ (.inl rfl)
            (by rw [← ht]; exact fun _ => rfl) hbody
          obtain ⟨_, _, h0⟩ := entered_fields env t ⟨.waitCtlReply, .initiator⟩
          obtain ⟨_, h1⟩ :=
            sendSession_fields env (t.entered env ⟨.waitCtlReply, .initiator⟩) body 0
          generalize Tunnel.sendSession env (t.entered env ⟨.waitCtlReply, .initiator⟩) body 0 = r
            at hopen' hfresh h1 ⊢
          obtain ⟨t', err⟩ := r
          cases err with
          | none => exact .opened hopen' hfresh
          | some e =>
            dsimp only at hopen' hfresh h1 ⊢
            generalize modify _ _ _ = c3 at hopen' ⊢
            have hremove : c3.removeTunnel spec.serverIP localTunnelID =
                c3.removeTunnel t'.peerIP t'.localID := by
              rw [h1, h0, ← ht]
              rfl
            rw [hremove]
            exact .dropped hopen' hfresh (valid_removeTunnel hopen'.valid _ _)
              (roster_removeTunnel c3 t'.peerIP hopen'.id_ne_zero)
              (objects_removeTunnel_opened hopen' hsend)

theorem Opening.valid (h : Opening env c c') : c'.Valid := by
  cases h with
  | refused hvalid _ _ => exact hvalid
  | opened h _ => exact h.valid
  | dropped _ _ hvalid _ _ => exact hvalid

theorem Opening.of_publish (h : c.Valid) (d : LACDecision) :
    Opening env c (c.publishLACDecision d) :=
  .refused h rfl rfl

theorem openings_tryCandidates (hsend : env.sendConfigured = true) (req : LACBringUpRequest)
    (attempt skipped : Nat) (specs : List TunnelSpec) (h : c.Valid) :
    ReflTransGen (Opening env) c (tryCandidates env req attempt skipped specs c).1 := by
  induction specs generalizing attempt skipped c with
  | nil => exact .single (.of_publish h _)
  | cons spec specs ih =>
    unfold tryCandidates
    split
    · exact ih attempt skipped h
    · split
      · exact ih attempt (skipped + 1) h
      · have hopening := opening_tryLACTunnel h hsend attempt req spec
        split
        · rename_i c1 heq
          rw [heq] at hopening
          exact .single hopening
        · rename_i c1 e heq
          rw [heq] at hopening
          exact .head hopening (ih (attempt + 1) skipped hopening.valid)

theorem openings_startLACSession (h : c.Valid) (req : LACBringUpRequest) :
    ReflTransGen (Opening env) c (c.startLACSession env req).1 := by
  unfold startLACSession
  split
  · exact .refl
  · split
    · exact .refl
    · rename_i hsend
      exact openings_tryCandidates (by simpa using hsend) req 0 0 _ h

/-! ## Messages -/

/-- What a message does to the tunnel it reaches: its channel takes it, and its
handler if it is the next one. -/
inductive Handled (env : Env) (h : Header) (avps : Body) (t : Tunnel) : Tunnel → Prop
  | recv : Handled env h avps t (t.recv env h avps).1
  | handle (haccept : (t.recv env h avps).2 = true) (hne : avps ≠ [])
      (pending : Option LACBringUpRequest) (serial : UInt32) :
      Handled env h avps t ((t.recv env h avps).1.handle env h avps pending serial
        (MessageType.ofCode (decodeMessageType avps))).tunnel

theorem Handled.advances (hh : Handled env h avps t t') : t.Advances t' := by
  cases hh with
  | recv => exact advances_recv env
  | handle haccept hne pending serial =>
    exact (advances_recv env).trans (advances_handle env
      (mem_received_recv haccept hne) pending serial _)

/-! ## Inputs -/

inductive Step (c : Component) (inp : Input) : Component → Prop
  | idle {c' : Component} (hvalid : c'.Valid) (hroster : c'.roster = c.roster)
      (hobjects : c'.objects = c.objects) : Step c inp c'
  | openings {c' : Component} (h : ReflTransGen (Opening inp.env) c c') : Step c inp c'
  | message {c' : Component} {src dst : IP} {body : Bytes} {h : Header} {avps : Body} {i : Nat}
      {t t' : Tunnel} (hevent : inp.event = .punt src dst body)
      (hread : readPacket body = .ok (h, some avps))
      (hlookup : c.lookupTunnel src h.tunnelID = some (i, t)) (hh : Handled inp.env h avps t t')
      (hvalid : c'.Valid) (htunnels : c'.tunnels = c.tunnels) (hroster : c'.roster = c.roster)
      (hobjects : c'.objects = c.objects.modify i fun _ => t') : Step c inp c'
  | stopCCN {src : IP} {h : Header} (avps : Body) {i : Nat} {t : Tunnel}
      (hlookup : c.lookupTunnel src h.tunnelID = some (i, t)) :
      Step c inp ((c.modify i fun _ => (t.recv inp.env h avps).1).handleStopCCN inp.env i
        (t.recv inp.env h avps).1)
  | tick {n : Nat} {t : Tunnel} (hevent : inp.event = .tick n) (ht : c.objects[n]? = some t) :
      Step c inp (c.tick inp.env n t)
  | hello (n : Nat) : Step c inp (c.modify n fun t => (t.sendSession inp.env buildHello 0).1)
  | stop (hevent : inp.event = .stop) : Step c inp c.stop

theorem lookupTunnel_eq_some (h : c.lookupTunnel ip id = some (i, t)) :
    c.tunnels (makeTunnelKey ip id) = some i ∧ c.objects[i]? = some t := by
  unfold lookupTunnel at h
  split at h
  · cases h
  · rename_i n hn
    obtain ⟨t1, ht1, heq⟩ := map_eq_some_iff.mp h
    cases heq
    exact ⟨hn, ht1⟩

theorem roster_replace (ht : c.objects[i]? = some t) (hadv : t.Advances t') :
    (c.modify i fun _ => t').roster = c.roster := by
  refine roster_modify fun t1 ht1 => ?_
  rw [ht, some.injEq] at ht1
  subst ht1
  exact ⟨hadv.key, hadv.running⟩

theorem apply_spec (c : Component) (i : Nat) (k : TunnelKey) (r : Outcome) :
    (c.apply i k r).objects = c.objects.modify i (fun _ => r.tunnel) ∧
      (c.apply i k r).tunnelIDs = c.tunnelIDs ∧
      (c.apply i k r).roster = (c.modify i fun _ => r.tunnel).roster := by
  unfold apply
  dsimp only
  split <;> exact ⟨rfl, rfl, rfl⟩

theorem step_dispatchControl {src dst : IP} {body : Bytes}
    (hvalid : c.Valid) (hevent : inp.event = .punt src dst body)
    (hread : readPacket body = .ok (h, some avps)) :
    Step c inp (c.dispatchControl inp.env src dst h avps).1 := by
  unfold dispatchControl
  split
  · exact .openings (.single (opening_dispatchSCCRQ hvalid src dst h avps))
  · split
    · exact .idle hvalid rfl rfl
    · rename_i i t hlookup
      obtain ⟨-, ht⟩ := lookupTunnel_eq_some hlookup
      have hrecv : Handled inp.env h avps t (t.recv inp.env h avps).1 := .recv
      have hstep : Step c inp (c.modify i fun _ => (t.recv inp.env h avps).1) :=
        .message hevent hread hlookup hrecv hvalid rfl (roster_replace ht hrecv.advances) rfl
      dsimp only
      split
      · exact hstep
      · rename_i haccept
        split
        · exact hstep
        · rename_i hne
          unfold handleMessage
          dsimp only
          split
          · exact .stopCCN avps hlookup
          · generalize hc1 : (c.modify i fun _ => (t.recv inp.env h avps).1) = c1
            have hh : Handled inp.env h avps t _ := .handle (by simpa using haccept) hne
              (c1.lacPending (t.recv inp.env h avps).1.key) (c1.callSerial + 1)
            generalize handle _ _ _ _ _ _ _ = r at hh ⊢
            have htwice : (c1.modify i fun _ => r.tunnel) = c.modify i fun _ => r.tunnel := by
              rw [← hc1, modify, modify, modify_modify_eq]
              rfl
            obtain ⟨hobjects, hids, hroster⟩ := apply_spec c1 i (t.recv inp.env h avps).1.key r
            rw [htwice, roster_replace ht hh.advances] at hroster
            refine .message hevent hread hlookup hh ?_ ?_ hroster
              (hobjects.trans (congrArg objects htwice))
            · intro ip a ha
              rw [hids, ← hc1] at ha
              exact hvalid ip a ha
            · exact congrArg entries hroster

theorem step_next (hvalid : c.Valid) (hnext : next c inp = some c') : Step c inp c' := by
  unfold next at hnext
  split at hnext
  · rename_i src dst body hevent
    split at hnext
    · cases hnext
      unfold dispatch
      split
      · exact .idle hvalid rfl rfl
      · split <;> exact .idle hvalid rfl rfl
      · rename_i h avps hread
        exact step_dispatchControl hvalid hevent hread
    · cases hnext
  · cases hnext
    exact .openings (openings_startLACSession hvalid _)
  · rename_i n hevent
    split at hnext
    · cases hnext
    · rename_i t ht
      split at hnext
      · cases hnext
        exact .tick hevent ht
      · cases hnext
  · split at hnext
    · cases hnext
    · split at hnext
      · cases hnext
        exact .hello _
      · cases hnext
  · cases hnext
    exact .idle hvalid rfl rfl
  · rename_i hevent
    cases hnext
    exact .stop hevent

end Osvbng.L2tp.Component

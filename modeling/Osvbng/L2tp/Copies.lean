import Osvbng.L2tp.Admission

/-!
# Copies of an SCCRQ

A peer sends its SCCRQ again until it is answered, and the network may duplicate it.
The messages of a tunnel are told apart by their numbers, but an SCCRQ reaches
`dispatchSCCRQ` before there is a tunnel, which makes one for every copy it admits.
`oneTunnel_iff` says when the copies of one request that come before the handshake is
complete share a tunnel: when none of them is admitted, or only one comes.
-/

namespace Osvbng.L2tp.Component
open List Lib Machine Option Nat
open Lib.NetIP
open Lib.Slice (Bytes)
variable {c c' : Component} {inp : Input} {t : Tunnel} {avps : Body}

/-! ## Requests that are admitted -/

/-- The request has a challenge if the configuration requires one, there is a secret to answer
it with, and a challenge of our own. -/
def Proper (env : Env) (avps : Body) (cfg : LNSConfig) : Prop :=
  (cfg.challengeRequired → findFirst avps 0 avpChallenge ≠ none ∧ env.newChallenge 0 ≠ none) ∧
    (findFirst avps 0 avpChallenge ≠ none → cfg.secret ≠ [])
deriving Decidable

/-- The host has a configuration, by which the request is proper, and the tunnel identifier that
is next for this peer is not registered. -/
def Admits (c : Component) (env : Env) (src : IP) (avps : Body) : Prop :=
  (∃ hostName ∈ findFirst avps 0 avpHostName, ∃ resolve ∈ env.resolveLNSConfig,
    ∃ cfg ∈ resolve hostName.value, Proper env avps cfg) ∧
    ∃ id ∈ (c.allocateTunnelID src).2, c.tunnels (makeTunnelKey src id) = none
deriving Decidable

theorem readSCCRQ_cases (env : Env) (cfg : LNSConfig)
    (htype : decodeMessageType avps = MessageType.sccrq.code)
    (hid : findUint16 avps avpAssignedTunnelID ≠ none)
    (hname : findFirst avps 0 avpHostName ≠ none) :
    Proper env avps cfg ∧ (∃ r, readSCCRQ env avps cfg = .ok r) ∨
      ¬ Proper env avps cfg ∧ ∃ e, readSCCRQ env avps cfg = .error e := by
  obtain ⟨id, hid⟩ := ne_none_iff_exists'.mp hid
  obtain ⟨name, hname⟩ := ne_none_iff_exists'.mp hname
  unfold readSCCRQ Proper respondTo
  rw [hid, hname]
  cases cfg.challengeRequired <;> cases findFirst avps 0 avpChallenge <;>
    by_cases hsecret : cfg.secret = [] <;> cases env.newChallenge 0 <;>
    simp [htype, hsecret, bind, Except.bind]

theorem submitted_sendSession (env : Env) (t : Tunnel) (body : Body) (sessionID : UInt16) :
    (t.sendSession env body sessionID).1.submitted =
      if t.channel = none then t.submitted else t.submitted ++ [body] := by
  unfold Tunnel.sendSession
  split
  · rename_i hnone
    rw [if_pos hnone]
  · rename_i e hchannel
    simp [Tunnel.submitted, hchannel, Endpoint.submit]

theorem objects_enterTunnel (c : Component) (env : Env) (t : Tunnel) (fsm : TunnelFSM) :
    c.tunnels t.key = none ∧ (∃ c', c.enterTunnel env t (some fsm) = (c', .ok c.objects.length) ∧
        c'.objects = c.objects ++ [t.entered env fsm]) ∨
      c.tunnels t.key ≠ none ∧ ∃ c' e, c.enterTunnel env t (some fsm) = (c', .error e) ∧
        c'.objects = c.objects := by
  have hkey : Tunnel.key { t with fsm := fsm } = t.key := rfl
  unfold enterTunnel registerTunnel startTunnelRunner Tunnel.entered
  dsimp only
  rw [hkey]
  cases c.tunnels t.key with
  | some i => exact .inr ⟨nofun, _, _, rfl, objects_releaseTunnelID ..⟩
  | none =>
    refine .inl ⟨rfl, _, rfl, ?_⟩
    split
    · exact modify_concat c.objects _ _
    · rfl

theorem submitted_reply (env : Env) (fsm : TunnelFSM) (h : Header) (avps body : Body)
    (hchannel : t.channel = none) :
    (((t.entered env fsm).recv env h avps).1.sendSession env body 0).1.submitted ≠ [] ↔
      env.sendConfigured := by
  rw [submitted_sendSession, submitted_recv, submitted_entered fsm hchannel]
  unfold Tunnel.recv Tunnel.entered
  cases env.sendConfigured <;> simp [hchannel]

/-- A request that is admitted makes one tunnel, on which it is answered if there is a
transmitter. Any other makes none. -/
theorem objects_dispatchSCCRQ (c : Component) (env : Env) (src dst : IP) (h : Header)
    (htype : decodeMessageType avps = MessageType.sccrq.code)
    (hid : findUint16 avps avpAssignedTunnelID ≠ none) :
    c.Admits env src avps ∧ (∃ t : Tunnel,
        (c.dispatchSCCRQ env src dst h avps).1.objects = c.objects ++ [t] ∧
          (t.submitted ≠ [] ↔ env.sendConfigured)) ∨
      ¬ c.Admits env src avps ∧ (c.dispatchSCCRQ env src dst h avps).1.objects = c.objects := by
  unfold dispatchSCCRQ Admits
  cases hname : findFirst avps 0 avpHostName with
  | none => exact .inr ⟨by simp, rfl⟩
  | some hostName =>
    cases hresolve : env.resolveLNSConfig with
    | none => exact .inr ⟨by simp, rfl⟩
    | some resolve =>
      cases hcfg : resolve hostName.value with
      | none => exact .inr ⟨by simp [hcfg], by simp only [hcfg]⟩
      | some cfg =>
        simp only [hcfg]
        unfold handleSCCRQ
        obtain ⟨hproper, r, hr⟩ | ⟨himproper, e, he⟩ :=
          readSCCRQ_cases env cfg htype hid (by simp [hname])
        · have hobjects : (c.allocateTunnelID src).1.objects = c.objects := rfl
          have htunnels : (c.allocateTunnelID src).1.tunnels = c.tunnels := rfl
          rw [hr]
          generalize c.allocateTunnelID src = allocated at *
          obtain ⟨c1, _ | id⟩ := allocated
          · exact .inr ⟨by simp, hobjects⟩
          · dsimp only at hobjects htunnels ⊢
            generalize ht : Tunnel.new _ _ _ _ _ _ _ _ _ _ = t
            have hfsm : t.fsm.recvSCCRQ = some ⟨.waitCtlConn, .responder⟩ := ht ▸ rfl
            have hkey : t.key = makeTunnelKey src id := ht ▸ rfl
            have hchannel : t.channel = none := ht ▸ rfl
            rw [hfsm]
            obtain ⟨hentry, c2, hc2, hobjects2⟩ | ⟨hentry, c2, e, hc2, hobjects2⟩ :=
              objects_enterTunnel c1 env t ⟨.waitCtlConn, .responder⟩
            · rw [htunnels, hkey] at hentry
              rw [hobjects] at hc2 hobjects2
              rw [hc2]
              dsimp only
              rw [hobjects2, getElem?_concat_length]
              refine .inl ⟨⟨by simp [hcfg, hproper], id, rfl, hentry⟩, ?_⟩
              dsimp only [Component.modify]
              rw [hobjects2, modify_concat]
              exact ⟨_, rfl, submitted_reply env ⟨.waitCtlConn, .responder⟩ h avps _ hchannel⟩
            · rw [htunnels, hkey] at hentry
              rw [hc2]
              exact .inr ⟨by simp [hentry], hobjects2.trans hobjects⟩
        · rw [he]
          exact .inr ⟨by simp [hcfg, himproper], rfl⟩

/-! ## What a step creates and answers -/

def newTunnels (c c' : Component) : List Nat :=
  .range' c.objects.length (c'.objects.length - c.objects.length)

def submittedOn (c : Component) (i : Nat) : List Body := ((c.objects[i]?).map (·.submitted)).getD []

def answeredOn (c c' : Component) : List Nat :=
  (range c'.objects.length).filter fun i => c.submittedOn i ≠ c'.submittedOn i

theorem answeredOn_of_append (h : c'.objects = c.objects ++ [t]) :
    answeredOn c c' = if t.submitted = [] then [] else [c.objects.length] := by
  have hold : (range c.objects.length).filter
      (fun i => decide (c.submittedOn i ≠ c'.submittedOn i)) = [] := by
    rw [filter_eq_nil_iff]
    intro i hi
    simp [submittedOn, h, getElem?_append_left (mem_range.mp hi)]
  rw [answeredOn, h, length_append, length_singleton, range_succ, filter_append, hold, nil_append,
    filter_singleton]
  cases ht : t.submitted <;> simp [submittedOn, h, ht]

/-! ## Watching the copies of a request -/

structure Request where
  src : IP
  peerTunnelID : UInt16
  ns : UInt16

def Request.copy (r : Request) (inp : Input) : Bool :=
  match inp.event with
  | .punt src _ body =>
    match readPacket body with
    | .ok (h, some avps) =>
      decide (decodeMessageType avps = MessageType.sccrq.code) &&
        decide (canon src = canon r.src) &&
        decide (findUint16 avps avpAssignedTunnelID = some r.peerTunnelID) && decide (h.ns = r.ns)
    | _ => false
  | _ => false

/-- A copy with the component that it finds, the tunnels it makes and those on which it is
answered. -/
structure Copy where
  before : Component
  input : Input
  created : List Nat
  answered : List Nat

def Copy.Admitted (x : Copy) : Prop :=
  match x.input.event with
  | .punt src _ body =>
    match readPacket body with
    | .ok (_, some avps) => x.before.Admits x.input.env src avps
    | _ => False
  | _ => False

instance (x : Copy) : Decidable x.Admitted := by
  unfold Copy.Admitted
  split
  · split <;> infer_instance
  · infer_instance

theorem copy_step {r : Request} (hcopy : r.copy inp = true)
    (hnext : Component.next c inp = some c') :
    let x : Copy := ⟨c, inp, newTunnels c c', answeredOn c c'⟩
    if x.Admitted then
      ∃ i, x.created = [i] ∧ x.answered = if inp.env.sendConfigured then [i] else []
    else x.created = [] ∧ x.answered = [] := by
  intro x
  unfold Request.copy at hcopy
  split at hcopy
  · rename_i src dst body hevent
    split at hcopy
    · rename_i h avps hread
      simp only [Bool.and_eq_true, decide_eq_true_eq] at hcopy
      obtain ⟨⟨⟨htype, -⟩, hid⟩, -⟩ := hcopy
      have hc' : c' = (c.dispatchSCCRQ inp.env src dst h avps).1 := by
        unfold Component.next at hnext
        rw [hevent] at hnext
        dsimp only at hnext
        split at hnext
        · rw [dispatch, hread] at hnext
          simp only [dispatchControl, htype, if_true, some.injEq] at hnext
          exact hnext.symm
        · cases hnext
      have hadmitted : x.Admitted ↔ c.Admits inp.env src avps := by
        simp [Copy.Admitted, x, hevent, hread]
      obtain ⟨hadmits, t, hobjects, hanswered⟩ | ⟨hrefused, hobjects⟩ :=
        objects_dispatchSCCRQ c inp.env src dst h htype (by simp [hid])
      · rw [← hc'] at hobjects
        rw [if_pos (hadmitted.mpr hadmits)]
        refine ⟨c.objects.length, by simp [x, newTunnels, hobjects], ?_⟩
        simp [x, answeredOn_of_append hobjects, ← hanswered]
      · rw [← hc'] at hobjects
        rw [if_neg fun h => hrefused (hadmitted.mp h)]
        simp [x, newTunnels, answeredOn, submittedOn, hobjects]
    · cases hcopy
  · cases hcopy

structure Watch where
  component : Component
  /-- The copies that have come before the handshake was complete. -/
  copies : List Copy
  completed : Bool

namespace Watch
variable {w : Watch} {r : Request}

def new : Watch := ⟨.new, [], false⟩

def created (w : Watch) : List Nat := w.copies.flatMap (·.created)

def next (r : Request) (w : Watch) (inp : Input) : Option Watch :=
  (Component.next w.component inp).map fun c' =>
    let copies := if r.copy inp && !w.completed then
        w.copies ++ [⟨w.component, inp, newTunnels w.component c', answeredOn w.component c'⟩]
      else w.copies
    ⟨c', copies, w.completed || copies.any fun x => x.created.any fun i =>
      (c'.objects[i]?).any (·.fsm.state = .established)⟩

def Initial (w : Watch) : Prop := w = new

theorem initial_new : Initial new := rfl

def machine (r : Request) : Machine Watch Input := .ofNext Initial (next r)

def OneTunnel (w : Watch) : Prop :=
  w.created.length ≤ 1 ∧ ∀ i ∈ w.created, ∀ x ∈ w.copies, x.answered = [i]
deriving Decidable

/-- Every copy that is admitted makes its own tunnel, on which it is answered if there is a
transmitter. -/
def Parted (w : Watch) : Prop :=
  ∀ x ∈ w.copies, if x.Admitted then
      ∃ i, x.created = [i] ∧ x.answered = if x.input.env.sendConfigured then [i] else []
    else x.created = [] ∧ x.answered = []

theorem parted_of_reach (h : (machine r).Reach (fun _ _ => True) w) : w.Parted := by
  refine h.invariant Parted ?_ ?_
  · rintro _ rfl x hx
    cases hx
  · intro w inp w' hw _ hnext x hx
    obtain ⟨c', hc', rfl⟩ := map_eq_some_iff.mp hnext
    dsimp only at hx
    split at hx
    · rename_i hcopy
      rcases mem_append.mp hx with hx | hx
      · exact hw x hx
      · rw [mem_singleton.mp hx]
        exact copy_step (Bool.and_eq_true_iff.mp hcopy).1 hc'
    · exact hw x hx

/-- The copies of a request share a tunnel exactly when none of them is admitted, or one copy
has come, is admitted and can be answered. -/
theorem oneTunnel_iff (h : (machine r).Reach (fun _ _ => True) w) :
    w.OneTunnel ↔ (∀ x ∈ w.copies, ¬ x.Admitted) ∨
      ∃ x, w.copies = [x] ∧ x.Admitted ∧ x.input.env.sendConfigured := by
  have hparted := parted_of_reach h
  unfold OneTunnel created
  constructor
  · rintro ⟨hlen, hsame⟩
    refine or_iff_not_imp_left.mpr fun hsome => ?_
    push Not at hsome
    obtain ⟨x, hx, hadmitted⟩ := hsome
    obtain ⟨i, hi, -⟩ := (if_pos hadmitted).mp (hparted x hx)
    have hmem : i ∈ w.copies.flatMap (·.created) := mem_flatMap.mpr ⟨x, hx, by simp [hi]⟩
    -- Every copy is answered on the tunnel of `x`, so every copy is admitted and makes one.
    have hall : ∀ y ∈ w.copies, y.Admitted ∧ y.input.env.sendConfigured ∧ y.created.length = 1 := by
      intro y hy
      have hanswered := hsame i hmem y hy
      have hy := hparted y hy
      split at hy
      · rename_i hadmitted
        obtain ⟨j, hj, hans⟩ := hy
        rw [hanswered] at hans
        split at hans
        · rename_i hsend
          exact ⟨hadmitted, hsend, by rw [hj, length_singleton]⟩
        · cases hans
      · rw [hanswered] at hy
        cases hy.2
    obtain ⟨y, hy⟩ : ∃ y, w.copies = [y] := by
      have hcount : (w.copies.flatMap (·.created)).length = w.copies.length := by
        rw [length_flatMap, map_congr_left fun y hy => (hall y hy).2.2]
        simp
      exact length_eq_one_iff.mp (le_antisymm (hcount ▸ hlen) (length_pos_of_mem hx))
    obtain ⟨hadmitted, hsend, -⟩ := hall y (by simp [hy])
    exact ⟨y, hy, hadmitted, hsend⟩
  · rintro (hnone | ⟨x, hcopies, hadmitted, hsend⟩)
    · have hcreated : w.copies.flatMap (·.created) = [] := flatMap_eq_nil_iff.mpr fun x hx =>
        ((if_neg (hnone x hx)).mp (hparted x hx)).1
      simp [hcreated]
    · obtain ⟨i, hi, hanswered⟩ := (if_pos hadmitted).mp (hparted x (by simp [hcopies]))
      simp [hcopies, hi, hanswered, hsend]

/-! ## Sample runs -/

def sample : Request := ⟨lac, 9, 0⟩

/-- One copy comes, the peer completes the handshake, and another copy comes. -/
theorem oneTunnel_iff_oneCopy :
    ∃ w, run (next sample) (fun _ _ => True) new
        [⟨.start, openEnv 0 openConfig⟩, sccrq openConfig,
          punted openConfig 1 0 1 (buildSCCCN []), sccrq openConfig] = some w ∧
      w.completed ∧ w.created = [0] ∧ w.OneTunnel := by
  refine exists_run initial_new (fun w => w.completed ∧ w.created = [0] ∧ w.copies.length = 1 ∧
    ∀ x ∈ w.copies, x.Admitted ∧ x.input.env.sendConfigured) (by decide +kernel) ?_
  rintro w hreach ⟨hcompleted, hcreated, hlen, hall⟩
  obtain ⟨x, hx⟩ := length_eq_one_iff.mp hlen
  exact ⟨hcompleted, hcreated, (oneTunnel_iff hreach).mpr (.inr ⟨x, hx, hall x (by simp [hx])⟩)⟩

/-- The SCCRQ comes three times before the peer answers: there are three tunnels, and
each copy is answered on its own. -/
theorem copies_part :
    ∃ w, run (next sample) (fun _ _ => True) new
        [⟨.start, openEnv 0 openConfig⟩, sccrq openConfig, sccrq openConfig,
          sccrq openConfig] = some w ∧
      (machine sample).Reach (fun _ _ => True) w ∧ w.created = [0, 1, 2] ∧
      w.copies.map (·.answered) = [[0], [1], [2]] ∧ ¬ w.OneTunnel :=
  exists_run initial_new _ (by decide +kernel) fun _ hreach hparts => ⟨hreach, hparts⟩

end Watch
end Osvbng.L2tp.Component

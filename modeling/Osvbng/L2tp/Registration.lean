import Osvbng.L2tp.Steps

/-!
# Tunnels, their ids and their runners

A tunnel is registered, holds an id and has a runner, each in a table of its own.
`consistent_of_careful` says that the three agree between operations, in the runs
in which no channel gives its peer up, the component is not stopped while it has
tunnels, and a transmitter is installed.

When a channel gives up, its callback deletes the registration only: the id stays
in use and the runner goes on. `Stop` keeps the ids in use. A tunnel that is
opened without a transmitter has no runner. `tables_part` has a run for each.
-/

namespace Osvbng.L2tp.Component
open Option List Lib Machine Bool Component.Tunnel
open Lib.NetIP
open Lib.Slice (Bytes)
variable {c c' : Component} {env : Env} {i : Nat} {t : Tunnel} {k : TunnelKey}

/-- The ids in use are those of the tunnels that are registered, and these are the
tunnels whose runner runs. -/
structure Consistent (c : Component) : Prop where
  ids : ∀ k, c.inUse k = true ↔ ∃ i t, c.tunnels k = some i ∧ c.objects[i]? = some t ∧ t.key = k
  runners : ∀ i t, c.objects[i]? = some t → (t.running = true ↔ c.tunnels t.key = some i)

structure Sound (c : Component) : Prop where
  valid : c.Valid
  tables : c.roster.Consistent

theorem sound_new : new.Sound := ⟨by simp [Valid, new], Roster.consistent_empty⟩

variable (h : c.Sound)
include h

theorem Sound.entry (hk : c.tunnels k = some i) : ∃ t, c.objects[i]? = some t ∧ t.key = k := by
  obtain ⟨b, hb⟩ := h.tables.entry k i hk
  obtain ⟨t, ht, hkey⟩ := map_eq_some_iff.mp ((getElem?_map ..).symm.trans hb)
  exact ⟨t, ht, congrArg Prod.fst hkey⟩

theorem Sound.consistent : c.Consistent where
  ids k := by
    rw [show c.inUse k = c.roster.reserved k from rfl, h.tables.reserved k, isSome_iff_exists]
    constructor
    · rintro ⟨i, hi⟩
      obtain ⟨t, ht, hkey⟩ := h.entry hi
      exact ⟨i, t, hi, ht, hkey⟩
    · rintro ⟨i, t, hi, -⟩
      exact ⟨i, hi⟩
  runners i t ht := by
    exact h.tables.running i t.key t.running (by simp [roster, ht])

theorem Sound.id_ne_zero (hk : c.tunnels k = some i) : k.id ≠ 0 := by
  intro hzero
  have huse : c.inUse k = true := (h.tables.reserved k).mpr (by simp [roster, hk])
  rw [inUse, hzero, Option.any_eq_true] at huse
  obtain ⟨a, ha, hin⟩ := huse
  rw [(h.valid _ _ ha).zero] at hin
  exact false_ne_true hin

/-! ## Each operation -/

theorem Sound.opening (hsend : env.sendConfigured = true)
    (hopening : Opening env c c') : c'.Sound := by
  cases hopening with
  | refused hvalid hroster _ => exact ⟨hvalid, by rw [hroster]; exact h.tables⟩
  | opened hopen _ =>
    refine ⟨hopen.valid, ?_⟩
    rw [hopen.roster hsend]
    exact h.tables.add hopen.free
  | dropped hopen _ hvalid hroster _ =>
    refine ⟨hvalid, ?_⟩
    rw [hroster, hopen.roster hsend]
    exact (h.tables.add hopen.free).drop _

theorem Sound.openings (hsend : env.sendConfigured = true)
    (hopenings : Relation.ReflTransGen (Opening env) c c') : c'.Sound := by
  induction hopenings with
  | refl => exact h
  | tail _ hopening ih => exact ih.opening hsend hopening

theorem Sound.modify {f : Tunnel → Tunnel}
    (hf : ∀ t, c.objects[i]? = some t → (f t).key = t.key ∧ (f t).running = t.running) :
    (c.modify i f).Sound :=
  ⟨h.valid, by rw [roster_modify hf]; exact h.tables⟩

omit h

theorem uninstallTunnelVPP_fields (env : Env) (t : Tunnel) :
    ∃ installed, t.uninstallTunnelVPP env = { t with installedInVPP := installed } := by
  unfold uninstallTunnelVPP
  split
  · exact ⟨_, rfl⟩
  · exact ⟨_, rfl⟩

theorem Sound.uninstall (h : c.Sound) (env : Env) (i : Nat) :
    (c.modify i (.uninstallTunnelVPP env)).Sound := by
  refine h.modify fun t _ => ?_
  obtain ⟨installed, heq⟩ := uninstallTunnelVPP_fields env t
  rw [heq]
  exact ⟨rfl, rfl⟩

theorem Sound.handleStopCCN (h : c.Sound) (hid : t.localID ≠ 0) :
    (c.handleStopCCN env i t).Sound := by
  have hstopped : (c.modify i fun t => { t with fsm := t.fsm.stop }).Sound :=
    h.modify fun _ _ => ⟨rfl, rfl⟩
  have hremoved : ((c.modify i fun t => { t with fsm := t.fsm.stop }).removeTunnel t.peerIP
      t.localID).Sound := by
    refine ⟨valid_removeTunnel hstopped.valid _ _, ?_⟩
    rw [roster_removeTunnel _ _ hid]
    exact hstopped.tables.drop _
  exact hremoved.uninstall env i

theorem Sound.tick (h : c.Sound)
    (halive : ∀ e, t.channel = some e → (e.channel.tick env.now env.sendOk).1 = false) :
    (c.tick env i t).Sound := by
  unfold Component.tick
  split
  · exact h
  · rename_i e hchannel
    rw [halive e hchannel]
    exact h.modify fun _ _ => ⟨rfl, rfl⟩

theorem Sound.stop (h : c.Sound) (hidle : ∀ t ∈ c.objects, c.tunnels t.key = none) :
    c.stop.Sound := by
  have htunnels : c.tunnels = fun _ => none := by
    ext1 k
    rw [eq_none_iff_forall_ne_some]
    intro i hi
    obtain ⟨t, ht, hkey⟩ := h.entry hi
    have hnone := hidle t (mem_of_getElem? ht)
    rw [hkey, hi] at hnone
    cases hnone
  have hrunners : c.runners = fun _ => none := h.tables.workers.trans htunnels
  have hobjects : c.stop.objects = c.objects := by
    apply ext_getElem?
    simp [Component.stop, hrunners]
  have hroster : c.stop.roster = c.roster :=
    Roster.ext (by rw [roster, hobjects, roster]) htunnels.symm hrunners.symm rfl
  exact ⟨h.valid, by rw [hroster]; exact h.tables⟩

/-! ## Runs -/

/-- The steps on which the tables stay together: a transmitter is installed, no
channel gives its peer up, and the component is stopped without tunnels only. -/
def Careful (c : Component) (inp : Input) : Prop :=
  inp.env.sendConfigured = true ∧
    match inp.event with
    | .tick n => ∀ t ∈ c.objects[n]?, ∀ e ∈ t.channel,
        (e.channel.tick inp.env.now inp.env.sendOk).1 = false
    | .stop => ∀ t ∈ c.objects, c.tunnels t.key = none
    | _ => True

instance (c : Component) (inp : Input) : Decidable (Careful c inp) := by
  obtain ⟨e, env⟩ := inp
  rcases e <;> dsimp only [Careful] <;> infer_instance

theorem Sound.step {inp : Input} (h : c.Sound) (hcareful : c.Careful inp)
    (hstep : Step c inp c') : c'.Sound := by
  obtain ⟨hsend, hcase⟩ := hcareful
  cases hstep with
  | idle hvalid hroster _ => exact ⟨hvalid, by rw [hroster]; exact h.tables⟩
  | openings hopenings => exact h.openings hsend hopenings
  | message _ _ _ _ hvalid _ hroster _ => exact ⟨hvalid, by rw [hroster]; exact h.tables⟩
  | @stopCCN src hdr avps i t hlookup =>
    obtain ⟨hentry, ht⟩ := lookupTunnel_eq_some hlookup
    have hrecv : t.Advances (t.recv inp.env hdr avps).1 := advances_recv inp.env
    obtain ⟨t1, ht1, hkey⟩ := h.entry hentry
    rw [ht, some.injEq] at ht1
    subst ht1
    have hid : t.localID ≠ 0 := by
      have hne := h.id_ne_zero hentry
      rwa [← hkey] at hne
    have hreplaced : (c.modify i fun _ => (t.recv inp.env hdr avps).1).Sound :=
      ⟨h.valid, by rw [roster_replace ht hrecv]; exact h.tables⟩
    exact hreplaced.handleStopCCN (hrecv.localID ▸ hid)
  | tick hevent ht =>
    rw [hevent] at hcase
    exact h.tick fun e he => hcase _ ht e he
  | hello n =>
    refine h.modify fun t _ => ?_
    obtain ⟨channel, heq⟩ := sendSession_fields inp.env t buildHello 0
    rw [heq]
    exact ⟨rfl, rfl⟩
  | stop hevent =>
    rw [hevent] at hcase
    exact h.stop hcase

theorem sound_of_careful (h : machine.Reach Careful c) : c.Sound := by
  refine h.invariant Sound ?_ ?_
  · rintro _ rfl
    exact sound_new
  · intro c inp c' hc hcareful hnext
    exact hc.step hcareful (step_next hc.valid hnext)

/-- Between the operations of a careful run, the ids in use are those of the
registered tunnels, and these are the tunnels whose runner runs. -/
theorem consistent_of_careful (h : machine.Reach Careful c) : c.Consistent :=
  (sound_of_careful h).consistent

/-! ## Sample runs -/

def datagram (h : Header) (avps : Body) : Bytes :=
  let body := (encode avps).getD []
  h.appendTo [] body.length ++ body

def openEnv (now : Nat) (cfg : LNSConfig) : Env where
  now := now
  sendConfigured := true
  sendOk := fun _ => true
  newChallenge := fun _ => some (List.replicate 16 7)
  resolveLNSConfig := some fun _ => some cfg
  lookupConfiguredSourceIP := fun _ => [10, 0, 0, 1]
  isDenied := fun _ => false
  localHostname := [108]
  vpp := none

def openConfig : LNSConfig := ⟨[108], [], 16, [], false, 2⟩

def lns : IP := [10, 0, 0, 1]
def lac : IP := [10, 0, 0, 2]

variable (cfg : LNSConfig)

def punted (tunnelID sessionID ns : UInt16) (avps : Body) : Input :=
  ⟨.punt lac lns (datagram (newControl tunnelID sessionID ns 0) avps), openEnv 0 cfg⟩

def sccrq : Input := punted cfg 0 0 0 (buildSCCRQ ⟨9, 16, [97], [], []⟩)

def stopCCN (tunnelID ns : UInt16) : Input :=
  punted cfg tunnelID 0 ns [messageTypeAVP .stopCCN]

/-- Two tunnels are opened, one by the peer and one to it, and the peer stops the
first. -/
theorem consistent_of_careful_twoTunnels :
    ∃ c, run next Careful new
        [⟨.start, openEnv 0 openConfig⟩, sccrq openConfig,
          ⟨.startLACSession ⟨1, [], [⟨lac, [], [], 2⟩], [], [], 0, [], [], 0, [], [], []⟩,
            openEnv 0 openConfig⟩, stopCCN openConfig 1 1] = some c ∧
      c.tunnels (makeTunnelKey lac 1) = none ∧ c.tunnels (makeTunnelKey lac 2) = some 1 ∧
      c.Consistent := by
  refine exists_run initial_new (fun c => c.tunnels (makeTunnelKey lac 1) = none ∧
    c.tunnels (makeTunnelKey lac 2) = some 1) (by decide +kernel) ?_
  rintro c hreach ⟨hfirst, hsecond⟩
  exact ⟨hfirst, hsecond, consistent_of_careful hreach⟩

/-- A tunnel has an id in use without a registration, or a runner that runs although
the tunnel is not registered, or none although it is. -/
def parted (c : Component) (i : Nat) : Bool :=
  (c.objects[i]?).any fun t =>
    c.inUse t.key && (c.tunnels t.key).isNone || t.running != decide (c.tunnels t.key = some i)

theorem not_consistent_of_parted (h : c.parted i = true) : ¬ c.Consistent := by
  intro hc
  obtain ⟨t, ht, hparted⟩ := (any_eq_true _ _).mp h
  rw [Bool.or_eq_true, Bool.and_eq_true, isNone_iff_eq_none, bne_iff_ne] at hparted
  rcases hparted with ⟨huse, hnone⟩ | hrun
  · obtain ⟨j, _, hj, -⟩ := (hc.ids t.key).mp huse
    rw [hnone] at hj
    cases hj
  · apply hrun
    rw [Bool.eq_iff_iff, hc.runners i t ht, decide_eq_true_iff]

/-- The tables part after three runs. The peer opens a tunnel and answers nothing,
so that the channel gives it up. The component is stopped while it has a tunnel.
The peer opens a tunnel before a transmitter is installed. -/
def failures : List (List Input) :=
  [[⟨.start, openEnv 0 openConfig⟩, sccrq openConfig] ++
      [1, 3, 7, 15, 23].map fun s => ⟨.tick 0, openEnv (s * 1000000000) openConfig⟩,
    [⟨.start, openEnv 0 openConfig⟩, sccrq openConfig, ⟨.stop, openEnv 0 openConfig⟩],
    [⟨.start, openEnv 0 openConfig⟩,
      { sccrq openConfig with env := { openEnv 0 openConfig with sendConfigured := false } }]]

theorem tables_part :
    failures.Forall fun run =>
      ∃ c, Machine.run next (fun _ _ => True) new run = some c ∧
        machine.Reach (fun _ _ => True) c ∧ ¬ c.Consistent :=
  forall_exists_run initial_new _ (fun _ c => c.parted 0) (by decide +kernel)
    fun _ _ hreach hparted => ⟨hreach, not_consistent_of_parted hparted⟩

end Osvbng.L2tp.Component

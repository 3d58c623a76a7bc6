import Osvbng.L2tp.Endpoint
import Osvbng.Lib.Run

/-!
# Two endpoints of a control connection

Two endpoints submit messages to their channels and feed what arrives into
them. The network may lose, duplicate and reorder packets, but a packet is not
delivered once 2^15 messages newer than those whose numbers it carries have
been sent. What a channel accepts and is not empty goes to the endpoint's state
machine.

`Tunnel.received_prefix` says that each side receives a prefix of what the
other submitted, in the runs in which no acknowledgement is delivered whose
number the receiver expects next and no message is submitted to a channel that
has given its peer up. A pure acknowledgement takes the number of the next
message without using it up, so that `Tunnel.ack_takes_number` loses a message.
-/

namespace Osvbng.L2tp
open Function Option List Lib ControlChannel Endpoint Serial Machine

inductive Side where
  | left | right
deriving DecidableEq

def Side.other : Side → Side
  | .left => .right
  | .right => .left

/-- A packet under way, with the full numbers its 16-bit fields stand for. -/
structure Flight (B : Type) where
  packet : Packet B
  index : Nat
  ack : Nat

structure Tunnel (B : Type) where
  ends : Side → Endpoint B
  net : Side → List (Flight B)

/-- A message is submitted, the timer fires, or the network delivers the packet
number `n` of those a side has sent. -/
inductive TunnelEvent (B : Type) where
  | submit (side : Side) (body : B) (sessionID : UInt16)
  | tick (side : Side)
  | deliver (from' : Side) (n : Nat)

structure TunnelInput (B : Type) where
  event : TunnelEvent B
  now : Nat
  sendOk : UInt16 → Bool

/-- What the packets of an operation stand for, by the endpoint before and after
it. -/
def Endpoint.flights {B : Type} (e e' : Endpoint B) (ps : List (Packet B)) : List (Flight B) :=
  ps.map fun p => ⟨p, indexFrom e'.acked p.ns, e.received.length⟩

namespace Tunnel
variable {B : Type} {t : Tunnel B} {net : List (Flight B)} {r : Endpoint B × List (Packet B)}
  {side : Side} {a b a' : Endpoint B} {m : B} {l l' : List B} {f : Flight B} {ack : Nat}

def put (t : Tunnel B) (side : Side) (r : Endpoint B × List (Packet B)) : Tunnel B where
  ends := update t.ends side r.1
  net := update t.net side (t.net side ++ (t.ends side).flights r.1 r.2)

/-- Fewer than 2^15 messages are newer than those the packet numbers: its own,
and the last one it acknowledges. -/
def Fresh (sender receiver : Endpoint B) (f : Flight B) : Prop :=
  sender.transmitted ≤ f.index + 32768 ∧ receiver.transmitted < f.ack + 32768
deriving Decidable

def next (t : Tunnel B) (i : TunnelInput B) : Option (Tunnel B) :=
  match i.event with
  | .submit side body sessionID =>
    some (t.put side ((t.ends side).submit body sessionID i.now i.sendOk))
  | .tick side => some (t.put side ((t.ends side).tick i.now i.sendOk))
  | .deliver side n =>
    match (t.net side)[n]? with
    | none => none
    | some f =>
      if (t.ends side.other).dead then some t
      else if Fresh (t.ends side) (t.ends side.other) f then
        some (t.put side.other ((t.ends side.other).dispatch f.packet i.now i.sendOk))
      else none

def Initial (t : Tunnel B) : Prop :=
  (∀ side, ∃ cfg : Config, cfg.peerRWS < 65536 ∧ t.ends side = .new cfg) ∧ ∀ side, t.net side = []

def machine (B : Type) : Machine (Tunnel B) (TunnelInput B) := .ofNext Initial next

/-- The steps on which delivery is reliable: nothing is submitted to a channel
that has given up, and no empty packet is delivered with the number its
receiver expects. -/
def Careful (t : Tunnel B) (i : TunnelInput B) : Prop :=
  match i.event with
  | .submit side _ _ => (t.ends side).dead = false
  | .tick _ => True
  | .deliver side n => ∀ f, (t.net side)[n]? = some f → f.packet.body = none →
      (t.ends side.other).dead = false → f.packet.ns ≠ (t.ends side.other).channel.nr

instance (t : Tunnel B) (i : TunnelInput B) : Decidable (Careful t i) := by
  obtain ⟨e, _, _⟩ := i
  rcases e
  case deliver side n => exact inferInstanceAs (Decidable (∀ f ∈ (t.net side)[n]?, _ → _ → _))
  all_goals dsimp only [Careful]; infer_instance

/-! ## Two endpoints -/

/-- What holds of the endpoint `a`, its peer `b` and the packets `a` has sent. -/
structure Direction (a b : Endpoint B) (net : List (Flight B)) : Prop where
  received : b.received <+: a.submitted
  received_le : b.received.length ≤ a.transmitted
  acked_le : a.acked ≤ b.received.length
  ack : ∀ f ∈ net, f.packet.nr = .ofNat f.ack ∧ f.ack ≤ a.received.length
  data : ∀ f ∈ net, ∀ m, f.packet.body = some m → f.packet.ns = .ofNat f.index ∧
    f.index < a.transmitted ∧ a.submitted[f.index]? = some m

def Sound (t : Tunnel B) : Prop :=
  ∀ side, (t.ends side).Sound ∧ Direction (t.ends side) (t.ends side.other) (t.net side)

theorem getElem?_of_prefix (h : l <+: l') {i : Nat} (hm : l[i]? = some m) : l'[i]? = some m := by
  obtain ⟨rest, rfl⟩ := h
  rw [List.getElem?_append_left (List.getElem?_eq_some_iff.mp hm).1]
  exact hm

theorem Direction.sends {ps : List (Packet B)} (h : Direction a b net)
    (hm : Moves ack a a' ps)
    (hack : ack ≤ b.received.length) (hrec : a.received <+: a'.received) :
    Direction a' b (net ++ a.flights a' ps) := by
  have hlen := hrec.length_le
  have htrans := hm.transmitted
  refine ⟨h.received.trans hm.submitted, h.received_le.trans htrans,
    hm.acked.trans (max_le h.acked_le hack), fun f hf => ?_, fun f hf m hbody => ?_⟩
  · rw [List.mem_append, flights, List.mem_map] at hf
    rcases hf with hf | ⟨p, hp, rfl⟩
    · obtain ⟨hnr, hle⟩ := h.ack f hf
      exact ⟨hnr, hle.trans hlen⟩
    · exact ⟨hm.nr p hp, hlen⟩
  · rw [List.mem_append, flights, List.mem_map] at hf
    rcases hf with hf | ⟨p, hp, rfl⟩
    · obtain ⟨hns, hlt, hget⟩ := h.data f hf m hbody
      exact ⟨hns, hlt.trans_le htrans, getElem?_of_prefix hm.submitted hget⟩
    · obtain ⟨i, hlo, hhi, hget, hns⟩ := hm.packets p hp m hbody
      have hindex : indexFrom a'.acked p.ns = i := by
        rw [hns, indexFrom_ofNat hlo (hhi.trans hm.sound.window)]
      rw [hindex]
      exact ⟨hns, hhi, hget⟩

@[simp] theorem other_other (side : Side) : side.other.other = side := by
  cases side <;> rfl

theorem other_ne (side : Side) : side.other ≠ side := by
  cases side <;> decide

theorem eq_or_eq_other (side s : Side) : s = side ∨ s = side.other := by
  cases side <;> cases s <;> decide

theorem Sound.put (h : t.Sound) (hm : Moves ack (t.ends side) r.1 r.2)
    (hack : ack ≤ (t.ends side.other).received.length)
    (hrec : (t.ends side).received <+: r.1.received)
    (hpre : r.1.received <+: (t.ends side.other).submitted)
    (hle : r.1.received.length ≤ (t.ends side.other).transmitted) : (t.put side r).Sound := by
  have hother := h side.other
  rw [other_other] at hother
  intro s
  rcases eq_or_eq_other side s with rfl | rfl
  · simp only [Tunnel.put, update_self, update_of_ne (other_ne s)]
    exact ⟨hm.sound, (h s).2.sends hm hack hrec⟩
  · simp only [Tunnel.put, other_other, update_self, update_of_ne (other_ne side)]
    have hdir := hother.2
    exact ⟨hother.1, hpre, hle, hdir.acked_le.trans hrec.length_le, hdir.ack, hdir.data⟩

theorem Sound.put_same (h : t.Sound) (hm : Moves 0 (t.ends side) r.1 r.2)
    (hrec : r.1.received = (t.ends side).received) : (t.put side r).Sound := by
  have hother := (h side.other).2
  rw [other_other] at hother
  refine h.put hm (Nat.zero_le _) (hrec ▸ prefix_rfl) ?_ ?_
  · rw [hrec]
    exact hother.received
  · rw [hrec]
    exact hother.received_le

theorem prefix_concat_of_getElem? (h : l <+: l')
    (hm : l'[l.length]? = some m) : l ++ [m] <+: l' := by
  obtain ⟨rest, rfl⟩ := h
  rw [getElem?_append_right le_rfl, Nat.sub_self] at hm
  cases rest with
  | nil => simp at hm
  | cons x rest =>
    rw [getElem?_cons_zero, some_inj] at hm
    exact ⟨rest, by simp [hm]⟩

theorem Direction.next_message {a b : Endpoint B} (h : Direction a b net)
    (ha : a.Sound) (hb : b.Sound) (hf : f ∈ net) (hfresh : Fresh a b f)
    (hbody : f.packet.body = some m) (hns : f.packet.ns = b.channel.nr) :
    b.received ++ [m] <+: a.submitted ∧ (b.received ++ [m]).length ≤ a.transmitted := by
  obtain ⟨hindex, hlt, hget⟩ := h.data f hf m hbody
  rw [hindex, hb.nr] at hns
  have hwindow := ha.window
  have hacked := h.acked_le
  have hrec := h.received_le
  have hnew := hfresh.1
  have heq := eq_of_ofNat_eq hns (by omega) (by omega)
  rw [heq] at hget
  refine ⟨prefix_concat_of_getElem? h.received hget, ?_⟩
  rw [length_append, length_singleton]
  omega

theorem Sound.deliver (h : t.Sound) (hf : f ∈ t.net side) (hlive : (t.ends side.other).dead = false)
    (hfresh : Fresh (t.ends side) (t.ends side.other) f)
    (hbody : f.packet.ns = (t.ends side.other).channel.nr → f.packet.body ≠ none) (now : Nat)
    (sendOk : UInt16 → Bool) :
    (t.put side.other ((t.ends side.other).dispatch f.packet now sendOk)).Sound := by
  obtain ⟨hsender, hdir⟩ := h side
  obtain ⟨hreceiver, -⟩ := h side.other
  obtain ⟨hnr, hack⟩ := hdir.ack f hf
  have hmoves := moves_dispatch hreceiver hlive hnr hfresh.2 hbody now sendOk
  have haccept := (recv_spec (t.ends side.other).channel f.packet.ns f.packet.nr now sendOk).1
  have hreceived : ((t.ends side.other).dispatch f.packet now sendOk).1.received =
      if f.packet.ns = (t.ends side.other).channel.nr then
        (t.ends side.other).received ++ f.packet.body.toList
      else (t.ends side.other).received := by
    rw [dispatch, count_received]
    simp only [haccept]
  by_cases hns : f.packet.ns = (t.ends side.other).channel.nr
  · obtain ⟨m, hm⟩ := ne_none_iff_exists'.mp (hbody hns)
    rw [if_pos hns, hm, toList_some] at hreceived
    obtain ⟨hpre, hle⟩ := hdir.next_message hsender hreceiver hf hfresh hm hns
    refine h.put hmoves (by rwa [other_other]) ?_ ?_ ?_
    · rw [hreceived]
      exact prefix_append _ _
    · rwa [hreceived, other_other]
    · rwa [hreceived, other_other]
  · rw [if_neg hns] at hreceived
    refine h.put hmoves (by rwa [other_other]) (hreceived ▸ prefix_rfl) ?_ ?_
    · rw [hreceived, other_other]
      exact hdir.received
    · rw [hreceived, other_other]
      exact hdir.received_le

theorem sound_initial (h : Initial t) : t.Sound := by
  intro side
  obtain ⟨cfg, hcfg, hside⟩ := h.1 side
  obtain ⟨cfg', -, hother⟩ := h.1 side.other
  rw [hside, hother, h.2 side]
  exact ⟨sound_new hcfg, prefix_rfl, le_rfl, le_rfl, by simp, by simp⟩

theorem Sound.next {t t' : Tunnel B} (h : t.Sound) {i : TunnelInput B} (hc : Careful t i)
    (hnext : t.next i = some t') : t'.Sound := by
  obtain ⟨event, now, sendOk⟩ := i
  cases event with
  | submit side body sessionID =>
    cases hnext
    exact h.put_same (moves_submit (h side).1 hc body sessionID now sendOk) (count_received _)
  | tick side =>
    cases hnext
    exact h.put_same (moves_tick (h side).1 now sendOk) (count_received _)
  | deliver side n =>
    unfold Tunnel.next at hnext
    dsimp only at hnext
    split at hnext
    · cases hnext
    · rename_i f hf
      split at hnext
      · cases hnext
        exact h
      · rename_i hdead
        rw [Bool.not_eq_true] at hdead
        obtain ⟨hfresh, hnext⟩ := ite_none_right_eq_some.mp hnext
        cases hnext
        exact h.deliver (mem_of_getElem? hf) hdead hfresh
          (fun hns hnone => hc f hf hnone hdead hns) now sendOk

theorem sound_of_reach (h : (machine B).Reach Careful t) : t.Sound :=
  h.invariant Sound (fun _ => sound_initial) fun _ _ _ hs hc hnext => hs.next hc hnext

/-- Each side receives a prefix of what the other submitted. -/
theorem received_prefix (h : (machine B).Reach Careful t) (side : Side) :
    (t.ends side.other).received <+: (t.ends side).submitted :=
  (sound_of_reach h side).2.received

def start : Tunnel B where
  ends := fun _ => .new ⟨0, 0, 0, 0, 0⟩
  net := fun _ => []

theorem initial_start : Initial (start : Tunnel B) :=
  ⟨fun _ => ⟨_, by decide, rfl⟩, fun _ => rfl⟩

def input (now : Nat) (event : TunnelEvent B) : TunnelInput B := ⟨event, now, fun _ => true⟩

/-- The first packet of each side comes twice, the second time with an acknowledgement that
is out of date. -/
theorem received_prefix_delivered :
    ∃ t : Tunnel Nat, (t.ends .right).received = [7, 8, 9] ∧
      (t.ends .right).received <+: (t.ends .left).submitted := by
  obtain ⟨t, ht, hreceived⟩ : ∃ t : Tunnel Nat, (machine Nat).Reach Careful t ∧
      (t.ends .right).received = [7, 8, 9] :=
    exists_reach_of_run initial_start
      ([.submit .left 7 0, .deliver .left 0, .submit .right 5 0, .deliver .right 0,
        .submit .left 8 0, .deliver .left 1, .deliver .left 0, .submit .right 6 0,
        .deliver .right 1, .deliver .right 0, .submit .left 9 0, .deliver .left 2].map (input 0))
      (by decide)
  exact ⟨t, hreceived, received_prefix ht .left⟩

/-- The left endpoint acknowledges a message of the right one before it submits
its first, and the right one takes the number of the acknowledgement for that of
the message. The message is then dropped as repeated and acknowledged. -/
theorem ack_takes_number :
    ∃ t : Tunnel Nat, (machine Nat).Reach (fun _ _ => True) t ∧
      (t.ends .left).submitted = [1, 2] ∧ (t.ends .right).received = [2] ∧
      ¬ (t.ends .right).received <+: (t.ends .left).submitted :=
  exists_reach_of_run initial_start
    [input 0 (.submit .right 9 0), input 0 (.deliver .right 0),
      input defaultZLBDelay (.tick .left), input defaultZLBDelay (.deliver .left 0),
      input defaultZLBDelay (.submit .left 1 0), input defaultZLBDelay (.submit .left 2 0),
      input defaultZLBDelay (.deliver .left 1), input (2 * defaultZLBDelay) (.tick .right),
      input (2 * defaultZLBDelay) (.deliver .right 1),
      input (2 * defaultZLBDelay) (.deliver .left 2)] (by decide)

/-- As long as a side has not given the other up, no message is lost: what the other has not
received stands at the end of the queue. -/
theorem unreceived_queued (h : (machine B).Reach Careful t) (side : Side)
    (hlive : (t.ends side).dead = false) :
    ∃ l, l <:+ (t.ends side).channel.queue.map PendingMsg.body ∧
      (t.ends side).submitted = (t.ends side.other).received ++ l := by
  obtain ⟨hend, hdir⟩ := sound_of_reach h side
  refine ⟨_, ?_, (prefix_iff_eq_append.mp hdir.received).symm⟩
  rw [hend.bodies_queue hlive, ← Nat.add_sub_cancel' hdir.acked_le, ← drop_drop]
  exact drop_suffix _ _

theorem unreceived_queued_second : ∃ t : Tunnel Nat, (t.ends .right).received = [7] ∧
    ∃ l, l <:+ (t.ends .left).channel.queue.map PendingMsg.body ∧
      (t.ends .left).submitted = (t.ends .right).received ++ l := by
  obtain ⟨t, ht, hlive, hreceived⟩ : ∃ t : Tunnel Nat, (machine Nat).Reach Careful t ∧
      (t.ends .left).dead = false ∧ (t.ends .right).received = [7] :=
    exists_reach_of_run initial_start [input 0 (.submit .left 7 0), input 0 (.deliver .left 0),
      input 0 (.submit .left 8 0)] (by decide)
  exact ⟨t, hreceived, unreceived_queued ht .left hlive⟩

end Tunnel
end Osvbng.L2tp

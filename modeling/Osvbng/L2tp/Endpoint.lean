import Osvbng.L2tp.ControlChannel

/-!
# One endpoint of a control connection

A channel together with what was submitted to it and what its state machine was
handed. `Endpoint.Sound` says that the numbers of the channel, taken modulo
2^16, are the lengths of those two histories, and that the queue holds the
messages that are not acknowledged, in order. Every operation keeps it, and
`Endpoint.Moves` says what else an operation does: `moves_submit`, `moves_tick`
and `moves_dispatch`.
-/

namespace Osvbng.L2tp
open Option List Lib ControlChannel PendingMsg UInt16 Serial

structure Endpoint (B : Type) where
  channel : ControlChannel B
  submitted : List B
  received : List B
  /-- The channel has given up its peer, and the tunnel is gone. -/
  dead : Bool
  /-- How many messages had been acknowledged, and how many sent at least once,
  when the channel was last alive. -/
  acked : Nat
  transmitted : Nat

namespace Endpoint
variable {B : Type}
variable {base : Nat} {submitted : List B} {q : List (PendingMsg B)} {e : Endpoint B}
  {popped rest : List (PendingMsg B)} {q' : List (PendingMsg B)} {m : PendingMsg B} {ack : Nat}

def new (cfg : Config) : Endpoint B := ⟨newControlChannel cfg, [], [], false, 0, 0⟩

variable (e)

def count : Endpoint B :=
  if e.dead then e
  else
    { e with
      acked := e.submitted.length - e.channel.queue.length
      transmitted := e.submitted.length - e.channel.queue.length + inflight e.channel.queue }

def submit (body : B) (sessionID : UInt16) (now : Nat)
    (sendOk : UInt16 → Bool) : Endpoint B × List (Packet B) :=
  let (channel, ps) := e.channel.sendSession body sessionID now sendOk
  ({ e with channel := channel, submitted := e.submitted ++ [body] }.count, ps)

def tick (now : Nat) (sendOk : UInt16 → Bool) : Endpoint B × List (Packet B) :=
  let (dead, channel, ps) := e.channel.tick now sendOk
  ({ e with channel := channel, dead := e.dead || dead }.count, ps)

/-- A packet that reaches the tunnel: the channel takes its numbers, and a
message it accepts goes to the state machine. -/
def dispatch (p : Packet B) (now : Nat) (sendOk : UInt16 → Bool) : Endpoint B × List (Packet B) :=
  let (accept, channel, ps) := e.channel.recv p.ns p.nr now sendOk
  ({ e with
      channel := channel
      received := if accept then e.received ++ p.body.toList else e.received }.count, ps)

@[simp] theorem count_received : e.count.received = e.received := by
  unfold count
  split <;> rfl

@[simp] theorem count_submitted : e.count.submitted = e.submitted := by
  unfold count
  split <;> rfl

/-! ## The numbers of the queue -/

def Numbered (base : Nat) (submitted : List B) (queue : List (PendingMsg B)) : Prop :=
  ∀ j x, (queue.map content)[j]? = some x →
    submitted[base + j]? = some x.1 ∧ x.2.2 = ofNat (base + j)

theorem Numbered.of_content_eq (h : Numbered base submitted q)
    (hc : q'.map content = q.map content) : Numbered base submitted q' := by
  unfold Numbered
  rw [hc]
  exact h

theorem Numbered.append (h : Numbered base submitted q)
    (htotal : base + q.length = submitted.length) (hns : m.ns = ofNat submitted.length) :
    Numbered base (submitted ++ [m.body]) (q ++ [m]) := by
  intro j x hx
  rw [map_append, getElem?_append] at hx
  split at hx
  · obtain ⟨hbody, hx⟩ := h j x hx
    exact ⟨List.getElem?_append_left (List.getElem?_eq_some_iff.mp hbody).1 ▸ hbody, hx⟩
  · rename_i hj
    rw [length_map] at hj hx
    obtain ⟨hlt, hx⟩ := List.getElem?_eq_some_iff.mp hx
    have hj : base + j = submitted.length := by
      simp at hlt
      omega
    rw [hj, getElem?_concat_length, ← hx]
    simp [content, hns]

theorem Numbered.drop (h : Numbered base submitted (popped ++ rest)) :
    Numbered (base + popped.length) submitted rest := by
  intro j x hx
  have hshift := h (popped.length + j) x (by
    rw [map_append, getElem?_append_right (by simp)]
    simpa using hx)
  rwa [← Nat.add_assoc] at hshift

theorem Numbered.exists_index {queue : List (PendingMsg B)}
    (hnum : Numbered base submitted queue) (hw : Windowed queue)
    (hm : m ∈ queue) (hfly : m.inFlight = true) :
    ∃ i, base ≤ i ∧ i < base + inflight queue ∧ submitted[i]? = some m.body ∧
      m.ns = ofNat i := by
  obtain ⟨j, hj⟩ := mem_iff_getElem?.mp hm
  have hlt := hw.lt_inflight hj hfly
  obtain ⟨hbody, hns⟩ := hnum j m.content (by simp [hj])
  exact ⟨base + j, by omega, by omega, hbody, hns⟩

theorem length_eq_of_content_eq
    (hc : q'.map content = q.map content) : q'.length = q.length := by
  simpa using congrArg length hc

variable {e}

/-! ## The operations -/

/-- The channel of an endpoint agrees with the history of the endpoint. -/
structure Sound (e : Endpoint B) : Prop where
  ns : e.channel.ns = ofNat e.submitted.length
  nr : e.channel.nr = ofNat e.received.length
  cwnd : e.channel.cwnd < 65536
  peerWindow : e.channel.peerWindow < 65536
  acked_le : e.acked ≤ e.transmitted
  transmitted_le : e.transmitted ≤ e.submitted.length
  window : e.transmitted < e.acked + 65536
  gone : e.dead = true → e.channel.queue = []
  total : e.dead = false → e.acked + e.channel.queue.length = e.submitted.length
  flying : e.dead = false → e.transmitted = e.acked + inflight e.channel.queue
  windowed : e.dead = false → Windowed e.channel.queue
  numbered : e.dead = false → Numbered e.acked e.submitted e.channel.queue

theorem Sound.bodies_queue (h : e.Sound) (hlive : e.dead = false) :
    e.channel.queue.map PendingMsg.body = e.submitted.drop e.acked := by
  have htotal := h.total hlive
  apply ext_getElem?
  intro j
  rw [getElem?_drop, getElem?_map]
  cases hj : e.channel.queue[j]? with
  | none =>
    rw [getElem?_eq_none_iff] at hj
    exact (getElem?_eq_none (by omega)).symm
  | some m => exact (h.numbered hlive j m.content (by simp [hj])).1.symm

/-- What an operation does, on an acknowledgement up to `ack`: it sends messages
with their numbers and forgets no message that is not acknowledged. -/
structure Moves (ack : Nat) (e e' : Endpoint B) (ps : List (Packet B)) : Prop where
  sound : e'.Sound
  submitted : e.submitted <+: e'.submitted
  acked : e'.acked ≤ max e.acked ack
  transmitted : e.transmitted ≤ e'.transmitted
  nr : ∀ p ∈ ps, p.nr = ofNat e.received.length
  packets : ∀ p ∈ ps, ∀ m, p.body = some m → ∃ i, e'.acked ≤ i ∧ i < e'.transmitted ∧
    e'.submitted[i]? = some m ∧ p.ns = ofNat i

theorem sound_new {cfg : Config} (h : cfg.peerRWS < 65536) : (new cfg : Endpoint B).Sound := by
  have hwin : orDefault cfg.peerRWS defaultReceiveWindow < 65536 := by
    unfold orDefault
    split
    · decide
    · exact h
  exact ⟨rfl, rfl, by simp [new, newControlChannel], hwin, le_rfl, le_rfl,
    by simp [new], fun _ => rfl, fun _ => rfl, fun _ => rfl,
    fun _ => .waiting (by simp [new, newControlChannel]),
    fun _ _ _ h => by simp [new, newControlChannel] at h⟩

theorem moves_of_sends (c : ControlChannel B) {received : List B}
    {ack limit : Nat} (base : Nat) {ps : List (Packet B)}
    (he : e.Sound) (hlive : e.dead = false) (hsub : e.submitted <+: submitted)
    (hns : c.ns = ofNat submitted.length) (hnr : c.nr = ofNat received.length)
    (hcwnd : c.cwnd < 65536) (hwin : c.peerWindow < 65536) (hack : base ≤ max e.acked ack)
    (htotal : base + q.length = submitted.length) (hfly : e.transmitted = base + inflight q)
    (hw : Windowed q) (hnum : Numbered base submitted q)
    (hs : Sends e.channel.nr limit q c.queue ps) (hlimit : inflight q + limit < 65536) :
    Moves ack e { e with channel := c, submitted := submitted, received := received }.count ps := by
  have hlen := length_eq_of_content_eq hs.content
  have hw' := hs.windowed hw
  have hnum' := hnum.of_content_eq hs.content
  have hle := hs.le
  have hbound := hs.bound
  have hinfl := inflight_le_length c.queue
  have hcount : ({ e with channel := c, submitted := submitted, received := received }.count :
      Endpoint B) =
      { channel := c, submitted := submitted, received := received, dead := false, acked := base,
        transmitted := base + inflight c.queue } := by
    have hsubtract : submitted.length - c.queue.length = base := by omega
    simp [count, hlive, hsubtract]
  rw [hcount]
  refine ⟨⟨hns, hnr, hcwnd, hwin, by dsimp only; omega, by dsimp only; omega, by dsimp only; omega,
      by simp, fun _ => by dsimp only; omega, fun _ => rfl, fun _ => hw', fun _ => hnum'⟩,
    hsub, hack, by dsimp only; omega, fun p hp => ?_, fun p hp m hm => ?_⟩
  · obtain ⟨x, -, -, rfl⟩ := hs.packets p hp
    exact he.nr
  · obtain ⟨x, hx, hxfly, rfl⟩ := hs.packets p hp
    cases hm
    exact hnum'.exists_index hw' hx hxfly

variable (he : e.Sound)
include he

theorem moves_submit (hlive : e.dead = false) (body : B)
    (sessionID : UInt16) (now : Nat) (sendOk : UInt16 → Bool) :
    Moves 0 e (e.submit body sessionID now sendOk).1 (e.submit body sessionID now sendOk).2 := by
  obtain ⟨hs, hns, hnr, hcwnd, hwin⟩ :=
    sendSession_spec e.channel body sessionID now sendOk
  have htotal := he.total hlive
  have hfly := he.flying hlive
  have hwindow := he.window
  have hcap := he.cwnd
  have hsame : inflight (e.channel.queue ++ [⟨body, sessionID, e.channel.ns, 0, 0⟩]) =
      inflight e.channel.queue := by
    simp [inflight, inFlight]
  refine moves_of_sends (e.channel.sendSession body sessionID now sendOk).1 e.acked he hlive
    (prefix_append _ _) ?_ (hnr.trans he.nr) (hcwnd.trans_lt he.cwnd)
    (hwin.trans_lt he.peerWindow) (le_max_left _ _) ?_
    (hfly.trans (by rw [hsame])) ((he.windowed hlive).append rfl)
    ((he.numbered hlive).append htotal he.ns) hs ?_
  · rw [hns, length_append, length_singleton, ← ofNat_succ, ← he.ns]
  · rw [length_append, length_append, length_singleton, length_singleton]
    omega
  · omega

theorem moves_tick (now : Nat) (sendOk : UInt16 → Bool) :
    Moves 0 e (e.tick now sendOk).1 (e.tick now sendOk).2 := by
  have ht := ticks_tick e.channel now sendOk
  unfold tick
  generalize e.channel.tick now sendOk = r at ht
  obtain ⟨gone, c, ps⟩ := r
  dsimp only at ht ⊢
  have hns := ht.ns.trans he.ns
  have hnr := ht.nr.trans he.nr
  have hwin := ht.peerWindow.trans_lt he.peerWindow
  have hcwnd : c.cwnd < 65536 := by
    have hle := ht.cwnd
    have hlt := he.cwnd
    omega
  -- Whether the channel is dead before or after, the counts do not move.
  have hcount : ({ e with channel := c, dead := e.dead || gone }.count : Endpoint B) =
      { e with channel := c, dead := e.dead || gone } := by
    unfold count
    split
    · rfl
    · rename_i hlive
      dsimp only at hlive ⊢
      rw [Bool.or_eq_true, not_or, Bool.not_eq_true, Bool.not_eq_true] at hlive
      have hlen := length_eq_of_content_eq (ht.content hlive.2)
      have hinfl := inflight_eq_of_inFlight_eq (ht.inFlight hlive.2)
      have htotal := he.total hlive.1
      have hfly := he.flying hlive.1
      congr 1 <;> omega
  rw [hcount]
  have hlive {P : Prop} (h : e.dead = false → gone = false → P) : (e.dead || gone) = false → P := by
    intro hor
    rw [Bool.or_eq_false_iff] at hor
    exact h hor.1 hor.2
  refine ⟨⟨hns, hnr, hcwnd, hwin, he.acked_le, he.transmitted_le, he.window, fun hdead => ?_,
    hlive fun hd hg => ?_, hlive fun hd hg => ?_, hlive fun hd hg => ?_, hlive fun hd hg => ?_⟩,
    prefix_rfl, le_max_left _ _, le_rfl, fun p hp => (ht.packets p hp).1.trans he.nr,
    fun p hp m hm => ?_⟩
  · cases gone with
    | true => exact ht.gone rfl
    | false =>
      rw [Bool.or_false] at hdead
      have hlen := length_eq_of_content_eq (ht.content rfl)
      rw [he.gone hdead] at hlen
      exact length_eq_zero_iff.mp hlen
  · rw [← he.total hd, length_eq_of_content_eq (ht.content hg)]
  · rw [inflight_eq_of_inFlight_eq (ht.inFlight hg)]
    exact he.flying hd
  · exact (he.windowed hd).of_inFlight_eq (ht.inFlight hg)
  · exact (he.numbered hd).of_content_eq (ht.content hg)
  · obtain ⟨x, hx, hxfly, rfl⟩ := (ht.packets p hp).2 m hm
    cases hm
    have halive : e.dead = false := by
      rw [← Bool.not_eq_true]
      intro hdead
      rw [he.gone hdead] at hx
      exact not_mem_nil hx
    obtain ⟨i, hlo, hhi, hbody, hi⟩ :=
      (he.numbered halive).exists_index (he.windowed halive) hx hxfly
    rw [← he.flying halive] at hhi
    exact ⟨i, hlo, hhi, hbody, hi⟩

theorem acked_popped_le (hlive : e.dead = false) (hfresh : e.transmitted < ack + 32768)
    (hq : e.channel.queue = popped ++ rest)
    (hpop : ∀ m ∈ popped, m.inFlight = true ∧ seqLess m.ns (ofNat ack) = true) :
    e.acked + popped.length ≤ max e.acked ack := by
  rcases eq_nil_or_concat popped with rfl | ⟨front, last, rfl⟩
  · exact le_max_left _ _
  have hlast : e.channel.queue[front.length]? = some last := by simp [hq]
  obtain ⟨hfly, hless⟩ := hpop last (by simp)
  have hlt := (he.windowed hlive).lt_inflight hlast hfly
  obtain ⟨-, hns⟩ := he.numbered hlive front.length last.content (by simp [hlast])
  have htransmitted := he.flying hlive
  have hnot : ¬ ack ≤ e.acked + front.length := by
    intro hle
    have hfalse := less_eq_false hle (by omega)
    rw [← hns] at hfalse
    exact absurd (hless.symm.trans hfalse) (by decide)
  rw [concat_eq_append, length_append, length_singleton]
  omega

/-- A packet is taken whose acknowledgement is not too old and, if it has the
number that is expected, is not empty. -/
theorem moves_dispatch (hlive : e.dead = false) {p : Packet B}
    (hack : p.nr = ofNat ack) (hfresh : e.transmitted < ack + 32768)
    (hbody : p.ns = e.channel.nr → p.body ≠ none) (now : Nat) (sendOk : UInt16 → Bool) :
    Moves ack e (e.dispatch p now sendOk).1 (e.dispatch p now sendOk).2 := by
  obtain ⟨popped, rest, hq, hpop, hw, hns, hnr, hwin, hcwnd, hs⟩ :=
    ackThrough_spec e.channel p.nr now sendOk
  obtain ⟨haccept, deadline, hrecv⟩ := recv_spec e.channel p.ns p.nr now sendOk
  rw [hack] at hpop
  have htotal := he.total hlive
  have hfly := he.flying hlive
  have hwindow := he.window
  have hcap := he.cwnd
  have hpeer := he.peerWindow
  have hsplit : inflight e.channel.queue = popped.length + inflight rest := by
    rw [hq, inflight, countP_append, countP_eq_length.mpr fun m hm => (hpop m hm).1, inflight]
  have hlen : e.channel.queue.length = popped.length + rest.length := by
    rw [hq, length_append]
  have hnum : Numbered (e.acked + popped.length) e.submitted rest :=
    Numbered.drop (hq ▸ he.numbered hlive)
  unfold dispatch
  generalize e.channel.recv p.ns p.nr now sendOk = r at haccept hrecv
  obtain ⟨accept, c, ps⟩ := r
  cases hrecv
  refine moves_of_sends _ (e.acked + popped.length) he hlive prefix_rfl (hns.trans he.ns) ?_
    (by dsimp only; omega) (by dsimp only; omega)
    (acked_popped_le he hlive hfresh hq hpop) (by omega) (by omega)
    (hw (he.windowed hlive)) hnum hs (by omega)
  by_cases h : p.ns = e.channel.nr
  · obtain ⟨m, hm⟩ := ne_none_iff_exists'.mp (hbody h)
    rw [if_pos h, if_pos (haccept.mpr h), hm, toList_some, length_append,
      length_singleton, ← ofNat_succ, he.nr]
  · rw [if_neg h, if_neg (mt haccept.mp h), he.nr]

end Endpoint
end Osvbng.L2tp

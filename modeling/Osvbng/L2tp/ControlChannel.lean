import Mathlib.Algebra.Order.Group.Nat
import Mathlib.Data.List.TakeWhile
import Osvbng.Lib.Serial

/-!
# The reliable control channel

One end of an L2TP control connection: it numbers outgoing messages, keeps them
until they are acknowledged, retransmits them with back-off, and acknowledges
what it receives, in a message of its own or in one with an empty body.

A channel calls back to send a packet. Whether that call succeeds is an input
of each operation, by the number of the message; what was sent is its output.
Times and durations are numbers of nanoseconds, the zero time is `none`.
-/

namespace Osvbng.L2tp
open Option List Lib Nat

def defaultRTOInitial : Nat := 1000000000
def defaultRTOMax : Nat := 8000000000
def defaultMaxRetries : Nat := 5
def defaultReceiveWindow : Nat := 4
def defaultZLBDelay : Nat := 200000000

/-- What is sent: the body, empty for a pure acknowledgement, and the numbers of
the header. -/
structure Packet (B : Type) where
  body : Option B
  sessionID : UInt16
  ns : UInt16
  nr : UInt16
deriving DecidableEq

structure PendingMsg (B : Type) where
  body : B
  sessionID : UInt16
  ns : UInt16
  attempts : Nat
  deadline : Nat

namespace PendingMsg
variable {B : Type} (m : PendingMsg B)

def inFlight : Bool := 0 < m.attempts

def packet (nr : UInt16) : Packet B := ⟨some m.body, m.sessionID, m.ns, nr⟩

def content : B × UInt16 × UInt16 := (m.body, m.sessionID, m.ns)

end PendingMsg

structure Config where
  rtoInitial : Nat
  rtoMax : Nat
  maxRetries : Nat
  peerRWS : Nat
  zlbDelay : Nat

structure ControlChannel (B : Type) where
  rtoInitial : Nat
  rtoMax : Nat
  maxRetries : Nat
  zlbDelay : Nat
  ns : UInt16
  nr : UInt16
  cwnd : Nat
  ssthresh : Nat
  peerWindow : Nat
  queue : List (PendingMsg B)
  nextRTO : Option Nat
  zlbDeadline : Option Nat

def orDefault (n default : Nat) : Nat := if n = 0 then default else n

def newControlChannel {B : Type} (cfg : Config) : ControlChannel B where
  rtoInitial := orDefault cfg.rtoInitial defaultRTOInitial
  rtoMax := orDefault cfg.rtoMax defaultRTOMax
  maxRetries := orDefault cfg.maxRetries defaultMaxRetries
  zlbDelay := orDefault cfg.zlbDelay defaultZLBDelay
  ns := 0
  nr := 0
  cwnd := 1
  ssthresh := orDefault cfg.peerRWS defaultReceiveWindow
  peerWindow := orDefault cfg.peerRWS defaultReceiveWindow
  queue := []
  nextRTO := none
  zlbDeadline := none

def seqLess (a b : UInt16) : Bool := Serial.less a b

namespace ControlChannel
variable {B : Type} (queue : List (PendingMsg B))

def inflight : Nat := queue.countP PendingMsg.inFlight

/-- The loop of `driveSend`: sends what fits into the window, in order. The flag
is false when the callback failed and the loop returned at once. -/
def driveQueue (nr : UInt16) (cwnd deadline : Nat) (sendOk : UInt16 → Bool) :
    (inflight : Nat) → List (PendingMsg B) → List (PendingMsg B) × List (Packet B) × Bool
  | _, [] => ([], [], true)
  | inflight, m :: q =>
    if m.inFlight then
      let (q', ps, ok) := driveQueue nr cwnd deadline sendOk inflight q
      (m :: q', ps, ok)
    else if cwnd ≤ inflight then (m :: q, [], true)
    else
      let m' := { m with attempts := 1, deadline := deadline }
      if sendOk m.ns then
        let (q', ps, ok) := driveQueue nr cwnd deadline sendOk (inflight + 1) q
        (m' :: q', m'.packet nr :: ps, ok)
      else (m' :: q, [], false)

def recomputeNextRTO : Option Nat :=
  ((queue.filter PendingMsg.inFlight).map PendingMsg.deadline).min?

variable (c : ControlChannel B) (now : Nat)
variable (sendOk : UInt16 → Bool) {q : List (PendingMsg B)} {m : PendingMsg B}

def driveSend : ControlChannel B × List (Packet B) :=
  let (queue, ps, ok) :=
    driveQueue c.nr c.cwnd (now + c.rtoInitial) sendOk (inflight c.queue) c.queue
  ({ c with
      queue := queue
      zlbDeadline := if ps = [] then c.zlbDeadline else none
      nextRTO := if ok then recomputeNextRTO queue else c.nextRTO }, ps)

def sendSession (body : B) (sessionID : UInt16) (now : Nat)
    (sendOk : UInt16 → Bool) : ControlChannel B × List (Packet B) :=
  driveSend
    { c with queue := c.queue ++ [⟨body, sessionID, c.ns, 0, 0⟩], ns := c.ns + 1 } now sendOk

def growCwndOnAck (peerWindow cwnd : Nat) : Nat := min (cwnd + 1) peerWindow

def ackThrough (ackNr : UInt16) (now : Nat) (sendOk : UInt16 → Bool) :
    ControlChannel B × List (Packet B) :=
  let queue := c.queue.dropWhile fun m => m.inFlight && seqLess m.ns ackNr
  let popped := c.queue.length - queue.length
  if popped = 0 then (c, [])
  else
    driveSend { c with queue := queue, cwnd := (growCwndOnAck c.peerWindow)^[popped] c.cwnd }
      now sendOk

def setPeerWindow (rws : Int) : ControlChannel B :=
  let rws := if rws < 1 then 1 else rws.toNat
  { c with peerWindow := rws, ssthresh := min c.ssthresh rws, cwnd := min c.cwnd rws }

def scheduleZLB : ControlChannel B :=
  { c with zlbDeadline := some (now + c.zlbDelay) }

/-- Processes the numbers of a packet; tells whether its message is the next
one. -/
def recv (ns nr : UInt16) (now : Nat) (sendOk : UInt16 → Bool) :
    Bool × ControlChannel B × List (Packet B) :=
  let (c, ps) := c.ackThrough nr now sendOk
  if ns ≠ c.nr then (false, c.scheduleZLB now, ps)
  else (true, { c with nr := c.nr + 1 }.scheduleZLB now, ps)

/-- The back-off: a shift of a signed 64-bit number of nanoseconds, capped afterwards. -/
def timeout (attempts : Nat) : Int :=
  min (((c.rtoInitial * 2 ^ attempts : Nat) : Int).bmod (2 ^ 64)) c.rtoMax

def resend (m : PendingMsg B) : PendingMsg B :=
  { m with attempts := m.attempts + 1, deadline := (now + c.timeout m.attempts).toNat }

/-- The retransmission loop of `Tick` over the queue, with the window and its
threshold. It ends without a queue when a message has no retries left. -/
def retransmit (c : ControlChannel B) (now : Nat) (sendOk : UInt16 → Bool) :
    (cwnd ssthresh : Nat) → List (PendingMsg B) →
      List (Packet B) × Nat × Nat × Option (List (PendingMsg B))
  | cwnd, ssthresh, [] => ([], cwnd, ssthresh, some [])
  | cwnd, ssthresh, m :: q =>
    if !m.inFlight || now < m.deadline then
      let (ps, cwnd, ssthresh, q') := retransmit c now sendOk cwnd ssthresh q
      (ps, cwnd, ssthresh, q'.map (m :: ·))
    else if c.maxRetries < m.attempts + 1 then ([], cwnd, ssthresh, none)
    else
      let m' := c.resend now m
      let (ps, cwnd, ssthresh, q') := retransmit c now sendOk 1 (max (cwnd / 2) 1) q
      ((if sendOk m.ns then [m'.packet c.nr] else []) ++ ps, cwnd, ssthresh, q'.map (m' :: ·))

/-- Emits the acknowledgement that is owed, if its time has come. It carries the
number the next message will get. -/
def emitZLB : ControlChannel B × List (Packet B) :=
  match c.zlbDeadline with
  | none => (c, [])
  | some deadline =>
    if now < deadline then (c, [])
    else ({ c with zlbDeadline := none }, if sendOk c.ns then [⟨none, 0, c.ns, c.nr⟩] else [])

/-- Retransmissions and acknowledgements that are due; tells whether the peer is
given up. -/
def tick : Bool × ControlChannel B × List (Packet B) :=
  let (ps, cwnd, ssthresh, queue) := retransmit c now sendOk c.cwnd c.ssthresh c.queue
  let c := { c with cwnd := cwnd, ssthresh := ssthresh }
  match queue with
  | none => (true, { c with queue := [], nextRTO := none }, ps)
  | some queue =>
    let (c, zlb) := emitZLB { c with queue := queue, nextRTO := recomputeNextRTO queue } now sendOk
    (false, c, ps ++ zlb)

/-! ## The window -/

/-- Messages in flight precede those that wait. -/
inductive Windowed : List (PendingMsg B) → Prop
  | waiting {q : List (PendingMsg B)} (h : ∀ m ∈ q, m.inFlight = false) : Windowed q
  | flying {m : PendingMsg B} {q : List (PendingMsg B)} (hm : m.inFlight = true)
      (h : Windowed q) : Windowed (m :: q)

theorem inflight_cons_of_true (q : List (PendingMsg B))
    (hm : m.inFlight = true) : inflight (m :: q) = inflight q + 1 := by
  rw [inflight, countP_cons_of_pos hm, inflight]

theorem inflight_le_length (q : List (PendingMsg B)) : inflight q ≤ q.length :=
  countP_le_length

theorem Windowed.lt_inflight (hq : Windowed q) {j : Nat} (hm : q[j]? = some m)
    (hfly : m.inFlight = true) : j < inflight q := by
  induction hq generalizing j with
  | waiting h =>
    have hnot := h m (mem_of_getElem? hm)
    simp [hfly] at hnot
  | flying hhead _ ih =>
    rw [inflight_cons_of_true _ hhead]
    cases j with
    | zero => omega
    | succ j =>
      have hlt := ih (j := j) (by simpa using hm)
      omega

theorem Windowed.dropWhile (hq : Windowed q)
    (p : PendingMsg B → Bool) : Windowed (q.dropWhile fun m => m.inFlight && p m) := by
  induction hq with
  | @waiting q h =>
    cases q with
    | nil => exact .waiting (by simp)
    | cons m q =>
      rw [dropWhile_cons_of_neg (by simp [h m mem_cons_self])]
      exact .waiting h
  | @flying m q hm hq ih =>
    by_cases hp : (m.inFlight && p m) = true
    · simp only [dropWhile_cons, hp, if_true]
      exact ih
    · simp only [dropWhile_cons, hp]
      exact .flying hm hq

theorem Windowed.append (hq : Windowed q) (hm : m.inFlight = false) : Windowed (q ++ [m]) := by
  induction hq with
  | @waiting q h =>
    refine .waiting fun x hx => ?_
    rw [mem_append, mem_singleton] at hx
    rcases hx with hx | rfl
    · exact h x hx
    · exact hm
  | flying hhead _ ih => exact .flying hhead ih

theorem Windowed.tail (h : Windowed (m :: q)) : Windowed q := by
  cases h with
  | waiting h => exact .waiting fun x hx => h x (mem_cons_of_mem _ hx)
  | flying _ h => exact h

/-! ## What the operations do to the queue -/

/-- The queue after an operation that sends: the same messages, more of them in
flight but no more than the window allows, and packets of messages in flight
only. -/
structure Sends (nr : UInt16) (limit : Nat) (q q' : List (PendingMsg B))
    (ps : List (Packet B)) : Prop where
  content : q'.map PendingMsg.content = q.map PendingMsg.content
  windowed : Windowed q → Windowed q'
  le : inflight q ≤ inflight q'
  bound : inflight q' ≤ inflight q + limit
  packets : ∀ p ∈ ps, ∃ m ∈ q', m.inFlight = true ∧ p = m.packet nr

theorem sends_driveQueue (nr : UInt16) (cwnd deadline : Nat) (sendOk : UInt16 → Bool) (n : Nat)
    (q : List (PendingMsg B)) :
    Sends nr (cwnd - n) q (driveQueue nr cwnd deadline sendOk n q).1
      (driveQueue nr cwnd deadline sendOk n q).2.1 := by
  induction q generalizing n with
  | nil => exact ⟨rfl, id, le_rfl, Nat.le_add_right _ _, by simp [driveQueue]⟩
  | cons m q ih =>
    unfold driveQueue
    by_cases hm : m.inFlight = true
    · have ih := ih n
      rw [if_pos hm]
      refine ⟨by simp [ih.content], fun hw => .flying hm (ih.windowed hw.tail), ?_, ?_, ?_⟩
      · rw [inflight_cons_of_true _ hm, inflight_cons_of_true _ hm]
        exact Nat.add_le_add_right ih.le 1
      · rw [inflight_cons_of_true _ hm, inflight_cons_of_true _ hm]
        have hb := ih.bound
        omega
      · intro p hp
        obtain ⟨x, hx, hrest⟩ := ih.packets p hp
        exact ⟨x, mem_cons_of_mem _ hx, hrest⟩
    have hwait : inflight (m :: q) = inflight q := by
      rw [inflight, countP_cons_of_neg hm, inflight]
    by_cases hfull : cwnd ≤ n
    · rw [if_neg hm, if_pos hfull]
      exact ⟨rfl, id, le_rfl, Nat.le_add_right _ _, by simp⟩
    -- The message is sent, and the loop goes on unless the callback failed.
    have hfly : ({ m with attempts := 1, deadline := deadline } : PendingMsg B).inFlight = true :=
      rfl
    rw [if_neg hm, if_neg hfull]
    split
    · have ih := ih (n + 1)
      refine ⟨by simp [ih.content, PendingMsg.content],
        fun hw => .flying hfly (ih.windowed hw.tail), ?_, ?_, ?_⟩
      · rw [hwait, inflight_cons_of_true _ hfly]
        have hle := ih.le
        omega
      · rw [hwait, inflight_cons_of_true _ hfly]
        have hb := ih.bound
        omega
      · intro p hp
        rw [mem_cons] at hp
        rcases hp with rfl | hp
        · exact ⟨_, mem_cons_self, hfly, rfl⟩
        · obtain ⟨x, hx, hrest⟩ := ih.packets p hp
          exact ⟨x, mem_cons_of_mem _ hx, hrest⟩
    · refine ⟨by simp [PendingMsg.content], fun hw => .flying hfly hw.tail, ?_, ?_, by simp⟩
      · rw [hwait, inflight_cons_of_true _ hfly]
        omega
      · rw [hwait, inflight_cons_of_true _ hfly]
        omega

def Resent (m m' : PendingMsg B) : Prop :=
  m' = m ∨ m.inFlight = true ∧ m.attempts < c.maxRetries ∧ m' = c.resend now m

theorem map_eq_of_resent {X : Type} {f : PendingMsg B → X} {q' : List (PendingMsg B)}
    (h : Forall₂ (c.Resent now) q q') (hf : ∀ m, m.inFlight = true → f (c.resend now m) = f m) :
    q'.map f = q.map f := by
  induction h with
  | nil => rfl
  | cons hm _ ih =>
    rw [map_cons, map_cons, ih]
    rcases hm with rfl | ⟨hfly, -, rfl⟩
    · rfl
    · rw [hf _ hfly]

/-- The retransmission loop, as far as it goes, resends messages that are in flight. -/
theorem retransmit_spec (cwnd ssthresh : Nat) (q : List (PendingMsg B)) :
    ∃ ps cwnd' ssthresh' q', retransmit c now sendOk cwnd ssthresh q = (ps, cwnd', ssthresh', q') ∧
      (∀ p ∈ ps, ∃ m ∈ q, m.inFlight = true ∧ p = m.packet c.nr) ∧
      (cwnd' = cwnd ∧ ssthresh' = ssthresh ∨ cwnd' = 1 ∧ 1 ≤ ssthresh') ∧
      ∀ q₁ ∈ q', Forall₂ (c.Resent now) q q₁ := by
  induction q generalizing cwnd ssthresh with
  | nil =>
    refine ⟨_, _, _, _, rfl, by simp, .inl ⟨rfl, rfl⟩, ?_⟩
    rintro _ ⟨⟩
    exact .nil
  | cons m q ih =>
    unfold retransmit
    split
    · obtain ⟨ps, cwnd', ssthresh', q', heq, hps, hcwnd, hq⟩ := ih cwnd ssthresh
      rw [heq]
      refine ⟨_, _, _, _, rfl, fun p hp => ?_, hcwnd, fun q₁ hq₁ => ?_⟩
      · obtain ⟨x, hx, hrest⟩ := hps p hp
        exact ⟨x, mem_cons_of_mem _ hx, hrest⟩
      · obtain ⟨q₂, hq₂, rfl⟩ := map_eq_some_iff.mp hq₁
        exact .cons (.inl rfl) (hq q₂ hq₂)
    · rename_i hdue
      have hm : m.inFlight = true := by
        simp only [Bool.or_eq_true, Bool.not_eq_true', not_or, Bool.not_eq_false] at hdue
        exact hdue.1
      split
      · exact ⟨_, _, _, _, rfl, by simp, .inl ⟨rfl, rfl⟩, by simp⟩
      · obtain ⟨ps, cwnd', ssthresh', q', heq, hps, hcwnd, hq⟩ := ih 1 (max (cwnd / 2) 1)
        rw [heq]
        refine ⟨_, _, _, _, rfl, fun p hp => ?_, by omega, fun q₁ hq₁ => ?_⟩
        · rw [mem_append] at hp
          rcases hp with hp | hp
          · split at hp
            · rw [mem_singleton] at hp
              exact ⟨m, mem_cons_self, hm, hp⟩
            · simp at hp
          · obtain ⟨x, hx, hrest⟩ := hps p hp
            exact ⟨x, mem_cons_of_mem _ hx, hrest⟩
        · obtain ⟨q₂, hq₂, rfl⟩ := map_eq_some_iff.mp hq₁
          exact .cons (.inr ⟨hm, by omega, rfl⟩) (hq q₂ hq₂)

theorem driveSend_spec :
    Sends c.nr (c.cwnd - inflight c.queue) c.queue (c.driveSend now sendOk).1.queue
        (c.driveSend now sendOk).2 ∧
      (c.driveSend now sendOk).1.ns = c.ns ∧ (c.driveSend now sendOk).1.nr = c.nr ∧
      (c.driveSend now sendOk).1.cwnd = c.cwnd ∧
      (c.driveSend now sendOk).1.peerWindow = c.peerWindow :=
  ⟨sends_driveQueue c.nr c.cwnd (now + c.rtoInitial) sendOk (inflight c.queue) c.queue,
    rfl, rfl, rfl, rfl⟩

theorem sendSession_spec (body : B) (sessionID : UInt16) (now : Nat) (sendOk : UInt16 → Bool) :
    Sends c.nr (c.cwnd - inflight c.queue) (c.queue ++ [⟨body, sessionID, c.ns, 0, 0⟩])
        (c.sendSession body sessionID now sendOk).1.queue
        (c.sendSession body sessionID now sendOk).2 ∧
      (c.sendSession body sessionID now sendOk).1.ns = c.ns + 1 ∧
      (c.sendSession body sessionID now sendOk).1.nr = c.nr ∧
      (c.sendSession body sessionID now sendOk).1.cwnd = c.cwnd ∧
      (c.sendSession body sessionID now sendOk).1.peerWindow = c.peerWindow := by
  have hsame : inflight (c.queue ++ [⟨body, sessionID, c.ns, 0, 0⟩]) = inflight c.queue := by
    simp [inflight, PendingMsg.inFlight]
  have h := driveSend_spec { c with
    queue := c.queue ++ [⟨body, sessionID, c.ns, 0, 0⟩], ns := c.ns + 1 } now sendOk
  rw [hsame] at h
  exact h

theorem iterate_growCwndOnAck_le (peerWindow cwnd : Nat) {n : Nat} (hn : n ≠ 0) :
    (growCwndOnAck peerWindow)^[n] cwnd ≤ peerWindow := by
  obtain ⟨n, rfl⟩ := exists_eq_succ_of_ne_zero hn
  rw [Function.iterate_succ_apply']
  exact min_le_right _ _

/-- An acknowledgement removes messages in flight from the head of the queue,
each numbered below it, and then sends what the window allows. -/
theorem ackThrough_spec (ackNr : UInt16) (now : Nat) (sendOk : UInt16 → Bool) :
    ∃ popped rest, c.queue = popped ++ rest ∧
      (∀ m ∈ popped, m.inFlight = true ∧ seqLess m.ns ackNr = true) ∧
      (Windowed c.queue → Windowed rest) ∧
      (c.ackThrough ackNr now sendOk).1.ns = c.ns ∧
      (c.ackThrough ackNr now sendOk).1.nr = c.nr ∧
      (c.ackThrough ackNr now sendOk).1.peerWindow = c.peerWindow ∧
      (c.ackThrough ackNr now sendOk).1.cwnd ≤ max c.cwnd c.peerWindow ∧
      Sends c.nr (max c.cwnd c.peerWindow - inflight rest) rest
        (c.ackThrough ackNr now sendOk).1.queue (c.ackThrough ackNr now sendOk).2 := by
  refine ⟨c.queue.takeWhile fun m => m.inFlight && seqLess m.ns ackNr,
    c.queue.dropWhile fun m => m.inFlight && seqLess m.ns ackNr,
    (takeWhile_append_dropWhile).symm, fun m hm => ?_, fun hw => hw.dropWhile _, ?_⟩
  · simpa using mem_takeWhile_imp hm
  unfold ackThrough
  dsimp only
  split
  · have hsame : (c.queue.dropWhile fun m => m.inFlight && seqLess m.ns ackNr) = c.queue := by
      refine (dropWhile_suffix _).eq_of_length_le ?_
      omega
    rw [hsame]
    exact ⟨rfl, rfl, rfl, le_max_left _ _, rfl, id, le_rfl, le_add_right _ _, by simp⟩
  · rename_i hpopped
    have hgrow := iterate_growCwndOnAck_le c.peerWindow c.cwnd hpopped
    obtain ⟨hs, hns, hnr, hcwnd, hwin⟩ := driveSend_spec { c with
      queue := c.queue.dropWhile fun m => m.inFlight && seqLess m.ns ackNr
      cwnd := (growCwndOnAck c.peerWindow)^[c.queue.length -
        (c.queue.dropWhile fun m => m.inFlight && seqLess m.ns ackNr).length] c.cwnd } now sendOk
    refine ⟨hns, hnr, hwin, hcwnd.trans_le (hgrow.trans (le_max_right _ _)), hs.content,
      hs.windowed, hs.le, hs.bound.trans ?_, hs.packets⟩
    have hle : (growCwndOnAck c.peerWindow)^[c.queue.length -
        (c.queue.dropWhile fun m => m.inFlight && seqLess m.ns ackNr).length] c.cwnd ≤
        max c.cwnd c.peerWindow := hgrow.trans (le_max_right _ _)
    dsimp only
    omega

theorem recv_spec (ns nr : UInt16) (now : Nat) (sendOk : UInt16 → Bool) :
    ((c.recv ns nr now sendOk).1 = true ↔ ns = c.nr) ∧
      ∃ deadline, (c.recv ns nr now sendOk).2 =
        ({ (c.ackThrough nr now sendOk).1 with
            nr := if ns = c.nr then c.nr + 1 else c.nr, zlbDeadline := deadline },
          (c.ackThrough nr now sendOk).2) := by
  obtain ⟨-, -, -, -, -, -, hnr, -⟩ := ackThrough_spec c nr now sendOk
  unfold recv
  dsimp only
  rw [hnr]
  by_cases h : ns = c.nr
  · rw [if_neg (not_not.mpr h), if_pos h]
    exact ⟨by simp [h], _, rfl⟩
  · rw [if_pos h, if_neg h, ← hnr]
    exact ⟨by simp [h, hnr], _, rfl⟩

variable {q q' : List (PendingMsg B)}

theorem inflight_eq_of_inFlight_eq
    (h : q'.map PendingMsg.inFlight = q.map PendingMsg.inFlight) : inflight q' = inflight q := by
  have hcount := congrArg (countP id) h
  rw [countP_map, countP_map] at hcount
  exact hcount

theorem Windowed.of_inFlight_eq (hq : Windowed q)
    (h : q'.map PendingMsg.inFlight = q.map PendingMsg.inFlight) : Windowed q' := by
  induction hq generalizing q' with
  | waiting hwait =>
    refine .waiting fun m hm => ?_
    have hmem := mem_map_of_mem (f := PendingMsg.inFlight) hm
    rw [h, List.mem_map] at hmem
    obtain ⟨x, hx, hxm⟩ := hmem
    rw [← hxm]
    exact hwait x hx
  | flying hm _ ih =>
    obtain ⟨m', q'', rfl, hm', htail⟩ := map_eq_cons_iff.mp h
    exact .flying (hm'.trans hm) (ih htail)

/-- What the timer does: it keeps the queue or gives the peer up, and sends
messages in flight and pure acknowledgements. -/
structure Ticks (c : ControlChannel B) (now : Nat) (dead : Bool) (c' : ControlChannel B)
    (ps : List (Packet B)) : Prop where
  ns : c'.ns = c.ns
  nr : c'.nr = c.nr
  peerWindow : c'.peerWindow = c.peerWindow
  cwnd : c'.cwnd = c.cwnd ∧ c'.ssthresh = c.ssthresh ∨ c'.cwnd = 1 ∧ 1 ≤ c'.ssthresh
  gone : dead = true → c'.queue = []
  resent : dead = false → Forall₂ (c.Resent now) c.queue c'.queue
  packets : ∀ p ∈ ps, p.nr = c.nr ∧ ∀ body, p.body = some body →
    ∃ m ∈ c.queue, m.inFlight = true ∧ p = m.packet c.nr

section
variable {c c' : ControlChannel B} {now : Nat} {dead : Bool} {ps : List (Packet B)}

theorem Ticks.content (h : Ticks c now dead c' ps) (hd : dead = false) :
    c'.queue.map PendingMsg.content = c.queue.map PendingMsg.content :=
  c.map_eq_of_resent now (h.resent hd) fun _ _ => rfl

theorem Ticks.inFlight (h : Ticks c now dead c' ps) (hd : dead = false) :
    c'.queue.map PendingMsg.inFlight = c.queue.map PendingMsg.inFlight :=
  c.map_eq_of_resent now (h.resent hd) fun m hm => hm ▸ by simp [PendingMsg.inFlight, resend]

end

theorem emitZLB_spec : (∃ deadline, (c.emitZLB now sendOk).1 = { c with zlbDeadline := deadline }) ∧
      ∀ p ∈ (c.emitZLB now sendOk).2, p = ⟨none, 0, c.ns, c.nr⟩ := by
  unfold emitZLB
  split
  · exact ⟨⟨c.zlbDeadline, rfl⟩, by simp⟩
  · split
    · exact ⟨⟨c.zlbDeadline, rfl⟩, by simp⟩
    · refine ⟨⟨none, rfl⟩, fun p hp => ?_⟩
      split at hp
      · exact mem_singleton.mp hp
      · simp at hp

theorem ticks_tick :
    Ticks c now (c.tick now sendOk).1 (c.tick now sendOk).2.1 (c.tick now sendOk).2.2 := by
  obtain ⟨ps, cwnd, ssthresh, queue, heq, hps, hcwnd, hq⟩ :=
    retransmit_spec c now sendOk c.cwnd c.ssthresh c.queue
  have hdata : ∀ p ∈ ps, p.nr = c.nr ∧ ∀ body, p.body = some body →
      ∃ m ∈ c.queue, m.inFlight = true ∧ p = m.packet c.nr := by
    intro p hp
    obtain ⟨m, hm, hfly, heq⟩ := hps p hp
    exact ⟨by rw [heq]; rfl, fun _ _ => ⟨m, hm, hfly, heq⟩⟩
  unfold tick
  rw [heq]
  cases queue with
  | none => exact ⟨rfl, rfl, rfl, hcwnd, fun _ => rfl, by simp, hdata⟩
  | some queue =>
    obtain ⟨⟨deadline, hc⟩, hzlb⟩ := emitZLB_spec { c with
      cwnd := cwnd, ssthresh := ssthresh, queue := queue,
      nextRTO := recomputeNextRTO queue } now sendOk
    dsimp only
    rw [hc]
    refine ⟨rfl, rfl, rfl, hcwnd, by simp, fun _ => hq queue rfl, fun p hp => ?_⟩
    rw [mem_append] at hp
    rcases hp with hp | hp
    · exact hdata p hp
    · rw [hzlb p hp]
      exact ⟨rfl, by simp⟩

end ControlChannel
end Osvbng.L2tp

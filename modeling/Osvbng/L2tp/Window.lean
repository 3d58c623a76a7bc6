import Mathlib.Data.Nat.Find
import Osvbng.L2tp.ControlChannel
import Osvbng.Lib.Run

/-!
# The window of a control channel

What holds of one channel over any run of its operations (`Inv`), what an
acknowledgement removes from its queue, and when the timeouts of a message grow. The
serial comparison takes every number up to 2^15 ahead for a later one, whether it has
been sent or not, and the back-off is shifted before it is capped.
-/

namespace Osvbng.L2tp.ControlChannel
open List Lib Nat
variable {B : Type} {c : ControlChannel B} {q q' : List (PendingMsg B)} {m : PendingMsg B}

inductive Op (B : Type) where
  | setPeerWindow (rws : Int)
  | send (body : B) (sessionID : UInt16)
  | recv (ns nr : UInt16)
  | tick
deriving DecidableEq

structure Input (B : Type) where
  op : Op B
  now : Nat
  sendOk : UInt16 → Bool

def apply (c : ControlChannel B) (i : Input B) : ControlChannel B × List (Packet B) :=
  match i.op with
  | .setPeerWindow rws => (c.setPeerWindow rws, [])
  | .send body sessionID => c.sendSession body sessionID i.now i.sendOk
  | .recv ns nr => (c.recv ns nr i.now i.sendOk).2
  | .tick => (c.tick i.now i.sendOk).2

def machine (B : Type) : Machine (ControlChannel B) (Input B) where
  init c := ∃ cfg, c = newControlChannel cfg
  step c i c' := c' = (c.apply i).1

/-- The numbers from `n` on, ending just before `next`. -/
def Consecutive : UInt16 → List UInt16 → UInt16 → Prop
  | n, [], next => n = next
  | n, m :: l, next => m = n ∧ Consecutive (n + 1) l next

theorem Consecutive.append {n next : UInt16} {l : List UInt16} (h : Consecutive n l next) :
    Consecutive n (l ++ [next]) (next + 1) := by
  induction l generalizing n with
  | nil =>
    cases h
    exact ⟨rfl, rfl⟩
  | cons m l ih => exact ⟨h.1, ih h.2⟩

theorem Consecutive.drop {n next : UInt16} {l l' : List UInt16}
    (h : Consecutive n (l ++ l') next) : ∃ n', Consecutive n' l' next := by
  induction l generalizing n with
  | nil => exact ⟨n, h⟩
  | cons m l ih => exact ih h.2

structure Inv (c : ControlChannel B) : Prop where
  numbered : ∃ n, Consecutive n (c.queue.map PendingMsg.ns) c.ns
  /-- The transmitted messages come first. -/
  windowed : Windowed c.queue
  cwnd : 1 ≤ c.cwnd ∧ c.cwnd ≤ c.peerWindow
  ssthresh : 1 ≤ c.ssthresh

/-- A transmission does not put more messages in flight than the window holds. -/
def Fits (c : ControlChannel B) (i : Input B) : Prop :=
  match i.op with
  | .tick => inflight (c.apply i).1.queue ≤ inflight c.queue
  | _ => (c.apply i).2 ≠ [] → inflight (c.apply i).1.queue ≤ (c.apply i).1.peerWindow

theorem map_ns_eq (h : q'.map PendingMsg.content = q.map PendingMsg.content) :
    q'.map PendingMsg.ns = q.map PendingMsg.ns := by
  have hns := congrArg (map fun x => x.2.2) h
  rwa [map_map, map_map] at hns

theorem lt_of_driveQueue {nr : UInt16} {cwnd deadline n : Nat} {sendOk : UInt16 → Bool}
    (h : (driveQueue nr cwnd deadline sendOk n q).2.1 ≠ []) : n < cwnd := by
  induction q with
  | nil => exact absurd rfl h
  | cons m q ih =>
    unfold driveQueue at h
    split at h
    · exact ih h
    · split at h
      · exact absurd rfl h
      · omega

theorem Inv.driveSend (h : Inv c) (now : Nat) (sendOk : UInt16 → Bool) :
    Inv (c.driveSend now sendOk).1 ∧ ((c.driveSend now sendOk).2 ≠ [] →
      inflight (c.driveSend now sendOk).1.queue ≤ (c.driveSend now sendOk).1.peerWindow) := by
  obtain ⟨hs, -, -, -, -⟩ := driveSend_spec c now sendOk
  refine ⟨⟨?_, hs.windowed h.windowed, h.cwnd, h.ssthresh⟩, fun hps => ?_⟩
  · rw [map_ns_eq hs.content]
    exact h.numbered
  · have hlt : inflight c.queue < c.cwnd := lt_of_driveQueue hps
    have hbound := hs.bound
    have hcwnd : c.cwnd ≤ (c.driveSend now sendOk).1.peerWindow := h.cwnd.2
    omega

theorem iterate_growCwndOnAck {peerWindow cwnd : Nat} (h : 1 ≤ cwnd ∧ cwnd ≤ peerWindow)
    (n : Nat) : 1 ≤ (growCwndOnAck peerWindow)^[n] cwnd ∧
      (growCwndOnAck peerWindow)^[n] cwnd ≤ peerWindow := by
  induction n with
  | zero => exact h
  | succ n ih =>
    rw [Function.iterate_succ_apply', growCwndOnAck]
    omega

theorem Inv.ackThrough (h : Inv c) (nr : UInt16) (now : Nat) (sendOk : UInt16 → Bool) :
    Inv (c.ackThrough nr now sendOk).1 ∧ ((c.ackThrough nr now sendOk).2 ≠ [] →
      inflight (c.ackThrough nr now sendOk).1.queue ≤
        (c.ackThrough nr now sendOk).1.peerWindow) := by
  unfold ControlChannel.ackThrough
  dsimp only
  split
  · exact ⟨h, fun hps => absurd rfl hps⟩
  · refine Inv.driveSend (c := { c with queue := _, cwnd := _ })
      ⟨?_, h.windowed.dropWhile _, iterate_growCwndOnAck h.cwnd _, h.ssthresh⟩ now sendOk
    obtain ⟨n, hn⟩ := h.numbered
    rw [← takeWhile_append_dropWhile (p := fun m => m.inFlight && seqLess m.ns nr)
      (l := c.queue), map_append] at hn
    exact hn.drop

theorem Inv.apply (h : Inv c) (i : Input B) : Inv (c.apply i).1 ∧ c.Fits i := by
  unfold Fits ControlChannel.apply
  cases hop : i.op with
  | setPeerWindow rws =>
    have hcwnd := h.cwnd
    have hssthresh := h.ssthresh
    refine ⟨⟨h.numbered, h.windowed, ?_, ?_⟩, fun hps => absurd rfl hps⟩
    · dsimp only [setPeerWindow]
      split <;> omega
    · dsimp only [setPeerWindow]
      split <;> omega
  | send body sessionID =>
    refine Inv.driveSend (c := { c with queue := _, ns := _ })
      ⟨?_, h.windowed.append rfl, h.cwnd, h.ssthresh⟩ i.now i.sendOk
    obtain ⟨n, hn⟩ := h.numbered
    refine ⟨n, ?_⟩
    rw [map_append]
    exact hn.append
  | recv ns nr =>
    obtain ⟨-, deadline, hrecv⟩ := recv_spec c ns nr i.now i.sendOk
    obtain ⟨hinv, hfits⟩ := h.ackThrough nr i.now i.sendOk
    dsimp only
    rw [hrecv]
    exact ⟨⟨hinv.numbered, hinv.windowed, hinv.cwnd, hinv.ssthresh⟩, hfits⟩
  | tick =>
    have ht := ticks_tick c i.now i.sendOk
    dsimp only
    have hcwnd := h.cwnd
    have hssthresh := h.ssthresh
    have hpeer := ht.peerWindow
    have hwindow := ht.cwnd
    cases hdead : (c.tick i.now i.sendOk).1 with
    | true =>
      have hgone := ht.gone hdead
      refine ⟨⟨?_, ?_, by omega, by omega⟩, ?_⟩
      · rw [hgone]
        exact ⟨_, rfl⟩
      · rw [hgone]
        exact .waiting (by simp)
      · rw [hgone]
        exact zero_le _
    | false =>
      have hfly := ht.inFlight hdead
      refine ⟨⟨?_, h.windowed.of_inFlight_eq hfly, by omega, by omega⟩, ?_⟩
      · rw [map_ns_eq (ht.content hdead), ht.ns]
        exact h.numbered
      · exact (inflight_eq_of_inFlight_eq hfly).le

/-- The queue is numbered up to the next number and its transmitted messages come first, the
windows are in order, and no operation puts more messages in flight than the peer takes. -/
theorem inv_of_reach (h : (machine B).Reach (fun _ _ => True) c) (i : Input B) :
    Inv c ∧ c.Fits i := by
  have hinv : Inv c := by
    refine h.invariant Inv ?_ fun c i c' hc _ hstep => ?_
    · rintro _ ⟨cfg, rfl⟩
      have hwindow : 1 ≤ orDefault cfg.peerRWS defaultReceiveWindow := by
        unfold orDefault
        split
        · decide
        · omega
      exact ⟨⟨0, rfl⟩, .waiting (by simp [newControlChannel]), ⟨le_rfl, hwindow⟩, hwindow⟩
    · rw [show c' = (c.apply i).1 from hstep]
      exact (hc.apply i).1
  exact ⟨hinv, (hinv.apply i).2⟩

def start : ControlChannel Nat := newControlChannel ⟨0, 0, 0, 0, 0⟩

def sentOne : ControlChannel Nat := (start.apply ⟨.send 7 0, 5, fun _ => true⟩).1

theorem reach_sentOne : (machine Nat).Reach (fun _ _ => True) sentOne :=
  .step (.init ⟨_, rfl⟩) trivial (rfl : _ = (start.apply ⟨.send 7 0, 5, fun _ => true⟩).1)

/-- Two more messages; the first one is acknowledged, the peer takes two, and the others
are sent again. -/
def resent : ControlChannel Nat :=
  ([.send 8 0, .send 9 0, .recv 0 1, .setPeerWindow 2, .tick].map fun op =>
    (⟨op, if op = .tick then 10 ^ 10 else 6, fun _ => true⟩ : Input Nat)).foldl
      (fun c i => (c.apply i).1) sentOne

theorem reach_foldl {is : List (Input B)} (h : (machine B).Reach (fun _ _ => True) c) :
    (machine B).Reach (fun _ _ => True) (is.foldl (fun c i => (c.apply i).1) c) := by
  induction is generalizing c with
  | nil => exact h
  | cons i is ih => exact ih (h.step trivial rfl)

theorem inv_of_reach_sent : resent.queue.map (·.attempts) = [2, 2] ∧ resent.peerWindow = 2 ∧
    Inv resent ∧ resent.Fits ⟨.recv 0 2, 10 ^ 10 + 1, fun _ => true⟩ :=
  ⟨rfl, rfl, inv_of_reach (reach_foldl reach_sentOne) _⟩

/-! ## Acknowledgements -/

theorem seqLess_iff (a b : UInt16) :
    seqLess a b = true ↔ 0 < (b - a).toNat ∧ (b - a).toNat ≤ 32768 := by
  have htop : (a - b) &&& 0x8000 ≠ 0 ↔ 32768 ≤ (a - b).toNat := by
    rw [Ne, ← UInt16.toNat_inj, UInt16.toNat_and]
    have hpow : (0x8000 : UInt16).toNat = 2 ^ 15 := rfl
    have hlt := (a - b).toNat_lt
    rw [hpow, and_two_pow, testBit_eq_decide_div_mod_eq]
    by_cases h : (a - b).toNat / 2 ^ 15 % 2 = 1
    · rw [decide_eq_true h]
      exact iff_of_true (by decide) (by omega)
    · rw [decide_eq_false h]
      exact iff_of_false (by decide) (by omega)
  rw [seqLess, Serial.less, decide_eq_true_iff, htop, UInt16.toNat_sub, UInt16.toNat_sub]
  have ha := a.toNat_lt
  have hb := b.toNat_lt
  omega

/-- What an acknowledgement removes, by its distance from the first number of the queue. -/
theorem dropWhile_seqLess {n next : UInt16} (hn : Consecutive n (q.map PendingMsg.ns) next)
    (hw : Windowed q) (nr : UInt16) :
    (q.dropWhile fun m => m.inFlight && seqLess m.ns nr) =
      q.drop (if (nr - n).toNat ≤ 32768 then min (nr - n).toNat (inflight q) else 0) := by
  induction q generalizing n with
  | nil => simp
  | cons m q ih =>
    obtain ⟨hm, hn⟩ := hn
    have hless := seqLess_iff m.ns nr
    rw [hm] at hless
    rw [dropWhile_cons, hm]
    cases hfly : m.inFlight with
    | false =>
      have hnone : inflight (m :: q) = 0 := by
        cases hw with
        | waiting hwait => exact countP_eq_zero.mpr fun x hx => by simp [hwait x hx]
        | flying htrue => simp [hfly] at htrue
      simp [hnone]
    | true =>
      rw [inflight_cons_of_true q hfly, Bool.true_and]
      by_cases hd : 0 < (nr - n).toNat ∧ (nr - n).toNat ≤ 32768
      · have hnext : (nr - (n + 1)).toNat = (nr - n).toNat - 1 := by
          have hpos := hd.1
          rw [UInt16.toNat_sub] at hpos ⊢
          rw [UInt16.toNat_sub, UInt16.toNat_add]
          have hn := n.toNat_lt
          simp only [UInt16.reduceToNat] at *
          omega
        rw [if_pos (hless.mpr hd), ih hn hw.tail, hnext, if_pos (by omega), if_pos hd.2,
          show min (nr - n).toNat (inflight q + 1) = min ((nr - n).toNat - 1) (inflight q) + 1 by
            omega, drop_succ_cons]
      · rw [if_neg (mt hless.mp hd)]
        have hzero : (if (nr - n).toNat ≤ 32768 then min (nr - n).toNat (inflight q + 1) else 0) =
            0 := by
          split <;> omega
        rw [hzero, drop_zero]

/-- On every run, an acknowledgement at distance `d` from the first of `k` transmitted messages
removes exactly the messages before it, and none if it is out of range, if and only if it is not
more than 2^15 ahead when in range, and is so when it is out of range. -/
theorem ackThrough_exact_iff (h : (machine B).Reach (fun _ _ => True) c) {n : UInt16}
    (hn : Consecutive n (c.queue.map PendingMsg.ns) c.ns) (nr : UInt16) (now : Nat)
    (sendOk : UInt16 → Bool) :
    (c.ackThrough nr now sendOk).1.queue.map PendingMsg.content =
        (c.queue.map PendingMsg.content).drop
          (if (nr - n).toNat ≤ inflight c.queue then (nr - n).toNat else 0) ↔
      ((nr - n).toNat ≤ inflight c.queue → (nr - n).toNat ≤ 32768) ∧
        (inflight c.queue < (nr - n).toNat → inflight c.queue = 0 ∨ 32768 < (nr - n).toNat) := by
  have hw := (inv_of_reach h ⟨.tick, 0, sendOk⟩).1.windowed
  have hqueue : (c.ackThrough nr now sendOk).1.queue.map PendingMsg.content =
      (c.queue.map PendingMsg.content).drop
        (if (nr - n).toNat ≤ 32768 then min (nr - n).toNat (inflight c.queue) else 0) := by
    rw [← map_drop, ← dropWhile_seqLess hn hw nr]
    unfold ackThrough
    dsimp only
    split
    · rw [(dropWhile_suffix _).eq_of_length_le (by omega)]
    · exact (driveSend_spec _ now sendOk).1.content
  have hlen := inflight_le_length c.queue
  rw [hqueue]
  constructor
  · intro heq
    have hlength := congrArg length heq
    simp only [length_drop, length_map] at hlength
    split at hlength <;> split at hlength <;> omega
  · intro hd
    congr 1
    split <;> split <;> omega

theorem ackThrough_exact_iff_next :
    (sentOne.ackThrough 1 6 fun _ => true).1.queue.map PendingMsg.content = [] :=
  (ackThrough_exact_iff reach_sentOne (n := 0) ⟨rfl, rfl⟩ 1 6 fun _ => true).mpr (by decide)

/-- One message is in flight, and an acknowledgement of five removes it. -/
theorem removed_by_unsent_number : ∃ c : ControlChannel Nat,
    (machine Nat).Reach (fun _ _ => True) c ∧ c.ns = 1 ∧ inflight c.queue = 1 ∧
      (c.ackThrough 5 6 fun _ => true).1.queue.length = 0 :=
  ⟨sentOne, reach_sentOne, rfl, rfl, rfl⟩

/-! ## Timeouts -/

theorem bmod_of_lt {x : Nat} (h : x < 2 ^ 63) : (x : Int).bmod (2 ^ 64) = x := by
  rw [Int.bmod_def]
  push_cast
  split <;> omega

theorem bmod_of_le {x : Nat} (h : 2 ^ 63 ≤ x) (hlt : x < 2 ^ 64) : (x : Int).bmod (2 ^ 64) < 0 := by
  rw [Int.bmod_def]
  push_cast
  split <;> omega

theorem timeout_of_lt {k : Nat} (h : c.rtoInitial * 2 ^ k < 2 ^ 63) :
    c.timeout k = min ((c.rtoInitial * 2 ^ k : Nat) : Int) c.rtoMax := by
  unfold timeout
  rw [bmod_of_lt h]

theorem timeout_of_le {k : Nat} (h : 2 ^ 63 ≤ c.rtoInitial * 2 ^ k)
    (hlt : c.rtoInitial * 2 ^ k < 2 ^ 64) : c.timeout k < 0 := by
  unfold timeout
  have hneg := bmod_of_le h hlt
  omega

/-- The timer resends a message after its transmission number `k` with the timeout `k`. These
grow from the initial to the maximal one if and only if no shift overflows. -/
theorem timeout_iff (c : ControlChannel B) (hpos : 0 < c.rtoInitial)
    (hle : c.rtoInitial ≤ c.rtoMax) (hmax : c.rtoMax < 2 ^ 63) :
    (∀ now sendOk, (c.tick now sendOk).1 = false →
        Forall₂ (c.Resent now) c.queue (c.tick now sendOk).2.1.queue) ∧
      ((∀ k, 0 < k → k < c.maxRetries → c.rtoInitial ≤ c.timeout k ∧ c.timeout k ≤ c.rtoMax ∧
          c.timeout (k - 1) ≤ c.timeout k) ↔ c.rtoInitial * 2 ^ (c.maxRetries - 1) < 2 ^ 63) := by
  refine ⟨fun now sendOk hlive => (ticks_tick c now sendOk).resent hlive, ?_⟩
  constructor
  · intro hproper
    -- the first shift that overflows gives a negative timeout
    by_contra hover
    have hex : ∃ k, 2 ^ 63 ≤ c.rtoInitial * 2 ^ k := ⟨_, not_lt.mp hover⟩
    obtain ⟨k, hk, hfirst⟩ : ∃ k, 2 ^ 63 ≤ c.rtoInitial * 2 ^ k ∧
        ∀ j < k, c.rtoInitial * 2 ^ j < 2 ^ 63 :=
      ⟨Nat.find hex, Nat.find_spec hex, fun j hj => not_le.mp (Nat.find_min hex hj)⟩
    have hkpos : k ≠ 0 := by
      rintro rfl
      omega
    have hklt : k < c.maxRetries := by
      by_contra hge
      exact hover (hfirst _ (by omega))
    have hhalf := hfirst (k - 1) (by omega)
    have hdouble : c.rtoInitial * 2 ^ k = c.rtoInitial * 2 ^ (k - 1) * 2 := by
      rw [Nat.mul_assoc, ← pow_succ, Nat.sub_add_cancel (by omega)]
    have hneg := timeout_of_le hk (by omega)
    have hge := (hproper k (by omega) hklt).1
    omega
  · intro hfits k hk hlt
    have hmono : ∀ {i j}, i ≤ j → c.rtoInitial * 2 ^ i ≤ c.rtoInitial * 2 ^ j := fun hij =>
      Nat.mul_le_mul_left _ (Nat.pow_le_pow_right (by decide) hij)
    have hlast : c.rtoInitial * 2 ^ k < 2 ^ 63 := (hmono (by omega)).trans_lt hfits
    have hprev := hmono (Nat.sub_le k 1)
    have hfirst := hmono (Nat.zero_le k)
    rw [timeout_of_lt hlast, timeout_of_lt (hprev.trans_lt hlast)]
    omega

theorem timeout_iff_default : start.timeout 3 ≤ start.timeout 4 :=
  ((timeout_iff start (by decide) (by decide) (by decide)).2.mpr (by decide) 4 (by decide)
    (by decide)).2.2

/-- With the default timeouts and forty retries, the timeout number 34 is negative. -/
theorem timeout_negative :
    (newControlChannel ⟨0, 0, 40, 0, 0⟩ : ControlChannel Nat).timeout 34 < 0 := by
  decide +kernel

end Osvbng.L2tp.ControlChannel

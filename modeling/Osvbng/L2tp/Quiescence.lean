import Osvbng.L2tp.Tunnel

/-!
# Acknowledgements of acknowledgements

Two channels without messages exchange packets for ever unless nothing is on its way and
no acknowledgement is owed: `recv` schedules an acknowledgement for every packet, the empty
ones included.
-/

namespace Osvbng.L2tp
open Function List Lib ControlChannel Option

structure Link (B : Type) where
  ends : Side → ControlChannel B
  /-- What is on its way to a side. -/
  net : Side → List (Packet B)
  sent : Nat

inductive LinkEvent where
  | tick (side : Side)
  | deliver (side : Side) (n : Nat)

structure LinkInput where
  event : LinkEvent
  now : Nat
  sendOk : UInt16 → Bool

namespace Link
variable {B : Type} {l l₀ : Link B} {side : Side} {c : ControlChannel B}

def put (l : Link B) (side : Side) (r : ControlChannel B × List (Packet B)) : Link B where
  ends := update l.ends side r.1
  net := update l.net side.other (l.net side.other ++ r.2)
  sent := l.sent + r.2.length

def next (l : Link B) (i : LinkInput) : Option (Link B) :=
  match i.event with
  | .tick side => some (l.put side ((l.ends side).tick i.now i.sendOk).2)
  | .deliver side n => (l.net side)[n]?.map fun p =>
    { l with net := update l.net side ((l.net side).eraseIdx n) }.put side
      ((l.ends side).recv p.ns p.nr i.now i.sendOk).2

abbrev Reach (l₀ : Link B) : Link B → Prop := (Machine.ofNext (· = l₀) next).Reach fun _ _ => True

theorem tick_of_idle (h : c.queue = []) (now : Nat) (sendOk : UInt16 → Bool) :
    (c.tick now sendOk).2 = { c with nextRTO := none }.emitZLB now sendOk := by
  cases c
  cases h
  rfl

theorem recv_of_idle (h : c.queue = []) (ns nr : UInt16) (now : Nat) (sendOk : UInt16 → Bool) :
    ∃ nr', (c.recv ns nr now sendOk).2 =
      ({ c with nr := nr', zlbDeadline := some (now + c.zlbDelay) }, []) := by
  have hack : c.ackThrough nr now sendOk = (c, []) := by
    unfold ackThrough
    rw [h]
    rfl
  unfold recv
  rw [hack]
  dsimp only
  split
  · exact ⟨c.nr, rfl⟩
  · exact ⟨c.nr + 1, rfl⟩

theorem forall_ends_put {P : ControlChannel B → Prop} (h : ∀ side, P (l.ends side))
    {r : ControlChannel B × List (Packet B)} (hr : P r.1) :
    ∀ side', P ((l.put side r).ends side') :=
  (forall_update_iff l.ends fun _ c => P c).mpr ⟨hr, fun side' _ => h side'⟩

def Idle (l : Link B) : Prop := ∀ side, (l.ends side).queue = []

def Owes (l : Link B) (side : Side) : Prop := l.Idle ∧ (l.ends side).zlbDeadline.isSome

/-- A packet that arrives makes its receiver owe one. -/
theorem exists_owes_of_net (h : l.Idle) (hr : Reach l₀ l) (hnet : l.net side ≠ []) :
    ∃ l', Reach l₀ l' ∧ l'.sent = l.sent ∧ l'.Owes side := by
  obtain ⟨p, ps, hps⟩ := exists_cons_of_ne_nil hnet
  obtain ⟨nr, hrecv⟩ := recv_of_idle (h side) p.ns p.nr 0 fun _ => true
  refine ⟨_, hr.step (e := ⟨.deliver side 0, 0, fun _ => true⟩) trivial
    (congrArg (Option.map _) (congrArg (·[0]?) hps)), ?_⟩
  dsimp only
  rw [hrecv]
  exact ⟨rfl, forall_ends_put (P := fun c => c.queue = []) h (h side), by simp [put]⟩

theorem Owes.step (h : l.Owes side) (hr : Reach l₀ l) :
    ∃ l', Reach l₀ l' ∧ l'.sent = l.sent + 1 ∧ l'.Owes side.other := by
  obtain ⟨hidle, howes⟩ := h
  obtain ⟨deadline, hdeadline⟩ := isSome_iff_exists.mp howes
  have htick : ((l.ends side).tick deadline fun _ => true).2 =
      ({ l.ends side with nextRTO := none, zlbDeadline := none },
        [⟨none, 0, (l.ends side).ns, (l.ends side).nr⟩]) := by
    rw [tick_of_idle (hidle side)]
    simp [emitZLB, hdeadline]
  refine exists_owes_of_net (forall_ends_put (P := fun c => c.queue = []) hidle (hidle side))
    (hr.step (e := ⟨.tick side, deadline, fun _ => true⟩) trivial
      (congrArg (fun r => some (l.put side r)) htick)) ?_
  simp [put]

theorem Owes.unbounded (h : l.Owes side) (hr : Reach l₀ l) (n : Nat) :
    ∃ l' side, Reach l₀ l' ∧ n ≤ l'.sent ∧ l'.Owes side := by
  induction n with
  | zero => exact ⟨l, side, hr, Nat.zero_le _, h⟩
  | succ n ih =>
    obtain ⟨l', side', hr', hle, howes⟩ := ih
    obtain ⟨l'', hr'', hsent, howes'⟩ := howes.step hr'
    exact ⟨l'', side'.other, hr'', by omega, howes'⟩

def Quiet (l : Link B) : Prop :=
  (∀ side, (l.ends side).queue = [] ∧ (l.ends side).zlbDeadline = none) ∧ ∀ side, l.net side = []

theorem Quiet.next (h : l.Quiet) {i : LinkInput} {l' : Link B} (hs : l.next i = some l') :
    l'.Quiet ∧ l'.sent = l.sent := by
  unfold Link.next at hs
  split at hs
  · rename_i side _
    have htick : ((l.ends side).tick i.now i.sendOk).2 =
        ({ l.ends side with nextRTO := none }, []) := by
      rw [tick_of_idle (h.1 side).1]
      simp [emitZLB, (h.1 side).2]
    cases hs
    rw [htick]
    refine ⟨⟨forall_ends_put (P := fun c => c.queue = [] ∧ c.zlbDeadline = none) h.1 (h.1 side),
      fun side' => ?_⟩, rfl⟩
    show update l.net side.other (l.net side.other ++ []) side' = []
    rw [append_nil, update_eq_self, h.2]
  · rename_i side n _
    rw [h.2 side] at hs
    cases hs

/-- With empty queues the exchange stops if and only if it has already stopped. -/
theorem stops_iff (h : l.Idle) : (∃ n, ∀ l', Reach l l' → l'.sent ≤ n) ↔
    ∀ side, (l.ends side).zlbDeadline = none ∧ l.net side = [] := by
  constructor
  · rintro ⟨n, hn⟩ side
    have hnot l' side' : Reach l l' → ¬ l'.Owes side' := by
      intro hr howes
      obtain ⟨l'', -, hr'', hle, -⟩ := howes.unbounded hr (n + 1)
      have hmax := hn l'' hr''
      omega
    refine ⟨not_isSome_iff_eq_none.mp fun hsome => hnot l side (.init rfl) ⟨h, hsome⟩, ?_⟩
    by_contra hnet
    obtain ⟨l', hr, -, howes⟩ := exists_owes_of_net h (.init rfl) hnet
    exact hnot l' side hr howes
  · intro hquiet
    refine ⟨l.sent, fun l' hr => ?_⟩
    have hinv : l'.Quiet ∧ l'.sent = l.sent := by
      refine hr.invariant (fun l' => l'.Quiet ∧ l'.sent = l.sent) ?_ fun l' i l'' hl' _ hs => ?_
      · rintro _ rfl
        exact ⟨⟨fun side => ⟨h side, (hquiet side).1⟩, fun side => (hquiet side).2⟩, rfl⟩
      · obtain ⟨hq, hsent⟩ := hl'.1.next hs
        exact ⟨hq, hsent.trans hl'.2⟩
    exact hinv.2.le

def start (zlbs : List (Packet Nat)) : Link Nat where
  ends _ := newControlChannel ⟨0, 0, 0, 0, 0⟩
  net _ := zlbs
  sent := 0

theorem stops_iff_new : ∃ n, ∀ l', Reach (start []) l' → l'.sent ≤ n :=
  (stops_iff fun _ => rfl).mpr fun _ => ⟨rfl, rfl⟩

/-- Two new channels, and an empty packet on its way to each. -/
theorem never_stops : (start [⟨none, 0, 0, 0⟩]).Idle ∧
    ¬ ∃ n, ∀ l', Reach (start [⟨none, 0, 0, 0⟩]) l' → l'.sent ≤ n := by
  refine ⟨fun _ => rfl, fun ⟨n, hn⟩ => ?_⟩
  have hnet : (start [⟨none, 0, 0, 0⟩]).net .left ≠ [] := cons_ne_nil _ _
  obtain ⟨l, hr, -, howes⟩ := exists_owes_of_net (fun _ => rfl) (.init rfl) hnet
  obtain ⟨l', -, hr', hle, -⟩ := howes.unbounded hr (n + 1)
  have hmax := hn l' hr'
  omega

end Link
end Osvbng.L2tp

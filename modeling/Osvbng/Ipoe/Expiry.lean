import Osvbng.Ipoe.Session

/-!
# When a session is removed

A session should stay as long as one of its families is leased. Whether it does
depends on a state that only DHCPv4 writes: a session that is not in the state
`bound` goes two minutes after its last message, whatever its leases. And a restart
drops a session when the first of its leases has ended.

`Life.keeps_leased`: in runs where every session that is looked at is bound or has
sent a message lately, where the record in the database is up to date at a restart
and the leases of the two families end on the same side of it, where nothing happens
in the middle of a clean-up pass and where no prefix outlives its address, no session
is removed early. Each of the conditions is needed: `leased_session_dropped`.
-/

namespace Osvbng.Ipoe
open Option List Lib Lib.NetIP Inv Bool Machine UInt32
namespace SessionState

structure SameLeases (s t : SessionState) : Prop where
  ipv4 : s.ipv4 = t.ipv4
  leaseTime : s.leaseTime = t.leaseTime
  boundAt : s.boundAt = t.boundAt
  ipv6Bound : s.ipv6Bound = t.ipv6Bound
  ipv6LeaseTime : s.ipv6LeaseTime = t.ipv6LeaseTime
  ipv6BoundAt : s.ipv6BoundAt = t.ipv6BoundAt

variable {s t u : SessionState} {now : Nat}

theorem SameLeases.refl (s : SessionState) : SameLeases s s := ⟨rfl, rfl, rfl, rfl, rfl, rfl⟩

variable (h : SameLeases s t)
include h

theorem SameLeases.trans (h' : SameLeases t u) : SameLeases s u where
  ipv4 := h.ipv4.trans h'.ipv4
  leaseTime := h.leaseTime.trans h'.leaseTime
  boundAt := h.boundAt.trans h'.boundAt
  ipv6Bound := h.ipv6Bound.trans h'.ipv6Bound
  ipv6LeaseTime := h.ipv6LeaseTime.trans h'.ipv6LeaseTime
  ipv6BoundAt := h.ipv6BoundAt.trans h'.ipv6BoundAt

theorem SameLeases.symm : SameLeases t s where
  ipv4 := h.ipv4.symm
  leaseTime := h.leaseTime.symm
  boundAt := h.boundAt.symm
  ipv6Bound := h.ipv6Bound.symm
  ipv6LeaseTime := h.ipv6LeaseTime.symm
  ipv6BoundAt := h.ipv6BoundAt.symm

theorem SameLeases.end4 : s.end4 = t.end4 := by
  unfold SessionState.end4
  rw [h.boundAt, h.leaseTime]

theorem SameLeases.end6 : s.end6 = t.end6 := by
  unfold SessionState.end6
  rw [h.ipv6BoundAt, h.ipv6LeaseTime]

omit h

theorem sameLeases_seen : SameLeases (s.seen now) s := by
  unfold seen
  split
  · exact SameLeases.refl s
  · exact { SameLeases.refl s with }

theorem v4Active_of_lt (hip : s.ipv4 ≠ []) (hbound : 0 < s.boundAt) (hnow : s.boundAt ≤ now)
    (hlt : now < s.end4) : s.v4Active = true := by
  have htime : 0 < s.leaseTime := by
    rw [lt_iff_toNat_lt]
    unfold end4 at hlt
    by_contra hzero
    have hzero : s.leaseTime.toNat = 0 := by simpa using hzero
    rw [hzero] at hlt
    omega
  have hne : s.boundAt ≠ 0 := by omega
  simp [v4Active, hip, htime, hne]

theorem v6Active_of_lt (hv6 : s.ipv6Bound = true) (hbound : 0 < s.ipv6BoundAt)
    (hnow : s.ipv6BoundAt ≤ now) (hlt : now < s.end6) : s.v6Active = true := by
  have htime : 0 < s.ipv6LeaseTime := by
    rw [lt_iff_toNat_lt]
    unfold end6 at hlt
    by_contra hzero
    have hzero : s.ipv6LeaseTime.toNat = 0 := by simpa using hzero
    rw [hzero] at hlt
    omega
  have hne : s.ipv6BoundAt ≠ 0 := by omega
  simp [v6Active, hv6, htime, hne]

theorem sessionPastLease_spec (h : s.sessionPastLease now = true) :
    (s.v4Active = true → s.end4 ≤ now) ∧ (s.v6Active = true → s.end6 ≤ now) := by
  unfold sessionPastLease at h
  constructor
  · intro hactive
    by_contra hlt
    have hgrace : now < s.end4 + leaseGrace s.leaseTime := by omega
    simp [hactive, hgrace] at h
  · intro hactive
    by_contra hlt
    have hgrace : now < s.end6 + leaseGrace s.ipv6LeaseTime := by omega
    simp [hactive, hgrace] at h

def SomeEnded (s : SessionState) (now : Nat) : Prop :=
  (s.ipv4 ≠ [] ∧ s.end4 < now) ∨ (s.ipv6Bound = true ∧ s.end6 < now)

def EndTogether (s : SessionState) (now : Nat) : Prop :=
  s.ipv4 ≠ [] → s.ipv6Bound = true → (s.end4 < now ↔ s.end6 < now)
deriving Decidable

theorem someEnded_of_expired (h : s.isSessionExpired now = true) : s.SomeEnded now := by
  unfold isSessionExpired at h
  split at h
  · cases h
  · split at h
    · rename_i h4
      simp only [v4Active, and_eq_true, decide_eq_true_eq] at h4
      exact .inl ⟨h4.1.1.1, h4.2⟩
    · split at h
      · rename_i h6
        simp only [v6Active, and_eq_true, decide_eq_true_eq] at h6
        exact .inr ⟨h6.1.1.1, h6.2⟩
      · cases h

theorem SameLeases.someEnded (h : SameLeases s t) (hended : s.SomeEnded now) : t.SomeEnded now := by
  unfold SomeEnded at hended
  rw [h.ipv4, h.end4, h.ipv6Bound, h.end6] at hended
  exact hended

end SessionState

/-- What may happen between the two halves of a clean-up pass. -/
def Event.quiet : Event → Bool
  | .sweep _ | .persist _ | .restart _ _ => true
  | _ => false

namespace Life
open SessionState
variable {l l' : Life} {s t : SessionState} {now : Nat}

/-- A state of the session records the leases that the client has. -/
structure Tells (l : Life) (s : SessionState) : Prop where
  v4 : s.ipv4 ≠ [] → 0 < s.boundAt ∧ s.boundAt ≤ l.clock ∧ l.lease4 = s.end4
  v6 : s.ipv6Bound = true → 0 < s.ipv6BoundAt ∧ s.ipv6BoundAt ≤ l.clock ∧ l.lease6 = s.end6

theorem Tells.of_same (h : Tells l s) (hsame : SameLeases t s) : Tells l t where
  v4 hip := by
    rw [hsame.boundAt, hsame.end4]
    exact h.v4 (hsame.ipv4 ▸ hip)
  v6 hv6 := by
    rw [hsame.ipv6BoundAt, hsame.end6]
    exact h.v6 (hsame.ipv6Bound ▸ hv6)

theorem Tells.mono (h : Tells l s) (hclock : l.clock ≤ l'.clock) (h4 : l'.lease4 = l.lease4)
    (h6 : l'.lease6 = l.lease6) : Tells l' s where
  v4 hip := by
    obtain ⟨hpos, hle, heq⟩ := h.v4 hip
    exact ⟨hpos, hle.trans hclock, h4.trans heq⟩
  v6 hv6 := by
    obtain ⟨hpos, hle, heq⟩ := h.v6 hv6
    exact ⟨hpos, hle.trans hclock, h6.trans heq⟩

theorem Tells.not_leased_of_past (h : Tells l l.sess) (hnow : l.clock ≤ now)
    (hpast : l.sess.sessionPastLease now = true) : ¬ l.Leased now := by
  obtain ⟨hpast4, hpast6⟩ := sessionPastLease_spec hpast
  rintro (⟨hip, hlt⟩ | ⟨hv6, hlt⟩)
  · obtain ⟨hpos, hle, heq⟩ := h.v4 hip
    rw [heq] at hlt
    have hend := hpast4 (v4Active_of_lt hip hpos (hle.trans hnow) hlt)
    omega
  · obtain ⟨hpos, hle, heq⟩ := h.v6 hv6
    rw [heq] at hlt
    have hend := hpast6 (v6Active_of_lt hv6 hpos (hle.trans hnow) hlt)
    omega

theorem Tells.not_leased_of_ended (h : Tells l l.sess) (hend : l.sess.EndTogether now)
    (hended : l.sess.SomeEnded now) : ¬ l.Leased now := by
  rintro (⟨hip, hlt⟩ | ⟨hv6, hlt⟩)
  · rw [(h.v4 hip).2.2] at hlt
    rcases hended with ⟨-, hend4⟩ | ⟨hv6, hend6⟩
    · omega
    · have hend4 := (hend hip hv6).mpr hend6
      omega
  · rw [(h.v6 hv6).2.2] at hlt
    rcases hended with ⟨hip, hend4⟩ | ⟨-, hend6⟩
    · have hend6 := (hend hip hv6).mp hend4
      omega
    · omega

theorem Leased.anti {now' : Nat} (h : l.Leased now') (hle : now ≤ now') : l.Leased now := by
  rcases h with ⟨hip, hlt⟩ | ⟨hv6, hlt⟩
  · exact .inl ⟨hip, hle.trans_lt hlt⟩
  · exact .inr ⟨hv6, hle.trans_lt hlt⟩

def latest (l : Life) : Option SessionState := l.writes.getLast?.or l.record

structure Inv (l : Life) : Prop where
  clock : 0 < l.clock
  tells : Tells l l.sess
  latest : ∀ s, l.latest = some s → Tells l s ∧ (l.present = true → SameLeases s l.sess)
  toDelete : l.toDelete.isSome = true → ∀ now, l.clock ≤ now → ¬ l.Leased now
  dropped : l.dropped = false

theorem Inv.advance (h : Inv l) (hadv : l.advance now = some l') :
    Inv l' ∧ l.clock ≤ now ∧ l' = { l with clock := now } := by
  unfold Life.advance at hadv
  obtain ⟨hle, hadv⟩ := ite_none_right_eq_some.mp hadv
  cases hadv
  refine ⟨?_, hle, rfl⟩
  constructor
  · exact h.clock.trans_le hle
  · exact h.tells.mono hle rfl rfl
  · intro s hs
    obtain ⟨htells, hsame⟩ := h.latest s hs
    exact ⟨htells.mono hle rfl rfl, hsame⟩
  · intro hsome now' hnow'
    exact h.toDelete hsome now' (hle.trans hnow')
  · exact h.dropped

theorem Inv.change (h : Inv l) (hsame : SameLeases s l.sess) : Inv { l with sess := s } where
  clock := h.clock
  tells := (h.tells.of_same hsame).mono le_rfl rfl rfl
  latest t ht := by
    obtain ⟨htells, hsame'⟩ := h.latest t ht
    exact ⟨htells.mono le_rfl rfl rfl, fun hp => (hsame' hp).trans hsame.symm⟩
  toDelete hsome now hnow hleased := by
    apply h.toDelete hsome now hnow
    unfold Leased at hleased ⊢
    rwa [hsame.ipv4, hsame.ipv6Bound] at hleased
  dropped := h.dropped

theorem Inv.found (h : Inv l) {f : SessionState → SessionState} (hl' : l.found f = some l')
    (hf : SameLeases (f l.sess) l.sess) : Inv l' := by
  unfold Life.found at hl'
  split at hl'
  · cases hl'
    exact h.change hf
  · cases hl'

theorem latest_checkpointSession (l : Life) : l.checkpointSession.latest = some l.sess := by
  unfold latest checkpointSession
  simp

/-- The session and its record have the same leases, and those are the client's. -/
theorem Inv.of_latest (hclock : 0 < l.clock) (htells : Tells l s) (hsess : SameLeases l.sess s)
    (hlatest : ∀ t, l.latest = some t → SameLeases t s) (htoDelete : l.toDelete = none)
    (hdropped : l.dropped = false) : Inv l where
  clock := hclock
  tells := htells.of_same hsess
  latest t ht := by
    have hsame := hlatest t ht
    exact ⟨htells.of_same hsame, fun _ => hsame.trans hsess.symm⟩
  toDelete hsome := by
    rw [htoDelete] at hsome
    cases hsome
  dropped := hdropped

theorem Inv.checkpoint (hclock : 0 < l.clock) (htells : Tells l l.sess)
    (htoDelete : l.toDelete = none) (hdropped : l.dropped = false) :
    Inv l.checkpointSession := by
  refine of_latest hclock (htells.mono le_rfl rfl rfl) (.refl _) ?_ htoDelete hdropped
  intro t ht
  rw [latest_checkpointSession] at ht
  cases ht
  exact .refl _

theorem Inv.removed {r : Option SessionState} (h : Inv l) (htells : Tells l s)
    (hr : r = l.record ∨ r = none) :
    Inv { l with sess := s, present := false, toDelete := none, record := r } where
  clock := h.clock
  tells := htells.mono le_rfl rfl rfl
  latest t ht := by
    have hlatest : l.latest = some t := by
      rcases hr with rfl | rfl
      · exact ht
      · unfold Life.latest at ht ⊢
        rw [or_none] at ht
        rw [ht, some_or]
    exact ⟨(h.latest t hlatest).1.mono le_rfl rfl rfl, nofun⟩
  toDelete := nofun
  dropped := h.dropped

variable (h : Inv l)
include h

theorem Inv.persist (hl' : l.persist 0 = some l') : Inv l' := by
  unfold Life.persist at hl'
  cases hwrites : l.writes with
  | nil =>
    rw [hwrites] at hl'
    cases hl'
  | cons w rest =>
    rw [hwrites] at hl'
    cases hl'
    have hlatest : l.latest = rest.getLast?.or (some w) := by
      unfold Life.latest
      rw [hwrites, getLast?_cons, some_or]
      cases rest.getLast? <;> rfl
    constructor
    · exact h.clock
    · exact h.tells.mono le_rfl rfl rfl
    · intro s hs
      obtain ⟨htells, hsame⟩ := h.latest s (hlatest.trans hs)
      exact ⟨htells.mono le_rfl rfl rfl, hsame⟩
    · exact h.toDelete
    · exact h.dropped

theorem Inv.restoreSessions (hwrites : l.writes = []) (htoDelete : l.toDelete = none)
    (programmed : Bool) : Inv (l.restoreSessions now programmed) := by
  have hlatest : l.latest = l.record := by
    unfold Life.latest
    rw [hwrites]
    rfl
  unfold Life.restoreSessions
  split
  · exact h
  · rename_i sess hrecord
    rw [hrecord] at hlatest
    have htells := (h.latest sess hlatest).1
    split
    · refine ⟨h.clock, h.tells.mono le_rfl rfl rfl, ?_, h.toDelete, h.dropped⟩
      intro t ht
      rw [hwrites] at ht
      cases ht
    · split
      · refine of_latest h.clock (htells.mono le_rfl rfl rfl) ?_ ?_ htoDelete h.dropped
        · exact ⟨rfl, rfl, rfl, rfl, rfl, rfl⟩
        · intro t ht
          rw [hwrites] at ht
          cases ht
          exact ⟨rfl, rfl, rfl, rfl, rfl, rfl⟩
      · split
        · refine of_latest h.clock (htells.mono le_rfl rfl rfl) ?_ ?_ htoDelete h.dropped
          · exact ⟨rfl, rfl, rfl, rfl, rfl, rfl⟩
          · intro t ht
            rw [latest_checkpointSession] at ht
            cases ht
            exact ⟨rfl, rfl, rfl, rfl, rfl, rfl⟩
        · refine of_latest h.clock (htells.mono le_rfl rfl rfl) ?_ ?_ htoDelete h.dropped
          · exact ⟨rfl, rfl, rfl, rfl, rfl, rfl⟩
          · intro t ht
            have hsome : some sess = some t := hlatest.symm.trans ht
            cases hsome
            exact .refl _

theorem Inv.restart (hwrites : l.writes = []) (hend : l.sess.EndTogether now)
    (programmed : Bool) : Inv (l.restart now programmed) := by
  have hkept : (l.record.any (·.isSessionExpired now) && l.present && decide (l.Leased now)) =
      false := by
    by_contra htrue
    rw [not_eq_false, and_eq_true, and_eq_true, decide_eq_true_eq,
      Option.any_eq_true] at htrue
    obtain ⟨⟨⟨sess, hrecord, hexpired⟩, hpresent⟩, hleased⟩ := htrue
    have hlatest : l.latest = some sess := by
      unfold Life.latest
      rw [hwrites, hrecord]
      rfl
    have hsame := (h.latest sess hlatest).2 hpresent
    exact h.tells.not_leased_of_ended hend (hsame.someEnded (someEnded_of_expired hexpired)) hleased
  refine restoreSessions ?_ rfl rfl programmed
  have hgone := h.removed (h.tells) (.inl rfl)
  refine ⟨hgone.clock, hgone.tells.mono le_rfl rfl rfl, ?_, nofun, ?_⟩
  · intro s hs
    have hs : l.latest = some s := by
      unfold Life.latest
      rw [hwrites]
      exact hs
    exact ⟨(h.latest s hs).1.mono le_rfl rfl rfl, nofun⟩
  · rw [h.dropped, hkept]
    rfl

theorem Inv.sweep (hl' : l.sweep l.clock = some l') : Inv l' := by
  obtain ⟨generation, htoDelete, hl'⟩ := map_eq_some_iff.mp hl'
  have hleased : ¬ l.Leased l.clock := by
    apply h.toDelete _ l.clock le_rfl
    rw [htoDelete]
    rfl
  have hdropped : (l.dropped || (l.present && decide (l.Leased l.clock))) = l.dropped := by
    rw [decide_eq_false hleased, Bool.and_false, Bool.or_false]
  dsimp only at hl'
  rw [hdropped] at hl'
  split at hl'
  · subst hl'
    exact h.removed (h.tells.of_same ⟨rfl, rfl, rfl, rfl, rfl, rfl⟩) (.inr rfl)
  · subst hl'
    exact h.removed h.tells (.inl rfl)

theorem Inv.scan (hstate : l.sess.state = .bound ∨ l.clock - l.sess.lastSeen ≤ halfOpenIdleTimeout ∨
      (l.sess.ipv4 = [] ∧ l.sess.ipv6Bound = false)) (hl' : l.scan l.clock = some l') : Inv l' := by
  unfold Life.scan at hl'
  split at hl'
  · cases hl'
  · cases hl'
    refine ⟨h.clock, h.tells.mono le_rfl rfl rfl, ?_, ?_, h.dropped⟩
    · intro s hs
      obtain ⟨htells, hsame⟩ := h.latest s hs
      exact ⟨htells.mono le_rfl rfl rfl, hsame⟩
    · intro hsome now hnow hleased
      have hreap : l.sess.reap l.clock = true := by
        by_contra hkeep
        rw [if_neg hkeep] at hsome
        cases hsome
      have hleased : l.Leased l.clock := Leased.anti hleased hnow
      unfold reap at hreap
      split at hreap
      · exact h.tells.not_leased_of_past le_rfl hreap hleased
      · rename_i hnot
        rw [decide_eq_true_eq] at hreap
        rcases hstate with hbound | hseen | ⟨hip, hv6⟩
        · exact hnot hbound
        · omega
        · rcases hleased with ⟨hip', -⟩ | ⟨hv6', -⟩
          · exact hip' hip
          · rw [hv6] at hv6'
            cases hv6'

omit h

/-! ## Runs -/

/-- The conditions on the single events. -/
def Steady (l : Life) : Event → Prop
  | .reply6 _ r => r.granted = r.validTime.toNat
  | .scan now => l.sess.state = .bound ∨ now - l.sess.lastSeen ≤ halfOpenIdleTimeout ∨
      (l.sess.ipv4 = [] ∧ l.sess.ipv6Bound = false)
  | .persist i => i = 0
  | .restart now _ => l.writes = [] ∧ l.sess.EndTogether now
  | .recover _ _ => l.writes = []
  | _ => True

def Careful (l : Life) (e : Event) : Prop := (l.toDelete = none ∨ e.quiet = true) ∧ l.Steady e

theorem Inv.ack (h : Inv l) (htoDelete : l.toDelete = none) (ip : IP) (leaseTime : UInt32) :
    Inv (l.ack l.clock ip leaseTime) := by
  refine checkpoint h.clock ?_ htoDelete h.dropped
  exact ⟨fun _ => ⟨h.clock, le_rfl, rfl⟩, fun hv6 => h.tells.v6 hv6⟩

theorem Inv.reply6 (h : Inv l) (htoDelete : l.toDelete = none) {r : Reply}
    (hr : r.granted = r.validTime.toNat) : Inv (l.reply6 l.clock r) := by
  refine checkpoint h.clock ?_ htoDelete h.dropped
  refine ⟨fun hip => h.tells.v4 hip, fun _ => ⟨h.clock, le_rfl, ?_⟩⟩
  rw [hr]
  rfl

theorem Inv.released (h : Inv l) (htoDelete : l.toDelete = none) {deleteSession : Bool}
    (htells : Tells l s) : Inv (l.released s deleteSession) := by
  unfold Life.released
  split
  · rw [show l = { l with toDelete := none } by rw [← htoDelete]]
    exact h.removed htells (.inr rfl)
  · exact checkpoint h.clock (htells.mono le_rfl rfl rfl) htoDelete h.dropped

theorem Tells.handleRelease (h : Tells l s) (unified : Bool) :
    Tells l (s.handleRelease unified).1 := by
  unfold SessionState.handleRelease
  dsimp only
  split
  · exact ⟨fun hip => absurd rfl hip, nofun⟩
  · exact ⟨fun hip => absurd rfl hip, fun hv6 => h.v6 hv6⟩

theorem Tells.handleDHCPv6Release (h : Tells l s) (unified : Bool) :
    Tells l (s.handleDHCPv6Release unified).1 := by
  unfold SessionState.handleDHCPv6Release
  dsimp only
  split
  · exact ⟨fun hip => absurd rfl hip, nofun⟩
  · exact ⟨fun hip => h.v4 hip, nofun⟩

theorem Inv.release (h : Inv l) (htoDelete : l.toDelete = none) (unified : Bool) (ciaddr : IP) :
    Inv (l.release unified ciaddr) := by
  unfold Life.release
  split
  · exact h
  · exact h.released htoDelete (h.tells.handleRelease unified)

theorem Inv.aaaResponse (h : Inv l) (htoDelete : l.toDelete = none) (allowed : Bool) :
    Inv (l.aaaResponse allowed) := by
  unfold Life.aaaResponse
  split
  · exact h.change ⟨rfl, rfl, rfl, rfl, rfl, rfl⟩
  · rw [show l = { l with toDelete := none } by rw [← htoDelete]]
    exact h.removed (h.tells.of_same ⟨rfl, rfl, rfl, rfl, rfl, rfl⟩) (.inl rfl)

theorem Inv.terminate (h : Inv l) (htoDelete : l.toDelete = none) : Inv l.terminate := by
  unfold Life.terminate
  split
  · exact h
  · rw [show l = { l with toDelete := none } by rw [← htoDelete]]
    exact h.removed (h.tells.of_same ⟨rfl, rfl, rfl, rfl, rfl, rfl⟩) (.inr rfl)

theorem Inv.create (h : Inv l) (htoDelete : l.toDelete = none) {state : State}
    (hl' : l.create state = some l') : Inv l' := by
  unfold Life.create at hl'
  split at hl'
  · cases hl'
  · cases hl'
    refine of_latest h.clock ⟨?_, ?_⟩ (.refl _) nofun htoDelete h.dropped
    · exact fun hip => absurd rfl hip
    · exact nofun

theorem eq_of_found {f : Life → Life} (h : (l.found id).map f = some l') : l' = f l := by
  unfold Life.found at h
  split at h
  · cases h
    rfl
  · cases h

theorem Inv.next {e : Event} (h : Inv l) (hok : Careful l e) (hl' : l.next e = some l') :
    Inv l' := by
  obtain ⟨hquiet, hsteady⟩ := hok
  cases e with
  | create state => exact h.create (hquiet.resolve_right nofun) hl'
  | seen now =>
    obtain ⟨l1, hl1, hl'⟩ := bind_eq_some_iff.mp hl'
    obtain ⟨h1, -, rfl⟩ := h.advance hl1
    exact h1.found hl' sameLeases_seen
  | renewing => exact h.found hl' ⟨rfl, rfl, rfl, rfl, rfl, rfl⟩
  | request6 now =>
    obtain ⟨l1, hl1, hl'⟩ := bind_eq_some_iff.mp hl'
    obtain ⟨h1, -, rfl⟩ := h.advance hl1
    exact h1.found hl' ⟨rfl, rfl, rfl, rfl, rfl, rfl⟩
  | ack now ip leaseTime =>
    obtain ⟨l1, hl1, rfl⟩ := map_eq_some_iff.mp hl'
    obtain ⟨h1, -, rfl⟩ := h.advance hl1
    exact h1.ack (hquiet.resolve_right nofun) ip leaseTime
  | reply6 now r =>
    obtain ⟨l1, hl1, rfl⟩ := map_eq_some_iff.mp hl'
    obtain ⟨h1, -, rfl⟩ := h.advance hl1
    exact h1.reply6 (hquiet.resolve_right nofun) hsteady
  | release unified ciaddr =>
    rw [eq_of_found hl']
    exact h.release (hquiet.resolve_right nofun) unified ciaddr
  | release6 unified =>
    rw [eq_of_found hl']
    exact h.released (hquiet.resolve_right nofun) (h.tells.handleDHCPv6Release unified)
  | aaaResponse allowed =>
    rw [eq_of_found hl']
    exact h.aaaResponse (hquiet.resolve_right nofun) allowed
  | created => exact h.found hl' ⟨rfl, rfl, rfl, rfl, rfl, rfl⟩
  | terminate =>
    rw [eq_of_found hl']
    exact h.terminate (hquiet.resolve_right nofun)
  | scan now =>
    obtain ⟨l1, hl1, hl'⟩ := bind_eq_some_iff.mp hl'
    obtain ⟨h1, -, rfl⟩ := h.advance hl1
    exact h1.scan hsteady hl'
  | sweep now =>
    obtain ⟨l1, hl1, hl'⟩ := bind_eq_some_iff.mp hl'
    obtain ⟨h1, -, rfl⟩ := h.advance hl1
    exact h1.sweep hl'
  | persist i =>
    rw [show i = 0 from hsteady] at hl'
    exact h.persist hl'
  | restart now programmed =>
    obtain ⟨l1, hl1, rfl⟩ := map_eq_some_iff.mp hl'
    obtain ⟨h1, -, rfl⟩ := h.advance hl1
    exact h1.restart hsteady.1 hsteady.2 programmed
  | recover now programmed =>
    obtain ⟨l1, hl1, rfl⟩ := map_eq_some_iff.mp hl'
    obtain ⟨h1, -, rfl⟩ := h.advance hl1
    exact h1.restoreSessions hsteady (hquiet.resolve_right nofun) programmed

theorem Initial.inv (h : Initial l) : Inv l := by
  have hlatest : l.latest = none := by
    unfold latest
    rw [h.writes, h.record]
    rfl
  refine Inv.of_latest h.clock ⟨?_, ?_⟩ (.refl _) ?_ h.toDelete h.dropped
  · rw [h.sess]
    exact fun hip => absurd rfl hip
  · rw [h.sess]
    exact nofun
  · intro t ht
    rw [hlatest] at ht
    cases ht

/-- No session is removed while one of its families is leased. -/
theorem keeps_leased (h : machine.Reach Careful l) : l.dropped = false := by
  have hinv : Inv l :=
    Reach.invariant Inv (fun _ => Initial.inv) (fun _ _ _ h hok hnext => h.next hok hnext) h
  exact hinv.dropped

/-! ## Sessions of one subscriber -/

instance (l : Life) (e : Event) : Decidable (l.Steady e) := by
  rcases e <;> dsimp only [Steady] <;> infer_instance

instance (l : Life) (e : Event) : Decidable (l.Careful e) :=
  inferInstanceAs (Decidable (_ ∧ _))

def start : Life := ⟨minute, .fresh .released, 0, false, none, none, [], 0, 0, false⟩

theorem initial_start : Initial start := ⟨by decide, rfl, rfl, rfl, rfl, rfl, rfl⟩

def address : IP := [10, 0, 0, 1]

def address6 : IP := [32, 1, 13, 184, 0, 0, 0, 0, 0, 0, 0, 0, 0, 0, 0, 1]

def delegated : IPNet := ⟨[32, 1, 13, 184, 0, 1, 0, 0, 0, 0, 0, 0, 0, 0, 0, 0], 56, 128⟩

def replyAddress (validTime : UInt32) : Reply := ⟨some (address6, validTime), none⟩

/-- A session is set up by a Discover, and leased a minute later. -/
def leased (leaseTime : UInt32) : List Event :=
  [.create .discovering, .seen (2 * minute), .aaaResponse true, .created, .renewing,
    .seen (3 * minute), .ack (3 * minute) address leaseTime]

/-- Both families are leased: DHCPv4 for `leaseTime` seconds, DHCPv6 for an hour. -/
def dualStack (leaseTime : UInt32) : List Event :=
  leased leaseTime ++ [.seen (3 * minute), .request6 (3 * minute),
    .reply6 (3 * minute) (replyAddress 3600), .persist 0, .persist 0]

/-- The session is looked at, restored, and removed when both leases have ended. -/
theorem keeps_leased_dualStack :
    ∃ l, machine.Reach Careful l ∧ l.generation = 2 ∧ l.present = false ∧ l.dropped = false := by
  obtain ⟨l, hl, hgone⟩ : ∃ l, machine.Reach Careful l ∧ (l.generation = 2 ∧ l.present = false) :=
    exists_reach_of_run initial_start
      (dualStack 3600 ++
        [.scan (13 * minute), .restart (30 * minute) true, .persist 0, .scan (40 * minute),
          .scan (90 * minute), .sweep (90 * minute)]) (by decide +kernel)
  exact ⟨l, hl, hgone.1, hgone.2, keeps_leased hl⟩

/-- Runs that remove the session while a family is leased:
* a session with DHCPv6 only, ten minutes after its last message;
* a session of both families after a renewal that was not answered;
* a session of both families after a release of the DHCPv4 address;
* a restart when the DHCPv4 lease has ended and the DHCPv6 lease has not;
* a pass after the DHCPv4 lease has ended, with a prefix that is still delegated;
* a renewal that is answered between the two halves of a pass;
* a restart before the record of a renewal is written. -/
def earlyRemovals : List (List Event) :=
  [[.create .soliciting, .seen (2 * minute), .aaaResponse true, .created, .request6 (3 * minute),
      .reply6 (3 * minute) (replyAddress 3600), .scan (13 * minute), .sweep (13 * minute)],
    dualStack 3600 ++ [.renewing, .seen (20 * minute), .scan (30 * minute), .sweep (30 * minute)],
    dualStack 3600 ++ [.release true address, .scan (13 * minute), .sweep (13 * minute)],
    dualStack 600 ++ [.restart (20 * minute) true],
    dualStack 600 ++
      [.request6 (4 * minute), .reply6 (4 * minute) ⟨none, some (delegated, 3600)⟩,
        .scan (20 * minute), .sweep (20 * minute)],
    leased 600 ++ [.scan (20 * minute), .renewing, .seen (20 * minute),
      .ack (20 * minute) address 600, .sweep (20 * minute)],
    leased 600 ++ [.persist 0, .renewing, .seen (10 * minute), .ack (10 * minute) address 600,
      .restart (15 * minute) true]]

theorem leased_session_dropped :
    earlyRemovals.Forall fun es => ∃ l, run next (fun _ _ => True) start es = some l ∧
      machine.Reach (fun _ _ => True) l ∧ l.dropped = true :=
  forall_run initial_start (by decide +kernel)

end Life
end Osvbng.Ipoe

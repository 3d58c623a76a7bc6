import Osvbng.Accounting.Session

/-!
# Where the traffic of a record comes from

Interfaces and the entries of circuits are numbered independently, and an
accounting session keeps the index of its interface, or of its access entry, in
one field. An update knows which of the two it is. The stop does not.
-/

namespace Osvbng.Accounting

structure EntryStats where
  bytes : UInt64
  packets : UInt64

structure Dataplane where
  interfaces : UInt32 → Option Counters
  entries : UInt32 → Option EntryStats

def Dataplane.Numbered (dp : Dataplane) (numbers : Set UInt32) : Prop :=
  ∀ i, (dp.interfaces i).isSome → i ∈ numbers

/-- Where the traffic of a session is counted. -/
structure Placement where
  accessType : AccessType
  /-- The index of the interface, or of the entry for traffic from the subscriber. -/
  swIfIndex : UInt32
  l2gwHandoffIndex : UInt32

namespace Placement
variable (p : Placement) (dp : Dataplane)

def l2gwStats : Option Counters :=
  let up := dp.entries p.swIfIndex
  let down := dp.entries p.l2gwHandoffIndex
  if up.isSome || down.isSome then
    some fun
      | .inBytes => (up.map (·.bytes)).getD 0
      | .inPackets => (up.map (·.packets)).getD 0
      | .outBytes => (down.map (·.bytes)).getD 0
      | .outPackets => (down.map (·.packets)).getD 0
  else none

/-- What `sendAccountingUpdate` reads. -/
def updateReading : Option Counters :=
  match p.accessType with
  | .interface => dp.interfaces p.swIfIndex
  | .l2gw => p.l2gwStats dp

/-- What `handleSessionRelease` reads. -/
def stopReading : Option Counters := dp.interfaces p.swIfIndex

/-- The records of a session: its updates, one after the other, each with whether it is
acknowledged, and the stop. -/
def records : AccountingSession → List (Dataplane × Bool) → Dataplane → List Counters
  | s, [], last => [(s.account (p.stopReading last)).2]
  | s, (dp, ok) :: updates, last =>
    let (s, values) := s.account (p.updateReading dp)
    values :: records (if ok then s.advanceLastReported values else s) updates last

/-- Dataplanes that agree on what belongs to the session. -/
def SameOwn (dp dp' : Dataplane) : Prop :=
  match p.accessType with
  | .interface => dp.interfaces p.swIfIndex = dp'.interfaces p.swIfIndex
  | .l2gw => dp.entries p.swIfIndex = dp'.entries p.swIfIndex ∧
      dp.entries p.l2gwHandoffIndex = dp'.entries p.l2gwHandoffIndex

variable {p}

theorem SameOwn.updateReading_eq {dp dp' : Dataplane} (h : p.SameOwn dp dp') :
    p.updateReading dp = p.updateReading dp' := by
  unfold SameOwn at h
  unfold updateReading l2gwStats
  split at h
  · exact h
  · rw [h.1, h.2]

theorem SameOwn.stopReading_eq {dp dp' : Dataplane} (h : p.SameOwn dp dp')
    (hl2gw : p.accessType = .l2gw →
      dp.interfaces p.swIfIndex = none ∧ dp'.interfaces p.swIfIndex = none) :
    p.stopReading dp = p.stopReading dp' := by
  unfold SameOwn at h
  split at h
  · exact h
  · rename_i htype
    exact (hl2gw htype).1.trans (hl2gw htype).2.symm

/-- The records are the same whatever the rest of the dataplane counts, provided that no
interface has the index of a circuit's access entry when the circuit is released. -/
theorem records_own (p : Placement) (s : AccountingSession)
    {updates updates' : List (Dataplane × Bool)} {last last' : Dataplane}
    (hupdates : List.Forall₂ (fun u u' => p.SameOwn u.1 u'.1 ∧ u.2 = u'.2) updates updates')
    (hlast : p.SameOwn last last')
    (hl2gw : p.accessType = .l2gw →
      last.interfaces p.swIfIndex = none ∧ last'.interfaces p.swIfIndex = none) :
    p.records s updates last = p.records s updates' last' := by
  induction hupdates generalizing s with
  | nil =>
    unfold records
    rw [hlast.stopReading_eq hl2gw]
  | @cons u u' updates updates' hu hupdates ih =>
    obtain ⟨dp, ok⟩ := u
    obtain ⟨dp', ok'⟩ := u'
    obtain ⟨hown, rfl⟩ : p.SameOwn dp dp' ∧ ok = ok' := hu
    unfold records
    rw [hown.updateReading_eq]
    dsimp only
    rw [ih]

def circuit : Placement := ⟨.l2gw, 7, 8⟩

def besides (swIfIndex : UInt32) : Dataplane where
  interfaces i := if i = swIfIndex then some fun _ => 500 else none
  entries i := if i = 7 then some ⟨10, 1⟩ else none

end Placement
end Osvbng.Accounting

import Osvbng.Lib.Run
import Osvbng.Lib.WriteLog
import Osvbng.Session.Exclusivity

/-!
# Checkpoints of sessions

Both access components keep a record of every session in the database. A checkpoint
encodes the session within the call and leaves the write to a goroutine; a checkpoint
after a mutation and the deletion of a record are done when the call returns. Nothing
holds a goroutine to the order of the calls.

`Opdb.latest_iff` says for which sequences of calls this does not matter: those
whose earlier background writes all write what the last call leaves anyway.
-/

namespace Osvbng.Session
open Function Option List Lib Lib.Slice Machine Write Bool

structure RecordKey where
  protocol : Protocol
  sessionID : Bytes
deriving DecidableEq

inductive Call (X : Type) where
  | checkpointSession (data : X)
  | checkpointSessionSync (data : X)
  | deleteSessionCheckpoint
deriving DecidableEq

namespace Call
variable {X : Type}

def leaves : Call X → Option X
  | .checkpointSession data => some data
  | .checkpointSessionSync data => some data
  | .deleteSessionCheckpoint => none

def isBackground : Call X → Bool
  | .checkpointSession _ => true
  | .checkpointSessionSync _ => false
  | .deleteSessionCheckpoint => false

end Call

/-- The database, the goroutines that have a write to make, and the history of the
calls. -/
structure Opdb (X : Type) where
  records : RecordKey → Option X
  running : List (Write RecordKey X)
  calls : List (RecordKey × Call X)

inductive OpdbEvent (X : Type) where
  | call (key : RecordKey) (c : Call X)
  /-- A goroutine makes its write. -/
  | complete (i : Nat)

namespace Opdb
variable {X : Type} (db : Opdb X)

def issue (key : RecordKey) (c : Call X) : Opdb X :=
  let db := { db with calls := db.calls ++ [(key, c)] }
  match c with
  | .checkpointSession data => { db with running := db.running ++ [⟨key, some data⟩] }
  | .checkpointSessionSync data => { db with records := apply db.records ⟨key, some data⟩ }
  | .deleteSessionCheckpoint => { db with records := apply db.records ⟨key, none⟩ }

def complete (i : Nat) : Option (Opdb X) :=
  db.running[i]?.map fun w =>
    { db with records := apply db.records w, running := db.running.eraseIdx i }

def next : OpdbEvent X → Option (Opdb X)
  | .call key c => some (db.issue key c)
  | .complete i => db.complete i

structure Initial (db : Opdb X) : Prop where
  running : db.running = []
  calls : db.calls = []

def machine (X : Type) : Machine (Opdb X) (OpdbEvent X) := .ofNext Initial next

def callsFor (key : RecordKey) : List (Call X) :=
  (db.calls.filter (·.1 = key)).map Prod.snd

def Completed (key : RecordKey) : Prop := ∀ w ∈ db.running, w.key ≠ key

variable {db db' : Opdb X} {key k : RecordKey} {c last : Call X} {i : Nat}

theorem issue_calls : (db.issue key c).calls = db.calls ++ [(key, c)] := by
  cases c <;> rfl

theorem callsFor_issue_self : (db.issue key c).callsFor key = db.callsFor key ++ [c] := by
  unfold callsFor
  rw [issue_calls]
  simp

theorem callsFor_issue_of_ne (h : k ≠ key) : (db.issue k c).callsFor key = db.callsFor key := by
  unfold callsFor
  rw [issue_calls]
  simp [h]

theorem running_issue_of_background (h : c.isBackground = true) :
    (db.issue key c).running = db.running ++ [⟨key, c.leaves⟩] := by
  cases c with
  | checkpointSession data => rfl
  | checkpointSessionSync | deleteSessionCheckpoint => cases h

theorem running_issue_of_sync (h : c.isBackground = false) :
    (db.issue key c).running = db.running := by
  cases c with
  | checkpointSession data => cases h
  | checkpointSessionSync | deleteSessionCheckpoint => rfl

theorem mem_running_issue {w : Write RecordKey X} : w ∈ (db.issue key c).running ↔
    w ∈ db.running ∨ c.isBackground = true ∧ w = ⟨key, c.leaves⟩ := by
  cases hc : c.isBackground with
  | true => simp [running_issue_of_background hc]
  | false => simp [running_issue_of_sync hc]

theorem records_issue_of_ne (h : k ≠ key) : (db.issue k c).records key = db.records key := by
  cases c with
  | checkpointSession data => rfl
  | checkpointSessionSync | deleteSessionCheckpoint => exact update_of_ne (Ne.symm h) _ _

theorem complete_spec (h : db.complete i = some db') :
    ∃ w, db.running[i]? = some w ∧ db'.records = apply db.records w ∧
      db'.running = db.running.eraseIdx i ∧ db'.calls = db.calls := by
  obtain ⟨w, hw, rfl⟩ := map_eq_some_iff.mp h
  exact ⟨w, hw, rfl, rfl, rfl⟩

/-! ## What a record can be -/

/-- A write under way is that of a checkpoint. The record is what the last call
leaves or what a checkpoint wrote, unless a write is still to come. -/
structure Traced (key : RecordKey) (db : Opdb X) : Prop where
  running : ∀ w ∈ db.running, w.key = key →
    ∃ c ∈ db.callsFor key, c.isBackground = true ∧ w.value = c.leaves
  record : ∀ last, (db.callsFor key).getLast? = some last → db.Completed key →
    ∃ c ∈ db.callsFor key, (c.isBackground = true ∨ c = last) ∧ db.records key = c.leaves

theorem Traced.issue_self (h : Traced key db) (c : Call X) : Traced key (db.issue key c) := by
  constructor
  · intro w hw hkey
    rw [callsFor_issue_self]
    rcases mem_running_issue.mp hw with hw | ⟨hc, rfl⟩
    · obtain ⟨c', hc', hback⟩ := h.running w hw hkey
      exact ⟨c', mem_append_left _ hc', hback⟩
    · exact ⟨c, mem_append_right _ (mem_singleton_self c), hc, rfl⟩
  · intro last hlast hdone
    rw [callsFor_issue_self] at hlast ⊢
    rw [getLast?_concat, some.injEq] at hlast
    subst hlast
    refine ⟨c, mem_append_right _ (mem_singleton_self c), .inr rfl, ?_⟩
    cases hc : c.isBackground with
    | true =>
      -- The write of this very call is under way.
      exact absurd rfl (hdone ⟨key, c.leaves⟩ (mem_running_issue.mpr (.inr ⟨hc, rfl⟩)))
    | false =>
      cases c with
      | checkpointSession data => cases hc
      | checkpointSessionSync | deleteSessionCheckpoint => exact update_self key _ _

theorem Traced.issue_of_ne (h : Traced key db) (hne : k ≠ key) (c : Call X) :
    Traced key (db.issue k c) := by
  constructor
  · intro w hw hkey
    rw [callsFor_issue_of_ne hne]
    rcases mem_running_issue.mp hw with hw | ⟨-, rfl⟩
    · exact h.running w hw hkey
    · exact absurd hkey hne
  · intro last hlast hdone
    rw [callsFor_issue_of_ne hne] at hlast ⊢
    rw [records_issue_of_ne hne]
    exact h.record last hlast fun w hw => hdone w (mem_running_issue.mpr (.inl hw))

theorem Traced.complete (h : Traced key db) (hdb' : db.complete i = some db') : Traced key db' := by
  obtain ⟨w, hw, hrecords, hrunning, hcalls⟩ := complete_spec hdb'
  have hfor : db'.callsFor key = db.callsFor key := by
    unfold callsFor
    rw [hcalls]
  constructor
  · intro w' hw' hkey
    rw [hrunning] at hw'
    rw [hfor]
    exact h.running w' (mem_of_mem_eraseIdx hw') hkey
  · intro last hlast hdone
    rw [hfor] at hlast ⊢
    rw [hrecords]
    by_cases hkey : w.key = key
    · obtain ⟨c, hc, hback, hvalue⟩ := h.running w (mem_of_getElem? hw) hkey
      refine ⟨c, hc, .inl hback, ?_⟩
      rw [← hvalue, ← hkey]
      exact update_self w.key _ _
    · have hsame : apply db.records w key = db.records key :=
        update_of_ne (Ne.symm hkey) _ _
      rw [hsame]
      apply h.record last hlast
      -- The write that was made is not one of this session.
      intro w' hw'
      obtain ⟨j, hj⟩ := mem_iff_getElem?.mp hw'
      by_cases hji : j = i
      · subst hji
        rw [hw, some.injEq] at hj
        rwa [← hj]
      · apply hdone w'
        rw [hrunning]
        exact mem_eraseIdx_iff_getElem?.mpr ⟨j, hji, hj⟩

variable (key) (h : (machine X).Reach (fun _ _ => True) db)
include h

theorem traced_of_reach : Traced key db := by
  refine h.invariant (Traced key) ?_ ?_
  · intro db hinit
    constructor
    · intro w hw
      rw [hinit.running] at hw
      cases hw
    · intro last hlast
      unfold callsFor at hlast
      rw [hinit.calls] at hlast
      cases hlast
  · intro db e db' htraced _ hstep
    cases e with
    | call k c =>
      cases hstep
      by_cases hk : k = key
      · subst hk
        exact htraced.issue_self c
      · exact htraced.issue_of_ne hk c
    | complete i => exact htraced.complete hstep

/-! ## A write that comes late -/

theorem exists_issue (key : RecordKey)
    (c : Call X) : ∃ db', (machine X).Reach (fun _ _ => True) db' ∧
      db'.running = db.running ∧ db'.callsFor key = db.callsFor key ++ [c] := by
  have hissue : (machine X).Reach (fun _ _ => True) (db.issue key c) :=
    h.step (e := .call key c) trivial rfl
  cases hc : c.isBackground with
  | false => exact ⟨db.issue key c, hissue, running_issue_of_sync hc, callsFor_issue_self⟩
  | true =>
    have hrunning : (db.issue key c).running = db.running ++ [⟨key, c.leaves⟩] :=
      running_issue_of_background hc
    have hnth : (db.issue key c).running[db.running.length]? = some ⟨key, c.leaves⟩ := by
      rw [hrunning]
      exact getElem?_concat_length
    refine ⟨_, hissue.step (e := .complete db.running.length) trivial
      (map_eq_some_iff.mpr ⟨_, hnth, rfl⟩), ?_, callsFor_issue_self⟩
    rw [hrunning, eraseIdx_append_of_length_le (Nat.le_refl _)]
    simp

omit h

theorem exists_issues (cs : List (Call X)) (h : (machine X).Reach (fun _ _ => True) db) :
    ∃ db', (machine X).Reach (fun _ _ => True) db' ∧
      db'.running = db.running ∧ db'.callsFor key = db.callsFor key ++ cs := by
  induction cs generalizing db with
  | nil => exact ⟨db, h, rfl, (append_nil _).symm⟩
  | cons c cs ih =>
    obtain ⟨db1, h1, hrunning1, hcalls1⟩ := exists_issue h key c
    obtain ⟨db2, h2, hrunning2, hcalls2⟩ := ih h1
    refine ⟨db2, h2, hrunning2.trans hrunning1, ?_⟩
    rw [hcalls2, hcalls1, append_assoc, singleton_append]

theorem exists_late (key : RecordKey) (before after : List (Call X))
    (hc : c.isBackground = true) : ∃ db, (machine X).Reach (fun _ _ => True) db ∧
      db.callsFor key = before ++ c :: after ∧ db.Completed key ∧ db.records key = c.leaves := by
  have hempty : (machine X).Reach (fun _ _ => True) ⟨fun _ => none, [], []⟩ := .init ⟨rfl, rfl⟩
  obtain ⟨db1, h1, hrunning1, hcalls1⟩ := exists_issues key before hempty
  have hissue : (machine X).Reach (fun _ _ => True) (db1.issue key c) :=
    h1.step (e := .call key c) trivial rfl
  obtain ⟨db2, h2, hrunning2, hcalls2⟩ := exists_issues key after hissue
  have hrunning : db2.running = [⟨key, c.leaves⟩] := by
    rw [hrunning2, running_issue_of_background hc, hrunning1]
    rfl
  have hfirst : db2.running[0]? = some ⟨key, c.leaves⟩ := by
    rw [hrunning]
    rfl
  refine ⟨_, h2.step (e := .complete 0) trivial (map_eq_some_iff.mpr ⟨_, hfirst, rfl⟩),
    ?_, ?_, update_self key _ _⟩
  · show db2.callsFor key = before ++ c :: after
    rw [hcalls2, callsFor_issue_self, hcalls1]
    simp [callsFor]
  · intro w hw
    rw [hrunning] at hw
    cases hw

/-- For a sequence of calls, the record is what the last call leaves in every order in
which the goroutines can complete, if and only if the checkpoints before the last call
write just that. -/
theorem latest_iff (earlier : List (Call X)) (last : Call X) :
    (∀ db, (machine X).Reach (fun _ _ => True) db → db.callsFor key = earlier ++ [last] →
      db.Completed key → db.records key = last.leaves) ↔
    ∀ c ∈ earlier, c.isBackground = true → c.leaves = last.leaves := by
  constructor
  · intro hall c hc hback
    obtain ⟨before, after, rfl⟩ := append_of_mem hc
    obtain ⟨db, hreach, hcalls, hdone, hrecord⟩ :=
      exists_late key before (after ++ [last]) hback
    have hlast := hall db hreach (by rw [hcalls, append_assoc, cons_append]) hdone
    exact hrecord.symm.trans hlast
  · intro hsame db hreach hcalls hdone
    have htraced := traced_of_reach key hreach
    have hgetLast : (db.callsFor key).getLast? = some last := by
      rw [hcalls, getLast?_concat]
    obtain ⟨c, hc, hkind, hrecord⟩ := htraced.record last hgetLast hdone
    rw [hrecord]
    rw [hcalls, mem_append, mem_singleton] at hc
    rcases hc with hc | rfl
    · rcases hkind with hback | rfl
      · exact hsame c hc hback
      · rfl
    · rfl

def empty : Opdb Nat := ⟨fun _ => none, [], []⟩

def aSession : RecordKey := ⟨.ipoe, [0x61]⟩

theorem initial_empty : Initial empty := ⟨rfl, rfl⟩

/-- The older of two checkpoints is written last; a checkpoint is written after the
record has been deleted. In both the goroutines have all completed, and the record is
not what the last call leaves. -/
theorem stale_record :
    [([.call aSession (.checkpointSession 1), .call aSession (.checkpointSession 2),
        .complete 1, .complete 0], Call.checkpointSession 2),
      ([.call aSession (.checkpointSession 1), .call aSession .deleteSessionCheckpoint,
        .complete 0], Call.deleteSessionCheckpoint)].Forall
      fun (events, last) => ∃ db,
        run next (fun _ _ => True) empty events = some db ∧
        (machine Nat).Reach (fun _ _ => True) db ∧
        db.callsFor aSession = [.checkpointSession 1, last] ∧ db.running.length = 0 ∧
        db.records aSession ≠ last.leaves := by
  constructor <;>
    exact exists_run initial_empty _ (by decide +kernel) fun _ hreach hstale => ⟨hreach, hstale⟩

end Opdb
end Osvbng.Session

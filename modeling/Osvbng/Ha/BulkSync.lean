import Osvbng.Ha.Standby
import Osvbng.Ipoe.Session
import Osvbng.Ppp.Options

/-!
# The bulk transfer of sessions

Asked for the sessions of a group, a node sends the requests of the group's backlog
again, without their actions, or, if the backlog is empty, the live sessions that the
access components list: not all of them. The receiver stores what it gets and deletes
nothing.

`exact_iff` says when a complete transfer leaves the standby with just the live
sessions.
-/

namespace Osvbng.Ha
open Function List Lib SyncSender Write SessionSync
namespace SyncBacklog
variable {Checkpoint : Type} (b : SyncBacklog Checkpoint)

def oldest : Nat := (b.head + b.capacity - b.size) % b.capacity

def newest : Nat := (b.head + b.capacity - 1) % b.capacity

def sequenceAt (slot : Nat) : UInt64 :=
  ((b.entries slot).map (·.sequence)).getD 0

def oldestSeq : UInt64 :=
  if b.size = 0 then 0 else b.sequenceAt b.oldest

def newestSeq : UInt64 :=
  if b.size = 0 then 0 else b.sequenceAt b.newest

def signed (n : UInt64) : Int := n.toBitVec.toInt

/-- The requests with numbers in a range, found by the difference of their numbers to
that of the oldest. -/
def range (fromSeq toSeq : UInt64) : List (SyncSessionRequest Checkpoint) :=
  if b.size = 0 then []
  else
    let oldestSeq := b.sequenceAt b.oldest
    let fromSeq := if fromSeq < oldestSeq then oldestSeq else fromSeq
    let startOffset := fromSeq - oldestSeq
    let count := toSeq - fromSeq + 1
    let n := if signed (startOffset + count) > b.size then b.size - signed startOffset
      else signed count
    if n ≤ 0 then []
    else (List.range n.toNat).filterMap fun i =>
      b.entries ((b.oldest + startOffset.toNat + i) % b.capacity)

variable {b : SyncBacklog Checkpoint}

theorem exists_slot_of_mem_range {fromSeq toSeq : UInt64} {e : SyncSessionRequest Checkpoint}
    (he : e ∈ b.range fromSeq toSeq) : ∃ slot, b.entries slot = some e := by
  have hread (n : Int) (offset : Nat) : e ∈ (if n ≤ 0 then [] else
      (List.range n.toNat).filterMap fun i => b.entries ((b.oldest + offset + i) % b.capacity)) →
      ∃ slot, b.entries slot = some e := by
    intro he
    split at he
    · cases he
    · obtain ⟨i, -, hi⟩ := mem_filterMap.mp he
      exact ⟨_, hi⟩
  unfold range at he
  split at he
  · cases he
  · exact hread _ _ he

end SyncBacklog

/-! ### The backlogs of a sender -/

namespace SyncSender
variable {D : Type} {sender : SyncSender (SessionCheckpoint D)}

/-- Each backlog holds sessions of its own group. -/
def Grouped (sender : SyncSender (SessionCheckpoint D)) : Prop :=
  ∀ name, ∀ b ∈ sender.backlogs name, ∀ slot, ∀ e ∈ b.entries slot, e.session.srgName = name

theorem grouped_new (backlogSize : Nat) (srgs : String → Bool) :
    (new backlogSize srgs : SyncSender (SessionCheckpoint D)).Grouped := by
  intro name b hb slot e he
  unfold new at hb
  dsimp only at hb
  split at hb
  · cases hb
    cases he
  · cases hb

theorem Grouped.replicate {srgName : String} {action : SyncAction} {cp : SessionCheckpoint D}
    (h : sender.Grouped) (hcp : cp.srgName = srgName) :
    (sender.replicate srgName action cp).1.Grouped := by
  unfold SyncSender.replicate
  split
  · rename_i backlog n hbacklog hn
    intro name b hb slot e he
    rcases update_cases hb with ⟨rfl, hb'⟩ | ⟨-, hb'⟩
    · cases hb'
      obtain ⟨-, ⟨⟩⟩ | ⟨-, he⟩ := update_cases he
      · exact hcp
      · exact h name backlog hbacklog slot e he
    · exact h name b hb' slot e he
  · exact h

/-- What an event leaves of the backlogs, it leaves after a replication or at once. -/
theorem handle_cases (P : SyncSender (SessionCheckpoint D) → Prop)
    (ev : Published D) (hsame : P sender)
    (hreplicate : ∀ action cp, P (sender.replicate (SessionCheckpoint.srgName cp) action cp).1) :
    P (ev.handle sender) := by
  have hsession (sess : SubscriberSession D) action :
      P (sender.replicate sess.srgName action (sessionToCheckpoint sess)).1 := by
    rw [← srgName_sessionToCheckpoint sess]
    exact hreplicate action _
  cases ev with
  | lifecycle data =>
    show P (sender.handleEvent SubscriberSession.srgName sessionToCheckpoint data).1
    unfold handleEvent
    split
    · exact hsame
    · split
      · exact hsame
      · split
        · exact hsame
        · exact hsession _ _
  | mutation data =>
    show P (sender.handleMutationResult SubscriberSession.srgName sessionToCheckpoint data).1
    unfold handleMutationResult
    split
    · exact hsame
    · split
      · exact hsame
      · split
        · exact hsame
        · exact hsession _ _

end SyncSender

theorem SessionSync.Replication.grouped_of_reach {D : Type} {srgs : String → Bool}
    {ok : Replication D → ReplicationEvent D → Prop} {s : Replication D}
    (hreach : (machine srgs).Reach ok s) : s.sender.Grouped := by
  apply hreach.invariant fun s => s.sender.Grouped
  · intro s hinit
    obtain ⟨backlogSize, hsender⟩ := hinit.sender
    rw [hsender]
    exact grouped_new _ _
  · intro s e s' hgrouped _ hstep
    cases e with
    | session sess released =>
      cases hstep
      exact hgrouped
    | mutation ok sess =>
      change (if _ then _ else _) = _ at hstep
      split at hstep
      · cases hstep
        exact hgrouped
      · cases hstep
    | handle i =>
      obtain ⟨ev, -, rfl⟩ := Option.map_eq_some_iff.mp hstep
      exact handle_cases Grouped ev hgrouped
        fun action cp => hgrouped.replicate rfl
    | setActive active =>
      cases hstep
      exact hgrouped
    | send outcome visits =>
      cases hstep
      unfold Replication.send dequeue
      cases s.sender.sendCh with
      | nil => cases outcome <;> exact hgrouped
      | cons req rest =>
        cases s.sender.active <;> cases outcome <;> exact hgrouped

/-! ## The transfer -/

/-- A session that is up, as its access component keeps it. -/
inductive LiveSession (D : Type) where
  | ipoe (state : Ipoe.State) (session : SubscriberSession D)
  | pppoe (phase : Ppp.Phase) (session : SubscriberSession D)
  | l2gw (isStatic : Bool) (session : SubscriberSession D)

namespace LiveSession
variable {D : Type}

def session : LiveSession D → SubscriberSession D
  | .ipoe _ sess | .pppoe _ sess | .l2gw _ sess => sess

/-- Whether `ForEachSession` of the component hands the session out. -/
def isListed : LiveSession D → Bool
  | .ipoe state _ => state = .bound
  | .pppoe phase _ => phase = .open
  | .l2gw isStatic sess => !isStatic && sess.srgName ≠ ""

end LiveSession

structure HAPeerServer (D : Type) where
  syncSender : Option (SyncSender (SessionCheckpoint D))
  /-- The groups, in the order in which a loop over them visits them. -/
  srgs : List String
  pageSize : Nat
  /-- The components that can be iterated over, and the sessions of the one that cannot. -/
  sessionIterators : List (List (LiveSession D))
  l2tpSessions : List (SubscriberSession D)

structure Paging (D : Type) where
  page : List (SessionCheckpoint D)
  seq : UInt64
  sent : List (BulkSyncResponse D)

namespace HAPeerServer
variable {D : Type} (s : HAPeerServer D)

def getSyncPageSize : Nat := if s.pageSize > 0 then s.pageSize else 1000

/-- The requests of the backlog that are sent again, if any are. -/
def replayed (sender : SyncSender (SessionCheckpoint D)) (srgName : String) :
    Option (List (SyncSessionRequest (SessionCheckpoint D))) :=
  match sender.backlogs srgName with
  | none => none
  | some backlog =>
    if backlog.oldestSeq ≠ 0 ∧ backlog.newestSeq ≠ 0 then
      some (backlog.range backlog.oldestSeq backlog.newestSeq)
    else none

/-- The loop over the entries, which takes a page of them in each turn. -/
def backlogPages (srgName : String) (pageSize : Nat) :
    Nat → List (SyncSessionRequest (SessionCheckpoint D)) → List (BulkSyncResponse D)
  | 0, _ | _, [] => []
  | fuel + 1, entries =>
    let page := entries.take pageSize
    { srgName := srgName
      sessions := page.map (·.session)
      sequence := (page.getLast?.map (·.sequence)).getD 0
      lastPage := entries.length ≤ pageSize } ::
        backlogPages srgName pageSize fuel (entries.drop pageSize)

def forEachSession : List (SubscriberSession D) :=
  (s.sessionIterators.flatten.filter (·.isListed)).map (·.session)

variable (srgName : String)
variable (pageSize : Nat) {sender : SyncSender (SessionCheckpoint D)}

def addToPage (p : Paging D) (sess : SubscriberSession D) : Paging D :=
  if sess.srgName ≠ srgName then p
  else
    let page := p.page ++ [sessionToCheckpoint sess]
    let seq := p.seq + 1
    if page.length ≥ pageSize then ⟨[], seq, p.sent ++ [⟨srgName, page, seq, false⟩]⟩
    else ⟨page, seq, p.sent⟩

def bulkSyncFromIterators : List (BulkSyncResponse D) :=
  if s.sessionIterators.isEmpty then [⟨srgName, [], 0, true⟩]
  else
    let p := s.forEachSession.foldl (addToPage srgName pageSize) ⟨[], 0, []⟩
    p.sent ++ [⟨srgName, p.page, p.seq, true⟩]

def bulkSync (srgNames : List String) : List (BulkSyncResponse D) :=
  match s.syncSender with
  | none => []
  | some sender =>
    (if srgNames.isEmpty then s.srgs else srgNames).flatMap fun srgName =>
      match replayed sender srgName with
      | some entries => backlogPages srgName s.getSyncPageSize entries.length entries
      | none => s.bulkSyncFromIterators srgName s.getSyncPageSize

def live : List (SubscriberSession D) :=
  s.sessionIterators.flatten.map (·.session) ++ s.l2tpSessions

theorem grouped_replayed {srgName : String} (h : sender.Grouped) :
    ∀ entries ∈ replayed sender srgName, ∀ e ∈ entries, e.session.srgName = srgName := by
  intro entries hentries e he
  unfold replayed at hentries
  split at hentries
  · cases hentries
  · rename_i backlog hbacklog
    split at hentries
    · cases hentries
      obtain ⟨slot, hslot⟩ := SyncBacklog.exists_slot_of_mem_range he
      exact h srgName backlog hbacklog slot e hslot
    · cases hentries

/-! ### The sessions in the pages -/

theorem getSyncPageSize_pos : 0 < s.getSyncPageSize := by
  unfold getSyncPageSize
  split <;> omega

theorem sessions_backlogPages {pageSize : Nat} (hpage : 0 < pageSize) (fuel : Nat)
    (entries : List (SyncSessionRequest (SessionCheckpoint D))) (hfuel : entries.length ≤ fuel) :
    (backlogPages srgName pageSize fuel entries).flatMap (·.sessions) =
      entries.map (·.session) := by
  induction fuel generalizing entries with
  | zero =>
    rw [length_eq_zero_iff.mp (Nat.le_zero.mp hfuel)]
    rfl
  | succ fuel ih =>
    cases entries with
    | nil => rfl
    | cons e entries =>
      have hrest : ((e :: entries).drop pageSize).length ≤ fuel := by
        rw [length_drop]
        omega
      rw [backlogPages, flatMap_cons, ih _ hrest, ← map_append, take_append_drop]
      exact cons_ne_nil _ _

theorem sessions_addToPage (sessions : List (SubscriberSession D)) (p : Paging D) :
    (sessions.foldl (addToPage srgName pageSize) p).sent.flatMap (·.sessions) ++
        (sessions.foldl (addToPage srgName pageSize) p).page =
      p.sent.flatMap (·.sessions) ++ p.page ++
        (sessions.filter (·.srgName = srgName)).map sessionToCheckpoint := by
  induction sessions generalizing p with
  | nil => exact (append_nil _).symm
  | cons sess sessions ih =>
    rw [foldl_cons, ih]
    unfold addToPage
    by_cases hsrg : sess.srgName = srgName
    · rw [filter_cons_of_pos (by simpa using hsrg), if_neg (not_not_intro hsrg)]
      dsimp only
      split <;> simp
    · rw [filter_cons_of_neg (by simpa using hsrg), if_pos hsrg]

theorem sessions_bulkSyncFromIterators :
    (s.bulkSyncFromIterators srgName pageSize).flatMap (·.sessions) =
      (s.forEachSession.filter (·.srgName = srgName)).map sessionToCheckpoint := by
  unfold bulkSyncFromIterators
  split
  · rename_i hnone
    rw [forEachSession, isEmpty_iff.mp hnone]
    rfl
  · simpa using sessions_addToPage srgName pageSize s.forEachSession ⟨[], 0, []⟩

def sent (sender : SyncSender (SessionCheckpoint D)) (srgName : String) :
    List (SessionCheckpoint D) :=
  match replayed sender srgName with
  | some entries => entries.map (·.session)
  | none => (s.forEachSession.filter (·.srgName = srgName)).map sessionToCheckpoint

theorem sessions_bulkSync {s : HAPeerServer D}
    (hsender : s.syncSender = some sender) (srgName : String) :
    (s.bulkSync [srgName]).flatMap (·.sessions) = s.sent sender srgName := by
  unfold bulkSync sent
  rw [hsender]
  simp only [isEmpty_cons, Bool.false_eq_true, if_false, flatMap_singleton]
  cases replayed sender srgName with
  | some entries => exact sessions_backlogPages srgName s.getSyncPageSize_pos _ entries (le_refl _)
  | none => exact s.sessions_bulkSyncFromIterators srgName _

/-- Whatever was lost or overtaken, a transfer of a group has sessions of the group only. -/
theorem bulkSync_of_group {srgs : String → Bool}
    {ok : SessionSync.Replication D → SessionSync.ReplicationEvent D → Prop}
    {r : SessionSync.Replication D} (hreach : (SessionSync.Replication.machine srgs).Reach ok r)
    (hsender : s.syncSender = some r.sender) (srgName : String) :
    ∀ resp ∈ s.bulkSync [srgName], ∀ cp ∈ resp.sessions, cp.srgName = srgName := by
  intro resp hresp cp hcp
  have hsent : cp ∈ s.sent r.sender srgName := by
    rw [← sessions_bulkSync hsender]
    exact mem_flatMap.mpr ⟨resp, hresp, hcp⟩
  unfold sent at hsent
  split at hsent
  · rename_i entries hentries
    obtain ⟨e, he, rfl⟩ := mem_map.mp hsent
    exact grouped_replayed (SessionSync.Replication.grouped_of_reach hreach) entries hentries e he
  · obtain ⟨sess, hsess, rfl⟩ := mem_map.mp hsent
    exact (srgName_sessionToCheckpoint sess).trans (of_decide_eq_true (mem_filter.mp hsess).2)

open SessionSync.Replication in
theorem bulkSync_of_group_orderly : ∃ s : HAPeerServer Unit,
    (s.bulkSync ["north"]).length = 2 ∧
      ∀ resp ∈ s.bulkSync ["north"], ∀ cp ∈ resp.sessions, cp.srgName = "north" := by
  obtain ⟨r, hreach, hlength⟩ : ∃ r, (machine (· = "north")).Reach (fun _ _ => True) r ∧
      (bulkSync ⟨some r.sender, [], 2, [], []⟩ ["north"]).length = 2 :=
    Machine.exists_reach_of_run north_initial orderly (by decide +kernel)
  exact ⟨_, hlength, bulkSync_of_group _ hreach rfl "north"⟩

end HAPeerServer

namespace SessionSync.SyncReceiver
variable {D : Type} {r : SyncReceiver D} (visits : BulkSyncResponse D → Visits)

def receive (r : SyncReceiver D) (pages : List (BulkSyncResponse D)) : SyncReceiver D :=
  pages.foldl (fun r resp => (r.handleBulkSyncPage none (visits resp) resp).1) r

theorem opdb_receive (pages : List (BulkSyncResponse D)) : (r.receive visits pages).opdb =
      replay r.opdb ((pages.flatMap (·.sessions)).map (·.put)) := by
  induction pages generalizing r with
  | nil => rfl
  | cons resp pages ih =>
    rw [flatMap_cons, map_append]
    unfold replay
    rw [foldl_append]
    exact ih.trans (congrArg (fun opdb => foldl apply opdb _)
      (opdb_handleBulkSyncPage resp))

variable (srgName : String)

def Stored (opdb : SyncedKey → Option (SessionCheckpoint D)) (key : SyncedKey) :
    Prop := ∃ cp, opdb key = some cp ∧ cp.srgName = srgName

variable (live : List (SubscriberSession D))

def Live (key : SyncedKey) : Prop :=
  ∃ sess ∈ live, sess.srgName = srgName ∧ sess.key = key

/-- The standby has one checkpoint for each live session of the group, and no others. -/
def Exact (r : SyncReceiver D) : Prop :=
  ∀ key, Stored srgName r.opdb key ↔ Live srgName live key

theorem stored_replay {srgName : String} {opdb : SyncedKey → Option (SessionCheckpoint D)}
    {cps : List (SessionCheckpoint D)} (hgroup : ∀ cp ∈ cps, cp.srgName = srgName)
    (key : SyncedKey) :
    Stored srgName (replay opdb (cps.map (·.put))) key ↔
      Stored srgName opdb key ∨ ∃ cp ∈ cps, cp.key = key := by
  unfold Stored
  rw [replay_apply]
  cases hlast : last key (cps.map (·.put)) with
  | some v =>
    obtain ⟨w, hw, hkey, hv⟩ := exists_of_last hlast
    obtain ⟨cp, hcp, rfl⟩ := mem_map.mp hw
    subst hv
    constructor
    · exact fun _ => .inr ⟨cp, hcp, hkey⟩
    · exact fun _ => ⟨cp, rfl, hgroup cp hcp⟩
  | none =>
    constructor
    · exact .inl
    · rintro (hstored | ⟨cp, hcp, hkey⟩)
      · exact hstored
      · have hput : cp.put ∈ cps.map (·.put) := mem_map.mpr ⟨cp, hcp, rfl⟩
        have hsome := isSome_last hput hkey
        rw [hlast] at hsome
        cases hsome

private theorem forall_or_iff {α : Type} {stored sent live : α → Prop} :
    (∀ key, stored key ∨ sent key ↔ live key) ↔ (∀ key, stored key → live key) ∧
      (∀ key, sent key → live key) ∧ ∀ key, live key → ¬ stored key → sent key := by
  constructor
  · exact fun h => ⟨fun key hkey => (h key).mp (.inl hkey), fun key hkey => (h key).mp (.inr hkey),
      fun key hlive hnot => ((h key).mpr hlive).resolve_left hnot⟩
  · rintro ⟨hstored, hsent, hmissing⟩ key
    refine ⟨fun h => h.elim (hstored key) (hsent key), fun hlive => ?_⟩
    by_cases hkey : stored key
    · exact .inl hkey
    · exact .inr (hmissing key hlive hkey)

/-- A complete transfer leaves the standby with just the live sessions of a group exactly when
it had no others before and every live session that was missing is listed by its component or,
if the backlog is sent, has a request in it; and then all of these are of live sessions. -/
theorem exact_iff {s : HAPeerServer D} {sender : SyncSender (SessionCheckpoint D)}
    (hsender : s.syncSender = some sender) (hgroup : sender.Grouped) (srgName : String)
    (visits : BulkSyncResponse D → Visits) (r : SyncReceiver D) :
    (r.receive visits (s.bulkSync [srgName])).Exact srgName s.live ↔
      (∀ key, Stored srgName r.opdb key → Live srgName s.live key) ∧
        match HAPeerServer.replayed sender srgName with
        | some entries => (∀ e ∈ entries, Live srgName s.live e.session.key) ∧
            ∀ key, Live srgName s.live key → ¬ Stored srgName r.opdb key →
              ∃ e ∈ entries, e.session.key = key
        | none => ∀ key, Live srgName s.live key → ¬ Stored srgName r.opdb key →
            ∃ x ∈ s.sessionIterators.flatten, x.isListed ∧ x.session.srgName = srgName ∧
              x.session.key = key := by
  have hstored : ∀ key, Stored srgName (r.receive visits (s.bulkSync [srgName])).opdb key ↔
      Stored srgName r.opdb key ∨ ∃ cp ∈ s.sent sender srgName, cp.key = key := by
    rw [opdb_receive, HAPeerServer.sessions_bulkSync hsender]
    apply stored_replay
    intro cp hcp
    unfold HAPeerServer.sent at hcp
    split at hcp
    · rename_i entries hentries
      obtain ⟨e, he, rfl⟩ := mem_map.mp hcp
      exact HAPeerServer.grouped_replayed hgroup entries hentries e he
    · obtain ⟨sess, hsess, rfl⟩ := mem_map.mp hcp
      exact (srgName_sessionToCheckpoint sess).trans (of_decide_eq_true (mem_filter.mp hsess).2)
  unfold Exact
  simp only [hstored]
  unfold HAPeerServer.sent
  cases HAPeerServer.replayed sender srgName with
  | none =>
    have hlisted key : (∃ cp ∈ (s.forEachSession.filter (·.srgName = srgName)).map
        sessionToCheckpoint, cp.key = key) ↔ ∃ x ∈ s.sessionIterators.flatten, x.isListed ∧
          x.session.srgName = srgName ∧ x.session.key = key := by
      constructor
      · rintro ⟨cp, hcp, hkey⟩
        obtain ⟨sess, hsess, rfl⟩ := mem_map.mp hcp
        obtain ⟨hmem, hsrg⟩ := mem_filter.mp hsess
        obtain ⟨x, hx, rfl⟩ := mem_map.mp hmem
        exact ⟨x, (mem_filter.mp hx).1, (mem_filter.mp hx).2, of_decide_eq_true hsrg, hkey⟩
      · rintro ⟨x, hx, hlisted, hsrg, hkey⟩
        have hmem : x.session ∈ s.forEachSession := mem_map_of_mem (mem_filter.mpr ⟨hx, hlisted⟩)
        exact ⟨_, mem_map_of_mem (mem_filter.mpr ⟨hmem, decide_eq_true hsrg⟩), hkey⟩
    have hlive : ∀ key, (∃ x ∈ s.sessionIterators.flatten, x.isListed ∧
        x.session.srgName = srgName ∧ x.session.key = key) → Live srgName s.live key :=
      fun key ⟨x, hx, _, hsrg, hkey⟩ =>
        ⟨x.session, mem_append_left _ (mem_map_of_mem hx), hsrg, hkey⟩
    simp only [hlisted, forall_or_iff, iff_true_intro hlive, true_and]
  | some entries =>
    simp only [mem_map, exists_exists_and_eq_and, forall_or_iff]
    have hsent : (∀ key, (∃ e ∈ entries, e.session.key = key) → Live srgName s.live key) ↔
        ∀ e ∈ entries, Live srgName s.live e.session.key :=
      ⟨fun h e he => h _ ⟨e, he, rfl⟩, by rintro h _ ⟨e, he, rfl⟩; exact h e he⟩
    rw [hsent]

/-! ## Transfers of the group north -/

open SessionSync.Replication (inNorth visitNone)
variable (backlogSize : Nat) (evs : List (String × Bool))

def senderAfter : SyncSender (SessionCheckpoint Unit) :=
  evs.foldl (fun sender ev => (Published.lifecycle ⟨some (inNorth ev.1), ev.2⟩).handle
    sender) ((SyncSender.new backlogSize (· = "north")).setActive true)

theorem grouped_senderAfter : (senderAfter backlogSize evs).Grouped := by
  unfold senderAfter
  have hnew : ((SyncSender.new backlogSize (· = "north") :
      SyncSender (SessionCheckpoint Unit)).setActive true).Grouped :=
    SyncSender.grouped_new backlogSize _
  generalize (SyncSender.new backlogSize (· = "north")).setActive true = sender at hnew
  induction evs generalizing sender with
  | nil => exact hnew
  | cons ev evs ih =>
    exact ih _ (SyncSender.handle_cases SyncSender.Grouped _ hnew fun _ _ => hnew.replicate rfl)

def serverAfter (live : List String) : HAPeerServer Unit :=
  ⟨some (senderAfter backlogSize evs), ["north"], 2, [live.map (.ipoe .bound <| inNorth ·)], []⟩

def holding (ids : List String) : SyncReceiver Unit :=
  (ids.map fun id => sessionToCheckpoint (inNorth id)).foldl (keep visitNone) (.new none)

/-- Two sessions that are in the backlog, of which the standby has one. -/
theorem exact_iff_north :
    ((holding ["a"]).receive (fun _ => visitNone)
      ((serverAfter 16 [("a", false), ("b", false)] ["a", "b"]).bulkSync ["north"])).Exact "north"
        (serverAfter 16 [("a", false), ("b", false)] ["a", "b"]).live := by
  have hlive : ∀ id ∈ ["a", "b"],
      Live "north" (serverAfter 16 [("a", false), ("b", false)] ["a", "b"]).live (.ipoe, id) :=
    fun id hid => ⟨inNorth id, mem_append_left _ (mem_map_of_mem hid), rfl, rfl⟩
  apply (exact_iff rfl (grouped_senderAfter 16 [("a", false), ("b", false)]) "north" _ _).mpr
  constructor
  · rintro key ⟨cp, hcp, -⟩
    by_cases hkey : key = (.ipoe, "a")
    · rw [hkey]
      exact hlive "a" (by decide)
    · have hnone : (holding ["a"]).opdb key = none := update_of_ne hkey ..
      rw [hnone] at hcp
      cases hcp
  · obtain ⟨entries, hentries, hkeys⟩ : ∃ entries, HAPeerServer.replayed
        (senderAfter 16 [("a", false), ("b", false)]) "north" = some entries ∧
          entries.map (·.session.key) = [(.ipoe, "a"), (.ipoe, "b")] := ⟨_, rfl, rfl⟩
    have hmem key : (∃ e ∈ entries, e.session.key = key) ↔
        key ∈ [(.ipoe, "a"), (.ipoe, "b")] := by
      rw [← hkeys, List.mem_map]
    rw [hentries]
    constructor
    · intro e he
      have hkey := (hmem e.session.key).mp ⟨e, he, rfl⟩
      obtain ⟨id, hid, heq⟩ := List.mem_map.mp
        (show e.session.key ∈ ["a", "b"].map (.ipoe, ·) from hkey)
      rw [← heq]
      exact hlive id hid
    · rintro key ⟨sess, hsess, -, rfl⟩ -
      change sess ∈ ["a", "b"].map inNorth ++ [] at hsess
      rw [append_nil] at hsess
      obtain ⟨id, hid, rfl⟩ := List.mem_map.mp hsess
      exact (hmem _).mpr (mem_map_of_mem hid)

/-- Transfers that end with a wrong entry under a key: a session that was released is
sent again; a session that the backlog has lost is missing; a session that the standby
had, and that is gone, stays; a session that is up with DHCPv6 alone is not listed. -/
def inexact : List (SyncedKey × HAPeerServer Unit × SyncReceiver Unit) :=
  [((.ipoe, "a"), serverAfter 16 [("a", false), ("a", true)] [], .new none),
    ((.ipoe, "a"), serverAfter 1 [("a", false), ("b", false)] ["a", "b"], .new none),
    ((.ipoe, "c"), serverAfter 16 [] ["a"], holding ["c"]),
    ((.ipoe, "d"), { serverAfter 16 [] [] with
      sessionIterators := [[.ipoe .soliciting (inNorth "d")]] }, .new none)]

theorem inexact_transfers :
    inexact.Forall fun (key, s, r) =>
      (∃ sender, s.syncSender = some sender ∧ sender.Grouped) ∧
        ¬ (Stored "north" (r.receive (fun _ => visitNone) (s.bulkSync ["north"])).opdb key ↔
          Live "north" s.live key) ∧
        ¬ (r.receive (fun _ => visitNone) (s.bulkSync ["north"])).Exact "north" s.live := by
  have hdiffers : ∀ x ∈ inexact,
      ((x.2.2.receive (fun _ => visitNone) (x.2.1.bulkSync ["north"])).opdb x.1).any
          (·.srgName = "north") ≠
        x.2.1.live.any fun sess => sess.srgName = "north" && sess.key = x.1 := by
    decide +kernel
  have hsenders : ∀ x ∈ inexact, ∃ sender, x.2.1.syncSender = some sender ∧ sender.Grouped := by
    simp only [inexact, forall_mem_cons, not_mem_nil, false_imp_iff, implies_true, and_true]
    exact ⟨⟨_, rfl, grouped_senderAfter _ _⟩, ⟨_, rfl, grouped_senderAfter _ _⟩,
      ⟨_, rfl, grouped_senderAfter _ _⟩, ⟨_, rfl, grouped_senderAfter _ _⟩⟩
  rw [forall_iff_forall_mem]
  intro x hx
  have hnot : ¬ (Stored "north"
      (x.2.2.receive (fun _ => visitNone) (x.2.1.bulkSync ["north"])).opdb x.1 ↔
        Live "north" x.2.1.live x.1) := by
    intro h
    apply hdiffers x hx
    rw [Bool.eq_iff_iff, Option.any_eq_true, List.any_eq_true]
    simpa [Stored, Live] using h
  exact ⟨hsenders x hx, hnot, fun hexact => hnot (hexact x.1)⟩

end SessionSync.SyncReceiver
end Osvbng.Ha

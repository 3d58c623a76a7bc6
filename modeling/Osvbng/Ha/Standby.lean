import Osvbng.Ha.Checkpoint

/-!
# The sessions of the active node and their copies on the standby

A session event changes the live sessions and is published; its handler runs on its
own, so that handlers may run in any order. The handler hands a request to the
sender, which sends one at a time and gives up what cannot be delivered.

The requests that are queued and the events that are not handled yet are writes the
standby has still to take. As long as none is lost and those of one session stay in
order, the standby's database with these writes is the active node's sessions
(`Mirrored`), and once they have been taken the copies are right
(`mirrors_of_careful`). No bulk transfer of sessions is ever requested, so that
nothing makes good what is lost (`copies_differ`).
-/

namespace Osvbng.Ha.SessionSync
open Function Option List Lib SyncSender SubscriberSession
variable {D : Type}

/-- An event the bus has still to deliver to the sender. -/
inductive Published (D : Type) where
  | lifecycle (data : SessionLifecycleEvent (SubscriberSession D))
  | mutation (data : SubscriberMutationResultEvent (SubscriberSession D))

namespace Published

def handle (ev : Published D) (s : SyncSender (SessionCheckpoint D)) :
    SyncSender (SessionCheckpoint D) :=
  match ev with
  | .lifecycle data => (s.handleEvent srgName sessionToCheckpoint data).1
  | .mutation data =>
    (s.handleMutationResult srgName sessionToCheckpoint data).1

def session : Published D → Option (SubscriberSession D)
  | .lifecycle data => data.session
  | .mutation data => data.session

def write : Published D → Option (Write SyncedKey (SessionCheckpoint D))
  | .lifecycle data => data.session.map fun sess =>
    if data.released then (sessionToCheckpoint sess).remove else (sessionToCheckpoint sess).put
  | .mutation data =>
    if data.ok then data.session.map fun sess => (sessionToCheckpoint sess).put else none

end Published

structure Replication (D : Type) where
  live : SyncedKey → Option (SubscriberSession D)
  published : List (Published D)
  sender : SyncSender (SessionCheckpoint D)
  receiver : SyncReceiver D

/-- What becomes of a message: it does not arrive, the database of the standby
refuses the write, or it is taken. -/
inductive Outcome where
  | lost
  | refused
  | taken
deriving DecidableEq

inductive ReplicationEvent (D : Type) where
  | session (sess : SubscriberSession D) (released : Bool)
  | mutation (ok : Bool) (sess : SubscriberSession D)
  | handle (i : Nat)
  | setActive (active : Bool)
  | send (outcome : Outcome) (visits : Visits)

namespace Replication
variable (s : Replication D)

/-- One turn of `Run`. An error of the peer is only logged. -/
def send (outcome : Outcome) (visits : Visits) : Replication D :=
  match s.sender.dequeue, outcome with
  | (sender, none), _ | (sender, some _), .lost => { s with sender := sender }
  | (sender, some req), .refused =>
    { s with sender := sender, receiver := (s.receiver.handleSyncSession false visits req).1 }
  | (sender, some req), .taken =>
    { s with sender := sender, receiver := (s.receiver.handleSyncSession true visits req).1 }

def next : ReplicationEvent D → Option (Replication D)
  | .session sess released =>
    some { s with
      live := update s.live sess.key (if released then none else some sess)
      published := s.published ++ [.lifecycle ⟨some sess, released⟩] }
  | .mutation ok sess =>
    -- the result of a change to a session that is there
    if (s.live sess.key).isSome then
      some { s with
        live := if ok then update s.live sess.key (some sess) else s.live
        published := s.published ++ [.mutation ⟨ok, some sess⟩] }
    else none
  | .handle i =>
    s.published[i]?.map fun ev =>
      { s with sender := ev.handle s.sender, published := s.published.eraseIdx i }
  | .setActive active => some { s with sender := s.sender.setActive active }
  | .send outcome visits => some (s.send outcome visits)

structure Initial (srgs : String → Bool) (s : Replication D) : Prop where
  live : s.live = fun _ => none
  published : s.published = []
  sender : ∃ backlogSize, s.sender = .new backlogSize srgs
  receiver : ∃ registry, s.receiver = .new registry

variable (srgs : String → Bool)

def machine : Machine (Replication D) (ReplicationEvent D) :=
  .ofNext (Initial srgs) next

def Quiet : Prop := s.published = [] ∧ s.sender.sendCh = []
deriving Decidable

/-- The standby's checkpoints of a group are those of the group's live sessions. -/
def Mirrors (srgName : String) (s : Replication D) : Prop :=
  ∀ key cp, (s.receiver.opdb key = some cp ∧ cp.srgName = srgName) ↔
    ∃ sess, s.live key = some sess ∧ sess.srgName = srgName ∧ cp = sessionToCheckpoint sess

/-- Every session is in a group of the pair. Its events are handled in their order,
while the sender is active and has room, and every message is taken. -/
def Careful (s : Replication D) : ReplicationEvent D → Prop
  | .session sess _ | .mutation _ sess => sess.srgName ≠ "" ∧ srgs sess.srgName
  | .handle i =>
    s.sender.active ∧ s.sender.sendCh.length < sendChCapacity ∧
      ∀ ev ∈ s.published[i]?, ∀ w ∈ ev.write,
        ∀ w' ∈ (s.published.take i).filterMap (·.write), w'.key ≠ w.key
  | .setActive _ => True
  | .send outcome _ => s.sender.sendCh ≠ [] → s.sender.active ∧ outcome = .taken

def writes : List (Write SyncedKey (SessionCheckpoint D)) :=
  s.sender.sendCh.map (·.write) ++ s.published.filterMap (·.write)

structure Mirrored (srgs : String → Bool) (s : Replication D) : Prop where
  backlogs : ∀ name, (s.sender.backlogs name).isSome = srgs name
  seqNums : ∀ name, (s.sender.seqNums name).isSome = srgs name
  published : ∀ ev ∈ s.published, ∀ sess ∈ ev.session, sess.srgName ≠ "" ∧ srgs sess.srgName
  copies : ∀ key, (Write.last key s.writes).getD (s.receiver.opdb key) =
    (s.live key).map sessionToCheckpoint

variable {srgs : String → Bool} {s s' : Replication D} {e : ReplicationEvent D}
  {sender : SyncSender (SessionCheckpoint D)} {sess : SubscriberSession D} {ev : Published D}

theorem Mirrored.init (h : Initial srgs s) : Mirrored srgs s := by
  obtain ⟨backlogSize, hsender⟩ := h.sender
  obtain ⟨registry, hreceiver⟩ := h.receiver
  constructor
  · intro name
    rw [hsender]
    exact isSome_ite _ _
  · intro name
    rw [hsender]
    exact isSome_ite _ _
  · intro ev hev
    rw [h.published] at hev
    cases hev
  · intro key
    unfold writes
    rw [h.published, hsender, hreceiver, h.live]
    rfl

/-! ### Events on the active node -/

theorem Mirrored.publish {live : SyncedKey → Option (SubscriberSession D)} (hm : Mirrored srgs s)
    (hsession : ev.session = some sess) (hsrg : sess.srgName ≠ "" ∧ srgs sess.srgName)
    (hlive : ∀ key, (live key).map sessionToCheckpoint =
      (ev.write.bind fun w => if w.key = key then some w.value else none).getD
        ((s.live key).map sessionToCheckpoint)) :
    Mirrored srgs { s with live := live, published := s.published ++ [ev] } where
  backlogs := hm.backlogs
  seqNums := hm.seqNums
  published ev' hev' sess' hsess' := by
    rcases mem_append.mp hev' with hold | hnew
    · exact hm.published ev' hold sess' hsess'
    · rw [mem_singleton.mp hnew, hsession] at hsess'
      cases hsess'
      exact hsrg
  copies key := by
    have hwrites : writes { s with live := live, published := s.published ++ [ev] } =
        s.writes ++ ev.write.toList := by
      unfold writes
      cases h : ev.write <;> simp [h]
    rw [hwrites, hlive key, ← hm.copies key, Write.last_append]
    cases ev.write with
    | none => rfl
    | some w =>
      rw [toList_some, Write.last_singleton, bind_some]
      by_cases hkey : w.key = key <;> simp [hkey]

theorem Mirrored.session {released : Bool} (hm : Mirrored srgs s)
    (hsrg : sess.srgName ≠ "" ∧ srgs sess.srgName) :
    Mirrored srgs { s with
      live := update s.live sess.key (if released then none else some sess)
      published := s.published ++ [.lifecycle ⟨some sess, released⟩] } := by
  apply hm.publish rfl hsrg
  intro key
  by_cases hkey : sess.key = key
  · subst hkey
    cases released <;> simp [Published.write, SubscriberSession.key, SessionCheckpoint.put,
      SessionCheckpoint.remove]
  · rw [update_of_ne (Ne.symm hkey)]
    unfold SubscriberSession.key at hkey
    cases released <;> simp [Published.write, SessionCheckpoint.put, SessionCheckpoint.remove, hkey]

theorem Mirrored.mutation {ok : Bool} (hm : Mirrored srgs s)
    (hsrg : sess.srgName ≠ "" ∧ srgs sess.srgName) :
    Mirrored srgs { s with
      live := if ok then update s.live sess.key (some sess) else s.live
      published := s.published ++ [.mutation ⟨ok, some sess⟩] } := by
  apply hm.publish rfl hsrg
  intro key
  cases ok with
  | false => rfl
  | true =>
    by_cases hkey : sess.key = key
    · subst hkey
      simp [Published.write, SubscriberSession.key, SessionCheckpoint.put]
    · unfold SubscriberSession.key at hkey ⊢
      simp [Published.write, SessionCheckpoint.put, hkey, update_of_ne (Ne.symm hkey)]

/-! ### The sender -/

theorem writes_replicate {name : String}
    {action : SyncAction} {cp : SessionCheckpoint D} (hbacklog : (sender.backlogs name).isSome)
    (hseq : (sender.seqNums name).isSome)
    (hroom : sender.sendCh.length < SyncSender.sendChCapacity) :
    (sender.replicate name action cp).1.sendCh.map (·.write) =
      sender.sendCh.map (·.write) ++ [if action = .delete then cp.remove else cp.put] := by
  obtain ⟨backlog, hb⟩ := isSome_iff_exists.mp hbacklog
  obtain ⟨n, hn⟩ := isSome_iff_exists.mp hseq
  unfold SyncSender.replicate
  rw [hb, hn]
  dsimp only
  rw [if_pos hroom, map_append]
  rfl

theorem writes_handle (hactive : sender.active)
    (hroom : sender.sendCh.length < sendChCapacity)
    (hsrg : ∀ sess ∈ ev.session, sess.srgName ≠ "" ∧ (sender.backlogs sess.srgName).isSome ∧
      (sender.seqNums sess.srgName).isSome) :
    (ev.handle sender).sendCh.map (·.write) = sender.sendCh.map (·.write) ++ ev.write.toList := by
  cases ev with
  | lifecycle data =>
    obtain ⟨session, released⟩ := data
    cases session with
    | none => simp [Published.handle, Published.write, handleEvent]
    | some sess =>
      obtain ⟨hname, hbacklog, hseq⟩ := hsrg sess rfl
      unfold Published.handle handleEvent
      simp only [hactive, hname, Bool.not_true, Bool.false_eq_true, if_false]
      rw [writes_replicate hbacklog hseq hroom]
      cases released <;> rfl
  | mutation data =>
    obtain ⟨ok, session⟩ := data
    cases ok with
    | false => simp [Published.handle, Published.write, handleMutationResult]
    | true =>
      cases session with
      | none => simp [Published.handle, Published.write, handleMutationResult]
      | some sess =>
        obtain ⟨hname, hbacklog, hseq⟩ := hsrg sess rfl
        unfold Published.handle handleMutationResult
        simp only [hactive, hname, Bool.not_true, Bool.or_self, Bool.false_eq_true, if_false]
        rw [writes_replicate hbacklog hseq hroom]
        rfl

theorem keeps_handle : sender.Keeps (ev.handle sender) := by
  cases ev with
  | lifecycle data => exact keeps_handleEvent
  | mutation data => exact keeps_handleMutationResult

theorem Mirrored.handle {i : Nat} (hm : Mirrored srgs s)
    (hok : Careful srgs s (.handle i)) (hev : s.published[i]? = some ev) :
    Mirrored srgs { s with sender := ev.handle s.sender, published := s.published.eraseIdx i } := by
  obtain ⟨hactive, hroom, hfirst⟩ := hok
  have hmem : ev ∈ s.published := mem_of_getElem? hev
  have hkeeps : s.sender.Keeps (ev.handle s.sender) := keeps_handle
  constructor
  · exact fun name => (hkeeps.backlogs name).trans (hm.backlogs name)
  · exact fun name => (hkeeps.seqNums name).trans (hm.seqNums name)
  · exact fun ev' hev' => hm.published ev' (mem_of_mem_eraseIdx hev')
  · intro key
    have hsrg : ∀ sess ∈ ev.session, sess.srgName ≠ "" ∧
        (s.sender.backlogs sess.srgName).isSome ∧ (s.sender.seqNums sess.srgName).isSome := by
      intro sess hsess
      obtain ⟨hname, hsrg⟩ := hm.published ev hmem sess hsess
      exact ⟨hname, (hm.backlogs _).trans hsrg, (hm.seqNums _).trans hsrg⟩
    -- the events before this one and those after it
    obtain ⟨hlt, hget⟩ := List.getElem?_eq_some_iff.mp hev
    have hsplit : s.published = s.published.take i ++ ev :: s.published.drop (i + 1) := by
      rw [← hget, getElem_cons_drop, take_append_drop]
    have hmoved : Write.on key (ev.write.toList ++
        ((s.published.take i).filterMap (·.write) ++
          (s.published.drop (i + 1)).filterMap (·.write))) =
        Write.on key (s.published.filterMap (·.write)) := by
      conv_rhs => rw [hsplit, filterMap_append]
      cases hw : ev.write with
      | none => rw [filterMap_cons_none hw, toList_none, nil_append]
      | some w =>
        rw [filterMap_cons_some hw]
        exact (Write.on_of_first (hfirst ev hev w hw) key _).symm
    rw [← hm.copies key]
    refine congrArg (getD · (s.receiver.opdb key)) (Write.last_congr ?_)
    unfold writes
    rw [writes_handle hactive hroom hsrg, eraseIdx_eq_take_drop_succ, filterMap_append,
      append_assoc, Write.on_append, hmoved, ← Write.on_append]

/-! ### The messages -/

theorem Mirrored.send {outcome : Outcome} {visits : Visits} (hm : Mirrored srgs s)
    (hok : Careful srgs s (.send outcome visits)) : Mirrored srgs (s.send outcome visits) := by
  unfold Replication.send dequeue
  cases hqueue : s.sender.sendCh with
  | nil => cases outcome <;> exact hm
  | cons req rest =>
    obtain ⟨hactive, rfl⟩ := hok (by rw [hqueue]; exact cons_ne_nil _ _)
    simp only [hactive, if_true]
    refine ⟨hm.backlogs, hm.seqNums, hm.published, fun key => ?_⟩
    have hcopies := hm.copies key
    have hwrites : s.writes =
        req.write :: (rest.map (·.write) ++ s.published.filterMap (·.write)) := by
      unfold writes
      rw [hqueue]
      rfl
    rw [hwrites, Write.last_cons] at hcopies
    unfold writes
    rw [← hcopies, SyncReceiver.opdb_handleSyncSession]
    cases Write.last key (rest.map (·.write) ++ s.published.filterMap (·.write)) with
    | some v => rfl
    | none =>
      by_cases hkey : req.write.key = key
      · simp [Write.apply, hkey]
      · simp [Write.apply, hkey, update_of_ne (Ne.symm hkey)]

theorem Mirrored.next (hm : Mirrored srgs s) (hok : Careful srgs s e) (hstep : s.next e = some s') :
    Mirrored srgs s' := by
  cases e with
  | session sess released =>
    cases hstep
    exact hm.session hok
  | mutation ok sess =>
    rw [Replication.next] at hstep
    split at hstep
    · cases hstep
      exact hm.mutation hok
    · cases hstep
  | handle i =>
    obtain ⟨ev, hev, rfl⟩ := map_eq_some_iff.mp hstep
    exact hm.handle hok hev
  | setActive active =>
    cases hstep
    exact { hm with }
  | send outcome visits =>
    cases hstep
    exact hm.send hok

variable (hreach : (machine srgs).Reach (Careful srgs) s)
include hreach

theorem mirrored_of_reach : Mirrored srgs s := by
  apply hreach.invariant (Mirrored srgs)
  · exact fun s hinit => .init hinit
  · exact fun s e s' hm hok hstep => hm.next hok hstep

/-- When no event is dropped, no message is lost and the events of a session are
handled in order, a quiet pair has the same sessions on both nodes. -/
theorem mirrors_of_careful (hquiet : s.Quiet) (srgName : String) : s.Mirrors srgName := by
  intro key cp
  have hcopies := (mirrored_of_reach hreach).copies key
  unfold writes at hcopies
  rw [hquiet.1, hquiet.2] at hcopies
  have hopdb : s.receiver.opdb key = (s.live key).map sessionToCheckpoint := hcopies
  rw [hopdb]
  constructor
  · rintro ⟨hcp, hsrg⟩
    obtain ⟨sess, hsess, rfl⟩ := map_eq_some_iff.mp hcp
    exact ⟨sess, hsess, (srgName_sessionToCheckpoint sess).symm.trans hsrg, rfl⟩
  · rintro ⟨sess, hsess, hsrg, rfl⟩
    rw [hsess]
    exact ⟨rfl, (srgName_sessionToCheckpoint sess).trans hsrg⟩

omit hreach

/-! ## Runs that lose or keep a session -/

def differs (srgName : String) (key : SyncedKey) (s : Replication D) : Bool :=
  (s.receiver.opdb key).any (·.srgName = srgName) != (s.live key).any (·.srgName = srgName)

theorem not_mirrors_of_differs {srgName : String} {key : SyncedKey}
    (h : s.differs srgName key = true) : ¬ s.Mirrors srgName := by
  intro hm
  apply (bne_iff_ne.mp h)
  rw [Bool.eq_iff_iff, Option.any_eq_true, Option.any_eq_true]
  simp only [decide_eq_true_eq]
  constructor
  · rintro ⟨cp, hcp⟩
    obtain ⟨sess, hsess, hsrg, -⟩ := (hm key cp).mp hcp
    exact ⟨sess, hsess, hsrg⟩
  · rintro ⟨sess, hsess, hsrg⟩
    exact ⟨sessionToCheckpoint sess, (hm key _).mpr ⟨sess, hsess, hsrg, rfl⟩⟩

def north : Replication Unit where
  live _ := none
  published := []
  sender := .new 16 (· = "north")
  receiver := .new none

def inNorth (sessionID : String) : SubscriberSession Unit :=
  ⟨sessionID, "north", .ipoe, [], [], "", "", "", none, ()⟩

def visitNone : Visits := ⟨[], [], []⟩

def replicated (sessionID : String) (released : Bool) (outcome : Outcome) :
    List (ReplicationEvent Unit) :=
  [.session (inNorth sessionID) released, .handle 0, .send outcome visitNone]

/-- Two sessions whose handlers overtake each other, and one that is released. -/
def orderly : List (ReplicationEvent Unit) :=
  [.setActive true, .session (inNorth "a") false, .session (inNorth "b") false, .handle 1,
    .handle 0, .send .taken visitNone, .session (inNorth "a") true, .mutation true (inNorth "b"),
    .handle 1, .handle 0, .send .taken visitNone, .send .taken visitNone, .send .taken visitNone]

/-- Runs after which the pair is quiet, with a key under which the nodes differ: a
message that is lost with a later one that shows the gap; a release that is handled
before the event that precedes it; an event while the flag of the node is off. -/
def lossy : List (SyncedKey × List (ReplicationEvent Unit)) :=
  [((.ipoe, "b"), [.setActive true] ++ replicated "a" false .taken ++ replicated "b" false .lost ++
      replicated "c" false .taken),
    ((.ipoe, "a"), [.setActive true, .session (inNorth "a") false, .session (inNorth "a") true,
      .handle 1, .handle 0, .send .taken visitNone, .send .taken visitNone]),
    ((.ipoe, "a"), [.session (inNorth "a") false, .handle 0, .setActive true,
      .send .taken visitNone])]

instance (srgs : String → Bool) (s : Replication D) (e : ReplicationEvent D) :
    Decidable (Careful srgs s e) := by
  rcases e <;> dsimp only [Careful] <;> infer_instance

theorem north_initial : Initial (· = "north") north := ⟨rfl, rfl, ⟨16, rfl⟩, ⟨none, rfl⟩⟩

theorem mirrors_of_careful_orderly :
    ∃ s : Replication Unit, (machine (· = "north")).Reach (Careful (· = "north")) s ∧ s.Quiet ∧
      (s.live (.ipoe, "b")).isSome ∧ s.live (.ipoe, "a") = none ∧ s.Mirrors "north" := by
  obtain ⟨s, hreach, hquiet, hb, ha⟩ :
      ∃ s : Replication Unit, (machine (· = "north")).Reach (Careful (· = "north")) s ∧ s.Quiet ∧
        (s.live (.ipoe, "b")).isSome ∧ (s.live (.ipoe, "a")).isNone :=
    Machine.exists_reach_of_run north_initial orderly (by decide +kernel)
  exact ⟨s, hreach, hquiet, hb, isNone_iff_eq_none.mp ha, mirrors_of_careful hreach hquiet "north"⟩

theorem copies_differ :
    lossy.Forall fun (key, es) => ∃ s, Machine.run next (fun _ _ => True) north es = some s ∧
      (machine (· = "north")).Reach (fun _ _ => True) s ∧ s.Quiet ∧ s.differs "north" key ∧
      ¬ s.Mirrors "north" := by
  refine Machine.forall_exists_run north_initial Prod.snd
    (fun run s => s.Quiet ∧ s.differs "north" run.1) (by decide +kernel) ?_
  rintro run s hreach ⟨hquiet, hdiffers⟩
  exact ⟨hreach, hquiet, hdiffers, not_mirrors_of_differs hdiffers⟩

end Replication
end Osvbng.Ha.SessionSync

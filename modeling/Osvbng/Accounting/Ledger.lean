import Mathlib.Data.List.Perm.Basic
import Osvbng.Lib.Run

/-!
# One start and one stop

The records of one session, under handlers that run concurrently. The bus runs
the handler of every event in a goroutine of its own, and a handler takes its
locks one after the other, so that the handlers of two events of the session
interleave. The writes to the database and the interim updates run in goroutines
as well. A task is what a goroutine still has to do, by its next stage.
-/

namespace Osvbng.Accounting
open Option List Lib Machine

inductive Record where
  | start | interim | stop
deriving DecidableEq

inductive Task where
  /-- An active session, or a restored one, is placed in its bucket and entered in the cache. -/
  | place (active : Bool)
  | enter (active : Bool)
  | save
  | start
  /-- A released session leaves the cache, the database and its bucket. -/
  | forget
  | delete
  | leave
  | stop
  /-- A tick has found the session in its bucket. -/
  | scanned
  | update
  | await
deriving DecidableEq

namespace Task

@[grind] def starts : Task → Bool
  | .enter active => active
  | .save | .start => true
  | _ => false

@[grind] def stops : Task → Bool
  | .forget | .delete | .leave | .stop => true
  | _ => false

@[grind] def forgets (t : Task) : Bool := t = .forget

@[grind] def early (t : Task) : Bool := t = .forget || t = .delete

@[grind] def updates (t : Task) : Bool := t = .update || t = .await

end Task

inductive Publication where
  | active | restored | released
deriving DecidableEq

structure Ledger where
  inBucket : Bool
  /-- Whether the session is in `acctCache`, and whether it awaits confirmation there. -/
  cached : Bool
  pendingSessionConfirm : Bool
  /-- Whether there is a checkpoint, and the writes on their way: a checkpoint or a deletion. -/
  checkpoint : Bool
  writes : List Bool
  tasks : List Task
  /-- History: whether a release has been published, and the records in their order. -/
  released : Bool
  log : List Record

namespace Ledger

inductive Event where
  | publish (p : Publication)
  | run (i : Nat) (ok : Bool)
  | tick
  | persist (i : Nat)
  | restart
  | prune

variable (l : Ledger)

/-- The next stage of a task, and what is left of the task. -/
@[grind] def perform (ok : Bool) : Task → Ledger × List Task
  | .place active =>
    ({ l with inBucket := true }, if active && l.inBucket then [] else [.enter active])
  | .enter active =>
    ({ l with cached := true, pendingSessionConfirm := false }, if active then [.save] else [])
  | .save => ({ l with writes := l.writes ++ [true] }, [.start])
  | .start => ({ l with log := l.log ++ [.start] }, [])
  | .forget => ({ l with cached := false }, [.delete])
  | .delete => ({ l with writes := l.writes ++ [false] }, [.leave])
  | .leave => ({ l with inBucket := false }, [.stop])
  | .stop => ({ l with log := l.log ++ [.stop] }, [])
  | .scanned => (l, if l.cached then [.update] else [])
  | .update => ({ l with log := l.log ++ [.interim] }, [.await])
  | .await => ({ l with writes := l.writes ++ if ok then [true] else [] }, [])

def handler : Publication → Task
  | .active => .place true
  | .restored => .place false
  | .released => .forget

def next : Event → Option Ledger
  | .publish p => some { l with
      tasks := handler p :: l.tasks
      released := l.released || p = .released }
  | .run i ok => l.tasks[i]?.map fun t =>
      { (l.perform ok t).1 with tasks := (l.perform ok t).2 ++ l.tasks.eraseIdx i }
  | .tick => some { l with tasks := if l.inBucket then .scanned :: l.tasks else l.tasks }
  | .persist i => l.writes[i]?.map fun w =>
      { l with checkpoint := w, writes := l.writes.eraseIdx i }
  | .restart => some { l with
      inBucket := false
      cached := l.checkpoint
      pendingSessionConfirm := l.checkpoint
      writes := []
      tasks := [] }
  | .prune =>
    if l.cached && l.pendingSessionConfirm then
      some { l with cached := false, writes := l.writes ++ [false] }
    else some l

def new : Ledger := ⟨false, false, false, false, [], [], false, []⟩

def Initial : Prop := l = new

def machine : Machine Ledger Event := .ofNext Initial next

@[grind] def started : Nat := l.log.count .start + l.tasks.countP Task.starts

/-- An active session that is not in its bucket has not been started; sessions are entered
before they are released, and released once; when the checkpoint is deleted there is no update
and no write on its way; and no restart takes the stop or the deletion away. -/
def Careful : Event → Prop
  | .publish p => p = .released → l.released = false
  | .run i _ => match l.tasks[i]? with
    | some (.place active) =>
      l.released = false ∧ (active = true → l.inBucket = true ∨ l.started = 0)
    | some (.enter _) | some .save => l.released = false
    | some .delete => l.writes = [] ∧ l.tasks.countP Task.updates = 0
    | _ => True
  | .restart => l.tasks.countP Task.stops = 0 ∧ (l.released = true → l.writes = [])
  | _ => True

instance (e : Event) : Decidable (l.Careful e) := by
  rcases e <;> dsimp only [Careful]
  case run i _ => split <;> infer_instance
  all_goals infer_instance

/-- What the records and the checkpoint of a session should be. -/
@[mk_iff]
structure Proper : Prop where
  start : l.log.count .start ≤ 1
  stop : l.log.count .stop ≤ 1
  stopped : l.released = true → l.tasks = [] → l.log.count .stop = 1
  interim : l.log.Pairwise fun r r' => ¬ (r = .stop ∧ r' = .interim)
  checkpoint : l.released = true → l.tasks = [] → l.writes = [] → l.checkpoint = false

instance : Decidable l.Proper := decidable_of_iff' _ l.proper_iff

structure Inv : Prop where
  started : l.started ≤ 1
  stops : l.log.count .stop + l.tasks.countP Task.stops = l.released.toNat
  cached : l.released = true → l.tasks.countP Task.forgets = 0 → l.cached = false
  gone : l.released = true → l.tasks.countP Task.early = 0 →
    l.tasks.countP Task.updates = 0 ∧ (∀ w ∈ l.writes, w = false) ∧
      (l.checkpoint = true → false ∈ l.writes)
  interim : l.log.Pairwise fun r r' => ¬ (r = .stop ∧ r' = .interim)

variable {l} {l' : Ledger}

theorem countP_of_getElem? {tasks : List Task} {i : Nat} {t : Task} (h : tasks[i]? = some t)
    (p : Task → Bool) : tasks.countP p = (tasks.eraseIdx i).countP p + (p t).toNat := by
  obtain ⟨hi, rfl⟩ := List.getElem?_eq_some_iff.mp h
  rw [← (getElem_cons_eraseIdx_perm hi).countP_eq p, countP_cons]
  cases p tasks[i] <;> rfl

theorem countP_early_le (tasks : List Task) : tasks.countP Task.forgets ≤ tasks.countP Task.early ∧
    tasks.countP Task.early ≤ tasks.countP Task.stops := by
  constructor
  · exact countP_mono_left fun t _ ht => by grind
  · exact countP_mono_left fun t _ ht => by grind

theorem Inv.run {i : Nat} {ok : Bool} (h : Inv l) (hok : l.Careful (.run i ok))
    (hn : l.next (.run i ok) = some l') : Inv l' := by
  obtain ⟨t, ht, rfl⟩ := map_eq_some_iff.mp hn
  have hcount := countP_of_getElem? ht
  obtain ⟨hstarted, hstops, hcached, hgone, hinterim⟩ := h
  simp only [Careful, ht, Ledger.started] at hok hstarted
  have hearly := countP_early_le (l.tasks.eraseIdx i)
  generalize l.tasks.eraseIdx i = rest at *
  cases t with
  | update =>
    -- an update is on its way only before the deletion, and so before the stop
    have hstop : .stop ∉ l.log := fun hmem => by
      have hreleased : l.released = true := by grind
      grind
    constructor
    case interim =>
      refine pairwise_append.mpr ⟨hinterim, by simp, ?_⟩
      rintro r hr r' - ⟨rfl, -⟩
      exact hstop hr
    all_goals grind -ring -linarith
  | place active | enter active | save => constructor <;> grind -ring -linarith
  | start | forget | delete | leave | stop => constructor <;> grind -ring -linarith
  | scanned | await => constructor <;> grind -ring -linarith

theorem Inv.next {e : Event} (h : Inv l) (hok : l.Careful e) (hn : l.next e = some l') :
    Inv l' := by
  cases e with
  | run i ok => exact h.run hok hn
  | publish p =>
    cases hn
    obtain ⟨hstarted, hstops, hcached, hgone, hinterim⟩ := h
    cases p <;> constructor <;> grind [handler, Careful]
  | tick =>
    cases hn
    obtain ⟨hstarted, hstops, hcached, hgone, hinterim⟩ := h
    constructor <;> grind
  | persist i =>
    obtain ⟨w, hw, rfl⟩ := map_eq_some_iff.mp hn
    refine ⟨h.started, h.stops, h.cached, fun hreleased hearly => ?_, h.interim⟩
    obtain ⟨hupdates, hwrites, hcheckpoint⟩ := h.gone hreleased hearly
    refine ⟨hupdates, fun w' hw' => hwrites w' (mem_of_mem_eraseIdx hw'), fun htrue => ?_⟩
    cases (hwrites w (mem_of_getElem? hw)).symm.trans htrue
  | restart =>
    cases hn
    have hearly := countP_early_le l.tasks
    obtain ⟨hstarted, hstops, hcached, hgone, hinterim⟩ := h
    constructor <;> grind [Careful]
  | prune =>
    simp only [Ledger.next] at hn
    split at hn
    · cases hn
      obtain ⟨hstarted, hstops, hcached, hgone, hinterim⟩ := h
      constructor <;> grind
    · cases hn
      exact h

/-- Every careful run keeps proper records: at most one start, one stop for a release, no
interim record after the stop, and no checkpoint when all is done. -/
theorem proper_of_careful (h : machine.Reach Careful l) : l.Proper := by
  have hl : l.Inv := by
    refine h.invariant Inv ?_ fun _ _ _ hl hok hn => hl.next hok hn
    rintro l rfl
    constructor <;> simp [new, Ledger.started]
  have hstop := hl.stops
  refine ⟨?_, ?_, fun hreleased htasks => ?_, hl.interim, fun hreleased htasks hwrites => ?_⟩
  · exact Nat.le_trans (Nat.le_add_right _ _) hl.started
  · have := l.released.toNat_le
    omega
  · simpa [htasks, hreleased] using hstop
  · obtain ⟨-, -, hcheckpoint⟩ := hl.gone hreleased (by simp [htasks])
    rw [hwrites] at hcheckpoint
    exact Bool.eq_false_iff.mpr fun htrue => by cases hcheckpoint htrue

/-- The session is started and updated once, and released. -/
def orderly : List Event :=
  [.publish .active, .run 0 true, .run 0 true, .run 0 true, .run 0 true, .tick, .run 0 true,
    .run 0 true, .run 0 true, .persist 0, .persist 0, .publish .released, .run 0 true,
    .run 0 true, .run 0 true, .run 0 true, .persist 0]

theorem proper_of_careful_orderly :
    ∃ l, run next Careful new orderly = some l ∧ l.log = [.start, .interim, .stop] ∧
      l.Proper := by
  have hany : (run next Careful new orderly).any
      (fun l => l.log = [.start, .interim, .stop]) = true := by decide +kernel
  obtain ⟨l, hrun, hlog⟩ := (any_eq_true _ _).mp hany
  have hstart : machine.Reach Careful new := .init rfl
  exact ⟨l, hrun, of_decide_eq_true hlog, proper_of_careful (hstart.of_run hrun)⟩

/-- The session is published as active again after a restart; is released twice; is released
while an update is on its way, whose checkpoint is written last; and is entered by the handler
of an older event after its release. -/
def disorders : List (List Event) :=
  let active : List Event := [.publish .active, .run 0 true, .run 0 true, .run 0 true, .run 0 true]
  let release : List Event :=
    [.publish .released, .run 0 true, .run 0 true, .run 0 true, .run 0 true]
  [active ++ .restart :: active,
    active ++ release ++ release,
    active ++ [.persist 0, .tick, .run 0 true, .run 0 true] ++ release ++
      [.run 0 true, .persist 0, .persist 0],
    .publish .active :: release ++ [.run 0 true, .run 0 true, .tick, .run 0 true, .run 0 true]]

theorem improper : disorders.Forall fun es =>
    ∃ l, run next (fun _ _ => True) new es = some l ∧
      machine.Reach (fun _ _ => True) l ∧ ¬ l.Proper :=
  forall_run (show Initial new from rfl) (by decide +kernel)

end Ledger
end Osvbng.Accounting

import Mathlib.Data.Fintype.Pi
import Osvbng.Lib.Run

/-!
# Accounting of a session

One session from its binding to its stop record: the counters of the
dataplane, the accounting state of the control plane with its checkpoint in
the database, and the accounting server.

An update runs in a goroutine of its own: it takes a reading when it is
started, computes a record from it, sends the record and waits for the server.
Updates overlap and overtake each other, and so do the writes to the database.
A restart of the control plane ends all of them and reloads the checkpoint.

Next to the program stands the history: the records sent, what the server has
acknowledged and the traffic since the session was bound.
-/

namespace Osvbng.Accounting
open Lib

inductive Field where
  | inBytes | outBytes | inPackets | outPackets
deriving DecidableEq

instance : Fintype Field where
  elems := {.inBytes, .outBytes, .inPackets, .outPackets}
  complete f := by cases f <;> decide

abbrev Counters := Field → UInt64

def Counters.zero : Counters := fun _ => 0

def Counters.Le (a b : Counters) : Prop := ∀ f, a f ≤ b f
deriving Decidable

theorem Counters.Le.refl (a : Counters) : a.Le a := fun f => UInt64.le_refl (a f)

theorem Counters.Le.trans {a b c : Counters} (h : a.Le b) (h' : b.Le c) : a.Le c :=
  fun f => UInt64.le_trans (h f) (h' f)

theorem Counters.zero_le (a : Counters) : Counters.zero.Le a := by
  intro f
  exact Nat.zero_le _

structure AccountingSession where
  lastReported : Counters
  currentBaseline : Counters
  priorDelta : Counters

namespace AccountingSession

def fresh : AccountingSession := ⟨.zero, .zero, .zero⟩

variable (s : AccountingSession)

def regressed (stats : Counters) : Prop :=
  ∃ f, stats f < s.currentBaseline f
deriving Decidable

def applyVPPCounters (stats : Counters) : AccountingSession × Counters :=
  let s := if s.regressed stats then
      { s with priorDelta := s.lastReported, currentBaseline := .zero }
    else s
  (s, fun f => (stats f - s.currentBaseline f) + s.priorDelta f)

/-- Without a reading the counts last acknowledged are sent again. -/
def account : Option Counters → AccountingSession × Counters
  | none => (s, s.lastReported)
  | some stats => s.applyVPPCounters stats

def advanceLastReported (values : Counters) : AccountingSession :=
  { s with lastReported := values }

end AccountingSession

inductive AccessType where
  | interface | l2gw
deriving DecidableEq

structure Outgoing where
  values : Counters
  stop : Bool

structure Sent where
  values : Counters
  acknowledged : Counters
  traffic : Field → Nat

structure Life where
  accessType : AccessType
  counters : Counters
  /-- The reading of the session's interface that is cached, if there is one. -/
  snapshot : Option Counters
  session : AccountingSession
  /-- Whether the session is in `acctCache`. -/
  cached : Bool
  inBucket : Bool
  pendingSessionConfirm : Bool
  /-- The checkpoint in the database, and the writes on their way to it. -/
  checkpoint : Option AccountingSession
  writes : List (Option AccountingSession)
  /-- Updates that have their reading; records; records that await a response. -/
  started : List (Option Counters)
  ready : List Outgoing
  awaiting : List Counters
  /-- The history. -/
  bound : Bool
  traffic : Field → Nat
  acknowledged : Counters
  records : List Sent

inductive Event where
  /-- The dataplane counts traffic; restarts; is read into the cache. -/
  | count (delta : Counters)
  | vppRestart
  | refresh (ok : Bool)
  /-- Session events. -/
  | active
  | restored
  | release (other : Option Counters)
  /-- Stages of an update. -/
  | tick (upOK downOK : Bool)
  | compute (i : Nat)
  | send (i : Nat)
  | complete (i : Nat) (ok : Bool)
  /-- The database, restarts and the clean-up after them. -/
  | persist (i : Nat)
  | restart
  | prune

namespace Life
variable (l : Life) (upOK downOK : Bool)

/-- The reading of a circuit: a direction without an entry counts as zero. -/
def l2gwStats : Option Counters :=
  if upOK || downOK then
    some fun
      | .inBytes => if upOK then l.counters .inBytes else 0
      | .inPackets => if upOK then l.counters .inPackets else 0
      | .outBytes => if downOK then l.counters .outBytes else 0
      | .outPackets => if downOK then l.counters .outPackets else 0
  else none

def reading : Option Counters :=
  match l.accessType with
  | .interface => l.snapshot
  | .l2gw => l.l2gwStats upOK downOK

/-- The reading of the stop record. For a circuit it is that of the interface
whose index is the index of the circuit's entry. -/
def stopReading (other : Option Counters) : Option Counters :=
  match l.accessType with
  | .interface => l.snapshot
  | .l2gw => other

/-- `handleSessionLifecycle` with a session that is not released. -/
def active : Life :=
  if l.inBucket then l
  else
    { l with
      inBucket := true
      session := .fresh
      cached := true
      pendingSessionConfirm := false
      writes := l.writes ++ [some .fresh]
      bound := true
      traffic := if l.bound then l.traffic else fun _ => 0 }

/-- `handleSessionRestored`: a session without a checkpoint starts afresh. -/
def restored : Life :=
  if !l.bound then l
  else if l.cached then { l with inBucket := true, pendingSessionConfirm := false }
  else
    { l with
      inBucket := true
      session := .fresh
      cached := true
      pendingSessionConfirm := false }

def release (other : Option Counters) : Life :=
  let accounted :=
    if l.cached then l.session.account (l.stopReading other) else (l.session, .zero)
  { l with
    session := accounted.1
    ready := l.ready ++ [⟨accounted.2, true⟩]
    cached := false
    inBucket := false
    writes := l.writes ++ [none] }

/-- `ProcessAccountingBucket`, for this session. -/
def tick : Life :=
  if l.inBucket && l.cached then { l with started := l.started ++ [l.reading upOK downOK] } else l

variable (i : Nat)

/-- The first part of `sendAccountingUpdate`. -/
def compute : Option Life :=
  l.started[i]?.map fun stats =>
    { l with
      session := (l.session.account stats).1
      started := l.started.eraseIdx i
      ready := l.ready ++ [⟨(l.session.account stats).2, false⟩] }

def send : Option Life :=
  l.ready[i]?.map fun out =>
    { l with
      ready := l.ready.eraseIdx i
      awaiting := if out.stop then l.awaiting else l.awaiting ++ [out.values]
      records := l.records ++ [⟨out.values, l.acknowledged, l.traffic⟩] }

/-- The last part of `sendAccountingUpdate`. -/
def complete (ok : Bool) : Option Life :=
  l.awaiting[i]?.map fun values =>
    let l := { l with awaiting := l.awaiting.eraseIdx i }
    if ok then
      let session := l.session.advanceLastReported values
      { l with session := session, acknowledged := values, writes := l.writes ++ [some session] }
    else l

def persist : Option Life :=
  l.writes[i]?.map fun w => { l with checkpoint := w, writes := l.writes.eraseIdx i }

def restart : Life :=
  { l with
    snapshot := none
    session := l.checkpoint.getD .fresh
    cached := l.checkpoint.isSome
    inBucket := false
    pendingSessionConfirm := l.checkpoint.isSome
    writes := []
    started := []
    ready := []
    awaiting := [] }

/-- `pruneOrphanedAcctEntries`, past the deadline. -/
def prune : Life :=
  if l.cached && l.pendingSessionConfirm then
    { l with cached := false, writes := l.writes ++ [none] }
  else l

def next : Event → Option Life
  | .count delta => some { l with
      counters := fun f => l.counters f + delta f
      traffic := fun f => l.traffic f + (delta f).toNat }
  | .vppRestart => some { l with counters := .zero }
  | .refresh ok => some { l with snapshot := if ok then some l.counters else none }
  | .active => some l.active
  | .restored => some l.restored
  | .release other => some (l.release other)
  | .tick upOK downOK => some (l.tick upOK downOK)
  | .compute i => l.compute i
  | .send i => l.send i
  | .complete i ok => l.complete i ok
  | .persist i => l.persist i
  | .restart => some l.restart
  | .prune => some l.prune

/-- Before the session is bound. The counters of its interface are what they
are. -/
structure Initial (l : Life) : Prop where
  bound : l.bound = false
  cached : l.cached = false
  inBucket : l.inBucket = false
  session : l.session = .fresh
  checkpoint : l.checkpoint = none
  writes : l.writes = []
  started : l.started = []
  ready : l.ready = []
  awaiting : l.awaiting = []
  acknowledged : l.acknowledged = .zero
  records : l.records = []

def machine : Machine Life Event := .ofNext Initial next

def lastSent : Counters := (l.records.getLast?.map (·.values)).getD .zero

end Life
end Osvbng.Accounting

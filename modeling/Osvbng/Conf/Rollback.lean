import Osvbng.Conf.Commit
import Osvbng.Lib.Run

/-!
# Rollback

`Rollback` takes the configuration from the version it is asked for. `Commit`
and `Rollback` record versions without one, and a restart reads the versions
from files that have none, so that it finds none in any history.
-/

namespace Osvbng.Conf
open Function List Lib

/-- The `Config` of a version, which can be anything. -/
inductive Recorded (Config : Type) where
  | config (c : Config)
  | other

structure History (Config Value K S : Type) where
  manager : Manager Config Value K S
  /-- The `Config` of each listed version. -/
  configs : List (Recorded Config)
  /-- History: what ran right after the version of a number was made. -/
  ran : Nat → Option Config

inductive RollbackError where
  | invalidVersion (toVersion : Nat)
  | invalidConfigType (toVersion : Nat)
  | verification
  | apply (e : CommitError)
  | saveVersion
deriving DecidableEq

section Rollback
variable {Config Value K S : Type} [DecidableEq Value] [DecidableEq K]
  (reg : Registry Config Value K S) (ops : ConfigOps Config)
  (validate : HandlerContext Value → Bool)
namespace History
variable (n : History Config Value K S) (a : Answers)

/-- A version that is new in the list has no configuration. -/
def record (m : Manager Config Value K S) : History Config Value K S :=
  if n.manager.versions.length < m.versions.length then
    { manager := m
      configs := n.configs ++ [.other]
      ran := update n.ran m.versions.length (some m.runningConfig) }
  else { n with manager := m }

def rollback (toVersion : Nat) : History Config Value K S × Option RollbackError :=
  let m := n.manager.expireIdleSessions a.now
  let n := { n with manager := m }
  if toVersion < 1 ∨ m.versions.length < toVersion then (n, some (.invalidVersion toVersion))
  else
    match n.configs[toVersion - 1]? with
    | some (.config c) =>
      -- the session is a new one, and has no changes
      let sess : Session Config Value := ⟨ops.deepCopyConfig c, [], a.now⟩
      if !sess.changes.all validate then (n, some .verification)
      else
        match applyChanges reg sess.config ⟨[], m.handlers, false⟩ sess.changes with
        | (p, some e) =>
          let handlers := rollbackChanges reg p.handlers p.applied
          ({ n with manager := { m with handlers := handlers } }, some (.apply e))
        | (p, none) =>
          let version : ConfigVersion Value :=
            ⟨m.versions.length + 1, (formatChanges sess.changes).changes⟩
          let m := { m with
            handlers := p.handlers
            runningConfig := sess.config
            versions := m.versions ++ [version] }
          if m.disableVersions then (n.record m, none)
          else
            let old := m.versionFiles version.version
            let m := { m with
              versionFiles := update m.versionFiles version.version
                (a.saveVersion.apply old (some (.holds version)) (some .unreadable)) }
            (n.record m, if a.saveVersion = .written then none else some .saveVersion)
    | _ => (n, some (.invalidConfigType toVersion))

inductive Event (Config Value K S : Type) where
  /-- Sessions are opened, edited and closed. -/
  | edit (sessions : SessionID → Option (Session Config Value)) (lockOwner : Option SessionID)
  | commit (a : Answers) (id : SessionID)
  | rollback (a : Answers) (toVersion : Nat)
  /-- A new process, with the versions that are in the files. -/
  | restart (m : Manager Config Value K S)

inductive Step (n : History Config Value K S) :
    Event Config Value K S → History Config Value K S → Prop
  | edit (sessions : SessionID → Option (Session Config Value)) (lockOwner : Option SessionID) :
      Step n (.edit sessions lockOwner)
        { n with manager := { n.manager with sessions := sessions, lockOwner := lockOwner } }
  | commit (a : Answers) (id : SessionID) :
      Step n (.commit a id) (n.record (Conf.commit reg ops a n.manager id).1)
  | rollback (a : Answers) (toVersion : Nat) :
      Step n (.rollback a toVersion) (n.rollback reg ops validate a toVersion).1
  | restart (m : Manager Config Value K S)
      (hloaded : ∀ v ∈ m.versions, n.manager.versionFiles v.version = some (.holds v)) :
      Step n (.restart m) { n with manager := m, configs := m.versions.map fun _ => .other }

def machine : Machine (History Config Value K S) (Event Config Value K S) where
  init n := n.manager.versions = [] ∧ n.configs = []
  step := Step reg ops validate

/-- The rollback makes `c` the running configuration, by the changes that lead to it. -/
structure Restores (difference : Config → Config → List (HandlerContext Value)) (i : Nat)
    (c : Config) : Prop where
  succeeds : (n.rollback reg ops validate a (i + 1)).2 = none
  running : (n.rollback reg ops validate a (i + 1)).1.manager.runningConfig = c
  handlers : ∃ p, applyChanges reg c ⟨[], n.manager.handlers, false⟩
    (difference n.manager.runningConfig c) = (p, none) ∧
      (n.rollback reg ops validate a (i + 1)).1.manager.handlers = p.handlers

/-- What ran right after the version at a place of the list was made. -/
def target (i : Nat) : Option Config := (n.manager.versions[i]?).bind fun v => n.ran v.version

variable {reg ops validate n a} (h : (machine reg ops validate).Reach (fun _ _ => True) n)
include h

theorem other_of_reach : ∀ c ∈ n.configs, c = .other := by
  have hrecord (n : History Config Value K S) m : (∀ c ∈ n.configs, c = .other) →
      ∀ c ∈ (n.record m).configs, c = .other := by
    intro hn c hc
    unfold record at hc
    split at hc
    · exact (mem_append.mp hc).elim (hn c) mem_singleton.mp
    · exact hn c hc
  refine h.invariant (fun n => ∀ c ∈ n.configs, c = .other) (fun n hn => by simp [hn.2]) ?_
  intro n e n' hn _ hstep
  cases hstep with
  | edit sessions lockOwner => exact hn
  | commit a id => exact hrecord n _ hn
  | rollback a toVersion =>
    unfold rollback
    dsimp only
    repeat' split
    all_goals first
      | exact hn
      | exact hrecord { n with manager := n.manager.expireIdleSessions a.now } _ hn
  | restart m hloaded =>
    intro c hc
    obtain ⟨v, -, rfl⟩ := mem_map.mp hc
    rfl

theorem rollback_refused (a : Answers) (toVersion : Nat) :
    (n.rollback reg ops validate a toVersion).2 ≠ none := by
  unfold rollback
  dsimp only
  split
  · exact nofun
  · split
    · rename_i c hc
      cases other_of_reach h _ (mem_of_getElem? hc)
    · exact nofun

omit h

/-- Rolling back works for the versions whose configurations validate exactly if there are
no such versions. -/
theorem restores_iff (difference : Config → Config → List (HandlerContext Value))
    (h : (machine reg ops validate).Reach (fun _ _ => True) n) :
    (∀ a i c, n.target i = some c → ops.validate c = true →
        n.Restores reg ops validate a difference i c) ↔
      ∀ i c, n.target i = some c → ops.validate c = false := by
  constructor
  · intro hrestores i c hc
    rw [Bool.eq_false_iff]
    intro hvalid
    let a : Answers := ⟨0, true, true, .written, .written⟩
    exact rollback_refused h a (i + 1) (hrestores a i c hc hvalid).succeeds
  · intro hnone a i c hc hvalid
    rw [hnone i c hc] at hvalid
    cases hvalid

end History
end Rollback

namespace History

def writable : Answers := { readOnly with saveYAML := .written, saveVersion := .written }

def committed : History Nat Nat Unit (Option Nat) :=
  record ⟨edited, [], fun _ => none⟩ (commit settings plainOps writable edited "console").1

theorem reach_committed :
    (machine settings plainOps fun _ => true).Reach (fun _ _ => True) committed := by
  have hinit : (machine settings plainOps fun _ => true).Reach (fun _ _ => True)
      ⟨edited, [], fun _ => none⟩ := .init ⟨rfl, rfl⟩
  exact hinit.step trivial (Step.commit writable "console")

theorem restores_iff_committed :
    ¬ ∀ a i c, committed.target i = some c → plainOps.validate c = true →
      committed.Restores settings plainOps (fun _ => true) a (fun _ _ => []) i c := by
  rw [restores_iff _ reach_committed]
  intro h
  exact absurd (h 0 9000 (by decide +kernel)) (by decide)

/-- The version of the commit is listed, and its configuration validates. It cannot be
rolled back to, and nothing changes. -/
theorem rollback_to_committed :
    committed.manager.versions.length = 1 ∧ committed.target 0 = some 9000 ∧
      plainOps.validate 9000 = true ∧
      (committed.rollback settings plainOps (fun _ => true) writable 1).2 =
        some (.invalidConfigType 1) := by
  decide +kernel

end History
end Osvbng.Conf

import Osvbng.Conf.Changes

/-!
# Commit

`Commit` applies the changes of a candidate session one by one, reloads the
routing daemon, and only then publishes the candidate: the running and the
startup configuration are replaced, the startup file and a version are written.
Up to the reload an error rolls the applied changes back. After it, an error is
returned and nothing is taken back.

`commit_allOrNothing_iff` says exactly when a commit is all or nothing.
-/

namespace Osvbng.Conf
open Function List Bool

abbrev SessionID := String

structure Session (Config Value : Type) where
  config : Config
  changes : List (HandlerContext Value)
  lastActivity : Nat

inductive File (X : Type) where
  | holds (a : X)
  | unreadable
deriving DecidableEq

structure ConfigVersion (Value : Type) where
  version : Nat
  changes : List (Change Value)
deriving DecidableEq

structure Manager (Config Value K S : Type) where
  runningConfig : Config
  startupConfig : Config
  startupFile : File Config
  sessions : SessionID → Option (Session Config Value)
  lockOwner : Option SessionID
  versions : List (ConfigVersion Value)
  versionFiles : Nat → Option (File (ConfigVersion Value))
  disableVersions : Bool
  handlers : K → S

/-- The parts of the configuration code a commit calls. -/
structure ConfigOps (Config : Type) where
  validate : Config → Bool
  configured : Config → String → String → Bool
  deepCopyConfig : Config → Config
  scrubPersistedConfig : Config → Config

inductive WriteResult where
  | written
  /-- The error comes before the file is opened. -/
  | refused
  /-- The file is truncated when the error comes. -/
  | truncated
deriving DecidableEq

def WriteResult.apply {X : Type} (w : WriteResult) (old : X) (new : X) (unreadable : X) : X :=
  match w with
  | .written => new
  | .refused => old
  | .truncated => unreadable

structure Answers where
  now : Nat
  frrTest : Bool
  frrReload : Bool
  saveYAML : WriteResult
  saveVersion : WriteResult

inductive CommitError where
  | sessionNotFound (id : SessionID)
  | dependencies (e : OrderError)
  | noChanges
  | validation
  | noHandler (path : String)
  | apply (path : String)
  | frrTest
  | frrReload
  | saveStartup
  | saveVersion
deriving DecidableEq

def candidateSessionIdleTimeout : Nat := 900

section Commit
variable {Config Value K S : Type} (reg : Registry Config Value K S) (ops : ConfigOps Config)
  (m : Manager Config Value K S)

def Manager.alive (now : Nat) (id : SessionID) : Option (Session Config Value) :=
  (m.sessions id).filter fun s =>
    s.lastActivity = 0 ∨ now ≤ s.lastActivity + candidateSessionIdleTimeout

def Manager.expireIdleSessions (now : Nat) : Manager Config Value K S :=
  { m with
    sessions := m.alive now
    lockOwner := m.lockOwner.filter fun id => (m.sessions id).isNone || (m.alive now id).isSome }

def Manager.touchSession (id : SessionID) (now : Nat) : Manager Config Value K S :=
  { m with
    sessions := update m.sessions id ((m.sessions id).map fun s => { s with lastActivity := now }) }

structure Progress (Value K S : Type) where
  applied : List (HandlerContext Value)
  handlers : K → S
  frrReloadNeeded : Bool

def applyChanges [DecidableEq K] (config : Config) (p : Progress Value K S) :
    List (HandlerContext Value) → Progress Value K S × Option CommitError
  | [] => (p, none)
  | change :: rest =>
    match reg.getHandler change.path with
    | none => (p, some (.noHandler change.path))
    | some k =>
      let result := reg.apply k config change (p.handlers k)
      let handlers := update p.handlers k result.state
      if result.ok then
        applyChanges config
          { applied := p.applied ++ [change]
            handlers := handlers
            frrReloadNeeded := p.frrReloadNeeded || result.frrReloadNeeded } rest
      else ({ p with handlers := handlers }, some (.apply change.path))

variable (a : Answers)

/-- Applies the changes and reloads the routing daemon if one of them asks for it. -/
def applyAndReload [DecidableEq K] (config : Config) (handlers : K → S)
    (sorted : List (HandlerContext Value)) : Progress Value K S × Option CommitError :=
  match applyChanges reg config ⟨[], handlers, false⟩ sorted with
  | (p, some e) => (p, some e)
  | (p, none) =>
    if p.frrReloadNeeded && !a.frrTest then (p, some .frrTest)
    else if p.frrReloadNeeded && !a.frrReload then (p, some .frrReload)
    else (p, none)

def rollbackOne [DecidableEq K] (handlers : K → S) (change : HandlerContext Value) : K → S :=
  match reg.getHandler change.path with
  | none => handlers
  | some k => update handlers k (reg.rollback k change (handlers k))

/-- The last change is rolled back first. -/
def rollbackChanges [DecidableEq K] (handlers : K → S) (changes : List (HandlerContext Value)) :
    K → S :=
  changes.reverse.foldl (rollbackOne reg) handlers

def plan (id : SessionID) :
    Except CommitError (Session Config Value × List (HandlerContext Value)) :=
  match m.sessions id with
  | none => .error (.sessionNotFound id)
  | some sess =>
    match sortChangesByDependencies reg (ops.configured m.runningConfig) sess.changes with
    | .error e => .error (.dependencies e)
    | .ok sorted =>
      if sorted.isEmpty then .error .noChanges
      else if !ops.validate sess.config then .error .validation
      else .ok (sess, sorted)

def publish [DecidableEq Value] (m : Manager Config Value K S) (id : SessionID)
    (sess : Session Config Value) (handlers : K → S) :
    Manager Config Value K S × Option CommitError :=
  let diff := formatChanges sess.changes
  let startup := ops.deepCopyConfig sess.config
  let m := { m with
    handlers := handlers
    runningConfig := sess.config
    startupConfig := startup
    startupFile :=
      a.saveYAML.apply m.startupFile (.holds (ops.scrubPersistedConfig startup)) .unreadable }
  if a.saveYAML ≠ .written then (m, some .saveStartup)
  else
    let m := { m with
      sessions := update m.sessions id none
      lockOwner := m.lockOwner.filter (· ≠ id) }
    if diff.isEmpty then (m, none)
    else
      let version : ConfigVersion Value := ⟨m.versions.length + 1, diff.changes⟩
      let m := { m with versions := m.versions ++ [version] }
      if m.disableVersions then (m, none)
      else
        let old := m.versionFiles version.version
        let m := { m with
          versionFiles := update m.versionFiles version.version
            (a.saveVersion.apply old (some (.holds version)) (some .unreadable)) }
        (m, if a.saveVersion = .written then none else some .saveVersion)

def commit [DecidableEq Value] [DecidableEq K] (m : Manager Config Value K S)
    (id : SessionID) : Manager Config Value K S × Option CommitError :=
  let m := m.expireIdleSessions a.now
  match plan reg ops m id with
  | .error e => (m.touchSession id a.now, some e)
  | .ok (sess, sorted) =>
    let m := m.touchSession id a.now
    match applyAndReload reg a sess.config m.handlers sorted with
    | (p, some e) => ({ m with handlers := rollbackChanges reg p.handlers p.applied }, some e)
    | (p, none) => publish ops a m id sess p.handlers

/-! ## All or nothing -/

section Handlers
variable [DecidableEq K] (config : Config) (handlers : K → S) (k : K)

def owns (change : HandlerContext Value) : Bool := reg.getHandler change.path = some k

/-- The state of a handler when its `Apply` has been called for its changes among these. -/
def stateAfter (changes : List (HandlerContext Value)) : S :=
  (changes.filter (owns reg k)).foldl (fun s change => (reg.apply k config change s).state)
    (handlers k)

/-- The answer of the handler of a change that comes after those `before`. -/
def answer (before : List (HandlerContext Value)) (change : HandlerContext Value) :
    Option (Applied S) :=
  (reg.getHandler change.path).map fun k =>
    reg.apply k config change (stateAfter reg config handlers k before)

/-- The changes up to the first that has no handler or whose `Apply` fails. -/
def applicable (before : List (HandlerContext Value)) :
    List (HandlerContext Value) → List (HandlerContext Value)
  | [] => []
  | change :: rest =>
    if (answer reg config handlers before change).any (·.ok) then
      change :: applicable (before ++ [change]) rest
    else []

def asksReload (before : List (HandlerContext Value)) : List (HandlerContext Value) → Bool
  | [] => false
  | change :: rest => (answer reg config handlers before change).any (·.frrReloadNeeded) ||
      asksReload (before ++ [change]) rest

/-- The handler's `Rollback`, called for its changes among `changes` from the last one on, brings
it from its state after those that were `tried` to the one before. -/
def Reverts (changes tried : List (HandlerContext Value)) : Prop :=
  (changes.filter (owns reg k)).foldr (reg.rollback k) (stateAfter reg config handlers k tried) =
    handlers k

end Handlers

/-- The configurations, the startup file, the versions and the handlers that have applied one
of the changes are as they were. -/
structure Unchanged [DecidableEq K] (applied : List (HandlerContext Value))
    (m m' : Manager Config Value K S) : Prop where
  runningConfig : m'.runningConfig = m.runningConfig
  startupConfig : m'.startupConfig = m.startupConfig
  startupFile : m'.startupFile = m.startupFile
  versions : m'.versions = m.versions
  handlers : ∀ k, applied.any (owns reg k) → m'.handlers k = m.handlers k

def versionOf [DecidableEq Value] (m : Manager Config Value K S) (sess : Session Config Value) :
    List (ConfigVersion Value) :=
  if (formatChanges sess.changes).isEmpty then []
  else [⟨m.versions.length + 1, (formatChanges sess.changes).changes⟩]

/-- Every change is applied, and the candidate is what runs and what is stored. -/
structure Reflects [DecidableEq Value] [DecidableEq K] (m m' : Manager Config Value K S)
    (sess : Session Config Value) (sorted : List (HandlerContext Value)) : Prop where
  runningConfig : m'.runningConfig = sess.config
  startupConfig : m'.startupConfig = ops.deepCopyConfig sess.config
  startupFile : m'.startupFile = .holds (ops.scrubPersistedConfig (ops.deepCopyConfig sess.config))
  versions : m'.versions = m.versions ++ versionOf m sess
  versionFiles : m.disableVersions = false →
    ∀ v ∈ versionOf m sess, m'.versionFiles v.version = some (.holds v)
  applied : applicable reg sess.config m.handlers [] sorted = sorted
  handlers : ∀ k, m'.handlers k = stateAfter reg sess.config m.handlers k sorted

def AllOrNothing [DecidableEq Value] [DecidableEq K] (m : Manager Config Value K S)
    (id : SessionID) : Prop :=
  match plan reg ops (m.expireIdleSessions a.now) id, commit reg ops a m id with
  | .error _, (m', e) => e ≠ none ∧ Unchanged reg [] m m'
  | .ok (sess, sorted), (m', some _) =>
    Unchanged reg (applicable reg sess.config m.handlers [] sorted) m m'
  | .ok (sess, sorted), (m', none) => Reflects reg ops m m' sess sorted

/-- Publishing the session is no change. -/
structure Repeats [DecidableEq K] (a : Answers) (m : Manager Config Value K S)
    (sess : Session Config Value) (sorted : List (HandlerContext Value)) : Prop where
  runningConfig : sess.config = m.runningConfig
  startupConfig : ops.deepCopyConfig sess.config = m.startupConfig
  startupFile : a.saveYAML = .truncated → m.startupFile = .unreadable
  handlers : ∀ k, sorted.any (owns reg k) →
    stateAfter reg sess.config m.handlers k sorted = m.handlers k

/-- If a change has no handler or is not applied, or the routing daemon is to be reloaded and is
not, each handler reverts the changes it has applied; otherwise the startup file and the version
are written. -/
def Safe [DecidableEq Value] [DecidableEq K] (m : Manager Config Value K S)
    (id : SessionID) : Prop :=
  match plan reg ops (m.expireIdleSessions a.now) id with
  | .error _ => True
  | .ok (sess, sorted) =>
    let applied := applicable reg sess.config m.handlers [] sorted
    if applied = sorted ∧
        (asksReload reg sess.config m.handlers [] sorted → a.frrTest ∧ a.frrReload) then
      if a.saveYAML = .written then
        (formatChanges sess.changes).isEmpty = true ∨ m.disableVersions = true ∨
          a.saveVersion = .written
      else Repeats reg ops a m sess sorted
    else ∀ k, applied.any (owns reg k) →
      Reverts reg sess.config m.handlers k applied (sorted.take (applied.length + 1))

variable {reg ops} {a : Answers} {m : Manager Config Value K S} {id : SessionID}
variable {config : Config} {p : Progress Value K S} {sorted : List (HandlerContext Value)}

section Handlers
variable [DecidableEq K] {handlers : K → S} {k : K} {before rest : List (HandlerContext Value)}
  {change : HandlerContext Value}

theorem stateAfter_append : stateAfter reg config handlers k (before ++ [change]) =
    if owns reg k change then
      (reg.apply k config change (stateAfter reg config handlers k before)).state
    else stateAfter reg config handlers k before := by
  unfold stateAfter
  rw [filter_append, foldl_append]
  cases h : owns reg k change <;> simp [h]

variable (reg config handlers before rest p) in
/-- The handlers are called one after the other, each in the state its own changes have left. -/
theorem applyChanges_spec (hp : p.applied = before)
    (hhandlers : p.handlers = fun k => stateAfter reg config handlers k before) :
    ∃ done e, applyChanges reg config p rest = (done, e) ∧
      done.applied = before ++ applicable reg config handlers before rest ∧
      (e = none ↔ applicable reg config handlers before rest = rest) ∧
      (e = none → done.frrReloadNeeded =
        (p.frrReloadNeeded || asksReload reg config handlers before rest)) ∧
      done.handlers = fun k => stateAfter reg config handlers k (before ++
        rest.take ((applicable reg config handlers before rest).length + 1)) := by
  induction rest generalizing p before with
  | nil => exact ⟨p, none, rfl, by simp [hp, applicable, asksReload, hhandlers]⟩
  | cons change rest ih =>
    unfold applyChanges applicable asksReload answer
    cases hk : reg.getHandler change.path with
    | none =>
      refine ⟨p, _, rfl, ?_⟩
      simp [hp, hhandlers, stateAfter_append, owns, hk]
    | some k =>
      have hnext : update p.handlers k (reg.apply k config change (p.handlers k)).state =
          fun k => stateAfter reg config handlers k (before ++ [change]) := by
        funext k'
        rw [hhandlers, stateAfter_append]
        by_cases hk' : k' = k
        · subst hk'
          simp [owns, hk]
        · simp [owns, hk, hk', Ne.symm hk']
      dsimp only
      rw [hnext, hhandlers]
      cases hok : (reg.apply k config change (stateAfter reg config handlers k before)).ok with
      | false =>
        refine ⟨_, _, rfl, ?_⟩
        simp [hp, hok]
      | true =>
        obtain ⟨done, e, hdone, happlied, hnone, hreload, hstate⟩ := ih
          ⟨p.applied ++ [change], _, _⟩ (before ++ [change]) (congrArg (· ++ [change]) hp) rfl
        refine ⟨done, e, hdone, ?_⟩
        refine ⟨by simp [hok, happlied], by simp [hok, hnone], fun hnone => ?_,
          by simp [hok, hstate]⟩
        rw [hreload hnone, Bool.or_assoc]
        rfl

variable (reg a config handlers sorted) in
theorem applyAndReload_spec :
    ∃ done e, applyAndReload reg a config handlers sorted = (done, e) ∧
      done.applied = applicable reg config handlers [] sorted ∧
      (e = none ↔ applicable reg config handlers [] sorted = sorted ∧
        (asksReload reg config handlers [] sorted → a.frrTest ∧ a.frrReload)) ∧
      done.handlers = fun k => stateAfter reg config handlers k
        (sorted.take ((applicable reg config handlers [] sorted).length + 1)) := by
  obtain ⟨done, e, hdone, happlied, hnone, hreload, hstate⟩ :=
    applyChanges_spec reg config ⟨[], handlers, false⟩ handlers [] sorted rfl rfl
  unfold applyAndReload
  rw [hdone, ← hnone]
  cases e with
  | some e => exact ⟨done, some e, rfl, happlied, by simp, hstate⟩
  | none =>
    dsimp only
    rw [(hreload rfl).trans (Bool.false_or _)]
    cases asksReload reg config handlers [] sorted <;> cases a.frrTest <;> cases a.frrReload <;>
      exact ⟨done, _, rfl, happlied, by simp, hstate⟩

/-- Each handler's `Rollback` is called for its own changes, from the last one on. -/
theorem rollbackChanges_apply (handlers : K → S) (k : K) (changes : List (HandlerContext Value)) :
    rollbackChanges reg handlers changes k =
      (changes.filter (owns reg k)).foldr (reg.rollback k) (handlers k) := by
  unfold rollbackChanges
  rw [foldl_reverse]
  induction changes with
  | nil => rfl
  | cons change rest ih =>
    rw [foldr_cons, rollbackOne, filter_cons, owns]
    cases hk : reg.getHandler change.path with
    | none => simpa using ih
    | some k' =>
      by_cases heq : k' = k
      · subst heq
        simp [ih]
      · simpa [heq, Ne.symm heq] using ih

end Handlers

section Publish
variable (ops) (m) (id) [DecidableEq Value] (sess : Session Config Value)

theorem publish_of_not_written (handlers : K → S) (h : a.saveYAML ≠ .written) :
    publish ops a m id sess handlers =
      ({ m with
         handlers := handlers
         runningConfig := sess.config
         startupConfig := ops.deepCopyConfig sess.config
         startupFile := if a.saveYAML = .truncated then .unreadable else m.startupFile },
        some .saveStartup) := by
  unfold publish
  cases hyaml : a.saveYAML with
  | written => exact absurd hyaml h
  | refused | truncated => rfl

theorem publish_of_written (handlers : K → S) (h : a.saveYAML = .written) :
    ((publish ops a m id sess handlers).1.runningConfig = sess.config ∧
      (publish ops a m id sess handlers).1.startupConfig = ops.deepCopyConfig sess.config ∧
      (publish ops a m id sess handlers).1.startupFile =
        .holds (ops.scrubPersistedConfig (ops.deepCopyConfig sess.config)) ∧
      (publish ops a m id sess handlers).1.versions = m.versions ++ versionOf m sess ∧
      (publish ops a m id sess handlers).1.handlers = handlers) ∧
    ((publish ops a m id sess handlers).2 =
      if (formatChanges sess.changes).isEmpty = true ∨ m.disableVersions = true ∨
        a.saveVersion = .written then none else some .saveVersion) := by
  unfold publish versionOf
  simp only [h, ne_eq, not_true_eq_false, if_false, WriteResult.apply]
  cases hempty : (formatChanges sess.changes).isEmpty with
  | true => simp
  | false =>
    cases hdisabled : m.disableVersions with
    | true | false => simp

theorem versionFiles_publish (handlers : K → S) (h : a.saveYAML = .written)
    (hdone : (publish ops a m id sess handlers).2 = none)
    (hdisabled : m.disableVersions = false) :
    ∀ v ∈ versionOf m sess, (publish ops a m id sess handlers).1.versionFiles v.version =
      some (.holds v) := by
  intro v hv
  unfold versionOf at hv
  unfold publish at hdone ⊢
  simp only [h, ne_eq, not_true_eq_false, if_false, WriteResult.apply] at hdone ⊢
  cases hempty : (formatChanges sess.changes).isEmpty with
  | true => simp [hempty] at hv
  | false =>
    simp only [hempty, false_eq_true, if_false, mem_singleton] at hv
    cases hsave : a.saveVersion with
    | written => simp [hdisabled, hv, update_self]
    | refused | truncated => simp [hempty, hdisabled, hsave] at hdone

theorem publish_unchanged_iff [DecidableEq K] (h : a.saveYAML ≠ .written) :
    Unchanged reg sorted m (publish ops a m id sess fun k =>
      stateAfter reg sess.config m.handlers k sorted).1 ↔ Repeats reg ops a m sess sorted := by
  rw [publish_of_not_written ops m id sess _ h]
  constructor
  · intro hunchanged
    refine ⟨hunchanged.runningConfig, hunchanged.startupConfig, ?_, hunchanged.handlers⟩
    intro htruncated
    have hfile := hunchanged.startupFile
    rw [if_pos htruncated] at hfile
    exact hfile.symm
  · intro hrepeats
    refine ⟨hrepeats.runningConfig, hrepeats.startupConfig, ?_, rfl, hrepeats.handlers⟩
    by_cases htruncated : a.saveYAML = .truncated
    · exact (if_pos htruncated).trans (hrepeats.startupFile htruncated).symm
    · exact if_neg htruncated

/-- A version that is not saved is in the list all the same. -/
theorem not_unchanged_of_saveVersion [DecidableEq K] (handlers : K → S) (h : a.saveYAML = .written)
    (hempty : (formatChanges sess.changes).isEmpty = false) :
    ¬ Unchanged reg sorted m (publish ops a m id sess handlers).1 := by
  intro hunchanged
  have hversions := hunchanged.versions
  rw [(publish_of_written ops m id sess handlers h).1.2.2.2.1, versionOf, hempty] at hversions
  have hlength := congrArg List.length hversions
  simp at hlength

variable (a) in
theorem publish_allOrNothing_iff [DecidableEq K]
    (happlied : applicable reg sess.config m.handlers [] sorted = sorted) :
    (match publish ops a m id sess fun k => stateAfter reg sess.config m.handlers k sorted with
      | (m', some _) => Unchanged reg sorted m m'
      | (m', none) => Reflects reg ops m m' sess sorted) ↔
      if a.saveYAML = .written then
        (formatChanges sess.changes).isEmpty = true ∨ m.disableVersions = true ∨
          a.saveVersion = .written
      else Repeats reg ops a m sess sorted := by
  have hrepeats : a.saveYAML ≠ .written → (Unchanged reg sorted m _ ↔ _) :=
    publish_unchanged_iff ops m id sess
  generalize hhandlers : (fun k => stateAfter reg sess.config m.handlers k sorted) = handlers
    at hrepeats
  by_cases hyaml : a.saveYAML = .written
  · rw [if_pos hyaml]
    obtain ⟨⟨hrunning, hstartup, hfile, hversions, hstates⟩, herror⟩ :=
      publish_of_written ops m id sess handlers hyaml
    have hfiles := versionFiles_publish ops m id sess handlers hyaml
    have hkept : _ → ¬ Unchanged reg sorted m _ :=
      not_unchanged_of_saveVersion ops m id sess handlers hyaml
    generalize publish ops a m id sess handlers = result at *
    obtain ⟨m', e⟩ := result
    split at herror
    · rename_i hwritten
      cases herror
      refine iff_of_true ?_ hwritten
      exact ⟨hrunning, hstartup, hfile, hversions, hfiles rfl, happlied,
        fun k => (congrFun hstates k).trans (congrFun hhandlers k).symm⟩
    · rename_i hlost
      cases herror
      refine iff_of_false (hkept ?_) hlost
      exact eq_false_iff.mpr fun hempty => hlost (.inl hempty)
  · rw [if_neg hyaml, ← hrepeats hyaml, publish_of_not_written ops m id sess handlers hyaml]

end Publish

variable (reg ops a m id) in
/-- A commit is all or nothing exactly when what can fail before the candidate is
published can be undone, and nothing fails after. -/
theorem commit_allOrNothing_iff [DecidableEq Value] [DecidableEq K] :
    AllOrNothing reg ops a m id ↔ Safe reg ops a m id := by
  unfold AllOrNothing Safe commit
  dsimp only
  cases hplan : plan reg ops (m.expireIdleSessions a.now) id with
  | error e => exact iff_of_true ⟨nofun, rfl, rfl, rfl, rfl, nofun⟩ trivial
  | ok planned =>
    obtain ⟨sess, sorted⟩ := planned
    obtain ⟨done, e, hdone, happlied, hnone, hstate⟩ :=
      applyAndReload_spec reg a sess.config sorted m.handlers
    have hkept : ((m.expireIdleSessions a.now).touchSession id a.now).handlers = m.handlers := rfl
    dsimp only
    rw [hkept, hdone]
    cases e with
    | some e =>
      rw [if_neg fun h => by cases hnone.mpr h]
      have hback k : rollbackChanges reg done.handlers done.applied k = m.handlers k ↔
          Reverts reg sess.config m.handlers k (applicable reg sess.config m.handlers [] sorted)
            (sorted.take ((applicable reg sess.config m.handlers [] sorted).length + 1)) := by
        rw [rollbackChanges_apply, happlied, hstate, Reverts]
      exact ⟨fun h k hk => (hback k).mp (h.handlers k hk),
        fun h => ⟨rfl, rfl, rfl, rfl, fun k hk => (hback k).mpr (h k hk)⟩⟩
    | none =>
      obtain ⟨hall, hreload⟩ := hnone.mp rfl
      rw [if_pos ⟨hall, hreload⟩]
      rw [hall, take_of_length_le (Nat.le_succ _)] at hstate
      have hpublish := publish_allOrNothing_iff ops a
        ((m.expireIdleSessions a.now).touchSession id a.now) id sess hall
      have hrepeats : Repeats reg ops a ((m.expireIdleSessions a.now).touchSession id a.now) sess
          sorted ↔ Repeats reg ops a m sess sorted :=
        ⟨fun h => { h with }, fun h => { h with }⟩
      rw [hrepeats, hkept] at hpublish
      refine Iff.trans ?_ hpublish
      dsimp only
      rw [hstate]
      cases publish ops a ((m.expireIdleSessions a.now).touchSession id a.now) id sess _ with
      | mk m' e =>
        cases e with
        | some e =>
          dsimp only
          rw [hall]
          exact ⟨fun h => { h with }, fun h => { h with }⟩
        | none => exact ⟨fun h => { h with }, fun h => { h with }⟩

end Commit

/-! ## A startup file that is not written -/

def settings : Registry Nat Nat Unit (Option Nat) where
  getHandler _ := some ()
  pathPattern _ := "system.mtu"
  dependencies _ := []
  apply _ _ change _ := ⟨true, false, change.newValue⟩
  rollback _ change _ := change.oldValue

def plainOps : ConfigOps Nat where
  validate _ := true
  configured _ _ _ := true
  deepCopyConfig c := c
  scrubPersistedConfig c := c

def edited : Manager Nat Nat Unit (Option Nat) where
  runningConfig := 1500
  startupConfig := 1500
  startupFile := .holds 1500
  sessions _ := some ⟨9000, [⟨"system.mtu", some 1500, some 9000⟩], 0⟩
  lockOwner := some "console"
  versions := []
  versionFiles _ := none
  disableVersions := false
  handlers _ := some 1500

def readOnly : Answers where
  now := 0
  frrTest := true
  frrReload := true
  saveYAML := .refused
  saveVersion := .refused

/-- The file system is read only. `Commit` returns an error, and the candidate runs. -/
theorem commit_fails_and_stays :
    (commit settings plainOps readOnly edited "console").2 = some .saveStartup ∧
      (commit settings plainOps readOnly edited "console").1.runningConfig = 9000 ∧
      edited.runningConfig = 1500 ∧ ¬ AllOrNothing settings plainOps readOnly edited "console" := by
  have herror : (commit settings plainOps readOnly edited "console").2 = some .saveStartup := by
    decide +kernel
  have hrunning : (commit settings plainOps readOnly edited "console").1.runningConfig = 9000 := by
    decide +kernel
  refine ⟨herror, hrunning, rfl, fun hall => ?_⟩
  unfold AllOrNothing at hall
  generalize commit settings plainOps readOnly edited "console" = result at *
  obtain ⟨m', e⟩ := result
  cases herror
  have hkept : m'.runningConfig = edited.runningConfig := by
    cases hplan : plan settings plainOps (edited.expireIdleSessions readOnly.now) "console" with
    | error e =>
      rw [hplan] at hall
      exact hall.2.runningConfig
    | ok planned =>
      rw [hplan] at hall
      exact hall.runningConfig
  exact absurd (hrunning.symm.trans hkept) (by decide)

end Osvbng.Conf

import Mathlib.Data.List.Sort
import Osvbng.Upgrade.Files

/-!
# The upgrade runner

`ApplyOne` and `Rollback` as programs over the file system. A step that can
return an error is an operation that can fail; what the runner does on an error
is an `orElse`. Staging, verification, commands to the services and health
checks are external operations.
-/

namespace Osvbng.Upgrade
open Lib

abbrev Program := Prog Op Op.Answer

abbrev perform (o : Op) : Program o.Answer := .perform o

def external : Program Unit := perform .external

inductive ModeText where
  | empty
  | invalid
  | octal (mode : FileMode)

structure ManifestArtifact where
  path : Path
  /-- The bytes of the staged source. -/
  source : Contents
  mode : ModeText
  uid : Int
  gid : Int
  needsVPP : Bool

structure Manifest where
  osvbngVersion : Version
  artifacts : List ManifestArtifact

inductive PrunePolicy where
  | keepN
  | suppress
deriving DecidableEq

structure ApplyOptions where
  prunePolicy : PrunePolicy := .keepN
  expectedFrom : Option Version := none
  keepN : Nat := 0
  forceRetry : Bool := false
  firstBoot : Bool := false

def planFromManifest (m : Manifest) : Bool := m.artifacts.any (·.needsVPP)

/-! ## The journal -/

def journalVersion : Nat := 1

def readJournal : Program (Option JournalState) := do
  match ← perform .readJournal with
  | none => pure none
  | some state => if state.version > journalVersion then .fail else pure (some state)

def writeJournal (state : JournalState) : Program Unit :=
  perform (.writeJournal
    { state with version := if state.version = 0 then journalVersion else state.version })

/-- Reads the journal, which must be there, and writes it back changed. -/
def updateJournal (f : JournalState → JournalState) : Program Unit := do
  match ← readJournal with
  | none => .fail
  | some state => writeJournal (f state)

def setPhase (phase : Phase) : Program Unit :=
  updateJournal fun state => { state with phase := phase }

/-! ## Snapshots -/

def snapshotSchemaVersion : Nat := 1

def mangleArtifactRelpath (path : Path) : Path := path

def writeAll (write : UInt8 → Program Unit) : Contents → Program Unit
  | [] => pure ()
  | byte :: rest => do
      write byte
      writeAll write rest

/-- The backup is truncated and written in place. -/
def copyAndHash (source : Path) (version : Version) (relpath : Path) : Program Unit := do
  let contents ← perform (.read source)
  perform (.createBackup version relpath)
  writeAll (fun byte => perform (.writeBackup version relpath byte)) contents
  external

variable (version : Version)

def snapshotOne (targetPath : Path) : Program SnapshotEntry := do
  match ← perform (.lstat targetPath) with
  | none => pure { path := targetPath, present := false }
  | some (.symlink target uid gid) => do
      external
      pure { path := targetPath, kind := .symlink, uid := uid, gid := gid, mode := 0o777#12,
             symlinkTarget := target, present := true }
  | some (.regular _ uid gid mode) => do
      external
      copyAndHash targetPath version (mangleArtifactRelpath targetPath)
      pure { path := targetPath, kind := .regular, uid := uid, gid := gid, mode := mode.perm,
             backupRelpath := mangleArtifactRelpath targetPath, present := true }
  | some .other => .fail

def snapshotAll (version : Version) : List Path → Program (List SnapshotEntry)
  | [] => pure []
  | path :: rest => do
      let entry ← snapshotOne version path
      let entries ← snapshotAll version rest
      pure (entry :: entries)

def snapshot (fromVersion : Version) (manifest : Manifest) (now : Nat) : Program Unit := do
  if fromVersion = "" then .fail
  external
  let entries ← snapshotAll fromVersion (manifest.artifacts.map (·.path))
  perform (.writeMetadata fromVersion
    { schemaVersion := snapshotSchemaVersion
      createdAt := now
      fromVersion := fromVersion
      toVersion := manifest.osvbngVersion
      needsVPP := planFromManifest manifest
      entries := entries })

def loadSnapshotMetadata : Program SnapshotMetadata := do
  let metadata ← perform (.readMetadata version)
  if metadata.schemaVersion = 0 ∨ metadata.schemaVersion > snapshotSchemaVersion then .fail
  pure metadata

/-- The snapshots whose metadata can be read, with the time they were made. -/
def readableSnapshots : List Version → Program (List (Version × Nat))
  | [] => pure []
  | version :: rest => do
      let info ← ((loadSnapshotMetadata version >>= fun metadata =>
        pure [(version, metadata.createdAt)]).orElse (pure []))
      let infos ← readableSnapshots rest
      pure (info ++ infos)

def removeSnapshots : List Version → Program Unit
  | [] => pure ()
  | version :: rest => do
      perform (.removeSnapshot version)
      removeSnapshots rest

def newestFirst (snaps : List (Version × Nat)) : List (Version × Nat) :=
  snaps.insertionSort fun a b => a.2 ≥ b.2

def pruneSnapshots (keep : Nat) : Program Unit := do
  if keep < 1 then .fail
  let versions ← perform .readRollbackRoot
  let snaps ← readableSnapshots versions
  removeSnapshots (((newestFirst snaps).drop keep).map (·.1))

/-! ## Swapping -/

def stagingName (targetPath : Path) : Path :=
  targetPath.dropLast ++ ["." ++ targetPath.getLastD "/" ++ ".new"]

def parseOctalMode : ModeText → Option FileMode
  | .octal mode => some mode.perm
  | _ => none

variable (source : Program Contents)

def writeStagingFile (target : Path) : Program Unit := do
  let contents ← source
  perform (.create target)
  writeAll (fun byte => perform (.write target byte)) contents
  external

/-- On an error the staging file is removed. -/
def cleaning (staging : Path) (p : Program Unit) : Program Unit :=
  p.orElse (do
    (perform (.remove staging)).ignore
    .fail)

def swapArtifact (targetPath : Path) (uid gid : Int) (mode : ModeText) : Program Unit := do
  let staging := stagingName targetPath
  external
  cleaning staging (writeStagingFile source staging)
  cleaning staging <|
    if uid ≥ 0 ∨ gid ≥ 0 then
      perform (.chown staging (if uid < 0 then none else some uid.toNat)
        (if gid < 0 then none else some gid.toNat))
    else pure ()
  cleaning staging <|
    match mode with
    | .empty => pure ()
    | mode =>
      match parseOctalMode mode with
      | none => .fail
      | some mode => perform (.chmod staging mode)
  cleaning staging (perform (.rename staging targetPath))

def swapArtifacts (swapped : List Path) : List ManifestArtifact → Program Unit
  | [] => pure ()
  | art :: rest => do
      updateJournal fun state => { state with
        phase := .swapping art.path
        completedArtifacts := swapped
        pendingArtifacts := art.path :: rest.map (·.path) }
      swapArtifact (external >>= fun _ => pure art.source) art.path art.uid art.gid art.mode
      updateJournal fun state => { state with
        phase := .swapped art.path
        completedArtifacts := swapped ++ [art.path]
        pendingArtifacts := rest.map (·.path) }
      swapArtifacts (swapped ++ [art.path]) rest

/-! ## Rollback -/

def restoreEntry (entry : SnapshotEntry) : Program Unit :=
  if !entry.present then perform (.remove entry.path)
  else
    match entry.kind with
    | .symlink => do
        (perform (.remove entry.path)).ignore
        perform (.symlink entry.symlinkTarget entry.path)
        (perform (.lchown entry.path entry.uid entry.gid)).ignore
    | .regular =>
      swapArtifact (perform (.readBackup version entry.backupRelpath)) entry.path entry.uid
        entry.gid (.octal entry.mode)
    | .unknown => .fail

def restoreEntries (version : Version) : List SnapshotEntry → Program Unit
  | [] => pure ()
  | entry :: rest => do
      restoreEntry version entry
      restoreEntries version rest

/-- The last entry is restored first. -/
def restoreFromSnapshot (metadata : SnapshotMetadata) : Program Unit :=
  restoreEntries version metadata.entries.reverse

def recording (phase : Phase) (p : Program Unit) : Program Unit :=
  p.orElse (do
    (setPhase phase).ignore
    .fail)

def restartVPP (needsVPP : Bool) : Program Unit := do
  if needsVPP then
    external
    external

def rollback : Program Unit := do
  external
  match ← readJournal with
  | none => .fail
  | some state => do
      let metadata ← loadSnapshotMetadata state.fromVersion
      external
      external
      recording .rollbackFailed (restoreFromSnapshot state.fromVersion metadata)
      recording .rollbackFailed (restartVPP metadata.needsVPP)
      recording .rollbackFailed external
      recording .rollbackFailed external
      (setPhase .rolledBack).ignore

/-! ## Apply -/

def checkPartialApply (opts : ApplyOptions) : Program Unit := do
  match ← readJournal with
  | none => pure ()
  | some state =>
    if state.phase = .completed ∨ state.phase = .rolledBack ∨ state.phase = .firstBootCompleted ∨
        opts.forceRetry = true then pure ()
    else .fail

/-- An error after the swap began: an upgrade is rolled back, and the error is
returned either way. -/
def abort (firstBoot : Bool) (phase firstBootPhase : Phase) (p : Program Unit) : Program Unit :=
  p.orElse (
    if firstBoot then do
      (setPhase firstBootPhase).ignore
      .fail
    else do
      (setPhase phase).ignore
      recording .rollbackFailed rollback
      .fail)

/-- Up to the initial journal: nothing but external steps and the check of the
journal that is there. -/
def prepare (current : Version) (opts : ApplyOptions) : Program Unit := do
  external
  external
  external
  external
  if !opts.firstBoot ∧ opts.expectedFrom.any (· ≠ current) then .fail
  external
  checkPartialApply opts

def applyOne (current : Version) (manifest : Manifest) (opts : ApplyOptions) (now : Nat) :
    Program Unit := do
  prepare current opts
  writeJournal
    { version := 0
      fromVersion := if opts.firstBoot then "first-boot" else current
      toVersion := manifest.osvbngVersion
      phase := if opts.firstBoot then .firstBootStarted else .started }
  if !opts.firstBoot then
    snapshot current manifest now
    setPhase .snapshotDone
  perform .hook
  setPhase .preHookDone
  external
  setPhase .restartSuspended
  external
  setPhase .daemonStopped
  if opts.firstBoot then (setPhase .firstBootSwapping).ignore
  abort opts.firstBoot .abortedMidSwap .firstBootAbortedMidSwap
    (swapArtifacts [] manifest.artifacts)
  abort false .abortedPostSwap .abortedPostSwap (restartVPP (planFromManifest manifest))
  abort opts.firstBoot .abortedPostSwap .firstBootAbortedPostSwap external
  setPhase (if opts.firstBoot then .firstBootDaemonStarted else .daemonStarted)
  abort opts.firstBoot .healthFailed .firstBootHealthFailed external
  external
  setPhase (if opts.firstBoot then .firstBootCompleted else .completed)
  if !opts.firstBoot ∧ opts.prunePolicy = .keepN then
    (pruneSnapshots (if opts.keepN = 0 then 1 else opts.keepN)).ignore
  (perform .hook).ignore

end Osvbng.Upgrade

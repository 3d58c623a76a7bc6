import Osvbng.Lib.Program

/-!
# The files an upgrade works on

The artifacts and their staging files, the snapshots under the rollback root
(each with its metadata and its backups) and the journal. Directories are not
part of the model, and neither is a link at a staging name.

A file operation fails or takes place as a whole. Bytes are written one by one,
and the removal of a directory can stop halfway.
-/

namespace Osvbng.Upgrade
open Lib

abbrev Path := List String

abbrev Version := String

abbrev Contents := List UInt8

abbrev FileMode := BitVec 12

def FileMode.perm (mode : FileMode) : FileMode := mode &&& 0x1ff#12

inductive Inode where
  | regular (contents : Contents) (uid gid : Nat) (mode : FileMode)
  | symlink (target : String) (uid gid : Nat)
  | other
deriving DecidableEq

inductive ArtifactKind where
  | regular | symlink | unknown
deriving DecidableEq

structure SnapshotEntry where
  path : Path
  kind : ArtifactKind := .unknown
  uid : Nat := 0
  gid : Nat := 0
  mode : FileMode := 0
  symlinkTarget : String := ""
  backupRelpath : Path := []
  present : Bool

structure SnapshotMetadata where
  schemaVersion : Nat
  createdAt : Nat
  fromVersion : Version
  toVersion : Version
  needsVPP : Bool
  entries : List SnapshotEntry

inductive Phase where
  | started | snapshotDone | preHookDone | restartSuspended | daemonStopped
  | swapping (path : Path) | swapped (path : Path)
  | abortedMidSwap | abortedPostSwap | daemonStarted | healthFailed | completed
  | rolledBack | rollbackFailed
  | firstBootStarted | firstBootSwapping | firstBootAbortedMidSwap | firstBootAbortedPostSwap
  | firstBootDaemonStarted | firstBootHealthFailed | firstBootCompleted
deriving DecidableEq

structure JournalState where
  version : Nat
  fromVersion : Version
  toVersion : Version
  phase : Phase
  completedArtifacts : List Path := []
  pendingArtifacts : List Path := []

structure State where
  files : Path → Option Inode
  backups : Version → Path → Option Contents
  metadata : Version → Option SnapshotMetadata
  journal : Option JournalState

/-- Operations. `external` stands for whatever has no effect on these files:
system calls on other files, checks, and the commands to the services. -/
inductive Op where
  | external
  | hook
  | lstat (path : Path)
  | read (path : Path)
  | create (path : Path)
  | write (path : Path) (byte : UInt8)
  | chown (path : Path) (uid gid : Option Nat)
  | chmod (path : Path) (mode : FileMode)
  | rename (source target : Path)
  | remove (path : Path)
  | symlink (target : String) (path : Path)
  | lchown (path : Path) (uid gid : Nat)
  | readBackup (version : Version) (relpath : Path)
  | createBackup (version : Version) (relpath : Path)
  | writeBackup (version : Version) (relpath : Path) (byte : UInt8)
  | readMetadata (version : Version)
  | writeMetadata (version : Version) (metadata : SnapshotMetadata)
  | readJournal
  | writeJournal (state : JournalState)
  | readRollbackRoot
  | removeSnapshot (version : Version)

/-- A missing file is not a failure for `lstat`, `remove` and `readJournal`. -/
@[reducible] def Op.Answer : Op → Type
  | .lstat _ => Option Inode
  | .read _ | .readBackup _ _ => Contents
  | .readMetadata _ => SnapshotMetadata
  | .readJournal => Option JournalState
  | .readRollbackRoot => List Version
  | _ => Unit

/-- How an operation ends: it fails, or takes place; a hook leaves any files
whether or not it fails, a listing has any names, and a removal can stop with
parts of a snapshot left. -/
inductive Choice where
  | fail
  | succeed
  | hooked (files : Path → Option Inode) (ok : Bool)
  | listed (versions : List Version)
  | halfway (metadata : Bool) (kept : Path → Bool)

namespace State
variable (s : State)

def setFile (path : Path) (file : Option Inode) : State :=
  { s with files := fun p => if p = path then file else s.files p }

variable (version : Version)

def setBackup (relpath : Path) (c : Contents) : State :=
  { s with
    backups := fun v p => if v = version ∧ p = relpath then some c else s.backups v p }

def setMetadata (m : Option SnapshotMetadata) : State :=
  { s with metadata := fun v => if v = version then m else s.metadata v }

/-- What is left of a snapshot when its removal ends. -/
def keepOf (metadata : Bool) (kept : Path → Bool) : State :=
  { s with
    metadata := fun v => if v = version ∧ !metadata then none else s.metadata v
    backups := fun v p => if v = version ∧ !kept p then none else s.backups v p }

end State

structure Owner where
  uid : Nat
  gid : Nat

def Op.effect (owner : Owner) (s : State) (c : Choice) : (o : Op) → Option o.Answer × State
  | .external => (some (), s)
  | .hook =>
    match c with
    | .hooked files ok => (if ok then some () else none, { s with files := files })
    | _ => (some (), s)
  | .lstat p => (some (s.files p), s)
  | .read p =>
    match s.files p with
    | some (.regular contents _ _ _) => (some contents, s)
    | _ => (none, s)
  | .create p =>
    match s.files p with
    | none => (some (), s.setFile p (some (.regular [] owner.uid owner.gid 0o644#12)))
    | some (.regular _ uid gid mode) => (some (), s.setFile p (some (.regular [] uid gid mode)))
    | _ => (none, s)
  | .write p byte =>
    match s.files p with
    | some (.regular contents uid gid mode) =>
      (some (), s.setFile p (some (.regular (contents ++ [byte]) uid gid mode)))
    | _ => (none, s)
  | .chown p uid gid =>
    match s.files p with
    | some (.regular contents u g mode) =>
      (some (), s.setFile p (some (.regular contents (uid.getD u) (gid.getD g) mode)))
    | _ => (none, s)
  | .chmod p mode =>
    match s.files p with
    | some (.regular contents uid gid _) =>
      (some (), s.setFile p (some (.regular contents uid gid mode)))
    | _ => (none, s)
  | .rename p q =>
    match s.files p with
    | none => (none, s)
    | some file => (some (), (s.setFile p none).setFile q (some file))
  | .remove p => (some (), s.setFile p none)
  | .symlink target p =>
    match s.files p with
    | none => (some (), s.setFile p (some (.symlink target owner.uid owner.gid)))
    | some _ => (none, s)
  | .lchown p uid gid =>
    match s.files p with
    | some (.symlink target _ _) => (some (), s.setFile p (some (.symlink target uid gid)))
    | some (.regular contents _ _ mode) =>
      (some (), s.setFile p (some (.regular contents uid gid mode)))
    | _ => (none, s)
  | .readBackup v p => (s.backups v p, s)
  | .createBackup v p => (some (), s.setBackup v p [])
  | .writeBackup v p byte =>
    match s.backups v p with
    | none => (none, s)
    | some contents => (some (), s.setBackup v p (contents ++ [byte]))
  | .readMetadata v => (s.metadata v, s)
  | .writeMetadata v m => (some (), s.setMetadata v (some m))
  | .readJournal => (some s.journal, s)
  | .writeJournal state => (some (), { s with journal := some state })
  | .readRollbackRoot =>
    match c with
    | .listed versions => (some versions, s)
    | _ => (some ([] : List Version), s)
  | .removeSnapshot v =>
    match c with
    | .halfway metadata kept => (none, s.keepOf v metadata kept)
    | _ => (some (), s.keepOf v false fun _ => false)

def fileSystem (owner : Owner) : Device State Op Op.Answer Choice := fun s o c =>
  match c with
  | .fail => (none, s)
  | c => o.effect owner s c

end Osvbng.Upgrade

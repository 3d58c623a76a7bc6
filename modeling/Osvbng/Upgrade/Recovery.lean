import Osvbng.Upgrade.Runner

/-!
# Recovery from an interrupted upgrade

An interrupted upgrade leaves one of two kinds of states. In an `Untouched` one
the artifacts are as they were, and a rollback would leave them alone. In an
`Armed` one the snapshot describes the artifacts as they were.

A rollback keeps both while it runs, and one that succeeds ends with the
artifacts as they were: `wp_rollback_of_untouched`, `wp_rollback_of_armed`.
-/

namespace Osvbng.Upgrade
open List Lib Prog Op Int Option

/-- Wherever the program stops `I` holds, and `Q` if it succeeds. -/
abbrev Ends (owner : Owner) (I : State → Prop) {X : Type} (p : Program X)
    (Q : X → State → Prop) : State → Prop := p.wp (fileSystem owner) Q I I

abbrev Keeps (owner : Owner) (I : State → Prop) {X : Type} (p : Program X) : State → Prop :=
  Ends owner I p fun _ => I

/-! ## What an operation leaves alone -/

/-- Everything but files is as it was, or gone. -/
structure Spared (s s' : State) : Prop where
  journal : s'.journal = s.journal
  metadata : ∀ v, s'.metadata v = s.metadata v ∨ s'.metadata v = none
  backups : ∀ v p, s'.backups v p = s.backups v p ∨ s'.backups v p = none

def Op.Spares : Op → Prop
  | .createBackup _ _ | .writeBackup _ _ _ | .writeMetadata _ _ | .writeJournal _ => False
  | _ => True

/-- Operations that read, or have no effect. -/
def Op.Idle : Op → Prop
  | .external | .lstat _ | .read _ | .readBackup _ _ | .readMetadata _ | .readJournal
  | .readRollbackRoot => True
  | _ => False

variable (paths : List Path)

def Op.Outside : Op → Prop
  | .create p | .write p _ | .chown p _ _ | .chmod p _ | .remove p | .symlink _ p
  | .lchown p _ _ => p ∉ paths
  | .rename p q => p ∉ paths ∧ q ∉ paths
  | o => o.Idle

section Operations
variable {owner : Owner} {paths : List Path} {s : State} {o : Op} {file : Option Inode}

theorem Spared.of_eq {s' : State} (hjournal : s'.journal = s.journal)
    (hmetadata : s'.metadata = s.metadata) (hbackups : s'.backups = s.backups) : Spared s s' :=
  ⟨hjournal, fun _ => .inl (by rw [hmetadata]), fun _ _ => .inl (by rw [hbackups])⟩

theorem Spared.keepOf (s : State) (v : Version) (metadata : Bool) (kept : Path → Bool) :
    Spared s (s.keepOf v metadata kept) := by
  refine ⟨rfl, fun v' => ?_, fun v' p => ?_⟩
  all_goals
    simp only [State.keepOf]
    split
    · exact .inr rfl
    · exact .inl rfl

theorem spared_effect (h : o.Spares) (c : Choice) : Spared s (o.effect owner s c).2 := by
  cases o with
  | createBackup | writeBackup | writeMetadata | writeJournal => exact h.elim
  | hook =>
    cases c with
    | hooked files ok => exact .of_eq rfl rfl rfl
    | _ => exact .of_eq rfl rfl rfl
  | removeSnapshot v =>
    cases c with
    | halfway metadata kept => exact .keepOf s v metadata kept
    | _ => exact .keepOf s v _ _
  | readRollbackRoot => cases c <;> exact .of_eq rfl rfl rfl
  | external | lstat | remove | readBackup | readMetadata | readJournal => exact .of_eq rfl rfl rfl
  | _ =>
    simp only [effect]
    split <;> exact .of_eq rfl rfl rfl

theorem effect_of_idle (h : o.Idle) (c : Choice) : (o.effect owner s c).2 = s := by
  cases o with
  | external | lstat => rfl
  | read p =>
    simp only [effect]
    split <;> rfl
  | readBackup | readMetadata | readJournal => rfl
  | readRollbackRoot => cases c <;> rfl
  | _ => exact h.elim

theorem files_setFile_of_ne {p q : Path} (h : q ≠ p) :
    (s.setFile p file).files q = s.files q := if_neg h

theorem files_setFile_self {p : Path} : (s.setFile p file).files p = file :=
  if_pos rfl

theorem effect_of_outside (h : o.Outside paths) (c : Choice) :
    (∀ p ∈ paths, (o.effect owner s c).2.files p = s.files p) ∧
      (o.effect owner s c).2.metadata = s.metadata ∧
      (o.effect owner s c).2.journal = s.journal := by
  have hset q file : q ∉ paths → ∀ p ∈ paths, (s.setFile q file).files p = s.files p :=
    fun hq p hp => files_setFile_of_ne fun heq => hq (heq ▸ hp)
  cases o with
  | remove q => exact ⟨hset q _ h, rfl, rfl⟩
  | rename q q' =>
    simp only [effect]
    split
    · exact ⟨fun _ _ => rfl, rfl, rfl⟩
    · refine ⟨fun p hp => ?_, rfl, rfl⟩
      have hne : p ≠ q' := fun heq => h.2 (heq ▸ hp)
      exact (files_setFile_of_ne hne).trans (hset q _ h.1 p hp)
  | create q | write q _ | chown q _ _ | chmod q _ | symlink _ q | lchown q _ _ =>
    simp only [effect]
    split <;> first
      | exact ⟨fun _ _ => rfl, rfl, rfl⟩
      | exact ⟨hset q _ h, rfl, rfl⟩
  | _ =>
    rw [effect_of_idle ?_ c]
    · exact ⟨fun _ _ => rfl, rfl, rfl⟩
    · exact h

theorem wp_op {Q : o.Answer → State → Prop} {F I : State → Prop} (hI : I s) (hF : F s)
    (h : ∀ c, I (o.effect owner s c).2 ∧
      (∀ a, (o.effect owner s c).1 = some a → Q a (o.effect owner s c).2) ∧
      ((o.effect owner s c).1 = none → F (o.effect owner s c).2)) :
    (perform o).wp (fileSystem owner) Q F I s := by
  refine wp_perform hI fun c => ?_
  cases c with
  | fail => exact ⟨hI, nofun, fun _ => hF⟩
  | _ => exact h _

theorem keeps_of_effect {ok : Op → Prop} {I : State → Prop}
    (h : ∀ o, ok o → ∀ s c, I s → I (o.effect owner s c).2) :
    ∀ o, ok o → ∀ s c, I s → I (fileSystem owner s o c).2 := by
  intro o ho s c hs
  cases c with
  | fail => exact hs
  | _ => exact h o ho s _ hs

end Operations

/-! ## Conditions that are kept -/

/-- A condition kept by operations of a kind and by updates of the journal. -/
structure Kept (owner : Owner) (ok : Op → Prop) (I : State → Prop) : Prop where
  op : ∀ o, ok o → ∀ s c, I s → I (o.effect owner s c).2
  journal : ∀ s j j', I s → s.journal = some j → j'.fromVersion = j.fromVersion →
    I { s with journal := some j' }

section Kept
variable {owner : Owner} {ok : Op → Prop} {I R : State → Prop} {s : State} {X : Type}
  {F : State → Prop}

theorem Kept.wp (hI : Kept owner ok I) {p : Program X} (hp : p.Only ok) (hs : I s) :
    Keeps owner I p s := hp.wp (keeps_of_effect hI.op) hs

theorem wp_external {Q : Unit → State → Prop} (hI : I s) (hF : F s)
    (hQ : Q () s) : external.wp (fileSystem owner) Q F I s :=
  wp_op hI hF fun _ => ⟨hI, fun _ _ => hQ, nofun⟩

theorem wp_readJournal {Q : Option JournalState → State → Prop} (hI : I s)
    (hF : F s) (hQ : Q s.journal s) : readJournal.wp (fileSystem owner) Q F I s := by
  refine wp_bind (wp_op hI hF fun c => ⟨hI, fun a ha => ?_, nofun⟩)
  have ha : s.journal = a := some.inj ha
  subst ha
  cases hj : s.journal with
  | none => exact wp_pure hI (hj ▸ hQ)
  | some j =>
    dsimp only
    split
    · exact wp_fail hI hF
    · exact wp_pure hI (hj ▸ hQ)

variable (hI : Kept owner ok I)
include hI

theorem Kept.wp_updateJournal {f : JournalState → JournalState}
    (hf : ∀ j, (f j).fromVersion = j.fromVersion) (hs : I s) :
    Keeps owner I (updateJournal f) s := by
  refine wp_bind (wp_readJournal hs hs ?_)
  cases hj : s.journal with
  | none => exact wp_fail hs hs
  | some j =>
    have hwritten := hI.journal s j
      { f j with version := if (f j).version = 0 then journalVersion else (f j).version }
      hs hj (hf j)
    exact wp_op hs hs fun c => ⟨hwritten, fun _ _ => hwritten, nofun⟩

theorem Kept.wp_setPhase (phase : Phase) (hs : I s) : Keeps owner I (setPhase phase) s :=
  hI.wp_updateJournal (fun _ => rfl) hs

theorem Kept.wp_ignore_setPhase (phase : Phase) (hs : I s) :
    Keeps owner I (setPhase phase).ignore s :=
  wp_ignore (hI.wp_setPhase phase hs) fun _ h => h

theorem Kept.wp_recording (phase : Phase) {p : Program Unit}
    (hp : Ends owner I p (fun _ => R) s) : Ends owner I (recording phase p) (fun _ => R) s :=
  wp_orElse hp fun _ hs =>
    wp_seq (hI.wp_ignore_setPhase phase hs) fun _ _ hs => wp_fail hs hs

omit hI

theorem only_restartVPP (hok : ok .external) (needsVPP : Bool) : (restartVPP needsVPP).Only ok := by
  cases needsVPP with
  | false => exact only_pure
  | true => exact (only_perform hok).bind fun _ => only_perform hok

theorem wp_loadSnapshotMetadata {v : Version} {Q : SnapshotMetadata → State → Prop} (hI : I s)
    (hF : F s) (hQ : ∀ m, s.metadata v = some m → Q m s) :
    (loadSnapshotMetadata v).wp (fileSystem owner) Q F I s := by
  refine wp_bind (wp_op hI hF fun c => ⟨hI, fun m hm => ?_, fun _ => hF⟩)
  split
  · exact wp_bind (wp_fail hI hF)
  · exact wp_bind (wp_pure hI (wp_pure hI (hQ m hm)))

theorem Kept.wp_rollback (hI : Kept owner Idle I) (hR : Kept owner Idle R)
    (hRI : ∀ s, R s → I s)
    (hrestore : ∀ s j m, I s → s.journal = some j → s.metadata j.fromVersion = some m →
      Ends owner I (restoreFromSnapshot j.fromVersion m) (fun _ => R) s)
    (hs : I s) : Ends owner I rollback (fun _ => R) s := by
  have hafter : ∀ {p : Program Unit}, p.Only Idle → ∀ s, R s →
      Ends owner I (recording .rollbackFailed p) (fun _ => R) s :=
    fun hp s hs => hI.wp_recording _ (wp_mono (hR.wp hp hs) (fun _ _ h => h) hRI hRI)
  refine wp_bind (wp_external hs hs (wp_bind (wp_readJournal hs hs ?_)))
  cases hj : s.journal with
  | none => exact wp_fail hs hs
  | some j =>
    refine wp_bind (wp_loadSnapshotMetadata hs hs fun m hm => ?_)
    refine wp_bind (wp_external hs hs (wp_bind (wp_external hs hs ?_)))
    refine wp_seq (hI.wp_recording _ (hrestore s j m hs hj hm)) fun _ s hs => ?_
    refine wp_seq (hafter (only_restartVPP trivial m.needsVPP) s hs) fun _ s hs => ?_
    refine wp_seq (hafter (only_perform trivial) s hs) fun _ s hs => ?_
    refine wp_seq (hafter (only_perform trivial) s hs) fun _ s hs => ?_
    exact wp_mono (hR.wp_ignore_setPhase .rolledBack hs) (fun _ _ h => h) hRI hRI

end Kept

/-! ## Swapping one file -/

structure Frame (p : Path) (s s' : State) : Prop where
  journal : s'.journal = s.journal
  metadata : s'.metadata = s.metadata
  backups : s'.backups = s.backups
  files : ∀ q, q ≠ p → q ≠ stagingName p → s'.files q = s.files q

section Swap
variable {owner : Owner} {p : Path} {s s' : State} {source : Program Contents} {B : Contents → Prop}
  {mode : FileMode} {uid gid : Nat}

theorem Frame.refl (p : Path) (s : State) : Frame p s s := ⟨rfl, rfl, rfl, fun _ _ _ => rfl⟩

theorem Frame.setTarget (h : Frame p s s') (file : Option Inode) : Frame p s (s'.setFile p file) :=
  ⟨h.journal, h.metadata, h.backups, fun q hp hstaging =>
    (files_setFile_of_ne hp).trans (h.files q hp hstaging)⟩

theorem Frame.setStaging (h : Frame p s s') (file : Option Inode) :
    Frame p s (s'.setFile (stagingName p) file) :=
  ⟨h.journal, h.metadata, h.backups, fun q hp hstaging =>
    (files_setFile_of_ne hstaging).trans (h.files q hp hstaging)⟩

theorem wp_cleaning {Q : Unit → State → Prop} {prog : Program Unit}
    (h : Ends owner (Frame p s) prog Q s') :
    Ends owner (Frame p s) (cleaning (stagingName p) prog) Q s' := by
  refine wp_orElse h fun s1 hs1 => ?_
  have hremoved := hs1.setStaging none
  refine wp_seq (wp_ignore (wp_op hs1 hs1 fun _ => ?_) fun _ h => h) fun _ _ h =>
    wp_fail h h
  exact ⟨hremoved, fun _ _ => hremoved, nofun⟩

theorem wp_writeAll_staging (bytes contents : Contents)
    (h : Frame p s s') (hfile : s'.files (stagingName p) = some (.regular contents uid gid mode)) :
    Ends owner (Frame p s) (writeAll (fun byte => perform (.write (stagingName p) byte)) bytes)
      (fun _ s1 => Frame p s s1 ∧
        s1.files (stagingName p) = some (.regular (contents ++ bytes) uid gid mode)) s' := by
  induction bytes generalizing s' contents with
  | nil => exact wp_pure h ⟨h, by rw [append_nil, hfile]⟩
  | cons byte rest ih =>
    have hwritten := h.setStaging (some (.regular (contents ++ [byte]) uid gid mode))
    refine wp_bind (wp_op h h fun _ => ?_)
    simp only [effect, hfile]
    refine ⟨hwritten, fun _ _ => ?_, nofun⟩
    have hrest := ih (contents ++ [byte]) hwritten files_setFile_self
    rwa [append_assoc, singleton_append] at hrest

variable (hsource : Ends owner (· = s) source (fun b s' => s' = s ∧ B b) s)
include hsource

theorem wp_writeStagingFile : Ends owner (Frame p s) (writeStagingFile source (stagingName p))
      (fun _ s1 => Frame p s s1 ∧ ∃ b uid gid mode, B b ∧
        s1.files (stagingName p) = some (.regular b uid gid mode)) s := by
  have hrefl := Frame.refl p s
  have hwrite b uid gid mode : B b → Ends owner (Frame p s)
      (writeAll (fun byte => perform (.write (stagingName p) byte)) b >>= fun _ => external)
      (fun _ s1 => Frame p s s1 ∧ ∃ b uid gid mode, B b ∧
        s1.files (stagingName p) = some (.regular b uid gid mode))
      (s.setFile (stagingName p) (some (.regular [] uid gid mode))) := by
    intro hb
    refine wp_seq (wp_writeAll_staging b [] (hrefl.setStaging _) files_setFile_self) ?_
    intro _ s1 hs1
    exact wp_external hs1.1 hs1.1 ⟨hs1.1, b, uid, gid, mode, hb, hs1.2⟩
  refine wp_seq (wp_mono hsource (fun _ _ h => h) ?_ ?_) fun b s1 hs1 => ?_
  · rintro _ rfl
    exact hrefl
  · rintro _ rfl
    exact hrefl
  · obtain ⟨rfl, hb⟩ := hs1
    refine wp_bind (wp_op hrefl hrefl fun _ => ?_)
    cases hfile : s1.files (stagingName p) with
    | none =>
      simp only [effect, hfile]
      exact ⟨hrefl.setStaging _, fun _ _ => hwrite b _ _ _ hb, nofun⟩
    | some file =>
      cases file with
      | regular contents uid gid mode =>
        simp only [effect, hfile]
        exact ⟨hrefl.setStaging _, fun _ _ => hwrite b _ _ _ hb, nofun⟩
      | symlink | other =>
        simp only [effect, hfile]
        exact ⟨hrefl, nofun, fun _ => hrefl⟩

/-- A file that is swapped in has the bytes of its source, the given owner and
the permission bits of the mode. -/
theorem wp_swapArtifact : Ends owner (Frame p s) (swapArtifact source p uid gid (.octal mode))
    (fun _ s1 => Frame p s s1 ∧ ∃ b, B b ∧ s1.files p = some (.regular b uid gid mode.perm)) s := by
  have hrefl := Frame.refl p s
  refine wp_bind (wp_external hrefl hrefl ?_)
  refine wp_seq (wp_cleaning (wp_writeStagingFile hsource)) ?_
  rintro _ s1 ⟨hs1, b, u, g, m, hb, hfile⟩
  have howned := hs1.setStaging (some (.regular b uid gid m))
  rw [if_pos (.inl (natCast_nonneg uid)), if_neg (not_lt.mpr (natCast_nonneg uid)),
    if_neg (not_lt.mpr (natCast_nonneg gid)), toNat_natCast, toNat_natCast]
  refine wp_bind (wp_cleaning (wp_op hs1 hs1 fun _ => ?_))
  simp only [effect, hfile]
  refine ⟨howned, fun _ _ => ?_, nofun⟩
  have hmoded := howned.setStaging (some (.regular b uid gid mode.perm))
  refine wp_bind (wp_cleaning (wp_op howned howned fun _ => ?_))
  simp only [effect, getD_some, files_setFile_self]
  refine ⟨hmoded, fun _ _ => ?_, nofun⟩
  refine wp_cleaning (wp_op hmoded hmoded fun _ => ?_)
  simp only [effect, files_setFile_self]
  have hrenamed := (hmoded.setStaging none).setTarget (some (.regular b uid gid mode.perm))
  exact ⟨hrenamed, fun _ _ => ⟨hrenamed, b, hb, rfl⟩, nofun⟩

end Swap

/-! ## The two kinds of interrupted states -/

def Avoids (metadata : SnapshotMetadata) : Prop :=
  ∀ e ∈ metadata.entries, e.path ∉ paths ∧ stagingName e.path ∉ paths

variable (files : Path → Option Inode)

def Describes (e : SnapshotEntry) : Prop :=
  match files e.path with
  | none => e.present = false
  | some (.symlink target uid gid) =>
    e.present = true ∧ e.kind = .symlink ∧ e.symlinkTarget = target ∧ e.uid = uid ∧ e.gid = gid
  | some (.regular _ uid gid mode) =>
    e.present = true ∧ e.kind = .regular ∧ e.uid = uid ∧ e.gid = gid ∧ e.mode = mode.perm ∧
      e.backupRelpath = mangleArtifactRelpath e.path
  | some .other => False

variable (s : State)

def Intact : Prop :=
  ∀ p ∈ paths, s.files p = files p

/-- A rollback would leave the artifacts alone. -/
def Harmless : Prop :=
  ∀ j ∈ s.journal, ∀ m ∈ s.metadata j.fromVersion, Avoids paths m

def Untouched : Prop :=
  Intact paths files s ∧ Harmless paths s

/-- The snapshot, as far as it is there, is that of the artifacts as they were. -/
structure Armed (paths : List Path) (files : Path → Option Inode) (version : Version)
    (s : State) : Prop where
  journal : ∀ j ∈ s.journal, j.fromVersion = version
  entries : ∀ m ∈ s.metadata version, m.entries.map (·.path) = paths ∧
    ∀ e ∈ m.entries, Describes files e
  backups : ∀ p ∈ paths, ∀ b ∈ s.backups version (mangleArtifactRelpath p),
    ∀ contents uid gid mode, files p = some (.regular contents uid gid mode) → b = contents

/-- What the artifacts must be like for a snapshot to hold all there is to them.
A link belongs to the user that would make it again. -/
structure Recordable (owner : Owner) (paths : List Path) (files : Path → Option Inode) : Prop where
  permissions : ∀ p ∈ paths, ∀ contents uid gid mode,
    files p = some (.regular contents uid gid mode) → mode.perm = mode
  links : ∀ p ∈ paths, ∀ target uid gid,
    files p = some (.symlink target uid gid) → uid = owner.uid ∧ gid = owner.gid
  staging : ∀ p ∈ paths, stagingName p ∉ paths

section Interrupted
variable {owner : Owner} {paths : List Path} {files : Path → Option Inode} {version : Version}
  {s s' : State}

theorem Armed.of_spared (h : Armed paths files version s) (hs : Spared s s') :
    Armed paths files version s' where
  journal := by
    rw [hs.journal]
    exact h.journal
  entries m hm := by
    rcases hs.metadata version with heq | heq
    · exact h.entries m (heq ▸ hm)
    · rw [heq] at hm
      cases hm
  backups p hp b hb := by
    rcases hs.backups version (mangleArtifactRelpath p) with heq | heq
    · exact h.backups p hp b (heq ▸ hb)
    · rw [heq] at hb
      cases hb

theorem Armed.of_journal (h : Armed paths files version s) {j j' : JournalState}
    (hj : s.journal = some j) (hj' : j'.fromVersion = j.fromVersion) :
    Armed paths files version { s with journal := some j' } := by
  refine { h with journal k hk := ?_ }
  cases hk
  exact hj'.trans (h.journal j hj)

theorem kept_armed : Kept owner Spares (Armed paths files version) :=
  ⟨fun _ ho _ c hs => hs.of_spared (spared_effect ho c),
    fun _ _ _ hs hj hj' => hs.of_journal hj hj'⟩

theorem kept_untouched : Kept owner (Outside paths) (Untouched paths files) := by
  refine ⟨fun o ho s c hs => ?_, fun s j j' hs hj hj' => ⟨hs.1, fun k hk m hm => ?_⟩⟩
  · obtain ⟨hfiles, hmetadata, hjournal⟩ := effect_of_outside (s := s) ho c
    refine ⟨fun p hp => (hfiles p hp).trans (hs.1 p hp), ?_⟩
    unfold Harmless
    rw [hmetadata, hjournal]
    exact hs.2
  · cases hk
    exact hs.2 j hj m (hj' ▸ hm)

end Interrupted

/-! ## Rollback -/

theorem Kept.mono {owner : Owner} {ok ok' : Op → Prop} {I : State → Prop} (h : Kept owner ok I)
    (hok : ∀ o, ok' o → ok o) : Kept owner ok' I := ⟨fun o ho => h.op o (hok o ho), h.journal⟩

theorem Op.Idle.spares {o : Op} (h : o.Idle) : o.Spares := by
  cases o <;> trivial

theorem Op.Idle.outside {o : Op} (h : o.Idle) (paths : List Path) : o.Outside paths := by
  cases o <;> first | exact h | exact h.elim

section Only
variable {ok : Op → Prop}

theorem only_writeAll {write : UInt8 → Program Unit} (h : ∀ byte, (write byte).Only ok)
    (bytes : Contents) : (writeAll write bytes).Only ok := by
  induction bytes with
  | nil => exact only_pure
  | cons byte rest ih => exact (h byte).bind fun _ => ih

theorem only_cleaning {staging : Path} {p : Program Unit} (hremove : ok (.remove staging))
    (h : p.Only ok) : (cleaning staging p).Only ok :=
  h.orElse ((only_perform hremove).ignore.bind fun _ => only_fail)

theorem only_swapArtifact {source : Program Contents} {p : Path} {uid gid : Int} {mode : ModeText}
    (hsource : source.Only ok) (hexternal : ok .external)
    (hcreate : ok (.create (stagingName p))) (hwrite : ∀ byte, ok (.write (stagingName p) byte))
    (hchown : ∀ u g, ok (.chown (stagingName p) u g)) (hchmod : ∀ m, ok (.chmod (stagingName p) m))
    (hrename : ok (.rename (stagingName p) p)) (hremove : ok (.remove (stagingName p))) :
    (swapArtifact source p uid gid mode).Only ok := by
  have hstage : (writeStagingFile source (stagingName p)).Only ok :=
    hsource.bind fun b => (only_perform hcreate).bind fun _ =>
      (only_writeAll (fun byte => only_perform (hwrite byte)) b).bind fun _ =>
        only_perform hexternal
  refine (only_perform hexternal).bind fun _ => (only_cleaning hremove hstage).bind fun _ => ?_
  refine (only_cleaning hremove ?_).bind fun _ => (only_cleaning hremove ?_).bind fun _ => ?_
  · split
    · exact only_perform (hchown _ _)
    · exact only_pure
  · cases mode with
    | empty => exact only_pure
    | invalid => exact only_fail
    | octal m => exact only_perform (hchmod _)
  · exact only_cleaning hremove (only_perform hrename)

theorem only_restoreEntries {paths : List Path} {version : Version} {es : List SnapshotEntry}
    (h : ∀ e ∈ es, e.path ∉ paths ∧ stagingName e.path ∉ paths) :
    (restoreEntries version es).Only (Outside paths) := by
  induction es with
  | nil => exact only_pure
  | cons e es ih =>
    obtain ⟨hpath, hstaging⟩ := h e mem_cons_self
    refine Prog.Only.bind ?_ fun _ => ih fun e' he' => h e' (mem_cons_of_mem _ he')
    unfold restoreEntry
    split
    · exact only_perform hpath
    · split
      · have hremove : (perform (.remove e.path)).Only (Outside paths) :=
          only_perform hpath
        have hsymlink : (perform (.symlink e.symlinkTarget e.path)).Only (Outside paths) :=
          only_perform hpath
        have hlchown : (perform (.lchown e.path e.uid e.gid)).Only (Outside paths) :=
          only_perform hpath
        exact hremove.ignore.bind fun _ => hsymlink.bind fun _ => hlchown.ignore
      · exact only_swapArtifact (only_perform trivial) trivial hstaging (fun _ => hstaging)
          (fun _ _ => hstaging) (fun _ => hstaging) ⟨hstaging, hpath⟩ hstaging
      · exact only_fail

end Only

section Rollback
variable {owner : Owner} {paths : List Path} {files : Path → Option Inode} {version : Version}
  {s : State}

theorem wp_rollback_of_untouched (hs : Untouched paths files s) :
    Keeps owner (Untouched paths files) rollback s := by
  have hidle : Kept owner Idle (Untouched paths files) :=
    kept_untouched.mono fun _ ho => ho.outside paths
  refine hidle.wp_rollback hidle (fun _ h => h) (fun s j m hs hj hm => ?_) hs
  refine kept_untouched.wp (only_restoreEntries fun e he => ?_) hs
  exact hs.2 j hj m hm e (mem_reverse.mp he)

theorem Frame.spared {p : Path} {s' : State} (h : Frame p s s') : Spared s s' :=
  .of_eq h.journal h.metadata h.backups

/-- A link that belongs to the user is as it was, whether or not its owner can be
set again. -/
theorem wp_recreate {p : Path} {s1 : State} {target : String} {uid gid : Nat}
    (huid : uid = owner.uid) (hgid : gid = owner.gid) (hs1 : Frame p s s1) :
    Ends owner (Frame p s)
      (perform (.symlink target p) >>= fun _ => (perform (.lchown p uid gid)).ignore)
      (fun _ s' => Frame p s s' ∧ s'.files p = some (.symlink target uid gid)) s1 := by
  subst huid hgid
  have hmade := hs1.setTarget (some (.symlink target owner.uid owner.gid))
  refine wp_bind (wp_op hs1 hs1 fun _ => ?_)
  cases hfile : s1.files p with
  | some file =>
    simp only [effect, hfile]
    exact ⟨hs1, nofun, fun _ => hs1⟩
  | none =>
    simp only [effect, hfile]
    refine ⟨hmade, fun _ _ => wp_ignore (wp_op hmade ⟨hmade, files_setFile_self⟩ fun _ => ?_)
      fun _ h => h.1, nofun⟩
    simp only [effect, files_setFile_self]
    have howned := hmade.setTarget (some (.symlink target owner.uid owner.gid))
    exact ⟨howned, fun _ _ => ⟨howned, trivial⟩, nofun⟩

variable (hrecordable : Recordable owner paths files)
include hrecordable

theorem wp_restoreEntry (hs : Armed paths files version s) {e : SnapshotEntry} (hp : e.path ∈ paths)
    (he : Describes files e) : Ends owner (Frame e.path s) (restoreEntry version e)
      (fun _ s' => Frame e.path s s' ∧ s'.files e.path = files e.path) s := by
  have hrefl := Frame.refl e.path s
  have hremoved := hrefl.setTarget none
  unfold Describes at he
  unfold restoreEntry
  cases hfile : files e.path with
  | none =>
    rw [hfile] at he
    simp only [he, Bool.not_false, if_true]
    exact wp_op hrefl hrefl fun _ => ⟨hremoved, fun _ _ => ⟨hremoved, files_setFile_self⟩, nofun⟩
  | some file =>
    cases file with
    | other => simp only [hfile] at he
    | symlink target uid gid =>
      simp only [hfile] at he
      obtain ⟨hpresent, hkind, htarget, huid, hgid⟩ := he
      obtain ⟨howner, hgroup⟩ := hrecordable.links e.path hp target uid gid hfile
      simp only [hpresent, hkind, Bool.not_true, Bool.false_eq_true, if_false]
      refine wp_seq (wp_ignore (R := Frame e.path s) ?_ fun _ h => h) ?_
      · exact wp_op hrefl hrefl fun _ => ⟨hremoved, fun _ _ => hremoved, nofun⟩
      · intro _ s1 hs1
        rw [htarget, huid, hgid]
        exact wp_recreate howner hgroup hs1
    | regular contents uid gid mode =>
      simp only [hfile] at he
      obtain ⟨hpresent, hkind, huid, hgid, hmode, hrelpath⟩ := he
      simp only [hpresent, hkind, Bool.not_true, Bool.false_eq_true, if_false]
      have hsource : Ends owner (· = s) (perform (.readBackup version e.backupRelpath))
          (fun b s' => s' = s ∧ b = contents) s := by
        refine wp_op rfl rfl fun _ => ⟨rfl, fun b hb => ⟨rfl, ?_⟩, fun _ => rfl⟩
        rw [hrelpath] at hb
        exact hs.backups e.path hp b hb contents uid gid mode hfile
      refine wp_mono (wp_swapArtifact hsource) ?_ (fun _ h => h) fun _ h => h
      rintro _ s' ⟨hframe, b, rfl, hfile'⟩
      refine ⟨hframe, ?_⟩
      have hperm : e.mode.perm = mode := by
        have hplain := hrecordable.permissions e.path hp _ uid gid mode hfile
        rw [hmode, hplain, hplain]
      rw [hfile', hperm, huid, hgid]

theorem wp_restoreEntries (es : List SnapshotEntry)
    (hes : ∀ e ∈ es, e.path ∈ paths ∧ Describes files e) (hs : Armed paths files version s) :
    Ends owner (Armed paths files version) (restoreEntries version es)
      (fun _ s' => Armed paths files version s' ∧ (∀ e ∈ es, s'.files e.path = files e.path) ∧
        ∀ p ∈ paths, s.files p = files p → s'.files p = files p) s := by
  induction es generalizing s with
  | nil => exact wp_pure hs ⟨hs, by simp, fun _ _ h => h⟩
  | cons e es ih =>
    obtain ⟨hp, he⟩ := hes e mem_cons_self
    have hkept s' : Frame e.path s s' → Armed paths files version s' :=
      fun h => hs.of_spared h.spared
    have hentry :=
      wp_mono (wp_restoreEntry hrecordable hs hp he) (fun _ _ h => h) hkept hkept
    refine wp_seq hentry fun _ s1 hs1 => ?_
    -- The artifacts that were restored before are neither this one nor its staging file.
    have hbefore : ∀ p ∈ paths, s.files p = files p → s1.files p = files p := by
      intro p hpaths hfile
      by_cases hpe : p = e.path
      · rw [hpe]
        exact hs1.2
      · have hstaging : p ≠ stagingName e.path :=
          fun heq => hrecordable.staging e.path hp (heq ▸ hpaths)
        exact (hs1.1.files p hpe hstaging).trans hfile
    refine wp_mono (ih (fun e' he' => hes e' (mem_cons_of_mem _ he')) (hkept s1 hs1.1))
      ?_ (fun _ h => h) fun _ h => h
    rintro _ s2 ⟨harmed, hrest, hold⟩
    refine ⟨harmed, fun e' he' => ?_, fun p hpaths hfile => hold p hpaths (hbefore p hpaths hfile)⟩
    rcases mem_cons.mp he' with rfl | he'
    · exact hold _ hp hs1.2
    · exact hrest e' he'

theorem wp_rollback_of_armed (hs : Armed paths files version s) :
    Ends owner (Armed paths files version) rollback
      (fun _ s' => Armed paths files version s' ∧ Intact paths files s') s := by
  have harmed : Kept owner Idle (Armed paths files version) :=
    kept_armed.mono fun _ ho => ho.spares
  have hrestored : Kept owner Idle
      fun s => Armed paths files version s ∧ Intact paths files s := by
    refine ⟨fun o ho s c hs => ?_, fun s j j' hs hj hj' => ⟨hs.1.of_journal hj hj', hs.2⟩⟩
    rw [effect_of_idle ho c]
    exact hs
  refine harmed.wp_rollback hrestored (fun _ h => h.1) (fun s j m hs hj hm => ?_) hs
  rw [hs.journal j hj] at hm ⊢
  obtain ⟨hpaths, hdescribes⟩ := hs.entries m hm
  have hmem : ∀ e ∈ m.entries, e.path ∈ paths :=
    fun e he => hpaths ▸ mem_map_of_mem (f := fun e => e.path) he
  have hes : ∀ e ∈ m.entries.reverse, e.path ∈ paths ∧ Describes files e := by
    intro e he
    rw [mem_reverse] at he
    exact ⟨hmem e he, hdescribes e he⟩
  refine wp_mono (wp_restoreEntries hrecordable m.entries.reverse hes hs) ?_ (fun _ h => h)
    fun _ h => h
  rintro _ s1 ⟨harmed, hrestored, -⟩
  refine ⟨harmed, fun p hp => ?_⟩
  rw [← hpaths] at hp
  obtain ⟨e, he, rfl⟩ := mem_map.mp hp
  exact hrestored e (mem_reverse.mpr he)

end Rollback
end Osvbng.Upgrade

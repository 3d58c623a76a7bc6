import Osvbng.Upgrade.Recovery

/-!
# Upgrades that are interrupted

Until its metadata is written the snapshot of an upgrade is not used, as long as
what an earlier upgrade left in its place names none of the artifacts. From then
on it describes the artifacts as they were. So wherever `applyOne` stops, it
leaves a state a rollback can start from.

`rollback_restores` is the result: whatever attempts were broken off before, a
rollback that succeeds leaves the artifacts as they were.
-/

namespace Osvbng.Upgrade
open List Lib Op Prog.Only Option State
open Prog hiding pure

/-! ## Taking a snapshot -/

/-- The journal is written and the metadata is not: what stands in its place names
none of the artifacts. -/
structure Snapshotting (paths : List Path) (files : Path → Option Inode) (version : Version)
    (s : State) : Prop where
  intact : Intact paths files s
  stale : ∀ m ∈ s.metadata version, Avoids paths m
  journal : ∀ j ∈ s.journal, j.fromVersion = version

def Backed (files : Path → Option Inode) (version : Version) (s : State) (p : Path) : Prop :=
  ∀ contents uid gid mode, files p = some (.regular contents uid gid mode) →
    s.backups version (mangleArtifactRelpath p) = some contents

section Snapshot
variable {owner : Owner} {paths : List Path} {files : Path → Option Inode} {version : Version}
  {s : State} {contents : Contents} {mode : FileMode} {relpath : Path} {uid gid : Nat}

theorem Snapshotting.untouched (h : Snapshotting paths files version s) : Untouched paths files s :=
  ⟨h.intact, fun j hj m hm => h.stale m (h.journal j hj ▸ hm)⟩

theorem Snapshotting.setBackup (h : Snapshotting paths files version s) (relpath : Path)
    (contents : Contents) :
    Snapshotting paths files version (s.setBackup version relpath contents) :=
  ⟨h.intact, h.stale, h.journal⟩

theorem backups_setBackup_self :
    (s.setBackup version relpath contents).backups version relpath = some contents :=
  if_pos ⟨rfl, rfl⟩

theorem setBackup_setBackup {contents contents' : Contents} :
    (s.setBackup version relpath contents).setBackup version relpath contents' =
      s.setBackup version relpath contents' := by
  simp only [setBackup, mk.injEq, true_and, and_true]
  funext v p
  split <;> simp_all

theorem wp_writeAll_backup (h : Snapshotting paths files version s) (bytes contents : Contents) :
    Ends owner (Snapshotting paths files version)
      (writeAll (fun byte => perform (.writeBackup version relpath byte)) bytes)
      (fun _ s' => s' = s.setBackup version relpath (contents ++ bytes))
      (s.setBackup version relpath contents) := by
  induction bytes generalizing contents with
  | nil =>
    refine wp_pure (h.setBackup _ _) ?_
    rw [append_nil]
  | cons byte rest ih =>
    have hs := h.setBackup relpath contents
    refine wp_bind (wp_op hs hs fun _ => ?_)
    simp only [effect, backups_setBackup_self, setBackup_setBackup]
    refine ⟨h.setBackup _ _, fun _ _ => ?_, fun _ => h.setBackup _ _⟩
    have hrest := ih (contents ++ [byte])
    rwa [append_assoc, singleton_append] at hrest

theorem wp_copyAndHash (h : Snapshotting paths files version s) {p relpath : Path}
    (hfile : s.files p = some (.regular contents uid gid mode)) :
    Ends owner (Snapshotting paths files version) (copyAndHash p version relpath)
      (fun _ s' => s' = s.setBackup version relpath contents) s := by
  refine wp_bind (wp_op h h fun _ => ?_)
  simp only [effect, hfile]
  refine ⟨h, fun b hb => ?_, fun _ => h⟩
  cases hb
  refine wp_bind (wp_op h h fun _ =>
    ⟨h.setBackup _ _, fun _ _ => ?_, fun _ => h.setBackup _ _⟩)
  refine wp_seq (wp_writeAll_backup h contents []) ?_
  rintro _ s1 rfl
  exact wp_external (h.setBackup _ _) (h.setBackup _ _) rfl

theorem backed_setBackup_self {p : Path} (hfile : files p = some (.regular contents uid gid mode)) :
    Backed files version (s.setBackup version (mangleArtifactRelpath p) contents) p := by
  intro c u g m hc
  rw [hfile] at hc
  cases hc
  exact backups_setBackup_self

theorem Backed.setBackup {p q : Path}
    (hfile : files p = some (.regular contents uid gid mode)) (h : Backed files version s q) :
    Backed files version (s.setBackup version (mangleArtifactRelpath p) contents) q := by
  by_cases hqp : q = p
  · subst hqp
    exact backed_setBackup_self hfile
  · intro c u g m hc
    have hne : ¬(version = version ∧ mangleArtifactRelpath q = mangleArtifactRelpath p) :=
      fun heq => hqp heq.2
    exact (if_neg hne).trans (h c u g m hc)

theorem wp_snapshotOne (h : Snapshotting paths files version s) {p : Path} (hp : p ∈ paths) :
    Ends owner (Snapshotting paths files version) (snapshotOne version p)
      (fun e s' => Snapshotting paths files version s' ∧ (e.path = p ∧ Describes files e) ∧
        Backed files version s' p ∧ ∀ q, Backed files version s q → Backed files version s' q)
      s := by
  have hintact := h.intact p hp
  refine wp_bind (wp_op h h fun _ => ⟨h, fun a ha => ?_, nofun⟩)
  have ha : s.files p = a := some.inj ha
  subst ha
  cases hfile : files p with
  | none =>
    rw [hintact, hfile]
    refine wp_pure h ⟨h, ⟨rfl, ?_⟩, fun _ _ _ _ hc => ?_, fun _ hq => hq⟩
    · simp only [Describes, hfile]
    · rw [hfile] at hc
      cases hc
  | some file =>
    rw [hintact, hfile]
    cases file with
    | other => exact wp_fail h h
    | symlink target uid gid =>
      refine wp_bind (wp_external h h ?_)
      refine wp_pure h ⟨h, ⟨rfl, ?_⟩, fun _ _ _ _ hc => ?_, fun _ hq => hq⟩
      · simp only [Describes, hfile, and_self]
      · rw [hfile] at hc
        cases hc
    | regular contents uid gid mode =>
      refine wp_bind (wp_external h h ?_)
      refine wp_seq (wp_copyAndHash h (hintact.trans hfile)) ?_
      rintro _ s1 rfl
      have hs1 := h.setBackup (mangleArtifactRelpath p) contents
      refine wp_pure hs1 ⟨hs1, ⟨rfl, ?_⟩, backed_setBackup_self hfile, fun q hq =>
        hq.setBackup hfile⟩
      simp only [Describes, hfile, and_self]

theorem wp_snapshotAll (ps : List Path) (hps : ∀ p ∈ ps, p ∈ paths)
    (h : Snapshotting paths files version s) :
    Ends owner (Snapshotting paths files version) (snapshotAll version ps)
      (fun es s' => Snapshotting paths files version s' ∧
        (es.map (·.path) = ps ∧ ∀ e ∈ es, Describes files e) ∧
        (∀ p ∈ ps, Backed files version s' p) ∧
        ∀ q, Backed files version s q → Backed files version s' q) s := by
  induction ps generalizing s with
  | nil => exact wp_pure h ⟨h, ⟨rfl, by simp⟩, by simp, fun _ hq => hq⟩
  | cons p ps ih =>
    refine wp_seq (wp_snapshotOne h (hps p mem_cons_self)) fun e s1 hs1 => ?_
    obtain ⟨hs1, ⟨hpath, hdescribes⟩, hbacked, hold⟩ := hs1
    refine wp_seq (ih (fun q hq => hps q (mem_cons_of_mem _ hq)) hs1) ?_
    rintro es s2 ⟨hs2, ⟨hpaths, hentries⟩, hrest, hkeep⟩
    refine wp_pure hs2 ⟨hs2, ⟨?_, ?_⟩, ?_, fun q hq => hkeep q (hold q hq)⟩
    · rw [map_cons, hpath, hpaths]
    · intro e' he'
      rcases mem_cons.mp he' with rfl | he'
      · exact hdescribes
      · exact hentries e' he'
    · intro q hq
      rcases mem_cons.mp hq with rfl | hq
      · exact hkeep q hbacked
      · exact hrest q hq

def Interrupted (paths : List Path) (files : Path → Option Inode) (version : Version)
    (s : State) : Prop := Untouched paths files s ∨ Armed paths files version s

theorem wp_snapshot {manifest : Manifest} {now : Nat}
    (hpaths : paths = manifest.artifacts.map (·.path))
    (h : Snapshotting paths files version s) :
    Ends owner (Interrupted paths files version) (snapshot version manifest now)
      (fun _ => Armed paths files version) s := by
  have hinterrupted s : Snapshotting paths files version s → Interrupted paths files version s :=
    fun hs => .inl hs.untouched
  have hs := hinterrupted s h
  unfold snapshot
  split
  · exact wp_bind (wp_fail hs hs)
  · refine wp_bind (wp_external hs hs ?_)
    have hmem : ∀ p ∈ manifest.artifacts.map (·.path), p ∈ paths := fun p hp => hpaths ▸ hp
    refine wp_seq (wp_mono (wp_snapshotAll _ hmem h) (fun _ _ h => h) hinterrupted
      hinterrupted) ?_
    rintro es s1 ⟨hs1, ⟨hes, hdescribes⟩, hbacked, -⟩
    have hwritten : Armed paths files version (s1.setMetadata version (some
        { schemaVersion := snapshotSchemaVersion, createdAt := now, fromVersion := version,
          toVersion := manifest.osvbngVersion, needsVPP := planFromManifest manifest,
          entries := es })) := by
      refine ⟨hs1.journal, fun m hm => ?_, fun p hp b hb contents uid gid mode hfile => ?_⟩
      · cases (if_pos rfl).symm.trans hm
        exact ⟨hes.trans hpaths.symm, hdescribes⟩
      · have hcontents := hbacked p (hpaths ▸ hp) contents uid gid mode hfile
        exact some.inj (hb.symm.trans hcontents)
    exact wp_op (hinterrupted s1 hs1) (hinterrupted s1 hs1) fun _ =>
      ⟨.inr hwritten, fun _ _ => hwritten, nofun⟩

end Snapshot

/-! ## The upgrade -/

section Apply
variable {owner : Owner} {paths : List Path} {files : Path → Option Inode} {version : Version}
  {s : State} {opts : ApplyOptions}

theorem only_readJournal {ok : Op → Prop} (hok : ok .readJournal) : readJournal.Only ok := by
  refine (only_perform hok).bind fun j => ?_
  cases j with
  | none => exact only_pure
  | some j =>
    dsimp only
    split
    · exact only_fail
    · exact only_pure

theorem only_prepare (opts : ApplyOptions) : (prepare version opts).Only Idle := by
  have hexternal : external.Only Idle := only_perform trivial
  have hcheck : (checkPartialApply opts).Only Idle := by
    refine (only_readJournal trivial).bind fun j => ?_
    cases j with
    | none => exact only_pure
    | some j =>
      dsimp only
      split
      · exact only_pure
      · exact only_fail
  refine hexternal.bind fun _ => hexternal.bind fun _ => hexternal.bind fun _ =>
    hexternal.bind fun _ => ?_
  split
  · exact only_fail.bind fun _ => hexternal.bind fun _ => hcheck
  · exact hexternal.bind fun _ => hcheck

theorem wp_prepare : Keeps owner (· = s) (prepare version opts) s := by
  refine (only_prepare opts).wp (keeps_of_effect fun o ho s' c hs' => ?_) rfl
  rw [effect_of_idle ho c, hs']

theorem wp_abort (hrecordable : Recordable owner paths files) {phase phase' : Phase}
    {p : Program Unit} (hp : Keeps owner (Armed paths files version) p s) :
    Keeps owner (Armed paths files version) (abort false phase phase' p) s := by
  refine wp_orElse hp fun s1 hs1 => ?_
  refine wp_seq (kept_armed.wp_ignore_setPhase phase hs1) fun _ s2 hs2 => ?_
  have hrollback := kept_armed.wp_recording .rollbackFailed (wp_rollback_of_armed hrecordable hs2)
  exact wp_seq hrollback fun _ _ hs3 => wp_fail hs3.1 hs3.1

theorem wp_swapArtifacts (arts : List ManifestArtifact) (swapped : List Path)
    (hs : Armed paths files version s) :
    Keeps owner (Armed paths files version) (swapArtifacts swapped arts) s := by
  induction arts generalizing swapped s with
  | nil => exact wp_pure hs hs
  | cons art arts ih =>
    refine wp_seq (kept_armed.wp_updateJournal (fun _ => rfl) hs) fun _ s1 hs1 => ?_
    have hsource : (external >>= fun _ => pure art.source : Program Contents).Only Spares :=
      bind (only_perform trivial) fun _ => only_pure
    have hswap : (swapArtifact (external >>= fun _ => pure art.source) art.path art.uid art.gid
        art.mode).Only Spares :=
      only_swapArtifact hsource trivial trivial (fun _ => trivial) (fun _ _ => trivial)
        (fun _ => trivial) trivial trivial
    refine wp_seq (kept_armed.wp hswap hs1) fun _ s2 hs2 => ?_
    refine wp_seq (kept_armed.wp_updateJournal (fun _ => rfl) hs2) fun _ s3 hs3 => ?_
    exact ih _ hs3

theorem only_loadSnapshotMetadata {v : Version} : (loadSnapshotMetadata v).Only Spares := by
  refine bind (only_perform trivial) fun m => ?_
  split
  · exact only_fail.bind fun _ => only_pure
  · exact only_pure

theorem only_pruneSnapshots (keep : Nat) : (pruneSnapshots keep).Only Spares := by
  have hread vs : (readableSnapshots vs).Only Spares := by
    induction vs with
    | nil => exact only_pure
    | cons v vs ih =>
      have hinfo := (only_loadSnapshotMetadata (v := v)).bind fun m =>
        (only_pure (a := [(v, m.createdAt)]))
      exact (hinfo.orElse only_pure).bind fun _ => ih.bind fun _ => only_pure
  have hremove vs : (removeSnapshots vs).Only Spares := by
    induction vs with
    | nil => exact only_pure
    | cons v vs ih => exact bind (only_perform trivial) fun _ => ih
  unfold pruneSnapshots
  have hprune : (perform .readRollbackRoot >>= fun versions =>
      readableSnapshots versions >>= fun snaps =>
      removeSnapshots (((newestFirst snaps).drop keep).map (·.1))).Only Spares :=
    bind (only_perform trivial) fun vs => (hread vs).bind fun _ => hremove _
  split
  · exact only_fail.bind fun _ => hprune
  · exact hprune

theorem wp_applyOne {start : State} {manifest : Manifest} {now : Nat}
    (hpaths : paths = manifest.artifacts.map (·.path))
    (hrecordable : Recordable owner paths start.files)
    (hstale : ∀ m ∈ start.metadata version, Avoids paths m) (hfirst : opts.firstBoot = false) :
    Ends owner (fun s => s = start ∨ Interrupted paths start.files version s)
      (applyOne version manifest opts now) (fun _ => Armed paths start.files version) start := by
  have harmed s : Armed paths start.files version s →
      s = start ∨ Interrupted paths start.files version s := fun hs => .inr (.inr hs)
  have hstart s : s = start → s = start ∨ Interrupted paths start.files version s :=
    fun hs => .inl hs
  have hphase phase s : Armed paths start.files version s →
      Keeps owner (Armed paths start.files version) (setPhase phase) s :=
    fun hs => kept_armed.wp_setPhase phase hs
  have honly : ∀ {p : Program Unit}, p.Only Spares → ∀ s, Armed paths start.files version s →
      Keeps owner (Armed paths start.files version) p s :=
    fun hp s hs => kept_armed.wp hp hs
  have hexternal : external.Only Spares := only_perform trivial
  have hhook : (perform .hook).Only Spares := only_perform trivial
  unfold applyOne
  simp only [hfirst, Bool.not_false, if_true, Bool.false_eq_true, if_false]
  refine wp_seq (wp_mono wp_prepare (fun _ _ h => h) hstart hstart) ?_
  intro _ s hs
  rw [hs]
  have hwritten : ∀ j : JournalState, j.fromVersion = version →
      Snapshotting paths start.files version { start with journal := some j } := by
    refine fun j hj => ⟨fun _ _ => rfl, hstale, fun k hk => ?_⟩
    cases hk
    exact hj
  refine wp_bind (wp_op (.inl rfl) (.inl rfl) fun _ =>
    ⟨.inr (.inl (hwritten _ rfl).untouched), fun _ _ => ?_, nofun⟩)
  refine wp_seq (wp_mono (wp_snapshot hpaths (hwritten _ rfl)) (fun _ _ h => h)
    (fun _ h => .inr h) fun _ h => .inr h) fun _ s hs => ?_
  -- From here on the snapshot is complete.
  refine wp_mono (F := Armed paths start.files version) (I := Armed paths start.files version)
    ?_ (fun _ _ h => h) harmed harmed
  refine wp_seq (hphase .snapshotDone s hs) fun _ s hs => ?_
  refine wp_seq (honly hhook s hs) fun _ s hs => ?_
  refine wp_seq (hphase .preHookDone s hs) fun _ s hs => ?_
  refine wp_seq (honly hexternal s hs) fun _ s hs => ?_
  refine wp_seq (hphase .restartSuspended s hs) fun _ s hs => ?_
  refine wp_seq (honly hexternal s hs) fun _ s hs => ?_
  refine wp_seq (hphase .daemonStopped s hs) fun _ s hs => ?_
  refine wp_seq (wp_abort hrecordable (wp_swapArtifacts _ _ hs)) fun _ s hs => ?_
  refine wp_seq (wp_abort hrecordable (honly (only_restartVPP trivial _) s hs))
    fun _ s hs => ?_
  refine wp_seq (wp_abort hrecordable (honly hexternal s hs)) fun _ s hs => ?_
  refine wp_seq (hphase .daemonStarted s hs) fun _ s hs => ?_
  refine wp_seq (wp_abort hrecordable (honly hexternal s hs)) fun _ s hs => ?_
  refine wp_seq (honly hexternal s hs) fun _ s hs => ?_
  refine wp_seq (hphase .completed s hs) fun _ s hs => ?_
  split
  · exact wp_seq (honly (only_pruneSnapshots _).ignore s hs)
      fun _ s hs => honly hhook.ignore s hs
  · exact honly hhook.ignore s hs

theorem wp_rollback_of_interrupted (hrecordable : Recordable owner paths files)
    (hs : Interrupted paths files version s) :
    Ends owner (Interrupted paths files version) rollback (fun _ => Intact paths files) s := by
  rcases hs with hs | hs
  · exact wp_mono (wp_rollback_of_untouched hs) (fun _ _ h => h.1) (fun _ h => .inl h)
      fun _ h => .inl h
  · exact wp_mono (wp_rollback_of_armed hrecordable hs) (fun _ _ h => h.2) (fun _ h => .inr h)
      fun _ h => .inr h

end Apply

/-- What a rollback may find after attempts that failed or were broken off. -/
def Attempts (owner : Owner) : State → State → Prop :=
  Relation.ReflTransGen fun s s' => ∃ cs, s' = (rollback.exec (fileSystem owner) s cs).1

/-- An upgrade is stopped anywhere, after it wrote its journal or on a machine
where the journal that is there leads to no snapshot of the artifacts. Then a
rollback that succeeds leaves every artifact as it was when the upgrade began. -/
theorem rollback_restores {owner : Owner} {start : State} {current : Version} {manifest : Manifest}
    {opts : ApplyOptions} {now : Nat} (hfirst : opts.firstBoot = false)
    (hrecordable : Recordable owner (manifest.artifacts.map (·.path)) start.files)
    (hstale : ∀ m ∈ start.metadata current, Avoids (manifest.artifacts.map (·.path)) m)
    {cs : List Choice} {stopped : State}
    (hstopped : stopped = ((applyOne current manifest opts now).exec (fileSystem owner) start cs).1)
    (hjournal : stopped.journal = start.journal → Harmless (manifest.artifacts.map (·.path)) start)
    {found : State} (hfound : Attempts owner stopped found) {cs' : List Choice}
    (hdone : (rollback.exec (fileSystem owner) found cs').2 = .done ()) :
    ∀ art ∈ manifest.artifacts,
      (rollback.exec (fileSystem owner) found cs').1.files art.path = start.files art.path := by
  have hstop := (exec_of_wp (p := applyOne current manifest opts now)
    (wp_applyOne rfl hrecordable hstale hfirst) cs).1
  rw [← hstopped] at hstop
  have hinterrupted :
      Interrupted (manifest.artifacts.map (·.path)) start.files current stopped := by
    rcases hstop with rfl | hstop
    · exact .inl ⟨fun _ _ => rfl, hjournal rfl⟩
    · exact hstop
  have hattempts s : Attempts owner stopped s →
      Interrupted (manifest.artifacts.map (·.path)) start.files current s := by
    intro hs
    induction hs with
    | refl => exact hinterrupted
    | tail _ hattempt ih =>
      obtain ⟨cs1, rfl⟩ := hattempt
      exact (exec_of_wp (wp_rollback_of_interrupted hrecordable ih) cs1).1
  have hrollback := exec_of_wp (wp_rollback_of_interrupted hrecordable
    (hattempts found hfound)) cs'
  intro art hart
  exact hrollback.2.1 () hdone art.path (mem_map_of_mem hart)

variable (metadata : Option SnapshotMetadata)

/-- The binary of version 1, on a machine where an upgrade was rolled back if it
has left a snapshot. -/
def installed : State where
  files p := if p = ["bin"] then some (.regular [1] 0 0 0o755#12) else none
  backups v p := if v = "1" ∧ p = ["bin"] then some [1] else none
  metadata v := if v = "1" then metadata else none
  journal := metadata.map fun _ => ⟨1, "1", "2", .rolledBack, [], []⟩

def secondVersion : Manifest :=
  ⟨"2", [{ path := ["bin"], source := [2, 2], mode := .octal 0o755#12, uid := 0, gid := 0,
           needsVPP := false }]⟩

def firstSnapshot : SnapshotMetadata :=
  ⟨1, 0, "1", "2", false, [{ path := ["bin"], kind := .regular, mode := 0o755#12,
                             backupRelpath := ["bin"], present := true }]⟩

def stoppedAfter (n : Nat) : State :=
  ((applyOne "1" secondVersion {} 1).exec (fileSystem ⟨0, 0⟩) (installed metadata)
    (.replicate n .succeed)).1

def rolledBack (s : State) : State × Outcome Unit :=
  rollback.exec (fileSystem ⟨0, 0⟩) s (.replicate 30 .succeed)

theorem recordable_installed : Recordable ⟨0, 0⟩ [["bin"]] (installed metadata).files := by
  refine ⟨fun p hp contents uid gid mode hfile => ?_,
    fun p hp target uid gid hfile => ?_, by decide⟩
  · cases mem_singleton.mp hp
    cases hfile
    decide
  · cases mem_singleton.mp hp
    cases hfile

/-- The binary is swapped when the machine stops. -/
theorem rollback_restores_swapped :
    (stoppedAfter none 37).files ["bin"] = some (.regular [2, 2] 0 0 0o755#12) ∧
      (rolledBack (stoppedAfter none 37)).1.files ["bin"] = (installed none).files ["bin"] := by
  have hstale : ∀ m ∈ (installed none).metadata "1", Avoids [["bin"]] m := nofun
  have hharmless : (stoppedAfter none 37).journal = (installed none).journal →
      Harmless [["bin"]] (installed none) := nofun
  have hdone : (rolledBack (stoppedAfter none 37)).2 = .done () := by decide
  have hstopped : stoppedAfter none 37 = ((applyOne "1" secondVersion {} 1).exec
      (fileSystem ⟨0, 0⟩) (installed none) (.replicate 37 .succeed)).1 := rfl
  exact ⟨by decide, rollback_restores rfl (recordable_installed none) hstale hstopped hharmless
    .refl hdone _ mem_cons_self⟩

/-- The machine stops when the new snapshot has truncated the backup of the old
one. The rollback succeeds and leaves an empty binary. -/
theorem rollback_empties_binary :
    (rolledBack (stoppedAfter (some firstSnapshot) 12)).2 = .done () ∧
      (rolledBack (stoppedAfter (some firstSnapshot) 12)).1.files ["bin"] =
        some (.regular [] 0 0 0o755#12) ∧
      (installed (some firstSnapshot)).files ["bin"] = some (.regular [1] 0 0 0o755#12) := by
  decide

end Osvbng.Upgrade

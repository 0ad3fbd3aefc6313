import TetiBot.Core.Dates
import TetiBot.Desktop.MigrationRecovery
import TetiBot.Library.JsonText

/-
Rows of runs of the migration.

* `afterAttempts_resumable`: whatever interrupts the runs, the profile itself stays as it was and
  the migration can be taken up.
* `profile_migration_crash_safe`: once a run has returned, the Store, the archive and `profile.json` are
  those of one uninterrupted run, further runs change nothing, and where an uninterrupted run
  returns at all, a rerun that is not interrupted returns from every disk on the way.
-/

namespace TetiBot

open Library Library.Program Migration

variable {env : MigrationEnv} {mode : Nat} {entries : List (String × FileNode FileContent)}
  {d : ProfileDisk} {attempts : List MigrationAttempt} {attempt : MigrationAttempt}

lemma legacyProfile_isDirectory :
    FileNode.IsDirectory mode [] (legacyProfile mode entries .root) :=
  ⟨entries, rfl, by simp⟩

/-- One run leaves a disk that can be taken up again. -/
lemma run_resumable (hd : Resumable env (legacyProfile mode entries) d)
    (attempt : MigrationAttempt) :
    Resumable env (legacyProfile mode entries) (attempt.run env d).2 :=
  ((migrate_triple legacyProfile_isDirectory hd attempt.clock).post fun _ _ hw =>
    hw.resumable).world rfl

lemma run_returned {metadata : Json} {e : ProfileDisk}
    (hd : Resumable env (legacyProfile mode entries) d)
    (hrun : attempt.run env d = (.ok metadata, e)) :
    MigrationDone env (legacyProfile mode entries) d attempt.clock e := by
  have htriple := migrate_triple legacyProfile_isDirectory hd attempt.clock
  rcases hexec : (migrateTetiProfileToV2 env attempt.clock).exec ⟨d, attempt.faults⟩
    with ⟨r, w⟩
  rw [MigrationAttempt.run, hexec] at hrun
  obtain ⟨rfl, rfl⟩ := Prod.mk.inj hrun
  exact htriple.ok rfl hexec

/-- After the metadata are there, runs change nothing. -/
lemma afterAttempts_complete (hthere : (d .metadata).isSome = true)
    (attempts : List MigrationAttempt) : afterAttempts env d attempts = d := by
  induction attempts with
  | nil => rfl
  | cons attempt rest ih =>
    have hkept : (attempt.run env d).2 = d :=
      (migrate_keeps hthere attempt.clock).world (w := ⟨d, attempt.faults⟩) rfl
    rw [afterAttempts, List.foldl_cons, hkept]
    exact ih

/-- **The legacy files are never changed**, and the migration can always be taken up. -/
theorem afterAttempts_resumable (hd : Resumable env (legacyProfile mode entries) d)
    (attempts : List MigrationAttempt) :
    Resumable env (legacyProfile mode entries) (afterAttempts env d attempts) := by
  induction attempts generalizing d with
  | nil => exact hd
  | cons attempt rest ih => exact ih (run_resumable hd attempt)

/-- What a run that returned has put in place. -/
structure Migrated (env : MigrationEnv) (profile d : ProfileDisk) (legacy : Bool)
    (store : Option (FileNode FileContent)) (archive : FileNode FileContent)
    (clock : MigrationClock) : Prop where
  hasLegacy : HasLegacyData profile legacy
  storeBuilt : StoreBuilt env profile legacy store
  archiveBuilt : ArchiveBuilt env profile clock.archivedAt (some archive)
  root : d .root = profile .root
  store : d .store = store
  archive : d .archive = some archive
  metadata : d .metadata = metadataFile env clock.createdAt legacy

lemma Resumable.migrated {profile : ProfileDisk} (hd : Resumable env profile d)
    (hthere : (d .metadata).isSome = true) :
    ∃ legacy store archive clock, Migrated env profile d legacy store archive clock := by
  rcases hd.metadata with hnone | ⟨legacy, createdAt, hlegacy, hmetadata, hstore, harchive⟩
  · rw [hnone] at hthere
    cases hthere
  rcases hd.store with hnone | ⟨legacy', hlegacy', hbuilt, -⟩
  · rw [hnone] at hstore
    cases hstore
  obtain rfl := hlegacy.unique hlegacy'
  rcases hd.archive with hnone | ⟨archivedAt, harchived⟩
  · rw [hnone] at harchive
    cases harchive
  obtain ⟨archive, hthere⟩ := Option.isSome_iff_exists.mp harchive
  exact ⟨legacy, d .store, archive, ⟨archivedAt, createdAt⟩, hlegacy, hbuilt, hthere ▸ harchived,
    hd.root, rfl, hthere, hmetadata⟩

lemma Migrated.run {legacy : Bool} {store : Option (FileNode FileContent)}
    {archive : FileNode FileContent} {clock : MigrationClock}
    (h : Migrated env (legacyProfile mode entries) d legacy store archive clock) :
    ∃ e, (MigrationAttempt.mk clock []).run env (legacyProfile mode entries)
        = (.ok (metadataJson clock.createdAt legacy), e)
      ∧ ∀ area ∈ [ProfileArea.root, .store, .archive, .metadata], d area = e area := by
  obtain ⟨e, hexec, hroot, hstore, harchive, hmetadata⟩ :=
    exec_migrate legacyProfile_isDirectory (resumable_legacyProfile mode entries) rfl h.hasLegacy
      h.storeBuilt fun _ => h.archiveBuilt
  refine ⟨e, ?_, ?_⟩
  · rw [MigrationAttempt.run, hexec]
  · simp only [List.forall_mem_cons, List.not_mem_nil, IsEmpty.forall_iff, implies_true, and_true]
    exact ⟨h.root.trans hroot.symm, h.store.trans hstore.symm, h.archive.trans harchive.symm,
      h.metadata.trans hmetadata.symm⟩

/-! ### Taking the migration up -/

/-- The metadata are read back, and the times in them. -/
structure ReadsBack (env : MigrationEnv) : Prop where
  json : ∀ createdAt legacy, env.parseJson (env.printJson (metadataJson createdAt legacy))
    = .ok (metadataJson createdAt legacy)
  date : ∀ t : DateTime, (env.parseDate (toISOString t)).isSome = true

lemma isProfileMetadata_metadataJson (henv : ReadsBack env) (createdAt : DateTime)
    (legacy : Bool) : isProfileMetadata env (metadataJson createdAt legacy) = true := by
  cases legacy <;>
    simp [isProfileMetadata, metadataJson, recordFields?, numberField, textField, stringField,
      hasField, Json.lookup_cons, Json.lookup_nil, jsonString, henv.date,
      JsString.toString?_ofString]

/-- A run that finds the metadata returns them. -/
lemma exec_migrate_complete {profile : ProfileDisk} (henv : ReadsBack env)
    (hd : Resumable env profile d) (hthere : (d .metadata).isSome = true)
    (clock : MigrationClock) :
    ∃ metadata, (migrateTetiProfileToV2 env clock).exec ⟨d, []⟩ = (.ok metadata, ⟨d, []⟩) := by
  rcases hd.metadata with hnone | ⟨legacy, createdAt, -, hmetadata, hstore, -⟩
  · rw [hnone] at hthere
    cases hthere
  have hread : (readFile ⟨.metadata, []⟩).exec ⟨d, []⟩
      = (.ok (env.printJson (metadataJson createdAt legacy)), ⟨d, []⟩) := by
    refine exec_readStep ?_
    simp only [ProfileDisk.fileAt, ProfileDisk.look, hmetadata, metadataFile]
    rfl
  have hfound : (readMetadata env ⟨.metadata, []⟩).exec ⟨d, []⟩
      = (.ok (some (metadataJson createdAt legacy)), ⟨d, []⟩) := by
    rw [readMetadata, exec_bind_ok (exec_pathExists_area d .metadata), hmetadata]
    refine (exec_bind_ok hread).trans ?_
    rw [henv.json]
    simp [orRefuse, throwIf, isProfileMetadata_metadataJson henv]
  have hdirectory : IsStore controlNames (d .store) := by
    rcases hd.store with hnone | ⟨_, -, -, h⟩
    · rw [hnone] at hstore
      cases hstore
    · exact h
  refine ⟨metadataJson createdAt legacy, ?_⟩
  rw [migrateTetiProfileToV2, exec_bind_ok hfound]
  exact exec_bind_ok (exec_requireDirectory hdirectory _)

/-- **The migration can be taken up**: where a run on the untouched profile returns, a run with
the same readings of the clock returns from every disk that can be taken up. -/
theorem exec_migrate_resumed {clock : MigrationClock} {metadata : Json} {e : ProfileDisk}
    (henv : ReadsBack env) (hd : Resumable env (legacyProfile mode entries) d)
    (hfresh : (MigrationAttempt.mk clock []).run env (legacyProfile mode entries)
      = (.ok metadata, e)) :
    ∃ metadata' e', (MigrationAttempt.mk clock []).run env d = (.ok metadata', e') := by
  by_cases hthere : (d .metadata).isSome = true
  · obtain ⟨metadata', hexec⟩ := exec_migrate_complete henv hd hthere clock
    exact ⟨metadata', d, by rw [MigrationAttempt.run, hexec]⟩
  have hdone := run_returned (resumable_legacyProfile mode entries) hfresh
  obtain ⟨legacy, store, archive, _, h⟩ := hdone.resumable.migrated hdone.there
  have hbuilt : d .archive = none →
      ArchiveBuilt env (legacyProfile mode entries) clock.archivedAt (some archive) := by
    intro _
    rw [← h.archive]
    exact hdone.archive rfl rfl
  obtain ⟨e', hexec, -⟩ := exec_migrate legacyProfile_isDirectory hd (by simpa using hthere)
    h.hasLegacy h.storeBuilt hbuilt
  exact ⟨_, e', by rw [MigrationAttempt.run, hexec]⟩

/-! ### Crash safety -/

/-- **The migration is crash safe and idempotent.**  Whatever interrupts the runs on a profile,
its own files stay as they are.  Once a run returns, the Store, the archive and `profile.json`
are those of one uninterrupted run, with the times at which they were made, and no further run
changes anything.  Where an uninterrupted run would return at all, it returns from every disk
that interrupted runs leave behind. -/
theorem profile_migration_crash_safe {metadata : Json} {last : MigrationAttempt}
    (hlast : last.run env (afterAttempts env (legacyProfile mode entries) attempts)
      = (.ok metadata, d)) :
    (∃ clock metadata' e,
        (MigrationAttempt.mk clock []).run env (legacyProfile mode entries) = (.ok metadata', e)
          ∧ ∀ area ∈ [ProfileArea.root, .store, .archive, .metadata], d area = e area)
      ∧ (∀ further, afterAttempts env d further = d)
      ∧ (∀ others, afterAttempts env (legacyProfile mode entries) others .root
          = some (.dir mode entries))
      ∧ (ReadsBack env → ∀ others clock metadata' e,
          (MigrationAttempt.mk clock []).run env (legacyProfile mode entries) = (.ok metadata', e) →
          ∃ metadata'' e', (MigrationAttempt.mk clock []).run env
            (afterAttempts env (legacyProfile mode entries) others) = (.ok metadata'', e')) := by
  have hreached : ∀ others : List MigrationAttempt, Resumable env (legacyProfile mode entries)
      (afterAttempts env (legacyProfile mode entries) others) :=
    afterAttempts_resumable (resumable_legacyProfile mode entries)
  have hdone := run_returned (hreached attempts) hlast
  refine ⟨?_, fun further => afterAttempts_complete hdone.there further,
    fun others => (hreached others).root, fun henv others clock metadata' e hfresh =>
      exec_migrate_resumed henv (hreached others) hfresh⟩
  obtain ⟨legacy, store, archive, clock, h⟩ := hdone.resumable.migrated hdone.there
  obtain ⟨e, hrun, hsame⟩ := h.run
  exact ⟨clock, _, e, hrun, hsame⟩

/-- A migration with JSON as it is read and written. -/
def sampleMigrationEnv : MigrationEnv where
  parseJson file := (Json.parse (file.map UInt8.toUInt16)).elim
    (.error "Unexpected end of JSON input") .ok
  printJson value := (Json.stringify value ++ [0x0A]).map UInt16.toUInt8
  parseDate := dateParse
  normalizeAccount := .ok
  validateStoredAccount _ := .ok ()
  validateConnectionRecord _ := .ok ()
  directoryMode := 0o755
  fileMode := 0o644

/-- Old tasks with one attachment. -/
def sampleLegacyEntries : List (String × FileNode FileContent) :=
  [("tasks.json", .file 0o600 [0x7B, 0x7D]),
    ("task-attachments", .dir 0o700 [("photo", .dir 0o700 [("image.png", .file 0o644 [0x89, 0x50])])])]

/-- A run that is not interrupted, or that dies in the middle of the step after `n`. -/
def sampleAttempt (interrupted : Option Nat) : MigrationAttempt where
  clock := ⟨⟨0, by decide⟩, ⟨1, by decide⟩⟩
  faults := interrupted.elim [] fun n =>
    List.replicate n none ++ [some ⟨true, true, 1, some [0x7B], none⟩]

/-- What two runs that die leave behind, one while it copies into the Store and one while it
copies into the archive. -/
def sampleInterrupted : ProfileDisk :=
  afterAttempts sampleMigrationEnv (legacyProfile 0o700 sampleLegacyEntries)
    [sampleAttempt (some 22), sampleAttempt (some 50)]

theorem profile_migration_after_two_deaths :
    ∃ metadata d, (sampleAttempt none).run sampleMigrationEnv sampleInterrupted = (.ok metadata, d)
      ∧ (∃ clock metadata' e, (⟨clock, []⟩ : MigrationAttempt).run sampleMigrationEnv
            (legacyProfile 0o700 sampleLegacyEntries) = (.ok metadata', e)
          ∧ ∀ area ∈ [ProfileArea.root, .store, .archive, .metadata], d area = e area)
      ∧ (∀ further, afterAttempts sampleMigrationEnv d further = d)
      ∧ sampleInterrupted .root = some (.dir 0o700 sampleLegacyEntries) := by
  have hok : ((sampleAttempt none).run sampleMigrationEnv sampleInterrupted).1.isOk = true := by
    decide +kernel
  rcases hrun : (sampleAttempt none).run sampleMigrationEnv sampleInterrupted
    with ⟨error | metadata, d⟩ <;> rw [hrun] at hok
  · cases hok
  · obtain ⟨hfresh, hfurther, hroot, -⟩ := profile_migration_crash_safe hrun
    exact ⟨metadata, d, rfl, hfresh, hfurther, hroot _⟩

end TetiBot

import TetiBot.Memory.Types

/-
The restore of a backup of the memory database (`restoreStructuredTaskMemoryBackup` of
`runtime/memory/structured-task-sqlite.ts`).

* `RestoreStep`: the calls that may fail, one for each place in the code; `RestorePath`: the
  files, among them those with a random name.
* `prepareRestore`: all that comes before the database is touched; `placeRestored`: the moves.
* `ReachesPlacement`: what it takes to come to the moves (`prepareRestore_returns_iff`).
* `restore_atomic`: when the database is the one that was there or the restored one.
-/

namespace TetiBot.Memory

open Library Library.Program

/-! ### Files and calls -/

/-- The calls of `createVerifiedBackup`. -/
inductive BackupStep
  | check | mkdir | copy | chmod | openCopy | checkCopy | rename | stat | readFile | readVersion
  | remove
  deriving DecidableEq

inductive RestoreStep
  | openSource | checkSource | readVersion | openCurrent | checkCurrent
  | safety (step : BackupStep)
  | restoring (step : BackupStep)
  | renameAside | renameIntoPlace | renameBack | removeReplaced | chmod | openRestored
  | checkRestored | removeRestoreTemporary
  deriving DecidableEq

/-- The database and its journal, the backup, and the files with a random name:
`pre-restore-…`, `.restore-…`, with their own temporary files, and `.replaced-…`. -/
inductive RestorePath
  | database | databaseWal | databaseShm | backup
  | safety | safetyTemporary | restoreTemporary | restoreTemporaryTmp | replaced
  deriving DecidableEq

structure DatabaseFile (δ : Type) where
  content : δ
  mode : Nat

abbrev RestoreDisk (δ : Type) := RestorePath → Option (DatabaseFile δ)

/-- The SQLite library and the operating system: which contents pass the checks, what a version
and a copy of a content are, which calls fail, and what a copy that fails leaves. -/
structure RestoreEnv (δ : Type) where
  parseDate : TimeText → Option Timestamp
  integrityOk : δ → Bool
  foreignKeysOk : δ → Bool
  /-- The version if it is a safe natural number. -/
  userVersion : δ → Option Nat
  backup : δ → δ
  fails : RestoreStep → Bool
  torn : RestoreStep → Option δ

inductive RestoreError
  | io
  | plain (message : String)
  | store (error : MemoryError)
  deriving DecidableEq

structure RestoreInput where
  databasePath : String
  backupPath : String
  confirmed : Bool
  restoredAt : TimeText

structure StructuredMemoryRestoreReport where
  restoredSchemaVersion : Nat
  safetyBackupCreated : Bool
  restoredAt : TimeText

def DATABASE_SCHEMA_VERSION : Nat := 4

variable {δ : Type} (env : RestoreEnv δ)

abbrev Restore (δ α : Type) := Program RestoreError (RestoreDisk δ) α

/-! ### Calls -/

variable (step : RestoreStep)

def call : Restore δ Unit := throwIf (env.fails step = true) .io

/-- `openDatabase`, to read. -/
def openDatabase (path : RestorePath) : Restore δ δ := do
  call env step
  let file ← reads (· path)
  orThrow (file.map DatabaseFile.content) .io

def requireDatabaseIntegrity (content : δ) : Restore δ Unit := do
  call env step
  throwIf (env.integrityOk content = false)
    (.plain "Structured task memory integrity check failed.")
  throwIf (env.foreignKeysOk content = false)
    (.plain "Structured task memory foreign key check failed.")

def requireDatabaseFileIntegrity (opening checking : RestoreStep) (path : RestorePath) :
    Restore δ Unit := do
  let content ← openDatabase env opening path
  requireDatabaseIntegrity env checking content

def userVersion (step : RestoreStep) (content : δ) : Restore δ Nat := do
  call env step
  orThrow (env.userVersion content)
    (.plain "Structured task memory schema version is invalid.")

/-- `rename`: a move that fails moves nothing. -/
def rename (source target : RestorePath) : Restore δ Unit := do
  call env step
  let file ← reads (· source)
  let file ← orThrow file .io
  writes fun d => Function.update (Function.update d source none) target (some file)

/-- `rm` with `force`. -/
def rm (path : RestorePath) : Restore δ Unit := do
  call env step
  writes fun d => Function.update d path none

def chmod (path : RestorePath) (mode : Nat) : Restore δ Unit := do
  call env step
  let file ← reads (· path)
  let file ← orThrow file .io
  writes fun d => Function.update d path (some { file with mode := mode })

/-- `backup` to a new file, which may fail halfway. -/
def copyDatabase (source : δ) (target : RestorePath) : Restore δ Unit := do
  if env.fails step then
    writes fun d => Function.update d target ((env.torn step).map fun content => ⟨content, 0o644⟩)
    raise .io
  else writes fun d => Function.update d target (some ⟨env.backup source, 0o644⟩)

/-! ### The restore -/

def createVerifiedBackup (step : BackupStep → RestoreStep) (source : δ)
    (destination temporary : RestorePath) : Restore δ Unit := do
  requireDatabaseIntegrity env (step .check) source
  call env (step .mkdir)
  onThrow (do
      copyDatabase env (step .copy) source temporary
      chmod env (step .chmod) temporary 0o600
      requireDatabaseFileIntegrity env (step .openCopy) (step .checkCopy) temporary
      rename env (step .rename) temporary destination
      call env (step .stat)
      call env (step .readFile)
      let _ ← userVersion env (step .readVersion) source)
    (rm env (step .remove) temporary)

/-- What comes before the database is touched: the version of the backup, and whether there is
a database to replace. -/
def prepareRestore (source : δ) : Restore δ (Nat × Bool) := do
  requireDatabaseIntegrity env .checkSource source
  let restoredSchemaVersion ← userVersion env .readVersion source
  throwIf (restoredSchemaVersion < 1 ∨ DATABASE_SCHEMA_VERSION < restoredSchemaVersion)
    (.store ⟨.inputInvalid, "Structured Memory backup schema is unsupported."⟩)
  let replaces ← reads fun d => (d .database).isSome
  if replaces then
    let current ← openDatabase env .openCurrent .database
    requireDatabaseIntegrity env .checkCurrent current
    createVerifiedBackup env .safety current .safety .safetyTemporary
  createVerifiedBackup env .restoring source .restoreTemporary .restoreTemporaryTmp
  return (restoredSchemaVersion, replaces)

/-- The moves, and the check of what they leave. -/
def placeRestored (replaces : Bool) : Restore δ Unit := do
  if replaces then rename env .renameAside .database .replaced
  onThrow (rename env .renameIntoPlace .restoreTemporary .database)
    (if replaces then rename env .renameBack .replaced .database else pure ())
  if replaces then rm env .removeReplaced .replaced
  chmod env .chmod .database 0o600
  requireDatabaseFileIntegrity env .openRestored .checkRestored .database

def restoreStructuredTaskMemoryBackup (input : RestoreInput) :
    Restore δ StructuredMemoryRestoreReport := do
  throwIf (input.confirmed = false ∨ isTimestamp env.parseDate input.restoredAt = false
      ∨ input.databasePath = input.backupPath)
    (.store (invalid "Structured Memory restore"))
  let journal ← reads fun d => (d .databaseWal).isSome || (d .databaseShm).isSome
  throwIf (journal = true)
    (.store ⟨.storeUnavailable, "Close Structured Memory and checkpoint WAL before restore."⟩)
  let source ← openDatabase env .openSource .backup
  ensuring (do
      let (restoredSchemaVersion, replaces) ← prepareRestore env source
      placeRestored env replaces
      return ⟨restoredSchemaVersion, replaces, input.restoredAt⟩)
    (rm env .removeRestoreTemporary .restoreTemporary)

/-! ### What a call that returned found -/

def sound (content : δ) : Prop := env.integrityOk content = true ∧ env.foreignKeysOk content = true

section

variable {env} {d d' : RestoreDisk δ} {step : RestoreStep} {path : RestorePath} {u : Unit}

lemma exec_call : (call env step).exec d = (.ok u, d') ↔ env.fails step = false ∧ d = d' := by
  rw [call, exec_throwIf_eq_ok, Bool.not_eq_true]

lemma exec_orThrow {α : Type} {o : Option α} {e : RestoreError} {a : α} :
    (orThrow o e : Restore δ α).exec d = (.ok a, d') ↔ o = some a ∧ d = d' := by
  cases o with
  | none => simp [orThrow]
  | some b =>
    rw [orThrow, exec_pure]
    constructor
    · intro h
      obtain ⟨hb, rfl⟩ := Prod.mk.inj h
      exact ⟨congrArg some (Except.ok.inj hb), rfl⟩
    · rintro ⟨hb, rfl⟩
      rw [Option.some.inj hb]

lemma exec_readFile {file : Option (DatabaseFile δ)} :
    (reads (fun d => d path) : Restore δ _).exec d = (.ok file, d') ↔ d path = file ∧ d = d' := by
  rw [exec_reads]
  constructor
  · intro h
    obtain ⟨hfile, rfl⟩ := Prod.mk.inj h
    exact ⟨Except.ok.inj hfile, rfl⟩
  · rintro ⟨rfl, rfl⟩
    rfl

lemma exec_openDatabase {content : δ} : (openDatabase env step path).exec d = (.ok content, d')
    ↔ env.fails step = false ∧ (d path).map DatabaseFile.content = some content ∧ d = d' := by
  simp only [openDatabase, exec_bind_eq_ok, exec_call, exec_readFile, exec_orThrow]
  constructor
  · rintro ⟨_, _, ⟨hstep, rfl⟩, _, _, ⟨rfl, rfl⟩, hcontent, rfl⟩
    exact ⟨hstep, hcontent, rfl⟩
  · rintro ⟨hstep, hcontent, rfl⟩
    exact ⟨(), _, ⟨hstep, rfl⟩, _, _, ⟨rfl, rfl⟩, hcontent, rfl⟩

lemma exec_requireDatabaseIntegrity {content : δ} :
    (requireDatabaseIntegrity env step content).exec d = (.ok u, d')
      ↔ env.fails step = false ∧ sound env content ∧ d = d' := by
  simp only [requireDatabaseIntegrity, exec_bind_eq_ok, exec_call, exec_throwIf_eq_ok, sound,
    Bool.not_eq_false]
  constructor
  · rintro ⟨_, _, ⟨hstep, rfl⟩, _, _, ⟨hintegrity, rfl⟩, hforeign, rfl⟩
    exact ⟨hstep, ⟨hintegrity, hforeign⟩, rfl⟩
  · rintro ⟨hstep, ⟨hintegrity, hforeign⟩, rfl⟩
    exact ⟨(), _, ⟨hstep, rfl⟩, (), _, ⟨hintegrity, rfl⟩, hforeign, rfl⟩

variable {version : Nat}

lemma exec_userVersion {content : δ} :
    (userVersion env step content).exec d = (.ok version, d')
      ↔ env.fails step = false ∧ env.userVersion content = some version ∧ d = d' := by
  simp only [userVersion, exec_bind_eq_ok, exec_call, exec_orThrow]
  constructor
  · rintro ⟨_, _, ⟨hstep, rfl⟩, hversion, rfl⟩
    exact ⟨hstep, hversion, rfl⟩
  · rintro ⟨hstep, hversion, rfl⟩
    exact ⟨(), _, ⟨hstep, rfl⟩, hversion, rfl⟩

lemma exec_copyDatabase {source : δ} :
    (copyDatabase env step source path).exec d = (.ok u, d')
      ↔ env.fails step = false ∧ d' = Function.update d path (some ⟨env.backup source, 0o644⟩) := by
  rw [copyDatabase]
  cases hstep : env.fails step with
  | true => simp [exec_bind]
  | false => simp [eq_comm]

lemma exec_chmod {mode : Nat} : (chmod env step path mode).exec d = (.ok u, d')
    ↔ env.fails step = false ∧ ∃ file, d path = some file
      ∧ d' = Function.update d path (some { file with mode := mode }) := by
  simp only [chmod, exec_bind_eq_ok, exec_call, exec_readFile, exec_orThrow, exec_writes]
  constructor
  · rintro ⟨_, _, ⟨hstep, rfl⟩, _, _, ⟨rfl, rfl⟩, file, _, ⟨hfile, rfl⟩, hwrite⟩
    exact ⟨hstep, file, hfile, (Prod.mk.inj hwrite).2.symm⟩
  · rintro ⟨hstep, file, hfile, rfl⟩
    exact ⟨(), _, ⟨hstep, rfl⟩, _, _, ⟨rfl, rfl⟩, file, _, ⟨hfile, rfl⟩, rfl⟩

lemma exec_rename {source target : RestorePath} :
    (rename env step source target).exec d = (.ok u, d')
      ↔ env.fails step = false ∧ ∃ file, d source = some file
        ∧ d' = Function.update (Function.update d source none) target (some file) := by
  simp only [rename, exec_bind_eq_ok, exec_call, exec_readFile, exec_orThrow, exec_writes]
  constructor
  · rintro ⟨_, _, ⟨hstep, rfl⟩, _, _, ⟨rfl, rfl⟩, file, _, ⟨hfile, rfl⟩, hwrite⟩
    exact ⟨hstep, file, hfile, (Prod.mk.inj hwrite).2.symm⟩
  · rintro ⟨hstep, file, hfile, rfl⟩
    exact ⟨(), _, ⟨hstep, rfl⟩, _, _, ⟨rfl, rfl⟩, file, _, ⟨hfile, rfl⟩, rfl⟩

lemma exec_rename_of_fails {source target : RestorePath} (h : env.fails step = true) :
    (rename env step source target).exec d = (.error .io, d) := by
  simp [rename, call, throwIf, h, exec_bind]

/-! ### What a backup that was made leaves -/

/-- The calls of a backup that is made. -/
def BackupStep.made : List BackupStep :=
  [.check, .mkdir, .copy, .chmod, .openCopy, .checkCopy, .rename, .stat, .readFile, .readVersion]

/-- What it takes for a backup to be made. -/
structure BackupSucceeds (env : RestoreEnv δ) (step : BackupStep → RestoreStep) (source : δ) :
    Prop where
  calls : ∀ s ∈ BackupStep.made, env.fails (step s) = false
  sourceSound : sound env source
  copySound : sound env (env.backup source)
  version : (env.userVersion source).isSome = true

lemma exec_createVerifiedBackup {step : BackupStep → RestoreStep} {source : δ}
    {destination temporary : RestorePath} :
    (createVerifiedBackup env step source destination temporary).exec d = (.ok u, d')
      ↔ BackupSucceeds env step source
        ∧ d' = Function.update (Function.update d temporary none) destination
          (some ⟨env.backup source, 0o600⟩) := by
  simp only [createVerifiedBackup, exec_bind_eq_ok, exec_onThrow_eq_ok, exec_call,
    exec_requireDatabaseIntegrity, exec_copyDatabase, exec_chmod, requireDatabaseFileIntegrity,
    exec_openDatabase, exec_rename, exec_userVersion, exec_pure]
  constructor
  · rintro ⟨_, _, ⟨hcheck, hsource, rfl⟩, _, _, ⟨hmkdir, rfl⟩, _, _, ⟨hcopy, rfl⟩, _, _,
      ⟨hchmod, file, hfile, rfl⟩, _, _, ⟨content, _, ⟨hopen, hcontent, rfl⟩, hcheckCopy, hsound, rfl⟩,
      _, _, ⟨hrename, moved, hmoved, rfl⟩, _, _, ⟨hstat, rfl⟩, _, _, ⟨hread, rfl⟩, version, _,
      ⟨hversionStep, hversion, rfl⟩, hlast⟩
    obtain rfl : _ = file := Option.some.inj (by simpa using hfile)
    obtain rfl : _ = content := by simpa using hcontent
    obtain rfl : _ = moved := Option.some.inj (by simpa using hmoved)
    refine ⟨⟨?_, hsource, hsound, by simp [hversion]⟩, ?_⟩
    · simp [BackupStep.made, *]
    · rw [← (Prod.mk.inj hlast).2]
      simp
  · rintro ⟨h, rfl⟩
    obtain ⟨version, hversion⟩ := Option.isSome_iff_exists.mp h.version
    have hcalls := h.calls
    simp only [BackupStep.made, List.forall_mem_cons] at hcalls
    obtain ⟨hcheck, hmkdir, hcopy, hchmod, hopen, hcheckCopy, hrename, hstat, hread, hversionStep,
      -⟩ := hcalls
    refine ⟨(), _, ⟨hcheck, h.sourceSound, rfl⟩, (), _, ⟨hmkdir, rfl⟩, (), _, ⟨hcopy, rfl⟩, (), _,
      ⟨hchmod, _, Function.update_self .., rfl⟩, (), _, ⟨env.backup source, _, ⟨hopen, ?_, rfl⟩,
      hcheckCopy, h.copySound, rfl⟩, (), _, ⟨hrename, _, Function.update_self .., rfl⟩, (), _,
      ⟨hstat, rfl⟩, (), _, ⟨hread, rfl⟩, version, _, ⟨hversionStep, hversion, rfl⟩, ?_⟩
    · simp
    · simp

/-! ### What is kept whatever fails -/

section Keeps

variable {I : RestoreDisk δ → Prop}

lemma keeps_call : Keeps I (call env step) fun _ => True := Keeps.weaken Keeps.throwIf fun _ _ => trivial

lemma keeps_openDatabase : Keeps I (openDatabase env step path) fun _ => True := by
  refine Keeps.bind keeps_call fun _ _ => Keeps.bind (Keeps.reads (Q := fun _ => True) fun _ _ => trivial) fun _ _ => ?_
  exact Keeps.weaken Keeps.orThrow fun _ _ => trivial

lemma keeps_requireDatabaseIntegrity {content : δ} :
    Keeps I (requireDatabaseIntegrity env step content) fun _ => True := by
  refine Keeps.bind keeps_call fun _ _ => Keeps.bind Keeps.throwIf fun _ _ => ?_
  exact Keeps.weaken Keeps.throwIf fun _ _ => trivial

lemma keeps_requireDatabaseFileIntegrity {opening checking : RestoreStep} :
    Keeps I (requireDatabaseFileIntegrity env opening checking path) fun _ => True :=
  Keeps.bind keeps_openDatabase fun _ _ => keeps_requireDatabaseIntegrity

lemma keeps_userVersion {content : δ} : Keeps I (userVersion env step content) fun _ => True :=
  Keeps.bind keeps_call fun _ _ => Keeps.weaken Keeps.orThrow fun _ _ => trivial

lemma keeps_chmod {mode : Nat}
    (h : ∀ d file, I d → d path = some file → I (Function.update d path (some { file with mode := mode }))) :
    Keeps I (chmod env step path mode) fun _ => True := by
  refine Keeps.bind keeps_call fun _ _ => Triple.of_world fun d hd => Triple.bind_reads ?_
  refine Triple.bind_orThrow (fun _ _ hw => hw ▸ hd) fun file hfile => ?_
  exact Triple.writes fun _ hw => hw ▸ ⟨h d file hd hfile, trivial⟩

lemma keeps_rm (h : ∀ d, I d → I (Function.update d path none)) :
    Keeps I (rm env step path) fun _ => True :=
  Keeps.bind keeps_call fun _ _ => Keeps.writes h

lemma keeps_rename {source target : RestorePath}
    (h : ∀ d file, I d → d source = some file →
      I (Function.update (Function.update d source none) target (some file))) :
    Keeps I (rename env step source target) fun _ => True := by
  refine Keeps.bind keeps_call fun _ _ => Triple.of_world fun d hd => Triple.bind_reads ?_
  refine Triple.bind_orThrow (fun _ _ hw => hw ▸ hd) fun file hfile => ?_
  exact Triple.writes fun _ hw => hw ▸ ⟨h d file hd hfile, trivial⟩

lemma keeps_copyDatabase {source : δ} (h : ∀ d file, I d → I (Function.update d path file)) :
    Keeps I (copyDatabase env step source path) fun _ => True := by
  refine Keeps.ite (fun _ => ?_) fun _ => Keeps.writes fun d hd => h d _ hd
  exact Keeps.bind (Keeps.writes fun d hd => h d _ hd) fun _ _ => Keeps.raise

lemma keeps_createVerifiedBackup {step : BackupStep → RestoreStep} {source : δ}
    {destination temporary : RestorePath}
    (htemporary : ∀ d file, I d → I (Function.update d temporary file))
    (hdestination : ∀ d file, I d → I (Function.update d destination file)) :
    Keeps I (createVerifiedBackup env step source destination temporary) fun _ => True := by
  refine Keeps.bind keeps_requireDatabaseIntegrity fun _ _ => Keeps.bind keeps_call fun _ _ => ?_
  refine Triple.onThrow (R := fun _ => I) ?_ fun _ =>
    Triple.post (keeps_rm fun d hd => htemporary d none hd) fun _ _ hw => hw.1
  refine Keeps.bind (keeps_copyDatabase htemporary) fun _ _ => ?_
  refine Keeps.bind (keeps_chmod fun d _ hd _ => htemporary d _ hd) fun _ _ => ?_
  refine Keeps.bind keeps_requireDatabaseFileIntegrity fun _ _ => ?_
  refine Keeps.bind (keeps_rename fun d _ hd _ => hdestination _ _ (htemporary d none hd)) fun _ _ => ?_
  refine Keeps.bind keeps_call fun _ _ => Keeps.bind keeps_call fun _ _ => ?_
  exact Keeps.bind keeps_userVersion fun _ _ => Keeps.pure trivial

/-- **Nothing that comes before the moves touches the database.** -/
lemma keeps_prepareRestore {file : Option (DatabaseFile δ)} {source : δ} :
    Keeps (fun d => d .database = file) (prepareRestore env source) fun _ => True := by
  have helsewhere : ∀ path ≠ RestorePath.database, ∀ (d : RestoreDisk δ) other,
      d .database = file → Function.update d path other .database = file := fun path hpath d other hd => by
    rw [Function.update_of_ne hpath.symm, hd]
  refine Keeps.bind keeps_requireDatabaseIntegrity fun _ _ => Keeps.bind keeps_userVersion fun _ _ => ?_
  refine Keeps.bind Keeps.throwIf fun _ _ => Keeps.bind (Keeps.reads (Q := fun _ => True) fun _ _ => trivial) fun _ _ => ?_
  have hrestoring : Keeps (fun d => d .database = file)
      (createVerifiedBackup env .restoring source .restoreTemporary .restoreTemporaryTmp) fun _ => True :=
    keeps_createVerifiedBackup (helsewhere _ (by decide)) (helsewhere _ (by decide))
  refine Keeps.ite (fun _ => ?_) fun _ => Keeps.bind hrestoring fun _ _ => Keeps.pure trivial
  refine Keeps.bind keeps_openDatabase fun _ _ => Keeps.bind keeps_requireDatabaseIntegrity fun _ _ => ?_
  refine Keeps.bind (keeps_createVerifiedBackup (helsewhere _ (by decide)) (helsewhere _ (by decide)))
    fun _ _ => ?_
  exact Keeps.bind hrestoring fun _ _ => Keeps.pure trivial

end Keeps

/-! ### What the preparation takes -/

/-- What it takes to come to the moves, when the backup has been opened. -/
structure Prepares (env : RestoreEnv δ) (d : RestoreDisk δ) (source : δ) (version : Nat) : Prop where
  check : env.fails .checkSource = false
  sourceSound : sound env source
  readVersion : env.fails .readVersion = false
  readsVersion : env.userVersion source = some version
  supported : 1 ≤ version ∧ version ≤ DATABASE_SCHEMA_VERSION
  current : ∀ file, d .database = some file → env.fails .openCurrent = false
    ∧ env.fails .checkCurrent = false ∧ sound env file.content
    ∧ BackupSucceeds env .safety file.content
  restoring : BackupSucceeds env .restoring source

lemma exec_backups {source : δ} : (createVerifiedBackup env .restoring source
      .restoreTemporary .restoreTemporaryTmp).exec d = (.ok u, d')
    → BackupSucceeds env .restoring source ∧ d' .database = d .database
      ∧ d' .restoreTemporary = some ⟨env.backup source, 0o600⟩ := by
  intro h
  obtain ⟨hsucceeds, rfl⟩ := exec_createVerifiedBackup.mp h
  exact ⟨hsucceeds, by simp, by simp⟩

variable {replaces : Bool}

/-- **What the preparation returned from**, and what it leaves. -/
lemma prepareRestore_ok {source : δ}
    (h : (prepareRestore env source).exec d = (.ok (version, replaces), d')) :
    Prepares env d source version ∧ replaces = (d .database).isSome
      ∧ d' .database = d .database
      ∧ d' .restoreTemporary = some ⟨env.backup source, 0o600⟩ := by
  rw [prepareRestore] at h
  obtain ⟨_, _, hexec, hchecked⟩ := exec_bind_eq_ok.mp h
  obtain ⟨hcheck, hsound, rfl⟩ := exec_requireDatabaseIntegrity.mp hexec
  obtain ⟨found, _, hexecVersion, hread⟩ := exec_bind_eq_ok.mp hchecked
  obtain ⟨hreadVersion, hversion, rfl⟩ := exec_userVersion.mp hexecVersion
  obtain ⟨hsupported, hbackups⟩ := exec_throwIf_bind_eq_ok.mp hread
  rw [exec_reads_bind] at hbackups
  have hrange : 1 ≤ found ∧ found ≤ DATABASE_SCHEMA_VERSION := by omega
  cases hfile : d .database with
  | none =>
    rw [hfile, Option.isSome_none, if_neg (by decide)] at hbackups
    obtain ⟨_, _, hbackup, hlast⟩ := exec_bind_eq_ok.mp hbackups
    obtain ⟨hrestoring, hdatabase, hstaged⟩ := exec_backups hbackup
    obtain ⟨hresult, rfl⟩ := Prod.mk.inj hlast
    obtain ⟨rfl, rfl⟩ := Prod.mk.inj (Except.ok.inj hresult)
    refine ⟨⟨hcheck, hsound, hreadVersion, hversion, hrange, fun file hsome => ?_, hrestoring⟩, rfl,
      hdatabase.trans hfile, hstaged⟩
    rw [hfile] at hsome
    cases hsome
  | some file =>
    rw [hfile, Option.isSome_some, if_pos rfl] at hbackups
    obtain ⟨content, _, hexecOpen, hopened⟩ := exec_bind_eq_ok.mp hbackups
    obtain ⟨hopen, hcontent, rfl⟩ := exec_openDatabase.mp hexecOpen
    obtain ⟨_, _, hexecCurrent, hcurrentChecked⟩ := exec_bind_eq_ok.mp hopened
    obtain ⟨hcurrent, hcurrentSound, rfl⟩ := exec_requireDatabaseIntegrity.mp hexecCurrent
    obtain ⟨_, _, hexecSafety, hrest⟩ := exec_bind_eq_ok.mp hcurrentChecked
    obtain ⟨hsafety, rfl⟩ := exec_createVerifiedBackup.mp hexecSafety
    obtain ⟨_, _, hbackup, hlast⟩ := exec_bind_eq_ok.mp hrest
    obtain ⟨hrestoring, hdatabase, hstaged⟩ := exec_backups hbackup
    obtain ⟨hresult, rfl⟩ := Prod.mk.inj hlast
    obtain ⟨rfl, rfl⟩ := Prod.mk.inj (Except.ok.inj hresult)
    rw [hfile] at hcontent
    obtain rfl : file.content = content := Option.some.inj hcontent
    refine ⟨⟨hcheck, hsound, hreadVersion, hversion, hrange, fun other hother => ?_, hrestoring⟩,
      rfl, by simpa [hfile] using hdatabase, hstaged⟩
    obtain rfl : file = other := Option.some.inj (hfile.symm.trans hother)
    exact ⟨hopen, hcurrent, hcurrentSound, hsafety⟩

/-- The preparation returns where it can. -/
lemma Prepares.exec {source : δ} (h : Prepares env d source version) :
    ∃ d', (prepareRestore env source).exec d = (.ok (version, (d .database).isSome), d') := by
  have hrestoring : ∀ d : RestoreDisk δ, ∃ d', (createVerifiedBackup env .restoring source
      .restoreTemporary .restoreTemporaryTmp).exec d = (.ok (), d') := fun d =>
    ⟨_, exec_createVerifiedBackup.mpr ⟨h.restoring, rfl⟩⟩
  have hcheck : (requireDatabaseIntegrity env .checkSource source).exec d = (.ok (), d) :=
    exec_requireDatabaseIntegrity.mpr ⟨h.check, h.sourceSound, rfl⟩
  have hversion : (userVersion env .readVersion source).exec d = (.ok version, d) :=
    exec_userVersion.mpr ⟨h.readVersion, h.readsVersion, rfl⟩
  have hsupported : ¬(version < 1 ∨ DATABASE_SCHEMA_VERSION < version) := by
    have := h.supported
    omega
  rw [prepareRestore, exec_bind_ok hcheck, exec_bind_ok hversion, throwIf, if_neg hsupported, pure_bind,
    exec_reads_bind]
  cases hfile : d .database with
  | none =>
    obtain ⟨d', hd'⟩ := hrestoring d
    rw [Option.isSome_none, if_neg (by decide)]
    exact ⟨d', by rw [exec_bind_ok hd', exec_pure]⟩
  | some file =>
    obtain ⟨hopen, hcurrent, hsound, hsafety⟩ := h.current file hfile
    have hopened : (openDatabase env .openCurrent .database).exec d = (.ok file.content, d) :=
      exec_openDatabase.mpr ⟨hopen, by rw [hfile]; rfl, rfl⟩
    have hchecked : (requireDatabaseIntegrity env .checkCurrent file.content).exec d = (.ok (), d) :=
      exec_requireDatabaseIntegrity.mpr ⟨hcurrent, hsound, rfl⟩
    have hsaved : (createVerifiedBackup env .safety file.content .safety .safetyTemporary).exec d
        = (.ok (), Function.update (Function.update d .safetyTemporary none) .safety
          (some ⟨env.backup file.content, 0o600⟩)) :=
      exec_createVerifiedBackup.mpr ⟨hsafety, rfl⟩
    obtain ⟨d', hd'⟩ := hrestoring (Function.update (Function.update d .safetyTemporary none) .safety
      (some ⟨env.backup file.content, 0o600⟩))
    rw [Option.isSome_some, if_pos rfl, exec_bind_ok hopened, exec_bind_ok hchecked,
      exec_bind_ok hsaved]
    exact ⟨d', by rw [exec_bind_ok hd', exec_pure]⟩

/-! ### The moves -/

/-- The database has the content. -/
def Holds (content : δ) (d : RestoreDisk δ) : Prop :=
  (d .database).map DatabaseFile.content = some content

/-- When the content is in place, it stays. -/
lemma keeps_placed {content : δ} : Keeps (Holds content) (do
      if replaces then rm env .removeReplaced .replaced
      chmod env .chmod .database 0o600
      requireDatabaseFileIntegrity env .openRestored .checkRestored .database) fun _ => True := by
  have hlast : Keeps (Holds content) (do
      chmod env .chmod .database 0o600
      requireDatabaseFileIntegrity env .openRestored .checkRestored .database) fun _ => True := by
    refine Keeps.bind (keeps_chmod fun d file hd hfile => ?_) fun _ _ => keeps_requireDatabaseFileIntegrity
    rw [Holds, hfile] at hd
    rw [Holds, Function.update_self]
    exact hd
  refine Keeps.ite (fun _ => Keeps.bind (keeps_rm fun d hd => ?_) fun _ _ => hlast) fun _ => hlast
  rwa [Holds, Function.update_of_ne (by decide)]

/-- The move into place, and back if it fails. -/
def moveIntoPlace (env : RestoreEnv δ) (replaces : Bool) : Restore δ Unit :=
  onThrow (rename env .renameIntoPlace .restoreTemporary .database)
    (if replaces then rename env .renameBack .replaced .database else pure ())

variable {file : DatabaseFile δ}

/-- The move into place, from a disk where it can be made. -/
lemma exec_moveIntoPlace (hstaged : d .restoreTemporary = some file)
    (hfails : env.fails .renameIntoPlace = false) :
    (moveIntoPlace env replaces).exec d = (.ok (), Function.update
      (Function.update d .restoreTemporary none) .database (some file)) :=
  exec_onThrow_eq_ok.mpr (exec_rename.mpr ⟨hfails, file, hstaged, rfl⟩)

/-- The move into place that fails, where nothing was moved aside. -/
lemma exec_moveIntoPlace_fails (hfails : env.fails .renameIntoPlace = true) :
    (moveIntoPlace env false).exec d = (.error .io, d) := by
  rw [moveIntoPlace, exec_onThrow, exec_rename_of_fails hfails]
  rfl

lemma exec_moveIntoPlace_back {old : DatabaseFile δ} (hfails : env.fails .renameIntoPlace = true)
    (hback : env.fails .renameBack = false) (hreplaced : d .replaced = some old) :
    (moveIntoPlace env true).exec d
      = (.error .io, Function.update (Function.update d .replaced none) .database (some old)) := by
  rw [moveIntoPlace, exec_onThrow, exec_rename_of_fails hfails]
  simp only [if_true]
  rw [exec_rename (u := ()).mpr ⟨hback, old, hreplaced, rfl⟩]

lemma exec_moveIntoPlace_neither (hfails : env.fails .renameIntoPlace = true)
    (hback : env.fails .renameBack = true) : (moveIntoPlace env true).exec d = (.error .io, d) := by
  rw [moveIntoPlace, exec_onThrow, exec_rename_of_fails hfails]
  simp only [if_true]
  rw [exec_rename_of_fails hback]

/-- The moves after the old database is out of the way. -/
def placeAside (env : RestoreEnv δ) (replaces : Bool) : Restore δ Unit := do
  moveIntoPlace env replaces
  if replaces then rm env .removeReplaced .replaced
  chmod env .chmod .database 0o600
  requireDatabaseFileIntegrity env .openRestored .checkRestored .database

lemma exec_placeAside_error {e : RestoreError}
    (h : (moveIntoPlace env replaces).exec d = (.error e, d')) :
    ((placeAside env replaces).exec d) = (.error e, d') := by
  rw [placeAside, exec_bind, h]

lemma placeAside_holds (hstaged : d .restoreTemporary = some file)
    (hfails : env.fails .renameIntoPlace = false) :
    Holds file.content ((placeAside env replaces).exec d).2 := by
  rw [placeAside, exec_bind_ok (exec_moveIntoPlace hstaged hfails)]
  exact keeps_placed.world (by rw [Holds, Function.update_self]; rfl)

/-- Neither the restored database can be moved into place nor the old one back. -/
def LosesBoth (env : RestoreEnv δ) (d : RestoreDisk δ) : Prop :=
  (d .database).isSome = true ∧ env.fails .renameAside = false
    ∧ env.fails .renameIntoPlace = true ∧ env.fails .renameBack = true

lemma exec_placeRestored_aside {old : DatabaseFile δ} (haside : env.fails .renameAside = false)
    (hold : d .database = some old) : (placeRestored env true).exec d
      = (placeAside env true).exec (Function.update (Function.update d .database none) .replaced
        (some old)) := by
  have hmoves : placeRestored env true = (do
      rename env .renameAside .database .replaced
      placeAside env true) := rfl
  rw [hmoves, exec_bind_ok (exec_rename (u := ()).mpr ⟨haside, old, hold, rfl⟩)]

/-- **What the moves leave** if neither database can be moved: nothing. -/
lemma placeRestored_loses (h : LosesBoth env d) :
    ((placeRestored env (d .database).isSome).exec d).2 .database = none := by
  obtain ⟨hsome, haside, hplace, hback⟩ := h
  obtain ⟨old, hold⟩ := Option.isSome_iff_exists.mp hsome
  rw [hsome, exec_placeRestored_aside haside hold,
    exec_placeAside_error (exec_moveIntoPlace_neither hplace hback)]
  simp

/-- **What the moves leave** otherwise: the database that was there or the one that was made. -/
lemma placeRestored_keeps (hstaged : d .restoreTemporary = some file) (h : ¬LosesBoth env d) :
    ((placeRestored env (d .database).isSome).exec d).2 .database = d .database
      ∨ Holds file.content ((placeRestored env (d .database).isSome).exec d).2 := by
  cases hold : d .database with
  | none =>
    have hmoves : placeRestored env (none : Option (DatabaseFile δ)).isSome = placeAside env false := rfl
    rw [hmoves]
    cases hplace : env.fails .renameIntoPlace with
    | true =>
      rw [exec_placeAside_error (exec_moveIntoPlace_fails hplace)]
      exact .inl hold
    | false => exact .inr (placeAside_holds hstaged hplace)
  | some old =>
    rw [Option.isSome_some]
    cases haside : env.fails .renameAside with
    | true =>
      have hmoves : placeRestored env true = (do
          rename env .renameAside .database .replaced
          placeAside env true) := rfl
      rw [hmoves, exec_bind, exec_rename_of_fails haside]
      exact .inl hold
    | false =>
      rw [exec_placeRestored_aside haside hold]
      cases hplace : env.fails .renameIntoPlace with
      | false => exact .inr (placeAside_holds (by simpa using hstaged) hplace)
      | true =>
        have hback : env.fails .renameBack = false := by
          by_contra hback
          exact h ⟨by rw [hold]; rfl, haside, hplace, Bool.eq_true_of_not_eq_false hback⟩
        rw [exec_placeAside_error (exec_moveIntoPlace_back hplace hback (Function.update_self ..))]
        exact .inl (by simp)

/-- When the moves return, the database that was made is there. -/
lemma placeRestored_ok (hstaged : d .restoreTemporary = some file)
    (h : (placeRestored env (d .database).isSome).exec d = (.ok u, d')) :
    Holds file.content d' := by
  have haside : ∀ {replaces : Bool} {d₁ : RestoreDisk δ}, d₁ .restoreTemporary = some file →
      (placeAside env replaces).exec d₁ = (.ok u, d') → Holds file.content d' := by
    intro replaces d₁ hstaged hplace
    obtain ⟨_, _, hmove, -⟩ := exec_bind_eq_ok.mp hplace
    have hfails := (exec_rename.mp (exec_onThrow_eq_ok.mp hmove)).1
    have hholds : Holds file.content ((placeAside env replaces).exec d₁).2 :=
      placeAside_holds hstaged hfails
    rwa [hplace] at hholds
  cases hold : d .database with
  | none =>
    rw [hold] at h
    exact haside hstaged h
  | some old =>
    rw [hold] at h
    obtain ⟨_, _, hmove, hrest⟩ := exec_bind_eq_ok.mp h
    obtain ⟨-, moved, -, rfl⟩ := exec_rename.mp hmove
    exact haside (by simpa using hstaged) hrest

/-! ### The restore -/

/-- The `try` block of the restore. -/
def restoreFrom (env : RestoreEnv δ) (input : RestoreInput) (source : δ) :
    Restore δ StructuredMemoryRestoreReport := do
  let (restoredSchemaVersion, replaces) ← prepareRestore env source
  placeRestored env replaces
  return ⟨restoredSchemaVersion, replaces, input.restoredAt⟩

/-- The database is a checked copy of the backup. -/
def Restored (env : RestoreEnv δ) (source : δ) (d : RestoreDisk δ) : Prop :=
  sound env (env.backup source) ∧ Holds (env.backup source) d

variable {input : RestoreInput}

lemma exec_restoreFrom {source : δ} {d₁ : RestoreDisk δ}
    (h : (prepareRestore env source).exec d = (.ok (version, (d .database).isSome), d₁))
    (hdatabase : d₁ .database = d .database) :
    ((restoreFrom env input source).exec d).2
      = ((placeRestored env (d₁ .database).isSome).exec d₁).2 := by
  rw [restoreFrom, exec_bind_ok h, exec_bind, hdatabase]
  rcases (placeRestored env (d .database).isSome).exec d₁ with ⟨e | u, v⟩ <;> rfl

lemma LosesBoth.of_database {d₁ : RestoreDisk δ} (h : d₁ .database = d .database) :
    LosesBoth env d₁ ↔ LosesBoth env d := by
  rw [LosesBoth, LosesBoth, h]

/-- The `try` block loses both databases if it comes to the moves and they fail. -/
lemma restoreFrom_loses {source : δ} (hprepares : Prepares env d source version)
    (h : LosesBoth env d) : ((restoreFrom env input source).exec d).2 .database = none := by
  obtain ⟨d₁, hd₁⟩ := hprepares.exec
  obtain ⟨-, -, hdatabase, -⟩ := prepareRestore_ok hd₁
  rw [exec_restoreFrom hd₁ hdatabase]
  exact placeRestored_loses ((LosesBoth.of_database hdatabase).mpr h)

/-- Otherwise it leaves the one that was there or the restored one. -/
lemma restoreFrom_keeps {source : δ}
    (h : ¬((∃ version, Prepares env d source version) ∧ LosesBoth env d)) :
    ((restoreFrom env input source).exec d).2 .database = d .database
      ∨ Restored env source ((restoreFrom env input source).exec d).2 := by
  rcases hprepare : (prepareRestore env source).exec d with ⟨e | ⟨version, replaces⟩, d₁⟩
  · have hkeeps : Keeps (fun w => w .database = d .database) (prepareRestore env source)
        fun _ => True := keeps_prepareRestore
    rw [restoreFrom, exec_bind, hprepare]
    exact .inl (hkeeps.error rfl hprepare)
  · obtain ⟨hprepares, rfl, hdatabase, hstaged⟩ := prepareRestore_ok hprepare
    rw [exec_restoreFrom hprepare hdatabase, ← hdatabase]
    have hnot : ¬LosesBoth env d₁ := fun hboth =>
      h ⟨⟨version, hprepares⟩, (LosesBoth.of_database hdatabase).mp hboth⟩
    exact (placeRestored_keeps hstaged hnot).imp_right fun hholds =>
      ⟨hprepares.restoring.copySound, hholds⟩

/-- When it returns, the restored one is there. -/
lemma restoreFrom_ok {source : δ} {report : StructuredMemoryRestoreReport}
    (h : (restoreFrom env input source).exec d = (.ok report, d')) : Restored env source d' := by
  obtain ⟨⟨version, replaces⟩, d₁, hprepare, hrest⟩ := exec_bind_eq_ok.mp h
  obtain ⟨hprepares, rfl, hdatabase, hstaged⟩ := prepareRestore_ok hprepare
  obtain ⟨_, d₂, hplace, hlast⟩ := exec_bind_eq_ok.mp hrest
  obtain ⟨-, rfl⟩ := Prod.mk.inj hlast
  rw [← hdatabase] at hplace
  exact ⟨hprepares.restoring.copySound, placeRestored_ok hstaged hplace⟩

/-- What it takes for a restore to come to the moves. -/
structure ReachesMoves (env : RestoreEnv δ) (input : RestoreInput) (d : RestoreDisk δ) : Prop where
  input : input.confirmed = true ∧ isTimestamp env.parseDate input.restoredAt = true
    ∧ input.databasePath ≠ input.backupPath
  noJournal : d .databaseWal = none ∧ d .databaseShm = none
  openSource : env.fails .openSource = false
  source : ∃ file version, d .backup = some file ∧ Prepares env d file.content version

/-- A restore that throws before its `try` block changes nothing; else it is that block, and the
removal of the temporary file. -/
lemma exec_restore (env : RestoreEnv δ) (input : RestoreInput) (d : RestoreDisk δ) :
    (∃ e, (restoreStructuredTaskMemoryBackup env input).exec d = (.error e, d)
        ∧ ¬ReachesMoves env input d)
      ∨ ∃ file, d .backup = some file ∧ ((∃ version, Prepares env d file.content version) ↔
          ReachesMoves env input d)
        ∧ (restoreStructuredTaskMemoryBackup env input).exec d
          = (ensuring (restoreFrom env input file.content)
            (rm env .removeRestoreTemporary .restoreTemporary)).exec d := by
  rw [restoreStructuredTaskMemoryBackup]
  by_cases hinput : input.confirmed = false ∨ isTimestamp env.parseDate input.restoredAt = false
      ∨ input.databasePath = input.backupPath
  · refine .inl ⟨_, by rw [throwIf, if_pos hinput]; rfl, fun h => ?_⟩
    obtain ⟨hconfirmed, htimestamp, hpath⟩ := h.input
    simp [hconfirmed, htimestamp, hpath] at hinput
  rw [throwIf, if_neg hinput, pure_bind, exec_reads_bind]
  by_cases hjournal : ((d .databaseWal).isSome || (d .databaseShm).isSome) = true
  · refine .inl ⟨_, by rw [throwIf, if_pos hjournal]; rfl, fun h => ?_⟩
    simp [h.noJournal] at hjournal
  rw [throwIf, if_neg hjournal, pure_bind]
  cases hopen : env.fails .openSource with
  | true =>
    refine .inl ⟨.io, ?_, fun h => ?_⟩
    · simp [openDatabase, call, throwIf, hopen, exec_bind]
    · rw [h.openSource] at hopen
      cases hopen
  | false =>
    cases hfile : d .backup with
    | none =>
      refine .inl ⟨.io, ?_, fun h => ?_⟩
      · simp [openDatabase, call, throwIf, hopen, exec_bind, hfile, orThrow]
      · obtain ⟨file, version, hbackup, -⟩ := h.source
        rw [hfile] at hbackup
        cases hbackup
    | some file =>
      have hopened : (openDatabase env .openSource .backup).exec d = (.ok file.content, d) :=
        exec_openDatabase.mpr ⟨hopen, by rw [hfile]; rfl, rfl⟩
      refine .inr ⟨file, rfl, ?_, by rw [exec_bind_ok hopened]; rfl⟩
      constructor
      · rintro ⟨version, hprepares⟩
        rw [not_or, not_or] at hinput
        refine ⟨⟨by simpa using hinput.1, by simpa using hinput.2.1, hinput.2.2⟩,
          by simpa using hjournal, hopen, file, version, hfile, hprepares⟩
      · rintro ⟨-, -, -, other, version, hother, hprepares⟩
        obtain rfl : file = other := Option.some.inj (hfile.symm.trans hother)
        exact ⟨version, hprepares⟩

end

/-- The database is the one that was there before, or a checked copy of the backup. -/
def OldOrRestored (env : RestoreEnv δ) (before after : RestoreDisk δ) : Prop :=
  after .database = before .database
    ∨ ∃ file, before .backup = some file ∧ Restored env file.content after

/-- **When a restore is atomic**: whatever fails, the database is afterwards the one that was
there before or the restored and checked one, if and only if the restore does not come to the
moves, or nothing is there to be replaced, or one of the three moves goes the other way.  When
the restore returns, the database is the restored one. -/
theorem restore_atomic (input : RestoreInput) (d : RestoreDisk δ) :
    (OldOrRestored env d ((restoreStructuredTaskMemoryBackup env input).exec d).2
        ↔ ¬(ReachesMoves env input d ∧ LosesBoth env d))
      ∧ ∀ report d', (restoreStructuredTaskMemoryBackup env input).exec d = (.ok report, d') →
        ∃ file, d .backup = some file ∧ Restored env file.content d' := by
  have hkeeps : ∀ d₁ : RestoreDisk δ,
      ((rm env .removeRestoreTemporary .restoreTemporary).exec d₁).2 .database = d₁ .database := by
    intro d₁
    have h : Keeps (fun w : RestoreDisk δ => w .database = d₁ .database)
        (rm env .removeRestoreTemporary .restoreTemporary) fun _ => True :=
      keeps_rm fun w hw => by rw [Function.update_of_ne (by decide), hw]
    exact h.world rfl
  rcases exec_restore env input d with ⟨e, hexec, hnot⟩ | ⟨file, hfile, hreaches, hexec⟩
  · rw [hexec]
    exact ⟨⟨fun _ h => hnot h.1, fun _ => .inl rfl⟩, fun _ _ h => by cases (Prod.mk.inj h).1⟩
  · rw [hexec, exec_ensuring, ← hreaches]
    constructor
    · constructor
      · rintro hone ⟨⟨version, hprepares⟩, hboth⟩
        have hnone : ((restoreFrom env input file.content).exec d).2 .database = none :=
          restoreFrom_loses hprepares hboth
        have hlast := (hkeeps _).trans hnone
        rcases hone with hold | ⟨_, -, -, hholds⟩
        · have hsome := hboth.1
          rw [← hold, hlast] at hsome
          cases hsome
        · rw [Holds, hlast] at hholds
          cases hholds
      · intro h
        have hkept : ((restoreFrom env input file.content).exec d).2 .database = d .database
            ∨ Restored env file.content ((restoreFrom env input file.content).exec d).2 :=
          restoreFrom_keeps h
        rcases hkept with hold | ⟨hsound, hholds⟩
        · exact .inl ((hkeeps _).trans hold)
        · refine .inr ⟨file, hfile, hsound, ?_⟩
          rw [Holds, hkeeps]
          exact hholds
    · intro report d' h
      obtain ⟨hreport, rfl⟩ := Prod.mk.inj h
      obtain ⟨hsound, hholds⟩ := restoreFrom_ok (Prod.ext hreport rfl)
      refine ⟨file, hfile, hsound, ?_⟩
      rw [Holds, hkeeps]
      exact hholds

/-! ### A restore that fails twice -/

/-- Contents that are numbers, each of them sound, and their own version. -/
def numberedEnv (fails : List RestoreStep) : RestoreEnv Nat where
  parseDate := dateParse
  integrityOk := fun _ => true
  foreignKeysOk := fun _ => true
  userVersion := fun _ => some 4
  backup := id
  fails := fun step => fails.contains step
  torn := fun _ => none

/-- The database 1, and the backup 2. -/
def numberedDisk : RestoreDisk Nat
  | .database => some ⟨1, 0o600⟩
  | .backup => some ⟨2, 0o600⟩
  | _ => none

def numberedInput : RestoreInput where
  databasePath := "memory.sqlite"
  backupPath := "backup.sqlite"
  confirmed := true
  restoredAt := JsString.ofString "2026-08-20T02:00:00.000Z"

/-- The restored database cannot be moved into place, nor the old one back: no database is
left under the path. -/
theorem restore_loses_database :
    ¬OldOrRestored (numberedEnv [.renameIntoPlace, .renameBack]) numberedDisk
      ((restoreStructuredTaskMemoryBackup (numberedEnv [.renameIntoPlace, .renameBack])
        numberedInput).exec numberedDisk).2 := by
  have hnone : ((restoreStructuredTaskMemoryBackup
      (numberedEnv [.renameIntoPlace, .renameBack]) numberedInput).exec numberedDisk).2 .database
        = none := by
    have : (((restoreStructuredTaskMemoryBackup (numberedEnv [.renameIntoPlace, .renameBack])
        numberedInput).exec numberedDisk).2 .database).isNone = true := by decide +kernel
    exact Option.isNone_iff_eq_none.mp this
  rintro (hold | ⟨file, -, -, hholds⟩)
  · rw [hnone] at hold
    cases hold
  · rw [Holds, hnone] at hholds
    cases hholds

end TetiBot.Memory

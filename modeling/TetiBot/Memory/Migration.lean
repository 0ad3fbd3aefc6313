import TetiBot.Memory.Restore
import TetiBot.Memory.Schema
import TetiBot.Memory.Types

/-
The migrations of the structured memory (`runtime/memory/structured-task-sqlite.ts`, `open`).

* `Opening`: the database, the clock, and how many more transactions commit before the
  process ends.
* `migrateSchema`: the part of `open` that creates the schema or brings it up to date.
* `Admitted n`: the objects of version `n`, with any rows, and the evidence of the migrations
  up to `n`.
* `Upgraded`: what the statements of one version leave; `migrationV4_succeeds` follows them
  through the table of another name.
* `migration_succeeds`: a migration takes an admitted database to the next version, and keeps
  the rows of its tables.
-/

namespace TetiBot.Memory

open Library Library.JsString Library.Program

/-! ### Opening -/

/-- `digest` of the text of statements. -/
abbrev SchemaDigest : Type := List Statement → JsString

inductive OpenFailure
  /-- The process ends. -/
  | stopped
  | sql (error : SqlError)
  | backup
  | message (message : String)
  deriving DecidableEq

inductive MigrationStatus
  | created | migrated | current | futureSchemaReadOnly
  deriving DecidableEq

/-- The database file and the process that opens it: what `now()` gives when the migration to
a version starts, after how many more commits the process ends, if it does, and whether a
verified backup can be made. -/
structure Opening where
  database : SqlDatabase
  clock : Nat → TimeText
  commits : Option Nat := none
  backup : Bool := true

abbrev OpenProgram (α : Type) : Type := Program OpenFailure Opening α

/-- `INSERT INTO schema_migrations (version, applied_at, checksum) VALUES (?, ?, ?)`. -/
def insertEvidence (version : Nat) (appliedAt : TimeText) (checksum : JsString) : Statement :=
  .insertValues "schema_migrations" ["version", "applied_at", "checksum"]
    [[.integer version, .text appliedAt, .text checksum]]

/-- `INSERT INTO runtime_metadata (key, value) VALUES ('feature_enabled_at', ?)`. -/
def insertFeatureEnabledAt (appliedAt : TimeText) : Statement :=
  .insertValues "runtime_metadata" ["key", "value"]
    [[.text (ofString "feature_enabled_at"), .text appliedAt]]

/-- `BEGIN IMMEDIATE`, statements, `COMMIT`, or else `ROLLBACK`. -/
def commit (statements : List Statement) : OpenProgram Unit := do
  let opening ← reads id
  throwIf (opening.commits = some 0) .stopped
  let database ← fromExcept ((transaction statements opening.database).mapError .sql)
  writes fun opening => { opening with database, commits := opening.commits.map (· - 1) }

/-- `userVersion`. -/
def databaseUserVersion : OpenProgram Nat := reads (·.database.shape.userVersion)

variable (digest : SchemaDigest)

def createSchemaV1 : OpenProgram Unit := do
  let appliedAt ← reads (·.clock 1)
  commit (DATABASE_SCHEMA_V1_SQL ++ [insertEvidence 1 appliedAt (digest DATABASE_SCHEMA_V1_SQL),
    insertFeatureEnabledAt appliedAt, .setUserVersion 1])

/-- The body that the migrations share. -/
def migrateTo (version : Nat) (sql : List Statement) : OpenProgram Unit := do
  let appliedAt ← reads (·.clock version)
  commit (sql ++ [insertEvidence version appliedAt (digest sql), .setUserVersion version])

def migrateToV2 : OpenProgram Unit := migrateTo digest 2 DATABASE_MIGRATION_V2_SQL
def migrateToV3 : OpenProgram Unit := migrateTo digest 3 DATABASE_MIGRATION_V3_SQL
def migrateToV4 : OpenProgram Unit := migrateTo digest 4 DATABASE_MIGRATION_V4_SQL

/-- The backup goes to another file. -/
def createPreMigrationBackup : OpenProgram Unit := do
  let opening ← reads id
  throwIf (opening.backup = false) .backup

/-- The version and the checksum in a row of `schema_migrations`. -/
def evidenceOf (row : Row) : SqlValue × SqlValue :=
  (schemaMigrations.value row "version", schemaMigrations.value row "checksum")

def requireMigrationEvidence (version : Nat) (sql : List Statement) : OpenProgram Unit := do
  let opening ← reads id
  throwIf ((opening.database.shape.schema? "schema_migrations").isNone) (.sql .object)
  let migration := ((opening.database.rows "schema_migrations").map evidenceOf).find? fun migration =>
    migration.1 = .integer version
  throwIf (migration.map (·.2) ≠ some (.text (digest sql)))
    (.message "Structured task memory schema evidence is invalid.")

/-- The part of `open` from the first look at `user_version` to the last evidence. -/
def migrateSchema : OpenProgram MigrationStatus := do
  let originalVersion ← databaseUserVersion
  if DATABASE_SCHEMA_VERSION < originalVersion then pure .futureSchemaReadOnly
  else do
    (if originalVersion = 0 then createSchemaV1 digest
      else if originalVersion < DATABASE_SCHEMA_VERSION then createPreMigrationBackup
      else pure () : OpenProgram Unit)
    requireMigrationEvidence digest 1 DATABASE_SCHEMA_V1_SQL
    let currentVersion ← databaseUserVersion
    let currentVersion ← (if currentVersion = 1 then do migrateToV2 digest; pure 2
      else pure currentVersion : OpenProgram Nat)
    requireMigrationEvidence digest 2 DATABASE_MIGRATION_V2_SQL
    let currentVersion ← (if currentVersion = 2 then do migrateToV3 digest; pure 3
      else pure currentVersion : OpenProgram Nat)
    requireMigrationEvidence digest 3 DATABASE_MIGRATION_V3_SQL
    (if currentVersion = 3 then migrateToV4 digest else pure () : OpenProgram Unit)
    requireMigrationEvidence digest 4 DATABASE_MIGRATION_V4_SQL
    pure (if originalVersion = 0 then .created
      else if originalVersion < DATABASE_SCHEMA_VERSION then .migrated else .current)

/-! ### Admitted databases -/

/-- The statements that lead to a version. -/
def schemaSql : Nat → List Statement
  | 1 => DATABASE_SCHEMA_V1_SQL
  | 2 => DATABASE_MIGRATION_V2_SQL
  | 3 => DATABASE_MIGRATION_V3_SQL
  | 4 => DATABASE_MIGRATION_V4_SQL
  | _ => []

/-- The objects of a version. -/
def shapeAt : Nat → Shape
  | 0 => {}
  | n + 1 => { (shapeAfter (shapeAt n) (schemaSql (n + 1))).getD {} with userVersion := n + 1 }

/-- The evidence of the migrations up to a version. -/
def evidenceTo (n : Nat) : List (SqlValue × SqlValue) :=
  (List.range n).map fun v => (.integer (v + 1 : Nat), .text (digest (schemaSql (v + 1))))

/-- A database of version `n`: its objects, with any rows that they admit, and one row of
evidence for each migration up to `n`. -/
structure Admitted (n : Nat) (db : SqlDatabase) : Prop where
  shape : db.shape = shapeAt n
  evidence : (db.rows "schema_migrations").map evidenceOf = evidenceTo digest n

/-- The rows of the tables of a version are kept; new columns have `NULL`. -/
def RowsKept (n : Nat) (db t : SqlDatabase) : Prop :=
  ∀ table ∈ (shapeAt n).tables, table.1 ≠ "schema_migrations" →
    ∃ k, t.rows table.1 = (db.rows table.1).map (· ++ List.replicate k .null)

lemma RowsKept.of_eq {n : Nat} {db t : SqlDatabase}
    (h : ∀ table ∈ (shapeAt n).tables, table.1 ≠ "schema_migrations" → t.rows table.1 = db.rows table.1) :
    RowsKept n db t :=
  fun table htable hname => ⟨0, by simp [h table htable hname]⟩

/-! ### The statements of each version -/

/-- The objects when `k` statements of the version after `n` are done. -/
def shapeDuring (n k : Nat) : Shape := (shapeAfter (shapeAt n) ((schemaSql (n + 1)).take k)).getD {}

variable {digest : SchemaDigest} {n : Nat} {db mid t : SqlDatabase}

/-- What the statements of a version leave: the objects of the version, the evidence as it
was, the rows of the older version. -/
structure Upgraded (n : Nat) (db t : SqlDatabase) : Prop where
  shape : { t.shape with userVersion := n + 1 } = shapeAt (n + 1)
  evidence : t.rows "schema_migrations" = db.rows "schema_migrations"
  kept : RowsKept n db t

/-- Definitions that the shape allows succeed. -/
lemma defines_succeed (db : SqlDatabase) (statements : List Statement) (hs : ∀ s ∈ statements, s.defines = true)
    (h : (shapeAfter db.shape statements).isSome = true) :
    ∃ t, transaction statements db = .ok t ∧ t.shape = (shapeAfter db.shape statements).getD {}
      ∧ t.rows = rowsAfter statements db.rows := by
  obtain ⟨shape, hshape⟩ := Option.isSome_iff_exists.mp h
  obtain ⟨t, ht, htshape, hrows⟩ := transaction_defines hs hshape
  exact ⟨t, ht, by rw [htshape, hshape]; rfl, hrows⟩

lemma schemaV1_succeeds (h : Admitted digest 0 db) :
    ∃ t, transaction DATABASE_SCHEMA_V1_SQL db = .ok t ∧ Upgraded 0 db t
      ∧ t.rows "runtime_metadata" = [] := by
  obtain ⟨t, ht, htshape, hrows⟩ := defines_succeed db DATABASE_SCHEMA_V1_SQL
    (by decide) (by rw [h.shape]; decide +kernel)
  have hnone : db.rows "schema_migrations" = [] := by simpa [evidenceTo] using h.evidence
  refine ⟨t, ht, ⟨?_, ?_, fun table htable => by cases htable⟩, ?_⟩
  · rw [htshape, h.shape]
    rfl
  · rw [hrows, hnone]
    rfl
  · rw [hrows]
    rfl

/-- A virtual table takes what it is given. -/
lemma admits_fts (names columns : List String) (values : List (List SqlValue)) :
    (Sql.fts names).admits (values.map ((Sql.fts names).arrange columns)) = true := by
  have hfits : ∀ column ∈ (Sql.fts names).columns, ∀ value, column.fits value = true := by
    simp only [Sql.fts, List.mem_map]
    rintro column ⟨name, -, rfl⟩ value
    cases value <;> rfl
  simp only [Schema.admits, Bool.and_eq_true, List.all_eq_true, List.mem_map]
  refine ⟨?_, fun columns hcolumns => by cases hcolumns⟩
  rintro _ ⟨row, -, rfl⟩
  simp only [Schema.admitsRow, Bool.and_eq_true, List.all_eq_true]
  refine ⟨⟨by simp [Schema.arrange, Schema.names], ?_⟩, fun check hcheck => by cases hcheck⟩
  rintro ⟨column, value⟩ hmem
  exact hfits column (List.of_mem_zip hmem).1 value

/-- The objects that the statements of version 2 find. -/
lemma shapesV2 : (shapeAfter (shapeAt 1) (DATABASE_MIGRATION_V2_SQL.take 1)).isSome = true
    ∧ (shapeAfter (shapeDuring 1 1) (DATABASE_MIGRATION_V2_SQL.drop 2)).isSome = true
    ∧ (shapeDuring 1 1).schema? "long_horizon_task_memory" = some longHorizonTaskMemory
    ∧ (shapeDuring 1 1).schema? "long_horizon_task_memory_fts"
      = some (Sql.fts ["memory_id", "content"])
    ∧ ((shapeDuring 1 1).tables.map (·.1)).Nodup
    ∧ ∀ table ∈ "schema_migrations" :: (shapeAt 1).tables.map (·.1),
      ∀ s ∈ DATABASE_MIGRATION_V2_SQL, table ∉ s.changes := by
  decide +kernel

/-- The index is filled from the stages, which stay as they are. -/
lemma migrationV2_succeeds (h : Admitted digest 1 db) :
    ∃ t, transaction DATABASE_MIGRATION_V2_SQL db = .ok t ∧ Upgraded 1 db t := by
  obtain ⟨hbefore, hafter, hsource, htable, hnodup, hsame⟩ := shapesV2
  let fill : Statement := .insertSelect "long_horizon_task_memory_fts" ["memory_id", "content"]
    "long_horizon_task_memory" ["memory_id", "content"]
  obtain ⟨a, ha, hashape, harows⟩ := defines_succeed db (DATABASE_MIGRATION_V2_SQL.take 1)
    (by decide) (h.shape ▸ hbefore)
  have hempty : a.rows "long_horizon_task_memory_fts" = [] := by
    rw [harows]
    rfl
  have hduring : a.shape = shapeDuring 1 1 := by
    rw [hashape, h.shape]
    rfl
  rw [← hduring] at hafter hsource htable hnodup
  obtain ⟨b, hb, hbshape, hbrows⟩ := Statement.exec_of_fills fill a
    (((a.rows "long_horizon_task_memory").map fun row =>
      ["memory_id", "content"].map (longHorizonTaskMemory.value row)).map
        ((Sql.fts ["memory_id", "content"]).arrange ["memory_id", "content"]))
    (by
      simp only [fill, Statement.onShape, hsource, htable]
      rfl)
    (by
      simp only [fill, Statement.onRows, hsource, htable, hempty, List.nil_append, List.map_map,
        Option.getD_some]
      rfl)
    hnodup htable (admits_fts _ _ _)
  obtain ⟨t, ht, htshape, -⟩ := defines_succeed b (DATABASE_MIGRATION_V2_SQL.drop 2)
    (by decide) (hbshape ▸ hafter)
  have hrun : transaction DATABASE_MIGRATION_V2_SQL db = .ok t :=
    (transaction_append ha (fill :: DATABASE_MIGRATION_V2_SQL.drop 2)).trans
      ((transaction_cons hb).trans ht)
  refine ⟨t, hrun, ?_, transaction_rows hrun (hsame _ List.mem_cons_self),
    RowsKept.of_eq fun table htable _ =>
      transaction_rows hrun (hsame _ (List.mem_cons_of_mem _ (List.mem_map_of_mem htable)))⟩
  rw [htshape, hbshape, hduring]
  rfl

/-- The objects that the statements of version 3 find. -/
lemma shapesV3 : (shapeAfter (shapeAt 2) DATABASE_MIGRATION_V3_SQL).isSome = true
    ∧ ∀ table ∈ "schema_migrations" :: (shapeAt 2).tables.map (·.1),
      ∀ s ∈ DATABASE_MIGRATION_V3_SQL, table ∉ s.changes := by
  decide +kernel

lemma migrationV3_succeeds (h : Admitted digest 2 db) :
    ∃ t, transaction DATABASE_MIGRATION_V3_SQL db = .ok t ∧ Upgraded 2 db t := by
  obtain ⟨hallowed, hsame⟩ := shapesV3
  obtain ⟨t, ht, htshape, hrows⟩ := defines_succeed db DATABASE_MIGRATION_V3_SQL
    (by decide) (h.shape ▸ hallowed)
  refine ⟨t, ht, ?_, transaction_rows ht (hsame _ List.mem_cons_self),
    RowsKept.of_eq fun table htable _ =>
      transaction_rows ht (hsame _ (List.mem_cons_of_mem _ (List.mem_map_of_mem htable)))⟩
  rw [htshape, h.shape]
  rfl

/-- The deletions that version 3 admits are admitted in version 4. -/
lemma admits_deletions {rows : List Row} (h : structuredMemoryDeletionsV3.admits rows = true) :
    structuredMemoryDeletions.admits rows = true := by
  simp only [Schema.admits, Bool.and_eq_true, List.all_eq_true] at h ⊢
  refine ⟨fun row hrow => ?_, h.2⟩
  have hadmitted := h.1 row hrow
  simp only [Schema.admitsRow, Bool.and_eq_true, List.all_eq_true] at hadmitted ⊢
  refine ⟨hadmitted.1, fun check hcheck => ?_⟩
  have hactor := hadmitted.2 (Sql.textIs "actor" "local_user") (by simp [structuredMemoryDeletionsV3])
  have hreason := hadmitted.2 (Sql.textIs "reason_code" "user_deleted")
    (by simp [structuredMemoryDeletionsV3])
  simp only [structuredMemoryDeletions, List.mem_cons, List.not_mem_nil, or_false] at hcheck
  rcases hcheck with rfl | rfl
  · exact Check.passes_oneOf hactor (by simp) (by simp)
  · exact Check.passes_oneOf hreason (by simp) (by simp)

/-- The deletions are copied as they are. -/
lemma copy_deletions {rows : List Row} (h : structuredMemoryDeletionsV3.admits rows = true) :
    rows.map (fun row => structuredMemoryDeletions.arrange deletionColumns
      (deletionColumns.map (structuredMemoryDeletionsV3.value row))) = rows := by
  refine (List.map_congr_left fun row hrow => ?_).trans (List.map_id _)
  have harrange : structuredMemoryDeletions.arrange structuredMemoryDeletionsV3.names
      (structuredMemoryDeletionsV3.names.map (structuredMemoryDeletionsV3.value row)) = row :=
    Schema.arrange_value rfl (by decide) (Schema.length_of_admits h hrow)
  exact harrange

/-- The objects that the statements of version 4 find. -/
lemma shapesV4 : (shapeAt 3).schema? "structured_memory_deletions" = some structuredMemoryDeletionsV3
    ∧ (shapeAfter (shapeAt 3) (DATABASE_MIGRATION_V4_SQL.take 5)).isSome = true
    ∧ (shapeDuring 3 5).schema? "structured_memory_deletions_v3" = some structuredMemoryDeletionsV3
    ∧ (shapeDuring 3 5).schema? "structured_memory_deletions" = some structuredMemoryDeletions
    ∧ ((shapeDuring 3 5).tables.map (·.1)).Nodup
    ∧ (shapeAfter (shapeDuring 3 5) ((DATABASE_MIGRATION_V4_SQL.drop 6).take 3)).isSome = true
    ∧ (shapeDuring 3 9).schema? "structured_memory_metrics" = some structuredMemoryMetrics
    ∧ ((shapeDuring 3 9).tables.map (·.1)).Nodup
    ∧ (shapeAfter (shapeDuring 3 9) (DATABASE_MIGRATION_V4_SQL.drop 10)).isSome = true := by
  decide +kernel

/-- The tables that the statements of version 4 leave alone. -/
lemma changesV4 : (∀ s ∈ DATABASE_MIGRATION_V4_SQL, "schema_migrations" ∉ s.changes)
    ∧ (∀ s ∈ DATABASE_MIGRATION_V4_SQL.drop 5, "structured_memory_items" ∉ s.changes)
    ∧ (∀ s ∈ DATABASE_MIGRATION_V4_SQL.drop 6, "structured_memory_deletions" ∉ s.changes)
    ∧ ∀ table ∈ (shapeAt 3).tables, table.1 ≠ "structured_memory_items" →
      table.1 ≠ "structured_memory_deletions" →
      ∀ s ∈ DATABASE_MIGRATION_V4_SQL, table.1 ∉ s.changes := by
  decide +kernel

/-- The items have no expiry, and the deletions go through a table of another name. -/
lemma migrationV4_succeeds (h : Admitted digest 3 db) :
    ∃ t, transaction DATABASE_MIGRATION_V4_SQL db = .ok t ∧ Upgraded 3 db t := by
  obtain ⟨hdeletions, hbefore, hsource, htable, hnodup, hmiddle, hmetrics, hnodup', hafter⟩ := shapesV4
  obtain ⟨hevidence, hitem, hdeletion, hothers⟩ := changesV4
  let copy : Statement := .insertSelect "structured_memory_deletions" deletionColumns
    "structured_memory_deletions_v3" deletionColumns
  let metrics : Statement := .insertValues "structured_memory_metrics" ["key", "value"]
    (metricKeys.map fun key => [.text (ofString key), .integer 0])
  rw [← h.shape] at hdeletions hbefore
  have hadmitted := db.admits_of_schema? hdeletions
  -- up to the new table of deletions
  obtain ⟨a, ha, hashape, harows⟩ := defines_succeed db (DATABASE_MIGRATION_V4_SQL.take 5)
    (by decide) hbefore
  have hempty : a.rows "structured_memory_deletions" = [] := by
    rw [harows]
    rfl
  have hmoved : a.rows "structured_memory_deletions_v3" = db.rows "structured_memory_deletions" := by
    rw [harows]
    rfl
  have hitems : a.rows "structured_memory_items"
      = (db.rows "structured_memory_items").map (· ++ [.null]) := by
    rw [harows]
    rfl
  have hduring : a.shape = shapeDuring 3 5 := by
    rw [hashape, h.shape]
    rfl
  rw [← hduring] at hsource htable hnodup hmiddle
  -- the copy
  obtain ⟨b, hb, hbshape, hbrows⟩ := Statement.exec_of_fills copy a
    (db.rows "structured_memory_deletions")
    (by
      simp only [copy, Statement.onShape, hsource, htable]
      rfl)
    (by
      simp only [copy, Statement.onRows, hsource, htable, hempty, hmoved, List.nil_append,
        Option.getD_some]
      rw [copy_deletions hadmitted])
    hnodup htable (admits_deletions hadmitted)
  -- up to the table of metrics
  rw [← hbshape] at hmiddle
  obtain ⟨c, hc, hcshape, hcrows⟩ := defines_succeed b ((DATABASE_MIGRATION_V4_SQL.drop 6).take 3)
    (by decide) hmiddle
  have hnone : c.rows "structured_memory_metrics" = [] := by
    rw [hcrows]
    rfl
  have hduring' : c.shape = shapeDuring 3 9 := by
    rw [hcshape, hbshape, hduring]
    rfl
  rw [← hduring'] at hmetrics hnodup' hafter
  obtain ⟨d, hd, hdshape, -⟩ := Statement.exec_of_fills metrics c
    (metricKeys.map fun key => [.text (ofString key), .integer 0])
    (by
      simp only [metrics, Statement.onShape, hmetrics]
      rfl)
    (by
      simp only [metrics, Statement.onRows, hmetrics, hnone, List.nil_append, Option.getD_some]
      rfl)
    hnodup' hmetrics (by decide)
  -- to the end
  rw [← hdshape] at hafter
  obtain ⟨t, ht, htshape, -⟩ := defines_succeed d (DATABASE_MIGRATION_V4_SQL.drop 10)
    (by decide) hafter
  have hfromB : transaction (DATABASE_MIGRATION_V4_SQL.drop 6) b = .ok t :=
    (transaction_append hc (metrics :: DATABASE_MIGRATION_V4_SQL.drop 10)).trans
      ((transaction_cons hd).trans ht)
  have hfromA : transaction (copy :: DATABASE_MIGRATION_V4_SQL.drop 6) a = .ok t :=
    (transaction_cons hb).trans hfromB
  have hrun : transaction DATABASE_MIGRATION_V4_SQL db = .ok t :=
    (transaction_append ha (copy :: DATABASE_MIGRATION_V4_SQL.drop 6)).trans hfromA
  refine ⟨t, hrun, ?_, transaction_rows hrun hevidence, fun table htable _ => ?_⟩
  · rw [htshape, hdshape, hduring']
    rfl
  by_cases hitemName : table.1 = "structured_memory_items"
  · refine ⟨1, ?_⟩
    rw [hitemName, transaction_rows hfromA hitem, hitems]
    rfl
  by_cases hdeletionName : table.1 = "structured_memory_deletions"
  · refine ⟨0, ?_⟩
    rw [hdeletionName, transaction_rows hfromB hdeletion, hbrows]
    simp
  · refine ⟨0, ?_⟩
    rw [transaction_rows hrun (hothers table htable hitemName hdeletionName)]
    simp

/-! ### Migrations -/

/-- The statements of a whole migration. -/
def migration (digest : SchemaDigest) : Nat → TimeText → List Statement
  | 1, appliedAt => DATABASE_SCHEMA_V1_SQL ++ [insertEvidence 1 appliedAt (digest DATABASE_SCHEMA_V1_SQL),
      insertFeatureEnabledAt appliedAt, .setUserVersion 1]
  | version, appliedAt => schemaSql version ++ [insertEvidence version appliedAt (digest (schemaSql version)),
      .setUserVersion version]

lemma migration_one (appliedAt : TimeText) : migration digest 1 appliedAt
    = DATABASE_SCHEMA_V1_SQL ++ [insertEvidence 1 appliedAt (digest DATABASE_SCHEMA_V1_SQL),
      insertFeatureEnabledAt appliedAt, .setUserVersion 1] := rfl

lemma migration_add_two (n : Nat) (appliedAt : TimeText) : migration digest (n + 2) appliedAt
    = schemaSql (n + 2) ++ [insertEvidence (n + 2) appliedAt (digest (schemaSql (n + 2))),
      .setUserVersion (n + 2)] := rfl

/-- The row of evidence of a migration. -/
def evidenceRow (digest : SchemaDigest) (version : Nat) (appliedAt : TimeText) : Row :=
  [.integer version, .text appliedAt, .text (digest (schemaSql version))]

/-- The evidence of the next version is not there yet. -/
lemma admits_evidence {rows : List Row} (appliedAt : TimeText)
    (h : schemaMigrations.admits rows = true) (hevidence : rows.map evidenceOf = evidenceTo digest n) :
    schemaMigrations.admits (rows ++ [evidenceRow digest (n + 1) appliedAt]) = true := by
  simp only [Schema.admits, Bool.and_eq_true, List.all_eq_true, decide_eq_true_eq] at h ⊢
  constructor
  · intro row hrow
    rcases List.mem_append.mp hrow with hrow | hrow
    · exact h.1 row hrow
    · obtain rfl := List.mem_singleton.mp hrow
      simp [evidenceRow, Schema.admitsRow, schemaMigrations, Sql.text, Sql.integer, Sql.positive,
        Column.fits, Check.passes, Check.eval, Schema.value, Schema.names, SqlValue.compare,
        SqlValue.atLeast]
  · intro columns hcolumns
    obtain rfl := List.mem_singleton.mp hcolumns
    have hkeys : rows.filterMap (schemaMigrations.key ["version"])
        = (List.range n).map fun v => [SqlValue.integer (v + 1 : Nat)] := by
      have hkey : schemaMigrations.key ["version"]
          = (fun migration => if SqlValue.null ∈ [migration.1] then none else some [migration.1])
            ∘ evidenceOf := rfl
      rw [hkey, ← List.filterMap_map, hevidence, evidenceTo, List.filterMap_map]
      simp
    have hnew : schemaMigrations.key ["version"] (evidenceRow digest (n + 1) appliedAt)
        = some [.integer (n + 1 : Nat)] := rfl
    rw [List.filterMap_append, hkeys, List.filterMap_cons_some hnew, List.filterMap_nil,
      List.nodup_append]
    refine ⟨?_, by simp, ?_⟩
    · exact List.nodup_range.map fun v v' hv => by simpa using hv
    · simp only [List.mem_map, List.mem_range, List.mem_singleton]
      rintro _ ⟨v, hv, rfl⟩ _ rfl heq
      simp only [List.cons.injEq, SqlValue.integer.injEq, and_true, Nat.cast_inj] at heq
      omega

lemma shapeAt_succ (hn : n < 4) : (shapeAt (n + 1)).schema? "schema_migrations" = some schemaMigrations
    ∧ ((shapeAt (n + 1)).tables.map (·.1)).Nodup := by
  have hall : ∀ m < 4, (shapeAt (m + 1)).schema? "schema_migrations" = some schemaMigrations
      ∧ ((shapeAt (m + 1)).tables.map (·.1)).Nodup := by
    decide +kernel
  exact hall n hn

lemma insertEvidence_succeeds (h : Admitted digest n db) (hmid : Upgraded n db mid) (hn : n < 4)
    (appliedAt : TimeText) :
    ∃ t, (insertEvidence (n + 1) appliedAt (digest (schemaSql (n + 1)))).exec mid = .ok t
      ∧ t.shape = mid.shape
      ∧ t.rows = Function.update mid.rows "schema_migrations"
        (db.rows "schema_migrations" ++ [evidenceRow digest (n + 1) appliedAt]) := by
  have htables : mid.shape.tables = (shapeAt (n + 1)).tables := by
    simpa using congrArg Shape.tables hmid.shape
  obtain ⟨hschema, hnodup⟩ := shapeAt_succ hn
  rw [Shape.schema?, ← htables] at hschema
  rw [← htables] at hnodup
  have hadmitted := mid.admits_of_schema? hschema
  rw [hmid.evidence] at hadmitted
  refine Statement.exec_of_fills _ mid _ ?_ ?_ hnodup hschema
    (admits_evidence appliedAt hadmitted h.evidence)
  · simp only [insertEvidence, Statement.onShape, Shape.schema?, hschema]
    rfl
  · simp only [insertEvidence, Statement.onRows, Shape.schema?, hschema, hmid.evidence]
    rfl

/-- `PRAGMA user_version` is the last statement. -/
lemma setUserVersion_succeeds (mid : SqlDatabase) (hshape : { mid.shape with userVersion := n + 1 } = shapeAt (n + 1)) :
    ∃ t, (Statement.setUserVersion (n + 1)).exec mid = .ok t ∧ t.shape = shapeAt (n + 1)
      ∧ t.rows = mid.rows :=
  Statement.exec_of_defines rfl (congrArg some hshape)

/-- The statements of the versions after the first. -/
lemma schemaSql_succeeds (h : Admitted digest (n + 1) db) (hn : n + 1 < 4) :
    ∃ t, transaction (schemaSql (n + 2)) db = .ok t ∧ Upgraded (n + 1) db t := by
  match n, hn with
  | 0, _ => exact migrationV2_succeeds h
  | 1, _ => exact migrationV3_succeeds h
  | 2, _ => exact migrationV4_succeeds h

/-- With the evidence, and the number of the version, the database is admitted. -/
lemma Upgraded.admitted (h : Admitted digest n db) (hmid : Upgraded n db mid) (appliedAt : TimeText)
    (hshape : t.shape = shapeAt (n + 1))
    (hevidence : t.rows "schema_migrations"
      = db.rows "schema_migrations" ++ [evidenceRow digest (n + 1) appliedAt])
    (hothers : ∀ table ∈ (shapeAt n).tables, table.1 ≠ "schema_migrations" →
      t.rows table.1 = mid.rows table.1) :
    Admitted digest (n + 1) t ∧ RowsKept n db t := by
  refine ⟨⟨hshape, ?_⟩, fun table htable hname => ?_⟩
  · rw [hevidence, List.map_append, h.evidence, evidenceTo, evidenceTo, List.range_succ, List.map_append]
    rfl
  · obtain ⟨k, hk⟩ := hmid.kept table htable hname
    exact ⟨k, (hothers table htable hname).trans hk⟩

/-- The schema is created in an empty file. -/
lemma createSchema_succeeds (h : Admitted digest 0 db) (appliedAt : TimeText) :
    ∃ t, transaction (migration digest 1 appliedAt) db = .ok t ∧ Admitted digest 1 t ∧ RowsKept 0 db t := by
  obtain ⟨mid, hmid, hupgraded, hmetadata⟩ := schemaV1_succeeds h
  obtain ⟨a, ha, hashape, harows⟩ := insertEvidence_succeeds h hupgraded (by omega) appliedAt
  have hnone : a.rows "runtime_metadata" = [] := by
    rw [harows, Function.update_of_ne (by simp), hmetadata]
  have htables : a.shape.tables = (shapeAt 1).tables := by
    rw [hashape]
    simpa using congrArg Shape.tables hupgraded.shape
  have hschema : a.shape.schema? "runtime_metadata" = some runtimeMetadata := by
    rw [Shape.schema?, htables]
    rfl
  obtain ⟨b, hb, hbshape, hbrows⟩ := Statement.exec_of_fills (insertFeatureEnabledAt appliedAt) a
    ([[.text (ofString "feature_enabled_at"), .text appliedAt]])
    (by
      simp only [insertFeatureEnabledAt, Statement.onShape, hschema]
      rfl)
    (by
      simp only [insertFeatureEnabledAt, Statement.onRows, hschema, hnone]
      rfl)
    (by
      rw [htables]
      exact (shapeAt_succ (by omega : 0 < 4)).2)
    hschema
    rfl
  obtain ⟨t, ht, htshape, htrows⟩ := setUserVersion_succeeds (n := 0) b
    (by rw [hbshape, hashape]; exact hupgraded.shape)
  have hrun : transaction (migration digest 1 appliedAt) db = .ok t :=
    (transaction_append hmid ([_, _, _])).trans
      ((transaction_cons ha).trans ((transaction_cons hb).trans (transaction_cons ht)))
  refine ⟨t, hrun, hupgraded.admitted h appliedAt htshape ?_ (fun table htable => by cases htable)⟩
  rw [htrows, hbrows, Function.update_of_ne (by simp), harows, Function.update_self]

/-- **A migration** takes every admitted database to the next version: it succeeds, keeps the
rows of the tables and adds its evidence. -/
theorem migration_succeeds (h : Admitted digest n db) (hn : n < 4) (appliedAt : TimeText) :
    ∃ t, transaction (migration digest (n + 1) appliedAt) db = .ok t ∧ Admitted digest (n + 1) t
      ∧ RowsKept n db t := by
  cases n with
  | zero => exact createSchema_succeeds h appliedAt
  | succ n =>
    obtain ⟨mid, hmid, hupgraded⟩ := schemaSql_succeeds h hn
    obtain ⟨a, ha, hashape, harows⟩ := insertEvidence_succeeds h hupgraded hn appliedAt
    obtain ⟨t, ht, htshape, htrows⟩ := setUserVersion_succeeds (n := n + 1) a
      (by rw [hashape]; exact hupgraded.shape)
    have hrun : transaction (migration digest (n + 2) appliedAt) db = .ok t :=
      (transaction_append hmid ([_, _])).trans
        ((transaction_cons ha).trans (transaction_cons ht))
    refine ⟨t, hrun, hupgraded.admitted h appliedAt htshape ?_ fun table _ hname => ?_⟩
    · rw [htrows, harows, Function.update_self]
    · rw [htrows, harows, Function.update_of_ne hname]

end TetiBot.Memory

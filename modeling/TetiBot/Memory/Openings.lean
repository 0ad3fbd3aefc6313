import TetiBot.Memory.Migration

/-
Openings of the structured memory that may be cut short.

* `Migrated`: some of the migrations, one after the other, at the times of a clock.
* `migrateSchema_spec`: an opening does the migrations that are due, or is interrupted between
  two of them.
* `openAttempt`: an opening in which the process may end, or the backup fail.
* `schema_migration_preserves_memory`: after any number of attempts an opening that is not cut
  short has the result of a single one, with the rows of the older version.
-/

namespace TetiBot.Memory

open Library Library.JsString Library.Program

variable {digest : SchemaDigest} {n : Nat} {db t : SqlDatabase}

/-! ### From version to version -/

/-- The migrations after `n` up to a version, at the times of a clock. -/
inductive Migrated (digest : SchemaDigest) (clock : Nat → TimeText) (n : Nat) (db : SqlDatabase) :
    Nat → SqlDatabase → Prop
  | start : Migrated digest clock n db n db
  | step {m : Nat} {mid t : SqlDatabase} (h : Migrated digest clock n db m mid)
      (ht : transaction (migration digest (m + 1) (clock (m + 1))) mid = .ok t) :
      Migrated digest clock n db (m + 1) t

namespace Migrated

variable {clock clock' : Nat → TimeText} {m k : Nat} {t' : SqlDatabase}

lemma le (h : Migrated digest clock n db m t) : n ≤ m := by
  induction h with
  | start => exact le_rfl
  | step h ht ih => exact Nat.le_succ_of_le ih

/-- The tables of a version are tables of the later ones, if only by name. -/
lemma tables_later {m : Nat} (hnm : n ≤ m) (hm : m ≤ 4) {table : String × Schema}
    (h : table ∈ (shapeAt n).tables) : ∃ later ∈ (shapeAt m).tables, later.1 = table.1 := by
  have hall : ∀ m < 5, ∀ n ≤ m, ∀ table ∈ (shapeAt n).tables, ∃ later ∈ (shapeAt m).tables,
      later.1 = table.1 := by
    decide +kernel
  exact hall m (by omega) n hnm table h

/-- Every version on the way is admitted, and has the rows of the first. -/
lemma admitted (hdb : Admitted digest n db) (h : Migrated digest clock n db m t) (hm : m ≤ 4) :
    Admitted digest m t ∧ RowsKept n db t := by
  induction h with
  | start => exact ⟨hdb, RowsKept.of_eq fun _ _ _ => rfl⟩
  | @step m mid t h ht ih =>
    obtain ⟨hmid, hkept⟩ := ih (by omega)
    obtain ⟨t', ht', hadmitted, hnext⟩ := migration_succeeds hmid (by omega) (clock (m + 1))
    obtain rfl := Except.ok.inj (ht.symm.trans ht')
    refine ⟨hadmitted, fun table htable hname => ?_⟩
    obtain ⟨later, hlater, heq⟩ := tables_later h.le (by omega : m ≤ 4) htable
    obtain ⟨k, hk⟩ := hkept table htable hname
    obtain ⟨k', hk'⟩ := hnext later hlater (heq ▸ hname)
    rw [heq] at hk'
    refine ⟨k + k', ?_⟩
    rw [hk', hk, List.map_map]
    refine List.map_congr_left fun row _ => ?_
    rw [Function.comp_apply, List.append_assoc, List.replicate_append_replicate]

lemma unique (h : Migrated digest clock n db m t) (h' : Migrated digest clock n db m t') : t = t' := by
  induction h generalizing t' with
  | start =>
    cases h' with
    | start => rfl
    | step h ht =>
      have hle := h.le
      omega
  | step h ht ih =>
    cases h' with
    | start =>
      have hle := h.le
      omega
    | step h' ht' =>
      obtain rfl := ih h'
      exact Except.ok.inj (ht.symm.trans ht')

/-- Only the times of the migrations themselves matter. -/
lemma congr_clock (h : Migrated digest clock n db m t)
    (hclock : ∀ v, n < v → v ≤ m → clock v = clock' v) : Migrated digest clock' n db m t := by
  induction h with
  | start => exact start
  | step h ht ih =>
    refine step (ih fun v hv hle => hclock v hv (by omega)) ?_
    rw [← hclock _ (Nat.lt_succ_of_le h.le) le_rfl]
    exact ht

/-- What was begun at one time may be finished at another. -/
lemma trans (h : Migrated digest clock n db m t) (h' : Migrated digest clock' m t k t') :
    Migrated digest (fun v => if v ≤ m then clock v else clock' v) n db k t' := by
  have hfirst : Migrated digest (fun v => if v ≤ m then clock v else clock' v) n db m t :=
    h.congr_clock fun v _ hv => (if_pos hv).symm
  have hsecond : Migrated digest (fun v => if v ≤ m then clock v else clock' v) m t k t' :=
    h'.congr_clock fun v hv _ => (if_neg (by omega)).symm
  clear h h'
  induction hsecond with
  | start => exact hfirst
  | step h ht ih => exact step ih ht

end Migrated

/-! ### An opening -/

/-- Where an opening that found version `n` stands, with the migrations up to `m` done. -/
structure Migrating (digest : SchemaDigest) (begun : Opening) (n m : Nat) (w : Opening) : Prop where
  bound : m ≤ 4
  clock : w.clock = begun.clock
  backup : w.backup = begun.backup
  commits : begun.commits = none → w.commits = none
  database : Migrated digest begun.clock n begun.database m w.database

/-- An opening ends early only if the process ends or there is no backup; the migrations that
were committed stay. -/
def Interrupted (digest : SchemaDigest) (begun : Opening) (n : Nat) (w : Opening) : Prop :=
  (∃ m, Migrating digest begun n m w) ∧ (begun.commits ≠ none ∨ begun.backup = false)

section Opening

variable {begun : Opening} {m : Nat}

/-- A migration of an opening is committed, or the process ends before it. -/
lemma commit_spec (hdb : Admitted digest n begun.database) (hm : m < 4) :
    Triple (Migrating digest begun n m)
      (commit (migration digest (m + 1) (begun.clock (m + 1))))
      (fun _ => Migrating digest begun n (m + 1)) fun _ => Interrupted digest begun n := by
  refine Triple.of_world fun w hw => ?_
  refine Triple.bind_reads (Triple.bind_throwIf (fun hstop => ?_) fun _ => ?_)
  · rintro _ rfl
    refine ⟨⟨m, hw⟩, .inl fun hnone => ?_⟩
    have hcommits := hw.commits hnone
    rw [id, hcommits] at hstop
    cases hstop
  · obtain ⟨hadmitted, -⟩ := hw.database.admitted hdb hw.bound
    obtain ⟨t, ht, -, -⟩ := migration_succeeds hadmitted hm (begun.clock (m + 1))
    refine Triple.bind_fromExcept (fun e he => ?_) fun database hdatabase => ?_
    · rw [id, ht] at he
      cases he
    · rw [id, ht] at hdatabase
      obtain rfl := Except.ok.inj hdatabase
      refine Triple.writes ?_
      rintro _ rfl
      refine ⟨hm, hw.clock, hw.backup, fun hnone => ?_, hw.database.step ht⟩
      simp [hw.commits hnone]

/-- The evidence of a migration that is done is found. -/
lemma find?_evidenceTo {version : Nat} (h : version < m) :
    (evidenceTo digest m).find? (fun migration => migration.1 = .integer (version + 1 : Nat))
      = some (.integer (version + 1 : Nat), .text (digest (schemaSql (version + 1)))) := by
  have hrange : (List.range m).find? ((fun migration : SqlValue × SqlValue =>
      decide (migration.1 = .integer (version + 1 : Nat))) ∘ fun v => (SqlValue.integer (v + 1 : Nat),
        SqlValue.text (digest (schemaSql (v + 1))))) = some version := by
    rw [List.find?_range_eq_some]
    refine ⟨by simp, List.mem_range.mpr h, fun j hj => ?_⟩
    simp
    omega
  rw [evidenceTo, List.find?_map, hrange]
  rfl

lemma requireMigrationEvidence_spec {version : Nat} {sql : List Statement}
    (hsql : schemaSql (version + 1) = sql) (hdb : Admitted digest n begun.database)
    (hversion : version < m) :
    Triple (Migrating digest begun n m) (requireMigrationEvidence digest (version + 1) sql)
      (fun _ => Migrating digest begun n m) fun _ => Interrupted digest begun n := by
  subst hsql
  refine Triple.of_world fun w hw => ?_
  obtain ⟨hadmitted, -⟩ := hw.database.admitted hdb hw.bound
  have hbound := hw.bound
  obtain ⟨k, rfl⟩ : ∃ k, m = k + 1 := ⟨m - 1, by omega⟩
  refine Triple.bind_reads (Triple.bind_throwIf (fun hmissing => ?_) fun _ => ?_)
  · rw [id, hadmitted.shape, (shapeAt_succ (by omega)).1] at hmissing
    cases hmissing
  · refine Triple.throwIf (fun hwrong => ?_) fun _ => ?_
    · rw [id, hadmitted.evidence, find?_evidenceTo hversion] at hwrong
      exact absurd rfl hwrong
    · rintro _ rfl
      exact hw

/-- The first migration makes the schema. -/
lemma createSchemaV1_spec (hdb : Admitted digest 0 begun.database) :
    Triple (Migrating digest begun 0 0) (createSchemaV1 digest) (fun _ => Migrating digest begun 0 1)
      fun _ => Interrupted digest begun 0 := by
  refine Triple.of_world fun w hw => Triple.bind_reads ?_
  rw [hw.clock, ← migration_one]
  refine Triple.pre (commit_spec hdb (by omega)) ?_
  rintro _ rfl
  exact hw

/-- A migration after the first, as one of the functions of the source. -/
lemma migrateTo_spec {sql : List Statement} (hsql : schemaSql (m + 2) = sql)
    (hdb : Admitted digest n begun.database) (hm : m + 1 < 4) :
    Triple (Migrating digest begun n (m + 1)) (migrateTo digest (m + 2) sql)
      (fun _ => Migrating digest begun n (m + 2)) fun _ => Interrupted digest begun n := by
  subst hsql
  refine Triple.of_world fun w hw => Triple.bind_reads ?_
  rw [hw.clock, ← migration_add_two]
  refine Triple.pre (commit_spec hdb hm) ?_
  rintro _ rfl
  exact hw

/-- A version is reached if it was not passed before. -/
lemma stage_spec {current : Nat} {program : OpenProgram Unit}
    (hprogram : Triple (Migrating digest begun n m) program (fun _ => Migrating digest begun n (m + 1))
      fun _ => Interrupted digest begun n) :
    Triple (fun w => Migrating digest begun n (max n m) w ∧ current = max n m)
      (if current = m then do program; pure (m + 1) else pure current)
      (fun next w => Migrating digest begun n (max n (m + 1)) w ∧ next = max n (m + 1))
      fun _ => Interrupted digest begun n := by
  refine Triple.of_fact fun hcurrent => Triple.ite (fun h => ?_) fun h => ?_
  · have hbefore : max n m = m := by omega
    have hafter : max n (m + 1) = m + 1 := by omega
    rw [hbefore, hafter]
    exact Triple.bind hprogram fun _ => Triple.pure fun w hw => ⟨hw, rfl⟩
  · have hsame : max n (m + 1) = max n m := by omega
    rw [hsame]
    exact Triple.pure fun w hw => ⟨hw, hcurrent⟩

/-- The evidence is looked for between the stages. -/
lemma evidence_spec {version current : Nat} {sql : List Statement}
    (hsql : schemaSql (version + 1) = sql) (hdb : Admitted digest n begun.database) :
    Triple (fun w => Migrating digest begun n (max n (version + 1)) w ∧ current = max n (version + 1))
      (requireMigrationEvidence digest (version + 1) sql)
      (fun _ w => Migrating digest begun n (max n (version + 1)) w ∧ current = max n (version + 1))
      fun _ => Interrupted digest begun n :=
  Triple.of_fact fun hcurrent => Triple.post (requireMigrationEvidence_spec hsql hdb (by omega))
    fun _ _ hw => ⟨hw, hcurrent⟩

lemma userVersion_shapeAt (n : Nat) : (shapeAt n).userVersion = n := by
  cases n <;> rfl

/-- What `open` does before the first evidence. -/
lemma begin_spec (hdb : Admitted digest n begun.database) (hn : n ≤ 4) :
    Triple (· = begun)
      (if n = 0 then createSchemaV1 digest
        else if n < DATABASE_SCHEMA_VERSION then createPreMigrationBackup else pure ())
      (fun _ => Migrating digest begun n (max n 1)) fun _ => Interrupted digest begun n := by
  have hbegun : Migrating digest begun n n begun := ⟨hn, rfl, rfl, id, .start⟩
  refine Triple.ite (fun h => ?_) fun h => ?_
  · subst h
    refine Triple.pre (createSchemaV1_spec hdb) ?_
    rintro _ rfl
    exact hbegun
  · have hsame : max n 1 = n := by omega
    rw [hsame]
    refine Triple.ite (fun _ => ?_) fun _ => Triple.pure fun w hw => hw ▸ hbegun
    refine Triple.bind_reads (Triple.throwIf (fun hbackup => ?_) fun _ => ?_)
    · rintro _ rfl
      exact ⟨⟨n, hbegun⟩, .inr hbackup⟩
    · rintro _ rfl
      exact hbegun

/-- **An opening** of an admitted database brings it to the current version, or is interrupted
between two migrations. -/
theorem migrateSchema_spec (hdb : Admitted digest n begun.database) (hn : n ≤ 4) :
    Triple (· = begun) (migrateSchema digest) (fun _ => Migrating digest begun n 4)
      fun _ => Interrupted digest begun n := by
  have hversion : begun.database.shape.userVersion = n := by
    rw [hdb.shape, userVersion_shapeAt]
  refine Triple.bind_reads ?_
  rw [hversion]
  refine Triple.ite (fun h => absurd hn (Nat.not_le.mpr h)) fun _ => ?_
  refine Triple.bind (begin_spec hdb hn) fun _ => ?_
  refine Triple.bind (requireMigrationEvidence_spec rfl hdb (by omega)) fun _ => ?_
  have hread : Triple (Migrating digest begun n (max n 1)) databaseUserVersion
      (fun current w => Migrating digest begun n (max n 1) w ∧ current = max n 1)
      fun _ => Interrupted digest begun n := by
    refine Triple.reads fun w hw => ⟨hw, ?_⟩
    rw [(hw.database.admitted hdb hw.bound).1.shape, userVersion_shapeAt]
  refine Triple.bind hread fun current => ?_
  refine Triple.bind (stage_spec (migrateTo_spec rfl hdb (by omega))) fun current => ?_
  refine Triple.bind (evidence_spec rfl hdb) fun _ => ?_
  refine Triple.bind (stage_spec (migrateTo_spec rfl hdb (by omega))) fun current => ?_
  refine Triple.bind (evidence_spec rfl hdb) fun _ => ?_
  have hlast : Triple (fun w => Migrating digest begun n (max n 3) w ∧ current = max n 3)
      (if current = 3 then migrateToV4 digest else pure ())
      (fun _ => Migrating digest begun n 4) fun _ => Interrupted digest begun n := by
    refine Triple.of_fact fun hcurrent => Triple.ite (fun h => ?_) fun h => ?_
    · have hbefore : max n 3 = 3 := by omega
      rw [hbefore]
      exact migrateTo_spec rfl hdb (by omega)
    · have hsame : max n 3 = 4 := by omega
      rw [hsame]
      exact Triple.pure fun w hw => hw
  refine Triple.bind hlast fun _ => ?_
  refine Triple.bind (requireMigrationEvidence_spec rfl hdb (by omega)) fun _ => ?_
  exact Triple.pure fun w hw => hw

end Opening

/-! ### Openings that are cut short -/

/-- An opening with its clock, which may end after some commits, or for want of a backup. -/
structure OpenAttempt where
  clock : Nat → TimeText
  commits : Option Nat
  backup : Bool

/-- What an attempt leaves. -/
def openAttempt (digest : SchemaDigest) (db : SqlDatabase) (attempt : OpenAttempt) : SqlDatabase :=
  ((migrateSchema digest).exec ⟨db, attempt.clock, attempt.commits, attempt.backup⟩).2.database

/-- An attempt leaves some of the migrations done. -/
lemma openAttempt_migrated (h : Admitted digest n db) (hn : n ≤ 4) (attempt : OpenAttempt) :
    ∃ m ≤ 4, Migrated digest attempt.clock n db m (openAttempt digest db attempt) := by
  have hworld : Triple (· = (⟨db, attempt.clock, attempt.commits, attempt.backup⟩ : Opening))
      (migrateSchema digest) (fun _ w => ∃ m ≤ 4, Migrated digest attempt.clock n db m w.database)
      fun _ w => ∃ m ≤ 4, Migrated digest attempt.clock n db m w.database :=
    Triple.weaken (migrateSchema_spec h hn) (fun _ => id) (fun _ w hw => ⟨4, hw.bound, hw.database⟩)
      fun _ w hw => hw.1.imp fun m hm => ⟨hm.bound, hm.database⟩
  exact hworld.world rfl

/-- So do any number of attempts, each migration at the time of one of them. -/
lemma openAttempts_migrated (h : Admitted digest n db) (hn : n ≤ 4) (attempts : List OpenAttempt) :
    ∃ m ≤ 4, ∃ clock, Migrated digest clock n db m (attempts.foldl (openAttempt digest) db)
      ∧ ∀ v, n < v → v ≤ m → ∃ attempt ∈ attempts, clock v = attempt.clock v := by
  induction attempts generalizing n db with
  | nil => exact ⟨n, hn, fun _ => [], .start, fun v hv hle => by omega⟩
  | cons attempt attempts ih =>
    obtain ⟨k, hk, hfirst⟩ := openAttempt_migrated h hn attempt
    obtain ⟨m, hm, clock, hrest, hclock⟩ := ih (hfirst.admitted h hk).1 hk
    refine ⟨m, hm, _, hfirst.trans hrest, fun v hv hle => ?_⟩
    by_cases hvk : v ≤ k
    · exact ⟨attempt, List.mem_cons_self, if_pos hvk⟩
    · obtain ⟨other, hother, htime⟩ := hclock v (by omega) hle
      exact ⟨other, List.mem_cons_of_mem _ hother, (if_neg hvk).trans htime⟩

/-- An opening that is not cut short reaches the current version. -/
lemma opening_completes (h : Admitted digest n db) (hn : n ≤ 4) (clock : Nat → TimeText) :
    ∃ status w, (migrateSchema digest).exec ⟨db, clock, none, true⟩ = (.ok status, w)
      ∧ Migrated digest clock n db 4 w.database := by
  have hspec : Triple (· = (⟨db, clock, none, true⟩ : Opening)) (migrateSchema digest)
      (fun _ => Migrating digest ⟨db, clock, none, true⟩ n 4)
      fun _ => Interrupted digest ⟨db, clock, none, true⟩ n := migrateSchema_spec h hn
  rcases hexec : (migrateSchema digest).exec ⟨db, clock, none, true⟩ with ⟨e | status, w⟩
  · obtain ⟨-, hreason⟩ := Triple.error hspec rfl hexec
    rcases hreason with hcommits | hbackup
    · exact absurd rfl hcommits
    · cases hbackup
  · exact ⟨status, w, rfl, (Triple.ok hspec rfl hexec).database⟩

/-- A table whose columns stay has the same rows. -/
lemma RowsKept.rows_eq {name : String} {schema : Schema} (h : RowsKept n db t)
    (hn : db.shape = shapeAt n) (hname : name ≠ "schema_migrations")
    (hdb : db.shape.schema? name = some schema) (ht : t.shape.schema? name = some schema) :
    t.rows name = db.rows name := by
  obtain ⟨k, hk⟩ := h (name, schema) (hn ▸ Shape.mem_of_schema? hdb) hname
  simp only at hk
  rw [hk]
  refine (List.map_congr_left fun row hrow => ?_).trans (List.map_id _)
  have hold := Schema.length_of_admits (db.admits_of_schema? hdb) hrow
  have hmem : row ++ List.replicate k .null ∈ t.rows name := by
    rw [hk]
    exact List.mem_map_of_mem hrow
  have hnew := Schema.length_of_admits (t.admits_of_schema? ht) hmem
  rw [List.length_append, hold, List.length_replicate] at hnew
  obtain rfl : k = 0 := by omega
  simp

/-- **Schema migration preserves memory**: a database of an older version (or an empty file, or
a current one) is opened any number of times, and each time the process may end between two
transactions, or the backup may fail; the next opening brings it to the current version.  It
has the rows it had and exactly the evidence of the four versions, and it is what a single
opening would have made at the times at which the migrations were done; a current database is
not changed. -/
theorem schema_migration_preserves_memory {n : Nat} {db : SqlDatabase} (hn : n ≤ 4)
    (h : Admitted digest n db) (attempts : List OpenAttempt) (clock : Nat → TimeText) :
    ∃ status w, (migrateSchema digest).exec
        ⟨attempts.foldl (openAttempt digest) db, clock, none, true⟩ = (.ok status, w)
      ∧ Admitted digest 4 w.database
      ∧ RowsKept n db w.database
      ∧ (0 < n → w.database.rows "long_horizon_task_memory" = db.rows "long_horizon_task_memory")
      ∧ (∃ times, (∀ v, times v = clock v ∨ ∃ attempt ∈ attempts, times v = attempt.clock v)
        ∧ ((migrateSchema digest).exec ⟨db, times, none, true⟩).2.database = w.database)
      ∧ (n = 4 → w.database = db) := by
  obtain ⟨m, hm, begun, hbegun, hclock⟩ := openAttempts_migrated h hn attempts
  obtain ⟨status, w, hexec, hfinished⟩ := opening_completes (hbegun.admitted h hm).1 hm clock
  have hall := hbegun.trans hfinished
  obtain ⟨hadmitted, hkept⟩ := hall.admitted h le_rfl
  refine ⟨status, w, hexec, hadmitted, hkept, fun hpos => ?_, ?_, fun hcurrent => ?_⟩
  · have hstages : ∀ m < 4, (shapeAt (m + 1)).schema? "long_horizon_task_memory"
        = some longHorizonTaskMemory := by
      decide +kernel
    obtain ⟨k, rfl⟩ : ∃ k, n = k + 1 := ⟨n - 1, by omega⟩
    have hbefore : db.shape.schema? "long_horizon_task_memory" = some longHorizonTaskMemory := by
      rw [h.shape]
      exact hstages k (by omega)
    have hafter : w.database.shape.schema? "long_horizon_task_memory" = some longHorizonTaskMemory := by
      rw [hadmitted.shape]
      exact hstages 3 (by omega)
    exact hkept.rows_eq h.shape (by decide +kernel) hbefore hafter
  · -- where no migration was committed early, the time is that of the last opening
    let times : Nat → TimeText := fun v => if n < v ∧ v ≤ m then begun v else clock v
    have htimes : Migrated digest times n db 4 w.database := by
      refine hall.congr_clock fun v hv _ => ?_
      by_cases hvm : v ≤ m
      · simp [times, hv, hvm]
      · simp [times, hvm]
    obtain ⟨_, w', hexec', hsingle⟩ := opening_completes h hn times
    refine ⟨times, fun v => ?_, ?_⟩
    · by_cases hv : n < v ∧ v ≤ m
      · obtain ⟨attempt, hattempt, htime⟩ := hclock v hv.1 hv.2
        exact .inr ⟨attempt, hattempt, (if_pos hv).trans htime⟩
      · exact .inl (if_neg hv)
    · rw [hexec']
      exact hsingle.unique htimes
  · subst hcurrent
    cases hall with
    | start => rfl
    | step hshorter ht =>
      have hle := hshorter.le
      omega

/-- A database of version 1 with one stage. -/
def stageDatabase : SqlDatabase where
  shape := shapeAt 1
  rows name :=
    let time : SqlValue := .text (ofString "2026-08-20T00:00:00.000Z")
    let word (s : String) : SqlValue := .text (ofString s)
    if name = "schema_migrations" then [[.integer 1, time, .text []]]
    else if name = "runtime_metadata" then [[word "feature_enabled_at", time]]
    else if name = "long_horizon_task_memory" then
      [[word "memory:1", word "task-1", word "teti_peer00001", .null, word "stage:1", .integer 1,
        word "lh_task-1_1", .integer 1, word "codex", word "codex.process", word "artifact-1",
        .integer 1, word "stage_handoff", word "peer_originated_reference",
        word "Deployment constraint", word "digest", time, time]]
    else []
  admitted := by decide +kernel

/-- It is opened, the process ends after the first migration, and it is opened again. -/
theorem schema_migration_preserves_memory_stage :
    ∃ status w, (migrateSchema fun _ => []).exec
        ⟨[⟨fun _ => ofString "2026-08-21T00:00:00.000Z", some 1, true⟩].foldl
          (openAttempt fun _ => []) stageDatabase, fun _ => ofString "2026-08-22T00:00:00.000Z", none, true⟩
        = (.ok status, w)
      ∧ Admitted (fun _ => []) 4 w.database
      ∧ w.database.rows "long_horizon_task_memory" = stageDatabase.rows "long_horizon_task_memory" := by
  obtain ⟨status, w, hexec, hadmitted, -, hstages, -, -⟩ :=
    schema_migration_preserves_memory (by omega)
      (⟨rfl, by decide +kernel⟩ : Admitted (fun _ => []) 1 stageDatabase)
      [⟨fun _ => ofString "2026-08-21T00:00:00.000Z", some 1, true⟩]
      fun _ => ofString "2026-08-22T00:00:00.000Z"
  exact ⟨status, w, hexec, hadmitted, hstages (by omega)⟩

end TetiBot.Memory

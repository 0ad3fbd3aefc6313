import TetiBot.Library.Relational

/-
The schema of the structured memory (`runtime/memory/structured-task-sqlite.ts`,
`structured-context-sqlite.ts`): what the statements of each version define.

* `DATABASE_SCHEMA_V1_SQL`, `DATABASE_MIGRATION_V2_SQL`, ...: the statements, in the order of
  the source.  Foreign keys and the actions of triggers are left out: no statement of a
  migration fills a table that refers to another, or updates one.
-/

namespace TetiBot.Memory

open Library Library.JsString

namespace Sql

/-- `name TEXT NOT NULL`; a column of a primary key is declared so too. -/
def text (name : String) : Column := ⟨name, .text, true⟩

variable (name : String)

/-- `name TEXT`. -/
def textOrNull : Column := ⟨name, .text, false⟩

/-- `name INTEGER NOT NULL`. -/
def integer (name : String) : Column := ⟨name, .integer, true⟩

/-- `name INTEGER`. -/
def integerOrNull : Column := ⟨name, .integer, false⟩

/-- `name = 'value'`. -/
def textIs (name value : String) : Check := .equals name (.text (ofString value))

/-- `name IN ('value', ...)`. -/
def textIn (values : List String) : Check :=
  .oneOf name (values.map fun value => .text (ofString value))

/-- `name = n`. -/
def integerIs (n : Int) : Check := .equals name (.integer n)

/-- `name IN (0, 1)`. -/
def flag : Check := .oneOf name [.integer 0, .integer 1]

/-- `name > 0`. -/
def positive : Check := .atLeast name 1

/-- `name >= 0`. -/
def natural : Check := .atLeast name 0

/-- `name IS NULL OR name > 0`. -/
def positiveOrNull : Check := .either (.isNull name) (positive name)

/-- A virtual table that `fts5` makes. -/
def fts (columns : List String) : Schema where
  columns := columns.map fun name => ⟨name, .any, false⟩

end Sql

open Sql

/-! ### Version 1 -/

def schemaMigrations : Schema where
  columns := [integer "version", text "applied_at", text "checksum"]
  unique := [["version"]]
  checks := [positive "version"]

def runtimeMetadata : Schema where
  columns := [text "key", text "value"]
  unique := [["key"]]

def longHorizonTaskMemory : Schema where
  columns := [text "memory_id", text "task_id", text "peer_teti_id", textOrNull "workspace_id",
    text "stage_id", integer "stage_index", text "execution_task_id", integerOrNull "execution_epoch",
    text "child_agent_id", text "connector_id", text "artifact_id", integer "workspace_revision",
    text "kind", text "trust", text "content", text "content_digest", text "created_at",
    text "captured_at"]
  unique := [["memory_id"], ["artifact_id"], ["task_id", "stage_index"]]
  checks := [positive "stage_index", positiveOrNull "execution_epoch", natural "workspace_revision",
    textIs "kind" "stage_handoff", textIs "trust" "peer_originated_reference"]

def DATABASE_SCHEMA_V1_SQL : List Statement := [
  .createTable "schema_migrations" schemaMigrations,
  .createTable "runtime_metadata" runtimeMetadata,
  .createTable "long_horizon_task_memory" longHorizonTaskMemory,
  .createIndex "long_horizon_task_memory_task_created" "long_horizon_task_memory"
    ["task_id", "stage_index"]]

/-! ### Version 2 -/

def memoryShadowManifests : Schema where
  columns := [text "manifest_id", text "execution_id", text "current_task_id", text "peer_teti_id",
    textOrNull "workspace_id", text "child_agent_id", text "mode", text "query_digest",
    text "generated_at", integer "cli_injection_enabled", integer "maximum_candidates",
    integer "maximum_context_bytes", integer "candidate_count", integer "candidate_bytes",
    text "scope_counts_json", text "manifest_digest"]
  unique := [["manifest_id"], ["execution_id"]]
  checks := [textIs "mode" "shadow", integerIs "cli_injection_enabled" 0,
    positive "maximum_candidates", positive "maximum_context_bytes", natural "candidate_count",
    natural "candidate_bytes"]

def memoryShadowCandidates : Schema where
  columns := [text "manifest_id", text "memory_id", text "source_task_id", text "scope", text "kind",
    text "trust", integer "version", integer "rank", integer "score", text "reasons_json",
    text "item_digest", integer "content_bytes", text "created_at",
    integer "eligible_for_cli_injection"]
  unique := [["manifest_id", "memory_id"], ["manifest_id", "rank"]]
  checks := [textIn "scope" ["task", "workspace", "peer"], textIs "kind" "stage_handoff",
    textIs "trust" "peer_originated_reference", integerIs "version" 1, positive "rank",
    positive "content_bytes", integerIs "eligible_for_cli_injection" 0]

def DATABASE_MIGRATION_V2_SQL : List Statement := [
  .createTable "long_horizon_task_memory_fts" (fts ["memory_id", "content"]),
  .insertSelect "long_horizon_task_memory_fts" ["memory_id", "content"]
    "long_horizon_task_memory" ["memory_id", "content"],
  .createIndex "long_horizon_task_memory_child_task_created" "long_horizon_task_memory"
    ["child_agent_id", "task_id", "created_at", "memory_id"],
  .createIndex "long_horizon_task_memory_child_workspace_created" "long_horizon_task_memory"
    ["child_agent_id", "workspace_id", "created_at", "memory_id"],
  .createIndex "long_horizon_task_memory_child_peer_created" "long_horizon_task_memory"
    ["child_agent_id", "peer_teti_id", "created_at", "memory_id"],
  .createTable "memory_shadow_manifests" memoryShadowManifests,
  .createTable "memory_shadow_candidates" memoryShadowCandidates,
  .createIndex "memory_shadow_manifests_task_generated" "memory_shadow_manifests"
    ["current_task_id", "generated_at", "manifest_id"],
  .createIndex "memory_shadow_candidates_manifest_rank" "memory_shadow_candidates"
    ["manifest_id", "rank"],
  .createTrigger "memory_shadow_manifests_no_update" "memory_shadow_manifests",
  .createTrigger "memory_shadow_candidates_no_update" "memory_shadow_candidates"]

/-! ### Version 3 -/

def structuredMemoryItems : Schema where
  columns := [text "memory_id", text "source_memory_id", text "source_task_id", text "peer_teti_id",
    textOrNull "workspace_id", text "child_agent_id", integer "current_version", text "trust",
    text "created_at", text "updated_at"]
  unique := [["memory_id"], ["source_memory_id"]]
  checks := [positive "current_version", textIs "trust" "local_user_confirmed"]

def structuredMemoryVersions : Schema where
  columns := [text "memory_id", integer "version", text "scope", text "kind", text "title",
    text "content", text "content_digest", integer "pinned", text "editor", text "created_at"]
  unique := [["memory_id", "version"]]
  checks := [positive "version", textIn "scope" ["task", "workspace", "peer"],
    textIn "kind" ["decision", "constraint", "fact", "open_question", "handoff", "summary", "local_note"],
    flag "pinned", textIs "editor" "local_user"]

def structuredMemoryAuthorizations : Schema where
  columns := [text "scope", text "scope_key", textOrNull "workspace_id", textOrNull "peer_teti_id",
    text "child_agent_id", integer "enabled", textOrNull "authorized_at", textOrNull "revoked_at"]
  unique := [["scope", "scope_key", "child_agent_id"]]
  checks := [textIn "scope" ["workspace", "peer"], flag "enabled",
    .either
      (.both (.both (textIs "scope" "workspace") (.equalsColumn "workspace_id" "scope_key"))
        (.isNull "peer_teti_id"))
      (.both (.both (textIs "scope" "peer") (.equalsColumn "peer_teti_id" "scope_key"))
        (.isNull "workspace_id")),
    .either
      (.both (.both (integerIs "enabled" 1) (.isNotNull "authorized_at")) (.isNull "revoked_at"))
      (.both (integerIs "enabled" 0) (.isNotNull "revoked_at"))]

/-- The columns of `structured_memory_deletions`, in both versions. -/
def deletionColumns : List String :=
  ["memory_id", "source_memory_id", "prior_content_digest", "deleted_at", "actor", "reason_code"]

def structuredMemoryDeletionsV3 : Schema where
  columns := deletionColumns.map text
  unique := [["memory_id"]]
  checks := [textIs "actor" "local_user", textIs "reason_code" "user_deleted"]

def structuredMemoryPreviews : Schema where
  columns := [text "preview_id", text "task_id", text "peer_teti_id", textOrNull "workspace_id",
    text "child_agent_id", text "query_digest", text "generated_at", text "expires_at",
    integer "candidate_count", integer "candidate_bytes", text "scope_authorizations_json",
    text "preview_digest", textOrNull "approved_at", textOrNull "consumed_at",
    textOrNull "invalidated_at"]
  unique := [["preview_id"]]
  checks := [natural "candidate_count", natural "candidate_bytes"]

def structuredMemoryPreviewCandidates : Schema where
  columns := [text "preview_id", text "memory_id", integer "version", text "source_task_id",
    text "scope", text "kind", integer "selection_order", integerOrNull "rank", integer "score",
    text "reasons_json", text "item_digest", integer "content_bytes", integer "included"]
  unique := [["preview_id", "memory_id"], ["preview_id", "selection_order"], ["preview_id", "rank"]]
  checks := [positive "version", textIn "scope" ["task", "workspace", "peer"],
    positive "selection_order", positiveOrNull "rank", positive "content_bytes", flag "included",
    .either (.both (integerIs "included" 1) (.isNotNull "rank"))
      (.both (integerIs "included" 0) (.isNull "rank"))]

def structuredMemoryInjectionManifests : Schema where
  columns := [text "manifest_id", text "preview_id", text "execution_id", text "current_task_id",
    text "generated_at", text "mode", integer "cli_injection_enabled", integer "candidate_count",
    integer "candidate_bytes", text "manifest_digest"]
  unique := [["manifest_id"], ["preview_id"], ["execution_id"]]
  checks := [textIs "mode" "injected", integerIs "cli_injection_enabled" 1,
    positive "candidate_count", positive "candidate_bytes"]

def structuredMemoryInjectionCandidates : Schema where
  columns := [text "manifest_id", text "memory_id", integer "version", text "source_task_id",
    text "scope", text "kind", text "trust", integer "rank", integer "score", text "reasons_json",
    text "item_digest", integer "content_bytes", text "created_at"]
  unique := [["manifest_id", "memory_id"], ["manifest_id", "rank"]]
  checks := [positive "version", textIn "scope" ["task", "workspace", "peer"],
    textIs "trust" "local_user_confirmed", positive "rank", positive "content_bytes"]

def DATABASE_MIGRATION_V3_SQL : List Statement := [
  .createTable "structured_memory_items" structuredMemoryItems,
  .createTable "structured_memory_versions" structuredMemoryVersions,
  .createTable "structured_memory_items_fts" (fts ["memory_id", "title", "content"]),
  .createTable "structured_memory_authorizations" structuredMemoryAuthorizations,
  .createTable "structured_memory_deletions" structuredMemoryDeletionsV3,
  .createTable "structured_memory_previews" structuredMemoryPreviews,
  .createTable "structured_memory_preview_candidates" structuredMemoryPreviewCandidates,
  .createTable "structured_memory_injection_manifests" structuredMemoryInjectionManifests,
  .createTable "structured_memory_injection_candidates" structuredMemoryInjectionCandidates,
  .createIndex "structured_memory_items_source_task" "structured_memory_items"
    ["source_task_id", "updated_at", "memory_id"],
  .createIndex "structured_memory_items_scope_child" "structured_memory_items"
    ["child_agent_id", "peer_teti_id", "workspace_id", "source_task_id"],
  .createIndex "structured_memory_previews_task_generated" "structured_memory_previews"
    ["task_id", "child_agent_id", "generated_at"],
  .createIndex "structured_memory_injection_task_generated" "structured_memory_injection_manifests"
    ["current_task_id", "generated_at", "manifest_id"],
  .createTrigger "structured_memory_versions_no_update" "structured_memory_versions",
  .createTrigger "structured_memory_deletions_no_update" "structured_memory_deletions",
  .createTrigger "structured_memory_injection_manifests_no_update"
    "structured_memory_injection_manifests",
  .createTrigger "structured_memory_injection_candidates_no_update"
    "structured_memory_injection_candidates"]

/-! ### Version 4 -/

def structuredMemoryDeletions : Schema where
  columns := deletionColumns.map text
  unique := [["memory_id"]]
  checks := [textIn "actor" ["local_user", "local_maintenance"],
    textIn "reason_code" ["user_deleted", "expired"]]

def metricKeys : List String :=
  ["candidate_count", "selected_count", "budget_rejected_count", "scope_rejected_count",
    "deletion_success_count", "expiration_success_count"]

def structuredMemoryMetrics : Schema where
  columns := [text "key", integer "value"]
  unique := [["key"]]
  checks := [textIn "key" metricKeys, natural "value"]

def structuredMemoryMaintenanceEvents : Schema where
  columns := [text "event_id", text "executed_at", integer "expired_item_count",
    integer "expired_preview_count", integer "invalid_preview_count"]
  unique := [["event_id"]]
  checks := [natural "expired_item_count", natural "expired_preview_count",
    natural "invalid_preview_count"]

def DATABASE_MIGRATION_V4_SQL : List Statement := [
  .addColumn "structured_memory_items" (textOrNull "expires_at"),
  .createIndex "structured_memory_items_expiry" "structured_memory_items" ["expires_at", "memory_id"],
  .dropTrigger "structured_memory_deletions_no_update",
  .renameTable "structured_memory_deletions" "structured_memory_deletions_v3",
  .createTable "structured_memory_deletions" structuredMemoryDeletions,
  .insertSelect "structured_memory_deletions" deletionColumns
    "structured_memory_deletions_v3" deletionColumns,
  .dropTable "structured_memory_deletions_v3",
  .createTrigger "structured_memory_deletions_no_update" "structured_memory_deletions",
  .createTable "structured_memory_metrics" structuredMemoryMetrics,
  .insertValues "structured_memory_metrics" ["key", "value"]
    (metricKeys.map fun key => [.text (ofString key), .integer 0]),
  .createTable "structured_memory_maintenance_events" structuredMemoryMaintenanceEvents,
  .createTrigger "structured_memory_maintenance_events_no_update"
    "structured_memory_maintenance_events"]

end TetiBot.Memory

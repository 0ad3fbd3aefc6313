import TetiBot.Callable.Authority
import TetiBot.Core.Dates
import TetiBot.Library.Program

/-
The memory database (`runtime/memory/structured-task-sqlite.ts`,
`runtime/memory/structured-context-sqlite.ts`, `core/memory/*.ts`).

* `StageRow`, `ItemRow`, `AuthorizationRow`, `DeletionRow`, `PreviewRow`,
  `InjectionRow`, `ShadowRow`: the rows of its tables.  An item is joined with
  its current version, a preview and a manifest with their candidates in order;
  older versions are read by nothing.
* `Database`: the tables, the oldest row first.  The full text indexes
  are read off the rows; the metrics, the maintenance events and the columns that
  nothing else reads are left out, and so are the `CHECK`s that always hold.
* `MemoryEnv`: what the operations ask of the runtime and of the SQLite library.

Times are texts, as the store keeps them: a query compares them as texts, the
code parses them.
-/

namespace TetiBot.Memory

open Library Library.JsString

/-! ### Errors and limits -/

inductive MemoryErrorCode
  | storeUnavailable | storeReadOnly | inputInvalid | sourceConflict | storeFull
  deriving DecidableEq

/-- `StructuredTaskMemoryStoreError`. -/
structure MemoryError where
  code : MemoryErrorCode
  message : String
  deriving DecidableEq

/-- `invalid(label)`. -/
def invalid (label : String) : MemoryError := ⟨.inputInvalid, label ++ " is invalid."⟩

def conflict (message : String) : MemoryError := ⟨.sourceConflict, message⟩

def full (message : String) : MemoryError := ⟨.storeFull, message⟩

/-- What callers see of any other error, a violated constraint of a table among
them (`asStoreUnavailable`). -/
def unavailable : MemoryError := ⟨.storeUnavailable, "Structured task memory is unavailable."⟩

def STRUCTURED_TASK_MEMORY_LIMITS.maximumContentBytes : Nat := 4 * 1024
def STRUCTURED_TASK_MEMORY_LIMITS.maximumStagesPerTask : Nat := 16

def MEMORY_SHADOW_RETRIEVAL_LIMITS.maximumCandidates : Nat := 8
def MEMORY_SHADOW_RETRIEVAL_LIMITS.maximumContextBytes : Nat := 12 * 1024
def MEMORY_SHADOW_RETRIEVAL_LIMITS.maximumQueryBytes : Nat := 8 * 1024
def MEMORY_SHADOW_RETRIEVAL_LIMITS.maximumQueryTokens : Nat := 16
def MEMORY_SHADOW_RETRIEVAL_LIMITS.maximumManifestsPerTask : Nat := 256

def STRUCTURED_MEMORY_CONTEXT_LIMITS.maximumTitleCharacters : Nat := 80
def STRUCTURED_MEMORY_CONTEXT_LIMITS.maximumContentBytes : Nat := 4 * 1024
def STRUCTURED_MEMORY_CONTEXT_LIMITS.maximumPreviewCandidates : Nat := 16
def STRUCTURED_MEMORY_CONTEXT_LIMITS.maximumInjectedCandidates : Nat := 8
def STRUCTURED_MEMORY_CONTEXT_LIMITS.maximumInjectedBytes : Nat := 12 * 1024
def STRUCTURED_MEMORY_CONTEXT_LIMITS.previewTtlMs : Nat := 10 * 60 * 1000

def STRUCTURED_MEMORY_STORE_LIMITS.expiredPreviewRetentionMs : Nat := 24 * 60 * 60 * 1000

/-! ### Times -/

/-- A time as a text. -/
abbrev TimeText : Type := JsString

section

variable (parseDate : TimeText → Option Timestamp)

def isTimestamp (value : TimeText) : Bool := (parseDate value).isSome

/-- `Date.parse(left) < Date.parse(right)`. -/
def parsesBefore (left right : TimeText) : Bool :=
  match parseDate left, parseDate right with
  | some l, some r => l < r
  | _, _ => false

end

/-- `left < right` in a query. -/
def textBefore (left right : TimeText) : Bool := decide (left < right)

/-! ### Kinds -/

inductive StructuredMemoryScope
  | task | workspace | peer
  deriving DecidableEq

def StructuredMemoryScope.text : StructuredMemoryScope → String
  | .task => "task"
  | .workspace => "workspace"
  | .peer => "peer"

/-- The scopes that the owner authorizes one by one. -/
inductive AuthorizedScope
  | workspace | peer
  deriving DecidableEq

def AuthorizedScope.scope : AuthorizedScope → StructuredMemoryScope
  | .workspace => .workspace
  | .peer => .peer

inductive StructuredMemoryKind
  | decision | constraint | fact | openQuestion | handoff | summary | localNote
  deriving DecidableEq

def StructuredMemoryKind.text : StructuredMemoryKind → String
  | .decision => "decision"
  | .constraint => "constraint"
  | .fact => "fact"
  | .openQuestion => "open_question"
  | .handoff => "handoff"
  | .summary => "summary"
  | .localNote => "local_note"

/-- Why a candidate was selected, by a preview or by shadow retrieval. -/
inductive SelectionReason
  | exactTask | exactWorkspace | exactPeer | pinned | kindPriority | stageHandoff | keywordMatch
  | recent
  deriving DecidableEq

def SelectionReason.text : SelectionReason → String
  | .exactTask => "exact_task"
  | .exactWorkspace => "exact_workspace"
  | .exactPeer => "exact_peer"
  | .pinned => "pinned"
  | .kindPriority => "kind_priority"
  | .stageHandoff => "stage_handoff"
  | .keywordMatch => "keyword_match"
  | .recent => "recent"

/-- The reason that names a scope. -/
def StructuredMemoryScope.reason : StructuredMemoryScope → SelectionReason
  | .task => .exactTask
  | .workspace => .exactWorkspace
  | .peer => .exactPeer

/-- What a scope adds to a score. -/
def StructuredMemoryScope.score : StructuredMemoryScope → Nat
  | .task => 300
  | .workspace => 200
  | .peer => 100

/-! ### Rows -/

/-- A row of `long_horizon_task_memory`. -/
structure StageRow where
  memoryId : String
  taskId : String
  peerTetiId : String
  workspaceId : Option String
  stageId : String
  stageIndex : Nat
  executionTaskId : String
  executionEpoch : Option Nat
  childAgentId : String
  connectorId : String
  artifactId : String
  workspaceRevision : Nat
  content : JsString
  contentDigest : String
  createdAt : TimeText
  deriving DecidableEq

/-- A row of `structured_memory_items`, with its current version. -/
structure ItemRow where
  memoryId : String
  sourceMemoryId : String
  sourceTaskId : String
  peerTetiId : String
  workspaceId : Option String
  childAgentId : String
  currentVersion : Nat
  createdAt : TimeText
  updatedAt : TimeText
  expiresAt : Option TimeText
  scope : StructuredMemoryScope
  kind : StructuredMemoryKind
  title : JsString
  content : JsString
  contentDigest : String
  pinned : Bool
  deriving DecidableEq

/-- A row of `structured_memory_authorizations`. -/
structure AuthorizationRow where
  scope : AuthorizedScope
  scopeKey : String
  childAgentId : String
  enabled : Bool
  authorizedAt : Option TimeText
  revokedAt : Option TimeText
  deriving DecidableEq

inductive DeletionReason
  | userDeleted | expired
  deriving DecidableEq

/-- A row of `structured_memory_deletions`. -/
structure DeletionRow where
  memoryId : String
  sourceMemoryId : String
  priorContentDigest : String
  deletedAt : TimeText
  reasonCode : DeletionReason
  deriving DecidableEq

/-- `StructuredMemoryScopeAuthorization`. -/
structure ScopeAuthorization where
  scope : StructuredMemoryScope
  available : Bool
  enabled : Bool
  requiresExplicitAuthorization : Bool
  authorizedAt : Option TimeText
  revokedAt : Option TimeText
  eligibleItemCount : Nat
  deriving DecidableEq

/-- A row of `structured_memory_preview_candidates`. -/
structure PreviewCandidateRow where
  memoryId : String
  version : Nat
  sourceTaskId : String
  scope : StructuredMemoryScope
  kind : StructuredMemoryKind
  rank : Option Nat
  score : Nat
  reasons : List SelectionReason
  itemDigest : String
  contentBytes : Nat
  included : Bool
  deriving DecidableEq

/-- A row of `structured_memory_previews`, with its candidates in their order. -/
structure PreviewRow where
  previewId : String
  taskId : String
  peerTetiId : String
  workspaceId : Option String
  childAgentId : String
  queryDigest : String
  generatedAt : TimeText
  expiresAt : TimeText
  candidateCount : Nat
  candidateBytes : Nat
  scopeAuthorizations : List ScopeAuthorization
  previewDigest : String
  approvedAt : Option TimeText := none
  consumedAt : Option TimeText := none
  invalidatedAt : Option TimeText := none
  candidates : List PreviewCandidateRow
  deriving DecidableEq

/-- A row of `structured_memory_injection_candidates`. -/
structure InjectionCandidate where
  memoryId : String
  version : Nat
  sourceTaskId : String
  scope : StructuredMemoryScope
  kind : StructuredMemoryKind
  rank : Nat
  score : Nat
  reasons : List SelectionReason
  itemDigest : String
  contentBytes : Nat
  createdAt : TimeText
  deriving DecidableEq

/-- A row of `structured_memory_injection_manifests`, with its candidates by rank:
`StructuredMemoryInjectionManifest`. -/
structure InjectionManifest where
  manifestId : String
  previewId : String
  executionId : String
  currentTaskId : String
  generatedAt : TimeText
  candidateCount : Nat
  candidateBytes : Nat
  candidates : List InjectionCandidate
  manifestDigest : String
  deriving DecidableEq

/-- A row of `memory_shadow_candidates`. -/
structure ShadowCandidate where
  memoryId : String
  sourceTaskId : String
  scope : StructuredMemoryScope
  rank : Nat
  score : Nat
  reasons : List SelectionReason
  itemDigest : String
  contentBytes : Nat
  createdAt : TimeText
  deriving DecidableEq

/-- A row of `memory_shadow_manifests`, with its candidates by rank. -/
structure ShadowManifest where
  manifestId : String
  executionId : String
  currentTaskId : String
  peerTetiId : String
  workspaceId : Option String
  childAgentId : String
  queryDigest : String
  generatedAt : TimeText
  maximumCandidates : Nat
  maximumContextBytes : Nat
  candidateCount : Nat
  candidateBytes : Nat
  scopeCandidateCounts : Nat × Nat × Nat
  candidates : List ShadowCandidate
  manifestDigest : String
  deriving DecidableEq

structure Database where
  featureEnabledAt : TimeText
  stages : List StageRow
  items : List ItemRow
  authorizations : List AuthorizationRow
  deletions : List DeletionRow
  previews : List PreviewRow
  injections : List InjectionManifest
  shadows : List ShadowManifest
  deriving DecidableEq

/-- The database that a first start creates. -/
def Database.created (featureEnabledAt : TimeText) : Database :=
  ⟨featureEnabledAt, [], [], [], [], [], [], []⟩

/-! ### The environment -/

structure MemoryEnv where
  sha256 : Sha256
  /-- `Date.parse`. -/
  parseDate : TimeText → Option Timestamp
  /-- `left.localeCompare(right) < 0`. -/
  localeBefore : JsString → JsString → Bool
  /-- `value.normalize("NFKC").toLocaleLowerCase("en-US")`. -/
  normalized : JsString → JsString
  /-- `value.match(/[\p{L}\p{N}_-]+/gu) ?? []`. -/
  words : JsString → List JsString
  /-- A full text index matches a query on the columns of a row. -/
  ftsMatches : JsString → List JsString → Bool
  /-- The mode of the store is `ready`. -/
  writable : Bool
  databaseBytes : Database → Nat
  maximumDatabaseBytes : Nat

/-- The programs of the store. -/
abbrev MemoryProgram (α : Type) : Type := Program MemoryError Database α

section

variable (env : MemoryEnv)

/-- `sha256(value).slice(0, 32)` after a prefix. -/
def shortId (idPrefix : String) (value : JsString) : String :=
  idPrefix ++ String.ofList ((env.sha256 value).toList.take 32)

def requireWritableDatabase : MemoryProgram Unit :=
  Program.throwIf (env.writable = false)
    ⟨.storeReadOnly, "Structured task memory is in safe read-only mode."⟩

def requireQuotaAvailable (db : Database) : MemoryProgram Unit :=
  Program.throwIf (env.maximumDatabaseBytes ≤ env.databaseBytes db)
    (full "Structured task memory reached its database quota.")

/-- `tokenize` and `tokenizeShadowQuery`. -/
def tokenize (value : JsString) : List JsString :=
  let tokens := (env.words (env.normalized value)).filter fun token => 2 ≤ token.length
  (tokens.eraseDups.insertionSort fun left right => env.localeBefore right left = false).take
    MEMORY_SHADOW_RETRIEVAL_LIMITS.maximumQueryTokens

/-- The query of a full text index for some tokens. -/
def matchQuery (tokens : List JsString) : JsString :=
  join (ofString " OR ") (tokens.map fun token =>
    0x22 :: token.flatMap (fun u => if u = 0x22 then [0x22, 0x22] else [u]) ++ [0x22])

/-- `text.includes(token)`. -/
def includes (text token : JsString) : Bool := text.tails.any token.isPrefixOf

/-- How many tokens a text holds, if the index matched its row. -/
def keywordCount (tokens : List JsString) (columns : List JsString) (text : JsString) : Nat :=
  if tokens ≠ [] ∧ env.ftsMatches (matchQuery tokens) columns = true then
    tokens.countP fun token => includes (env.normalized text) token
  else 0

/-- `Math.max(0, 30 - ageDays)`. -/
def recencyScore (generatedAt createdAt : TimeText) : Nat :=
  match env.parseDate generatedAt, env.parseDate createdAt with
  | some g, some c => 30 - ((g - c) / 86400000).toNat
  | _, _ => 0

end

/-! ### Checks -/

def failIf (c : Prop) [Decidable c] (e : MemoryError) : Except MemoryError Unit :=
  if c then .error e else .ok ()

def requireSafeId (value label : String) : Except MemoryError Unit :=
  failIf (safeLongId value = false) (invalid label)

def requireAgentId (value : String) : Except MemoryError Unit :=
  failIf (safeSlugPattern value = false) (invalid "Child Agent ID")

/-- An optional id. -/
def requireSafeId? (value : Option String) (label : String) : Except MemoryError Unit :=
  failIf (value.all safeLongId = false) (invalid label)

/-- `Number.isSafeInteger`. -/
def isSafeInteger (n : Nat) : Bool := n ≤ MAX_SAFE_INTEGER

end TetiBot.Memory

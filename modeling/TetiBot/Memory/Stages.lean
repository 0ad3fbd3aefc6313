import TetiBot.Memory.Types

/-
Stage memories and shadow retrieval
(`runtime/memory/structured-task-sqlite.ts`, `core/memory/shadow-retrieval.ts`).

* `saveStage`: the memory of a completed stage is stored once;
* `createShadowManifest`: which stage memories a query would have selected; the
  manifest of an execution is stored once and only names what it selected.
-/

namespace TetiBot.Memory

open Library Library.JsString

/-! ### Saving a stage -/

structure LongHorizonStageMemoryInput where
  taskId : String
  taskCreatedAt : TimeText
  peerTetiId : String
  workspaceId : Option String
  stageId : String
  stageIndex : Nat
  executionTaskId : String
  executionEpoch : Option Nat
  childAgentId : String
  connectorId : String
  artifactId : String
  workspaceRevision : Nat
  content : JsString
  createdAt : TimeText
  deriving DecidableEq

def validateStageInput (parseDate : TimeText → Option Timestamp)
    (input : LongHorizonStageMemoryInput) : Except MemoryError Unit := do
  requireSafeId input.taskId "Task ID"
  requireSafeId input.stageId "Stage ID"
  requireSafeId input.executionTaskId "Execution Task ID"
  requireSafeId input.artifactId "Artifact ID"
  requireSafeId input.peerTetiId "Peer Teti ID"
  requireSafeId? input.workspaceId "Workspace ID"
  requireAgentId input.childAgentId
  requireSafeId input.connectorId "Connector ID"
  failIf (input.stageIndex < 1
      ∨ STRUCTURED_TASK_MEMORY_LIMITS.maximumStagesPerTask < input.stageIndex)
    (invalid "Stage index")
  failIf (input.executionEpoch.any fun epoch => !isSafeInteger epoch || epoch < 1)
    (invalid "Execution epoch")
  failIf (isSafeInteger input.workspaceRevision = false) (invalid "Workspace revision")
  failIf (isTimestamp parseDate input.taskCreatedAt = false
      ∨ isTimestamp parseDate input.createdAt = false)
    (invalid "Timestamp")
  failIf (isBlank input.content
      ∨ STRUCTURED_TASK_MEMORY_LIMITS.maximumContentBytes < utf8Size input.content)
    (invalid "Content")

namespace Database

variable (db : Database)

/-- The stage memory of a task and a stage index. -/
def stageAt? (taskId : String) (stageIndex : Nat) : Option StageRow :=
  db.stages.find? fun row => row.taskId == taskId && row.stageIndex == stageIndex

/-- An item made from a stage memory was deleted. -/
def sourceDeleted (sourceMemoryId : String) : Bool :=
  db.deletions.any fun row => row.sourceMemoryId == sourceMemoryId

end Database

section

variable (env : MemoryEnv) (input : LongHorizonStageMemoryInput)

/-- `memoryId(input)`. -/
def stageMemoryId : String :=
  shortId env "lhm_" (ofString input.taskId ++ [0] ++ ofString (toString input.stageIndex) ++ [0]
    ++ ofString input.artifactId)

def stageRow : StageRow where
  memoryId := stageMemoryId env input
  taskId := input.taskId
  peerTetiId := input.peerTetiId
  workspaceId := input.workspaceId
  stageId := input.stageId
  stageIndex := input.stageIndex
  executionTaskId := input.executionTaskId
  executionEpoch := input.executionEpoch
  childAgentId := input.childAgentId
  connectorId := input.connectorId
  artifactId := input.artifactId
  workspaceRevision := input.workspaceRevision
  content := input.content
  contentDigest := digest env.sha256 input.content
  createdAt := input.createdAt

/-- The stage limit and the constraints of the table; that no row has the task and
the stage index was seen before. -/
def insertStage (db : Database) : MemoryProgram Unit := do
  Program.throwIf (STRUCTURED_TASK_MEMORY_LIMITS.maximumStagesPerTask
      ≤ db.stages.countP fun row => row.taskId == input.taskId)
    ⟨.inputInvalid, "The collaboration reached its bounded memory stage limit."⟩
  Program.throwIf (db.stages.any fun row =>
      row.memoryId == stageMemoryId env input || row.artifactId == input.artifactId)
    unavailable
  Program.writes fun db => { db with stages := db.stages ++ [stageRow env input] }

def saveStage : MemoryProgram Unit := do
  Program.fromExcept (validateStageInput env.parseDate input)
  requireWritableDatabase env
  let db ← Program.reads id
  requireQuotaAvailable env db
  if parsesBefore env.parseDate input.taskCreatedAt db.featureEnabledAt = true then return ()
  match db.stageAt? input.taskId input.stageIndex with
  | some existing =>
    if db.sourceDeleted existing.memoryId = true then return ()
    Program.throwIf (¬(existing.artifactId = input.artifactId
        ∧ existing.contentDigest = digest env.sha256 input.content))
      (conflict "A different Artifact is already stored for this collaboration stage.")
  | none => insertStage env input db

end

/-! ### Shadow retrieval -/

/-- The task that a query is about, and who works on it for whom. -/
structure ContextIdentity where
  taskId : String
  peerTetiId : String
  workspaceId : Option String
  childAgentId : String
  deriving DecidableEq

structure MemoryShadowRetrievalInput extends ContextIdentity where
  executionId : String
  queryText : JsString
  generatedAt : TimeText
  deriving DecidableEq

def validateShadowInput (parseDate : TimeText → Option Timestamp)
    (input : MemoryShadowRetrievalInput) : Except MemoryError Unit := do
  requireSafeId input.executionId "Execution ID"
  requireSafeId input.taskId "Task ID"
  requireSafeId input.peerTetiId "Peer Teti ID"
  requireSafeId? input.workspaceId "Workspace ID"
  requireAgentId input.childAgentId
  failIf (isTimestamp parseDate input.generatedAt = false) (invalid "Shadow Retrieval timestamp")
  failIf (MEMORY_SHADOW_RETRIEVAL_LIMITS.maximumQueryBytes < utf8Size input.queryText)
    (invalid "Shadow Retrieval query")

/-- `boundMemoryShadowQueryText`: the longest prefix of whole characters. -/
def boundMemoryShadowQueryText (value : JsString) : JsString :=
  let normalized := trim value
  let fitting := (List.range ((characters normalized).length + 1)).takeWhile fun n =>
    utf8Size (prefixOf (characters normalized) n)
      ≤ MEMORY_SHADOW_RETRIEVAL_LIMITS.maximumQueryBytes
  if utf8Size normalized ≤ MEMORY_SHADOW_RETRIEVAL_LIMITS.maximumQueryBytes then normalized
  else prefixOf (characters normalized) (fitting.length - 1)

structure RankedShadowMemory where
  memoryId : String
  sourceTaskId : String
  scope : StructuredMemoryScope
  score : Nat
  reasons : List SelectionReason
  itemDigest : String
  contentBytes : Nat
  createdAt : TimeText

/-- The narrowest scope that a row and a query share. -/
def sharedScope (row : StageRow) (input : ContextIdentity) : Option StructuredMemoryScope :=
  if row.taskId = input.taskId then some .task
  else if input.workspaceId.isSome ∧ row.workspaceId = input.workspaceId then some .workspace
  else if row.peerTetiId = input.peerTetiId then some .peer
  else none

section

variable (env : MemoryEnv)

def rankShadowMemory (row : StageRow) (input : MemoryShadowRetrievalInput)
    (queryTokens : List JsString) : Option RankedShadowMemory :=
  (sharedScope row input.toContextIdentity).map fun scope =>
    let keywords := keywordCount env queryTokens [row.content] row.content
    let recency := recencyScore env input.generatedAt row.createdAt
    { memoryId := row.memoryId
      sourceTaskId := row.taskId
      scope := scope
      score := scope.score + 40 + keywords * 25 + recency
      reasons := [scope.reason, .stageHandoff] ++ (if 0 < keywords then [.keywordMatch] else [])
        ++ if 0 < recency then [.recent] else []
      itemDigest := row.contentDigest
      contentBytes := utf8Size row.content
      createdAt := row.createdAt }

/-- `compareRankedShadowMemory(left, right) < 0`. -/
def shadowBefore (left right : RankedShadowMemory) : Bool :=
  if left.score ≠ right.score then right.score < left.score
  else if env.parseDate left.createdAt ≠ env.parseDate right.createdAt then
    parsesBefore env.parseDate right.createdAt left.createdAt
  else env.localeBefore (ofString left.memoryId) (ofString right.memoryId)

/-- The stage memories that a query may select, the best first. -/
def rankedShadowMemories (db : Database) (input : MemoryShadowRetrievalInput) :
    List RankedShadowMemory :=
  let rows := db.stages.filter fun row =>
    row.childAgentId == input.childAgentId && row.content != []
      && (row.taskId == input.taskId
        || (row.workspaceId.isSome && row.workspaceId == input.workspaceId)
        || row.peerTetiId == input.peerTetiId)
  let queryTokens := tokenize env input.queryText
  let ranked := (rows.filter fun row =>
      (env.parseDate row.createdAt).isSome
        && !parsesBefore env.parseDate input.generatedAt row.createdAt).filterMap
    fun row => rankShadowMemory env row input queryTokens
  ranked.insertionSort fun left right => shadowBefore env right left = false

/-- Take a candidate, if there is room for it. -/
def selectShadowCandidate (candidates : List ShadowCandidate) (candidate : RankedShadowMemory) :
    List ShadowCandidate :=
  if MEMORY_SHADOW_RETRIEVAL_LIMITS.maximumCandidates ≤ candidates.length
      ∨ MEMORY_SHADOW_RETRIEVAL_LIMITS.maximumContextBytes
        < (candidates.map ShadowCandidate.contentBytes).sum + candidate.contentBytes then
    candidates
  else
    candidates ++ [{
      memoryId := candidate.memoryId
      sourceTaskId := candidate.sourceTaskId
      scope := candidate.scope
      rank := candidates.length + 1
      score := candidate.score
      reasons := candidate.reasons
      itemDigest := candidate.itemDigest
      contentBytes := candidate.contentBytes
      createdAt := candidate.createdAt }]

def reasonsJson (reasons : List SelectionReason) : Json :=
  .arr (reasons.map fun reason => jsonString reason.text)

def optionalNumberJson : Option Nat → Json
  | none => .null
  | some n => .num n

def ShadowCandidate.json (candidate : ShadowCandidate) : Json :=
  .obj [("schemaVersion", .num 1), ("memoryId", jsonString candidate.memoryId),
    ("sourceTaskId", jsonString candidate.sourceTaskId),
    ("scope", jsonString candidate.scope.text), ("kind", jsonString "stage_handoff"),
    ("trust", jsonString "peer_originated_reference"), ("version", .num 1),
    ("rank", .num candidate.rank), ("score", .num candidate.score),
    ("reasons", reasonsJson candidate.reasons), ("itemDigest", jsonString candidate.itemDigest),
    ("contentBytes", .num candidate.contentBytes), ("createdAt", .str candidate.createdAt),
    ("eligibleForCliInjection", .bool false)]

variable (manifest : ShadowManifest)

/-- The digest of the manifest without its digest. -/
def ShadowManifest.digestCore : String :=
  digest env.sha256 (Json.stringify (.obj [("schemaVersion", .num 1),
    ("manifestId", jsonString manifest.manifestId), ("mode", jsonString "shadow"),
    ("executionId", jsonString manifest.executionId),
    ("currentTaskId", jsonString manifest.currentTaskId),
    ("generatedAt", .str manifest.generatedAt), ("queryDigest", jsonString manifest.queryDigest),
    ("cliInjectionEnabled", .bool false), ("maximumCandidates", .num manifest.maximumCandidates),
    ("maximumContextBytes", .num manifest.maximumContextBytes),
    ("candidateCount", .num manifest.candidateCount),
    ("candidateBytes", .num manifest.candidateBytes),
    ("scopeCandidateCounts", .obj [("task", .num manifest.scopeCandidateCounts.1),
      ("workspace", .num manifest.scopeCandidateCounts.2.1),
      ("peer", .num manifest.scopeCandidateCounts.2.2)]),
    ("candidates", .arr (manifest.candidates.map ShadowCandidate.json))]))

/-- `loadShadowManifest`. -/
def loadShadowManifest : Except MemoryError ShadowManifest := do
  failIf (manifest.candidates.length ≠ manifest.candidateCount
      ∨ (manifest.candidates.map ShadowCandidate.contentBytes).sum ≠ manifest.candidateBytes
      ∨ manifest.digestCore env ≠ manifest.manifestDigest)
    unavailable
  return manifest

/-- The manifest that a query makes of the database. -/
def shadowManifest (db : Database) (input : MemoryShadowRetrievalInput) : ShadowManifest :=
  let queryDigest := digest env.sha256 input.queryText
  let ranked := rankedShadowMemories env db input
  let count := fun scope : StructuredMemoryScope => ranked.countP fun memory => memory.scope == scope
  let candidates := ranked.foldl selectShadowCandidate []
  let unsigned : ShadowManifest := {
    manifestId := shortId env "msm_"
      (ofString input.executionId ++ [0] ++ ofString input.taskId ++ [0] ++ ofString queryDigest)
    executionId := input.executionId
    currentTaskId := input.taskId
    peerTetiId := input.peerTetiId
    workspaceId := input.workspaceId
    childAgentId := input.childAgentId
    queryDigest := queryDigest
    generatedAt := input.generatedAt
    maximumCandidates := MEMORY_SHADOW_RETRIEVAL_LIMITS.maximumCandidates
    maximumContextBytes := MEMORY_SHADOW_RETRIEVAL_LIMITS.maximumContextBytes
    candidateCount := candidates.length
    candidateBytes := (candidates.map ShadowCandidate.contentBytes).sum
    scopeCandidateCounts := (count .task, count .workspace, count .peer)
    candidates := candidates
    manifestDigest := "" }
  { unsigned with manifestDigest := unsigned.digestCore env }

/-- The stored manifest of an execution is for the same query. -/
def sameShadowRequest (input : MemoryShadowRetrievalInput) : Bool :=
  manifest.currentTaskId == input.taskId && manifest.peerTetiId == input.peerTetiId
    && manifest.workspaceId == input.workspaceId && manifest.childAgentId == input.childAgentId
    && manifest.queryDigest == digest env.sha256 input.queryText

/-- The manifest limit, the constraints of the table, and the row. -/
def insertShadowManifest (db : Database) : MemoryProgram ShadowManifest := do
  Program.throwIf (MEMORY_SHADOW_RETRIEVAL_LIMITS.maximumManifestsPerTask
      ≤ db.shadows.countP fun known => known.currentTaskId == manifest.currentTaskId)
    (full "The collaboration reached its bounded Shadow Retrieval manifest limit.")
  Program.throwIf (db.shadows.any fun known => known.manifestId == manifest.manifestId) unavailable
  Program.writes fun db => { db with shadows := db.shadows ++ [manifest] }
  return manifest

def createShadowManifest (input : MemoryShadowRetrievalInput) : MemoryProgram ShadowManifest := do
  Program.fromExcept (validateShadowInput env.parseDate input)
  requireWritableDatabase env
  let db ← Program.reads id
  requireQuotaAvailable env db
  match db.shadows.find? fun manifest => manifest.executionId == input.executionId with
  | some existing => do
    Program.throwIf (sameShadowRequest env existing input = false)
      (conflict "A different Shadow Retrieval request is already stored for this execution.")
    Program.fromExcept (loadShadowManifest env existing)
  | none => insertShadowManifest (shadowManifest env db input) db

end

end TetiBot.Memory

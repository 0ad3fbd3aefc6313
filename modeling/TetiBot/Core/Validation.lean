import TetiBot.Core.Transport
import TetiBot.Library.Json

/-
The contracts of tasks and their messages (`core/task/validation.ts`,
`core/task/transport-validation.ts`, `core/task/long-horizon-validation.ts`).

A check that the types already guarantee (the kind of a value, the keys of an
object, the members of an enumeration, a finite time) is left out; the others
stand in the order of the source with the messages of the source.  Times are
written in the form of `toISOString`.
-/

namespace TetiBot

open Library

/-! ### JSON texts -/

/-- A decimal digit of `n`. -/
def digit (n : Nat) : UInt16 := 0x30 + (n % 10).toUInt16

/-- `padStart(2, "0")`. -/
def twoDigits (n : Nat) : JsString := [digit (n / 10), digit n]

/-- `padStart(3, "0")`. -/
def threeDigits (n : Nat) : JsString := [digit (n / 100), digit (n / 10), digit n]

/-- `padStart(4, "0")`. -/
def fourDigits (n : Nat) : JsString :=
  [digit (n / 1000), digit (n / 100), digit (n / 10), digit n]

/-- The year, month and day of a day number counted from 1 January 1970. -/
def civilFromDays (days : Int) : Int × Nat × Nat :=
  let z := days + 719468
  let era := z / 146097
  let dayOfEra := (z % 146097).toNat
  let yearOfEra :=
    (dayOfEra - dayOfEra / 1460 + dayOfEra / 36524 - dayOfEra / 146096) / 365
  let dayOfYear := dayOfEra - (365 * yearOfEra + yearOfEra / 4 - yearOfEra / 100)
  let shifted := (5 * dayOfYear + 2) / 153
  let day := dayOfYear - (153 * shifted + 2) / 5 + 1
  let month := if shifted < 10 then shifted + 3 else shifted - 9
  (era * 400 + yearOfEra + (if month ≤ 2 then 1 else 0), month, day)

/-- The year of an ISO text: four digits, or a sign and six digits. -/
def isoYear (year : Int) : JsString :=
  if 0 ≤ year ∧ year ≤ 9999 then fourDigits year.toNat
  else
    (if year < 0 then 0x2D else 0x2B)
      :: twoDigits (year.natAbs / 10000) ++ fourDigits (year.natAbs % 10000)

/-- `Date.prototype.toISOString`. -/
def toISOString (t : Timestamp) : JsString :=
  let (year, month, day) := civilFromDays (t / 86400000)
  let ms := (t % 86400000).toNat
  isoYear year ++ [0x2D] ++ twoDigits month ++ [0x2D] ++ twoDigits day ++ [0x54]
    ++ twoDigits (ms / 3600000) ++ [0x3A] ++ twoDigits (ms / 60000 % 60) ++ [0x3A]
    ++ twoDigits (ms / 1000 % 60) ++ [0x2E] ++ threeDigits (ms % 1000) ++ [0x5A]

/-- A text as JSON data. -/
def jsonString (s : String) : Json := .str (JsString.ofString s)

/-- The text of a MIME type. -/
def TaskImageMimeType.text : TaskImageMimeType → String
  | .jpeg => "image/jpeg"
  | .png => "image/png"

/-- The text of an access. -/
def WorkspaceAccess.text : WorkspaceAccess → String
  | .read => "read"
  | .write => "write"
  | .createArtifact => "create_artifact"

/-- The text of a mode. -/
def CollaborationExecutionMode.text : CollaborationExecutionMode → String
  | .singleStage => "single_stage"
  | .longHorizon => "long_horizon"

/-- `canonicalImagePart`. -/
def TaskImagePart.json (part : TaskImagePart) : Json :=
  .obj [("kind", jsonString "image"), ("attachmentId", jsonString part.attachmentId),
    ("mimeType", jsonString part.mimeType.text), ("byteLength", .num part.byteLength),
    ("width", .num part.width), ("height", .num part.height),
    ("sha256", jsonString part.sha256)]

/-- `canonicalTextPart` or `canonicalImagePart`. -/
def TaskPart.json : TaskPart → Json
  | .text t => .obj [("kind", jsonString "text"), ("text", .str t)]
  | .image part => part.json

/-- `canonicalInput`. -/
def CollaborationTaskInput.json : CollaborationTaskInput → Json
  | .text t => .obj [("kind", jsonString "text"), ("text", .str t)]
  | .parts ps => .obj [("kind", jsonString "parts"), ("parts", .arr (ps.map TaskPart.json))]

/-- `canonicalWorkspace`. -/
def TaskWorkspaceRequest.json : TaskWorkspaceRequest → Json
  | .temporary access =>
    .obj [("kind", jsonString "temporary"),
      ("access", .arr (access.map fun a => jsonString a.text))]
  | .reference workspaceId workspaceRevision access =>
    .obj [("kind", jsonString "reference"), ("workspaceId", jsonString workspaceId),
      ("workspaceRevision", .num workspaceRevision),
      ("access", .arr (access.map fun a => jsonString a.text))]

/-- The data that `canonicalTaskRequestJson` writes. -/
def CollaborationTaskRequest.json (value : CollaborationTaskRequest) : Json :=
  .obj ([("schemaVersion", .num value.schemaVersion), ("taskId", jsonString value.taskId),
      ("requesterTetiId", jsonString value.requesterTetiId),
      ("targetTetiId", jsonString value.targetTetiId), ("offerId", jsonString value.offerId),
      ("capabilityId", jsonString value.capabilityId), ("input", value.input.json)]
    ++ (value.workspace.map fun w => ("workspace", w.json)).toList
    ++ (value.executionMode.map fun m => ("executionMode", jsonString m.text)).toList
    ++ [("createdAt", .str (toISOString value.createdAt)),
      ("expiresAt", .str (toISOString value.expiresAt))])

/-- The text of a request, in a fixed order of the keys. -/
def canonicalTaskRequestJson (value : CollaborationTaskRequest) : JsString :=
  value.json.stringify

/-- The data of an artifact. -/
def CollaborationTaskArtifact.json : CollaborationTaskArtifact → Json
  | .v1 taskId artifactId t createdAt =>
    .obj [("schemaVersion", .num 1), ("taskId", jsonString taskId),
      ("artifactId", jsonString artifactId), ("kind", jsonString "text"), ("text", .str t),
      ("createdAt", .str (toISOString createdAt))]
  | .v2 taskId artifactId parts createdAt =>
    .obj [("schemaVersion", .num 2), ("taskId", jsonString taskId),
      ("artifactId", jsonString artifactId), ("parts", .arr (parts.map TaskPart.json)),
      ("createdAt", .str (toISOString createdAt))]

/-! ### Requests, artifacts and grants (`core/task/validation.ts`) -/

/-- `safeId`. -/
def validateSafeId (value label : String) : Except TaskError Unit :=
  failIf (!safeTaskId value) (contractError s!"{label} is invalid.")

/-- `safeSlug`. -/
def validateSafeSlug (value label : String) : Except TaskError Unit :=
  failIf (128 < value.length ∨ !safeSlugPattern value) (contractError s!"{label} is invalid.")

/-- `canonicalTetiId`. -/
def validateCanonicalTetiId (value label : String) : Except TaskError Unit :=
  failIf (!isCanonicalTetiPublicId value)
    (contractError s!"{label} must be a canonical lowercase Teti ID.")

/-- A text is not blank and within `maxBytes`. -/
def validateTextPart (text : JsString) (maxBytes : Nat) (label : String) :
    Except TaskError Unit := do
  failIf (JsString.isBlank text) (contractError s!"{label} must contain non-empty text.")
  failIf (maxBytes < JsString.utf8Size text)
    (contractError s!"{label} text exceeds the allowed size.")

/-- The metadata of an image are within the limits. -/
def validateTaskImagePart (part : TaskImagePart) (label : String) : Except TaskError Unit := do
  validateSafeId part.attachmentId "attachmentId"
  failIf (part.byteLength = 0 ∨ MAX_TASK_IMAGE_BYTES < part.byteLength)
    (contractError s!"{label} byte length is invalid.")
  failIf (part.width = 0 ∨ MAX_TASK_IMAGE_DIMENSION < part.width
      ∨ part.height = 0 ∨ MAX_TASK_IMAGE_DIMENSION < part.height)
    (contractError s!"{label} dimensions are invalid.")
  failIf (!sha256Pattern part.sha256) (contractError s!"{label} digest is invalid.")

/-- The pass over the parts; `attachmentIds` are those already seen. -/
def validatePartsFrom (label : String) (requireLeadingText : Bool) (maximumTextBytes : Nat) :
    Nat → List String → List TaskPart → Except TaskError Unit
  | _, _, [] => .ok ()
  | index, attachmentIds, .text t :: parts => do
    validateTextPart t maximumTextBytes s!"{label} text part"
    failIf (requireLeadingText ∧ index ≠ 0)
      (contractError s!"{label} text must be the first part.")
    validatePartsFrom label requireLeadingText maximumTextBytes (index + 1) attachmentIds parts
  | index, attachmentIds, .image part :: parts => do
    validateTaskImagePart part s!"{label} image part"
    failIf (part.attachmentId ∈ attachmentIds)
      (contractError s!"{label} attachment IDs must be unique.")
    validatePartsFrom label requireLeadingText maximumTextBytes (index + 1)
      (part.attachmentId :: attachmentIds) parts

/-- The bytes of all images. -/
def imageBytes (images : List TaskImagePart) : Nat :=
  (images.map fun part => part.byteLength).sum

/-- The parts of an input or an artifact. -/
def validateParts (parts : List TaskPart) (label : String) (requireLeadingText : Bool)
    (maximumTextBytes : Nat) : Except TaskError Unit := do
  failIf (parts.length = 0 ∨ MAX_TASK_INPUT_PARTS < parts.length)
    (contractError s!"{label} parts are invalid.")
  validatePartsFrom label requireLeadingText maximumTextBytes 0 [] parts
  let textCount := (parts.filterMap TaskPart.text?).length
  let images := parts.filterMap TaskPart.image?
  failIf ((requireLeadingText ∧ textCount ≠ 1) ∨ (requireLeadingText = false ∧ 1 < textCount))
    (contractError s!"{label} text part count is invalid.")
  failIf (MAX_TASK_IMAGE_PARTS < images.length ∨ MAX_TASK_IMAGE_TOTAL_BYTES < imageBytes images)
    (contractError s!"{label} images exceed the allowed limit.")

/-- The checks of a request. -/
def validateCollaborationTaskRequest (request : CollaborationTaskRequest) :
    Except TaskError Unit := do
  failIf (MAX_TASK_REQUEST_BYTES < request.json.encodedSize)
    (contractError "Task request exceeds the allowed size.")
  failIf ((request.workspace.isSome ∧ request.schemaVersion < 5)
      ∨ (request.executionMode.isSome ∧ request.schemaVersion < 6))
    (contractError "Task request contains an unsupported field.")
  failIf ((request.workspace.isNone ∧ 5 ≤ request.schemaVersion)
      ∨ (request.executionMode.isNone ∧ 6 ≤ request.schemaVersion))
    (contractError "Task request is missing a required field.")
  failIf (request.schemaVersion < 1 ∨ 7 < request.schemaVersion)
    (contractError "Unsupported Task request schema version.")
  validateSafeId request.taskId "taskId"
  validateCanonicalTetiId request.requesterTetiId "requesterTetiId"
  validateCanonicalTetiId request.targetTetiId "targetTetiId"
  failIf (request.requesterTetiId = request.targetTetiId)
    (contractError "Task requester and target must be different Tetis.")
  validateSafeId request.offerId "offerId"
  validateSafeSlug request.capabilityId "capabilityId"
  match request.input with
  | .text t =>
    failIf (request.schemaVersion ≠ 1) (contractError "Task input contains an unsupported field.")
    validateTextPart t MAX_TASK_INPUT_TEXT_BYTES "Task input"
  | .parts parts =>
    failIf (request.schemaVersion = 1) (contractError "Task input contains an unsupported field.")
    validateParts parts "Task input" true MAX_TASK_INPUT_TEXT_BYTES
  match request.workspace with
  | some workspace => validateTaskWorkspaceRequest workspace
  | none => .ok ()
  failIf (request.expiresAt ≤ request.createdAt
      ∨ MAX_TASK_REQUEST_TTL_MS < request.expiresAt - request.createdAt)
    (contractError "Task request expiry is invalid.")

/-- The checks of an artifact of version 1. -/
def validateTaskTextArtifact (taskId artifactId : String) (text : JsString)
    (createdAt : Timestamp) : Except TaskError Unit := do
  failIf (MAX_TASK_ARTIFACT_BYTES
      < (CollaborationTaskArtifact.v1 taskId artifactId text createdAt).json.encodedSize)
    (contractError "Task artifact exceeds the allowed size.")
  validateSafeId taskId "taskId"
  validateSafeId artifactId "artifactId"
  validateTextPart text MAX_TASK_ARTIFACT_TEXT_BYTES "Task artifact"

/-- The checks of an artifact of version 2. -/
def validateTaskArtifactV2 (taskId artifactId : String) (parts : List TaskPart)
    (createdAt : Timestamp) : Except TaskError Unit := do
  failIf (MAX_TASK_ARTIFACT_BYTES
      < (CollaborationTaskArtifact.v2 taskId artifactId parts createdAt).json.encodedSize)
    (contractError "Task artifact exceeds the allowed size.")
  validateSafeId taskId "taskId"
  validateSafeId artifactId "artifactId"
  validateParts parts "Task artifact" false MAX_TASK_ARTIFACT_TEXT_BYTES

/-- The checks of an artifact. -/
def validateTaskArtifact : CollaborationTaskArtifact → Except TaskError Unit
  | .v1 taskId artifactId text createdAt =>
    validateTaskTextArtifact taskId artifactId text createdAt
  | .v2 taskId artifactId parts createdAt =>
    validateTaskArtifactV2 taskId artifactId parts createdAt

/-- The checks of a grant. -/
def validateExecutionGrant (grant : ExecutionGrant) : Except TaskError Unit := do
  validateSafeId grant.grantId "grantId"
  validateSafeId grant.taskId "taskId"
  validateCanonicalTetiId grant.requesterTetiId "requesterTetiId"
  validateSafeSlug grant.capabilityId "capabilityId"
  validateSafeSlug grant.agentId "agentId"
  validateSafeSlug grant.adapterId "adapterId"
  failIf (!sha256Pattern grant.inputDigest)
    (contractError "Execution Grant inputDigest is invalid.")
  failIf (grant.expiresAt ≤ grant.issuedAt
      ∨ MAX_EXECUTION_GRANT_TTL_MS < grant.expiresAt - grant.issuedAt)
    (contractError "Execution Grant expiry is invalid.")
  validateSafeId grant.workspaceId "workspaceId"
  failIf (grant.workspaceRevision = 0)
    (contractError "Execution Grant workspaceRevision is invalid.")
  validateWorkspaceAccess grant.workspaceAccess

/-! ### Messages (`core/task/transport-validation.ts`) -/

/-- `new TaskTransportContractError(message)`. -/
def transportError (message : String) : TaskError := ⟨.other, "", message⟩

/-- `taskIdentity`. -/
def validateTaskIdentity (taskId : String) (requesterTetiId targetTetiId : TetiId) :
    Except TaskError Unit := do
  failIf (!safeTaskId taskId) (transportError "taskId is invalid.")
  failIf (!isCanonicalTetiPublicId requesterTetiId)
    (transportError "requesterTetiId must be a canonical lowercase Teti ID.")
  failIf (!isCanonicalTetiPublicId targetTetiId)
    (transportError "targetTetiId must be a canonical lowercase Teti ID.")
  failIf (requesterTetiId = targetTetiId)
    (transportError "Task requester and target must be different Tetis.")

/-- The versions that a peer names. -/
def validateTaskProtocolVersions (versions : List Nat) : Except TaskError Unit := do
  failIf (versions.length = 0 ∨ MAX_TASK_PROTOCOL_VERSIONS < versions.length)
    (transportError "Task protocol versions are invalid.")
  failIf (¬versions.Nodup ∨ versions.any fun version => version < 1 || 255 < version)
    (transportError "Task protocol versions are invalid.")

/-- The checks of a receipt. -/
def validateTaskReceiptPayload (receipt : TetiTaskReceiptPayload) : Except TaskError Unit := do
  validateTaskIdentity receipt.taskId receipt.requesterTetiId receipt.targetTetiId
  validateTaskProtocolVersions receipt.supportedTaskVersions

/-- The number of UTF-16 code units of a string. -/
def utf16Length (s : String) : Nat := (JsString.ofString s).length

/-- The checks of the projection of a session. -/
def validateLongHorizonStatus (status : TetiTaskLongHorizonStatus) : Except TaskError Unit := do
  failIf (status.phase = .pendingApproval ∨ status.workspaceRevision < 1
      ∨ ¬status.progressMessage.all fun message => utf16Length message ≤ 240)
    (transportError "Long-horizon Task status is invalid.")
  failIf (!status.inputRequestId.all safeTaskId) (transportError "inputRequestId is invalid.")
  failIf (!status.finalArtifactId.all safeTaskId) (transportError "finalArtifactId is invalid.")

/-- The states that a status message may carry. -/
def TASK_UPDATE_STATES : List CollaborationTaskState :=
  [.working, .inputRequired, .authRequired, .completed, .failed, .canceled, .rejected]

/-- The checks of a status message. -/
def validateTaskStatusPayload (payload : TetiTaskStatusPayload) : Except TaskError Unit := do
  failIf (payload.schemaVersion ≠ 1 ∧ payload.schemaVersion ≠ 2)
    (transportError "Unsupported Task status version.")
  failIf (payload.schemaVersion = 1 ∧ payload.longHorizon.isSome)
    (transportError "Task status contains an unsupported field.")
  validateTaskIdentity payload.taskId payload.requesterTetiId payload.targetTetiId
  failIf (payload.revision = 0) (transportError "Task status revision is invalid.")
  failIf (payload.state ∉ TASK_UPDATE_STATES) (transportError "Task status state is invalid.")
  failIf (!payload.safeErrorCode.all safeCodePattern)
    (transportError "Task status safe error code is invalid.")
  if payload.schemaVersion = 2 then
    match payload.longHorizon with
    | some status => validateLongHorizonStatus status
    | none => .error (transportError "Long-horizon Task status must be an object.")
  else .ok ()

/-- The checks of an instruction of the requester. -/
def validateTaskInputPayload (payload : TetiTaskInputPayload) : Except TaskError Unit := do
  validateTaskIdentity payload.taskId payload.requesterTetiId payload.targetTetiId
  failIf (!safeTaskId payload.inputId) (transportError "inputId is invalid.")
  failIf (payload.expectedStageIndex < 1) (transportError "Task input stage is invalid.")
  failIf (JsString.isBlank payload.instruction ∨ 8 * 1024 < JsString.utf8Size payload.instruction)
    (transportError "Task supplemental instruction is invalid.")

/-- The checks of the receipt of an application message. -/
def validateTaskApplicationReceiptPayload (receipt : TetiTaskApplicationReceiptPayload) :
    Except TaskError Unit := do
  validateTaskIdentity receipt.taskId receipt.requesterTetiId receipt.targetTetiId
  match receipt.reference with
  | .status revision =>
    failIf (revision < 1) (transportError "Task status receipt reference is invalid.")
  | .input inputId => failIf (!safeTaskId inputId) (transportError "referenceId is invalid.")
  | .control controlId => failIf (!safeTaskId controlId) (transportError "referenceId is invalid.")

/-- The first version of this Teti that the peer speaks. -/
def selectTaskProtocolVersion (remoteVersions : List Nat) : Option Nat :=
  TETI_SUPPORTED_TASK_PROTOCOL_VERSIONS.find? fun version => remoteVersions.contains version

/-! ### Sessions (`core/task/long-horizon-validation.ts`) -/

/-- `new Error(message)`. -/
def plainError (message : String) : TaskError := ⟨.other, "", message⟩

/-- More units are completed than there are. -/
def ExecutionProgress.overfull (progress : ExecutionProgress) : Bool :=
  match progress.completedUnits, progress.totalUnits with
  | some completed, some total => total < completed
  | _, _ => false

/-- The checks of a progress. -/
def validateExecutionProgress (progress : ExecutionProgress) : Except TaskError Unit :=
  failIf (progress.overfull ∨ ¬progress.message.all fun message => utf16Length message ≤ 240)
    (plainError "Execution progress is invalid.")

/-- At most `maximum` different identifiers. -/
def validateIdArray (ids : List String) (maximum : Nat) (label : String) :
    Except TaskError Unit :=
  failIf (maximum < ids.length ∨ !ids.all safeLongId ∨ ¬ids.Nodup)
    (plainError s!"Long-horizon {label} are invalid.")

/-- One stage; `indexes` are those already seen. -/
def validateStage (indexes : List Nat) (stage : LongHorizonStage) : Except TaskError Unit := do
  failIf (!safeLongId stage.stageId) (plainError "stageId is invalid.")
  failIf (!safeLongId stage.executionTaskId) (plainError "executionTaskId is invalid.")
  failIf (!safeSlugPattern stage.childAgentId) (plainError "childAgentId is invalid.")
  failIf (!safeSlugPattern stage.connectorId) (plainError "connectorId is invalid.")
  failIf (stage.stageIndex = 0 ∨ LONG_HORIZON_LIMITS.maximumStages < stage.stageIndex
      ∨ stage.stageIndex ∈ indexes ∨ stage.workspaceRevision = 0
      ∨ !stage.inputId.all safeLongId ∨ !sha256Pattern stage.instructionDigest)
    (plainError "Long-horizon stage is invalid.")
  validateExecutionProgress stage.progress
  validateIdArray stage.artifactIds LONG_HORIZON_LIMITS.maximumArtifacts "stage artifact IDs"
  failIf (!stage.safeErrorCode.all safeCodePattern)
    (plainError "Long-horizon safe error code is invalid.")

/-- The stages, after those at `indexes`. -/
def validateStagesFrom : List Nat → List LongHorizonStage → Except TaskError Unit
  | _, [] => .ok ()
  | indexes, stage :: stages => do
    validateStage indexes stage
    validateStagesFrom (stage.stageIndex :: indexes) stages

/-- The stages of a session. -/
def validateStages (stages : List LongHorizonStage) (currentStageIndex : Nat) :
    Except TaskError Unit := do
  failIf (LONG_HORIZON_LIMITS.maximumStages < stages.length)
    (plainError "Long-horizon stages are invalid.")
  validateStagesFrom [] stages
  failIf (stages ≠ [] ∧ ¬stages.any fun stage => stage.stageIndex == currentStageIndex)
    (plainError "Long-horizon current stage is unavailable.")

/-- The checks of an input. -/
def validateLongHorizonInput (input : LongHorizonInput) : Except TaskError Unit := do
  failIf (!safeLongId input.inputId) (plainError "inputId is invalid.")
  failIf (JsString.isBlank input.instruction
      ∨ LONG_HORIZON_LIMITS.maximumInstructionBytes < JsString.utf8Size input.instruction
      ∨ !sha256Pattern input.instructionDigest)
    (plainError "Long-horizon input is invalid.")

/-- The checks of a request for input. -/
def validateInputRequest (request : LongHorizonInputRequest) : Except TaskError Unit := do
  failIf (!safeLongId request.requestId) (plainError "requestId is invalid.")
  failIf (JsString.isBlank (JsString.ofString request.prompt) ∨ 240 < utf16Length request.prompt)
    (plainError "Long-horizon input request is invalid.")

/-- The checkpoints of a session. -/
def validateCheckpoints (checkpoints : List LongHorizonCheckpoint) : Except TaskError Unit := do
  failIf (LONG_HORIZON_LIMITS.maximumStages < checkpoints.length)
    (plainError "Long-horizon checkpoints are invalid.")
  checkpoints.forM fun checkpoint => do
    failIf (!safeLongId checkpoint.checkpointId) (plainError "checkpointId is invalid.")
    failIf (checkpoint.stageIndex = 0 ∨ checkpoint.workspaceRevision = 0
        ∨ !sha256Pattern checkpoint.digest)
      (plainError "Long-horizon checkpoint is invalid.")
    validateIdArray checkpoint.artifactIds LONG_HORIZON_LIMITS.maximumArtifacts
      "checkpoint artifact IDs"

/-- The entries, after those of `ids`. -/
def validateArtifactEntriesFrom : List String → List LongHorizonArtifactEntry →
    Except TaskError Unit
  | _, [] => .ok ()
  | ids, entry :: entries => do
    failIf (!safeLongId entry.artifactId) (plainError "artifactId is invalid.")
    failIf (entry.artifactId ∈ ids ∨ entry.stageIndex = 0
        ∨ LONG_HORIZON_LIMITS.maximumStages < entry.stageIndex)
      (plainError "Long-horizon Artifact entry is invalid.")
    validateArtifactEntriesFrom (entry.artifactId :: ids) entries

/-- The entries of a session, at most one final. -/
def validateLongHorizonArtifactEntries (entries : List LongHorizonArtifactEntry) :
    Except TaskError Unit := do
  failIf (LONG_HORIZON_LIMITS.maximumArtifacts < entries.length)
    (plainError "Long-horizon Artifact entries are invalid.")
  validateArtifactEntriesFrom [] entries
  failIf (1 < (entries.filter fun entry => entry.role == .final).length)
    (plainError "Long-horizon Task has multiple final Artifacts.")

/-- The audit events from `index` on. -/
def validateAuditFrom : Nat → List LongHorizonAuditEvent → Except TaskError Unit
  | _, [] => .ok ()
  | index, event :: events => do
    failIf (event.sequence ≠ index + 1 ∨ event.stageIndex = some 0)
      (plainError "Long-horizon audit event is invalid.")
    failIf (!event.childAgentId.all safeSlugPattern) (plainError "childAgentId is invalid.")
    failIf (!event.artifactId.all safeLongId) (plainError "artifactId is invalid.")
    failIf (!event.inputId.all safeLongId) (plainError "inputId is invalid.")
    failIf (event.workspaceRevision = some 0)
      (plainError "Long-horizon audit Workspace revision is invalid.")
    failIf (!event.safeErrorCode.all safeCodePattern)
      (plainError "Long-horizon safe error code is invalid.")
    validateAuditFrom (index + 1) events

/-- The audit of a session. -/
def validateAudit (audit : List LongHorizonAuditEvent) : Except TaskError Unit := do
  failIf (audit = [] ∨ LONG_HORIZON_LIMITS.maximumAuditEvents < audit.length)
    (plainError "Long-horizon audit is invalid.")
  validateAuditFrom 0 audit

/-- The child agents of a session. -/
def validateTargets (targets : List LongHorizonChildTarget) : Except TaskError Unit := do
  failIf (32 < targets.length) (plainError "Long-horizon Child targets are invalid.")
  targets.forM fun target => do
    failIf (!safeSlugPattern target.childAgentId) (plainError "childAgentId is invalid.")
    failIf (!safeSlugPattern target.connectorId) (plainError "connectorId is invalid.")
  failIf (¬targets.Nodup) (plainError "Long-horizon Child targets are duplicated.")

/-- The checks of a session before it is stored. -/
def validateLongHorizonTaskState (session : LongHorizonTaskState) : Except TaskError Unit := do
  failIf (session.workspaceRevision = 0
      ∨ LONG_HORIZON_LIMITS.maximumRenewals < session.renewalCount)
    (plainError "Long-horizon Task state is invalid.")
  validateExecutionProgress session.progress
  match session.pendingInput with
  | some input => validateLongHorizonInput input
  | none => .ok ()
  match session.inputRequest with
  | some request => validateInputRequest request
  | none => .ok ()
  validateTargets session.availableChildAgents
  validateStages session.stages session.currentStageIndex
  validateCheckpoints session.checkpoints
  validateLongHorizonArtifactEntries session.artifacts
  validateAudit session.audit

end TetiBot

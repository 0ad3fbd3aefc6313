import TetiBot.Core.Delegation

/-
Task messages and the stored task record (`core/task/transport.ts`).

* the payloads that two Tetis exchange about a task;
* `LongHorizonTaskState`: the receiver-local session of an ongoing task;
* `CollaborationTaskTransportRecord`: the stored record, flat as in the source;
* `TetiTaskTransportStoreState`: everything the task store persists.

An optional flag of the source is a `Bool` (absent is `false`), an optional
list is a `List` (absent is empty), and `statusRevision` is a number (absent
is `0`): the source reads them with `?? false`, `?? []` and `?? 0`.  The
reference of a status receipt is the decimal text of a revision; it is
modelled by the revision.
-/

namespace TetiBot

open Library

/-- The versions that this Teti speaks. -/
def TETI_SUPPORTED_TASK_PROTOCOL_VERSIONS : List Nat := [7]
/-- How long a request is valid by default. -/
def DEFAULT_TASK_REQUEST_TTL_MS : Int := 60 * 60 * 1000
/-- How far the clock of a peer may be ahead. -/
def MAX_TASK_CLOCK_SKEW_MS : Int := 5 * 60 * 1000
/-- Versions that a peer may name. -/
def MAX_TASK_PROTOCOL_VERSIONS : Nat := 8
/-- Records of the store. -/
def MAX_TASK_TRANSPORT_RECORDS : Nat := 512

namespace LONG_HORIZON_LIMITS

/-- Stages of a session. -/
def maximumStages : Nat := 16
/-- Artifacts of a session. -/
def maximumArtifacts : Nat := 32
/-- Audit events of a session. -/
def maximumAuditEvents : Nat := 256
/-- Inputs of a session. -/
def maximumInputs : Nat := 15
/-- Bytes of an instruction. -/
def maximumInstructionBytes : Nat := 8 * 1024
/-- Renewals of a session. -/
def maximumRenewals : Nat := 8
/-- How far a renewal reaches. -/
def maximumRenewalMs : Int := 24 * 60 * 60 * 1000
/-- How long a session lives. -/
def maximumLifetimeMs : Int := 7 * 24 * 60 * 60 * 1000

end LONG_HORIZON_LIMITS

/-! ### Long-horizon sessions -/

/-- The phases of a session. -/
inductive LongHorizonPhase
  | pendingApproval | working | inputRequired | paused
  | completed | failed | canceled | expired
  deriving DecidableEq

/-- The states of a stage. -/
inductive LongHorizonStageState
  | queued | working | completed | failed | canceled | interrupted
  deriving DecidableEq

/-- A child agent that can execute a stage. -/
structure LongHorizonChildTarget where
  childAgentId : String
  connectorId : String
  deriving DecidableEq

/-- What a stage does to the workspace. -/
inductive WorkspaceMutation
  | none | snapshotCommit
  deriving DecidableEq

/-- A stage of a session. -/
structure LongHorizonStage where
  stageId : String
  stageIndex : Nat
  executionTaskId : String
  childAgentId : String
  connectorId : String
  state : LongHorizonStageState
  workspaceRevision : Nat
  workspaceMutation : WorkspaceMutation
  inputId : Option String
  instructionDigest : String
  progress : ExecutionProgress
  artifactIds : List String
  checkpointAvailable : Bool
  startedAt : Timestamp
  updatedAt : Timestamp
  completedAt : Option Timestamp
  safeErrorCode : Option String
  deriving DecidableEq

/-- Who an input is from. -/
inductive LongHorizonInputSource
  | remoteRequester | localUser
  deriving DecidableEq

/-- An instruction for the next stage. -/
structure LongHorizonInput where
  inputId : String
  instruction : JsString
  instructionDigest : String
  source : LongHorizonInputSource
  createdAt : Timestamp
  consumedAt : Option Timestamp
  deriving DecidableEq

/-- What the receiver asks the requester for. -/
structure LongHorizonInputRequest where
  requestId : String
  prompt : String
  createdAt : Timestamp
  deriving DecidableEq

/-- What a stage left. -/
structure LongHorizonCheckpoint where
  checkpointId : String
  stageIndex : Nat
  workspaceRevision : Nat
  artifactIds : List String
  digest : String
  createdAt : Timestamp
  deriving DecidableEq

/-- The stage that an artifact is from. -/
structure LongHorizonArtifactEntry where
  artifactId : String
  stageIndex : Nat
  role : ArtifactRole
  createdAt : Timestamp
  deriving DecidableEq

/-- What an audit event tells. -/
inductive LongHorizonAuditAction
  | sessionCreated | stageStarted | progressUpdated | artifactPublished | checkpointCreated
  | inputRequested | inputReceived | pauseRequested | paused | resumed | childSelected
  | stageFailed | renewed | completed | canceled | expired | restartReconciled
  deriving DecidableEq

/-- Who an audit event is about. -/
inductive LongHorizonAuditActor
  | host | localUser | remotePeer | childAgent
  deriving DecidableEq

/-- An audit event, less its random `eventId`. -/
structure LongHorizonAuditEvent where
  sequence : Nat
  action : LongHorizonAuditAction
  actor : LongHorizonAuditActor
  stageIndex : Option Nat
  timestamp : Timestamp
  childAgentId : Option String
  artifactId : Option String
  inputId : Option String
  workspaceRevision : Option Nat
  safeErrorCode : Option String
  deriving DecidableEq

/-- The receiver-local durable orchestration record of an ongoing task. -/
structure LongHorizonTaskState where
  phase : LongHorizonPhase
  currentStageIndex : Nat
  workspaceRevision : Nat
  progress : ExecutionProgress
  continuationExpiresAt : Timestamp
  renewalCount : Nat
  pauseRequested : Bool
  pendingInput : Option LongHorizonInput
  inputRequest : Option LongHorizonInputRequest
  availableChildAgents : List LongHorizonChildTarget
  stages : List LongHorizonStage
  checkpoints : List LongHorizonCheckpoint
  artifacts : List LongHorizonArtifactEntry
  audit : List LongHorizonAuditEvent
  updatedAt : Timestamp
  deriving DecidableEq

/-- The projection of a session that is sent to the peer.  The phase is never
`pendingApproval` (`Exclude<LongHorizonPhase, "pending_approval">`). -/
structure TetiTaskLongHorizonStatus where
  phase : LongHorizonPhase
  currentStageIndex : Nat
  workspaceRevision : Nat
  completedUnits : Option Nat
  totalUnits : Option Nat
  progressMessage : Option String
  continuationExpiresAt : Timestamp
  inputRequestId : Option String
  finalArtifactId : Option String
  deriving DecidableEq

/-! ### Messages -/

/-- What became of a request. -/
inductive TetiTaskReceiptStatus
  | received | duplicate | expired | conflict | rejected
  deriving DecidableEq

/-- Confirms durable ingestion of a request. -/
structure TetiTaskReceiptPayload where
  taskId : String
  requesterTetiId : TetiId
  targetTetiId : TetiId
  status : TetiTaskReceiptStatus
  receivedAt : Timestamp
  supportedTaskVersions : List Nat
  deriving DecidableEq

/-- What an attachment belongs to. -/
inductive TetiTaskAttachmentPurpose
  | input | artifact
  deriving DecidableEq

/-- An image of the input or of an artifact. -/
structure TetiTaskAttachmentPayload where
  taskId : String
  requesterTetiId : TetiId
  targetTetiId : TetiId
  purpose : TetiTaskAttachmentPurpose
  artifactId : Option String
  part : TaskImagePart
  createdAt : Timestamp
  expiresAt : Timestamp
  deliveryReceiptRequested : Bool
  deriving DecidableEq

/-- Confirms that an image is stored. -/
structure TetiTaskAttachmentReceiptPayload where
  taskId : String
  requesterTetiId : TetiId
  targetTetiId : TetiId
  purpose : TetiTaskAttachmentPurpose
  artifactId : Option String
  attachmentId : String
  receivedAt : Timestamp
  deriving DecidableEq

/-- `schemaVersion` is `2` exactly for the status of a long-horizon task. -/
structure TetiTaskStatusPayload where
  schemaVersion : Nat
  taskId : String
  requesterTetiId : TetiId
  targetTetiId : TetiId
  revision : Nat
  state : CollaborationTaskState
  updatedAt : Timestamp
  safeErrorCode : Option String
  longHorizon : Option TetiTaskLongHorizonStatus
  deriving DecidableEq

/-- An instruction of the requester for a stage. -/
structure TetiTaskInputPayload where
  taskId : String
  requesterTetiId : TetiId
  targetTetiId : TetiId
  inputId : String
  expectedStageIndex : Nat
  instruction : JsString
  createdAt : Timestamp
  deriving DecidableEq

/-- The requester cancels a task. -/
structure TetiTaskCancelPayload where
  taskId : String
  requesterTetiId : TetiId
  targetTetiId : TetiId
  controlId : String
  requestedAt : Timestamp
  deriving DecidableEq

/-- The kinds of application messages. -/
inductive TetiTaskApplicationReceiptKind
  | status | input | control
  deriving DecidableEq

/-- The kind and the reference of an application message. -/
inductive TaskApplicationReference
  | status (revision : Nat)
  | input (inputId : String)
  | control (controlId : String)
  deriving DecidableEq

/-- The kind of a reference. -/
def TaskApplicationReference.kind : TaskApplicationReference → TetiTaskApplicationReceiptKind
  | .status _ => .status
  | .input _ => .input
  | .control _ => .control

/-- Proof that a mutable task message was validated and durably applied, or
recognized as already applied. -/
structure TetiTaskApplicationReceiptPayload where
  taskId : String
  requesterTetiId : TetiId
  targetTetiId : TetiId
  reference : TaskApplicationReference
  receivedAt : Timestamp
  deriving DecidableEq

/-- An artifact that fits into a message. -/
structure TetiTaskArtifactPayload where
  schemaVersion : Nat
  taskId : String
  requesterTetiId : TetiId
  targetTetiId : TetiId
  artifact : CollaborationTaskArtifact
  createdAt : Timestamp
  stageIndex : Option Nat
  role : Option ArtifactRole
  deriving DecidableEq

/-- An artifact that is sent as a file. -/
structure TetiTaskArtifactFilePayload where
  schemaVersion : Nat
  taskId : String
  requesterTetiId : TetiId
  targetTetiId : TetiId
  artifactId : String
  byteLength : Nat
  sha256 : String
  createdAt : Timestamp
  expiresAt : Timestamp
  stageIndex : Option Nat
  role : Option ArtifactRole
  deriving DecidableEq

/-- Confirms that an artifact is stored. -/
structure TetiTaskArtifactReceiptPayload where
  taskId : String
  requesterTetiId : TetiId
  targetTetiId : TetiId
  artifactId : String
  sha256 : String
  receivedAt : Timestamp
  deriving DecidableEq

/-! ### Delivery bookkeeping -/

/-- A delivery attempt of an attachment or an artifact, by its identifier. -/
structure TaskDeliveryAttempt where
  id : String
  attempts : Nat
  lastSentAt : Timestamp
  nextRetryAt : Timestamp
  deriving DecidableEq

/-- How far an attachment is. -/
inductive TaskAttachmentDiagnosticState
  | expected | sent | stored | acknowledged | expired | failed
  deriving DecidableEq

/-- What is known of the way of an attachment. -/
structure TaskAttachmentDiagnostic where
  attachmentId : String
  purpose : TetiTaskAttachmentPurpose
  ordinal : Nat
  expectedCount : Nat
  byteLength : Nat
  sha256 : String
  attempts : Nat
  state : TaskAttachmentDiagnosticState
  firstSentAt : Option Timestamp
  lastSentAt : Option Timestamp
  storedAt : Option Timestamp
  receiptReceivedAt : Option Timestamp
  safeErrorCode : Option String
  deriving DecidableEq

/-- A delivery attempt of an application message. -/
structure TaskApplicationDeliveryAttempt where
  reference : TaskApplicationReference
  attempts : Nat
  lastSentAt : Timestamp
  nextRetryAt : Timestamp
  deriving DecidableEq

/-- What a recorded delivery failure is about. -/
inductive TaskDeliveryReference
  | request (taskId : String)
  | application (reference : TaskApplicationReference)
  deriving DecidableEq

/-- The `kind` of a failure; `none` is `"request"`. -/
def TaskDeliveryReference.kind : TaskDeliveryReference → Option TetiTaskApplicationReceiptKind
  | .request _ => none
  | .application reference => some reference.kind

/-- A delivery that was given up. -/
structure TaskApplicationDeliveryFailure where
  reference : TaskDeliveryReference
  failedAt : Timestamp
  safeErrorCode : String
  deriving DecidableEq

/-- What the user may look at. -/
inductive TaskAttentionChangeKind
  | statusUpdated | deliveryFailed | deliveryRecovered | inputReceived | stageStarted
  | stageCompleted | stageFailed | pauseRequested | cancelRequested | paused | resumed
  | renewed | completed | failed | rejected | canceled | expired
  deriving DecidableEq

/-- The last change for the user to look at. -/
structure TaskAttentionChange where
  revision : Nat
  kind : TaskAttentionChangeKind
  occurredAt : Timestamp
  stageIndex : Option Nat
  safeErrorCode : Option String
  deriving DecidableEq

/-! ### Records -/

/-- Whether the peer or this Teti asks. -/
inductive TaskTransportDirection
  | incoming | outgoing
  deriving DecidableEq

/-- How far the request is. -/
inductive TaskDeliveryState
  | queued | sent | sendFailed | received | acknowledged | expired | conflict | rejected
  deriving DecidableEq

/-- The stored record of one task. -/
structure CollaborationTaskTransportRecord where
  direction : TaskTransportDirection
  peerTetiId : TetiId
  protocolVersion : Nat
  envelopeMessageId : Option String := none
  chatmailMessageId : Option Nat := none
  sentAttachmentIds : List String := []
  sentArtifactAttachmentIds : List String := []
  acknowledgedAttachmentIds : List String := []
  acknowledgedArtifactAttachmentIds : List String := []
  attachmentDeliveryAttempts : List TaskDeliveryAttempt := []
  artifactAttachmentDeliveryAttempts : List TaskDeliveryAttempt := []
  attachmentDiagnostics : List TaskAttachmentDiagnostic := []
  workspaceBinding : Option TaskWorkspaceBinding := none
  request : CollaborationTaskRequest
  state : CollaborationTaskState
  approval : TaskApprovalState
  delivery : TaskDeliveryState
  createdAt : Timestamp
  updatedAt : Timestamp
  receipt : Option TetiTaskReceiptPayload := none
  receiptPending : Bool := false
  statusRevision : Nat := 0
  statusPending : Bool := false
  statusAcknowledgedRevision : Option Nat := none
  cancelPending : Bool := false
  cancelControlId : Option String := none
  cancelRequestedAt : Option Timestamp := none
  cancelSentAt : Option Timestamp := none
  cancelAcknowledgedAt : Option Timestamp := none
  applicationDeliveryAttempts : List TaskApplicationDeliveryAttempt := []
  applicationDeliveryFailures : List TaskApplicationDeliveryFailure := []
  applicationReceiptOutbox : List TetiTaskApplicationReceiptPayload := []
  artifactPending : Bool := false
  sentArtifactIds : List String := []
  acknowledgedArtifactIds : List String := []
  artifactDeliveryAttempts : List TaskDeliveryAttempt := []
  artifactAttachmentsReady : Bool := false
  attachmentsReady : Bool := false
  artifacts : List CollaborationTaskArtifact := []
  longHorizon : Option LongHorizonTaskState := none
  delegationPlan : Option DelegationPlanState := none
  peerLongHorizon : Option TetiTaskLongHorizonStatus := none
  peerArtifactMetadata : List LongHorizonArtifactEntry := []
  inputPending : Option TetiTaskInputPayload := none
  inputSentAt : Option Timestamp := none
  inputAcknowledgedAt : Option Timestamp := none
  viewedStageResultIndex : Nat := 0
  attentionRevision : Option Nat := none
  viewedAttentionRevision : Nat := 0
  latestAttentionChange : Option TaskAttentionChange := none
  safeErrorCode : Option String := none

/-- The versions that a peer was seen to speak. -/
structure TetiTaskPeerProtocolCapability where
  tetiId : TetiId
  supportedVersions : List Nat
  observedAt : Timestamp
  deriving DecidableEq

/-- Everything the task store persists. -/
structure TetiTaskTransportStoreState where
  records : List CollaborationTaskTransportRecord
  peers : List TetiTaskPeerProtocolCapability

/-- `emptyTaskTransportStoreState`. -/
def emptyTaskTransportStoreState : TetiTaskTransportStoreState := ⟨[], []⟩

/-- What a record is found by when a message names its task. -/
structure TaskKey where
  direction : TaskTransportDirection
  requesterTetiId : TetiId
  taskId : String
  deriving DecidableEq

namespace CollaborationTaskTransportRecord

/-- The key of a record. -/
def key (record : CollaborationTaskTransportRecord) : TaskKey :=
  ⟨record.direction, record.request.requesterTetiId, record.request.taskId⟩

/-- The record of an ongoing collaboration. -/
def isLongHorizon (record : CollaborationTaskTransportRecord) : Bool :=
  record.request.executionMode == some .longHorizon

end CollaborationTaskTransportRecord

/-- The stage labels of the artifacts of a record. -/
def stageArtifactEntries (record : CollaborationTaskTransportRecord) :
    List LongHorizonArtifactEntry :=
  match record.direction, record.longHorizon with
  | .incoming, some session => session.artifacts
  | .incoming, none => []
  | .outgoing, _ => record.peerArtifactMetadata

/-- The last stage that a stored artifact is from. -/
def latestAvailableLongHorizonStageResultIndex (record : CollaborationTaskTransportRecord) : Nat :=
  if record.isLongHorizon then
    let availableArtifactIds := record.artifacts.map fun artifact => artifact.artifactId
    (stageArtifactEntries record).foldl
      (fun latest entry =>
        if availableArtifactIds.contains entry.artifactId then max latest entry.stageIndex
        else latest) 0
  else 0

/-- A task in this state has ended. -/
def isTerminalTaskState (state : CollaborationTaskState) : Bool :=
  state == .completed || state == .failed || state == .canceled || state == .rejected

end TetiBot

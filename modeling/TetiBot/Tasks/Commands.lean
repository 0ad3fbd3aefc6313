import TetiBot.Tasks.Session

/-
What the other operations of the task service do to the record they are about
(`runtime/tasks/service.ts`).

* the receiving side: approval, rejection, cancellation, the end of a
  single-stage execution, the commands on a session, restart;
* the requesting side: sending, receipts, statuses, artifacts, cancellation,
  supplemental input.

Each follows the assignments of the source in their order, up to the point
where the source writes the store.
-/

namespace TetiBot

open Library

/-! ### The receiving side -/

variable (record : TaskRecord) (now : Timestamp)

/-- `approve`, for a single-stage task. -/
def startTask : TaskRecord :=
  setLatestTaskChange
    (bumpStatus { record with
      approval := .consumed
      state := .working
      updatedAt := now
      safeErrorCode := none })
    { kind := .stageStarted }

/-- The session is canceled along with its task. -/
def cancelSession (message : String) (event : LongHorizonAuditInput) (timestamp : Timestamp) :
    Edit :=
  auditSession
    (editSession record fun session => { session with
      phase := .canceled
      progress := progress .canceled none none (some message) timestamp })
    event timestamp

/-- The stage of the session of a record, for an audit event. -/
def auditedStageIndex : Option Nat :=
  record.longHorizon.bind fun session => indexOrNull session.currentStageIndex

/-- `reject`. -/
def rejectTask : Edit := do
  let code := "TASK_REJECTED_BY_USER"
  let record := bumpStatus { record with
    approval := .rejected
    state := .rejected
    safeErrorCode := some code
    updatedAt := now }
  let record ← cancelSession record "接收端已拒绝长期协作"
    { action := .canceled, actor := .localUser, stageIndex := none, safeErrorCode := some code } now
  return markTaskAttention record { kind := .rejected, safeErrorCode := some code }

/-- The plan of a record is canceled by the owner, if there is one. -/
def cancelPlan (code : String) (canceledAt : Timestamp) : Edit :=
  match record.delegationPlan with
  | none => .ok record
  | some plan => cancelDelegationPlan record plan .localUser code canceledAt

/-- `cancel`, for a task that was received. -/
def cancelTask (canceledAt : Timestamp) : Edit := do
  let code := "TASK_CANCELED_BY_USER"
  let record := bumpStatus { record with state := .canceled, safeErrorCode := some code }
  let record ← cancelSession record "协作任务已取消"
    { action := .canceled, actor := .localUser, stageIndex := auditedStageIndex record } canceledAt
  let record ← cancelPlan record code canceledAt
  return markTaskAttention { record with updatedAt := canceledAt }
    { kind := .canceled, safeErrorCode := some code }

/-- `receiveCancel`.  The plan and the stages are left as they are. -/
def cancelTaskByRequester (receivedAt : Timestamp) : Edit :=
  let record := markTaskAttention
    (bumpStatus { record with
      state := .canceled
      approval := if record.approval = .pending then .rejected else record.approval
      updatedAt := receivedAt
      safeErrorCode := some "TASK_CANCELED_BY_REQUESTER" })
    { kind := .canceled }
  cancelSession record "请求方已取消长期协作"
    { action := .canceled, actor := .remotePeer, stageIndex := auditedStageIndex record } receivedAt

/-- How the execution of a single-stage task ended. -/
inductive SingleStageOutcome
  | completed (artifact : CollaborationTaskArtifact)
  | authRequired
  | resumeAvailable
  | ended (canceled : Bool) (safeErrorCode : String)

/-- The artifact of a single-stage execution. -/
def singleStageArtifact (artifactId : String) (output : CallableAdapterTaskArtifact)
    (completedAt : Timestamp) : CollaborationTaskArtifact :=
  if record.protocolVersion = 1 then
    .v1 record.request.taskId artifactId output.outputText completedAt
  else
    .v2 record.request.taskId artifactId (.text output.outputText :: output.images.map .image)
      completedAt

/-- The state of a task whose execution ended. -/
def settleTask : SingleStageOutcome → TaskRecord
  | .completed artifact =>
    { initializeAttachmentDiagnostics
        { record with artifacts := record.artifacts ++ [artifact] } .artifact
        (taskArtifactImages artifact) with
      artifactPending := true
      artifactAttachmentsReady := true
      state := .completed
      safeErrorCode := none }
  | .authRequired =>
    { record with
      state := .authRequired, approval := .pending, safeErrorCode := some "ADAPTER_AUTH_REQUIRED" }
  | .resumeAvailable =>
    { record with state := .inputRequired, safeErrorCode := some "TASK_RESUME_AVAILABLE" }
  | .ended canceled safeErrorCode =>
    { record with
      state := if canceled then .canceled else .failed, safeErrorCode := some safeErrorCode }

/-- `finishSingleStageExecution`. -/
def finishTask (outcome : SingleStageOutcome) (completedAt : Timestamp) : TaskRecord :=
  let record := { bumpStatus (settleTask record outcome) with updatedAt := completedAt }
  markTaskAttention record (inferTaskAttentionChange record)

/-- An execution that no process runs any more, of a single-stage task. -/
def interruptTask (resumable : Bool) (now : Timestamp) : TaskRecord :=
  let record := { bumpStatus { record with
      state := if resumable then .inputRequired else .failed
      safeErrorCode :=
        some (if resumable then "TASK_RESUME_AVAILABLE" else "TASK_EXECUTION_INTERRUPTED") } with
    updatedAt := now }
  markTaskAttention record (inferTaskAttentionChange record)

/-- A record of a protocol that is no longer supported. -/
def requireProtocolUpgrade : TaskRecord :=
  markTaskAttentionIfChanged
    { record with
      state := .rejected
      approval := .rejected
      delivery := .rejected
      safeErrorCode := some "TASK_PROTOCOL_UPGRADE_REQUIRED"
      receiptPending := false
      statusPending := false
      cancelPending := false
      artifactPending := false
      updatedAt := now }
    (taskAttentionSnapshot record)

/-- `resume`. -/
def resumeTask : TaskRecord :=
  markTaskAttention
    (bumpStatus { record with state := .working, updatedAt := now, safeErrorCode := none })
    { kind := .resumed }

/-- The stage of a session, for an attention change. -/
def sessionStageIndex : Option Nat :=
  record.longHorizon.map fun session => session.currentStageIndex

/-- Pause a session.  While a stage is running the pause is only noted. -/
def notePause (session : LongHorizonTaskState) (now : Timestamp) : Edit :=
  match session.phase with
  | .working =>
    auditSession
      (editSession record fun session => { session with pauseRequested := true })
      { action := .pauseRequested
        actor := .localUser
        stageIndex := some session.currentStageIndex }
      now
  | .inputRequired =>
    auditSession
      (editSession record fun session => { session with phase := .paused })
      { action := .paused, actor := .localUser, stageIndex := some session.currentStageIndex } now
  | .paused => .ok record
  | _ =>
    .error (runtimeError "TASK_PAUSE_UNAVAILABLE" "The collaboration cannot be paused now.",
      record)

/-- `pauseLongHorizon`. -/
def pauseSession (session : LongHorizonTaskState) (now : Timestamp) : Edit := do
  let record ← notePause record session now
  let record := bumpStatus
    { editSession record fun session => { session with updatedAt := now } with updatedAt := now }
  return setLatestTaskChange record
    { kind := if (record.longHorizon.map fun session => session.phase) = some .paused then .paused
        else .pauseRequested
      stageIndex := sessionStageIndex record }

/-- The last entry becomes the final artifact. -/
def markFinal (entries : List LongHorizonArtifactEntry) : List LongHorizonArtifactEntry :=
  entries.dropLast ++ (entries.getLast?.map fun entry => { entry with role := .final }).toList

/-- `completeLongHorizon`. -/
def completeSession (session : LongHorizonTaskState) (now : Timestamp) : Edit := do
  let units := some session.currentStageIndex
  let record := editSession record fun session => { session with
    artifacts := markFinal session.artifacts
    phase := .completed
    inputRequest := none
    progress := progress .completed units units (some "长期协作已完成") now }
  let record ← auditSession record
    { action := .completed
      actor := .localUser
      stageIndex := units
      artifactId := session.artifacts.getLast?.map fun entry => entry.artifactId
      workspaceRevision := some session.workspaceRevision }
    now
  let record := bumpStatus
    { record with state := .completed, updatedAt := now, safeErrorCode := none }
  return markTaskAttention record { kind := .completed, stageIndex := units }

/-- `renewLongHorizon`. -/
def renewSession (nextExpiry now : Timestamp) : Edit := do
  let record := editSession record fun session => { session with
    continuationExpiresAt := nextExpiry, renewalCount := session.renewalCount + 1 }
  let record ← auditSession record
    { action := .renewed, actor := .localUser, stageIndex := auditedStageIndex record } now
  return setLatestTaskChange (bumpStatus { record with updatedAt := now })
    { kind := .renewed, stageIndex := sessionStageIndex record }

variable (payload : TetiTaskInputPayload)

/-- `receiveLongHorizonInput`. -/
def acceptInput (instructionDigest : String) (receivedAt : Timestamp) : Edit := do
  let stageIndex := sessionStageIndex record
  let record ← auditSession
    (editSession record fun session => { session with pendingInput := some {
        inputId := payload.inputId
        instruction := payload.instruction
        instructionDigest := instructionDigest
        source := .remoteRequester
        createdAt := payload.createdAt
        consumedAt := none } })
    { action := .inputReceived
      actor := .remotePeer
      stageIndex := stageIndex
      inputId := some payload.inputId }
    receivedAt
  return markTaskAttention { record with updatedAt := receivedAt }
    { kind := .inputReceived, stageIndex := stageIndex }

/-- `refreshLongHorizonTargets`, for one record. -/
def refreshTargets (targets : List LongHorizonChildTarget) (now : Timestamp) : TaskRecord :=
  editSession record fun session =>
    { session with availableChildAgents := targets, updatedAt := now }

/-- The requester has applied, or recognized, a status. -/
def acknowledgeStatus (revision : Nat) : TaskRecord :=
  let acknowledged := max (record.statusAcknowledgedRevision.getD 0) revision
  { record with
    statusAcknowledgedRevision := some acknowledged
    statusPending := acknowledged < record.statusRevision }

/-! ### The requesting side -/

/-- The request was handed to the transport. -/
def markRequestSent (envelopeMessageId : String) (chatmailMessageId : Option Nat) : TaskRecord :=
  { record with
    delivery := .sent
    envelopeMessageId := some envelopeMessageId
    chatmailMessageId := chatmailMessageId
    safeErrorCode := none }

/-- The request could not be sent. -/
def markRequestFailed (safeErrorCode : String) (failedAt : Timestamp) : TaskRecord :=
  recordApplicationDeliveryFailure
    { record with delivery := .sendFailed, safeErrorCode := some safeErrorCode }
    (.request record.request.taskId) safeErrorCode failedAt

/-- The approval that a status implies. -/
def remoteApproval (current : TaskApprovalState) (state : CollaborationTaskState) :
    TaskApprovalState :=
  if state = .rejected then .rejected
  else if [CollaborationTaskState.working, .completed, .failed, .authRequired,
      .inputRequired].contains state then .approvedOnce
  else current

/-- The session of the peer has moved past the pending input. -/
def inputSettled (status : TetiTaskLongHorizonStatus) : Bool :=
  payload.expectedStageIndex < status.currentStageIndex
    || [LongHorizonPhase.completed, .failed, .canceled, .expired].contains status.phase

/-- The session that a status reports. -/
def applyPeerLongHorizon (payload : TetiTaskStatusPayload) : TaskRecord :=
  match payload.longHorizon with
  | none => record
  | some status =>
    if payload.schemaVersion ≠ 2 ∨ ¬record.isLongHorizon then record
    else
      let record := { record with peerLongHorizon := some status }
      if record.inputPending.any fun pending => inputSettled pending status then
        removeApplicationDeliveryState
          { record with inputPending := none, inputSentAt := none, inputAcknowledgedAt := none }
          .input
      else record

/-- `receiveStatus`, for a status that is newer and allowed. -/
def applyStatus (payload : TetiTaskStatusPayload) (receivedAt : Timestamp) : TaskRecord :=
  let previous := taskAttentionSnapshot record
  let record := { record with statusRevision := payload.revision, state := payload.state }
  let record := if isTerminalTaskState payload.state then clearCancelDeliveryState record
    else record
  let record := { record with
    approval := remoteApproval record.approval payload.state, updatedAt := receivedAt }
  let record := { applyPeerLongHorizon record payload with safeErrorCode := payload.safeErrorCode }
  markRemoteTaskAttentionIfChanged record previous

/-- A received artifact joins the record, with its stage label if it has one. -/
def addArtifact (artifact : CollaborationTaskArtifact) (entry : Option LongHorizonArtifactEntry) :
    TaskRecord :=
  let record :=
    if record.artifacts.any fun known => known.artifactId == artifact.artifactId then record
    else { record with artifacts := record.artifacts ++ [artifact] }
  let record := match entry with
    | none => record
    | some entry =>
      if record.peerArtifactMetadata.any fun known => known.artifactId == entry.artifactId then
        record
      else { record with peerArtifactMetadata := record.peerArtifactMetadata ++ [entry] }
  initializeAttachmentDiagnostics record .artifact (taskArtifactImages artifact)

/-- `cancel`, for a task that was sent. -/
def requestCancel (controlId : String) (canceledAt : Timestamp) : TaskRecord :=
  let record :=
    if record.cancelPending then record
    else removeApplicationDeliveryState
      { record with
        cancelControlId := some controlId
        cancelRequestedAt := some canceledAt
        cancelAcknowledgedAt := none }
      .control
  markTaskAttention { record with cancelPending := true, updatedAt := canceledAt }
    { kind := .cancelRequested }

/-- `submitLongHorizonInput`. -/
def submitInput (createdAt : Timestamp) : TaskRecord :=
  { removeApplicationDeliveryState
      { record with
        inputPending := some payload, inputSentAt := none, inputAcknowledgedAt := none }
      .input with
    updatedAt := createdAt }

end TetiBot

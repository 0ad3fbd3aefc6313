import TetiBot.Tasks.Store
import TetiBot.Library.Focus

/-
What the task service does to one record (`runtime/tasks/service.ts`, the
functions below the class).

* audits of sessions and plans, which are bounded and throw when full;
* the attention clock;
* attachment diagnostics, delivery attempts and failures, receipts owed;
* completion from a verified artifact, and expiry.

A function that mutates its argument in the source returns the new value here.
-/

namespace TetiBot

open Library

/-- A stored record. -/
abbrev TaskRecord : Type := CollaborationTaskTransportRecord
/-- The stored records. -/
abbrev TaskStore : Type := TetiTaskTransportStoreState

/-- When an application message is sent again. -/
def APPLICATION_RETRY_DELAYS_MS : List Int := [15000, 30000, 60000, 120000, 300000]
/-- When an attachment is sent again. -/
def ATTACHMENT_RETRY_DELAYS_MS : List Int := [15000, 30000, 60000, 120000, 300000]

/-! ### Audits -/

/-- A progress of its parts. -/
def progress (state : ExecutionProgressState) (completedUnits totalUnits : Option Nat)
    (message : Option String) (updatedAt : Timestamp) : ExecutionProgress :=
  ⟨state, completedUnits, totalUnits, message, updatedAt⟩

/-- An audit event before it is numbered and dated. -/
structure LongHorizonAuditInput where
  action : LongHorizonAuditAction
  actor : LongHorizonAuditActor
  stageIndex : Option Nat
  childAgentId : Option String := none
  artifactId : Option String := none
  inputId : Option String := none
  workspaceRevision : Option Nat := none
  safeErrorCode : Option String := none

/-- The event, numbered and dated. -/
def appendLongHorizonAudit (session : LongHorizonTaskState) (event : LongHorizonAuditInput)
    (timestamp : Timestamp) : Except TaskError LongHorizonTaskState := do
  failIf (LONG_HORIZON_LIMITS.maximumAuditEvents ≤ session.audit.length)
    (runtimeError "TASK_AUDIT_LIMIT" "Long-horizon audit capacity was reached.")
  return { session with
    audit := session.audit ++ [{
      sequence := session.audit.length + 1
      action := event.action
      actor := event.actor
      stageIndex := event.stageIndex
      timestamp := timestamp
      childAgentId := event.childAgentId
      artifactId := event.artifactId
      inputId := event.inputId
      workspaceRevision := event.workspaceRevision
      safeErrorCode := event.safeErrorCode }]
    updatedAt := timestamp }

/-- An audit event of a plan, likewise. -/
structure DelegationAuditInput where
  action : DelegationAuditAction
  actor : DelegationAuditActor
  stepId : Option String
  artifactId : Option String := none
  safeErrorCode : Option String := none

/-- The event, numbered and dated. -/
def appendDelegationAudit (plan : DelegationPlanState) (event : DelegationAuditInput)
    (timestamp : Timestamp) : Except TaskError DelegationPlanState := do
  failIf (DELEGATION_LIMITS.maximumAuditEvents ≤ plan.audit.length)
    (runtimeError "TASK_DELEGATION_AUDIT_LIMIT" "Delegation audit capacity was reached.")
  return { plan with
    audit := plan.audit ++ [{
      sequence := plan.audit.length + 1
      action := event.action
      actor := event.actor
      stepId := event.stepId
      timestamp := timestamp
      artifactId := event.artifactId
      safeErrorCode := event.safeErrorCode }]
    updatedAt := timestamp }

/-- The outcome of editing a record in place: the edited record, or an error
together with the record as the edit left it. -/
abbrev Edit : Type := Except (TaskError × TaskRecord) TaskRecord

variable (record : TaskRecord)

/-- Append to the audit of the session of a record. -/
def auditSession (event : LongHorizonAuditInput) (timestamp : Timestamp) : Edit :=
  match record.longHorizon with
  | none => .ok record
  | some session =>
    match appendLongHorizonAudit session event timestamp with
    | .ok audited => .ok { record with longHorizon := some audited }
    | .error error => .error (error, record)

/-- Append to the audit of the plan of a record. -/
def auditPlan (event : DelegationAuditInput) (timestamp : Timestamp) : Edit :=
  match record.delegationPlan with
  | none => .ok record
  | some plan =>
    match appendDelegationAudit plan event timestamp with
    | .ok audited => .ok { record with delegationPlan := some audited }
    | .error error => .error (error, record)

/-- `currentStageIndex || null`. -/
def indexOrNull (index : Nat) : Option Nat := if index = 0 then none else some index

/-! ### Attention -/

/-- What the user sees of a task. -/
structure TaskAttentionSnapshot where
  state : CollaborationTaskState
  delivery : TaskDeliveryState
  safeErrorCode : Option String
  peerLongHorizonStageIndex : Nat
  peerLongHorizonPhase : Option LongHorizonPhase
  peerLongHorizonExpiresAt : Option Timestamp

/-- The stage at the peer. -/
def peerStageIndex : Nat :=
  match record.peerLongHorizon with
  | some status => status.currentStageIndex
  | none => 0

/-- What the user sees of the record. -/
def taskAttentionSnapshot : TaskAttentionSnapshot where
  state := record.state
  delivery := record.delivery
  safeErrorCode := record.safeErrorCode
  peerLongHorizonStageIndex := peerStageIndex record
  peerLongHorizonPhase := record.peerLongHorizon.map fun status => status.phase
  peerLongHorizonExpiresAt := record.peerLongHorizon.map fun status => status.continuationExpiresAt

/-- A change before it is numbered. -/
structure TaskAttentionChangeInput where
  kind : TaskAttentionChangeKind
  occurredAt : Option Timestamp := none
  stageIndex : Option Nat := none
  safeErrorCode : Option String := none

/-- The change of the current revision. -/
def setLatestTaskChange (change : TaskAttentionChangeInput) : TaskRecord :=
  { record with latestAttentionChange := some {
      revision := record.attentionRevision.getD 0
      kind := change.kind
      occurredAt := change.occurredAt.getD record.updatedAt
      stageIndex := change.stageIndex.bind indexOrNull
      safeErrorCode := change.safeErrorCode } }

/-- A new change. -/
def markTaskAttention (change : TaskAttentionChangeInput) : TaskRecord :=
  setLatestTaskChange
    { record with
      attentionRevision := some (min MAX_SAFE_INTEGER (record.attentionRevision.getD 0 + 1)) }
    change

/-- The stage named by an attention change: `longHorizon ?? peerLongHorizon ?? 0`. -/
def attentionStageIndex : Nat :=
  match record.longHorizon with
  | some session => session.currentStageIndex
  | none => peerStageIndex record

/-- The change that ends a task. -/
def terminalAttentionChange : TaskAttentionChangeInput where
  kind :=
    if record.safeErrorCode = some "TASK_EXPIRED"
        ∨ (record.longHorizon.map fun session => session.phase) = some .expired
        ∨ (record.peerLongHorizon.map fun status => status.phase) = some .expired then .expired
    else match record.state with
      | .completed => .completed
      | .canceled => .canceled
      | .rejected => .rejected
      | _ => .failed
  stageIndex := indexOrNull (attentionStageIndex record)
  safeErrorCode := record.safeErrorCode

/-- The change that a record shows. -/
def inferTaskAttentionChange : TaskAttentionChangeInput :=
  if isTerminalTaskState record.state ∨ record.safeErrorCode = some "TASK_EXPIRED" then
    terminalAttentionChange record
  else if record.delivery = .sendFailed then
    { kind := .deliveryFailed, safeErrorCode := record.safeErrorCode }
  else { kind := .statusUpdated, safeErrorCode := record.safeErrorCode }

/-- A new change, if the user sees one. -/
def markTaskAttentionIfChanged (previous : TaskAttentionSnapshot) : TaskRecord :=
  if previous.state = record.state ∧ previous.delivery = record.delivery
      ∧ previous.safeErrorCode = record.safeErrorCode then record
  else markTaskAttention record (inferTaskAttentionChange record)

/-- `renewed` of `markRemoteTaskAttentionIfChanged`: both times are known and
the later one is later. -/
def remoteRenewed (current previous : Option Timestamp) : Bool :=
  match current, previous with
  | some current, some previous => previous < current
  | _, _ => false

/-- Mark a change if it happened. -/
def markIf (happened : Bool) (record : TaskRecord) (change : TaskAttentionChangeInput) :
    TaskRecord :=
  if happened then markTaskAttention record change else record

/-- A new change, if the user sees one of the peer. -/
def markRemoteTaskAttentionIfChanged (previous : TaskAttentionSnapshot) : TaskRecord :=
  if ¬record.isLongHorizon then markTaskAttentionIfChanged record previous
  else if previous.state ≠ record.state ∧ isTerminalTaskState record.state then
    markTaskAttention record (terminalAttentionChange record)
  else
    let phase := record.peerLongHorizon.map fun status => status.phase
    let stageIndex := indexOrNull (peerStageIndex record)
    let startedNextStage := previous.peerLongHorizonStageIndex < peerStageIndex record
    let paused := phase = some .paused ∧ previous.peerLongHorizonPhase ≠ some .paused
    let resumed := phase = some .working ∧ previous.peerLongHorizonPhase = some .paused
    let renewed := remoteRenewed
      (record.peerLongHorizon.map fun status => status.continuationExpiresAt)
      previous.peerLongHorizonExpiresAt
    let reportedStageFailure := record.safeErrorCode.isSome
      ∧ record.safeErrorCode ≠ previous.safeErrorCode
      ∧ (record.state = .inputRequired ∨ record.state = .failed)
    let record := markIf reportedStageFailure record
      { kind := .stageFailed, stageIndex := stageIndex, safeErrorCode := record.safeErrorCode }
    let record := markIf (startedNextStage ∨ resumed) record
      { kind := if 1 < peerStageIndex record then .resumed else .stageStarted
        stageIndex := stageIndex }
    let record := markIf paused record { kind := .paused, stageIndex := stageIndex }
    markIf renewed record { kind := .renewed, stageIndex := stageIndex }

/-! ### Attachment diagnostics -/

variable (purpose : TetiTaskAttachmentPurpose)

/-- A fresh diagnostic of the image at an index of its message. -/
def newAttachmentDiagnostic (count : Nat) (index : Nat) (part : TaskImagePart) :
    TaskAttachmentDiagnostic where
  attachmentId := part.attachmentId
  purpose := purpose
  ordinal := index + 1
  expectedCount := count
  byteLength := part.byteLength
  sha256 := part.sha256
  attempts := 0
  state := .expected
  firstSentAt := none
  lastSentAt := none
  storedAt := none
  receiptReceivedAt := none
  safeErrorCode := none

/-- The diagnostics of images that are expected. -/
def createAttachmentDiagnostics (parts : List TaskImagePart) : List TaskAttachmentDiagnostic :=
  parts.mapIdx (newAttachmentDiagnostic purpose parts.length)

/-- They take the place of those before. -/
def initializeAttachmentDiagnostics (parts : List TaskImagePart) : TaskRecord :=
  let own := record.attachmentDiagnostics.filter fun item => item.purpose == purpose
  let other := record.attachmentDiagnostics.filter fun item => item.purpose != purpose
  { record with attachmentDiagnostics := other ++ parts.mapIdx fun index part =>
      -- the map of the source keeps the last diagnostic of an attachment
      match own.reverse.find? fun item => item.attachmentId == part.attachmentId with
      | some prior => { prior with
          ordinal := index + 1, expectedCount := parts.length
          byteLength := part.byteLength, sha256 := part.sha256 }
      | none => newAttachmentDiagnostic purpose parts.length index part }

variable (attachmentId : String)

/-- The diagnostic of this attachment. -/
def isDiagnosticOf (item : TaskAttachmentDiagnostic) : Bool :=
  item.purpose == purpose && item.attachmentId == attachmentId

/-- A diagnostic, where there is none. -/
def ensureSingleAttachmentDiagnostic (part : TaskImagePart) : TaskRecord :=
  if record.attachmentDiagnostics.any (isDiagnosticOf purpose part.attachmentId) then record
  else { record with attachmentDiagnostics :=
      record.attachmentDiagnostics ++ createAttachmentDiagnostics purpose [part] }

/-- Update the diagnostic of an attachment. -/
def updateDiagnostic (f : TaskAttachmentDiagnostic → TaskAttachmentDiagnostic) : TaskRecord :=
  { record with attachmentDiagnostics :=
      updateFirst (isDiagnosticOf purpose attachmentId) f record.attachmentDiagnostics }

/-- An attachment was sent. -/
def markAttachmentSent (part : TaskImagePart) (timestamp : Timestamp) : TaskRecord :=
  updateDiagnostic (ensureSingleAttachmentDiagnostic record purpose part) purpose
    part.attachmentId fun item => { item with
      attempts := item.attempts + 1
      firstSentAt := some (item.firstSentAt.getD timestamp)
      lastSentAt := some timestamp
      state := if item.state ≠ .acknowledged ∧ item.state ≠ .stored then .sent else item.state }

/-- An attachment was stored. -/
def markAttachmentStored (part : TaskImagePart) (timestamp : Timestamp) : TaskRecord :=
  updateDiagnostic (ensureSingleAttachmentDiagnostic record purpose part) purpose
    part.attachmentId fun item => { item with
      storedAt := some (item.storedAt.getD timestamp)
      state := if item.state ≠ .acknowledged then .stored else item.state
      safeErrorCode := none }

/-- An attachment was acknowledged. -/
def markAttachmentAcknowledged (timestamp : Timestamp) : TaskRecord :=
  updateDiagnostic record purpose attachmentId fun item => { item with
    receiptReceivedAt := some timestamp, state := .acknowledged, safeErrorCode := none }

/-! ### Attempts -/

/-- `values?.includes(value) ? values : [...(values ?? []), value]`. -/
def appendUnique (values : List String) (value : String) : List String :=
  if values.contains value then values else values ++ [value]

/-- The delay before the retry after the given attempt. -/
def retryDelay (delays : List Int) (attempts : Nat) : Int :=
  delays.getD (min (attempts - 1) (delays.length - 1)) 0

/-- The attempts of the others. -/
def removeDeliveryAttempt (attempts : List TaskDeliveryAttempt) (id : String) :
    List TaskDeliveryAttempt :=
  attempts.filter fun attempt => attempt.id != id

/-- One attempt more, and when the next is due. -/
def recordDeliveryAttempt (attempts : List TaskDeliveryAttempt) (id : String) (now : Timestamp) :
    List TaskDeliveryAttempt :=
  let current := attempts.find? fun attempt => attempt.id == id
  let nextAttempt := (current.map fun attempt => attempt.attempts).getD 0 + 1
  removeDeliveryAttempt attempts id ++ [{
    id := id
    attempts := nextAttempt
    lastSentAt := now
    nextRetryAt := now + retryDelay ATTACHMENT_RETRY_DELAYS_MS nextAttempt }]

/-- The retry time of an attempt has come, or there was no attempt. -/
def attemptDue (attempts : List TaskDeliveryAttempt) (id : String) (now : Timestamp) : Bool :=
  match attempts.find? fun attempt => attempt.id == id with
  | some attempt => attempt.nextRetryAt ≤ now
  | none => true

/-- An artifact is due. -/
def shouldSendArtifact (artifactId : String) (now : Timestamp) : Bool :=
  !record.acknowledgedArtifactIds.contains artifactId
    && attemptDue record.artifactDeliveryAttempts artifactId now

/-- An attachment is due. -/
def shouldSendAttachment (purpose : TetiTaskAttachmentPurpose) (now : Timestamp) : Bool :=
  let (sent, acknowledged, attempts) := match purpose with
    | .input => (record.sentAttachmentIds, record.acknowledgedAttachmentIds,
        record.attachmentDeliveryAttempts)
    | .artifact => (record.sentArtifactAttachmentIds, record.acknowledgedArtifactAttachmentIds,
        record.artifactAttachmentDeliveryAttempts)
  if record.protocolVersion < 4 then !sent.contains attachmentId
  else !acknowledged.contains attachmentId && attemptDue attempts attachmentId now

/-! ### Application messages -/

/-- The receipt of an application message. -/
def createApplicationReceipt (taskId : String) (requesterTetiId targetTetiId : TetiId)
    (reference : TaskApplicationReference) (receivedAt : Timestamp) :
    TetiTaskApplicationReceiptPayload :=
  ⟨taskId, requesterTetiId, targetTetiId, reference, receivedAt⟩

/-- The last `n` elements (`slice(-n)`). -/
def lastElements {α : Type} (n : Nat) (l : List α) : List α := l.drop (l.length - n)

/-- The last 16 receipts are kept. -/
def enqueueApplicationReceipt (receipt : TetiTaskApplicationReceiptPayload) : TaskRecord :=
  let existing := record.applicationReceiptOutbox.find? fun candidate =>
    candidate.reference == receipt.reference
  let others := record.applicationReceiptOutbox.filter fun candidate =>
    candidate.reference != receipt.reference
  { record with applicationReceiptOutbox := lastElements 16 (others ++ [existing.getD receipt]) }

/-- The receipt was sent. -/
def removeApplicationReceipt (receipt : TetiTaskApplicationReceiptPayload) : TaskRecord :=
  { record with applicationReceiptOutbox := record.applicationReceiptOutbox.filter fun candidate =>
      candidate.reference != receipt.reference }

variable (reference : TaskApplicationReference)

/-- An application message is due. -/
def shouldSendApplicationMessage (now : Timestamp) : Bool :=
  match record.applicationDeliveryAttempts.find? fun item => item.reference == reference with
  | some attempt => attempt.nextRetryAt ≤ now
  | none => true

/-- One attempt more for its kind. -/
def recordApplicationDeliveryAttempt (now : Timestamp) : TaskRecord :=
  let current := record.applicationDeliveryAttempts.find? fun item => item.reference == reference
  let attempts := (current.map fun item => item.attempts).getD 0 + 1
  let others := record.applicationDeliveryAttempts.filter fun item =>
    item.reference.kind != reference.kind
  { record with
    applicationDeliveryAttempts := others ++ [{
      reference := reference
      attempts := attempts
      lastSentAt := now
      nextRetryAt := now + retryDelay APPLICATION_RETRY_DELAYS_MS attempts }] }

/-- The message needs no attempts. -/
def removeApplicationDeliveryAttempt : TaskRecord :=
  { record with applicationDeliveryAttempts := record.applicationDeliveryAttempts.filter fun item =>
      item.reference != reference }

/-- Nothing of the kind is under way. -/
def removeApplicationDeliveryState (kind : TetiTaskApplicationReceiptKind) : TaskRecord :=
  { record with
    applicationDeliveryAttempts := record.applicationDeliveryAttempts.filter fun item =>
      item.reference.kind != kind
    applicationDeliveryFailures := record.applicationDeliveryFailures.filter fun item =>
      item.reference.kind != some kind }

/-- An attempt or a failure names the reference. -/
def hasDeliveryEvidence : Bool :=
  (record.applicationDeliveryAttempts.any fun item => item.reference == reference)
    || record.applicationDeliveryFailures.any fun item => item.reference == .application reference

/-- The message was sent. -/
def hasApplicationDeliveryReference : TaskApplicationReference → Bool
  | .status revision =>
    1 ≤ revision && revision ≤ record.statusRevision
      && (revision ≤ record.statusAcknowledgedRevision.getD 0
        || hasDeliveryEvidence record (.status revision))
  | .input inputId =>
    (record.inputPending.map fun payload => payload.inputId) == some inputId
      && (record.inputAcknowledgedAt.isSome || hasDeliveryEvidence record (.input inputId))
  | .control controlId =>
    record.cancelControlId == some controlId
      && (record.cancelAcknowledgedAt.isSome || hasDeliveryEvidence record (.control controlId))

variable (reference : TaskDeliveryReference)

/-- A delivery has failed. -/
def recordApplicationDeliveryFailure (safeErrorCode : String) (failedAt : Timestamp) : TaskRecord :=
  let existing := record.applicationDeliveryFailures.find? fun item => item.reference == reference
  let others := record.applicationDeliveryFailures.filter fun item =>
    item.reference.kind != reference.kind
  if (existing.map fun item => item.safeErrorCode) = some safeErrorCode then record
  else markTaskAttention
    { record with
      applicationDeliveryFailures := others ++ [⟨reference, failedAt, safeErrorCode⟩] }
    { kind := .deliveryFailed, safeErrorCode := some safeErrorCode, occurredAt := some failedAt }

/-- A failure that the reference settles: its own, or that of an earlier status. -/
def isSettledFailure (item : TaskApplicationDeliveryFailure) : Bool :=
  match reference, item.reference with
  | .application (.status revision), .application (.status failed) => failed ≤ revision
  | reference, failed => failed == reference

/-- The new record, if a failure was settled. -/
def recoverApplicationDeliveryFailure (recoveredAt : Timestamp) : Option TaskRecord :=
  if record.applicationDeliveryFailures.any (isSettledFailure reference) then
    some (markTaskAttention
      { record with applicationDeliveryFailures :=
          record.applicationDeliveryFailures.filter fun item => !isSettledFailure reference item }
      { kind := .deliveryRecovered, occurredAt := some recoveredAt })
  else none

/-- No cancellation is under way. -/
def clearCancelDeliveryState : TaskRecord :=
  removeApplicationDeliveryState
    { record with
      cancelPending := false
      cancelControlId := none
      cancelRequestedAt := none
      cancelSentAt := none
      cancelAcknowledgedAt := none }
    .control

/-! ### Expiry and completion -/

/-- When a task expires. -/
def effectiveTaskExpiry : Timestamp :=
  match record.longHorizon, record.peerLongHorizon with
  | some session, _ => session.continuationExpiresAt
  | none, some status => status.continuationExpiresAt
  | none, none => record.request.expiresAt

/-- The execution of the current stage. -/
def currentExecutionTaskId : Option String :=
  match record.longHorizon with
  | none => none
  | some session =>
    if session.currentStageIndex = 0 then none
    else
      (session.stages.find? fun stage => stage.stageIndex == session.currentStageIndex).map
        fun stage => stage.executionTaskId

/-- The states from which a verified artifact completes an outgoing record. -/
def completesFromArtifact : Bool :=
  record.state == .completed
    || (record.state == .rejected && record.safeErrorCode == some "TASK_EXPIRED")
    || record.state == .submitted || record.state == .working
    || record.state == .authRequired || record.state == .inputRequired

/-- The new record, if it was completed from its artifact. -/
def completeOutgoingSingleStageFromVerifiedArtifact (observedAt : Timestamp) : Option TaskRecord :=
  if record.direction ≠ .outgoing ∨ record.protocolVersion < 7 ∨ record.isLongHorizon
      ∨ record.artifacts = [] then none
  else if ¬completesFromArtifact record then none
  else if record.state = .completed ∧ record.approval = .approvedOnce
      ∧ record.delivery = .acknowledged ∧ record.cancelPending = false
      ∧ record.cancelSentAt = none ∧ record.safeErrorCode = none then none
  else
    let record := clearCancelDeliveryState
      { record with state := .completed, approval := .approvedOnce, delivery := .acknowledged }
    some (markTaskAttention { record with safeErrorCode := none, updatedAt := observedAt }
      { kind := .completed, occurredAt := some observedAt })

/-- Cancel the plan of a record, with the step that is working. -/
def cancelDelegationPlan (plan : DelegationPlanState) (actor : DelegationAuditActor)
    (safeErrorCode : String) (timestamp : Timestamp) : Edit :=
  let activeStep := plan.steps.find? fun step => step.state == .working
  auditPlan
    { record with delegationPlan := some { plan with
        phase := .canceled
        updatedAt := timestamp
        steps := updateFirst (fun step => step.state == .working)
          (DelegationStep.settled .canceled timestamp safeErrorCode) plan.steps } }
    { action := .planCanceled
      actor := actor
      stepId := activeStep.map DelegationStep.stepId
      safeErrorCode := some safeErrorCode }
    timestamp

variable (timestamp : Timestamp)

/-- What expiry does to the session of a record. -/
def expireLongHorizon : Edit :=
  match record.longHorizon with
  | none => .ok record
  | some session =>
    if session.phase = .expired then .ok record
    else auditSession
      { record with longHorizon := some { session with
          phase := .expired
          pauseRequested := false
          inputRequest := none
          pendingInput := none
          progress := progress .canceled none none (some "长期协作续期已过期") timestamp } }
      { action := .expired
        actor := .host
        stageIndex := indexOrNull session.currentStageIndex
        safeErrorCode := some "TASK_EXPIRED" }
      timestamp

/-- What expiry does to the plan of a record. -/
def expireDelegation : Edit :=
  match record.delegationPlan with
  | none => .ok record
  | some plan =>
    if plan.phase = .completed ∨ plan.phase = .failed ∨ plan.phase = .canceled then .ok record
    else cancelDelegationPlan record plan .host "TASK_EXPIRED" timestamp

/-- What is not stored has expired. -/
def expireDiagnostic (item : TaskAttachmentDiagnostic) : TaskAttachmentDiagnostic :=
  if item.state = .acknowledged ∨ item.state = .stored then item
  else { item with state := .expired, safeErrorCode := some "TASK_EXPIRED" }

/-- The part of expiry after the session and the plan were ended. -/
def expireDeliveries : TaskRecord :=
  let record := removeApplicationDeliveryState
    { record with
      receiptPending := false
      inputPending := none
      inputSentAt := none
      inputAcknowledgedAt := none }
    .input
  let record := clearCancelDeliveryState record
  { record with
    attachmentDiagnostics := record.attachmentDiagnostics.map expireDiagnostic
    statusRevision :=
      if record.direction = .incoming then record.statusRevision + 1 else record.statusRevision
    statusPending := if record.direction = .incoming then true else record.statusPending
    updatedAt := timestamp }

/-- The task has expired. -/
def expireRecord : Edit := do
  let previous := taskAttentionSnapshot record
  let record := { record with
    delivery := .expired
    state := .rejected
    approval := .expired
    safeErrorCode := some "TASK_EXPIRED" }
  let record ← expireLongHorizon record timestamp
  let record ← expireDelegation record timestamp
  let record := expireDeliveries record timestamp
  return if previous.state ≠ record.state ∨ previous.delivery ≠ record.delivery
      ∨ previous.safeErrorCode ≠ record.safeErrorCode then
    markTaskAttention record
      { kind := .expired, safeErrorCode := some "TASK_EXPIRED", occurredAt := some timestamp }
  else record

/-- The record is due to expire. -/
def isExpiryDue (now : Timestamp) : Bool :=
  (!isTerminalTaskState record.state || record.delivery == .queued
      || record.delivery == .sendFailed)
    && effectiveTaskExpiry record ≤ now

/-! ### Request receipts -/

variable (request : CollaborationTaskRequest)

/-- The receipt of a request. -/
def createReceipt (localTetiId : TetiId) (status : TetiTaskReceiptStatus) (receivedAt : Timestamp) :
    TetiTaskReceiptPayload :=
  ⟨request.taskId, request.requesterTetiId, localTetiId, status, receivedAt,
    TETI_SUPPORTED_TASK_PROTOCOL_VERSIONS⟩

/-- What a receipt does to the record. -/
def applyReceipt (receipt : TetiTaskReceiptPayload) (observedAt : Timestamp) : Edit :=
  let record := { record with receipt := some receipt, updatedAt := observedAt }
  match receipt.status with
  | .received | .duplicate =>
    let clears := record.state = .submitted
      ∧ (record.safeErrorCode = some "TASK_CHATMAIL_SEND_FAILED"
        ∨ record.safeErrorCode = some "TASK_CONNECTION_UNAVAILABLE")
    .ok { record with
      delivery := .acknowledged
      safeErrorCode := if clears then none else record.safeErrorCode }
  | .expired => expireRecord record observedAt
  | .conflict => .ok { record with
      delivery := .conflict
      state := .failed
      approval := .rejected
      safeErrorCode := some "TASK_ID_CONFLICT" }
  | .rejected => .ok { record with
      delivery := .rejected
      state := .rejected
      approval := .rejected
      safeErrorCode := some "TASK_REJECTED" }

/-- The receipt says something new. -/
def shouldApplyReceipt (receipt : TetiTaskReceiptPayload) : Bool :=
  let settled := record.delivery == .conflict || record.delivery == .rejected
    || record.delivery == .expired
  let inOrder := match record.receipt with
    | none => true
    | some known =>
      known.receivedAt < receipt.receivedAt
        || (known.receivedAt == receipt.receivedAt && receipt == known)
  let admissible := receipt.status == .received || receipt.status == .duplicate
    || record.state == .submitted
  !settled && inOrder && admissible

/-! ### Sessions -/

/-- A new session. -/
def createLongHorizonState (now : Timestamp) : Except TaskError LongHorizonTaskState :=
  appendLongHorizonAudit
    { phase := .pendingApproval
      currentStageIndex := 0
      workspaceRevision := 1
      progress := progress .queued (some 0) (some LONG_HORIZON_LIMITS.maximumStages)
        (some "等待接收端批准") now
      continuationExpiresAt := request.expiresAt
      renewalCount := 0
      pauseRequested := false
      pendingInput := none
      inputRequest := none
      availableChildAgents := []
      stages := []
      checkpoints := []
      artifacts := []
      audit := []
      updatedAt := now }
    { action := .sessionCreated, actor := .host, stageIndex := none, workspaceRevision := some 1 }
    now

/-- How a received request is stored. -/
inductive IncomingDelivery
  | received | expired | rejected
  deriving DecidableEq

/-- The record of a request that was received. -/
def incomingRecord (peerTetiId : TetiId)
    (envelopeMessageId : String) (chatmailMessageId : Option Nat) (receivedAt : Timestamp)
    (delivery : IncomingDelivery) : Except TaskError TaskRecord := do
  let longHorizon ←
    if request.executionMode = some .longHorizon then
      (createLongHorizonState request receivedAt).map some
    else .ok none
  return {
    direction := .incoming
    peerTetiId := peerTetiId
    protocolVersion := request.schemaVersion
    envelopeMessageId := some envelopeMessageId
    chatmailMessageId := chatmailMessageId
    request := request
    state := match delivery with
      | .received => .submitted
      | _ => .rejected
    approval := match delivery with
      | .received => .pending
      | .expired => .expired
      | .rejected => .rejected
    delivery := match delivery with
      | .received => .received
      | .expired => .expired
      | .rejected => .rejected
    createdAt := receivedAt
    updatedAt := receivedAt
    attachmentsReady := (taskInputImages request.input).isEmpty
    attachmentDiagnostics := createAttachmentDiagnostics .input (taskInputImages request.input)
    longHorizon := longHorizon
    safeErrorCode := match delivery with
      | .received => none
      | .expired => some "TASK_EXPIRED"
      | .rejected => some "TASK_CREATED_AT_FUTURE" }

/-! ### Status -/

/-- The peer may go on to this state. -/
def isRemoteTransitionAllowed (current next : CollaborationTaskState) : Bool :=
  !isTerminalTaskState current
    && (current == .submitted || current == .working || current == .authRequired
      || current == .inputRequired)
    && [.working, .completed, .rejected, .failed, .canceled, .authRequired,
        .inputRequired].contains next

/-- The state that the peer is told. -/
def networkTaskState (state : CollaborationTaskState) : CollaborationTaskState :=
  if [CollaborationTaskState.working, .inputRequired, .authRequired, .completed, .failed,
      .canceled, .rejected].contains state then state
  else .failed

/-- What the peer is told of a session. -/
def peerLongHorizonStatus (session : LongHorizonTaskState) : TetiTaskLongHorizonStatus where
  phase := if session.phase = .pendingApproval then .failed else session.phase
  currentStageIndex := session.currentStageIndex
  workspaceRevision := session.workspaceRevision
  completedUnits := session.progress.completedUnits
  totalUnits := session.progress.totalUnits
  progressMessage := session.progress.message
  continuationExpiresAt := session.continuationExpiresAt
  inputRequestId := session.inputRequest.map fun request => request.requestId
  finalArtifactId := (session.artifacts.find? fun entry => entry.role == .final).map
    fun entry => entry.artifactId

/-! ### A task -/

/-- A request. -/
def sampleTaskRequest : CollaborationTaskRequest where
  schemaVersion := 7
  taskId := "task-1"
  requesterTetiId := "teti_aaaaaaaaa"
  targetTetiId := "teti_bbbbbbbbb"
  offerId := "capability:text"
  capabilityId := "text"
  input := .parts [.text (JsString.ofString "hi")]
  workspace := some (.temporary [.read])
  executionMode := some .singleStage
  createdAt := 0
  expiresAt := 1000

/-- The request at its host, which is working on it. -/
def sampleTaskRecord : TaskRecord where
  direction := .incoming
  peerTetiId := "teti_aaaaaaaaa"
  protocolVersion := 7
  request := sampleTaskRequest
  state := .working
  approval := .consumed
  delivery := .received
  createdAt := 0
  updatedAt := 1

end TetiBot

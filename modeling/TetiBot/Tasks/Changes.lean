import TetiBot.Tasks.Commands

/-
The changes of a record, as labelled transitions.

* `RecordCore`: the fields that a change is about.  Everything else in a
  record (delivery attempts, receipts owed, diagnostics, the attention clock)
  is bookkeeping, and bookkeeping never touches the core.
* `Change`: one label for each edit of the core, with what the edit is told.
* `Change.apply`: the edit.
-/

namespace TetiBot

open Library

/-! ### The core of a record -/

structure RecordCore where
  direction : TaskTransportDirection
  peerTetiId : TetiId
  protocolVersion : Nat
  request : CollaborationTaskRequest
  state : CollaborationTaskState
  approval : TaskApprovalState
  delivery : TaskDeliveryState
  statusRevision : Nat
  statusPending : Bool
  statusAcknowledgedRevision : Option Nat
  artifacts : List CollaborationTaskArtifact
  longHorizon : Option LongHorizonTaskState
  delegationPlan : Option DelegationPlanState
  peerLongHorizon : Option TetiTaskLongHorizonStatus
  safeErrorCode : Option String

/-- The core of a record. -/
def CollaborationTaskTransportRecord.core (record : TaskRecord) : RecordCore where
  direction := record.direction
  peerTetiId := record.peerTetiId
  protocolVersion := record.protocolVersion
  request := record.request
  state := record.state
  approval := record.approval
  delivery := record.delivery
  statusRevision := record.statusRevision
  statusPending := record.statusPending
  statusAcknowledgedRevision := record.statusAcknowledgedRevision
  artifacts := record.artifacts
  longHorizon := record.longHorizon
  delegationPlan := record.delegationPlan
  peerLongHorizon := record.peerLongHorizon
  safeErrorCode := record.safeErrorCode

/-! ### Guards -/

/-- The record awaits the decision of its owner. -/
def awaitsApproval (record : TaskRecord) : Bool :=
  record.approval == .pending && (record.state == .submitted || record.state == .authRequired)

/-- The session is at a stage boundary. -/
def atBoundary (session : LongHorizonTaskState) : Bool :=
  session.phase == .inputRequired || session.phase == .paused

/-- The session has ended, as `requireIncomingLongHorizon` sees it. -/
def sessionEnded (session : LongHorizonTaskState) : Bool :=
  session.phase == .completed || session.phase == .failed || session.phase == .canceled
    || session.phase == .expired

/-- The first step of a plan that has not started. -/
def nextPendingStep (plan : DelegationPlanState) : Option DelegationChildStep :=
  plan.steps.findSome? fun step =>
    step.child?.bind fun child => if child.state = .pending then some child else none

/-- The stage of an execution is the current one, and it is running. -/
def runningStage (record : TaskRecord) (executionTaskId : String) : Option LongHorizonStage :=
  record.longHorizon.bind fun session =>
    (session.stageOf executionTaskId).filter fun stage =>
      stage.stageIndex == session.currentStageIndex && stage.state == .working

/-! ### Changes -/

/-- How far the start of the next step got before it threw, as far as the
record shows it. -/
inductive StartAttempt
  /-- The record was not edited. -/
  | unedited
  /-- The lease had run out. -/
  | expiry (timestamp : Timestamp)
  /-- The start of the stage was edited, at least in part. -/
  | start (session : LongHorizonTaskState) (workspace : TaskWorkspaceBinding) (begun : StageStart)
  /-- The start of the stage had been saved. -/
  | saved

/-- The record as an edit leaves it, whether or not it throws. -/
def Edit.record : Edit → TaskRecord
  | .ok record => record
  | .error (_, record) => record

/-- The record as an attempt left it. -/
def StartAttempt.edited (attempt : StartAttempt) (record : TaskRecord) : TaskRecord :=
  match attempt with
  | .unedited => record
  | .expiry timestamp => Edit.record (expireRecord record timestamp)
  | .start session workspace begun => Edit.record (startStage record session workspace begun)
  | .saved => record

inductive Change
  | approved (now : Timestamp)
  | planAttached (plan : DelegationPlanState)
  | stepBound (stepId : String) (workspaceRevision : Nat)
  | stageStarted (session : LongHorizonTaskState) (workspace : TaskWorkspaceBinding)
      (begun : StageStart)
  | targetsRefreshed (targets : List LongHorizonChildTarget) (now : Timestamp)
  | rejectedByUser (now : Timestamp)
  | canceledByUser (now : Timestamp)
  | canceledByRequester (now : Timestamp)
  | expired (now : Timestamp)
  | taskFinished (executionTaskId : String) (outcome : SingleStageOutcome) (now : Timestamp)
  | stageExpired (executionTaskId : String) (now : Timestamp)
  | stageConflicted (stage : LongHorizonStage) (artifact : CollaborationTaskArtifact)
      (requestId : String) (now : Timestamp)
  | stagePublished (stage : LongHorizonStage) (artifact : CollaborationTaskArtifact)
      (revision : Option Nat) (checkpointId checkpointDigest requestId : String) (now : Timestamp)
  | delegationStepPublished (stage : LongHorizonStage) (step : DelegationChildStep)
      (artifact : CollaborationTaskArtifact) (revision : Option Nat)
      (checkpointId checkpointDigest : String) (now : Timestamp)
  | nextStepFailed (attempt : StartAttempt) (stage : LongHorizonStage)
      (nextStep : DelegationChildStep) (safeErrorCode : String) (now : Timestamp)
  | delegationCompleted (plan : DelegationPlanState) (aggregation : DelegationAggregationStep)
      (artifactId : String) (now : Timestamp)
  | stageFailed (stage : LongHorizonStage) (failure : StageFailure) (requestId : String)
      (now : Timestamp)
  | inputReceived (payload : TetiTaskInputPayload) (instructionDigest : String) (now : Timestamp)
  | paused (session : LongHorizonTaskState) (now : Timestamp)
  | sessionCompleted (session : LongHorizonTaskState) (now : Timestamp)
  | renewed (nextExpiry now : Timestamp)
  | resumed (now : Timestamp)
  | progressUpdated (stage : LongHorizonStage) (handle : ExecutionHandle) (now : Timestamp)
  | executionInterrupted (resumable : Bool) (now : Timestamp)
  | protocolUpgradeRequired (now : Timestamp)
  | statusAcknowledged (revision : Nat)
  | requestSent (envelopeMessageId : String) (chatmailMessageId : Option Nat)
  | requestFailed (safeErrorCode : String) (now : Timestamp)
  | receiptApplied (receipt : TetiTaskReceiptPayload) (now : Timestamp)
  | statusReceived (payload : TetiTaskStatusPayload) (now : Timestamp)
  | artifactReceived (artifact : CollaborationTaskArtifact)
      (entry : Option LongHorizonArtifactEntry)
  | completedFromArtifact (now : Timestamp)

/-- The checked workspace revision, where there was one to check. -/
def bindRevision (record : TaskRecord) : Option Nat → TaskRecord
  | some revision => bindWorkspaceRevision record revision
  | none => record

/-- A stage with its artifact, its workspace revision and its checkpoint. -/
def resultStage (record : TaskRecord) (stage : LongHorizonStage)
    (artifact : CollaborationTaskArtifact) (revision : Option Nat)
    (checkpointId checkpointDigest : String) (now : Timestamp) : TaskRecord :=
  recordStageResult (bindRevision (completeStage record stage artifact now) revision) stage
    artifact.artifactId checkpointId checkpointDigest now

/-- The edit that a change makes. -/
def Change.apply (change : Change) (record : TaskRecord) : Edit :=
  match change with
  | .approved now => .ok (startTask record now)
  | .planAttached plan => .ok { record with delegationPlan := some plan }
  | .stepBound stepId revision =>
    .ok (editPlan record (updateStep stepId fun step => { step with workspaceRevision := revision }))
  | .stageStarted session workspace begun => startStage record session workspace begun
  | .targetsRefreshed targets now => .ok (refreshTargets record targets now)
  | .rejectedByUser now => rejectTask record now
  | .canceledByUser now => cancelTask record now
  | .canceledByRequester now => cancelTaskByRequester record now
  | .expired now => expireRecord record now
  | .taskFinished _ outcome now => .ok (finishTask record outcome now)
  | .stageExpired executionTaskId now => expireStage record executionTaskId now
  | .stageConflicted stage artifact requestId now =>
    conflictStage (completeStage record stage artifact now) stage artifact.artifactId requestId now
  | .stagePublished stage artifact revision checkpointId checkpointDigest requestId now =>
    publishStage (resultStage record stage artifact revision checkpointId checkpointDigest now)
      stage artifact.artifactId requestId now
  | .delegationStepPublished stage step artifact revision checkpointId checkpointDigest now =>
    publishDelegationStep
      (resultStage record stage artifact revision checkpointId checkpointDigest now)
      stage step artifact.artifactId now
  | .nextStepFailed attempt stage nextStep safeErrorCode now =>
    failNextStep (attempt.edited record) stage nextStep safeErrorCode now
  | .delegationCompleted plan aggregation artifactId now =>
    completeDelegation record plan aggregation artifactId now
  | .stageFailed stage failure requestId now => failStage record stage failure requestId now
  | .inputReceived payload instructionDigest now =>
    acceptInput record payload instructionDigest now
  | .paused session now => pauseSession record session now
  | .sessionCompleted session now => completeSession record session now
  | .renewed nextExpiry now => renewSession record nextExpiry now
  | .resumed now => .ok (resumeTask record now)
  | .progressUpdated stage handle now => updateProgress record stage handle now
  | .executionInterrupted resumable now => .ok (interruptTask record resumable now)
  | .protocolUpgradeRequired now => .ok (requireProtocolUpgrade record now)
  | .statusAcknowledged revision => .ok (acknowledgeStatus record revision)
  | .requestSent envelopeMessageId chatmailMessageId =>
    .ok (markRequestSent record envelopeMessageId chatmailMessageId)
  | .requestFailed safeErrorCode now => .ok (markRequestFailed record safeErrorCode now)
  | .receiptApplied receipt now => applyReceipt record receipt now
  | .statusReceived payload now => .ok (applyStatus record payload now)
  | .artifactReceived artifact entry => .ok (addArtifact record artifact entry)
  | .completedFromArtifact now =>
    .ok ((completeOutgoingSingleStageFromVerifiedArtifact record now).getD record)

end TetiBot

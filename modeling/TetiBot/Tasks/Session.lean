import TetiBot.Tasks.Record
import TetiBot.Callable.Authority

/-
What the task service does to the session and the plan of a record
(`startLongHorizonStage`, `finishLongHorizonStage`, `completeDelegation` and
`updateLongHorizonProgress` of `runtime/tasks/service.ts`).

* `startStage`: the record when its next stage starts;
* `completeStage`, then one of `conflictStage`, `publishStage`,
  `publishDelegationStep`: a stage that produced an artifact;
* `failStage`: a stage that did not;
* `expireStage`: a stage whose lease ran out;
* `failNextStep`: the plan is stopped because its next step did not start;
* `completeDelegation`: the plan is completed by the host;
* `updateProgress`: a running stage takes over the progress of its handle;
* the instructions that stages and steps are given.

Each follows the assignments of the source in their order.  Where the source
goes on to write the store, the edit ends.
-/

namespace TetiBot

open Library

/-! ### Pieces -/

def longHorizonExecutionTaskId (sha256 : Sha256) (taskId : String) (stageIndex : Nat) : String :=
  s!"lh_{(sha256 (JsString.ofString taskId)).take 24}_{stageIndex}"

variable (record : TaskRecord)

/-- Raise the status revision and owe the requester a status. -/
def bumpStatus : TaskRecord :=
  { record with statusRevision := record.statusRevision + 1, statusPending := true }

/-- Edit the session of a record. -/
def editSession (f : LongHorizonTaskState → LongHorizonTaskState) : TaskRecord :=
  { record with longHorizon := record.longHorizon.map f }

/-- Edit the plan of a record. -/
def editPlan (f : DelegationPlanState → DelegationPlanState) : TaskRecord :=
  { record with delegationPlan := record.delegationPlan.map f }

variable (executionTaskId : String)

/-- Edit the stage of an execution. -/
def updateStage (f : LongHorizonStage → LongHorizonStage)
    (session : LongHorizonTaskState) : LongHorizonTaskState :=
  { session with stages :=
      updateFirst (fun stage => stage.executionTaskId == executionTaskId) f session.stages }

namespace DelegationStep

/-- Edit a child step. -/
def mapChild (f : DelegationChildStep → DelegationChildStep) : DelegationStep → DelegationStep
  | .childExecution step => .childExecution (f step)
  | .artifactAggregation step => .artifactAggregation step

/-- Edit an aggregation step. -/
def mapAggregation (f : DelegationAggregationStep → DelegationAggregationStep) :
    DelegationStep → DelegationStep
  | .childExecution step => .childExecution step
  | .artifactAggregation step => .artifactAggregation (f step)

end DelegationStep

/-- Edit the child step with an identifier. -/
def updateStep (stepId : String) (f : DelegationChildStep → DelegationChildStep)
    (plan : DelegationPlanState) : DelegationPlanState :=
  { plan with steps :=
      updateFirst (fun step => step.stepId == stepId) (DelegationStep.mapChild f) plan.steps }

/-- The child step of a plan that an execution belongs to. -/
def delegationStepOf : Option DelegationChildStep :=
  record.delegationPlan.bind fun plan =>
    plan.steps.findSome? fun step =>
      step.child?.bind fun child =>
        if child.executionTaskId = some executionTaskId then some child else none

/-- The stage of a session that an execution belongs to. -/
def LongHorizonTaskState.stageOf (session : LongHorizonTaskState) (executionTaskId : String) :
    Option LongHorizonStage :=
  session.stages.find? fun stage => stage.executionTaskId == executionTaskId

/-! ### Starting a stage -/

/-- What the start of a stage is told. -/
structure StageStart where
  executionTaskId : String
  target : TaskExecutionTarget
  inputId : Option String
  instructionDigest : String
  /-- The step of the plan that the stage executes. -/
  delegationStep : Option DelegationChildStep
  now : Timestamp

def stageMutation (workspace : TaskWorkspaceBinding) (target : TaskExecutionTarget) :
    WorkspaceMutation :=
  if target.workspacePolicy = some .snapshot ∧ ¬workspace.workspaceId.startsWith "workspace:none."
      ∧ (workspace.access.contains .write ∨ workspace.access.contains .createArtifact) then
    .snapshotCommit
  else .none

/-- The step of the plan starts. -/
def beginDelegationStep (start : StageStart) : Edit :=
  match start.delegationStep with
  | none => .ok record
  | some step => auditPlan
      (editPlan record fun plan => updateStep step.stepId
        (fun step => { step with
          state := .working
          executionTaskId := some start.executionTaskId
          startedAt := some start.now })
        { plan with
          phase := .working, currentStepIndex := step.stepIndex, updatedAt := start.now })
      { action := .stepStarted, actor := .host, stepId := some step.stepId }
      start.now

/-- The session enters the new stage.  (The pending input is marked consumed
and dropped at once; only the drop shows.) -/
def openStage (workspace : TaskWorkspaceBinding) (start : StageStart)
    (session : LongHorizonTaskState) : LongHorizonTaskState :=
  let stageIndex := session.stages.length + 1
  let started := progress .running (some (stageIndex - 1))
    (some LONG_HORIZON_LIMITS.maximumStages) (some s!"阶段 {stageIndex} 正在执行") start.now
  { session with
    currentStageIndex := stageIndex
    workspaceRevision := workspace.workspaceRevision
    phase := .working
    pauseRequested := false
    pendingInput := none
    inputRequest := none
    progress := started
    stages := session.stages ++ [{
      stageId := s!"stage:{stageIndex}"
      stageIndex := stageIndex
      executionTaskId := start.executionTaskId
      childAgentId := start.target.childAgentId
      connectorId := start.target.connectorId
      state := .working
      workspaceRevision := workspace.workspaceRevision
      workspaceMutation := stageMutation workspace start.target
      inputId := start.inputId
      instructionDigest := start.instructionDigest
      progress := started
      artifactIds := []
      checkpointAvailable := false
      startedAt := start.now
      updatedAt := start.now
      completedAt := none
      safeErrorCode := none }] }

/-- The audit event of a stage start. -/
def stageStartEvent (action : LongHorizonAuditAction) (actor : LongHorizonAuditActor)
    (stageIndex : Nat) (workspace : TaskWorkspaceBinding) (start : StageStart) :
    LongHorizonAuditInput where
  action := action
  actor := actor
  stageIndex := some stageIndex
  childAgentId := some start.target.childAgentId
  workspaceRevision := some workspace.workspaceRevision

/-- Append to the audit of the session where a condition holds. -/
def auditSessionIf (condition : Bool) (record : TaskRecord) (event : LongHorizonAuditInput)
    (timestamp : Timestamp) : Edit :=
  if condition then auditSession record event timestamp else .ok record

/-- The next stage of a record starts in a workspace. -/
def startStage (session : LongHorizonTaskState) (workspace : TaskWorkspaceBinding)
    (start : StageStart) : Edit := do
  let stageIndex := session.stages.length + 1
  let previousChildAgentId := session.stages.getLast?.map fun stage => stage.childAgentId
  let record ← beginDelegationStep record start
  let record := editSession record (openStage workspace start)
  let record ← auditSessionIf
    (stageIndex == 1 || previousChildAgentId != some start.target.childAgentId) record
    (stageStartEvent .childSelected .localUser stageIndex workspace start) start.now
  let record ← auditSessionIf (1 < stageIndex) record
    (stageStartEvent .resumed .localUser stageIndex workspace start) start.now
  let record ← auditSession record
    (stageStartEvent .stageStarted .host stageIndex workspace start) start.now
  let record := bumpStatus { record with
    state := .working
    approval := .consumed
    updatedAt := start.now
    safeErrorCode := none }
  return markTaskAttention record
    { kind := if 1 < stageIndex then .resumed else .stageStarted, stageIndex := some stageIndex }

/-! ### Finishing a stage -/

/-- The lease of the task ran out while a stage was running. -/
def expireStage (completedAt : Timestamp) : Edit := do
  let record ← expireRecord record completedAt
  return editSession record (updateStage executionTaskId fun stage => { stage with
    state := .canceled
    safeErrorCode := some "TASK_EXPIRED"
    updatedAt := completedAt
    completedAt := some completedAt })

/-- The artifact of a stage that produced an output. -/
def stageArtifact (artifactId : String) (output : CallableAdapterTaskArtifact)
    (completedAt : Timestamp) : CollaborationTaskArtifact :=
  let images := if record.delegationPlan.isSome then output.images else []
  .v2 record.request.taskId artifactId (.text output.outputText :: images.map .image) completedAt

variable (stage : LongHorizonStage)

/-- The stage has its artifact. -/
def completeStage (artifact : CollaborationTaskArtifact) (completedAt : Timestamp) : TaskRecord :=
  editSession { record with artifacts := record.artifacts ++ [artifact] }
    (updateStage stage.executionTaskId fun stage => { stage with
      artifactIds := stage.artifactIds ++ [artifact.artifactId]
      state := .completed
      progress := progress .completed (some 1) (some 1)
        (some s!"阶段 {stage.stageIndex} 已完成") completedAt
      updatedAt := completedAt
      completedAt := some completedAt })

variable (step : DelegationChildStep)

/-- End the step of the plan that a stage executed. -/
def settleDelegationStep (state : DelegationStepState)
    (phase : DelegationPlanPhase) (action : DelegationAuditAction) (safeErrorCode : Option String)
    (completedAt : Timestamp) : Edit :=
  auditPlan
    (editPlan record fun plan => updateStep step.stepId
      (fun step => { step with
        state := state, completedAt := some completedAt, safeErrorCode := safeErrorCode })
      { plan with phase := phase, updatedAt := completedAt })
    { action := action
      actor := .host
      stepId := some step.stepId
      safeErrorCode := safeErrorCode }
    completedAt

/-- The step of the plan fails whose stage ran into a workspace conflict. -/
def settleConflictedStep (executionTaskId code : String) (completedAt : Timestamp) : Edit :=
  match delegationStepOf record executionTaskId with
  | none => .ok record
  | some step =>
    settleDelegationStep record step .failed .failed .stepFailed (some code) completedAt

/-- The artifact of a completed stage is withdrawn, the stage fails, and the
session asks for input. -/
def withdrawStage (artifactId requestId code : String) (completedAt : Timestamp) : TaskRecord :=
  editSession
    { record with
      artifacts := record.artifacts.filter fun candidate => candidate.artifactId != artifactId }
    fun session => updateStage stage.executionTaskId
      (fun stage => { stage with
        artifactIds := []
        state := .failed
        safeErrorCode := some code
        progress := progress .failed none none (some "Workspace revision 冲突") completedAt })
      { session with
        phase := .inputRequired
        pauseRequested := false
        inputRequest := some
          ⟨requestId, "Workspace 版本发生冲突，请检查后补充指令并选择 Child Agent 继续。", completedAt⟩
        progress := progress .failed (some (stage.stageIndex - 1))
          (some LONG_HORIZON_LIMITS.maximumStages)
          (some "Workspace revision 冲突；阶段结果未发布") completedAt }

/-- The workspace is not at the revision the completed stage expects. -/
def conflictStage (artifactId requestId : String) (completedAt : Timestamp) : Edit := do
  let code := "TASK_WORKSPACE_REVISION_CONFLICT"
  let record := withdrawStage record stage artifactId requestId code completedAt
  let record ← auditSession record
    { action := .stageFailed
      actor := .host
      stageIndex := some stage.stageIndex
      childAgentId := some stage.childAgentId
      workspaceRevision := some stage.workspaceRevision
      safeErrorCode := some code }
    completedAt
  let record ← settleConflictedStep record stage.executionTaskId code completedAt
  let record := bumpStatus { record with
    -- the session of a delegated task is left at `inputRequired` here
    state := if record.delegationPlan.isSome then .failed else .inputRequired
    safeErrorCode := some code
    updatedAt := completedAt }
  return markTaskAttention record
    { kind := .stageFailed, stageIndex := some stage.stageIndex, safeErrorCode := some code }

/-- The workspace is at the expected revision; it is the one to continue from. -/
def bindWorkspaceRevision (revision : Nat) : TaskRecord :=
  editSession
    { record with
      workspaceBinding := record.workspaceBinding.map fun binding =>
        { binding with workspaceRevision := revision } }
    fun session => { session with workspaceRevision := revision }

/-- The artifact and the checkpoint of a completed stage join the session. -/
def recordStageResult (artifactId checkpointId checkpointDigest : String) (completedAt : Timestamp) :
    TaskRecord :=
  editSession record fun session => updateStage stage.executionTaskId
    (fun stage => { stage with checkpointAvailable := true })
    { session with
      artifacts := session.artifacts ++ [⟨artifactId, stage.stageIndex, .intermediate, completedAt⟩]
      checkpoints := session.checkpoints ++ [{
        checkpointId := checkpointId
        stageIndex := stage.stageIndex
        workspaceRevision := session.workspaceRevision
        artifactIds :=
          ((session.stageOf stage.executionTaskId).map fun stage => stage.artifactIds).getD []
        digest := checkpointDigest
        createdAt := completedAt }] }

/-- The workspace revision of the session of a record. -/
def sessionRevision : Nat :=
  (record.longHorizon.map fun session => session.workspaceRevision).getD 0

/-- Audit the artifact and the checkpoint of a completed stage. -/
def auditStageResult (artifactId : String) (completedAt : Timestamp) : Edit := do
  let record ← auditSession record
    { action := .artifactPublished
      actor := .childAgent
      stageIndex := some stage.stageIndex
      artifactId := some artifactId
      childAgentId := some stage.childAgentId }
    completedAt
  auditSession record
    { action := .checkpointCreated
      actor := .host
      stageIndex := some stage.stageIndex
      artifactId := some artifactId
      workspaceRevision := some (sessionRevision record) }
    completedAt

/-- A pause was requested while the stage was running. -/
def isPauseRequested : Bool :=
  (record.longHorizon.map fun session => session.pauseRequested).getD false

/-- The phase at a stage boundary. -/
def boundaryPhase (paused : Bool) : LongHorizonPhase := if paused then .paused else .inputRequired

/-- The session stops at a stage boundary and asks for input. -/
def stopAtBoundary (requestId prompt : String) (paused : Bool) (waiting : ExecutionProgress)
    (completedAt : Timestamp) : TaskRecord :=
  editSession record fun session => { session with
    phase := boundaryPhase paused
    pauseRequested := false
    inputRequest := some ⟨requestId, prompt, completedAt⟩
    progress := waiting }

/-- The common end of a stage that stays in the session. -/
def concludeStage (completedAt : Timestamp) (change : TaskAttentionChangeInput) : TaskRecord :=
  markTaskAttention
    (bumpStatus { editSession record fun session => { session with updatedAt := completedAt } with
      updatedAt := completedAt })
    change

/-- A stage of an undelegated task is published, and the task asks for input. -/
def publishStage (artifactId requestId : String) (completedAt : Timestamp) : Edit := do
  let paused := isPauseRequested record
  let record := stopAtBoundary record requestId "请补充下一阶段指令，或确认当前结果为最终结果。" paused
    (progress (if paused then .paused else .interrupted) (some stage.stageIndex)
      (some LONG_HORIZON_LIMITS.maximumStages)
      (some (if paused then "已在阶段边界暂停" else "等待用户补充下一阶段指令")) completedAt)
    completedAt
  let record ← auditStageResult record stage artifactId completedAt
  let record ← auditSession record
    { action := if paused then .paused else .inputRequested
      actor := .host
      stageIndex := some stage.stageIndex }
    completedAt
  let record := { record with
    artifactPending := true
    artifactAttachmentsReady := true
    state := .inputRequired
    safeErrorCode := none }
  return concludeStage record completedAt
    { kind := .stageCompleted, stageIndex := some stage.stageIndex }

/-- A step of a delegated task is published. -/
def publishDelegationStep (artifactId : String) (completedAt : Timestamp) : Edit := do
  let revision := sessionRevision record
  let record ← auditPlan
    (editPlan record fun plan => updateStep step.stepId
      (fun step => { step with
        state := .completed, completedAt := some completedAt, artifactIds := [artifactId] })
      { plan with artifacts := plan.artifacts ++ [{
          artifactId := artifactId
          stepId := step.stepId
          producer := .childAgent step.childAgentId step.connectorId step.resourceBindingId
          workspaceRevision := revision
          role := .intermediate
          createdAt := completedAt }] })
    { action := .artifactRecorded
      actor := .childAgent
      stepId := some step.stepId
      artifactId := some artifactId }
    completedAt
  let record ← auditPlan record
    { action := .stepCompleted, actor := .host, stepId := some step.stepId } completedAt
  let record := editPlan record fun plan => { plan with updatedAt := completedAt }
  let record ← auditStageResult record stage artifactId completedAt
  let record := { editSession record fun session => { session with updatedAt := completedAt } with
    artifactPending := true
    artifactAttachmentsReady := true
    updatedAt := completedAt }
  return markTaskAttention record { kind := .stageCompleted, stageIndex := some stage.stageIndex }

/-- How a stage ended without an artifact. -/
structure StageFailure where
  state : LongHorizonStageState
  interrupted : Bool
  stepState : DelegationStepState
  safeErrorCode : String
  checkpointAvailable : Bool
  deriving DecidableEq

variable (failure : StageFailure)

/-- The plan of a record ends with the stage of one of its steps, and the
session ends with the plan. -/
def stopFailedPlan (completedAt : Timestamp) : Edit :=
  match delegationStepOf record stage.executionTaskId with
  | none => .ok record
  | some step => do
    let record ← settleDelegationStep record step failure.stepState
      (if failure.interrupted then .interrupted else .failed)
      (if failure.interrupted then .restartReconciled else .stepFailed)
      (some failure.safeErrorCode) completedAt
    let record := editSession record fun session => { session with
      phase := .failed
      inputRequest := none
      pendingInput := none
      progress := progress .failed (some (step.stepIndex - 1))
        (record.delegationPlan.map fun plan => plan.maximumChildCalls)
        (some "委派步骤失败；计划已停止且未自动切换 Child Agent") completedAt }
    return { record with state := .failed }

/-- The stage ends, and the session stops at its boundary. -/
def closeStage (requestId : String) (completedAt : Timestamp) : TaskRecord :=
  let paused := isPauseRequested record
  let record := editSession record (updateStage stage.executionTaskId fun stage => { stage with
    state := failure.state
    safeErrorCode := some failure.safeErrorCode
    checkpointAvailable := failure.checkpointAvailable
    progress := progress .failed none none (some "阶段执行失败，等待用户选择如何继续") completedAt
    updatedAt := completedAt
    completedAt := some completedAt })
  stopAtBoundary record requestId "本阶段失败。可补充指令并显式选择原 Child 或其他 Child 继续。" paused
    (progress (if paused then .paused else .failed) (some (stage.stageIndex - 1))
      (some LONG_HORIZON_LIMITS.maximumStages) (some "阶段失败，未自动切换 Child Agent") completedAt)
    completedAt

/-- A stage ended without an artifact.  A delegated task ends with it; any
other task waits for the owner. -/
def failStage (requestId : String) (completedAt : Timestamp) : Edit := do
  let record := closeStage record stage failure requestId completedAt
  let record ← auditSession record
    { action := if failure.interrupted then .restartReconciled else .stageFailed
      actor := .host
      stageIndex := some stage.stageIndex
      childAgentId := some stage.childAgentId
      safeErrorCode := some failure.safeErrorCode }
    completedAt
  let record := { record with
    state := .inputRequired, safeErrorCode := some failure.safeErrorCode }
  let record ← stopFailedPlan record stage failure completedAt
  return concludeStage record completedAt
    { kind := if record.state = .failed then .failed else .stageFailed
      stageIndex := some stage.stageIndex
      safeErrorCode := some failure.safeErrorCode }

/-- The next step of a plan did not start: the plan is stopped. -/
def failNextStep (nextStep : DelegationChildStep) (safeErrorCode : String) (completedAt : Timestamp) :
    Edit := do
  let record ← auditPlan
    (editPlan record fun plan => updateStep nextStep.stepId
      (fun step => { step with
        state := .failed, completedAt := some completedAt, safeErrorCode := some safeErrorCode })
      { plan with
        phase := .failed, currentStepIndex := nextStep.stepIndex, updatedAt := completedAt })
    { action := .stepFailed
      actor := .host
      stepId := some nextStep.stepId
      safeErrorCode := some safeErrorCode }
    completedAt
  let record := editSession record fun session => { session with
    phase := .failed
    inputRequest := none
    pendingInput := none
    progress := progress .failed (some (nextStep.stepIndex - 1))
      (record.delegationPlan.map fun plan => plan.maximumChildCalls)
      (some "下一委派目标或权限已改变；计划已停止") completedAt }
  let record := bumpStatus { record with
    state := .failed, safeErrorCode := some safeErrorCode, updatedAt := completedAt }
  return markTaskAttention record
    { kind := .stageFailed
      stageIndex := some stage.stageIndex
      safeErrorCode := some safeErrorCode }

/-! ### Completing a delegated task -/

def uniqueDelegationImages (artifacts : List CollaborationTaskArtifact) : List TaskImagePart :=
  (artifacts.flatMap taskArtifactImages).foldl
    (fun images image =>
      if images.any fun known => known.attachmentId == image.attachmentId then images
      else images ++ [image]) []

def aggregateDelegationText (artifacts : List CollaborationTaskArtifact) (maximumBytes : Nat) :
    JsString :=
  let sections := artifacts.mapIdx fun index artifact =>
    JsString.ofString s!"步骤 {index + 1} 结果：\n" ++ taskArtifactText artifact
  JsString.truncateUtf8
    (JsString.join (JsString.ofString "\n\n")
      (JsString.ofString s!"Teti Host 已按冻结顺序完成 {artifacts.length} 个 Child Agent 步骤。"
        :: sections))
    maximumBytes

variable (plan : DelegationPlanState)

/-- The artifacts of a record that the child steps of its plan produced. -/
def intermediateArtifacts : List CollaborationTaskArtifact :=
  let ids := (plan.artifacts.filter fun entry => entry.role == .intermediate).map
    fun entry => entry.artifactId
  record.artifacts.filter fun artifact => ids.contains artifact.artifactId

/-- The artifact that the host makes of the results of the steps. -/
def aggregatedArtifact (artifactId : String) (completedAt : Timestamp) :
    CollaborationTaskArtifact :=
  let artifacts := intermediateArtifacts record plan
  .v2 record.request.taskId artifactId
    (.text (aggregateDelegationText artifacts MAX_TASK_ARTIFACT_TEXT_BYTES)
      :: ((uniqueDelegationImages artifacts).take 4).map .image)
    completedAt

/-- Edit the aggregation step of a plan. -/
def updateAggregation (f : DelegationAggregationStep → DelegationAggregationStep)
    (plan : DelegationPlanState) : DelegationPlanState :=
  { plan with steps :=
      plan.steps.dropLast ++ (plan.steps.getLast?.map (DelegationStep.mapAggregation f)).toList }

variable (aggregation : DelegationAggregationStep)

/-- The aggregation of a plan starts. -/
def beginAggregation (completedAt : Timestamp) : Edit :=
  auditPlan
    (editPlan record fun plan => updateAggregation
      (fun step => { step with state := .working, startedAt := some completedAt })
      { plan with
        phase := .aggregating
        currentStepIndex := aggregation.stepIndex
        updatedAt := completedAt })
    { action := .aggregationStarted, actor := .host, stepId := some aggregation.stepId }
    completedAt

/-- The host has aggregated the results: the plan and the task are completed. -/
def finishAggregation (artifact : CollaborationTaskArtifact) (completedAt : Timestamp) : Edit := do
  let id := artifact.artifactId
  let revision := sessionRevision record
  let record := initializeAttachmentDiagnostics
    { record with artifacts := record.artifacts ++ [artifact] } .artifact
    (taskArtifactImages artifact)
  let record := editPlan record fun plan => updateAggregation
    (fun step => { step with
      state := .completed, artifactId := some id, completedAt := some completedAt })
    { plan with
      artifacts := plan.artifacts
        ++ [⟨id, aggregation.stepId, .tetiHost, revision, .final, completedAt⟩]
      phase := .completed
      updatedAt := completedAt }
  let record ← auditPlan record
    { action := .artifactRecorded
      actor := .host
      stepId := some aggregation.stepId
      artifactId := some id }
    completedAt
  let record ← auditPlan record
    { action := .planCompleted
      actor := .host
      stepId := some aggregation.stepId
      artifactId := some id }
    completedAt
  let units := record.delegationPlan.map fun plan => plan.maximumChildCalls
  let record := editSession record fun session => { session with
    artifacts := session.artifacts ++ [⟨id, session.currentStageIndex, .final, completedAt⟩]
    phase := .completed
    inputRequest := none
    pendingInput := none
    progress := progress .completed units units (some "Teti Host 已完成委派与 Artifact 汇总") completedAt
    updatedAt := completedAt }
  let stageIndex := (record.longHorizon.map fun session => session.currentStageIndex).getD 0
  let record ← auditSession record
    { action := .completed
      actor := .host
      stageIndex := some stageIndex
      artifactId := some id
      workspaceRevision := some revision }
    completedAt
  let record := bumpStatus { record with
    state := .completed
    approval := .consumed
    artifactPending := true
    artifactAttachmentsReady := true
    updatedAt := completedAt
    safeErrorCode := none }
  return markTaskAttention record { kind := .completed, stageIndex := some stageIndex }

/-- `completeDelegation`, up to the write of the store. -/
def completeDelegation (artifactId : String) (completedAt : Timestamp) : Edit := do
  let record ← beginAggregation record aggregation completedAt
  let artifact := aggregatedArtifact record plan artifactId completedAt
  match validateTaskArtifact artifact with
  | .error error => .error (error, record)
  | .ok () => finishAggregation record aggregation artifact completedAt

/-! ### Progress -/

/-- The progress of a handle differs from what the stage shows. -/
def progressChanged (previous next : ExecutionProgress) : Bool :=
  !(previous.state == next.state && previous.completedUnits == next.completedUnits
    && previous.totalUnits == next.totalUnits && previous.message == next.message)

/-- The stage that shows the progress of a handle, if it has to change. -/
def progressStage (handle : ExecutionHandle) : Option LongHorizonStage :=
  record.longHorizon.bind fun session =>
    (session.stageOf handle.taskId).filter fun stage =>
      stage.state == .working && progressChanged stage.progress handle.progress

/-- The stage of a handle takes over its progress. -/
def updateProgress (handle : ExecutionHandle) (timestamp : Timestamp) : Edit := do
  let next := { handle.progress with updatedAt := timestamp }
  let record := editSession record fun session =>
    { updateStage handle.taskId
        (fun stage => { stage with progress := next, updatedAt := timestamp }) session with
      progress := next }
  let record ← auditSession record
    { action := .progressUpdated
      actor := .childAgent
      stageIndex := some stage.stageIndex
      childAgentId := some stage.childAgentId
      workspaceRevision := some stage.workspaceRevision }
    timestamp
  return { bumpStatus record with updatedAt := timestamp }

/-! ### Instructions -/

def boundedStageInstruction (instruction : JsString) (stageIndex : Nat) : JsString :=
  if stageIndex = 1 then JsString.truncateUtf8 instruction MAX_TASK_INPUT_TEXT_BYTES
  else
    let priorArtifacts := JsString.join (JsString.ofString "\n\n")
      (record.artifacts.mapIdx fun index artifact =>
        JsString.ofString s!"阶段 {index + 1} 中间结果:\n" ++ taskArtifactText artifact)
    JsString.truncateUtf8
      (JsString.join (JsString.ofString "\n\n")
        ([JsString.ofString "长期协作原始目标:\n" ++ taskInputText record.request.input]
          ++ (if priorArtifacts = [] then []
              else [JsString.ofString "已保留的中间结果:\n" ++ priorArtifacts])
          ++ [JsString.ofString "本阶段补充指令:\n" ++ instruction,
            JsString.ofString "仅完成当前阶段；是否继续由 Teti Host 在阶段边界决定。"]))
      MAX_TASK_INPUT_TEXT_BYTES

def delegationInstruction : JsString :=
  if step.stepIndex = 1 then taskInputText record.request.input
  else JsString.join (JsString.ofString "\n")
    [JsString.ofString s!"执行确定性委派计划的第 {step.stepIndex} 步。",
      JsString.ofString s!"本步骤能力：{step.capabilityId}。",
      JsString.ofString "使用前序 Artifact 作为有界上下文，但不要联系任何远端 Teti 或再次委派。",
      JsString.ofString "只返回当前步骤的结果，最终汇总由 Teti Host 完成。"]

/-! ### An ongoing task -/

/-- The session of a task whose first stage is running. -/
def sampleSession : LongHorizonTaskState where
  phase := .working
  currentStageIndex := 1
  workspaceRevision := 1
  progress := progress .running (some 0) (some 32) none 1
  continuationExpiresAt := 1000
  renewalCount := 0
  pauseRequested := false
  pendingInput := none
  inputRequest := none
  availableChildAgents := []
  stages := [{
    stageId := "stage-1"
    stageIndex := 1
    executionTaskId := "lh-1"
    childAgentId := "agent"
    connectorId := "connector"
    state := .working
    workspaceRevision := 1
    workspaceMutation := .none
    inputId := none
    instructionDigest := "sha256:0000000000000000000000000000000000000000000000000000000000000000"
    progress := progress .running none none none 1
    artifactIds := []
    checkpointAvailable := false
    startedAt := 1
    updatedAt := 1
    completedAt := none
    safeErrorCode := none }]
  checkpoints := []
  artifacts := []
  audit := []
  updatedAt := 1

/-- What its audit says of a step of the owner. -/
def sampleAudit (sequence : Nat) (action : LongHorizonAuditAction) : LongHorizonAuditEvent where
  sequence := sequence
  action := action
  actor := .localUser
  stageIndex := some 1
  timestamp := 1
  childAgentId := none
  artifactId := none
  inputId := none
  workspaceRevision := none
  safeErrorCode := none

end TetiBot

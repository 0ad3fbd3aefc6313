import TetiBot.Tasks.Outbox

/-
Starting, finishing and reconciling executions (`startDelegationStep`,
`startLongHorizonStage`, `finishExecution`, `finishSingleStageExecution`,
`finishLongHorizonStage`, `completeDelegation` and
`reconcileInterruptedExecutions` of `runtime/tasks/service.ts`).

The start of a stage is called inside and outside of `try`, so it hands a
throw over together with the record as the source then has it
(`StageInterruption`).
-/

namespace TetiBot

open Library Library.Program

variable (env : Environment) (sha256 : Sha256)

/-! ### Targets and images -/

variable (record : TaskRecord)

/-- The content modes that the input of a record requires. -/
def requiredModes : List TaskContentMode :=
  if taskInputImages record.request.input = [] then [.text] else [.text, .image]

/-- `executor?.listTargets(...)`, or none without an executor. -/
def listTargets (record : TaskRecord) (modes : List TaskContentMode) :
    Runtime (List TaskExecutionTarget) :=
  match env.executor with
  | none => pure []
  | some executor =>
    call fun n => executor.listTargets n record.request.offerId record.request.capabilityId modes

def TaskExecutionTarget.child (target : TaskExecutionTarget) : LongHorizonChildTarget :=
  ⟨target.childAgentId, target.connectorId⟩

/-- The targets of one record are looked up again. -/
def refreshRecordTargets (focus : RecordFocus) : Runtime Pass := do
  match focus.current.longHorizon with
  | none => return ⟨focus.state, false⟩
  | some session =>
    if focus.current.direction ≠ .incoming ∨ isTerminalTaskState focus.current.state then
      return ⟨focus.state, false⟩
    let targets ← listTargets env focus.current (requiredModes focus.current)
    let next := targets.map TaskExecutionTarget.child
    if next = session.availableChildAgents then
      return ⟨focus.state, false⟩
    let now ← currentTime env
    let focus ← focus.change (.targetsRefreshed next now)
    return ⟨focus.state, true⟩

/-- `refreshLongHorizonTargets`. -/
def refreshLongHorizonTargets (state : TaskStore) : Runtime Pass :=
  forEachRecord (refreshRecordTargets env) state

/-- The path of an input image, which must be there. -/
def resolveInputImage (part : TaskImagePart) : Runtime CallableAdapterImageInput := do
  let path ← match env.attachmentStore with
    | none => pure none
    | some attachments => callThrowing fun n => attachments.resolveImage n part
  let path ← orThrow path
    (runtimeError "TASK_ATTACHMENTS_PENDING" "Task images are unavailable.")
  return ⟨part.attachmentId, part.mimeType, path⟩

/-- `resolveInputImages`. -/
def resolveInputImages : Runtime (List CallableAdapterImageInput) :=
  foldM (fun images part => do return images ++ [← resolveInputImage env part]) []
    (taskInputImages record.request.input)

/-! ### Starting a stage -/

/-- A throw while a stage was being started: the state before the last edit of
the record, and that edit. -/
structure StageInterruption where
  error : TaskError
  focus : RecordFocus
  attempted : StartAttempt

/-- What the start of a stage is called with. -/
structure StageInput where
  target : TaskExecutionTarget
  imageInputs : List CallableAdapterImageInput
  instruction : JsString
  inputId : Option String
  delegationStep : Option DelegationChildStep

variable (session : LongHorizonTaskState) (input : StageInput)

/-- The step of the plan is the next one, and the target is its target. -/
def delegationTargetMatches : Bool :=
  input.delegationStep.any fun step =>
    record.delegationPlan.isSome && step.stepIndex == session.stages.length + 1
      && step.childAgentId == input.target.childAgentId
      && step.connectorId == input.target.connectorId
      && step.capabilityId == input.target.capabilityId

/-- The checks before the lease is looked at. -/
def requireStage : Runtime (TaskExecutionBridge × LongHorizonTaskState × TaskWorkspaceBinding) :=
  match env.executor, record.longHorizon, record.workspaceBinding with
  | some executor, some session, some workspace => pure (executor, session, workspace)
  | _, _, _ => raise
    (runtimeError "TASK_STAGE_UNAVAILABLE" "Long-horizon stage execution is unavailable.")

/-- The request that a stage hands to the executor, without memory. -/
def stageExecution (createdAt : Timestamp) : CallableAdapterTaskRequest where
  taskId := longHorizonExecutionTaskId sha256 record.request.taskId (session.stages.length + 1)
  adapterId := input.target.connectorId
  agentId := input.target.childAgentId
  capabilityId := input.target.capabilityId
  text := boundedStageInstruction record input.instruction (session.stages.length + 1)
  images := input.imageInputs
  createdAt := createdAt

/-- What the memory store makes of the instruction of a stage; a throw of the
memory store is the same as no manifest. -/
def memorySelection : Runtime (Option (JsString → JsString)) :=
  match input.delegationStep, env.structuredTaskMemoryStore with
  | none, some memory => do
    match ← call memory.createExecutionContext with
    | .ok selection => return selection
    | .error _ => return none
  | _, _ => pure none

/-- The checks and calls of the start of a stage between the refreshed targets
and the edit of the record. -/
def prepareStage (executor : TaskExecutionBridge) (record : TaskRecord)
    (session : LongHorizonTaskState) (workspace : TaskWorkspaceBinding) (input : StageInput) :
    Runtime (ExecutionHandle × CallableAdapterTaskRequest × StageStart) := do
  throwIf (delegationTargetMatches record session input = false
      ∧ ¬session.availableChildAgents.contains input.target.child)
    (runtimeError "TASK_CHILD_UNAVAILABLE" "The selected Child Agent is unavailable.")
  let createdAt ← currentTime env
  let execution := stageExecution sha256 record session input createdAt
  let handle ← prepareExecution env executor {
    taskId := execution.taskId
    workspaceId := workspace.workspaceId
    childAgentId := input.target.childAgentId
    connectorId := input.target.connectorId
    resume := false }
  let now ← currentTime env
  let selection ← memorySelection env input
  let execution := match selection with
    | some format => { execution with text := format execution.text }
    | none => execution
  return (handle, execution, {
    executionTaskId := execution.taskId
    target := input.target
    inputId := input.inputId
    instructionDigest := digest sha256 input.instruction
    delegationStep := input.delegationStep
    now := now })

/-- The deadline of the execution of a stage. -/
def stageDeadline (delegationStep : Option DelegationChildStep) (now : Timestamp) : Timestamp :=
  match delegationStep with
  | some step => min session.continuationExpiresAt (now + step.budget.timeoutMs)
  | none => session.continuationExpiresAt

/-- The authority of the execution of a stage is issued, and the execution is
handed to the executor. -/
def executeStage (workspace : TaskWorkspaceBinding) (input : StageInput) (handle : ExecutionHandle)
    (execution : CallableAdapterTaskRequest) : Runtime Unit := do
  let issuedAt ← currentTime env
  let grantId ← call env.randomUUID
  let grant := createExecutionGrant sha256 grantId record.request input.target workspace issuedAt
    (some execution) (input.delegationStep.map fun step => step.workspaceAccess)
  let now ← currentTime env
  let deadline := stageDeadline session input.delegationStep now
  let authority ← fromExcept (createExecutionAuthority sha256 grant execution input.target
    handle.executionEpoch (some deadline) now)
  execute {
    owner := record.key
    taskId := record.request.taskId
    executionTaskId := execution.taskId
    executionEpoch := handle.executionEpoch
    request := execution
    authority := authority }

/-- The lease of the task has run out before the stage could start. -/
def expireInsteadOfStarting (focus : RecordFocus) : Runtime StageInterruption := do
  let expiredAt ← currentTime env
  let outcome ← attempt do
    let focus ← focus.change (.expired expiredAt)
    saveFocus env focus
  let error := match outcome with
    | .error error => error
    | .ok () => runtimeError "TASK_EXPIRED" "The collaboration continuation lease has expired."
  return ⟨error, focus, .expiry expiredAt⟩

/-- The stage was recorded and saved; its status is sent and it is executed. -/
def launchStage (focus : RecordFocus) (session : LongHorizonTaskState)
    (workspace : TaskWorkspaceBinding) (input : StageInput) (handle : ExecutionHandle)
    (execution : CallableAdapterTaskRequest) : Runtime (Except StageInterruption RecordFocus) := do
  let pass ← deliverPending env focus
  let focus := pass.focus
  let outcome ← attempt do
    let _ ← pass.rethrow
    executeStage env sha256 focus.current session workspace input handle execution
  match outcome with
  | .ok () => return .ok focus
  | .error error => return .error ⟨error, focus, .saved⟩

/-- `startLongHorizonStage`. -/
def startLongHorizonStage (focus : RecordFocus) :
    Runtime (Except StageInterruption RecordFocus) := do
  match ← attempt (requireStage env focus.current) with
  | .error error => return .error ⟨error, focus, .unedited⟩
  | .ok (executor, session, workspace) => do
    let now ← currentTime env
    if session.continuationExpiresAt ≤ now then
      return .error (← expireInsteadOfStarting env focus)
    if LONG_HORIZON_LIMITS.maximumStages ≤ session.stages.length then
      return .error ⟨runtimeError "TASK_STAGE_LIMIT"
        "The collaboration reached its bounded stage limit.", focus, .unedited⟩
    let pass ← refreshLongHorizonTargets env focus.state
    let focus := focus.refocus pass.state
    let session := focus.current.longHorizon.getD session
    match ← attempt (prepareStage env sha256 executor focus.current session workspace input) with
    | .error error => return .error ⟨error, focus, .unedited⟩
    | .ok (handle, execution, begun) => do
      let saved ← attempt do
        let started ← focus.change (.stageStarted session workspace begun)
        saveFocus env started
        return started
      match saved with
      | .error error => return .error ⟨error, focus, .start session workspace begun⟩
      | .ok started => launchStage env sha256 started session workspace input handle execution

/-- Throw what interrupted the start of a stage. -/
def rethrowInterruption (outcome : Except StageInterruption RecordFocus) : Runtime RecordFocus :=
  match outcome with
  | .ok focus => pure focus
  | .error interruption => raise interruption.error

/-- The target of a step is still what the plan was frozen with. -/
def delegationTargetUnchanged (target : DelegationTargetOption) (step : DelegationChildStep)
    (workspace : TaskWorkspaceBinding) : Bool :=
  target.resourceBindingId == step.resourceBindingId && step.budget.timeoutMs ≤ target.timeoutMs
    && step.budget.maxOutputBytes ≤ target.maxOutputBytes
    && isWorkspaceAccessSubset step.workspaceAccess workspace.access

/-- The checks of `startDelegationStep`: the target, the workspace and the images. -/
def requireDelegationTarget (step : DelegationChildStep) :
    Runtime (DelegationTargetOption × TaskWorkspaceBinding × List CallableAdapterImageInput) := do
  let changed := runtimeError "TASK_DELEGATION_TARGET_CHANGED"
    "A frozen Delegation target or its authority changed before execution."
  let selection : DelegationTargetSelection := ⟨step.childAgentId, step.connectorId,
    step.capabilityId⟩
  let target ← match env.executor with
    | none => pure none
    | some executor => call fun n => executor.resolveDelegationTarget n selection
  let target ← orThrow target changed
  throwIf record.delegationPlan.isNone changed
  let workspace ← orThrow record.workspaceBinding changed
  throwIf (delegationTargetUnchanged target step workspace = false) changed
  let images ← if target.inputModes.contains .image then resolveInputImages env record else pure []
  return (target, workspace, images)

/-- `startDelegationStep`. -/
def startDelegationStep (step : DelegationChildStep) (focus : RecordFocus) :
    Runtime (Except StageInterruption RecordFocus) := do
  match ← attempt (requireDelegationTarget env focus.current step) with
  | .error error => return .error ⟨error, focus, .unedited⟩
  | .ok (target, workspace, images) => do
    let focus ← focus.change (.stepBound step.stepId workspace.workspaceRevision)
    startLongHorizonStage env sha256 {
      target := target.toTarget
      imageInputs := images
      instruction := delegationInstruction focus.current step
      inputId := none
      delegationStep := some { step with workspaceRevision := workspace.workspaceRevision } } focus

/-! ### Finishing -/

/-- Save, and deliver what is pending if it is asked for. -/
def saveAndDeliver (deliver : Bool) (focus : RecordFocus) : Runtime RecordFocus := do
  saveFocus env focus
  if deliver then trySendPendingForRecord env focus else return focus

/-- How a single-stage execution ended. -/
def singleStageOutcome (result : Option CallableAdapterTaskSnapshot)
    (handle : Option ExecutionHandle) (executionEpoch : Nat) (artifactId : String)
    (completedAt : Timestamp) : SingleStageOutcome :=
  let produced := result.bind fun result =>
    if result.state = .completed then result.artifact else none
  match produced with
  | some output =>
    if record.request.capabilityId = "image-editing" ∧ output.images = [] then
      .ended false "TASK_IMAGE_RESULT_MISSING"
    else if output.images ≠ [] ∧ record.protocolVersion < 3 then
      .ended false "TASK_IMAGE_RESULT_UNSUPPORTED"
    else .completed (singleStageArtifact record artifactId output completedAt)
  | none =>
    let code := result.bind fun result => result.safeErrorCode
    if code = some "ADAPTER_AUTH_REQUIRED" then .authRequired
    else if handle.any fun handle => handle.executionEpoch == executionEpoch
        && handle.progress.state == .failed && handle.resumeCapability == .checkpointRestart then
      .resumeAvailable
    else
      .ended ((result.map fun result => result.state) == some .canceled)
        (code.getD "ADAPTER_INTERNAL_ERROR")

/-- The artifact of an outcome is valid. -/
def SingleStageOutcome.validate : SingleStageOutcome → Except TaskError Unit
  | .completed artifact => validateTaskArtifact artifact
  | _ => .ok ()

/-- `finishSingleStageExecution`. -/
def finishSingleStageExecution (executionTaskId : String)
    (result : Option CallableAdapterTaskSnapshot) (handle : Option ExecutionHandle)
    (executionEpoch : Nat) (deliver : Bool) (focus : RecordFocus) : Runtime RecordFocus := do
  let completedAt ← currentTime env
  let artifactId ← call env.randomUUID
  let outcome :=
    singleStageOutcome focus.current result handle executionEpoch artifactId completedAt
  fromExcept outcome.validate
  let focus ← focus.change (.taskFinished executionTaskId outcome completedAt)
  saveAndDeliver env deliver focus

variable (stage : LongHorizonStage)

/-- The workspace of a completed stage, where it is checked: the revision found,
and the revision expected. -/
def checkWorkspace : Runtime (Option (Option Nat × Nat)) := do
  match record.workspaceBinding, env.workspaceStore with
  | some binding, some workspaces => do
    if binding.workspaceId.startsWith "workspace:none." then
      return none
    let workspace ← callThrowing fun n => workspaces.get n binding.workspaceId
    let expected := stage.workspaceRevision
      + (if stage.workspaceMutation = .snapshotCommit then 1 else 0)
    return some (workspace.map fun item => item.revision, expected)
  | _, _ => return none

/-- The digest of the checkpoint of a stage. -/
def checkpointDigest (artifactIds : List String) (workspaceRevision : Nat) : String :=
  digest sha256 (Json.stringify (.obj [("taskId", jsonString record.request.taskId),
    ("stageIndex", .num stage.stageIndex), ("workspaceRevision", .num workspaceRevision),
    ("artifactIds", .arr (artifactIds.map jsonString))]))

/-- `completeDelegation`. -/
def completeDelegationPlan (completedAt : Timestamp) (deliver : Bool) (focus : RecordFocus) :
    Runtime RecordFocus := do
  let unavailable :=
    runtimeError "TASK_DELEGATION_INVALID" "Delegation aggregation is unavailable."
  let plan ← orThrow focus.current.delegationPlan unavailable
  let _ ← orThrow focus.current.longHorizon unavailable
  let aggregation ← orThrow (plan.steps.getLast?.bind DelegationStep.aggregation?) unavailable
  let artifactId ← call env.randomUUID
  let focus ← focus.change (.delegationCompleted plan aggregation artifactId completedAt)
  fromExcept (focus.current.delegationPlan.elim (.ok ()) validateDelegationPlanState)
  saveAndDeliver env deliver focus

/-- The code of the throw that stopped a plan. -/
def delegationErrorCode (error : TaskError) : String :=
  if error.errorClass = .taskTransportRuntime then error.code
  else "TASK_DELEGATION_TARGET_CHANGED"

/-- The `catch` block around the start of the next step. -/
def stopDelegation (nextStep : DelegationChildStep) (completedAt : Timestamp) (deliver : Bool)
    (interruption : StageInterruption) : Runtime RecordFocus := do
  let focus ← interruption.focus.change (.nextStepFailed interruption.attempted stage nextStep
    (delegationErrorCode interruption.error) completedAt)
  fromExcept (focus.current.delegationPlan.elim (.ok ()) validateDelegationPlanState)
  saveAndDeliver env deliver focus

/-- After a step of the plan was published: the next one starts, or the plan is
completed. -/
def continueDelegation (completedAt : Timestamp) (deliver : Bool) (focus : RecordFocus) :
    Runtime RecordFocus := do
  match focus.current.delegationPlan.bind nextPendingStep with
  | none => completeDelegationPlan env completedAt deliver focus
  | some nextStep => do
    match ← startDelegationStep env sha256 nextStep focus with
    | .ok focus => return focus
    | .error interruption => stopDelegation env stage nextStep completedAt deliver interruption

/-- A stage produced an artifact that its task can publish. -/
def finishCompletedStage (output : CallableAdapterTaskArtifact) (completedAt : Timestamp)
    (deliver : Bool) (focus : RecordFocus) : Runtime RecordFocus := do
  let artifactId ← call env.randomUUID
  let artifact := stageArtifact focus.current artifactId output completedAt
  fromExcept (validateTaskArtifact artifact)
  let checked ← checkWorkspace env focus.current stage
  match checked with
  | some (found, expected) =>
    if found ≠ some expected then
      let requestId ← call env.randomUUID
      let focus ← focus.change (.stageConflicted stage artifact requestId completedAt)
      return ← saveAndDeliver env deliver focus
  | none => pure ()
  let revision := checked.map fun item => item.2
  let checkpointId ← call env.randomUUID
  let checkpoint := checkpointDigest sha256 focus.current stage
    (stage.artifactIds ++ [artifactId]) (revision.getD (sessionRevision focus.current))
  match delegationStepOf focus.current stage.executionTaskId with
  | some step => do
    let focus ← focus.change (.delegationStepPublished stage step artifact revision checkpointId
      checkpoint completedAt)
    continueDelegation env sha256 stage completedAt deliver focus
  | none => do
    let requestId ← call env.randomUUID
    let focus ← focus.change (.stagePublished stage artifact revision checkpointId checkpoint
      requestId completedAt)
    saveAndDeliver env deliver focus

/-- Why the output of a completed stage cannot be published. -/
def refusedOutput (output : Option CallableAdapterTaskArtifact) : Option String :=
  match output with
  | none => none
  | some output =>
    if record.delegationPlan = none ∧ output.images ≠ [] then some "TASK_LONG_HORIZON_TEXT_ONLY"
    else
      match delegationStepOf record stage.executionTaskId with
      | some step =>
        if step.budget.maxOutputBytes < JsString.utf8Size output.outputText then
          some "TASK_DELEGATION_OUTPUT_BUDGET"
        else none
      | none => none

variable (result : Option CallableAdapterTaskSnapshot)

/-- How a stage ended that has no artifact to publish. -/
def stageFailure (handle : Option ExecutionHandle) : StageFailure :=
  let interrupted := (handle.map fun handle => handle.progress.state) == some .interrupted
  let canceled := (result.map fun result => result.state) == some .canceled
  { state := if canceled then .canceled else if interrupted then .interrupted else .failed
    interrupted := interrupted
    stepState := if interrupted then .interrupted else if canceled then .canceled else .failed
    safeErrorCode :=
      match refusedOutput record stage (result.bind fun result => result.artifact) with
      | some code => code
      | none => (result.bind fun result => result.safeErrorCode).getD
          (if interrupted then "TASK_EXECUTION_INTERRUPTED" else "ADAPTER_INTERNAL_ERROR")
    checkpointAvailable :=
      (handle.map fun handle => handle.resumeCapability) == some .checkpointRestart }

/-- The output of a stage that its task can publish. -/
def publishableOutput : Option CallableAdapterTaskArtifact :=
  result.bind fun result =>
    if result.state = .completed ∧ refusedOutput record stage result.artifact = none then
      result.artifact
    else none

/-- The stage of an execution ended within its lease. -/
def finishStage (handle : Option ExecutionHandle)
    (completedAt : Timestamp) (deliver : Bool) (focus : RecordFocus) : Runtime RecordFocus := do
  match publishableOutput focus.current stage result with
  | some output => finishCompletedStage env sha256 stage output completedAt deliver focus
  | none => do
    let requestId ← call env.randomUUID
    let focus ← focus.change (.stageFailed stage
      (stageFailure focus.current stage result handle) requestId completedAt)
    saveAndDeliver env deliver focus

/-- The lease of the session of a record. -/
def sessionLease : Timestamp :=
  (record.longHorizon.map fun session => session.continuationExpiresAt).getD
    record.request.expiresAt

/-- `finishLongHorizonStage`. -/
def finishLongHorizonStage
    (handle : Option ExecutionHandle) (executionTaskId : String) (deliver : Bool)
    (focus : RecordFocus) : Runtime RecordFocus := do
  match runningStage focus.current executionTaskId with
  | none => return focus
  | some stage => do
    let completedAt ← currentTime env
    let now ← currentTime env
    if sessionLease focus.current ≤ now
        ∨ (result.bind fun result => result.safeErrorCode) = some "ADAPTER_TASK_EXPIRED" then
      let focus ← focus.change (.stageExpired executionTaskId completedAt)
      saveAndDeliver env deliver focus
    else
      finishStage env sha256 stage result handle completedAt deliver focus

/-- The end of an execution, for the record it is found to belong to. -/
def finishRecord (execution : TaskExecution) (result : Option CallableAdapterTaskSnapshot)
    (focus : RecordFocus) : Runtime Unit := do
  if isTerminalTaskState focus.current.state then
    return
  let handle ← getExecutionHandle env execution.executionTaskId
  if handle.any fun handle => handle.executionEpoch != execution.executionEpoch then
    return
  if focus.current.longHorizon.isSome then
    let _ ← finishLongHorizonStage env sha256 result handle execution.executionTaskId true focus
  else
    let _ ← finishSingleStageExecution env execution.executionTaskId result handle
      execution.executionEpoch true focus

/-- The received record with an identifier: what an operation that is addressed
by the identifier alone finds. -/
def findIncoming (state : TaskStore) (taskId : String) : Option RecordFocus :=
  focusRecord state fun record =>
    record.direction == .incoming && record.request.taskId == taskId

/-- `finishExecution`. -/
def finishExecution (execution : TaskExecution) (result : Option CallableAdapterTaskSnapshot) :
    Runtime Unit := do
  let state ← loadState env
  match findIncoming state execution.taskId with
  | none => return
  | some focus => finishRecord env sha256 execution result focus

/-! ### Reconciliation -/

/-- A running stage takes over the progress of its handle. -/
def reconcileProgress (handle : Option ExecutionHandle) (focus : RecordFocus) :
    Runtime Pass := do
  let now ← currentTime env
  match handle with
  | none => return ⟨focus.state, false⟩
  | some handle => do
    match progressStage focus.current handle with
    | none => return ⟨focus.state, false⟩
    | some stage => do
      let focus ← focus.change (.progressUpdated stage handle now)
      return ⟨focus.state, true⟩

/-- A record that is working. -/
def reconcileWorking (deliver : Bool) (focus : RecordFocus) : Runtime Pass := do
  let executionTaskId :=
    (currentExecutionTaskId focus.current).getD focus.current.request.taskId
  let handle ← getExecutionHandle env executionTaskId
  let localExecution ← getTask env executionTaskId
  let running := localExecution.any fun task => task.state == .submitted || task.state == .working
  if running then
    reconcileProgress env handle focus
  else if focus.current.longHorizon.isSome then
    let focus ← finishLongHorizonStage env sha256 localExecution handle executionTaskId deliver
      focus
    return ⟨focus.state, true⟩
  else if localExecution.isSome then
    let focus ← finishSingleStageExecution env executionTaskId localExecution handle
      ((handle.map fun handle => handle.executionEpoch).getD 1) deliver focus
    return ⟨focus.state, true⟩
  else
    let resumable := handle.any fun handle =>
      handle.progress.state == .interrupted && handle.resumeCapability == .checkpointRestart
    let now ← currentTime env
    let focus ← focus.change (.executionInterrupted resumable now)
    return ⟨focus.state, true⟩

def reconcileRecord (deliver : Bool) (focus : RecordFocus) : Runtime Pass := do
  if focus.current.protocolVersion ∉ TETI_SUPPORTED_TASK_PROTOCOL_VERSIONS
      ∧ isTerminalTaskState focus.current.state = false then
    let now ← currentTime env
    let focus ← focus.change (.protocolUpgradeRequired now)
    return ⟨focus.state, true⟩
  else if focus.current.direction = .incoming ∧ focus.current.state = .working then
    reconcileWorking env sha256 deliver focus
  else
    return ⟨focus.state, false⟩

/-- `reconcileInterruptedExecutions`. -/
def reconcileInterruptedExecutions (deliver : Bool) (state : TaskStore) : Runtime Pass := do
  reconcileExecutionHandles env
  forEachRecord (reconcileRecord env sha256 deliver) state

end TetiBot

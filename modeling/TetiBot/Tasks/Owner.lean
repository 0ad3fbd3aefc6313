import TetiBot.Tasks.Inbound

/-
The commands of the owner (`send`, `approve`, `approveDelegation`, `reject`,
`cancel`, the commands on an ongoing collaboration, and `resume` of
`runtime/tasks/service.ts`).

Commands on a received task are addressed by its identifier alone; `findIncoming`
takes the first record that has it.
-/

namespace TetiBot

open Library Library.Program

variable (env : Environment) (sha256 : Sha256)

/-! ### Sending -/

/-- The input of `send`; a field that the source leaves out has its default. -/
structure SendCollaborationTaskInput where
  connectionRequestId : String
  taskId : Option String := none
  offerId : Option String := none
  capabilityId : String
  text : JsString
  attachments : List TaskImagePart := []
  workspace : TaskWorkspaceRequest := .temporary [.read, .write, .createArtifact]
  executionMode : CollaborationExecutionMode := .singleStage
  ttlMs : Int := DEFAULT_TASK_REQUEST_TTL_MS

/-- `value.trim()`, for identifiers. -/
def trimmed (value : String) : String :=
  let blank := fun c => JsString.isBlank (JsString.ofChar c)
  String.ofList ((value.toList.dropWhile blank).reverse.dropWhile blank).reverse

variable (input : SendCollaborationTaskInput)

def validateSendInput : Except TaskError Unit := do
  let invalid (message : String) := runtimeError "TASK_INPUT_INVALID" message
  failIf (JsString.isBlank (JsString.ofString input.connectionRequestId)
      ∨ 120 < utf16Length input.connectionRequestId)
    (invalid "Task connection request ID is invalid.")
  failIf (!input.taskId.all safeTaskId) (invalid "Task ID is invalid.")
  failIf (!input.offerId.all safeTaskId) (invalid "Task offer ID is invalid.")
  failIf (128 < input.capabilityId.length ∨ !safeSlugPattern input.capabilityId)
    (invalid "Task Capability ID is invalid.")
  failIf (JsString.isBlank input.text ∨ MAX_TASK_INPUT_TEXT_BYTES < JsString.utf8Size input.text)
    (invalid "Task text is invalid or too large.")
  failIf (input.ttlMs ≤ 0 ∨ MAX_TASK_REQUEST_TTL_MS < input.ttlMs) (invalid "Task TTL is invalid.")
  failIf ((input.attachments.any fun part =>
        (validateTaskImagePart part "Task image").toBool.not)
      ∨ ¬(input.attachments.map fun part => part.attachmentId).Nodup)
    (invalid "Task attachments are invalid.")
  failIf (MAX_TASK_IMAGE_PARTS < input.attachments.length
      ∨ MAX_TASK_IMAGE_TOTAL_BYTES < imageBytes input.attachments)
    (invalid "Task attachments exceed the allowed size.")
  failIf (input.executionMode = .longHorizon
      ∧ (input.attachments ≠ [] ∨ input.capabilityId = "image-editing"))
    (runtimeError "TASK_LONG_HORIZON_TEXT_ONLY"
      "Long-horizon collaboration accepts text-only capabilities in Beta 0.4.0.")
  failIf (validateTaskWorkspaceRequest input.workspace).toBool.not
    (invalid "Task Workspace request is invalid.")

/-- The record was sent with the same content.  The source compares the images and the workspace
as JSON texts, in which the order of the keys counts too. -/
def matchesRetry (record : TaskRecord) (connection : TetiConnectionRecord)
    (input : SendCollaborationTaskInput) : Bool :=
  record.peerTetiId == connection.remoteTetiId
    && record.request.capabilityId == input.capabilityId
    && taskInputText record.request.input == input.text
    && taskInputImages record.request.input == input.attachments
    && record.request.workspace == some input.workspace
    && record.request.executionMode == some input.executionMode
    && record.request.expiresAt - record.request.createdAt == input.ttlMs
    && input.offerId.all fun offerId => record.request.offerId == offerId

def taskInputForVersion (version : Nat) (text : JsString) (attachments : List TaskImagePart) :
    CollaborationTaskInput :=
  if version = 1 then .text text else .parts (.text text :: attachments.map .image)

/-- The record of a new outgoing task. -/
def outgoingRecord (request : CollaborationTaskRequest) : TaskRecord where
  direction := .outgoing
  peerTetiId := request.targetTetiId
  protocolVersion := request.schemaVersion
  request := request
  state := .submitted
  approval := .pending
  delivery := .queued
  createdAt := request.createdAt
  updatedAt := request.createdAt
  attachmentsReady := true
  attachmentDiagnostics := createAttachmentDiagnostics .input (taskInputImages request.input)

/-- `sendStoredRecord`. -/
def sendStoredRecord (focus : RecordFocus) : Runtime Unit := do
  let focus ← trySendStoredRecord env focus
  if focus.current.delivery = .sendFailed then
    if focus.current.safeErrorCode = some "TASK_NETWORK_AUTHORIZATION_FAILED" then
      raise (runtimeError "TASK_NETWORK_AUTHORIZATION_FAILED"
        "Teti Network could not authorize this collaboration.")
    raise (runtimeError "TASK_SEND_FAILED" "Chatmail could not queue the Task yet.")

/-- The protocol version of a new task, which must carry what the task needs. -/
def requireProtocolVersion (state : TaskStore) (connection : TetiConnectionRecord)
    (input : SendCollaborationTaskInput) : Runtime Nat := do
  let remote := state.peers.find? fun peer => peer.tetiId == connection.remoteTetiId
  let protocolVersion ← orThrow
    (selectTaskProtocolVersion ((remote.map fun peer => peer.supportedVersions).getD []))
    (runtimeError "TASK_PEER_UNSUPPORTED"
      "The confirmed Teti does not support a compatible Task version.")
  throwIf (input.attachments ≠ [] ∧ protocolVersion < 2)
    (runtimeError "TASK_PEER_IMAGE_UNSUPPORTED"
      "The confirmed Teti has not advertised image Task support yet.")
  throwIf (input.capabilityId = "image-editing" ∧ protocolVersion < 3)
    (runtimeError "TASK_PEER_IMAGE_RESULT_UNSUPPORTED"
      "The confirmed Teti has not advertised image result support yet.")
  return protocolVersion

/-- A task that is not known yet is stored and sent. -/
def sendNew (localTetiId : TetiId) (taskId : String)
    (connection : TetiConnectionRecord) (state : TaskStore) : Runtime Unit := do
  let protocolVersion ← requireProtocolVersion state connection input
  let room ← orThrow (ensureCapacity state (← currentTime env))
    (runtimeError "TASK_STORE_CAPACITY" "The local Task queue is full.")
  let createdAt ← currentTime env
  let request : CollaborationTaskRequest := {
    schemaVersion := protocolVersion
    taskId := taskId
    requesterTetiId := localTetiId
    targetTetiId := connection.remoteTetiId
    offerId := input.offerId.getD s!"capability:{input.capabilityId}"
    capabilityId := input.capabilityId
    input := taskInputForVersion protocolVersion input.text input.attachments
    workspace := some input.workspace
    executionMode := some input.executionMode
    createdAt := createdAt
    expiresAt := createdAt + input.ttlMs }
  fromExcept (validateCollaborationTaskRequest request)
  let record := outgoingRecord request
  let state ← storeRecord record room
  saveState env state
  match findTaskRecord state .outgoing localTetiId taskId with
  | some focus => sendStoredRecord env focus
  | none => return

def sendTask : Runtime Unit := do
  fromExcept (validateSendInput input)
  let localTetiId ← requireAccount env
  let connection ← requireConfirmedConnection env (trimmed input.connectionRequestId)
  let state ← loadState env
  let expired ← expireDueRecords (← currentTime env) state
  let state := expired.state
  let taskId ← match input.taskId with
    | some taskId => pure taskId
    | none => call env.taskIdFactory
  match findTaskRecord state .outgoing localTetiId taskId with
  | some focus => do
    throwIf (matchesRetry focus.current connection input = false)
      (runtimeError "TASK_ID_CONFLICT"
        "The Task ID is already bound to different immutable content.")
    if focus.current.delivery = .queued ∨ focus.current.delivery = .sendFailed then
      sendStoredRecord env focus
  | none => sendNew env input localTetiId taskId connection state

/-! ### Workspaces -/

def TETI_LOCAL_TEXT_COMPUTE_OFFER_ID : String := "local.compute.general-text-assistance.v1"

/-- A workspace as a task is bound to it. -/
def CollaborationWorkspace.binding (workspace : CollaborationWorkspace)
    (access : List WorkspaceAccess) : TaskWorkspaceBinding :=
  ⟨workspace.workspaceId, workspace.revision, workspace.mode, access⟩

/-- A workspace that the request refers to. -/
def referencedWorkspace (workspaces : CollaborationWorkspaceStore)
    (request : CollaborationTaskRequest) (localTetiId : TetiId) (workspaceId : String)
    (workspaceRevision : Nat) (access : List WorkspaceAccess) : Runtime TaskWorkspaceBinding := do
  let unavailable := runtimeError "TASK_WORKSPACE_REVISION_UNAVAILABLE"
    "The confirmed Collaboration Workspace revision is unavailable."
  let workspace ← orThrow (← callThrowing fun n => workspaces.get n workspaceId) unavailable
  throwIf (workspace.revision ≠ workspaceRevision) unavailable
  let members := workspace.ownerTetiId :: workspace.participantTetiIds
  throwIf (localTetiId ∉ members ∨ request.requesterTetiId ∉ members)
    (runtimeError "TASK_WORKSPACE_ACCESS_DENIED"
      "The Collaboration Workspace is not confirmed for both Tetis.")
  return workspace.binding access

/-- A workspace that is created for the task. -/
def temporaryWorkspace (workspaces : CollaborationWorkspaceStore)
    (request : CollaborationTaskRequest) (access : List WorkspaceAccess) :
    Runtime TaskWorkspaceBinding := do
  if request.executionMode = some .longHorizon then
    let workspace ← callThrowing fun n => workspaces.create n .durableCollaboration
    return workspace.binding access
  else
    -- the clock is read for the time to live of the workspace
    let _ ← currentTime env
    let workspace ← callThrowing fun n => workspaces.create n .ephemeralTask
    return workspace.binding access

def resolveWorkspaceBinding (request : CollaborationTaskRequest) (localTetiId : TetiId) :
    Runtime TaskWorkspaceBinding := do
  if request.offerId = TETI_LOCAL_TEXT_COMPUTE_OFFER_ID then
    match request.workspace with
    | some (.reference ..) =>
      raise (runtimeError "TASK_COMPUTE_WORKSPACE_UNSUPPORTED"
        "Receiver-local compute cannot access a Collaboration Workspace.")
    | _ => return ⟨s!"workspace:none.{request.taskId}", 1, .ephemeralTask, [.read]⟩
  else
    let requested := request.workspace.getD (.temporary [.read, .write, .createArtifact])
    match env.workspaceStore, requested with
    | none, _ => return ⟨s!"workspace:{request.taskId}", 1,
        if request.executionMode = some .longHorizon then .durableCollaboration
        else .ephemeralTask, requested.access⟩
    | some workspaces, .temporary access => temporaryWorkspace env workspaces request access
    | some workspaces, .reference workspaceId workspaceRevision access =>
      referencedWorkspace workspaces request localTetiId workspaceId workspaceRevision access

/-! ### Approving -/

/-- The images of a record must have arrived. -/
def requireAttachments (focus : RecordFocus) : Runtime RecordFocus := do
  let focus ← updateAttachmentsReady env focus
  throwIf (focus.current.attachmentsReady = false)
    (runtimeError "TASK_ATTACHMENTS_PENDING" "Task images have not finished downloading.")
  return focus

/-- The record is bound to its workspace. -/
def bindWorkspace (focus : RecordFocus) : Runtime (TaskWorkspaceBinding × RecordFocus) := do
  let localTetiId ← requireAccount env
  let binding ← resolveWorkspaceBinding env focus.current.request localTetiId
  return (binding, focus.keep fun record => { record with workspaceBinding := some binding })

/-- What a single-stage execution is asked to do. -/
def taskExecution (record : TaskRecord) (target : TaskExecutionTarget)
    (images : List CallableAdapterImageInput) (createdAt : Timestamp) :
    CallableAdapterTaskRequest where
  taskId := record.request.taskId
  adapterId := target.connectorId
  agentId := target.childAgentId
  capabilityId := target.capabilityId
  text := taskInputText record.request.input
  images := images
  createdAt := createdAt

/-- A single-stage execution is handed to the executor. -/
def executeTask (record : TaskRecord) (handle : ExecutionHandle)
    (execution : CallableAdapterTaskRequest) (authority : ExecutionAuthority) : Runtime Unit :=
  execute {
    owner := record.key
    taskId := record.request.taskId
    executionTaskId := record.request.taskId
    executionEpoch := handle.executionEpoch
    request := execution
    authority := authority }

/-- `approve`, for a single-stage task. -/
def approveSingleStage (executor : TaskExecutionBridge) (target : TaskExecutionTarget)
    (images : List CallableAdapterImageInput) (binding : TaskWorkspaceBinding)
    (focus : RecordFocus) : Runtime Unit := do
  let handle ← prepareExecution env executor {
    taskId := focus.current.request.taskId
    workspaceId := binding.workspaceId
    childAgentId := target.childAgentId
    connectorId := target.connectorId
    resume := false }
  let issuedAt ← currentTime env
  let grantId ← call env.randomUUID
  let grant := createExecutionGrant sha256 grantId focus.current.request target binding issuedAt
    none none
  fromExcept (validateExecutionGrant grant)
  let now ← currentTime env
  let focus ← focus.change (.approved now)
  saveFocus env focus
  let focus ← trySendPendingForRecord env focus
  let execution := taskExecution focus.current target images (← currentTime env)
  let authority ← fromExcept (createExecutionAuthority sha256 grant execution target
    handle.executionEpoch none (← currentTime env))
  executeTask focus.current handle execution authority

variable (taskId : String)

def approveTask : Runtime Unit := do
  let state ← loadState env
  let focus ← requireMutableIncomingTask state taskId (← currentTime env)
  callThrowing fun n => env.authorizePeer n focus.current.peerTetiId
  let focus ← requireAttachments env focus
  let executor ← requireExecutor env
    (runtimeError "TASK_EXECUTOR_UNAVAILABLE" "No callable Agent Runtime is available.")
  let request := focus.current.request
  let target ← orThrow
    (← call fun n => executor.resolveTarget n request.offerId request.capabilityId
      (requiredModes focus.current))
    (runtimeError "TASK_CAPABILITY_UNAVAILABLE"
      "No local callable Agent can run this capability.")
  throwIf (focus.current.longHorizon.isSome
      ∧ (target.outputModes.any fun modes => modes.contains .image) = true)
    (runtimeError "TASK_LONG_HORIZON_TEXT_ONLY"
      "The selected Child Agent does not have a text-only long-horizon output contract.")
  let images ← resolveInputImages env focus.current
  let (binding, focus) ← bindWorkspace env focus
  if focus.current.longHorizon.isSome then
    let outcome ← startLongHorizonStage env sha256 {
      target := target
      imageInputs := images
      instruction := taskInputText focus.current.request.input
      inputId := none
      delegationStep := none } focus
    let _ ← rethrowInterruption outcome
  else
    approveSingleStage env sha256 executor target images binding focus

/-- The target of a selection, which must take text. -/
def requireSelectedTarget (executor : TaskExecutionBridge) (selection : DelegationTargetSelection) :
    Runtime DelegationTargetOption := do
  let invalid := runtimeError "TASK_DELEGATION_TARGET_INVALID"
    "A selected Child Agent target is unavailable or does not accept text."
  let target ← orThrow (← call fun n => executor.resolveDelegationTarget n selection) invalid
  throwIf (target.inputModes.contains .text = false) invalid
  return target

/-- The plan of a delegated task, frozen and approved. -/
def freezePlan (request : CollaborationTaskRequest) (binding : TaskWorkspaceBinding)
    (targets : List DelegationTargetOption) : Runtime DelegationPlanState := do
  let now ← currentTime env
  let planId ← call env.taskIdFactory
  let plan ← fromExcept (createDeterministicDelegationPlan request.taskId
    binding.workspaceRevision binding.access targets now planId)
  let approvedAt ← currentTime env
  let plan ← fromExcept (appendDelegationAudit plan
    { action := .planApproved, actor := .localUser, stepId := none } approvedAt)
  fromExcept (validateDelegationPlanState plan)
  return plan

def approveDelegation (selections : List DelegationTargetSelection) : Runtime Unit := do
  let state ← loadState env
  let focus ← requireMutableIncomingTask state taskId (← currentTime env)
  callThrowing fun n => env.authorizePeer n focus.current.peerTetiId
  throwIf (focus.current.isLongHorizon = false ∨ focus.current.longHorizon = none)
    (runtimeError "TASK_DELEGATION_MODE_REQUIRED"
      "Deterministic delegation requires a long-horizon Task.")
  throwIf focus.current.delegationPlan.isSome
    (runtimeError "TASK_DELEGATION_EXISTS" "This Task already has a frozen Delegation Plan.")
  throwIf (selections.length < 1 ∨ DELEGATION_LIMITS.maximumChildSteps < selections.length)
    (runtimeError "TASK_DELEGATION_STEP_LIMIT" "Select one to four Child Agent steps.")
  let executor ← requireExecutor env
    (runtimeError "TASK_DELEGATION_UNAVAILABLE" "Delegation execution is unavailable.")
  let focus ← requireAttachments env focus
  let targets ← foldM (fun targets selection => do
    return targets ++ [← requireSelectedTarget executor selection]) [] selections
  let (binding, focus) ← bindWorkspace env focus
  let plan ← freezePlan env focus.current.request binding targets
  let focus ← focus.change (.planAttached plan)
  let firstStep ← orThrow (plan.steps.head?.bind DelegationStep.child?)
    (runtimeError "TASK_DELEGATION_INVALID" "Delegation Plan has no executable Child step.")
  let outcome ← startDelegationStep env sha256 firstStep focus
  let _ ← rethrowInterruption outcome

/-! ### Rejecting and canceling -/

def rejectCommand : Runtime Unit := do
  let state ← loadState env
  let focus ← requireMutableIncomingTask state taskId (← currentTime env)
  let focus ← focus.change (.rejectedByUser (← currentTime env))
  let _ ← saveAndDeliver env true focus

/-- `cancel`: the first record with the identifier, whichever its direction. -/
def cancelCommand : Runtime Unit := do
  let state ← loadState env
  let focus ← orThrow (focusRecord state fun record => record.request.taskId == taskId)
    (runtimeError "TASK_NOT_FOUND" "Task was not found.")
  if isTerminalTaskState focus.current.state then
    return
  let canceledAt ← currentTime env
  let focus ← match focus.current.direction with
    | .incoming => do
      cancelExecution ((currentExecutionTaskId focus.current).getD taskId)
      focus.change (.canceledByUser canceledAt)
    | .outgoing => do
      let controlId ← if focus.current.cancelPending then pure "" else call env.randomUUID
      pure (focus.keep fun record => requestCancel record controlId canceledAt)
  let _ ← saveAndDeliver env true focus

/-! ### Ongoing collaborations -/

/-- The requester gives the next instruction. -/
def submitLongHorizonInput (instruction : JsString) : Runtime Unit := do
  let state ← loadState env
  let refused := runtimeError "TASK_INPUT_NOT_REQUIRED" "The collaboration is not waiting for input."
  let focus ← orThrow (focusRecord state fun record =>
    record.direction == .outgoing && record.request.taskId == taskId) refused
  let status ← orThrow focus.current.peerLongHorizon refused
  throwIf (focus.current.state ≠ .inputRequired) refused
  let text := JsString.trim instruction
  throwIf (text = [] ∨ LONG_HORIZON_LIMITS.maximumInstructionBytes < JsString.utf8Size text)
    (runtimeError "TASK_INPUT_INVALID" "Supplemental instruction is invalid or too large.")
  if status.continuationExpiresAt ≤ (← currentTime env) then
    saveExpiry env focus
  throwIf (LONG_HORIZON_LIMITS.maximumInputs ≤ status.currentStageIndex - 1)
    (runtimeError "TASK_STAGE_LIMIT"
      "The collaboration reached its bounded supplemental-instruction limit.")
  throwIf focus.current.inputPending.isSome
    (runtimeError "TASK_INPUT_PENDING" "A supplemental instruction is already pending delivery.")
  let createdAt ← currentTime env
  let inputId ← call env.randomUUID
  let focus := focus.keep fun record => submitInput record {
    taskId := taskId
    requesterTetiId := record.request.requesterTetiId
    targetTetiId := record.request.targetTetiId
    inputId := inputId
    expectedStageIndex := status.currentStageIndex
    instruction := text
    createdAt := createdAt } createdAt
  let _ ← saveAndDeliver env true focus

def pauseLongHorizon : Runtime Unit := do
  let state ← loadState env
  let (focus, session) ← requireIncomingLongHorizon state taskId (← currentTime env)
  let focus ← focus.change (.paused session (← currentTime env))
  let _ ← saveAndDeliver env true focus

/-- The child agent that the next stage is given to. -/
def requireChild (session : LongHorizonTaskState) (childAgentId : Option String) :
    Runtime LongHorizonChildTarget :=
  let previous := session.stages.getLast?
  let selected := session.availableChildAgents.find? fun candidate =>
    match childAgentId with
    | some childAgentId => candidate.childAgentId == childAgentId
    | none => previous.any fun stage =>
      candidate.childAgentId == stage.childAgentId && candidate.connectorId == stage.connectorId
  match selected with
  | some child => pure child
  | none => raise (if childAgentId = none ∧ previous.isSome then
      runtimeError "TASK_CHILD_SELECTION_REQUIRED"
        "The previous Child Agent is unavailable; explicitly select another Child Agent."
    else runtimeError "TASK_CHILD_UNAVAILABLE" "No Child Agent is available.")

/-- The workspace is at the revision that the session continues from. -/
def requireWorkspace (record : TaskRecord) (session : LongHorizonTaskState) : Runtime Unit := do
  let binding ← orThrow record.workspaceBinding
    (runtimeError "TASK_WORKSPACE_UNAVAILABLE" "Task Workspace is unavailable.")
  match env.workspaceStore with
  | none => return
  | some workspaces => do
    if binding.workspaceId.startsWith "workspace:none." then
      return
    let current ← callThrowing fun n => workspaces.get n binding.workspaceId
    throwIf (current.all (fun workspace => workspace.revision != binding.workspaceRevision
        || workspace.revision != session.workspaceRevision))
      (runtimeError "TASK_WORKSPACE_REVISION_CONFLICT"
        "Workspace revision changed before continuation.")

/-- The session waits at a boundary, with the input for its next stage. -/
def requirePendingInput (session : LongHorizonTaskState) : Runtime LongHorizonInput :=
  orThrow (if atBoundary session then session.pendingInput else none)
    (runtimeError "TASK_INPUT_REQUIRED"
      "A requester instruction is required before the next stage.")

def continueLongHorizon (childAgentId : Option String) : Runtime Unit := do
  let state ← loadState env
  let (focus, session) ← requireIncomingLongHorizon state taskId (← currentTime env)
  callThrowing fun n => env.authorizePeer n focus.current.peerTetiId
  let input ← requirePendingInput session
  let pass ← refreshLongHorizonTargets env focus.state
  let focus := focus.refocus pass.state
  let session := focus.current.longHorizon.getD session
  let child ← requireChild session childAgentId
  let targets ← listTargets env focus.current [.text]
  let target ← orThrow (targets.find? fun target => target.child == child)
    (runtimeError "TASK_CHILD_UNAVAILABLE" "The selected Child Agent is no longer ready.")
  requireWorkspace env focus.current session
  let images ← resolveInputImages env focus.current
  let outcome ← startLongHorizonStage env sha256 {
    target := target
    imageInputs := images
    instruction := input.instruction
    inputId := some input.inputId
    delegationStep := none } focus
  let _ ← rethrowInterruption outcome

def completeLongHorizon : Runtime Unit := do
  let state ← loadState env
  let (focus, session) ← requireIncomingLongHorizon state taskId (← currentTime env)
  throwIf (atBoundary session = false ∨ session.pendingInput.isSome ∨ session.artifacts = [])
    (runtimeError "TASK_COMPLETE_UNAVAILABLE" "The collaboration cannot be completed now.")
  let focus ← focus.change (.sessionCompleted session (← currentTime env))
  let _ ← saveAndDeliver env true focus

def renewLongHorizon (ttlMs : Int) : Runtime Unit := do
  let state ← loadState env
  let (focus, session) ← requireIncomingLongHorizon state taskId (← currentTime env)
  throwIf (atBoundary session = false)
    (runtimeError "TASK_RENEWAL_UNAVAILABLE"
      "A collaboration can be renewed only at a stage boundary.")
  throwIf (ttlMs < 60000 ∨ LONG_HORIZON_LIMITS.maximumRenewalMs < ttlMs
      ∨ LONG_HORIZON_LIMITS.maximumRenewals ≤ session.renewalCount)
    (runtimeError "TASK_RENEWAL_LIMIT" "Task renewal exceeds the bounded policy.")
  let absoluteLimit := focus.current.request.createdAt + LONG_HORIZON_LIMITS.maximumLifetimeMs
  let nextExpiry := max (← currentTime env) session.continuationExpiresAt + ttlMs
  throwIf (absoluteLimit < nextExpiry)
    (runtimeError "TASK_RENEWAL_LIMIT"
      "Task renewal would exceed the bounded collaboration lifetime.")
  let focus ← focus.change (.renewed nextExpiry (← currentTime env))
  let _ ← saveAndDeliver env true focus

/-! ### Resuming -/

/-- The handle that an execution may be resumed from. -/
def requireResumable : Runtime ExecutionHandle := do
  let handle ← getExecutionHandle env taskId
  let unavailable := runtimeError "TASK_RESUME_UNAVAILABLE" "No explicit checkpoint is available."
  let previous ← orThrow handle unavailable
  throwIf (previous.resumeCapability ≠ .checkpointRestart) unavailable
  return previous

/-- `resume`.  The session of the record, if it has one, is not looked at. -/
def resumeCommand : Runtime Unit := do
  requireTaskId taskId
  let state ← loadState env
  let unavailable := runtimeError "TASK_RESUME_UNAVAILABLE" "Task cannot be resumed."
  let focus ← orThrow (findIncoming state taskId) unavailable
  throwIf (focus.current.state ≠ .inputRequired) unavailable
  let binding ← orThrow focus.current.workspaceBinding unavailable
  callThrowing fun n => env.authorizePeer n focus.current.peerTetiId
  let executor ← requireExecutor env
    (runtimeError "TASK_RESUME_UNAVAILABLE" "Durable execution is unavailable.")
  let previous ← requireResumable env taskId
  let request := focus.current.request
  let missing := runtimeError "TASK_RESUME_UNAVAILABLE" "The original Child Agent is unavailable."
  let target ← orThrow
    (← call fun n => executor.resolveTarget n request.offerId request.capabilityId
      (requiredModes focus.current)) missing
  throwIf (target.connectorId ≠ previous.connectorId
      ∨ target.childAgentId ≠ previous.childAgentId) missing
  let images ← resolveInputImages env focus.current
  let handle ← prepareExecution env executor {
    taskId := taskId
    workspaceId := binding.workspaceId
    childAgentId := target.childAgentId
    connectorId := target.connectorId
    resume := true }
  let issuedAt ← currentTime env
  let grantId ← call env.randomUUID
  let grant := createExecutionGrant sha256 grantId request target binding issuedAt none none
  let execution := taskExecution focus.current target images (← currentTime env)
  let authority ← fromExcept (createExecutionAuthority sha256 grant execution target
    handle.executionEpoch none (← currentTime env))
  let focus ← focus.change (.resumed (← currentTime env))
  saveFocus env focus
  let focus ← trySendPendingForRecord env focus
  executeTask focus.current handle execution authority

/-! ### Reading -/

/-- `markAttentionViewed`: what is unread of a record is marked, and the record returned. -/
def markAttentionViewed : Runtime TaskRecord := do
  requireTaskId taskId
  let state ← loadState env
  let focus ← orThrow (focusRecord state fun record => record.request.taskId == taskId)
    (runtimeError "TASK_NOT_FOUND" "Task was not found.")
  let stageResult := latestAvailableLongHorizonStageResultIndex focus.current
  let attention := focus.current.attentionRevision.getD 0
  let viewed := focus.keep fun record => { record with
    viewedStageResultIndex := max stageResult record.viewedStageResultIndex
    viewedAttentionRevision := max attention record.viewedAttentionRevision }
  if focus.current.viewedStageResultIndex < stageResult
      ∨ focus.current.viewedAttentionRevision < attention then
    saveFocus env viewed
  return viewed.current

/-- `markReceiptSent`. -/
def markReceiptSent (requesterTetiId : TetiId) : Runtime Unit := do
  let state ← loadState env
  match findTaskRecord state .incoming requesterTetiId taskId with
  | none => return
  | some focus => do
    let updatedAt ← currentTime env
    saveFocus env (focus.keep fun record =>
      { record with receiptPending := false, updatedAt := updatedAt })

/-- `observePeerVersions`; a time that does not parse is no time. -/
def observePeerVersions (tetiId : TetiId) (versions : List Nat) (observedAt : Option Timestamp) :
    Runtime Unit := do
  if isCanonicalTetiPublicId tetiId = false then
    return
  fromExcept (validateTaskProtocolVersions versions)
  match observedAt with
  | none => return
  | some observedAt => do
    let state ← loadState env
    saveState env (rememberPeerVersions state tetiId versions observedAt false)

end TetiBot

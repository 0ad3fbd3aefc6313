import TetiBot.Core.Validation

/-
Grants and authorities of executions (`core/callability/agent-core.ts` and the
two functions of `runtime/tasks/service.ts` that build them).

* `createExecutionGrant`: the grant of an approved task or of one stage;
* `issueExecutionAuthority`, `createExecutionAuthority`: the authority that is
  handed to the executor with an execution;
* `validateExecutionAuthority`: what the executor checks before it starts one.

SHA-256 is a parameter: it gives the hexadecimal digest of a text.
-/

namespace TetiBot

open Library

/-- The hexadecimal digest of the UTF-8 encoding of a text. -/
abbrev Sha256 : Type := JsString → String

variable (sha256 : Sha256)

/-- `digest(value)`. -/
def digest (value : JsString) : String := s!"sha256:{sha256 value}"

/-- What the runtime reads of a local target. -/
structure TaskExecutionTarget where
  connectorId : String
  childAgentId : String
  capabilityId : String
  workspacePolicy : Option WorkspacePolicy
  outputModes : Option (List TaskContentMode)
  deriving DecidableEq

def DelegationTargetOption.toTarget (target : DelegationTargetOption) : TaskExecutionTarget where
  connectorId := target.connectorId
  childAgentId := target.childAgentId
  capabilityId := target.capabilityId
  workspacePolicy := some target.workspacePolicy
  outputModes := some target.outputModes

/-- The fields of an `ExecutionAuthority` that are not fixed. -/
structure ExecutionAuthority where
  authorityId : String
  taskId : String
  connectorId : String
  childAgentId : String
  capabilityId : String
  inputDigest : String
  issuedAt : Timestamp
  expiresAt : Timestamp
  executionDeadlineAt : Timestamp
  workspaceId : String
  workspaceRevision : Nat
  workspaceAccess : List WorkspaceAccess
  executionEpoch : Nat
  deriving DecidableEq

/-- What is read of the descriptor of a connector. -/
structure AgentConnectorDescriptor where
  connectorId : String
  childAgentId : String
  deriving DecidableEq

/-! ### Digests of inputs -/

def CallableAdapterImageInput.json (image : CallableAdapterImageInput) : Json :=
  .obj [("attachmentId", jsonString image.attachmentId),
    ("mimeType", jsonString image.mimeType.text), ("path", jsonString image.path)]

variable (request : CallableAdapterTaskRequest)

/-- The `input` of a request as JSON. -/
def CallableAdapterTaskRequest.inputJson : Json :=
  .obj [("kind", jsonString (if request.images = [] then "text" else "parts")),
    ("text", .str request.text),
    ("images", .arr (request.images.map CallableAdapterImageInput.json))]

def digestHostAgentTaskInput : String :=
  digest sha256 (Json.stringify (.obj [("schemaVersion", .num 2),
    ("taskId", jsonString request.taskId), ("connectorId", jsonString request.adapterId),
    ("childAgentId", jsonString request.agentId),
    ("capabilityId", jsonString request.capabilityId), ("input", request.inputJson)]))

/-! ### Building -/

/-- Two minutes, the life of a grant and of an unstarted authority. -/
def EXECUTION_GRANT_TTL_MS : Int := 2 * 60 * 1000

/-- `createExecutionGrant`; without an `execution` the grant is for the whole
request, and without `workspaceAccess` it has the access of the workspace. -/
def createExecutionGrant (grantId : String) (request : CollaborationTaskRequest)
    (target : TaskExecutionTarget) (workspace : TaskWorkspaceBinding) (now : Timestamp)
    (execution : Option CallableAdapterTaskRequest)
    (workspaceAccess : Option (List WorkspaceAccess)) : ExecutionGrant where
  grantId := grantId
  taskId := (execution.map fun item => item.taskId).getD request.taskId
  requesterTetiId := request.requesterTetiId
  capabilityId := (execution.map fun item => item.capabilityId).getD request.capabilityId
  agentId := target.childAgentId
  adapterId := target.connectorId
  inputDigest := match execution with
    | some item => digest sha256 item.inputJson.stringify
    | none => digest sha256 (canonicalTaskRequestJson request)
  issuedAt := now
  expiresAt := now + EXECUTION_GRANT_TTL_MS
  workspaceId := workspace.workspaceId
  workspaceRevision := workspace.workspaceRevision
  workspaceAccess := workspaceAccess.getD workspace.access

/-- `issueExecutionAuthority` with the options that the runtime passes; `now`
is the clock of the function itself, used when no deadline is given. -/
def issueExecutionAuthority (grant : ExecutionGrant)
    (executionEpoch : Nat) (executionDeadlineAt : Option Timestamp) (now : Timestamp) :
    ExecutionAuthority where
  authorityId := grant.grantId
  taskId := request.taskId
  connectorId := request.adapterId
  childAgentId := request.agentId
  capabilityId := request.capabilityId
  inputDigest := digestHostAgentTaskInput sha256 request
  issuedAt := grant.issuedAt
  expiresAt := grant.expiresAt
  executionDeadlineAt := executionDeadlineAt.getD (now + 15 * 60 * 1000)
  workspaceId := grant.workspaceId
  workspaceRevision := grant.workspaceRevision
  workspaceAccess := grant.workspaceAccess
  executionEpoch := executionEpoch

def createExecutionAuthority (grant : ExecutionGrant) (request : CallableAdapterTaskRequest)
    (target : TaskExecutionTarget) (executionEpoch : Nat) (executionDeadlineAt : Option Timestamp)
    (now : Timestamp) : Except TaskError ExecutionAuthority := do
  failIf (request.adapterId ≠ target.connectorId ∨ request.agentId ≠ target.childAgentId
      ∨ request.capabilityId ≠ target.capabilityId)
    (runtimeError "TASK_EXECUTION_TARGET_INVALID" "Execution target changed after approval.")
  return issueExecutionAuthority sha256 request grant executionEpoch executionDeadlineAt now

/-! ### Validation -/

/-- `agentCoreError(code, message)`. -/
def agentCoreError (code message : String) : TaskError := ⟨.other, code, message⟩

def validateAgentSlug (value label : String) : Except TaskError Unit :=
  failIf (128 < value.length ∨ !safeSlugPattern value)
    (agentCoreError "AGENT_CORE_IDENTIFIER" s!"Host/Child Agent {label} is invalid.")

def validateAgentId (value label : String) : Except TaskError Unit :=
  failIf (!safeTaskId value)
    (agentCoreError "AGENT_CORE_IDENTIFIER" s!"Host/Child Agent {label} is invalid.")

variable (value : ExecutionAuthority)

/-- The checks of `validateExecutionAuthority` on what is authorized. -/
def validateAuthorityTarget (request : CallableAdapterTaskRequest)
    (connector : AgentConnectorDescriptor) : Except TaskError Unit := do
  failIf (value.executionEpoch < 1)
    (agentCoreError "EXECUTION_AUTHORITY_EPOCH" "Execution Authority epoch is invalid.")
  validateAgentId value.authorityId "authorityId"
  validateAgentId value.taskId "taskId"
  validateAgentSlug value.connectorId "connectorId"
  validateAgentSlug value.childAgentId "childAgentId"
  validateAgentSlug value.capabilityId "capabilityId"
  validateAgentId value.workspaceId "workspaceId"
  failIf (value.workspaceRevision = 0)
    (agentCoreError "EXECUTION_AUTHORITY_WORKSPACE"
      "Execution Authority Workspace revision is invalid.")
  failIf (validateWorkspaceAccess value.workspaceAccess).toBool.not
    (agentCoreError "EXECUTION_AUTHORITY_WORKSPACE"
      "Execution Authority Workspace access is invalid.")
  failIf (value.taskId ≠ request.taskId ∨ value.connectorId ≠ connector.connectorId
      ∨ value.childAgentId ≠ connector.childAgentId ∨ value.capabilityId ≠ request.capabilityId)
    (agentCoreError "EXECUTION_AUTHORITY_TARGET"
      "Execution Authority target does not match the local task.")
  failIf (!sha256Pattern value.inputDigest
      ∨ value.inputDigest ≠ digestHostAgentTaskInput sha256 request)
    (agentCoreError "EXECUTION_AUTHORITY_INPUT"
      "Execution Authority input digest does not match the local task.")

/-- The checks of `validateExecutionAuthority` on its times. -/
def validateAuthorityTimes (now : Timestamp) : Except TaskError Unit :=
  failIf (value.expiresAt ≤ value.issuedAt
      ∨ 5 * 60 * 1000 < value.expiresAt - value.issuedAt
      ∨ value.expiresAt < now
      ∨ value.executionDeadlineAt ≤ value.issuedAt
      ∨ 24 * 60 * 60 * 1000 < value.executionDeadlineAt - value.issuedAt
      ∨ value.executionDeadlineAt ≤ now
      ∨ now + 30000 < value.issuedAt)
    (agentCoreError "EXECUTION_AUTHORITY_EXPIRY" "Execution Authority is expired or invalid.")

def validateExecutionAuthority (request : CallableAdapterTaskRequest)
    (connector : AgentConnectorDescriptor) (now : Timestamp) : Except TaskError Unit := do
  validateAuthorityTarget sha256 value request connector
  validateAuthorityTimes value now

end TetiBot

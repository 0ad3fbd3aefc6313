import TetiBot.Callable.Authority

/-
Connectors, and what they are handed and hand back (`core/callability/adapter.ts`,
`core/callability/agent-core.ts`).

* `HostConnector`: what the kernel reads of a registered connector;
* `validateCallableAdapterTaskRequest`: the check of a request against the
  connector it names;
* `validateCallableAdapterArtifactText`: the check of what an execution put out.
-/

namespace TetiBot

open Library Library.JsString

/-- `contractError(code, message)` of the adapters. -/
def adapterError (code message : String) : TaskError := ⟨.other, code, message⟩

/-- What a connector makes of the output of its process; the images are paths. -/
inductive CallableAdapterDecodedArtifact
  | text (text : JsString)
  | parts (text : JsString) (images : List String)
  deriving DecidableEq

/-- What the kernel reads of a registered connector: its descriptor, and what it
does with the output of its process.  An error is a safe error code. -/
structure HostConnector extends AgentConnectorDescriptor where
  capabilityIds : List String
  inputModes : List TaskContentMode
  outputModes : List TaskContentMode
  workspacePolicy : Option WorkspacePolicy := none
  maxConcurrentExecutions : Option Nat := none
  maxQueuedExecutions : Option Nat := none
  supportsCheckpoint : Bool := false
  decodeArtifact : JsString → Except String CallableAdapterDecodedArtifact
  classifyFailure : JsString → Option String

/-- A limit of a connector is between 1 and 32, where it has one. -/
def connectorLimitValid (limit : Option Nat) : Bool :=
  limit.all fun value => 1 ≤ value && value ≤ 32

/-- The checks of `validateAgentConnectorDescriptor` on concurrency. -/
def validateConnectorLimits (connector : HostConnector) : Except TaskError Unit := do
  failIf (!connectorLimitValid connector.maxConcurrentExecutions)
    (agentCoreError "CONNECTOR_CONCURRENCY" "Agent Connector concurrency limit is invalid.")
  failIf (!connectorLimitValid connector.maxQueuedExecutions)
    (agentCoreError "CONNECTOR_QUEUE" "Agent Connector queue limit is invalid.")

/-- `descriptor.workspacePolicy ?? "snapshot"`. -/
def HostConnector.policy (connector : HostConnector) : WorkspacePolicy :=
  connector.workspacePolicy.getD .snapshot

/-- `validateCallableAdapterTaskRequest`; the platform decides which paths are
safe. -/
def validateCallableAdapterTaskRequest (isSafeAbsoluteLocalPath : String → Bool)
    (request : CallableAdapterTaskRequest) (connector : HostConnector) : Except TaskError Unit := do
  failIf (!safeTaskId request.taskId)
    (adapterError "ADAPTER_TASK_ID" "Local Adapter task ID is invalid.")
  failIf (request.adapterId ≠ connector.connectorId ∨ request.agentId ≠ connector.childAgentId)
    (adapterError "ADAPTER_TASK_TARGET" "Local Adapter task target does not match its Adapter.")
  failIf (request.capabilityId ∉ connector.capabilityIds)
    (adapterError "ADAPTER_TASK_CAPABILITY" "Local Adapter task capability is not supported.")
  failIf (isBlank request.text)
    (adapterError "ADAPTER_TASK_INPUT" "Local Adapter task requires non-empty text input.")
  failIf (MAX_TASK_INPUT_TEXT_BYTES < utf8Size request.text)
    (adapterError "ADAPTER_TASK_INPUT" "Local Adapter task input exceeds the allowed size.")
  failIf (MAX_TASK_IMAGE_PARTS < request.images.length)
    (adapterError "ADAPTER_TASK_INPUT" "Local Adapter task images are invalid.")
  failIf (request.images ≠ [] ∧ .image ∉ connector.inputModes)
    (adapterError "ADAPTER_TASK_INPUT" "Local Adapter does not accept image input.")
  failIf ((request.images.any fun image =>
        !safeTaskId image.attachmentId || !isSafeAbsoluteLocalPath image.path)
      ∨ ¬(request.images.map fun image => image.attachmentId).Nodup)
    (adapterError "ADAPTER_TASK_INPUT" "Local Adapter task image is invalid.")

lemma agentId_of_valid {isSafeAbsoluteLocalPath : String → Bool}
    {request : CallableAdapterTaskRequest} {connector : HostConnector}
    (h : validateCallableAdapterTaskRequest isSafeAbsoluteLocalPath request connector = .ok ()) :
    request.agentId = connector.childAgentId := by
  obtain ⟨-, h⟩ := failIf_then_eq_ok.mp h
  obtain ⟨htarget, -⟩ := failIf_then_eq_ok.mp h
  exact not_not.mp fun hne => htarget (.inr hne)

/-- `validateCallableAdapterArtifactText`. -/
def validateCallableAdapterArtifactText (value : JsString) : Except TaskError Unit := do
  failIf (isBlank value)
    (adapterError "ADAPTER_ARTIFACT" "Callable Adapter Artifact must contain text.")
  failIf (MAX_TASK_ARTIFACT_TEXT_BYTES < utf8Size value)
    (adapterError "ADAPTER_ARTIFACT" "Callable Adapter Artifact exceeds the allowed size.")

end TetiBot

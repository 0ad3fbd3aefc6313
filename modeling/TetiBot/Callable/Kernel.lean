import TetiBot.Callable.Execution
import TetiBot.Library.OrderedMap
import TetiBot.Library.Transition

/-
The host kernel (`TetiHostAgentKernel` of `runtime/callable/kernel.ts`).

* `HostKernel`: its maps, which hold the executions by their index in the order
  of their acceptance;
* `execute`, `cancel`, `shutdown`, `registerConnector`, `unregisterConnector`:
  its methods, each of which runs without an await;
* `drainQueues`, `finishRun`: what the end of a run does for the others;
* `KernelEvent`, `HostKernel.step`: everything that can happen next, and what
  it leads to.
-/

namespace TetiBot

open Library

structure HostKernel where
  connectors : OrderedMap String HostConnector
  acceptingTasks : Bool
  /-- The durable registry, where the host has one. -/
  registry : Option ExecutionHandleStoreState
  controls : List ExecutionControl
  tasks : OrderedMap String Nat
  active : OrderedMap String Nat
  queued : OrderedMap String Nat
  childQueues : OrderedMap String (List String)
  consumedAuthorities : OrderedMap String Timestamp
  /-- The executions whose run has begun, in this order; no program reads it. -/
  started : List Nat

/-- A new kernel. -/
def newHostKernel (registry : Option ExecutionHandleStoreState) : HostKernel where
  connectors := .empty
  acceptingTasks := true
  registry := registry
  controls := []
  tasks := .empty
  active := .empty
  queued := .empty
  childQueues := .empty
  consumedAuthorities := .empty
  started := []

/-- `new TetiHostAgentError(code, message)`. -/
def hostAgentError (code message : String) : TaskError := ⟨.other, code, message⟩

namespace HostKernel

variable (host : HostOptions)

/-! ### Parts -/

def modifyControl (index : Nat) (f : ExecutionControl → ExecutionControl) (kernel : HostKernel) :
    HostKernel :=
  { kernel with controls := kernel.controls.modify index f }

/-- A call of the registry, where there is one. -/
def callRegistry (call : RegistryCall) (kernel : HostKernel) : HostKernel :=
  { kernel with registry := kernel.registry.map call.step }

/-- The machine of an execution has ended. -/
def isTerminal (kernel : HostKernel) (index : Nat) : Bool :=
  kernel.controls[index]?.any fun control => control.machine.isTerminal

/-- The child agent of an execution. -/
def childOf (kernel : HostKernel) (index : Nat) : Option String :=
  kernel.controls[index]?.map fun control => control.request.agentId

/-- `activeForChild`. -/
def activeForChild (kernel : HostKernel) (childAgentId : String) : Nat :=
  kernel.active.count fun _ index => kernel.childOf index == some childAgentId

variable (connector : HostConnector)

/-- `descriptor.maxConcurrentExecutions ?? this.maxConcurrentTasks`. -/
def concurrencyLimit : Nat :=
  connector.maxConcurrentExecutions.getD host.maxConcurrentTasks

/-- The queues without a task of a child; an empty queue is deleted. -/
def dequeue (taskId childAgentId : String) (childQueues : OrderedMap String (List String)) :
    OrderedMap String (List String) :=
  match childQueues.get? childAgentId with
  | none => childQueues
  | some queue =>
    if queue.erase taskId = [] then childQueues.erase childAgentId
    else childQueues.set childAgentId (queue.erase taskId)

def removeQueued (taskId childAgentId : String) (kernel : HostKernel) : HostKernel :=
  { kernel with
    queued := kernel.queued.erase taskId
    childQueues := dequeue taskId childAgentId kernel.childQueues }

/-- The loop of `pruneHistory`. -/
def pruneFrom (kernel : HostKernel) : List (String × Nat) → OrderedMap String Nat →
    OrderedMap String Nat
  | [], tasks => tasks
  | (taskId, index) :: rest, tasks =>
    if tasks.size ≤ host.maxRetainedTasks then tasks
    else if kernel.isTerminal index ∧ kernel.active.contains taskId = false then
      pruneFrom kernel rest (tasks.erase taskId)
    else pruneFrom kernel rest tasks

def pruneHistory (kernel : HostKernel) : HostKernel :=
  { kernel with tasks := pruneFrom host kernel kernel.tasks.entries kernel.tasks }

/-! ### Runs -/

/-- The run of an execution begins, and the execution is active. -/
def startRun (index : Nat) (taskId : String) (kernel : HostKernel) : HostKernel :=
  { kernel.modifyControl index (ExecutionControl.start kernel.registry) with
    active := kernel.active.set taskId index
    started := kernel.started ++ [index] }

/-- One pass of the loop of `drainQueues`. -/
def drainQueue (childAgentId : String) (kernel : HostKernel) : HostKernel :=
  match kernel.childQueues.get? childAgentId with
  | none => kernel
  | some [] => { kernel with childQueues := kernel.childQueues.erase childAgentId }
  | some (nextTaskId :: rest) =>
    match kernel.queued.get? nextTaskId with
    | none => { kernel with
        childQueues := if rest = [] then kernel.childQueues.erase childAgentId
          else kernel.childQueues.set childAgentId rest }
    | some next =>
      match kernel.controls[next]? with
      | none => kernel
      | some control =>
        if concurrencyLimit host control.connector ≤ kernel.activeForChild childAgentId then kernel
        else (kernel.removeQueued nextTaskId childAgentId).startRun next nextTaskId

/-- The loop of `drainQueues`. -/
def drainFrom : List String → HostKernel → HostKernel
  | [], kernel => kernel
  | childAgentId :: rest, kernel =>
    if host.maxConcurrentTasks ≤ kernel.active.size then kernel
    else drainFrom rest (kernel.drainQueue host childAgentId)

def drainQueues (kernel : HostKernel) : HostKernel :=
  if kernel.acceptingTasks = false then kernel
  else drainFrom host kernel.childQueues.keys kernel

/-- The last lines of the `finally` block of a run. -/
def finishRun (index : Nat) (taskId : String) (kernel : HostKernel) : HostKernel :=
  let kernel := kernel.modifyControl index fun control => { control with stage := .finished }
  let kernel := { kernel with active := kernel.active.erase taskId }
  (kernel.pruneHistory host).drainQueues host

/-- The run of an execution goes on. -/
def resumeRun (index : Nat) (answer : RunAnswer) (kernel : HostKernel) : HostKernel :=
  match kernel.controls[index]? with
  | none => kernel
  | some control =>
    match control.stage, answer with
    | .settling, .fulfilled _ _ => kernel.finishRun host index control.request.taskId
    | _, _ =>
      let (next, call) := control.resume host kernel.registry answer
      let kernel := kernel.modifyControl index fun _ => next
      match call with
      | none => kernel
      | some call => kernel.callRegistry call

/-! ### Accepting an execution -/

variable (request : CallableAdapterTaskRequest) (authority : ExecutionAuthority)

variable (kernel : HostKernel)

/-- The request names a task that the kernel knows, and is no later epoch of it. -/
def isDuplicate : Bool :=
  (kernel.tasks.get? request.taskId).any fun previous =>
    !kernel.isTerminal previous || authority.executionEpoch ≤ 1

/-- There is room for another execution of the child. -/
def canStart : Bool :=
  kernel.active.size < host.maxConcurrentTasks
    && kernel.activeForChild connector.childAgentId < concurrencyLimit host connector

/-- The queue of the child takes no other execution. -/
def queueFull : Bool :=
  connector.maxQueuedExecutions.getD 0 == 0
    || connector.maxQueuedExecutions.getD 0
      ≤ ((kernel.childQueues.get? connector.childAgentId).getD []).length

variable (now : Timestamp)

/-- The authorities that expired before `now` are forgotten. -/
def pruneAuthorities (kernel : HostKernel) : HostKernel :=
  { kernel with
    consumedAuthorities := kernel.consumedAuthorities.filter fun _ expiresAt => now ≤ expiresAt }

/-- The execution is accepted: it starts, or it waits. -/
def accept (starts : Bool) (kernel : HostKernel) : HostKernel :=
  let index := kernel.controls.length
  let kernel := { kernel with
    consumedAuthorities := kernel.consumedAuthorities.set authority.authorityId authority.expiresAt
    controls := kernel.controls ++ [ExecutionControl.submit connector request authority]
    tasks := kernel.tasks.set request.taskId index }
  if starts then kernel.startRun index request.taskId
  else { kernel with
    queued := kernel.queued.set request.taskId index
    childQueues := kernel.childQueues.set connector.childAgentId
      ((kernel.childQueues.get? connector.childAgentId).getD [] ++ [request.taskId]) }

/-- The second half of `execute`.  The clock is read twice: to check the
authority, and to forget those that have expired. -/
def admitExecution
    (now later : Timestamp) (kernel : HostKernel) : Except TaskError Nat × HostKernel :=
  let starts := kernel.canStart host connector
  if starts = false ∧ queueFull connector kernel then
    (.error (hostAgentError
      (if concurrencyLimit host connector ≤ kernel.activeForChild connector.childAgentId then
        "HOST_CHILD_AGENT_BUSY" else "HOST_AGENT_BUSY")
      (if 0 < connector.maxQueuedExecutions.getD 0 then
        "The selected Child Agent queue is full."
      else "The selected Child Agent has reached its local concurrency limit.")), kernel)
  else match validateExecutionAuthority host.sha256 authority request
      connector.toAgentConnectorDescriptor now with
  | .error error => (.error error, kernel)
  | .ok () =>
    let kernel := kernel.pruneAuthorities later
    if kernel.consumedAuthorities.contains authority.authorityId then
      (.error (hostAgentError "EXECUTION_AUTHORITY_CONSUMED"
        "Execution Authority has already been consumed."), kernel)
    else (.ok kernel.controls.length, kernel.accept connector request authority starts)

def execute (now later : Timestamp) (kernel : HostKernel) : Except TaskError Nat × HostKernel :=
  if kernel.acceptingTasks = false then
    (.error (hostAgentError "HOST_AGENT_STOPPED" "Teti Host Agent is stopping."), kernel)
  else match kernel.connectors.get? request.adapterId with
  | none =>
    (.error (hostAgentError "CONNECTOR_NOT_FOUND" "Agent Connector is not registered."), kernel)
  | some connector =>
    match validateCallableAdapterTaskRequest host.isSafeAbsoluteLocalPath request connector with
    | .error error => (.error error, kernel)
    | .ok () =>
      if kernel.isDuplicate request authority then
        (.error (hostAgentError "HOST_TASK_DUPLICATE" "Host Agent task ID already exists."), kernel)
      else
        -- a task that has ended is forgotten, even if the execution is refused after all
        { kernel with tasks := kernel.tasks.erase request.taskId }.admitExecution host connector
          request authority now later

/-! ### Ending executions -/

/-- `cancel`, with the clock of the registry and whether its file is written. -/
def cancel (taskId : String) (now : Timestamp) (written : Bool) (kernel : HostKernel) :
    Bool × HostKernel :=
  match kernel.queued.get? taskId with
  | some index =>
    match kernel.controls[index]? with
    | none => (false, kernel)
    | some control =>
      let kernel := kernel.removeQueued taskId control.connector.childAgentId
      let kernel := kernel.modifyControl index (ExecutionControl.withdraw "ADAPTER_CANCELED" true)
      let kernel := kernel.callRegistry
        ⟨.cancel taskId (some control.authority.executionEpoch), now, written⟩
      (true, kernel.pruneHistory host)
  | none =>
    match kernel.active.get? taskId with
    | none => (false, kernel)
    | some index =>
      if kernel.controls[index]?.all fun control => control.machine.isTerminal then (false, kernel)
      else
        let kernel := kernel.callRegistry ⟨.cancel taskId none, now, written⟩
        (true, kernel.modifyControl index ExecutionControl.acceptCancel)

variable (written : String → Bool)

/-- `shutdown`, for an execution that waits. -/
def dropQueued (kernel : HostKernel) (entry : String × Nat) : HostKernel :=
  match kernel.controls[entry.2]? with
  | none => kernel
  | some control =>
    let kernel := kernel.removeQueued entry.1 control.connector.childAgentId
    let kernel := kernel.callRegistry
      ⟨.cancel entry.1 (some control.authority.executionEpoch), now, written entry.1⟩
    kernel.modifyControl entry.2 (ExecutionControl.withdraw "ADAPTER_RUNTIME_SHUTDOWN" false)

/-- `shutdown`, for an execution that runs. -/
def stopActive (kernel : HostKernel) (entry : String × Nat) : HostKernel :=
  match kernel.controls[entry.2]? with
  | none => kernel
  | some control =>
    let kernel := kernel.callRegistry
      ⟨.cancel control.request.taskId none, now, written control.request.taskId⟩
    kernel.modifyControl entry.2 (ExecutionControl.requestTermination .shutdown)

def shutdown (kernel : HostKernel) : HostKernel :=
  if kernel.acceptingTasks = false then kernel
  else
    let kernel := { kernel with acceptingTasks := false }
    let kernel := kernel.queued.entries.foldl (dropQueued now written) kernel
    kernel.active.entries.foldl (stopActive now written) kernel

/-! ### Connectors -/

/-- `registerConnector`, for a connector that passes the other checks of
`validateAgentConnector`. -/
def registerConnector : Except TaskError Unit × HostKernel :=
  if kernel.acceptingTasks = false then
    (.error (hostAgentError "HOST_AGENT_STOPPED" "Teti Host Agent is stopping."), kernel)
  else match validateConnectorLimits connector with
  | .error error => (.error error, kernel)
  | .ok () =>
    if kernel.connectors.contains connector.connectorId then
      (.error (hostAgentError "CONNECTOR_DUPLICATE"
        s!"Duplicate Agent Connector ID: {connector.connectorId}"), kernel)
    else (.ok (), { kernel with
      connectors := kernel.connectors.set connector.connectorId connector })

/-- The tasks of the executions that wait for a connector, and then of those that
run on it. -/
def tasksOfConnector (connectorId : String) (kernel : HostKernel) : List String :=
  let uses (index : Nat) : Bool := kernel.controls[index]?.any fun control =>
    control.connector.connectorId == connectorId
  (kernel.queued.entries ++ kernel.active.entries).filterMap fun entry =>
    if uses entry.2 then some entry.1 else none

def unregisterConnector (connectorId : String) (now : Timestamp) (written : String → Bool)
    (kernel : HostKernel) : HostKernel :=
  if kernel.connectors.contains connectorId = false then kernel
  else
    let kernel := { kernel with connectors := kernel.connectors.erase connectorId }
    (kernel.tasksOfConnector connectorId).foldl
      (fun kernel taskId => (kernel.cancel host taskId now (written taskId)).2) kernel

end HostKernel

/-! ### What can happen -/

/-- Everything that can happen next: a call of a method, a timer or an output
limit that ends a run, the answer to what a run awaits, and a call of the
registry by the task service or by the timer that renews a lease. -/
inductive KernelEvent
  | register (connector : HostConnector)
  | unregister (connectorId : String) (now : Timestamp) (written : String → Bool)
  | execute (request : CallableAdapterTaskRequest) (authority : ExecutionAuthority)
      (now later : Timestamp)
  | cancel (taskId : String) (now : Timestamp) (written : Bool)
  | shutdown (now : Timestamp) (written : String → Bool)
  | terminate (index : Nat) (reason : TerminationReason)
  | resume (index : Nat) (answer : RunAnswer)
  | registry (call : RegistryCall)

/-- A run is ended from within: it has begun. -/
def ExecutionControl.terminateRun (reason : TerminationReason) (control : ExecutionControl) :
    ExecutionControl :=
  if control.stage = .queued then control else control.requestTermination reason

namespace HostKernel

variable (host : HostOptions)

/-- The kernel after an event. -/
def step (kernel : HostKernel) : KernelEvent → HostKernel
  | .register connector => (kernel.registerConnector connector).2
  | .unregister connectorId now written => kernel.unregisterConnector host connectorId now written
  | .execute request authority now later => (kernel.execute host request authority now later).2
  | .cancel taskId now written => (kernel.cancel host taskId now written).2
  | .shutdown now written => kernel.shutdown now written
  | .terminate index reason =>
    kernel.modifyControl index (ExecutionControl.terminateRun reason)
  | .resume index answer => kernel.resumeRun host index answer
  | .registry call => kernel.callRegistry call

/-- A run of the kernel in which every event meets a condition on the state it
finds. -/
def Runs (allowed : HostKernel → KernelEvent → Prop) : HostKernel → HostKernel → Prop :=
  Reached fun kernel next => ∃ event, allowed kernel event ∧ next = kernel.step host event

end HostKernel

/-! ### A host for the examples -/

/-- A host for the examples, whose digests are all the same. -/
def plainHost : HostOptions where
  maxConcurrentTasks := 2
  maxRetainedTasks := 4
  workspaceStore := false
  artifactImageStore := false
  isSafeAbsoluteLocalPath := fun _ => true
  sha256 := fun _ => "0000000000000000000000000000000000000000000000000000000000000000"
  maxConcurrentTasks_pos := by decide
  maxRetainedTasks_pos := by decide

/-- A connector for the examples, which hands on the output of its process. -/
def plainConnector : HostConnector where
  connectorId := "connector"
  childAgentId := "child"
  capabilityIds := ["write"]
  inputModes := [.text]
  outputModes := [.text]
  maxQueuedExecutions := some 4
  decodeArtifact text := .ok (.text text)
  classifyFailure _ := none

/-- A request of the connector, with the text "hi". -/
def plainRequest (taskId : String) : CallableAdapterTaskRequest where
  taskId := taskId
  adapterId := "connector"
  agentId := "child"
  capabilityId := "write"
  text := [104, 105]
  images := []
  createdAt := 0

/-- An authority for the request, valid for two minutes from the start of the
clock. -/
def plainAuthority (authorityId taskId : String) (executionEpoch : Nat) : ExecutionAuthority where
  authorityId := authorityId
  taskId := taskId
  connectorId := "connector"
  childAgentId := "child"
  capabilityId := "write"
  inputDigest := "sha256:0000000000000000000000000000000000000000000000000000000000000000"
  issuedAt := 0
  expiresAt := 120000
  executionDeadlineAt := 900000
  workspaceId := "workspace-1"
  workspaceRevision := 1
  workspaceAccess := [.read]
  executionEpoch := executionEpoch

/-- A call of `execute` with them. -/
def executePlain (authorityId taskId : String) (executionEpoch : Nat) : KernelEvent :=
  .execute (plainRequest taskId) (plainAuthority authorityId taskId executionEpoch) 0 0

end TetiBot

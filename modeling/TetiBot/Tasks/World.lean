import TetiBot.Tasks.Changes
import TetiBot.Callable.ExecutionStore
import TetiBot.Library.Program

/-
The world of the task service, and the steps its programs are made of.

* `Environment`: the answers of everything outside during one operation: the
  clock, the random identifiers, the account and the connections, the
  transport, the attachment, workspace and memory stores, the executor, and
  the file system.  The `n`-th call of an operation gets the `n`-th answer.  An
  environment in which every call fails from some call on is a crash there.
* `World`: the store file, the handle file, the executions in flight, the
  messages handed to the transport, and a journal.  The journal records what
  the service did; no program reads it.
* `Runtime`: the programs of the service.
* `RecordFocus`: the state an operation has loaded, at the record it is about.
-/

namespace TetiBot

open Library Library.Program

/-! ### Outside -/

/-- What is read of a connection; `confirmed` is `isTetiConnectionConfirmed`. -/
structure TetiConnectionRecord where
  requestId : String
  remoteTetiId : TetiId
  confirmed : Bool
  deriving DecidableEq

/-- A message about a task. -/
inductive TaskMessage
  | request (payload : CollaborationTaskRequest)
  | receipt (payload : TetiTaskReceiptPayload)
  | applicationReceipt (payload : TetiTaskApplicationReceiptPayload)
  | attachment (payload : TetiTaskAttachmentPayload)
  | attachmentReceipt (payload : TetiTaskAttachmentReceiptPayload)
  | artifact (payload : TetiTaskArtifactPayload)
  | artifactFile (payload : TetiTaskArtifactFilePayload)
  | artifactReceipt (payload : TetiTaskArtifactReceiptPayload)
  | status (payload : TetiTaskStatusPayload)
  | input (payload : TetiTaskInputPayload)
  | cancel (payload : TetiTaskCancelPayload)

/-- The answer of the transport: whether the message left, and what the call
returned.  A call may fail although the message left. -/
structure Delivery where
  left : Bool
  result : Except TaskError (String × Nat)

/-- What is read of a staged artifact document. -/
structure StagedTaskArtifactDocument where
  byteLength : Nat
  sha256 : String
  deriving DecidableEq

structure TaskAttachmentStore where
  resolveImage : Nat → TaskImagePart → Except TaskError (Option String)
  getStagedImage : Nat → TaskImagePart → Except TaskError String
  ingestImage : Nat → TaskImagePart → Except TaskError Unit
  stageArtifactDocument :
    Nat → CollaborationTaskArtifact → Except TaskError StagedTaskArtifactDocument
  readArtifactDocument :
    Nat → TetiTaskArtifactFilePayload → Except TaskError CollaborationTaskArtifact

structure CollaborationWorkspaceStore where
  get : Nat → String → Except TaskError (Option CollaborationWorkspace)
  create : Nat → WorkspaceMode → Except TaskError CollaborationWorkspace

/-- The memory store.  An execution context with a manifest is given by what it
makes of the instruction of the stage. -/
structure StructuredTaskMemoryStore where
  createExecutionContext : Nat → Except TaskError (Option (JsString → JsString))

/-- What `prepareExecution` reads of a registered connector. -/
structure AgentConnector where
  childAgentId : String
  executionCapabilities : ConnectorExecutionCapabilities
  executionSemantics : ExecutionSemantics

structure TaskExecutionBridge where
  resolveTarget : Nat → (offerId capabilityId : String) → List TaskContentMode →
    Option TaskExecutionTarget
  listTargets : Nat → (offerId capabilityId : String) → List TaskContentMode →
    List TaskExecutionTarget
  resolveDelegationTarget : Nat → DelegationTargetSelection → Option DelegationTargetOption
  connector : Nat → String → Option AgentConnector
  /-- Reading and writing the handle file. -/
  handleFile : Nat → Except TaskError Unit
  checkpointIntact : Nat → Bool
  activeTaskIds : Nat → List String
  getTask : Nat → String → Option CallableAdapterTaskSnapshot

structure Environment where
  now : Nat → Timestamp
  randomUUID : Nat → String
  taskIdFactory : Nat → String
  account : Nat → Except TaskError (Option TetiId)
  connections : Nat → Except TaskError (List TetiConnectionRecord)
  authorizePeer : Nat → TetiId → Except TaskError Unit
  deliver : Nat → TaskMessage → Delivery
  loadStore : Nat → Except TaskError Unit
  writeStore : Nat → Except TaskError Unit
  attachmentStore : Option TaskAttachmentStore
  workspaceStore : Option CollaborationWorkspaceStore
  structuredTaskMemoryStore : Option StructuredTaskMemoryStore
  executor : Option TaskExecutionBridge

/-- Nothing fails, every message leaves, the clock stands still, and there is
neither an executor nor a store besides that of the tasks. -/
def steadyEnvironment (account : TetiId) (connections : List TetiConnectionRecord)
    (now : Timestamp) : Environment where
  now _ := now
  randomUUID n := s!"id-{n}"
  taskIdFactory n := s!"task-{n}"
  account _ := .ok (some account)
  connections _ := .ok connections
  authorizePeer _ _ := .ok ()
  deliver n _ := ⟨true, .ok (s!"message-{n}", n)⟩
  loadStore _ := .ok ()
  writeStore _ := .ok ()
  attachmentStore := none
  workspaceStore := none
  structuredTaskMemoryStore := none
  executor := none

/-! ### The world -/

/-- An execution whose end will be handed to `finishExecution`.  The owner is
the key of the record it was started for. -/
structure TaskExecution where
  owner : TaskKey
  taskId : String
  executionTaskId : String
  executionEpoch : Nat
  request : CallableAdapterTaskRequest
  authority : ExecutionAuthority
  deriving DecidableEq

structure SentMessage where
  peerTetiId : TetiId
  message : TaskMessage

/-- What the service did, in the order in which it did it. -/
inductive JournalEntry
  | loaded
  | saved (state : TaskStore)
  | changed (record : TaskRecord) (change : Change)
  | admitted (record : TaskRecord)
  | prepared (executionTaskId : String)
  | started (execution : TaskExecution)

structure World where
  store : TaskStore
  registry : ExecutionHandleStoreState
  executions : List TaskExecution
  sent : List SentMessage
  calls : Nat
  journal : List JournalEntry

def initialWorld : World where
  store := emptyTaskTransportStoreState
  registry := emptyExecutionHandleStoreState
  executions := []
  sent := []
  calls := 0
  journal := []

namespace World

variable (w : World)

def log (entry : JournalEntry) : World :=
  { w with journal := w.journal ++ [entry] }

/-- The state is in the store file. -/
def persist (state : TaskStore) : World :=
  { w with store := state, journal := w.journal ++ [.saved state] }

/-- A message has left. -/
def emit (message : SentMessage) : World :=
  { w with sent := w.sent ++ [message] }

/-- The handle of an execution was prepared. -/
def setRegistry (registry : ExecutionHandleStoreState) : World :=
  { w with registry := registry }

/-- An execution is in flight. -/
def launch (execution : TaskExecution) : World :=
  { w with
    executions := w.executions ++ [execution], journal := w.journal ++ [.started execution] }

def tick : World := { w with calls := w.calls + 1 }

end World

abbrev Runtime (α : Type) : Type := Program TaskError World α

/-! ### Calls -/

variable (env : Environment)

/-- Ask the environment. -/
def call {α : Type} (answer : Nat → α) : Runtime α := do
  let n ← reads fun w => w.calls
  writes World.tick
  return answer n

/-- Ask the environment, which may throw. -/
def callThrowing {α : Type} (answer : Nat → Except TaskError α) : Runtime α := do
  fromExcept (← call answer)

/-- `this.now()`. -/
def currentTime : Runtime Timestamp := call env.now

/-- `this.store.load()`. -/
def loadState : Runtime TaskStore := do
  callThrowing env.loadStore
  writes fun w => w.log .loaded
  reads fun w => w.store

/-- `this.store.save(state)`. -/
def saveState (state : TaskStore) : Runtime Unit := do
  fromExcept (validateTaskTransportStoreState state)
  callThrowing env.writeStore
  writes fun w => w.persist state

/-- `accountStorage.load()`, where an account is required. -/
def requireAccount : Runtime TetiId := do
  orThrow (← callThrowing env.account)
    (runtimeError "TASK_ACCOUNT_REQUIRED" "A local Teti account is required.")

def requireConfirmedConnection (requestId : String) : Runtime TetiConnectionRecord := do
  let connections ← callThrowing env.connections
  let missing := runtimeError "TASK_CONNECTION_REQUIRED" "A Confirmed Teti connection is required."
  let connection ← orThrow (connections.find? fun item => item.requestId == requestId) missing
  throwIf (connection.confirmed = false) missing
  return connection

def findConfirmedConnectionForPeer (tetiId : TetiId) : Runtime (Option TetiConnectionRecord) := do
  let connections ← callThrowing env.connections
  return connections.find? fun connection =>
    connection.confirmed && connection.remoteTetiId == tetiId

/-- Hand a message to the transport. -/
def send (connection : TetiConnectionRecord) (message : TaskMessage) : Runtime (String × Nat) := do
  let delivery ← call fun n => env.deliver n message
  if delivery.left then
    writes fun w => w.emit ⟨connection.remoteTetiId, message⟩
  fromExcept delivery.result

/-! ### What calls do -/

section Calls

variable {env} {P : World → Prop} {E : TaskError → World → Prop}

lemma call_triple {α : Type} {answer : Nat → α} (hP : ∀ w, P w → P w.tick) :
    Triple P (call answer) (fun _ => P) E := by
  refine Triple.bind (Triple.reads (Q := fun _ => P) fun _ hw => hw) fun n => ?_
  refine Triple.bind (Triple.writes (Q := fun _ => P) fun w hw => hP w hw) fun _ => ?_
  exact Triple.pure fun _ hw => hw

lemma callThrowing_triple {α : Type} {answer : Nat → Except TaskError α}
    (hP : ∀ w, P w → P w.tick) (hE : ∀ e w, P w → E e w) :
    Triple P (callThrowing answer) (fun _ => P) E := by
  refine Triple.bind (call_triple hP) fun result => ?_
  exact Triple.fromExcept (fun e _ w hw => hE e w hw) fun a _ w hw => hw

lemma currentTime_triple (hP : ∀ w, P w → P w.tick) :
    Triple P (currentTime env) (fun _ => P) E :=
  call_triple hP

lemma requireAccount_triple (hP : ∀ w, P w → P w.tick) (hE : ∀ e w, P w → E e w) :
    Triple P (requireAccount env) (fun _ => P) E := by
  refine Triple.bind (callThrowing_triple hP hE) fun account => ?_
  exact Triple.orThrow (fun _ w hw => hE _ w hw) fun _ _ _ hw => hw

/-- What is loaded is what is in the store file. -/
lemma loadState_triple (hP : ∀ w, P w → P w.tick) (hlog : ∀ w, P w → P (w.log .loaded))
    (hE : ∀ e w, P w → E e w) :
    Triple P (loadState env) (fun state w => P w ∧ w.store = state) E := by
  refine Triple.bind (callThrowing_triple hP hE) fun _ => ?_
  refine Triple.bind (Triple.writes (Q := fun _ => P) fun w hw => hlog w hw) fun _ => ?_
  exact Triple.reads fun w hw => ⟨hw, rfl⟩

/-- What is saved passes validation, and is in the store file. -/
lemma saveState_triple {state : TaskStore} (hP : ∀ w, P w → P w.tick) (hE : ∀ e w, P w → E e w) :
    Triple P (saveState env state)
      (fun _ w => validateTaskTransportStoreState state = .ok ()
        ∧ ∃ before, P before ∧ w = before.persist state) E := by
  refine Triple.bind_fromExcept (fun e _ w hw => hE e w hw) fun _ hvalid => ?_
  refine Triple.bind (callThrowing_triple hP hE) fun _ => ?_
  exact Triple.writes fun w hw => ⟨hvalid, w, hw, rfl⟩

end Calls

/-! ### The executor -/

/-- The bridge, where it is required. -/
def requireExecutor (error : TaskError) : Runtime TaskExecutionBridge :=
  orThrow env.executor error

/-- `executor?.cancel(taskId)`.  The kernel ends the execution in its own time;
nothing of it shows in the world yet. -/
def cancelExecution (_taskId : String) : Runtime Unit := call fun _ => ()

/-- Read or update the handle file. -/
def mutateHandles {α : Type} (executor : TaskExecutionBridge)
    (body : ExecutionHandleStoreState → Except TaskError (α × ExecutionHandleStoreState)) :
    Runtime α := do
  callThrowing executor.handleFile
  let state ← reads fun w => w.registry
  let (result, next) ← fromExcept (body state)
  fromExcept (validateExecutionHandleStoreState next)
  callThrowing executor.handleFile
  writes fun w => w.setRegistry next
  return result

/-- `executor.prepareExecution(input)`. -/
def prepareExecution (executor : TaskExecutionBridge) (input : PrepareExecutionHandleInput) :
    Runtime ExecutionHandle := do
  let connector ← call fun n => executor.connector n input.connectorId
  let unavailable : TaskError := ⟨.other, "EXECUTION_TARGET_INVALID",
    "Execution Handle target does not match a registered Connector."⟩
  let connector ← orThrow connector unavailable
  throwIf (connector.childAgentId ≠ input.childAgentId) unavailable
  let intact ← call executor.checkpointIntact
  let now ← currentTime env
  let outcome ← mutateHandles executor
    (prepareHandle input connector.executionCapabilities connector.executionSemantics intact now)
  let handle ← fromExcept outcome
  writes fun w => w.log (.prepared input.taskId)
  return handle

/-- `executor?.getExecutionHandle(taskId)`. -/
def getExecutionHandle (taskId : String) : Runtime (Option ExecutionHandle) :=
  match env.executor with
  | none => pure none
  | some executor => do
    callThrowing executor.handleFile
    reads fun w => w.registry.get taskId

/-- `executor?.reconcileExecutionHandles()`. -/
def reconcileExecutionHandles : Runtime Unit :=
  match env.executor with
  | none => pure ()
  | some executor => do
    let active ← call executor.activeTaskIds
    let now ← currentTime env
    mutateHandles executor fun state => .ok ((), reconcileHandles active now state)

/-- `executor?.getTask(taskId)`: the kernel knows the executions that were
handed to it. -/
def getTask (taskId : String) : Runtime (Option CallableAdapterTaskSnapshot) :=
  match env.executor with
  | none => pure none
  | some executor => do
    let known ← reads fun w => w.journal.any fun
      | .started execution => execution.executionTaskId == taskId
      | _ => false
    let task ← call fun n => executor.getTask n taskId
    return if known then task else none

/-- `executor.execute(execution, authority)`; its end is handed to
`finishExecution` later. -/
def execute (execution : TaskExecution) : Runtime Unit := writes fun w => w.launch execution

/-! ### The state of an operation -/

/-- The loaded state, with one of its records in focus. -/
structure RecordFocus where
  records : Focus TaskRecord
  peers : List TetiTaskPeerProtocolCapability

namespace RecordFocus

variable (focus : RecordFocus)

def current : TaskRecord := focus.records.current

def state : TaskStore := ⟨focus.records.toList, focus.peers⟩

/-- Replace the record. -/
def set (record : TaskRecord) : RecordFocus :=
  { focus with records := focus.records.set record }

/-- Edit the bookkeeping of the record. -/
def keep (f : TaskRecord → TaskRecord) : RecordFocus :=
  focus.set (f focus.current)

/-- Make a change of the record. -/
def change (c : Change) : Runtime RecordFocus :=
  match c.apply focus.current with
  | .error (error, _) => raise error
  | .ok record => do
    writes fun w => w.log (.changed focus.current c)
    return focus.set record

end RecordFocus

/-- Focus on the first record of a state with a property. -/
def focusRecord (state : TaskStore) (p : TaskRecord → Bool) : Option RecordFocus :=
  (focusFirst? p state.records).map fun records => ⟨records, state.peers⟩

/-- Focus on the record at an index. -/
def focusIndex (state : TaskStore) (index : Nat) : Option RecordFocus :=
  (focusAt? state.records index).map fun records => ⟨records, state.peers⟩

/-- `findTaskRecord`. -/
def findTaskRecord (state : TaskStore) (direction : TaskTransportDirection)
    (requesterTetiId : TetiId) (taskId : String) : Option RecordFocus :=
  focusRecord state fun record => record.key == ⟨direction, requesterTetiId, taskId⟩

/-- The state after a pass, and whether the pass changed it. -/
structure Pass where
  state : TaskStore
  changed : Bool

/-- Run a program on each record of a state in turn.  What the program does to
the records after the one in focus is seen when their turn comes. -/
def forEachRecord (f : RecordFocus → Runtime Pass) (state : TaskStore) : Runtime Pass :=
  foldM (fun pass index => match focusIndex pass.state index with
    | none => pure pass
    | some focus => do
      let next ← f focus
      return ⟨next.state, pass.changed || next.changed⟩) ⟨state, false⟩
    (List.range state.records.length)

section Passes

variable {f : RecordFocus → Runtime Pass} {g : TaskRecord → Except TaskError TaskRecord}

/-- A pass over the records after some that are done. -/
lemma forEachRecord_from
    (hf : ∀ focus w, match (f focus).exec w with
      | (.ok pass, _) => ∃ record, g focus.current = .ok record ∧ pass.state = (focus.set record).state
      | (.error error, _) => g focus.current = .error error)
    (peers : List TetiTaskPeerProtocolCapability) (rest done : List TaskRecord) (changed : Bool)
    (w : World) :
    match (foldM (fun (pass : Pass) index => match focusIndex pass.state index with
        | none => pure pass
        | some focus => do
          let next ← f focus
          return ⟨next.state, pass.changed || next.changed⟩)
        ⟨⟨done ++ rest, peers⟩, changed⟩ (List.range' done.length rest.length)).exec w with
    | (.ok pass, _) => ∃ records, List.Forall₂ (fun record next => g record = .ok next) rest records
        ∧ pass.state = ⟨done ++ records, peers⟩
    | (.error error, _) => ∃ record ∈ rest, g record = .error error := by
  induction rest generalizing done changed w with
  | nil => exact ⟨[], .nil, rfl⟩
  | cons record rest ih =>
    have hfocus : focusIndex ⟨done ++ record :: rest, peers⟩ done.length
        = some ⟨⟨done, record, rest⟩, peers⟩ := by
      rw [focusIndex, focusAt?_append]
      rfl
    rw [List.length_cons, List.range'_succ, foldM]
    simp only [hfocus, exec_bind]
    have hstep := hf ⟨⟨done, record, rest⟩, peers⟩ w
    rcases hrun : (f ⟨⟨done, record, rest⟩, peers⟩).exec w with ⟨error | pass, w'⟩
    · rw [hrun] at hstep
      exact ⟨record, by simp, hstep⟩
    · rw [hrun] at hstep
      obtain ⟨next, hnext, hstate⟩ := hstep
      have hdone : pass.state = ⟨(done ++ [next]) ++ rest, peers⟩ := by
        rw [hstate, RecordFocus.state, RecordFocus.set, Focus.toList]
        simp
      have hrest := ih (done ++ [next]) (changed || pass.changed) w'
      rw [List.length_append, List.length_singleton, ← hdone] at hrest
      simp only [exec_pure]
      generalize (foldM _ _ _).exec w' = outcome at hrest ⊢
      rcases outcome with ⟨error | last, w''⟩
      · obtain ⟨failed, hmem, hfailed⟩ := hrest
        exact ⟨failed, by simp [hmem], hfailed⟩
      · obtain ⟨records, hrecords, hlast⟩ := hrest
        exact ⟨next :: records, .cons hnext hrecords, by rw [hlast]; simp⟩

/-- **A pass over all records**: if the program does to each record what `g`
says, the pass does it to all of them, or throws what `g` throws for one. -/
theorem forEachRecord_spec
    (hf : ∀ focus w, match (f focus).exec w with
      | (.ok pass, _) => ∃ record, g focus.current = .ok record ∧ pass.state = (focus.set record).state
      | (.error error, _) => g focus.current = .error error)
    (state : TaskStore) (w : World) :
    match (forEachRecord f state).exec w with
    | (.ok pass, _) => ∃ records,
        List.Forall₂ (fun record next => g record = .ok next) state.records records
          ∧ pass.state = ⟨records, state.peers⟩
    | (.error error, _) => ∃ record ∈ state.records, g record = .error error := by
  have := forEachRecord_from hf state.peers state.records [] false w
  simpa [forEachRecord, List.range_eq_range'] using this

end Passes

/-- The same record in a state of the same length. -/
def RecordFocus.refocus (focus : RecordFocus) (state : TaskStore) : RecordFocus :=
  (focusIndex state focus.records.before.length).getD focus

/-- Save the state in focus. -/
def saveFocus (focus : RecordFocus) : Runtime Unit := saveState env focus.state

end TetiBot

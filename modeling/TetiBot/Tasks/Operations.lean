import TetiBot.Tasks.Owner

/-
The operations of the task service.

* `initializeReadModel` and `flushOutbox` of `runtime/tasks/service.ts`;
* what `runtime/connections.ts` does with a message: hand it to the service,
  and send the receipt that the service returns;
* `Operation`: everything that the serial queue of the service can run, with
  the steps of the kernel on the handle file, and a restart of the process.
-/

namespace TetiBot

open Library Library.Program

variable (env : Environment) (sha256 : Sha256)

/-! ### Passes over the store -/

variable (focus : RecordFocus)

/-- `migrateLegacyLongHorizonAttention`, for one record. -/
def migrateAttention : Runtime Pass := do
  if focus.current.isLongHorizon = false ∨ focus.current.attentionRevision.isSome then
    return ⟨focus.state, false⟩
  else
    let focus := focus.keep fun record => { record with
      attentionRevision := some
        (if record.viewedStageResultIndex < latestAvailableLongHorizonStageResultIndex record then 1
          else 0)
      viewedAttentionRevision := 0 }
    return ⟨focus.state, true⟩

def migrateLegacyLongHorizonAttention (state : TaskStore) : Runtime Pass :=
  forEachRecord migrateAttention state

/-- `initializeReadModel`.  The memory store is initialized without effect on
the records. -/
def initializeReadModel : Runtime Unit := do
  let state ← loadState env
  let migrated ← migrateLegacyLongHorizonAttention state
  let reconciled ← reconcileInterruptedExecutions env sha256 false migrated.state
  let targets ← refreshLongHorizonTargets env reconciled.state
  let ready ← refreshAttachmentReadiness env targets.state
  let expired ← expireDueRecords (← currentTime env) ready.state
  if migrated.changed || reconciled.changed || targets.changed || ready.changed
      || expired.changed then
    saveState env expired.state

/-- A request that was not sent is sent. -/
def flushRequest : Runtime RecordFocus := do
  if focus.current.direction = .outgoing
      ∧ (focus.current.delivery = .queued ∨ focus.current.delivery = .sendFailed) then
    trySendStoredRecord env focus
  else return focus

/-- The input images of a request that was sent. -/
def flushInputAttachments : Runtime RecordFocus := do
  if focus.current.direction = .outgoing ∧ 4 ≤ focus.current.protocolVersion then
    trySendInputAttachments env focus
  else return focus

/-- The receipt that a record owes. -/
def pendingReceipt (record : TaskRecord) : Option TetiTaskReceiptPayload :=
  if record.direction = .incoming ∧ record.receiptPending then record.receipt else none

/-- The receipt of a request is sent; what throws is caught.  Without a
connection the pass goes on with the next record. -/
def flushReceipt : Runtime (Bool × RecordFocus) := do
  match pendingReceipt focus.current with
  | none => return (true, focus)
  | some receipt => do
    match ← attempt (findConfirmedConnectionForPeer env focus.current.peerTetiId) with
    | .error _ => return (true, focus)
    | .ok none => return (false, focus)
    | .ok (some connection) => do
      let outcome ← sendAndNote env (send env connection (.receipt receipt))
        (fun _ focus => do
          let now ← currentTime env
          return focus.keep fun record =>
            { record with receiptPending := false, updatedAt := now })
        focus
      return (true, outcome.2)

/-- Send the application receipts one after the other, until one throws. -/
def flushApplicationReceipt (connection : TetiConnectionRecord) (pass : Bool × RecordFocus)
    (receipt : TetiTaskApplicationReceiptPayload) : Runtime (Bool × RecordFocus) := do
  if pass.1 then
    let outcome ← sendAndNote env (send env connection (.applicationReceipt receipt))
      (fun _ focus => pure (focus.keep fun record => removeApplicationReceipt record receipt))
      pass.2
    return (outcome.1.toBool, outcome.2)
  else return pass

/-- The application receipts that a record owes.  The connections are read
outside of `try`. -/
def flushApplicationReceipts : Runtime RecordFocus := do
  if focus.current.applicationReceiptOutbox = [] then
    return focus
  match ← findConfirmedConnectionForPeer env focus.current.peerTetiId with
  | none => return focus
  | some connection => do
    let pass ← foldM (flushApplicationReceipt env connection) (true, focus)
      focus.current.applicationReceiptOutbox
    return pass.2

/-- What a record has to deliver. -/
def flushRecord : Runtime Pass := do
  let focus ← flushRequest env focus
  let focus ← flushInputAttachments env focus
  let (connected, focus) ← flushReceipt env focus
  if connected then
    let focus ← flushApplicationReceipts env focus
    let focus ← trySendPendingForRecord env focus
    return ⟨focus.state, true⟩
  else return ⟨focus.state, true⟩

/-- `flushOutbox`.  The cleanups of the attachment and workspace stores, whose
throws are caught, do not touch the records. -/
def flushOutbox : Runtime Unit := do
  let state ← loadState env
  let reconciled ← reconcileInterruptedExecutions env sha256 true state
  let expired ← expireDueRecords (← currentTime env) reconciled.state
  let flushed ← forEachRecord (flushRecord env) expired.state
  let ready ← refreshAttachmentReadiness env flushed.state
  saveState env ready.state

/-! ### Messages and their receipts -/

/-- A request, whose receipt is sent if it can be. -/
def handleRequest (message : InboundRequest) : Runtime Unit := do
  let receipt ← receiveRequest env message
  let _ ← attempt do
    let _ ← send env message.connection (.receipt receipt)
    markReceiptSent env receipt.taskId receipt.requesterTetiId

/-- A message whose application receipt is sent if it can be. -/
def handleApplicationMessage {α : Type} (message : Inbound α)
    (receive : Inbound α → Runtime TetiTaskApplicationReceiptPayload) : Runtime Unit := do
  let receipt ← receive message
  let _ ← attempt do
    let _ ← send env message.connection (.applicationReceipt receipt)
    markApplicationReceiptSent env receipt

/-- An image, which is acknowledged only by its receipt. -/
def handleAttachment (message : Inbound TetiTaskAttachmentPayload) : Runtime Unit := do
  match ← receiveAttachment env message with
  | none => return
  | some receipt => do
    let _ ← send env message.connection (.attachmentReceipt receipt)

/-- The document of an artifact, which is acknowledged only by its receipt. -/
def handleArtifactFile (message : Inbound TetiTaskArtifactFilePayload) : Runtime Unit := do
  let receipt ← receiveArtifactFile env message
  let _ ← send env message.connection (.artifactReceipt receipt)

/-! ### Operations -/

/-- A step of the kernel on the handle of an execution. -/
inductive HandleStep
  | running (providerExecutionId : Option String)
  | renewed
  | captured (destination digest : String)
  | finished (state : ExecutionEnd) (message : Option String)
  | canceled

/-- The update of the handle file that a step of the kernel makes. -/
def HandleStep.update (taskId : String) (executionEpoch : Nat) (now : Timestamp) :
    HandleStep → ExecutionHandleStoreState → Bool × ExecutionHandleStoreState
  | .running providerExecutionId => markRunning taskId executionEpoch providerExecutionId now
  | .renewed => renewHandle taskId executionEpoch now
  | .captured destination digest => captureCheckpoint taskId executionEpoch destination digest
  | .finished state message => finishHandle taskId executionEpoch state message now
  | .canceled => cancelHandle taskId (some executionEpoch) now

/-- The kernel updates the handle of an execution. -/
def stepHandle (taskId : String) (executionEpoch : Nat) (step : HandleStep) : Runtime Unit :=
  match env.executor with
  | none => pure ()
  | some executor => do
    let now ← currentTime env
    let _ ← mutateHandles executor fun state => .ok (step.update taskId executionEpoch now state)

/-- An execution in flight ends. -/
def endExecution (index : Nat) (result : Option CallableAdapterTaskSnapshot) : Runtime Unit := do
  let executions ← reads fun w => w.executions
  match executions[index]? with
  | none => return
  | some execution => do
    writes fun w => { w with executions := w.executions.eraseIdx index }
    finishExecution env sha256 execution result

inductive Operation
  | readModel
  | flush
  | send (input : SendCollaborationTaskInput)
  | approve (taskId : String)
  | approveDelegation (taskId : String) (selections : List DelegationTargetSelection)
  | reject (taskId : String)
  | cancel (taskId : String)
  | submitInput (taskId : String) (instruction : JsString)
  | pause (taskId : String)
  | continue (taskId : String) (childAgentId : Option String)
  | complete (taskId : String)
  | renew (taskId : String) (ttlMs : Int)
  | resume (taskId : String)
  | markViewed (taskId : String)
  | observeVersions (tetiId : TetiId) (versions : List Nat) (observedAt : Option Timestamp)
  | request (message : InboundRequest)
  | receipt (message : Inbound TetiTaskReceiptPayload)
  | attachment (message : Inbound TetiTaskAttachmentPayload)
  | attachmentReceipt (message : Inbound TetiTaskAttachmentReceiptPayload)
  | status (message : Inbound TetiTaskStatusPayload)
  | applicationReceipt (message : Inbound TetiTaskApplicationReceiptPayload)
  | artifact (message : Inbound TetiTaskArtifactPayload)
  | artifactFile (message : Inbound TetiTaskArtifactFilePayload)
  | artifactReceipt (message : Inbound TetiTaskArtifactReceiptPayload)
  | cancellation (message : Inbound TetiTaskCancelPayload)
  | input (message : Inbound TetiTaskInputPayload)
  | executionEnded (index : Nat) (result : Option CallableAdapterTaskSnapshot)
  | handle (taskId : String) (executionEpoch : Nat) (step : HandleStep)
  /-- The process ends and starts again: the executions in flight are lost. -/
  | restart

/-- The program of an operation. -/
def serve : Operation → Runtime Unit
  | .readModel => initializeReadModel env sha256
  | .flush => flushOutbox env sha256
  | .send input => sendTask env input
  | .approve taskId => approveTask env sha256 taskId
  | .approveDelegation taskId selections => approveDelegation env sha256 taskId selections
  | .reject taskId => rejectCommand env taskId
  | .cancel taskId => cancelCommand env taskId
  | .submitInput taskId instruction => submitLongHorizonInput env taskId instruction
  | .pause taskId => pauseLongHorizon env taskId
  | .continue taskId childAgentId => continueLongHorizon env sha256 taskId childAgentId
  | .complete taskId => completeLongHorizon env taskId
  | .renew taskId ttlMs => renewLongHorizon env taskId ttlMs
  | .resume taskId => resumeCommand env sha256 taskId
  | .markViewed taskId => do
    let _ ← markAttentionViewed env taskId
  | .observeVersions tetiId versions observedAt => observePeerVersions env tetiId versions observedAt
  | .request message => handleRequest env message
  | .receipt message => receiveReceipt env message
  | .attachment message => handleAttachment env message
  | .attachmentReceipt message => receiveAttachmentReceipt env message
  | .status message => handleApplicationMessage env message (receiveStatus env)
  | .applicationReceipt message => receiveApplicationReceipt env message
  | .artifact message => receiveArtifact env message
  | .artifactFile message => handleArtifactFile env message
  | .artifactReceipt message => receiveArtifactReceipt env sha256 message
  | .cancellation message => handleApplicationMessage env message (receiveCancel env)
  | .input message => handleApplicationMessage env message (receiveLongHorizonInput env sha256)
  | .executionEnded index result => endExecution env sha256 index result
  | .handle taskId executionEpoch step => stepHandle env taskId executionEpoch step
  | .restart => writes fun w => { w with executions := [] }

end TetiBot

import TetiBot.Tasks.Upkeep

/-
The operations that receive a message about a task (`receiveRequest`,
`receiveReceipt`, `receiveAttachment`, `receiveStatus`, ... of
`runtime/tasks/service.ts`).

The payload of a message was validated when its envelope was decoded.  Each
operation checks that the sender is the party of the task that may send such a
message, edits the record, and saves.
-/

namespace TetiBot

open Library Library.Program

variable (env : Environment) (sha256 : Sha256)

/-! ### Requests -/

/-- A request as it arrives. -/
structure InboundRequest extends Inbound CollaborationTaskRequest where
  messageId : String
  chatmailMessageId : Option Nat

/-- How a request that is not known yet is to be stored. -/
def classifyRequest (request : CollaborationTaskRequest) : Runtime IncomingDelivery := do
  if request.schemaVersion ∉ TETI_SUPPORTED_TASK_PROTOCOL_VERSIONS then
    return .rejected
  let now ← currentTime env
  if now + MAX_TASK_CLOCK_SKEW_MS < request.createdAt then
    return .rejected
  let now ← currentTime env
  if request.expiresAt ≤ now then
    return .expired
  return .received

/-- What the receipt of a request says that was stored. -/
def IncomingDelivery.status : IncomingDelivery → TetiTaskReceiptStatus
  | .received => .received
  | .expired => .expired
  | .rejected => .rejected

variable (record : TaskRecord)

/-- Add a record to a state. -/
def storeRecord (state : TaskStore) : Runtime TaskStore := do
  writes fun w => w.log (.admitted record)
  return { state with records := state.records ++ [record] }

/-- A request that is not known yet is stored, if there is room. -/
def admitRequest (message : InboundRequest) (receivedAt : Timestamp) (state : TaskStore) :
    Runtime (TetiTaskReceiptStatus × TaskStore) := do
  let delivery ← classifyRequest env message.payload
  match ensureCapacity state (← currentTime env) with
  | none => return (if delivery = .received then .rejected else delivery.status, state)
  | some room => do
    let record ← fromExcept (incomingRecord message.payload message.remoteTetiId message.messageId
      message.chatmailMessageId receivedAt delivery)
    let state ← storeRecord record room
    return (delivery.status, state)

/-- The receipt of a request is owed, unless it tells of a conflict. -/
def oweReceipt (receipt : TetiTaskReceiptPayload) (state : TaskStore) : TaskStore :=
  match findTaskRecord state .incoming receipt.requesterTetiId receipt.taskId with
  | none => state
  | some focus =>
    if receipt.status = .conflict then state
    else (focus.keep fun record => { record with
      receipt := some receipt, receiptPending := true, updatedAt := receipt.receivedAt }).state

def receiveRequest (message : InboundRequest) : Runtime TetiTaskReceiptPayload := do
  let localTetiId ← requireAccount env
  let request := message.payload
  fromExcept (validateCollaborationTaskRequest request)
  requireInboundTaskIdentity message.toInbound localTetiId request.requesterTetiId
    request.targetTetiId
  let receivedAt := validTimestampOrNow message.receivedAt (← currentTime env)
  let state ← loadState env
  let expired ← expireDueRecords (← currentTime env) state
  let state := rememberPeerVersions expired.state request.requesterTetiId [request.schemaVersion]
    receivedAt true
  let (status, state) ←
    match findTaskRecord state .incoming request.requesterTetiId request.taskId with
    | some focus =>
      pure (if canonicalTaskRequestJson focus.current.request = canonicalTaskRequestJson request
        then .duplicate else .conflict, state)
    | none => admitRequest env message receivedAt state
  let receipt := createReceipt request localTetiId status receivedAt
  saveState env (oweReceipt receipt state)
  return receipt

/-! ### Receipts of requests -/

/-- A receipt is applied, and the change noted. -/
def takeReceipt (receipt : TetiTaskReceiptPayload) (observedAt : Timestamp)
    (focus : RecordFocus) : Runtime RecordFocus := do
  let previous := taskAttentionSnapshot focus.current
  let focus ← focus.change (.receiptApplied receipt observedAt)
  return focus.keep fun record =>
    match recoverApplicationDeliveryFailure record (.request record.request.taskId) observedAt with
    | some recovered => recovered
    | none => markTaskAttentionIfChanged record previous

def receiveReceipt (message : Inbound TetiTaskReceiptPayload) : Runtime Unit := do
  let localTetiId ← requireAccount env
  let receipt := message.payload
  requireOutboundTaskIdentity message localTetiId receipt.requesterTetiId receipt.targetTetiId
  let state ← loadState env
  let observedAt := validTimestampOrNow message.receivedAt (← currentTime env)
  throwIf ((← currentTime env) + MAX_TASK_CLOCK_SKEW_MS < receipt.receivedAt)
    (runtimeError "TASK_CLOCK_SKEW" "Task receipt timestamp is too far in the future.")
  let state := rememberPeerVersions state receipt.targetTetiId receipt.supportedTaskVersions
    observedAt false
  let found := focusRecord state fun record =>
    record.key == ⟨.outgoing, receipt.requesterTetiId, receipt.taskId⟩
      && record.request.targetTetiId == receipt.targetTetiId
  match found with
  | some focus =>
    if shouldApplyReceipt focus.current receipt then
      let focus ← takeReceipt receipt observedAt focus
      saveFocus env focus
    else saveState env state
  | none => saveState env state

/-! ### Attachments -/

def createAttachmentReceipt (payload : TetiTaskAttachmentPayload) (receivedAt : Timestamp) :
    TetiTaskAttachmentReceiptPayload :=
  ⟨payload.taskId, payload.requesterTetiId, payload.targetTetiId, payload.purpose,
    payload.artifactId, payload.part.attachmentId, receivedAt⟩

/-- The receipt of an attachment, where one is asked for. -/
def attachmentReceipt (payload : TetiTaskAttachmentPayload) (receivedAt : Timestamp) :
    Option TetiTaskAttachmentReceiptPayload :=
  if payload.deliveryReceiptRequested then some (createAttachmentReceipt payload receivedAt)
  else none

/-- The image is the one that is declared under its identifier. -/
def requireDeclaredImage (images : List TaskImagePart) (part : TaskImagePart) (message : String) :
    Runtime Unit :=
  throwIf ((images.find? fun image => image.attachmentId == part.attachmentId) ≠ some part)
    (runtimeError "TASK_ATTACHMENT_CONFLICT" message)

/-- The states of a requester's record that takes no more results. -/
def refusesResults (state : CollaborationTaskState) : Bool :=
  state == .failed || state == .canceled || state == .rejected

/-- An image of an artifact arrives. -/
def receiveArtifactAttachment (attachments : TaskAttachmentStore)
    (payload : TetiTaskAttachmentPayload) (receivedAt : Timestamp) (focus : RecordFocus) :
    Runtime (Option TetiTaskAttachmentReceiptPayload) := do
  if focus.current.protocolVersion < 3 ∨ refusesResults focus.current.state then
    return none
  let artifact := focus.current.artifacts.find? fun candidate =>
    some candidate.artifactId == payload.artifactId
  if let some artifact := artifact then
    requireDeclaredImage (taskArtifactImages artifact) payload.part
      "Task Artifact attachment does not match its immutable manifest."
  callThrowing fun n => attachments.ingestImage n payload.part
  let focus := focus.keep fun record =>
    markAttachmentStored record .artifact payload.part receivedAt
  let focus ←
    if artifact.isSome then updateArtifactAttachmentsReady env focus
    else pure focus
  let focus := focus.keep fun record => { record with updatedAt := receivedAt }
  saveFocus env focus
  return attachmentReceipt payload receivedAt

/-- An image of a request arrives that is already known. -/
def receiveInputAttachment (attachments : TaskAttachmentStore)
    (payload : TetiTaskAttachmentPayload) (receivedAt : Timestamp) (focus : RecordFocus) :
    Runtime (Option TetiTaskAttachmentReceiptPayload) := do
  requireDeclaredImage (taskInputImages focus.current.request.input) payload.part
    "Task attachment does not match the immutable request."
  if isTerminalTaskState focus.current.state then
    let stored ← callThrowing fun n => attachments.resolveImage n payload.part
    return if stored.isSome then attachmentReceipt payload receivedAt else none
  callThrowing fun n => attachments.ingestImage n payload.part
  let focus ← updateAttachmentsReady env
    (focus.keep fun record => markAttachmentStored record .input payload.part receivedAt)
  let focus := focus.keep fun record => { record with updatedAt := receivedAt }
  saveFocus env focus
  return attachmentReceipt payload receivedAt

def receiveAttachment (message : Inbound TetiTaskAttachmentPayload) :
    Runtime (Option TetiTaskAttachmentReceiptPayload) := do
  let attachments ← orThrow env.attachmentStore
    (runtimeError "TASK_ATTACHMENTS_UNAVAILABLE" "Task image attachments are unavailable.")
  let localTetiId ← requireAccount env
  let payload := message.payload
  if payload.expiresAt ≤ (← currentTime env) then
    return none
  let state ← loadState env
  let receivedAt := validTimestampOrNow message.receivedAt (← currentTime env)
  match payload.purpose with
  | .artifact => do
    requireOutboundTaskIdentity message localTetiId payload.requesterTetiId payload.targetTetiId
    let focus ← orThrow (findTaskRecord state .outgoing localTetiId payload.taskId)
      (runtimeError "TASK_DEPENDENCY_PENDING"
        "Task Artifact attachment is waiting for its local Task record.")
    receiveArtifactAttachment env attachments payload receivedAt focus
  | .input => do
    requireInboundTaskIdentity message localTetiId payload.requesterTetiId payload.targetTetiId
    match findTaskRecord state .incoming payload.requesterTetiId payload.taskId with
    | some focus => receiveInputAttachment env attachments payload receivedAt focus
    | none => do
      callThrowing fun n => attachments.ingestImage n payload.part
      return attachmentReceipt payload receivedAt

/-- What the receipt of an input image changes. -/
def acknowledgeInputAttachment (receipt : TetiTaskAttachmentReceiptPayload) : TaskRecord :=
  markAttachmentAcknowledged
    { record with
      acknowledgedAttachmentIds :=
        appendUnique record.acknowledgedAttachmentIds receipt.attachmentId
      attachmentDeliveryAttempts :=
        removeDeliveryAttempt record.attachmentDeliveryAttempts receipt.attachmentId }
    .input receipt.attachmentId receipt.receivedAt

/-- What the receipt of an image of an artifact changes. -/
def acknowledgeArtifactAttachment (receipt : TetiTaskAttachmentReceiptPayload) : TaskRecord :=
  markAttachmentAcknowledged
    { record with
      acknowledgedArtifactAttachmentIds :=
        appendUnique record.acknowledgedArtifactAttachmentIds receipt.attachmentId
      artifactAttachmentDeliveryAttempts :=
        removeDeliveryAttempt record.artifactAttachmentDeliveryAttempts receipt.attachmentId }
    .artifact receipt.attachmentId receipt.receivedAt

def declaresImage (images : List TaskImagePart) (attachmentId : String) : Bool :=
  images.any fun part => part.attachmentId == attachmentId

def receiveAttachmentReceipt (message : Inbound TetiTaskAttachmentReceiptPayload) :
    Runtime Unit := do
  let localTetiId ← requireAccount env
  let receipt := message.payload
  let state ← loadState env
  let found := match receipt.purpose with
    | .input => findTaskRecord state .outgoing localTetiId receipt.taskId
    | .artifact => findTaskRecord state .incoming receipt.requesterTetiId receipt.taskId
  match found with
  | none => return
  | some focus => do
    if focus.current.protocolVersion < 4 then
      return
    let focus ← match receipt.purpose with
      | .input => do
        throwIf (message.fromTetiId ≠ receipt.targetTetiId
            ∨ message.remoteTetiId ≠ receipt.targetTetiId
            ∨ receipt.requesterTetiId ≠ localTetiId
            ∨ focus.current.request.targetTetiId ≠ receipt.targetTetiId
            ∨ declaresImage (taskInputImages focus.current.request.input) receipt.attachmentId
              = false)
          (runtimeError "TASK_IDENTITY_MISMATCH" "Task attachment receipt binding is invalid.")
        pure (focus.keep fun record => acknowledgeInputAttachment record receipt)
      | .artifact => do
        let artifact := focus.current.artifacts.find? fun item =>
          some item.artifactId == receipt.artifactId
        throwIf (message.fromTetiId ≠ receipt.requesterTetiId
            ∨ message.remoteTetiId ≠ receipt.requesterTetiId
            ∨ receipt.targetTetiId ≠ localTetiId
            ∨ focus.current.request.requesterTetiId ≠ receipt.requesterTetiId
            ∨ (artifact.any fun item =>
              declaresImage (taskArtifactImages item) receipt.attachmentId) = false)
          (runtimeError "TASK_IDENTITY_MISMATCH" "Task Artifact receipt binding is invalid.")
        pure (focus.keep fun record => acknowledgeArtifactAttachment record receipt)
    let updatedAt := validTimestampOrNow message.receivedAt (← currentTime env)
    saveFocus env (focus.keep fun record => { record with updatedAt := updatedAt })

/-! ### Statuses and application receipts -/

/-- The mode of a payload is that of the request. -/
def modeMatches (schemaVersion : Nat) : Bool :=
  schemaVersion == if record.isLongHorizon then 2 else 1

/-- A status is applied if it is newer and allowed; either way its receipt is
owed. -/
def takeStatus (payload : TetiTaskStatusPayload) (receivedAt : Timestamp) (focus : RecordFocus) :
    Runtime RecordFocus := do
  let receipt := createApplicationReceipt payload.taskId payload.requesterTetiId
    payload.targetTetiId (.status payload.revision) receivedAt
  let focus ←
    if payload.revision ≤ focus.current.statusRevision
        ∨ isRemoteTransitionAllowed focus.current.state payload.state = false then pure focus
    else focus.change (.statusReceived payload receivedAt)
  return focus.keep fun record => enqueueApplicationReceipt record receipt

def receiveStatus (message : Inbound TetiTaskStatusPayload) :
    Runtime TetiTaskApplicationReceiptPayload := do
  let localTetiId ← requireAccount env
  let payload := message.payload
  requireOutboundTaskIdentity message localTetiId payload.requesterTetiId payload.targetTetiId
  let state ← loadState env
  let focus ← orThrow (findTaskRecord state .outgoing localTetiId payload.taskId)
    (runtimeError "TASK_DEPENDENCY_PENDING" "Task status is waiting for its local Task record.")
  throwIf (modeMatches focus.current payload.schemaVersion = false)
    (runtimeError "TASK_STATUS_MODE_CONFLICT" "Task status mode does not match its request.")
  let receivedAt := validTimestampOrNow message.receivedAt (← currentTime env)
  let focus ← takeStatus payload receivedAt focus
  saveFocus env focus
  return createApplicationReceipt payload.taskId payload.requesterTetiId payload.targetTetiId
    (.status payload.revision) receivedAt

/-- The receipt of an application message is applied. -/
def takeApplicationReceipt (reference : TaskApplicationReference) (observedAt : Timestamp)
    (focus : RecordFocus) : Runtime RecordFocus := do
  let focus := focus.keep fun record => removeApplicationDeliveryAttempt record reference
  let focus ← match reference with
    | .status revision => focus.change (.statusAcknowledged revision)
    | .input _ =>
      pure (focus.keep fun record => { record with inputAcknowledgedAt := some observedAt })
    | .control _ =>
      pure (focus.keep fun record => { record with cancelAcknowledgedAt := some observedAt })
  return focus.keep fun record =>
    { (recoverApplicationDeliveryFailure record (.application reference) observedAt).getD record with
      updatedAt := observedAt }

def receiveApplicationReceipt (message : Inbound TetiTaskApplicationReceiptPayload) :
    Runtime Unit := do
  let localTetiId ← requireAccount env
  let receipt := message.payload
  match receipt.reference.kind with
  | .status =>
    requireInboundTaskIdentity message localTetiId receipt.requesterTetiId receipt.targetTetiId
  | _ =>
    requireOutboundTaskIdentity message localTetiId receipt.requesterTetiId receipt.targetTetiId
  let state ← loadState env
  match findTaskRecord state (applicationOwner receipt.reference.kind) receipt.requesterTetiId
      receipt.taskId with
  | none => return
  | some focus => do
    if hasApplicationDeliveryReference focus.current receipt.reference = false then
      return
    let observedAt := validTimestampOrNow message.receivedAt (← currentTime env)
    let focus ← takeApplicationReceipt receipt.reference observedAt focus
    saveFocus env focus

def markApplicationReceiptSent (receipt : TetiTaskApplicationReceiptPayload) : Runtime Unit := do
  let state ← loadState env
  match findTaskRecord state (receiptOwner receipt.reference.kind) receipt.requesterTetiId
      receipt.taskId with
  | none => return
  | some focus =>
    saveFocus env (focus.keep fun record => removeApplicationReceipt record receipt)

/-! ### Artifacts -/

/-- The stage label that an artifact arrives with. -/
def artifactEntry (schemaVersion : Nat) (artifactId : String) (stageIndex : Option Nat)
    (role : Option ArtifactRole) (createdAt : Timestamp) : Option LongHorizonArtifactEntry :=
  match stageIndex, role with
  | some stageIndex, some role =>
    if schemaVersion = 2 then some ⟨artifactId, stageIndex, role, createdAt⟩ else none
  | _, _ => none

variable (artifact : CollaborationTaskArtifact)

/-- The artifact does not contradict what the record has. -/
def requireConsistentArtifact : Runtime Unit := do
  let known := record.artifacts.find? fun item => item.artifactId == artifact.artifactId
  throwIf (known.any fun item => item != artifact)
    (runtimeError "TASK_ARTIFACT_CONFLICT" "Task Artifact conflicts with the stored result.")
  throwIf (known = none ∧ record.isLongHorizon = false ∧ record.artifacts ≠ [])
    (runtimeError "TASK_ARTIFACT_CONFLICT"
      "A single-stage Task cannot publish more than one result Artifact.")

/-- The stage label does not contradict what the record has. -/
def requireConsistentEntry (entry : Option LongHorizonArtifactEntry) : Runtime Unit :=
  let known := entry.bind fun entry =>
    record.peerArtifactMetadata.find? fun item => item.artifactId == entry.artifactId
  throwIf (known.any fun item => some item != entry)
    (runtimeError "TASK_ARTIFACT_CONFLICT"
      "Task Artifact stage metadata conflicts with the stored result.")

/-- An artifact joins the record, which may be completed by it, and the record
is saved. -/
def takeArtifact (entry : Option LongHorizonArtifactEntry)
    (stageIndex : Option Nat) (arrivedAt : Option Timestamp) (focus : RecordFocus) :
    Runtime Timestamp := do
  requireConsistentArtifact focus.current artifact
  requireConsistentEntry focus.current entry
  let added := !focus.current.artifacts.any fun item => item.artifactId == artifact.artifactId
  let focus ← focus.change (.artifactReceived artifact entry)
  let focus ← updateArtifactAttachmentsReady env focus
  let receivedAt := validTimestampOrNow arrivedAt (← currentTime env)
  let completes :=
    (completeOutgoingSingleStageFromVerifiedArtifact focus.current receivedAt).isSome
  let focus ←
    if completes then focus.change (.completedFromArtifact receivedAt)
    else if added then pure (focus.keep fun record => markTaskAttention record
      { kind := .stageCompleted, stageIndex := stageIndex, occurredAt := some receivedAt })
    else pure focus
  saveFocus env (focus.keep fun record => { record with updatedAt := receivedAt })
  return receivedAt

def receiveArtifact (message : Inbound TetiTaskArtifactPayload) : Runtime Unit := do
  let localTetiId ← requireAccount env
  let payload := message.payload
  requireOutboundTaskIdentity message localTetiId payload.requesterTetiId payload.targetTetiId
  fromExcept (validateTaskArtifact payload.artifact)
  let state ← loadState env
  match findTaskRecord state .outgoing localTetiId payload.taskId with
  | none => do
    if DEFAULT_TASK_REQUEST_TTL_MS < (← currentTime env) - payload.createdAt then
      return
    raise (runtimeError "TASK_DEPENDENCY_PENDING"
      "Task Artifact is waiting for its local Task record.")
  | some focus => do
    if refusesResults focus.current.state then
      return
    throwIf (modeMatches focus.current payload.schemaVersion = false)
      (runtimeError "TASK_ARTIFACT_MODE_CONFLICT" "Task Artifact mode does not match its request.")
    throwIf (taskArtifactImages payload.artifact ≠ [] ∧ focus.current.protocolVersion < 3)
      (runtimeError "TASK_ARTIFACT_UNSUPPORTED" "Peer sent image output without Task v3.")
    let entry := artifactEntry payload.schemaVersion payload.artifact.artifactId payload.stageIndex
      payload.role payload.createdAt
    let _ ← takeArtifact env payload.artifact entry payload.stageIndex message.receivedAt focus

def receiveArtifactFile (message : Inbound TetiTaskArtifactFilePayload) :
    Runtime TetiTaskArtifactReceiptPayload := do
  let localTetiId ← requireAccount env
  let attachments ← orThrow env.attachmentStore
    (runtimeError "TASK_ATTACHMENTS_UNAVAILABLE" "Task Artifact files are unavailable.")
  let payload := message.payload
  requireOutboundTaskIdentity message localTetiId payload.requesterTetiId payload.targetTetiId
  let state ← loadState env
  match findTaskRecord state .outgoing localTetiId payload.taskId with
  | none => do
    throwIf (payload.expiresAt ≤ (← currentTime env))
      (runtimeError "TASK_ARTIFACT_EXPIRED" "Task Artifact file has expired.")
    raise (runtimeError "TASK_DEPENDENCY_PENDING"
      "Task Artifact file is waiting for its local Task record.")
  | some focus => do
    throwIf (focus.current.protocolVersion < 7)
      (runtimeError "TASK_ARTIFACT_UNSUPPORTED" "Task Artifact files require Task v7.")
    let artifact ← callThrowing fun n => attachments.readArtifactDocument n payload
    -- unlike `receiveArtifact`, neither the state nor the mode of the record is looked at
    let entry := artifactEntry payload.schemaVersion payload.artifactId payload.stageIndex
      payload.role payload.createdAt
    let receivedAt ← takeArtifact env artifact entry payload.stageIndex message.receivedAt focus
    return ⟨payload.taskId, payload.requesterTetiId, payload.targetTetiId, payload.artifactId,
      payload.sha256, receivedAt⟩

def artifactDigest : String :=
  digest sha256 artifact.json.stringify

def receiveArtifactReceipt (message : Inbound TetiTaskArtifactReceiptPayload) : Runtime Unit := do
  let localTetiId ← requireAccount env
  let receipt := message.payload
  requireInboundTaskIdentity message localTetiId receipt.requesterTetiId receipt.targetTetiId
  let state ← loadState env
  match findTaskRecord state .incoming receipt.requesterTetiId receipt.taskId with
  | none => return
  | some focus => do
    if focus.current.protocolVersion < 7 then
      return
    let artifact := focus.current.artifacts.find? fun item => item.artifactId == receipt.artifactId
    throwIf (artifact.map (artifactDigest sha256) ≠ some receipt.sha256)
      (runtimeError "TASK_ARTIFACT_RECEIPT_MISMATCH" "Task Artifact receipt is invalid.")
    let focus := focus.keep fun record =>
      let acknowledged := appendUnique record.acknowledgedArtifactIds receipt.artifactId
      { record with
        acknowledgedArtifactIds := acknowledged
        artifactDeliveryAttempts :=
          removeDeliveryAttempt record.artifactDeliveryAttempts receipt.artifactId
        artifactPending :=
          record.artifacts.any fun item => !acknowledged.contains item.artifactId }
    let updatedAt := validTimestampOrNow message.receivedAt (← currentTime env)
    saveFocus env (focus.keep fun record => { record with updatedAt := updatedAt })

/-! ### Cancellation and input -/

def receiveCancel (message : Inbound TetiTaskCancelPayload) :
    Runtime TetiTaskApplicationReceiptPayload := do
  let localTetiId ← requireAccount env
  let payload := message.payload
  requireInboundTaskIdentity message localTetiId payload.requesterTetiId payload.targetTetiId
  let state ← loadState env
  let focus ← orThrow (findTaskRecord state .incoming payload.requesterTetiId payload.taskId)
    (runtimeError "TASK_DEPENDENCY_PENDING" "Task control is waiting for its local Task record.")
  let receivedAt := validTimestampOrNow message.receivedAt (← currentTime env)
  let receipt := createApplicationReceipt payload.taskId payload.requesterTetiId
    payload.targetTetiId (.control payload.controlId) receivedAt
  let focus ←
    if isTerminalTaskState focus.current.state then pure focus
    else do
      cancelExecution ((currentExecutionTaskId focus.current).getD payload.taskId)
      focus.change (.canceledByRequester receivedAt)
  saveFocus env (focus.keep fun record => enqueueApplicationReceipt record receipt)
  return receipt

/-- The input was received before. -/
def inputKnown (inputId : String) : Bool :=
  record.longHorizon.any fun session =>
    session.audit.any fun event => event.action == .inputReceived && event.inputId == some inputId

/-- The record waits for the input, and its session. -/
def requireInputRequired : Runtime LongHorizonTaskState :=
  let refused := runtimeError "TASK_INPUT_NOT_REQUIRED" "The collaboration is not waiting for input."
  match record.longHorizon with
  | none => raise refused
  | some session =>
    if record.state = .inputRequired ∧ atBoundary session then pure session else raise refused

/-- A new input is accepted. -/
def takeInput (payload : TetiTaskInputPayload) (receivedAt : Timestamp) (focus : RecordFocus) :
    Runtime RecordFocus := do
  let session ← requireInputRequired focus.current
  if session.continuationExpiresAt ≤ (← currentTime env) then
    saveExpiry env focus
  throwIf (LONG_HORIZON_LIMITS.maximumInputs ≤ session.currentStageIndex - 1)
    (runtimeError "TASK_STAGE_LIMIT"
      "The collaboration reached its bounded supplemental-instruction limit.")
  throwIf (payload.expectedStageIndex ≠ session.currentStageIndex)
    (runtimeError "TASK_INPUT_STAGE_CONFLICT" "Supplemental input targets a stale stage.")
  match session.pendingInput with
  | some pending =>
    if pending.inputId = payload.inputId then return focus
    else raise (runtimeError "TASK_INPUT_CONFLICT" "Another supplemental input is already pending.")
  | none =>
    focus.change (.inputReceived payload (digest sha256 payload.instruction) receivedAt)

def receiveLongHorizonInput (message : Inbound TetiTaskInputPayload) :
    Runtime TetiTaskApplicationReceiptPayload := do
  let localTetiId ← requireAccount env
  let payload := message.payload
  requireInboundTaskIdentity message localTetiId payload.requesterTetiId payload.targetTetiId
  let state ← loadState env
  let found := findTaskRecord state .incoming payload.requesterTetiId payload.taskId
  let receivedAt := validTimestampOrNow message.receivedAt (← currentTime env)
  let receipt := createApplicationReceipt payload.taskId payload.requesterTetiId
    payload.targetTetiId (.input payload.inputId) receivedAt
  let focus ← orThrow found
    (runtimeError "TASK_INPUT_NOT_REQUIRED" "The collaboration is not waiting for input.")
  let focus ←
    if inputKnown focus.current payload.inputId then pure focus
    else takeInput env sha256 payload receivedAt focus
  saveFocus env (focus.keep fun record => enqueueApplicationReceipt record receipt)
  return receipt

end TetiBot

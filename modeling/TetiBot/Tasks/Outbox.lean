import TetiBot.Tasks.World

/-
Deliveries (`trySendPendingForRecord`, `trySendStoredRecord` and
`trySendInputAttachments` of `runtime/tasks/service.ts`).

A `try` block of the source that edits the record and then writes the store is
`sendAndNote`: the edit stays in memory when the write throws.  What the
source does outside of `try` throws here as well.
-/

namespace TetiBot

open Library Library.Program

variable (env : Environment)

/-- Send something, note it in the record, and save.  A throw of the send or
of the save is handed over with the record as it then is. -/
def sendAndNote {α : Type} (message : Runtime α) (note : α → RecordFocus → Runtime RecordFocus)
    (focus : RecordFocus) : Runtime (Except TaskError Unit × RecordFocus) := do
  match ← attempt message with
  | .error error => return (.error error, focus)
  | .ok sent => do
    let focus ← note sent focus
    return (← attempt (saveFocus env focus), focus)

/-- How a delivery pass over one record stands. -/
inductive DeliveryStatus
  | going | returned
  | threw (error : TaskError)

/-- A delivery pass over one record.  The record keeps what was noted in it,
also when the pass throws. -/
structure Delivering where
  focus : RecordFocus
  status : DeliveryStatus

namespace Delivering

/-- Go on with a pass unless it has ended. -/
def next (pass : Delivering) (f : RecordFocus → Runtime Delivering) : Runtime Delivering :=
  match pass.status with
  | .going => f pass.focus
  | _ => pure pass

/-- A pass that returns where a `try` block threw. -/
def ofOutcome (outcome : Except TaskError Unit × RecordFocus) : Delivering :=
  match outcome with
  | (.ok (), focus) => ⟨focus, .going⟩
  | (.error _, focus) => ⟨focus, .returned⟩

/-- Throw what the pass threw. -/
def rethrow (pass : Delivering) : Runtime RecordFocus :=
  match pass.status with
  | .threw error => raise error
  | _ => pure pass.focus

end Delivering

/-- The network refused the authorization. -/
def isNetworkAuthorizationFailure (error : TaskError) : Bool :=
  error.errorClass == .networkClient || error.code == "RELATIONSHIP_AUTHORIZATION_DENIED"

def applicationSendErrorCode (error : TaskError) : String :=
  if isNetworkAuthorizationFailure error then "TASK_NETWORK_AUTHORIZATION_FAILED"
  else "TASK_CHATMAIL_SEND_FAILED"

/-! ### Without a connection -/

/-- Note that a pending message has no connection, unless that is known. -/
def noteUnavailable (pending : Option TaskApplicationReference) (failedAt : Timestamp)
    (noted : TaskRecord × Bool) : TaskRecord × Bool :=
  match pending with
  | none => noted
  | some reference =>
    let code := "TASK_CONNECTION_UNAVAILABLE"
    let known := (noted.1.applicationDeliveryFailures.find? fun item =>
      item.reference == .application reference).map fun item => item.safeErrorCode
    if known = some code then noted
    else (recordApplicationDeliveryFailure noted.1 (.application reference) code failedAt, true)

variable (record : TaskRecord)

/-- The status that a record owes. -/
def pendingStatus : Option TaskApplicationReference :=
  if record.direction = .incoming ∧ record.statusPending ∧ record.statusRevision ≠ 0 then
    some (.status record.statusRevision)
  else none

/-- The input that a record still has to deliver. -/
def pendingInput : Option TetiTaskInputPayload :=
  if record.direction = .outgoing ∧ record.inputAcknowledgedAt = none then record.inputPending
  else none

/-- The cancellation that a record still has to deliver. -/
def pendingCancel : Option String :=
  if record.direction = .outgoing ∧ record.cancelPending ∧ record.cancelAcknowledgedAt = none then
    record.cancelControlId
  else none

/-- What is pending when there is no connection to the peer. -/
def recordUnavailable (failedAt : Timestamp) : TaskRecord × Bool :=
  noteUnavailable ((pendingCancel record).map .control) failedAt
    (noteUnavailable ((pendingInput record).map fun payload => .input payload.inputId) failedAt
      (noteUnavailable (pendingStatus record) failedAt (record, false)))

/-! ### Artifacts -/

/-- The artifacts that are due. -/
def pendingArtifacts : Runtime (List CollaborationTaskArtifact) :=
  foldM (fun pending artifact => do
    if 7 ≤ record.protocolVersion then
      let now ← currentTime env
      return if shouldSendArtifact record artifact.artifactId now then pending ++ [artifact]
        else pending
    else
      return if record.sentArtifactIds.contains artifact.artifactId then pending
        else pending ++ [artifact])
    [] record.artifacts

variable (artifact : CollaborationTaskArtifact)

/-- When the delivery of an artifact of a record ends. -/
def artifactExpiry : Timestamp :=
  match record.longHorizon with
  | some session => session.continuationExpiresAt
  | none => artifact.createdAt + DEFAULT_TASK_REQUEST_TTL_MS

/-- The stage label of an artifact of a received task. -/
def stageEntry (artifactId : String) : Option LongHorizonArtifactEntry :=
  record.longHorizon.bind fun session =>
    session.artifacts.find? fun entry => entry.artifactId == artifactId

def artifactAttachmentPayload (part : TaskImagePart) : TetiTaskAttachmentPayload where
  taskId := record.request.taskId
  requesterTetiId := record.request.requesterTetiId
  targetTetiId := record.request.targetTetiId
  purpose := .artifact
  artifactId := some artifact.artifactId
  part := part
  createdAt := artifact.createdAt
  expiresAt := artifactExpiry record artifact
  deliveryReceiptRequested := 4 ≤ record.protocolVersion

def artifactFilePayload (document : StagedTaskArtifactDocument) : TetiTaskArtifactFilePayload :=
  let entry := stageEntry record artifact.artifactId
  { schemaVersion := if entry.isSome then 2 else 1
    taskId := record.request.taskId
    requesterTetiId := record.request.requesterTetiId
    targetTetiId := record.request.targetTetiId
    artifactId := artifact.artifactId
    byteLength := document.byteLength
    sha256 := document.sha256
    createdAt := artifact.createdAt
    expiresAt := if entry.isSome then artifactExpiry record artifact
      else artifact.createdAt + DEFAULT_TASK_REQUEST_TTL_MS
    stageIndex := entry.map fun entry => entry.stageIndex
    role := entry.map fun entry => entry.role }

def artifactPayload : TetiTaskArtifactPayload :=
  let entry := stageEntry record artifact.artifactId
  { schemaVersion := if entry.isSome then 2 else 1
    taskId := record.request.taskId
    requesterTetiId := record.request.requesterTetiId
    targetTetiId := record.request.targetTetiId
    artifact := artifact
    createdAt := artifact.createdAt
    stageIndex := entry.map fun entry => entry.stageIndex
    role := entry.map fun entry => entry.role }

/-- The image of an artifact was sent. -/
def noteArtifactAttachment (part : TaskImagePart) (focus : RecordFocus) :
    Runtime RecordFocus := do
  let focus := focus.keep fun record => { record with
    sentArtifactAttachmentIds := appendUnique record.sentArtifactAttachmentIds part.attachmentId }
  let focus ←
    if 4 ≤ focus.current.protocolVersion then do
      let now ← currentTime env
      pure (focus.keep fun record => { record with
        artifactAttachmentDeliveryAttempts :=
          recordDeliveryAttempt record.artifactAttachmentDeliveryAttempts part.attachmentId now })
    else pure focus
  let now ← currentTime env
  return focus.keep fun record => markAttachmentSent record .artifact part now

variable (connection : TetiConnectionRecord) (artifact : CollaborationTaskArtifact)

/-- Send an image of an artifact.  The path is resolved outside of `try`. -/
def sendArtifactAttachment (part : TaskImagePart) (focus : RecordFocus) : Runtime Delivering := do
  let now ← currentTime env
  if ¬shouldSendAttachment focus.current part.attachmentId .artifact now then
    return ⟨focus, .going⟩
  match env.attachmentStore with
  | none => return ⟨focus, .returned⟩
  | some attachments => do
    if focus.current.protocolVersion < 3 then
      return ⟨focus, .returned⟩
    match ← call fun n => attachments.resolveImage n part with
    | .error error => return ⟨focus, .threw error⟩
    | .ok none => return ⟨focus, .returned⟩
    | .ok (some _) => do
      let payload := artifactAttachmentPayload focus.current artifact part
      return .ofOutcome (← sendAndNote env (send env connection (.attachment payload))
        (fun _ => noteArtifactAttachment env part) focus)

variable (focus : RecordFocus)

/-- The document of an artifact was sent. -/
def noteArtifactFile : Runtime RecordFocus := do
  let now ← currentTime env
  return focus.keep fun record => { record with
    sentArtifactIds := appendUnique record.sentArtifactIds artifact.artifactId
    artifactDeliveryAttempts :=
      recordDeliveryAttempt record.artifactDeliveryAttempts artifact.artifactId now
    artifactPending := true }

/-- The artifact was sent in a message. -/
def noteArtifact : Runtime RecordFocus := do
  return focus.keep fun record =>
    let sent := appendUnique record.sentArtifactIds artifact.artifactId
    { record with
      sentArtifactIds := sent
      artifactPending := record.artifacts.any fun candidate => !sent.contains candidate.artifactId }

/-- Send an artifact, after its images. -/
def sendArtifactBody : Runtime Delivering := do
  if 7 ≤ focus.current.protocolVersion then
    match env.attachmentStore with
    | none => return ⟨focus, .returned⟩
    | some attachments => do
      let message := do
        let document ← callThrowing fun n => attachments.stageArtifactDocument n artifact
        send env connection (.artifactFile (artifactFilePayload focus.current artifact document))
      return .ofOutcome
        (← sendAndNote env message (fun _ => noteArtifactFile env artifact) focus)
  else
    let payload := artifactPayload focus.current artifact
    return .ofOutcome (← sendAndNote env (send env connection (.artifact payload))
      (fun _ => noteArtifact artifact) focus)

def sendArtifact : Runtime Delivering := do
  let pass ← foldM (fun (pass : Delivering) part =>
      pass.next (sendArtifactAttachment env connection artifact part))
    ⟨focus, .going⟩ (taskArtifactImages artifact)
  pass.next (sendArtifactBody env connection artifact)

variable (focus : RecordFocus)

def sendPendingArtifacts : Runtime Delivering := do
  let record := focus.current
  if record.direction = .incoming ∧ record.artifacts ≠ []
      ∧ (record.artifactPending ∨ 4 ≤ record.protocolVersion) then
    let pending ← pendingArtifacts env record
    foldM (fun (pass : Delivering) artifact => pass.next (sendArtifact env connection artifact))
      ⟨focus, .going⟩ pending
  else
    return ⟨focus, .going⟩

/-! ### Application messages -/

variable (reference : TaskApplicationReference)

/-- An application message could not be sent, or its sending not be saved. -/
def noteApplicationFailure (error : TaskError) (focus : RecordFocus) : Runtime Delivering := do
  let now ← currentTime env
  let focus := focus.keep fun record => recordApplicationDeliveryAttempt record reference now
  let failedAt ← currentTime env
  let focus := focus.keep fun record => recordApplicationDeliveryFailure record
    (.application reference) (applicationSendErrorCode error) failedAt
  match ← attempt (saveFocus env focus) with
  | .ok () => return ⟨focus, .returned⟩
  | .error error => return ⟨focus, .threw error⟩

/-- Send an application message, note the attempt with `note` before it, and
save; a failure is noted instead. -/
def sendApplicationMessage (message : TaskMessage)
    (note : RecordFocus → Runtime RecordFocus) (focus : RecordFocus) : Runtime Delivering := do
  let outcome ← sendAndNote env (send env connection message)
    (fun _ focus => do
      let focus ← note focus
      let now ← currentTime env
      return focus.keep fun record => recordApplicationDeliveryAttempt record reference now)
    focus
  match outcome with
  | (.ok (), focus) => return ⟨focus, .going⟩
  | (.error error, focus) => noteApplicationFailure env reference error focus

/-- The message is due. -/
def applicationMessageDue (record : TaskRecord) : Runtime Bool := do
  let now ← currentTime env
  return shouldSendApplicationMessage record reference now

def statusPayload : TetiTaskStatusPayload where
  schemaVersion := if record.longHorizon.isSome then 2 else 1
  taskId := record.request.taskId
  requesterTetiId := record.request.requesterTetiId
  targetTetiId := record.request.targetTetiId
  revision := record.statusRevision
  state := networkTaskState record.state
  updatedAt := record.updatedAt
  safeErrorCode := record.safeErrorCode
  longHorizon := record.longHorizon.map peerLongHorizonStatus

def sendPendingStatus : Runtime Delivering := do
  match pendingStatus focus.current with
  | none => return ⟨focus, .going⟩
  | some reference => do
    if ← applicationMessageDue env reference focus.current then
      sendApplicationMessage env connection reference (.status (statusPayload focus.current)) pure
        focus
    else
      return ⟨focus, .going⟩

def sendPendingInput : Runtime Delivering := do
  match pendingInput focus.current with
  | none => return ⟨focus, .going⟩
  | some payload => do
    let reference := TaskApplicationReference.input payload.inputId
    if ← applicationMessageDue env reference focus.current then
      sendApplicationMessage env connection reference (.input payload)
        (fun focus => do
          let now ← currentTime env
          return focus.keep fun record => { record with inputSentAt := some now })
        focus
    else
      return ⟨focus, .going⟩

def sendPendingCancel : Runtime Delivering := do
  let record := focus.current
  match pendingCancel record, record.cancelRequestedAt with
  | some controlId, some requestedAt => do
    let reference := TaskApplicationReference.control controlId
    if ← applicationMessageDue env reference record then
      sendApplicationMessage env connection reference
        (.cancel ⟨record.request.taskId, record.request.requesterTetiId,
          record.request.targetTetiId, controlId, requestedAt⟩)
        (fun focus => do
          let now ← currentTime env
          return focus.keep fun record => { record with cancelSentAt := some now })
        focus
    else
      return ⟨focus, .going⟩
  | _, _ => return ⟨focus, .going⟩

/-- What a record still has to deliver has no connection. -/
def notePendingUnavailable : Runtime Delivering := do
  let failedAt ← currentTime env
  let (record, changed) := recordUnavailable focus.current failedAt
  let focus := focus.set record
  if changed then
    match ← attempt (saveFocus env focus) with
    | .ok () => return ⟨focus, .returned⟩
    | .error error => return ⟨focus, .threw error⟩
  else
    return ⟨focus, .returned⟩

/-- The pass of `trySendPendingForRecord`. -/
def deliverPending : Runtime Delivering := do
  match ← attempt (findConfirmedConnectionForPeer env focus.current.peerTetiId) with
  | .error error => return ⟨focus, .threw error⟩
  | .ok none => notePendingUnavailable env focus
  | .ok (some connection) => do
    let pass ← sendPendingArtifacts env connection focus
    let pass ← pass.next (sendPendingStatus env connection)
    let pass ← pass.next (sendPendingInput env connection)
    pass.next (sendPendingCancel env connection)

/-- `trySendPendingForRecord`. -/
def trySendPendingForRecord : Runtime RecordFocus := do
  (← deliverPending env focus).rethrow

/-! ### Requests -/

def inputAttachmentPayload (part : TaskImagePart) : TetiTaskAttachmentPayload where
  taskId := record.request.taskId
  requesterTetiId := record.request.requesterTetiId
  targetTetiId := record.request.targetTetiId
  purpose := .input
  artifactId := none
  part := part
  createdAt := record.request.createdAt
  expiresAt := record.request.expiresAt
  deliveryReceiptRequested := 4 ≤ record.protocolVersion

/-- An input image was sent. -/
def noteInputAttachment (part : TaskImagePart) (focus : RecordFocus) : Runtime RecordFocus := do
  let focus := focus.keep fun record => { record with
    sentAttachmentIds := appendUnique record.sentAttachmentIds part.attachmentId }
  let focus ←
    if 4 ≤ focus.current.protocolVersion then do
      let now ← currentTime env
      pure (focus.keep fun record => { record with
        attachmentDeliveryAttempts :=
          recordDeliveryAttempt record.attachmentDeliveryAttempts part.attachmentId now })
    else pure focus
  let now ← currentTime env
  let focus := focus.keep fun record => markAttachmentSent record .input part now
  let updatedAt ← currentTime env
  return focus.keep fun record => { record with updatedAt := updatedAt }

/-- Send the input images one after the other, until one throws. -/
def sendInputAttachment (attachments : TaskAttachmentStore) (connection : TetiConnectionRecord)
    (outcome : Except TaskError Unit × RecordFocus) (part : TaskImagePart) :
    Runtime (Except TaskError Unit × RecordFocus) :=
  match outcome with
  | (.error error, focus) => pure (.error error, focus)
  | (.ok (), focus) => do
    let now ← currentTime env
    if ¬shouldSendAttachment focus.current part.attachmentId .input now then
      return (.ok (), focus)
    let message := do
      let _ ← callThrowing fun n => attachments.getStagedImage n part
      send env connection (.attachment (inputAttachmentPayload focus.current part))
    sendAndNote env message (fun _ => noteInputAttachment env part) focus

/-- The record still sends its input images. -/
def sendsInputAttachments (now : Timestamp) : Bool :=
  record.direction == .outgoing && !isTerminalTaskState record.state
    && now < record.request.expiresAt && taskInputImages record.request.input != []

/-- `trySendInputAttachments` over an existing connection. -/
def sendInputAttachments : Runtime (Except TaskError Unit × RecordFocus) := do
  let now ← currentTime env
  if ¬sendsInputAttachments focus.current now then
    return (.ok (), focus)
  match env.attachmentStore with
  | none => return (.error (plainError "TASK_ATTACHMENTS_UNAVAILABLE"), focus)
  | some attachments =>
    foldM (sendInputAttachment env attachments connection) (.ok (), focus)
      (taskInputImages focus.current.request.input)

/-- `trySendInputAttachments` without a connection.  It is called outside of
`try`: what it throws, the caller throws. -/
def trySendInputAttachments : Runtime RecordFocus := do
  let now ← currentTime env
  if ¬sendsInputAttachments focus.current now then
    return focus
  match ← findConfirmedConnectionForPeer env focus.current.peerTetiId, env.attachmentStore with
  | some connection, some attachments => do
    let (outcome, focus) ← foldM (sendInputAttachment env attachments connection) (.ok (), focus)
      (taskInputImages focus.current.request.input)
    fromExcept outcome
    return focus
  | _, _ => return focus

/-- Send the request over a connection, after its images. -/
def sendRequest : Runtime RecordFocus := do
  let (outcome, focus) ← sendInputAttachments env connection focus
  let sent ← attempt do
    fromExcept outcome
    send env connection (.request focus.current.request)
  match sent with
  | .ok (envelopeMessageId, messageId) =>
    focus.change (.requestSent envelopeMessageId (some messageId))
  | .error error => do
    let now ← currentTime env
    focus.change (.requestFailed
      (if isNetworkAuthorizationFailure error then "TASK_NETWORK_AUTHORIZATION_FAILED"
        else "TASK_CHATMAIL_SEND_FAILED") now)

/-- `trySendStoredRecord`. -/
def trySendStoredRecord : Runtime RecordFocus := do
  let now ← currentTime env
  if focus.current.request.expiresAt ≤ now then
    let expiredAt ← currentTime env
    let focus ← focus.change (.expired expiredAt)
    saveFocus env focus
    return focus
  match ← findConfirmedConnectionForPeer env focus.current.peerTetiId with
  | none => do
    let failedAt ← currentTime env
    let focus := focus.keep fun record => { record with updatedAt := failedAt }
    let focus ← focus.change (.requestFailed "TASK_CONNECTION_UNAVAILABLE" failedAt)
    saveFocus env focus
    return focus
  | some connection => do
    let focus ← sendRequest env connection focus
    let updatedAt ← currentTime env
    let focus := focus.keep fun record => { record with updatedAt := updatedAt }
    saveFocus env focus
    return focus

end TetiBot

import TetiBot.Tasks.Execution

/-
What the operations of the task service do before and after their own work
(the functions below the class of `runtime/tasks/service.ts`).

* `expireDueRecords`: completion from verified artifacts, then expiry;
* `rememberPeerVersions`, `ensureCapacity`: the peers and the room of a state;
* `requireMutableIncomingTask`, `requireIncomingLongHorizon`: the record that
  an owner's command is about;
* the identities of a message, and the readiness of attachments.
-/

namespace TetiBot

open Library Library.Program

variable (env : Environment)

/-! ### Times and peers -/

/-- `validTimestampOrNow`; a time that does not parse is no time. -/
def validTimestampOrNow (value : Option Timestamp) (now : Timestamp) : Timestamp :=
  match value with
  | some timestamp => if timestamp ≤ now + MAX_TASK_CLOCK_SKEW_MS then timestamp else now
  | none => now

variable (state : TaskStore)

def rememberPeerVersions (tetiId : TetiId) (versions : List Nat)
    (observedAt : Timestamp) (merge : Bool) : TaskStore :=
  let existing := state.peers.find? fun peer => peer.tetiId == tetiId
  let known := if merge then (existing.map fun peer => peer.supportedVersions).getD [] else []
  let normalized := (known ++ versions).dedup.mergeSort
  match existing with
  | some peer =>
    if observedAt < peer.observedAt then state
    else { state with
      peers := updateFirst (fun peer => peer.tetiId == tetiId)
        (fun peer => { peer with supportedVersions := normalized, observedAt := observedAt })
        state.peers }
  | none => { state with peers := state.peers ++ [⟨tetiId, normalized, observedAt⟩] }

variable (now : Timestamp)

/-- `ensureCapacity`: the state with room for one more record, if there is room.
A full state drops the records whose request has expired, whatever became of
them, and is sorted. -/
def ensureCapacity : Option TaskStore :=
  if state.records.length < MAX_TASK_TRANSPORT_RECORDS then some state
  else
    let retained := (state.records.filter fun record => now < record.request.expiresAt).mergeSort
      fun left right => left.updatedAt ≤ right.updatedAt
    if MAX_TASK_TRANSPORT_RECORDS ≤ retained.length then none
    else some { state with records := retained }

/-! ### Expiry -/

variable (focus : RecordFocus)

/-- A record is completed from its artifact, where it can be. -/
def reconcileCompletion : Runtime Pass := do
  if (completeOutgoingSingleStageFromVerifiedArtifact focus.current now).isSome then
    let focus ← focus.change (.completedFromArtifact now)
    return ⟨focus.state, true⟩
  else return ⟨focus.state, false⟩

/-- A record that is due expires. -/
def expireIfDue : Runtime Pass := do
  if isExpiryDue focus.current now then
    let focus ← focus.change (.expired now)
    return ⟨focus.state, true⟩
  else return ⟨focus.state, false⟩

/-- `expireDueRecords`. -/
def expireDueRecords (state : TaskStore) : Runtime Pass := do
  let completed ← forEachRecord (reconcileCompletion now) state
  let expired ← forEachRecord (expireIfDue now) completed.state
  return ⟨expired.state, completed.changed || expired.changed⟩

/-- The lease of a record has run out where a command needs it.  The record is
expired in memory only: the operation throws before it saves. -/
def expireAndThrow {α : Type} (record : TaskRecord) (now : Timestamp) (message : String) :
    Runtime α :=
  match expireRecord record now with
  | .error (error, _) => raise error
  | .ok _ => raise (runtimeError "TASK_EXPIRED" message)

/-- The lease of a record has run out; the expired record is saved, and the
operation throws. -/
def saveExpiry {α : Type} (focus : RecordFocus) : Runtime α := do
  let expiredAt ← currentTime env
  let focus ← focus.change (.expired expiredAt)
  saveFocus env focus
  raise (runtimeError "TASK_EXPIRED" "The collaboration continuation lease has expired.")

/-! ### The record of a command -/

def requireTaskId (taskId : String) : Runtime Unit :=
  throwIf (safeTaskId taskId = false) (runtimeError "TASK_INPUT_INVALID" "Task ID is invalid.")

def requireMutableIncomingTask (taskId : String) (now : Timestamp) : Runtime RecordFocus := do
  requireTaskId taskId
  let focus ← orThrow (findIncoming state taskId)
    (runtimeError "TASK_NOT_FOUND" "Task was not found.")
  throwIf (focus.current.protocolVersion ∉ TETI_SUPPORTED_TASK_PROTOCOL_VERSIONS)
    (runtimeError "TASK_PROTOCOL_UPGRADE_REQUIRED"
      "Task was created by an unsupported collaboration protocol.")
  if focus.current.request.expiresAt ≤ now then
    expireAndThrow focus.current now "Task approval has expired."
  throwIf (awaitsApproval focus.current = false)
    (runtimeError "TASK_NOT_PENDING" "Task no longer awaits approval.")
  return focus

/-- The record of a command on a session, with its session.  Only the phase of
the session is looked at, not the state of the record. -/
def requireIncomingLongHorizon (taskId : String) (now : Timestamp) :
    Runtime (RecordFocus × LongHorizonTaskState) := do
  requireTaskId taskId
  let missing := runtimeError "TASK_NOT_FOUND" "Long-horizon collaboration was not found."
  let focus ← orThrow (findIncoming state taskId) missing
  let session ← orThrow focus.current.longHorizon missing
  if session.continuationExpiresAt ≤ now then
    expireAndThrow focus.current now "The collaboration continuation lease has expired."
  throwIf (sessionEnded session)
    (runtimeError "TASK_TERMINAL" "Long-horizon collaboration is already terminal.")
  return (focus, session)

/-! ### Messages -/

/-- A message as it arrives: the sender named in its envelope, the connection
it came over, its payload, and when it arrived. -/
structure Inbound (α : Type) where
  fromTetiId : TetiId
  connection : TetiConnectionRecord
  payload : α
  receivedAt : Option Timestamp

/-- The peer a message came from. -/
def Inbound.remoteTetiId {α : Type} (message : Inbound α) : TetiId :=
  message.connection.remoteTetiId

/-- `requireInboundTaskIdentity`: a message of the requester of a task. -/
def requireInboundTaskIdentity {α : Type} (message : Inbound α) (localTetiId : TetiId)
    (requesterTetiId targetTetiId : TetiId) : Runtime Unit :=
  throwIf (message.fromTetiId ≠ requesterTetiId ∨ message.remoteTetiId ≠ requesterTetiId
      ∨ targetTetiId ≠ localTetiId)
    (runtimeError "TASK_IDENTITY_MISMATCH" "Task identity binding is invalid.")

/-- `requireOutboundTaskIdentity`: a message of the target of a task. -/
def requireOutboundTaskIdentity {α : Type} (message : Inbound α) (localTetiId : TetiId)
    (requesterTetiId targetTetiId : TetiId) : Runtime Unit :=
  throwIf (message.fromTetiId ≠ targetTetiId ∨ message.remoteTetiId ≠ targetTetiId
      ∨ requesterTetiId ≠ localTetiId)
    (runtimeError "TASK_IDENTITY_MISMATCH" "Task identity binding is invalid.")

/-! ### Attachments -/

/-- An image is looked up, and noted if it is there. -/
def lookUpAttachment (attachments : TaskAttachmentStore) (purpose : TetiTaskAttachmentPurpose)
    (found : Bool × RecordFocus) (part : TaskImagePart) : Runtime (Bool × RecordFocus) := do
  let path ← callThrowing fun n => attachments.resolveImage n part
  if path.isSome then
    let now ← currentTime env
    return (found.1, found.2.keep fun record => markAttachmentStored record purpose part now)
  else return (false, found.2)

/-- All images are there. -/
def areAttachmentsReady (purpose : TetiTaskAttachmentPurpose) (images : List TaskImagePart)
    (focus : RecordFocus) : Runtime (Bool × RecordFocus) :=
  if images = [] then pure (true, focus)
  else
    match env.attachmentStore with
    | none => pure (false, focus)
    | some attachments => foldM (lookUpAttachment env attachments purpose) (true, focus) images

/-- `record.attachmentsReady = await areInputAttachmentsReady(record)`. -/
def updateAttachmentsReady : Runtime RecordFocus := do
  let (ready, focus) ← areAttachmentsReady env .input (taskInputImages focus.current.request.input)
    focus
  return focus.keep fun record => { record with attachmentsReady := ready }

/-- `record.artifactAttachmentsReady = await areArtifactAttachmentsReady(record)`. -/
def updateArtifactAttachmentsReady : Runtime RecordFocus := do
  let (ready, focus) ←
    areAttachmentsReady env .artifact (focus.current.artifacts.flatMap taskArtifactImages) focus
  return focus.keep fun record => { record with artifactAttachmentsReady := ready }

/-- The input images of a received record that has not ended are looked up. -/
def refreshReadiness : Runtime Pass := do
  if focus.current.direction ≠ .incoming ∨ isTerminalTaskState focus.current.state then
    return ⟨focus.state, false⟩
  else
    let refreshed ← updateAttachmentsReady env focus
    return ⟨refreshed.state,
      refreshed.current.attachmentsReady != focus.current.attachmentsReady⟩

/-- `refreshAttachmentReadiness`. -/
def refreshAttachmentReadiness : Runtime Pass :=
  forEachRecord (refreshReadiness env) state

end TetiBot

import TetiBot.Core.Validation

/-
The contract of the task store (`runtime/tasks/store.ts`).

`validateTaskTransportStoreState` is checked by every save; a store that does
not pass it is not persisted.
-/

namespace TetiBot

open Library

/-- `validateStringArray`. -/
def validateStringArray (values : List String) (label : String) : Except TaskError Unit :=
  failIf (16 < values.length
      ∨ (values.any fun value => JsString.isBlank (JsString.ofString value)) ∨ ¬values.Nodup)
    (plainError s!"{label} is invalid.")

/-- `validateDeliveryAttempts` and `validateArtifactDeliveryAttempts`, which
differ in how many attempts they admit. -/
def validateDeliveryAttempts (maximum : Nat) (attempts : List TaskDeliveryAttempt)
    (label : String) : Except TaskError Unit := do
  failIf (maximum < attempts.length) (plainError s!"{label} are invalid.")
  failIf ((attempts.any fun item =>
        JsString.isBlank (JsString.ofString item.id) || item.attempts < 1)
      ∨ ¬(attempts.map fun item => item.id).Nodup)
    (plainError s!"{label} are invalid.")

def validateAttachmentDiagnostics (diagnostics : List TaskAttachmentDiagnostic) :
    Except TaskError Unit := do
  failIf (32 < diagnostics.length) (plainError "Teti Task attachment diagnostics are invalid.")
  failIf ((diagnostics.any fun item =>
        JsString.isBlank (JsString.ofString item.attachmentId) || item.ordinal < 1
          || item.expectedCount < item.ordinal || item.byteLength < 1
          || !sha256Pattern item.sha256)
      ∨ ¬(diagnostics.map fun item => (item.purpose, item.attachmentId)).Nodup)
    (plainError "Teti Task attachment diagnostics are invalid.")
  failIf (diagnostics.any fun item => !item.safeErrorCode.all safeCodePattern)
    (plainError "Teti Task attachment diagnostic error is invalid.")

/-- The reference of an application message has the form of a task identifier.
The decimal text of a revision always has. -/
def applicationReferenceValid : TaskApplicationReference → Bool
  | .status _ => true
  | .input inputId => safeTaskId inputId
  | .control controlId => safeTaskId controlId

def deliveryReferenceValid : TaskDeliveryReference → Bool
  | .request taskId => safeTaskId taskId
  | .application reference => applicationReferenceValid reference

def validateApplicationDeliveryAttempts (attempts : List TaskApplicationDeliveryAttempt) :
    Except TaskError Unit :=
  failIf (8 < attempts.length
      ∨ (attempts.any fun item =>
          !applicationReferenceValid item.reference || item.attempts < 1)
      ∨ ¬(attempts.map fun item => item.reference).Nodup)
    (plainError "Teti Task application delivery attempts are invalid.")

def validateApplicationDeliveryFailures (failures : List TaskApplicationDeliveryFailure) :
    Except TaskError Unit :=
  failIf (8 < failures.length
      ∨ (failures.any fun item =>
          !deliveryReferenceValid item.reference || !safeCodePattern item.safeErrorCode)
      ∨ ¬(failures.map fun item => item.reference).Nodup)
    (plainError "Teti Task application delivery failures are invalid.")

def validateLatestAttentionChange (change : TaskAttentionChange) (attentionRevision : Nat) :
    Except TaskError Unit := do
  failIf (attentionRevision < change.revision)
    (plainError "Teti Task latest attention change is invalid.")
  failIf (¬change.stageIndex.all fun index =>
      1 ≤ index && index ≤ LONG_HORIZON_LIMITS.maximumStages)
    (plainError "Teti Task latest attention stage is invalid.")
  failIf (!change.safeErrorCode.all safeCodePattern)
    (plainError "Teti Task latest attention error is invalid.")

/-- The direction a record must have for an application message of a kind. -/
def applicationOwner : TetiTaskApplicationReceiptKind → TaskTransportDirection
  | .status => .incoming
  | .input => .outgoing
  | .control => .outgoing

/-- The direction a record must have to owe a receipt of a kind. -/
def receiptOwner : TetiTaskApplicationReceiptKind → TaskTransportDirection
  | .status => .outgoing
  | .input => .incoming
  | .control => .incoming

/-- The direction a record must have to hold a delivery failure. -/
def failureOwner (reference : TaskDeliveryReference) : TaskTransportDirection :=
  match reference.kind with
  | none => .outgoing
  | some kind => applicationOwner kind

variable (record : CollaborationTaskTransportRecord)

/-- A receipt in the outbox of a record is about its task. -/
def receiptOwned (receipt : TetiTaskApplicationReceiptPayload) : Bool :=
  receipt.taskId == record.request.taskId
    && receipt.requesterTetiId == record.request.requesterTetiId
    && receipt.targetTetiId == record.request.targetTetiId
    && record.direction == receiptOwner receipt.reference.kind

def validateApplicationDeliveryOwnership : Except TaskError Unit :=
  failIf ((record.applicationDeliveryAttempts.any fun item =>
        record.direction != applicationOwner item.reference.kind)
      ∨ (record.applicationDeliveryFailures.any fun item =>
        record.direction != failureOwner item.reference)
      ∨ ¬record.applicationReceiptOutbox.all (receiptOwned record)
      ∨ (record.statusAcknowledgedRevision.isSome ∧ record.direction ≠ .incoming)
      ∨ (record.inputAcknowledgedAt.isSome ∧ record.direction ≠ .outgoing)
      ∨ ((record.cancelControlId.isSome ∨ record.cancelRequestedAt.isSome
          ∨ record.cancelAcknowledgedAt.isSome) ∧ record.direction ≠ .outgoing))
    (plainError "Teti Task application delivery ownership boundary is invalid.")

/-- A child step asks for more than the workspace binding grants. -/
def expandsWorkspaceAuthority (binding : TaskWorkspaceBinding) : DelegationStep → Bool
  | .childExecution step =>
    !isWorkspaceAccessSubset step.workspaceAccess binding.access
      || binding.workspaceRevision < step.workspaceRevision
  | .artifactAggregation _ => false

def validateRecordPlan (plan : DelegationPlanState) : Except TaskError Unit := do
  validateDelegationPlanState plan
  failIf (plan.taskId ≠ record.request.taskId ∨ record.direction ≠ .incoming
      ∨ record.isLongHorizon = false ∨ record.longHorizon.isNone)
    (plainError "Teti Task Delegation Plan ownership boundary is invalid.")
  failIf (record.workspaceBinding.any fun binding =>
      plan.steps.any (expandsWorkspaceAuthority binding))
    (plainError "Teti Task Delegation Plan expanded Workspace authority.")
  failIf (¬plan.artifacts.all fun entry =>
      record.artifacts.any fun artifact => artifact.artifactId == entry.artifactId)
    (plainError "Teti Task Delegation Artifact provenance is orphaned.")

def validatePeerLongHorizon (status : TetiTaskLongHorizonStatus) : Except TaskError Unit := do
  failIf (record.state = .unknown) (plainError "Teti Task peer status state is invalid.")
  validateTaskStatusPayload {
    schemaVersion := 2
    taskId := record.request.taskId
    requesterTetiId := record.request.requesterTetiId
    targetTetiId := record.request.targetTetiId
    revision := 1
    state := if record.state = .submitted then .working else record.state
    updatedAt := record.updatedAt
    safeErrorCode := none
    longHorizon := some status }

def validatePeerArtifactMetadata : Except TaskError Unit :=
  if record.peerArtifactMetadata = [] then .ok ()
  else do
    validateLongHorizonArtifactEntries record.peerArtifactMetadata
    failIf (record.peerArtifactMetadata.length ≠ record.artifacts.length
        ∨ ¬record.peerArtifactMetadata.all fun entry =>
          record.artifacts.any fun artifact => artifact.artifactId == entry.artifactId)
      (plainError "Teti Task peer Artifact metadata is incomplete.")

/-- Check an optional field where it is present. -/
def validateOptional {α : Type} (validate : α → Except TaskError Unit) :
    Option α → Except TaskError Unit
  | some value => validate value
  | none => .ok ()

def validateRecord : Except TaskError Unit := do
  failIf (!isCanonicalTetiPublicId record.peerTetiId
      ∨ record.protocolVersion < 1 ∨ 7 < record.protocolVersion)
    (plainError "Teti Task transport record peer is invalid.")
  failIf (record.envelopeMessageId.any fun id => JsString.isBlank (JsString.ofString id))
    (plainError "Teti Task transport envelope message ID is invalid.")
  validateCollaborationTaskRequest record.request
  failIf (record.request.schemaVersion ≠ record.protocolVersion)
    (plainError "Teti Task transport request version does not match its record.")
  validateOptional validateTaskReceiptPayload record.receipt
  validateStringArray record.acknowledgedAttachmentIds "Teti Task acknowledged attachment state"
  validateStringArray record.acknowledgedArtifactAttachmentIds
    "Teti Task acknowledged Artifact attachment state"
  validateDeliveryAttempts 16 record.attachmentDeliveryAttempts
    "Teti Task attachment delivery attempts"
  validateDeliveryAttempts 16 record.artifactAttachmentDeliveryAttempts
    "Teti Task Artifact attachment delivery attempts"
  validateAttachmentDiagnostics record.attachmentDiagnostics
  validateOptional validateTaskWorkspaceBinding record.workspaceBinding
  failIf (record.statusAcknowledgedRevision.any fun revision => record.statusRevision < revision)
    (plainError "Teti Task acknowledged status revision is invalid.")
  failIf (!record.cancelControlId.all safeTaskId)
    (plainError "Teti Task cancel control ID is invalid.")
  validateApplicationDeliveryAttempts record.applicationDeliveryAttempts
  validateApplicationDeliveryFailures record.applicationDeliveryFailures
  failIf (16 < record.applicationReceiptOutbox.length)
    (plainError "Teti Task application receipt outbox is invalid.")
  record.applicationReceiptOutbox.forM validateTaskApplicationReceiptPayload
  validateStringArray record.sentArtifactIds "Teti Task sent Artifact IDs"
  validateStringArray record.acknowledgedArtifactIds "Teti Task acknowledged Artifact IDs"
  validateDeliveryAttempts 32 record.artifactDeliveryAttempts
    "Teti Task Artifact delivery attempts"
  failIf (32 < record.artifacts.length) (plainError "Teti Task artifacts are invalid.")
  record.artifacts.forM validateTaskArtifact
  validateOptional validateLongHorizonTaskState record.longHorizon
  validateOptional (validateRecordPlan record) record.delegationPlan
  validateOptional (validatePeerLongHorizon record) record.peerLongHorizon
  validatePeerArtifactMetadata record
  validateOptional validateTaskInputPayload record.inputPending
  failIf (LONG_HORIZON_LIMITS.maximumStages < record.viewedStageResultIndex)
    (plainError "Teti Task viewed stage result index is invalid.")
  failIf (MAX_SAFE_INTEGER < record.attentionRevision.getD 0)
    (plainError "Teti Task attentionRevision is invalid.")
  failIf (MAX_SAFE_INTEGER < record.viewedAttentionRevision)
    (plainError "Teti Task viewedAttentionRevision is invalid.")
  failIf (record.attentionRevision.getD 0 < record.viewedAttentionRevision)
    (plainError "Teti Task viewed attention revision exceeds the latest revision.")
  validateOptional (fun change =>
    validateLatestAttentionChange change (record.attentionRevision.getD 0))
    record.latestAttentionChange
  failIf (!record.safeErrorCode.all safeCodePattern)
    (plainError "Teti Task transport safe error code is invalid.")
  failIf ((record.longHorizon.isSome
        ∧ (record.direction ≠ .incoming ∨ record.isLongHorizon = false))
      ∨ (record.peerLongHorizon.isSome
        ∧ (record.direction ≠ .outgoing ∨ record.isLongHorizon = false))
      ∨ (record.peerArtifactMetadata ≠ []
        ∧ (record.direction ≠ .outgoing ∨ record.isLongHorizon = false))
      ∨ (record.inputPending.isSome
        ∧ (record.direction ≠ .outgoing ∨ record.isLongHorizon = false)))
    (plainError "Teti Task long-horizon ownership boundary is invalid.")
  validateApplicationDeliveryOwnership record
  failIf (¬record.sentArtifactIds.all fun id =>
      record.artifacts.any fun artifact => artifact.artifactId == id)
    (plainError "Teti Task sent Artifact identity is invalid.")
  failIf (¬record.acknowledgedArtifactIds.all fun id =>
      record.artifacts.any fun artifact => artifact.artifactId == id)
    (plainError "Teti Task acknowledged Artifact identity is invalid.")

def validatePeer (peer : TetiTaskPeerProtocolCapability) : Except TaskError Unit := do
  failIf (!isCanonicalTetiPublicId peer.tetiId)
    (plainError "Teti Task transport peer capability is invalid.")
  validateTaskProtocolVersions peer.supportedVersions

/-- What a store must satisfy to be saved. -/
def validateTaskTransportStoreState (state : TetiTaskTransportStoreState) :
    Except TaskError Unit := do
  failIf (MAX_TASK_TRANSPORT_RECORDS < state.records.length)
    (plainError "Teti Task transport records are invalid.")
  failIf (MAX_TASK_TRANSPORT_RECORDS < state.peers.length)
    (plainError "Teti Task transport peer capabilities are invalid.")
  state.records.forM validateRecord
  state.peers.forM validatePeer

/-! ### What a stored record satisfies -/

/-- The checks of a record that proofs use. -/
structure RecordValid (record : CollaborationTaskTransportRecord) : Prop where
  request : validateCollaborationTaskRequest record.request = .ok ()
  version : record.request.schemaVersion = record.protocolVersion
  acknowledged : ∀ revision, record.statusAcknowledgedRevision = some revision →
    revision ≤ record.statusRevision
  artifacts : ∀ artifact ∈ record.artifacts, validateTaskArtifact artifact = .ok ()
  session : ∀ session, record.longHorizon = some session →
    validateLongHorizonTaskState session = .ok ()
  plan : ∀ plan, record.delegationPlan = some plan → validateRecordPlan record plan = .ok ()
  attentionSafe : record.attentionRevision.getD 0 ≤ MAX_SAFE_INTEGER
  viewed : record.viewedAttentionRevision ≤ record.attentionRevision.getD 0
  latest : ∀ change, record.latestAttentionChange = some change →
    change.revision ≤ record.attentionRevision.getD 0
  safeErrorCode : record.safeErrorCode.all safeCodePattern = true
  sessionOwner : record.longHorizon.isSome →
    record.direction = .incoming ∧ record.isLongHorizon = true
  peerOwner : record.peerLongHorizon.isSome →
    record.direction = .outgoing ∧ record.isLongHorizon = true

lemma validateOptional_eq_ok {α : Type} {validate : α → Except TaskError Unit} {o : Option α} :
    validateOptional validate o = .ok () ↔ ∀ a, o = some a → validate a = .ok () := by
  cases o <;> simp [validateOptional]

lemma RecordValid.of_validateRecord {record : CollaborationTaskTransportRecord}
    (h : validateRecord record = .ok ()) : RecordValid record := by
  simp only [validateRecord, except_unit_bind_eq_ok] at h
  obtain ⟨-, -, hrequest, hversion, -, -, -, -, -, -, -, hacknowledged, -, -, -, -, -, -, -, -, -,
    hartifacts, hsession, hplan, -, -, -, -, hattention, -, hviewed, hlatest, hcode, howner, -⟩ := h
  have hversion := failIf_eq_ok.mp hversion
  have hacknowledged := failIf_eq_ok.mp hacknowledged
  have hcode := failIf_eq_ok.mp hcode
  have howner := failIf_eq_ok.mp howner
  exact {
    request := hrequest
    version := not_not.mp hversion
    acknowledged := fun revision hrevision => by simpa [hrevision] using hacknowledged
    artifacts := forM_eq_ok.mp hartifacts
    session := validateOptional_eq_ok.mp hsession
    plan := validateOptional_eq_ok.mp hplan
    attentionSafe := Nat.le_of_not_lt (failIf_eq_ok.mp hattention)
    viewed := Nat.le_of_not_lt (failIf_eq_ok.mp hviewed)
    latest := fun change hchange => by
      obtain ⟨_, hrevision, -⟩ :=
        except_bind_eq_ok.mp (validateOptional_eq_ok.mp hlatest change hchange)
      exact Nat.le_of_not_lt (failIf_eq_ok.mp hrevision)
    safeErrorCode := by simpa using hcode
    sessionOwner := fun hsome => by
      by_contra hnot
      refine howner (.inl ⟨hsome, ?_⟩)
      by_cases hdirection : record.direction = .incoming
      · exact .inr (by simpa using fun h => hnot ⟨hdirection, h⟩)
      · exact .inl hdirection
    peerOwner := fun hsome => by
      by_contra hnot
      refine howner (.inr (.inl ⟨hsome, ?_⟩))
      by_cases hdirection : record.direction = .outgoing
      · exact .inr (by simpa using fun h => hnot ⟨hdirection, h⟩)
      · exact .inl hdirection }

/-- Every record of a state that passes validation does. -/
lemma recordValid_of_mem {state : TetiTaskTransportStoreState}
    (h : validateTaskTransportStoreState state = .ok ())
    {record : CollaborationTaskTransportRecord} (hmem : record ∈ state.records) :
    RecordValid record := by
  obtain ⟨_, -, h⟩ := except_bind_eq_ok.mp h
  obtain ⟨_, -, h⟩ := except_bind_eq_ok.mp h
  obtain ⟨_, hrecords, -⟩ := except_bind_eq_ok.mp h
  exact .of_validateRecord (forM_eq_ok.mp hrecords record hmem)

end TetiBot

import TetiBot.Tasks.Upkeep
import TetiBot.Tasks.Outline

/-
The read model (`runtime/tasks/read-model.ts`) and the expiry it projects.

* `projectSummary`, `projectCurrentSummary`, `projectCurrentRecord`: what the
  application is shown of a stored record at a time;
* `expireDueRecords_spec`: the durable expiry, record by record;
* `projections_agree_iff`: the two agree exactly where no record that is due
  has a full audit.
-/

namespace TetiBot

open Library Library.Program

/-! ### Projections -/

/-- `CachedTaskSummary`. -/
structure CachedTaskSummary where
  taskId : String
  direction : TaskTransportDirection
  peerTetiId : TetiId
  capabilityId : String
  executionMode : CollaborationExecutionMode
  currentStageIndex : Option Nat
  textPreview : JsString
  imageCount : Nat
  receivedImageCount : Nat
  artifactCount : Nat
  state : CollaborationTaskState
  approval : TaskApprovalState
  delivery : TaskDeliveryState
  attachmentsReady : Bool
  cancelPending : Bool
  createdAt : Timestamp
  updatedAt : Timestamp
  expiresAt : Timestamp
  hasUnreadTaskUpdate : Bool
  safeErrorCode : Option String

/-- `CachedTaskSummaryEntry`. -/
structure CachedTaskSummaryEntry where
  summary : CachedTaskSummary
  verifiedSingleStageCompletion : Bool

variable (record : TaskRecord)

/-- The image has arrived where it was sent to. -/
def inputImageDelivered (attachmentId : String) : Bool :=
  record.attachmentDiagnostics.any fun item =>
    item.attachmentId == attachmentId && item.purpose == .input
      && item.state == if record.direction = .incoming then .stored else .acknowledged

def receivedInputImageCount : Nat :=
  ((taskInputImages record.request.input).filter fun part =>
    inputImageDelivered record part.attachmentId).length

def projectSummary : CachedTaskSummary where
  taskId := record.request.taskId
  direction := record.direction
  peerTetiId := record.peerTetiId
  capabilityId := record.request.capabilityId
  executionMode := record.request.executionMode.getD .singleStage
  currentStageIndex :=
    (record.longHorizon.map fun session => session.currentStageIndex).or
      (record.peerLongHorizon.map fun status => status.currentStageIndex)
  textPreview := (taskInputText record.request.input).take 240
  imageCount := (taskInputImages record.request.input).length
  receivedImageCount := receivedInputImageCount record
  artifactCount := if record.artifactAttachmentsReady = false then 0 else record.artifacts.length
  state := record.state
  approval := record.approval
  delivery := record.delivery
  attachmentsReady := record.attachmentsReady
  cancelPending := record.cancelPending
  createdAt := record.createdAt
  updatedAt := record.updatedAt
  expiresAt := effectiveTaskExpiry record
  hasUnreadTaskUpdate := record.viewedAttentionRevision < record.attentionRevision.getD 0
  -- an empty code is left out
  safeErrorCode := record.safeErrorCode.filter fun code => code != ""

def canRecoverVerifiedSingleStageCompletion : Bool :=
  if record.direction ≠ .outgoing ∨ record.protocolVersion < 7 ∨ record.isLongHorizon
      ∨ record.artifacts = [] then false
  else record.state == .completed
    || (record.state == .rejected && record.safeErrorCode == some "TASK_EXPIRED")
    || [CollaborationTaskState.submitted, .working, .authRequired, .inputRequired].contains
      record.state

/-- What `publish` keeps of a record. -/
def summaryEntry : CachedTaskSummaryEntry :=
  ⟨projectSummary record, canRecoverVerifiedSingleStageCompletion record⟩

def shouldProjectExpiry (state : CollaborationTaskState) (delivery : TaskDeliveryState)
    (expiresAt now : Timestamp) : Bool :=
  let terminal :=
    [CollaborationTaskState.completed, .failed, .rejected, .canceled].contains state
  (!terminal || delivery == .queued || delivery == .sendFailed) && expiresAt ≤ now

def projectCurrentSummary (entry : CachedTaskSummaryEntry) (now : Timestamp) :
    CachedTaskSummary :=
  let summary := entry.summary
  if entry.verifiedSingleStageCompletion then
    { summary with
      state := .completed
      approval := .approvedOnce
      delivery := .acknowledged
      cancelPending := false
      safeErrorCode := none }
  else if shouldProjectExpiry summary.state summary.delivery summary.expiresAt now then
    { summary with
      state := .rejected
      approval := .expired
      delivery := .expired
      safeErrorCode := some "TASK_EXPIRED"
      updatedAt := now }
  else summary

def projectCurrentRecord (now : Timestamp) : TaskRecord :=
  if canRecoverVerifiedSingleStageCompletion record then
    { record with
      state := .completed
      approval := .approvedOnce
      delivery := .acknowledged
      cancelPending := false
      cancelSentAt := none
      safeErrorCode := none }
  else if shouldProjectExpiry record.state record.delivery (effectiveTaskExpiry record) now then
    { record with
      delivery := .expired
      state := .rejected
      approval := .expired
      safeErrorCode := some "TASK_EXPIRED"
      updatedAt := now
      longHorizon := record.longHorizon.map fun session => { session with
        phase := .expired
        pauseRequested := false
        inputRequest := none
        pendingInput := none
        progress := progress .canceled none none (some "长期协作续期已过期") now }
      delegationPlan := record.delegationPlan.map fun plan =>
        if plan.phase = .completed ∨ plan.phase = .failed ∨ plan.phase = .canceled then plan
        else { plan with phase := .canceled, updatedAt := now }
      attachmentDiagnostics := record.attachmentDiagnostics.map expireDiagnostic }
  else record

/-! ### Durable expiry -/

/-- The audit of the session of a record has no room for its expiry. -/
def sessionAuditFull : Bool :=
  record.longHorizon.any fun session =>
    session.phase != .expired && LONG_HORIZON_LIMITS.maximumAuditEvents ≤ session.audit.length

/-- The audit of the plan of a record has no room for its cancellation. -/
def planAuditFull : Bool :=
  record.delegationPlan.any fun plan =>
    plan.phase != .completed && plan.phase != .failed && plan.phase != .canceled
      && DELEGATION_LIMITS.maximumAuditEvents ≤ plan.audit.length

lemma auditSession_ok_iff (event : LongHorizonAuditInput) (timestamp : Timestamp) :
    (∃ next, auditSession record event timestamp = .ok next)
      ↔ ∀ session, record.longHorizon = some session →
          session.audit.length < LONG_HORIZON_LIMITS.maximumAuditEvents := by
  cases hsession : record.longHorizon with
  | none => simp [auditSession, hsession]
  | some session =>
    rw [auditSession]
    simp only [hsession, appendLongHorizonAudit, failIf, Option.some.injEq, forall_eq']
    split_ifs with h
    · simpa [bind, Except.bind] using h
    · simpa [bind, Except.bind, pure, Except.pure] using h

lemma auditPlan_ok_iff (event : DelegationAuditInput) (timestamp : Timestamp) :
    (∃ next, auditPlan record event timestamp = .ok next)
      ↔ ∀ plan, record.delegationPlan = some plan →
          plan.audit.length < DELEGATION_LIMITS.maximumAuditEvents := by
  cases hplan : record.delegationPlan with
  | none => simp [auditPlan, hplan]
  | some plan =>
    rw [auditPlan]
    simp only [hplan, appendDelegationAudit, failIf, Option.some.injEq, forall_eq']
    split_ifs with h
    · simpa [bind, Except.bind] using h
    · simpa [bind, Except.bind, pure, Except.pure] using h

lemma expireLongHorizon_ok_iff (timestamp : Timestamp) :
    (∃ next, expireLongHorizon record timestamp = .ok next) ↔ ¬sessionAuditFull record := by
  rw [expireLongHorizon, sessionAuditFull]
  cases hsession : record.longHorizon with
  | none => simp
  | some session =>
    simp only [Option.any_some]
    split_ifs with hexpired
    · simp [hexpired]
    · rw [auditSession_ok_iff]
      simp [hexpired]

lemma expireDelegation_ok_iff (timestamp : Timestamp) :
    (∃ next, expireDelegation record timestamp = .ok next) ↔ ¬planAuditFull record := by
  rw [expireDelegation, planAuditFull]
  cases hplan : record.delegationPlan with
  | none => simp
  | some plan =>
    simp only [Option.any_some]
    split_ifs with hended
    · rcases hended with h | h | h <;> simp [h]
    · rw [cancelDelegationPlan, auditPlan_ok_iff]
      simp only [not_or] at hended
      simp [hended]

variable {record : TaskRecord}

lemma delegationPlan_expireLongHorizon {next : TaskRecord} {timestamp : Timestamp}
    (h : expireLongHorizon record timestamp = .ok next) :
    next.delegationPlan = record.delegationPlan := by
  rw [expireLongHorizon] at h
  split at h
  · rw [Except.ok.inj h]
  · split_ifs at h
    · rw [Except.ok.inj h]
    · rw [delegationPlan_auditSession h]

/-- Expiry throws for a record exactly when an audit is full. -/
lemma expireRecord_ok_iff (record : TaskRecord) (now : Timestamp) :
    (∃ next, expireRecord record now = .ok next)
      ↔ ¬(sessionAuditFull record ∨ planAuditFull record) := by
  constructor
  · rintro ⟨next, h⟩
    obtain ⟨r1, hsession, h⟩ := except_bind_eq_ok.mp h
    obtain ⟨r2, hplan, -⟩ := except_bind_eq_ok.mp h
    have hkept := delegationPlan_expireLongHorizon hsession
    rintro (hfull | hfull)
    · exact (expireLongHorizon_ok_iff _ _).mp ⟨r1, hsession⟩ hfull
    · exact (expireDelegation_ok_iff _ _).mp ⟨r2, hplan⟩ (by rwa [planAuditFull, hkept])
  · intro hroom
    obtain ⟨r1, hsession⟩ := (expireLongHorizon_ok_iff { record with
      delivery := .expired
      state := .rejected
      approval := .expired
      safeErrorCode := some "TASK_EXPIRED" } now).mpr fun h => hroom (.inl h)
    have hkept := delegationPlan_expireLongHorizon hsession
    obtain ⟨r2, hplan⟩ := (expireDelegation_ok_iff r1 now).mpr fun h =>
      hroom (.inr (by rwa [planAuditFull, hkept] at h))
    refine ⟨_, except_bind_eq_ok.mpr ⟨r1, hsession, except_bind_eq_ok.mpr ⟨r2, hplan, rfl⟩⟩⟩

variable (now : Timestamp)

/-- What expiry leaves of a record. -/
def expireOrThrow (record : TaskRecord) : Except TaskError TaskRecord :=
  if isExpiryDue record now then
    match expireRecord record now with
    | .ok next => .ok next
    | .error (error, _) => .error error
  else .ok record

/-- What the reconciliation of completions leaves of a record. -/
def reconciled (record : TaskRecord) : TaskRecord :=
  (completeOutgoingSingleStageFromVerifiedArtifact record now).getD record

lemma set_current (focus : RecordFocus) : focus.set focus.current = focus := rfl

lemma reconcileCompletion_spec (focus : RecordFocus) (w : World) :
    match (reconcileCompletion now focus).exec w with
    | (.ok pass, _) => ∃ record, Except.ok (ε := TaskError) (reconciled now focus.current) = .ok record
        ∧ pass.state = (focus.set record).state
    | (.error error, _) => Except.ok (α := TaskRecord) (reconciled now focus.current) = .error error := by
  rw [reconcileCompletion]
  split_ifs with h
  · refine ⟨_, rfl, ?_⟩
    rfl
  · refine ⟨_, rfl, ?_⟩
    have hnone : completeOutgoingSingleStageFromVerifiedArtifact focus.current now = none := by
      simpa using h
    rw [reconciled, hnone, Option.getD_none, set_current]

lemma expireIfDue_spec (focus : RecordFocus) (w : World) :
    match (expireIfDue now focus).exec w with
    | (.ok pass, _) => ∃ record, expireOrThrow now focus.current = .ok record
        ∧ pass.state = (focus.set record).state
    | (.error error, _) => expireOrThrow now focus.current = .error error := by
  rw [expireIfDue, expireOrThrow]
  split_ifs with h
  · rw [exec_bind, RecordFocus.change, Change.apply]
    cases hexpire : expireRecord focus.current now with
    | error failure => rfl
    | ok next => exact ⟨next, rfl, rfl⟩
  · exact ⟨_, rfl, rfl⟩

/-- **Durable expiry**: each record is completed from its artifact or expires
where it is due; or the pass throws, because a due record has a full audit. -/
theorem expireDueRecords_spec (state : TaskStore) (w : World) :
    match (expireDueRecords now state).exec w with
    | (.ok pass, _) => ∃ records,
        List.Forall₂ (fun record next => expireOrThrow now (reconciled now record) = .ok next)
          state.records records ∧ pass.state = ⟨records, state.peers⟩
    | (.error error, _) =>
      ∃ record ∈ state.records, expireOrThrow now (reconciled now record) = .error error := by
  have hcompleted := forEachRecord_spec (g := fun record => .ok (reconciled now record))
    (reconcileCompletion_spec now) state w
  rw [expireDueRecords, exec_bind]
  rcases hfirst : (forEachRecord (reconcileCompletion now) state).exec w with ⟨error | pass, w'⟩
  · rw [hfirst] at hcompleted
    obtain ⟨record, -, hrecord⟩ := hcompleted
    cases hrecord
  · rw [hfirst] at hcompleted
    obtain ⟨records, hrecords, hstate⟩ := hcompleted
    have hmap : records = state.records.map (reconciled now) := by
      rw [← List.forall₂_eq_eq_eq, List.forall₂_map_right_iff]
      exact hrecords.flip.imp fun _ _ h => (Except.ok.inj h).symm
    have hexpired := forEachRecord_spec (expireIfDue_spec now) pass.state w'
    simp only [exec_bind]
    rcases hsecond : (forEachRecord (expireIfDue now) pass.state).exec w' with ⟨error | last, w''⟩
    · rw [hsecond, hstate, hmap] at hexpired
      obtain ⟨record, hmem, hrecord⟩ := hexpired
      obtain ⟨source, hsource, rfl⟩ := List.mem_map.mp hmem
      exact ⟨source, hsource, hrecord⟩
    · rw [hsecond, hstate, hmap] at hexpired
      obtain ⟨after, hafter, hlast⟩ := hexpired
      exact ⟨after, List.forall₂_map_left_iff.mp hafter, hlast⟩

/-! ### Agreement -/

/-- What the application is shown of the state of a task. -/
structure TaskFace where
  state : CollaborationTaskState
  approval : TaskApprovalState
  delivery : TaskDeliveryState
  safeErrorCode : Option String
  deriving DecidableEq

def recordFace (record : TaskRecord) : TaskFace :=
  ⟨record.state, record.approval, record.delivery, record.safeErrorCode⟩

def summaryFace (summary : CachedTaskSummary) : TaskFace :=
  ⟨summary.state, summary.approval, summary.delivery, summary.safeErrorCode⟩

/-- The phase of the session of a record. -/
def sessionPhase (record : TaskRecord) : Option LongHorizonPhase :=
  record.longHorizon.map fun session => session.phase

/-- The projections of a record at a time show what another record holds. -/
def ProjectionAgrees (record after : TaskRecord) : Prop :=
  recordFace (projectCurrentRecord record now) = recordFace after
    ∧ sessionPhase (projectCurrentRecord record now) = sessionPhase after
    ∧ summaryFace (projectCurrentSummary (summaryEntry record) now) = recordFace after

/-- The stored records after `expireDueRecords`: if it throws, nothing is
saved. -/
def storedAfterExpiry (state : TaskStore) (w : World) : List TaskRecord :=
  match ((expireDueRecords now state).exec w).1 with
  | .ok pass => pass.state.records
  | .error _ => state.records

/-- A record that expires: it is due, and no verified artifact completes it. -/
def expires (record : TaskRecord) : Bool :=
  !canRecoverVerifiedSingleStageCompletion record && isExpiryDue record now

lemma shouldProjectExpiry_eq (record : TaskRecord) (now : Timestamp) :
    shouldProjectExpiry record.state record.delivery (effectiveTaskExpiry record) now
      = isExpiryDue record now := by
  rw [shouldProjectExpiry, isExpiryDue]
  cases record.state <;> rfl

/-- The faces of a record that is completed from its artifact. -/
def completedFace : TaskFace := ⟨.completed, .approvedOnce, .acknowledged, none⟩

/-- The faces of a record that has expired. -/
def expiredFace : TaskFace := ⟨.rejected, .expired, .expired, some "TASK_EXPIRED"⟩

/-- What the read model shows of the record itself. -/
lemma recordFace_projectCurrentRecord (record : TaskRecord) (now : Timestamp) :
    recordFace (projectCurrentRecord record now)
      = if canRecoverVerifiedSingleStageCompletion record then completedFace
        else if expires now record then expiredFace else recordFace record := by
  rw [projectCurrentRecord, expires, shouldProjectExpiry_eq]
  split_ifs <;> simp_all [recordFace, completedFace, expiredFace]

/-- What the read model shows of the summary. -/
lemma summaryFace_projectCurrentSummary (record : TaskRecord) (now : Timestamp) :
    summaryFace (projectCurrentSummary (summaryEntry record) now)
      = if canRecoverVerifiedSingleStageCompletion record then completedFace
        else if expires now record then expiredFace
        else { recordFace record with
          safeErrorCode := record.safeErrorCode.filter fun code => code != "" } := by
  rw [projectCurrentSummary, expires, summaryEntry]
  simp only [projectSummary, shouldProjectExpiry_eq]
  split_ifs <;> simp_all [recordFace, summaryFace, completedFace, expiredFace]

lemma sessionPhase_projectCurrentRecord (record : TaskRecord) (now : Timestamp) :
    sessionPhase (projectCurrentRecord record now)
      = if expires now record then record.longHorizon.map fun _ => .expired
        else sessionPhase record := by
  rw [projectCurrentRecord, expires, shouldProjectExpiry_eq]
  split_ifs <;> simp_all [sessionPhase, Function.comp_def]

variable {now : Timestamp}

/-- A record that no artifact completes is left alone. -/
lemma reconciled_of_not_recoverable (h : canRecoverVerifiedSingleStageCompletion record = false) :
    reconciled now record = record := by
  rw [canRecoverVerifiedSingleStageCompletion] at h
  rw [reconciled, completeOutgoingSingleStageFromVerifiedArtifact]
  split_ifs at h with hother
  · rw [if_pos hother, Option.getD_none]
  · have hstate : ¬completesFromArtifact record = true := by
      rw [completesFromArtifact]
      cases hs : record.state <;> simp_all
    rw [if_neg hother, if_pos hstate, Option.getD_none]

/-- A record is completed from its artifact by the store where the read model
shows it as completed. -/
lemma recordFace_reconciled (now : Timestamp)
    (h : canRecoverVerifiedSingleStageCompletion record = true) :
    recordFace (reconciled now record) = completedFace := by
  rw [canRecoverVerifiedSingleStageCompletion] at h
  rw [reconciled, completeOutgoingSingleStageFromVerifiedArtifact]
  split_ifs at h with hother
  have hstate : completesFromArtifact record = true := by
    rw [completesFromArtifact]
    cases hs : record.state <;> simp_all
  rw [if_neg hother, if_neg (not_not.mpr hstate)]
  split_ifs with hdone
  · obtain ⟨hstate, happroval, hdelivery, -, -, hcode⟩ := hdone
    simp [recordFace, completedFace, hstate, happroval, hdelivery, hcode]
  · rfl

/-- Expiry reaches a record exactly where the read model shows it as expired. -/
lemma isExpiryDue_reconciled (record : TaskRecord) (now : Timestamp) :
    isExpiryDue (reconciled now record) now = expires now record := by
  rw [expires]
  cases h : canRecoverVerifiedSingleStageCompletion record with
  | false => rw [reconciled_of_not_recoverable h, Bool.not_false, Bool.true_and]
  | true =>
    have hface := recordFace_reconciled now h
    simp only [recordFace, completedFace, TaskFace.mk.injEq] at hface
    obtain ⟨hstate, -, hdelivery, -⟩ := hface
    simp [isExpiryDue, hstate, hdelivery, isTerminalTaskState]

lemma sessionPhase_reconciled (record : TaskRecord) (now : Timestamp) :
    sessionPhase (reconciled now record) = sessionPhase record := by
  rw [reconciled, completeOutgoingSingleStageFromVerifiedArtifact]
  split_ifs <;> rfl

lemma sessionPhase_eq (record : TaskRecord) :
    sessionPhase record = record.outline.session.map fun session => session.phase := by
  simp [sessionPhase, CollaborationTaskTransportRecord.outline, RecordCore.outline,
    CollaborationTaskTransportRecord.core, LongHorizonTaskState.outline, Function.comp_def]

lemma expire_phase (session : SessionOutline) : session.expire.phase = .expired := by
  rw [SessionOutline.expire]
  split_ifs with h
  · exact h
  · rfl

/-- The face of a record that has expired, and of its session. -/
lemma face_expireRecord {next : TaskRecord} (h : expireRecord record now = .ok next) :
    recordFace next = expiredFace
      ∧ sessionPhase next = record.longHorizon.map fun _ => .expired := by
  have houtline := outline_expireRecord h
  have hstate : next.state = .rejected := congrArg Outline.state houtline
  have happroval : next.approval = .expired := congrArg Outline.approval houtline
  have hdelivery : next.delivery = .expired := congrArg Outline.delivery houtline
  have hcode : next.safeErrorCode = some "TASK_EXPIRED" := congrArg Outline.safeErrorCode houtline
  have hsession : next.outline.session = record.outline.session.map SessionOutline.expire :=
    congrArg Outline.session houtline
  refine ⟨by rw [recordFace, hstate, happroval, hdelivery, hcode, expiredFace], ?_⟩
  rw [sessionPhase_eq, hsession]
  simp [CollaborationTaskTransportRecord.outline, RecordCore.outline,
    CollaborationTaskTransportRecord.core, Function.comp_def, expire_phase]

/-- A record that passed the validation of the store shows its error code. -/
lemma safeErrorCode_ne_empty (h : RecordValid record) : record.safeErrorCode ≠ some "" := by
  intro hcode
  have hpattern := h.safeErrorCode
  rw [hcode, Option.all_some] at hpattern
  exact absurd hpattern (by decide)

/-- Where no audit is full, the projections of a record agree with its expiry. -/
lemma projectionAgrees_of_ok {next : TaskRecord} (hcode : record.safeErrorCode ≠ some "")
    (h : expireOrThrow now (reconciled now record) = .ok next) :
    ProjectionAgrees now record next := by
  rw [expireOrThrow, isExpiryDue_reconciled] at h
  cases hrecover : canRecoverVerifiedSingleStageCompletion record with
  | true =>
    have hexpires : expires now record = false := by simp [expires, hrecover]
    rw [hexpires] at h
    obtain rfl := Except.ok.inj h
    rw [ProjectionAgrees, recordFace_projectCurrentRecord, sessionPhase_projectCurrentRecord,
      summaryFace_projectCurrentSummary, if_pos hrecover, if_pos hrecover, hexpires,
      recordFace_reconciled now hrecover, sessionPhase_reconciled]
    exact ⟨rfl, rfl, rfl⟩
  | false =>
    rw [reconciled_of_not_recoverable hrecover] at h
    rw [ProjectionAgrees, recordFace_projectCurrentRecord, sessionPhase_projectCurrentRecord,
      summaryFace_projectCurrentSummary, hrecover]
    cases hexpires : expires now record with
    | true =>
      rw [hexpires, if_pos rfl] at h
      cases hexpire : expireRecord record now with
      | error failure => simp [hexpire] at h
      | ok after =>
        rw [hexpire] at h
        obtain rfl := Except.ok.inj h
        obtain ⟨hface, hphase⟩ := face_expireRecord hexpire
        simp [hface, hphase]
    | false =>
      rw [hexpires] at h
      obtain rfl := Except.ok.inj h
      have hshown : record.safeErrorCode.filter (fun code => code != "")
          = record.safeErrorCode := by
        cases hc : record.safeErrorCode with
        | none => rfl
        | some code =>
          rw [hc] at hcode
          simp_all
      simp [hshown, recordFace]

lemma not_recoverable_of_expires (h : expires now record = true) :
    canRecoverVerifiedSingleStageCompletion record = false := by
  rw [expires, Bool.and_eq_true, Bool.not_eq_true'] at h
  exact h.1

/-- A record that is due is shown as expired, which it is not in the store. -/
lemma not_projectionAgrees_of_expires (h : expires now record = true) :
    ¬ProjectionAgrees now record record := by
  rintro ⟨hface, -⟩
  rw [recordFace_projectCurrentRecord, not_recoverable_of_expires h, h] at hface
  simp only [Bool.false_eq_true, if_false, if_true, expiredFace, recordFace,
    TaskFace.mk.injEq] at hface
  obtain ⟨hstate, -, hdelivery, -⟩ := hface
  rw [expires, isExpiryDue, ← hstate, ← hdelivery] at h
  simp [isTerminalTaskState] at h

/-- A record that expires with a full audit makes the expiry throw, and some
record that is due is not what the read model shows. -/
lemma projections_disagree_of_full {state : TaskStore} {w : World} (hmem : record ∈ state.records)
    (hexpires : expires now record = true) (hfull : sessionAuditFull record ∨ planAuditFull record) :
    ¬List.Forall₂ (ProjectionAgrees now) state.records (storedAfterExpiry now state w) := by
  intro hagree
  have hspec := expireDueRecords_spec now state w
  rw [storedAfterExpiry] at hagree
  rcases hrun : (expireDueRecords now state).exec w with ⟨error | pass, w'⟩
  · rw [hrun] at hspec hagree
    obtain ⟨failed, hfailed, hthrow⟩ := hspec
    -- nothing was saved, and the record that made the pass throw is shown as expired
    rw [expireOrThrow, isExpiryDue_reconciled] at hthrow
    split_ifs at hthrow with hfailedexpires
    exact not_projectionAgrees_of_expires hfailedexpires
      (List.forall₂_same.mp hagree failed hfailed)
  · rw [hrun] at hspec
    obtain ⟨records, hrecords, -⟩ := hspec
    obtain ⟨next, -, hnext⟩ := exists_of_mem_left hrecords hmem
    rw [expireOrThrow, isExpiryDue_reconciled, if_pos hexpires,
      reconciled_of_not_recoverable (not_recoverable_of_expires hexpires)] at hnext
    refine (expireRecord_ok_iff record now).mp ?_ hfull
    cases hexpire : expireRecord record now with
    | error failure => simp [hexpire] at hnext
    | ok after => exact ⟨after, rfl⟩

/-- Where every record that expires has room in its audits, the expiry does not
throw, and the read model shows what it leaves. -/
lemma projections_agree_of_room {state : TaskStore}
    (hvalid : validateTaskTransportStoreState state = .ok ()) {w : World}
    (hroom : ∀ record ∈ state.records, expires now record = true →
      ¬(sessionAuditFull record ∨ planAuditFull record)) :
    List.Forall₂ (ProjectionAgrees now) state.records (storedAfterExpiry now state w) := by
  have hspec := expireDueRecords_spec now state w
  rw [storedAfterExpiry]
  rcases hrun : (expireDueRecords now state).exec w with ⟨error | pass, w'⟩
  · rw [hrun] at hspec
    obtain ⟨record, hmem, hthrow⟩ := hspec
    rw [expireOrThrow, isExpiryDue_reconciled] at hthrow
    split_ifs at hthrow with hexpires
    rw [reconciled_of_not_recoverable (not_recoverable_of_expires hexpires)] at hthrow
    obtain ⟨next, hnext⟩ := (expireRecord_ok_iff record now).mpr (hroom record hmem hexpires)
    simp [hnext] at hthrow
  · rw [hrun] at hspec
    obtain ⟨records, hrecords, hstate⟩ := hspec
    show List.Forall₂ (ProjectionAgrees now) state.records pass.state.records
    rw [hstate]
    have hcodes : ∀ record ∈ state.records, record.safeErrorCode ≠ some "" :=
      fun record hmem => safeErrorCode_ne_empty (recordValid_of_mem hvalid hmem)
    exact ((List.forall₂_and_left _ _).mpr ⟨hcodes, hrecords⟩).imp fun record next h =>
      projectionAgrees_of_ok h.1 h.2

/-- **Projection and expiry**: the read model shows of every record what the
store holds after the expiry of the records that are due, exactly if no record
that expires has a full audit. -/
theorem projections_agree_iff {state : TaskStore}
    (hvalid : validateTaskTransportStoreState state = .ok ()) (now : Timestamp) (w : World) :
    List.Forall₂ (ProjectionAgrees now) state.records (storedAfterExpiry now state w)
      ↔ ∀ record ∈ state.records, expires now record = true →
          ¬(sessionAuditFull record ∨ planAuditFull record) := by
  constructor
  · intro hagree record hmem hexpires hfull
    exact projections_disagree_of_full hmem hexpires hfull hagree
  · exact projections_agree_of_room hvalid

/-- An ongoing task whose owner has asked for a pause again and again while
its first stage is running: its audit is full. -/
def crowdedSession : LongHorizonTaskState :=
  { sampleSession with
    pauseRequested := true
    audit := (List.range 256).map fun index => sampleAudit (index + 1) .pauseRequested }

def crowdedRecord : TaskRecord :=
  { sampleTaskRecord with
    request := { sampleTaskRequest with executionMode := some .longHorizon }
    statusRevision := 1
    attachmentsReady := true
    longHorizon := some crowdedSession }

lemma crowdedRecord_valid :
    validateTaskTransportStoreState ⟨[crowdedRecord], []⟩ = .ok () := by decide +kernel

/-- When the lease of the crowded task has run out, it is shown as expired, and
no record of the store can expire. -/
theorem projection_disagrees :
    ¬∀ (state : TaskStore) (now : Timestamp) (w : World),
      validateTaskTransportStoreState state = .ok () →
      List.Forall₂ (ProjectionAgrees now) state.records (storedAfterExpiry now state w) := by
  intro hagree
  exact projections_disagree_of_full (List.mem_singleton.mpr rfl) (by decide +kernel)
    (.inl (by decide +kernel)) (hagree ⟨[crowdedRecord], []⟩ 1000 initialWorld crowdedRecord_valid)

/-- The same task with room in its audit: once its lease has run out it expires, and is shown
as it is stored. -/
def roomyRecord : TaskRecord :=
  let session := { crowdedSession with audit := crowdedSession.audit.take 2 }
  { crowdedRecord with longHorizon := some session }

theorem projections_agree_iff_roomy :
    expires 1000 roomyRecord = true ∧ List.Forall₂ (ProjectionAgrees 1000) [roomyRecord]
      (storedAfterExpiry 1000 ⟨[roomyRecord], []⟩ initialWorld) :=
  have hvalid : validateTaskTransportStoreState ⟨[roomyRecord], []⟩ = .ok () := by decide +kernel
  ⟨by decide +kernel, (projections_agree_iff hvalid 1000 initialWorld).mpr (by decide +kernel)⟩

end TetiBot

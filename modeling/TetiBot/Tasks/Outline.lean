import TetiBot.Tasks.Changes

/-
The outline of a record: what the invariants of a task are about.

* `Outline`: the state of a task, with the outlines of its session, of the
  stages of the session, and of the plan and its steps.  Progress, prompts,
  timestamps and digests are left out.
* `Outline.expire`, `Outline.takeStatus`: what expiry and a status of the host
  do to an outline.
* `outline_expireRecord`, `outline_applyStatus`: the edits of a record do this.
  An edit that succeeds has appended all of its audit events, so the outline
  does not mention the bounds of the audits.
-/

namespace TetiBot

open Library

/-! ### Outlines -/

structure StageOutline where
  stageIndex : Nat
  executionTaskId : String
  /-- The supplemental input that the stage consumed. -/
  inputId : Option String
  state : LongHorizonStageState
  deriving DecidableEq

structure SessionOutline where
  phase : LongHorizonPhase
  currentStageIndex : Nat
  pauseRequested : Bool
  /-- The supplemental input that is pending. -/
  pending : Option String
  stages : List StageOutline
  /-- How many artifacts were published. -/
  published : Nat
  continuationExpiresAt : Timestamp
  renewalCount : Nat
  /-- The actions in the audit. -/
  actions : List LongHorizonAuditAction
  /-- The supplemental inputs in the audit. -/
  received : List String
  deriving DecidableEq

structure StepOutline where
  stepId : String
  stepIndex : Nat
  /-- The step is executed by a child agent. -/
  isChild : Bool
  state : DelegationStepState
  executionTaskId : Option String
  deriving DecidableEq

structure PlanOutline where
  phase : DelegationPlanPhase
  currentStepIndex : Nat
  steps : List StepOutline
  deriving DecidableEq

structure Outline where
  direction : TaskTransportDirection
  peerTetiId : TetiId
  protocolVersion : Nat
  request : CollaborationTaskRequest
  state : CollaborationTaskState
  approval : TaskApprovalState
  delivery : TaskDeliveryState
  statusRevision : Nat
  statusPending : Bool
  statusAcknowledgedRevision : Option Nat
  artifacts : List CollaborationTaskArtifact
  session : Option SessionOutline
  plan : Option PlanOutline
  safeErrorCode : Option String

def LongHorizonStage.outline (stage : LongHorizonStage) : StageOutline :=
  ⟨stage.stageIndex, stage.executionTaskId, stage.inputId, stage.state⟩

/-- The supplemental input that an audit event is about. -/
def LongHorizonAuditEvent.receivedInput (event : LongHorizonAuditEvent) : Option String :=
  if event.action = .inputReceived then event.inputId else none

def LongHorizonTaskState.outline (session : LongHorizonTaskState) : SessionOutline where
  phase := session.phase
  currentStageIndex := session.currentStageIndex
  pauseRequested := session.pauseRequested
  pending := session.pendingInput.map fun input => input.inputId
  stages := session.stages.map LongHorizonStage.outline
  published := session.artifacts.length
  continuationExpiresAt := session.continuationExpiresAt
  renewalCount := session.renewalCount
  actions := session.audit.map fun event => event.action
  received := session.audit.filterMap LongHorizonAuditEvent.receivedInput

def DelegationStep.outline : DelegationStep → StepOutline
  | .childExecution step => ⟨step.stepId, step.stepIndex, true, step.state, step.executionTaskId⟩
  | .artifactAggregation step => ⟨step.stepId, step.stepIndex, false, step.state, none⟩

def DelegationPlanState.outline (plan : DelegationPlanState) : PlanOutline :=
  ⟨plan.phase, plan.currentStepIndex, plan.steps.map DelegationStep.outline⟩

/-- The outline of a record is that of its core. -/
def RecordCore.outline (core : RecordCore) : Outline where
  direction := core.direction
  peerTetiId := core.peerTetiId
  protocolVersion := core.protocolVersion
  request := core.request
  state := core.state
  approval := core.approval
  delivery := core.delivery
  statusRevision := core.statusRevision
  statusPending := core.statusPending
  statusAcknowledgedRevision := core.statusAcknowledgedRevision
  artifacts := core.artifacts
  session := core.longHorizon.map LongHorizonTaskState.outline
  plan := core.delegationPlan.map DelegationPlanState.outline
  safeErrorCode := core.safeErrorCode

def CollaborationTaskTransportRecord.outline (record : TaskRecord) : Outline := record.core.outline

/-! ### What happens to an outline -/

namespace SessionOutline

/-- Append an event to the audit. -/
def record (action : LongHorizonAuditAction) (inputId : Option String)
    (session : SessionOutline) : SessionOutline :=
  { session with
    actions := session.actions ++ [action]
    received := session.received ++ (if action = .inputReceived then inputId.toList else []) }

/-- Append events that are about no input to the audit. -/
def note (actions : List LongHorizonAuditAction) (session : SessionOutline) : SessionOutline :=
  { session with actions := session.actions ++ actions }

/-- The lease of the session runs out. -/
def expire (session : SessionOutline) : SessionOutline :=
  if session.phase = .expired then session
  else { session with
    phase := .expired
    pauseRequested := false
    pending := none
    actions := session.actions ++ [.expired] }

end SessionOutline

namespace PlanOutline

/-- The plan is canceled, with its first working step. -/
def cancel (plan : PlanOutline) : PlanOutline :=
  { plan with
    phase := .canceled
    steps := updateFirst (fun step => step.state == .working)
      (fun step => { step with state := .canceled }) plan.steps }

/-- The task of the plan expires. -/
def expire (plan : PlanOutline) : PlanOutline :=
  if plan.phase = .completed ∨ plan.phase = .failed ∨ plan.phase = .canceled then plan
  else plan.cancel

end PlanOutline

namespace Outline

def mapSession (f : SessionOutline → SessionOutline) (outline : Outline) : Outline :=
  { outline with session := outline.session.map f }

def mapPlan (f : PlanOutline → PlanOutline) (outline : Outline) : Outline :=
  { outline with plan := outline.plan.map f }

/-- The task expires. -/
def expire (outline : Outline) : Outline :=
  { (outline.mapSession SessionOutline.expire).mapPlan PlanOutline.expire with
    state := .rejected
    approval := .expired
    delivery := .expired
    safeErrorCode := some "TASK_EXPIRED"
    statusRevision :=
      if outline.direction = .incoming then outline.statusRevision + 1 else outline.statusRevision
    statusPending := outline.direction == .incoming || outline.statusPending }

/-- The state that the host reports is taken over. -/
def takeStatus (payload : TetiTaskStatusPayload) (outline : Outline) : Outline :=
  { outline with
    statusRevision := payload.revision
    state := payload.state
    approval := remoteApproval outline.approval payload.state
    safeErrorCode := payload.safeErrorCode }

end Outline

/-! ### What an edit does to the outline -/

lemma record_none (action : LongHorizonAuditAction) (session : SessionOutline) :
    session.record action none = session.note [action] := by
  simp [SessionOutline.record, SessionOutline.note]

@[simp] lemma outline_markTaskAttention (record : TaskRecord) (change : TaskAttentionChangeInput) :
    (markTaskAttention record change).outline = record.outline := rfl

lemma state_outline (step : DelegationStep) : step.outline.state = step.state := by
  cases step <;> rfl

variable {record next : TaskRecord} {event : LongHorizonAuditInput} {timestamp : Timestamp}

/-- Auditing records the event in the outline. -/
lemma outline_auditEvent (h : auditSession record event timestamp = .ok next) :
    next.outline = record.outline.mapSession fun session =>
      session.record event.action event.inputId := by
  unfold auditSession at h
  split at h
  · next hnone =>
    obtain rfl := Except.ok.inj h
    simp [CollaborationTaskTransportRecord.outline, RecordCore.outline,
      CollaborationTaskTransportRecord.core, Outline.mapSession, hnone]
  · next session hsome =>
    split at h
    · next audited haudit =>
      obtain rfl := Except.ok.inj h
      simp only [appendLongHorizonAudit, except_bind_eq_ok] at haudit
      obtain ⟨_, -, haudit⟩ := haudit
      obtain rfl := Except.ok.inj haudit
      simp [CollaborationTaskTransportRecord.outline, RecordCore.outline,
        CollaborationTaskTransportRecord.core, Outline.mapSession, hsome,
        LongHorizonTaskState.outline, SessionOutline.record, List.filterMap_append]
      by_cases haction : event.action = .inputReceived <;> cases event.inputId <;>
        simp [haction, LongHorizonAuditEvent.receivedInput]
    · cases h

lemma outline_auditSession (hinput : event.inputId = none)
    (h : auditSession record event timestamp = .ok next) :
    next.outline = record.outline.mapSession fun session => session.note [event.action] := by
  rw [outline_auditEvent h, hinput]
  simp only [record_none]

lemma outline_auditPlan {event : DelegationAuditInput}
    (h : auditPlan record event timestamp = .ok next) : next.outline = record.outline := by
  unfold auditPlan at h
  split at h
  · obtain rfl := Except.ok.inj h
    rfl
  · next plan hsome =>
    split at h
    · next audited haudit =>
      obtain rfl := Except.ok.inj h
      simp only [appendDelegationAudit, except_bind_eq_ok] at haudit
      obtain ⟨_, -, haudit⟩ := haudit
      obtain rfl := Except.ok.inj haudit
      simp [CollaborationTaskTransportRecord.outline, RecordCore.outline,
        CollaborationTaskTransportRecord.core, hsome, DelegationPlanState.outline]
    · cases h

/-! ### Expiry -/

lemma outline_cancelDelegationPlan {plan : DelegationPlanState} {actor : DelegationAuditActor}
    {code : String} (h : cancelDelegationPlan record plan actor code timestamp = .ok next) :
    next.outline = { record.outline with plan := some plan.outline.cancel } := by
  unfold cancelDelegationPlan at h
  rw [outline_auditPlan h]
  have hsteps : (updateFirst (fun step => step.state == .working)
      (DelegationStep.settled .canceled timestamp code) plan.steps).map DelegationStep.outline
        = updateFirst (fun step => step.state == .working)
          (fun step => { step with state := .canceled }) (plan.steps.map DelegationStep.outline) :=
    map_updateFirst (fun step => by rw [state_outline]) (fun step => by cases step <;> rfl) _
  simp only [CollaborationTaskTransportRecord.outline, RecordCore.outline,
    CollaborationTaskTransportRecord.core, Option.map_some, DelegationPlanState.outline,
    PlanOutline.cancel, hsteps]

lemma plan_outline {plan : DelegationPlanState} (h : record.delegationPlan = some plan) :
    record.outline.plan = some plan.outline := by
  simp [CollaborationTaskTransportRecord.outline, RecordCore.outline,
    CollaborationTaskTransportRecord.core, h]

lemma plan_outline_none (h : record.delegationPlan = none) : record.outline.plan = none := by
  simp [CollaborationTaskTransportRecord.outline, RecordCore.outline,
    CollaborationTaskTransportRecord.core, h]

lemma session_outline {session : LongHorizonTaskState} (h : record.longHorizon = some session) :
    record.outline.session = some session.outline := by
  simp [CollaborationTaskTransportRecord.outline, RecordCore.outline,
    CollaborationTaskTransportRecord.core, h]

lemma session_outline_none (h : record.longHorizon = none) : record.outline.session = none := by
  simp [CollaborationTaskTransportRecord.outline, RecordCore.outline,
    CollaborationTaskTransportRecord.core, h]

variable {outline : Outline}

lemma mapSession_of_none (h : outline.session = none) (f : SessionOutline → SessionOutline) :
    outline.mapSession f = outline := by
  cases outline
  simp_all [Outline.mapSession]

lemma mapPlan_of_none (h : outline.plan = none) (f : PlanOutline → PlanOutline) :
    outline.mapPlan f = outline := by
  cases outline
  simp_all [Outline.mapPlan]

lemma mapSession_of_fixed {session : SessionOutline} {f : SessionOutline → SessionOutline}
    (h : outline.session = some session) (hf : f session = session) :
    outline.mapSession f = outline := by
  cases outline
  simp_all [Outline.mapSession]

lemma mapPlan_of_fixed {plan : PlanOutline} {f : PlanOutline → PlanOutline}
    (h : outline.plan = some plan) (hf : f plan = plan) : outline.mapPlan f = outline := by
  cases outline
  simp_all [Outline.mapPlan]

lemma SessionOutline.expire_eq_self {session : SessionOutline} (h : session.phase = .expired) :
    session.expire = session := if_pos h

lemma PlanOutline.expire_eq_self {plan : PlanOutline}
    (h : plan.phase = .completed ∨ plan.phase = .failed ∨ plan.phase = .canceled) :
    plan.expire = plan := if_pos h

lemma outline_expireLongHorizon (h : expireLongHorizon record timestamp = .ok next) :
    next.outline = record.outline.mapSession SessionOutline.expire := by
  unfold expireLongHorizon at h
  split at h
  · next hnone =>
    obtain rfl := Except.ok.inj h
    rw [mapSession_of_none (session_outline_none hnone)]
  · next session hsome =>
    split_ifs at h with hexpired
    · obtain rfl := Except.ok.inj h
      exact (mapSession_of_fixed (session_outline hsome) (SessionOutline.expire_eq_self hexpired)).symm
    · rw [outline_auditSession rfl h, Outline.mapSession, Outline.mapSession, session_outline hsome]
      simp [SessionOutline.expire, hexpired, SessionOutline.note,
        CollaborationTaskTransportRecord.outline, RecordCore.outline,
        CollaborationTaskTransportRecord.core, LongHorizonTaskState.outline]

lemma outline_expireDelegation (h : expireDelegation record timestamp = .ok next) :
    next.outline = record.outline.mapPlan PlanOutline.expire := by
  unfold expireDelegation at h
  split at h
  · next hnone =>
    obtain rfl := Except.ok.inj h
    rw [mapPlan_of_none (plan_outline_none hnone)]
  · next plan hsome =>
    split_ifs at h with hended
    · obtain rfl := Except.ok.inj h
      exact (mapPlan_of_fixed (plan_outline hsome) (PlanOutline.expire_eq_self hended)).symm
    · have hexpire : plan.outline.expire = plan.outline.cancel := if_neg hended
      rw [outline_cancelDelegationPlan h, Outline.mapPlan, plan_outline hsome, Option.map_some,
        hexpire]

lemma outline_expireRecord (h : expireRecord record timestamp = .ok next) :
    next.outline = record.outline.expire := by
  obtain ⟨r1, hsession, h⟩ := except_bind_eq_ok.mp h
  obtain ⟨r2, hplan, h⟩ := except_bind_eq_ok.mp h
  obtain rfl := Except.ok.inj h
  rw [apply_ite CollaborationTaskTransportRecord.outline, outline_markTaskAttention, ite_self]
  have hr2 : r2.outline = _ := (outline_expireDelegation hplan).trans
    (congrArg (Outline.mapPlan PlanOutline.expire) (outline_expireLongHorizon hsession))
  calc (expireDeliveries r2 timestamp).outline
      = { r2.outline with
          statusRevision := if r2.outline.direction = .incoming then r2.outline.statusRevision + 1
            else r2.outline.statusRevision
          statusPending := if r2.outline.direction = .incoming then true
            else r2.outline.statusPending } := rfl
    _ = record.outline.expire := by
      rw [hr2]
      cases hdirection : record.direction <;>
        simp [Outline.expire, Outline.mapSession, Outline.mapPlan,
          CollaborationTaskTransportRecord.outline, RecordCore.outline,
          CollaborationTaskTransportRecord.core, hdirection]

/-! ### A status -/

lemma delegationPlan_auditSession (h : auditSession record event timestamp = .ok next) :
    next.delegationPlan = record.delegationPlan := by
  unfold auditSession at h
  split at h
  · obtain rfl := Except.ok.inj h
    rfl
  · split at h
    · obtain rfl := Except.ok.inj h
      rfl
    · cases h

lemma outline_markTaskAttentionIfChanged (record : TaskRecord) (previous : TaskAttentionSnapshot) :
    (markTaskAttentionIfChanged record previous).outline = record.outline := by
  unfold markTaskAttentionIfChanged
  split <;> rfl

lemma outline_markIf (happened : Bool) (record : TaskRecord) (change : TaskAttentionChangeInput) :
    (markIf happened record change).outline = record.outline := by
  unfold markIf
  split <;> rfl

lemma outline_markRemoteTaskAttentionIfChanged (record : TaskRecord)
    (previous : TaskAttentionSnapshot) :
    (markRemoteTaskAttentionIfChanged record previous).outline = record.outline := by
  unfold markRemoteTaskAttentionIfChanged
  split_ifs
  · rfl
  · simp only [outline_markIf]
  · exact outline_markTaskAttentionIfChanged record previous

lemma outline_applyPeerLongHorizon (record : TaskRecord) (payload : TetiTaskStatusPayload) :
    (applyPeerLongHorizon record payload).outline = record.outline := by
  unfold applyPeerLongHorizon
  split
  · rfl
  · split_ifs
    · rfl
    · dsimp only
      split <;> rfl

lemma outline_applyStatus (record : TaskRecord) (payload : TetiTaskStatusPayload)
    (now : Timestamp) :
    (applyStatus record payload now).outline = record.outline.takeStatus payload := by
  have hpeer := fun updated => outline_applyPeerLongHorizon updated payload
  unfold applyStatus
  rw [outline_markRemoteTaskAttentionIfChanged]
  split_ifs with hterminal
  · exact congrArg (fun outline : Outline => { outline with
      safeErrorCode := payload.safeErrorCode }) (hpeer _)
  · exact congrArg (fun outline : Outline => { outline with
      safeErrorCode := payload.safeErrorCode }) (hpeer _)

end TetiBot

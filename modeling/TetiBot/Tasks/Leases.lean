import TetiBot.Tasks.Owner
import TetiBot.Tasks.Outline
import TetiBot.Library.Transition

/-
The continuation lease of a long-horizon task, and the authority of its next stage
(`renewLongHorizon` and `startLongHorizonStage` of `runtime/tasks/service.ts`,
`validateExecutionAuthority` of `core/callability/agent-core.ts`).

* `stageAuthority`: the authority that `executeStage` hands to the executor;
* `validateAuthorityTimes_iff`: its times are accepted exactly if its deadline is to
  come, and within a day;
* `leaseStep`: what approvals, inputs, stages and renewals do to the record of a task, with
  the clock; `renewLongHorizon_renews`: the renewals are those of the source;
* `lease_implies_authority`: when the times of the next authority are accepted.
-/

namespace TetiBot

open Library Library.Program

variable (sha256 : Sha256)

/-! ### The authority of a stage -/

/-- The authority that `executeStage` issues. -/
def stageAuthority (record : TaskRecord) (session : LongHorizonTaskState)
    (workspace : TaskWorkspaceBinding) (input : StageInput) (executionEpoch : Nat)
    (execution : CallableAdapterTaskRequest) (grantId : String) (issuedAt now : Timestamp) :
    ExecutionAuthority :=
  issueExecutionAuthority sha256 execution
    (createExecutionGrant sha256 grantId record.request input.target workspace issuedAt
      (some execution) (input.delegationStep.map fun step => step.workspaceAccess))
    executionEpoch (some (stageDeadline session input.delegationStep now)) now

/-- The longest time that `validateExecutionAuthority` leaves an execution. -/
def maximumExecutionMs : Int := 24 * 60 * 60 * 1000

section

variable {record : TaskRecord} {session : LongHorizonTaskState} {workspace : TaskWorkspaceBinding}
  {input : StageInput} {execution : CallableAdapterTaskRequest}

lemma exec_call_bind {α β : Type} (answer : Nat → α) (f : α → Runtime β) (w : World) :
    (call answer >>= f).exec w = (f (answer w.calls)).exec w.tick := rfl

/-- What `executeStage` hands to the executor carries this authority. -/
lemma executeStage_launches {env : Environment} {handle : ExecutionHandle} {w w' : World}
    (h : (executeStage env sha256 record session workspace input handle execution).exec w
      = (.ok (), w')) :
    ∃ launched, w'.executions = w.executions ++ [launched] ∧ launched.request = execution
      ∧ launched.authority = stageAuthority sha256 record session workspace input
          handle.executionEpoch execution (env.randomUUID (w.calls + 1)) (env.now w.calls)
          (env.now (w.calls + 1 + 1)) := by
  rw [executeStage, currentTime, exec_call_bind, exec_call_bind, exec_call_bind] at h
  obtain ⟨authority, hissued, h⟩ := exec_fromExcept_bind_eq_ok.mp h
  obtain ⟨-, hissued⟩ := failIf_then_eq_ok.mp hissued
  obtain rfl := (congrArg Prod.snd h).symm
  exact ⟨_, rfl, rfl, (Except.ok.inj hissued).symm⟩

/-- The times of an authority that is issued and checked now are accepted exactly if its
deadline is to come, and within a day. -/
lemma validateAuthorityTimes_iff {executionEpoch : Nat} {grantId : String} {now : Timestamp} :
    validateAuthorityTimes (stageAuthority sha256 record session workspace input executionEpoch
        execution grantId now now) now = .ok ()
      ↔ now < stageDeadline session input.delegationStep now
        ∧ stageDeadline session input.delegationStep now ≤ now + maximumExecutionMs := by
  rw [validateAuthorityTimes, failIf_eq_ok]
  simp only [stageAuthority, issueExecutionAuthority, createExecutionGrant, Option.getD_some,
    EXECUTION_GRANT_TTL_MS, maximumExecutionMs]
  unfold Timestamp at *
  omega

/-- The deadline of an execution is the end of the lease, unless a step of a plan sets an
earlier one. -/
lemma stageDeadline_le (delegationStep : Option DelegationChildStep) (now : Timestamp) :
    stageDeadline session delegationStep now ≤ session.continuationExpiresAt := by
  cases delegationStep with
  | none => exact le_refl _
  | some step => exact min_le_left _ _

lemma lt_stageDeadline {delegationStep : Option DelegationChildStep} {now : Timestamp}
    (hlease : now < session.continuationExpiresAt)
    (hstep : ∀ step ∈ delegationStep, validateBudget step.budget = .ok ()) :
    now < stageDeadline session delegationStep now := by
  cases delegationStep with
  | none => exact hlease
  | some step =>
    have htimeout := failIf_eq_ok.mp (hstep step rfl)
    refine lt_min hlease ?_
    unfold Timestamp at *
    omega

end

/-! ### Steps -/

/-- What an approval, a supplemental input, the start and the result of a stage change, and
a renewal.  A renewal reads the clock to look at the lease, to set the next one, and to note
the change. -/
inductive LeaseEvent
  | planAttached (plan : DelegationPlanState) (now : Timestamp)
  | stepBound (stepId : String) (workspaceRevision : Nat) (now : Timestamp)
  | inputReceived (payload : TetiTaskInputPayload) (instructionDigest : String) (now : Timestamp)
  | stageStarted (workspace : TaskWorkspaceBinding) (begun : StageStart)
  | stagePublished (executionTaskId : String) (artifact : CollaborationTaskArtifact)
      (revision : Option Nat) (checkpointId checkpointDigest requestId : String) (now : Timestamp)
  | delegationStepPublished (executionTaskId : String) (artifact : CollaborationTaskArtifact)
      (revision : Option Nat) (checkpointId checkpointDigest : String) (now : Timestamp)
  | renewed (ttlMs : Int) (checkedAt now notedAt : Timestamp)

/-- The lease that `renewLongHorizon` grants. -/
def renewedLease (record : TaskRecord) (ttlMs : Int) (checkedAt now : Timestamp) :
    Option Timestamp :=
  record.longHorizon.bind fun session =>
    if checkedAt < session.continuationExpiresAt
        ∧ sessionEnded session = false ∧ atBoundary session = true
        ∧ ¬(ttlMs < 60000 ∨ LONG_HORIZON_LIMITS.maximumRenewalMs < ttlMs
          ∨ LONG_HORIZON_LIMITS.maximumRenewals ≤ session.renewalCount)
        ∧ ¬record.request.createdAt + LONG_HORIZON_LIMITS.maximumLifetimeMs
          < max now session.continuationExpiresAt + ttlMs then
      some (max now session.continuationExpiresAt + ttlMs)
    else none

/-- A change is made at an instant. -/
def changeAt (change : Change) (now : Timestamp) (s : TaskRecord × Timestamp) :
    Option (TaskRecord × Timestamp) :=
  match change.apply s.1 with
  | .ok next => if s.2 ≤ now then some (next, now) else none
  | .error _ => none

variable (s : TaskRecord × Timestamp)

/-- What an event makes of the record of a task and the clock. -/
def leaseStep : LeaseEvent → Option (TaskRecord × Timestamp)
  | .planAttached plan now => changeAt (.planAttached plan) now s
  | .stepBound stepId workspaceRevision now => changeAt (.stepBound stepId workspaceRevision) now s
  | .inputReceived payload instructionDigest now =>
    changeAt (.inputReceived payload instructionDigest now) now s
  | .stageStarted workspace begun =>
    s.1.longHorizon.bind fun session => changeAt (.stageStarted session workspace begun) begun.now s
  | .stagePublished executionTaskId artifact revision checkpointId checkpointDigest requestId now =>
    (runningStage s.1 executionTaskId).bind fun stage =>
      changeAt (.stagePublished stage artifact revision checkpointId checkpointDigest requestId now)
        now s
  | .delegationStepPublished executionTaskId artifact revision checkpointId checkpointDigest now =>
    (runningStage s.1 executionTaskId).bind fun stage =>
      (delegationStepOf s.1 executionTaskId).bind fun step =>
        changeAt (.delegationStepPublished stage step artifact revision checkpointId
          checkpointDigest now) now s
  | .renewed ttlMs checkedAt now notedAt =>
    if s.2 ≤ checkedAt ∧ checkedAt ≤ now ∧ now ≤ notedAt then
      (renewedLease s.1 ttlMs checkedAt now).bind fun lease =>
        changeAt (.renewed lease notedAt) notedAt s
    else none

/-- A renewal that carries the lease no further than a day. -/
def renewsWithinADay : LeaseEvent → Bool
  | .renewed ttlMs _ now _ =>
    s.1.longHorizon.all fun session =>
      max now session.continuationExpiresAt + ttlMs ≤ now + maximumExecutionMs
  | _ => true

lemma requireIncomingLongHorizon_ok {state : TaskStore} {taskId : String} {now : Timestamp}
    {focus : RecordFocus} {session : LongHorizonTaskState} {w w' : World}
    (h : (requireIncomingLongHorizon state taskId now).exec w = (.ok (focus, session), w')) :
    w' = w ∧ findIncoming state taskId = some focus ∧ focus.current.longHorizon = some session
      ∧ now < session.continuationExpiresAt ∧ sessionEnded session = false := by
  rw [requireIncomingLongHorizon, requireTaskId, exec_throwIf_bind_eq_ok] at h
  obtain ⟨-, h⟩ := h
  cases hfound : findIncoming state taskId with
  | none => simp [hfound, orThrow, exec_bind] at h
  | some found =>
    cases hsession : found.current.longHorizon with
    | none => simp [hfound, hsession, orThrow, exec_bind] at h
    | some known =>
      simp only [hfound, hsession, orThrow, pure_bind] at h
      split_ifs at h with hlease
      · rw [expireAndThrow] at h
        split at h <;> simp [exec_bind] at h
      · obtain ⟨hended, h⟩ := exec_throwIf_bind_eq_ok.mp h
        simp at h
        obtain ⟨⟨rfl, rfl⟩, rfl⟩ := h
        exact ⟨rfl, rfl, hsession, lt_of_not_ge hlease, by simpa using hended⟩

/-- What `renewLongHorizon` does to the record of the task. -/
lemma renewLongHorizon_renews {env : Environment} {taskId : String} {ttlMs : Int} {w w' : World}
    (h : (renewLongHorizon env taskId ttlMs).exec w = (.ok (), w')) :
    ∃ focus checkedAt now notedAt lease next, findIncoming w.store taskId = some focus
      ∧ renewedLease focus.current ttlMs checkedAt now = some lease
      ∧ (Change.renewed lease notedAt).apply focus.current = .ok next := by
  rw [renewLongHorizon] at h
  obtain ⟨state, w₁, hload, h⟩ := exec_bind_eq_ok.mp h
  obtain ⟨hkept, rfl⟩ := (loadState_triple (P := fun v => v.store = w.store) (E := fun _ _ => True)
    (fun _ => id) (fun _ => id) fun _ _ _ => trivial).ok rfl hload
  rw [currentTime, exec_call_bind] at h
  obtain ⟨⟨focus, session⟩, w₂, hrequired, h⟩ := exec_bind_eq_ok.mp h
  obtain ⟨rfl, hfound, hsession, hlease, hended⟩ := requireIncomingLongHorizon_ok hrequired
  obtain ⟨hboundary, h⟩ := exec_throwIf_bind_eq_ok.mp h
  obtain ⟨hlimits, h⟩ := exec_throwIf_bind_eq_ok.mp h
  rw [exec_call_bind] at h
  obtain ⟨hlifetime, h⟩ := exec_throwIf_bind_eq_ok.mp h
  rw [exec_call_bind, RecordFocus.change] at h
  split at h
  · simp [exec_bind] at h
  · next next happly =>
    refine ⟨focus, env.now w₁.calls, env.now w₁.tick.calls, env.now w₁.tick.tick.calls, _, next,
      hkept ▸ hfound, ?_, happly⟩
    rw [renewedLease, hsession, Option.bind_some,
      if_pos ⟨hlease, hended, by simpa using hboundary, hlimits, hlifetime⟩]

/-! ### The lease of a record -/

def leaseOf (record : TaskRecord) : Option Timestamp :=
  record.outline.session.map SessionOutline.continuationExpiresAt

section

variable {record next : TaskRecord} {now : Timestamp}

lemma leaseOf_eq_some {lease : Timestamp} : leaseOf record = some lease
    ↔ ∃ session, record.longHorizon = some session ∧ session.continuationExpiresAt = lease := by
  simp [leaseOf, CollaborationTaskTransportRecord.outline, RecordCore.outline,
    CollaborationTaskTransportRecord.core, LongHorizonTaskState.outline]

lemma leaseOf_editSession {f : LongHorizonTaskState → LongHorizonTaskState}
    (hf : ∀ session, (f session).continuationExpiresAt = session.continuationExpiresAt) :
    leaseOf (editSession record f) = leaseOf record := by
  simp [leaseOf, editSession, CollaborationTaskTransportRecord.outline, RecordCore.outline,
    CollaborationTaskTransportRecord.core, LongHorizonTaskState.outline, Function.comp_def, hf]

lemma leaseOf_auditSession {event : LongHorizonAuditInput}
    (h : auditSession record event now = .ok next) : leaseOf next = leaseOf record := by
  rw [leaseOf, outline_auditEvent h, leaseOf, Outline.mapSession, Option.map_map]
  rfl

lemma leaseOf_auditPlan {event : DelegationAuditInput} (h : auditPlan record event now = .ok next) :
    leaseOf next = leaseOf record := by
  rw [leaseOf, outline_auditPlan h, leaseOf]

lemma leaseOf_auditSessionIf {condition : Bool} {event : LongHorizonAuditInput}
    (h : auditSessionIf condition record event now = .ok next) : leaseOf next = leaseOf record := by
  rw [auditSessionIf] at h
  split_ifs at h
  · exact leaseOf_auditSession h
  · exact congrArg leaseOf (Except.ok.inj h).symm

lemma leaseOf_beginDelegationStep {begun : StageStart}
    (h : beginDelegationStep record begun = .ok next) : leaseOf next = leaseOf record := by
  rw [beginDelegationStep] at h
  cases hstep : begun.delegationStep with
  | none => exact congrArg leaseOf (Except.ok.inj (hstep ▸ h)).symm
  | some step =>
    rw [hstep] at h
    exact (leaseOf_auditPlan h).trans rfl

lemma leaseOf_startStage {session : LongHorizonTaskState} {workspace : TaskWorkspaceBinding}
    {begun : StageStart} (h : startStage record session workspace begun = .ok next) :
    leaseOf next = leaseOf record := by
  obtain ⟨r₁, hstep, h⟩ := except_bind_eq_ok.mp h
  obtain ⟨r₂, hselected, h⟩ := except_bind_eq_ok.mp h
  obtain ⟨r₃, hresumed, h⟩ := except_bind_eq_ok.mp h
  obtain ⟨r₄, hstarted, h⟩ := except_bind_eq_ok.mp h
  obtain rfl := Except.ok.inj h
  calc _ = leaseOf r₄ := rfl
    _ = leaseOf r₃ := leaseOf_auditSession hstarted
    _ = leaseOf r₂ := leaseOf_auditSessionIf hresumed
    _ = _ := leaseOf_auditSessionIf hselected
    _ = leaseOf r₁ := leaseOf_editSession fun _ => rfl
    _ = leaseOf record := leaseOf_beginDelegationStep hstep

lemma leaseOf_resultStage (stage : LongHorizonStage) (artifact : CollaborationTaskArtifact)
    (revision : Option Nat) (checkpointId checkpointDigest : String) :
    leaseOf (resultStage record stage artifact revision checkpointId checkpointDigest now)
      = leaseOf record := by
  have hcompleted : leaseOf (completeStage record stage artifact now) = leaseOf record :=
    leaseOf_editSession fun _ => rfl
  refine Eq.trans (leaseOf_editSession fun _ => rfl) (Eq.trans ?_ hcompleted)
  cases revision with
  | none => rfl
  | some revision => exact leaseOf_editSession fun _ => rfl

variable {stage : LongHorizonStage}

lemma leaseOf_auditStageResult {artifactId : String}
    (h : auditStageResult record stage artifactId now = .ok next) :
    leaseOf next = leaseOf record := by
  obtain ⟨r₁, hpublished, h⟩ := except_bind_eq_ok.mp h
  exact (leaseOf_auditSession h).trans (leaseOf_auditSession hpublished)

lemma leaseOf_touchSession :
    leaseOf (editSession record fun session => { session with updatedAt := now }) = leaseOf record :=
  leaseOf_editSession fun _ => rfl

lemma leaseOf_publishStage {artifactId requestId : String}
    (h : publishStage record stage artifactId requestId now = .ok next) :
    leaseOf next = leaseOf record := by
  obtain ⟨r₁, hresult, h⟩ := except_bind_eq_ok.mp h
  obtain ⟨r₂, hstopped, h⟩ := except_bind_eq_ok.mp h
  obtain rfl := Except.ok.inj h
  calc _ = leaseOf (editSession r₂ fun session => { session with updatedAt := now }) := rfl
    _ = leaseOf r₂ := leaseOf_touchSession
    _ = leaseOf r₁ := leaseOf_auditSession hstopped
    _ = _ := leaseOf_auditStageResult hresult
    _ = leaseOf record := leaseOf_editSession fun _ => rfl

lemma leaseOf_publishDelegationStep {step : DelegationChildStep} {artifactId : String}
    (h : publishDelegationStep record stage step artifactId now = .ok next) :
    leaseOf next = leaseOf record := by
  obtain ⟨r₁, hrecorded, h⟩ := except_bind_eq_ok.mp h
  obtain ⟨r₂, hcompleted, h⟩ := except_bind_eq_ok.mp h
  obtain ⟨r₃, hresult, h⟩ := except_bind_eq_ok.mp h
  obtain rfl := Except.ok.inj h
  calc _ = leaseOf (editSession r₃ fun session => { session with updatedAt := now }) := rfl
    _ = leaseOf r₃ := leaseOf_touchSession
    _ = leaseOf r₂ := (leaseOf_auditStageResult hresult).trans rfl
    _ = leaseOf r₁ := leaseOf_auditPlan hcompleted
    _ = leaseOf record := (leaseOf_auditPlan hrecorded).trans rfl

lemma leaseOf_acceptInput {payload : TetiTaskInputPayload} {instructionDigest : String}
    (h : acceptInput record payload instructionDigest now = .ok next) :
    leaseOf next = leaseOf record := by
  obtain ⟨r₁, haudited, h⟩ := except_bind_eq_ok.mp h
  obtain rfl := Except.ok.inj h
  calc _ = leaseOf r₁ := rfl
    _ = _ := leaseOf_auditSession haudited
    _ = leaseOf record := leaseOf_editSession fun _ => rfl

lemma leaseOf_renewSession {lease : Timestamp} (h : renewSession record lease now = .ok next) :
    ∀ left ∈ leaseOf next, left = lease := by
  obtain ⟨r₁, hrenewed, h⟩ := except_bind_eq_ok.mp h
  obtain rfl := Except.ok.inj h
  intro left hleft
  have hnext : leaseOf r₁ = some left := hleft
  rw [leaseOf_auditSession hrenewed, leaseOf_eq_some] at hnext
  obtain ⟨session, hsession, rfl⟩ := hnext
  obtain ⟨before, -, rfl⟩ := Option.map_eq_some_iff.mp hsession
  rfl

end

/-! ### The lease of a task -/

/-- The lease of a record ends within a day of the clock. -/
def WithinADay : Prop :=
  ∀ lease ∈ leaseOf s.1, lease ≤ s.2 + maximumExecutionMs

section

variable {s t : TaskRecord × Timestamp}

lemma changeAt_eq_some {change : Change} {now : Timestamp} (h : changeAt change now s = some t) :
    change.apply s.1 = .ok t.1 ∧ s.2 ≤ t.2 ∧ t.2 = now := by
  rw [changeAt] at h
  split at h
  · next next happly =>
    split_ifs at h with hclock
    obtain rfl := Option.some.inj h
    exact ⟨happly, hclock, rfl⟩
  · cases h

/-- A change that leaves the lease as it is. -/
lemma WithinADay.change (hs : WithinADay s) {change : Change} {now : Timestamp}
    (h : changeAt change now s = some t)
    (hkept : ∀ next, change.apply s.1 = .ok next → leaseOf next = leaseOf s.1) : WithinADay t := by
  obtain ⟨happly, hclock, -⟩ := changeAt_eq_some h
  intro lease hmem
  have hbound := hs lease (hkept _ happly ▸ hmem)
  unfold Timestamp at *
  omega

/-- One event keeps the lease within a day. -/
lemma WithinADay.step {event : LeaseEvent} (hs : WithinADay s)
    (hallowed : renewsWithinADay s event = true) (h : leaseStep s event = some t) :
    WithinADay t := by
  cases event with
  | planAttached | stepBound =>
    rw [leaseStep] at h
    refine hs.change h fun next happly => ?_
    obtain rfl := Except.ok.inj happly
    rfl
  | inputReceived => exact hs.change h fun next happly => leaseOf_acceptInput happly
  | stageStarted =>
    obtain ⟨session, -, h⟩ := Option.bind_eq_some_iff.mp h
    exact hs.change h fun next happly => leaseOf_startStage happly
  | stagePublished =>
    obtain ⟨stage, -, h⟩ := Option.bind_eq_some_iff.mp h
    exact hs.change h fun next happly =>
      (leaseOf_publishStage happly).trans (leaseOf_resultStage _ _ _ _ _)
  | delegationStepPublished =>
    obtain ⟨stage, -, h⟩ := Option.bind_eq_some_iff.mp h
    obtain ⟨step, -, h⟩ := Option.bind_eq_some_iff.mp h
    exact hs.change h fun next happly =>
      (leaseOf_publishDelegationStep happly).trans (leaseOf_resultStage _ _ _ _ _)
  | renewed ttlMs checkedAt now notedAt =>
    rw [leaseStep] at h
    split_ifs at h with hclock
    obtain ⟨lease, hrenewed, h⟩ := Option.bind_eq_some_iff.mp h
    obtain ⟨happly, -, hnow⟩ := changeAt_eq_some h
    intro left hleft
    obtain rfl := leaseOf_renewSession happly left hleft
    obtain ⟨session, hsession, hrenewed⟩ := Option.bind_eq_some_iff.mp hrenewed
    split_ifs at hrenewed
    obtain rfl := Option.some.inj hrenewed
    have hbound : max now session.continuationExpiresAt + ttlMs ≤ now + maximumExecutionMs := by
      simpa [renewsWithinADay, hsession] using hallowed
    unfold Timestamp at *
    omega

end

lemma leaseOf_incomingRecord {request : CollaborationTaskRequest} {peerTetiId : TetiId}
    {messageId : String} {chatmailMessageId : Option Nat} {receivedAt : Timestamp}
    {delivery : IncomingDelivery} {record : TaskRecord}
    (h : incomingRecord request peerTetiId messageId chatmailMessageId receivedAt delivery
      = .ok record) : ∀ lease ∈ leaseOf record, lease = request.expiresAt := by
  intro lease hlease
  delta incomingRecord at h
  dsimp only at h
  split_ifs at h
  · cases hcreate : createLongHorizonState request receivedAt with
    | error error =>
      rw [hcreate] at h
      cases h
    | ok session =>
      rw [hcreate] at h
      obtain rfl := Except.ok.inj h
      obtain ⟨_, hsession, rfl⟩ := leaseOf_eq_some.mp hlease
      obtain rfl := Option.some.inj hsession
      obtain ⟨_, -, haudited⟩ := except_bind_eq_ok.mp hcreate
      obtain rfl := Except.ok.inj haudited
      rfl
  · obtain rfl := Except.ok.inj h
    cases hlease

/-- **An unexpired lease gets an authority**: in every run of a task that is received with
at most a day to live, and whose lease is renewed only within a day, the times of the
authority of the next stage are accepted at every instant of the lease: what
`validateExecutionAuthority` says of it is what it says of its target.  The budget of a step
of a plan is one that was validated with the plan. -/
theorem lease_implies_authority {request : CollaborationTaskRequest} {peerTetiId : TetiId}
    {messageId : String} {chatmailMessageId : Option Nat} {receivedAt clock : Timestamp}
    {start record : TaskRecord} {events : List LeaseEvent}
    (hreceived : incomingRecord request peerTetiId messageId chatmailMessageId receivedAt .received
      = .ok start)
    (hfirst : request.expiresAt ≤ receivedAt + maximumExecutionMs)
    (hrun : Runs (guarded renewsWithinADay leaseStep) (start, receivedAt) events (record, clock))
    {session : LongHorizonTaskState} (hsession : record.longHorizon = some session)
    {now : Timestamp} (hclock : clock ≤ now) (hlease : now < session.continuationExpiresAt)
    (workspace : TaskWorkspaceBinding) {input : StageInput}
    (hstep : ∀ step ∈ input.delegationStep, validateBudget step.budget = .ok ())
    (executionEpoch : Nat) (execution : CallableAdapterTaskRequest) (grantId : String)
    (connector : AgentConnectorDescriptor) :
    let authority := stageAuthority sha256 record session workspace input executionEpoch execution
      grantId now now
    validateAuthorityTimes authority now = .ok ()
      ∧ validateExecutionAuthority sha256 authority execution connector now
        = validateAuthorityTarget sha256 authority execution connector := by
  have hwithin : WithinADay (record, clock) := by
    refine hrun.invariant (I := WithinADay) ?_ ?_
    · intro lease hmem
      obtain rfl := leaseOf_incomingRecord hreceived lease hmem
      exact hfirst
    · intro s event t hs h
      obtain ⟨hallowed, hnext⟩ := guarded_eq_some.mp h
      exact hs.step hallowed hnext
  have hbound : session.continuationExpiresAt ≤ clock + maximumExecutionMs :=
    hwithin _ (leaseOf_eq_some.mpr ⟨session, hsession, rfl⟩)
  intro authority
  have htimes : validateAuthorityTimes authority now = .ok () :=
    (validateAuthorityTimes_iff sha256).mpr ⟨lt_stageDeadline hlease hstep,
      (stageDeadline_le input.delegationStep now).trans (hbound.trans (Int.add_le_add_right hclock _))⟩
  refine ⟨htimes, ?_⟩
  rw [validateExecutionAuthority, htimes]
  cases validateAuthorityTarget sha256 authority execution connector <;> rfl

/-! ### A collaboration of one stage -/

/-- A task that its requester gives an hour. -/
def leaseRequest : CollaborationTaskRequest :=
  { sampleTaskRequest with executionMode := some .longHorizon, expiresAt := 3600000 }

def leaseWorkspace : TaskWorkspaceBinding := ⟨"workspace-1", 1, .durableCollaboration, [.read]⟩

def leaseInput : StageInput where
  target := ⟨"connector", "child", "text", none, none⟩
  imageInputs := []
  instruction := [104, 105]
  inputId := none
  delegationStep := none

/-- Its first stage. -/
def leaseStage : List LeaseEvent := [
  .stageStarted leaseWorkspace {
    executionTaskId := "lh-1"
    target := leaseInput.target
    inputId := none
    instructionDigest := "sha256:0000000000000000000000000000000000000000000000000000000000000000"
    delegationStep := none
    now := 1 },
  .stagePublished "lh-1" (.v1 "task-1" "artifact-1" [104, 105] 2) none "checkpoint-1"
    "sha256:0000000000000000000000000000000000000000000000000000000000000000" "request-1" 2]

/-- The record that the task is received as. -/
def leaseRecord : Option TaskRecord :=
  (incomingRecord leaseRequest "teti_aaaaaaaaa" "message-1" none 0 .received).toOption

/-- The authority of the next stage of a record, issued at an instant. -/
def leaseAuthority (record : TaskRecord) (session : LongHorizonTaskState) (now : Timestamp) :
    ExecutionAuthority :=
  stageAuthority (fun _ => "0") record session leaseWorkspace leaseInput 1
    (stageExecution (fun _ => "0") record session leaseInput now) "grant-1" now now

/-- The lease of the record runs at an instant. -/
def leased (now : Timestamp) (s : TaskRecord × Timestamp) : Bool :=
  s.2 ≤ now && s.1.longHorizon.any fun session => now < session.continuationExpiresAt

lemma exists_leased (step : TaskRecord × Timestamp → LeaseEvent → Option (TaskRecord × Timestamp))
    (events : List LeaseEvent) (p : TaskRecord × Timestamp → Bool)
    (h : (leaseRecord.bind fun record => events.foldlM step (record, 0)).any p = true) :
    ∃ start s, incomingRecord leaseRequest "teti_aaaaaaaaa" "message-1" none 0 .received
        = .ok start ∧ Runs step (start, 0) events s ∧ p s = true := by
  obtain ⟨s, hs, hp⟩ := (Option.any_eq_true p _).mp h
  obtain ⟨start, hstart, hrun⟩ := Option.bind_eq_some_iff.mp hs
  refine ⟨start, s, ?_, hrun, hp⟩
  rw [leaseRecord] at hstart
  cases hreceived : incomingRecord leaseRequest "teti_aaaaaaaaa" "message-1" none 0 .received with
  | error error => simp [hreceived, Except.toOption] at hstart
  | ok record => simpa [hreceived, Except.toOption] using hstart

/-- After the first stage, half an hour before the lease ends. -/
theorem lease_implies_authority_first :
    ∃ record session, record.longHorizon = some session
      ∧ validateAuthorityTimes (leaseAuthority record session 1800000) 1800000 = .ok ()
      ∧ validateExecutionAuthority (fun _ => "0") (leaseAuthority record session 1800000)
          (stageExecution (fun _ => "0") record session leaseInput 1800000)
          ⟨"connector", "child"⟩ 1800000
        = validateAuthorityTarget (fun _ => "0") (leaseAuthority record session 1800000)
          (stageExecution (fun _ => "0") record session leaseInput 1800000)
          ⟨"connector", "child"⟩ := by
  obtain ⟨start, ⟨record, clock⟩, hreceived, hrun, hleased⟩ := exists_leased
    (guarded renewsWithinADay leaseStep) leaseStage (leased 1800000) (by decide +kernel)
  obtain ⟨hclock, hsession⟩ := (Bool.and_eq_true _ _).mp hleased
  obtain ⟨session, hsession, hlease⟩ := (Option.any_eq_true _ _).mp hsession
  exact ⟨record, session, hsession, lease_implies_authority _ hreceived (by decide) hrun hsession
    (of_decide_eq_true hclock) (of_decide_eq_true hlease) _ (by simp [leaseInput]) _ _ _ _⟩

/-- The lease is renewed by a day when an hour of it is left: the next stage gets no
authority that is accepted, although the lease runs for another day. -/
theorem renewed_lease_without_authority :
    ∃ start record clock session, incomingRecord leaseRequest "teti_aaaaaaaaa" "message-1" none 0
        .received = .ok start
      ∧ Runs leaseStep (start, 0) (leaseStage ++ [.renewed 86400000 3 3 3]) (record, clock)
      ∧ record.longHorizon = some session ∧ clock ≤ 4 ∧ 4 < session.continuationExpiresAt
      ∧ validateAuthorityTimes (leaseAuthority record session 4) 4 ≠ .ok () := by
  obtain ⟨start, ⟨record, clock⟩, hreceived, hrun, hleased⟩ := exists_leased leaseStep
    (leaseStage ++ [.renewed 86400000 3 3 3]) (fun s => leased 4 s && s.1.longHorizon.all
      fun session => decide (4 + maximumExecutionMs < session.continuationExpiresAt))
    (by decide +kernel)
  obtain ⟨hleased, hlong⟩ := (Bool.and_eq_true _ _).mp hleased
  obtain ⟨hclock, hsession⟩ := (Bool.and_eq_true _ _).mp hleased
  obtain ⟨session, hsession, hlease⟩ := (Option.any_eq_true _ _).mp hsession
  have hlong : 4 + maximumExecutionMs < session.continuationExpiresAt := by
    simpa [show record.longHorizon = some session from hsession] using hlong
  refine ⟨start, record, clock, session, hreceived, hrun, hsession, of_decide_eq_true hclock,
    of_decide_eq_true hlease, fun haccepted => ?_⟩
  obtain ⟨-, hdeadline⟩ := (validateAuthorityTimes_iff _).mp haccepted
  exact absurd hlong (not_lt.mpr hdeadline)

end TetiBot

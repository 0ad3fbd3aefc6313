import TetiBot.Core.Types

/-
Delegation plans (`core/delegation/types.ts`, `planner.ts`, `validation.ts`).

* `DelegationPlanState`: the child steps and the closing aggregation step;
* `createDeterministicDelegationPlan`: the plan for the selected targets;
* `validateDelegationPlanState`: the checks a plan passes before it is stored.

The random `eventId` of an audit event is left out: nothing but the shape
check of the store reads it.
-/

namespace TetiBot

/-! ### Types -/

namespace DELEGATION_LIMITS

/-- Child steps of a plan. -/
def maximumChildSteps : Nat := 4
/-- Artifacts of a plan. -/
def maximumArtifacts : Nat := 8
/-- Audit events of a plan. -/
def maximumAuditEvents : Nat := 64
/-- The longest time of a step. -/
def maximumStepTimeoutMs : Nat := 15 * 60 * 1000
/-- Bytes that a step is given. -/
def maximumInputBytes : Nat := 24 * 1024
/-- Bytes that a step gives. -/
def maximumOutputBytes : Nat := 56 * 1024

end DELEGATION_LIMITS

/-- The phases of a plan. -/
inductive DelegationPlanPhase
  | pendingApproval | working | aggregating | completed | failed | canceled | interrupted
  deriving DecidableEq

/-- The states of a step. -/
inductive DelegationStepState
  | pending | working | completed | failed | canceled | interrupted
  deriving DecidableEq

/-- The child agent that the user selects. -/
structure DelegationTargetSelection where
  childAgentId : String
  connectorId : String
  capabilityId : String
  deriving DecidableEq

/-- What an agent takes or gives. -/
inductive TaskContentMode
  | text | image
  deriving DecidableEq

/-- How much of the workspace a target sees. -/
inductive WorkspacePolicy
  | snapshot | boundedContext | none
  deriving DecidableEq

/-- A child agent that can be selected. -/
structure DelegationTargetOption extends DelegationTargetSelection where
  resourceBindingId : String
  workspacePolicy : WorkspacePolicy
  inputModes : List TaskContentMode
  outputModes : List TaskContentMode
  timeoutMs : Nat
  maxOutputBytes : Nat
  deriving DecidableEq

/-- The bounds of a step. -/
structure DelegationStepBudget where
  maxInputBytes : Nat
  maxOutputBytes : Nat
  timeoutMs : Nat
  deriving DecidableEq

/-- A step that a child agent executes. -/
structure DelegationChildStep where
  stepId : String
  stepIndex : Nat
  dependsOnStepId : Option String
  childAgentId : String
  connectorId : String
  capabilityId : String
  resourceBindingId : String
  budget : DelegationStepBudget
  workspaceRevision : Nat
  workspaceAccess : List WorkspaceAccess
  state : DelegationStepState
  executionTaskId : Option String
  artifactIds : List String
  startedAt : Option Timestamp
  completedAt : Option Timestamp
  safeErrorCode : Option String
  deriving DecidableEq

/-- The closing step of the host. -/
structure DelegationAggregationStep where
  stepId : String
  stepIndex : Nat
  dependsOnStepIds : List String
  state : DelegationStepState
  artifactId : Option String
  startedAt : Option Timestamp
  completedAt : Option Timestamp
  safeErrorCode : Option String
  deriving DecidableEq

/-- A step of a plan. -/
inductive DelegationStep
  | childExecution (step : DelegationChildStep)
  | artifactAggregation (step : DelegationAggregationStep)
  deriving DecidableEq

/-- Who an artifact is from. -/
inductive DelegationArtifactProducer
  | childAgent (childAgentId connectorId resourceBindingId : String)
  | tetiHost
  deriving DecidableEq

/-- An artifact is one of a step or the last. -/
inductive ArtifactRole
  | intermediate | final
  deriving DecidableEq

/-- Where an artifact of the plan is from. -/
structure DelegationArtifactProvenance where
  artifactId : String
  stepId : String
  producer : DelegationArtifactProducer
  workspaceRevision : Nat
  role : ArtifactRole
  createdAt : Timestamp
  deriving DecidableEq

/-- What an audit event tells. -/
inductive DelegationAuditAction
  | planCreated | planApproved | stepStarted | artifactRecorded | stepCompleted
  | stepFailed | aggregationStarted | planCompleted | planCanceled | restartReconciled
  deriving DecidableEq

/-- Who an audit event is about. -/
inductive DelegationAuditActor
  | host | localUser | childAgent
  deriving DecidableEq

/-- An audit event, less its random `eventId`. -/
structure DelegationAuditEvent where
  sequence : Nat
  action : DelegationAuditAction
  actor : DelegationAuditActor
  stepId : Option String
  timestamp : Timestamp
  artifactId : Option String
  safeErrorCode : Option String
  deriving DecidableEq

/-- A plan as it is stored. -/
structure DelegationPlanState where
  planId : String
  taskId : String
  phase : DelegationPlanPhase
  maximumChildCalls : Nat
  currentStepIndex : Nat
  steps : List DelegationStep
  artifacts : List DelegationArtifactProvenance
  audit : List DelegationAuditEvent
  createdAt : Timestamp
  updatedAt : Timestamp
  deriving DecidableEq

namespace DelegationStep

/-- The identifier of a step. -/
def stepId : DelegationStep → String
  | .childExecution step => step.stepId
  | .artifactAggregation step => step.stepId

/-- The place of a step, from one. -/
def stepIndex : DelegationStep → Nat
  | .childExecution step => step.stepIndex
  | .artifactAggregation step => step.stepIndex

/-- The state of a step. -/
def state : DelegationStep → DelegationStepState
  | .childExecution step => step.state
  | .artifactAggregation step => step.state

/-- The step with its state, its completion time and its error code replaced. -/
def settled (state : DelegationStepState) (completedAt : Timestamp) (safeErrorCode : String) :
    DelegationStep → DelegationStep
  | .childExecution step =>
    .childExecution { step with
      state := state, completedAt := some completedAt, safeErrorCode := some safeErrorCode }
  | .artifactAggregation step =>
    .artifactAggregation { step with
      state := state, completedAt := some completedAt, safeErrorCode := some safeErrorCode }

/-- The child step, if it is one. -/
def child? : DelegationStep → Option DelegationChildStep
  | .childExecution step => some step
  | .artifactAggregation _ => none

/-- The aggregation, if it is one. -/
def aggregation? : DelegationStep → Option DelegationAggregationStep
  | .childExecution _ => none
  | .artifactAggregation step => some step

end DelegationStep

/-! ### Validation -/

/-- `fail(code, message)`. -/
def delegationError (code message : String) : TaskError := ⟨.delegationContract, code, message⟩

/-- All that is requested is granted. -/
def isWorkspaceAccessSubset (requested granted : List WorkspaceAccess) : Bool :=
  requested.all fun access => granted.contains access

/-- A budget is within the limits of the host. -/
def validateBudget (budget : DelegationStepBudget) : Except TaskError Unit :=
  failIf (budget.maxInputBytes < 1 ∨ DELEGATION_LIMITS.maximumInputBytes < budget.maxInputBytes
      ∨ budget.maxOutputBytes < 1 ∨ DELEGATION_LIMITS.maximumOutputBytes < budget.maxOutputBytes
      ∨ budget.timeoutMs < 10 ∨ DELEGATION_LIMITS.maximumStepTimeoutMs < budget.timeoutMs)
    (delegationError "DELEGATION_BUDGET_INVALID" "Delegation step budget exceeds Host limits.")

/-- The identifier `step:${n}`. -/
def childStepId (n : Nat) : String := s!"step:{n}"

/-- The child step at `index`. -/
def validateChildStep (index : Nat) (step : DelegationChildStep) : Except TaskError Unit := do
  failIf (step.stepId ≠ childStepId (index + 1)
      ∨ step.stepIndex ≠ index + 1
      ∨ step.dependsOnStepId ≠ (if index = 0 then none else some (childStepId index))
      ∨ !safeSlugPattern step.childAgentId
      ∨ !safeSlugPattern step.connectorId
      ∨ !safeSlugPattern step.capabilityId
      ∨ !safeLongId step.resourceBindingId
      ∨ step.workspaceRevision < 1
      ∨ !step.executionTaskId.all safeLongId
      ∨ 2 < step.artifactIds.length
      ∨ !step.artifactIds.all safeLongId)
    (delegationError "DELEGATION_STEP_INVALID" "Delegation Child step is invalid.")
  validateBudget step.budget
  failIf (validateWorkspaceAccess step.workspaceAccess).toBool.not
    (delegationError "DELEGATION_WORKSPACE_SCOPE" "Delegation Workspace access is invalid.")
  failIf (!step.safeErrorCode.all safeCodePattern)
    (delegationError "DELEGATION_ERROR_INVALID" "Delegation safe error code is invalid.")

/-- The child steps from `index` on. -/
def validateChildSteps : Nat → List DelegationChildStep → Except TaskError Unit
  | _, [] => .ok ()
  | index, step :: steps => do
    validateChildStep index step
    validateChildSteps (index + 1) steps

/-- The artifacts, after those with `artifactIds`. -/
def validateProvenance (childStepIds : List String) :
    List String → List DelegationArtifactProvenance → Except TaskError Unit
  | _, [] => .ok ()
  | artifactIds, entry :: entries => do
    failIf (!safeLongId entry.artifactId ∨ entry.artifactId ∈ artifactIds
        ∨ entry.workspaceRevision < 1)
      (delegationError "DELEGATION_ARTIFACT_INVALID"
        "Delegation Artifact provenance is invalid.")
    match entry.producer with
    | .childAgent childAgentId connectorId resourceBindingId =>
      failIf (entry.stepId ∉ childStepIds ∨ !safeSlugPattern childAgentId
          ∨ !safeSlugPattern connectorId ∨ !safeLongId resourceBindingId
          ∨ entry.role ≠ .intermediate)
        (delegationError "DELEGATION_ARTIFACT_INVALID" "Child Artifact producer is invalid.")
    | .tetiHost =>
      failIf (entry.stepId ≠ "step:aggregate" ∨ entry.role ≠ .final)
        (delegationError "DELEGATION_ARTIFACT_INVALID" "Host Artifact producer is invalid.")
    validateProvenance childStepIds (entry.artifactId :: artifactIds) entries

/-- The audit events from `index` on. -/
def validateDelegationAudit (childStepIds : List String) :
    Nat → List DelegationAuditEvent → Except TaskError Unit
  | _, [] => .ok ()
  | index, event :: events => do
    failIf (event.sequence ≠ index + 1
        ∨ ¬event.stepId.all fun id => id == "step:aggregate" || childStepIds.contains id)
      (delegationError "DELEGATION_AUDIT_INVALID" "Delegation audit event is invalid.")
    failIf (!event.artifactId.all safeLongId)
      (delegationError "DELEGATION_AUDIT_INVALID" "Delegation audit Artifact is invalid.")
    failIf (!event.safeErrorCode.all safeCodePattern)
      (delegationError "DELEGATION_ERROR_INVALID" "Delegation safe error code is invalid.")
    validateDelegationAudit childStepIds (index + 1) events

/-- Completed steps come first, and at most one step after them has started. -/
def stepsOrdered (foundNonCompleted : Bool) : List DelegationChildStep → Bool
  | [] => true
  | step :: steps =>
    if step.state == .completed then !foundNonCompleted && stepsOrdered foundNonCompleted steps
    else !(foundNonCompleted && step.state != .pending) && stepsOrdered true steps

variable (provenance : List DelegationArtifactProvenance)

/-- A completed step has one artifact, another none. -/
def stepArtifactsConsistent (step : DelegationChildStep) : Bool :=
  let produced := provenance.filter fun entry => entry.stepId == step.stepId
  (if step.state == .completed then step.artifactIds.length == 1 else step.artifactIds.isEmpty)
    && produced.length == step.artifactIds.length
    && produced.all fun entry => step.artifactIds.contains entry.artifactId

/-- A completed aggregation has the final artifact. -/
def aggregationConsistent (aggregation : DelegationAggregationStep) : Bool :=
  let finalProvenance := provenance.filter fun entry => entry.stepId == aggregation.stepId
  if aggregation.state == .completed then
    aggregation.artifactId.isSome && finalProvenance.length == 1
      && (finalProvenance.head?.map fun entry => entry.artifactId) == aggregation.artifactId
  else aggregation.artifactId.isNone && finalProvenance.isEmpty

/-- Exactly one step has the state, and it is the current step. -/
def oneStepAt (steps : List DelegationStep) (state : DelegationStepState)
    (currentStepIndex : Nat) : Bool :=
  match steps.filter fun step => step.state == state with
  | [step] => step.stepIndex == currentStepIndex
  | _ => false

variable (plan : DelegationPlanState)

/-- The relation between the phase of a plan and the states of its steps. -/
def phaseConsistent (childSteps : List DelegationChildStep)
    (aggregation : DelegationAggregationStep) : Bool :=
  let allChildrenCompleted := childSteps.all fun step => step.state == .completed
  match plan.phase with
  | .pendingApproval =>
    plan.currentStepIndex == 0 && (childSteps.all fun step => step.state == .pending)
      && aggregation.state == .pending
  | .working => oneStepAt plan.steps .working plan.currentStepIndex
  | .aggregating =>
    allChildrenCompleted && aggregation.state == .working
      && plan.currentStepIndex == aggregation.stepIndex
  | .completed =>
    allChildrenCompleted && aggregation.state == .completed
      && plan.currentStepIndex == aggregation.stepIndex
  | .failed => oneStepAt plan.steps .failed plan.currentStepIndex
  | .interrupted =>
    oneStepAt (childSteps.map .childExecution) .interrupted plan.currentStepIndex
  | .canceled => oneStepAt plan.steps .canceled plan.currentStepIndex

/-- What the steps, artifacts and phase owe each other. -/
def validateStateRelations (childSteps : List DelegationChildStep)
    (aggregation : DelegationAggregationStep) : Except TaskError Unit := do
  failIf (!stepsOrdered false childSteps)
    (delegationError "DELEGATION_PLAN_ORDER"
      "Completed Delegation steps must form one ordered prefix.")
  failIf (!childSteps.all (stepArtifactsConsistent plan.artifacts))
    (delegationError "DELEGATION_ARTIFACT_INVALID"
      "Delegation step Artifact state is inconsistent.")
  failIf (!aggregationConsistent plan.artifacts aggregation)
    (delegationError "DELEGATION_AGGREGATION_INVALID"
      "Host aggregation and its final provenance are inconsistent.")
  failIf (!phaseConsistent plan childSteps aggregation)
    (delegationError "DELEGATION_PLAN_STATE"
      "Delegation Plan phase and step states are inconsistent.")

/-- The checks of a plan before it is stored. -/
def validateDelegationPlanState : Except TaskError Unit := do
  failIf (!safeLongId plan.planId ∨ !safeLongId plan.taskId ∨ plan.maximumChildCalls < 1
      ∨ DELEGATION_LIMITS.maximumChildSteps < plan.maximumChildCalls)
    (delegationError "DELEGATION_PLAN_INVALID" "Delegation Plan metadata is invalid.")
  failIf (plan.steps.length < 2 ∨ DELEGATION_LIMITS.maximumChildSteps + 1 < plan.steps.length)
    (delegationError "DELEGATION_STEP_LIMIT" "Delegation Plan step count is invalid.")
  let childSteps := plan.steps.dropLast.filterMap DelegationStep.child?
  match plan.steps.getLast?.bind DelegationStep.aggregation? with
  | none =>
    .error (delegationError "DELEGATION_PLAN_ORDER"
      "Delegation Plan must end with one Host aggregation step.")
  | some aggregation =>
    failIf (childSteps.length ≠ plan.steps.length - 1
        ∨ childSteps.length ≠ plan.maximumChildCalls)
      (delegationError "DELEGATION_PLAN_ORDER"
        "Delegation Plan must end with one Host aggregation step.")
    validateChildSteps 0 childSteps
    failIf (aggregation.stepId ≠ "step:aggregate"
        ∨ aggregation.stepIndex ≠ childSteps.length + 1
        ∨ aggregation.dependsOnStepIds
            ≠ (List.range childSteps.length).map (fun index => childStepId (index + 1))
        ∨ ¬aggregation.artifactId.all safeLongId)
      (delegationError "DELEGATION_AGGREGATION_INVALID"
        "Delegation aggregation step is invalid.")
    failIf (!aggregation.safeErrorCode.all safeCodePattern)
      (delegationError "DELEGATION_ERROR_INVALID" "Delegation safe error code is invalid.")
    failIf (DELEGATION_LIMITS.maximumArtifacts < plan.artifacts.length)
      (delegationError "DELEGATION_ARTIFACT_LIMIT" "Delegation Artifact provenance is invalid.")
    let childStepIds := childSteps.map fun step => step.stepId
    validateProvenance childStepIds [] plan.artifacts
    failIf (plan.audit.length < 1 ∨ DELEGATION_LIMITS.maximumAuditEvents < plan.audit.length)
      (delegationError "DELEGATION_AUDIT_LIMIT" "Delegation audit is invalid.")
    validateDelegationAudit childStepIds 0 plan.audit
    failIf ((plan.audit.head?.map fun event => event.action) ≠ some .planCreated)
      (delegationError "DELEGATION_AUDIT_INVALID"
        "Delegation audit must start with plan creation.")
    validateStateRelations plan childSteps aggregation

/-! ### Planner -/

/-- The access that a target gets of what is granted. -/
def delegationWorkspaceAccess (target : DelegationTargetOption) (granted : List WorkspaceAccess) :
    Except TaskError (List WorkspaceAccess) := do
  failIf (!granted.contains .read)
    (delegationError "DELEGATION_WORKSPACE_SCOPE" "Delegation requires read access.")
  return if target.workspacePolicy ≠ .snapshot then [.read] else granted

/-- The child step for a target. -/
def plannedStep (workspaceRevision : Nat) (workspaceAccess : List WorkspaceAccess) (index : Nat)
    (target : DelegationTargetOption) : Except TaskError DelegationChildStep := do
  let access ← delegationWorkspaceAccess target workspaceAccess
  return {
    stepId := childStepId (index + 1)
    stepIndex := index + 1
    dependsOnStepId := if index = 0 then none else some (childStepId index)
    childAgentId := target.childAgentId
    connectorId := target.connectorId
    capabilityId := target.capabilityId
    resourceBindingId := target.resourceBindingId
    budget := {
      maxInputBytes := DELEGATION_LIMITS.maximumInputBytes
      maxOutputBytes := min target.maxOutputBytes DELEGATION_LIMITS.maximumOutputBytes
      timeoutMs := min target.timeoutMs DELEGATION_LIMITS.maximumStepTimeoutMs }
    workspaceRevision := workspaceRevision
    workspaceAccess := access
    state := .pending
    executionTaskId := none
    artifactIds := []
    startedAt := none
    completedAt := none
    safeErrorCode := none }

/-- The child steps from `index` on. -/
def plannedSteps (workspaceRevision : Nat) (workspaceAccess : List WorkspaceAccess) :
    Nat → List DelegationTargetOption → Except TaskError (List DelegationChildStep)
  | _, [] => .ok []
  | index, target :: targets => do
    let step ← plannedStep workspaceRevision workspaceAccess index target
    return step :: (← plannedSteps workspaceRevision workspaceAccess (index + 1) targets)

/-- The plan for the selected targets. -/
def createDeterministicDelegationPlan (taskId : String) (workspaceRevision : Nat)
    (workspaceAccess : List WorkspaceAccess) (targets : List DelegationTargetOption)
    (now : Timestamp) (planId : String) : Except TaskError DelegationPlanState := do
  failIf (targets.length < 1 ∨ DELEGATION_LIMITS.maximumChildSteps < targets.length)
    (delegationError "DELEGATION_STEP_LIMIT" "Select one to four Child Agent steps.")
  let steps ← plannedSteps workspaceRevision workspaceAccess 0 targets
  let plan : DelegationPlanState := {
    planId := planId
    taskId := taskId
    phase := .pendingApproval
    maximumChildCalls := steps.length
    currentStepIndex := 0
    steps := steps.map .childExecution ++ [.artifactAggregation {
      stepId := "step:aggregate"
      stepIndex := steps.length + 1
      dependsOnStepIds := steps.map fun step => step.stepId
      state := .pending
      artifactId := none
      startedAt := none
      completedAt := none
      safeErrorCode := none }]
    artifacts := []
    audit := [{
      sequence := 1
      action := .planCreated
      actor := .localUser
      stepId := none
      timestamp := now
      artifactId := none
      safeErrorCode := none }]
    createdAt := now
    updatedAt := now }
  validateDelegationPlanState plan
  return plan

end TetiBot

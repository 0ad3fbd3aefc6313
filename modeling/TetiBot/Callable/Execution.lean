import TetiBot.Callable.Adapter
import TetiBot.Callable.Registry

/-
One execution of the host kernel (`run` of `runtime/callable/kernel.ts`).

* `CallableAdapterTaskSnapshot.start`, `complete`, `fail`, `cancel`: the state
  machine of a task (`core/callability/task-machine.ts`).  A transition that the
  source refuses throws there, and leaves the state as it is;
* `RunStage`: the promises that `run` awaits.  A read of the registry joins its
  queue when it is asked for, so its answer is part of the stage;
* `ExecutionControl.resume`: from one await to the next, with the call of the
  registry that is made on the way.
-/

namespace TetiBot

open Library

/-! ### The state machine of a task -/

namespace CallableAdapterTaskSnapshot

def submitted : CallableAdapterTaskSnapshot := ⟨.submitted, none, none⟩

def isTerminal (task : CallableAdapterTaskSnapshot) : Bool :=
  task.state == .completed || task.state == .failed || task.state == .canceled

def start (task : CallableAdapterTaskSnapshot) : CallableAdapterTaskSnapshot :=
  if task.state = .submitted then { task with state := .working } else task

def complete (artifact : CallableAdapterTaskArtifact) (task : CallableAdapterTaskSnapshot) :
    CallableAdapterTaskSnapshot :=
  if task.state = .working then { task with state := .completed, artifact := some artifact }
  else task

def fail (code : String) (task : CallableAdapterTaskSnapshot) : CallableAdapterTaskSnapshot :=
  if task.isTerminal then task else ⟨.failed, none, some code⟩

def cancel (code : String) (task : CallableAdapterTaskSnapshot) : CallableAdapterTaskSnapshot :=
  if task.isTerminal then task else ⟨.canceled, none, some code⟩

end CallableAdapterTaskSnapshot

/-! ### The kernel's options -/

/-- What the kernel was constructed with; the two limits were checked to be
positive. -/
structure HostOptions where
  maxConcurrentTasks : Nat
  maxRetainedTasks : Nat
  workspaceStore : Bool
  artifactImageStore : Bool
  isSafeAbsoluteLocalPath : String → Bool
  sha256 : Sha256
  maxConcurrentTasks_pos : 0 < maxConcurrentTasks
  maxRetainedTasks_pos : 0 < maxRetainedTasks

/-! ### Executions -/

inductive TerminationReason
  | cancel | timeout | outputLimit | shutdown
  deriving DecidableEq

/-- How a process ended; the output is missing where it cannot be read. -/
structure ProcessExit where
  code : Int
  stdout : Option JsString
  deriving DecidableEq

/-- What the run of an execution awaits. -/
inductive RunStage
  | queued
  /-- `executionRegistry.get`. -/
  | opening (found : Option ExecutionHandle)
  /-- `executionRegistry.prepare`. -/
  | preparingHandle (prepared : Option ExecutionHandle)
  /-- The workspace, the images, the memory and the execution specification. -/
  | preparing
  /-- `executionRegistry.markRunning`. -/
  | launching
  /-- `process.writeInput`. -/
  | feeding
  /-- The end of the process, or its termination. -/
  | executing
  /-- `executionRegistry.isCurrent`, after the process has ended. -/
  | checking (exit : ProcessExit) (current : Bool)
  /-- `isCurrent`, before an image is stored. -/
  | imageChecking (text : JsString) (rest : List String) (stored : List TaskImagePart)
      (current : Bool)
  /-- `artifactImageStore.ingestGeneratedImage`. -/
  | imageStoring (text : JsString) (rest : List String) (stored : List TaskImagePart)
  /-- `isCurrent`, after an image was stored. -/
  | imageRechecking (text : JsString) (rest : List String) (stored : List TaskImagePart)
      (current : Bool)
  /-- `discardGeneratedImages`. -/
  | imagesDiscarding
  /-- `isCurrent`, before the result is published. -/
  | rechecking (artifact : CallableAdapterTaskArtifact) (current : Bool)
  /-- The removal of the staged input images. -/
  | cleaning (artifact : CallableAdapterTaskArtifact)
  /-- `workspaceStore.commitSnapshot` or `discardSnapshot`. -/
  | publishing (artifact : CallableAdapterTaskArtifact)
  /-- The end of the process and its checkpoint, in the `finally` block.  That `resolveCheckpoint`
  does not throw at once is assumed: only the promise that it returns is guarded. -/
  | closing
  /-- `executionRegistry.captureCheckpoint`. -/
  | recording
  /-- `executionRegistry.finish`, and the removal of the workspace. -/
  | settling
  | finished
  deriving DecidableEq

/-- An execution that was accepted.  No program reads the last two fields: a
`cancel` of it returned `true`, and its workspace was handed to
`commitSnapshot`. -/
structure ExecutionControl where
  connector : HostConnector
  request : CallableAdapterTaskRequest
  authority : ExecutionAuthority
  machine : CallableAdapterTaskSnapshot
  terminationReason : Option TerminationReason
  stage : RunStage
  cancelAccepted : Bool
  committed : Bool

/-- How the environment answers what a run awaits.  `now` is the clock when the
run goes on, `written` whether the next save of the registry succeeds, and an
error is given by the safe error code that the source makes of it. -/
inductive RunAnswer
  | fulfilled (now : Timestamp) (written : Bool)
  | rejected (code : String)
  /-- The preparation returns a failure, where `rejected` is thrown. -/
  | refused (code : String)
  | exited (exit : ProcessExit) (now later : Timestamp)
  | terminated
  | stored (image : TaskImagePart) (now : Timestamp)
  /-- The copy of a checkpoint from which the execution can be resumed. -/
  | checkpoint (captured : Option (String × String)) (now : Timestamp) (written : Bool)

/-- `isCurrent`. -/
def ExecutionHandleStoreState.isCurrent (registry : ExecutionHandleStoreState) (taskId : String)
    (executionEpoch : Nat) : Bool :=
  match currentHandle registry taskId executionEpoch with
  | none => false
  | some handle => !isTerminalExecutionProgress handle.progress.state

namespace ExecutionControl

/-- An execution before its run. -/
def submit (connector : HostConnector) (request : CallableAdapterTaskRequest)
    (authority : ExecutionAuthority) : ExecutionControl where
  connector := connector
  request := request
  authority := authority
  machine := .submitted
  terminationReason := none
  stage := .queued
  cancelAccepted := false
  committed := false

/-- The registry knows the execution as the current one of its task. -/
def isCurrent (registry : ExecutionHandleStoreState) (control : ExecutionControl) : Bool :=
  registry.isCurrent control.request.taskId control.authority.executionEpoch

variable (control : ExecutionControl)

/-- The run has a workspace directory of its own. -/
def hasWorkspacePath : Bool :=
  control.connector.policy == .snapshot

variable (host : HostOptions)

/-- The run works on a snapshot of the workspace. -/
def hasSnapshot (control : ExecutionControl) : Bool :=
  host.workspaceStore && control.connector.policy != .none

/-- The snapshot is committed, and not discarded. -/
def commitsSnapshot : Bool :=
  control.connector.policy == .snapshot
    && (control.authority.workspaceAccess.contains .write
      || control.authority.workspaceAccess.contains .createArtifact)

/-- The run leaves its `try` block. -/
def close (machine : CallableAdapterTaskSnapshot) (control : ExecutionControl) :
    ExecutionControl :=
  { control with machine := machine, stage := .closing }

def fail (code : String) (control : ExecutionControl) : ExecutionControl :=
  control.close (control.machine.fail code)

def cancel (code : String) (control : ExecutionControl) : ExecutionControl :=
  control.close (control.machine.cancel code)

variable (artifact : CallableAdapterTaskArtifact)

def complete (control : ExecutionControl) : ExecutionControl :=
  control.close (control.machine.complete artifact)

def requestTermination (reason : TerminationReason) (control : ExecutionControl) :
    ExecutionControl :=
  if control.terminationReason.isSome ∨ control.machine.isTerminal then control
  else { control with terminationReason := some reason }

/-- A `cancel` of an execution that runs returns `true`. -/
def acceptCancel : ExecutionControl :=
  { control.requestTermination .cancel with cancelAccepted := true }

/-- An execution that waits is canceled, by `cancel` where it is `accepted`. -/
def withdraw (code : String) (accepted : Bool) (control : ExecutionControl) : ExecutionControl :=
  { control with
    machine := control.machine.cancel code
    stage := .finished
    cancelAccepted := control.cancelAccepted || accepted }

def finishTermination (reason : TerminationReason) (control : ExecutionControl) :
    ExecutionControl :=
  match reason with
  | .cancel => control.cancel "ADAPTER_CANCELED"
  | .shutdown => control.cancel "ADAPTER_RUNTIME_SHUTDOWN"
  | .timeout => control.fail "ADAPTER_TIMEOUT"
  | .outputLimit => control.fail "ADAPTER_OUTPUT_LIMIT"

/-- The outer `catch` block. -/
def catchError (code : String) (control : ExecutionControl) : ExecutionControl :=
  match control.terminationReason with
  | some reason => control.finishTermination reason
  | none => control.fail code

/-! ### From the output to the result -/

def publish (control : ExecutionControl) : ExecutionControl :=
  if control.hasSnapshot host then
    { control with
      committed := control.committed || control.commitsSnapshot, stage := .publishing artifact }
  else control.complete artifact

/-- The deadline is checked again, and the staged images are removed. -/
def release (now : Timestamp) (control : ExecutionControl) : ExecutionControl :=
  if control.authority.executionDeadlineAt ≤ now then control.fail "ADAPTER_TASK_EXPIRED"
  else if control.hasWorkspacePath ∧ control.request.images ≠ [] then
    { control with stage := .cleaning artifact }
  else control.publish host artifact

variable (registry : Option ExecutionHandleStoreState)

def recheck
    (artifact : CallableAdapterTaskArtifact) (now : Timestamp) (control : ExecutionControl) :
    ExecutionControl :=
  match registry with
  | some registry => { control with stage := .rechecking artifact (control.isCurrent registry) }
  | none => control.release host artifact now

/-- The loop of `persistImageArtifact`. -/
def nextImage (text : JsString) (rest : List String) (stored : List TaskImagePart) (now : Timestamp)
    (control : ExecutionControl) : ExecutionControl :=
  match rest, registry with
  | [], _ => control.recheck host registry (.parts text stored) now
  | _ :: _, some registry =>
    { control with stage := .imageChecking text rest stored (control.isCurrent registry) }
  | _ :: rest, none => { control with stage := .imageStoring text rest stored }

/-- `persistImageArtifact`. -/
def persistImageArtifact
    (text : JsString) (images : List String) (now : Timestamp) (control : ExecutionControl) :
    ExecutionControl :=
  if validateCallableAdapterArtifactText text ≠ .ok ()
      ∨ .image ∉ control.connector.outputModes ∨ images = [] ∨ 4 < images.length
      ∨ host.artifactImageStore = false then control.fail "ADAPTER_OUTPUT_INVALID"
  else control.nextImage host registry text images [] now

/-- What the process put out is decoded. -/
def takeOutput (exit : ProcessExit) (now later : Timestamp) (control : ExecutionControl) :
    ExecutionControl :=
  if control.authority.executionDeadlineAt ≤ now then control.fail "ADAPTER_TASK_EXPIRED"
  else match exit.stdout with
  | none => control.fail "ADAPTER_OUTPUT_INVALID"
  | some stdout =>
    if exit.code ≠ 0 then
      control.fail ((control.connector.classifyFailure stdout).getD "ADAPTER_EXIT_NONZERO")
    else match control.connector.decodeArtifact stdout with
    | .error code => control.fail code
    | .ok (.text text) =>
      if validateCallableAdapterArtifactText text = .ok () then
        control.recheck host registry (.text text) later
      else control.fail "ADAPTER_OUTPUT_INVALID"
    | .ok (.parts text images) =>
      if control.hasWorkspacePath then
        control.persistImageArtifact host registry text images later
      else control.fail "ADAPTER_OUTPUT_INVALID"

/-! ### From one await to the next -/

/-- The run begins, up to its first await. -/
def start (control : ExecutionControl) : ExecutionControl :=
  { control with
    machine := control.machine.start
    stage := match registry with
      | some registry => .opening (registry.get control.request.taskId)
      | none => .preparing }

/-- `ensurePreparedExecution` prepares a handle with this input. -/
def prepareInput : PrepareExecutionHandleInput where
  taskId := control.request.taskId
  workspaceId := control.authority.workspaceId
  childAgentId := control.connector.childAgentId
  connectorId := control.connector.connectorId
  resume := false

/-- The handle that was found was prepared for this execution. -/
def ownsHandle (handle : ExecutionHandle) : Bool :=
  handle.executionEpoch == control.authority.executionEpoch
    && handle.workspaceId == control.authority.workspaceId
    && handle.connectorId == control.connector.connectorId
    && handle.childAgentId == control.connector.childAgentId
    && handle.progress.state == .queued

/-- How the registry is told that the execution has ended. -/
def executionEnd : ExecutionEnd :=
  match control.machine.state with
  | .completed => .completed
  | .canceled => .canceled
  | _ => .failed

/-- A run goes on from what it awaited to the next await; with it, the call of
the registry that it makes.  What is no answer to what the run awaits changes
nothing. -/
def resume
    (answer : RunAnswer) (control : ExecutionControl) : ExecutionControl × Option RegistryCall :=
  match control.stage, answer with
  | .opening (some handle), .fulfilled _ _ =>
    if control.ownsHandle handle then ({ control with stage := .preparing }, none)
    else (control.catchError "ADAPTER_INTERNAL_ERROR", none)
  | .opening none, .fulfilled now written =>
    -- the capabilities matter to a resume only, and this is none
    let call : RegistryCall := ⟨.prepare control.prepareInput
      ⟨false, false, false, false, false⟩ .workspacePureCompute true, now, written⟩
    ({ control with stage := .preparingHandle (registry.bind call.created) }, some call)
  | .preparingHandle (some handle), .fulfilled _ _ =>
    if handle.executionEpoch = control.authority.executionEpoch then
      ({ control with stage := .preparing }, none)
    else (control.catchError "ADAPTER_INTERNAL_ERROR", none)
  | .preparingHandle none, .fulfilled _ _ => (control.catchError "ADAPTER_INTERNAL_ERROR", none)
  | .preparing, .fulfilled now written =>
    match registry with
    | some _ => ({ control with stage := .launching },
        some ⟨.markRunning control.request.taskId control.authority.executionEpoch none, now,
          written⟩)
    | none => ({ control with stage := .feeding }, none)
  | .launching, .fulfilled _ _ => ({ control with stage := .feeding }, none)
  | .preparing, .refused code => (control.fail code, none)
  | .launching, .rejected _ => (control.fail "ADAPTER_LAUNCH_FAILED", none)
  | .feeding, .fulfilled _ _ => ({ control with stage := .executing }, none)
  | .preparing, .terminated | .executing, .terminated =>
    match control.terminationReason with
    | some reason => (control.finishTermination reason, none)
    | none => (control, none)
  | .executing, .rejected _ => (control.fail "ADAPTER_LAUNCH_FAILED", none)
  | .executing, .exited exit now later =>
    match control.terminationReason, registry with
    | some reason, _ => (control.finishTermination reason, none)
    | none, some registry =>
      ({ control with stage := .checking exit (control.isCurrent registry) }, none)
    | none, none => (control.takeOutput host none exit now later, none)
  | .checking exit current, .fulfilled now _ =>
    if current then (control.takeOutput host registry exit now now, none)
    else (control.cancel "ADAPTER_CANCELED", none)
  | .imageChecking text (_ :: rest) stored true, .fulfilled _ _ =>
    ({ control with stage := .imageStoring text rest stored }, none)
  | .imageChecking _ _ _ false, .fulfilled _ _
  | .imageRechecking _ _ _ false, .fulfilled _ _ =>
    ({ control with stage := .imagesDiscarding }, none)
  | .imageStoring text rest stored, .stored image now =>
    match registry with
    | some registry => ({ control with
        stage := .imageRechecking text rest (stored ++ [image]) (control.isCurrent registry) },
        none)
    | none => (control.nextImage host none text rest (stored ++ [image]) now, none)
  | .imageRechecking text rest stored true, .fulfilled now _ =>
    (control.nextImage host registry text rest stored now, none)
  | .imagesDiscarding, .fulfilled _ _ => (control.cancel "ADAPTER_CANCELED", none)
  | .rechecking artifact current, .fulfilled now _ =>
    if current then (control.release host artifact now, none)
    else (control.cancel "ADAPTER_CANCELED", none)
  | .cleaning artifact, .fulfilled _ _ => (control.publish host artifact, none)
  | .publishing artifact, .fulfilled _ _ => (control.complete artifact, none)
  | .imageChecking _ _ _ _, .rejected code | .imageStoring _ _ _, .rejected code
  | .imageRechecking _ _ _ _, .rejected code | .rechecking _ _, .rejected code
  | .cleaning _, .rejected code | .publishing _, .rejected code => (control.fail code, none)
  | .opening _, .rejected code | .preparingHandle _, .rejected code | .preparing, .rejected code
  | .feeding, .rejected code | .checking _ _, .rejected code => (control.catchError code, none)
  | .closing, .checkpoint (some (destination, digest)) now written =>
    if control.hasWorkspacePath ∧ control.connector.supportsCheckpoint
        ∧ control.machine.state ≠ .completed then
      ({ control with stage := .recording },
        some ⟨.captureCheckpoint control.request.taskId control.authority.executionEpoch
          destination digest, now, written⟩)
    else (control, none)
  | .closing, .checkpoint none now written | .recording, .fulfilled now written =>
    ({ control with stage := .settling },
      some ⟨.finish control.request.taskId control.authority.executionEpoch control.executionEnd
        control.machine.safeErrorCode, now, written⟩)
  | _, _ => (control, none)

/-! ### A run that goes on -/

/-- The run has begun, and has not ended. -/
def running : Bool :=
  control.stage != .queued && control.stage != .finished

/-- The same execution, which is running. -/
structure Continues (control next : ExecutionControl) : Prop where
  connector : next.connector = control.connector
  request : next.request = control.request
  authority : next.authority = control.authority
  cancelAccepted : next.cancelAccepted = control.cancelAccepted
  running : next.running = true

variable {host : HostOptions} {registry : Option ExecutionHandleStoreState}
  (control : ExecutionControl)

lemma close_continues (machine : CallableAdapterTaskSnapshot) :
    control.Continues (control.close machine) :=
  ⟨rfl, rfl, rfl, rfl, rfl⟩

lemma fail_continues (code : String) : control.Continues (control.fail code) :=
  control.close_continues _

lemma cancel_continues (code : String) : control.Continues (control.cancel code) :=
  control.close_continues _

variable (artifact : CallableAdapterTaskArtifact)

lemma complete_continues : control.Continues (control.complete artifact) :=
  control.close_continues _

lemma finishTermination_continues (reason : TerminationReason) :
    control.Continues (control.finishTermination reason) := by
  cases reason <;> exact control.close_continues _

lemma catchError_continues (code : String) : control.Continues (control.catchError code) := by
  rw [catchError]
  cases control.terminationReason with
  | none => exact control.fail_continues code
  | some reason => exact control.finishTermination_continues reason

lemma publish_continues : control.Continues (control.publish host artifact) := by
  rw [publish]
  split_ifs
  · exact ⟨rfl, rfl, rfl, rfl, rfl⟩
  · exact control.complete_continues artifact

lemma release_continues (now : Timestamp) :
    control.Continues (control.release host artifact now) := by
  rw [release]
  split_ifs
  · exact control.fail_continues _
  · exact ⟨rfl, rfl, rfl, rfl, rfl⟩
  · exact control.publish_continues artifact

lemma recheck_continues (now : Timestamp) :
    control.Continues (control.recheck host registry artifact now) := by
  cases registry with
  | none => exact control.release_continues artifact now
  | some registry => exact ⟨rfl, rfl, rfl, rfl, rfl⟩

lemma nextImage_continues (text : JsString) (rest : List String) (stored : List TaskImagePart)
    (now : Timestamp) : control.Continues (control.nextImage host registry text rest stored now) := by
  cases rest with
  | nil => exact control.recheck_continues _ now
  | cons path rest => cases registry <;> exact ⟨rfl, rfl, rfl, rfl, rfl⟩

/-- What the process put out makes the run fail, or is rechecked, or its images are stored. -/
lemma takeOutput_cases {P : ExecutionControl → Prop} (hfail : ∀ code, P (control.fail code))
    (hrecheck : ∀ artifact later, P (control.recheck host registry artifact later))
    (himages : ∀ text images later, P (control.nextImage host registry text images [] later))
    (exit : ProcessExit) (now later : Timestamp) :
    P (control.takeOutput host registry exit now later) := by
  rw [takeOutput]
  by_cases hdeadline : control.authority.executionDeadlineAt ≤ now
  · rw [if_pos hdeadline]
    exact hfail _
  rw [if_neg hdeadline]
  cases exit.stdout with
  | none => exact hfail _
  | some stdout =>
    dsimp only
    by_cases hcode : exit.code ≠ 0
    · rw [if_pos hcode]
      exact hfail _
    rw [if_neg hcode]
    cases control.connector.decodeArtifact stdout with
    | error code => exact hfail _
    | ok decoded =>
      cases decoded <;> dsimp only <;> split_ifs
      · exact hrecheck _ later
      · exact hfail _
      · rw [persistImageArtifact]
        split_ifs
        · exact hfail _
        · exact himages _ _ later
      · exact hfail _

lemma takeOutput_continues (exit : ProcessExit) (now later : Timestamp) :
    control.Continues (control.takeOutput host registry exit now later) :=
  control.takeOutput_cases control.fail_continues control.recheck_continues
    (fun text images => control.nextImage_continues text images []) exit now later

/-- **A run goes on**: it is the same execution, and it is not finished. -/
theorem resume_continues (hrunning : control.running = true) (answer : RunAnswer) :
    control.Continues (control.resume host registry answer).1 := by
  have hsame : control.Continues control := ⟨rfl, rfl, rfl, rfl, hrunning⟩
  rw [resume.eq_def]
  split
  -- most answers lead to one place, and the others to one for each branch
  all_goals first
    | exact hsame
    | exact control.fail_continues _
    | exact control.cancel_continues _
    | exact control.complete_continues _
    | exact control.catchError_continues _
    | exact control.publish_continues _
    | exact control.nextImage_continues _ _ _ _
    | exact ⟨rfl, rfl, rfl, rfl, rfl⟩
    | split
  all_goals first
    | exact hsame
    | exact control.cancel_continues _
    | exact control.catchError_continues _
    | exact control.finishTermination_continues _
    | exact control.release_continues _ _
    | exact control.nextImage_continues _ _ _ _
    | exact control.takeOutput_continues _ _ _
    | exact ⟨rfl, rfl, rfl, rfl, rfl⟩

/-- An execution that waits or has ended is left as it is. -/
lemma resume_of_not_running (hrunning : control.running = false) (answer : RunAnswer) :
    control.resume host registry answer = (control, none) := by
  have hstage : control.stage = .queued ∨ control.stage = .finished := by
    rw [running, Bool.and_eq_false_iff] at hrunning
    simpa using hrunning
  rw [resume.eq_def]
  rcases hstage with h | h <;> rw [h]

/-- Whatever a run awaits, it goes on as the same execution, and what waits goes
on waiting. -/
lemma resume_request (answer : RunAnswer) :
    (control.resume host registry answer).1.request = control.request := by
  by_cases hrunning : control.running = true
  · exact (control.resume_continues hrunning answer).request
  · rw [control.resume_of_not_running (by simpa using hrunning)]

lemma resume_queued_iff (answer : RunAnswer) :
    (control.resume host registry answer).1.stage = .queued ↔ control.stage = .queued := by
  by_cases hrunning : control.running = true
  · have hnext : (control.resume host registry answer).1.running = true :=
      (control.resume_continues hrunning answer).running
    rw [running, Bool.and_eq_true, bne_iff_ne, bne_iff_ne] at hrunning hnext
    exact iff_of_false hnext.1 hrunning.1
  · rw [control.resume_of_not_running (by simpa using hrunning)]

end ExecutionControl

end TetiBot

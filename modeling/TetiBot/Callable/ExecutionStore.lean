import TetiBot.Core.Validation
import TetiBot.Library.Focus

/-
The durable execution registry (`runtime/callable/execution-store.ts`).

* `ExecutionHandleStoreState`: the handles and the integrity records of their
  checkpoints, as the handle store persists them;
* `prepareHandle`, `transitionHandle`, `renewHandle`, `captureCheckpoint`,
  `cancelHandle`, `reconcileHandles`: the bodies that `mutate` runs between a
  load and a save;
* `validateExecutionHandleStoreState`: what every load and every save checks.
-/

namespace TetiBot

def TETI_EXECUTION_LEASE_MS : Int := 30000
def MAX_EXECUTION_HANDLES : Nat := 512

structure ConnectorExecutionCapabilities where
  supportsProgress : Bool
  supportsPause : Bool
  supportsResume : Bool
  supportsCheckpoint : Bool
  supportsCancel : Bool
  deriving DecidableEq

inductive ExecutionSemantics
  | workspacePureCompute | externalSideEffectsPossible
  deriving DecidableEq

structure CheckpointIntegrityRecord where
  taskId : String
  capturedExecutionEpoch : Nat
  checkpointRef : String
  sha256 : String
  deriving DecidableEq

structure ExecutionHandleStoreState where
  handles : List ExecutionHandle
  checkpointIntegrity : List CheckpointIntegrityRecord
  deriving DecidableEq

def emptyExecutionHandleStoreState : ExecutionHandleStoreState := ⟨[], []⟩

/-! ### Validation -/

def safeProviderId (value : String) : Bool :=
  1 ≤ utf16Length value && utf16Length value ≤ 256
    && value.toList.all fun c => c != '\r' && c != '\n' && c != '\x00'

/-- An epoch counts the executions of a task; that it stays a safe integer, which the source
also checks, is assumed. -/
def validateExecutionHandle (handle : ExecutionHandle) : Except TaskError Unit := do
  failIf (!safeLongId handle.taskId ∨ !safeLongId handle.workspaceId
      ∨ !safeSlugPattern handle.childAgentId ∨ !safeSlugPattern handle.connectorId
      ∨ handle.executionEpoch < 1 ∨ !handle.providerExecutionId.all safeProviderId
      ∨ !handle.checkpointRef.all fun ref => utf16Length ref ≤ 2048)
    (plainError "Execution Handle is invalid.")
  validateExecutionProgress handle.progress
  failIf (handle.resumeCapability = .checkpointRestart ∧ handle.checkpointRef = none)
    (plainError "A resumable Execution Handle requires a checkpoint.")

/-- The integrity record belongs to a handle that can be resumed from it. -/
def integrityOwned (handles : List ExecutionHandle) (record : CheckpointIntegrityRecord) : Bool :=
  handles.any fun handle => handle.taskId == record.taskId
    && handle.checkpointRef == some record.checkpointRef
    && handle.resumeCapability == .checkpointRestart

def validateExecutionHandleStoreState (state : ExecutionHandleStoreState) :
    Except TaskError Unit := do
  failIf (MAX_EXECUTION_HANDLES < state.handles.length
      ∨ MAX_EXECUTION_HANDLES < state.checkpointIntegrity.length)
    (plainError "Execution Handle store is invalid.")
  state.handles.forM validateExecutionHandle
  failIf (¬(state.handles.map fun handle => handle.taskId).Nodup)
    (plainError "Execution Handle task ID is duplicated.")
  failIf ((state.checkpointIntegrity.any fun record =>
        record.capturedExecutionEpoch < 1 || !sha256Pattern record.sha256)
      ∨ ¬(state.checkpointIntegrity.map fun record => record.taskId).Nodup)
    (plainError "Execution checkpoint integrity state is invalid.")
  failIf (¬state.checkpointIntegrity.all (integrityOwned state.handles))
    (plainError "Execution checkpoint integrity state is orphaned.")

/-! ### Handles -/

def leaseExpiry (now : Timestamp) : Timestamp := now + TETI_EXECUTION_LEASE_MS

/-- The handle of a task. -/
def ExecutionHandleStoreState.get (state : ExecutionHandleStoreState) (taskId : String) :
    Option ExecutionHandle :=
  state.handles.find? fun handle => handle.taskId == taskId

def currentHandle (state : ExecutionHandleStoreState) (taskId : String) (executionEpoch : Nat) :
    Option ExecutionHandle :=
  state.handles.find? fun handle =>
    handle.taskId == taskId && handle.executionEpoch == executionEpoch

/-- Remove handles of the list until at most `MAX_EXECUTION_HANDLES` are left. -/
def pruneTerminal : List ExecutionHandle → List ExecutionHandle → List ExecutionHandle
  | [], handles => handles
  | handle :: terminal, handles =>
    if handles.length ≤ MAX_EXECUTION_HANDLES then handles
    else pruneTerminal terminal (handles.erase handle)

def pruneHandles (state : ExecutionHandleStoreState) :
    Except TaskError ExecutionHandleStoreState := do
  if state.handles.length ≤ MAX_EXECUTION_HANDLES then
    return state
  -- the handles that ended first go first
  let terminal := (state.handles.filter fun handle =>
      isTerminalExecutionProgress handle.progress.state).mergeSort fun left right =>
    left.progress.updatedAt ≤ right.progress.updatedAt
  let handles := pruneTerminal terminal state.handles
  failIf (MAX_EXECUTION_HANDLES < handles.length)
    (plainError "Execution Handle store capacity is exhausted.")
  return {
    handles := handles
    checkpointIntegrity := state.checkpointIntegrity.filter (integrityOwned handles) }

/-- The previous handle may be restarted from its checkpoint. -/
def isResumable (previous : ExecutionHandle) (capabilities : ConnectorExecutionCapabilities)
    (semantics : ExecutionSemantics) : Bool :=
  previous.resumeCapability == .checkpointRestart && previous.checkpointRef.isSome
    && (previous.progress.state == .interrupted || previous.progress.state == .failed)
    && capabilities.supportsResume && capabilities.supportsCheckpoint
    && semantics == .workspacePureCompute

/-- The handle that `prepare` creates. -/
def preparedHandle (input : PrepareExecutionHandleInput) (previous : Option ExecutionHandle)
    (now : Timestamp) : ExecutionHandle where
  taskId := input.taskId
  workspaceId := input.workspaceId
  childAgentId := input.childAgentId
  connectorId := input.connectorId
  executionEpoch := (previous.map fun handle => handle.executionEpoch).getD 0 + 1
  providerExecutionId := none
  leaseExpiresAt := leaseExpiry now
  progress := {
    state := .queued
    completedUnits := none
    totalUnits := none
    message := some (if input.resume then "正在从显式检查点重新开始" else "等待本机 Child Agent")
    updatedAt := now }
  checkpointRef := previous.bind fun handle => handle.checkpointRef
  resumeCapability := (previous.map fun handle => handle.resumeCapability).getD .none

/-- The handle without its checkpoint, which was found damaged. -/
def withdrawCheckpoint (handle : ExecutionHandle) (now : Timestamp) : ExecutionHandle :=
  { handle with
    checkpointRef := none
    resumeCapability := .none
    progress := { handle.progress with
      message := some "检查点完整性验证失败，已禁止恢复", updatedAt := now } }

/-- Store a prepared handle in the place of the previous one, or at the end. -/
def putHandle (state : ExecutionHandleStoreState) (handle : ExecutionHandle) :
    ExecutionHandleStoreState :=
  if (state.get handle.taskId).isSome then
    { state with
      handles :=
        Library.updateFirst (fun item => item.taskId == handle.taskId) (fun _ => handle)
          state.handles }
  else { state with handles := state.handles ++ [handle] }

/-- The body of `prepare`.  `intact` tells whether the checkpoint of the
previous handle has its recorded digest.  A damaged checkpoint is an outcome:
it is withdrawn, the store is saved, and only then is the error thrown. -/
def prepareHandle (input : PrepareExecutionHandleInput)
    (capabilities : ConnectorExecutionCapabilities) (semantics : ExecutionSemantics)
    (intact : Bool) (now : Timestamp) (state : ExecutionHandleStoreState) :
    Except TaskError (Except TaskError ExecutionHandle × ExecutionHandleStoreState) := do
  let previous := state.get input.taskId
  if input.resume then
    match previous with
    | none => .error (plainError "EXECUTION_RESUME_UNAVAILABLE")
    | some handle =>
      failIf (!isResumable handle capabilities semantics)
        (plainError "EXECUTION_RESUME_UNAVAILABLE")
      if intact then
        let prepared := preparedHandle input previous now
        validateExecutionHandle prepared
        return (.ok prepared, ← pruneHandles (putHandle state prepared))
      else
        return (.error (plainError "EXECUTION_CHECKPOINT_INTEGRITY_FAILED"), {
          handles := (putHandle state (withdrawCheckpoint handle now)).handles
          checkpointIntegrity :=
            state.checkpointIntegrity.filter fun record => record.taskId != handle.taskId })
  else
    failIf previous.isSome (plainError "EXECUTION_HANDLE_EXISTS")
    let prepared := preparedHandle input previous now
    validateExecutionHandle prepared
    return (.ok prepared, ← pruneHandles (putHandle state prepared))

/-- Update the handle of a task and an epoch, unless it has ended. -/
def updateHandle (state : ExecutionHandleStoreState) (taskId : String) (executionEpoch : Nat)
    (f : ExecutionHandle → ExecutionHandle) : Bool × ExecutionHandleStoreState :=
  match currentHandle state taskId executionEpoch with
  | none => (false, state)
  | some handle =>
    if isTerminalExecutionProgress handle.progress.state then (false, state)
    else (true, { state with
      handles := Library.updateFirst
        (fun item => item.taskId == taskId && item.executionEpoch == executionEpoch) f
        state.handles })

variable (taskId : String) (executionEpoch : Nat)

/-- `transition`: the message and, where it is given, the provider's identifier. -/
def transitionHandle (next : ExecutionProgressState)
    (providerExecutionId : Option (Option String)) (message : String) (now : Timestamp)
    (state : ExecutionHandleStoreState) : Bool × ExecutionHandleStoreState :=
  updateHandle state taskId executionEpoch fun handle => { handle with
    providerExecutionId := providerExecutionId.getD handle.providerExecutionId
    progress := {
      state := next
      completedUnits := if next = .completed then some 1 else handle.progress.completedUnits
      totalUnits := if next = .completed then some 1 else handle.progress.totalUnits
      message := some message
      updatedAt := now }
    leaseExpiresAt := if isTerminalExecutionProgress next then now else leaseExpiry now }

def markRunning (providerExecutionId : Option String)
    (now : Timestamp) : ExecutionHandleStoreState → Bool × ExecutionHandleStoreState :=
  transitionHandle taskId executionEpoch .running (some providerExecutionId)
    "本机 Child Agent 正在执行" now

def renewHandle (now : Timestamp)
    (state : ExecutionHandleStoreState) : Bool × ExecutionHandleStoreState :=
  updateHandle state taskId executionEpoch fun handle =>
    { handle with leaseExpiresAt := leaseExpiry now }

/-- The part of `captureCheckpoint` after the checkpoint file was written. -/
def captureCheckpoint (destination digest : String)
    (state : ExecutionHandleStoreState) : Bool × ExecutionHandleStoreState :=
  let (captured, next) := updateHandle state taskId executionEpoch fun handle =>
    { handle with checkpointRef := some destination, resumeCapability := .checkpointRestart }
  if captured then
    (true, { next with
      checkpointIntegrity :=
        (state.checkpointIntegrity.filter fun record => record.taskId != taskId) ++ [{
        taskId := taskId
        capturedExecutionEpoch := executionEpoch
        checkpointRef := destination
        sha256 := digest }] })
  else (false, state)

/-- The states in which `finish` leaves a handle, with their messages. -/
inductive ExecutionEnd
  | completed | failed | canceled
  deriving DecidableEq

def ExecutionEnd.state : ExecutionEnd → ExecutionProgressState
  | .completed => .completed
  | .failed => .failed
  | .canceled => .canceled

def terminalMessage : ExecutionEnd → String
  | .completed => "执行已完成"
  | .canceled => "执行已取消"
  | .failed => "执行失败"

def finishHandle (finished : ExecutionEnd) (message : Option String) (now : Timestamp) :
    ExecutionHandleStoreState → Bool × ExecutionHandleStoreState :=
  transitionHandle taskId executionEpoch finished.state none
    (message.getD (terminalMessage finished)) now

/-- The handle with its progress ended where it stands. -/
def settleHandle (state : ExecutionProgressState) (message : String) (now : Timestamp)
    (handle : ExecutionHandle) : ExecutionHandle :=
  { handle with
    progress := { handle.progress with
      state := state, message := some message, updatedAt := now }
    leaseExpiresAt := now }

/-- `cancel`: the epoch is checked where it is given. -/
def cancelHandle (executionEpoch : Option Nat) (now : Timestamp)
    (state : ExecutionHandleStoreState) : Bool × ExecutionHandleStoreState :=
  match state.get taskId with
  | none => (false, state)
  | some handle =>
    if executionEpoch.any (fun epoch => epoch != handle.executionEpoch)
        || isTerminalExecutionProgress handle.progress.state then (false, state)
    else (true, { state with
      handles := Library.updateFirst (fun item => item.taskId == taskId)
        (settleHandle .canceled "执行已取消" now) state.handles })

/-- What `reconcile` does to one handle. -/
def interruptHandle (activeTaskIds : List String) (now : Timestamp) (handle : ExecutionHandle) :
    ExecutionHandle :=
  if isTerminalExecutionProgress handle.progress.state || activeTaskIds.contains handle.taskId then
    handle
  else
    { settleHandle .interrupted
        (if handle.resumeCapability = .checkpointRestart then "执行已中断，可从显式检查点重新开始"
          else "执行已中断，当前 Child Agent 不支持恢复") now handle with
      providerExecutionId := none }

def reconcileHandles (activeTaskIds : List String) (now : Timestamp)
    (state : ExecutionHandleStoreState) : ExecutionHandleStoreState :=
  { state with handles := state.handles.map (interruptHandle activeTaskIds now) }

end TetiBot

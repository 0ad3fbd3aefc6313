import TetiBot.Workspaces.Store

/-
Is a commit atomic (`commitSnapshot` and `saveIndex` of
`runtime/workspaces/store.ts`)?

* `WorkspaceDisk.Backed`: the content of each workspace in the index is there and
  matches its manifest.
* `Publishes`: the inputs with which a commit gets as far as putting the new
  index in place.
* `commit_atomic_iff`: when a commit leaves the old or the new index, with its content.
* `commit_loses_content`: a commit that does so.
-/

namespace TetiBot

open Library Library.Async

variable {env : WorkspaceEnvironment}

/-! ### Steps -/

lemma exec_fileStep (step : FileStep) (change failed : WorkspaceDisk → WorkspaceDisk)
    (w : WorkspaceWorld) :
    (fileStep env step change failed).exec w = match env.fails w.operations step with
      | none => (.ok (), w.setDisk (change w.disk))
      | some error => (.error error, w.setDisk (failed w.disk)) := by
  rw [fileStep, Program.exec_bind, Program.exec_reads]
  cases env.fails w.operations step <;> rfl

variable (disk : WorkspaceDisk) (path : WorkspacePath)

lemma directories_same (tree : Option WorkspaceTree) :
    (disk.setDirectory path tree).directories path = tree :=
  if_pos rfl

lemma directories_other {path other : WorkspacePath} (hne : other ≠ path)
    (tree : Option WorkspaceTree) :
    (disk.setDirectory path tree).directories other = disk.directories other :=
  if_neg hne

lemma setDirectory_self : disk.setDirectory path (disk.directories path) = disk := by
  rw [WorkspaceDisk.setDirectory]
  congr 1
  funext other
  split_ifs with h
  · rw [h]
  · rfl

lemma directories_move {source target : WorkspacePath} (hne : source ≠ target) :
    (disk.move source target).directories target = disk.directories source :=
  (if_neg hne.symm).trans (if_pos rfl)

lemma temporary_ne_final {workspaceId workspaceId' uuid : String} {m n : Nat} :
    WorkspacePath.temporaryRevision workspaceId m uuid ≠ .revision workspaceId' n := by
  simp

/-- A removal changes the directory it is about, whether it fails or not. -/
lemma exec_removeDirectory (w : WorkspaceWorld) :
    (removeDirectory env path).exec w = match env.fails w.operations (.rm path) with
      | none => (.ok (), w.setDisk (w.disk.setDirectory path none))
      | some error => (.error error, w.setDisk (w.disk.setDirectory path
          ((w.disk.directories path).bind (env.remains w.operations path)))) := by
  rw [removeDirectory, Program.exec_bind, Program.exec_reads]
  exact exec_fileStep _ _ _ w

lemma exec_readIndex (w : WorkspaceWorld) :
    (readIndex env).exec w = (match env.fails w.operations .readIndex with
      | some error => .error error
      | none => match w.disk.index with
        | some index => .ok index
        | none => .error notFound, w) := by
  simp only [readIndex, Program.exec_bind, Program.exec_reads, id]
  cases env.fails w.operations .readIndex with
  | some error => rfl
  | none => cases w.disk.index <;> rfl

lemma exec_scanDirectory (quota : WorkspaceQuota) (w : WorkspaceWorld) :
    (scanDirectory env path quota).exec w = (match w.disk.directories path with
      | some tree => scanWorkspaceTree env.platform (env.scanFails w.operations path) quota
          (env.now w.calls) tree
      | none => .error notFound, w) := by
  simp only [scanDirectory, Program.exec_bind, Program.exec_reads, id]
  cases w.disk.directories path with
  | none => rfl
  | some tree =>
    simp only [Program.orThrow, Program.exec_pure]
    cases scanWorkspaceTree env.platform (env.scanFails w.operations path) quota
      (env.now w.calls) tree <;> rfl

lemma exec_copyDirectory (source destination : WorkspacePath) (w : WorkspaceWorld) :
    (copyDirectory env source destination).exec w = match w.disk.directories source with
      | none => (.error notFound, w)
      | some tree =>
        match copyTreeNoSymlinks (env.copyFails w.operations source) (env.now w.calls) tree with
        | .ok copy => (.ok (), w.setDisk (w.disk.setDirectory destination (some copy)))
        | .error error => (.error error, w.setDisk (w.disk.setDirectory destination
            (some (env.copied w.operations destination)))) := by
  simp only [copyDirectory, Program.exec_bind, Program.exec_reads, id]
  cases w.disk.directories source with
  | none => rfl
  | some tree =>
    simp only [Program.orThrow, Program.exec_pure]
    cases copyTreeNoSymlinks (env.copyFails w.operations source) (env.now w.calls) tree <;> rfl

lemma exec_renameDirectory (source target : WorkspacePath) (w : WorkspaceWorld) :
    (renameDirectory env source target).exec w =
      if (w.disk.directories target).isSome then (.error ⟨.other, "ENOTEMPTY", ""⟩, w)
      else match env.fails w.operations (.rename source target) with
        | none => (.ok (), w.setDisk (w.disk.move source target))
        | some error => (.error error, w) := by
  rw [renameDirectory, Program.exec_bind, Program.exec_reads]
  simp only [Program.exec_bind, exec_fileStep]
  split_ifs with h
  · simp [Program.throwIf, h]
  · simp only [Program.throwIf, if_neg h, Program.exec_pure]
    cases env.fails w.operations (.rename source target) <;> rfl

/-! ### The checks change nothing -/

lemma reads_loadIndex : Reads (loadIndex env) := by
  refine Reads.bind (Reads.attempt (Reads.bind ?_ fun value => ?_)) fun loaded => ?_
  · intro w
    rw [outcome_lift, exec_readIndex]
  · exact Reads.bind (Reads.fromExcept _) fun _ => Reads.pure _
  · cases loaded with
    | ok index => exact Reads.pure index
    | error error =>
      dsimp only
      split_ifs
      · exact Reads.pure _
      · exact Reads.raise _

lemma reads_requireInitialized : Reads requireInitialized :=
  Reads.bind (fun _ => rfl) fun _ => Reads.throwIf _ _

lemma reads_requireActiveSnapshot (snapshot : WorkspaceSnapshot) :
    Reads (requireActiveSnapshot env snapshot) := by
  refine Reads.bind (fun _ => rfl) fun known => Reads.bind (Reads.orThrow _ _) fun active => ?_
  exact Reads.bind (Reads.throwIf _ _) fun _ => Reads.pure active

/-- **The checks of a commit change nothing**. -/
lemma reads_prepareCommit (snapshot : WorkspaceSnapshot) : Reads (prepareCommit env snapshot) := by
  refine Reads.bind reads_requireInitialized fun _ => ?_
  refine Reads.bind (reads_requireActiveSnapshot snapshot) fun active => ?_
  refine Reads.bind (Reads.throwIf _ _) fun _ => Reads.bind reads_loadIndex fun index => ?_
  refine Reads.bind (Reads.orThrow _ _) fun workspace => Reads.bind (Reads.throwIf _ _) fun _ => ?_
  refine Reads.bind (fun w => ?_) fun _ => ?_
  · rw [outcome_lift, exec_scanDirectory]
  · exact Reads.bind (Reads.throwIf _ _) fun _ => Reads.pure _

variable {w' : WorkspaceWorld} {index : WorkspaceIndex}

/-- What was loaded is in the index file and passed validation, or there is no
workspace in it. -/
lemma loadIndex_spec {w : WorkspaceWorld} (h : (loadIndex env).outcome w = (.ok index, w')) :
    w.disk.index = some index ∧ validateIndex index = .ok () ∨ index = emptyWorkspaceIndex := by
  rw [loadIndex, outcome_bind, outcome_attempt] at h
  dsimp only at h
  generalize hread : (do
    let value ← lift (readIndex env)
    fromExcept (validateIndex value)
    return value : WorkspaceOperation WorkspaceIndex).outcome w = read at h
  obtain ⟨error | loaded, w₁⟩ := read
  · dsimp only at h
    split_ifs at h
    · exact .inr (Except.ok.inj (congrArg Prod.fst h)).symm
    · exact absurd (congrArg Prod.fst h) (by simp [raise, outcome])
  · obtain rfl : loaded = index := Except.ok.inj (congrArg Prod.fst h)
    obtain ⟨value, w₂, hvalue, hread⟩ := outcome_bind_eq_ok.mp hread
    obtain ⟨_, w₃, hvalid, hread⟩ := outcome_bind_eq_ok.mp hread
    obtain rfl : value = loaded := Except.ok.inj (congrArg Prod.fst hread)
    refine .inl ⟨?_, congrArg Prod.fst hvalid⟩
    rw [outcome_lift, exec_readIndex] at hvalue
    have hresult := congrArg Prod.fst hvalue
    dsimp only at hresult
    cases hfails : env.fails w.operations .readIndex with
    | some error => simp [hfails] at hresult
    | none =>
      cases hindex : w.disk.index with
      | none => simp [hfails, hindex] at hresult
      | some found =>
        rw [hfails, hindex] at hresult
        exact congrArg some (Except.ok.inj hresult)

variable {snapshot : WorkspaceSnapshot} {active : ActiveSnapshot}

lemma requireActiveSnapshot_spec {w : WorkspaceWorld}
    (h : (requireActiveSnapshot env snapshot).outcome w = (.ok active, w')) :
    w.activeSnapshots.get? snapshot.snapshotId = some active
      ∧ active.snapshot.workspaceId = snapshot.workspaceId
      ∧ active.snapshot.workspaceRevision = snapshot.workspaceRevision := by
  obtain ⟨known, w₁, hread, h⟩ := outcome_bind_eq_ok.mp h
  obtain ⟨found, hfound, h⟩ := (Reads.orThrow _ _).bind_eq_ok.mp h
  obtain ⟨_, w₂, hsame, h⟩ := outcome_bind_eq_ok.mp h
  obtain ⟨hsame, -⟩ := outcome_throwIf_eq_ok.mp hsame
  obtain rfl : found = active := Except.ok.inj (congrArg Prod.fst h)
  simp only [not_or, not_not] at hsame
  refine ⟨?_, hsame.1, hsame.2.1⟩
  rw [show w.activeSnapshots.get? snapshot.snapshotId = known from
    Except.ok.inj (congrArg Prod.fst hread)]
  cases known with
  | none => cases hfound
  | some active => exact congrArg some (Except.ok.inj hfound)

/-- What the checks of a commit have found. -/
structure Prepared (w : WorkspaceWorld) (snapshot : WorkspaceSnapshot) (found : ActiveSnapshot)
    (loaded : WorkspaceIndex) (workspace : WorkspaceDocument) : Prop where
  active : w.activeSnapshots.get? snapshot.snapshotId = some found
  workspaceId : found.snapshot.workspaceId = snapshot.workspaceId
  workspaceRevision : found.snapshot.workspaceRevision = snapshot.workspaceRevision
  index : w.disk.index = some loaded
  indexValid : validateIndex loaded = .ok ()
  listed : loaded.find snapshot.workspaceId = some workspace
  current : workspace.revision = snapshot.workspaceRevision

variable {workspace : WorkspaceDocument}

lemma prepareCommit_spec {w : WorkspaceWorld}
    (h : (prepareCommit env snapshot).outcome w = (.ok (active, index, workspace), w')) :
    Prepared w snapshot active index workspace := by
  obtain ⟨_, -, h⟩ := reads_requireInitialized.bind_eq_ok.mp h
  obtain ⟨known, hknown, h⟩ := (reads_requireActiveSnapshot snapshot).bind_eq_ok.mp h
  obtain ⟨_, -, h⟩ := (Reads.throwIf _ _).bind_eq_ok.mp h
  obtain ⟨loaded, hloaded, h⟩ := reads_loadIndex.bind_eq_ok.mp h
  obtain ⟨document, hdocument, h⟩ := (Reads.orThrow _ _).bind_eq_ok.mp h
  obtain ⟨_, w₁, hcurrent, h⟩ := outcome_bind_eq_ok.mp h
  obtain ⟨hcurrent, -⟩ := outcome_throwIf_eq_ok.mp hcurrent
  obtain ⟨_, w₂, -, h⟩ := outcome_bind_eq_ok.mp h
  obtain ⟨_, w₃, -, h⟩ := outcome_bind_eq_ok.mp h
  obtain ⟨rfl, rfl, rfl⟩ : known = active ∧ loaded = index ∧ document = workspace := by
    simpa using Except.ok.inj (congrArg Prod.fst h)
  obtain ⟨hactive, hid, hrevision⟩ := requireActiveSnapshot_spec (Prod.ext hknown rfl)
  have hfound : loaded.find known.snapshot.workspaceId = some document :=
    (outcome_orThrow_eq_ok.mp (Prod.ext hdocument rfl)).1
  rw [hid] at hfound
  rw [not_not, hrevision] at hcurrent
  rcases loadIndex_spec (Prod.ext hloaded rfl) with ⟨hindex, hvalid⟩ | rfl
  · exact ⟨hactive, hid, hrevision, hindex, hvalid, hfound, hcurrent⟩
  · cases hfound

/-! ### The published revision -/

variable (platform : WorkspacePlatform)

/-- A directory has the content that a manifest describes. -/
def Matches (tree : WorkspaceTree) (quota : WorkspaceQuota) (manifest : WorkspaceManifest) : Prop :=
  ∃ now actual, scanWorkspaceTree platform steadyWalk quota now tree = .ok actual
    ∧ sameManifestContent actual manifest = true

/-- The content directory of a workspace is there and matches its manifest. -/
def WorkspaceDisk.Verified (disk : WorkspaceDisk) (workspace : WorkspaceDocument) : Prop :=
  ∃ tree, disk.directories (.revision workspace.workspaceId workspace.revision) = some tree
    ∧ Matches platform tree workspace.quota workspace.manifest

/-- The content of every workspace in the index is there. -/
def WorkspaceDisk.Backed (disk : WorkspaceDisk) : Prop :=
  ∀ index, disk.index = some index → ∀ workspace ∈ index.workspaces, disk.Verified platform workspace

/-- What a commit is about to publish. -/
structure Publication where
  active : ActiveSnapshot
  index : WorkspaceIndex
  workspace : WorkspaceDocument
  source : WorkspaceTree
  copy : WorkspaceTree
  manifest : WorkspaceManifest

namespace Publication

variable (env) (w : WorkspaceWorld) (p : Publication)

/-- The directory the copy is made in. -/
def temporary : WorkspacePath :=
  .temporaryRevision p.workspace.workspaceId (p.workspace.revision + 1) (env.randomUUID w.calls)

/-- The directory of the next revision. -/
def final : WorkspacePath := .revision p.workspace.workspaceId (p.workspace.revision + 1)

/-- The workspace at its next revision. -/
def next : WorkspaceDocument := p.workspace.advance p.manifest (env.now (w.calls + 1))

/-- The new index. -/
def newIndex : WorkspaceIndex := p.index.update p.workspace.workspaceId fun _ => p.next env w

end Publication

/-- The checks and steps of `publishRevision`, in the `n`-th operation. -/
structure Copies (env : WorkspaceEnvironment) (n : Nat) (now : Timestamp) (disk : WorkspaceDisk)
    (sourcePath temporary final : WorkspacePath) (quota : WorkspaceQuota)
    (source copy : WorkspaceTree) (manifest : WorkspaceManifest) : Prop where
  finds : disk.directories sourcePath = some source
  copies : copyTreeNoSymlinks (env.copyFails n sourcePath) now source = .ok copy
  scans : scanWorkspaceTree env.platform (env.scanFails n temporary) quota now copy = .ok manifest
  manifestValid : validateWorkspaceManifest manifest quota = .ok ()
  free : disk.directories final = none
  renames : env.fails n (.rename temporary final) = none

/-- The checks and steps of `recordRevision` until the new index is in place. -/
structure PublishedIn (env : WorkspaceEnvironment) (n : Nat) (index : WorkspaceIndex)
    (next : WorkspaceDocument) : Prop where
  nextValid : validateCollaborationWorkspace next = .ok ()
  indexValid : validateIndex (index.update next.workspaceId fun _ => next) = .ok ()
  makesRoot : env.fails n .makeRoot = none
  writes : env.fails n .writeIndex = none
  replaces : env.fails n .renameIndex = none

/-- Every check and every step of the file system after the first checks succeeds,
until the new index is in place. -/
structure Advances (env : WorkspaceEnvironment) (w : WorkspaceWorld) (p : Publication) : Prop where
  makesTemporary : env.fails w.operations (.mkdir (p.temporary env w)) = none
  copies : Copies env w.operations (env.now (w.calls + 1)) w.disk p.active.path
    (p.temporary env w) p.final p.workspace.quota p.source p.copy p.manifest
  records : PublishedIn env w.operations p.index (p.next env w)

/-- A commit gets as far as putting the new index in place. -/
structure Publishes (env : WorkspaceEnvironment) (w : WorkspaceWorld) (snapshot : WorkspaceSnapshot)
    (p : Publication) : Prop extends Advances env w p where
  prepared :
    ((prepareCommit env snapshot).outcome w).1 = .ok (p.active, p.index, p.workspace)

/-- The inputs determine what is copied, and the manifest. -/
lemma Copies.unique {n : Nat} {now : Timestamp} {disk : WorkspaceDisk}
    {sourcePath temporary final : WorkspacePath} {quota : WorkspaceQuota}
    {source copy source' copy' : WorkspaceTree} {manifest manifest' : WorkspaceManifest}
    (h : Copies env n now disk sourcePath temporary final quota source copy manifest)
    (h' : Copies env n now disk sourcePath temporary final quota source' copy' manifest') :
    copy = copy' ∧ manifest = manifest' := by
  obtain rfl : source = source' := Option.some.inj (h.finds.symm.trans h'.finds)
  obtain rfl : copy = copy' := Except.ok.inj (h.copies.symm.trans h'.copies)
  exact ⟨rfl, Except.ok.inj (h.scans.symm.trans h'.scans)⟩

/-- What `publishRevision` does: it puts the copy at the place of the next
revision, or it leaves something in the temporary directory and throws. -/
lemma publishRevision_spec (sourcePath temporary final : WorkspacePath) (quota : WorkspaceQuota)
    (hne : temporary ≠ final) (w : WorkspaceWorld) :
    (∃ source copy manifest, Copies env w.operations (env.now w.calls) w.disk sourcePath temporary
          final quota source copy manifest
        ∧ (publishRevision env sourcePath temporary final quota).outcome w = (.ok manifest,
          w.setDisk ((w.disk.setDirectory temporary (some copy)).move temporary final)))
      ∨ (∀ source copy manifest, ¬Copies env w.operations (env.now w.calls) w.disk sourcePath
          temporary final quota source copy manifest)
        ∧ ∃ error tree, (publishRevision env sourcePath temporary final quota).outcome w
          = (.error error, w.setDisk (w.disk.setDirectory temporary tree)) := by
  have hsame : w = w.setDisk (w.disk.setDirectory temporary (w.disk.directories temporary)) := by
    rw [setDirectory_self]
    rfl
  simp only [publishRevision, outcome_bind, outcome_lift, exec_copyDirectory]
  cases hsource : w.disk.directories sourcePath with
  | none =>
    refine .inr ⟨fun _ _ _ h => ?_, _, _, Prod.ext rfl hsame⟩
    simpa [hsource] using h.finds
  | some source =>
    dsimp only
    cases hcopy : copyTreeNoSymlinks (env.copyFails w.operations sourcePath) (env.now w.calls)
        source with
    | error error =>
      refine .inr ⟨fun _ _ _ h => ?_, error, _, rfl⟩
      obtain rfl := Option.some.inj (hsource.symm.trans h.finds)
      simpa [hcopy] using h.copies
    | ok copy =>
      have hcopied : (w.disk.setDirectory temporary (some copy)).directories temporary
          = some copy := if_pos rfl
      simp only [exec_scanDirectory, WorkspaceWorld.setDisk, hcopied]
      cases hscan : scanWorkspaceTree env.platform (env.scanFails w.operations temporary) quota
          (env.now w.calls) copy with
      | error error =>
        refine .inr ⟨fun _ _ _ h => ?_, error, some copy, rfl⟩
        obtain rfl := Option.some.inj (hsource.symm.trans h.finds)
        obtain rfl := Except.ok.inj (hcopy.symm.trans h.copies)
        simpa [hscan] using h.scans
      | ok manifest =>
        have hfacts : ∀ source' copy' manifest', Copies env w.operations (env.now w.calls)
            w.disk sourcePath temporary final quota source' copy' manifest' →
            manifest = manifest' := by
          intro _ _ _ h
          obtain rfl := Option.some.inj (hsource.symm.trans h.finds)
          obtain rfl := Except.ok.inj (hcopy.symm.trans h.copies)
          exact Except.ok.inj (hscan.symm.trans h.scans)
        simp only [outcome_fromExcept]
        cases hvalid : validateWorkspaceManifest manifest quota with
        | error error =>
          refine .inr ⟨fun _ _ _ h => ?_, error, some copy, rfl⟩
          have hmanifest := h.manifestValid
          rw [← hfacts _ _ _ h, hvalid] at hmanifest
          simp at hmanifest
        | ok _ =>
          have hfinal : (w.disk.setDirectory temporary (some copy)).directories final
              = w.disk.directories final := if_neg hne.symm
          simp only [exec_renameDirectory, hfinal]
          cases hfree : w.disk.directories final with
          | some other =>
            refine .inr ⟨fun _ _ _ h => ?_, _, some copy, rfl⟩
            simpa [hfree] using h.free
          | none =>
            simp only [Option.isSome_none, Bool.false_eq_true, if_false]
            cases hrename : env.fails w.operations (.rename temporary final) with
            | some error =>
              refine .inr ⟨fun _ _ _ h => ?_, error, some copy, rfl⟩
              simpa [hrename] using h.renames
            | none =>
              exact .inl ⟨source, copy, manifest,
                ⟨hsource, hcopy, hscan, hvalid, hfree, hrename⟩, rfl⟩

/-- What `recordRevision` does: if it gets that far, it replaces the index, and
throws if the permissions of the index cannot be set; else it leaves the disk
alone and throws. -/
lemma recordRevision_spec (index : WorkspaceIndex) (workspace : WorkspaceDocument)
    (manifest : WorkspaceManifest) (w : WorkspaceWorld) :
    let next := workspace.advance manifest (env.now w.calls)
    PublishedIn env w.operations index next
        ∧ (recordRevision env index workspace manifest).outcome w
          = (match env.fails w.operations .chmodIndex with
              | none => .ok next
              | some error => .error error,
            w.tick.tick.setDisk (w.disk.setIndex (index.update workspace.workspaceId fun _ => next)))
      ∨ ¬PublishedIn env w.operations index next
        ∧ ∃ error w', (recordRevision env index workspace manifest).outcome w = (.error error, w')
          ∧ w'.disk = w.disk ∧ w'.operations = w.operations := by
  intro next
  simp only [recordRevision, saveIndex, replaceIndex, outcome_bind, outcome_lift, workspaceNow,
    workspaceUUID, Program.exec_bind, Program.exec_reads, Program.exec_writes, Program.exec_pure,
    outcome_fromExcept, exec_fileStep, WorkspaceWorld.tick, WorkspaceWorld.setDisk, id]
  cases hnext : validateCollaborationWorkspace next with
  | error error =>
    exact .inr ⟨fun h => by simpa [hnext] using h.nextValid, error, _, rfl, rfl, rfl⟩
  | ok _ =>
    dsimp only
    cases hindex : validateIndex (index.update workspace.workspaceId fun _ => next) with
    | error error =>
      exact .inr ⟨fun h => absurd (hindex.symm.trans h.indexValid) (by simp), error, _, rfl, rfl,
        rfl⟩
    | ok _ =>
      dsimp only
      cases hroot : env.fails w.operations .makeRoot with
      | some error =>
        exact .inr ⟨fun h => by simpa [hroot] using h.makesRoot, error, _, rfl, rfl, rfl⟩
      | none =>
        dsimp only
        cases hwrite : env.fails w.operations .writeIndex with
        | some error =>
          exact .inr ⟨fun h => by simpa [hwrite] using h.writes, error, _, rfl, rfl, rfl⟩
        | none =>
          dsimp only
          cases hreplace : env.fails w.operations .renameIndex with
          | some error =>
            exact .inr ⟨fun h => by simpa [hreplace] using h.replaces, error, _, rfl, rfl, rfl⟩
          | none =>
            refine .inl ⟨⟨hnext, hindex, hroot, hwrite, hreplace⟩, ?_⟩
            dsimp only
            cases env.fails w.operations .chmodIndex <;> rfl

/-! ### The commit -/

/-- Nothing but some directories has changed on the disk. -/
structure Confined (paths : List WorkspacePath) (w w' : WorkspaceWorld) : Prop where
  index : w'.disk.index = w.disk.index
  operations : w'.operations = w.operations
  elsewhere : ∀ path ∉ paths, w'.disk.directories path = w.disk.directories path

namespace Confined

variable {paths : List WorkspacePath} {w w₁ w₂ : WorkspaceWorld}

lemma of_disk (hdisk : w₁.disk = w.disk) (hoperations : w₁.operations = w.operations) :
    Confined paths w w₁ :=
  ⟨by rw [hdisk], hoperations, fun path _ => by rw [hdisk]⟩

lemma trans (h₁ : Confined paths w w₁) (h₂ : Confined paths w₁ w₂) : Confined paths w w₂ :=
  ⟨h₂.index.trans h₁.index, h₂.operations.trans h₁.operations,
    fun path hpath => (h₂.elsewhere path hpath).trans (h₁.elsewhere path hpath)⟩

lemma setDirectory (path : WorkspacePath) (hpath : path ∈ paths) (tree : Option WorkspaceTree) :
    Confined paths w (w.setDisk (w.disk.setDirectory path tree)) :=
  ⟨rfl, rfl, fun other hother => if_neg fun heq : other = path => hother (heq ▸ hpath)⟩

lemma move {source target : WorkspacePath} (hsource : source ∈ paths) (htarget : target ∈ paths) :
    Confined paths w (w.setDisk (w.disk.move source target)) :=
  (setDirectory (w := w) target htarget _).trans (setDirectory source hsource none)

lemma removeDirectory {path : WorkspacePath} (hpath : path ∈ paths) :
    Confined paths w ((removeDirectory env path).exec w).2 := by
  rw [exec_removeDirectory]
  cases env.fails w.operations (.rm path) with
  | none => exact setDirectory path hpath none
  | some error => exact setDirectory path hpath _

end Confined

lemma find_spec {workspaceId : String} (h : index.find workspaceId = some workspace) :
    workspace ∈ index.workspaces ∧ workspace.workspaceId = workspaceId :=
  ⟨List.mem_of_find?_eq_some h, by simpa using List.find?_some h⟩

lemma nodup_of_validateIndex (h : validateIndex index = .ok ()) :
    (index.workspaces.map fun workspace => workspace.workspaceId).Nodup := by
  obtain ⟨_, -, h⟩ := except_bind_eq_ok.mp h
  exact not_not.mp (failIf_eq_ok.mp h)

/-- The index is the same, and so are the directories of the revisions it names. -/
def Spared (w w' : WorkspaceWorld) : Prop :=
  w'.disk.index = w.disk.index ∧ ∀ index, w.disk.index = some index →
    ∀ workspace ∈ index.workspaces,
      w'.disk.directories (.revision workspace.workspaceId workspace.revision)
        = w.disk.directories (.revision workspace.workspaceId workspace.revision)

/-- The index names none of the directories of the next revision. -/
lemma Confined.spared {w : WorkspaceWorld} {uuid : String}
    (h : Confined [.temporaryRevision workspace.workspaceId (workspace.revision + 1) uuid,
      .revision workspace.workspaceId (workspace.revision + 1)] w w')
    (hprepared : Prepared w snapshot active index workspace) : Spared w w' := by
  refine ⟨h.index, fun stored hstored other hother => h.elsewhere _ ?_⟩
  obtain rfl : index = stored := Option.some.inj (hprepared.index.symm.trans hstored)
  simp only [List.mem_cons, List.not_mem_nil, or_false, reduceCtorEq, false_or,
    WorkspacePath.revision.injEq]
  rintro ⟨hid, hrevision⟩
  have hsame : other = workspace :=
    List.inj_on_of_nodup_map (nodup_of_validateIndex hprepared.indexValid) hother
      (find_spec hprepared.listed).1 hid
  rw [hsame] at hrevision
  omega

/-- A cleanup that removes a directory before it throws. -/
lemma confined_cleanup {paths : List WorkspacePath} {path : WorkspacePath} (hpath : path ∈ paths)
    {m : WorkspaceOperation WorkspaceDocument} {w₀ w : WorkspaceWorld} (hw : Confined paths w₀ w)
    (hm : ∀ w', Confined paths w₀ w' → ∃ error w'', m.outcome w' = (.error error, w'')
      ∧ Confined paths w₀ w'') :
    ∃ error w', (do lift (removeDirectory env path); m).outcome w = (.error error, w')
      ∧ Confined paths w₀ w' := by
  have hremoved : Confined paths w ((removeDirectory env path).exec w).2 :=
    Confined.removeDirectory hpath
  rw [outcome_bind, outcome_lift]
  rcases hrun : (removeDirectory env path).exec w with ⟨error | _, w'⟩ <;> rw [hrun] at hremoved
  · exact ⟨error, w', rfl, hw.trans hremoved⟩
  · exact hm w' (hw.trans hremoved)

lemma confined_raise {paths : List WorkspacePath} (error : TaskError) {w₀ w : WorkspaceWorld}
    (hw : Confined paths w₀ w) : ∃ error' w',
      (raise error : WorkspaceOperation WorkspaceDocument).outcome w = (.error error', w')
        ∧ Confined paths w₀ w' :=
  ⟨error, w, rfl, hw⟩

/-- What is left of a commit once the new index is in place. -/
def concludeCommit (env : WorkspaceEnvironment) (n : Nat) (active : ActiveSnapshot)
    (temporary final : WorkspacePath) (next : WorkspaceDocument) :
    WorkspaceOperation WorkspaceDocument :=
  match env.fails n .chmodIndex with
  | none => do
    discardActiveSnapshot env active
    return next
  | some error => do
    lift (removeDirectory env temporary)
    lift (removeDirectory env final)
    raise error

variable (active : ActiveSnapshot)

/-- What `finishCommit` does: it puts the new index in place and concludes, or it
removes both directories and throws. -/
lemma finishCommit_spec (index : WorkspaceIndex)
    (workspace : WorkspaceDocument) (temporary final : WorkspacePath) (manifest : WorkspaceManifest)
    (w : WorkspaceWorld) :
    let next := workspace.advance manifest (env.now w.calls)
    PublishedIn env w.operations index next
        ∧ (finishCommit env active index workspace temporary final manifest).outcome w
          = (concludeCommit env w.operations active temporary final next).outcome
            (w.tick.tick.setDisk (w.disk.setIndex (index.update workspace.workspaceId fun _ => next)))
      ∨ ¬PublishedIn env w.operations index next
        ∧ ∃ error w', (finishCommit env active index workspace temporary final manifest).outcome w
          = (.error error, w') ∧ Confined [temporary, final] w w' := by
  intro next
  rw [finishCommit, outcome_bind, outcome_attempt]
  rcases recordRevision_spec index workspace manifest w with
    ⟨hrecords, hrun⟩ | ⟨hfails, error, w', hrun, hdisk, hoperations⟩
  · refine .inl ⟨hrecords, ?_⟩
    rw [hrun, concludeCommit]
    cases env.fails w.operations .chmodIndex <;> rfl
  · refine .inr ⟨hfails, ?_⟩
    rw [hrun]
    refine confined_cleanup (by simp) (Confined.of_disk hdisk hoperations) fun w₁ hw₁ => ?_
    exact confined_cleanup (by simp) hw₁ fun w₂ hw₂ => confined_raise error hw₂

/-- The index names the new revision, whose content is the copy. -/
structure Published (env : WorkspaceEnvironment) (w : WorkspaceWorld) (p : Publication)
    (w' : WorkspaceWorld) : Prop where
  index : w'.disk.index = some (p.newIndex env w)
  operations : w'.operations = w.operations
  final : w'.disk.directories p.final = some p.copy
  elsewhere : ∀ path ∉ [p.temporary env w, p.final],
    w'.disk.directories path = w.disk.directories path

/-- What `advanceRevision` does: it puts the new index in place and concludes, or
it throws and has changed only the directories of the next revision. -/
lemma advanceRevision_spec (index : WorkspaceIndex)
    (workspace : WorkspaceDocument) (w : WorkspaceWorld) :
    (∃ source copy manifest w₁,
        let p : Publication := ⟨active, index, workspace, source, copy, manifest⟩
        Advances env w p ∧ Published env w p w₁
          ∧ (advanceRevision env active index workspace).outcome w
            = (concludeCommit env w.operations active (p.temporary env w) p.final
              (p.next env w)).outcome w₁)
      ∨ (∀ source copy manifest, ¬Advances env w ⟨active, index, workspace, source, copy, manifest⟩)
        ∧ ∃ error w', (advanceRevision env active index workspace).outcome w = (.error error, w')
          ∧ Confined [.temporaryRevision workspace.workspaceId (workspace.revision + 1)
              (env.randomUUID w.calls), .revision workspace.workspaceId (workspace.revision + 1)]
            w w' := by
  set temporary := WorkspacePath.temporaryRevision workspace.workspaceId (workspace.revision + 1)
    (env.randomUUID w.calls) with htemporary
  set final := WorkspacePath.revision workspace.workspaceId (workspace.revision + 1) with hfinal
  have huuid : (lift (workspaceUUID env)).outcome w = (.ok (env.randomUUID w.calls), w.tick) := rfl
  have hmkdir : (lift (makeDirectory env temporary)).outcome w.tick
      = match env.fails w.operations (.mkdir temporary) with
        | none => (.ok (), w.tick.setDisk (w.disk.setDirectory temporary
            (some ((w.disk.directories temporary).getD []))))
        | some error => (.error error, w.tick) := by
    rw [outcome_lift, makeDirectory, exec_fileStep]
    rfl
  rw [advanceRevision, outcome_bind_ok huuid, outcome_bind, hmkdir]
  cases hmade : env.fails w.operations (.mkdir temporary) with
  | some error =>
    refine .inr ⟨fun _ _ _ h => ?_, error, _, rfl, Confined.of_disk rfl rfl⟩
    exact absurd (hmade.symm.trans h.makesTemporary) (by simp)
  | none =>
    dsimp only
    set w₁ := w.tick.setDisk (w.disk.setDirectory temporary
      (some ((w.disk.directories temporary).getD []))) with hw₁
    have htick : Confined [temporary, final] w w.tick := Confined.of_disk rfl rfl
    have hmake : Confined [temporary, final] w w₁ :=
      htick.trans (Confined.setDirectory temporary List.mem_cons_self _)
    rw [outcome_bind, outcome_attempt]
    rcases @publishRevision_spec env active.path temporary final workspace.quota
        temporary_ne_final w₁ with
      ⟨source, copy, manifest, hcopies, hrun⟩ | ⟨hfails, error, tree, hrun⟩
    · -- the copy is at the place of the next revision
      have hcopies : Copies env w.operations (env.now (w.calls + 1)) w.disk active.path temporary
          final workspace.quota source copy manifest := by
        obtain ⟨h₁, h₂, h₃, h₄, h₅, h₆⟩ := hcopies
        exact ⟨h₁, h₂, h₃, h₄, h₅, h₆⟩
      set w₂ := w₁.setDisk ((w₁.disk.setDirectory temporary (some copy)).move temporary final)
        with hw₂
      have hmove : Confined [temporary, final] w w₂ := by
        refine hmake.trans ((Confined.setDirectory temporary List.mem_cons_self (some copy)).trans ?_)
        exact Confined.move (by simp) (by simp)
      rw [hrun]
      dsimp only
      rcases @finishCommit_spec env active index workspace temporary final manifest w₂ with
        ⟨hrecords, hrun⟩ | ⟨hfails, error, w', hrun, hconfined⟩
      · refine .inl ⟨source, copy, manifest, _, ⟨hmade, hcopies, hrecords⟩, ?_, hrun⟩
        refine ⟨rfl, rfl, ?_, hmove.elsewhere⟩
        have hmoved : (w₂.disk.directories final) = _ :=
          directories_move (w₁.disk.setDirectory temporary (some copy)) temporary_ne_final
        exact hmoved.trans (if_pos rfl)
      · refine .inr ⟨fun source' copy' manifest' h => ?_, error, w', hrun,
          hmove.trans hconfined⟩
        obtain ⟨-, hsame⟩ : copy = copy' ∧ manifest = manifest' := hcopies.unique h.copies
        exact hfails (hsame ▸ h.records)
    · refine .inr ⟨fun source copy manifest h => hfails source copy manifest ?_, ?_⟩
      · obtain ⟨h₁, h₂, h₃, h₄, h₅, h₆⟩ := h.copies
        exact ⟨h₁, h₂, h₃, h₄, h₅, h₆⟩
      · rw [hrun]
        refine confined_cleanup List.mem_cons_self (hmake.trans (Confined.setDirectory temporary List.mem_cons_self tree))
          fun w₂ hw₂ => confined_raise error hw₂

/-- The inputs determine what a commit publishes. -/
lemma Publishes.unique {w : WorkspaceWorld} {p q : Publication} (hp : Publishes env w snapshot p)
    (hq : Publishes env w snapshot q) : p = q := by
  obtain ⟨active, index, workspace, source, copy, manifest⟩ := p
  obtain ⟨active', index', workspace', source', copy', manifest'⟩ := q
  obtain ⟨rfl, rfl, rfl⟩ : active = active' ∧ index = index' ∧ workspace = workspace' := by
    simpa using Except.ok.inj (hp.prepared.symm.trans hq.prepared)
  obtain rfl : source = source' := Option.some.inj (hp.copies.finds.symm.trans hq.copies.finds)
  obtain ⟨rfl, rfl⟩ := hp.copies.unique hq.copies
  rfl

/-- **What a commit does**: it puts the new index in place and concludes, or it
throws and spares what the index names. -/
theorem commitSnapshot_spec (snapshot : WorkspaceSnapshot) (w : WorkspaceWorld) :
    (∃ p w₁, Publishes env w snapshot p ∧ Published env w p w₁
        ∧ (commitSnapshot env snapshot).outcome w
          = (concludeCommit env w.operations p.active (p.temporary env w) p.final
            (p.next env w)).outcome w₁)
      ∨ (∀ p, ¬Publishes env w snapshot p)
        ∧ ∃ error w', (commitSnapshot env snapshot).outcome w = (.error error, w')
          ∧ Spared w w' := by
  have hreads := @reads_prepareCommit env snapshot w
  rcases hprepare : (prepareCommit env snapshot).outcome w with
    ⟨error | ⟨active, index, workspace⟩, w₀⟩
  · rw [hprepare] at hreads
    obtain rfl : w₀ = w := hreads
    refine .inr ⟨fun p h => ?_, error, w₀, outcome_bind_error hprepare, rfl, fun _ _ _ _ => rfl⟩
    simpa [hprepare] using h.prepared
  · rw [hprepare] at hreads
    obtain rfl : w₀ = w := hreads
    rw [commitSnapshot, outcome_bind_ok hprepare]
    rcases @advanceRevision_spec env active index workspace w₀ with
      ⟨source, copy, manifest, w₁, hadvances, hpublished, hrun⟩ | ⟨hfails, error, w', hrun, hconfined⟩
    · exact .inl ⟨_, w₁, ⟨hadvances, congrArg Prod.fst hprepare⟩, hpublished, hrun⟩
    · refine .inr ⟨fun p h => ?_, error, w', hrun, hconfined.spared (prepareCommit_spec hprepare)⟩
      obtain ⟨active', index', workspace', source, copy, manifest⟩ := p
      obtain ⟨rfl, rfl, rfl⟩ : active = active' ∧ index = index' ∧ workspace = workspace' := by
        simpa using Except.ok.inj ((congrArg Prod.fst hprepare).symm.trans h.prepared)
      exact hfails source copy manifest h.toAdvances

/-! ### When a commit is atomic -/

/-- The index is the old one, or the old one with the workspace of the snapshot
at its next revision, and the content of every workspace in it is there. -/
def CommitsAtomically (snapshot : WorkspaceSnapshot) (w w' : WorkspaceWorld) : Prop :=
  (w'.disk.index = w.disk.index
      ∨ ∃ index workspace manifest updatedAt, w.disk.index = some index
        ∧ index.find snapshot.workspaceId = some workspace
        ∧ w'.disk.index = some (index.update workspace.workspaceId fun _ =>
          workspace.advance manifest updatedAt))
    ∧ w'.disk.Backed platform

/-- Where the index names the new revision, its content is all that matters. -/
lemma backed_iff {w : WorkspaceWorld} {p : Publication} (hbacked : w.disk.Backed env.platform)
    (hpublishes : Publishes env w snapshot p) (hindex : w'.disk.index = some (p.newIndex env w))
    (helsewhere : ∀ workspaceId number, .revision workspaceId number ≠ p.final →
      w'.disk.directories (.revision workspaceId number)
        = w.disk.directories (.revision workspaceId number)) :
    w'.disk.Backed env.platform ↔ w'.disk.Verified env.platform (p.next env w) := by
  have hprepared : Prepared w snapshot p.active p.index p.workspace :=
    prepareCommit_spec (Prod.ext hpublishes.prepared rfl)
  have hmem : ∀ workspace, workspace ∈ (p.newIndex env w).workspaces ↔
      workspace = p.next env w
        ∨ workspace ∈ p.index.workspaces ∧ workspace.workspaceId ≠ p.workspace.workspaceId :=
    fun workspace => mem_updateFirst_key (nodup_of_validateIndex hprepared.indexValid)
      (find_spec hprepared.listed).1 (by simp) (by simp)
  constructor
  · intro h
    exact h _ hindex _ ((hmem _).mpr (.inl rfl))
  · intro hnext index hstored workspace hworkspace
    obtain rfl := Option.some.inj (hindex.symm.trans hstored)
    rcases (hmem workspace).mp hworkspace with rfl | ⟨hold, hother⟩
    · exact hnext
    · obtain ⟨tree, htree, hmatches⟩ := hbacked _ hprepared.index workspace hold
      refine ⟨tree, ?_, hmatches⟩
      rw [helsewhere _ _ fun heq => hother ?_, htree]
      exact (WorkspacePath.revision.inj heq).1

/-- The commit keeps what it publishes: the permissions of the index can be set,
or the cleanup does not get to the new revision, or fails there and leaves its
content. -/
def KeepsRevision (env : WorkspaceEnvironment) (w : WorkspaceWorld) (p : Publication) : Prop :=
  env.fails w.operations .chmodIndex = none
    ∨ env.fails w.operations (.rm (p.temporary env w)) ≠ none
    ∨ env.fails w.operations (.rm p.final) ≠ none
      ∧ ∃ tree ∈ env.remains w.operations p.final p.copy,
        Matches env.platform tree p.workspace.quota p.manifest

/-- Discarding a snapshot changes no revision. -/
lemma confined_discardActiveSnapshot (w : WorkspaceWorld) :
    Confined [active.path] w ((discardActiveSnapshot env active).outcome w).2 := by
  have hdeactivate : Confined [active.path] w (w.deactivate active.snapshot.snapshotId) :=
    Confined.of_disk rfl rfl
  exact hdeactivate.trans (Confined.removeDirectory List.mem_cons_self)

/-- The cleanup removes the temporary directory, and then the new revision. -/
lemma outcome_cleanup (temporary final : WorkspacePath) (error : TaskError) (w : WorkspaceWorld) :
    ((do
      lift (removeDirectory env temporary)
      lift (removeDirectory env final)
      raise error : WorkspaceOperation WorkspaceDocument).outcome w).2
      = match env.fails w.operations (.rm temporary) with
        | some _ => w.setDisk (w.disk.setDirectory temporary
            ((w.disk.directories temporary).bind (env.remains w.operations temporary)))
        | none => w.setDisk ((w.disk.setDirectory temporary none).setDirectory final
            (match env.fails w.operations (.rm final) with
              | none => none
              | some _ => ((w.disk.setDirectory temporary none).directories final).bind
                  (env.remains w.operations final))) := by
  rw [outcome_bind, outcome_lift, exec_removeDirectory]
  cases env.fails w.operations (.rm temporary) with
  | some error => rfl
  | none =>
    dsimp only
    rw [outcome_bind, outcome_lift, exec_removeDirectory]
    dsimp only [WorkspaceWorld.setDisk]
    cases env.fails w.operations (.rm final) <;> rfl

/-- What is left of a commit changes neither the index nor another revision, and
keeps the new one or not. -/
lemma concludeCommit_spec {w w₁ : WorkspaceWorld} {p : Publication}
    (hpublishes : Publishes env w snapshot p) (hpublished : Published env w p w₁) :
    let w' := ((concludeCommit env w.operations p.active (p.temporary env w) p.final
      (p.next env w)).outcome w₁).2
    w'.disk.index = w₁.disk.index
      ∧ (∀ workspaceId number, .revision workspaceId number ≠ p.final →
        w'.disk.directories (.revision workspaceId number)
          = w₁.disk.directories (.revision workspaceId number))
      ∧ (w'.disk.Verified env.platform (p.next env w) ↔ KeepsRevision env w p) := by
  have hcopy : Matches env.platform p.copy p.workspace.quota p.manifest :=
    ⟨_, _, scanWorkspaceTree_steady hpublishes.copies.scans, sameManifestContent_refl _⟩
  have hverified : ∀ {w' : WorkspaceWorld}, w'.disk.directories p.final = some p.copy →
      w'.disk.Verified env.platform (p.next env w) := fun h => ⟨p.copy, h, hcopy⟩
  rw [concludeCommit, KeepsRevision]
  cases hchmod : env.fails w.operations .chmodIndex with
  | none =>
    intro w'
    have hconfined : Confined [p.active.path] w₁ w' := by
      have hdiscard := @confined_discardActiveSnapshot env p.active w₁
      dsimp only [w']
      rw [outcome_bind]
      rcases hrun : (discardActiveSnapshot env p.active).outcome w₁ with ⟨error | _, w₂⟩ <;>
        rw [hrun] at hdiscard <;> exact hdiscard
    have hrevisions : ∀ workspaceId number,
        w'.disk.directories (.revision workspaceId number)
          = w₁.disk.directories (.revision workspaceId number) :=
      fun workspaceId number => hconfined.elsewhere _ (by simp [ActiveSnapshot.path])
    refine ⟨hconfined.index, fun workspaceId number _ => hrevisions workspaceId number, ?_⟩
    exact iff_of_true (hverified ((hrevisions _ _).trans hpublished.final)) (.inl rfl)
  | some error =>
    dsimp only
    rw [outcome_cleanup, hpublished.operations]
    cases htemporary : env.fails w.operations (.rm (p.temporary env w)) with
    | some error =>
      -- the cleanup has not got to the new revision
      refine ⟨rfl, fun _ _ _ => directories_other _ temporary_ne_final.symm _, ?_⟩
      refine iff_of_true (hverified ?_) (.inr (.inl (by simp)))
      exact (directories_other _ temporary_ne_final.symm _).trans hpublished.final
    | none =>
      have hfinal : (w₁.disk.setDirectory (p.temporary env w) none).directories p.final
          = some p.copy :=
        (directories_other _ temporary_ne_final.symm _).trans hpublished.final
      rw [hfinal]
      refine ⟨rfl, fun _ _ hne => (directories_other _ hne _).trans
        (directories_other _ temporary_ne_final.symm _), ?_⟩
      simp only [reduceCtorEq, ne_eq, not_true_eq_false, false_or]
      cases hremove : env.fails w.operations (.rm p.final) with
      | none =>
        refine iff_of_false ?_ (by simp)
        rintro ⟨tree, htree, -⟩
        have hgone := (directories_same _ p.final none).symm.trans htree
        cases hgone
      | some error =>
        -- what is left of the new revision is what counts
        simp only [reduceCtorEq, not_false_eq_true, true_and, Option.bind_some]
        exact exists_congr fun tree => and_congr_left fun _ =>
          Eq.congr_left (directories_same _ p.final _)

/-- **Atomicity of commit**: from a store whose content is there, a commit leaves
the old or the new index with its content exactly if the permissions of the index
can be set whenever the commit puts a new one in place, or if the cleanup that
follows fails to take the new revision away. -/
theorem commit_atomic_iff {w : WorkspaceWorld} (hbacked : w.disk.Backed env.platform)
    (snapshot : WorkspaceSnapshot) :
    CommitsAtomically env.platform snapshot w ((commitSnapshot env snapshot).outcome w).2
      ↔ ∀ p, Publishes env w snapshot p → KeepsRevision env w p := by
  rcases @commitSnapshot_spec env snapshot w with
    ⟨p, w₁, hpublishes, hpublished, hrun⟩ | ⟨hnone, error, w', hrun, hindex, hspared⟩
  · have hprepared : Prepared w snapshot p.active p.index p.workspace :=
      prepareCommit_spec (Prod.ext hpublishes.prepared rfl)
    obtain ⟨hindex, hrevisions, hverified⟩ := concludeCommit_spec hpublishes hpublished
    rw [← hrun] at hindex hrevisions hverified
    have hnew := hindex.trans hpublished.index
    have hkept : (∀ q, Publishes env w snapshot q → KeepsRevision env w q) ↔ KeepsRevision env w p :=
      ⟨fun h => h p hpublishes, fun h q hq => hpublishes.unique hq ▸ h⟩
    rw [hkept, ← hverified, ← backed_iff hbacked hpublishes hnew fun workspaceId number hne =>
      (hrevisions workspaceId number hne).trans (hpublished.elsewhere _ (by
        simpa [Publication.temporary] using hne))]
    exact ⟨And.right, fun h => ⟨.inr ⟨_, _, _, _, hprepared.index, hprepared.listed, hnew⟩, h⟩⟩
  · rw [hrun]
    refine iff_of_true ⟨.inl hindex, ?_⟩ fun p h => absurd h (hnone p)
    intro index hstored workspace hworkspace
    have hold : w.disk.index = some index := hindex.symm.trans hstored
    obtain ⟨tree, htree, hmatches⟩ := hbacked index hold workspace hworkspace
    exact ⟨tree, (hspared index hold workspace hworkspace).trans htree, hmatches⟩

/-! ### A commit that loses its content -/

/-- The digest of an empty file. -/
def emptySha256 : String := "e3b0c44298fc1c149afbf4c8996fb92427ae41e4649b934ca495991b7852b855"

/-- Nothing fails, and the clock stands still. -/
def steadyWorkspaceEnvironment : WorkspaceEnvironment where
  platform := ⟨fun _ => emptySha256, fun _ _ => true⟩
  now _ := 0
  randomUUID n := toString n
  snapshotPath := id
  resolve := id
  fails _ _ := none
  scanFails _ _ := steadyWalk
  copyFails _ _ := steadyWalk
  remains _ _ := some
  copied _ _ := []

/-- The permissions of the index cannot be set. -/
def lockedIndexEnvironment : WorkspaceEnvironment :=
  { steadyWorkspaceEnvironment with
    fails := fun _ step => if step = .chmodIndex then some ⟨.other, "EPERM", ""⟩ else none }

/-- Nor can a directory be removed. -/
def stuckEnvironment : WorkspaceEnvironment :=
  { lockedIndexEnvironment with
    fails := fun n step => match step with
      | .rm _ => some ⟨.other, "EPERM", ""⟩
      | _ => lockedIndexEnvironment.fails n step }

/-- A durable workspace at its first revision, which is empty. -/
def sharedWorkspace : WorkspaceDocument where
  workspaceId := "workspace-1"
  ownerTetiId := "teti_owner0001"
  participantTetiIds := []
  revision := 1
  mode := .durableCollaboration
  quota := DEFAULT_DURABLE_WORKSPACE_QUOTA
  retentionPolicy := .retain
  manifest := emptyWorkspaceManifest
  createdAt := 0
  updatedAt := 0

def sharedSnapshot : WorkspaceSnapshot :=
  ⟨"snapshot:a", "workspace-1", 1, [.read, .write], "snapshot:a", 0⟩

/-- The workspace, with a snapshot of it that can be committed. -/
def sharedWorld : WorkspaceWorld where
  disk :=
    { index := some ⟨[sharedWorkspace]⟩
      directories := fun path =>
        if path = .revision "workspace-1" 1 ∨ path = .snapshot "snapshot:a" then some [] else none }
  activeSnapshots := OrderedMap.empty.set "snapshot:a" ⟨sharedSnapshot⟩
  initialized := true
  operations := 0
  calls := 0

/-- The workspace, with a snapshot that holds a tree. -/
def treeWorld (tree : WorkspaceTree) : WorkspaceWorld :=
  { sharedWorld with
    disk := sharedWorld.disk.setDirectory (.snapshot "snapshot:a") (some tree) }

lemma treeWorld_backed (tree : WorkspaceTree) : (treeWorld tree).disk.Backed platform := by
  intro index hindex workspace hworkspace
  obtain rfl := Option.some.inj hindex
  obtain rfl := List.mem_singleton.mp hworkspace
  exact ⟨[], rfl, 0, emptyWorkspaceManifest, rfl, rfl⟩

/-- An empty note, and its manifest. -/
def noteTree : WorkspaceTree := [(JsString.ofString "notes.md", .file [] (some 0))]

def noteManifest : WorkspaceManifest :=
  ⟨[⟨JsString.ofString "notes.md", 0, "sha256:" ++ emptySha256, 0⟩], 0, 1⟩

/-- The commit of a note throws, and keeps it: the index names the second revision, which the
cleanup cannot take away. -/
theorem commit_atomic_iff_stuck :
    ((commitSnapshot stuckEnvironment sharedSnapshot).outcome (treeWorld noteTree)).2.disk.index
        = some ⟨[sharedWorkspace.advance noteManifest 0]⟩
      ∧ CommitsAtomically stuckEnvironment.platform sharedSnapshot (treeWorld noteTree)
        ((commitSnapshot stuckEnvironment sharedSnapshot).outcome (treeWorld noteTree)).2 :=
  ⟨by decide +kernel, (commit_atomic_iff (treeWorld_backed _ _) sharedSnapshot).mpr fun _ _ =>
    .inr (.inl (by simp [stuckEnvironment]))⟩

/-- The index names the second revision, and its directory is gone. -/
theorem commit_loses_content :
    (treeWorld []).disk.Backed lockedIndexEnvironment.platform
      ∧ ¬CommitsAtomically lockedIndexEnvironment.platform sharedSnapshot (treeWorld [])
        ((commitSnapshot lockedIndexEnvironment sharedSnapshot).outcome (treeWorld [])).2 := by
  refine ⟨treeWorld_backed _ _, fun ⟨_, hbacked⟩ => ?_⟩
  have hindex : ((commitSnapshot lockedIndexEnvironment sharedSnapshot).outcome (treeWorld [])).2.disk.index
      = some ⟨[sharedWorkspace.advance emptyWorkspaceManifest 0]⟩ := by decide
  obtain ⟨tree, htree, -⟩ := hbacked _ hindex _ (List.mem_singleton.mpr rfl)
  have hgone : ((commitSnapshot lockedIndexEnvironment sharedSnapshot).outcome
      (treeWorld [])).2.disk.directories (.revision "workspace-1" 2) = none := by decide
  have hsome := hgone.symm.trans htree
  cases hsome

end TetiBot

import TetiBot.Workspaces.Directories
import TetiBot.Workspaces.Concurrency
import TetiBot.Library.Coupled

/-
Workspaces leave each other alone.

* `WorkspacePart`: what the store keeps of a workspace; `SameRest`: worlds that differ at most
  in it.
* `Beside`: two runs next to a workspace, which differ in nothing else.
* `Isolated`: a call on a workspace answers the same whatever another one holds, and leaves it
  alone.
* `workspaces_isolated_iff`: two workspaces are isolated exactly when the file system does not
  take their directories for the same.
-/

namespace TetiBot.WorkspaceStore

open Library Library.Program

/-! ### The part of a workspace -/

/-- What the store keeps of a workspace. -/
@[ext]
structure WorkspacePart where
  entry : Option WorkspaceDocument
  revisions : Option Revisions
  snapshots : String → Option (ActiveRecord × Option WorkspaceTree)

def WorkspacePart.Owns (part : WorkspacePart) (snapshotId : String) : Prop :=
  (part.snapshots snapshotId).isSome = true

def StoreWorld.part (fs : FileSystem) (workspaceId : String) (w : StoreWorld) : WorkspacePart where
  entry := w.index.val.find workspaceId
  revisions := w.workspaces (fs.directory workspaceId)
  snapshots snapshotId := (w.activeSnapshots snapshotId).bind fun active =>
    if active.workspaceId = workspaceId then some (active, w.snapshots snapshotId) else none

/-- Worlds that differ at most in the part of a workspace. -/
structure SameRest (fs : FileSystem) (other : String) (w w' : StoreWorld) : Prop where
  index : dropWorkspace w.index.val other = dropWorkspace w'.index.val other
  workspaces : ∀ directory, directory ≠ fs.directory other →
    w.workspaces directory = w'.workspaces directory
  activeSnapshots : ∀ snapshotId,
    (w.activeSnapshots snapshotId).filter (·.workspaceId ≠ other)
      = (w'.activeSnapshots snapshotId).filter (·.workspaceId ≠ other)
  snapshots : ∀ snapshotId, ¬(w.part fs other).Owns snapshotId →
    ¬(w'.part fs other).Owns snapshotId → w.snapshots snapshotId = w'.snapshots snapshotId
  initialized : w.initialized = w'.initialized
  calls : w.calls = w'.calls

lemma SameRest.refl {fs : FileSystem} {other : String} (w : StoreWorld) : SameRest fs other w w :=
  ⟨rfl, fun _ _ => rfl, fun _ => rfl, fun _ _ _ => rfl, rfl, rfl⟩

section

variable {fs : FileSystem} {other snapshotId : String} {w : StoreWorld}

lemma snapshots_eq_none : (w.part fs other).snapshots snapshotId = none
    ↔ ∀ active, w.activeSnapshots snapshotId = some active → active.workspaceId ≠ other := by
  unfold StoreWorld.part
  cases hactive : w.activeSnapshots snapshotId with
  | none => simp [hactive]
  | some active => by_cases h : active.workspaceId = other <;> simp [hactive, h]

lemma not_owns_iff : ¬(w.part fs other).Owns snapshotId
    ↔ ∀ active, w.activeSnapshots snapshotId = some active → active.workspaceId ≠ other := by
  have hnone : (w.part fs other).snapshots snapshotId = none ↔ _ := snapshots_eq_none
  rw [← hnone]
  simp [WorkspacePart.Owns]

end

/-! ### Indexes -/

section

variable {index index' : WorkspaceIndex} {workspaceId other : String} {workspace : WorkspaceDocument}

lemma validateIndex_iff : validateIndex index = .ok ()
    ↔ (∀ workspace ∈ index.workspaces, validateCollaborationWorkspace workspace = .ok ())
      ∧ (index.workspaces.map fun workspace => workspace.workspaceId).Nodup := by
  unfold validateIndex
  rw [except_bind_eq_ok, failIf_eq_ok, not_not]
  constructor
  · rintro ⟨_, hall, hnodup⟩
    exact ⟨forM_eq_ok.mp hall, hnodup⟩
  · rintro ⟨hall, hnodup⟩
    exact ⟨(), forM_eq_ok.mpr hall, hnodup⟩

lemma find_dropWorkspace (hne : workspaceId ≠ other) :
    (dropWorkspace index other).find workspaceId = index.find workspaceId := by
  unfold dropWorkspace WorkspaceIndex.find
  rw [List.find?_filter]
  refine List.find?_congr fun workspace _ => ?_
  by_cases h : workspace.workspaceId = workspaceId <;> simp [h, hne]

lemma dropWorkspace_comm : dropWorkspace (dropWorkspace index workspaceId) other
    = dropWorkspace (dropWorkspace index other) workspaceId := by
  simp only [dropWorkspace, List.filter_filter, Bool.and_comm]

lemma dropWorkspace_push (hne : workspace.workspaceId ≠ other) :
    dropWorkspace ⟨index.workspaces ++ [workspace]⟩ other
      = ⟨(dropWorkspace index other).workspaces ++ [workspace]⟩ := by
  simp [dropWorkspace, hne]

lemma find_push (hne : workspace.workspaceId ≠ other) :
    WorkspaceIndex.find ⟨index.workspaces ++ [workspace]⟩ other = index.find other := by
  simp [WorkspaceIndex.find, hne]

lemma dropWorkspace_update (hne : workspaceId ≠ other) {f : WorkspaceDocument → WorkspaceDocument}
    (hf : ∀ workspace, workspace.workspaceId = workspaceId → (f workspace).workspaceId = workspaceId) :
    dropWorkspace (index.update workspaceId f) other = (dropWorkspace index other).update workspaceId f := by
  obtain ⟨workspaces⟩ := index
  simp only [dropWorkspace, WorkspaceIndex.update, WorkspaceIndex.mk.injEq]
  induction workspaces with
  | nil => rfl
  | cons workspace workspaces ih =>
    by_cases hfirst : workspace.workspaceId = workspaceId
    · simp [updateFirst, hfirst, hf workspace hfirst, hne]
    · by_cases hother : workspace.workspaceId = other
      · simpa [updateFirst, hfirst, hother, hne.symm] using ih
      · simpa [updateFirst, hfirst, hother] using ih

lemma validateIndex_push (h : validateIndex index = .ok ())
    (hvalid : validateCollaborationWorkspace workspace = .ok ())
    (hnew : index.find workspace.workspaceId = none) :
    validateIndex ⟨index.workspaces ++ [workspace]⟩ = .ok () := by
  obtain ⟨hall, hnodup⟩ := validateIndex_iff.mp h
  refine validateIndex_iff.mpr ⟨?_, ?_⟩
  · simpa [or_imp, forall_and, hvalid] using hall
  · rw [List.map_append, List.map_singleton]
    refine hnodup.append (List.nodup_singleton _) (List.disjoint_singleton.mpr fun hmem => ?_)
    obtain ⟨known, hknown, hsame⟩ := List.mem_map.mp hmem
    have hdifferent := List.find?_eq_none.mp hnew known hknown
    simp [hsame] at hdifferent

lemma validateIndex_drop (h : validateIndex index = .ok ()) :
    validateIndex (dropWorkspace index workspaceId) = .ok () := by
  obtain ⟨hall, hnodup⟩ := validateIndex_iff.mp h
  refine validateIndex_iff.mpr ⟨fun known hknown => hall known (List.mem_of_mem_filter hknown), ?_⟩
  exact hnodup.sublist (List.filter_sublist.map _)

lemma validateIndex_update (h : validateIndex index = .ok ())
    (hvalid : validateCollaborationWorkspace workspace = .ok ()) :
    validateIndex (index.update workspace.workspaceId fun _ => workspace) = .ok () := by
  obtain ⟨hall, hnodup⟩ := validateIndex_iff.mp h
  refine validateIndex_iff.mpr ⟨fun known hknown => ?_, ?_⟩
  · obtain hold | ⟨_, _, _, rfl⟩ := mem_updateFirst hknown
    · exact hall known hold
    · exact hvalid
  · have hids : ((index.update workspace.workspaceId fun _ => workspace).workspaces.map
        fun workspace => workspace.workspaceId) = index.workspaces.map fun workspace => workspace.workspaceId :=
      map_key_updateFirst (fun known hknown => by simpa using Eq.symm (beq_iff_eq.mp hknown)) _
    rw [hids]
    exact hnodup

/-- The indexes that two runs next to a workspace have read. -/
structure IndexesBeside (other : String) (part part' : WorkspacePart) (index index' : WorkspaceIndex) :
    Prop where
  valid : validateIndex index = .ok ()
  valid' : validateIndex index' = .ok ()
  rest : dropWorkspace index other = dropWorkspace index' other
  entry : index.find other = part.entry
  entry' : index'.find other = part'.entry

variable {part part' : WorkspacePart}

namespace IndexesBeside

variable (h : IndexesBeside other part part' index index')

include h

lemma find (hne : workspaceId ≠ other) : index.find workspaceId = index'.find workspaceId := by
  rw [← find_dropWorkspace hne, h.rest, find_dropWorkspace hne]

lemma push (hne : workspace.workspaceId ≠ other)
    (hvalid : validateCollaborationWorkspace workspace = .ok ())
    (hnew : index.find workspace.workspaceId = none) :
    IndexesBeside other part part' ⟨index.workspaces ++ [workspace]⟩
      ⟨index'.workspaces ++ [workspace]⟩ where
  valid := validateIndex_push h.valid hvalid hnew
  valid' := validateIndex_push h.valid' hvalid (h.find hne ▸ hnew)
  rest := by rw [dropWorkspace_push hne, dropWorkspace_push hne, h.rest]
  entry := (find_push hne).trans h.entry
  entry' := (find_push hne).trans h.entry'

lemma drop (hne : workspaceId ≠ other) :
    IndexesBeside other part part' (dropWorkspace index workspaceId)
      (dropWorkspace index' workspaceId) where
  valid := validateIndex_drop h.valid
  valid' := validateIndex_drop h.valid'
  rest := by rw [dropWorkspace_comm, h.rest, dropWorkspace_comm]
  entry := (find_dropWorkspace hne.symm).trans h.entry
  entry' := (find_dropWorkspace hne.symm).trans h.entry'

lemma update (hne : workspace.workspaceId ≠ other)
    (hvalid : validateCollaborationWorkspace workspace = .ok ()) :
    IndexesBeside other part part' (index.update workspace.workspaceId fun _ => workspace)
      (index'.update workspace.workspaceId fun _ => workspace) where
  valid := validateIndex_update h.valid hvalid
  valid' := validateIndex_update h.valid' hvalid
  rest := by
    rw [dropWorkspace_update hne fun _ _ => rfl, dropWorkspace_update hne fun _ _ => rfl, h.rest]
  entry := by rw [find_update (fun _ _ => rfl), if_neg hne.symm, h.entry]
  entry' := by rw [find_update (fun _ _ => rfl), if_neg hne.symm, h.entry']

end IndexesBeside

end

/-! ### Two runs next to a workspace -/

/-- The worlds of two runs next to a workspace of which they have different parts; the names
that are still to be drawn are not in use there. -/
structure Beside (env : StoreEnvironment) (other : String) (part part' : WorkspacePart)
    (w w' : StoreWorld) : Prop where
  first : w.part env.files other = part
  second : w'.part env.files other = part'
  rest : SameRest env.files other w w'
  fresh : ∀ n, w.calls ≤ n → ¬part.Owns (env.snapshotId n) ∧ ¬part'.Owns (env.snapshotId n)

section

variable {env : StoreEnvironment} {other : String} {part part' : WorkspacePart}

namespace Beside

variable {w w' : StoreWorld} {directory snapshotId : String} (h : Beside env other part part' w w')

include h

lemma setWorkspace {revisions revisions' : Option Revisions}
    (hne : directory ≠ env.files.directory other) (hsame : revisions = revisions') :
    Beside env other part part' (w.setWorkspace directory revisions)
      (w'.setWorkspace directory revisions') := by
  subst hsame
  have hpart : ∀ v : StoreWorld,
      (v.setWorkspace directory revisions).part env.files other = v.part env.files other := by
    intro v
    simp [StoreWorld.part, StoreWorld.setWorkspace, Function.update_of_ne hne.symm]
  refine ⟨(hpart w).trans h.first, (hpart w').trans h.second, { h.rest with
    workspaces := fun other hother => ?_
    snapshots := fun id hid hid' => h.rest.snapshots id (hpart w ▸ hid) (hpart w' ▸ hid') }, h.fresh⟩
  simp only [StoreWorld.setWorkspace, Function.update_apply]
  split_ifs
  · rfl
  · exact h.rest.workspaces other hother

section

variable (howns : ¬part.Owns snapshotId)
include howns

section

variable (howns' : ¬part'.Owns snapshotId)
include howns'

lemma snapshots : w.snapshots snapshotId = w'.snapshots snapshotId :=
  h.rest.snapshots snapshotId (h.first.symm ▸ howns) (h.second.symm ▸ howns')

lemma setSnapshot {tree tree' : Option WorkspaceTree} (hsame : tree = tree') :
    Beside env other part part' (w.setSnapshot snapshotId tree) (w'.setSnapshot snapshotId tree') := by
  subst hsame
  have hpart : ∀ v : StoreWorld, ¬(v.part env.files other).Owns snapshotId →
      (v.setSnapshot snapshotId tree).part env.files other = v.part env.files other := by
    intro v hv
    refine WorkspacePart.ext rfl rfl (funext fun id => ?_)
    by_cases hid : id = snapshotId
    · subst hid
      have hactive := not_owns_iff.mp hv
      rw [snapshots_eq_none.mpr hactive]
      exact snapshots_eq_none.mpr hactive
    · simp [StoreWorld.part, StoreWorld.setSnapshot, Function.update_of_ne hid]
  have hw := hpart w (h.first.symm ▸ howns)
  have hw' := hpart w' (h.second.symm ▸ howns')
  refine ⟨hw.trans h.first, hw'.trans h.second, { h.rest with snapshots := fun id hid hid' => ?_ }, h.fresh⟩
  simp only [StoreWorld.setSnapshot, Function.update_apply]
  split_ifs
  · rfl
  · exact h.rest.snapshots id (hw ▸ hid) (hw' ▸ hid')

lemma setActive
    {active : Option ActiveRecord} (hactive : ∀ a, active = some a → a.workspaceId ≠ other) :
    Beside env other part part' (w.setActive snapshotId active) (w'.setActive snapshotId active) := by
  have hpart : ∀ v : StoreWorld, ¬(v.part env.files other).Owns snapshotId →
      (v.setActive snapshotId active).part env.files other = v.part env.files other := by
    intro v hv
    refine WorkspacePart.ext rfl rfl (funext fun id => ?_)
    by_cases hid : id = snapshotId
    · subst hid
      refine Eq.trans (snapshots_eq_none.mpr ?_) (snapshots_eq_none.mpr (not_owns_iff.mp hv)).symm
      simpa [StoreWorld.setActive] using hactive
    · simp [StoreWorld.part, StoreWorld.setActive, Function.update_of_ne hid]
  have hw := hpart w (h.first.symm ▸ howns)
  have hw' := hpart w' (h.second.symm ▸ howns')
  refine ⟨hw.trans h.first, hw'.trans h.second, { h.rest with
    activeSnapshots := fun id => ?_
    snapshots := fun id hid hid' => h.rest.snapshots id (hw ▸ hid) (hw' ▸ hid') }, h.fresh⟩
  simp only [StoreWorld.setActive, Function.update_apply]
  split_ifs
  · rfl
  · exact h.rest.activeSnapshots id

/-- What is known of a snapshot that the workspace does not own. -/
lemma activeSnapshots : w.activeSnapshots snapshotId = w'.activeSnapshots snapshotId
      ∧ ∀ active, w.activeSnapshots snapshotId = some active → active.workspaceId ≠ other := by
  have hown := not_owns_iff.mp (h.first.symm ▸ howns)
  have hown' := not_owns_iff.mp (h.second.symm ▸ howns')
  have hfilter : ∀ o : Option ActiveRecord, (∀ a, o = some a → a.workspaceId ≠ other) →
      o.filter (·.workspaceId ≠ other) = o := by
    rintro (_ | a) ho
    · rfl
    · simp [Option.filter, ho a rfl]
  have hsame := h.rest.activeSnapshots snapshotId
  rw [hfilter _ hown, hfilter _ hown'] at hsame
  exact ⟨hsame, hown⟩

end

end

lemma setIndex {index index' : WorkspaceIndex}
    (hindexes : IndexesBeside other part part' index index') :
    Beside env other part part' { w with index := ⟨index, hindexes.valid⟩ }
      { w' with index := ⟨index', hindexes.valid'⟩ } := by
  obtain ⟨rfl, rfl, hrest, hfresh⟩ := h
  exact ⟨WorkspacePart.ext hindexes.entry rfl rfl, WorkspacePart.ext hindexes.entry' rfl rfl,
    { hrest with index := hindexes.rest }, hfresh⟩

lemma indexes :
    IndexesBeside other part part' w.index.val w'.index.val where
  valid := w.index.property
  valid' := w'.index.property
  rest := h.rest.index
  entry := congrArg WorkspacePart.entry h.first
  entry' := congrArg WorkspacePart.entry h.second

end Beside

/-! ### Steps beside a workspace -/

lemma coupled_nextCall : Coupled (Beside env other part part') nextCall nextCall fun n n' =>
    n = n' ∧ ¬part.Owns (env.snapshotId n) ∧ ¬part'.Owns (env.snapshotId n) := by
  intro w w' h
  refine ⟨⟨h.rest.calls, h.fresh w.calls le_rfl⟩, h.first, h.second, { h.rest with
    calls := congrArg (· + 1) h.rest.calls }, fun n hn => h.fresh n (Nat.le_of_succ_le hn)⟩

lemma coupled_storeNow : Coupled (Beside env other part part') (storeNow env) (storeNow env) Eq :=
  .bind coupled_nextCall fun _ _ hn => .pure (congrArg env.now hn.1)

lemma coupled_fileStep {change change' : StoreWorld → StoreWorld}
    {failed failed' : Nat → StoreWorld → StoreWorld}
    (hchange : ∀ w w', Beside env other part part' w w' →
      Beside env other part part' (change w) (change' w'))
    (hfailed : ∀ n w w', Beside env other part part' w w' →
      Beside env other part part' (failed n w) (failed' n w')) :
    Coupled (Beside env other part part') (fileStep env change failed)
      (fileStep env change' failed') Eq := by
  refine .bind coupled_nextCall fun n _ hn => ?_
  obtain ⟨rfl, -⟩ := hn
  split
  · exact .writes hchange
  · exact .bind (.writes (hfailed n)) fun _ _ _ => .raise

lemma coupled_otherStep :
    Coupled (Beside env other part part') (otherStep env) (otherStep env) Eq :=
  coupled_fileStep (fun _ _ => id) fun _ _ _ => id

lemma coupled_requireInitialized :
    Coupled (Beside env other part part') requireInitialized requireInitialized fun _ _ => True := by
  refine .bind_eq (.reads fun _ _ h => h.rest.initialized) fun _ => ?_
  exact .weaken (.throwIf Iff.rfl) fun _ _ _ => trivial

section

variable {directory : String} (hne : directory ≠ env.files.directory other)
include hne

variable (entry : RevisionEntry)

lemma coupled_content : Coupled (Beside env other part part')
      (reads fun w => w.content directory entry : StoreProgram (Option WorkspaceTree))
      (reads fun w => w.content directory entry) Eq :=
  .reads fun _ _ h => by rw [StoreWorld.content, StoreWorld.content, h.rest.workspaces directory hne]

lemma coupled_removeWorkspace : Coupled (Beside env other part part')
    (removeWorkspace env directory) (removeWorkspace env directory) Eq :=
  coupled_fileStep (fun _ _ h => h.setWorkspace hne rfl)
    fun _ _ _ h => h.setWorkspace hne (by rw [h.rest.workspaces directory hne])

lemma coupled_makeEntry : Coupled (Beside env other part part')
    (makeEntry env directory entry) (makeEntry env directory entry) Eq := by
  refine coupled_fileStep (fun _ _ h => h.setWorkspace hne ?_) fun _ _ _ => id
  rw [StoreWorld.content, StoreWorld.content, h.rest.workspaces directory hne]

lemma coupled_removeEntry : Coupled (Beside env other part part')
    (removeEntry env directory entry) (removeEntry env directory entry) Eq :=
  coupled_fileStep
    (fun _ _ h => h.setWorkspace hne (by rw [h.rest.workspaces directory hne]))
    fun _ _ _ h => h.setWorkspace hne (by rw [h.rest.workspaces directory hne])

lemma coupled_removeEntries (entries : List RevisionEntry) : Coupled (Beside env other part part')
    (removeEntries env directory entries) (removeEntries env directory entries) Eq := by
  induction entries with
  | nil => exact .pure rfl
  | cons entry entries ih => exact .bind_eq (coupled_removeEntry hne entry) fun _ => ih

lemma coupled_renameEntry (source target : RevisionEntry) : Coupled (Beside env other part part')
    (renameEntry env directory source target) (renameEntry env directory source target) Eq := by
  refine .bind_eq (.reads fun _ _ h => ?_) fun _ => .bind (.throwIf Iff.rfl) fun _ _ _ => ?_
  · rw [StoreWorld.content, StoreWorld.content, h.rest.workspaces directory hne]
  · exact coupled_fileStep
      (fun _ _ h => h.setWorkspace hne (by rw [h.rest.workspaces directory hne])) fun _ _ _ => id

end

lemma coupled_removeSnapshot {snapshotId : String} (howns : ¬part.Owns snapshotId)
    (howns' : ¬part'.Owns snapshotId) : Coupled (Beside env other part part')
      (removeSnapshot env snapshotId) (removeSnapshot env snapshotId) Eq :=
  coupled_fileStep (fun _ _ h => h.setSnapshot howns howns' rfl)
    fun _ _ _ h => h.setSnapshot howns howns' (by rw [h.snapshots howns howns'])

lemma coupled_copyTree {source : Option WorkspaceTree}
    {put put' : WorkspaceTree → StoreWorld → StoreWorld}
    (hput : ∀ tree w w', Beside env other part part' w w' →
      Beside env other part part' (put tree w) (put' tree w')) :
    Coupled (Beside env other part part') (copyTree env source put) (copyTree env source put') Eq := by
  refine .bind coupled_nextCall fun n _ hn => ?_
  obtain ⟨rfl, -⟩ := hn
  refine .bind .orThrow fun tree _ htree => ?_
  obtain ⟨rfl, -⟩ := htree
  split
  · exact .writes (hput _)
  · exact .bind (.writes (hput _)) fun _ _ _ => .raise

lemma coupled_scanTree (source : Option WorkspaceTree) (quota : WorkspaceQuota) :
    Coupled (Beside env other part part') (scanTree env source quota) (scanTree env source quota) Eq := by
  refine .bind coupled_nextCall fun n _ hn => ?_
  obtain ⟨rfl, -⟩ := hn
  refine .bind .orThrow fun tree _ htree => ?_
  obtain ⟨rfl, -⟩ := htree
  exact .weaken .fromExcept fun _ _ h => h.1

lemma coupled_loadIndex : Coupled (Beside env other part part') (loadIndex env) (loadIndex env)
    (IndexesBeside other part part') :=
  .bind coupled_otherStep fun _ _ _ => .reads fun _ _ h => h.indexes

lemma coupled_saveIndex {index index' : WorkspaceIndex}
    (h : IndexesBeside other part part' index index') :
    Coupled (Beside env other part part') (saveIndex env index) (saveIndex env index') Eq := by
  have hsave : ∀ i : WorkspaceIndex, ∀ hi : validateIndex i = .ok (),
      saveIndex env i = replaceIndex env ⟨i, hi⟩ := by
    intro i hi
    unfold saveIndex
    split
    · next herror => simp [herror] at hi
    · rfl
  rw [hsave index h.valid, hsave index' h.valid']
  refine .bind_eq coupled_otherStep fun _ => .bind coupled_nextCall fun _ _ _ =>
    .bind_eq coupled_otherStep fun _ => .bind_eq ?_ fun _ => coupled_otherStep
  exact coupled_fileStep (fun _ _ hw => hw.setIndex h) fun _ _ _ => id

/-! ### Calls beside a workspace -/

section

variable {workspaceId : String} (hne : workspaceId ≠ other)
  (hdirectory : env.files.directory workspaceId ≠ env.files.directory other)

include hne hdirectory

lemma coupled_create {input : CreateWorkspaceInput} (hid : input.workspaceId = workspaceId) :
    Coupled (Beside env other part part') (create env input) (create env input) Eq := by
  subst hid
  refine .bind coupled_requireInitialized fun _ _ _ => .bind_eq coupled_storeNow fun now => ?_
  refine .bind (.throwIf Iff.rfl) fun _ _ _ => .bind .fromExcept fun _ _ hvalid => ?_
  refine .bind coupled_loadIndex fun index index' hindex => ?_
  refine .bind (.throwIf (by rw [hindex.find hne])) fun _ _ hnew => ?_
  have hnone : index.find input.workspaceId = none := by simpa using hnew
  have hpush : IndexesBeside other part part' ⟨index.workspaces ++ [input.workspace now]⟩
      ⟨index'.workspaces ++ [input.workspace now]⟩ := hindex.push hne hvalid.2 hnone
  refine .bind_eq (coupled_makeEntry hdirectory _) fun _ => ?_
  refine .attempt_bind (coupled_saveIndex hpush) (fun _ _ _ => .pure rfl) fun error => ?_
  exact .bind_eq (coupled_removeWorkspace hdirectory) fun _ => .raise

lemma coupled_get :
    Coupled (Beside env other part part') (get env workspaceId) (get env workspaceId) Eq := by
  refine .bind coupled_requireInitialized fun _ _ _ => .bind .fromExcept fun _ _ _ => ?_
  refine .bind coupled_loadIndex fun index index' hindex => ?_
  rw [hindex.find hne]
  split
  · exact .pure rfl
  · refine .bind_eq coupled_storeNow fun now => .ite Iff.rfl (fun _ => ?_) fun _ => .pure rfl
    refine .bind_eq ?_ fun _ => .pure rfl
    exact .bind_eq (coupled_removeWorkspace hdirectory) fun _ => coupled_saveIndex (hindex.drop hne)

lemma coupled_createSnapshot {input : CreateWorkspaceSnapshotInput}
    (hid : input.workspaceId = workspaceId) :
    Coupled (Beside env other part part') (createSnapshot env input) (createSnapshot env input) Eq := by
  refine .bind coupled_requireInitialized fun _ _ _ => .bind .fromExcept fun _ _ _ =>
    .bind .fromExcept fun _ _ _ => .bind coupled_loadIndex fun index index' hindex => ?_
  rw [hindex.find (hid ▸ hne)]
  refine .bind .orThrow fun workspace _ hworkspace => ?_
  obtain ⟨rfl, hworkspace⟩ := hworkspace
  obtain rfl : workspace.workspaceId = workspaceId := (find_spec hworkspace).2.trans hid
  refine .bind_eq coupled_storeNow fun now => .bind (.throwIf Iff.rfl) fun _ _ _ =>
    .bind (.throwIf Iff.rfl) fun _ _ _ => .bind coupled_nextCall fun n _ hn => ?_
  obtain ⟨rfl, howns, howns'⟩ := hn
  refine .bind .fromExcept fun _ _ _ => .bind_eq ?_ fun _ => ?_
  · exact coupled_fileStep (fun _ _ h => h.setSnapshot howns howns' (by rw [h.snapshots howns howns']))
      fun _ _ _ => id
  refine .bind_eq (coupled_content hdirectory _) fun source => ?_
  refine .attempt_bind (coupled_copyTree fun tree _ _ h => h.setSnapshot howns howns' rfl) ?_ ?_
  · intro _ _ _
    refine .bind_eq coupled_storeNow fun createdAt => .bind_eq (.writes fun _ _ h => ?_) fun _ => .pure rfl
    exact h.setActive howns howns' fun a ha => Option.some.inj ha ▸ hne
  · intro error
    exact .bind_eq (coupled_removeSnapshot howns howns') fun _ => .raise

lemma coupled_restoreWorkspace {workspace : WorkspaceDocument}
    (hid : workspace.workspaceId = workspaceId) :
    Coupled (Beside env other part part') (restoreWorkspace env workspace)
      (restoreWorkspace env workspace) Eq := by
  subst hid
  refine .ite Iff.rfl (fun _ => ?_) fun _ => ?_
  · exact .bind_eq (coupled_removeWorkspace hdirectory) fun _ => .pure rfl
  · refine .bind_eq ?_ fun _ => .bind (S := fun _ _ => True) ?_ fun _ _ _ => .pure rfl
    · refine .bind_eq coupled_otherStep fun _ =>
        .bind_eq (.reads fun _ _ h => h.rest.workspaces _ hdirectory) fun listed => ?_
      refine .bind .orThrow fun revisions _ hrevisions => ?_
      obtain ⟨rfl, -⟩ := hrevisions
      exact coupled_removeEntries hdirectory _
    · refine .bind .fromExcept fun _ _ _ => .bind_eq (coupled_content hdirectory _) fun content =>
        .bind_eq (coupled_scanTree _ _) fun actual => ?_
      exact .weaken (.throwIf Iff.rfl) fun _ _ _ => trivial

end

lemma coupled_recordRevision {workspace : WorkspaceDocument} {index index' : WorkspaceIndex}
    (hne : workspace.workspaceId ≠ other) (hindex : IndexesBeside other part part' index index')
    (manifest : WorkspaceManifest) :
    Coupled (Beside env other part part') (recordRevision env index workspace manifest)
      (recordRevision env index' workspace manifest) Eq := by
  refine .bind_eq coupled_storeNow fun updatedAt => .bind .fromExcept fun _ _ hvalid => ?_
  have hnext : (workspace.advance manifest updatedAt).workspaceId ≠ other := hne
  have hupdate := hindex.update hnext hvalid.2
  exact .bind_eq (coupled_saveIndex hupdate) fun _ => .pure rfl

section

variable {snapshot : WorkspaceSnapshot} (howns : ¬part.Owns snapshot.snapshotId)
  (howns' : ¬part'.Owns snapshot.snapshotId)

include howns howns'

lemma coupled_known : Coupled (Beside env other part part')
    (reads fun w => w.activeSnapshots snapshot.snapshotId : StoreProgram (Option ActiveRecord))
    (reads fun w => w.activeSnapshots snapshot.snapshotId)
    Eq :=
  .reads fun _ _ h => (h.activeSnapshots howns howns').1

lemma coupled_discardActiveSnapshot : Coupled (Beside env other part part')
    (discardActiveSnapshot env snapshot.snapshotId) (discardActiveSnapshot env snapshot.snapshotId)
    Eq :=
  .bind_eq (.writes fun _ _ h => h.setActive howns howns' (by rintro _ ⟨⟩))
    fun _ => coupled_removeSnapshot howns howns'

lemma coupled_discardSnapshot : Coupled (Beside env other part part')
    (discardSnapshot env snapshot) (discardSnapshot env snapshot) Eq := by
  refine .bind_eq (coupled_known howns howns') fun known => ?_
  split
  · exact .pure rfl
  · exact .bind (.throwIf Iff.rfl) fun _ _ _ => coupled_discardActiveSnapshot howns howns'

lemma coupled_requireActiveSnapshot : Coupled (Beside env other part part')
    (requireActiveSnapshot env snapshot) (requireActiveSnapshot env snapshot) fun active active' =>
      active = active' ∧ active.workspaceId = snapshot.workspaceId := by
  refine .bind_eq (coupled_known howns howns') fun known => .bind .orThrow fun active _ hactive => ?_
  obtain ⟨rfl, -⟩ := hactive
  refine .bind (.throwIf Iff.rfl) fun _ _ hidentifies => .pure ⟨rfl, ?_⟩
  simp only [ActiveRecord.identifies, not_or, Bool.not_eq_false, Bool.and_eq_true, beq_iff_eq] at hidentifies
  exact hidentifies.1.1.1

lemma coupled_snapshotTree : Coupled (Beside env other part part')
    (reads fun w => w.snapshots snapshot.snapshotId : StoreProgram (Option WorkspaceTree))
    (reads fun w => w.snapshots snapshot.snapshotId) Eq :=
  .reads fun _ _ h => h.snapshots howns howns'

lemma coupled_publishRevision {directory : String} (hdirectory : directory ≠ env.files.directory other)
    (quota : WorkspaceQuota) (temporary final : RevisionEntry) :
    Coupled (Beside env other part part')
      (publishRevision env directory snapshot.snapshotId quota temporary final)
      (publishRevision env directory snapshot.snapshotId quota temporary final) Eq := by
  refine .bind_eq (coupled_snapshotTree howns howns') fun source => .bind_eq ?_ fun _ => ?_
  · exact coupled_copyTree fun tree _ _ h =>
      h.setWorkspace hdirectory (by rw [h.rest.workspaces directory hdirectory])
  · exact .bind_eq (coupled_content hdirectory _) fun copy => .bind_eq (coupled_scanTree _ _) fun manifest =>
      .bind .fromExcept fun _ _ _ => .bind_eq (coupled_renameEntry hdirectory _ _) fun _ => .pure rfl

lemma coupled_advanceRevision {workspace : WorkspaceDocument} {index index' : WorkspaceIndex}
    (hne : workspace.workspaceId ≠ other)
    (hdirectory : env.files.directory workspace.workspaceId ≠ env.files.directory other)
    (hindex : IndexesBeside other part part' index index') :
    Coupled (Beside env other part part')
      (advanceRevision env index workspace snapshot.snapshotId)
      (advanceRevision env index' workspace snapshot.snapshotId) Eq := by
  refine .bind coupled_nextCall fun n _ hn => ?_
  obtain ⟨rfl, -⟩ := hn
  refine .bind_eq (coupled_makeEntry hdirectory _) fun _ => ?_
  refine .attempt_bind (coupled_publishRevision howns howns' hdirectory _ _ _) ?_ ?_
  · rintro manifest _ rfl
    refine .attempt_bind (coupled_recordRevision hne hindex manifest) ?_ ?_
    · rintro next _ rfl
      exact .bind_eq (coupled_discardActiveSnapshot howns howns') fun _ => .pure rfl
    · exact fun error => .bind_eq (coupled_removeEntry hdirectory _) fun _ =>
        .bind_eq (coupled_removeEntry hdirectory _) fun _ => .raise
  · exact fun error => .bind_eq (coupled_removeEntry hdirectory _) fun _ => .raise

lemma coupled_commitSnapshot (hne : snapshot.workspaceId ≠ other)
    (hdirectory : env.files.directory snapshot.workspaceId ≠ env.files.directory other) :
    Coupled (Beside env other part part') (commitSnapshot env snapshot) (commitSnapshot env snapshot)
      Eq := by
  refine .bind coupled_requireInitialized fun _ _ _ =>
    .bind (coupled_requireActiveSnapshot howns howns') fun active _ hactive => ?_
  obtain ⟨rfl, hid⟩ := hactive
  refine .bind (.throwIf Iff.rfl) fun _ _ _ => .bind coupled_loadIndex fun index index' hindex => ?_
  rw [hindex.find (hid ▸ hne)]
  refine .bind .orThrow fun workspace _ hworkspace => ?_
  obtain ⟨rfl, hworkspace⟩ := hworkspace
  have hsame : workspace.workspaceId = snapshot.workspaceId := (find_spec hworkspace).2.trans hid
  refine .bind (.throwIf Iff.rfl) fun _ _ _ => .bind_eq (coupled_snapshotTree howns howns') fun tree =>
    .bind_eq (coupled_scanTree _ _) fun _ => .bind (.throwIf Iff.rfl) fun _ _ _ => ?_
  exact coupled_advanceRevision howns howns' (hsame ▸ hne) (hsame ▸ hdirectory) hindex

end

end

/-! ### Isolation -/

/-- The workspace that a call is about. -/
def StoreCall.workspaceId : StoreCall → String
  | .create input => input.workspaceId
  | .get workspaceId | .restore workspaceId => workspaceId
  | .createSnapshot input => input.workspaceId
  | .commitSnapshot snapshot | .discardSnapshot snapshot => snapshot.workspaceId

/-- The snapshot that a call is about. -/
def StoreCall.snapshotId? : StoreCall → Option String
  | .commitSnapshot snapshot | .discardSnapshot snapshot => some snapshot.snapshotId
  | _ => none

/-- Where a workspace has none of the snapshots that a call is about, and none that has a name
that is still to be drawn. -/
def StoreWorld.NoneOf (env : StoreEnvironment) (other : String) (call : StoreCall) (w : StoreWorld) :
    Prop :=
  (∀ n, w.calls ≤ n → ¬(w.part env.files other).Owns (env.snapshotId n))
    ∧ ∀ snapshotId ∈ call.snapshotId?, ¬(w.part env.files other).Owns snapshotId

variable (fs : FileSystem)

/-- A call on the one workspace answers the same whatever the other one holds, does the same to
the rest of the store, and leaves the other one alone. -/
def Isolated (workspaceId other : String) : Prop :=
  ∀ (env : StoreEnvironment) (call : StoreCall) (w w' : StoreWorld),
    env.files = fs → call.workspaceId = workspaceId → SameRest fs other w w' →
    w.NoneOf env other call → w'.NoneOf env other call →
    ((perform env call).exec w).1 = ((perform env call).exec w').1
      ∧ SameRest fs other ((perform env call).exec w).2 ((perform env call).exec w').2
      ∧ ((perform env call).exec w).2.part fs other = w.part fs other
      ∧ ((perform env call).exec w').2.part fs other = w'.part fs other

lemma coupled_perform {env : StoreEnvironment} {other : String} {part part' : WorkspacePart}
    {call : StoreCall} (hne : call.workspaceId ≠ other)
    (hdirectory : env.files.directory call.workspaceId ≠ env.files.directory other)
    (howns : ∀ snapshotId ∈ call.snapshotId?, ¬part.Owns snapshotId ∧ ¬part'.Owns snapshotId) :
    Coupled (Beside env other part part') (perform env call) (perform env call) Eq := by
  cases call with
  | create input => exact .bind_eq (coupled_create hne hdirectory rfl) fun _ => .pure rfl
  | get workspaceId => exact .bind_eq (coupled_get hne hdirectory) fun _ => .pure rfl
  | createSnapshot input =>
    exact .bind_eq (coupled_createSnapshot hne hdirectory rfl) fun _ => .pure rfl
  | commitSnapshot snapshot =>
    obtain ⟨hown, hown'⟩ := howns snapshot.snapshotId rfl
    exact .bind_eq (coupled_commitSnapshot hown hown' hne hdirectory) fun _ => .pure rfl
  | discardSnapshot snapshot =>
    obtain ⟨hown, hown'⟩ := howns snapshot.snapshotId rfl
    exact .bind_eq (coupled_discardSnapshot hown hown') fun _ => .pure rfl
  | restore workspaceId =>
    refine .bind coupled_loadIndex fun index index' hindex => ?_
    have hfind : index.find workspaceId = index'.find workspaceId := hindex.find hne
    rw [hfind]
    refine .bind .orThrow fun workspace _ hworkspace => ?_
    obtain ⟨rfl, hworkspace⟩ := hworkspace
    refine .bind_eq (coupled_restoreWorkspace hne hdirectory (find_spec hworkspace).2) fun retained => ?_
    refine .ite Iff.rfl (fun _ => .pure rfl) fun _ => ?_
    exact .bind_eq (coupled_saveIndex (hindex.drop hne)) fun _ => .pure rfl

/-- Nothing fails, and the clock stands still. -/
def steadyStore : StoreEnvironment where
  files := fs
  platform := ⟨fun _ => "", fun _ _ => true⟩
  now _ := 0
  randomUUID n := toString n
  snapshotPath := id
  resolve := id
  fails _ := none
  walkFails _ := steadyWalk
  remains _ _ := none
  remainsTree _ _ := none
  copied _ := []

/-- A workspace of a task that is under way. -/
def taskWorkspace (workspaceId : String) : CreateWorkspaceInput :=
  ⟨workspaceId, "teti_owner0001", [], .ephemeralTask, none, none⟩

lemma taskWorkspace_valid {workspaceId : String} (hid : safeTaskId workspaceId = true) :
    validateIndex ⟨[(taskWorkspace workspaceId).workspace 0]⟩ = .ok () := by
  refine validateIndex_iff.mpr ⟨fun workspace hworkspace => ?_, List.nodup_singleton _⟩
  obtain rfl := List.mem_singleton.mp hworkspace
  unfold validateCollaborationWorkspace
  rw [failIf_then_eq_ok]
  refine ⟨by simp [taskWorkspace, CreateWorkspaceInput.workspace, hid], ?_⟩
  simp only [taskWorkspace, CreateWorkspaceInput.workspace, CreateWorkspaceInput.retention]
  decide

/-- A store with that workspace, and one file in the directory of its name. -/
def sharedDirectory {workspaceId : String} (hid : safeTaskId workspaceId = true) : StoreWorld where
  index := ⟨⟨[(taskWorkspace workspaceId).workspace 0]⟩, taskWorkspace_valid hid⟩
  workspaces := Function.update (fun _ => none) (fs.directory workspaceId) (some [(.revision 1, [])])
  snapshots _ := none
  activeSnapshots _ := none
  initialized := true
  calls := 0

/-- When the store restarts, the directory of a task goes. -/
lemma restore_removes {workspaceId : String} (hid : safeTaskId workspaceId = true) :
    ((perform (steadyStore fs) (.restore workspaceId)).exec (sharedDirectory fs hid)).2.workspaces
      (fs.directory workspaceId) = none := by
  have hfind : (sharedDirectory fs hid).index.val.find workspaceId
      = some ((taskWorkspace workspaceId).workspace 0) := by
    simp [sharedDirectory, WorkspaceIndex.find, CreateWorkspaceInput.workspace, taskWorkspace]
  have hload : (loadIndex (steadyStore fs)).exec (sharedDirectory fs hid)
      = (.ok (sharedDirectory fs hid).index.val, { sharedDirectory fs hid with calls := 1 }) := rfl
  have hempty : dropWorkspace (sharedDirectory fs hid).index.val workspaceId = ⟨[]⟩ := by
    simp [sharedDirectory, dropWorkspace, CreateWorkspaceInput.workspace, taskWorkspace]
  have hrestore : (restoreWorkspace (steadyStore fs) ((taskWorkspace workspaceId).workspace 0)).exec
        { sharedDirectory fs hid with calls := 1 }
      = (.ok false, { sharedDirectory fs hid with calls := 2 }.setWorkspace (fs.directory workspaceId)
          none) := rfl
  simp only [perform, exec_bind, hload, hfind, orThrow, hempty, exec_pure, hrestore, if_neg Bool.false_ne_true]
  exact Function.update_self ..

/-- **Workspaces are isolated as far as their directories are.** -/
theorem workspaces_isolated_iff (fs : FileSystem) (workspaceId other : String)
    (hid : safeTaskId workspaceId = true) (hne : workspaceId ≠ other) :
    Isolated fs workspaceId other ↔ fs.directory workspaceId ≠ fs.directory other := by
  constructor
  · intro hisolated hshared
    have hnone : (sharedDirectory fs hid).NoneOf (steadyStore fs) other (.restore workspaceId) := by
      refine ⟨fun n _ => not_owns_iff.mpr ?_, ?_⟩
      · rintro active ⟨⟩
      · rintro snapshotId ⟨⟩
    obtain ⟨-, -, hpart, -⟩ := hisolated (steadyStore fs) (.restore workspaceId) _ _ rfl rfl
      (SameRest.refl _) hnone hnone
    have hkept := congrArg WorkspacePart.revisions hpart
    have hbefore : (sharedDirectory fs hid).workspaces (fs.directory workspaceId)
        = some [(.revision 1, [])] := by
      simp [sharedDirectory]
    simp only [StoreWorld.part, ← hshared, restore_removes, hbefore] at hkept
    exact absurd hkept (by simp)
  · rintro hdirectory env call w w' rfl rfl hrest hnone hnone'
    have hbeside : Beside env other (w.part env.files other) (w'.part env.files other) w w' :=
      ⟨rfl, rfl, hrest, fun n hn => ⟨hnone.1 n hn, hnone'.1 n (hrest.calls ▸ hn)⟩⟩
    obtain ⟨houtcome, hworlds⟩ := coupled_perform hne hdirectory
      (fun snapshotId h => ⟨hnone.2 snapshotId h, hnone'.2 snapshotId h⟩) w w' hbeside
    exact ⟨houtcome.eq, hworlds.rest, hworlds.first, hworlds.second⟩

/-- Windows and macOS do not tell case apart. -/
def caseInsensitive (windows : Bool) : FileSystem :=
  ⟨windows, fun name => String.ofList (name.toList.map Char.toLower)⟩

theorem workspaces_isolated_iff_numbered :
    safeTaskId "ws_1" = true ∧ "ws_1" ≠ "ws_2" ∧ Isolated (caseInsensitive false) "ws_1" "ws_2" :=
  ⟨by decide +kernel, by decide, (workspaces_isolated_iff (caseInsensitive false) "ws_1" "ws_2"
    (by decide +kernel) (by decide)).mpr (by decide +kernel)⟩

/-- A workspace that is kept and, on Windows, the workspace of a task whose identifier is the same
but for case. -/
def workspacesOfOneDirectory : StoreProgram Unit := do
  let _ ← perform (steadyStore (caseInsensitive true))
    (.create { taskWorkspace "ws_1" with mode := .durableCollaboration })
  let _ ← perform (steadyStore (caseInsensitive true)) (.create (taskWorkspace "WS_1"))

def emptyStore : StoreWorld where
  index := ⟨⟨[]⟩, rfl⟩
  workspaces _ := none
  snapshots _ := none
  activeSnapshots _ := none
  initialized := true
  calls := 0

/-- When the store restarts, the task takes the revisions of the workspace that is kept along. -/
theorem workspace_lost :
    safeTaskId "ws_1" = true ∧ safeTaskId "WS_1" = true ∧ "WS_1" ≠ "ws_1"
      ∧ (workspacesOfOneDirectory.exec emptyStore).1.isOk = true
      ∧ ((workspacesOfOneDirectory.exec emptyStore).2.part (caseInsensitive true)
        "ws_1").revisions.isSome = true
      ∧ (((perform (steadyStore (caseInsensitive true)) (.restore "WS_1")).exec
        (workspacesOfOneDirectory.exec emptyStore).2).2.part (caseInsensitive true)
        "ws_1").revisions.isSome = false := by
  decide +kernel

end TetiBot.WorkspaceStore

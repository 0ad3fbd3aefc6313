import TetiBot.Desktop.StagedProfile

/-
A migration that is run again after it was interrupted.

* `Resumable`: the disks that runs of the migration leave behind, interrupted or not: the profile
  itself is as it was, the Store and the archive are absent or what an uninterrupted run builds,
  and `profile.json` is there only after both.
* `migrate_triple`: whatever interrupts a run, it leaves such a disk; `exec_migrate`: a run on
  such a disk that nothing interrupts returns and puts everything in its place.
-/

namespace TetiBot

open Library Library.Program Migration

variable {env : MigrationEnv}

/-! ### Reading a known disk -/

/-- What `lstat` finds under the name of an area. -/
lemma found_look_area (d : ProfileDisk) (area : ProfileArea) :
    found (d.look ⟨area, []⟩) = .ok (d area) := by
  simp only [ProfileDisk.look]
  cases d area <;> rfl

lemma keeps_pathExists_area (d : ProfileDisk) (area : ProfileArea) :
    Keeps (fun w => w.disk = d) (pathExists ⟨area, []⟩) fun b => b = (d area).isSome := by
  refine keeps_ifFound_found.bind fun r hr => .pure ?_
  rw [found_look_area] at hr
  cases hr
  rfl

lemma exec_pathExists_area (d : ProfileDisk) (area : ProfileArea) :
    (pathExists ⟨area, []⟩).exec ⟨d, []⟩ = (.ok (d area).isSome, ⟨d, []⟩) := by
  rw [pathExists, exec_bind, lstat, exec_ifFound (found_look_area d area)]
  rfl

lemma keeps_pathExists (d : ProfileDisk) (path : ProfilePath) :
    Keeps (fun w => w.disk = d) (pathExists path) fun _ => True :=
  (keeps_ifFound (keeps_readStep (I := (· = d)))).bind fun _ _ => .pure trivial

/-! ### Reading programs -/

lemma anyExists_builds (candidates : List ProfilePath)
    (h : ∀ candidate ∈ candidates, candidate.area = .root) :
    Builds .root (fun _ => True) (anyExists candidates) fun _ _ => True := by
  induction candidates with
  | nil => exact .pure fun _ => id
  | cons candidate rest ih =>
    refine (Builds.pathExists (h candidate (by simp))).bind fun found => ?_
    exact .ite (fun _ => .pure fun _ => id) fun _ => ih fun c hc => h c (by simp [hc])

lemma keeps_anyExists (d : ProfileDisk) (candidates : List ProfilePath) :
    Keeps (fun w => w.disk = d) (anyExists candidates) fun _ => True := by
  induction candidates with
  | nil => exact .pure trivial
  | cons candidate rest ih =>
    exact (keeps_pathExists d candidate).bind fun _ _ =>
      .ite (fun _ => .pure trivial) fun _ => ih

/-- Whether the profile has 0.1 data. -/
def HasLegacyData (profile : ProfileDisk) (legacy : Bool) : Prop :=
  ∃ v, hasLegacyProfileData.exec ⟨profile, []⟩ = (.ok legacy, v)

variable {profile d e : ProfileDisk} {legacy : Bool} {w v : MigrationWorld}

/-- A run from elsewhere that agrees on the profile itself answers the same. -/
lemma hasLegacyProfileData_retraces (hrun : hasLegacyProfileData.exec w = (.ok legacy, v))
    (hroot : w.disk .root = d .root) :
    hasLegacyProfileData.exec ⟨d, []⟩ = (.ok legacy, ⟨d, []⟩) := by
  obtain ⟨⟨d', faults⟩, hrun', hretraces⟩ := (anyExists_builds legacyDataPaths (by decide)).replays
    w ⟨d, []⟩ ⟨hroot, hroot, rfl, trivial⟩ legacy v hrun
  have hdisk := (keeps_anyExists d legacyDataPaths).world (w := ⟨d, []⟩) rfl
  rw [hrun'] at hdisk
  obtain rfl : d' = d := hdisk
  obtain rfl : faults = [] := hretraces.calm
  exact hrun'

lemma keeps_hasLegacyProfileData (hroot : d .root = profile .root) :
    Keeps (fun w => w.disk = d) hasLegacyProfileData (HasLegacyData profile) := by
  intro w hw
  have hdisk : (hasLegacyProfileData.exec w).2.disk = d :=
    (keeps_anyExists d legacyDataPaths).world hw
  rcases hrun : hasLegacyProfileData.exec w with ⟨error | legacy, v⟩ <;> rw [hrun] at hdisk
  · exact hdisk
  · refine ⟨hdisk, _, hasLegacyProfileData_retraces hrun ?_⟩
    rw [hw, hroot]

lemma HasLegacyData.unique {legacy' : Bool} (h : HasLegacyData profile legacy)
    (h' : HasLegacyData profile legacy') : legacy = legacy' := by
  obtain ⟨v, hrun⟩ := h
  obtain ⟨v', hrun'⟩ := h'
  rw [hrun] at hrun'
  cases hrun'
  rfl

lemma keeps_requireDirectory (d : ProfileDisk) (path : ProfilePath) (label : String) :
    Keeps (fun w => w.disk = d) (requireDirectory path label) fun _ => True := by
  refine (keeps_readStep (I := (· = d))).attempt.bind fun r _ => ?_
  split
  · exact Keeps.throwIf.weaken fun _ _ => trivial
  · exact .raise
  · exact .raise

lemma keeps_requireControlFiles (d : ProfileDisk) (files : List String) :
    Keeps (fun w => w.disk = d) (requireControlFiles files) fun _ => True := by
  induction files with
  | nil => exact .pure trivial
  | cons file rest ih =>
    refine (keeps_pathExists d _).bind fun _ _ => ?_
    exact Keeps.throwIf.bind fun _ _ => ih

lemma keeps_orRefuse {I : MigrationWorld → Prop} {α : Type} {r : Except String α} :
    Keeps I (orRefuse r) fun _ => True := by
  cases r with
  | error message => exact .raise
  | ok a => exact .pure trivial

/-- Metadata are read exactly where they are. -/
lemma keeps_readMetadata (d : ProfileDisk) :
    Keeps (fun w => w.disk = d) (readMetadata env ⟨.metadata, []⟩)
      fun r => r.isSome = (d .metadata).isSome := by
  refine (keeps_pathExists_area d .metadata).bind fun b hb => ?_
  refine .ite (fun h => .pure ?_) fun h => ?_
  · rw [← hb]
    simpa using h
  · refine (keeps_readStep (I := (· = d))).bind fun _ _ => ?_
    refine keeps_orRefuse.bind fun _ _ => Keeps.throwIf.bind fun _ _ => .pure ?_
    rw [← hb]
    simpa using h

/-! ### What runs leave behind -/

/-- What is moved to the name of the Store: the tree that an uninterrupted run builds. -/
def StoreBuilt (env : MigrationEnv) (profile : ProfileDisk) (legacy : Bool)
    (tree : Option (FileNode FileContent)) : Prop :=
  ∃ v v', clearStoreStaging.exec ⟨profile, []⟩ = (.ok (), v)
    ∧ (fillStoreStaging env legacy).exec v = (.ok (), v') ∧ v'.disk .storeStaging = tree

/-- What is moved to the name of the archive. -/
def ArchiveBuilt (env : MigrationEnv) (profile : ProfileDisk) (archivedAt : DateTime)
    (tree : Option (FileNode FileContent)) : Prop :=
  ∃ v v', clearArchiveStaging.exec ⟨profile, []⟩ = (.ok (), v)
    ∧ (fillArchiveStaging env archivedAt).exec v = (.ok (), v')
    ∧ v'.disk .archiveStaging = tree

/-- The file that `writePrivateJson` makes of the metadata. -/
def metadataFile (env : MigrationEnv) (createdAt : DateTime) (legacy : Bool) :
    Option (FileNode FileContent) :=
  some (.file 0o600 (env.printJson (metadataJson createdAt legacy)))

/-- The disk with the metadata under their temporary name. -/
def withTemporary (d : ProfileDisk) (part : FileContent) : ProfileDisk :=
  Function.update d .metadataTemporary (some (.file 0o600 part))

/-- The disk with the metadata in their place. -/
def withMetadata (env : MigrationEnv) (d : ProfileDisk) (createdAt : DateTime) (legacy : Bool) :
    ProfileDisk :=
  Function.update (Function.update d .metadataTemporary none) .metadata
    (metadataFile env createdAt legacy)

/-- A disk on which the migration of a profile can be taken up. -/
structure Resumable (env : MigrationEnv) (profile d : ProfileDisk) : Prop where
  root : d .root = profile .root
  store : d .store = none ∨ ∃ legacy, HasLegacyData profile legacy
    ∧ StoreBuilt env profile legacy (d .store) ∧ IsStore controlNames (d .store)
  archive : d .archive = none ∨ ∃ archivedAt, ArchiveBuilt env profile archivedAt (d .archive)
  temporary : d .metadataTemporary = none
    ∨ ∃ part, d .metadataTemporary = some (.file 0o600 part)
  metadata : d .metadata = none ∨ ∃ legacy createdAt, HasLegacyData profile legacy
    ∧ d .metadata = metadataFile env createdAt legacy
    ∧ (d .store).isSome = true ∧ (d .archive).isSome = true

namespace Resumable

/-- The areas that nothing is taken from. -/
def IsStaging (area : ProfileArea) : Prop := area = .storeStaging ∨ area = .archiveStaging

lemma of_elsewhere {area : ProfileArea} (h : Resumable env profile d) (harea : IsStaging area)
    (he : Elsewhere area d e) : Resumable env profile e := by
  have hsame : ∀ other, ¬IsStaging other → e other = d other := fun other hother =>
    he other fun heq => hother (heq ▸ harea)
  have hroot := hsame .root (by simp [IsStaging])
  have hstore := hsame .store (by simp [IsStaging])
  have harchive := hsame .archive (by simp [IsStaging])
  have htemporary := hsame .metadataTemporary (by simp [IsStaging])
  have hmetadata := hsame .metadata (by simp [IsStaging])
  constructor
  · rw [hroot]
    exact h.root
  · rw [hstore]
    exact h.store
  · rw [harchive]
    exact h.archive
  · rw [htemporary]
    exact h.temporary
  · rw [hmetadata, hstore, harchive]
    exact h.metadata

section

variable (h : Resumable env profile d)
include h

lemma set_store (hlegacy : HasLegacyData profile legacy)
    {tree : Option (FileNode FileContent)} (hbuilt : StoreBuilt env profile legacy tree)
    (hstore : IsStore controlNames tree) :
    Resumable env profile (Function.update d .store tree) where
  root := h.root
  store := .inr ⟨legacy, hlegacy, hbuilt, hstore⟩
  archive := h.archive
  temporary := h.temporary
  metadata := by
    refine h.metadata.imp_right fun ⟨l, t, hl, hd, _, ha⟩ => ⟨l, t, hl, hd, ?_, ha⟩
    obtain ⟨entries, rfl, -⟩ := hstore
    rfl

lemma set_archive {archivedAt : DateTime}
    {tree : FileNode FileContent} (hbuilt : ArchiveBuilt env profile archivedAt (some tree)) :
    Resumable env profile (Function.update d .archive (some tree)) where
  root := h.root
  store := h.store
  archive := .inr ⟨archivedAt, hbuilt⟩
  temporary := h.temporary
  metadata := h.metadata.imp_right fun ⟨l, t, hl, hd, hs, _⟩ => ⟨l, t, hl, hd, hs, rfl⟩

lemma set_temporary (part : FileContent) : Resumable env profile (withTemporary d part) where
  root := h.root
  store := h.store
  archive := h.archive
  temporary := .inr ⟨part, rfl⟩
  metadata := h.metadata

/-- The metadata are put in their place, from their temporary name. -/
lemma set_metadata (hlegacy : HasLegacyData profile legacy)
    (hstore : (d .store).isSome = true) (harchive : (d .archive).isSome = true)
    (createdAt : DateTime) :
    Resumable env profile (withMetadata env d createdAt legacy) where
  root := h.root
  store := h.store
  archive := h.archive
  temporary := .inl rfl
  metadata := .inr ⟨legacy, createdAt, hlegacy, rfl, hstore, harchive⟩

end

end Resumable

lemma resumable_legacyProfile (mode : Nat) (entries : List (String × FileNode FileContent)) :
    Resumable env (legacyProfile mode entries) (legacyProfile mode entries) :=
  ⟨rfl, .inl rfl, .inl rfl, .inl rfl, .inl rfl⟩

/-! ### Moving and closing what was built -/

/-- A tree that is moved to an area which is free. -/
lemma move_area {source target : ProfileArea} {node : FileNode FileContent}
    (hne : source ≠ target) (hsource : d source = some node) (htarget : d target = none) :
    d.move ⟨source, []⟩ ⟨target, []⟩
      = .ok (Function.update (Function.update d source none) target (some node)) := by
  have hlook : d.look ⟨source, []⟩ = .ok node := by
    simp only [ProfileDisk.look, hsource, FileNode.lookAt]
  refine ProfileDisk.move_of_changes hlook (ProfileDisk.change_of_update rfl) ?_
  refine ProfileDisk.change_of_update ?_
  simp only [FileNode.update, Function.update_of_ne hne.symm, htarget]
  rfl

variable {mode : Nat} {names : List String} {area : ProfileArea}

/-- A directory that has its mode already. -/
lemma change_setMode_isDirectory (h : FileNode.IsDirectory mode names (d area)) :
    d.change (FileNode.setMode mode) ⟨area, []⟩ = .ok d := by
  obtain ⟨entries, hd, -⟩ := h
  have htop : FileNode.update (FileNode.setMode mode) [] (d area)
      = .ok (some (.dir mode entries)) := by
    rw [hd]
    rfl
  rw [ProfileDisk.change_of_update htop, ← hd, Function.update_eq_self]

lemma change_setMode_file {content : FileContent} (h : d area = some (.file mode content)) :
    d.change (FileNode.setMode mode) ⟨area, []⟩ = .ok d := by
  have htop : FileNode.update (FileNode.setMode mode) [] (d area)
      = .ok (some (.file mode content)) := by
    rw [h]
    rfl
  rw [ProfileDisk.change_of_update htop, ← h, Function.update_eq_self]

lemma keeps_rm_staging (harea : Resumable.IsStaging area) :
    Keeps (fun w => Resumable env profile w.disk) (rm area) fun _ => True := by
  have hcleared : ∀ (d : ProfileDisk) (tree : Option (FileNode FileContent)),
      Elsewhere area d (Function.update d area tree) := fun d tree other hother =>
    Function.update_of_ne hother _ _
  refine (triple_writeStep (P := Resumable env profile) (Q := Resumable env profile)
    (E := Resumable env profile) ?_ (fun _ => id) ?_).post fun _ _ hw => ⟨hw, trivial⟩
  · rintro d _ hd ⟨⟩
    exact hd.of_elsewhere harea (hcleared d none)
  · intro fault d hd
    exact hd.of_elsewhere harea (hcleared d fault.residue)

/-! ### Building the Store -/

lemma createStoreDirectories_builds :
    Builds .storeStaging (· = none) createStoreDirectories fun _ => IsStore [] := by
  have hfirst : Builds .storeStaging (· = none) (mkdir ⟨.storeStaging, ["account"]⟩ 0o700)
      fun _ => IsStore [] := Builds.mkdir_cleared (by decide) rfl
  have hnext (path : ProfilePath) (h : path.area = .storeStaging) :
      Builds .storeStaging (IsStore []) (mkdir path 0o700) fun _ => IsStore [] :=
    Builds.mkdir (isStore_lasting []) (by decide) h
  exact hfirst.bind fun _ => (hnext _ rfl).bind fun _ => hnext _ rfl

/-- From a disk that can be taken up, the cleared staging area is that of an uninterrupted run. -/
lemma clearStoreStaging_triple (hroot : d .root = profile .root) :
    Triple (fun w => w.disk = d) clearStoreStaging
      (fun _ w => Elsewhere .storeStaging d w.disk
        ∧ ∃ v, clearStoreStaging.exec ⟨profile, []⟩ = (.ok (), v)
          ∧ Retraces .storeStaging (IsStore []) w v)
      fun _ w => Elsewhere .storeStaging d w.disk := by
  refine (createStoreDirectories_builds.triple_rm (by decide) (v := ⟨profile, []⟩) rfl).pre ?_
  rintro w rfl
  exact ⟨fun _ _ => rfl, hroot⟩

/-- A tree in the staging area that an uninterrupted run builds there. -/
def StoreReady (env : MigrationEnv) (profile d : ProfileDisk) (legacy : Bool) (e : ProfileDisk) :
    Prop :=
  Elsewhere .storeStaging d e ∧ StoreBuilt env profile legacy (e .storeStaging)
    ∧ IsStore controlNames (e .storeStaging)

/-- The same tree under the name of the Store; the archive and the metadata are those of `d`. -/
def StorePlaced (env : MigrationEnv) (profile d e : ProfileDisk) : Prop :=
  Resumable env profile e ∧ IsStore controlNames (e .store) ∧ e .archive = d .archive
    ∧ e .metadata = d .metadata

lemma fillStoreStaging_triple (he : Elsewhere .storeStaging d w.disk)
    (hclear : clearStoreStaging.exec ⟨profile, []⟩ = (.ok (), v))
    (hretraces : Retraces .storeStaging (IsStore []) w v) :
    Triple (· = w) (fillStoreStaging env legacy)
      (fun _ w => StoreReady env profile d legacy w.disk)
      fun _ w => Elsewhere .storeStaging d w.disk := by
  refine ((fillStoreStaging_builds legacy).triple d v).weaken ?_ ?_ fun _ _ => id
  · rintro w rfl
    exact ⟨he, hretraces⟩
  · rintro a w ⟨he, v', hfill, hretraces⟩
    exact ⟨he, ⟨v, v', hclear, hfill, hretraces.tree.symm⟩, hretraces.holds⟩

lemma StoreReady.move {e' : ProfileDisk} (h : StoreReady env profile d legacy e)
    (hd : Resumable env profile d) (hnone : d .store = none)
    (hlegacy : HasLegacyData profile legacy)
    (hmoved : e.move ⟨.storeStaging, []⟩ ⟨.store, []⟩ = .ok e') : StorePlaced env profile d e' := by
  obtain ⟨he, hbuilt, hstore⟩ := h
  obtain ⟨entries, htree, -⟩ := id hstore
  rw [move_area (by decide) htree ((he _ (by decide)).trans hnone)] at hmoved
  cases hmoved
  rw [htree] at hbuilt hstore
  have hcleared : Elsewhere .storeStaging d (Function.update e .storeStaging none) :=
    fun other hother => (Function.update_of_ne hother _ _).trans (he other hother)
  exact ⟨(hd.of_elsewhere (.inl rfl) hcleared).set_store hlegacy hbuilt hstore, hstore,
    hcleared .archive (by decide), hcleared .metadata (by decide)⟩

/-- **The Store is built or it is not**: a run of `buildActiveStore` leaves a disk that can be
taken up again, and if it returns the Store is in its place. -/
theorem buildActiveStore_triple (hd : Resumable env profile d) (hnone : d .store = none)
    (hlegacy : HasLegacyData profile legacy) :
    Triple (fun w => w.disk = d) (buildActiveStore env legacy)
      (fun _ w => StorePlaced env profile d w.disk) fun _ w => Resumable env profile w.disk := by
  have hkept : ∀ e, Elsewhere .storeStaging d e → Resumable env profile e :=
    fun e he => hd.of_elsewhere (.inl rfl) he
  refine ((clearStoreStaging_triple hd.root).weaken (fun _ => id) (fun _ _ => id)
    fun _ w hw => hkept _ hw).bind fun _ => ?_
  refine triple_onError ?_ (keeps_rm_staging (.inl rfl))
  refine Triple.of_world fun w ⟨he, v, hclear, hretraces⟩ => ?_
  refine ((fillStoreStaging_triple he hclear hretraces).weaken (fun _ => id) (fun _ _ => id)
    fun _ w hw => hkept _ hw).bind fun _ => ?_
  have hrename : Triple (fun w => StoreReady env profile d legacy w.disk)
      (rename ⟨.storeStaging, []⟩ ⟨.store, []⟩) (fun _ w => StorePlaced env profile d w.disk)
      fun _ w => Resumable env profile w.disk :=
    triple_rename (fun e e' h hmoved => h.move hd hnone hlegacy hmoved)
      (fun e h => hkept e h.1) fun e h => h.1
  have hchmod : Triple (fun w => StorePlaced env profile d w.disk) (chmod ⟨.store, []⟩ 0o700)
      (fun _ w => StorePlaced env profile d w.disk) fun _ w => Resumable env profile w.disk := by
    refine triple_chmod (fun e e' h hchanged => ?_) (fun e h => h.1) fun e h => h.1
    rw [change_setMode_isDirectory h.2.1] at hchanged
    cases hchanged
    exact h
  exact hrename.bind fun _ => hchmod

/-! ### Building the archive -/

lemma clearArchiveStaging_triple (hroot : d .root = profile .root) :
    Triple (fun w => w.disk = d) clearArchiveStaging
      (fun _ w => Elsewhere .archiveStaging d w.disk
        ∧ ∃ v, clearArchiveStaging.exec ⟨profile, []⟩ = (.ok (), v)
          ∧ Retraces .archiveStaging (fun _ => True) w v)
      fun _ w => Elsewhere .archiveStaging d w.disk := by
  have hmkdir : Builds .archiveStaging (· = none) (mkdir ⟨.archiveStaging, []⟩ 0o700)
      fun _ => IsStore [] := Builds.mkdir_cleared (by decide) rfl
  refine ((hmkdir.weaken (fun _ => id) fun _ _ _ => trivial).triple_rm (by decide)
    (v := ⟨profile, []⟩) rfl).pre ?_
  rintro w rfl
  exact ⟨fun _ _ => rfl, hroot⟩

def ArchiveReady (env : MigrationEnv) (profile d : ProfileDisk) (archivedAt : DateTime)
    (e : ProfileDisk) : Prop :=
  Elsewhere .archiveStaging d e ∧ ArchiveBuilt env profile archivedAt (e .archiveStaging)

/-- The archive in its place, one that was there or a new one; the Store and the metadata are
those of `d`. -/
structure ArchivePlaced (env : MigrationEnv) (profile d : ProfileDisk) (archivedAt : DateTime)
    (e : ProfileDisk) : Prop where
  resumable : Resumable env profile e
  there : (e .archive).isSome = true
  built : d .archive = none → ArchiveBuilt env profile archivedAt (e .archive)
  store : e .store = d .store
  metadata : e .metadata = d .metadata

lemma fillArchiveStaging_triple {archivedAt : DateTime} (he : Elsewhere .archiveStaging d w.disk)
    (hclear : clearArchiveStaging.exec ⟨profile, []⟩ = (.ok (), v))
    (hretraces : Retraces .archiveStaging (fun _ => True) w v) :
    Triple (· = w) (fillArchiveStaging env archivedAt)
      (fun _ w => ArchiveReady env profile d archivedAt w.disk)
      fun _ w => Elsewhere .archiveStaging d w.disk := by
  refine ((fillArchiveStaging_builds archivedAt).triple d v).weaken ?_ ?_ fun _ _ => id
  · rintro w rfl
    exact ⟨he, hretraces⟩
  · rintro a w ⟨he, v', hfill, hretraces⟩
    exact ⟨he, v, v', hclear, hfill, hretraces.tree.symm⟩

lemma ArchiveReady.move {e' : ProfileDisk} {archivedAt : DateTime}
    (h : ArchiveReady env profile d archivedAt e) (hd : Resumable env profile d)
    (hnone : d .archive = none)
    (hmoved : e.move ⟨.archiveStaging, []⟩ ⟨.archive, []⟩ = .ok e') :
    ArchivePlaced env profile d archivedAt e' := by
  obtain ⟨he, hbuilt⟩ := h
  obtain ⟨node, htree⟩ : ∃ node, e .archiveStaging = some node := by
    obtain ⟨node, -, hnode, -⟩ := ProfileDisk.move_eq_ok hmoved
    cases htree : e .archiveStaging with
    | none =>
      simp only [ProfileDisk.look, htree] at hnode
      cases hnode
    | some node => exact ⟨node, rfl⟩
  rw [move_area (by decide) htree ((he _ (by decide)).trans hnone)] at hmoved
  cases hmoved
  rw [htree] at hbuilt
  have hcleared : Elsewhere .archiveStaging d (Function.update e .archiveStaging none) :=
    fun other hother => (Function.update_of_ne hother _ _).trans (he other hother)
  exact ⟨(hd.of_elsewhere (.inr rfl) hcleared).set_archive hbuilt, rfl, fun _ => hbuilt,
    hcleared .store (by decide), hcleared .metadata (by decide)⟩

lemma keeps_chmod_staging :
    Keeps (fun w => Resumable env profile w.disk)
      (ignoringErrors (chmod ⟨.archiveStaging, []⟩ 0o700)) fun _ => True := by
  refine keeps_ignoringErrors ((triple_chmod (P := Resumable env profile)
    (Q := Resumable env profile) ?_ (fun _ => id) fun _ => id).post fun _ _ hw => ⟨hw, trivial⟩)
  intro d d' hd hchanged
  exact hd.of_elsewhere (.inr rfl) fun other hother =>
    ProfileDisk.change_elsewhere hchanged hother

/-- **The archive is built or it is not**, as the Store is. -/
theorem buildLegacyArchive_triple (hd : Resumable env profile d) (archivedAt : DateTime) :
    Triple (fun w => w.disk = d) (buildLegacyArchive env archivedAt)
      (fun _ w => ArchivePlaced env profile d archivedAt w.disk)
      fun _ w => Resumable env profile w.disk := by
  have hkept : ∀ e, Elsewhere .archiveStaging d e → Resumable env profile e :=
    fun e he => hd.of_elsewhere (.inr rfl) he
  refine (Triple.weaken (keeps_pathExists_area d .archive) (fun _ => id) (fun _ _ => id) ?_).bind
    fun there => Triple.of_fact fun hthere => .ite (fun h => .pure ?_) fun h => ?_
  · rintro _ w rfl
    exact hd
  · rintro w rfl
    have hsome : (w.disk .archive).isSome = true := by rw [← hthere, h]
    refine ⟨hd, hsome, fun hnone => ?_, rfl, rfl⟩
    rw [hnone] at hsome
    cases hsome
  have hnone : d .archive = none := by
    cases harchive : d .archive with
    | none => rfl
    | some node => exact absurd (by rw [hthere, harchive]; rfl) h
  refine ((clearArchiveStaging_triple hd.root).weaken (fun _ => id) (fun _ _ => id)
    fun _ w hw => hkept _ hw).bind fun _ => ?_
  refine triple_onError ?_ (keeps_chmod_staging.bind fun _ _ => keeps_rm_staging (.inr rfl))
  refine Triple.of_world fun w ⟨he, v, hclear, hretraces⟩ => ?_
  refine ((fillArchiveStaging_triple he hclear hretraces).weaken (fun _ => id) (fun _ _ => id)
    fun _ w hw => hkept _ hw).bind fun _ => ?_
  exact triple_rename (fun e e' h hmoved => h.move hd hnone hmoved) (fun e h => hkept e h.1)
    fun e h => h.resumable

/-! ### Writing the metadata -/

lemma makeDirectories_of_isDirectory {mode' : Nat} (h : FileNode.IsDirectory mode names (d area)) :
    d.makeDirectories mode' ⟨area, []⟩ = .ok d := by
  obtain ⟨entries, hd, -⟩ := h
  have htop : FileNode.makeDirectories mode' [] (d area) = .ok (.dir mode entries) := by
    rw [hd]
    rfl
  rw [ProfileDisk.makeDirectories_of_made htop, ← hd, Function.update_eq_self]

/-- Nothing is created where the directory is. -/
lemma keeps_mkdir {mode' : Nat} (h : FileNode.IsDirectory mode names (d area)) :
    Keeps (fun w => w.disk = d) (mkdir ⟨area, []⟩ mode') fun _ => True := by
  refine (triple_writeStep (P := (· = d)) (Q := (· = d)) (E := (· = d)) ?_ (fun _ => id)
    ?_).post fun _ _ hw => ⟨hw, trivial⟩
  · rintro _ e rfl hmade
    rw [makeDirectories_of_isDirectory h] at hmade
    cases hmade
    rfl
  · rintro fault _ rfl
    split_ifs
    · rfl
    · rw [List.take_nil, makeDirectories_of_isDirectory h]
      rfl

lemma change_put_temporary (hd : Resumable env profile d) (content : FileContent) :
    d.change (FileNode.put 0o600 content) ⟨.metadataTemporary, []⟩
      = .ok (withTemporary d content) := by
  refine ProfileDisk.change_of_update ?_
  rcases hd.temporary with hnone | ⟨part, hpart⟩
  · rw [hnone]
    rfl
  · rw [hpart]
    rfl

lemma move_metadata (hnone : d .metadata = none) (createdAt : DateTime) (legacy : Bool) :
    ProfileDisk.move (withTemporary d (env.printJson (metadataJson createdAt legacy)))
      ⟨.metadataTemporary, []⟩ ⟨.metadata, []⟩ = .ok (withMetadata env d createdAt legacy) := by
  rw [withTemporary, move_area (by decide) (Function.update_self ..)
    ((Function.update_of_ne (by decide) _ _).trans hnone), Function.update_idem]
  rfl

lemma change_setMode_metadata (d : ProfileDisk) (createdAt : DateTime) (legacy : Bool) :
    (withMetadata env d createdAt legacy).change (FileNode.setMode 0o600) ⟨.metadata, []⟩
      = .ok (withMetadata env d createdAt legacy) := by
  have hfile : withMetadata env d createdAt legacy .metadata
      = some (.file 0o600 (env.printJson (metadataJson createdAt legacy))) :=
    Function.update_self ..
  exact change_setMode_file hfile

lemma writeMetadata_triple (hd : Resumable env profile d)
    (hroot : FileNode.IsDirectory mode [] (profile .root)) (hnone : d .metadata = none)
    (hlegacy : HasLegacyData profile legacy) (hstore : (d .store).isSome = true)
    (harchive : (d .archive).isSome = true) (createdAt : DateTime) :
    Triple (fun w => w.disk = d)
      (writePrivateJson env ⟨.metadata, []⟩ (metadataJson createdAt legacy))
      (fun _ w => w.disk = withMetadata env d createdAt legacy)
      fun _ w => Resumable env profile w.disk := by
  have hplaced : Resumable env profile (withMetadata env d createdAt legacy) :=
    hd.set_metadata hlegacy hstore harchive createdAt
  have hmkdir : Triple (fun w => w.disk = d) (mkdir ⟨.root, []⟩ 0o700) (fun _ w => w.disk = d)
      fun _ w => Resumable env profile w.disk := by
    refine Triple.weaken (keeps_mkdir (hd.root ▸ hroot)) (fun _ => id) (fun _ _ hw => hw.1) ?_
    rintro _ w rfl
    exact hd
  have hwrite : Triple (fun w => w.disk = d)
      (writeFile ⟨.metadataTemporary, []⟩ (env.printJson (metadataJson createdAt legacy)) 0o600)
      (fun _ w => w.disk = withTemporary d (env.printJson (metadataJson createdAt legacy)))
      fun _ w => Resumable env profile w.disk := by
    refine triple_writeFile (P := (· = d)) (E := Resumable env profile)
      (Q := (· = withTemporary d (env.printJson (metadataJson createdAt legacy)))) ?_ ?_ ?_
    · rintro _ e rfl hwritten
      rw [change_put_temporary hd] at hwritten
      cases hwritten
      rfl
    · rintro _ rfl
      exact hd
    · rintro part _ e rfl hwritten
      rw [change_put_temporary hd] at hwritten
      cases hwritten
      exact hd.set_temporary part
  have hrename : Triple
      (fun w => w.disk = withTemporary d (env.printJson (metadataJson createdAt legacy)))
      (rename ⟨.metadataTemporary, []⟩ ⟨.metadata, []⟩)
      (fun _ w => w.disk = withMetadata env d createdAt legacy)
      fun _ w => Resumable env profile w.disk := by
    refine triple_rename (E := Resumable env profile)
      (P := (· = withTemporary d (env.printJson (metadataJson createdAt legacy))))
      (Q := (· = withMetadata env d createdAt legacy)) ?_ ?_ ?_
    · rintro e e' rfl hmoved
      rw [move_metadata hnone] at hmoved
      cases hmoved
      rfl
    · rintro e rfl
      exact hd.set_temporary _
    · rintro e rfl
      exact hplaced
  have hchmod : Triple (fun w => w.disk = withMetadata env d createdAt legacy)
      (chmod ⟨.metadata, []⟩ 0o600) (fun _ w => w.disk = withMetadata env d createdAt legacy)
      fun _ w => Resumable env profile w.disk := by
    refine triple_chmod (P := (· = withMetadata env d createdAt legacy))
      (Q := (· = withMetadata env d createdAt legacy)) (E := Resumable env profile) ?_ ?_ ?_
    · rintro e e' rfl hchanged
      rw [change_setMode_metadata] at hchanged
      cases hchanged
      rfl
    · rintro e rfl
      exact hplaced
    · rintro e rfl
      exact hplaced
  exact hmkdir.bind fun _ => hwrite.bind fun _ => hrename.bind fun _ => hchmod

/-! ### A run -/

/-- **A further run changes nothing**: once the metadata are there, a run only reads. -/
theorem migrate_keeps (hthere : (d .metadata).isSome = true) (clock : MigrationClock) :
    Keeps (fun w => w.disk = d) (migrateTetiProfileToV2 env clock) fun _ => True := by
  refine (keeps_readMetadata d).bind fun r hr => ?_
  cases r with
  | none =>
    rw [hthere] at hr
    cases hr
  | some existing => exact (keeps_requireDirectory d _ _).bind fun _ _ => .pure trivial

/-- The Store is there, built by this run or by one before. -/
lemma ensureActiveStore_triple (hd : Resumable env profile d)
    (hlegacy : HasLegacyData profile legacy) :
    Triple (fun w => w.disk = d) (ensureActiveStore env legacy)
      (fun _ w => Resumable env profile w.disk ∧ (w.disk .store).isSome = true
        ∧ w.disk .archive = d .archive ∧ w.disk .metadata = d .metadata)
      fun _ w => Resumable env profile w.disk := by
  refine (Triple.weaken (keeps_pathExists_area d .store) (fun _ => id) (fun _ _ => id) ?_).bind
    fun there => Triple.of_fact fun hthere => .ite (fun h => ?_) fun h => ?_
  · rintro _ w rfl
    exact hd
  · have hnone : d .store = none := by
      rw [hthere] at h
      simpa using h
    refine (buildActiveStore_triple hd hnone hlegacy).post ?_
    rintro _ w ⟨hw, ⟨entries, htree, -⟩, hsame⟩
    exact ⟨hw, by rw [htree]; rfl, hsame⟩
  · have hsome : (d .store).isSome = true := by
      rw [← hthere]
      simpa using h
    have hvalidate : Keeps (fun w => w.disk = d) validateRecoverableActiveStore fun _ => True :=
      (keeps_requireDirectory d _ _).bind fun _ _ => keeps_requireControlFiles d _
    refine Triple.weaken hvalidate (fun _ => id) ?_ ?_
    · rintro _ w ⟨rfl, -⟩
      exact ⟨hd, hsome, rfl, rfl⟩
    · rintro _ w rfl
      exact hd

/-- What a run that returned has left: the metadata are in their place, and so is the archive,
which is one of this run if there was none before. -/
structure MigrationDone (env : MigrationEnv) (profile d : ProfileDisk) (clock : MigrationClock)
    (e : ProfileDisk) : Prop where
  resumable : Resumable env profile e
  there : (e .metadata).isSome = true
  archive : d .metadata = none → d .archive = none →
    ArchiveBuilt env profile clock.archivedAt (e .archive)

/-- **Every run leaves a disk that can be taken up again**, whatever interrupts it, and one that
returns is done. -/
theorem migrate_triple (hroot : FileNode.IsDirectory mode [] (profile .root))
    (hd : Resumable env profile d) (clock : MigrationClock) :
    Triple (fun w => w.disk = d) (migrateTetiProfileToV2 env clock)
      (fun _ w => MigrationDone env profile d clock w.disk)
      fun _ w => Resumable env profile w.disk := by
  by_cases hthere : (d .metadata).isSome = true
  · refine Triple.weaken (migrate_keeps hthere clock) (fun _ => id) ?_ ?_
    · rintro _ w ⟨rfl, -⟩
      refine ⟨hd, hthere, fun hnone => ?_⟩
      rw [hnone] at hthere
      cases hthere
    · rintro _ w rfl
      exact hd
  have hnone : d .metadata = none := by simpa using hthere
  have hkept : ∀ w : MigrationWorld, w.disk = d → Resumable env profile w.disk := by
    rintro w rfl
    exact hd
  refine (Triple.weaken (keeps_readMetadata d) (fun _ => id) (fun _ _ => id)
    fun _ => hkept).bind fun r => Triple.of_fact fun hr => ?_
  cases r with
  | some existing =>
    rw [hnone] at hr
    cases hr
  | none =>
    refine (Triple.weaken (keeps_hasLegacyProfileData hd.root) (fun _ => id) (fun _ _ => id)
      fun _ => hkept).bind fun legacy => Triple.of_fact fun hlegacy => ?_
    refine (ensureActiveStore_triple hd hlegacy).bind fun _ => Triple.of_world ?_
    intro w ⟨hw, hstore, hsame, hmetadata⟩
    have harchive : Triple (· = w) _ _ _ :=
      (buildLegacyArchive_triple hw clock.archivedAt).pre fun v hv =>
        congrArg MigrationWorld.disk hv
    refine harchive.bind fun _ => Triple.of_world fun v ⟨hv, ha, hbuilt, hs, hm⟩ => ?_
    have hwrite : Triple (· = v) _ _ _ :=
      (writeMetadata_triple hv hroot (hm.trans (hmetadata.trans hnone)) hlegacy
        (hs ▸ hstore) ha clock.createdAt).pre fun u hu => congrArg MigrationWorld.disk hu
    refine hwrite.bind fun _ => .pure ?_
    intro u hu
    rw [hu]
    exact ⟨hv.set_metadata hlegacy (hs ▸ hstore) ha clock.createdAt, rfl,
      fun _ hfree => hbuilt (hsame.trans hfree)⟩

/-! ### An uninterrupted run -/

/-- The world after a run that was not interrupted. -/
lemma calm_of_retraces {P : Option (FileNode FileContent) → Prop} (h : Retraces area P w v) :
    v = ⟨v.disk, []⟩ := by
  obtain ⟨d, faults⟩ := v
  obtain rfl : faults = [] := h.calm
  rfl

variable {tree : Option (FileNode FileContent)}

/-- What was built once is built again from every disk that can be taken up. -/
lemma exec_buildActiveStore (hroot : d .root = profile .root) (hnone : d .store = none)
    (hbuilt : StoreBuilt env profile legacy tree) :
    ∃ e, (buildActiveStore env legacy).exec ⟨d, []⟩ = (.ok (), ⟨e, []⟩) ∧ e .store = tree
      ∧ ∀ other, other ≠ .store → other ≠ .storeStaging → e other = d other := by
  obtain ⟨v, v', hclear, hfill, htree⟩ := hbuilt
  obtain ⟨-, u, hclear', hu⟩ := (clearStoreStaging_triple hroot.symm).ok rfl hclear
  have hcleared := ((clearStoreStaging_triple (Eq.refl (d .root))).ok rfl hclear').1
  obtain ⟨u', hfill', hu'⟩ := (fillStoreStaging_builds legacy).replays v u hu () v' hfill
  have hfilled := (((fillStoreStaging_builds legacy).elsewhere d).result hcleared hfill').1
  rw [calm_of_retraces hu'] at hfill'
  have hstore : IsStore controlNames (u'.disk .storeStaging) := hu'.tree ▸ hu'.holds
  obtain ⟨entries, hnode, -⟩ := id hstore
  have hmove := move_area (show ProfileArea.storeStaging ≠ .store by decide) hnode
    ((hfilled .store (by decide)).trans hnone)
  obtain ⟨e, he⟩ : ∃ e : ProfileDisk, e = Function.update
    (Function.update u'.disk .storeStaging none) .store (some (.dir 0o700 entries)) := ⟨_, rfl⟩
  rw [← he] at hmove
  have hplaced : e .store = u'.disk .storeStaging := by
    rw [he, Function.update_self, hnode]
  have hmode : e.change (FileNode.setMode 0o700) ⟨.store, []⟩ = .ok e :=
    change_setMode_isDirectory (hplaced ▸ hstore)
  refine ⟨e, ?_, hplaced.trans (hu'.tree.symm.trans htree), fun other h h' => ?_⟩
  · rw [buildActiveStore, exec_bind_ok hclear']
    refine exec_onError ?_
    rw [exec_bind_ok hfill', exec_bind_ok (exec_rename hmove)]
    exact exec_chmod hmode
  · rw [he, Function.update_of_ne h, Function.update_of_ne h']
    exact hfilled other h'

lemma exec_buildLegacyArchive {tree : FileNode FileContent} {archivedAt : DateTime}
    (hroot : d .root = profile .root) (hnone : d .archive = none)
    (hbuilt : ArchiveBuilt env profile archivedAt (some tree)) :
    ∃ e, (buildLegacyArchive env archivedAt).exec ⟨d, []⟩ = (.ok (), ⟨e, []⟩)
      ∧ e .archive = some tree
      ∧ ∀ other, other ≠ .archive → other ≠ .archiveStaging → e other = d other := by
  obtain ⟨v, v', hclear, hfill, htree⟩ := hbuilt
  obtain ⟨-, u, hclear', hu⟩ := (clearArchiveStaging_triple hroot.symm).ok rfl hclear
  have hcleared := ((clearArchiveStaging_triple (Eq.refl (d .root))).ok rfl hclear').1
  obtain ⟨u', hfill', hu'⟩ := (fillArchiveStaging_builds archivedAt).replays v u hu () v' hfill
  have hfilled := (((fillArchiveStaging_builds archivedAt).elsewhere d).result hcleared hfill').1
  rw [calm_of_retraces hu'] at hfill'
  have hmove := move_area (show ProfileArea.archiveStaging ≠ .archive by decide)
    (hu'.tree.symm.trans htree) ((hfilled .archive (by decide)).trans hnone)
  obtain ⟨e, he⟩ : ∃ e : ProfileDisk, e = Function.update
    (Function.update u'.disk .archiveStaging none) .archive (some tree) := ⟨_, rfl⟩
  rw [← he] at hmove
  refine ⟨e, ?_, by rw [he, Function.update_self], fun other h h' => ?_⟩
  · rw [buildLegacyArchive, exec_bind_ok (exec_pathExists_area d .archive), hnone]
    refine (exec_bind_ok hclear').trans (exec_onError ?_)
    rw [exec_bind_ok hfill']
    exact exec_rename hmove
  · rw [he, Function.update_of_ne h, Function.update_of_ne h']
    exact hfilled other h'

/-- An archive that is there is left alone. -/
lemma exec_buildLegacyArchive_there (archivedAt : DateTime) (hthere : (d .archive).isSome = true) :
    (buildLegacyArchive env archivedAt).exec ⟨d, []⟩ = (.ok (), ⟨d, []⟩) := by
  rw [buildLegacyArchive, exec_bind_ok (exec_pathExists_area d .archive), hthere]
  rfl

lemma exec_writeMetadata (hd : Resumable env profile d)
    (hroot : FileNode.IsDirectory mode [] (profile .root)) (hnone : d .metadata = none)
    (createdAt : DateTime) (legacy : Bool) :
    (writePrivateJson env ⟨.metadata, []⟩ (metadataJson createdAt legacy)).exec ⟨d, []⟩
      = (.ok (), ⟨withMetadata env d createdAt legacy, []⟩) := by
  have hmkdir : (mkdir ⟨.root, []⟩ 0o700).exec ⟨d, []⟩ = (.ok (), ⟨d, []⟩) :=
    exec_mkdir (makeDirectories_of_isDirectory (hd.root ▸ hroot))
  refine (exec_bind_ok hmkdir).trans ?_
  refine (exec_bind_ok (exec_writeFile (change_put_temporary hd _))).trans ?_
  refine (exec_bind_ok (exec_rename (move_metadata hnone createdAt legacy))).trans ?_
  exact exec_chmod (change_setMode_metadata d createdAt legacy)

lemma StoreBuilt.unique {tree' : Option (FileNode FileContent)}
    (h : StoreBuilt env profile legacy tree) (h' : StoreBuilt env profile legacy tree') :
    tree = tree' := by
  obtain ⟨u, v, hclear, hfill, rfl⟩ := h
  obtain ⟨u', v', hclear', hfill', rfl⟩ := h'
  rw [hclear] at hclear'
  cases hclear'
  rw [hfill] at hfill'
  cases hfill'
  rfl

lemma exec_requireDirectory (h : FileNode.IsDirectory mode names (d area)) (label : String) :
    (requireDirectory ⟨area, []⟩ label).exec ⟨d, []⟩ = (.ok (), ⟨d, []⟩) := by
  obtain ⟨entries, htree, -⟩ := h
  have hread : (lstat ⟨area, []⟩).exec ⟨d, []⟩ = (.ok (.dir mode entries), ⟨d, []⟩) := by
    refine exec_readStep ?_
    simp only [ProfileDisk.look, htree, FileNode.lookAt]
  have hattempt : (attempt (lstat ⟨area, []⟩)).exec ⟨d, []⟩
      = (.ok (.ok (.dir mode entries)), ⟨d, []⟩) := by
    rw [exec_attempt, hread]
  rw [requireDirectory, exec_bind_ok hattempt]
  rfl

/-- A Store in which the control files are can be taken up. -/
lemma exec_validateRecoverableActiveStore (h : IsStore controlNames (d .store)) :
    validateRecoverableActiveStore.exec ⟨d, []⟩ = (.ok (), ⟨d, []⟩) := by
  obtain ⟨entries, hstore, htaken⟩ := h
  have hlook : ∀ name ∈ controlNames, (pathExists ⟨.store, [name]⟩).exec ⟨d, []⟩
      = (.ok true, ⟨d, []⟩) := by
    intro name hname
    obtain ⟨node, hnode⟩ := Option.isSome_iff_exists.mp (htaken name hname)
    have hfound : found (d.look ⟨.store, [name]⟩) = .ok (some node) := by
      simp only [ProfileDisk.look, hstore, FileNode.lookAt, FileNode.follow, hnode]
      rfl
    rw [pathExists, lstat, exec_bind_ok (exec_ifFound hfound)]
    rfl
  have hfiles : ∀ names : List String, (∀ name ∈ names, name ∈ controlNames) →
      (requireControlFiles names).exec ⟨d, []⟩ = (.ok (), ⟨d, []⟩) := by
    intro names
    induction names with
    | nil => exact fun _ => rfl
    | cons name rest ih =>
      intro hnames
      rw [requireControlFiles, exec_bind_ok (hlook name (hnames name (by simp)))]
      exact ih fun other hother => hnames other (by simp [hother])
  rw [validateRecoverableActiveStore, exec_bind_ok (exec_requireDirectory ⟨entries, hstore, htaken⟩ _)]
  exact hfiles controlNames fun _ => id

/-- The Store after an uninterrupted run is the one that is built from the profile alone. -/
lemma exec_ensureActiveStore (hd : Resumable env profile d) (hlegacy : HasLegacyData profile legacy)
    (hbuilt : StoreBuilt env profile legacy tree) :
    ∃ e, (ensureActiveStore env legacy).exec ⟨d, []⟩ = (.ok (), ⟨e, []⟩) ∧ e .store = tree
      ∧ ∀ other, other ≠ .store → other ≠ .storeStaging → e other = d other := by
  rcases hd.store with hnone | ⟨legacy', hlegacy', hbuilt', hstore⟩
  · obtain ⟨e, hrun, he⟩ := exec_buildActiveStore hd.root hnone hbuilt
    refine ⟨e, ?_, he⟩
    rw [ensureActiveStore, exec_bind_ok (exec_pathExists_area d .store), hnone]
    exact hrun
  · obtain rfl := hlegacy.unique hlegacy'
    refine ⟨d, ?_, hbuilt'.unique hbuilt, fun _ _ _ => rfl⟩
    obtain ⟨entries, htree, -⟩ := id hstore
    rw [ensureActiveStore, exec_bind_ok (exec_pathExists_area d .store), htree]
    exact exec_validateRecoverableActiveStore hstore

lemma exec_readMetadata_none (hnone : d .metadata = none) :
    (readMetadata env ⟨.metadata, []⟩).exec ⟨d, []⟩ = (.ok none, ⟨d, []⟩) := by
  rw [readMetadata, exec_bind_ok (exec_pathExists_area d .metadata), hnone]
  rfl

/-- **An uninterrupted run** on a disk that can be taken up returns and puts everything in its
place: the Store that is built from the profile alone, the archive that is there or one of this
run, and the metadata of this run. -/
theorem exec_migrate {storeTree : Option (FileNode FileContent)}
    {archiveTree : FileNode FileContent} {clock : MigrationClock}
    (hroot : FileNode.IsDirectory mode [] (profile .root)) (hd : Resumable env profile d)
    (hnone : d .metadata = none) (hlegacy : HasLegacyData profile legacy)
    (hstore : StoreBuilt env profile legacy storeTree) (harchive : d .archive = none
      → ArchiveBuilt env profile clock.archivedAt (some archiveTree)) :
    ∃ e, (migrateTetiProfileToV2 env clock).exec ⟨d, []⟩
        = (.ok (metadataJson clock.createdAt legacy), ⟨e, []⟩)
      ∧ e .root = profile .root ∧ e .store = storeTree
      ∧ e .archive = (d .archive).or (some archiveTree)
      ∧ e .metadata = metadataFile env clock.createdAt legacy := by
  obtain ⟨_, hhas⟩ := hlegacy
  have hlegacyRun := hasLegacyProfileData_retraces hhas hd.root.symm
  obtain ⟨e, hensure, hestore, hesame⟩ := exec_ensureActiveStore hd ⟨_, hhas⟩ hstore
  have he := ((ensureActiveStore_triple hd ⟨_, hhas⟩).ok rfl hensure).1
  have hearchive : e .archive = d .archive := hesame _ (by decide) (by decide)
  obtain ⟨f, hbuild, hfarchive, hfsame⟩ : ∃ f,
      (buildLegacyArchive env clock.archivedAt).exec ⟨e, []⟩ = (.ok (), ⟨f, []⟩)
      ∧ f .archive = (d .archive).or (some archiveTree)
      ∧ ∀ other, other ≠ .archive → other ≠ .archiveStaging → f other = e other := by
    cases hthere : d .archive with
    | none =>
      exact exec_buildLegacyArchive he.root (hearchive.trans hthere) (harchive hthere)
    | some node =>
      refine ⟨e, exec_buildLegacyArchive_there _ ?_, ?_, fun _ _ _ => rfl⟩
      · rw [hearchive, hthere]
        rfl
      · rw [hearchive, hthere]
        rfl
  have hf := ((buildLegacyArchive_triple he clock.archivedAt).ok rfl hbuild).resumable
  have hfnone : f .metadata = none :=
    (hfsame _ (by decide) (by decide)).trans ((hesame _ (by decide) (by decide)).trans hnone)
  have hwrite := exec_writeMetadata hf hroot hfnone clock.createdAt legacy
  refine ⟨withMetadata env f clock.createdAt legacy, ?_, hf.root,
    (hfsame _ (by decide) (by decide)).trans hestore, hfarchive, rfl⟩
  rw [migrateTetiProfileToV2, exec_bind_ok (exec_readMetadata_none hnone)]
  refine (exec_bind_ok hlegacyRun).trans ((exec_bind_ok hensure).trans ?_)
  exact (exec_bind_ok hbuild).trans (exec_bind_ok hwrite)

end TetiBot

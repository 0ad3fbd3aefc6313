import TetiBot.Desktop.ProfileMigration
import TetiBot.Desktop.Staging

/-
What the migration builds in its staging areas.

* The Store and the archive are each built by programs that write to their staging area alone
  and that repeat what they returned (`fillStoreStaging_builds`, `fillArchiveStaging_builds`).
* The Store that is built is a private directory in which the control files are taken.
-/

namespace TetiBot

open Library Library.Program Migration

variable {env : MigrationEnv} {α : Type} {area : ProfileArea}
  {P : Option (FileNode FileContent) → Prop}

/-! ### What is built in a staging area -/

namespace Builds

variable {path : ProfilePath}

section

variable (h : path.area = .root ∨ path.area = area)
include h

lemma lstat : Builds area P (Migration.lstat path) fun _ => P :=
  readStep fun d d' hroot htree => by
    rcases h with h | h <;> simp only [ProfileDisk.look, h, hroot, htree]

lemma readdir : Builds area P (Migration.readdir path) fun _ => P :=
  readStep fun d d' hroot htree => by
    rcases h with h | h <;> simp only [ProfileDisk.namesAt, ProfileDisk.look, h, hroot, htree]

lemma ifFound_lstat : Builds area P (Migration.ifFound (Migration.lstat path)) fun _ => P :=
  ifFound fun d d' hroot htree => by
    rcases h with h | h <;> simp only [ProfileDisk.look, h, hroot, htree]

end

lemma ifFound_readFile (h : path.area = .root) :
    Builds area P (Migration.ifFound (Migration.readFile path)) fun _ => P :=
  ifFound fun d d' hroot htree => by
    simp only [ProfileDisk.fileAt, ProfileDisk.look, h, hroot]

lemma pathExists (h : path.area = .root) : Builds area P (TetiBot.pathExists path) fun _ => P :=
  (ifFound_lstat (.inl h)).bind fun _ => .pure fun _ => id

lemma orRefuse {r : Except String α} : Builds area P (TetiBot.orRefuse r) fun _ => P := by
  cases r with
  | error message => exact .raise
  | ok a => exact .pure fun _ => id

end Builds

lemma ProfilePath.dirname_area {area : ProfileArea} (name : String) (rest : List String) :
    (ProfilePath.dirname ⟨area, name :: rest⟩).area = area := rfl

/-- What is copied below the top of an area leaves what lasts. -/
lemma copyNode_builds (hP : Lasting P) (hroot : area ≠ .root) (directoryMode fileMode : Nat)
    (node : FileNode FileContent) :
    ∀ (source : ProfilePath) (name : String) (rest : List String), source.area = .root →
      Builds area P (copyNode source ⟨area, name :: rest⟩ directoryMode fileMode node)
        fun _ => P := by
  have key : ∀ entries : List (String × FileNode FileContent),
      (∀ entry ∈ entries, ∀ (source : ProfilePath) (name : String) (rest : List String),
        source.area = .root →
        Builds area P (copyNode source ⟨area, name :: rest⟩ directoryMode fileMode entry.2)
          fun _ => P) →
      ∀ (source : ProfilePath) (name : String) (rest : List String), source.area = .root →
        Builds area P (copyNodes source ⟨area, name :: rest⟩ directoryMode fileMode entries)
          fun _ => P := by
    intro entries
    induction entries with
    | nil =>
      intro _ source name rest _
      exact .pure fun _ => id
    | cons entry entries ih =>
      intro hall source name rest hsource
      simp only [copyNodes]
      have hrest := ih (fun e he => hall e (by simp [he])) source name rest hsource
      have hchild : (source.join entry.1).area = .root := hsource
      refine (Builds.ifFound_lstat (.inl hchild)).bind fun found => .ite (fun _ => ?_) fun _ => hrest
      exact (hall entry (by simp) _ name (rest ++ [entry.1]) hchild).bind fun _ => hrest
  induction node using FileNode.ind with
  | hfile mode content =>
    intro source name rest hsource
    simp only [copyNode]
    refine (Builds.mkdir hP hroot (ProfilePath.dirname_area name rest)).bind fun _ => ?_
    refine (Builds.copyFile hP hroot hsource rfl).bind fun _ => ?_
    exact Builds.chmod_below hP hroot rfl
  | hlink target =>
    intro source name rest _
    exact .pure fun _ => id
  | hspecial =>
    intro source name rest _
    exact .pure fun _ => id
  | hdir mode entries ih =>
    intro source name rest hsource
    simp only [copyNode]
    refine (Builds.mkdir hP hroot rfl).bind fun _ => ?_
    refine (Builds.readdir (.inl hsource)).bind fun _ => ?_
    refine (key entries ih source name rest hsource).bind fun _ => ?_
    exact Builds.chmod_below hP hroot rfl

lemma copyTree_builds (hP : Lasting P) (hroot : area ≠ .root) {directoryMode fileMode : Nat}
    {source : ProfilePath} (hsource : source.area = .root) (name : String) (rest : List String) :
    Builds area P (copyTree source ⟨area, name :: rest⟩ directoryMode fileMode) fun _ => P := by
  refine (Builds.ifFound_lstat (.inl hsource)).bind fun found => ?_
  cases found with
  | none => exact .pure fun _ => id
  | some node => exact copyNode_builds hP hroot directoryMode fileMode node source name rest hsource

lemma copyOptionalFile_builds (hP : Lasting P) (hroot : area ≠ .root)
    {source : ProfilePath} (hsource : source.area = .root) (name : String) (rest : List String) :
    Builds area P (copyOptionalFile source ⟨area, name :: rest⟩) fun _ => P := by
  refine (Builds.pathExists hsource).bind fun found => ?_
  refine Builds.ite (fun _ => .pure fun _ => id) fun _ => ?_
  refine (Builds.mkdir hP hroot (ProfilePath.dirname_area name rest)).bind fun _ => ?_
  refine (Builds.copyFile hP hroot hsource rfl).bind fun _ => ?_
  exact Builds.chmod_below hP hroot rfl

lemma makeNodeReadOnly_builds (hroot : area ≠ .root) (node : FileNode FileContent) :
    ∀ path : ProfilePath, path.area = area →
      Builds area (fun _ => True) (makeNodeReadOnly path node) fun _ _ => True := by
  have key : ∀ entries : List (String × FileNode FileContent),
      (∀ entry ∈ entries, ∀ path : ProfilePath, path.area = area →
        Builds area (fun _ => True) (makeNodeReadOnly path entry.2) fun _ _ => True) →
      ∀ path : ProfilePath, path.area = area →
        Builds area (fun _ => True) (makeNodesReadOnly path entries) fun _ _ => True := by
    intro entries
    induction entries with
    | nil =>
      intro _ path _
      exact .pure fun _ => id
    | cons entry entries ih =>
      intro hall path hpath
      have hchild : (path.join entry.1).area = area := hpath
      simp only [makeNodesReadOnly]
      refine (Builds.lstat (.inr hchild)).bind fun _ => ?_
      refine (hall entry (by simp) _ hchild).bind fun _ => ?_
      exact ih (fun e he => hall e (by simp [he])) path hpath
  induction node using FileNode.ind with
  | hfile mode content =>
    intro path hpath
    exact Builds.chmod hroot hpath fun _ _ _ _ => trivial
  | hlink target =>
    intro path _
    exact .pure fun _ => id
  | hspecial =>
    intro path _
    exact .pure fun _ => id
  | hdir mode entries ih =>
    intro path hpath
    simp only [makeNodeReadOnly]
    refine (Builds.readdir (.inr hpath)).bind fun _ => ?_
    refine (key entries ih path hpath).bind fun _ => ?_
    exact Builds.chmod hroot hpath fun _ _ _ _ => trivial

lemma ProfilePath.temporary_top (area : ProfileArea) (name : String) :
    ProfilePath.temporary ⟨area, [name]⟩ = ⟨area, [name ++ ".tmp"]⟩ := by
  simp [ProfilePath.temporary]

/-- A private JSON file at the top of an area: its temporary name is free again afterwards. -/
lemma writePrivateJson_builds {R : Option (FileNode FileContent) → Prop} (hP : Lasting P)
    (hR : Lasting R) (hroot : area ≠ .root) (name : String) (value : Json)
    (hmoved : ∀ node moved taken next, P node →
      FileNode.update FileNode.remove [name ++ ".tmp"] node = .ok taken →
      FileNode.update (FileNode.place moved) [name] taken = .ok next → R next) :
    Builds area P (writePrivateJson env ⟨area, [name]⟩ value) fun _ => R := by
  rw [writePrivateJson, ProfilePath.temporary_top]
  refine (Builds.mkdir hP hroot rfl).bind fun _ => ?_
  refine (Builds.writeFile hP hroot rfl).bind fun _ => ?_
  refine (Builds.rename hroot rfl rfl hmoved).bind fun _ => ?_
  exact Builds.chmod_below hR hroot rfl

/-- The names that are taken at the top of the Store that is being built. -/
abbrev IsStore (names : List String) : Option (FileNode FileContent) → Prop :=
  FileNode.IsDirectory 0o700 names

lemma isStore_lasting (names : List String) : Lasting (IsStore names) :=
  Lasting.isDirectory 0o700 names

/-- A control file is taken once it is written, and no other is lost. -/
lemma writePrivateJson_isStore (hroot : area ≠ .root) (names : List String) (name : String)
    (value : Json) (hname : name ++ ".tmp" ∉ names) :
    Builds area (IsStore names) (writePrivateJson env ⟨area, [name]⟩ value)
      fun _ => IsStore (name :: names) := by
  refine writePrivateJson_builds (isStore_lasting _) (isStore_lasting _) hroot name value ?_
  intro node moved taken next hnode htaken hnext
  exact (hnode.update htaken (.inl hname)).update_last FileNode.place_isSome hnext

/-- What a store of the old format writes goes through a temporary file beside it. -/
lemma save_builds (hroot : area ≠ .root) (mode fileMode : Nat) (content : FileContent)
    (name : String) (rest : List String) :
    Builds area (IsStore [])
      (do
        Migration.mkdir (ProfilePath.dirname ⟨area, name :: rest⟩) mode
        Migration.writeFile (ProfilePath.temporary ⟨area, name :: rest⟩) content fileMode
        Migration.rename (ProfilePath.temporary ⟨area, name :: rest⟩) ⟨area, name :: rest⟩)
      fun _ => IsStore [] := by
  obtain ⟨first, others, htemporary⟩ : ∃ first others,
      ProfilePath.temporary ⟨area, name :: rest⟩ = ⟨area, first :: others⟩ := by
    cases rest with
    | nil => exact ⟨_, _, ProfilePath.temporary_top area name⟩
    | cons next rest =>
      exact ⟨name, _, by simp [ProfilePath.temporary]; rfl⟩
  rw [htemporary]
  refine (Builds.mkdir (isStore_lasting _) hroot (ProfilePath.dirname_area name rest)).bind
    fun _ => ?_
  refine (Builds.writeFile (isStore_lasting _) hroot rfl).bind fun _ => ?_
  refine Builds.rename hroot rfl rfl fun node moved taken next hnode htaken hnext => ?_
  exact (hnode.update htaken (.inl (by simp))).update hnext (.inl (by simp))

lemma saveAccount_builds (account : Json) :
    Builds .storeStaging (IsStore [])
      (FileTetiAccountStorage.save env ⟨.storeStaging, ["account", "account.json"]⟩ account)
      fun _ => IsStore [] :=
  Builds.orRefuse.bind fun _ => save_builds (by decide) _ _ _ _ _

lemma saveAllConnections_builds (connections : List Json) :
    Builds .storeStaging (IsStore [])
      (FileTetiConnectionStorage.saveAll env ⟨.storeStaging, ["connections.json"]⟩ connections)
      fun _ => IsStore [] :=
  Builds.orRefuse.bind fun _ => save_builds (by decide) _ _ _ _ _

lemma loadAccount_builds {path : ProfilePath} (h : path.area = .root) :
    Builds area P (FileTetiAccountStorage.load env path) fun _ => P := by
  refine (Builds.ifFound_readFile h).bind fun found => ?_
  cases found with
  | none => exact .pure fun _ => id
  | some raw =>
    exact Builds.orRefuse.bind fun _ => Builds.orRefuse.bind fun _ => .pure fun _ => id

lemma loadAllConnections_builds {path : ProfilePath} (h : path.area = .root) :
    Builds area P (FileTetiConnectionStorage.loadAll env path) fun _ => P := by
  refine (Builds.ifFound_readFile h).bind fun found => ?_
  cases found with
  | none => exact .pure fun _ => id
  | some raw => exact Builds.orRefuse

lemma migrateIdentityFrom_builds (candidates : List ProfilePath)
    (h : ∀ candidate ∈ candidates, candidate.area = .root) :
    Builds .storeStaging (IsStore []) (migrateIdentityFrom env candidates) fun _ => IsStore [] := by
  induction candidates with
  | nil => exact .pure fun _ => id
  | cons candidate rest ih =>
    have hrest := ih fun c hc => h c (by simp [hc])
    have hcandidate := h candidate (by simp)
    refine (Builds.pathExists hcandidate).bind fun found => .ite (fun _ => hrest) fun _ => ?_
    refine (loadAccount_builds hcandidate).bind fun account => ?_
    cases account with
    | none => exact hrest
    | some account => exact saveAccount_builds account

lemma copyProfileData_builds (migratedFromLegacy : Bool) :
    Builds .storeStaging (IsStore []) (copyProfileData env migratedFromLegacy)
      fun _ => IsStore [] := by
  refine .ite (fun _ => ?_) fun _ => ?_
  · refine (migrateIdentityFrom_builds _ (by simp)).bind fun _ => ?_
    refine Builds.bind (Q := fun _ => IsStore []) ?_ fun _ => ?_
    · refine (Builds.pathExists rfl).bind fun found => .ite (fun _ => ?_) fun _ => ?_
      · exact saveAllConnections_builds []
      · exact (loadAllConnections_builds rfl).bind fun _ => saveAllConnections_builds _
    · refine (copyOptionalFile_builds (isStore_lasting _) (by decide) rfl _ _).bind fun _ => ?_
      refine (copyOptionalFile_builds (isStore_lasting _) (by decide) rfl _ _).bind fun _ => ?_
      exact copyTree_builds (isStore_lasting _) (by decide) rfl _ _
  · refine (writePrivateJson_isStore (by decide) [] _ _ (by simp)).weaken (fun _ => id)
      fun _ node hnode => hnode.mono (by simp)

/-- The names of the control files. -/
def controlNames : List String :=
  ["messages.json", "tasks.json", "peer-protocol-capabilities.json"]

lemma fillStoreStaging_builds (migratedFromLegacy : Bool) :
    Builds .storeStaging (IsStore []) (fillStoreStaging env migratedFromLegacy)
      fun _ => IsStore controlNames := by
  refine (copyProfileData_builds migratedFromLegacy).bind fun _ => ?_
  simp only [controlFiles, writeControlFiles]
  refine (writePrivateJson_isStore (by decide) _ _ _ (by simp)).bind fun _ => ?_
  refine (writePrivateJson_isStore (by decide) _ _ _ (by decide)).bind fun _ => ?_
  refine (writePrivateJson_isStore (by decide) _ _ _ (by decide)).bind fun _ => ?_
  exact .pure fun node hnode => hnode.mono (by decide)

lemma fillArchiveStaging_builds (archivedAt : DateTime) :
    Builds .archiveStaging (fun _ => True) (fillArchiveStaging env archivedAt)
      fun _ _ => True := by
  have hcopied : ∀ names : List String,
      Builds .archiveStaging (fun _ => True) (copyArchivedEntries names) fun _ _ => True := by
    intro names
    induction names with
    | nil => exact .pure fun _ => id
    | cons name rest ih =>
      exact (copyTree_builds Lasting.trivial (by decide) rfl name []).bind fun _ => ih
  refine (hcopied archivedEntries).bind fun _ => ?_
  refine (writePrivateJson_builds Lasting.trivial Lasting.trivial (by decide) _ _
    fun _ _ _ _ _ _ _ => trivial).bind fun _ => ?_
  have hread : Builds .archiveStaging (fun _ => True) (lstat ⟨.archiveStaging, []⟩)
      fun _ _ => True := Builds.lstat (.inr rfl)
  exact hread.bind fun node => makeNodeReadOnly_builds (by decide) node _ rfl

end TetiBot

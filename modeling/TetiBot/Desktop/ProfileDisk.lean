import TetiBot.Library.FileTree
import TetiBot.Library.Replay

/-
The disk of a profile, and programs whose file-system steps can be interrupted.

* `ProfileDisk`: what lies in the profile root, area by area: the files of the profile itself
  and the six names that a migration writes to.
* `Fault`: a step that fails or during which the process ends, and how much of it was done by
  then; a run takes one fault, or none, for each step it makes.
* `lstat`, `readFile`, `readdir`, `mkdir`, `writeFile`, `copyFile`, `chmod`, `rename`, `rm`: the
  steps.
* `Elsewhere area d`: the disk is `d` but for one area; every step that writes to this area
  keeps it, interrupted or not.
* `Retraces area P`: a run in which nothing goes wrong follows another one, as far as the profile
  itself and one area are concerned; the steps that return keep it (`Replays`).
-/

namespace TetiBot

open Library Library.Program

/-! ### The disk -/

/-- The content of a file, in bytes. -/
abbrev FileContent := List UInt8

/-- The parts of the profile root: what is not written by a migration, and the names
`.store-v2.migrating`, `store-v2`, `.legacy-0.1.migrating`, `legacy-0.1`, `profile.json` and
`profile.json.tmp`. -/
inductive ProfileArea where
  | root
  | storeStaging
  | store
  | archiveStaging
  | archive
  | metadata
  | metadataTemporary
deriving DecidableEq

abbrev ProfileDisk := ProfileArea → Option (FileNode FileContent)

/-- A path: the names below an area, or below the profile root. -/
structure ProfilePath where
  area : ProfileArea
  names : List String
deriving DecidableEq

namespace ProfilePath

/-- `join(path, name)`. -/
def join (path : ProfilePath) (name : String) : ProfilePath :=
  { path with names := path.names ++ [name] }

/-- `dirname(path)`: the areas lie in the profile root. -/
def dirname (path : ProfilePath) : ProfilePath :=
  if path.names = [] then ⟨.root, []⟩ else { path with names := path.names.dropLast }

/-- `path` with `.tmp` after it. -/
def temporary (path : ProfilePath) : ProfilePath :=
  if path = ⟨.metadata, []⟩ then ⟨.metadataTemporary, []⟩
  else { path with names := path.names.dropLast ++ [path.names.getLastD "" ++ ".tmp"] }

end ProfilePath

namespace ProfileDisk

variable (d : ProfileDisk)

/-- What lies under a path, a link as the link. -/
def look (path : ProfilePath) : Except ErrorCode (FileNode FileContent) :=
  FileNode.lookAt (d path.area) path.names

/-- The mode and the content of the file under a path, through a link. -/
def fileAt (path : ProfilePath) : Except ErrorCode (Nat × FileContent) := do
  match (← d.look path).follow with
  | none => .error .notFound
  | some (.file mode content) => .ok (mode, content)
  | some _ => .error .other

/-- The names in the directory under a path. -/
def namesAt (path : ProfilePath) : Except ErrorCode (List String) := do
  match (← d.look path).follow with
  | none => .error .notFound
  | some (.dir _ entries) => .ok (entries.map Prod.fst)
  | some _ => .error .other

/-- Replace what a path stands for. -/
def change (f : Option (FileNode FileContent) → Except ErrorCode (Option (FileNode FileContent)))
    (path : ProfilePath) : Except ErrorCode ProfileDisk :=
  return Function.update d path.area (← FileNode.update f path.names (d path.area))

def makeDirectories (mode : Nat) (path : ProfilePath) : Except ErrorCode ProfileDisk :=
  return Function.update d path.area
    (some (← FileNode.makeDirectories mode path.names (d path.area)))

/-- Move what lies under a path, the directory or the file itself. -/
def move (source target : ProfilePath) : Except ErrorCode ProfileDisk := do
  let node ← d.look source
  let d ← d.change FileNode.remove source
  d.change (FileNode.place node) target

/-- The disk after a change that may not be possible. -/
def orKept : Except ErrorCode ProfileDisk → ProfileDisk
  | .ok changed => changed
  | .error _ => d

end ProfileDisk

/-! ### Steps that can be interrupted -/

/-- An interruption of a step: whether the process ends with it or the step fails, and what was
done by then.  A step that fails so never reports that nothing is there. -/
structure Fault where
  dies : Bool
  /-- A change of a mode or of a name had taken effect. -/
  done : Bool
  /-- So many directories of a path had been created. -/
  made : Nat
  /-- What a write had left in its file, if it had created it. -/
  written : Option FileContent
  /-- What the removal of an area had left there. -/
  residue : Option (FileNode FileContent)

/-- What a run ends with if it does not return: the process is gone, a step failed, or the
program refused to go on. -/
inductive MigrationError where
  | died
  | io (code : ErrorCode)
  | refused (message : String)

def Fault.error (fault : Fault) : MigrationError := if fault.dies then .died else .io .other

/-- The disk, and the faults of the steps to come (none for steps beyond the list). -/
structure MigrationWorld where
  disk : ProfileDisk
  faults : List (Option Fault)

abbrev Migration (α : Type) := Program MigrationError MigrationWorld α

namespace Migration

variable {α : Type}

/-- A file-system step: `op` when nothing interferes, `torn` when it is interrupted. -/
def fileStep (op : ProfileDisk → Except ErrorCode (α × ProfileDisk))
    (torn : Fault → ProfileDisk → ProfileDisk) : Migration α :=
  ExceptT.mk fun w =>
    match w.faults.head?.join with
    | none =>
      match op w.disk with
      | .ok (a, d) => ((.ok a : Except MigrationError α), ⟨d, w.faults.tail⟩)
      | .error code => (.error (.io code), ⟨w.disk, w.faults.tail⟩)
    | some fault => (.error fault.error, ⟨torn fault w.disk, w.faults.tail⟩)

/-- A step that only reads. -/
def readStep (op : ProfileDisk → Except ErrorCode α) : Migration α :=
  fileStep (fun d => (op d).map (·, d)) fun _ d => d

/-- A step that only writes. -/
def writeStep (op : ProfileDisk → Except ErrorCode ProfileDisk)
    (torn : Fault → ProfileDisk → ProfileDisk) : Migration Unit :=
  fileStep (fun d => (op d).map ((), ·)) torn

variable (path : ProfilePath)

def lstat : Migration (FileNode FileContent) := readStep (·.look path)

def readFile : Migration FileContent :=
  readStep fun d => (d.fileAt path).map Prod.snd

def readdir : Migration (List String) := readStep (·.namesAt path)

/-- `mkdir(path, { recursive: true, mode })`; the directories are created one by one. -/
def mkdir (mode : Nat) : Migration Unit :=
  writeStep (·.makeDirectories mode path) fun fault d =>
    if fault.made = 0 then d
    else d.orKept (d.makeDirectories mode { path with names := path.names.take (fault.made - 1) })

/-- An interrupted write leaves its file as it was, or with some content. -/
def tornWrite (mode : Nat) (fault : Fault) (d : ProfileDisk) : ProfileDisk :=
  match fault.written with
  | none => d
  | some part => d.orKept (d.change (FileNode.put mode part) path)

def writeFile (content : FileContent) (mode : Nat) : Migration Unit :=
  writeStep (·.change (FileNode.put mode content) path) (tornWrite path mode)

/-- `copyFile(source, target)`: a file that is created has the mode of the source. -/
def copyFile (source target : ProfilePath) : Migration Unit :=
  writeStep
    (fun d => do
      let (mode, content) ← d.fileAt source
      d.change (FileNode.put mode content) target)
    fun fault d =>
      match d.fileAt source with
      | .ok (mode, _) => tornWrite target mode fault d
      | .error _ => d

def chmod (mode : Nat) : Migration Unit :=
  writeStep (·.change (FileNode.setMode mode) path) fun fault d =>
    if fault.done then d.orKept (d.change (FileNode.setMode mode) path) else d

def rename (source target : ProfilePath) : Migration Unit :=
  writeStep (·.move source target) fun fault d =>
    if fault.done then d.orKept (d.move source target) else d

/-- `rm(path, { recursive: true, force: true })` of a whole area. -/
def rm (area : ProfileArea) : Migration Unit :=
  writeStep (fun d => .ok (Function.update d area none)) fun fault d =>
    Function.update d area fault.residue

/-- What a read finds, if that there is nothing is an answer. -/
def found : Except ErrorCode α → Except ErrorCode (Option α)
  | .ok a => .ok (some a)
  | .error .notFound => .ok none
  | .error .other => .error .other

/-- `try { return await m } catch`, where only `ENOENT` is an answer. -/
def ifFound (m : Migration α) : Migration (Option α) := do
  match ← attempt m with
  | .ok a => pure (some a)
  | .error (.io .notFound) => pure none
  | .error error => raise error

/-- `try { m } catch (error) { cleanup; throw error }`; no handler runs once the process is
gone. -/
def onError (m : Migration α) (cleanup : Migration Unit) : Migration α := do
  match ← attempt m with
  | .ok a => pure a
  | .error .died => raise .died
  | .error error => do
      cleanup
      raise error

/-- `m.catch(() => undefined)`. -/
def ignoringErrors (m : Migration Unit) : Migration Unit := do
  match ← attempt m with
  | .error .died => raise .died
  | _ => pure ()

/-! ### What a step can do -/

variable {op : ProfileDisk → Except ErrorCode (α × ProfileDisk)}
  {torn : Fault → ProfileDisk → ProfileDisk}

/-- A step that returned was not interrupted. -/
lemma exec_fileStep_eq_ok {w v : MigrationWorld} {a : α}
    (h : (fileStep op torn).exec w = (.ok a, v)) : op w.disk = .ok (a, v.disk) := by
  simp only [fileStep, exec, ExceptT.run_mk, StateT.run] at h
  split at h
  · split at h
    · rename_i hop
      cases h
      exact hop
    · cases h
  · cases h

lemma exec_fileStep {d d' : ProfileDisk} {a : α} (h : op d = .ok (a, d')) :
    (fileStep op torn).exec ⟨d, []⟩ = (.ok a, ⟨d', []⟩) := by
  simp only [fileStep, exec, ExceptT.run_mk, StateT.run, List.head?_nil, Option.join_none, h,
    List.tail_nil]

lemma exec_fileStep_error {d : ProfileDisk} {code : ErrorCode} (h : op d = .error code) :
    (fileStep op torn).exec ⟨d, []⟩ = (.error (.io code), ⟨d, []⟩) := by
  simp only [fileStep, exec, ExceptT.run_mk, StateT.run, List.head?_nil, Option.join_none, h,
    List.tail_nil]

/-- Only a step that found nothing reports so. -/
lemma exec_fileStep_notFound {w v : MigrationWorld}
    (h : (fileStep op torn).exec w = (.error (.io .notFound), v)) :
    op w.disk = .error .notFound ∧ v.disk = w.disk := by
  simp only [fileStep, exec, ExceptT.run_mk, StateT.run] at h
  split at h
  · split at h
    · cases h
    · rename_i hop
      cases h
      exact ⟨hop, rfl⟩
  · rename_i fault _
    simp only [Prod.mk.injEq, Except.error.injEq, Fault.error] at h
    split_ifs at h
    · exact absurd h.1 (by simp)
    · exact absurd h.1 (by simp)

/-- The triple of a step: it does what `op` does, or it is interrupted. -/
lemma triple_fileStep {P : ProfileDisk → Prop} {Q : α → ProfileDisk → Prop}
    {E : ProfileDisk → Prop} (hop : ∀ d a d', P d → op d = .ok (a, d') → Q a d')
    (herror : ∀ d, P d → E d) (htorn : ∀ fault d, P d → E (torn fault d)) :
    Triple (fun w => P w.disk) (fileStep op torn) (fun a w => Q a w.disk) fun _ w => E w.disk := by
  intro w hw
  simp only [fileStep, exec, ExceptT.run_mk, StateT.run]
  split
  · rename_i heq
    split at heq
    · split at heq
      · rename_i hop'
        cases heq
        exact hop _ _ _ hw hop'
      · cases heq
    · cases heq
  · rename_i heq
    split at heq
    · split at heq
      · cases heq
      · cases heq
        exact herror _ hw
    · cases heq
      exact htorn _ _ hw

/-! ### Writing -/

section Writing

variable {write : ProfileDisk → Except ErrorCode ProfileDisk}
  {torn : Fault → ProfileDisk → ProfileDisk} {d d' : ProfileDisk} {w v : MigrationWorld}

lemma map_unit_eq_ok {r : Except ErrorCode ProfileDisk} {a : Unit} :
    r.map ((), ·) = .ok (a, d) ↔ r = .ok d := by
  cases r <;> simp [Except.map]

lemma exec_writeStep_eq_ok {a : Unit} (h : (writeStep write torn).exec w = (.ok a, v)) :
    write w.disk = .ok v.disk :=
  map_unit_eq_ok.mp (exec_fileStep_eq_ok h)

lemma exec_writeStep (h : write d = .ok d') :
    (writeStep write torn).exec ⟨d, []⟩ = (.ok (), ⟨d', []⟩) :=
  exec_fileStep (map_unit_eq_ok.mpr h)

variable {P Q E : ProfileDisk → Prop}

lemma triple_writeStep (hwrite : ∀ d d', P d → write d = .ok d' → Q d') (herror : ∀ d, P d → E d)
    (htorn : ∀ fault d, P d → E (torn fault d)) :
    Triple (fun w => P w.disk) (writeStep write torn) (fun _ w => Q w.disk) fun _ w => E w.disk :=
  triple_fileStep (fun d _ d' hd hop => hwrite d d' hd (map_unit_eq_ok.mp hop)) herror htorn

lemma exec_rename {source target : ProfilePath} (h : d.move source target = .ok d') :
    (rename source target).exec ⟨d, []⟩ = (.ok (), ⟨d', []⟩) := exec_writeStep h

variable {path : ProfilePath} {mode : Nat}

lemma exec_chmod (h : d.change (FileNode.setMode mode) path = .ok d') :
    (chmod path mode).exec ⟨d, []⟩ = (.ok (), ⟨d', []⟩) := exec_writeStep h

lemma exec_writeFile {content : FileContent}
    (h : d.change (FileNode.put mode content) path = .ok d') :
    (writeFile path content mode).exec ⟨d, []⟩ = (.ok (), ⟨d', []⟩) := exec_writeStep h

lemma exec_mkdir (h : d.makeDirectories mode path = .ok d') :
    (mkdir path mode).exec ⟨d, []⟩ = (.ok (), ⟨d', []⟩) := exec_writeStep h

lemma triple_rename {source target : ProfilePath}
    (hmove : ∀ d d', P d → d.move source target = .ok d' → Q d') (hPE : ∀ d, P d → E d)
    (hQE : ∀ d, Q d → E d) :
    Triple (fun w => P w.disk) (rename source target) (fun _ w => Q w.disk)
      fun _ w => E w.disk := by
  refine triple_writeStep hmove hPE fun fault d hd => ?_
  split_ifs
  · cases hmoved : d.move source target with
    | error code => exact hPE d hd
    | ok d' => exact hQE d' (hmove d d' hd hmoved)
  · exact hPE d hd

lemma triple_chmod (hchange : ∀ d d', P d → d.change (FileNode.setMode mode) path = .ok d' → Q d')
    (hPE : ∀ d, P d → E d) (hQE : ∀ d, Q d → E d) :
    Triple (fun w => P w.disk) (chmod path mode) (fun _ w => Q w.disk) fun _ w => E w.disk := by
  refine triple_writeStep hchange hPE fun fault d hd => ?_
  split_ifs
  · cases hchanged : d.change (FileNode.setMode mode) path with
    | error code => exact hPE d hd
    | ok d' => exact hQE d' (hchange d d' hd hchanged)
  · exact hPE d hd

lemma triple_writeFile {content : FileContent}
    (hwrite : ∀ d d', P d → d.change (FileNode.put mode content) path = .ok d' → Q d')
    (hPE : ∀ d, P d → E d)
    (hpart : ∀ part d d', P d → d.change (FileNode.put mode part) path = .ok d' → E d') :
    Triple (fun w => P w.disk) (writeFile path content mode) (fun _ w => Q w.disk)
      fun _ w => E w.disk := by
  refine triple_writeStep hwrite hPE fun fault d hd => ?_
  cases hwritten : fault.written with
  | none => simpa only [tornWrite, hwritten] using hPE d hd
  | some part =>
    simp only [tornWrite, hwritten]
    cases hchanged : d.change (FileNode.put mode part) path with
    | error code => exact hPE d hd
    | ok d' => exact hpart part d d' hd hchanged

end Writing

/-! ### Handlers -/

/-- The rule of a handler that cleans up and throws again. -/
lemma triple_onError {m : Migration α} {cleanup : Migration Unit} {P : MigrationWorld → Prop}
    {Q : α → MigrationWorld → Prop} {E : MigrationWorld → Prop} (hm : Triple P m Q fun _ => E)
    (hcleanup : Keeps E cleanup fun _ => True) :
    Triple P (onError m cleanup) Q fun _ => E := by
  refine (Triple.attempt (R := fun r w => match r with | .ok a => Q a w | .error _ => E w)
    hm).bind fun r => ?_
  rcases r with e | a
  · cases e with
    | died => exact Triple.raise fun _ => id
    | io code => exact (hcleanup.post fun _ _ hw => hw.1).bind fun _ => Triple.raise fun _ => id
    | refused message =>
      exact (hcleanup.post fun _ _ hw => hw.1).bind fun _ => Triple.raise fun _ => id
  · exact Triple.pure fun _ => id

lemma exec_onError {m : Migration α} {cleanup : Migration Unit} {w v : MigrationWorld} {a : α}
    (h : m.exec w = (.ok a, v)) : (onError m cleanup).exec w = (.ok a, v) := by
  rw [onError, exec_bind, exec_attempt, h]
  rfl

lemma keeps_ignoringErrors {I : MigrationWorld → Prop} {m : Migration Unit}
    (h : Keeps I m fun _ => True) : Keeps I (ignoringErrors m) fun _ => True := by
  refine h.attempt.bind fun r _ => ?_
  split
  · exact .raise
  · exact .pure trivial

/-! ### Reading -/

section Reading

variable {read : ProfileDisk → Except ErrorCode α} {d : ProfileDisk} {w v : MigrationWorld} {a : α}

lemma map_pair_eq_ok {r : Except ErrorCode α} {d' : ProfileDisk} :
    r.map (·, d) = .ok (a, d') ↔ r = .ok a ∧ d = d' := by
  cases r <;> simp [Except.map]

lemma exec_readStep_eq_ok (h : (readStep read).exec w = (.ok a, v)) :
    read w.disk = .ok a ∧ v.disk = w.disk :=
  (map_pair_eq_ok.mp (exec_fileStep_eq_ok h)).imp_right Eq.symm

lemma exec_readStep (h : read d = .ok a) : (readStep read).exec ⟨d, []⟩ = (.ok a, ⟨d, []⟩) :=
  exec_fileStep (map_pair_eq_ok.mpr ⟨h, rfl⟩)

/-- Whatever happens to a read, the disk stays. -/
lemma keeps_readStep {I : ProfileDisk → Prop} :
    Keeps (fun w => I w.disk) (readStep read) fun _ => True :=
  (triple_fileStep (P := I) (Q := fun _ => I) (E := I)
    (fun _ _ _ hd hop => (map_pair_eq_ok.mp hop).2 ▸ hd) (fun _ => id)
    fun _ _ => id).post fun _ _ hw => ⟨hw, trivial⟩

lemma exec_ifFound_eq (m : Migration α) (w : MigrationWorld) :
    (ifFound m).exec w = match m.exec w with
      | (.ok a, v) => (.ok (some a), v)
      | (.error (.io .notFound), v) => (.ok none, v)
      | (.error e, v) => (.error e, v) := by
  rw [ifFound, exec_bind, exec_attempt]
  rcases m.exec w with ⟨e | a, v⟩
  · rcases e with _ | code | message
    · rfl
    · cases code <;> rfl
    · rfl
  · rfl

lemma exec_ifFound_eq_ok {r : Option α} (h : (ifFound (readStep read)).exec w = (.ok r, v)) :
    found (read w.disk) = .ok r ∧ v.disk = w.disk := by
  rw [exec_ifFound_eq] at h
  split at h
  · rename_i hrun
    cases h
    obtain ⟨hread, hdisk⟩ := exec_readStep_eq_ok hrun
    exact ⟨by rw [hread]; rfl, hdisk⟩
  · rename_i hrun
    cases h
    obtain ⟨hop, hdisk⟩ := exec_fileStep_notFound hrun
    refine ⟨?_, hdisk⟩
    cases hread : read w.disk with
    | error code =>
      rw [hread] at hop
      cases hop
      rfl
    | ok a =>
      rw [hread] at hop
      cases hop
  · cases h

lemma keeps_ifFound {I : MigrationWorld → Prop} {m : Migration α}
    (h : Keeps I m fun _ => True) : Keeps I (ifFound m) fun _ => True := by
  refine h.attempt.bind fun r _ => ?_
  split
  · exact .pure trivial
  · exact .pure trivial
  · exact .raise

/-- What a read answers, if the disk is known. -/
lemma keeps_ifFound_found : Keeps (fun w => w.disk = d) (ifFound (readStep read))
    fun r => found (read d) = .ok r := by
  have hkeeps : Keeps (fun w => w.disk = d) (ifFound (readStep read)) fun _ => True :=
    keeps_ifFound (keeps_readStep (I := (· = d)))
  rintro w rfl
  have hdisk := hkeeps.world (w := w) rfl
  rcases hrun : (ifFound (readStep read)).exec w with ⟨e | r, v⟩ <;> rw [hrun] at hdisk
  · exact hdisk
  · exact ⟨hdisk, (exec_ifFound_eq_ok hrun).1⟩

lemma exec_ifFound {r : Option α} (h : found (read d) = .ok r) :
    (ifFound (readStep read)).exec ⟨d, []⟩ = (.ok r, ⟨d, []⟩) := by
  rw [exec_ifFound_eq]
  cases hread : read d with
  | error code =>
    rw [hread] at h
    have hrun : (readStep read).exec ⟨d, []⟩ = (.error (.io code), ⟨d, []⟩) :=
      exec_fileStep_error (by rw [hread]; rfl)
    cases code with
    | notFound =>
      cases h
      rw [hrun]
    | other => cases h
  | ok a =>
    rw [hread] at h
    cases h
    rw [exec_readStep hread]

end Reading

end Migration

end TetiBot

import Mathlib.Tactic

/-
Trees of files.

* `FileNode`: files, links and directories; a link carries what it leads to in the end.
* `lookAt`: what is found under a path, where directories on the way may be reached through
  links.
* `makeDirectories`, `update`: the two ways to change a tree, by creating the directories on a
  path and by replacing what its last name stands for.
* `IsDirectory mode names`: a directory with this mode in which the names are taken; it survives
  every change below it (`IsDirectory.makeDirectories`, `IsDirectory.update`).
* `FileNode.ind`: induction over a tree and the entries of its directories.
-/

namespace Library

variable {α β : Type}

/-- What an operation on files fails with: there is nothing under the path (`ENOENT`), or
something else is in the way. -/
inductive ErrorCode where
  | notFound
  | other
deriving DecidableEq

/-- What a name of a directory stands for. -/
inductive FileNode (α : Type) where
  | file (mode : Nat) (content : α)
  | link (target : Option (FileNode α))
  | special
  | dir (mode : Nat) (entries : List (String × FileNode α))

namespace FileNode

/-- Induction over the entries of the directories. -/
@[elab_as_elim]
theorem ind {P : FileNode α → Prop} (hfile : ∀ mode content, P (.file mode content))
    (hlink : ∀ target, P (.link target)) (hspecial : P .special)
    (hdir : ∀ mode entries, (∀ entry ∈ entries, P entry.2) → P (.dir mode entries))
    (node : FileNode α) : P node :=
  FileNode.rec (motive_1 := P) (motive_2 := fun _ => True)
    (motive_3 := fun entries => ∀ entry ∈ entries, P entry.2) (motive_4 := fun entry => P entry.2)
    hfile (fun target _ => hlink target) hspecial hdir trivial (fun _ _ => trivial)
    (fun _ hentry => absurd hentry (by simp))
    (fun _ _ hhead htail _ hentry => by
      rcases List.mem_cons.mp hentry with rfl | hrest
      · exact hhead
      · exact htail _ hrest)
    (fun _ _ hnode => hnode)
    node

/-- What a link leads to; everything else is itself. -/
def follow : FileNode α → Option (FileNode α)
  | .link target => target
  | node => some node

def isDirectory : FileNode α → Bool
  | .dir .. => true
  | _ => false

/-! ### The entries of a directory -/

def entryAt? : List (String × FileNode α) → String → Option (FileNode α)
  | [], _ => none
  | (known, node) :: rest, name => if known = name then some node else entryAt? rest name

/-- Set or, with `none`, remove an entry; a new one goes to the end. -/
def setEntry : List (String × FileNode α) → String → Option (FileNode α) →
    List (String × FileNode α)
  | [], name, value => (value.map (name, ·)).toList
  | (known, node) :: rest, name, value =>
    if known = name then (value.map (name, ·)).toList ++ rest
    else (known, node) :: setEntry rest name value

lemma entryAt?_setEntry_self (entries : List (String × FileNode α)) (name : String)
    (node : FileNode α) : entryAt? (setEntry entries name (some node)) name = some node := by
  induction entries with
  | nil => simp [setEntry, entryAt?]
  | cons entry rest ih =>
    rw [setEntry]
    split_ifs with h
    · simp [entryAt?]
    · simpa [entryAt?, h] using ih

lemma entryAt?_setEntry_ne {name other : String} (h : name ≠ other)
    (entries : List (String × FileNode α)) (value : Option (FileNode α)) :
    entryAt? (setEntry entries name value) other = entryAt? entries other := by
  induction entries with
  | nil => cases value <;> simp [setEntry, entryAt?, h]
  | cons entry rest ih =>
    obtain ⟨known, node⟩ := entry
    rw [setEntry]
    split_ifs with hknown
    · subst hknown
      cases value <;> simp [entryAt?, h]
    · simp only [entryAt?, ih]

/-! ### Reading and changing a tree -/

/-- What is found under a path; the last name is not followed. -/
def lookAt : Option (FileNode α) → List String → Except ErrorCode (FileNode α)
  | none, _ => .error .notFound
  | some node, [] => .ok node
  | some node, name :: rest =>
    match node.follow with
    | none => .error .notFound
    | some (.dir _ entries) => lookAt (entryAt? entries name) rest
    | some _ => .error .other

/-- Create the directories that are missing on a path. -/
def makeDirectories (mode : Nat) :
    List String → Option (FileNode α) → Except ErrorCode (FileNode α)
  | [], none => .ok (.dir mode [])
  | [], some node => if (node.follow.map isDirectory).getD false then .ok node else .error .other
  | name :: rest, none =>
    return .dir mode [(name, ← makeDirectories mode rest none)]
  | name :: rest, some (.dir known entries) =>
    return .dir known
      (setEntry entries name (some (← makeDirectories mode rest (entryAt? entries name))))
  | _ :: _, some _ => .error .other

/-- Replace what the last name of a path stands for; the directories before it are there. -/
def update (f : Option (FileNode α) → Except ErrorCode (Option (FileNode α))) :
    List String → Option (FileNode α) → Except ErrorCode (Option (FileNode α))
  | [], node => f node
  | _ :: _, none => .error .notFound
  | name :: rest, some (.dir mode entries) =>
    return some (.dir mode (setEntry entries name (← update f rest (entryAt? entries name))))
  | _ :: _, some _ => .error .other

/-- What is written under a name: a file that is there keeps its mode, nothing else may be
there. -/
def put (mode : Nat) (content : α) :
    Option (FileNode α) → Except ErrorCode (Option (FileNode α))
  | none => .ok (some (.file mode content))
  | some (.file known _) => .ok (some (.file known content))
  | some _ => .error .other

/-- What is moved to a name replaces a file. -/
def place (node : FileNode α) : Option (FileNode α) → Except ErrorCode (Option (FileNode α))
  | some (.dir ..) => .error .other
  | _ => .ok (some node)

/-- Nothing is left under the name. -/
def remove : Option (FileNode α) → Except ErrorCode (Option (FileNode α)) := fun _ => .ok none

/-- The mode of a file or a directory, changed. -/
def setMode (mode : Nat) : Option (FileNode α) → Except ErrorCode (Option (FileNode α))
  | none => .error .notFound
  | some (.file _ content) => .ok (some (.file mode content))
  | some (.dir _ entries) => .ok (some (.dir mode entries))
  | some _ => .error .other

lemma put_isSome {mode : Nat} {content : α} (old new : Option (FileNode α))
    (h : put mode content old = .ok new) : new.isSome = true := by
  rcases old with _ | node
  · cases h
    rfl
  · cases node <;> cases h
    rfl

lemma setMode_isSome {mode : Nat} (old new : Option (FileNode α)) (h : setMode mode old = .ok new) :
    new.isSome = true := by
  rcases old with _ | node
  · cases h
  · cases node <;> cases h <;> rfl

lemma place_isSome {node : FileNode α} (old new : Option (FileNode α))
    (h : place node old = .ok new) : new.isSome = true := by
  rcases old with _ | known
  · cases h
    rfl
  · cases known <;> cases h <;> rfl

/-- A change that leaves something under the path leaves something on every part of it. -/
lemma update_isSome {f : Option (FileNode α) → Except ErrorCode (Option (FileNode α))}
    (hf : ∀ old new, f old = .ok new → new.isSome = true) {path : List String}
    {node next : Option (FileNode α)} (h : update f path node = .ok next) :
    next.isSome = true := by
  cases path with
  | nil => exact hf _ _ h
  | cons name rest =>
    match node with
    | none => cases h
    | some (.file ..) => cases h
    | some (.link _) => cases h
    | some .special => cases h
    | some (.dir mode entries) =>
      simp only [update] at h
      cases hchild : update f rest (entryAt? entries name) with
      | error code =>
        rw [hchild] at h
        cases h
      | ok child =>
        rw [hchild] at h
        cases h
        rfl

/-! ### Directories survive what happens below them -/

/-- A directory with this mode, in which these names are taken. -/
def IsDirectory (mode : Nat) (names : List String) (node : Option (FileNode α)) : Prop :=
  ∃ entries, node = some (.dir mode entries) ∧ ∀ name ∈ names, (entryAt? entries name).isSome = true

namespace IsDirectory

variable {mode : Nat} {names path : List String} {node next : Option (FileNode α)}

/-- A directory keeps its names and its mode if a name of it is set. -/
lemma setEntry {entries : List (String × FileNode α)} {name : String} {value : FileNode α}
    (h : IsDirectory mode names (some (.dir mode entries))) :
    IsDirectory mode (name :: names) (some (.dir mode (setEntry entries name (some value)))) := by
  obtain ⟨_, hentries, htaken⟩ := h
  cases hentries
  refine ⟨_, rfl, fun other hother => ?_⟩
  by_cases heq : name = other
  · subst heq
    rw [entryAt?_setEntry_self]
    rfl
  · rw [entryAt?_setEntry_ne heq]
    exact htaken other ((List.mem_cons.mp hother).resolve_left fun h => heq h.symm)

lemma mono {names' : List String} (h : IsDirectory mode names node)
    (hsub : ∀ name ∈ names', name ∈ names) : IsDirectory mode names' node := by
  obtain ⟨entries, rfl, htaken⟩ := h
  exact ⟨entries, rfl, fun name hname => htaken name (hsub name hname)⟩

lemma makeDirectories {made : FileNode α} {mode' : Nat} (h : IsDirectory mode names node)
    (hmade : FileNode.makeDirectories mode' path node = .ok made) :
    IsDirectory mode names (some made) := by
  obtain ⟨entries, rfl, htaken⟩ := h
  cases path with
  | nil =>
    cases hmade
    exact ⟨entries, rfl, htaken⟩
  | cons name rest =>
    simp only [FileNode.makeDirectories] at hmade
    cases hchild : FileNode.makeDirectories mode' rest (entryAt? entries name) with
    | error code =>
      rw [hchild] at hmade
      cases hmade
    | ok child =>
      rw [hchild] at hmade
      cases hmade
      exact (IsDirectory.setEntry ⟨entries, rfl, htaken⟩).mono
        fun other hother => List.mem_cons_of_mem _ hother

/-- Where nothing was, the directories of a path begin with a new one. -/
lemma of_made {made : FileNode α} (h : FileNode.makeDirectories mode path none = .ok made) :
    IsDirectory mode [] (some made) := by
  cases path with
  | nil =>
    cases h
    exact ⟨[], rfl, by simp⟩
  | cons name rest =>
    simp only [FileNode.makeDirectories] at h
    cases hchild : FileNode.makeDirectories mode rest (none : Option (FileNode α)) with
    | error code =>
      rw [hchild] at h
      cases h
    | ok child =>
      rw [hchild] at h
      cases h
      exact ⟨_, rfl, by simp⟩

/-- A name under which something is put is taken. -/
lemma update_last {name : String}
    {f : Option (FileNode α) → Except ErrorCode (Option (FileNode α))}
    (hf : ∀ old new, f old = .ok new → new.isSome = true) (h : IsDirectory mode names node)
    (hnext : FileNode.update f [name] node = .ok next) : IsDirectory mode (name :: names) next := by
  obtain ⟨entries, rfl, htaken⟩ := h
  simp only [FileNode.update] at hnext
  cases hchild : f (entryAt? entries name) with
  | error code =>
    rw [hchild] at hnext
    cases hnext
  | ok child =>
    obtain ⟨value, rfl⟩ := Option.isSome_iff_exists.mp (hf _ _ hchild)
    rw [hchild] at hnext
    cases hnext
    exact IsDirectory.setEntry ⟨entries, rfl, htaken⟩

/-- The directory stays, and with it the names that are taken: either the path begins with
another name, or something is left under it. -/
lemma update {name : String} {rest : List String}
    {f : Option (FileNode α) → Except ErrorCode (Option (FileNode α))}
    (h : IsDirectory mode names node)
    (hnext : FileNode.update f (name :: rest) node = .ok next)
    (hkept : name ∉ names ∨ ∀ old new, f old = .ok new → new.isSome = true) :
    IsDirectory mode names next := by
  obtain ⟨entries, rfl, htaken⟩ := h
  simp only [FileNode.update] at hnext
  cases hchild : FileNode.update f rest (entryAt? entries name) with
  | error code =>
    rw [hchild] at hnext
    cases hnext
  | ok child =>
    rw [hchild] at hnext
    cases hnext
    refine ⟨_, rfl, fun other hother => ?_⟩
    by_cases heq : name = other
    · subst heq
      have hsome := update_isSome (hkept.resolve_left fun habsent => habsent hother) hchild
      obtain ⟨value, rfl⟩ := Option.isSome_iff_exists.mp hsome
      rw [entryAt?_setEntry_self]
      rfl
    · rw [entryAt?_setEntry_ne heq]
      exact htaken other hother

end IsDirectory

end FileNode

end Library

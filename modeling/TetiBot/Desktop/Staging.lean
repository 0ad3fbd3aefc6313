import TetiBot.Core.Types
import TetiBot.Desktop.ProfileDisk

/-
Building a tree in a staging area.

* `Elsewhere area d e`: the disk `e` is `d` but for one area.
* `Retraces area P w w'`: as far as the profile itself and the area go, `w'` is where `w` is, and
  nothing will go wrong from there on; `P` holds of the area.
* `Builds area P m Q`: `m` writes to no other area, whether it returns or is interrupted, and if
  it returns it was an uninterrupted run: started from a world that retraces its own, it returns
  the same and leaves the same tree in the area.
* One rule for each step and for each way to build a program; `Lasting P` are the properties of a
  tree that survive every write below its top.
-/

namespace TetiBot

open Library Library.Program

/-- The disk `e` is `d` but for one area. -/
def Elsewhere (area : ProfileArea) (d e : ProfileDisk) : Prop :=
  ∀ other, other ≠ area → e other = d other

/-- The profile itself and the area are alike, `w'` will not be interrupted, and `P` holds of
the area. -/
structure Retraces (area : ProfileArea) (P : Option (FileNode FileContent) → Prop)
    (w w' : MigrationWorld) : Prop where
  root : w.disk .root = w'.disk .root
  tree : w.disk area = w'.disk area
  calm : w'.faults = []
  holds : P (w.disk area)

variable {α β : Type}

/-- A program that writes to one area only and repeats what it returned. -/
structure Builds (area : ProfileArea) (P : Option (FileNode FileContent) → Prop)
    (m : Migration α) (Q : α → Option (FileNode FileContent) → Prop) : Prop where
  replays : Replays (Retraces area P) m m fun a => Retraces area (Q a)
  elsewhere : ∀ d, Keeps (fun w => Elsewhere area d w.disk) m fun _ => True

/-- A property of a tree that survives every write below its top which removes nothing. -/
structure Lasting (P : Option (FileNode FileContent) → Prop) : Prop where
  made : ∀ {mode names node made}, P node → FileNode.makeDirectories mode names node = .ok made →
    P (some made)
  kept : ∀ {f : Option (FileNode FileContent) → Except ErrorCode (Option (FileNode FileContent))}
    {name rest node next}, (∀ old new, f old = .ok new → new.isSome = true) → P node →
    FileNode.update f (name :: rest) node = .ok next → P next

lemma Lasting.trivial : Lasting fun _ => True := ⟨fun _ _ => True.intro, fun _ _ _ => True.intro⟩

lemma Lasting.isDirectory (mode : Nat) (names : List String) :
    Lasting (FileNode.IsDirectory mode names) where
  made h hmade := h.makeDirectories hmade
  kept hf h hnext := h.update hnext (.inr hf)

/-! ### The changes of a disk -/

namespace ProfileDisk

variable {d d' e : ProfileDisk} {path source target : ProfilePath} {other : ProfileArea}
  {f : Option (FileNode FileContent) → Except ErrorCode (Option (FileNode FileContent))}

lemma change_eq_ok (h : d.change f path = .ok e) :
    ∃ next, FileNode.update f path.names (d path.area) = .ok next
      ∧ e = Function.update d path.area next := by
  obtain ⟨next, hnext, he⟩ := except_bind_eq_ok.mp h
  cases he
  exact ⟨next, hnext, rfl⟩

lemma change_of_update {next : Option (FileNode FileContent)}
    (h : FileNode.update f path.names (d path.area) = .ok next) :
    d.change f path = .ok (Function.update d path.area next) := by
  simp only [change, h]
  rfl

lemma change_elsewhere (h : d.change f path = .ok e) (hother : other ≠ path.area) :
    e other = d other := by
  obtain ⟨next, -, rfl⟩ := change_eq_ok h
  exact Function.update_of_ne hother _ _

lemma orKept_change_elsewhere (hother : other ≠ path.area) :
    d.orKept (d.change f path) other = d other := by
  cases h : d.change f path with
  | error code => rfl
  | ok changed => exact change_elsewhere h hother

variable {mode : Nat}

lemma makeDirectories_eq_ok (h : d.makeDirectories mode path = .ok e) :
    ∃ made, FileNode.makeDirectories mode path.names (d path.area) = .ok made
      ∧ e = Function.update d path.area (some made) := by
  obtain ⟨made, hmade, he⟩ := except_bind_eq_ok.mp h
  cases he
  exact ⟨made, hmade, rfl⟩

lemma makeDirectories_of_made {made : FileNode FileContent}
    (h : FileNode.makeDirectories mode path.names (d path.area) = .ok made) :
    d.makeDirectories mode path = .ok (Function.update d path.area (some made)) := by
  simp only [makeDirectories, h]
  rfl

lemma makeDirectories_elsewhere (h : d.makeDirectories mode path = .ok e)
    (hother : other ≠ path.area) : e other = d other := by
  obtain ⟨made, -, rfl⟩ := makeDirectories_eq_ok h
  exact Function.update_of_ne hother _ _

lemma orKept_makeDirectories_elsewhere (hother : other ≠ path.area) :
    d.orKept (d.makeDirectories mode path) other = d other := by
  cases h : d.makeDirectories mode path with
  | error code => rfl
  | ok changed => exact makeDirectories_elsewhere h hother

lemma move_eq_ok (h : d.move source target = .ok e) :
    ∃ node taken, d.look source = .ok node ∧ d.change FileNode.remove source = .ok taken
      ∧ taken.change (FileNode.place node) target = .ok e := by
  obtain ⟨node, hnode, h⟩ := except_bind_eq_ok.mp h
  obtain ⟨taken, htaken, he⟩ := except_bind_eq_ok.mp h
  exact ⟨node, taken, hnode, htaken, he⟩

lemma move_of_changes {node : FileNode FileContent} {taken : ProfileDisk}
    (hnode : d.look source = .ok node) (htaken : d.change FileNode.remove source = .ok taken)
    (he : taken.change (FileNode.place node) target = .ok e) : d.move source target = .ok e := by
  simp only [move, hnode, htaken, except_ok_bind, he]

/-- A move within an area is a change of this area. -/
lemma move_elsewhere (h : d.move source target = .ok e) (hsource : other ≠ source.area)
    (htarget : other ≠ target.area) : e other = d other := by
  obtain ⟨node, taken, -, htaken, he⟩ := move_eq_ok h
  rw [change_elsewhere he htarget, change_elsewhere htaken hsource]

lemma orKept_move_elsewhere (hsource : other ≠ source.area) (htarget : other ≠ target.area) :
    d.orKept (d.move source target) other = d other := by
  cases h : d.move source target with
  | error code => rfl
  | ok changed => exact move_elsewhere h hsource htarget

lemma tornWrite_elsewhere {fault : Fault} (hother : other ≠ path.area) :
    Migration.tornWrite path mode fault d other = d other := by
  cases hwritten : fault.written with
  | none => simp only [Migration.tornWrite, hwritten]
  | some part => simpa only [Migration.tornWrite, hwritten] using orKept_change_elsewhere hother

end ProfileDisk

/-! ### Rules -/

namespace Builds

variable {area : ProfileArea} {P P' : Option (FileNode FileContent) → Prop} {m : Migration α}
  {Q Q' : α → Option (FileNode FileContent) → Prop}

lemma weaken (h : Builds area P m Q) (hP : ∀ node, P' node → P node)
    (hQ : ∀ a node, Q a node → Q' a node) : Builds area P' m Q' where
  replays := h.replays.weaken (fun _ _ hw => { hw with holds := hP _ hw.holds })
    fun a _ _ hv => { hv with holds := hQ a _ hv.holds }
  elsewhere := h.elsewhere

lemma pure {a : α} (h : ∀ node, P node → Q a node) :
    Builds area P (Pure.pure a : Migration α) Q where
  replays := .pure fun _ _ hw => { hw with holds := h _ hw.holds }
  elsewhere _ := .pure trivial

lemma raise {e : MigrationError} : Builds area P (Program.raise e : Migration α) Q where
  replays := .raise
  elsewhere _ := .raise

lemma bind {f : α → Migration β} {R : β → Option (FileNode FileContent) → Prop}
    (h : Builds area P m Q) (hf : ∀ a, Builds area (Q a) (f a) R) :
    Builds area P (m >>= f) R where
  replays := h.replays.bind fun a => (hf a).replays
  elsewhere d := (h.elsewhere d).bind fun a _ => (hf a).elsewhere d

lemma ite {c : Prop} [Decidable c] {n : Migration α} (ht : c → Builds area P m Q)
    (hf : ¬c → Builds area P n Q) : Builds area P (if c then m else n) Q := by
  split_ifs with h
  · exact ht h
  · exact hf h

/-- What a program that builds in the area does from a world that is retraced. -/
lemma triple (h : Builds area P m Q) (d : ProfileDisk) (v : MigrationWorld) :
    Triple (fun w => Elsewhere area d w.disk ∧ Retraces area P w v) m
      (fun a w => Elsewhere area d w.disk
        ∧ ∃ v', m.exec v = (.ok a, v') ∧ Retraces area (Q a) w v')
      fun _ w => Elsewhere area d w.disk := by
  rintro w ⟨helsewhere, hretraces⟩
  have hworld := (h.elsewhere d).world helsewhere
  rcases hrun : m.exec w with ⟨e | a, w'⟩ <;> rw [hrun] at hworld
  · exact hworld
  · exact ⟨hworld, h.replays w v hretraces a w' hrun⟩

/-! ### The steps -/

section Reading

variable {read : ProfileDisk → Except ErrorCode α}

section

variable (hread : ∀ d d' : ProfileDisk, d .root = d' .root → d area = d' area → read d = read d')
include hread

/-- A step that reads of the profile itself and of the area. -/
lemma readStep
    :
    Builds area P (Migration.readStep read) fun _ => P where
  replays := by
    rintro w ⟨d', faults⟩ ⟨hroot, htree, rfl, hP⟩ a v hrun
    obtain ⟨hok, hdisk⟩ := Migration.exec_readStep_eq_ok hrun
    rw [hread _ _ hroot htree] at hok
    refine ⟨_, Migration.exec_readStep hok, ?_⟩
    rw [← hdisk] at hroot htree hP
    exact ⟨hroot, htree, rfl, hP⟩
  elsewhere _ := Migration.keeps_readStep

lemma ifFound
    :
    Builds area P (Migration.ifFound (Migration.readStep read)) fun _ => P where
  replays := by
    rintro w ⟨d', faults⟩ ⟨hroot, htree, rfl, hP⟩ a v hrun
    obtain ⟨hok, hdisk⟩ := Migration.exec_ifFound_eq_ok hrun
    rw [hread _ _ hroot htree] at hok
    refine ⟨_, Migration.exec_ifFound hok, ?_⟩
    rw [← hdisk] at hroot htree hP
    exact ⟨hroot, htree, rfl, hP⟩
  elsewhere _ := Migration.keeps_ifFound Migration.keeps_readStep

end

end Reading

section Writing

variable {write : ProfileDisk → Except ErrorCode ProfileDisk}
  {torn : Fault → ProfileDisk → ProfileDisk} {R : Option (FileNode FileContent) → Prop}

/-- A step that writes to the area what depends on it and on the profile itself. -/
lemma writeStep (hroot : area ≠ .root)
    (hwrite : ∀ d d' : ProfileDisk, d .root = d' .root → d area = d' area → P (d area) →
      ∀ e, write d = .ok e → R (e area) ∧ ∃ e', write d' = .ok e' ∧ e area = e' area)
    (helsewhere : ∀ d e, write d = .ok e → Elsewhere area d e)
    (htorn : ∀ fault d, Elsewhere area d (torn fault d)) :
    Builds area P (Migration.writeStep write torn) fun _ => R where
  replays := by
    rintro w ⟨d', faults⟩ ⟨hsame, htree, rfl, hP⟩ a v hrun
    have hdone := Migration.exec_writeStep_eq_ok hrun
    obtain ⟨hR, e', hdone', htree'⟩ := hwrite _ _ hsame htree hP _ hdone
    refine ⟨⟨e', []⟩, Migration.exec_writeStep hdone', ?_, htree', rfl, hR⟩
    have hkept := helsewhere _ _ hdone _ (Ne.symm hroot)
    have hkept' := helsewhere _ _ hdone' _ (Ne.symm hroot)
    exact hkept.trans (hsame.trans hkept'.symm)
  elsewhere d := by
    refine (Migration.triple_writeStep (P := Elsewhere area d) (Q := Elsewhere area d)
      (E := Elsewhere area d) ?_ (fun _ => id) ?_).post fun _ _ hw => ⟨hw, trivial⟩
    · intro e e' he hdone other hother
      rw [helsewhere _ _ hdone other hother]
      exact he other hother
    · intro fault e he other hother
      rw [htorn fault e other hother]
      exact he other hother

lemma change {f : Option (FileNode FileContent) → Except ErrorCode (Option (FileNode FileContent))}
    (hroot : area ≠ .root) (hpath : path.area = area)
    (hkept : ∀ node next, P node → FileNode.update f path.names node = .ok next → R next)
    (htorn : ∀ fault d, Elsewhere area d (torn fault d)) :
    Builds area P (Migration.writeStep (·.change f path) torn) fun _ => R := by
  subst hpath
  refine writeStep hroot ?_ (fun d e he other hother => ProfileDisk.change_elsewhere he hother) htorn
  intro d d' _ htree hP e he
  obtain ⟨next, hnext, rfl⟩ := ProfileDisk.change_eq_ok he
  rw [Function.update_self]
  refine ⟨hkept _ _ hP hnext, _, ProfileDisk.change_of_update (htree ▸ hnext), ?_⟩
  rw [Function.update_self]

lemma mkdir_of (hroot : area ≠ .root) (hpath : path.area = area)
    (hmade : ∀ node made, P node → FileNode.makeDirectories mode path.names node = .ok made →
      R (some made)) :
    Builds area P (Migration.mkdir path mode) fun _ => R := by
  subst hpath
  refine writeStep hroot ?_ (fun d e he other hother =>
    ProfileDisk.makeDirectories_elsewhere he hother) fun fault d other hother => ?_
  · intro d d' _ htree hd e he
    obtain ⟨made, hok, rfl⟩ := ProfileDisk.makeDirectories_eq_ok he
    rw [Function.update_self]
    refine ⟨hmade _ _ hd hok, _, ProfileDisk.makeDirectories_of_made (htree ▸ hok), ?_⟩
    rw [Function.update_self]
  · show (if fault.made = 0 then d else _) other = d other
    split_ifs
    · rfl
    · exact ProfileDisk.orKept_makeDirectories_elsewhere hother

lemma mkdir (hP : Lasting P) (hroot : area ≠ .root) (hpath : path.area = area) :
    Builds area P (Migration.mkdir path mode) fun _ => P :=
  mkdir_of hroot hpath fun _ _ => hP.made

/-- The first directories of an area that was cleared. -/
lemma mkdir_cleared (hroot : area ≠ .root) (hpath : path.area = area) :
    Builds area (· = none) (Migration.mkdir path mode) fun _ => FileNode.IsDirectory mode [] :=
  mkdir_of hroot hpath fun node made hnode hmade => by
    subst hnode
    exact FileNode.IsDirectory.of_made hmade

lemma writeFile {name : String} {rest : List String} (hP : Lasting P) (hroot : area ≠ .root)
    (hpath : path = ⟨area, name :: rest⟩) :
    Builds area P (Migration.writeFile path content mode) fun _ => P := by
  subst hpath
  exact change hroot rfl (fun _ _ => hP.kept FileNode.put_isSome)
    fun fault d other hother => ProfileDisk.tornWrite_elsewhere hother

lemma copyFile {name : String} {rest : List String} (hP : Lasting P) (hroot : area ≠ .root)
    (hsource : source.area = .root) (htarget : target = ⟨area, name :: rest⟩) :
    Builds area P (Migration.copyFile source target) fun _ => P := by
  subst htarget
  refine writeStep hroot ?_ ?_ fun fault d other hother => ?_
  · intro d d' hsame htree hd e he
    obtain ⟨⟨known, content⟩, hfile, he⟩ := except_bind_eq_ok.mp he
    obtain ⟨next, hnext, rfl⟩ := ProfileDisk.change_eq_ok he
    have hfile' : d'.fileAt source = .ok (known, content) := by
      simp only [ProfileDisk.fileAt, ProfileDisk.look, hsource] at hfile ⊢
      rwa [← hsame]
    rw [Function.update_self]
    refine ⟨hP.kept FileNode.put_isSome hd hnext, Function.update d' area next, ?_, ?_⟩
    · rw [hfile', except_ok_bind]
      exact ProfileDisk.change_of_update (htree ▸ hnext)
    · rw [Function.update_self]
  · intro d e he other hother
    obtain ⟨⟨known, content⟩, -, he⟩ := except_bind_eq_ok.mp he
    exact ProfileDisk.change_elsewhere he hother
  · cases hfile : d.fileAt source with
    | error code => rfl
    | ok file => simpa only using ProfileDisk.tornWrite_elsewhere hother

/-- A mode changed, at the top of the area as well if `P` does not mind. -/
lemma chmod (hroot : area ≠ .root) (hpath : path.area = area)
    (hkept : ∀ node next, P node →
      FileNode.update (FileNode.setMode mode) path.names node = .ok next → R next) :
    Builds area P (Migration.chmod path mode) fun _ => R := by
  refine change hroot hpath hkept fun fault d other hother => ?_
  show (if fault.done then _ else d) other = d other
  split_ifs
  · exact ProfileDisk.orKept_change_elsewhere (hpath ▸ hother)
  · rfl

lemma chmod_below {name : String} {rest : List String} (hP : Lasting P) (hroot : area ≠ .root)
    (hpath : path = ⟨area, name :: rest⟩) :
    Builds area P (Migration.chmod path mode) fun _ => P :=
  chmod hroot (by rw [hpath]) fun _ _ => by
    rw [hpath]
    exact hP.kept FileNode.setMode_isSome

lemma rename (hroot : area ≠ .root) (hsource : source.area = area) (htarget : target.area = area)
    (hkept : ∀ node moved taken next, P node →
      FileNode.update FileNode.remove source.names node = .ok taken →
      FileNode.update (FileNode.place moved) target.names taken = .ok next → R next) :
    Builds area P (Migration.rename source target) fun _ => R := by
  refine writeStep hroot ?_ (fun d e he other hother =>
    ProfileDisk.move_elsewhere he (hsource ▸ hother) (htarget ▸ hother))
    fun fault d other hother => ?_
  · intro d d' _ htree hd e he
    obtain ⟨node, _, hnode, hremoved, he⟩ := ProfileDisk.move_eq_ok he
    obtain ⟨taken, htaken, rfl⟩ := ProfileDisk.change_eq_ok hremoved
    obtain ⟨next, hnext, rfl⟩ := ProfileDisk.change_eq_ok he
    rw [hsource] at htaken hnext
    rw [htarget, Function.update_self] at hnext
    have hnode' : d'.look source = .ok node := by
      simpa only [ProfileDisk.look, hsource, ← htree] using hnode
    have htaken' : d'.change FileNode.remove source = .ok (Function.update d' area taken) := by
      rw [← hsource]
      exact ProfileDisk.change_of_update (by rw [hsource, ← htree]; exact htaken)
    rw [htarget, Function.update_self]
    refine ⟨hkept _ _ _ _ hd htaken hnext, Function.update (Function.update d' area taken) area next,
      ProfileDisk.move_of_changes hnode' htaken' ?_, ?_⟩
    · have htop : FileNode.update (FileNode.place node) target.names
          (Function.update d' area taken target.area) = .ok next := by
        rw [htarget, Function.update_self]
        exact hnext
      rw [ProfileDisk.change_of_update htop, htarget]
    · rw [Function.update_self]
  · show (if fault.done then _ else d) other = d other
    split_ifs
    · exact ProfileDisk.orKept_move_elsewhere (hsource ▸ hother) (htarget ▸ hother)
    · rfl

end Writing

/-- A program that begins by clearing its area repeats what it returned, whatever the area was
left with. -/
lemma triple_rm (hroot : area ≠ .root) (h : Builds area (· = none) m Q) {d : ProfileDisk}
    {v : MigrationWorld} (hv : v.faults = []) :
    Triple (fun w => Elsewhere area d w.disk ∧ w.disk .root = v.disk .root)
      (Migration.rm area >>= fun _ => m)
      (fun a w => Elsewhere area d w.disk
        ∧ ∃ v', (Migration.rm area >>= fun _ => m).exec v = (.ok a, v') ∧ Retraces area (Q a) w v')
      fun _ w => Elsewhere area d w.disk := by
  obtain ⟨d', faults⟩ := v
  subst hv
  have hcleared : (Migration.rm area).exec ⟨d', []⟩
      = (.ok (), ⟨Function.update d' area none, []⟩) := Migration.exec_writeStep rfl
  have hrm : Triple (fun w => Elsewhere area d w.disk ∧ w.disk .root = d' .root)
      (Migration.rm area)
      (fun _ w => Elsewhere area d w.disk
        ∧ Retraces area (· = none) w ⟨Function.update d' area none, []⟩)
      fun _ w => Elsewhere area d w.disk := by
    refine (Migration.triple_writeStep (P := fun e => Elsewhere area d e ∧ e .root = d' .root)
      (Q := fun e => (Elsewhere area d e ∧ e .root = d' .root) ∧ e area = none)
      (E := Elsewhere area d) ?_ (fun _ => And.left) ?_).post ?_
    · rintro e _ ⟨he, hsame⟩ ⟨⟩
      refine ⟨⟨fun other hother => ?_, ?_⟩, Function.update_self ..⟩
      · rw [Function.update_of_ne hother]
        exact he other hother
      · rwa [Function.update_of_ne (Ne.symm hroot)]
    · rintro fault e ⟨he, -⟩ other hother
      show Function.update e area _ other = d other
      rw [Function.update_of_ne hother]
      exact he other hother
    · rintro _ w ⟨⟨he, hsame⟩, hnone⟩
      refine ⟨he, ?_, ?_, rfl, hnone⟩
      · show _ = Function.update d' area none .root
        rwa [Function.update_of_ne (Ne.symm hroot)]
      · exact hnone.trans (Function.update_self area none d').symm
  refine hrm.bind fun _ => (h.triple d _).post ?_
  rintro a w ⟨he, v', hrun, hv'⟩
  refine ⟨he, v', ?_, hv'⟩
  rw [exec_bind, hcleared]
  exact hrun

end Builds

end TetiBot

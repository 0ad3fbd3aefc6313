import TetiBot.Core.Types
import TetiBot.Library.Transition

/-
The lock of a profile (`runtime/profile-lock.ts`): runtime processes that acquire and
release it, one call to the file system at a time.

* `LockState`: the lock file, every call of `acquireTetiRuntimeProfileLock` so far, and
  the processes that run.  A file is known by its number: a name may be given to another
  file while a call looks at it.
* `LockEvent`, `LockState.step`: the steps of the calls, and processes that start, crash
  or release; they come in any order.
* `LockState.Owns`: a call that creates or holds a lock owns the file it created.
* `step_effect`: what one step can do to the lock file and its owners.
* `lock_excludes`: when at most one call holds the lock.
-/

namespace TetiBot

open Library

/-! ### Files and calls -/

def UNKNOWN_LOCK_GRACE_MS : Nat := 30000

/-- The number of times that a call tries to create the lock file. -/
def LOCK_ATTEMPTS : Nat := 3

/-- `RuntimeLockMetadata`.  A token is never drawn twice: it is the number of its call. -/
structure RuntimeLockMetadata where
  pid : Nat
  token : Nat
  createdAt : Nat
  deriving DecidableEq

/-- A file: what `readLockMetadata` makes of its content, and when it was written last. -/
structure LockFile where
  metadata : Option RuntimeLockMetadata
  mtimeMs : Nat
  deriving DecidableEq

/-- What a call is about to do.  `file` is the file that it has created. -/
inductive LockPhase
  | opening (attempt : Nat)
  | writing (file : Nat)
  | syncing (file : Nat)
  | closing (file : Nat)
  | reading (attempt : Nat)
  | judging (attempt : Nat) (existing : Option RuntimeLockMetadata)
  | checking (attempt : Nat)
  | quarantining (attempt : Nat)
  | removingStale (attempt : Nat) (stale : Nat)
  /-- The lock was granted, and has not been released. -/
  | held (file : Nat)
  | releasing (file : Nat)
  | unlinking (file : Nat)
  /-- The lock was released, or the call threw. -/
  | ended
  | crashed
  deriving DecidableEq

/-- The file that a call has created and not given up. -/
def LockPhase.owned : LockPhase → Option Nat
  | writing file | syncing file | closing file | held file | releasing file
  | unlinking file => some file
  | _ => none

/-- A call of `acquireTetiRuntimeProfileLock`, with the release of its lock. -/
structure LockCall where
  pid : Nat
  createdAt : Nat
  phase : LockPhase
  deriving DecidableEq

/-- The files by their numbers, the one that is named `runtime.lock`, the calls by their
tokens, and the processes that run. -/
structure LockState where
  files : List LockFile
  entry : Option Nat
  calls : List LockCall
  running : List Nat
  deriving DecidableEq

/-- A profile before any process runs, with the lock file that was left there. -/
def initialLockState (leftover : Option LockFile) : LockState where
  files := leftover.toList
  entry := leftover.map fun _ => 0
  calls := []
  running := []

inductive LockEvent
  | spawn (pid : Nat)
  | crash (pid : Nat)
  | acquire (pid : Nat) (createdAt : Nat)
  /-- A call takes its next step.  A call to the file system may fail. -/
  | advance (call : Nat) (fails : Bool) (timeMs : Nat)
  | release (call : Nat)
  deriving DecidableEq

/-! ### Steps -/

namespace LockState

variable (s : LockState)

/-- `isProcessAlive`. -/
def isProcessAlive (pid : Nat) : Bool := s.running.contains pid

/-- The file with the name `runtime.lock`. -/
def lockFile : Option LockFile := s.entry.bind fun file => s.files[file]?

/-- A call goes on with another phase. -/
def enter (call : Nat) (phase : LockPhase) : LockState :=
  { s with calls := s.calls.modify call fun c => { c with phase := phase } }

/-- `open(path, "wx")`, where there is no file. -/
def create (timeMs : Nat) : LockState :=
  { s with files := s.files ++ [⟨none, timeMs⟩], entry := some s.files.length }

def write (file : Nat) (metadata : RuntimeLockMetadata) (timeMs : Nat) : LockState :=
  { s with files := s.files.set file ⟨some metadata, timeMs⟩ }

/-- The name `runtime.lock` is taken from its file. -/
def unname : LockState := { s with entry := none }

/-- The next attempt, if there is one. -/
def retry (call attempt : Nat) : LockState :=
  s.enter call (if attempt + 1 < LOCK_ATTEMPTS then .opening (attempt + 1) else .ended)

/-- `isFreshUnknownLock`. -/
def isFreshUnknownLock (nowMs : Nat) : Bool :=
  s.lockFile.any fun file => nowMs < file.mtimeMs + UNKNOWN_LOCK_GRACE_MS

/-- The next step of a call. -/
def advance (call : Nat) (c : LockCall) (fails : Bool) (timeMs : Nat) : LockState :=
  match c.phase with
  | .opening attempt =>
    if fails then s.enter call .ended
    else if s.entry.isSome then s.enter call (.reading attempt)
    else (s.create timeMs).enter call (.writing s.files.length)
  | .writing file =>
    if fails then s.enter call .ended
    else (s.write file ⟨c.pid, call, c.createdAt⟩ timeMs).enter call (.syncing file)
  | .syncing file => s.enter call (if fails then .ended else .closing file)
  | .closing file => s.enter call (if fails then .ended else .held file)
  | .reading attempt =>
    let existing := if fails then none else s.lockFile.bind LockFile.metadata
    s.enter call (.judging attempt existing)
  | .judging attempt (some existing) =>
    s.enter call (if s.isProcessAlive existing.pid then .ended else .quarantining attempt)
  | .judging attempt none => s.enter call (.checking attempt)
  | .checking attempt =>
    s.enter call (if !fails && s.isFreshUnknownLock c.createdAt then .ended
      else .quarantining attempt)
  | .quarantining attempt =>
    if fails then s.enter call .ended
    else match s.entry with
      | none => s.retry call attempt
      | some file => s.unname.enter call (.removingStale attempt file)
  | .removingStale attempt _ => if fails then s.enter call .ended else s.retry call attempt
  | .releasing file =>
    let current := if fails then none else s.lockFile.bind LockFile.metadata
    s.enter call (if (current.map RuntimeLockMetadata.token) = some call then .unlinking file
      else .ended)
  | .unlinking _ => if fails then s.enter call .ended else s.unname.enter call .ended
  | .held _ | .ended | .crashed => s

/-- One step, where it can be taken. -/
def step : LockEvent → Option LockState
  | .spawn pid =>
    if s.isProcessAlive pid then none else some { s with running := pid :: s.running }
  | .crash pid =>
    if s.isProcessAlive pid then some { s with
      running := s.running.filter (· != pid)
      calls := s.calls.map fun c => if c.pid = pid then { c with phase := .crashed } else c }
    else none
  | .acquire pid createdAt =>
    if s.isProcessAlive pid then some { s with
      calls := s.calls ++ [⟨pid, createdAt, .opening 0⟩] }
    else none
  | .advance call fails timeMs => s.calls[call]?.map fun c => s.advance call c fails timeMs
  | .release call =>
    match (s.calls[call]?).map LockCall.phase with
    | some (.held file) => some (s.enter call (.releasing file))
    | _ => none

/-! ### Owners -/

/-- A call owns a file: it has created it, and neither failed nor crashed nor released its
lock since. -/
def Owns (call file : Nat) : Prop :=
  ∃ c, s.calls[call]? = some c ∧ c.phase.owned = some file

/-- A call of a process that runs holds the lock. -/
def Holds (call : Nat) : Prop :=
  ∃ c file, s.calls[call]? = some c ∧ c.phase = .held file

/-- The file that an event renames away has no owner. -/
def undisturbed : LockEvent → Bool
  | .advance call false _ =>
    match s.calls[call]?.map LockCall.phase, s.entry with
    | some (.quarantining _), some file => s.calls.all fun c => c.phase.owned != some file
    | _, _ => true
  | _ => true

/-- A step that renames away no file that has an owner. -/
def undisturbedStep (e : LockEvent) : Option LockState :=
  if s.undisturbed e then s.step e else none

/-! ### What a step can do -/

variable {s t : LockState} {call owner file : Nat}

lemma owns_enter {phase : LockPhase} (h : (s.enter call phase).Owns owner file) :
    (owner = call ∧ phase.owned = some file) ∨ (owner ≠ call ∧ s.Owns owner file) := by
  obtain ⟨c, hc, howned⟩ := h
  simp only [enter, List.getElem?_modify] at hc
  obtain ⟨before, hbefore, rfl⟩ := Option.map_eq_some_iff.mp hc
  by_cases hcall : call = owner
  · rw [if_pos hcall] at howned
    exact .inl ⟨hcall.symm, howned⟩
  · rw [if_neg hcall] at howned
    exact .inr ⟨Ne.symm hcall, before, hbefore, howned⟩

/-- A call that goes on with what it owns, or with nothing. -/
lemma owns_of_enter {phase : LockPhase} {c : LockCall} (hc : s.calls[call]? = some c)
    (hphase : ∀ k, phase.owned = some k → c.phase.owned = some k)
    (h : (s.enter call phase).Owns owner file) : s.Owns owner file := by
  obtain ⟨rfl, howned⟩ | ⟨-, howns⟩ := owns_enter h
  · exact ⟨c, hc, hphase file howned⟩
  · exact howns

/-- What a step can do to the lock file and its owners. -/
inductive Effect (s : LockState) (e : LockEvent) (t : LockState) : Prop
  | keeps (hentry : t.entry = s.entry) (howns : ∀ j k, t.Owns j k → s.Owns j k)
  | creates (call : Nat) (hfree : s.entry = none) (hentry : t.entry = some s.files.length)
      (howns : ∀ j k, t.Owns j k → s.Owns j k ∨ j = call ∧ k = s.files.length)
  | quarantines (call : Nat) (c : LockCall) (attempt file timeMs : Nat)
      (he : e = .advance call false timeMs) (hcall : s.calls[call]? = some c)
      (hphase : c.phase = .quarantining attempt) (hfile : s.entry = some file)
      (hentry : t.entry = none) (howns : ∀ j k, t.Owns j k → s.Owns j k)
  | unlinks (call file : Nat) (howner : s.Owns call file) (hentry : t.entry = none)
      (howns : ∀ j k, t.Owns j k → s.Owns j k ∧ j ≠ call)

/-- A step of one call that leaves the lock file alone. -/
lemma Effect.enter {e : LockEvent} {phase : LockPhase} {c : LockCall}
    (hc : s.calls[call]? = some c) (hphase : ∀ k, phase.owned = some k → c.phase.owned = some k) :
    Effect s e (s.enter call phase) :=
  .keeps rfl fun _ _ => owns_of_enter hc hphase

lemma retry_effect {e : LockEvent} {c : LockCall} {attempt : Nat}
    (hc : s.calls[call]? = some c) : Effect s e (s.retry call attempt) := by
  refine .enter hc fun k hk => ?_
  split_ifs at hk <;> cases hk

lemma advance_effect {c : LockCall} (hc : s.calls[call]? = some c) (fails : Bool)
    (timeMs : Nat) :
    Effect s (.advance call fails timeMs) (s.advance call c fails timeMs) := by
  have hended : Effect s (.advance call fails timeMs) (s.enter call .ended) :=
    .enter hc fun k hk => by cases hk
  unfold advance
  split
  case h_1 attempt hphase =>
    split_ifs with hfails hentry
    · exact hended
    · exact .enter hc fun k hk => by cases hk
    · have hfree : s.entry = none := by simpa using hentry
      refine .creates call hfree rfl fun j k howns => ?_
      obtain ⟨rfl, howned⟩ | ⟨-, howns⟩ := owns_enter howns
      · exact .inr ⟨rfl, (Option.some.inj howned).symm⟩
      · exact .inl howns
  case h_2 file hphase =>
    split_ifs
    · exact hended
    · exact .keeps rfl fun j k howns =>
        owns_of_enter (s := s) hc (fun k hk => by rw [hphase]; exact hk) howns
  case h_3 file hphase =>
    refine .enter hc fun k hk => ?_
    split_ifs at hk
    · cases hk
    · rw [hphase]
      exact hk
  case h_4 file hphase =>
    refine .enter hc fun k hk => ?_
    split_ifs at hk
    · cases hk
    · rw [hphase]
      exact hk
  case h_5 attempt hphase => exact .enter hc fun k hk => by cases hk
  case h_6 attempt existing hphase =>
    refine .enter hc fun k hk => ?_
    split_ifs at hk <;> cases hk
  case h_7 attempt hphase => exact .enter hc fun k hk => by cases hk
  case h_8 attempt hphase =>
    refine .enter hc fun k hk => ?_
    split_ifs at hk <;> cases hk
  case h_9 attempt hphase =>
    split_ifs with hfails
    · exact hended
    · obtain rfl := Bool.not_eq_true fails ▸ hfails
      cases hentry : s.entry with
      | none => exact retry_effect hc
      | some file =>
        refine .quarantines call c attempt file timeMs rfl hc hphase hentry rfl fun j k howns => ?_
        exact owns_of_enter (s := s) hc (fun k hk => by cases hk) howns
  case h_10 attempt stale hphase =>
    split_ifs
    · exact hended
    · exact retry_effect hc
  case h_11 file hphase =>
    dsimp only
    generalize (if fails = true then none else s.lockFile.bind LockFile.metadata) = current
    refine .enter hc fun k hk => ?_
    split_ifs at hk
    · rw [hphase]
      exact hk
    · cases hk
  case h_12 file hphase =>
    split_ifs
    · exact hended
    · refine .unlinks call file ⟨c, hc, by rw [hphase]; rfl⟩ rfl fun j k howns => ?_
      obtain ⟨-, howned⟩ | ⟨hne, howns⟩ := owns_enter (s := s) howns
      · cases howned
      · exact ⟨howns, hne⟩
  all_goals exact .keeps rfl fun _ _ howns => howns

/-- **What a step can do.** -/
theorem step_effect {e : LockEvent} (h : s.step e = some t) : Effect s e t := by
  cases e with
  | spawn pid =>
    rw [step] at h
    split_ifs at h
    obtain rfl := Option.some.inj h
    exact .keeps rfl fun _ _ howns => howns
  | crash pid =>
    rw [step] at h
    split_ifs at h
    obtain rfl := Option.some.inj h
    refine .keeps rfl fun j k => ?_
    rintro ⟨c, hc, howned⟩
    obtain ⟨before, hbefore, rfl⟩ := Option.map_eq_some_iff.mp (List.getElem?_map ▸ hc)
    split_ifs at howned with hpid
    · cases howned
    · exact ⟨before, hbefore, howned⟩
  | acquire pid createdAt =>
    rw [step] at h
    split_ifs at h
    obtain rfl := Option.some.inj h
    refine .keeps rfl fun j k => ?_
    rintro ⟨c, hc, howned⟩
    rcases List.mem_append.mp (List.mem_of_getElem? hc) with hmem | hmem
    · rcases Nat.lt_or_ge j s.calls.length with hlt | hge
      · exact ⟨c, by rwa [List.getElem?_append_left hlt] at hc, howned⟩
      · rw [List.getElem?_append_right hge] at hc
        have := List.mem_singleton.mp (List.mem_of_getElem? hc)
        subst this
        cases howned
    · have := List.mem_singleton.mp hmem
      subst this
      cases howned
  | advance call fails timeMs =>
    obtain ⟨c, hc, rfl⟩ := Option.map_eq_some_iff.mp h
    exact advance_effect hc fails timeMs
  | release call =>
    rw [step] at h
    split at h
    · next file hphase =>
      obtain ⟨c, hc, hheld⟩ := Option.map_eq_some_iff.mp hphase
      obtain rfl := Option.some.inj h
      exact .enter hc fun k hk => by rw [hheld]; exact hk
    · cases h

/-! ### Exclusion -/

/-- A file that is owned is the lock file, and has one owner. -/
def Owned (s : LockState) : Prop :=
  ∀ owner file, s.Owns owner file →
    s.entry = some file ∧ ∀ other, s.Owns other file → other = owner

lemma owned_step {e : LockEvent} (howned : s.Owned) (h : s.undisturbedStep e = some t) :
    t.Owned := by
  obtain ⟨hsound, h⟩ := Option.ite_none_right_eq_some.mp h
  intro owner file howns
  cases step_effect h with
  | keeps hentry hkept =>
    obtain ⟨hfile, honly⟩ := howned owner file (hkept owner file howns)
    exact ⟨hentry.trans hfile, fun other hother => honly other (hkept other file hother)⟩
  | creates call hfree hentry hkept =>
    -- with no lock file there was no owner
    have hnone : ∀ j k, ¬s.Owns j k := fun j k hjk => by
      have := (howned j k hjk).1
      rw [hfree] at this
      cases this
    have hnew : ∀ j k, t.Owns j k → j = call ∧ k = s.files.length := fun j k hjk =>
      (hkept j k hjk).resolve_left (hnone j k)
    obtain ⟨rfl, rfl⟩ := hnew owner file howns
    exact ⟨hentry, fun other hother => (hnew other _ hother).1⟩
  | quarantines call c attempt away timeMs he hcall hphase hfile hentry hkept =>
    subst he
    have hbefore := hkept owner file howns
    have hsame : away = file :=
      Option.some.inj (hfile.symm.trans (howned owner file hbefore).1)
    obtain ⟨d, hd, hdowned⟩ := hbefore
    rw [undisturbed, hcall, Option.map_some, hphase, hfile] at hsound
    have hne := List.all_eq_true.mp hsound d (List.mem_of_getElem? hd)
    rw [hdowned, hsame] at hne
    exact absurd hne (by simp)
  | unlinks call own howner hentry hkept =>
    obtain ⟨hbefore, hne⟩ := hkept owner file howns
    have hsame : own = file :=
      Option.some.inj ((howned call own howner).1.symm.trans (howned owner file hbefore).1)
    exact absurd ((howned call own howner).2 owner (hsame ▸ hbefore)) hne

lemma owned_initial (leftover : Option LockFile) : (initialLockState leftover).Owned := by
  rintro owner file ⟨c, hc, -⟩
  cases hc

end LockState

open LockState in
/-- **The lock excludes**, as long as no call renames away a file that another call has
created and not given up: at most one call of a process that runs holds the lock, and a
release that unlinks the lock file unlinks its own. -/
theorem lock_excludes (leftover : Option LockFile) (events : List LockEvent) (s : LockState)
    (h : Runs undisturbedStep (initialLockState leftover) events s) :
    (∀ call other, s.Holds call → s.Holds other → call = other)
      ∧ ∀ call c file, s.calls[call]? = some c → c.phase = .unlinking file →
        s.entry = some file ∧ ∀ other, s.Owns other file → other = call := by
  have howned : s.Owned := h.invariant (owned_initial leftover) fun _ _ _ => owned_step
  refine ⟨?_, fun call c file hc hphase => howned call file ⟨c, hc, by rw [hphase]; rfl⟩⟩
  rintro call other ⟨c, file, hc, hheld⟩ ⟨d, file', hd, hheld'⟩
  have howns : s.Owns call file := ⟨c, hc, by rw [hheld]; rfl⟩
  have howns' : s.Owns other file' := ⟨d, hd, by rw [hheld']; rfl⟩
  have hsame : file = file' :=
    Option.some.inj ((howned call file howns).1.symm.trans (howned other file' howns').1)
  exact ((howned call file howns).2 other (hsame ▸ howns')).symm

/-- The file of a process that crashed while it held the lock. -/
def crashedLock : LockFile := ⟨some ⟨7, 100, 0⟩, 0⟩

/-- A call takes some steps, none of which fails. -/
def lockSteps (call count : Nat) : List LockEvent := List.replicate count (.advance call false 0)

/-- A process renames the leftover lock away and acquires its own; another is refused. -/
def takeover : List LockEvent :=
  .spawn 1 :: .spawn 2 :: .acquire 1 0 :: .acquire 2 0 :: (lockSteps 0 9).append (lockSteps 1 3)

def takenOver : LockState where
  files := [crashedLock, ⟨some ⟨1, 0, 0⟩, 0⟩]
  entry := some 1
  calls := [⟨1, 0, .held 1⟩, ⟨2, 0, .ended⟩]
  running := [2, 1]

open LockState in
theorem lock_excludes_takeover :
    (∀ call other, takenOver.Holds call → takenOver.Holds other → call = other)
      ∧ ∀ call c file, takenOver.calls[call]? = some c → c.phase = .unlinking file →
        takenOver.entry = some file ∧ ∀ other, takenOver.Owns other file → other = call :=
  lock_excludes (some crashedLock) takeover takenOver (by decide +kernel)

/-- Two processes find the lock, and read it. -/
def twoJudges : List LockEvent :=
  [.spawn 1, .spawn 2, .acquire 1 0, .acquire 2 0].append ((lockSteps 0 3).append (lockSteps 1 3))

/-- Both judge the lock stale; one renames it away and acquires the lock; the other
renames the new lock away and acquires it as well. -/
def twoHolders : List LockEvent := twoJudges.append ((lockSteps 0 6).append (lockSteps 1 6))

/-- The first releases its lock meanwhile: between its look at the lock file and the
removal the other replaces the file. -/
def foreignRelease : List LockEvent :=
  twoJudges.append ((lockSteps 0 6).append (.release 0 :: (lockSteps 0 1).append (lockSteps 1 6)))

/-- The leftover lock and the two that replaced it, with the calls that created them. -/
def replacedTwice (first : LockPhase) : LockState where
  files := [crashedLock, ⟨some ⟨1, 0, 0⟩, 0⟩, ⟨some ⟨2, 1, 0⟩, 0⟩]
  entry := some 2
  calls := [⟨1, 0, first⟩, ⟨2, 0, .held 2⟩]
  running := [2, 1]

open LockState in
/-- The lock of a process that runs is renamed away and granted a second time, and a
release removes the lock of another call. -/
theorem lock_granted_twice :
    (∃ s, Runs step (initialLockState (some crashedLock)) twoHolders s
      ∧ s.Holds 0 ∧ s.Holds 1 ∧ s.running = [2, 1])
    ∧ ∃ s t, Runs step (initialLockState (some crashedLock)) foreignRelease s
      ∧ s.Holds 1 ∧ s.Owns 1 2 ∧ s.entry = some 2 ∧ s.step (.advance 0 false 0) = some t
      ∧ t.entry = none ∧ t.Holds 1 := by
  refine ⟨⟨replacedTwice (.held 1), by decide +kernel, ⟨_, 1, rfl, rfl⟩, ⟨_, 2, rfl, rfl⟩, rfl⟩,
    replacedTwice (.unlinking 1), _, by decide +kernel, ⟨_, 2, rfl, rfl⟩, ⟨_, rfl, rfl⟩, rfl, rfl,
    rfl, ⟨_, 2, rfl, rfl⟩⟩

end TetiBot

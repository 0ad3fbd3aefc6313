import TetiBot.Network.Types
import TetiBot.Library.Transition

/-
The synchronisation of the public profile (`services/network/profile-service.ts`,
`profile-sync-store.ts`).

* `PendingProfileWrite`: the update that the store keeps while its outcome is not known.
* `ProfilePhase`: where a run of `runUntilClean` waits; `ProfileService.step`: the calls of
  `synchronize`, what the client, the store and the owner's functions answer, the
  continuation of `finally`, and a process that ends.
* `Synchronized`: what the store holds in each phase, and which calls a run still owes a
  look at the desired profile.
* `profile_synchronization_converges`: what is sent, and when a call was served.
-/

namespace TetiBot

open Library Library.JsString

/-! ### Profiles -/

/-- `DesiredTetiNetworkPublicProfile`. -/
structure DesiredProfile where
  profile : Json
  isDiscoverable : Bool

/-- What is read of the document of a profile. -/
structure ProfileDocument where
  tetiId : TetiId
  revision : Nat
  profile : Json
  isDiscoverable : Bool

/-- `TetiNetworkProfileResult`. -/
structure ProfileResult where
  document : ProfileDocument
  etag : String

inductive SynchronizationOutcome
  | unchanged | updated
  deriving DecidableEq

/-- How an attempt to write ended. -/
abbrev WriteOutcome := Except NetworkFailure ProfileResult

/-- How a run of `synchronizeOnce` ended. -/
abbrev SyncResult := Except NetworkFailure (ProfileResult × SynchronizationOutcome)

def sameDesired (document : ProfileDocument) (desired : DesiredProfile) : Bool :=
  document.isDiscoverable == desired.isDiscoverable
    && Json.stringify document.profile == Json.stringify desired.profile

/-- `"profile-r<revision>"`, with its quotation marks. -/
def profileEtag (revision : Nat) : String := "\"profile-r" ++ toString revision ++ "\""

/-! ### The stored update -/

/-- `TetiNetworkPendingProfileWrite`. -/
structure PendingProfileWrite where
  tetiId : TetiId
  expectedRevision : Nat
  ifMatch : String
  idempotencyKey : String
  rawBody : JsString
  deriving DecidableEq

/-- The revision that a body expects. -/
def bodyRevision (rawBody : JsString) : Option Nat :=
  ((Json.parse rawBody).bind recordFields?).bind fun fields => numberField fields "expectedRevision"

/-- `validateProfileSyncRecord`, which guards the store in both directions. -/
def PendingProfileWrite.valid (pending : PendingProfileWrite) : Bool :=
  isCanonicalTetiPublicId pending.tetiId
    && decide (pending.expectedRevision ≤ MAX_SAFE_REVISION)
    && pending.ifMatch == profileEtag pending.expectedRevision
    && isIdempotencyKey pending.idempotencyKey
    && decide (utf8Size pending.rawBody ≤ 16384)
    && bodyRevision pending.rawBody == some pending.expectedRevision

/-- The account and the desired profile that a run has read. -/
structure PreparedProfile where
  tetiId : TetiId
  desired : DesiredProfile

/-- The update of a run, with a key of `idempotencyKeyFactory`. -/
def PreparedProfile.write (p : PreparedProfile) (current : ProfileResult) (idempotencyKey : String) :
    PendingProfileWrite where
  tetiId := p.tetiId
  expectedRevision := current.document.revision
  ifMatch := current.etag
  idempotencyKey := idempotencyKey
  rawBody := Json.stringify (.obj [("schemaVersion", .num 1),
    ("expectedRevision", .num current.document.revision), ("profile", p.desired.profile),
    ("isDiscoverable", .bool p.desired.isDiscoverable)])

/-! ### Runs of the service -/

/-- Where a run waits. -/
inductive ProfilePhase
  | bootstrapping
  /-- `getAuthentication` and `getDesiredProfile` have been called. -/
  | preparing
  | loading (p : PreparedProfile)
  /-- The update of another account is removed. -/
  | dropping (p : PreparedProfile)
  | replaying (p : PreparedProfile) (pending : PendingProfileWrite)
  | clearingReplay (p : PreparedProfile) (pending : PendingProfileWrite) (outcome : WriteOutcome)
  | reading (p : PreparedProfile)
  | storing (p : PreparedProfile) (attempt : Nat) (pending : PendingProfileWrite)
  | sending (p : PreparedProfile) (attempt : Nat) (pending : PendingProfileWrite)
  | clearing (p : PreparedProfile) (attempt : Nat) (pending : PendingProfileWrite) (outcome : WriteOutcome)
  | rereading (p : PreparedProfile)
  /-- The promise has settled, the continuation of `finally` is due. -/
  | finished (result : SyncResult)

/-- A run of `runUntilClean`: when the calls came that share its promise, and when it has
called `getDesiredProfile` last. -/
structure SyncRun where
  calls : List Nat
  readAt : Nat
  phase : ProfilePhase

/-- A call of `synchronize` whose promise has settled. -/
structure ServedCall where
  calledAt : Nat
  readAt : Nat
  result : SyncResult

/-- The service, its store, the calls that were served, and how many events there were. -/
structure ProfileService where
  file : Option PendingProfileWrite
  run : Option SyncRun
  rerunRequested : Bool
  served : List ServedCall
  clock : Nat

inductive ProfileEvent
  | synchronize
  | bootstrapped (result : Except NetworkFailure Unit)
  | prepared (result : Except NetworkFailure PreparedProfile)
  | loaded (fails : Bool)
  | saved (save : SaveResult)
  | replaced (outcome : WriteOutcome)
  | profileRead (result : Except NetworkFailure ProfileResult) (idempotencyKey : String)
  | settled
  /-- The process ends, and starts again. -/
  | ended

namespace ProfileService

/-- `PROFILE_REVISION_CONFLICT`. -/
def isConflict : NetworkFailure → Bool
  | .network code _ => code == .profileRevisionConflict
  | .other => false

variable (s : ProfileService)

/-- The run goes on with another phase. -/
def enter (run : SyncRun) (phase : ProfilePhase) : ProfileService :=
  { s with run := some { run with phase := phase } }

/-- `synchronizeOnce` has ended: the check of the loop. -/
def finish (run : SyncRun) (result : SyncResult) : ProfileService :=
  if result.isOk && s.rerunRequested then
    { s.enter run .bootstrapping with rerunRequested := false }
  else s.enter run (.finished result)

/-- A call to the store returns, or throws. -/
def store (run : SyncRun) (file : Option PendingProfileWrite) (save : SaveResult)
    (next : ProfileService → ProfileService) : ProfileService :=
  match save with
  | .done => next { s with file := file }
  | .failed written =>
    ({ s with file := if written then file else s.file }).finish run (.error .other)

/-- `sendPending`, up to the answer. -/
def sendPending (run : SyncRun) (pending : PendingProfileWrite) (phase : ProfilePhase) :
    ProfileService :=
  if bodyRevision pending.rawBody = some pending.expectedRevision then s.enter run phase
  else s.finish run (.error .other)

/-- The store has been read. -/
def afterLoad (run : SyncRun) (p : PreparedProfile) : ProfileService :=
  match s.file with
  | none => s.enter run (.reading p)
  | some pending =>
    if pending.valid = false then s.finish run (.error .other)
    else if pending.tetiId ≠ p.tetiId then s.enter run (.dropping p)
    else s.sendPending run pending (.replaying p pending)

/-- The answer to a write: a success or a conflict is cleared, every other error is thrown. -/
def afterWrite (run : SyncRun) (outcome : WriteOutcome) (clearing : ProfilePhase) :
    ProfileService :=
  match outcome with
  | .ok _ => s.enter run clearing
  | .error e => if isConflict e then s.enter run clearing else s.finish run (.error e)

/-- The document is compared with the desired profile, and replaced if it differs. -/
def compare (run : SyncRun) (p : PreparedProfile) (attempt : Nat) (current : ProfileResult)
    (idempotencyKey : String) : ProfileService :=
  if sameDesired current.document p.desired then s.finish run (.ok (current, .unchanged))
  else
    let pending := p.write current idempotencyKey
    -- the store checks what it is to write
    if pending.valid then s.enter run (.storing p attempt pending)
    else s.finish run (.error .other)

/-- A run goes on with what it waits for. -/
def advance (run : SyncRun) : ProfilePhase → ProfileEvent → Option ProfileService
  | .bootstrapping, .bootstrapped (.ok ()) =>
    some (s.enter { run with readAt := s.clock } .preparing)
  | .bootstrapping, .bootstrapped (.error e) => some (s.finish run (.error e))
  | .preparing, .prepared (.ok p) => some (s.enter run (.loading p))
  | .preparing, .prepared (.error e) => some (s.finish run (.error e))
  | .loading p, .loaded fails =>
    some (if fails then s.finish run (.error .other) else s.afterLoad run p)
  | .dropping p, .saved save => some (s.store run none save fun s => s.enter run (.reading p))
  | .replaying p pending, .replaced outcome =>
    some (s.afterWrite run outcome (.clearingReplay p pending outcome))
  | .clearingReplay p _ outcome, .saved save =>
    some (s.store run none save fun s => match outcome with
      | .ok result =>
        if sameDesired result.document p.desired then s.finish run (.ok (result, .updated))
        else s.enter run (.reading p)
      | .error _ => s.enter run (.reading p))
  | .reading _, .profileRead (.error e) _ => some (s.finish run (.error e))
  | .reading p, .profileRead (.ok current) idempotencyKey =>
    some (if current.document.tetiId ≠ p.tetiId then
        s.finish run (.error (.network .networkConflict false))
      else s.compare run p 0 current idempotencyKey)
  | .storing p attempt pending, .saved save =>
    some (s.store run (some pending) save fun s =>
      s.sendPending run pending (.sending p attempt pending))
  | .sending p attempt pending, .replaced outcome =>
    some (s.afterWrite run outcome (.clearing p attempt pending outcome))
  | .clearing p attempt _ outcome, .saved save =>
    some (s.store run none save fun s => match outcome with
      | .ok result => s.finish run (.ok (result, .updated))
      | .error e => if attempt = 1 then s.finish run (.error e) else s.enter run (.rereading p))
  | .rereading _, .profileRead (.error e) _ => some (s.finish run (.error e))
  | .rereading p, .profileRead (.ok current) idempotencyKey =>
    some (s.compare run p 1 current idempotencyKey)
  | .finished result, .settled =>
    some { s with
      run := none
      served := s.served ++ run.calls.map fun calledAt => ⟨calledAt, run.readAt, result⟩ }
  | _, _ => none

/-- `synchronize`. -/
def synchronize : ProfileService :=
  match s.run with
  | some run =>
    { s with rerunRequested := true, run := some { run with calls := run.calls ++ [s.clock] } }
  | none => { s with rerunRequested := false, run := some ⟨[s.clock], s.clock, .bootstrapping⟩ }

/-- One event, where it can happen. -/
def step (e : ProfileEvent) : Option ProfileService :=
  let next : Option ProfileService := match e, s.run with
    | .synchronize, _ => some s.synchronize
    | .ended, _ => some { s with run := none, rerunRequested := false }
    | _, some run => s.advance run run.phase e
    | _, none => none
  next.map fun t => { t with clock := s.clock + 1 }

end ProfileService

/-- The service of a process that starts, with what the store holds. -/
def initialProfileService (file : Option PendingProfileWrite) : ProfileService where
  file := file
  run := none
  rerunRequested := false
  served := []
  clock := 0

/-! ### What is stored, and what is owed -/

/-- The outcome is definitive: a success, a conflict, or a rejection that is not to be
retried. -/
def definitive : WriteOutcome → Bool
  | .ok _ => true
  | .error (.network code retryable) => code == .profileRevisionConflict || !retryable
  | .error .other => false

namespace ProfilePhase

/-- The update that is with the client. -/
def underway : ProfilePhase → Option PendingProfileWrite
  | replaying _ pending | sending _ _ pending => some pending
  | _ => none

/-- The update whose outcome is known to be definitive, and that is being removed. -/
def concluded : ProfilePhase → Option PendingProfileWrite
  | clearingReplay _ pending outcome | clearing _ _ pending outcome =>
    if definitive outcome then some pending else none
  | _ => none

/-- The account whose authentication finds the update of another one. -/
def dropsFor : ProfilePhase → Option TetiId
  | dropping p => some p.tetiId
  | _ => none

/-- What the store holds in a phase. -/
def Stores (phase : ProfilePhase) (file : Option PendingProfileWrite) : Prop :=
  match phase with
  | replaying _ pending | sending _ _ pending => file = some pending
  | clearingReplay _ pending outcome | clearing _ _ pending outcome =>
    file = some pending ∧ definitive outcome = true
  | dropping p => ∃ pending, file = some pending ∧ pending.tetiId ≠ p.tetiId
  | reading _ | storing _ _ _ | rereading _ => file = none
  | _ => True

/-- What a run owes a call that shares its promise: a look at the desired profile after
the call, unless it fails. -/
def Owes (phase : ProfilePhase) (rerunRequested : Bool) (readAt call : Nat) : Prop :=
  match phase with
  | bootstrapping | finished (.error _) => True
  | finished (.ok _) => call < readAt
  | _ => rerunRequested = true ∨ call < readAt

end ProfilePhase

namespace ProfileService

variable {s t : ProfileService} {run : SyncRun} {n : Nat}

/-- How store, run and served calls stand; the calls came before `n`. -/
structure Synchronized (n : Nat) (s : ProfileService) : Prop where
  stored : ∀ run ∈ s.run, run.phase.Stores s.file
  called : ∀ run ∈ s.run, ∀ call ∈ run.calls, call < n
  owed : ∀ run ∈ s.run, ∀ call ∈ run.calls, run.phase.Owes s.rerunRequested run.readAt call
  served : ∀ v ∈ s.served, v.result.isOk = true → v.calledAt < v.readAt

/-- A run that goes on, with what it owes its calls. -/
structure Going (n : Nat) (s : ProfileService) (run : SyncRun) : Prop where
  called : ∀ call ∈ run.calls, call < n
  owed : ∀ call ∈ run.calls, s.rerunRequested = true ∨ call < run.readAt
  served : ∀ v ∈ s.served, v.result.isOk = true → v.calledAt < v.readAt

section

variable (h : Going n s run)

include h

lemma Going.setFile (file : Option PendingProfileWrite) :
    Going n { s with file := file } run := { h with }

variable {phase : ProfilePhase}

lemma Going.enter (hstored : phase.Stores s.file) (hgoing : ∀ value, phase ≠ .finished (.ok value)) :
    Synchronized n (s.enter run phase) where
  stored := by rintro _ ⟨⟩; exact hstored
  called := by rintro _ ⟨⟩; exact h.called
  owed := by
    rintro _ ⟨⟩ call hcall
    have howed := h.owed call hcall
    cases phase with
    | bootstrapping => trivial
    | finished result =>
      cases result with
      | error e => trivial
      | ok value => exact absurd rfl (hgoing value)
    | _ => exact howed
  served := h.served

lemma Going.finish (result : SyncResult) : Synchronized n (s.finish run result) := by
  unfold ProfileService.finish
  split_ifs with hagain
  · exact {
      stored := by rintro _ ⟨⟩; trivial
      called := by rintro _ ⟨⟩; exact h.called
      owed := by rintro _ ⟨⟩ call -; trivial
      served := h.served }
  · cases result with
    | error e => exact h.enter trivial fun _ heq => by cases heq
    | ok value =>
      have hclean : s.rerunRequested = false := by
        simpa [Except.isOk, Except.toBool] using hagain
      exact {
        stored := by rintro _ ⟨⟩; trivial
        called := by rintro _ ⟨⟩; exact h.called
        owed := by
          rintro _ ⟨⟩ call hcall
          exact (h.owed call hcall).resolve_left (by simp [hclean])
        served := h.served }

lemma Going.store {file : Option PendingProfileWrite} {save : SaveResult}
    {next : ProfileService → ProfileService}
    (hnext : Going n { s with file := file } run → Synchronized n (next { s with file := file })) :
    Synchronized n (s.store run file save next) := by
  cases save with
  | done => exact hnext (h.setFile file)
  | failed written => exact (h.setFile _).finish _

lemma Going.sendPending {pending : PendingProfileWrite} (hstored : phase.Stores s.file)
    (hgoing : ∀ value, phase ≠ .finished (.ok value)) :
    Synchronized n (s.sendPending run pending phase) := by
  unfold ProfileService.sendPending
  split_ifs
  · exact h.enter hstored hgoing
  · exact h.finish _

lemma Going.afterLoad (p : PreparedProfile) : Synchronized n (s.afterLoad run p) := by
  unfold ProfileService.afterLoad
  cases hfile : s.file with
  | none => exact h.enter hfile fun _ heq => by cases heq
  | some pending =>
    dsimp only
    split_ifs with hvalid htetiId
    · exact h.finish _
    · exact h.enter ⟨pending, hfile, htetiId⟩ fun _ heq => by cases heq
    · exact h.sendPending hfile fun _ heq => by cases heq

lemma Going.afterWrite {outcome : WriteOutcome} {clearing : ProfilePhase}
    (hstored : definitive outcome = true → clearing.Stores s.file)
    (hgoing : ∀ value, clearing ≠ .finished (.ok value)) :
    Synchronized n (s.afterWrite run outcome clearing) := by
  cases outcome with
  | ok result => exact h.enter (hstored rfl) hgoing
  | error e =>
    rw [ProfileService.afterWrite]
    split_ifs with hconflict
    · refine h.enter (hstored ?_) hgoing
      cases e with
      | network code retryable => simpa [definitive] using .inl (by simpa [isConflict] using hconflict)
      | other => cases hconflict
    · exact h.finish _

lemma Going.compare (p : PreparedProfile) (attempt : Nat) (current : ProfileResult) (key : String)
    (hfile : s.file = none) : Synchronized n (s.compare run p attempt current key) := by
  unfold ProfileService.compare
  dsimp only
  split_ifs
  · exact h.finish _
  · exact h.enter hfile fun _ heq => by cases heq
  · exact h.finish _

end

/-- A run between its look at the network and its end. -/
lemma Synchronized.going (h : Synchronized n s) (hrun : s.run = some run)
    (howed : ∀ call, run.phase.Owes s.rerunRequested run.readAt call →
      s.rerunRequested = true ∨ call < run.readAt) : Going n s run where
  called := h.called run hrun
  owed call hcall := howed call (h.owed run hrun call hcall)
  served := h.served

variable {e : ProfileEvent}

/-- **A step of a run** keeps what is stored and owed. -/
lemma synchronized_advance (h : Synchronized s.clock s) (hrun : s.run = some run)
    (hphase : run.phase = phase) (hstep : s.advance run phase e = some t) :
    Synchronized s.clock t := by
  have hstored := h.stored run hrun
  rw [hphase] at hstored
  unfold advance at hstep
  split at hstep
  case h_1 =>
    -- every call came before the look at the desired profile
    have hgoing : Going s.clock s { run with readAt := s.clock } :=
      ⟨h.called run hrun, fun call hcall => .inr (h.called run hrun call hcall), h.served⟩
    exact Option.some.inj hstep ▸ hgoing.enter trivial fun _ heq => by cases heq
  case h_2 e =>
    -- a run that fails owes nothing
    obtain rfl := Option.some.inj hstep
    have hfinish : s.finish run (.error e) = s.enter run (.finished (.error e)) := rfl
    rw [hfinish]
    exact {
      stored := by rintro _ ⟨⟩; trivial
      called := by rintro _ ⟨⟩; exact h.called run hrun
      owed := by rintro _ ⟨⟩ call -; trivial
      served := h.served }
  case h_16 result =>
    obtain rfl := Option.some.inj hstep
    refine ⟨by rintro _ ⟨⟩, by rintro _ ⟨⟩, by rintro _ ⟨⟩, fun v hv hok => ?_⟩
    rcases List.mem_append.mp hv with hold | hnew
    · exact h.served v hold hok
    · obtain ⟨call, hcall, rfl⟩ := List.mem_map.mp hnew
      have howed := h.owed run hrun call hcall
      rw [hphase] at howed
      cases result with
      | ok value => exact howed
      | error e => cases hok
  case h_17 => cases hstep
  all_goals
    have hgoing : Going s.clock s run := h.going hrun fun call howed => by
      rw [hphase] at howed
      exact howed
  case h_3 p => exact Option.some.inj hstep ▸ hgoing.enter trivial fun _ heq => by cases heq
  case h_4 e => exact Option.some.inj hstep ▸ hgoing.finish _
  case h_5 p fails =>
    obtain rfl := Option.some.inj hstep
    split_ifs
    · exact hgoing.finish _
    · exact hgoing.afterLoad p
  case h_6 p save =>
    exact Option.some.inj hstep ▸ hgoing.store fun hempty =>
      hempty.enter rfl fun _ heq => by cases heq
  case h_7 p pending outcome =>
    exact Option.some.inj hstep ▸ hgoing.afterWrite (fun hdefinitive => ⟨hstored, hdefinitive⟩)
      fun _ heq => by cases heq
  case h_8 p pending outcome save =>
    refine Option.some.inj hstep ▸ hgoing.store fun hempty => ?_
    split
    · split_ifs
      · exact hempty.finish _
      · exact hempty.enter rfl fun _ heq => by cases heq
    · exact hempty.enter rfl fun _ heq => by cases heq
  case h_9 p e key => exact Option.some.inj hstep ▸ hgoing.finish _
  case h_10 p current key =>
    obtain rfl := Option.some.inj hstep
    split_ifs
    · exact hgoing.finish _
    · exact hgoing.compare p 0 current key hstored
  case h_11 p attempt pending save =>
    exact Option.some.inj hstep ▸ hgoing.store fun hfull =>
      hfull.sendPending rfl fun _ heq => by cases heq
  case h_12 p attempt pending outcome =>
    exact Option.some.inj hstep ▸ hgoing.afterWrite (fun hdefinitive => ⟨hstored, hdefinitive⟩)
      fun _ heq => by cases heq
  case h_13 p attempt pending outcome save =>
    refine Option.some.inj hstep ▸ hgoing.store fun hempty => ?_
    split
    · exact hempty.finish _
    · split_ifs
      · exact hempty.finish _
      · exact hempty.enter rfl fun _ heq => by cases heq
  case h_14 p e key => exact Option.some.inj hstep ▸ hgoing.finish _
  case h_15 p current key => exact Option.some.inj hstep ▸ hgoing.compare p 1 current key hstored

lemma Synchronized.tick {m : Nat} (h : Synchronized n s) (hn : n ≤ m) :
    Synchronized m { s with clock := m } :=
  { h with called := fun run hrun call hcall => (h.called run hrun call hcall).trans_le hn }

/-! ### The two omissions -/

/-- No write is rejected for good, and no call comes between the end of a run that
succeeded and the continuation of its promise. -/
def sound (s : ProfileService) : ProfileEvent → Bool
  | .replaced (.error (.network code false)) => code == .profileRevisionConflict
  | .synchronize => match s.run.map SyncRun.phase with
    | some (.finished (.ok _)) => false
    | _ => true
  | _ => true

def soundStep (s : ProfileService) (e : ProfileEvent) : Option ProfileService :=
  if s.sound e then s.step e else none

/-- A call that comes while a run goes on is owed another look. -/
lemma synchronized_synchronize (h : Synchronized s.clock s) (hsound : s.sound .synchronize = true) :
    Synchronized (s.clock + 1) s.synchronize := by
  unfold ProfileService.synchronize
  cases hrun : s.run with
  | none =>
    exact {
      stored := by rintro _ ⟨⟩; trivial
      called := by
        rintro _ ⟨⟩ call hcall
        obtain rfl := List.mem_singleton.mp hcall
        exact Nat.lt_succ_self _
      owed := by rintro _ ⟨⟩ call -; trivial
      served := h.served }
  | some run =>
    refine ⟨?_, ?_, ?_, h.served⟩
    · rintro _ ⟨⟩
      exact h.stored run hrun
    · rintro _ ⟨⟩ call hcall
      rcases List.mem_append.mp hcall with hold | hnew
      · exact (h.called run hrun call hold).trans (Nat.lt_succ_self _)
      · obtain rfl := List.mem_singleton.mp hnew
        exact Nat.lt_succ_self _
    · rintro _ ⟨⟩ call -
      obtain ⟨calls, readAt, phase⟩ := run
      cases phase with
      | finished result =>
        cases result with
        | error e => trivial
        | ok value => simp [sound, hrun] at hsound
      | bootstrapping => trivial
      | _ => exact .inl rfl

lemma step_cases (hstep : s.step e = some t) :
    ∃ next : ProfileService, t = { next with clock := s.clock + 1 }
      ∧ ((e = .synchronize ∧ next = s.synchronize)
        ∨ (e = .ended ∧ next = { s with run := none, rerunRequested := false })
        ∨ ∃ run, s.run = some run ∧ s.advance run run.phase e = some next) := by
  obtain ⟨next, hnext, rfl⟩ := Option.map_eq_some_iff.mp hstep
  refine ⟨next, rfl, ?_⟩
  split at hnext
  · exact .inl ⟨rfl, (Option.some.inj hnext).symm⟩
  · exact .inr (.inl ⟨rfl, (Option.some.inj hnext).symm⟩)
  · next run _ _ hrun => exact .inr (.inr ⟨run, hrun, hnext⟩)
  · cases hnext

lemma synchronized_step (h : Synchronized s.clock s) (hstep : s.soundStep e = some t) :
    Synchronized t.clock t := by
  obtain ⟨hsound, hstep⟩ := Option.ite_none_right_eq_some.mp hstep
  obtain ⟨next, rfl, ⟨rfl, rfl⟩ | ⟨-, rfl⟩ | ⟨run, hrun, hnext⟩⟩ := step_cases hstep
  · exact (synchronized_synchronize h hsound).tick le_rfl
  · have hidle : Synchronized s.clock { s with run := none, rerunRequested := false } :=
      ⟨by rintro _ ⟨⟩, by rintro _ ⟨⟩, by rintro _ ⟨⟩, h.served⟩
    exact hidle.tick (Nat.le_succ _)
  · exact (synchronized_advance h hrun rfl hnext).tick (Nat.le_succ _)

/-! ### What a step does to the store -/

@[simp] lemma enter_file (phase : ProfilePhase) : (s.enter run phase).file = s.file := rfl

@[simp] lemma finish_file (result : SyncResult) : (s.finish run result).file = s.file := by
  unfold finish
  split_ifs <;> rfl

@[simp] lemma sendPending_file (pending : PendingProfileWrite) (phase : ProfilePhase) :
    (s.sendPending run pending phase).file = s.file := by
  unfold sendPending
  split_ifs <;> simp

@[simp] lemma afterLoad_file (p : PreparedProfile) : (s.afterLoad run p).file = s.file := by
  unfold afterLoad
  split
  · rfl
  · split_ifs <;> simp

@[simp] lemma afterWrite_file (outcome : WriteOutcome) (clearing : ProfilePhase) :
    (s.afterWrite run outcome clearing).file = s.file := by
  cases outcome with
  | ok result => rfl
  | error e =>
    rw [afterWrite]
    split_ifs <;> simp

@[simp] lemma compare_file (p : PreparedProfile) (attempt : Nat) (current : ProfileResult) (key : String) :
    (s.compare run p attempt current key).file = s.file := by
  unfold compare
  dsimp only
  split_ifs <;> simp

variable {p : PendingProfileWrite}

/-- The stored update of the account is sent. -/
lemma afterLoad_replays {q : PreparedProfile} (hfile : s.file = some p) (hvalid : p.valid = true)
    (htetiId : p.tetiId = q.tetiId) :
    ∃ run' ∈ (s.afterLoad run q).run, run'.phase.underway = some p := by
  have hbody : bodyRevision p.rawBody = some p.expectedRevision := by
    simp only [PendingProfileWrite.valid, Bool.and_eq_true, beq_iff_eq] at hvalid
    exact hvalid.2
  unfold afterLoad
  rw [hfile]
  dsimp only
  rw [if_neg (by simp [hvalid]), if_neg (not_not.mpr htetiId), sendPending, if_pos hbody]
  exact ⟨_, rfl, rfl⟩

/-- The store changes only where there was nothing, or an update that is concluded or
belongs to another account. -/
lemma advance_file (h : phase.Stores s.file) (hstep : s.advance run phase e = some t)
    (hfile : s.file = some p) (hchanged : t.file ≠ some p) :
    phase.concluded = some p ∨ ∃ tetiId, phase.dropsFor = some tetiId ∧ p.tetiId ≠ tetiId := by
  have hkept : t.file ≠ s.file := hfile ▸ hchanged
  unfold advance at hstep
  split at hstep
  case h_6 q save =>
    obtain ⟨pending, hpending, htetiId⟩ := h
    obtain rfl := Option.some.inj (hfile.symm.trans hpending)
    exact .inr ⟨q.tetiId, rfl, htetiId⟩
  case h_8 q pending outcome save =>
    obtain rfl := Option.some.inj (hfile.symm.trans h.1)
    exact .inl (if_pos h.2)
  case h_11 q attempt pending save =>
    have hnone : s.file = none := h
    rw [hnone] at hfile
    cases hfile
  case h_13 q attempt pending outcome save =>
    obtain rfl := Option.some.inj (hfile.symm.trans h.1)
    exact .inl (if_pos h.2)
  case h_17 => cases hstep
  all_goals
    obtain rfl := Option.some.inj hstep
    refine absurd ?_ hkept
    try split_ifs
    all_goals simp

/-- A concluded update is gone when the call to the store returns. -/
lemma advance_removes (hconcluded : phase.concluded = some p)
    (hstep : s.advance run phase (.saved .done) = some t) : t.file = none := by
  cases phase with
  | clearingReplay q pending outcome =>
    obtain rfl := Option.some.inj hstep
    simp only [store]
    cases outcome with
    | ok result =>
      dsimp only
      split_ifs <;> simp
    | error e => rfl
  | clearing q attempt pending outcome =>
    obtain rfl := Option.some.inj hstep
    simp only [store]
    cases outcome with
    | ok result => simp
    | error e =>
      dsimp only
      split_ifs <;> simp
  | _ => cases hconcluded

/-- A definitive outcome concludes the update that is with the client. -/
lemma advance_concludes {outcome : WriteOutcome} (hsound : s.sound (.replaced outcome) = true)
    (hdefinitive : definitive outcome = true)
    (hstep : s.advance run phase (.replaced outcome) = some t) :
    ∃ run' p, t.run = some run' ∧ phase.underway = some p ∧ run'.phase.concluded = some p := by
  have hwrite : ∀ clearing, s.afterWrite run outcome clearing = s.enter run clearing := by
    intro clearing
    cases outcome with
    | ok result => rfl
    | error e =>
      refine if_pos ?_
      cases e with
      | other => cases hdefinitive
      | network code retryable =>
        cases retryable
        · exact hsound
        · simpa [definitive, isConflict] using hdefinitive
  cases phase with
  | replaying q pending =>
    obtain rfl := Option.some.inj hstep
    rw [hwrite]
    exact ⟨_, pending, rfl, rfl, if_pos hdefinitive⟩
  | sending q attempt pending =>
    obtain rfl := Option.some.inj hstep
    rw [hwrite]
    exact ⟨_, pending, rfl, rfl, if_pos hdefinitive⟩
  | _ => cases hstep

end ProfileService

open ProfileService in
/-- **Profile synchronisation converges**, as long as no write is rejected for good and no
call comes between the end of a run that succeeded and its continuation: a call that
resolves was served by a look at the desired profile after it; what is with the client is
what is stored, and a run that finds an update of its account sends it; the stored update
is removed only when its outcome is definitive, or when another account is authenticated;
and a definitive outcome removes it. -/
theorem profile_synchronization_converges (file : Option PendingProfileWrite)
    (events : List ProfileEvent) (s : ProfileService)
    (h : Runs soundStep (initialProfileService file) events s) :
    (∀ v ∈ s.served, v.result.isOk = true → v.calledAt < v.readAt)
      ∧ (∀ run ∈ s.run, ∀ p, run.phase.underway = some p → s.file = some p)
      ∧ (∀ run ∈ s.run, ∀ q p t, run.phase = .loading q → s.file = some p → p.valid = true →
          p.tetiId = q.tetiId → soundStep s (.loaded false) = some t →
          ∃ run' ∈ t.run, run'.phase.underway = some p)
      ∧ (∀ e t p, soundStep s e = some t → s.file = some p → t.file ≠ some p →
          ∃ run ∈ s.run, run.phase.concluded = some p
            ∨ ∃ tetiId, run.phase.dropsFor = some tetiId ∧ p.tetiId ≠ tetiId)
      ∧ (∀ outcome t, soundStep s (.replaced outcome) = some t → definitive outcome = true →
          ∃ run ∈ s.run, ∃ run' ∈ t.run, ∃ p, run.phase.underway = some p
            ∧ run'.phase.concluded = some p)
      ∧ (∀ run ∈ s.run, ∀ t p, run.phase.concluded = some p →
          soundStep s (.saved .done) = some t → t.file = none) := by
  have hall : Synchronized s.clock s := by
    refine h.invariant (I := fun s => Synchronized s.clock s) ?_ fun _ _ _ => synchronized_step
    exact ⟨by rintro _ ⟨⟩, by rintro _ ⟨⟩, by rintro _ ⟨⟩, by rintro _ ⟨⟩⟩
  refine ⟨hall.served, ?_, ?_, ?_, ?_, ?_⟩
  · intro run hrun p hunderway
    have hstored := hall.stored run hrun
    revert hunderway hstored
    cases run.phase <;> rintro ⟨⟩ hstored
    · exact hstored
    · exact hstored
  · intro run hrun q p t hphase hfile hvalid htetiId hstep
    obtain ⟨-, hstep⟩ := Option.ite_none_right_eq_some.mp hstep
    obtain ⟨next, rfl, ⟨⟨⟩, -⟩ | ⟨⟨⟩, -⟩ | ⟨other, hother, hnext⟩⟩ := step_cases hstep
    obtain rfl := Option.some.inj (hrun.symm.trans hother)
    rw [hphase] at hnext
    obtain rfl := Option.some.inj hnext
    exact afterLoad_replays hfile hvalid htetiId
  · intro e t p hstep hfile hchanged
    obtain ⟨-, hstep⟩ := Option.ite_none_right_eq_some.mp hstep
    obtain ⟨next, rfl, ⟨rfl, rfl⟩ | ⟨-, rfl⟩ | ⟨run, hrun, hnext⟩⟩ := step_cases hstep
    · refine absurd ?_ hchanged
      unfold synchronize
      split <;> exact hfile
    · exact absurd hfile hchanged
    · exact ⟨run, hrun, advance_file (hall.stored run hrun) hnext hfile hchanged⟩
  · intro outcome t hstep hdefinitive
    obtain ⟨hsound, hstep⟩ := Option.ite_none_right_eq_some.mp hstep
    obtain ⟨next, rfl, ⟨⟨⟩, -⟩ | ⟨⟨⟩, -⟩ | ⟨run, hrun, hnext⟩⟩ := step_cases hstep
    obtain ⟨run', p, hrun', hunderway, hconcluded⟩ := advance_concludes hsound hdefinitive hnext
    exact ⟨run, hrun, run', hrun', p, hunderway, hconcluded⟩
  · intro run hrun t p hconcluded hstep
    obtain ⟨-, hstep⟩ := Option.ite_none_right_eq_some.mp hstep
    obtain ⟨next, rfl, ⟨⟨⟩, -⟩ | ⟨⟨⟩, -⟩ | ⟨other, hother, hnext⟩⟩ := step_cases hstep
    obtain rfl := Option.some.inj (hrun.symm.trans hother)
    have hremoved : next.file = none := advance_removes hconcluded hnext
    exact hremoved

/-- A profile, as it is desired. -/
def namedProfile (name : String) : DesiredProfile := ⟨.obj [("displayName", jsonText name)], true⟩

/-- A document with this profile. -/
def namedDocument (name : String) : ProfileResult :=
  ⟨⟨"teti_abcdefgh1", 3, (namedProfile name).profile, true⟩, profileEtag 3⟩

/-- A run up to the point where it has read the store. -/
def upToLoad (name : String) : List ProfileEvent :=
  [.synchronize, .bootstrapped (.ok ()), .prepared (.ok ⟨"teti_abcdefgh1", namedProfile name⟩),
    .loaded false]

/-- A run that writes a profile. -/
def writtenProfile : List ProfileEvent :=
  upToLoad "Ada" ++ [.profileRead (.ok (namedDocument "Bob")) "profile.replace:0001", .saved .done,
    .replaced (.ok (namedDocument "Ada")), .saved .done, .settled]

open ProfileService in
theorem profile_synchronization_converges_write :
    ∃ s, Runs soundStep (initialProfileService none) writtenProfile s ∧ s.served.length = 1
      ∧ ∀ v ∈ s.served, v.result.isOk = true → v.calledAt < v.readAt := by
  obtain ⟨s, hrun, hserved⟩ := Runs.exists_of_any (p := fun s => s.served.length == 1)
    (by decide +kernel : (writtenProfile.foldlM soundStep (initialProfileService none)).any _ = true)
  exact ⟨s, hrun, by simpa using hserved, (profile_synchronization_converges none _ s hrun).1⟩

/-- A write is rejected for good; the next run, for another profile, sends it again. -/
def rejectedTwice : List ProfileEvent :=
  upToLoad "Ada" ++ [.profileRead (.ok (namedDocument "Bob")) "profile.replace:0001", .saved .done,
    .replaced (.error (.network .networkRequestRejected false)), .settled]
    ++ upToLoad "Eve" ++ [.replaced (.error (.network .networkRequestRejected false)), .settled]

/-- A call comes after the end of a run, and before its continuation. -/
def lateCall : List ProfileEvent :=
  upToLoad "Ada" ++ [.profileRead (.ok (namedDocument "Ada")) "profile.replace:0001", .synchronize,
    .settled]

/-- When the calls came, when the desired profile was read for them, and whether they
were resolved. -/
def ProfileService.account (s : ProfileService) : List (Nat × Nat × Bool) :=
  s.served.map fun v => (v.calledAt, v.readAt, v.result.isOk)

open ProfileService in
/-- The update that was rejected for good is still stored, and the run for the next profile
has failed on it; and the late call was resolved without a look at the desired profile. -/
theorem profile_write_blocks_and_call_lost :
    (∃ s, Runs step (initialProfileService none) rejectedTwice s
      ∧ s.file = some ((PreparedProfile.mk "teti_abcdefgh1" (namedProfile "Ada")).write
        (namedDocument "Bob") "profile.replace:0001")
      ∧ s.account = [(0, 1, false), (8, 9, false)])
    ∧ ∃ s, Runs step (initialProfileService none) lateCall s
      ∧ s.account = [(0, 1, true), (5, 1, true)] := by
  constructor
  · obtain ⟨s, hrun, hseen⟩ := Runs.exists_of_any (p := fun s =>
        s.file == some ((PreparedProfile.mk "teti_abcdefgh1" (namedProfile "Ada")).write
          (namedDocument "Bob") "profile.replace:0001")
          && s.account == [(0, 1, false), (8, 9, false)])
      (by decide +kernel : (rejectedTwice.foldlM step (initialProfileService none)).any _ = true)
    simp only [Bool.and_eq_true, beq_iff_eq] at hseen
    exact ⟨s, hrun, hseen⟩
  · obtain ⟨s, hrun, hseen⟩ := Runs.exists_of_any (p := fun s =>
        s.account == [(0, 1, true), (5, 1, true)])
      (by decide +kernel : (lateCall.foldlM step (initialProfileService none)).any _ = true)
    exact ⟨s, hrun, by simpa using hseen⟩

end TetiBot

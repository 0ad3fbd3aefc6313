import TetiBot.Library.Transition

/-
The guarded creation of an account (`lifecycle-sidecar/handler.ts`, `marker.ts`,
`core/account/manager.ts`).

* `CreationMarker`, `isUnsafeIncompleteMarker`: the file around a creation, and when the
  next creation takes it for an unfinished one.
* `CreationPhase`: where an attempt waits; `CreationState.step`: calls, the steps of the
  attempt they share, and a process that ends at any point.
* `Guarded`: an identity without a saved account stands behind an unsafe marker.
* `creation_provisions_once`: when no identity is provisioned while another one has no saved
  account.
-/

namespace TetiBot

open Library

/-! ### The marker -/

inductive CreationMarkerStage
  | notStarted | provisioning | identityCreated | persisting | persisted
  | synchronizingNetworkIdentity | complete | failedRecoverable | failedFatal
  deriving DecidableEq

/-- The file of the marker; `torn` is one that a write has left half done. -/
inductive CreationMarker
  | absent
  | torn
  | written (stage : CreationMarkerStage)
  deriving DecidableEq

/-- `readCreationMarker`; a file that cannot be read, or parsed, counts as none. -/
def readCreationMarker (fails : Bool) : CreationMarker → Option CreationMarkerStage
  | .written stage => if fails then none else some stage
  | .absent | .torn => none

def isUnsafeIncompleteMarker : Option CreationMarkerStage → Bool
  | none => false
  | some stage =>
    !([.notStarted, .complete, .failedRecoverable, .failedFatal] : List CreationMarkerStage).contains stage

/-- What an unfinished write of the file leaves. -/
inductive WriteRemnant
  | old | torn | new
  deriving DecidableEq

def WriteRemnant.file (old new : CreationMarker) : WriteRemnant → CreationMarker
  | .old => old
  | .torn => .torn
  | .new => new

/-! ### Attempts -/

/-- Where an attempt waits. -/
inductive CreationPhase
  /-- The profile, the stored account and the relay, in `performGuardedRealTetiAccountCreation`. -/
  | validating
  | readingMarker
  /-- The marker `provisioning`. -/
  | announcing
  /-- `createTetiAccount` loads the account once more. -/
  | loading
  /-- `createIdentity`. -/
  | provisioning
  /-- The address is checked, the environment scanned. -/
  | scanning
  | reportingIdentityCreated
  | reportingPersisting
  | saving
  /-- Markers whose failure is only noted. -/
  | recording (stage : CreationMarkerStage) (rest : List CreationMarkerStage)
  /-- The `catch` block writes the marker of the failure. -/
  | failing
  /-- The promise has settled, `finally` is due. -/
  | settled
  deriving DecidableEq

/-- The marker that a phase writes; that of a failure, whose two stages are read alike, stands
for both. -/
def CreationPhase.writes : CreationPhase → Option CreationMarkerStage
  | announcing => some .provisioning
  | reportingIdentityCreated => some .identityCreated
  | reportingPersisting => some .persisting
  | recording stage _ => some stage
  | failing => some .failedRecoverable
  | _ => none

/-- The marker, whether an account is stored, the attempt in flight, how many attempts
there were, and for which of them each call waits. -/
structure CreationState where
  marker : CreationMarker
  account : Bool
  attempt : Option CreationPhase
  started : Nat
  waiting : List Nat
  /-- The identities that came into being and whose account was not saved. -/
  unsaved : Nat
  deriving DecidableEq

/-- How `createIdentity` ends; it may have configured the relay identity and then throw. -/
inductive ProvisionResult
  | created
  | threw (configured : Bool)
  deriving DecidableEq

inductive CreationEvent
  | create
  | validated (ok : Bool)
  | markerRead (fails : Bool)
  /-- A write of the marker returns, or it throws and leaves something. -/
  | markerWritten (result : Except WriteRemnant Unit)
  | loaded (ok : Bool)
  | provisioned (result : ProvisionResult)
  | scanned (ok : Bool)
  | saved (ok : Bool)
  /-- The marker of a failure, whose stage depends on the message. -/
  | failureWritten (fatal : Bool) (result : Except WriteRemnant Unit)
  | cleared
  /-- The process ends, within a write or a provisioning; another one starts. -/
  | ended (remnant : WriteRemnant) (configured : Bool)

namespace CreationState

variable (s : CreationState)

def enter (phase : CreationPhase) : CreationState :=
  { s with attempt := some phase }

/-- The marker after a write. -/
def mark (stage : CreationMarkerStage) (result : Except WriteRemnant Unit) : CreationState :=
  { s with marker := match result with
    | .ok () => .written stage
    | .error remnant => remnant.file s.marker (.written stage) }

/-- `createGuardedRealTetiAccount`: a call shares the attempt in flight. -/
def create : CreationState :=
  match s.attempt with
  | some _ => { s with waiting := s.waiting ++ [s.started - 1] }
  | none => { s with attempt := some .validating, started := s.started + 1, waiting := [s.started] }

/-- The attempt goes on with what it waits for. -/
def advance : CreationPhase → CreationEvent → Option CreationState
  | .validating, .validated ok => some (s.enter (if ok && !s.account then .readingMarker else .settled))
  | .readingMarker, .markerRead fails =>
    some (s.enter (if isUnsafeIncompleteMarker (readCreationMarker fails s.marker) then .settled
      else .announcing))
  | .announcing, .markerWritten result =>
    some ((s.mark .provisioning result).enter (if result.isOk then .loading else .settled))
  | .loading, .loaded ok =>
    some (s.enter (if !ok then .failing else if s.account then .recording .complete []
      else .provisioning))
  | .provisioning, .provisioned .created => some ({ s with unsaved := s.unsaved + 1 }.enter .scanning)
  | .provisioning, .provisioned (.threw configured) =>
    some ({ s with unsaved := if configured then s.unsaved + 1 else s.unsaved }.enter .failing)
  | .scanning, .scanned ok => some (s.enter (if ok then .reportingIdentityCreated else .failing))
  | .reportingIdentityCreated, .markerWritten result =>
    some ((s.mark .identityCreated result).enter (if result.isOk then .reportingPersisting else .failing))
  | .reportingPersisting, .markerWritten result =>
    some ((s.mark .persisting result).enter (if result.isOk then .saving else .failing))
  | .saving, .saved true =>
    some ({ s with account := true, unsaved := s.unsaved - 1 }.enter
      (.recording .persisted [.complete, .complete]))
  | .saving, .saved false => some (s.enter .failing)
  | .recording stage [], .markerWritten result => some ((s.mark stage result).enter .settled)
  | .recording stage (next :: rest), .markerWritten result =>
    some ((s.mark stage result).enter (.recording next rest))
  | .failing, .failureWritten fatal result =>
    some ((s.mark (if fatal then .failedFatal else .failedRecoverable) result).enter .settled)
  | .settled, .cleared => some { s with attempt := none, waiting := [] }
  | _, _ => none

/-- The process ends. -/
def crash (remnant : WriteRemnant) (configured : Bool) : CreationState :=
  { s with
    marker := match s.attempt.bind CreationPhase.writes with
      | some stage => remnant.file s.marker (.written stage)
      | none => s.marker
    attempt := none
    waiting := []
    unsaved := if s.attempt = some .provisioning ∧ configured = true then s.unsaved + 1 else s.unsaved }

/-- One event, where it can happen. -/
def step (e : CreationEvent) : Option CreationState :=
  match e, s.attempt with
  | .create, _ => some s.create
  | .ended remnant configured, _ => some (s.crash remnant configured)
  | e, some phase => s.advance phase e
  | _, none => none

end CreationState

/-- A process that starts, before any identity was provisioned. -/
def initialCreation (marker : CreationMarker) (account : Bool) : CreationState where
  marker := marker
  account := account
  attempt := none
  started := 0
  waiting := []
  unsaved := 0

/-! ### What guards an identity -/

/-- The marker keeps the next attempt from provisioning. -/
def CreationMarker.guards (marker : CreationMarker) : Bool :=
  isUnsafeIncompleteMarker (readCreationMarker false marker)

/-- What holds in a phase: an identity whose account is not saved stands behind a marker
that guards it, and none is there when another one may come into being. -/
def CreationPhase.Guards (phase : Option CreationPhase) (marker : CreationMarker) (unsaved : Nat) :
    Prop :=
  match phase with
  | some .announcing | some (.recording _ _) | some .failing => unsaved = 0
  | some .loading | some .provisioning => unsaved = 0 ∧ marker.guards = true
  | some .scanning | some .reportingIdentityCreated | some .reportingPersisting | some .saving =>
    unsaved = 1 ∧ marker.guards = true
  | none | some .validating | some .readingMarker | some .settled =>
    unsaved = 0 ∨ (unsaved = 1 ∧ marker.guards = true)

namespace CreationState

/-- Between the creation of an identity and the save of its account nothing fails, no
process that ends there leaves half a marker, and the marker of such an identity is read
where it is. -/
def sound (s : CreationState) : CreationEvent → Bool
  | .markerRead fails => !fails || s.unsaved == 0
  | .markerWritten (.error _) =>
    s.attempt != some .reportingIdentityCreated && s.attempt != some .reportingPersisting
  | .provisioned (.threw configured) => !configured
  | .scanned ok | .saved ok => ok
  | .ended .torn _ =>
    s.attempt != some .reportingIdentityCreated && s.attempt != some .reportingPersisting
  | _ => true

def soundStep (s : CreationState) (e : CreationEvent) : Option CreationState :=
  if s.sound e then s.step e else none

/-- The marker guards, and the calls wait for the attempt in flight. -/
structure Guarded (s : CreationState) : Prop where
  guards : CreationPhase.Guards s.attempt s.marker s.unsaved
  started : s.attempt.isSome → 0 < s.started
  waiting : ∀ call ∈ s.waiting, s.attempt.isSome ∧ call + 1 = s.started

variable {s t : CreationState} {phase : CreationPhase} {e : CreationEvent}

/-- A step of the attempt leaves the calls alone. -/
lemma Guarded.enter (h : s.Guarded) (hattempt : s.attempt.isSome) {marker : CreationMarker}
    {account : Bool} {unsaved : Nat} (hguards : CreationPhase.Guards (some phase) marker unsaved) :
    ({ s with marker := marker, account := account, unsaved := unsaved }.enter phase).Guarded :=
  ⟨hguards, fun _ => h.started hattempt, fun call hcall => ⟨rfl, (h.waiting call hcall).2⟩⟩

lemma guarded_create (h : s.Guarded) : s.create.Guarded := by
  have hguards := h.guards
  unfold create
  cases hattempt : s.attempt with
  | none =>
    rw [hattempt] at hguards
    refine ⟨hguards, fun _ => Nat.succ_pos _, fun call hcall => ?_⟩
    obtain rfl := List.mem_singleton.mp hcall
    exact ⟨rfl, rfl⟩
  | some phase =>
    have hstarted := h.started (by simp [hattempt])
    rw [hattempt] at hguards
    refine ⟨hguards, fun _ => hstarted, fun call hcall => ⟨rfl, ?_⟩⟩
    rcases List.mem_append.mp hcall with hold | hnew
    · exact (h.waiting call hold).2
    · obtain rfl := List.mem_singleton.mp hnew
      exact Nat.sub_add_cancel hstarted

/-- A write of a marker that guards, over one that does. -/
lemma guards_remnant {remnant : WriteRemnant} {old : CreationMarker} {stage : CreationMarkerStage}
    (hwhole : remnant ≠ .torn) (hold : old.guards = true)
    (hnew : (CreationMarker.written stage).guards = true) :
    (remnant.file old (.written stage)).guards = true := by
  cases remnant with
  | old => exact hold
  | torn => exact absurd rfl hwhole
  | new => exact hnew

/-- A process that ends leaves a guarded identity, or none. -/
lemma guarded_crash {remnant : WriteRemnant} {configured : Bool} (h : s.Guarded)
    (hsound : s.sound (.ended remnant configured) = true) : (s.crash remnant configured).Guarded := by
  refine ⟨?_, by rintro ⟨⟩, by rintro _ ⟨⟩⟩
  have hguards := h.guards
  have hwhole : s.attempt = some .reportingIdentityCreated ∨ s.attempt = some .reportingPersisting →
      remnant ≠ .torn := by
    rintro hreporting rfl
    rcases hreporting with hattempt | hattempt <;> simp [sound, hattempt] at hsound
  show CreationPhase.Guards none _ _
  cases hattempt : s.attempt with
  | none =>
    rw [hattempt] at hguards
    simpa [crash, hattempt] using hguards
  | some phase =>
    rw [hattempt] at hguards hwhole
    simp only [crash, hattempt, Option.bind_some, Option.some.injEq]
    cases phase with
    | provisioning =>
      obtain ⟨hunsaved, hmarker⟩ := hguards
      cases configured <;> simp [CreationPhase.Guards, CreationPhase.writes, hunsaved, hmarker]
    | reportingIdentityCreated =>
      exact .inr ⟨hguards.1, guards_remnant (hwhole (.inl rfl)) hguards.2 rfl⟩
    | reportingPersisting =>
      exact .inr ⟨hguards.1, guards_remnant (hwhole (.inr rfl)) hguards.2 rfl⟩
    | scanning => exact .inr hguards
    | saving => exact .inr hguards
    | validating => exact hguards
    | readingMarker => exact hguards
    | settled => exact hguards
    | loading => exact .inl hguards.1
    | announcing => exact .inl hguards
    | recording stage rest => exact .inl hguards
    | failing => exact .inl hguards

/-- **A step of an attempt** keeps its identity guarded. -/
lemma guarded_advance (h : s.Guarded) (hattempt : s.attempt = some phase)
    (hsound : s.sound e = true) (hstep : s.advance phase e = some t) : t.Guarded := by
  have hguards := h.guards
  have hsome : s.attempt.isSome := by rw [hattempt]; rfl
  rw [hattempt] at hguards
  unfold advance at hstep
  split at hstep
  case h_1 ok =>
    obtain rfl := Option.some.inj hstep
    refine h.enter hsome ?_
    split_ifs <;> exact hguards
  case h_2 fails =>
    obtain rfl := Option.some.inj hstep
    refine h.enter hsome ?_
    split_ifs with hunsafe
    · exact hguards
    · -- a marker that guards would have been read
      refine hguards.resolve_right fun ⟨hunsaved, hmarker⟩ => hunsafe ?_
      have hfails : fails = false := by simpa [sound, hunsaved] using hsound
      rw [hfails]
      exact hmarker
  case h_3 result =>
    obtain rfl := Option.some.inj hstep
    refine h.enter hsome ?_
    cases result with
    | error remnant => exact .inl hguards
    | ok => exact ⟨hguards, rfl⟩
  case h_4 ok =>
    obtain rfl := Option.some.inj hstep
    refine h.enter hsome ?_
    split_ifs
    · exact hguards.1
    · exact hguards.1
    · exact hguards
  case h_5 =>
    obtain rfl := Option.some.inj hstep
    exact h.enter hsome ⟨congrArg (· + 1) hguards.1, hguards.2⟩
  case h_6 configured =>
    obtain rfl := Option.some.inj hstep
    have hnone : configured = false := by simpa [sound] using hsound
    refine h.enter hsome ?_
    rw [hnone]
    exact hguards.1
  case h_7 ok =>
    obtain rfl := Option.some.inj hstep
    have hok : ok = true := hsound
    refine h.enter hsome ?_
    rw [hok]
    exact hguards
  case h_8 result =>
    obtain rfl := Option.some.inj hstep
    refine h.enter hsome ?_
    cases result with
    | error remnant => simp [sound, hattempt] at hsound
    | ok => exact ⟨hguards.1, rfl⟩
  case h_9 result =>
    obtain rfl := Option.some.inj hstep
    refine h.enter hsome ?_
    cases result with
    | error remnant => simp [sound, hattempt] at hsound
    | ok => exact ⟨hguards.1, rfl⟩
  case h_10 =>
    obtain rfl := Option.some.inj hstep
    exact h.enter hsome (congrArg (· - 1) hguards.1)
  case h_11 => cases hsound
  case h_12 stage result =>
    obtain rfl := Option.some.inj hstep
    exact h.enter hsome (.inl hguards)
  case h_13 stage next rest result =>
    obtain rfl := Option.some.inj hstep
    exact h.enter hsome hguards
  case h_14 fatal result =>
    obtain rfl := Option.some.inj hstep
    exact h.enter hsome (.inl hguards)
  case h_15 =>
    obtain rfl := Option.some.inj hstep
    exact ⟨hguards, by rintro ⟨⟩, by rintro _ ⟨⟩⟩
  case h_16 => cases hstep

lemma guarded_step (h : s.Guarded) (hstep : s.soundStep e = some t) : t.Guarded := by
  obtain ⟨hsound, hstep⟩ := Option.ite_none_right_eq_some.mp hstep
  unfold step at hstep
  split at hstep
  · exact Option.some.inj hstep ▸ guarded_create h
  · exact Option.some.inj hstep ▸ guarded_crash h hsound
  · exact guarded_advance h ‹_› hsound hstep
  · cases hstep

end CreationState

open CreationState in
/-- **Guarded creation provisions once**, as long as nothing fails between the creation of
an identity and the save of its account, no process that ends there leaves half a marker,
and the marker of an identity without a saved account is read where it is: no identity is
provisioned while another one has no saved account, and all calls that wait share the
attempt in flight. -/
theorem creation_provisions_once (marker : CreationMarker) (account : Bool)
    (events : List CreationEvent) (s : CreationState)
    (h : Runs soundStep (initialCreation marker account) events s) :
    (s.attempt = some .provisioning → s.unsaved = 0)
      ∧ s.unsaved ≤ 1
      ∧ ∀ call ∈ s.waiting, s.attempt.isSome ∧ call + 1 = s.started := by
  have hguarded : s.Guarded := by
    refine h.invariant ?_ fun _ _ _ => guarded_step
    exact ⟨.inl rfl, by rintro ⟨⟩, by rintro _ ⟨⟩⟩
  have hguards := hguarded.guards
  refine ⟨fun hattempt => ?_, ?_, hguarded.waiting⟩
  · rw [hattempt] at hguards
    exact hguards.1
  · unfold CreationPhase.Guards at hguards
    split at hguards <;> omega

/-- An attempt that provisions an identity, up to the save of its account. -/
def untilSaved : List CreationEvent :=
  [.create, .validated true, .markerRead false, .markerWritten (.ok ()), .loaded true,
    .provisioned .created, .scanned true, .markerWritten (.ok ()), .markerWritten (.ok ())]

/-- An attempt whose process ends before the save, and the next attempt. -/
def abandoned : List CreationEvent :=
  untilSaved ++ [.ended .old false, .create, .validated true, .markerRead false]

open CreationState in
theorem creation_provisions_once_abandoned :
    ∃ s, Runs soundStep (initialCreation .absent false) abandoned s
      ∧ s.attempt = some .settled ∧ s.unsaved = 1 ∧ s.unsaved ≤ 1 :=
  ⟨_, rfl, rfl, rfl, (creation_provisions_once .absent false abandoned _ rfl).2.1⟩

/-- An attempt that cannot save its account, and the next attempt. -/
def provisionedAgain : List CreationEvent :=
  untilSaved ++ [.saved false, .failureWritten true (.ok ()), .cleared, .create, .validated true,
    .markerRead false, .markerWritten (.ok ()), .loaded true]

open CreationState in
/-- The account of an identity cannot be saved; the marker of that failure counts as safe,
and the next attempt provisions another identity. -/
theorem creation_provisions_again :
    ∃ s, Runs step (initialCreation .absent false) provisionedAgain s
      ∧ s.attempt = some .provisioning ∧ s.unsaved = 1 :=
  ⟨_, rfl, rfl, rfl⟩

end TetiBot

import TetiBot.Desktop.FirstLaunch

/-
Runs of the first launch.

* `busy`, `activity`: the states in which somebody waits for the coordinator, and the one of
  them for which a pending call is answerable.
* `Follows`: a turn hands the activity of its call over to the state, or to the next `await`.
* `FirstLaunchSound`: the pending calls answer for exactly the state, and nothing legal was an
  invalid transition.
* `windowMoves`: the window is moved where no handler is prepared for a failure.
* `first_launch_never_stranded`: then every run leaves the busy states.
-/

namespace TetiBot

open Library

/-! ### Activities -/

/-- The state, if it is one that only a pending call can leave. -/
def FirstLaunchStateName.busy : FirstLaunchStateName → List FirstLaunchStateName
  | .checkingExistingAccount => [.checkingExistingAccount]
  | .creatingIdentity => [.creatingIdentity]
  | .synchronizingNetworkIdentity => [.synchronizingNetworkIdentity]
  | _ => []

/-- The busy state that a call will leave. -/
def FirstLaunchAwait.activity : FirstLaunchAwait → List FirstLaunchStateName
  | .loadExisting => [.checkingExistingAccount]
  | .expandForCreation _ | .createTetiAccount _ | .verifyCreated _ | .loadPersistedAfterFailure _ =>
    [.creatingIdentity]
  | .loadForRetry | .synchronizeNetworkIdentity | .verifySynchronized _ =>
    [.synchronizingNetworkIdentity]
  | .positionWindow _ | .expandForLoadError _ | .creationInFlight _
  | .networkIdentityRetryInFlight _ => []

/-- Whether the call is the one for which `creationInFlight` is set. -/
def FirstLaunchAwait.creates : FirstLaunchAwait → Bool
  | .expandForCreation _ | .createTetiAccount _ | .verifyCreated _ | .loadPersistedAfterFailure _
  | .creationInFlight _ => true
  | _ => false

/-- The result is no `InvalidFirstLaunchTransitionError`. -/
def validResult : FirstLaunchResult → Bool
  | .error (.invalidTransition _ _) => false
  | _ => true

def FirstLaunchAwait.valid : FirstLaunchAwait → Bool
  | .creationInFlight result | .networkIdentityRetryInFlight result => validResult result
  | _ => true

/-- The window moves, unless it is to show an error that the state has already recorded. -/
def FirstLaunchAwait.windowMoves : FirstLaunchAwait → FirstLaunchOutcome → Bool
  | .positionWindow _, .window (.error _) => false
  | .expandForCreation _, .window (.error _) => false
  | _, _ => true

namespace FirstLaunchProgress

def activity : FirstLaunchProgress → List FirstLaunchStateName
  | awaits point => point.activity
  | settles _ => []

def creates : FirstLaunchProgress → Bool
  | awaits point => point.creates
  | settles _ => false

def valid : FirstLaunchProgress → Bool
  | awaits point => point.valid
  | settles result => validResult result

end FirstLaunchProgress

/-! ### Turns -/

/-- What a turn does to the coordinator `c`, for a call with an activity that creates or not:
either it leaves both as they are, or the call was answerable for the state and its next
`await` is answerable for the new one. -/
structure FirstLaunchTurn.Follows (t : FirstLaunchTurn) (c : FirstLaunchCoordinator)
    (activity : List FirstLaunchStateName) (creates legal : Bool) : Prop where
  activity : t.progress.activity = activity ∧ t.coordinator.snapshot.state.busy = c.snapshot.state.busy
    ∨ activity = c.snapshot.state.busy ∧ t.progress.activity = t.coordinator.snapshot.state.busy
  creation : t.coordinator.creationInFlight.toNat + creates.toNat
    = c.creationInFlight.toNat + t.progress.creates.toNat
  valid : legal = true → t.progress.valid = true

namespace FirstLaunchCoordinator

variable {c : FirstLaunchCoordinator} {event : FirstLaunchEvent} {legal : Bool}
  {next : FirstLaunchCoordinator → FirstLaunchSnapshot → FirstLaunchTurn}
  {caught : FirstLaunchThrown → FirstLaunchTurn}

lemma transition_of_allowed (h : event.allowed c.snapshot.state = true) :
    c.transition event next caught
      = next { c with snapshot := event.next c.snapshot } (event.next c.snapshot) := by
  simp [transition, reduce, h]

lemma transition_of_refused (h : event.allowed c.snapshot.state = false) :
    c.transition event next caught = caught (.invalidTransition event.type c.snapshot.state) := by
  simp [transition, reduce, h]

/-- A call that settles at once and leaves the state. -/
lemma settles_follows {result : FirstLaunchResult} (h : legal = true → validResult result = true) :
    (c.settles result).Follows c [] false legal :=
  ⟨.inl ⟨rfl, rfl⟩, rfl, h⟩

/-- A transition that its state refuses, by a call that was not legal. -/
lemma refused_follows (h : event.allowed c.snapshot.state = false)
    (hlegal : legal = true → event.allowed c.snapshot.state = true) :
    (c.transition event next fun thrown => c.settles (.error thrown)).Follows c [] false legal := by
  rw [transition_of_refused h]
  exact settles_follows fun hl => by simp [hlegal hl] at h

/-- A call that goes on from a state for which it is answerable to an `await` that is
answerable for the new state. -/
lemma awaits_follows {snapshot : FirstLaunchSnapshot} {scheduled : Nat} {retry : Bool}
    {activity : List FirstLaunchStateName} {creates : Bool} {point : FirstLaunchAwait}
    (hactivity : activity = c.snapshot.state.busy) (hpoint : point.activity = snapshot.state.busy)
    (hcreates : point.creates = creates) (hvalid : point.valid = true) :
    (FirstLaunchCoordinator.awaits ⟨snapshot, c.creationInFlight, retry, scheduled⟩ point).Follows c activity
      creates legal :=
  ⟨.inr ⟨hactivity, hpoint⟩, by simp [awaits, FirstLaunchProgress.creates, hcreates], fun _ => hvalid⟩

/-- A call that is nothing but a transition between states that are not busy. -/
lemma applies_follows (hbusy : event.allowed c.snapshot.state = true →
      c.snapshot.state.busy = [] ∧ (event.next c.snapshot).state.busy = [])
    (hlegal : legal = true → event.allowed c.snapshot.state = true) :
    (c.applies event).Follows c [] false legal := by
  cases h : event.allowed c.snapshot.state with
  | false => exact refused_follows h hlegal
  | true =>
    rw [applies, transition_of_allowed h]
    obtain ⟨hold, hnew⟩ := hbusy h
    exact ⟨.inl ⟨rfl, hnew.trans hold.symm⟩, rfl, fun _ => rfl⟩

/-! ### The turns of `initialize` -/

lemma initializeFirstLaunch_follows
    (hlegal : legal = true → FirstLaunchEvent.startCheck.allowed c.snapshot.state = true) :
    c.initializeFirstLaunch.Follows c [] false legal := by
  cases h : FirstLaunchEvent.startCheck.allowed c.snapshot.state with
  | false => exact refused_follows h hlegal
  | true =>
    rw [initializeFirstLaunch, transition_of_allowed h]
    refine awaits_follows ?_ rfl rfl rfl
    revert h
    cases c.snapshot.state <;> simp [FirstLaunchEvent.allowed, FirstLaunchStateName.busy]

lemma initializeFailed_follows (hstate : c.snapshot.state = .checkingExistingAccount)
    (error : FirstLaunchThrown) :
    (c.initializeFailed error).Follows c [.checkingExistingAccount] false legal := by
  rw [initializeFailed, transition_of_allowed (by rw [hstate]; rfl)]
  refine awaits_follows (congrArg FirstLaunchStateName.busy hstate.symm) ?_ rfl rfl
  simp only [FirstLaunchEvent.next]
  split <;> rfl

lemma initializeLoaded_follows (hstate : c.snapshot.state = .checkingExistingAccount)
    (outcome : Except FirstLaunchRejection (Option FirstLaunchAccount)) :
    (c.initializeLoaded outcome).Follows c [.checkingExistingAccount] false legal := by
  match outcome with
  | .error rejection => exact initializeFailed_follows hstate _
  | .ok (some account) =>
    rw [initializeLoaded, transition_of_allowed (by rw [hstate]; rfl)]
    exact awaits_follows (congrArg FirstLaunchStateName.busy hstate.symm) rfl rfl rfl
  | .ok none =>
    rw [initializeLoaded, transition_of_allowed (by rw [hstate]; rfl)]
    exact awaits_follows (congrArg FirstLaunchStateName.busy hstate.symm) rfl rfl rfl

/-! ### The turns of `submitName` -/

/-- A name that is not valid is refused in a state that is not busy: while an identity is
being created, the call joins the creation. -/
lemma submitName_follows {normalize : JsString → JsString} {rawName : Option JsString}
    (hcreation : c.snapshot.state = .creatingIdentity → c.creationInFlight = true)
    (hlegal : legal = true → c.legal (.submitName rawName) = true) :
    (c.submitName normalize rawName).Follows c [] false legal := by
  rw [submitName]
  cases hflight : c.creationInFlight with
  | true => exact settles_follows fun _ => rfl
  | false =>
    have hnot : c.snapshot.state ≠ .creatingIdentity := fun h => by simp [hcreation h] at hflight
    simp only [FirstLaunchCoordinator.legal, hflight, Bool.false_or] at hlegal
    simp only [Bool.false_eq_true, if_false]
    cases validateTetiDisplayName normalize (rawName.getD c.snapshot.nameInput) with
    | error reason =>
      refine applies_follows (fun h => ⟨?_, rfl⟩) fun hl => ?_
      · revert h hnot
        cases c.snapshot.state <;> simp [FirstLaunchEvent.allowed, FirstLaunchStateName.busy]
      · have hstate := hlegal hl
        revert hstate
        cases c.snapshot.state <;> simp [FirstLaunchEvent.allowed]
    | ok name =>
      cases h : (FirstLaunchEvent.submitName name).allowed c.snapshot.state with
      | false => exact refused_follows h hlegal
      | true =>
        simp only
        rw [transition_of_allowed h]
        refine ⟨.inr ⟨?_, rfl⟩, by simp [hflight]; rfl, fun _ => rfl⟩
        revert h
        cases c.snapshot.state <;> simp [FirstLaunchEvent.allowed, FirstLaunchStateName.busy]

section

variable (hstate : c.snapshot.state = .creatingIdentity)

include hstate

lemma createIdentityFailed_follows (error : FirstLaunchThrown) :
    (c.createIdentityFailed error).Follows c [.creatingIdentity] true legal :=
  awaits_follows (congrArg FirstLaunchStateName.busy hstate.symm) (congrArg FirstLaunchStateName.busy hstate.symm) rfl rfl

lemma createIdentity_follows (name : JsString) :
    (c.createIdentity name).Follows c [.creatingIdentity] true legal := by
  rw [createIdentity, transition_of_allowed (by rw [hstate]; rfl)]
  exact awaits_follows (congrArg FirstLaunchStateName.busy hstate.symm) (congrArg FirstLaunchStateName.busy hstate.symm) rfl rfl

lemma createIdentityCreated_follows (outcome : Except FirstLaunchRejection FirstLaunchAccount) :
    (c.createIdentityCreated outcome).Follows c [.creatingIdentity] true legal := by
  match outcome with
  | .error rejection => exact createIdentityFailed_follows hstate _
  | .ok created =>
    rw [createIdentityCreated, transition_of_allowed (by rw [hstate]; rfl)]
    exact awaits_follows (congrArg FirstLaunchStateName.busy hstate.symm) (congrArg FirstLaunchStateName.busy hstate.symm) rfl rfl

lemma createIdentityVerified_follows (created : FirstLaunchAccount)
    (loaded : Except FirstLaunchRejection (Option FirstLaunchAccount)) :
    (c.createIdentityVerified created loaded).Follows c [.creatingIdentity] true legal := by
  rw [createIdentityVerified]
  match verifyLoadedAccount created loaded with
  | .error thrown => exact createIdentityFailed_follows hstate _
  | .ok verified =>
    simp only
    rw [transition_of_allowed (by rw [hstate]; rfl)]
    exact awaits_follows (congrArg FirstLaunchStateName.busy hstate.symm) rfl rfl rfl

/-- Whatever went wrong, `creation_succeeded` or `creation_failed` is allowed. -/
lemma createIdentityRecovered_follows (error : FirstLaunchThrown)
    (loaded : Except FirstLaunchRejection (Option FirstLaunchAccount)) :
    (c.createIdentityRecovered error loaded).Follows c [.creatingIdentity] true legal := by
  rw [createIdentityRecovered]
  split
  · rw [transition_of_allowed (by rw [hstate]; rfl)]
    exact awaits_follows (congrArg FirstLaunchStateName.busy hstate.symm) rfl rfl rfl
  · rw [transition_of_allowed (by rw [hstate]; rfl)]
    refine awaits_follows (congrArg FirstLaunchStateName.busy hstate.symm) ?_ rfl rfl
    simp only [FirstLaunchEvent.next]
    split <;> rfl

end

/-! ### The turns of `retryNetworkIdentity` -/

lemma retryNetworkIdentity_follows
    (hlegal : legal = true → c.legal .retryNetworkIdentity = true) :
    c.retryNetworkIdentity.Follows c [] false legal := by
  rw [retryNetworkIdentity]
  cases hflight : c.networkIdentityRetryInFlight with
  | true => exact settles_follows fun _ => rfl
  | false =>
    simp only [FirstLaunchCoordinator.legal, hflight, Bool.false_or] at hlegal
    simp only [Bool.false_eq_true, if_false]
    cases h : FirstLaunchEvent.registrationRetryStarted.allowed c.snapshot.state with
    | false =>
      rw [transition_of_refused (c := { c with networkIdentityRetryInFlight := true }) h]
      exact ⟨.inl ⟨rfl, rfl⟩, rfl, fun hl => by simp [hlegal hl] at h⟩
    | true =>
      have hidle : c.snapshot.state.busy = [] := by
        revert h
        cases c.snapshot.state <;> simp [FirstLaunchEvent.allowed, FirstLaunchStateName.busy]
      rw [transition_of_allowed (c := { c with networkIdentityRetryInFlight := true }) h]
      split
      · exact awaits_follows hidle.symm rfl rfl rfl
      · exact awaits_follows hidle.symm rfl rfl rfl

section

variable (hstate : c.snapshot.state = .synchronizingNetworkIdentity)

include hstate

lemma retryFailed_follows :
    c.retryFailed.Follows c [.synchronizingNetworkIdentity] false legal := by
  rw [retryFailed, transition_of_allowed (by rw [hstate]; rfl)]
  exact awaits_follows (congrArg FirstLaunchStateName.busy hstate.symm) rfl rfl rfl

lemma retryLoaded_follows (outcome : Except FirstLaunchRejection (Option FirstLaunchAccount)) :
    (c.retryLoaded outcome).Follows c [.synchronizingNetworkIdentity] false legal := by
  match outcome with
  | .error _ => exact retryFailed_follows hstate
  | .ok (some _) => exact awaits_follows (congrArg FirstLaunchStateName.busy hstate.symm) (congrArg FirstLaunchStateName.busy hstate.symm) rfl rfl
  | .ok none =>
    rw [retryLoaded, transition_of_allowed (by rw [hstate]; rfl)]
    exact awaits_follows (congrArg FirstLaunchStateName.busy hstate.symm) rfl rfl rfl

lemma retrySynchronized_follows (outcome : Except FirstLaunchRejection FirstLaunchAccount) :
    (c.retrySynchronized outcome).Follows c [.synchronizingNetworkIdentity] false legal := by
  match outcome with
  | .error _ => exact retryFailed_follows hstate
  | .ok synchronized => exact awaits_follows (congrArg FirstLaunchStateName.busy hstate.symm) (congrArg FirstLaunchStateName.busy hstate.symm) rfl rfl

lemma retryVerified_follows (synchronized : FirstLaunchAccount)
    (loaded : Except FirstLaunchRejection (Option FirstLaunchAccount)) :
    (c.retryVerified synchronized loaded).Follows c [.synchronizingNetworkIdentity] false legal := by
  rw [retryVerified]
  match verifyLoadedAccount synchronized loaded with
  | .error _ => exact retryFailed_follows hstate
  | .ok verified =>
    simp only
    rw [transition_of_allowed (by rw [hstate]; rfl)]
    exact awaits_follows (congrArg FirstLaunchStateName.busy hstate.symm) rfl rfl rfl

end

/-! ### Calls and awaits -/

lemma start_follows (normalize : JsString → JsString) (call : FirstLaunchCall)
    (hcreation : c.snapshot.state = .creatingIdentity → c.creationInFlight = true) :
    (c.start normalize call).Follows c [] false (c.legal call) := by
  cases call with
  | initializeFirstLaunch => exact initializeFirstLaunch_follows id
  | showNaming =>
    refine applies_follows (fun h => ⟨?_, rfl⟩) id
    revert h
    cases c.snapshot.state <;> simp [FirstLaunchEvent.allowed, FirstLaunchStateName.busy]
  | updateName value =>
    refine applies_follows (fun h => ?_) id
    revert h
    simp only [FirstLaunchEvent.next]
    cases c.snapshot.state <;> simp [FirstLaunchEvent.allowed, FirstLaunchStateName.busy]
  | submitName rawName => exact submitName_follows hcreation id
  | retryNetworkIdentity => exact retryNetworkIdentity_follows id
  | collapseReadyToIdle =>
    refine applies_follows (fun h => ⟨?_, rfl⟩) id
    revert h
    cases c.snapshot.state <;> simp [FirstLaunchEvent.allowed, FirstLaunchStateName.busy]

/-- A call that is answerable for the state, or for no state, goes on; a creation that has
ended finds `creationInFlight` set. -/
lemma resume_follows {point : FirstLaunchAwait} {outcome : FirstLaunchOutcome} {t : FirstLaunchTurn}
    (h : c.resume point outcome = some t) (hwindow : point.windowMoves outcome = true)
    (hactivity : ∀ state ∈ point.activity, c.snapshot.state = state)
    (hcreates : point.creates = true → c.creationInFlight = true)
    (hvalid : legal = true → point.valid = true) :
    t.Follows c point.activity point.creates legal := by
  revert h hwindow
  fun_cases resume c point outcome <;> intro h hwindow <;> cases h
  case case1 outcome => exact initializeLoaded_follows (hactivity _ (List.mem_singleton_self _)) outcome
  case case2 | case4 => exact settles_follows fun _ => rfl
  case case3 => cases hwindow
  case case5 rejection => exact settles_follows fun _ => rfl
  case case6 => exact createIdentity_follows (hactivity _ (List.mem_singleton_self _)) _
  case case7 => cases hwindow
  case case8 outcome => exact createIdentityCreated_follows (hactivity _ (List.mem_singleton_self _)) outcome
  case case9 created outcome =>
    exact createIdentityVerified_follows (hactivity _ (List.mem_singleton_self _)) created outcome
  case case10 error outcome =>
    exact createIdentityRecovered_follows (hactivity _ (List.mem_singleton_self _)) error outcome
  case case11 result =>
    exact ⟨.inl ⟨rfl, rfl⟩, by simp [submitNameEnded, hcreates rfl]; rfl, hvalid⟩
  case case12 outcome => exact retryLoaded_follows (hactivity _ (List.mem_singleton_self _)) outcome
  case case13 outcome => exact retrySynchronized_follows (hactivity _ (List.mem_singleton_self _)) outcome
  case case14 synchronized outcome =>
    exact retryVerified_follows (hactivity _ (List.mem_singleton_self _)) synchronized outcome
  case case15 result => exact ⟨.inl ⟨rfl, rfl⟩, rfl, hvalid⟩

end FirstLaunchCoordinator

/-! ### The invariant of a run -/

/-- The pending calls are answerable for the state if it is busy and for nothing else, one of
them holds `creationInFlight`, and no legal call is to end, or has ended, in an invalid
transition. -/
structure FirstLaunchSound (w : FirstLaunch) : Prop where
  activity : (w.pending.flatMap (·.point.activity)).Perm w.coordinator.snapshot.state.busy
  creation : (w.pending.map (·.point.creates.toNat)).sum = w.coordinator.creationInFlight.toNat
  pending : ∀ call ∈ w.pending, call.legal = true → call.point.valid = true
  settled : ∀ call ∈ w.settled, call.legal = true → validResult call.result = true

namespace FirstLaunchSound

variable {w w' : FirstLaunch} {normalize : JsString → JsString}

/-- A state that is busy is the activity of the calls that are answerable for it. -/
lemma eq_of_mem_busy {state a : FirstLaunchStateName} (h : a ∈ state.busy) : state = a := by
  cases state <;> simp_all [FirstLaunchStateName.busy]

/-- A call goes on among the other pending calls. -/
lemma proceed {activity : List FirstLaunchStateName} {creates legal : Bool} {t : FirstLaunchTurn}
    (ht : t.Follows w.coordinator activity creates legal)
    (hactivity : (activity ++ w.pending.flatMap (·.point.activity)).Perm w.coordinator.snapshot.state.busy)
    (hcreation : creates.toNat + (w.pending.map (·.point.creates.toNat)).sum
      = w.coordinator.creationInFlight.toNat)
    (hpending : ∀ call ∈ w.pending, call.legal = true → call.point.valid = true)
    (hsettled : ∀ call ∈ w.settled, call.legal = true → validResult call.result = true) :
    FirstLaunchSound (w.proceed legal t) := by
  have hnew : (w.pending.flatMap (·.point.activity) ++ t.progress.activity).Perm
      t.coordinator.snapshot.state.busy := by
    obtain ⟨hsame, hbusy⟩ | ⟨hall, hnext⟩ := ht.activity
    · rw [hsame, hbusy]
      exact List.perm_append_comm.trans hactivity
    · -- the call was answerable for the whole state, the others for nothing
      have hothers : w.pending.flatMap (·.point.activity) = [] := by
        have hlength := hactivity.length_eq
        rw [hall, List.length_append] at hlength
        exact List.length_eq_zero_iff.mp (by omega)
      rw [hothers, hnext]
      exact List.Perm.refl _
  have hflag := ht.creation
  rw [FirstLaunch.proceed]
  cases hprogress : t.progress with
  | awaits point =>
    simp only [hprogress, FirstLaunchProgress.activity, FirstLaunchProgress.creates] at hnew hflag
    refine ⟨by simpa using hnew, ?_, fun call hcall hl => ?_, hsettled⟩
    · simp only [List.map_append, List.map_cons, List.map_nil, List.sum_append, List.sum_cons,
        List.sum_nil]
      omega
    · rcases List.mem_append.mp hcall with hcall | hcall
      · exact hpending call hcall hl
      · obtain rfl := List.mem_singleton.mp hcall
        have hvalid := ht.valid hl
        rwa [hprogress] at hvalid
  | settles result =>
    simp only [hprogress, FirstLaunchProgress.activity, FirstLaunchProgress.creates] at hnew hflag
    refine ⟨by simpa using hnew, ?_, hpending, fun call hcall hl => ?_⟩
    · simp only [Bool.toNat_false] at hflag
      simp only
      omega
    · rcases List.mem_append.mp hcall with hcall | hcall
      · exact hsettled call hcall hl
      · obtain rfl := List.mem_singleton.mp hcall
        have hvalid := ht.valid hl
        rwa [hprogress] at hvalid

/-- While an identity is being created, `creationInFlight` is set. -/
lemma creating (h : FirstLaunchSound w) (hstate : w.coordinator.snapshot.state = .creatingIdentity) :
    w.coordinator.creationInFlight = true := by
  have hmem : .creatingIdentity ∈ w.pending.flatMap (·.point.activity) :=
    h.activity.mem_iff.mpr (by rw [hstate]; exact List.mem_singleton_self _)
  obtain ⟨call, hcall, hactivity⟩ := List.mem_flatMap.mp hmem
  have hcreates : call.point.creates = true := by
    revert hactivity
    cases call.point <;> simp [FirstLaunchAwait.activity, FirstLaunchAwait.creates]
  have hle := List.single_le_sum (by simp) _ (List.mem_map_of_mem (f := (·.point.creates.toNat)) hcall)
  rw [h.creation, hcreates] at hle
  cases hflag : w.coordinator.creationInFlight with
  | true => rfl
  | false => simp [hflag] at hle

/-- The other pending calls, and the one that goes on. -/
lemma resume {index : Nat} {call : PendingFirstLaunchCall} {outcome : FirstLaunchOutcome}
    {t : FirstLaunchTurn} (h : FirstLaunchSound w) (hcall : w.pending[index]? = some call)
    (hwindow : call.point.windowMoves outcome = true)
    (ht : w.coordinator.resume call.point outcome = some t) :
    FirstLaunchSound ({ w with pending := w.pending.eraseIdx index }.proceed call.legal t) := by
  obtain ⟨hlt, hget⟩ := List.getElem?_eq_some_iff.mp hcall
  have hperm : (call :: w.pending.eraseIdx index).Perm w.pending := by
    rw [← hget]
    exact List.getElem_cons_eraseIdx_perm hlt
  have hmem : call ∈ w.pending := List.mem_of_getElem? hcall
  have hactivity := (hperm.flatMap_right (·.point.activity)).trans h.activity
  rw [List.flatMap_cons] at hactivity
  have hcreation := (hperm.map (·.point.creates.toNat)).sum_eq.trans h.creation
  rw [List.map_cons, List.sum_cons] at hcreation
  have hothers : ∀ other ∈ w.pending.eraseIdx index, other.legal = true → other.point.valid = true :=
    fun other hother => h.pending other (hperm.subset (List.mem_cons_of_mem _ hother))
  refine proceed (FirstLaunchCoordinator.resume_follows ht hwindow (fun state hstate => ?_)
    (fun hcreates => ?_) (h.pending call hmem)) hactivity hcreation hothers h.settled
  · exact eq_of_mem_busy (hactivity.subset (List.mem_append_left _ hstate))
  · rw [hcreates] at hcreation
    cases hflag : w.coordinator.creationInFlight with
    | true => rfl
    | false =>
      simp only [hflag, Bool.toNat_true, Bool.toNat_false] at hcreation
      omega

/-- The timer goes from `ready` to `idle`, or does nothing. -/
lemma readyCollapse (h : FirstLaunchSound w) :
    FirstLaunchSound { w with
      coordinator := { w.coordinator with scheduled := w.coordinator.scheduled - 1 }.readyCollapse } := by
  rw [FirstLaunchCoordinator.readyCollapse]
  split
  · rename_i hready
    have hidle := h.activity
    rw [hready] at hidle
    rw [FirstLaunchCoordinator.collapseReadyToIdle, FirstLaunchCoordinator.applies,
      FirstLaunchCoordinator.transition_of_allowed (by rw [hready]; rfl)]
    exact ⟨hidle, h.creation, h.pending, h.settled⟩
  · exact ⟨h.activity, h.creation, h.pending, h.settled⟩

end FirstLaunchSound

/-! ### Runs -/

/-- The condition on a step of a run: the window moves where the call that waits for it has no
handler, or has one that takes the failure for one of the load. -/
def windowsMove (w : FirstLaunch) : FirstLaunchStep → Bool
  | .resume index outcome => (w.pending[index]?).all fun call => call.point.windowMoves outcome
  | _ => true

lemma FirstLaunchSound.step {w w' : FirstLaunch} {normalize : JsString → JsString}
    {e : FirstLaunchStep} (h : FirstLaunchSound w) (hwindows : windowsMove w e = true)
    (hstep : firstLaunchStep normalize w e = some w') : FirstLaunchSound w' := by
  cases e with
  | call call =>
    obtain rfl := Option.some.inj hstep
    exact proceed (FirstLaunchCoordinator.start_follows normalize call h.creating) h.activity
      (by simpa using h.creation) h.pending h.settled
  | resume index outcome =>
    simp only [firstLaunchStep, Option.bind_eq_bind, Option.bind_eq_some_iff] at hstep
    obtain ⟨call, hcall, t, ht, hw⟩ := hstep
    obtain rfl := Option.some.inj hw
    simp only [windowsMove, hcall, Option.all_some] at hwindows
    exact h.resume hcall hwindows ht
  | readyCollapse =>
    simp only [firstLaunchStep, Option.ite_none_left_eq_some] at hstep
    obtain ⟨-, hw⟩ := hstep
    obtain rfl := Option.some.inj hw
    exact h.readyCollapse

/-- **The first launch is not stranded**: calls are made at any time, and every dependency
succeeds or fails as it likes, the window only where it is to show an error; then no call that
was legal ends in an invalid transition, and when all calls have settled the state is none of
those in which a call is at work. -/
theorem first_launch_never_stranded {normalize : JsString → JsString} {w : FirstLaunch}
    {events : List FirstLaunchStep}
    (h : Runs (guarded windowsMove (firstLaunchStep normalize)) {} events w) :
    (∀ call ∈ w.settled, call.legal = true →
        ∀ type state, call.result ≠ .error (.invalidTransition type state))
      ∧ (w.pending = [] → w.coordinator.snapshot.state ∉
          [.checkingExistingAccount, .creatingIdentity, .synchronizingNetworkIdentity]) := by
  have hsound : FirstLaunchSound w := by
    refine Runs.invariant (I := FirstLaunchSound) ?_ (fun s e t hs hstep => ?_) h
    · exact ⟨List.Perm.refl _, rfl, by simp, by simp⟩
    · obtain ⟨hwindows, hstep⟩ := guarded_eq_some.mp hstep
      exact hs.step hwindows hstep
  constructor
  · intro call hcall hlegal type state hresult
    have hvalid := hsound.settled call hcall hlegal
    rw [hresult] at hvalid
    cases hvalid
  · intro hpending hmem
    have hidle := hsound.activity
    rw [hpending, List.flatMap_nil, List.nil_perm] at hidle
    revert hidle hmem
    cases w.coordinator.snapshot.state <;> simp [FirstLaunchStateName.busy]

/-- A creation that fails, and a retry that succeeds, end in a state that can be left. -/
theorem first_launch_never_stranded_ada :
    ∃ w : FirstLaunch, (w.pending = [] ∧ w.coordinator.snapshot.state = .idle)
      ∧ (∀ call ∈ w.settled, call.legal = true →
          ∀ type state, call.result ≠ .error (.invalidTransition type state))
      ∧ (w.pending = [] → w.coordinator.snapshot.state ∉
          [.checkingExistingAccount, .creatingIdentity, .synchronizingNetworkIdentity]) := by
  let ada : FirstLaunchAccount := ⟨"teti", "chatmail", none⟩
  let failed : FirstLaunchRejection := .error (JsString.ofString "fetch failed") none
  obtain ⟨w, hw, hseen⟩ : ∃ w, Runs (guarded windowsMove (firstLaunchStep id)) {}
      [.call .initializeFirstLaunch, .resume 0 (.loaded (.ok none)), .resume 0 (.window (.ok ())),
        .call (.submitName (some (JsString.ofString "Ada"))), .resume 0 (.window (.ok ())),
        .resume 0 (.identity (.error failed)), .resume 0 (.loaded (.error failed)), .resume 0 .settled,
        .call .retryNetworkIdentity, .resume 0 (.loaded (.ok (some ada))),
        .resume 0 (.identity (.ok ada)), .resume 0 (.loaded (.ok (some ada))), .resume 0 .settled,
        .readyCollapse] w
      ∧ w.pending = [] ∧ w.coordinator.snapshot.state = .idle :=
    Runs.exists_of_decide (by decide +kernel)
  exact ⟨w, hseen, first_launch_never_stranded hw⟩

/-- No account is found and a name is submitted.  When the window cannot be expanded for the
creation, every call settles and the state stays `creating_identity`; when it cannot be
expanded for the welcome, `initialize` ends in an invalid transition. -/
theorem window_failure_strands :
    (∃ w, Runs (firstLaunchStep id) {}
        [.call .initializeFirstLaunch, .resume 0 (.loaded (.ok none)), .resume 0 (.window (.ok ())),
          .call (.submitName (some (JsString.ofString "Ada"))),
          .resume 0 (.window (.error (.error (JsString.ofString "window closed") none))),
          .resume 0 .settled] w
      ∧ w.pending = [] ∧ w.coordinator.snapshot.state = .creatingIdentity)
    ∧ ∃ w, Runs (firstLaunchStep id) {}
        [.call .initializeFirstLaunch, .resume 0 (.loaded (.ok none)),
          .resume 0 (.window (.error (.error (JsString.ofString "window closed") none)))] w
      ∧ w.pending = []
      ∧ w.settled = [⟨true, .error (.invalidTransition "load_failed" .welcome)⟩] :=
  ⟨Runs.exists_of_decide (by decide +kernel), Runs.exists_of_decide (by decide +kernel)⟩

end TetiBot

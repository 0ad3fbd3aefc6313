import TetiBot.Callable.Moves

/-
Cancelation in the host kernel (`cancel` and `run` of `runtime/callable/kernel.ts`).

* `ExecutionControl.Unpublished`: a run that has published nothing;
* `ExecutionControl.Doomed`: a run that cannot publish a result any more, and
  what a run does with this when it goes on;
* `HostKernel.Interruptible`: a call of `cancel` reaches the run before its last
  check;
* `HostKernel.cancel_wins`: a run that such a call cancels publishes nothing;
* `HostKernel.cancel_loses`: a later call returns `true` as well;
* `HostKernel.runs_once`, `HostKernel.shutdown_final`: what holds in every run.
-/

namespace TetiBot

open Library

/-! ### What a run awaits -/

namespace RunStage

/-- A termination that is requested now is found when the process ends. -/
def heeding : RunStage → Bool
  | .opening _ | .preparingHandle _ | .preparing | .launching | .feeding | .executing => true
  | _ => false

/-- The run was found to be superseded. -/
def stopping : RunStage → Bool
  | .checking _ current | .imageChecking _ _ _ current | .imageRechecking _ _ _ current
  | .rechecking _ current => !current
  | .imagesDiscarding => true
  | _ => false

/-- The run asks the registry again before it publishes its result. -/
def rechecks : RunStage → Bool
  | .checking _ _ | .imageChecking _ _ _ _ | .imageStoring _ _ _ | .imageRechecking _ _ _ _ => true
  | _ => false

/-- The result is not yet published. -/
def unpublished : RunStage → Bool
  | .publishing _ | .closing | .recording | .settling | .finished => false
  | _ => true

end RunStage

namespace ExecutionControl

/-- The run has published nothing. -/
structure Unpublished (control : ExecutionControl) : Prop where
  state : control.machine.state ≠ .completed
  artifact : control.machine.artifact = none
  committed : control.committed = false

/-- Before it publishes its result, a run has published nothing. -/
def Sound (control : ExecutionControl) : Prop :=
  control.stage.unpublished = true → control.Unpublished

/-- The registry knows another execution of the task, or that this one has ended. -/
def Lost (registry : Option ExecutionHandleStoreState) (control : ExecutionControl) : Prop :=
  ∃ stored, registry = some stored ∧ control.isCurrent stored = false

/-- A run that cannot publish a result any more. -/
def Doomed (registry : Option ExecutionHandleStoreState) (control : ExecutionControl) : Prop :=
  match control.stage with
  | .opening _ | .preparingHandle _ | .preparing | .launching | .feeding | .executing =>
    control.terminationReason.isSome = true
  | .checking _ current | .imageChecking _ _ _ current | .imageRechecking _ _ _ current =>
    current = false ∨ control.Lost registry
  | .imageStoring _ _ _ => control.Lost registry
  | .rechecking _ current => current = false
  | .imagesDiscarding => True
  | .queued | .cleaning _ | .publishing _ => False
  | .closing | .recording | .settling | .finished => control.Unpublished

variable {host : HostOptions} {registry : Option ExecutionHandleStoreState}
  {control : ExecutionControl}

namespace Unpublished

section

variable (h : control.Unpublished)
include h

lemma fail (code : String) : (control.fail code).Unpublished := by
  rw [ExecutionControl.fail, CallableAdapterTaskSnapshot.fail]
  split_ifs
  · exact ⟨h.state, h.artifact, h.committed⟩
  · exact ⟨by simp [close], rfl, h.committed⟩

lemma cancel (code : String) : (control.cancel code).Unpublished := by
  rw [ExecutionControl.cancel, CallableAdapterTaskSnapshot.cancel]
  split_ifs
  · exact ⟨h.state, h.artifact, h.committed⟩
  · exact ⟨by simp [close], rfl, h.committed⟩

lemma finishTermination (reason : TerminationReason) :
    (control.finishTermination reason).Unpublished := by
  cases reason with
  | cancel => exact h.cancel _
  | shutdown => exact h.cancel _
  | timeout => exact h.fail _
  | outputLimit => exact h.fail _

lemma catchError (code : String) : (control.catchError code).Unpublished := by
  rw [ExecutionControl.catchError]
  cases control.terminationReason with
  | none => exact h.fail code
  | some reason => exact h.finishTermination reason

lemma withdraw (code : String) (accepted : Bool) : (control.withdraw code accepted).Unpublished :=
  ⟨(h.cancel code).state, (h.cancel code).artifact, h.committed⟩

end

end Unpublished

/-! ### A run publishes at its end only -/

lemma sound_close (machine : CallableAdapterTaskSnapshot) : (control.close machine).Sound :=
  fun h => nomatch h

lemma sound_finishTermination (reason : TerminationReason) :
    (control.finishTermination reason).Sound := by
  cases reason <;> exact sound_close _

lemma sound_catchError (code : String) : (control.catchError code).Sound := by
  rw [catchError]
  cases control.terminationReason with
  | none => exact sound_close _
  | some reason => exact sound_finishTermination reason

lemma sound_publish (artifact : CallableAdapterTaskArtifact) :
    (control.publish host artifact).Sound := by
  rw [publish]
  split_ifs
  · intro hunpublished
    cases hunpublished
  · exact sound_close _

lemma sound_release (h : control.Unpublished) (artifact : CallableAdapterTaskArtifact)
    (now : Timestamp) : (control.release host artifact now).Sound := by
  rw [release]
  split_ifs
  · exact sound_close _
  · exact fun _ => ⟨h.state, h.artifact, h.committed⟩
  · exact sound_publish artifact

lemma sound_recheck (h : control.Unpublished) (artifact : CallableAdapterTaskArtifact)
    (now : Timestamp) : (control.recheck host registry artifact now).Sound := by
  cases registry with
  | none => exact sound_release h artifact now
  | some stored => exact fun _ => ⟨h.state, h.artifact, h.committed⟩

lemma sound_nextImage (h : control.Unpublished) (text : JsString) (rest : List String)
    (stored : List TaskImagePart) (now : Timestamp) :
    (control.nextImage host registry text rest stored now).Sound := by
  cases rest with
  | nil => exact sound_recheck h _ now
  | cons path rest =>
    cases registry <;> exact fun _ => ⟨h.state, h.artifact, h.committed⟩

lemma sound_takeOutput (h : control.Unpublished) (exit : ProcessExit) (now later : Timestamp) :
    (control.takeOutput host registry exit now later).Sound :=
  control.takeOutput_cases (fun _ => sound_close _) (sound_recheck h)
    (fun text images => sound_nextImage h text images []) exit now later

/-- A run that goes on has published nothing before it publishes its result. -/
lemma sound_resume (h : control.Sound) (answer : RunAnswer) :
    (control.resume host registry answer).1.Sound := by
  have hbefore {stage : RunStage} (hstage : control.stage = stage)
      (hunpublished : stage.unpublished = true) : control.Unpublished :=
    h (hstage ▸ hunpublished)
  have hnext {next : ExecutionControl} (hu : control.Unpublished)
      (hmachine : next.machine = control.machine) (hcommitted : next.committed = control.committed) :
      next.Sound := by
    refine fun _ => ⟨?_, ?_, hcommitted.trans hu.committed⟩
    · rw [hmachine]
      exact hu.state
    · rw [hmachine]
      exact hu.artifact
  rw [resume.eq_def]
  split
  -- most answers lead to one place, and the others to one for each branch
  all_goals first
    | exact h
    | exact sound_close _
    | exact sound_catchError _
    | exact sound_publish _
    | exact sound_nextImage (hbefore ‹_› rfl) _ _ _ _
    | exact hnext (hbefore ‹_› rfl) rfl rfl
    | exact fun h => absurd h Bool.false_ne_true
    | split
  all_goals first
    | exact h
    | exact sound_close _
    | exact sound_catchError _
    | exact sound_finishTermination _
    | exact sound_release (hbefore ‹_› rfl) _ _
    | exact sound_nextImage (hbefore ‹_› rfl) _ _ _ _
    | exact sound_takeOutput (hbefore ‹_› rfl) _ _ _
    | exact hnext (hbefore ‹_› rfl) rfl rfl
    | exact fun h => absurd h Bool.false_ne_true

/-! ### A run that is doomed -/

lemma doomed_catchError (h : control.Unpublished) (code : String) :
    (control.catchError code).Doomed registry := by
  have hcaught : (control.catchError code).Unpublished := h.catchError code
  have hstage : (control.catchError code).stage = .closing := by
    rw [catchError]
    cases control.terminationReason with
    | none => rfl
    | some reason => cases reason <;> rfl
  rw [Doomed, hstage]
  exact hcaught

lemma doomed_finishTermination (h : control.Unpublished) (reason : TerminationReason) :
    (control.finishTermination reason).Doomed registry := by
  have hended : (control.finishTermination reason).Unpublished := h.finishTermination reason
  cases reason <;> exact hended

lemma doomed_recheck (h : control.Lost registry) (artifact : CallableAdapterTaskArtifact)
    (now : Timestamp) : (control.recheck host registry artifact now).Doomed registry := by
  obtain ⟨stored, rfl, hlost⟩ := h
  exact hlost

lemma doomed_nextImage (h : control.Lost registry) (text : JsString) (rest : List String)
    (stored : List TaskImagePart) (now : Timestamp) :
    (control.nextImage host registry text rest stored now).Doomed registry := by
  cases rest with
  | nil => exact doomed_recheck h _ now
  | cons path rest =>
    obtain ⟨state, rfl, hlost⟩ := h
    exact .inl hlost

lemma doomed_takeOutput (hu : control.Unpublished) (h : control.Lost registry)
    (exit : ProcessExit) (now later : Timestamp) :
    (control.takeOutput host registry exit now later).Doomed registry :=
  control.takeOutput_cases (P := Doomed registry) (fun code => hu.fail code) (doomed_recheck h)
    (fun text images => doomed_nextImage h text images []) exit now later

/-- A termination that was requested is found when the process ends. -/
lemma Doomed.reason (h : control.Doomed registry) {stage : RunStage} (hstage : control.stage = stage)
    (hheeds : stage.heeding = true) : control.terminationReason.isSome = true := by
  rw [Doomed, hstage] at h
  cases stage <;> first | exact h | cases hheeds

/-- **A doomed run stays doomed** when it goes on. -/
lemma doomed_resume (hsound : control.Sound) (h : control.Doomed registry) (answer : RunAnswer) :
    (control.resume host registry answer).1.Doomed registry := by
  have hbefore {stage : RunStage} (hstage : control.stage = stage)
      (hunpublished : stage.unpublished = true) : control.Unpublished :=
    hsound (hstage ▸ hunpublished)
  rw [resume.eq_def]
  split
  all_goals first
    | exact h
    | exact h.reason ‹_› rfl
    | exact (hbefore ‹_› rfl).fail _
    | exact (hbefore ‹_› rfl).cancel _
    | exact doomed_catchError (hbefore ‹_› rfl) _
    | exact trivial
    | skip
  iterate 2
    · next hstage =>
      split_ifs
      · exact h.reason hstage rfl
      · exact doomed_catchError (hbefore hstage rfl) _
  · next hstage => cases registry <;> exact h.reason hstage rfl
  iterate 3
    · next hstage =>
      obtain ⟨reason, hreason⟩ := Option.isSome_iff_exists.mp (h.reason hstage rfl)
      rw [hreason]
      exact doomed_finishTermination (hbefore hstage rfl) reason
  -- the process has ended: the answer of the registry is known, or it will be that the run is lost
  · next exit current now written hstage =>
    rw [Doomed, hstage] at h
    cases current with
    | false => exact (hbefore hstage rfl).cancel _
    | true =>
      have hlost : control.Lost registry := h.resolve_left (by simp)
      exact doomed_takeOutput (hbefore hstage rfl) hlost exit now now
  · next hstage =>
    rw [Doomed, hstage] at h
    exact h.resolve_left (by simp)
  · next text rest stored image now hstage =>
    rw [Doomed, hstage] at h
    obtain ⟨state, rfl, hlost⟩ := h
    exact .inl hlost
  · next hstage =>
    rw [Doomed, hstage] at h
    exact doomed_nextImage (h.resolve_left (by simp)) _ _ _ _
  · next artifact current now written hstage =>
    rw [Doomed, hstage] at h
    obtain rfl : current = false := h
    exact (hbefore hstage rfl).cancel _
  iterate 3
    · next hstage =>
      rw [Doomed, hstage] at h
      exact h.elim
  -- what has ended has published nothing
  · next hstage =>
    have hended : control.Unpublished := by
      rw [Doomed, hstage] at h
      exact h
    split_ifs
    · exact ⟨hended.state, hended.artifact, hended.committed⟩
    · exact h
  iterate 2
    · next hstage =>
      rw [Doomed, hstage] at h
      exact ⟨h.state, h.artifact, h.committed⟩

end ExecutionControl

/-! ### What the registry knows -/

section

variable {state : ExecutionHandleStoreState} {taskId : String} {executionEpoch : Nat}

lemma ExecutionHandleStoreState.isCurrent_iff (hvalid : state.Valid) :
    state.isCurrent taskId executionEpoch = true
      ↔ ∃ handle, state.get taskId = some handle ∧ handle.executionEpoch = executionEpoch
          ∧ isTerminalExecutionProgress handle.progress.state = false := by
  rw [isCurrent]
  cases hfound : currentHandle state taskId executionEpoch with
  | none =>
    refine iff_of_false (by simp) ?_
    rintro ⟨handle, hget, hepoch, -⟩
    obtain ⟨hmem, hid⟩ := (get_eq_some hvalid.nodup).mp hget
    have hnone := List.find?_eq_none.mp hfound handle hmem
    simp [hid, hepoch] at hnone
  | some found =>
    obtain ⟨hmem, hid, hepoch⟩ := currentHandle_eq_some hfound
    have hget : state.get taskId = some found := (get_eq_some hvalid.nodup).mpr ⟨hmem, hid⟩
    simp [hget, hepoch]

/-- An execution that has been superseded or has ended stays so, unless a handle
with its epoch is created. -/
lemma RegistryCall.isCurrent_step (call : RegistryCall) (hvalid : state.Valid)
    (hlost : state.isCurrent taskId executionEpoch = false)
    (hcreated : ∀ handle, call.created state = some handle → handle.taskId = taskId →
      handle.executionEpoch ≠ executionEpoch) :
    (call.step state).isCurrent taskId executionEpoch = false := by
  by_contra hcurrent
  obtain ⟨next, hafter, hepoch, hactive⟩ :=
    (ExecutionHandleStoreState.isCurrent_iff (call.step_valid hvalid)).mp (by simpa using hcurrent)
  have hbefore : ∀ handle, state.get taskId = some handle →
      handle.executionEpoch = executionEpoch →
      isTerminalExecutionProgress handle.progress.state = true := by
    intro handle hget hsame
    by_contra hended
    have hcurrent := (ExecutionHandleStoreState.isCurrent_iff hvalid).mpr
      ⟨handle, hget, hsame, by simpa using hended⟩
    rw [hlost] at hcurrent
    cases hcurrent
  have hchange := call.handleChange hvalid taskId
  rw [hafter] at hchange
  generalize hfound : state.get taskId = found at hchange
  cases hchange with
  | same =>
    rw [hbefore next hfound hepoch] at hactive
    cases hactive
  | @updated handle _ hrunning hsame =>
    rw [hbefore handle hfound (hsame ▸ hepoch)] at hrunning
    cases hrunning
  | @withdrawn handle =>
    have hended := hbefore handle hfound hepoch
    rw [show isTerminalExecutionProgress handle.progress.state = false from hactive] at hended
    cases hended
  | prepared hnext =>
    obtain ⟨-, hid⟩ :=
      (ExecutionHandleStoreState.get_eq_some (call.step_valid hvalid).nodup).mp hafter
    exact hcreated next hnext hid hepoch

/-- When the registry has saved that a task was canceled, no execution of it is
current. -/
lemma RegistryCall.isCurrent_canceled {now : Timestamp} {written : Bool} (hvalid : state.Valid)
    (hsaved : (RegistryCall.saved ⟨.cancel taskId none, now, written⟩ state).isSome = true) :
    (RegistryCall.step ⟨.cancel taskId none, now, written⟩ state).isCurrent taskId executionEpoch
      = false := by
  have hstep : RegistryCall.step ⟨.cancel taskId none, now, written⟩ state
      = (cancelHandle taskId none now state).2 := by
    obtain ⟨after, hafter⟩ := Option.isSome_iff_exists.mp hsaved
    rw [RegistryCall.step, hafter]
    simp only [RegistryCall.saved, RegistryOperation.body] at hafter
    split_ifs at hafter
    exact (Option.some.inj hafter).symm
  by_contra hcurrent
  obtain ⟨next, hafter, -, hactive⟩ := (ExecutionHandleStoreState.isCurrent_iff
    (RegistryCall.step_valid _ hvalid)).mp (by simpa using hcurrent)
  rw [hstep, cancelHandle] at hafter
  cases hfound : state.get taskId with
  | none =>
    rw [hfound] at hafter
    cases hafter.symm.trans hfound
  | some handle =>
    obtain ⟨hmem, hid⟩ := (ExecutionHandleStoreState.get_eq_some hvalid.nodup).mp hfound
    simp only [hfound] at hafter
    split_ifs at hafter with hended
    · rw [hfound] at hafter
      obtain rfl := Option.some.inj hafter
      simp [hactive] at hended
    · have hupdated : (ExecutionHandleStoreState.mk (updateFirst _
          (settleHandle .canceled "执行已取消" now) state.handles) _).get taskId = some next := hafter
      rw [ExecutionHandleStoreState.get_updateFirst
        (f := settleHandle .canceled "执行已取消" now) hvalid.nodup hmem (by simp [hid])
        (fun item h => by grind) (fun _ _ => rfl), if_pos hid.symm] at hupdated
      obtain rfl := Option.some.inj hupdated
      cases hactive

end

/-! ### A doomed run, whatever happens -/

namespace ExecutionControl

variable {host : HostOptions} {registry : Option ExecutionHandleStoreState}
  {control : ExecutionControl}

/-- A call of the registry creates a handle with the epoch of a run that still
asks for it. -/
def Reissues (registry : Option ExecutionHandleStoreState) (call : RegistryCall)
    (control : ExecutionControl) : Prop :=
  control.stage.rechecks = true
    ∧ ∃ stored handle, registry = some stored ∧ call.created stored = some handle
      ∧ handle.taskId = control.request.taskId
      ∧ handle.executionEpoch = control.authority.executionEpoch

lemma Lost.call (h : control.Lost registry) (hvalid : ∀ stored ∈ registry, stored.Valid)
    {call : RegistryCall} (hkept : ∀ stored handle, registry = some stored →
      call.created stored = some handle → handle.taskId = control.request.taskId →
      handle.executionEpoch ≠ control.authority.executionEpoch) :
    control.Lost (registry.map call.step) := by
  obtain ⟨stored, rfl, hlost⟩ := h
  refine ⟨call.step stored, rfl, ?_⟩
  exact call.isCurrent_step (hvalid stored rfl) hlost fun handle hcreated =>
    hkept stored handle rfl hcreated

lemma Doomed.call (h : control.Doomed registry) (hvalid : ∀ stored ∈ registry, stored.Valid)
    {call : RegistryCall} (hkept : ¬control.Reissues registry call) :
    control.Doomed (registry.map call.step) := by
  have hlost (hrechecks : control.stage.rechecks = true) (hlost : control.Lost registry) :
      control.Lost (registry.map call.step) := by
    refine hlost.call hvalid fun stored handle hstored hcreated htask hepoch => ?_
    exact hkept ⟨hrechecks, stored, handle, hstored, hcreated, htask, hepoch⟩
  cases hstage : control.stage with
  | checking | imageChecking | imageRechecking =>
    rw [Doomed, hstage] at h ⊢
    exact h.imp_right (hlost (by rw [hstage]; rfl))
  | imageStoring =>
    rw [Doomed, hstage] at h ⊢
    exact hlost (by rw [hstage]; rfl) h
  | _ =>
    rw [Doomed, hstage] at h ⊢
    exact h

lemma Doomed.of_eq {next : ExecutionControl} (h : control.Doomed registry)
    (hstage : next.stage = control.stage) (hmachine : next.machine = control.machine)
    (hcommitted : next.committed = control.committed) (hrequest : next.request = control.request)
    (hauthority : next.authority = control.authority)
    (hreason : control.terminationReason.isSome = true → next.terminationReason.isSome = true) :
    next.Doomed registry := by
  have hlost : control.Lost registry → next.Lost registry := by
    rintro ⟨stored, hstored, hlost⟩
    refine ⟨stored, hstored, ?_⟩
    rw [isCurrent, hrequest, hauthority]
    exact hlost
  have hunpublished : control.Unpublished → next.Unpublished := fun hcontrol =>
    ⟨hmachine ▸ hcontrol.state, hmachine ▸ hcontrol.artifact, hcommitted.trans hcontrol.committed⟩
  rw [Doomed] at h ⊢
  rw [hstage]
  cases hcontrol : control.stage with
  | opening | preparingHandle | preparing | launching | feeding | executing =>
    rw [hcontrol] at h
    exact hreason h
  | checking | imageChecking | imageRechecking =>
    rw [hcontrol] at h
    exact h.imp_right hlost
  | imageStoring =>
    rw [hcontrol] at h
    exact hlost h
  | closing | recording | settling | finished =>
    rw [hcontrol] at h
    exact hunpublished h
  | rechecking | imagesDiscarding | queued | cleaning | publishing =>
    rw [hcontrol] at h
    exact h

lemma Doomed.requestTermination (h : control.Doomed registry) (reason : TerminationReason) :
    (control.requestTermination reason).Doomed registry := by
  rw [ExecutionControl.requestTermination]
  split_ifs
  · exact h
  · exact h.of_eq rfl rfl rfl rfl rfl fun _ => rfl

lemma Doomed.acceptCancel (h : control.Doomed registry) : control.acceptCancel.Doomed registry :=
  (h.requestTermination .cancel).of_eq rfl rfl rfl rfl rfl id

lemma request_requestTermination (reason : TerminationReason) :
    (control.requestTermination reason).request = control.request := by
  rw [ExecutionControl.requestTermination]
  split_ifs <;> rfl

lemma request_acceptCancel : control.acceptCancel.request = control.request :=
  request_requestTermination .cancel

/-- A run that is canceled before its last check. -/
lemma doomed_acceptCancel (halive : control.machine.isTerminal = false)
    (hstage : control.stage.heeding = true ∨ control.stage.stopping = true
      ∨ control.stage.rechecks = true ∧ control.Lost registry) :
    control.acceptCancel.Doomed registry := by
  have hreason : (control.requestTermination .cancel).terminationReason.isSome = true := by
    rw [requestTermination]
    split_ifs with h
    · exact h.resolve_right (by simp [halive])
    · rfl
  have hrequested : (control.requestTermination .cancel).Doomed registry := by
    have hsame : (control.requestTermination .cancel).stage = control.stage := by
      rw [requestTermination]
      split_ifs <;> rfl
    have hlost : control.Lost registry → (control.requestTermination .cancel).Lost registry := by
      rw [requestTermination]
      split_ifs <;> exact id
    rw [Doomed, hsame]
    cases hcontrol : control.stage with
    | opening | preparingHandle | preparing | launching | feeding | executing => exact hreason
    | checking | imageChecking | imageRechecking =>
      rw [hcontrol] at hstage
      rcases hstage with hheeds | hstops | ⟨-, h⟩
      · cases hheeds
      · exact .inl (by simpa [RunStage.stopping] using hstops)
      · exact .inr (hlost h)
    | imageStoring =>
      rw [hcontrol] at hstage
      rcases hstage with hheeds | hstops | ⟨-, h⟩
      · cases hheeds
      · cases hstops
      · exact hlost h
    | rechecking =>
      rw [hcontrol] at hstage
      rcases hstage with hheeds | hstops | ⟨hrechecks, -⟩
      · cases hheeds
      · simpa [RunStage.stopping] using hstops
      · cases hrechecks
    | imagesDiscarding => trivial
    | queued | cleaning | publishing | closing | recording | settling | finished =>
      rw [hcontrol] at hstage
      rcases hstage with hheeds | hstops | ⟨hrechecks, -⟩
      · cases hheeds
      · cases hstops
      · cases hrechecks
  exact hrequested.of_eq rfl rfl rfl rfl rfl id

/-- A run that calls the registry when it goes on does not ask it anything. -/
lemma resume_call {answer : RunAnswer} {next : ExecutionControl} {call : RegistryCall}
    (h : control.resume host registry answer = (next, some call)) :
    next.stage.rechecks = false := by
  rw [resume.eq_def] at h
  split at h
  -- most answers lead to no call, and the others to one stage each
  all_goals first
    | cases h; done
    | cases h; rfl
    | split at h
  all_goals first
    | cases h; done
    | cases h; rfl

end ExecutionControl

namespace HostKernel

variable {host : HostOptions} {kernel next : HostKernel} {index : Nat}

/-- What the kernel knows of its executions. -/
structure Accounted (kernel : HostKernel) : Prop where
  valid : ∀ stored ∈ kernel.registry, stored.Valid
  sound : ∀ (index : Nat) (control : ExecutionControl),
    kernel.controls[index]? = some control → control.Sound
  runs : ∀ taskId index, kernel.active.get? taskId = some index →
    ∃ control, kernel.controls[index]? = some control ∧ control.request.taskId = taskId

namespace Accounted

section

variable (h : kernel.Accounted)

include h

lemma callRegistry (call : RegistryCall) :
    (kernel.callRegistry call).Accounted where
  valid stored hstored := by
    obtain ⟨before, hbefore, rfl⟩ := Option.map_eq_some_iff.mp hstored
    exact call.step_valid (h.valid before hbefore)
  sound := h.sound
  runs := h.runs

lemma modifyControl {f : ExecutionControl → ExecutionControl}
    (hrequest : ∀ control, kernel.controls[index]? = some control →
      (f control).request = control.request)
    (hsound : ∀ control, control.Sound → kernel.controls[index]? = some control →
      (f control).Sound) :
    (kernel.modifyControl index f).Accounted where
  valid := h.valid
  sound j control hcontrol := by
    rw [getElem?_modifyControl] at hcontrol
    split_ifs at hcontrol with heq
    · obtain ⟨before, hbefore, rfl⟩ := Option.map_eq_some_iff.mp hcontrol
      subst heq
      exact hsound before (h.sound index before hbefore) hbefore
    · exact h.sound j control hcontrol
  runs taskId j hactive := by
    obtain ⟨control, hcontrol, htask⟩ := h.runs taskId j hactive
    rw [getElem?_modifyControl, hcontrol]
    split_ifs with heq
    · subst heq
      exact ⟨f control, rfl, (congrArg _ (hrequest control hcontrol)).trans htask⟩
    · exact ⟨control, rfl, htask⟩

lemma requestTermination (reason : TerminationReason) :
    (kernel.modifyControl index (ExecutionControl.requestTermination reason)).Accounted := by
  refine h.modifyControl (fun _ _ => ExecutionControl.request_requestTermination reason)
    fun control hsound _ => ?_
  rw [ExecutionControl.requestTermination]
  split_ifs
  · exact hsound
  · exact fun hstage => ⟨(hsound hstage).state, (hsound hstage).artifact,
      (hsound hstage).committed⟩

lemma acceptCancel : (kernel.modifyControl index ExecutionControl.acceptCancel).Accounted := by
  refine h.modifyControl (fun _ _ => ExecutionControl.request_acceptCancel)
    fun control hsound _ => ?_
  rw [ExecutionControl.acceptCancel, ExecutionControl.requestTermination]
  split_ifs <;> exact fun hstage => ⟨(hsound hstage).state, (hsound hstage).artifact,
    (hsound hstage).committed⟩

lemma of_move (hmove : Move kernel next) : next.Accounted := by
  cases hmove with
  | revoked taskId executionEpoch now written => exact h.callRegistry _
  | forgotten | unregistered | stopped => exact ⟨h.valid, h.sound, h.runs⟩
  | terminated index reason => exact h.requestTermination reason
  | canceled => exact (h.callRegistry _).acceptCancel
  | withdrawn taskId index control code accepted hwaits hknown =>
    have hremoved : (kernel.removeQueued taskId control.connector.childAgentId).Accounted :=
      ⟨h.valid, h.sound, h.runs⟩
    exact hremoved.modifyControl (fun _ _ => rfl) fun _ _ _ hstage =>
      absurd hstage Bool.false_ne_true

lemma of_moves (hmoves : Moves kernel next) : next.Accounted := by
  induction hmoves with
  | refl => exact h
  | tail _ hmove ih => exact ih.of_move hmove

lemma goOn {control : ExecutionControl} (hknown : kernel.controls[index]? = some control)
    (answer : RunAnswer) : (kernel.goOn host index control answer).Accounted := by
  have hnext : (kernel.modifyControl index
      fun _ => (control.resume host kernel.registry answer).1).Accounted := by
    refine h.modifyControl (fun other hother => ?_) fun other hsound hother => ?_
    · rw [hknown] at hother
      obtain rfl := Option.some.inj hother
      exact control.resume_request answer
    · rw [hknown] at hother
      obtain rfl := Option.some.inj hother
      exact ExecutionControl.sound_resume hsound answer
  rw [HostKernel.goOn]
  cases (control.resume host kernel.registry answer).2 with
  | none => exact hnext
  | some call => exact hnext.callRegistry call

lemma endRun (taskId : String) : (kernel.endRun index taskId).Accounted := by
  have hfinished : (kernel.modifyControl index fun control =>
      { control with stage := .finished }).Accounted :=
    h.modifyControl (fun _ _ => rfl) fun _ _ _ hstage => absurd hstage Bool.false_ne_true
  refine ⟨hfinished.valid, hfinished.sound, fun other j hactive => ?_⟩
  have hactive : (kernel.active.erase taskId).get? other = some j := hactive
  rw [OrderedMap.get?_erase] at hactive
  split_ifs at hactive
  exact hfinished.runs other j hactive

end

lemma sound_start {registry : Option ExecutionHandleStoreState} {control : ExecutionControl}
    (h : control.Sound) (hstage : control.stage = .queued) : (control.start registry).Sound := by
  intro _
  obtain ⟨hstate, hartifact, hcommitted⟩ := h (hstage ▸ rfl)
  have hmachine : (control.start registry).machine = control.machine.start := rfl
  refine ⟨?_, ?_, hcommitted⟩ <;> rw [hmachine, CallableAdapterTaskSnapshot.start] <;> split_ifs
  · simp
  · exact hstate
  · exact hartifact
  · exact hartifact

lemma startRun (h : kernel.Accounted) {taskId : String} {control : ExecutionControl}
    (hknown : kernel.controls[index]? = some control) (hstage : control.stage = .queued)
    (htask : control.request.taskId = taskId) : (kernel.startRun index taskId).Accounted := by
  have hbegun : (kernel.modifyControl index
      (ExecutionControl.start kernel.registry)).Accounted := by
    refine h.modifyControl (fun _ _ => rfl) fun other hsound hother => ?_
    obtain rfl := Option.some.inj (hother.symm.trans hknown)
    exact sound_start hsound hstage
  refine ⟨hbegun.valid, hbegun.sound, fun other j hactive => ?_⟩
  have hactive : (kernel.active.set taskId index).get? other = some j := hactive
  rw [OrderedMap.get?_set] at hactive
  split_ifs at hactive with heq
  · obtain rfl := Option.some.inj hactive
    refine ⟨control.start kernel.registry, ?_, htask.trans heq.symm⟩
    show (kernel.modifyControl index _).controls[index]? = _
    rw [getElem?_modifyControl, if_pos rfl, hknown]
    rfl
  · exact hbegun.runs other j hactive

lemma of_drains (h : kernel.Accounted) (hbegun : kernel.Begun) (hdrains : Drains host kernel next) :
    next.Accounted := by
  induction hdrains with
  | refl => exact h
  | @tail before after hdrains hdrain ih =>
    have hbefore : before.Begun := hbegun.of_drains hdrains
    cases hdrain with
    | skipped => exact ⟨ih.valid, ih.sound, ih.runs⟩
    | begun childAgentId taskId rest index control hfound hwaits hknown =>
      obtain ⟨waiting, hwaiting, hstage, htask⟩ := hbefore.waits taskId index hwaits
      have hremoved : (before.removeQueued taskId childAgentId).Accounted :=
        ⟨ih.valid, ih.sound, ih.runs⟩
      exact hremoved.startRun hwaiting hstage htask

lemma accept (h : kernel.Accounted) {connector : HostConnector}
    {request : CallableAdapterTaskRequest} {authority : ExecutionAuthority} (starts : Bool) :
    (kernel.accept connector request authority starts).Accounted := by
  have hsubmitted : { kernel with
      controls := kernel.controls ++ [ExecutionControl.submit connector request authority]
      tasks := kernel.tasks.set request.taskId kernel.controls.length
      consumedAuthorities := kernel.consumedAuthorities.set authority.authorityId
        authority.expiresAt }.Accounted := by
    refine ⟨h.valid, fun j control hcontrol => ?_, fun taskId j hactive => ?_⟩
    · have hcontrol : (kernel.controls ++ [_])[j]? = some control := hcontrol
      rw [List.getElem?_append] at hcontrol
      split_ifs at hcontrol
      · exact h.sound j control hcontrol
      · obtain rfl := List.mem_singleton.mp (List.mem_of_getElem? hcontrol)
        exact fun _ => ⟨by simp [ExecutionControl.submit, CallableAdapterTaskSnapshot.submitted],
          rfl, rfl⟩
    · obtain ⟨control, hcontrol, htask⟩ := h.runs taskId j hactive
      have hlt := (List.getElem?_eq_some_iff.mp hcontrol).1
      exact ⟨control, (List.getElem?_append_left hlt).trans hcontrol, htask⟩
  rw [HostKernel.accept]
  cases starts with
  | false => exact ⟨hsubmitted.valid, hsubmitted.sound, hsubmitted.runs⟩
  | true =>
    have hlast : (kernel.controls ++ [ExecutionControl.submit connector request authority])[kernel.controls.length]?
        = some (ExecutionControl.submit connector request authority) := List.getElem?_concat_length
    exact hsubmitted.startRun hlast rfl rfl

/-- **An event** keeps the account. -/
lemma step (h : kernel.Accounted) (hbegun : kernel.Begun) (event : KernelEvent) :
    (kernel.step host event).Accounted := by
  have hcase : StepCase host kernel event (kernel.step host event) := stepCase host kernel event
  generalize kernel.step host event = next at hcase ⊢
  cases hcase with
  | moves hmoves => exact h.of_moves hmoves
  | refused hmoves =>
    have hknown := h.of_moves hmoves
    exact ⟨hknown.valid, hknown.sound, hknown.runs⟩
  | @accepts request authority now later connector haccepts =>
    have hpruned : ({ kernel with
        tasks := kernel.tasks.erase request.taskId }.pruneAuthorities later).Accounted := ⟨h.valid, h.sound, h.runs⟩
    exact hpruned.accept _
  | goesOn hknown => exact h.goOn hknown _
  | @ends index answer control known hknown hsettled hmoves =>
    have hended := hbegun.endRun hknown hsettled control.request.taskId
    exact ((h.endRun _).of_moves hmoves).of_drains (hended.of_moves hmoves) (drainQueues_drains _)
  | consults => exact h.callRegistry _
  | registers => exact ⟨h.valid, h.sound, h.runs⟩

end Accounted

/-- Executions that wait have not begun, whatever happens. -/
lemma Begun.step (h : kernel.Begun) (event : KernelEvent) : (kernel.step host event).Begun := by
  have hcase : StepCase host kernel event (kernel.step host event) := stepCase host kernel event
  generalize kernel.step host event = next at hcase ⊢
  cases hcase with
  | moves hmoves => exact h.of_moves hmoves
  | refused hmoves =>
    have hknown := h.of_moves hmoves
    exact ⟨hknown.waits, hknown.begun, hknown.once⟩
  | @accepts request authority now later connector haccepts =>
    have hpruned : ({ kernel with
        tasks := kernel.tasks.erase request.taskId }.pruneAuthorities later).Begun := ⟨h.waits, h.begun, h.once⟩
    exact hpruned.accept _
  | goesOn hknown => exact h.goOn hknown _
  | ends hknown hsettled hmoves =>
    exact ((h.endRun hknown hsettled _).of_moves hmoves).of_drains (drainQueues_drains _)
  | consults | registers => exact ⟨h.waits, h.begun, h.once⟩

/-- The execution at an index is one of a task, and is doomed. -/
def DoomedAt (taskId : String) (index : Nat) (kernel : HostKernel) : Prop :=
  ∃ control, kernel.controls[index]? = some control ∧ control.request.taskId = taskId
    ∧ control.Doomed kernel.registry

/-- An event creates a handle with the epoch of an execution whose run still asks
the registry for it. -/
def Reissues (host : HostOptions) (index : Nat) (kernel : HostKernel) : KernelEvent → Prop
  | .registry call =>
    ∃ control, kernel.controls[index]? = some control ∧ control.Reissues kernel.registry call
  | .resume other answer =>
    ∃ control running call, kernel.controls[index]? = some control
      ∧ kernel.controls[other]? = some running
      ∧ (running.resume host kernel.registry answer).2 = some call
      ∧ control.Reissues kernel.registry call
  | _ => False

namespace DoomedAt

variable {taskId : String} (h : kernel.DoomedAt taskId index)

include h

lemma callRegistry (hvalid : ∀ stored ∈ kernel.registry,
    stored.Valid) {call : RegistryCall} (hkept : ∀ control, kernel.controls[index]? = some control →
      ¬control.Reissues kernel.registry call) :
    (kernel.callRegistry call).DoomedAt taskId index := by
  obtain ⟨control, hknown, htask, hdoomed⟩ := h
  exact ⟨control, hknown, htask, hdoomed.call hvalid (hkept control hknown)⟩

/-- To end an execution creates no handle. -/
lemma callCancel (hvalid : ∀ stored ∈ kernel.registry,
    stored.Valid) (canceled : String) (executionEpoch : Option Nat) (now : Timestamp)
    (written : Bool) :
    (kernel.callRegistry ⟨.cancel canceled executionEpoch, now, written⟩).DoomedAt taskId index := by
  refine h.callRegistry hvalid ?_
  rintro control - ⟨-, stored, handle, -, hcreated, -, -⟩
  cases hcreated

lemma modifyControl {other : Nat} {f : ExecutionControl → ExecutionControl}
    (hf : ∀ control, kernel.controls[index]? = some control → other = index →
      control.Doomed kernel.registry →
      (f control).request = control.request ∧ (f control).Doomed kernel.registry) :
    (kernel.modifyControl other f).DoomedAt taskId index := by
  obtain ⟨control, hknown, htask, hdoomed⟩ := h
  by_cases heq : other = index
  · obtain ⟨hrequest, hnext⟩ := hf control hknown heq hdoomed
    refine ⟨f control, ?_, (congrArg _ hrequest).trans htask, hnext⟩
    rw [getElem?_modifyControl, if_pos heq, hknown]
    rfl
  · refine ⟨control, ?_, htask, hdoomed⟩
    rw [getElem?_modifyControl, if_neg heq, hknown]

lemma ne_queued (hbegun : kernel.Begun) {waiting : String} {other : Nat}
    (hwaits : kernel.queued.get? waiting = some other) : other ≠ index := by
  rintro rfl
  obtain ⟨control, hknown, -, hdoomed⟩ := h
  obtain ⟨queued, hqueued, hstage, -⟩ := hbegun.waits waiting other hwaits
  obtain rfl := Option.some.inj (hknown.symm.trans hqueued)
  rw [ExecutionControl.Doomed, hstage] at hdoomed
  exact hdoomed

lemma of_move (hbegun : kernel.Begun) (hvalid : ∀ stored ∈ kernel.registry, stored.Valid)
    (hmove : Move kernel next) : next.DoomedAt taskId index := by
  cases hmove with
  | revoked canceled executionEpoch now written => exact h.callCancel hvalid _ _ _ _
  | forgotten | unregistered | stopped => exact h
  | terminated other reason =>
    exact h.modifyControl fun control _ _ hdoomed =>
      ⟨ExecutionControl.request_requestTermination reason, hdoomed.requestTermination reason⟩
  | canceled canceled other control now written =>
    exact (h.callCancel hvalid canceled none now written).modifyControl
      fun control _ _ hdoomed => ⟨ExecutionControl.request_acceptCancel, hdoomed.acceptCancel⟩
  | withdrawn waiting other control code accepted hwaits hknown =>
    have hremoved : (kernel.removeQueued waiting control.connector.childAgentId).DoomedAt taskId
        index := h
    exact hremoved.modifyControl fun _ _ heq => absurd heq (h.ne_queued hbegun hwaits)

lemma of_moves (hbegun : kernel.Begun) (haccounted : kernel.Accounted) (hmoves : Moves kernel next) :
    next.DoomedAt taskId index := by
  induction hmoves with
  | refl => exact h
  | tail hmoves hmove ih =>
    exact ih.of_move (hbegun.of_moves hmoves) (haccounted.of_moves hmoves).valid hmove

lemma of_drains (hbegun : kernel.Begun) (hdrains : Drains host kernel next) :
    next.DoomedAt taskId index := by
  induction hdrains with
  | refl => exact h
  | tail hdrains hdrain ih =>
    cases hdrain with
    | skipped => exact ih
    | begun childAgentId waiting rest other control hfound hwaits =>
      have hother := ih.ne_queued (hbegun.of_drains hdrains) hwaits
      have hremoved : (HostKernel.removeQueued waiting childAgentId _).DoomedAt taskId index := ih
      exact hremoved.modifyControl fun _ _ heq => absurd heq hother

/-- **A doomed run stays doomed** when it, or another, goes on. -/
lemma goOn (haccounted : kernel.Accounted) {other : Nat} {control : ExecutionControl}
    (hknown : kernel.controls[other]? = some control) {answer : RunAnswer}
    (hkept : ¬kernel.Reissues host index (.resume other answer)) :
    (kernel.goOn host other control answer).DoomedAt taskId index := by
  have hnext : (kernel.modifyControl other
      fun _ => (control.resume host kernel.registry answer).1).DoomedAt taskId index := by
    refine h.modifyControl fun doomed hdoomed heq hcontrol => ?_
    subst heq
    obtain rfl := Option.some.inj (hknown.symm.trans hdoomed)
    exact ⟨control.resume_request answer,
      ExecutionControl.doomed_resume (haccounted.sound other control hknown) hcontrol answer⟩
  rw [HostKernel.goOn]
  cases hcall : (control.resume host kernel.registry answer).2 with
  | none => exact hnext
  | some call =>
    refine hnext.callRegistry haccounted.valid fun doomed hdoomed hreissues => ?_
    rw [getElem?_modifyControl] at hdoomed
    split_ifs at hdoomed with heq
    · -- the run itself calls the registry, and does not ask it any more
      subst heq
      rw [hknown] at hdoomed
      obtain rfl := Option.some.inj hdoomed
      have hrechecks := ExecutionControl.resume_call (Prod.ext rfl hcall :
        control.resume host kernel.registry answer = (_, some call))
      exact absurd (hrechecks.symm.trans hreissues.1) Bool.false_ne_true
    · exact hkept ⟨doomed, control, call, hdoomed, hknown, hcall, hreissues⟩

lemma endRun {other : Nat} {control : ExecutionControl}
    (hknown : kernel.controls[other]? = some control) (hsettled : control.stage = .settling)
    (ended : String) : (kernel.endRun other ended).DoomedAt taskId index := by
  refine h.modifyControl fun doomed hdoomed heq hcontrol => ⟨rfl, ?_⟩
  subst heq
  obtain rfl := Option.some.inj (hknown.symm.trans hdoomed)
  rw [ExecutionControl.Doomed, hsettled] at hcontrol
  exact ⟨hcontrol.state, hcontrol.artifact, hcontrol.committed⟩

lemma accept {connector : HostConnector} {request : CallableAdapterTaskRequest}
    {authority : ExecutionAuthority} (starts : Bool) :
    (kernel.accept connector request authority starts).DoomedAt taskId index := by
  obtain ⟨control, hknown, htask, hdoomed⟩ := h
  have hlt := (List.getElem?_eq_some_iff.mp hknown).1
  have hsubmitted : { kernel with
      controls := kernel.controls ++ [ExecutionControl.submit connector request authority]
      tasks := kernel.tasks.set request.taskId kernel.controls.length
      consumedAuthorities := kernel.consumedAuthorities.set authority.authorityId
        authority.expiresAt }.DoomedAt taskId index :=
    ⟨control, (List.getElem?_append_left hlt).trans hknown, htask, hdoomed⟩
  rw [HostKernel.accept]
  cases starts with
  | false => exact hsubmitted
  | true => exact hsubmitted.modifyControl fun _ _ heq => absurd heq hlt.ne'

/-- **An event** leaves a doomed run doomed, unless it creates a handle with the
epoch of the run. -/
lemma step (hbegun : kernel.Begun) (haccounted : kernel.Accounted) {event : KernelEvent}
    (hkept : ¬kernel.Reissues host index event) :
    (kernel.step host event).DoomedAt taskId index := by
  have hcase : StepCase host kernel event (kernel.step host event) := stepCase host kernel event
  generalize kernel.step host event = next at hcase ⊢
  cases hcase with
  | moves hmoves => exact h.of_moves hbegun haccounted hmoves
  | refused hmoves =>
    have hknown := h.of_moves hbegun haccounted hmoves
    exact hknown
  | @accepts request authority now later connector haccepts =>
    have hpruned : ({ kernel with
        tasks := kernel.tasks.erase request.taskId }.pruneAuthorities later).DoomedAt taskId
          index := h
    exact hpruned.accept _
  | goesOn hknown => exact h.goOn haccounted hknown hkept
  | @ends other answer control known hknown hsettled hmoves =>
    have hended := (h.endRun hknown hsettled control.request.taskId).of_moves
      (hbegun.endRun hknown hsettled _) (haccounted.endRun _) hmoves
    exact hended.of_drains ((hbegun.endRun hknown hsettled _).of_moves hmoves)
      (drainQueues_drains _)
  | consults =>
    exact h.callRegistry haccounted.valid fun control hknown hreissues =>
      hkept ⟨control, hknown, hreissues⟩
  | registers => exact h

end DoomedAt

/-! ### Cancelation -/

/-- A call of `cancel` finds the execution waiting, or its run before its last
check: the run has not read the end of its process, or the registry has already
superseded it, or the run asks the registry again, and the registry saves that
the task is canceled. -/
def Interruptible (kernel : HostKernel) (taskId : String) (now : Timestamp) (written : Bool) :
    Prop :=
  (kernel.queued.get? taskId).isSome
    ∨ ∀ index control, kernel.active.get? taskId = some index →
      kernel.controls[index]? = some control →
      control.stage.heeding = true ∨ control.stage.stopping = true
        ∨ control.stage.rechecks = true ∧ ∃ stored, kernel.registry = some stored
          ∧ (control.isCurrent stored = false
            ∨ (RegistryCall.saved ⟨.cancel taskId none, now, written⟩ stored).isSome)

/-- The execution that `cancel` ends. -/
def cancels (kernel : HostKernel) (taskId : String) : Option Nat :=
  (kernel.queued.get? taskId).or (kernel.active.get? taskId)

/-- A call of `cancel` that returns `true` before the last check dooms the run. -/
lemma doomedAt_cancel (hbegun : kernel.Begun) (haccounted : kernel.Accounted) {taskId : String}
    {now : Timestamp} {written : Bool} (hcancel : (kernel.cancel host taskId now written).1 = true)
    (hallowed : kernel.Interruptible taskId now written) :
    ∃ index, kernel.cancels taskId = some index
      ∧ (kernel.cancel host taskId now written).2.DoomedAt taskId index := by
  rw [cancel] at hcancel ⊢
  rw [cancels]
  cases hqueued : kernel.queued.get? taskId with
  | some index =>
    obtain ⟨control, hknown, hstage, htask⟩ := hbegun.waits taskId index hqueued
    refine ⟨index, rfl, ?_⟩
    simp only [hknown]
    refine ⟨control.withdraw "ADAPTER_CANCELED" true, ?_, htask, ?_⟩
    · exact (getElem?_modifyControl (kernel.removeQueued taskId _) index index _).trans
        (by rw [if_pos rfl]; exact congrArg (Option.map _) hknown)
    · exact (haccounted.sound index control hknown (hstage ▸ rfl)).withdraw _ _
  | none =>
    simp only [hqueued] at hcancel ⊢
    cases hactive : kernel.active.get? taskId with
    | none =>
      rw [hactive] at hcancel
      cases hcancel
    | some index =>
      obtain ⟨control, hknown, htask⟩ := haccounted.runs taskId index hactive
      simp only [hactive, hknown, Option.all_some] at hcancel ⊢
      by_cases halive : control.machine.isTerminal = true
      · rw [if_pos halive] at hcancel
        cases hcancel
      · rw [if_neg halive]
        refine ⟨index, rfl, control.acceptCancel, ?_, ?_, ?_⟩
        · exact (getElem?_modifyControl (kernel.callRegistry _) index index _).trans
            (by rw [if_pos rfl]; exact congrArg (Option.map _) hknown)
        · rw [ExecutionControl.request_acceptCancel, htask]
        · have hstage := hallowed.resolve_left (by simp [hqueued]) index control hactive hknown
          refine ExecutionControl.doomed_acceptCancel (by simpa using halive)
            (hstage.imp_right (Or.imp_right ?_))
          rintro ⟨hrechecks, stored, hstored, hlost⟩
          have hvalid : stored.Valid := haccounted.valid stored hstored
          refine ⟨hrechecks, _, congrArg (Option.map _) hstored, ?_⟩
          rw [ExecutionControl.isCurrent, htask]
          rcases hlost with hlost | hsaved
          · refine RegistryCall.isCurrent_step _ hvalid (htask ▸ hlost) fun handle hcreated => ?_
            cases hcreated
          · exact RegistryCall.isCurrent_canceled hvalid hsaved

/-- What is doomed has published nothing. -/
lemma DoomedAt.unpublished {taskId : String} (h : kernel.DoomedAt taskId index)
    (haccounted : kernel.Accounted) :
    ∃ control, kernel.controls[index]? = some control ∧ control.request.taskId = taskId
      ∧ control.Unpublished := by
  obtain ⟨control, hknown, htask, hdoomed⟩ := h
  refine ⟨control, hknown, htask, ?_⟩
  by_cases hstage : control.stage.unpublished = true
  · exact haccounted.sound index control hknown hstage
  · rw [ExecutionControl.Doomed] at hdoomed
    cases hcontrol : control.stage <;> rw [hcontrol] at hstage hdoomed
    all_goals first
      | exact hdoomed
      | exact hdoomed.elim
      | exact absurd rfl hstage

lemma accounted_newHostKernel {registry : Option ExecutionHandleStoreState}
    (hvalid : ∀ stored ∈ registry, stored.Valid) : (newHostKernel registry).Accounted :=
  ⟨hvalid, by simp [newHostKernel], by simp [newHostKernel]⟩

lemma accounted_runs {start : HostKernel} {allowed : HostKernel → KernelEvent → Prop}
    (hrun : Runs host allowed start kernel) (hbegun : start.Begun) (haccounted : start.Accounted) :
    kernel.Begun ∧ kernel.Accounted := by
  refine hrun.invariant (I := fun kernel => kernel.Begun ∧ kernel.Accounted)
    ⟨hbegun, haccounted⟩ ?_
  rintro before after - ⟨hbefore, hknown⟩ ⟨event, -, rfl⟩
  exact ⟨hbefore.step event, hknown.step hbefore event⟩

/-- **Cancelation wins**: in every run, an execution for which `cancel` returns
`true` before the last check of its run is never completed, reports no artifact
and commits no workspace, as long as no handle with its epoch is created while
its run still asks the registry for it. -/
theorem cancel_wins {registry : Option ExecutionHandleStoreState}
    (hvalid : ∀ stored ∈ registry, stored.Valid)
    (hrun : Runs host (fun _ _ => True) (newHostKernel registry) kernel) {taskId : String}
    {now : Timestamp} {written : Bool} (hcancel : (kernel.cancel host taskId now written).1 = true)
    (hallowed : kernel.Interruptible taskId now written) :
    ∃ index, kernel.cancels taskId = some index
      ∧ ∀ later, Runs host (fun kernel event => ¬kernel.Reissues host index event)
          (kernel.cancel host taskId now written).2 later →
        ∃ control, later.controls[index]? = some control ∧ control.request.taskId = taskId
          ∧ control.Unpublished := by
  have hstart : (newHostKernel registry).Begun :=
    ⟨by simp [newHostKernel], by simp [newHostKernel], by simp [newHostKernel]⟩
  obtain ⟨hbegun, haccounted⟩ := accounted_runs hrun hstart (accounted_newHostKernel hvalid)
  obtain ⟨index, hcancels, hdoomed⟩ := doomedAt_cancel hbegun haccounted hcancel hallowed
  refine ⟨index, hcancels, fun later hlater => ?_⟩
  have hcanceled : (kernel.cancel host taskId now written).2.Begun
      ∧ (kernel.cancel host taskId now written).2.Accounted :=
    ⟨hbegun.of_moves (cancel_moves _ _ _ _), haccounted.of_moves (cancel_moves _ _ _ _)⟩
  have hlost : (later.Begun ∧ later.Accounted) ∧ later.DoomedAt taskId index := by
    refine hlater.invariant (I := fun kernel =>
      (kernel.Begun ∧ kernel.Accounted) ∧ kernel.DoomedAt taskId index) ⟨hcanceled, hdoomed⟩ ?_
    rintro before after - ⟨⟨hbefore, hknown⟩, hlost⟩ ⟨event, hkept, rfl⟩
    exact ⟨⟨hbefore.step event, hknown.step hbefore event⟩, hlost.step hbefore hknown hkept⟩
  exact hlost.2.unpublished hlost.1.2

/-- While all runs await something before the end of their process, every task can be
interrupted. -/
lemma interruptible_of_heeding {taskId : String} {now : Timestamp} {written : Bool}
    (h : ∀ control ∈ kernel.controls, control.stage.heeding = true) :
    kernel.Interruptible taskId now written :=
  .inr fun _ control _ hknown => .inl (h control (List.mem_of_getElem? hknown))

/-- An execution is canceled while its workspace is prepared. -/
theorem cancel_wins_preparing :
    let kernel := ((newHostKernel none).step plainHost (.register plainConnector)).step plainHost
      (executePlain "grant-1" "task-1" 1)
    ∃ index, kernel.cancels "task-1" = some index
      ∧ ∀ later, Runs plainHost (fun kernel event => ¬kernel.Reissues plainHost index event)
          (kernel.cancel plainHost "task-1" 0 true).2 later →
        ∃ control, later.controls[index]? = some control ∧ control.request.taskId = "task-1"
          ∧ control.Unpublished := by
  have hstart : Runs plainHost (fun _ _ => True) (newHostKernel none) (newHostKernel none) :=
    Reached.refl
  have hregistered := hstart.step ⟨.register plainConnector, trivial, rfl⟩
  have hexecuted := hregistered.step ⟨executePlain "grant-1" "task-1" 1, trivial, rfl⟩
  exact cancel_wins (by simp) hexecuted (by decide +kernel)
    (interruptible_of_heeding (by decide +kernel))

/-! ### Every run -/

/-- **Each execution runs once, and publishes at its end.**  Whatever happens to the kernel, none
begins twice, what waits for a task has not begun, and one that is not yet at its end has no result
and no artifact, and has committed nothing. -/
theorem runs_once {registry : Option ExecutionHandleStoreState}
    (hvalid : ∀ stored ∈ registry, stored.Valid)
    (hrun : Runs host (fun _ _ => True) (newHostKernel registry) kernel) :
    kernel.started.Nodup
      ∧ (∀ taskId index, kernel.queued.get? taskId = some index → index ∉ kernel.started
        ∧ ∃ control, kernel.controls[index]? = some control ∧ control.request.taskId = taskId)
      ∧ ∀ control ∈ kernel.controls, control.stage.unpublished = true → control.Unpublished := by
  have hstart : (newHostKernel registry).Begun :=
    ⟨by simp [newHostKernel], by simp [newHostKernel], by simp [newHostKernel]⟩
  obtain ⟨hbegun, haccounted⟩ := accounted_runs hrun hstart (accounted_newHostKernel hvalid)
  refine ⟨hbegun.once, fun taskId index hqueued => ?_, fun control hcontrol => ?_⟩
  · obtain ⟨control, hknown, hstage, htask⟩ := hbegun.waits taskId index hqueued
    refine ⟨fun hstarted => ?_, control, hknown, htask⟩
    obtain ⟨other, hother, hbegan⟩ := hbegun.begun index hstarted
    rw [hknown] at hother
    exact hbegan (Option.some.inj hother ▸ hstage)
  · obtain ⟨index, hknown⟩ := List.mem_iff_getElem?.mp hcontrol
    exact haccounted.sound index control hknown

/-- A host that runs one execution at a time. -/
def singleHost : HostOptions :=
  { plainHost with maxConcurrentTasks := 1, maxConcurrentTasks_pos := by decide }

/-- An execution runs, and another one of its child waits for it. -/
def oneWaits : HostKernel :=
  (((newHostKernel none).step singleHost (.register plainConnector)).step singleHost
    (executePlain "grant-1" "task-1" 1)).step singleHost (executePlain "grant-2" "task-2" 1)

lemma runs_oneWaits : Runs singleHost (fun _ _ => True) (newHostKernel none) oneWaits :=
  ((Reached.refl.step ⟨.register plainConnector, trivial, rfl⟩).step
    ⟨executePlain "grant-1" "task-1" 1, trivial, rfl⟩).step ⟨executePlain "grant-2" "task-2" 1, trivial, rfl⟩

theorem runs_once_executed :
    oneWaits.started = [0] ∧ oneWaits.started.Nodup
      ∧ (1 ∉ oneWaits.started ∧ ∃ control, oneWaits.controls[1]? = some control
        ∧ control.request.taskId = "task-2")
      ∧ ∀ control ∈ oneWaits.controls, control.stage.unpublished = true → control.Unpublished := by
  obtain ⟨honce, hwaits, hpublished⟩ := runs_once (by simp) runs_oneWaits
  exact ⟨by decide +kernel, honce, hwaits "task-2" 1 (by decide +kernel), hpublished⟩

/-! ### A kernel that was shut down -/

/-- The kernel accepts nothing, begins nothing, and makes nothing wait. -/
structure Quiet (kernel next : HostKernel) : Prop where
  refuses : kernel.acceptingTasks = false → next.acceptingTasks = false
  begun : next.started = kernel.started
  accepted : next.controls.length = kernel.controls.length
  waits : ∀ taskId, kernel.queued.get? taskId = none → next.queued.get? taskId = none

lemma Quiet.trans {last : HostKernel} (h : Quiet kernel next) (hnext : Quiet next last) :
    Quiet kernel last :=
  ⟨hnext.refuses ∘ h.refuses, hnext.begun.trans h.begun, hnext.accepted.trans h.accepted,
    fun taskId hempty => hnext.waits taskId (h.waits taskId hempty)⟩

lemma Quiet.of_moves (hmoves : Moves kernel next) : Quiet kernel next := by
  induction hmoves with
  | refl => exact ⟨id, rfl, rfl, fun _ => id⟩
  | tail _ hmove ih =>
    refine ih.trans ?_
    cases hmove with
    | stopped => exact ⟨fun _ => rfl, rfl, rfl, fun _ => id⟩
    | withdrawn =>
      refine ⟨id, rfl, List.length_modify _ _ _, fun other hempty => ?_⟩
      refine (OrderedMap.get?_erase _ _ _).trans ?_
      rw [hempty, ite_self]
    | terminated | canceled => exact ⟨id, rfl, List.length_modify _ _ _, fun _ => id⟩
    | _ => exact ⟨id, rfl, rfl, fun _ => id⟩

/-- **A stopped kernel** stays quiet, whatever the event. -/
lemma Quiet.step (hstopped : kernel.acceptingTasks = false) (event : KernelEvent) :
    Quiet kernel (kernel.step host event) := by
  have hcase := kernel.stepCase host event
  generalize kernel.step host event = next at hcase ⊢
  cases hcase with
  | moves hmoves | refused hmoves => exact .trans (.of_moves hmoves) ⟨id, rfl, rfl, fun _ => id⟩
  | accepts haccepts => exact absurd haccepts.accepting (by simp [hstopped])
  | goesOn =>
    rw [goOn]
    split <;> exact ⟨id, rfl, List.length_modify _ _ _, fun _ => id⟩
  | @ends index _ control _ _ _ hmoves =>
    have hended : Quiet kernel (kernel.endRun index control.request.taskId) :=
      ⟨id, rfl, List.length_modify _ _ _, fun _ => id⟩
    have hknown := hended.trans (.of_moves hmoves)
    rw [drainQueues, if_pos (hknown.refuses hstopped)]
    exact hknown
  | _ => exact ⟨id, rfl, rfl, fun _ => id⟩

/-- What is dropped does not wait any more. -/
lemma queued_dropAll (now : Timestamp) (written : String → Bool) {entries : List (String × Nat)}
    (hknown : ∀ entry ∈ entries, entry.2 < kernel.controls.length) {taskId : String}
    (htask : taskId ∈ entries.map Prod.fst ∨ kernel.queued.get? taskId = none) :
    (entries.foldl (dropQueued now written) kernel).queued.get? taskId = none := by
  induction entries generalizing kernel with
  | nil => simpa using htask
  | cons entry rest ih =>
    have hentry := List.getElem?_eq_getElem (hknown entry (by simp))
    refine ih (fun other hother => ?_) ?_
    · rw [dropQueued, hentry]
      exact (hknown other (by simp [hother])).trans_eq (List.length_modify _ _ _).symm
    · by_cases heq : taskId = entry.1
      · rw [dropQueued, hentry]
        exact .inr ((OrderedMap.get?_erase _ _ _).trans (if_pos heq))
      · rw [queued_dropQueued heq]
        simpa [heq] using htask

lemma stopped_shutdown (hbegun : kernel.Begun) (haccepts : kernel.acceptingTasks = true)
    (now : Timestamp) (written : String → Bool) :
    (kernel.shutdown now written).acceptingTasks = false
      ∧ ∀ taskId, (kernel.shutdown now written).queued.get? taskId = none := by
  have hknown : ∀ entry ∈ kernel.queued.entries, entry.2 < kernel.controls.length := by
    intro entry hentry
    obtain ⟨control, hcontrol, -⟩ :=
      hbegun.waits entry.1 entry.2 (OrderedMap.get?_eq_some.mpr hentry)
    exact (List.getElem?_eq_some_iff.mp hcontrol).1
  have hdropped : Quiet { kernel with acceptingTasks := false } _ :=
    .of_moves (dropAll_moves now written kernel.queued.nodup fun entry =>
      OrderedMap.get?_eq_some.mpr)
  have hstopped := fun entries dropped => Quiet.of_moves
    (Moves.foldl (stopActive_moves now written) entries dropped)
  rw [shutdown, if_neg (by simp [haccepts])]
  refine ⟨(hstopped _ _).refuses (hdropped.refuses rfl), fun taskId =>
    (hstopped _ _).waits taskId (queued_dropAll now written ?_ ?_)⟩
  · exact hknown
  cases hqueued : kernel.queued.get? taskId with
  | none => exact .inr rfl
  | some index => exact .inl (List.mem_map_of_mem (OrderedMap.get?_eq_some.mp hqueued))

/-- **Shutdown is final.**  Whatever happens after a kernel was shut down: it begins and accepts
no execution, and nothing waits in it. -/
theorem shutdown_final {registry : Option ExecutionHandleStoreState}
    {allowed : HostKernel → KernelEvent → Prop}
    (hrun : Runs host allowed (newHostKernel registry) kernel)
    (haccepts : kernel.acceptingTasks = true) (now : Timestamp) (written : String → Bool)
    (hmore : Runs host allowed (kernel.shutdown now written) next) :
    next.acceptingTasks = false ∧ next.started = kernel.started
      ∧ next.controls.length = kernel.controls.length
      ∧ ∀ taskId, next.queued.get? taskId = none := by
  have hbegun : kernel.Begun := hrun.invariant
    ⟨by simp [newHostKernel], by simp [newHostKernel], by simp [newHostKernel]⟩
    (by rintro before after - hbefore ⟨event, -, rfl⟩; exact hbefore.step event)
  obtain ⟨hstopped, hempty⟩ := stopped_shutdown hbegun haccepts now written
  have hlast : next.acceptingTasks = false ∧ Quiet (kernel.shutdown now written) next := by
    refine hmore.invariant (I := fun next => next.acceptingTasks = false
      ∧ Quiet (kernel.shutdown now written) next) ⟨hstopped, .of_moves .refl⟩ ?_
    rintro before after - ⟨hbefore, hquiet⟩ ⟨event, -, rfl⟩
    have hstep : Quiet before (before.step host event) := .step hbefore event
    exact ⟨hstep.refuses hbefore, hquiet.trans hstep⟩
  have hshut := Quiet.of_moves (shutdown_moves kernel now written)
  exact ⟨hlast.1, hlast.2.begun.trans hshut.begun, hlast.2.accepted.trans hshut.accepted,
    fun taskId => hlast.2.waits taskId (hempty taskId)⟩

theorem shutdown_final_refused :
    let next := (oneWaits.shutdown 0 fun _ => true).step singleHost (executePlain "grant-3" "task-3" 1)
    next.acceptingTasks = false ∧ next.started = oneWaits.started
      ∧ next.controls.length = oneWaits.controls.length ∧ ∀ taskId, next.queued.get? taskId = none :=
  shutdown_final runs_oneWaits (by decide +kernel) 0 _
    (Reached.refl.step ⟨executePlain "grant-3" "task-3" 1, trivial, rfl⟩)

/-! ### A call that comes too late -/

/-- A host whose executions work on snapshots of the workspaces. -/
def snapshotHost : HostOptions := { plainHost with workspaceStore := true }

/-- The authority for the request, which may write. -/
def writingAuthority : ExecutionAuthority :=
  { plainAuthority "grant-1" "task-1" 1 with workspaceAccess := [.read, .write] }

/-- The process has ended with the text "hi", and the run has asked the registry for
the last time. -/
def answersToLastCheck : List RunAnswer :=
  List.replicate 5 (.fulfilled 0 true) ++ [.exited ⟨0, some [104, 105]⟩ 0 0, .fulfilled 0 true]

/-- The kernel after the run of the first execution got some answers. -/
def resumeAll (host : HostOptions) (kernel : HostKernel) (answers : List RunAnswer) : HostKernel :=
  answers.foldl (fun kernel answer => kernel.step host (.resume 0 answer)) kernel

lemma runs_resumeAll {start : HostKernel} (hrun : Runs host (fun _ _ => True) start kernel)
    (answers : List RunAnswer) :
    Runs host (fun _ _ => True) start (kernel.resumeAll host answers) := by
  induction answers generalizing kernel with
  | nil => exact hrun
  | cons answer answers ih => exact ih (hrun.step ⟨.resume 0 answer, trivial, rfl⟩)

/-- A call of `cancel` that comes while the last answer of the registry is under way
returns `true`, and the run commits its snapshot and publishes its result. -/
theorem cancel_loses :
    ∃ kernel, Runs snapshotHost (fun _ _ => True)
        (newHostKernel (some emptyExecutionHandleStoreState)) kernel
      ∧ (kernel.cancel snapshotHost "task-1" 0 true).1 = true
      ∧ kernel.controls.all (fun control => !control.committed) = true
      ∧ ∃ later, Runs snapshotHost (fun _ _ => True)
          (kernel.cancel snapshotHost "task-1" 0 true).2 later
        ∧ later.controls.any (fun control => control.request.taskId == "task-1"
          && control.machine.state == .completed && control.machine.artifact.isSome
          && control.committed) = true := by
  have hstart : Runs snapshotHost (fun _ _ => True)
      (newHostKernel (some emptyExecutionHandleStoreState))
      (newHostKernel (some emptyExecutionHandleStoreState)) := Reached.refl
  have hregistered := hstart.step ⟨.register plainConnector, trivial, rfl⟩
  have hexecuted := hregistered.step ⟨.execute (plainRequest "task-1") writingAuthority 0 0,
    trivial, rfl⟩
  refine ⟨_, runs_resumeAll hexecuted answersToLastCheck, by decide +kernel, by decide +kernel, _,
    runs_resumeAll Reached.refl [.fulfilled 0 true, .fulfilled 0 true], by decide +kernel⟩

end HostKernel

end TetiBot

import TetiBot.Callable.Queues

/-
The tables of the host kernel agree with its executions.

* `HostKernel.schedule`: the executions of a kernel, as its tables see them;
* `HostKernel.Scheduled`: the tables agree with them;
* `HostKernel.Scheduled.withdraw`, `begin`, `endRun`, `accept`, `of_move`: they
  do after every step.
-/

namespace TetiBot

open Library

/-! ### What leaves an execution in its phase -/

namespace ExecutionControl

variable (control : ExecutionControl)

lemma entry_requestTermination (reason : TerminationReason) :
    (control.requestTermination reason).entry = control.entry := by
  rw [requestTermination]
  split_ifs <;> rfl

lemma machine_requestTermination (reason : TerminationReason) :
    (control.requestTermination reason).machine = control.machine := by
  rw [requestTermination]
  split_ifs <;> rfl

lemma entry_resume (host : HostOptions)
    (registry : Option ExecutionHandleStoreState) (answer : RunAnswer) :
    (control.resume host registry answer).1.entry = control.entry := by
  by_cases hrunning : control.running = true
  · have hcontinues : control.Continues (control.resume host registry answer).1 :=
      control.resume_continues hrunning answer
    rw [entry, entry, hcontinues.connector, hcontinues.request,
      phase_eq_runs.mpr hcontinues.running, phase_eq_runs.mpr hrunning]
  · rw [control.resume_of_not_running (by simpa using hrunning)]

end ExecutionControl

namespace HostKernel

variable {host : HostOptions} (kernel : HostKernel)

/-- The executions of a kernel. -/
def schedule : Schedule := fun index =>
  kernel.controls[index]?.map ExecutionControl.entry

lemma childOf_schedule (index : Nat) : kernel.schedule.childOf index = kernel.childOf index := by
  rw [Schedule.childOf, schedule, Option.map_map, childOf]
  rfl

variable {index : Nat} {control : ExecutionControl}

lemma schedule_modifyControl (hknown : kernel.controls[index]? = some control)
    (f : ExecutionControl → ExecutionControl) :
    (kernel.modifyControl index f).schedule
      = Function.update kernel.schedule index (some (f control).entry) := by
  funext j
  rw [schedule, getElem?_modifyControl, Function.update_apply]
  by_cases hj : index = j
  · subst hj
    rw [if_pos rfl, if_pos rfl, hknown]
    rfl
  · rw [if_neg hj, if_neg (Ne.symm hj), schedule]

lemma schedule_modifyControl_of_same {f : ExecutionControl → ExecutionControl}
    (hentry : ∀ control, kernel.controls[index]? = some control →
      (f control).entry = control.entry) :
    (kernel.modifyControl index f).schedule = kernel.schedule := by
  cases hknown : kernel.controls[index]? with
  | none =>
    funext j
    rw [schedule, getElem?_modifyControl, schedule]
    split_ifs with hj
    · rw [← hj, hknown]
      rfl
    · rfl
  | some control =>
    have hself : kernel.schedule index = some control.entry := by rw [schedule, hknown]; rfl
    rw [schedule_modifyControl kernel hknown, hentry control hknown, ← hself,
      Function.update_eq_self]

lemma schedule_startRun (hknown : kernel.controls[index]? = some control) (taskId : String) :
    (kernel.startRun index taskId).schedule
      = Function.update kernel.schedule index (some ⟨control.connector, control.request, .runs⟩) := by
  have hruns : (control.start kernel.registry).phase = .runs := by
    cases hregistry : kernel.registry <;> rfl
  refine (schedule_modifyControl kernel hknown (ExecutionControl.start kernel.registry)).trans ?_
  show Function.update kernel.schedule index (some ⟨control.connector, control.request,
    (control.start kernel.registry).phase⟩) = _
  rw [hruns]

lemma schedule_endRun {kernel : HostKernel} (hknown : kernel.controls[index]? = some control)
    (taskId : String) :
    (kernel.endRun index taskId).schedule
      = Function.update kernel.schedule index (some ⟨control.connector, control.request, .ended⟩) :=
  schedule_modifyControl kernel hknown _

lemma lt_length_of_schedule {kernel : HostKernel} (h : kernel.schedule index ≠ none) :
    index < kernel.controls.length := by
  by_contra hle
  refine h ?_
  rw [schedule, List.getElem?_eq_none (not_lt.mp hle)]
  rfl

lemma schedule_append (control : ExecutionControl) :
    (fun index => (kernel.controls ++ [control])[index]?.map ExecutionControl.entry)
      = Function.update kernel.schedule kernel.controls.length (some control.entry) := by
  funext j
  rw [Function.update_apply]
  split_ifs with hj
  · rw [hj, List.getElem?_concat_length]
    rfl
  · rw [schedule]
    rcases Nat.lt_or_gt_of_ne hj with hlt | hgt
    · rw [List.getElem?_append_left hlt]
    · rw [List.getElem?_eq_none (by simp; omega), List.getElem?_eq_none (by omega)]

/-- The executions after one was accepted. -/
lemma schedule_accept (connector : HostConnector) (request : CallableAdapterTaskRequest)
    (authority : ExecutionAuthority) (starts : Bool) :
    (kernel.accept connector request authority starts).schedule
      = Function.update kernel.schedule kernel.controls.length
        (some ⟨connector, request, if starts then .runs else .waits⟩) := by
  cases starts with
  | false => exact schedule_append kernel _
  | true =>
    have hstarted := schedule_startRun { kernel with
      controls := kernel.controls ++ [ExecutionControl.submit connector request authority] }
      List.getElem?_concat_length request.taskId
    refine hstarted.trans ?_
    rw [show HostKernel.schedule { kernel with controls := _ } = _ from
      schedule_append kernel _, Function.update_idem]
    rfl

/-! ### The tables of a kernel -/

/-- The tables of a kernel agree with its executions. -/
structure Scheduled (host : HostOptions) (kernel : HostKernel) : Prop where
  tables : Tables kernel.schedule kernel.active kernel.queued
  lines : Lines kernel.schedule kernel.childQueues
  order : StartOrder kernel.schedule kernel.started
  limits : Limits host kernel.schedule kernel.connectors
  known : ∀ taskId index, kernel.queued.get? taskId = some index →
    kernel.tasks.get? taskId = some index ∧ kernel.isTerminal index = false
  room : kernel.active.size ≤ host.maxConcurrentTasks

namespace Scheduled

variable {kernel next : HostKernel} {taskId : String} {index : Nat} {control : ExecutionControl}

/-- What waits in the map is an execution that waits. -/
lemma waits (h : Scheduled host kernel) (hqueued : kernel.queued.get? taskId = some index)
    (hknown : kernel.controls[index]? = some control) :
    kernel.schedule.Waits index control.entry ∧ control.request.taskId = taskId := by
  obtain ⟨entry, hwaits, htask⟩ := (h.tables.waits taskId index).mp hqueued
  have hentry : entry = control.entry := by
    have hsome := hwaits.1
    rw [schedule, hknown] at hsome
    exact (Option.some.inj hsome).symm
  exact ⟨hentry ▸ hwaits, by rw [← htask, hentry]; rfl⟩

/-- An execution that waits is the only one of its task. -/
lemma waits_unique (h : Scheduled host kernel) {entry : ScheduleEntry}
    (hwaits : kernel.schedule.Waits index entry) (j : Nat) (other : ScheduleEntry)
    (hother : kernel.schedule.Waits j other) (htask : other.request.taskId = entry.request.taskId) :
    j = index :=
  h.tables.unique hother.1 hwaits.1 (by simp [hother.2]) (by simp [hwaits.2]) htask

variable {f : ExecutionControl → ExecutionControl}

/-- An update that leaves every execution in its phase. -/
lemma modify (h : Scheduled host kernel)
    (hentry : ∀ control, kernel.controls[index]? = some control →
      (f control).entry = control.entry)
    (hmachine : ∀ control, kernel.controls[index]? = some control → control.stage = .queued →
      (f control).machine = control.machine) : Scheduled host (kernel.modifyControl index f) := by
  have hschedule := schedule_modifyControl_of_same kernel hentry
  refine ⟨?_, ?_, ?_, ?_, fun taskId waiting hqueued => ?_, h.room⟩
  · rw [hschedule]
    exact h.tables
  · rw [hschedule]
    exact h.lines
  · rw [hschedule]
    exact h.order
  · rw [hschedule]
    exact h.limits
  · obtain ⟨htask, hlive⟩ := h.known taskId waiting hqueued
    refine ⟨htask, ?_⟩
    rw [isTerminal, getElem?_modifyControl]
    split_ifs with heq
    · subst heq
      cases hknown : kernel.controls[index]? with
      | none => rfl
      | some control =>
        have hstage := ExecutionControl.phase_eq_waits.mp (h.waits hqueued hknown).1.2
        rw [isTerminal, hknown] at hlive
        rw [Option.map_some, Option.any_some, hmachine control hknown hstage]
        exact hlive
    · exact hlive

lemma isTerminal_modifyControl (kernel : HostKernel) {j : Nat} (hj : index ≠ j) :
    (kernel.modifyControl index f).isTerminal j = kernel.isTerminal j := by
  rw [isTerminal, getElem?_modifyControl, if_neg hj, isTerminal]

variable (h : Scheduled host kernel)

include h

/-- What else waits is still known when an execution stops to wait. -/
lemma known_erase (hqueued : kernel.queued.get? taskId = some index) {other : String} {j : Nat}
    (hother : (kernel.queued.erase taskId).get? other = some j) :
    kernel.tasks.get? other = some j ∧ (kernel.modifyControl index f).isTerminal j = false := by
  rw [OrderedMap.get?_erase] at hother
  split_ifs at hother with hne
  obtain ⟨htask, hlive⟩ := h.known other j hother
  have hj : index ≠ j := by
    rintro rfl
    obtain ⟨entry, hwaits, hentry⟩ := (h.tables.waits other index).mp hother
    obtain ⟨entry', hwaits', hentry'⟩ := (h.tables.waits taskId index).mp hqueued
    obtain rfl := Option.some.inj (hwaits.1.symm.trans hwaits'.1)
    exact hne (hentry.symm.trans hentry')
  exact ⟨htask, by rw [isTerminal_modifyControl kernel hj, hlive]⟩

/-- An execution that waits is withdrawn. -/
lemma withdraw (hqueued : kernel.queued.get? taskId = some index)
    (hknown : kernel.controls[index]? = some control) (code : String) (accepted : Bool) :
    Scheduled host ((kernel.removeQueued taskId control.connector.childAgentId).modifyControl index
      (ExecutionControl.withdraw code accepted)) := by
  obtain ⟨hwaits, rfl⟩ := h.waits hqueued hknown
  have hschedule : ((kernel.removeQueued control.request.taskId
      control.connector.childAgentId).modifyControl index
        (ExecutionControl.withdraw code accepted)).schedule
      = Function.update kernel.schedule index (some ⟨control.connector, control.request, .ended⟩) :=
    schedule_modifyControl (kernel.removeQueued _ _) hknown _
  refine ⟨?_, ?_, ?_, ?_, fun _ _ => h.known_erase hqueued, h.room⟩
  · rw [hschedule]
    refine h.tables.enter (fun taskId => ?_) (fun taskId => ?_) hwaits.1 (by simp [hwaits.2]) rfl
    · show kernel.active.get? taskId = _
      split_ifs with htask hruns
      · cases hruns
      · rw [htask]
        exact h.tables.apart _ _ hqueued
      · rfl
    · exact OrderedMap.get?_erase _ _ _
  · rw [hschedule]
    have hremoved := h.lines.remove ⟨control.connector, control.request, .ended⟩ hwaits
      (by simp) (h.waits_unique hwaits)
    rwa [h.limits.target index _ hwaits.1] at hremoved
  · rw [hschedule]
    exact h.order.enter hwaits.1 rfl (by simp)
  · rw [hschedule]
    exact h.limits.enter hwaits.1 rfl rfl (by simp)

lemma begin {childAgentId : String} {rest : List String}
    (hfound : kernel.childQueues.get? childAgentId = some (taskId :: rest))
    (hqueued : kernel.queued.get? taskId = some index)
    (hknown : kernel.controls[index]? = some control)
    (hroom : kernel.active.size < host.maxConcurrentTasks) :
    Scheduled host ((kernel.removeQueued taskId childAgentId).startRun index taskId) := by
  obtain ⟨hwaits, rfl⟩ := h.waits hqueued hknown
  have hagent : control.request.agentId = childAgentId := by
    have hmem : control.request.taskId ∈ lineOf kernel.childQueues childAgentId := by
      rw [lineOf, hfound]
      exact List.mem_cons_self
    obtain ⟨j, entry, hentry, htask, hchild⟩ := (h.lines.mem _ _).mp hmem
    obtain rfl := h.waits_unique hwaits j entry hentry htask
    obtain rfl := Option.some.inj (hentry.1.symm.trans hwaits.1)
    exact hchild
  subst hagent
  have hschedule : ((kernel.removeQueued control.request.taskId
      control.request.agentId).startRun index control.request.taskId).schedule
      = Function.update kernel.schedule index (some ⟨control.connector, control.request, .runs⟩) :=
    schedule_startRun (kernel.removeQueued _ _) hknown _
  have hidle := h.tables.apart _ _ hqueued
  refine ⟨?_, ?_, ?_, ?_, fun _ _ => h.known_erase hqueued, ?_⟩
  · rw [hschedule]
    refine h.tables.enter (fun taskId => ?_) (fun taskId => ?_) hwaits.1 (by simp [hwaits.2]) rfl
    · exact OrderedMap.get?_set _ _ _ _
    · exact OrderedMap.get?_erase _ _ _
  · rw [hschedule]
    exact h.lines.remove _ hwaits (by simp) (h.waits_unique hwaits)
  · rw [hschedule]
    exact h.order.begin hwaits rfl (by simp) fun j other hother hj hagent =>
      h.lines.head_first hfound hwaits rfl hother hj (h.waits_unique hwaits) hagent
  · rw [hschedule]
    exact h.limits.enter hwaits.1 rfl rfl (by simp)
  · show (kernel.active.set _ _).size ≤ _
    rw [OrderedMap.size_set hidle]
    exact hroom

lemma endRun (hknown : kernel.controls[index]? = some control) (hruns : control.running = true) :
    Scheduled host (kernel.endRun index control.request.taskId) := by
  have hphase : control.entry.phase = .runs := ExecutionControl.phase_eq_runs.mpr hruns
  have hself : kernel.schedule index = some control.entry := by rw [schedule, hknown]; rfl
  have hactive : kernel.active.get? control.request.taskId = some index :=
    (h.tables.runs _ _).mpr ⟨control.entry, hself, hphase, rfl⟩
  have hidle : kernel.queued.get? control.request.taskId = none := by
    cases hqueued : kernel.queued.get? control.request.taskId with
    | none => rfl
    | some waiting =>
      rw [h.tables.apart _ _ hqueued] at hactive
      cases hactive
  have hschedule : (kernel.endRun index control.request.taskId).schedule
      = Function.update kernel.schedule index (some ⟨control.connector, control.request, .ended⟩) :=
    schedule_endRun hknown _
  have hwaits (j : Nat) (other : ScheduleEntry) :
      Schedule.Waits (Function.update kernel.schedule index
        (some ⟨control.connector, control.request, .ended⟩)) j other
        ↔ kernel.schedule.Waits j other := by
    rw [Schedule.waits_update]
    split_ifs with hj
    · refine iff_of_false (by simp) fun hother => ?_
      rw [hj] at hother
      obtain rfl := Option.some.inj (hother.1.symm.trans hself)
      exact absurd (hother.2.symm.trans hphase) (by simp)
    · exact Iff.rfl
  refine ⟨?_, ?_, ?_, ?_, fun taskId j hqueued => ?_, ?_⟩
  · rw [hschedule]
    refine h.tables.enter (fun taskId => ?_) (fun taskId => ?_) hself (by simp [hphase]) rfl
    · exact OrderedMap.get?_erase _ _ _
    · show kernel.queued.get? taskId = _
      split_ifs with htask hwaits
      · cases hwaits
      · rw [htask]
        exact hidle
      · rfl
  · rw [hschedule]
    exact h.lines.congr hwaits
  · rw [hschedule]
    exact h.order.enter hself rfl (by simp)
  · rw [hschedule]
    exact h.limits.enter hself rfl rfl (by simp)
  · obtain ⟨htask, hlive⟩ := h.known taskId j hqueued
    refine ⟨htask, ?_⟩
    rw [← hlive]
    refine isTerminal_modifyControl kernel ?_
    rintro rfl
    obtain ⟨entry, hentry, -⟩ := (h.tables.waits taskId index).mp hqueued
    obtain rfl := Option.some.inj (hentry.1.symm.trans hself)
    exact absurd (hentry.2.symm.trans hphase) (by simp)
  · show (kernel.active.erase _).size ≤ _
    have hsize := OrderedMap.size_erase hactive
    have hroom := h.room
    omega

/-- What waits is still known when an execution is accepted. -/
lemma known_append (control : ExecutionControl) {j : Nat}
    (hqueued : kernel.queued.get? taskId = some j) :
    j < kernel.controls.length
      ∧ ((kernel.controls ++ [control])[j]?.any fun control => control.machine.isTerminal)
        = false := by
  obtain ⟨entry, hwaits, -⟩ := (h.tables.waits taskId j).mp hqueued
  have hlt : j < kernel.controls.length := lt_length_of_schedule (by simp [hwaits.1])
  refine ⟨hlt, ?_⟩
  rw [List.getElem?_append_left hlt]
  exact (h.known taskId j hqueued).2

/-- An execution of a task that neither runs nor waits is accepted. -/
lemma accept {connector : HostConnector} {request : CallableAdapterTaskRequest}
    (authority : ExecutionAuthority) (starts : Bool) (hlimit : 1 ≤ concurrencyLimit host connector)
    (htarget : request.agentId = connector.childAgentId)
    (hidle : kernel.active.get? request.taskId = none)
    (hfresh : kernel.queued.get? request.taskId = none)
    (hagree : ∀ j other, kernel.schedule.Waits j other →
      other.request.agentId = request.agentId →
      concurrencyLimit host other.connector = concurrencyLimit host connector)
    (hstarts : starts = true → kernel.active.size < host.maxConcurrentTasks
      ∧ ∀ j other, kernel.schedule.Waits j other → other.request.agentId ≠ request.agentId) :
    Scheduled host (kernel.accept connector request authority starts) := by
  have hnew : kernel.schedule kernel.controls.length = none := by
    by_contra hsome
    exact lt_irrefl _ (lt_length_of_schedule hsome)
  have hlast (i : Nat) (hi : kernel.schedule i ≠ none) : i < kernel.controls.length :=
    lt_length_of_schedule hi
  have hother (taskId : String) (j : Nat) (hqueued : kernel.queued.get? taskId = some j) :
      (kernel.tasks.set request.taskId kernel.controls.length).get? taskId = some j := by
    rw [OrderedMap.get?_set, if_neg, (h.known taskId j hqueued).1]
    rintro rfl
    rw [hfresh] at hqueued
    cases hqueued
  cases starts with
  | false =>
    have hschedule : (kernel.accept connector request authority false).schedule
        = Function.update kernel.schedule kernel.controls.length
          (some ⟨connector, request, .waits⟩) := schedule_accept kernel _ _ _ false
    refine ⟨?_, ?_, ?_, ?_, fun taskId j hqueued => ?_, h.room⟩
    · rw [hschedule]
      refine h.tables.submit (fun taskId => ?_) (fun taskId => ?_) hnew hidle hfresh
      · show kernel.active.get? taskId = _
        split_ifs with htask hruns
        · cases hruns
        · rw [htask]
          exact hidle
        · rfl
      · exact OrderedMap.get?_set _ _ _ _
    · rw [hschedule]
      have hline := h.lines.append ⟨connector, request, .waits⟩ rfl
        (fun j other hwaits => hlast j (by simp [hwaits.1])) fun j other hwaits htask => by
          rw [(h.tables.waits request.taskId j).mpr ⟨other, hwaits, htask⟩] at hfresh
          cases hfresh
      dsimp only at hline
      rwa [htarget] at hline
    · rw [hschedule]
      exact h.order.submit _ hlast
    · rw [hschedule]
      exact h.limits.submit hlimit htarget hagree
    · have hqueued : (kernel.queued.set request.taskId kernel.controls.length).get? taskId
          = some j := hqueued
      rw [OrderedMap.get?_set] at hqueued
      split_ifs at hqueued with htask
      · obtain rfl := Option.some.inj hqueued
        refine ⟨(OrderedMap.get?_set _ _ _ _).trans (if_pos htask), ?_⟩
        show ((kernel.controls ++ [_])[_]?.any _) = false
        rw [List.getElem?_concat_length]
        rfl
      · exact ⟨hother taskId j hqueued, (h.known_append _ hqueued).2⟩
  | true =>
    obtain ⟨hroom, halone⟩ := hstarts rfl
    have hschedule : (kernel.accept connector request authority true).schedule
        = Function.update kernel.schedule kernel.controls.length
          (some ⟨connector, request, .runs⟩) := schedule_accept kernel _ _ _ true
    refine ⟨?_, ?_, ?_, ?_, fun taskId j hqueued => ?_, ?_⟩
    · rw [hschedule]
      refine h.tables.submit (fun taskId => ?_) (fun taskId => ?_) hnew hidle hfresh
      · exact OrderedMap.get?_set _ _ _ _
      · show kernel.queued.get? taskId = _
        split_ifs with htask hwaits
        · cases hwaits
        · rw [htask]
          exact hfresh
        · rfl
    · rw [hschedule]
      refine h.lines.congr fun j other => ?_
      rw [Schedule.waits_update]
      split_ifs with hj
      · refine iff_of_false (by simp) fun hwaits => ?_
        rw [hj, Schedule.Waits, hnew] at hwaits
        cases hwaits.1
      · exact Iff.rfl
    · rw [hschedule]
      exact h.order.submitStart hlast (by simp) halone
    · rw [hschedule]
      exact h.limits.submit hlimit htarget hagree
    · obtain ⟨hlt, hlive⟩ := h.known_append
        (ExecutionControl.submit connector request authority) hqueued
      refine ⟨hother taskId j hqueued, ?_⟩
      rw [← hlive]
      exact isTerminal_modifyControl { kernel with
        controls := kernel.controls ++ [ExecutionControl.submit connector request authority] }
        hlt.ne'
    · show (kernel.active.set _ _).size ≤ _
      rw [OrderedMap.size_set hidle]
      exact hroom

lemma callRegistry (call : RegistryCall) : Scheduled host (kernel.callRegistry call) :=
  ⟨h.tables, h.lines, h.order, h.limits, h.known, h.room⟩

lemma pruneAuthorities (now : Timestamp) : Scheduled host (kernel.pruneAuthorities now) :=
  ⟨h.tables, h.lines, h.order, h.limits, h.known, h.room⟩

lemma register {connector : HostConnector} (hlimit : 1 ≤ concurrencyLimit host connector) :
    Scheduled host { kernel with
      connectors := kernel.connectors.set connector.connectorId connector } := by
  refine ⟨h.tables, h.lines, h.order, ⟨fun connectorId other hfound => ?_, h.limits.positive,
    h.limits.target, h.limits.agree⟩, h.known, h.room⟩
  rw [OrderedMap.get?_set] at hfound
  split_ifs at hfound
  · obtain rfl := Option.some.inj hfound
    exact hlimit
  · exact h.limits.registered connectorId other hfound

lemma of_move (hmove : Move kernel next) : Scheduled host next := by
  cases hmove with
  | revoked => exact h.callRegistry _
  | stopped => exact ⟨h.tables, h.lines, h.order, h.limits, h.known, h.room⟩
  | forgotten tasks hkept =>
    refine ⟨h.tables, h.lines, h.order, h.limits, fun taskId index hqueued => ?_, h.room⟩
    obtain ⟨htask, hlive⟩ := h.known taskId index hqueued
    rcases hkept taskId with hsame | ⟨ended, hended, hterminal⟩
    · exact ⟨hsame.trans htask, hlive⟩
    · rw [htask] at hended
      obtain rfl := Option.some.inj hended
      have hlive : kernel.isTerminal index = false := hlive
      rw [hlive] at hterminal
      cases hterminal
  | unregistered connectorId =>
    refine ⟨h.tables, h.lines, h.order, ⟨fun other connector hfound => ?_, h.limits.positive,
      h.limits.target, h.limits.agree⟩, h.known, h.room⟩
    have hfound : (kernel.connectors.erase connectorId).get? other = some connector := hfound
    rw [OrderedMap.get?_erase] at hfound
    split_ifs at hfound
    exact h.limits.registered other connector hfound
  | terminated index reason =>
    exact h.modify (fun control _ => control.entry_requestTermination reason)
      fun control _ _ => control.machine_requestTermination reason
  | canceled taskId index control now written =>
    exact (h.callRegistry _).modify (fun other _ => other.entry_requestTermination .cancel)
      fun other _ _ => other.machine_requestTermination .cancel
  | withdrawn taskId index control code accepted hwaits hknown =>
    exact h.withdraw hwaits hknown code accepted

lemma goOn (hknown : kernel.controls[index]? = some control) (answer : RunAnswer) :
    Scheduled host (kernel.goOn host index control answer) := by
  have hnext : Scheduled host (kernel.modifyControl index
      fun _ => (control.resume host kernel.registry answer).1) := by
    refine h.modify (fun other hother => ?_) fun other hother hstage => ?_
    · obtain rfl := Option.some.inj (hother.symm.trans hknown)
      exact other.entry_resume host kernel.registry answer
    · obtain rfl := Option.some.inj (hother.symm.trans hknown)
      rw [other.resume_of_not_running (by simp [ExecutionControl.running, hstage])]
  rw [HostKernel.goOn]
  split
  · exact hnext
  · exact hnext.callRegistry _

lemma of_moves (hmoves : Moves kernel next) : Scheduled host next := by
  induction hmoves with
  | refl => exact h
  | tail _ hmove ih => exact ih.of_move hmove

end Scheduled

end HostKernel

end TetiBot

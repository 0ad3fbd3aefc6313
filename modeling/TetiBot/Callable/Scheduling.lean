import TetiBot.Callable.Scheduled

/-
The scheduling of the host kernel (`execute`, `cancel` and `drainQueues` of
`runtime/callable/kernel.ts`).

* `HostKernel.AtLimit`: a limit keeps an execution from beginning;
* `HostKernel.Draining`: the loop of `drainQueues`, in which what waits is kept
  by a limit or still has its turn;
* `HostKernel.Orderly`: the calls of `execute` that the kernel is made for;
* `HostKernel.kernel_schedules`: with such calls, the limits are kept, each
  execution that waits is in one queue, executions of one child begin in order,
  and what waits is not stranded;
* `HostKernel.kernel_overcommits`: with another call, too many executions run.
-/

namespace TetiBot

open Library

namespace HostKernel

variable {host : HostOptions} {kernel next : HostKernel}

/-! ### What keeps an execution from beginning -/

/-- The kernel or the child has no room for an execution, or has room for `slack`
at most. -/
def AtLimit (host : HostOptions) (kernel : HostKernel) (slack : Nat) (entry : ScheduleEntry) :
    Prop :=
  host.maxConcurrentTasks ≤ kernel.active.size + slack
    ∨ concurrencyLimit host entry.connector
      ≤ kernel.activeForChild entry.request.agentId + slack

lemma AtLimit.mono {slack slack' : Nat} {entry : ScheduleEntry}
    (h : AtLimit host kernel slack entry) (hsize : kernel.active.size + slack
      ≤ next.active.size + slack')
    (hchild : kernel.activeForChild entry.request.agentId + slack
      ≤ next.activeForChild entry.request.agentId + slack') :
    AtLimit host next slack' entry :=
  h.imp (·.trans hsize) (·.trans hchild)

/-- No execution begins or ends. -/
structure Steady (kernel next : HostKernel) : Prop where
  accepting : next.acceptingTasks = true → kernel.acceptingTasks = true
  active : next.active = kernel.active
  started : next.started = kernel.started
  child : next.schedule.childOf = kernel.schedule.childOf
  waits : ∀ j other, next.schedule.Waits j other → kernel.schedule.Waits j other

namespace Steady

lemma refl : Steady kernel kernel := ⟨id, rfl, rfl, rfl, fun _ _ => id⟩

lemma trans {last : HostKernel} (h : Steady kernel next) (h' : Steady next last) :
    Steady kernel last :=
  ⟨h.accepting ∘ h'.accepting, h'.active.trans h.active, h'.started.trans h.started,
    h'.child.trans h.child, fun j other => h.waits j other ∘ h'.waits j other⟩

lemma modify {index : Nat} {f : ExecutionControl → ExecutionControl}
    (hentry : ∀ control, kernel.controls[index]? = some control →
      (f control).entry = control.entry) : Steady kernel (kernel.modifyControl index f) := by
  have hschedule := schedule_modifyControl_of_same kernel hentry
  exact ⟨id, rfl, rfl, by rw [hschedule], fun j other => by rw [hschedule]; exact id⟩

lemma of_move (hmove : Move kernel next) : Steady kernel next := by
  cases hmove with
  | revoked | forgotten | unregistered => exact ⟨id, rfl, rfl, rfl, fun _ _ => id⟩
  | stopped => exact ⟨fun h => (nomatch h), rfl, rfl, rfl, fun _ _ => id⟩
  | terminated index reason =>
    exact modify fun control _ => control.entry_requestTermination reason
  | canceled taskId index control now written =>
    have hrevoked : Steady kernel (kernel.callRegistry ⟨.cancel taskId none, now, written⟩) :=
      ⟨id, rfl, rfl, rfl, fun _ _ => id⟩
    refine hrevoked.trans (modify fun other _ => ?_)
    exact other.entry_requestTermination .cancel
  | withdrawn taskId index control code accepted hwaits hknown =>
    have hself : kernel.schedule index = some control.entry := by rw [schedule, hknown]; rfl
    have hschedule := schedule_modifyControl
      (kernel.removeQueued taskId control.connector.childAgentId) hknown
      (ExecutionControl.withdraw code accepted)
    refine ⟨id, rfl, rfl, ?_, fun j other hother => ?_⟩
    · rw [hschedule]
      exact Schedule.childOf_update hself rfl
    · rw [hschedule, Schedule.waits_update] at hother
      split_ifs at hother
      · exact absurd hother.2 (by simp [ExecutionControl.entry, ExecutionControl.withdraw,
          ExecutionControl.phase])
      · exact hother

lemma goOn {index : Nat} {control : ExecutionControl}
    (hknown : kernel.controls[index]? = some control) (answer : RunAnswer) :
    Steady kernel (kernel.goOn host index control answer) := by
  have hnext : Steady kernel (kernel.modifyControl index
      fun _ => (control.resume host kernel.registry answer).1) := by
    refine modify fun other hother => ?_
    obtain rfl := Option.some.inj (hother.symm.trans hknown)
    exact other.entry_resume host kernel.registry answer
  rw [HostKernel.goOn]
  split
  · exact hnext
  · exact hnext.trans ⟨id, rfl, rfl, rfl, fun _ _ => id⟩

lemma of_moves (hmoves : Moves kernel next) : Steady kernel next := by
  induction hmoves with
  | refl => exact refl
  | tail _ hmove ih => exact ih.trans (of_move hmove)

lemma activeForChild (h : Steady kernel next) (childAgentId : String) :
    next.activeForChild childAgentId = kernel.activeForChild childAgentId := by
  have hchild : next.childOf = kernel.childOf := by
    funext index
    rw [← childOf_schedule, ← childOf_schedule, h.child]
  rw [HostKernel.activeForChild, HostKernel.activeForChild, h.active, hchild]

lemma atLimit (h : Steady kernel next) {slack : Nat} {entry : ScheduleEntry}
    (hlimit : AtLimit host kernel slack entry) : AtLimit host next slack entry :=
  hlimit.mono (by rw [h.active]) (by rw [h.activeForChild])

end Steady

/-! ### How many run -/

lemma childOf_modifyControl {index : Nat} {f : ExecutionControl → ExecutionControl}
    (hf : ∀ control, (f control).request = control.request) :
    (kernel.modifyControl index f).childOf = kernel.childOf := by
  funext j
  rw [childOf, getElem?_modifyControl, childOf]
  split_ifs
  · rw [Option.map_map]
    exact congrArg (Option.map · _) (funext fun control =>
      congrArg CallableAdapterTaskRequest.agentId (hf control))
  · rfl

lemma activeForChild_startRun (kernel : HostKernel) {taskId : String} {index : Nat}
    (hidle : kernel.active.get? taskId = none) (childAgentId : String) :
    (kernel.startRun index taskId).activeForChild childAgentId
      = kernel.activeForChild childAgentId
        + if kernel.childOf index = some childAgentId then 1 else 0 := by
  have hchild : (kernel.startRun index taskId).childOf = kernel.childOf :=
    childOf_modifyControl fun _ => rfl
  rw [activeForChild, hchild]
  refine (OrderedMap.count_set hidle index _).trans ?_
  simp only [beq_iff_eq]
  rfl

lemma activeForChild_endRun {taskId : String} {index : Nat}
    (hactive : kernel.active.get? taskId = some index) (childAgentId : String) :
    kernel.activeForChild childAgentId
      ≤ (kernel.endRun index taskId).activeForChild childAgentId + 1 := by
  have hchild : (kernel.endRun index taskId).childOf = kernel.childOf :=
    childOf_modifyControl fun _ => rfl
  have hcount := OrderedMap.count_erase hactive fun _ index =>
    kernel.childOf index == some childAgentId
  rw [activeForChild, activeForChild, hchild]
  show _ ≤ (kernel.active.erase taskId).count _ + 1
  split_ifs at hcount <;> omega

/-! ### The queues are drained -/

/-- In the loop of `drainQueues`, for the children whose turn is still to come:
what waits is kept by a limit, or has its turn to come and would be kept by a
limit after one more start.  Since `before`, executions began within the limit of
their child. -/
structure Draining (host : HostOptions) (before : List Nat) (children : List String)
    (kernel : HostKernel) : Prop where
  scheduled : Scheduled host kernel
  blocked : ∀ j entry, kernel.schedule.Waits j entry → AtLimit host kernel 0 entry
    ∨ entry.request.agentId ∈ children ∧ AtLimit host kernel 1 entry
  fresh : ∀ index ∈ kernel.started, index ∉ before → ∀ entry, kernel.schedule index = some entry →
    kernel.activeForChild entry.request.agentId ≤ concurrencyLimit host entry.connector
      ∧ entry.request.agentId ∉ children

namespace Draining

variable {before : List Nat} {childAgentId : String} {rest : List String}

section

variable (h : Draining host before (childAgentId :: rest) kernel)
include h

lemma skip
    (hkept : ∀ j entry, kernel.schedule.Waits j entry → entry.request.agentId = childAgentId →
      AtLimit host kernel 0 entry) : Draining host before rest kernel := by
  refine ⟨h.scheduled, fun j entry hwaits => ?_, fun index hindex hnew entry hentry => ?_⟩
  · rcases h.blocked j entry hwaits with hlimit | ⟨hturn, hlimit⟩
    · exact .inl hlimit
    · rcases List.mem_cons.mp hturn with hchild | hturn
      · exact .inl (hkept j entry hwaits hchild)
      · exact .inr ⟨hturn, hlimit⟩
  · obtain ⟨hle, hturn⟩ := h.fresh index hindex hnew entry hentry
    exact ⟨hle, fun hmem => hturn (List.mem_cons_of_mem _ hmem)⟩

lemma begin (hturn : childAgentId ∉ rest) (hroom : kernel.active.size < host.maxConcurrentTasks)
    {taskId : String} {later : List String} {index : Nat} {control : ExecutionControl}
    (hfound : kernel.childQueues.get? childAgentId = some (taskId :: later))
    (hqueued : kernel.queued.get? taskId = some index)
    (hknown : kernel.controls[index]? = some control)
    (hchild : control.request.agentId = childAgentId)
    (hlimit : kernel.activeForChild childAgentId < concurrencyLimit host control.connector) :
    Draining host before rest ((kernel.removeQueued taskId childAgentId).startRun index taskId) := by
  have hidle := h.scheduled.tables.apart _ _ hqueued
  obtain ⟨hwaits, -⟩ := h.scheduled.waits hqueued hknown
  have hschedule := schedule_startRun (kernel.removeQueued taskId childAgentId) hknown taskId
  have hsize : ((kernel.removeQueued taskId childAgentId).startRun index taskId).active.size
      = kernel.active.size + 1 := OrderedMap.size_set hidle index
  have hchildOf : kernel.childOf index = some childAgentId := by rw [childOf, hknown, ← hchild]; rfl
  have hcount (other : String) :
      ((kernel.removeQueued taskId childAgentId).startRun index taskId).activeForChild other
        = kernel.activeForChild other + if other = childAgentId then 1 else 0 := by
    refine (activeForChild_startRun (kernel.removeQueued taskId childAgentId) hidle
      other).trans ?_
    show kernel.activeForChild other + (if kernel.childOf index = some other then 1 else 0) = _
    simp only [hchildOf, Option.some.injEq, eq_comm]
  refine ⟨h.scheduled.begin hfound hqueued hknown hroom, fun j entry hother => ?_,
    fun j hj hnew entry hentry => ?_⟩
  · rw [hschedule, Schedule.waits_update] at hother
    split_ifs at hother
    · exact absurd hother.2 (by simp)
    · rcases h.blocked j entry hother with hkept | ⟨hmem, hnearly⟩
      · exact .inl (hkept.mono (by omega) (by rw [hcount]; omega))
      · rcases List.mem_cons.mp hmem with heq | hmem
        · exact .inl (hnearly.mono (by omega) (by rw [hcount, if_pos heq]))
        · exact .inr ⟨hmem, hnearly.mono (by omega) (by rw [hcount]; omega)⟩
  · rw [hschedule, Function.update_apply] at hentry
    rcases List.mem_append.mp hj with hj | hj
    · split_ifs at hentry with heq
      · -- what waits has not begun
        rw [heq] at hj
        have hahead := h.scheduled.order.ahead index hj index control.entry hwaits (by
          rw [childOf_schedule, hchildOf, ← hchild]; rfl)
        exact absurd hahead (lt_irrefl _)
      · obtain ⟨hle, hother⟩ := h.fresh j hj hnew entry hentry
        have hne : entry.request.agentId ≠ childAgentId := fun heq => hother (heq ▸ List.mem_cons_self)
        rw [hcount, if_neg hne]
        exact ⟨hle, fun hmem => hother (List.mem_cons_of_mem _ hmem)⟩
    · obtain rfl := List.mem_singleton.mp hj
      rw [if_pos rfl] at hentry
      obtain rfl := Option.some.inj hentry
      dsimp only
      rw [hchild, hcount, if_pos rfl]
      exact ⟨hlimit, hturn⟩

lemma drainQueue
    (hturn : childAgentId ∉ rest) (hroom : kernel.active.size < host.maxConcurrentTasks) :
    Draining host before rest (kernel.drainQueue host childAgentId) := by
  rw [HostKernel.drainQueue]
  cases hfound : kernel.childQueues.get? childAgentId with
  | none =>
    refine h.skip fun j entry hwaits hchild => ?_
    have hmem := (h.scheduled.lines.mem childAgentId entry.request.taskId).mpr
      ⟨j, entry, hwaits, rfl, hchild⟩
    rw [lineOf, hfound] at hmem
    exact absurd hmem List.not_mem_nil
  | some queue =>
    cases queue with
    | nil => exact absurd hfound (h.scheduled.lines.nonempty childAgentId)
    | cons taskId later =>
      have hmem : taskId ∈ lineOf kernel.childQueues childAgentId := by
        rw [lineOf, hfound]
        exact List.mem_cons_self
      obtain ⟨index, entry, hwaits, htask, hchild⟩ := (h.scheduled.lines.mem _ _).mp hmem
      have hqueued := (h.scheduled.tables.waits taskId index).mpr ⟨entry, hwaits, htask⟩
      obtain ⟨control, hknown, rfl⟩ := Option.map_eq_some_iff.mp hwaits.1
      dsimp only
      rw [hqueued]
      dsimp only
      rw [hknown]
      dsimp only
      by_cases hlimit : concurrencyLimit host control.connector
          ≤ kernel.activeForChild childAgentId
      · rw [if_pos hlimit]
        refine h.skip fun j other hother hotherChild => .inr ?_
        have hagree := h.scheduled.limits.agree j index other control.entry hother hwaits
          (hotherChild.trans hchild.symm)
        rw [hagree, hotherChild]
        exact hlimit
      · rw [if_neg hlimit]
        exact h.begin hturn hroom hfound hqueued hknown hchild (not_le.mp hlimit)

end

lemma drainFrom {children : List String} (h : Draining host before children kernel)
    (hnodup : children.Nodup) :
    Draining host before [] (kernel.drainFrom host children) := by
  induction children generalizing kernel with
  | nil => exact h
  | cons childAgentId rest ih =>
    rw [HostKernel.drainFrom]
    rw [List.nodup_cons] at hnodup
    by_cases hfull : host.maxConcurrentTasks ≤ kernel.active.size
    · rw [if_pos hfull]
      refine ⟨h.scheduled, fun j entry _ => .inl (.inl hfull), fun index hindex hnew entry hentry =>
        ⟨(h.fresh index hindex hnew entry hentry).1, List.not_mem_nil⟩⟩
    · rw [if_neg hfull]
      exact ih (h.drainQueue hnodup.1 (not_le.mp hfull)) hnodup.2

end Draining

/-! ### Between events -/

/-- A call of `execute` that the kernel is made for: unless it is refused as a
duplicate, its task is not active any more, and what waits for its child has the
same limit. -/
def Orderly (host : HostOptions) (kernel : HostKernel) : KernelEvent → Prop
  | .execute request authority _ _ =>
    kernel.isDuplicate request authority = false →
      kernel.active.get? request.taskId = none
        ∧ ∀ connector, kernel.connectors.get? request.adapterId = some connector →
          ∀ control ∈ kernel.controls, control.stage = .queued →
            control.request.agentId = request.agentId →
            concurrencyLimit host control.connector = concurrencyLimit host connector
  | _ => True

/-- The tables agree with the executions, and what waits is kept by a limit. -/
structure Tidy (host : HostOptions) (kernel : HostKernel) : Prop where
  scheduled : Scheduled host kernel
  blocked : kernel.acceptingTasks = true → ∀ j entry, kernel.schedule.Waits j entry →
    AtLimit host kernel 0 entry

/-- What began since `kernel` was within the limit of its child. -/
def BeganWithin (host : HostOptions) (kernel next : HostKernel) : Prop :=
  ∀ index ∈ next.started, index ∉ kernel.started → ∀ entry, next.schedule index = some entry →
    next.activeForChild entry.request.agentId ≤ concurrencyLimit host entry.connector

lemma one_le_concurrencyLimit {connector : HostConnector}
    (h : validateConnectorLimits connector = .ok ()) : 1 ≤ concurrencyLimit host connector := by
  obtain ⟨hlimit, -⟩ := failIf_then_eq_ok.mp h
  rw [concurrencyLimit]
  cases hmaximum : connector.maxConcurrentExecutions with
  | none => exact host.maxConcurrentTasks_pos
  | some maximum =>
    rw [hmaximum] at hlimit
    have hvalid : connectorLimitValid (some maximum) = true := by simpa using hlimit
    simp only [connectorLimitValid, Option.all_some, Bool.and_eq_true, decide_eq_true_eq] at hvalid
    exact hvalid.1

namespace Tidy

variable (h : Tidy host kernel)

include h

lemma of_steady (hsteady : Steady kernel next) (hscheduled : Scheduled host next) :
    Tidy host next ∧ BeganWithin host kernel next := by
  refine ⟨⟨hscheduled, fun haccepting j entry hwaits => ?_⟩, fun index hindex hnew => ?_⟩
  · exact hsteady.atLimit (h.blocked (hsteady.accepting haccepting) j entry (hsteady.waits j entry hwaits))
  · rw [hsteady.started] at hindex
    exact absurd hindex hnew

lemma of_moves (hmoves : Moves kernel next) : Tidy host next ∧ BeganWithin host kernel next :=
  h.of_steady (.of_moves hmoves) (h.scheduled.of_moves hmoves)

/-- A run ends, and the queues are drained. -/
lemma drainQueues {index : Nat} {control : ExecutionControl}
    (hknown : kernel.controls[index]? = some control) (hsettled : control.stage = .settling)
    (hmoves : Moves (kernel.endRun index control.request.taskId) next) :
    Tidy host (next.drainQueues host) ∧ BeganWithin host kernel (next.drainQueues host) := by
  have hruns : control.running = true := by simp [ExecutionControl.running, hsettled]
  have hself : kernel.schedule index = some control.entry := by rw [schedule, hknown]; rfl
  have hactive : kernel.active.get? control.request.taskId = some index :=
    (h.scheduled.tables.runs _ _).mpr ⟨control.entry, hself,
      ExecutionControl.phase_eq_runs.mpr hruns, rfl⟩
  have hended := h.scheduled.endRun hknown hruns
  have hscheduled := hended.of_moves hmoves
  have hsteady := Steady.of_moves hmoves
  have hstarted : next.started = kernel.started := hsteady.started
  rw [HostKernel.drainQueues]
  by_cases haccepting : next.acceptingTasks = false
  · rw [if_pos haccepting]
    refine ⟨⟨hscheduled, fun htrue => ?_⟩, fun i hi hnew => ?_⟩
    · rw [haccepting] at htrue
      cases htrue
    · rw [hstarted] at hi
      exact absurd hi hnew
  rw [if_neg haccepting]
  have hkept : kernel.acceptingTasks = true := hsteady.accepting (by simpa using haccepting)
  have hdraining : Draining host kernel.started next.childQueues.keys next := by
    refine ⟨hscheduled, fun j entry hwaits => .inr ⟨?_, hsteady.atLimit ?_⟩, fun i hi hnew => ?_⟩
    · by_contra hmem
      have hline := (hscheduled.lines.mem entry.request.agentId entry.request.taskId).mpr
        ⟨j, entry, hwaits, rfl, rfl⟩
      rw [lineOf, OrderedMap.get?_eq_none.mpr hmem] at hline
      exact List.not_mem_nil hline
    · have hbefore := hsteady.waits j entry hwaits
      rw [schedule_endRun hknown, Schedule.waits_update] at hbefore
      split_ifs at hbefore
      · exact absurd hbefore.2 (by simp)
      · refine (h.blocked hkept j entry hbefore).mono ?_ ?_
        · exact (OrderedMap.size_erase hactive).ge
        · exact activeForChild_endRun hactive _
    · rw [hstarted] at hi
      exact absurd hi hnew
  have hdrained := hdraining.drainFrom next.childQueues.nodup
  refine ⟨⟨hdrained.scheduled, fun _ j entry hwaits => ?_⟩, fun i hi hnew entry hentry =>
    (hdrained.fresh i hi hnew entry hentry).1⟩
  exact (hdrained.blocked j entry hwaits).resolve_right fun hturn => List.not_mem_nil hturn.1

variable {request : CallableAdapterTaskRequest} {authority : ExecutionAuthority}

/-- A task that is no duplicate does not wait. -/
lemma idle_of_fresh (hfresh : kernel.isDuplicate request authority = false) :
    kernel.queued.get? request.taskId = none := by
  cases hqueued : kernel.queued.get? request.taskId with
  | none => rfl
  | some index =>
    obtain ⟨htask, hlive⟩ := h.scheduled.known _ _ hqueued
    rw [isDuplicate, htask, Option.any_some, hlive] at hfresh
    cases hfresh

lemma activeForChild_append (control : ExecutionControl) (childAgentId : String) :
    HostKernel.activeForChild { kernel with controls := kernel.controls ++ [control] } childAgentId
      = kernel.activeForChild childAgentId := by
  refine OrderedMap.count_congr fun entry hmem => ?_
  obtain ⟨found, hfound, -⟩ :=
    (h.scheduled.tables.runs _ _).mp (OrderedMap.get?_eq_some.mpr hmem)
  have hlt : entry.2 < kernel.controls.length := lt_length_of_schedule (by simp [hfound])
  rw [childOf, List.getElem?_append_left hlt, childOf]

variable {connector : HostConnector}

section

variable (haccepting : kernel.acceptingTasks = true)
include haccepting

/-- An accepted execution waits, where a limit keeps it. -/
lemma acceptWaiting (hscheduled : Scheduled host (kernel.accept connector request authority false))
    (hkept : AtLimit host kernel 0 ⟨connector, request, .waits⟩) :
    Tidy host (kernel.accept connector request authority false)
      ∧ BeganWithin host kernel (kernel.accept connector request authority false) := by
  refine ⟨⟨hscheduled, fun _ j other hother => ?_⟩, fun index hindex hnew => absurd hindex hnew⟩
  have hsame {entry : ScheduleEntry} (hentry : AtLimit host kernel 0 entry) :
      AtLimit host (kernel.accept connector request authority false) 0 entry :=
    hentry.mono le_rfl (h.activeForChild_append _ _).ge
  rw [schedule_accept, if_neg Bool.false_ne_true, Schedule.waits_update] at hother
  split_ifs at hother
  · rw [hother.1]
    exact hsame hkept
  · exact hsame (h.blocked haccepting j other hother)

/-- An accepted execution begins, where no limit keeps it. -/
lemma acceptStart (hscheduled : Scheduled host (kernel.accept connector request authority true))
    (hidle : kernel.active.get? request.taskId = none)
    (hchild : kernel.activeForChild request.agentId < concurrencyLimit host connector) :
    Tidy host (kernel.accept connector request authority true)
      ∧ BeganWithin host kernel (kernel.accept connector request authority true) := by
  have hsize : (kernel.accept connector request authority true).active.size
      = kernel.active.size + 1 := OrderedMap.size_set hidle _
  have hcount (childAgentId : String) :
      (kernel.accept connector request authority true).activeForChild childAgentId
        = kernel.activeForChild childAgentId
          + if request.agentId = childAgentId then 1 else 0 := by
    rw [← h.activeForChild_append (ExecutionControl.submit connector request authority)]
    refine (activeForChild_startRun { kernel with
      controls := kernel.controls ++ [ExecutionControl.submit connector request authority] }
      hidle childAgentId).trans ?_
    rw [childOf, List.getElem?_concat_length]
    simp only [Option.map_some, Option.some.injEq]
    rfl
  refine ⟨⟨hscheduled, fun _ j other hother => ?_⟩, fun index hindex hnew entry hentry => ?_⟩
  · rw [schedule_accept, if_pos rfl, Schedule.waits_update] at hother
    split_ifs at hother
    · exact absurd hother.2 (by simp)
    · exact (h.blocked haccepting j other hother).mono (by omega) (by rw [hcount]; omega)
  · rcases List.mem_append.mp hindex with hindex | hindex
    · exact absurd hindex hnew
    · rw [List.mem_singleton.mp hindex, schedule_accept, Function.update_self] at hentry
      obtain rfl := Option.some.inj hentry
      dsimp only
      rw [hcount, if_pos rfl]
      exact hchild

lemma accept (hlimit : 1 ≤ concurrencyLimit host connector)
    (htarget : request.agentId = connector.childAgentId)
    (hidle : kernel.active.get? request.taskId = none)
    (hfresh : kernel.queued.get? request.taskId = none)
    (hagree : ∀ j other, kernel.schedule.Waits j other →
      other.request.agentId = request.agentId →
      concurrencyLimit host other.connector = concurrencyLimit host connector) :
    Tidy host (kernel.accept connector request authority (kernel.canStart host connector))
      ∧ BeganWithin host kernel
          (kernel.accept connector request authority (kernel.canStart host connector)) := by
  have hstart : kernel.canStart host connector = true ↔
      kernel.active.size < host.maxConcurrentTasks
        ∧ kernel.activeForChild request.agentId < concurrencyLimit host connector := by
    rw [canStart, htarget]
    simp
  have hscheduled := h.scheduled.accept authority (kernel.canStart host connector) hlimit htarget
    hidle hfresh hagree fun hstarts => by
      obtain ⟨hroom, hchild⟩ := hstart.mp hstarts
      refine ⟨hroom, fun j other hwaits hagent => ?_⟩
      rcases h.blocked haccepting j other hwaits with hfull | hkept
      · omega
      · rw [hagree j other hwaits hagent, hagent] at hkept
        omega
  cases hstarts : kernel.canStart host connector with
  | false =>
    rw [hstarts] at hscheduled
    have hkept := mt hstart.mpr (by simp [hstarts])
    refine h.acceptWaiting haccepting hscheduled ?_
    by_cases hroom : kernel.active.size < host.maxConcurrentTasks
    · exact .inr (not_lt.mp fun hchild => hkept ⟨hroom, hchild⟩)
    · exact .inl (not_lt.mp hroom)
  | true =>
    rw [hstarts] at hscheduled
    exact h.acceptStart haccepting hscheduled hidle (hstart.mp hstarts).2

end

/-- An orderly event leaves the kernel tidy. -/
lemma step {event : KernelEvent} (horderly : Orderly host kernel event) :
    Tidy host (kernel.step host event) ∧ BeganWithin host kernel (kernel.step host event) := by
  have hcase : StepCase host kernel event (kernel.step host event) :=
    stepCase host kernel event
  generalize kernel.step host event = next at hcase ⊢
  cases hcase with
  | moves hmoves => exact h.of_moves hmoves
  | refused hmoves =>
    obtain ⟨hknown, hwithin⟩ := h.of_moves hmoves
    exact ⟨⟨hknown.scheduled.pruneAuthorities _, hknown.blocked⟩, hwithin⟩
  | goesOn hknown => exact h.of_steady (.goOn hknown _) (h.scheduled.goOn hknown _)
  | ends hknown hsettled hmoves => exact h.drainQueues hknown hsettled hmoves
  | @accepts request authority now later connector haccepts =>
    obtain ⟨hidle, hagree⟩ := horderly haccepts.fresh
    have hforget : Moves kernel _ := forget_moves haccepts.fresh
    obtain ⟨hforgot, -⟩ := h.of_moves hforget
    have hpruned : Tidy host ({ kernel with
        tasks := kernel.tasks.erase request.taskId }.pruneAuthorities later) :=
      ⟨hforgot.scheduled.pruneAuthorities later, hforgot.blocked⟩
    refine hpruned.accept haccepts.accepting
      (h.scheduled.limits.registered _ _ haccepts.registered)
      (agentId_of_valid haccepts.valid) hidle (h.idle_of_fresh haccepts.fresh)
      fun j other hwaits hagent => ?_
    obtain ⟨control, hknown, rfl⟩ := Option.map_eq_some_iff.mp hwaits.1
    exact hagree connector haccepts.registered control (List.mem_of_getElem? hknown)
      (ExecutionControl.phase_eq_waits.mp hwaits.2) hagent
  | consults =>
    exact h.of_steady ⟨id, rfl, rfl, rfl, fun _ _ => id⟩ (h.scheduled.callRegistry _)
  | registers hlimits =>
    exact h.of_steady ⟨id, rfl, rfl, rfl, fun _ _ => id⟩
      (h.scheduled.register (one_le_concurrencyLimit hlimits))

end Tidy

/-! ### What runs -/

/-- The executions that run. -/
def running (kernel : HostKernel) : List Nat :=
  (List.range kernel.controls.length).filter fun index =>
    kernel.controls[index]?.any ExecutionControl.running

/-- The executions of a child that run. -/
def runningForChild (kernel : HostKernel) (childAgentId : String) : List Nat :=
  kernel.running.filter fun index => kernel.childOf index == some childAgentId

namespace Scheduled

lemma mem_running {index : Nat} : index ∈ kernel.running
    ↔ ∃ entry, kernel.schedule index = some entry ∧ entry.phase = .runs := by
  rw [running, List.mem_filter, List.mem_range]
  constructor
  · rintro ⟨-, hruns⟩
    obtain ⟨control, hknown, hruns⟩ := (Option.any_eq_true _ _).mp hruns
    exact ⟨control.entry, by rw [schedule, hknown]; rfl, ExecutionControl.phase_eq_runs.mpr hruns⟩
  · rintro ⟨entry, hentry, hruns⟩
    obtain ⟨control, hknown, rfl⟩ := Option.map_eq_some_iff.mp hentry
    exact ⟨(List.getElem?_eq_some_iff.mp hknown).1,
      (Option.any_eq_true _ _).mpr ⟨control, hknown, ExecutionControl.phase_eq_runs.mp hruns⟩⟩

/-- The map of the active executions holds those that run. -/
lemma active_perm (h : Scheduled host kernel) : kernel.active.values.Perm kernel.running := by
  have hrunning : kernel.running.Nodup := List.nodup_range.filter _
  refine (List.perm_ext_iff_of_nodup ?_ hrunning).mpr fun index => ?_
  · refine List.Nodup.map_on (fun first hfirst second hsecond hsame => ?_)
      (List.Nodup.of_map _ kernel.active.nodup)
    obtain ⟨entry, hentry, -, htask⟩ :=
      (h.tables.runs _ _).mp (OrderedMap.get?_eq_some.mpr hfirst)
    obtain ⟨entry', hentry', -, htask'⟩ :=
      (h.tables.runs _ _).mp (OrderedMap.get?_eq_some.mpr hsecond)
    rw [hsame, hentry'] at hentry
    obtain rfl := Option.some.inj hentry
    exact Prod.ext (htask.symm.trans htask') hsame
  · rw [OrderedMap.mem_values, mem_running]
    constructor
    · rintro ⟨taskId, hactive⟩
      obtain ⟨entry, hentry, hruns, -⟩ := (h.tables.runs taskId index).mp hactive
      exact ⟨entry, hentry, hruns⟩
    · rintro ⟨entry, hentry, hruns⟩
      exact ⟨_, (h.tables.runs _ index).mpr ⟨entry, hentry, hruns, rfl⟩⟩

lemma size_active (h : Scheduled host kernel) : kernel.active.size = kernel.running.length := by
  rw [← h.active_perm.length_eq, OrderedMap.values, List.length_map]
  rfl

lemma activeForChild_eq (h : Scheduled host kernel) (childAgentId : String) :
    kernel.activeForChild childAgentId = (kernel.runningForChild childAgentId).length := by
  rw [runningForChild, ← List.countP_eq_length_filter, ← h.active_perm.countP_eq,
    OrderedMap.values, List.countP_map]
  rfl

end Scheduled

/-! ### The scheduling of a run -/

/-- What the kernel promises between events. -/
structure WellScheduled (host : HostOptions) (kernel : HostKernel) : Prop where
  withinLimit : kernel.running.length ≤ host.maxConcurrentTasks
  queuedOnce : ∀ index control, kernel.controls[index]? = some control → control.stage = .queued →
    ∃ childAgentId queue, kernel.childQueues.get? childAgentId = some queue
      ∧ queue.count control.request.taskId = 1
      ∧ kernel.queued.get? control.request.taskId = some index
      ∧ ∀ other queue', kernel.childQueues.get? other = some queue' →
          control.request.taskId ∈ queue' → other = childAgentId
  inOrder : ∀ childAgentId, (kernel.started.filter fun index =>
    kernel.childOf index == some childAgentId).Pairwise (· < ·)
  notOvertaken : ∀ i ∈ kernel.started, ∀ j control, kernel.controls[j]? = some control →
    control.stage = .queued → kernel.childOf i = some control.request.agentId → i < j
  notStranded : kernel.acceptingTasks = true → ∀ childAgentId queue,
    kernel.childQueues.get? childAgentId = some queue → queue ≠ [] → kernel.running ≠ []

/-- What begins in a step is within the limit of its child. -/
def StartsWithinLimits (host : HostOptions) (kernel next : HostKernel) : Prop :=
  ∀ index ∈ next.started, index ∉ kernel.started → ∀ control,
    next.controls[index]? = some control →
    (next.runningForChild control.request.agentId).length
      ≤ concurrencyLimit host control.connector

namespace Tidy

lemma queuedOnce (h : Tidy host kernel) {index : Nat} {control : ExecutionControl}
    (hknown : kernel.controls[index]? = some control) (hstage : control.stage = .queued) :
    ∃ childAgentId queue, kernel.childQueues.get? childAgentId = some queue
      ∧ queue.count control.request.taskId = 1
      ∧ kernel.queued.get? control.request.taskId = some index
      ∧ ∀ other queue', kernel.childQueues.get? other = some queue' →
          control.request.taskId ∈ queue' → other = childAgentId := by
  have hlines := h.scheduled.lines
  have hwaits : kernel.schedule.Waits index control.entry :=
    ⟨by rw [schedule, hknown]; rfl, ExecutionControl.phase_eq_waits.mpr hstage⟩
  have hmem : control.request.taskId ∈ lineOf kernel.childQueues control.request.agentId :=
    (hlines.mem _ _).mpr ⟨index, control.entry, hwaits, rfl, rfl⟩
  cases hfound : kernel.childQueues.get? control.request.agentId with
  | none =>
    rw [lineOf, hfound] at hmem
    exact absurd hmem List.not_mem_nil
  | some queue =>
    have hnodup := hlines.nodup control.request.agentId
    rw [lineOf, hfound] at hmem hnodup
    refine ⟨_, queue, hfound, List.count_eq_one_of_mem hnodup hmem,
      (h.scheduled.tables.waits _ _).mpr ⟨control.entry, hwaits, rfl⟩,
      fun other queue' hother hmem' => ?_⟩
    obtain ⟨j, entry, hentry, htask, hchild⟩ := (hlines.mem other control.request.taskId).mp (by
      rw [lineOf, hother]
      exact hmem')
    obtain rfl := h.scheduled.waits_unique hwaits j entry hentry htask
    obtain rfl := Option.some.inj (hentry.1.symm.trans hwaits.1)
    exact hchild.symm

lemma notStranded (h : Tidy host kernel) (haccepting : kernel.acceptingTasks = true)
    {childAgentId : String} {queue : List String}
    (hfound : kernel.childQueues.get? childAgentId = some queue) (hqueue : queue ≠ []) :
    kernel.running ≠ [] := by
  obtain ⟨taskId, htask⟩ := List.exists_mem_of_ne_nil queue hqueue
  obtain ⟨j, entry, hwaits, -, -⟩ := (h.scheduled.lines.mem childAgentId taskId).mp (by
    rw [lineOf, hfound]
    exact htask)
  have hpositive : 1 ≤ kernel.active.size := by
    rcases h.blocked haccepting j entry hwaits with hfull | hkept
    · exact host.maxConcurrentTasks_pos.trans_le hfull
    · have hlimit := h.scheduled.limits.positive j entry hwaits.1
      have hcount : kernel.activeForChild entry.request.agentId ≤ kernel.active.size :=
        List.countP_le_length
      omega
  rw [h.scheduled.size_active] at hpositive
  exact List.ne_nil_of_length_pos hpositive

lemma wellScheduled (h : Tidy host kernel) : WellScheduled host kernel where
  withinLimit := h.scheduled.size_active ▸ h.scheduled.room
  queuedOnce _ _ hknown hstage := h.queuedOnce hknown hstage
  inOrder childAgentId := by
    refine List.Pairwise.imp_of_mem (fun {i j} hi hj hlt => hlt ?_)
      (h.scheduled.order.inOrder.filter _)
    have hchild {k : Nat} (hk : k ∈ kernel.started.filter fun index =>
        kernel.childOf index == some childAgentId) : kernel.childOf k = some childAgentId := by
      simpa using (List.mem_filter.mp hk).2
    rw [childOf_schedule, childOf_schedule, hchild hi, hchild hj]
  notOvertaken i hi j control hknown hstage hchild := by
    refine h.scheduled.order.ahead i hi j control.entry ⟨by rw [schedule, hknown]; rfl,
      ExecutionControl.phase_eq_waits.mpr hstage⟩ ?_
    rw [childOf_schedule, hchild]
    rfl
  notStranded haccepting _ _ hfound hqueue := h.notStranded haccepting hfound hqueue

end Tidy

lemma tidy_newHostKernel (host : HostOptions) (registry : Option ExecutionHandleStoreState) :
    Tidy host (newHostKernel registry) := by
  refine ⟨⟨⟨?_, ?_, ?_⟩, ⟨?_, ?_, ?_, ?_⟩, ⟨?_, ?_, ?_⟩, ⟨?_, ?_, ?_, ?_⟩, ?_, Nat.zero_le _⟩,
    fun _ j entry hentry => nomatch hentry.1⟩
  all_goals simp [newHostKernel, schedule, Schedule.Waits, lineOf]

/-- **The scheduling of the kernel**: in a run in which every call of `execute`
is orderly, no more executions run than may, each execution that waits is in one
queue, executions of one child begin in the order of their acceptance, what waits
in a kernel that is not stopped waits for an execution that runs; and what begins
is within the limit of its child. -/
theorem kernel_schedules {registry : Option ExecutionHandleStoreState}
    (hrun : Runs host (Orderly host) (newHostKernel registry) kernel) :
    WellScheduled host kernel ∧ ∀ event, Orderly host kernel event →
      StartsWithinLimits host kernel (kernel.step host event) := by
  have htidy : Tidy host kernel := by
    refine hrun.invariant (tidy_newHostKernel host registry) ?_
    rintro kernel next - h ⟨event, horderly, rfl⟩
    exact (h.step horderly).1
  refine ⟨htidy.wellScheduled, fun event horderly index hindex hnew control hknown => ?_⟩
  obtain ⟨hnext, hwithin⟩ := htidy.step horderly
  have hlimit := hwithin index hindex hnew control.entry (by rw [schedule, hknown]; rfl)
  rwa [hnext.scheduled.activeForChild_eq] at hlimit

/-- While nothing waits, a call for a task that is not active is orderly. -/
lemma orderly_of_idle {request : CallableAdapterTaskRequest} {authority : ExecutionAuthority}
    {now later : Timestamp} (hactive : kernel.active.get? request.taskId = none)
    (hidle : ∀ control ∈ kernel.controls, control.stage ≠ .queued) :
    Orderly host kernel (.execute request authority now later) :=
  fun _ => ⟨hactive, fun _ _ control hcontrol hstage => absurd hstage (hidle control hcontrol)⟩

/-- Three executions are accepted; the third one waits. -/
theorem kernel_schedules_three :
    let kernel := (((newHostKernel none).step plainHost (.register plainConnector)).step plainHost
        (executePlain "grant-1" "task-1" 1)).step plainHost
        (executePlain "grant-2" "task-2" 1)
      |>.step plainHost
        (executePlain "grant-3" "task-3" 1)
    WellScheduled plainHost kernel ∧ ∀ event, Orderly plainHost kernel event →
      StartsWithinLimits plainHost kernel (kernel.step plainHost event) := by
  have hstart : Runs plainHost (Orderly plainHost) (newHostKernel none) (newHostKernel none) :=
    Reached.refl
  have hregistered := hstart.step ⟨.register plainConnector, trivial, rfl⟩
  have hfirst := hregistered.step ⟨executePlain "grant-1" "task-1" 1,
    orderly_of_idle (by decide +kernel) (by decide +kernel), rfl⟩
  have hsecond := hfirst.step ⟨executePlain "grant-2" "task-2" 1,
    orderly_of_idle (by decide +kernel) (by decide +kernel), rfl⟩
  have hthird := hsecond.step ⟨executePlain "grant-3" "task-3" 1,
    orderly_of_idle (by decide +kernel) (by decide +kernel), rfl⟩
  exact kernel_schedules hthird

/-- A task that has failed is executed again before its first run has ended, and
the two runs count as one. -/
theorem kernel_overcommits :
    ∃ kernel, Runs plainHost (fun _ _ => True) (newHostKernel none) kernel
      ∧ plainHost.maxConcurrentTasks < kernel.running.length := by
  have hstart : Runs plainHost (fun _ _ => True) (newHostKernel none) (newHostKernel none) :=
    Reached.refl
  have hregistered := hstart.step ⟨.register plainConnector, trivial, rfl⟩
  have hfirst := hregistered.step ⟨executePlain "grant-1" "task-1" 1, trivial, rfl⟩
  have hfailed := hfirst.step ⟨.resume 0 (.refused "ADAPTER_INPUT_INVALID"), trivial, rfl⟩
  have hagain := hfailed.step ⟨executePlain "grant-2" "task-1" 2, trivial, rfl⟩
  have hother := hagain.step ⟨executePlain "grant-3" "task-2" 1, trivial, rfl⟩
  exact ⟨_, hother, by decide +kernel⟩

end HostKernel

end TetiBot

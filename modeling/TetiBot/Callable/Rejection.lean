import TetiBot.Callable.Kernel

/-
What a refused call of `execute` leaves behind (`runtime/callable/kernel.ts`).

* `HostKernel.Considered`: a call that passes the checks before the first change;
* `HostKernel.Busy`, `HostKernel.Unauthorized`, `HostKernel.UsedAgain`: why it may be refused
  after all;
* `HostKernel.execute_of_not_considered`, `HostKernel.execute_of_considered`: what `execute`
  does, refusal by refusal;
* `HostKernel.rejected_leaves_kernel_iff`: when a refused call leaves the kernel as it was.
-/

namespace TetiBot

open Library

namespace HostKernel

variable (host : HostOptions)

/-! ### The checks, in their order -/

/-- The checks of `execute` before its first change are passed, with this connector. -/
structure Considered (kernel : HostKernel) (request : CallableAdapterTaskRequest)
    (authority : ExecutionAuthority) (connector : HostConnector) : Prop where
  accepting : kernel.acceptingTasks = true
  known : kernel.connectors.get? request.adapterId = some connector
  valid : validateCallableAdapterTaskRequest host.isSafeAbsoluteLocalPath request connector = .ok ()
  new : kernel.isDuplicate request authority = false

/-- Nothing can start, and nothing can wait. -/
def Busy (kernel : HostKernel) (connector : HostConnector) : Prop :=
  kernel.canStart host connector = false ∧ queueFull connector kernel = true

/-- The authority is not one for the request at this time. -/
def Unauthorized (request : CallableAdapterTaskRequest) (authority : ExecutionAuthority)
    (now : Timestamp) (connector : HostConnector) : Prop :=
  validateExecutionAuthority host.sha256 authority request connector.toAgentConnectorDescriptor now
    ≠ .ok ()

/-- The authority was used before, and has not been forgotten. -/
def UsedAgain (kernel : HostKernel) (authority : ExecutionAuthority) (later : Timestamp) : Prop :=
  ∃ expiresAt, kernel.consumedAuthorities.get? authority.authorityId = some expiresAt
    ∧ later ≤ expiresAt

/-- No authority that is remembered has expired. -/
def NoneExpired (kernel : HostKernel) (later : Timestamp) : Prop :=
  ∀ entry ∈ kernel.consumedAuthorities.entries, later ≤ entry.2

variable {host} {kernel : HostKernel} {request : CallableAdapterTaskRequest}
  {authority : ExecutionAuthority} {connector : HostConnector} {now later : Timestamp}

/-! ### What each refusal leaves -/

lemma execute_of_not_considered (h : ∀ connector, ¬Considered host kernel request authority connector) :
    ∃ error, kernel.execute host request authority now later = (.error error, kernel) := by
  rw [execute]
  by_cases haccepting : kernel.acceptingTasks = false
  · exact ⟨_, if_pos haccepting⟩
  · rw [if_neg haccepting]
    cases hknown : kernel.connectors.get? request.adapterId with
    | none => exact ⟨_, rfl⟩
    | some connector =>
      cases hvalid : validateCallableAdapterTaskRequest host.isSafeAbsoluteLocalPath request
          connector with
      | error error => exact ⟨error, by simp [hvalid]⟩
      | ok passed =>
        cases hnew : kernel.isDuplicate request authority with
        | true => exact ⟨hostAgentError "HOST_TASK_DUPLICATE" "Host Agent task ID already exists.",
            by simp [hvalid]⟩
        | false => exact absurd ⟨by simpa using haccepting, hknown, hvalid, hnew⟩ (h connector)

lemma execute_of_considered (h : Considered host kernel request authority connector) :
    kernel.execute host request authority now later
      = { kernel with tasks := kernel.tasks.erase request.taskId }.admitExecution host connector
          request authority now later := by
  rw [execute, if_neg (by simp [h.accepting]), h.known]
  simp [h.valid, h.new]

lemma admitExecution_busy (h : Busy host kernel connector) :
    ∃ error, kernel.admitExecution host connector request authority now later
      = (.error error, kernel) := by
  rw [admitExecution]
  simp only [h.1, h.2, and_self, if_true]
  exact ⟨_, rfl⟩

lemma admitExecution_unauthorized (hroom : ¬Busy host kernel connector)
    (h : Unauthorized host request authority now connector) :
    ∃ error, kernel.admitExecution host connector request authority now later
      = (.error error, kernel) := by
  have hplace : ¬(kernel.canStart host connector = false ∧ queueFull connector kernel = true) := hroom
  rw [admitExecution]
  simp only [hplace, if_false]
  cases hvalid : validateExecutionAuthority host.sha256 authority request
      connector.toAgentConnectorDescriptor now with
  | error error => exact ⟨error, rfl⟩
  | ok passed => exact absurd hvalid h

lemma contains_pruneAuthorities :
    (kernel.pruneAuthorities later).consumedAuthorities.contains authority.authorityId = true
      ↔ UsedAgain kernel authority later := by
  rw [OrderedMap.contains, pruneAuthorities, OrderedMap.get?_filter, UsedAgain,
    Option.isSome_iff_exists]
  simp [Option.filter_eq_some_iff]

/-- The last check: the authorities that have expired are forgotten before it. -/
lemma admitExecution_authorized (hroom : ¬Busy host kernel connector)
    (h : ¬Unauthorized host request authority now connector) :
    (UsedAgain kernel authority later →
      ∃ error, kernel.admitExecution host connector request authority now later
        = (.error error, kernel.pruneAuthorities later))
    ∧ (¬UsedAgain kernel authority later →
      ∃ index, (kernel.admitExecution host connector request authority now later).1 = .ok index) := by
  have hvalid : validateExecutionAuthority host.sha256 authority request
      connector.toAgentConnectorDescriptor now = .ok () := not_not.mp h
  have hplace : ¬(kernel.canStart host connector = false ∧ queueFull connector kernel = true) := hroom
  rw [admitExecution]
  simp only [hplace, if_false, hvalid]
  constructor
  · intro hused
    rw [if_pos (contains_pruneAuthorities.mpr hused)]
    exact ⟨_, rfl⟩
  · intro hfresh
    rw [if_neg fun hcontains => hfresh (contains_pruneAuthorities.mp hcontains)]
    exact ⟨_, rfl⟩

/-! ### The kernel before and after -/

/-- Nothing is forgotten of a task that the kernel does not know. -/
lemma eraseTask_eq_iff :
    { kernel with tasks := kernel.tasks.erase request.taskId } = kernel
      ↔ kernel.tasks.contains request.taskId = false := by
  rw [OrderedMap.contains, Bool.eq_false_iff, ne_eq, Option.isSome_iff_ne_none, not_not]
  constructor
  · intro h
    have htasks : kernel.tasks.erase request.taskId = kernel.tasks := congrArg HostKernel.tasks h
    rw [← htasks, OrderedMap.get?_erase, if_pos rfl]
  · intro h
    have htasks : kernel.tasks.erase request.taskId = kernel.tasks := by
      rw [OrderedMap.mk.injEq]
      exact OrderedMap.erase_of_get?_eq_none h
    rw [htasks]

lemma pruneAuthorities_eq_iff : kernel.pruneAuthorities later = kernel ↔ NoneExpired kernel later := by
  constructor
  · intro h entry hentry
    have hkept := congrArg (fun k : HostKernel => k.consumedAuthorities.entries) h
    rw [← hkept] at hentry
    simpa using (List.mem_filter.mp hentry).2
  · intro h
    have hkept : kernel.consumedAuthorities.filter (fun _ expiresAt => decide (later ≤ expiresAt))
        = kernel.consumedAuthorities := by
      rw [OrderedMap.filter, OrderedMap.mk.injEq]
      exact List.filter_eq_self.mpr fun entry hentry => decide_eq_true (h entry hentry)
    rw [pruneAuthorities, hkept]

lemma eraseTask_prune_eq_iff :
    { kernel with tasks := kernel.tasks.erase request.taskId }.pruneAuthorities later = kernel
      ↔ kernel.tasks.contains request.taskId = false ∧ NoneExpired kernel later := by
  rw [← eraseTask_eq_iff, ← pruneAuthorities_eq_iff]
  constructor
  · intro h
    have htasks : kernel.tasks.erase request.taskId = kernel.tasks := congrArg HostKernel.tasks h
    have hsame : { kernel with tasks := kernel.tasks.erase request.taskId } = kernel := by
      rw [htasks]
    exact ⟨hsame, by rwa [hsame] at h⟩
  · rintro ⟨hsame, h⟩
    rw [hsame, h]

/-! ### The law -/

/-- The second half of `execute`, after the task was forgotten. -/
lemma admit_leaves_kernel_iff :
    (∀ error, ({ kernel with tasks := kernel.tasks.erase request.taskId }.admitExecution host
          connector request authority now later).1 = .error error →
        ({ kernel with tasks := kernel.tasks.erase request.taskId }.admitExecution host connector
          request authority now later).2 = kernel)
      ↔ (Busy host kernel connector ∨ Unauthorized host request authority now connector
            ∨ UsedAgain kernel authority later → kernel.tasks.contains request.taskId = false)
          ∧ (¬Busy host kernel connector → ¬Unauthorized host request authority now connector →
            UsedAgain kernel authority later → NoneExpired kernel later) := by
  -- the checks do not look at the tasks
  let forgot : HostKernel := { kernel with tasks := kernel.tasks.erase request.taskId }
  have hbusy : Busy host forgot connector ↔ Busy host kernel connector := Iff.rfl
  have hused : UsedAgain forgot authority later ↔ UsedAgain kernel authority later := Iff.rfl
  change (∀ error, (forgot.admitExecution host connector request authority now later).1
    = .error error → (forgot.admitExecution host connector request authority now later).2 = kernel) ↔ _
  by_cases hroom : Busy host kernel connector
  · obtain ⟨error, hexec⟩ : ∃ error, forgot.admitExecution host connector request authority now later
        = (.error error, forgot) := admitExecution_busy (hbusy.mpr hroom)
    simp only [hexec, hroom, true_or, not_true_eq_false, false_implies, and_true, forall_const]
    exact ⟨fun h => eraseTask_eq_iff.mp (h error rfl), fun h _ _ => eraseTask_eq_iff.mpr h⟩
  by_cases hauthorized : Unauthorized host request authority now connector
  · obtain ⟨error, hexec⟩ : ∃ error, forgot.admitExecution host connector request authority now later
        = (.error error, forgot) :=
      admitExecution_unauthorized (hbusy.not.mpr hroom) hauthorized
    simp only [hexec, hauthorized, true_or, or_true, not_true_eq_false, false_implies, implies_true,
      and_true, forall_const]
    exact ⟨fun h => eraseTask_eq_iff.mp (h error rfl), fun h _ _ => eraseTask_eq_iff.mpr h⟩
  obtain ⟨hagain, hfresh⟩ : (UsedAgain forgot authority later → _) ∧ _ :=
    admitExecution_authorized (hbusy.not.mpr hroom) hauthorized
  by_cases hcase : UsedAgain kernel authority later
  · obtain ⟨error, hexec⟩ := hagain hcase
    simp only [hexec, hroom, hauthorized, hcase, or_true, not_false_eq_true, forall_const]
    exact ⟨fun h => eraseTask_prune_eq_iff.mp (h error rfl),
      fun h _ _ => eraseTask_prune_eq_iff.mpr h⟩
  · obtain ⟨index, hexec⟩ := hfresh hcase
    simp [hexec, hroom, hauthorized, hcase]

/-- **A refused execution leaves the kernel as it was** exactly if it is refused before the
first change, or there is nothing that the changes could take away: no task of its id, and where
the authority was used before, no authority that has expired. -/
theorem rejected_leaves_kernel_iff (host : HostOptions) (request : CallableAdapterTaskRequest)
    (authority : ExecutionAuthority) (now later : Timestamp) (kernel : HostKernel) :
    (∀ error, (kernel.execute host request authority now later).1 = .error error →
        (kernel.execute host request authority now later).2 = kernel)
      ↔ ∀ connector, Considered host kernel request authority connector →
        (Busy host kernel connector ∨ Unauthorized host request authority now connector
            ∨ UsedAgain kernel authority later → kernel.tasks.contains request.taskId = false)
          ∧ (¬Busy host kernel connector → ¬Unauthorized host request authority now connector →
            UsedAgain kernel authority later → NoneExpired kernel later) := by
  by_cases hconsidered : ∃ connector, Considered host kernel request authority connector
  · obtain ⟨connector, hconsidered⟩ := hconsidered
    have hone : ∀ other, Considered host kernel request authority other ↔ other = connector :=
      fun other => ⟨fun hother => Option.some.inj (hother.known.symm.trans hconsidered.known),
        fun hother => hother ▸ hconsidered⟩
    simp only [hone, forall_eq]
    rw [execute_of_considered hconsidered]
    exact admit_leaves_kernel_iff
  · have hnone : ∀ connector, ¬Considered host kernel request authority connector :=
      fun connector h => hconsidered ⟨connector, h⟩
    obtain ⟨error, hexec⟩ : ∃ error, kernel.execute host request authority now later
        = (.error error, kernel) := execute_of_not_considered hnone
    rw [hexec]
    exact ⟨fun _ connector h => absurd h (hnone connector), fun _ _ _ => rfl⟩

/-- A task has failed, and an execution of a later epoch is refused because its authority is over:
the kernel no longer knows the task. -/
theorem rejected_execute_forgets_task :
    ∃ kernel : HostKernel, kernel = (((newHostKernel none).step plainHost
        (.register plainConnector)).step plainHost
        (executePlain "grant-1" "task-1" 1)).step plainHost
        (.resume 0 (.refused "ADAPTER_INPUT_INVALID"))
      ∧ (∃ error, (kernel.execute plainHost (plainRequest "task-1")
          (plainAuthority "grant-2" "task-1" 2) 120001 120001).1 = .error error)
      ∧ kernel.tasks.contains "task-1" = true
      ∧ (kernel.execute plainHost (plainRequest "task-1") (plainAuthority "grant-2" "task-1" 2)
          120001 120001).2.tasks.contains "task-1" = false := by
  have herror : ((((newHostKernel none).step plainHost (.register plainConnector)).step plainHost
      (executePlain "grant-1" "task-1" 1)).step plainHost
      (.resume 0 (.refused "ADAPTER_INPUT_INVALID")) |>.execute plainHost (plainRequest "task-1")
        (plainAuthority "grant-2" "task-1" 2) 120001 120001).1.toOption = none := by decide +kernel
  refine ⟨_, rfl, ?_, by decide +kernel, by decide +kernel⟩
  generalize HostKernel.execute _ _ _ _ _ _ = refused at herror ⊢
  rcases refused with ⟨error | index, left⟩
  · exact ⟨error, rfl⟩
  · cases herror

end HostKernel

end TetiBot

import TetiBot.Callable.Kernel

/-
What the host kernel can do in one step, whichever method or answer it is.

* `HostKernel.Move`: the steps in which no run begins, goes on or ends, each with
  what it requires;
* `HostKernel.goOn`, `HostKernel.endRun`, `HostKernel.Drain`: a run goes on, a run
  ends, and others begin;
* `HostKernel.Accepts`: an execution is accepted;
* `HostKernel.StepCase`, `HostKernel.stepCase`: what an event does;
* `HostKernel.Begun`: executions that wait have not begun.
-/

namespace TetiBot

open Library

/-- What an update does to the other elements of a list does not matter. -/
lemma modify_congr {α : Type*} {l : List α} {index : Nat} {f g : α → α}
    (h : ∀ a, l[index]? = some a → f a = g a) : l.modify index f = l.modify index g := by
  refine List.ext_getElem? fun j => ?_
  rw [List.getElem?_modify, List.getElem?_modify]
  cases hfound : l[j]? with
  | none => rfl
  | some a =>
    show some _ = some _
    split_ifs with hindex
    · exact congrArg some (h a (hindex ▸ hfound))
    · rfl

namespace HostKernel

variable (host : HostOptions)

/-- One step of an event that begins and ends no run, and in which none goes on. -/
inductive Move : HostKernel → HostKernel → Prop
  /-- The registry is told that an execution does not run any more. -/
  | revoked (kernel : HostKernel) (taskId : String) (executionEpoch : Option Nat)
      (now : Timestamp) (written : Bool) :
      Move kernel (kernel.callRegistry ⟨.cancel taskId executionEpoch, now, written⟩)
  /-- Tasks that have ended are forgotten. -/
  | forgotten (kernel : HostKernel) (tasks : OrderedMap String Nat)
      (kept : ∀ taskId, tasks.get? taskId = kernel.tasks.get? taskId
        ∨ ∃ index, kernel.tasks.get? taskId = some index ∧ kernel.isTerminal index = true) :
      Move kernel { kernel with tasks := tasks }
  | unregistered (kernel : HostKernel) (connectorId : String) :
      Move kernel { kernel with connectors := kernel.connectors.erase connectorId }
  | stopped (kernel : HostKernel) : Move kernel { kernel with acceptingTasks := false }
  | terminated (kernel : HostKernel) (index : Nat) (reason : TerminationReason) :
      Move kernel (kernel.modifyControl index (ExecutionControl.requestTermination reason))
  /-- An execution that runs is canceled. -/
  | canceled (kernel : HostKernel) (taskId : String) (index : Nat) (control : ExecutionControl)
      (now : Timestamp) (written : Bool) (idle : kernel.queued.get? taskId = none)
      (active : kernel.active.get? taskId = some index)
      (known : kernel.controls[index]? = some control)
      (alive : control.machine.isTerminal = false) :
      Move kernel ((kernel.callRegistry ⟨.cancel taskId none, now, written⟩).modifyControl index
        ExecutionControl.acceptCancel)
  /-- An execution that waits is canceled. -/
  | withdrawn (kernel : HostKernel) (taskId : String) (index : Nat) (control : ExecutionControl)
      (code : String) (accepted : Bool) (waits : kernel.queued.get? taskId = some index)
      (known : kernel.controls[index]? = some control) :
      Move kernel ((kernel.removeQueued taskId control.connector.childAgentId).modifyControl index
        (ExecutionControl.withdraw code accepted))

/-- Any number of steps. -/
def Moves : HostKernel → HostKernel → Prop := Relation.ReflTransGen Move

/-- A run goes on, with the call of the registry that it makes. -/
def goOn (index : Nat) (control : ExecutionControl) (answer : RunAnswer) (kernel : HostKernel) :
    HostKernel :=
  match (control.resume host kernel.registry answer).2 with
  | none => kernel.modifyControl index fun _ => (control.resume host kernel.registry answer).1
  | some call => (kernel.modifyControl index
      fun _ => (control.resume host kernel.registry answer).1).callRegistry call

/-- A run ends. -/
def endRun (index : Nat) (taskId : String) (kernel : HostKernel) : HostKernel :=
  { kernel.modifyControl index fun control => { control with stage := .finished } with
    active := kernel.active.erase taskId }

/-- One pass over a queue that changes something. -/
inductive Drain : HostKernel → HostKernel → Prop
  /-- The head of a queue does not wait any more. -/
  | skipped (kernel : HostKernel) (childAgentId : String) (queue : List String)
      (childQueues : OrderedMap String (List String))
      (found : kernel.childQueues.get? childAgentId = some queue)
      (stale : ∀ taskId ∈ queue.head?, kernel.queued.get? taskId = none) :
      Drain kernel { kernel with childQueues := childQueues }
  /-- The head of a queue begins. -/
  | begun (kernel : HostKernel) (childAgentId taskId : String) (rest : List String) (index : Nat)
      (control : ExecutionControl)
      (found : kernel.childQueues.get? childAgentId = some (taskId :: rest))
      (waits : kernel.queued.get? taskId = some index)
      (known : kernel.controls[index]? = some control)
      (accepting : kernel.acceptingTasks = true)
      (room : kernel.active.size < host.maxConcurrentTasks)
      (childRoom : kernel.activeForChild childAgentId < concurrencyLimit host control.connector) :
      Drain kernel ((kernel.removeQueued taskId childAgentId).startRun index taskId)

/-- Any number of passes. -/
def Drains : HostKernel → HostKernel → Prop := Relation.ReflTransGen (Drain host)

variable {host} {kernel : HostKernel}

lemma Moves.of_move {next : HostKernel} (h : Move kernel next) : Moves kernel next :=
  .single h

lemma Moves.foldl {α : Type*} {f : HostKernel → α → HostKernel}
    (hf : ∀ kernel a, Moves kernel (f kernel a)) (l : List α) (kernel : HostKernel) :
    Moves kernel (l.foldl f kernel) :=
  List.foldlRecOn l f .refl fun _ hmoves a _ => hmoves.trans (hf _ a)

/-! ### The methods are made of moves -/

lemma pruneFrom_get? (kernel : HostKernel) (entries : List (String × Nat))
    (hknown : ∀ entry ∈ entries, kernel.tasks.get? entry.1 = some entry.2)
    (tasks : OrderedMap String Nat) (taskId : String) :
    (pruneFrom host kernel entries tasks).get? taskId = tasks.get? taskId
      ∨ ∃ index, kernel.tasks.get? taskId = some index ∧ kernel.isTerminal index = true := by
  induction entries generalizing tasks with
  | nil => exact .inl rfl
  | cons entry rest ih =>
    obtain ⟨known, index⟩ := entry
    have hrest := ih fun entry hmem => hknown entry (List.mem_cons_of_mem _ hmem)
    rw [pruneFrom]
    split_ifs with hsize hended
    · exact .inl rfl
    · rcases hrest (tasks.erase known) with h | h
      · rw [h, OrderedMap.get?_erase]
        split_ifs with heq
        · exact .inr ⟨index, heq ▸ hknown (known, index) (by simp), hended.1⟩
        · exact .inl rfl
      · exact .inr h
    · exact hrest tasks

lemma pruneHistory_moves (kernel : HostKernel) : Moves kernel (kernel.pruneHistory host) := by
  refine .of_move (.forgotten kernel _ fun taskId => ?_)
  exact pruneFrom_get? kernel kernel.tasks.entries
    (fun entry hmem => OrderedMap.get?_eq_some.mpr hmem) kernel.tasks taskId

lemma cancel_moves (kernel : HostKernel) (taskId : String) (now : Timestamp) (written : Bool) :
    Moves kernel (kernel.cancel host taskId now written).2 := by
  rw [cancel]
  cases hqueued : kernel.queued.get? taskId with
  | some index =>
    dsimp only
    cases hknown : kernel.controls[index]? with
    | none => exact .refl
    | some control =>
      have hwithdraw : Move kernel _ := .withdrawn kernel taskId index control
        "ADAPTER_CANCELED" true hqueued hknown
      refine (Moves.of_move hwithdraw).trans ?_
      exact (Moves.of_move (.revoked _ _ _ _ _)).trans (pruneHistory_moves _)
  | none =>
    dsimp only
    cases hactive : kernel.active.get? taskId with
    | none => exact .refl
    | some index =>
      dsimp only
      cases hknown : kernel.controls[index]? with
      | none => exact .refl
      | some control =>
        rw [Option.all_some]
        split_ifs with hended
        · exact .refl
        · exact Moves.of_move (.canceled kernel taskId index control now written hqueued hactive
            hknown (by simpa using hended))

lemma dropQueued_moves {entry : String × Nat} (hwaits : kernel.queued.get? entry.1 = some entry.2)
    (now : Timestamp) (written : String → Bool) :
    Moves kernel (dropQueued now written kernel entry) := by
  rw [dropQueued]
  cases hknown : kernel.controls[entry.2]? with
  | none => exact .refl
  | some control =>
    have hwithdraw : Move kernel _ := .withdrawn kernel entry.1 entry.2 control
      "ADAPTER_RUNTIME_SHUTDOWN" false hwaits hknown
    exact (Moves.of_move hwithdraw).trans (Moves.of_move (.revoked _ _ _ _ _))

/-- An execution that is dropped leaves the others waiting. -/
lemma queued_dropQueued {entry : String × Nat} {taskId : String} (hne : taskId ≠ entry.1)
    (now : Timestamp) (written : String → Bool) :
    (dropQueued now written kernel entry).queued.get? taskId = kernel.queued.get? taskId := by
  rw [dropQueued]
  cases kernel.controls[entry.2]? with
  | none => rfl
  | some control => exact (OrderedMap.get?_erase _ _ _).trans (if_neg hne)

lemma dropAll_moves (now : Timestamp) (written : String → Bool) {entries : List (String × Nat)}
    (hnodup : (entries.map Prod.fst).Nodup)
    (hwaits : ∀ entry ∈ entries, kernel.queued.get? entry.1 = some entry.2) :
    Moves kernel (entries.foldl (dropQueued now written) kernel) := by
  induction entries generalizing kernel with
  | nil => exact .refl
  | cons entry rest ih =>
    rw [List.map_cons, List.nodup_cons] at hnodup
    refine (dropQueued_moves (hwaits entry (by simp)) now written).trans (ih hnodup.2 ?_)
    intro other hother
    have hne : other.1 ≠ entry.1 := fun h => hnodup.1 (h ▸ List.mem_map_of_mem hother)
    rw [queued_dropQueued hne]
    exact hwaits other (by simp [hother])

lemma stopActive_moves (now : Timestamp) (written : String → Bool) (kernel : HostKernel)
    (entry : String × Nat) : Moves kernel (stopActive now written kernel entry) := by
  rw [stopActive]
  cases kernel.controls[entry.2]? with
  | none => exact .refl
  | some control =>
    exact (Moves.of_move (.revoked _ _ _ _ _)).trans (Moves.of_move (.terminated _ _ .shutdown))

lemma shutdown_moves (kernel : HostKernel) (now : Timestamp) (written : String → Bool) :
    Moves kernel (kernel.shutdown now written) := by
  rw [shutdown]
  split_ifs
  · exact .refl
  · have hdrop : Moves { kernel with acceptingTasks := false }
        (kernel.queued.entries.foldl (dropQueued now written)
          { kernel with acceptingTasks := false }) :=
      dropAll_moves now written kernel.queued.nodup fun entry hmem =>
        OrderedMap.get?_eq_some.mpr hmem
    refine (Moves.of_move (.stopped kernel)).trans (hdrop.trans ?_)
    exact Moves.foldl (stopActive_moves now written) _ _

lemma unregisterConnector_moves (kernel : HostKernel) (connectorId : String) (now : Timestamp)
    (written : String → Bool) :
    Moves kernel (kernel.unregisterConnector host connectorId now written) := by
  rw [unregisterConnector]
  split_ifs
  · exact .refl
  · exact (Moves.of_move (.unregistered kernel connectorId)).trans
      (Moves.foldl (fun kernel taskId => cancel_moves kernel taskId now (written taskId)) _ _)

/-! ### Queues are drained -/

lemma acceptingTasks_drainQueue (kernel : HostKernel) (childAgentId : String) :
    (kernel.drainQueue host childAgentId).acceptingTasks = kernel.acceptingTasks := by
  rw [drainQueue]
  split
  · rfl
  · rfl
  · split
    · rfl
    · split
      · rfl
      · split_ifs
        · rfl
        · rfl

lemma drainQueue_drains (haccepting : kernel.acceptingTasks = true)
    (hroom : kernel.active.size < host.maxConcurrentTasks) (childAgentId : String) :
    Drains host kernel (kernel.drainQueue host childAgentId) := by
  rw [drainQueue]
  split
  · exact .refl
  · next hfound => exact .single (.skipped kernel childAgentId [] _ hfound (by simp))
  · next taskId rest hfound =>
    split
    · next hstale =>
      exact .single (.skipped kernel childAgentId _ _ hfound (by simpa using hstale))
    · next index hwaits =>
      split
      · exact .refl
      · next control hknown =>
        split_ifs with hlimit
        · exact .refl
        · exact .single (.begun kernel childAgentId taskId rest index control hfound hwaits hknown
            haccepting hroom (not_le.mp hlimit))

lemma drainFrom_drains (haccepting : kernel.acceptingTasks = true) (children : List String) :
    Drains host kernel (kernel.drainFrom host children) := by
  induction children generalizing kernel with
  | nil => exact .refl
  | cons childAgentId rest ih =>
    rw [drainFrom]
    split_ifs with hfull
    · exact .refl
    · refine (drainQueue_drains haccepting (not_le.mp hfull) childAgentId).trans (ih ?_)
      rw [acceptingTasks_drainQueue, haccepting]

lemma drainQueues_drains (kernel : HostKernel) :
    Drains host kernel (kernel.drainQueues host) := by
  rw [drainQueues]
  split_ifs with h
  · exact .refl
  · exact drainFrom_drains (by simpa using h) _

/-- A run goes on, or it ends and the queues are drained. -/
lemma resumeRun_cases (host : HostOptions) (kernel : HostKernel) (index : Nat)
    (answer : RunAnswer) :
    kernel.resumeRun host index answer = kernel
      ∨ (∃ control, kernel.controls[index]? = some control
          ∧ kernel.resumeRun host index answer = kernel.goOn host index control answer)
      ∨ ∃ control known, kernel.controls[index]? = some control ∧ control.stage = .settling
          ∧ Moves (kernel.endRun index control.request.taskId) known
          ∧ kernel.resumeRun host index answer = known.drainQueues host := by
  rw [resumeRun]
  cases hknown : kernel.controls[index]? with
  | none => exact .inl rfl
  | some control =>
    dsimp only
    split
    · next hstage =>
      exact .inr (.inr ⟨control, _, rfl, hstage, pruneHistory_moves _, rfl⟩)
    · exact .inr (.inl ⟨control, rfl, rfl⟩)

/-! ### What an event is made of -/

variable (host)

/-- An execution is accepted. -/
structure Accepts (kernel : HostKernel) (request : CallableAdapterTaskRequest)
    (authority : ExecutionAuthority) (now later : Timestamp) (connector : HostConnector) : Prop where
  accepting : kernel.acceptingTasks = true
  registered : kernel.connectors.get? request.adapterId = some connector
  valid : validateCallableAdapterTaskRequest host.isSafeAbsoluteLocalPath request connector = .ok ()
  fresh : kernel.isDuplicate request authority = false
  authorized : validateExecutionAuthority host.sha256 authority request
    connector.toAgentConnectorDescriptor now = .ok ()
  unused : (kernel.pruneAuthorities later).consumedAuthorities.get? authority.authorityId = none

/-- The kernel with an execution that it accepted. -/
def accepted (kernel : HostKernel) (request : CallableAdapterTaskRequest)
    (authority : ExecutionAuthority) (later : Timestamp) (connector : HostConnector) : HostKernel :=
  ({ kernel with tasks := kernel.tasks.erase request.taskId }.pruneAuthorities later).accept
    connector request authority (kernel.canStart host connector)

variable {host}

/-- The previous execution of a task has ended when a new one is admitted. -/
lemma forget_moves {request : CallableAdapterTaskRequest} {authority : ExecutionAuthority}
    (hfresh : kernel.isDuplicate request authority = false) :
    Moves kernel { kernel with tasks := kernel.tasks.erase request.taskId } := by
  refine .of_move (.forgotten kernel _ fun taskId => ?_)
  rw [OrderedMap.get?_erase]
  split_ifs with h
  · rw [h]
    cases hprevious : kernel.tasks.get? request.taskId with
    | none => exact .inl rfl
    | some index =>
      rw [isDuplicate, hprevious, Option.any_some, Bool.or_eq_false_iff] at hfresh
      exact .inr ⟨index, rfl, by simpa using hfresh.1⟩
  · exact .inl rfl

lemma admitExecution_cases (host : HostOptions) (kernel : HostKernel) (connector : HostConnector)
    (request : CallableAdapterTaskRequest) (authority : ExecutionAuthority)
    (now later : Timestamp) :
    (kernel.admitExecution host connector request authority now later).2 = kernel
      ∨ (kernel.admitExecution host connector request authority now later).2
          = kernel.pruneAuthorities later
      ∨ (validateExecutionAuthority host.sha256 authority request
            connector.toAgentConnectorDescriptor now = .ok ()
          ∧ (kernel.pruneAuthorities later).consumedAuthorities.get? authority.authorityId = none
          ∧ (kernel.admitExecution host connector request authority now later).2
            = (kernel.pruneAuthorities later).accept connector request authority
                (kernel.canStart host connector)) := by
  rw [admitExecution]
  dsimp only
  by_cases hfull : kernel.canStart host connector = false ∧ queueFull connector kernel = true
  · rw [if_pos hfull]
    exact .inl rfl
  rw [if_neg hfull]
  cases hauthorized : validateExecutionAuthority host.sha256 authority request
      connector.toAgentConnectorDescriptor now with
  | error error => exact .inl rfl
  | ok _ =>
    dsimp only
    by_cases hconsumed : (kernel.pruneAuthorities later).consumedAuthorities.contains
        authority.authorityId = true
    · rw [if_pos hconsumed]
      exact .inr (.inl rfl)
    · rw [if_neg hconsumed]
      exact .inr (.inr ⟨rfl, by simpa [OrderedMap.contains] using hconsumed, rfl⟩)

lemma execute_cases (host : HostOptions) (kernel : HostKernel) (request : CallableAdapterTaskRequest)
    (authority : ExecutionAuthority) (now later : Timestamp) :
    Moves kernel (kernel.execute host request authority now later).2
      ∨ (∃ known, Moves kernel known
          ∧ (kernel.execute host request authority now later).2 = known.pruneAuthorities later)
      ∨ ∃ connector, Accepts host kernel request authority now later connector
          ∧ (kernel.execute host request authority now later).2
            = kernel.accepted host request authority later connector := by
  rw [execute]
  by_cases haccepting : kernel.acceptingTasks = false
  · rw [if_pos haccepting]
    exact .inl .refl
  rw [if_neg haccepting]
  cases hregistered : kernel.connectors.get? request.adapterId with
  | none => exact .inl .refl
  | some connector =>
    dsimp only
    cases hvalid : validateCallableAdapterTaskRequest host.isSafeAbsoluteLocalPath request
        connector with
    | error error => exact .inl .refl
    | ok _ =>
      dsimp only
      by_cases hduplicate : kernel.isDuplicate request authority = true
      · rw [if_pos hduplicate]
        exact .inl .refl
      have hfresh : kernel.isDuplicate request authority = false := by simpa using hduplicate
      rw [if_neg hduplicate]
      rcases admitExecution_cases host { kernel with
        tasks := kernel.tasks.erase request.taskId } connector request authority now later
        with hsame | hpruned | hadmitted
      · rw [hsame]
        exact .inl (forget_moves hfresh)
      · exact .inr (.inl ⟨_, forget_moves hfresh, hpruned⟩)
      · obtain ⟨hauthorized, hunused, hadmitted⟩ := hadmitted
        exact .inr (.inr ⟨connector, ⟨by simpa using haccepting, hregistered, hvalid, hfresh,
          hauthorized, hunused⟩, hadmitted⟩)

lemma terminate_moves (kernel : HostKernel) (index : Nat) (reason : TerminationReason) :
    Moves kernel (kernel.modifyControl index (ExecutionControl.terminateRun reason)) := by
  by_cases hwaits : ∃ control, kernel.controls[index]? = some control ∧ control.stage = .queued
  · obtain ⟨control, hknown, hstage⟩ := hwaits
    have hsame : kernel.controls.modify index (ExecutionControl.terminateRun reason)
        = kernel.controls.modify index id := by
      refine modify_congr fun other hother => ?_
      obtain rfl := Option.some.inj (hknown.symm.trans hother)
      exact if_pos hstage
    rw [modifyControl, hsame, List.modify_id]
    exact .refl
  · have hsame : kernel.controls.modify index (ExecutionControl.terminateRun reason)
        = kernel.controls.modify index (ExecutionControl.requestTermination reason) := by
      refine modify_congr fun control hknown => ?_
      exact if_neg fun hstage => hwaits ⟨control, hknown, hstage⟩
    rw [modifyControl, hsame]
    exact Moves.of_move (.terminated kernel index reason)

/-- What an event does. -/
inductive StepCase (host : HostOptions) (kernel : HostKernel) :
    KernelEvent → HostKernel → Prop
  | moves {event : KernelEvent} {next : HostKernel} (moves : Moves kernel next) :
      StepCase host kernel event next
  /-- An execution is refused after what has expired was forgotten. -/
  | refused {request : CallableAdapterTaskRequest} {authority : ExecutionAuthority}
      {now later : Timestamp} {known : HostKernel} (moves : Moves kernel known) :
      StepCase host kernel (.execute request authority now later)
        (known.pruneAuthorities later)
  | accepts {request : CallableAdapterTaskRequest} {authority : ExecutionAuthority}
      {now later : Timestamp} {connector : HostConnector}
      (accepts : Accepts host kernel request authority now later connector) :
      StepCase host kernel (.execute request authority now later)
        (kernel.accepted host request authority later connector)
  | goesOn {index : Nat} {answer : RunAnswer} {control : ExecutionControl}
      (known : kernel.controls[index]? = some control) :
      StepCase host kernel (.resume index answer)
        (kernel.goOn host index control answer)
  | ends {index : Nat} {answer : RunAnswer} {control : ExecutionControl} {known : HostKernel}
      (found : kernel.controls[index]? = some control) (settled : control.stage = .settling)
      (moves : Moves (kernel.endRun index control.request.taskId) known) :
      StepCase host kernel (.resume index answer) (known.drainQueues host)
  | consults {call : RegistryCall} :
      StepCase host kernel (.registry call) (kernel.callRegistry call)
  | registers {connector : HostConnector} (limits : validateConnectorLimits connector = .ok ()) :
      StepCase host kernel (.register connector)
        { kernel with connectors := kernel.connectors.set connector.connectorId connector }

/-- **What an event does** is one of the cases. -/
theorem stepCase (host : HostOptions) (kernel : HostKernel) (event : KernelEvent) :
    StepCase host kernel event (kernel.step host event) := by
  cases event with
  | register connector =>
    rw [step, registerConnector]
    by_cases haccepting : kernel.acceptingTasks = false
    · rw [if_pos haccepting]
      exact .moves .refl
    rw [if_neg haccepting]
    cases hlimits : validateConnectorLimits connector with
    | error error => exact .moves .refl
    | ok _ =>
      dsimp only
      by_cases hknown : kernel.connectors.contains connector.connectorId = true
      · rw [if_pos hknown]
        exact .moves .refl
      · rw [if_neg hknown]
        exact .registers hlimits
  | unregister connectorId now written => exact .moves (unregisterConnector_moves _ _ _ _)
  | execute request authority now later =>
    rw [step]
    rcases execute_cases host kernel request authority now later
      with hmoves | ⟨known, hmoves, hstep⟩ | ⟨connector, haccepts, hstep⟩
    · exact .moves hmoves
    · rw [hstep]
      exact .refused hmoves
    · rw [hstep]
      exact .accepts haccepts
  | cancel taskId now written => exact .moves (cancel_moves _ _ _ _)
  | shutdown now written => exact .moves (shutdown_moves kernel now written)
  | terminate index reason => exact .moves (terminate_moves kernel index reason)
  | resume index answer =>
    rw [step]
    rcases resumeRun_cases host kernel index answer
      with hsame | ⟨control, hknown, hstep⟩ | ⟨control, known, hknown, hsettled, hmoves, hstep⟩
    · rw [hsame]
      exact .moves .refl
    · rw [hstep]
      exact .goesOn hknown
    · rw [hstep]
      exact .ends hknown hsettled hmoves
  | registry call => exact .consults

/-! ### What waits has not begun -/

lemma getElem?_modifyControl (kernel : HostKernel) (index j : Nat)
    (f : ExecutionControl → ExecutionControl) :
    (kernel.modifyControl index f).controls[j]?
      = if index = j then kernel.controls[j]?.map f else kernel.controls[j]? := by
  show (kernel.controls.modify index f)[j]? = _
  rw [List.getElem?_modify]
  cases kernel.controls[j]? with
  | none => simp
  | some control =>
    split_ifs <;> simp

/-- Executions that wait have not begun, and each begins once. -/
structure Begun (kernel : HostKernel) : Prop where
  waits : ∀ taskId index, kernel.queued.get? taskId = some index →
    ∃ control, kernel.controls[index]? = some control ∧ control.stage = .queued
      ∧ control.request.taskId = taskId
  begun : ∀ index ∈ kernel.started,
    ∃ control, kernel.controls[index]? = some control ∧ control.stage ≠ .queued
  once : kernel.started.Nodup

namespace Begun

variable {kernel : HostKernel} {index : Nat}

/-- An update that leaves waiting what waits. -/
lemma modify (h : kernel.Begun) {f : ExecutionControl → ExecutionControl}
    (hrequest : ∀ control, kernel.controls[index]? = some control →
      (f control).request = control.request)
    (hwaits : ∀ control, kernel.controls[index]? = some control →
      ((f control).stage = .queued ↔ control.stage = .queued)) :
    (kernel.modifyControl index f).Begun where
  waits taskId waiting hqueued := by
    obtain ⟨control, hknown, hstage, htask⟩ := h.waits taskId waiting hqueued
    rw [getElem?_modifyControl, hknown]
    split_ifs with heq
    · subst heq
      exact ⟨f control, rfl, (hwaits control hknown).mpr hstage,
        by rw [hrequest control hknown, htask]⟩
    · exact ⟨control, rfl, hstage, htask⟩
  begun started hstarted := by
    obtain ⟨control, hknown, hstage⟩ := h.begun started hstarted
    rw [getElem?_modifyControl, hknown]
    split_ifs with heq
    · subst heq
      exact ⟨f control, rfl, fun hqueued => hstage ((hwaits control hknown).mp hqueued)⟩
    · exact ⟨control, rfl, hstage⟩
  once := h.once

/-- An execution that waits for nothing any more is updated. -/
lemma modify_removeQueued (h : kernel.Begun) {taskId : String} (childAgentId : String)
    (hqueued : kernel.queued.get? taskId = some index) {f : ExecutionControl → ExecutionControl}
    (hf : ∀ control, (f control).stage ≠ .queued) :
    ((kernel.removeQueued taskId childAgentId).modifyControl index f).Begun where
  waits other waiting hother := by
    have hother : (kernel.queued.erase taskId).get? other = some waiting := hother
    rw [OrderedMap.get?_erase] at hother
    split_ifs at hother with heq
    obtain ⟨control, hknown, hstage, htask⟩ := h.waits other waiting hother
    obtain ⟨control', hknown', -, htask'⟩ := h.waits taskId index hqueued
    refine ⟨control, ?_, hstage, htask⟩
    rw [getElem?_modifyControl, if_neg]
    · exact hknown
    · rintro rfl
      rw [hknown] at hknown'
      obtain rfl := Option.some.inj hknown'
      exact heq (htask.symm.trans htask')
  begun started hstarted := by
    obtain ⟨control, hknown, hstage⟩ := h.begun started hstarted
    rw [getElem?_modifyControl]
    split_ifs
    · exact ⟨f control, congrArg (Option.map f) hknown, hf control⟩
    · exact ⟨control, hknown, hstage⟩
  once := h.once

lemma start_stage (registry : Option ExecutionHandleStoreState) (control : ExecutionControl) :
    (control.start registry).stage ≠ .queued := by
  cases registry <;> simp [ExecutionControl.start]

lemma startRun (h : kernel.Begun) {taskId childAgentId : String}
    (hqueued : kernel.queued.get? taskId = some index) :
    ((kernel.removeQueued taskId childAgentId).startRun index taskId).Begun := by
  have hremoved := h.modify_removeQueued childAgentId hqueued
    (start_stage kernel.registry)
  obtain ⟨control, hknown, hstage, -⟩ := h.waits taskId index hqueued
  refine ⟨hremoved.waits, fun started hstarted => ?_, ?_⟩
  · rcases List.mem_append.mp hstarted with hstarted | hstarted
    · exact hremoved.begun started hstarted
    · obtain rfl := List.mem_singleton.mp hstarted
      refine ⟨control.start kernel.registry, ?_, start_stage _ _⟩
      show (kernel.modifyControl started _).controls[started]? = _
      rw [getElem?_modifyControl, if_pos rfl, hknown]
      rfl
  · refine h.once.append (List.nodup_singleton _) (List.disjoint_singleton.mpr fun hmem => ?_)
    obtain ⟨control', hknown', hbegun⟩ := h.begun index hmem
    rw [hknown] at hknown'
    exact hbegun ((Option.some.inj hknown') ▸ hstage)

lemma of_move {next : HostKernel} (h : kernel.Begun) (hmove : Move kernel next) : next.Begun := by
  cases hmove with
  | revoked | forgotten | unregistered | stopped => exact ⟨h.waits, h.begun, h.once⟩
  | terminated index reason =>
    refine h.modify (fun control _ => ?_) fun control _ => ?_
    · rw [ExecutionControl.requestTermination]
      split_ifs <;> rfl
    · rw [ExecutionControl.requestTermination]
      split_ifs <;> exact Iff.rfl
  | canceled taskId index control now written =>
    have hrevoked : (kernel.callRegistry ⟨.cancel taskId none, now, written⟩).Begun :=
      ⟨h.waits, h.begun, h.once⟩
    refine hrevoked.modify (fun control _ => ?_) fun control _ => ?_
    · rw [ExecutionControl.acceptCancel, ExecutionControl.requestTermination]
      split_ifs <;> rfl
    · rw [ExecutionControl.acceptCancel, ExecutionControl.requestTermination]
      split_ifs <;> exact Iff.rfl
  | withdrawn taskId index control code accepted hwaits hknown =>
    exact h.modify_removeQueued _ hwaits fun _ => by simp [ExecutionControl.withdraw]

lemma of_moves {next : HostKernel} (h : kernel.Begun) (hmoves : Moves kernel next) :
    next.Begun := by
  induction hmoves with
  | refl => exact h
  | tail _ hmove ih => exact ih.of_move hmove

lemma goOn (h : kernel.Begun) {control : ExecutionControl}
    (hknown : kernel.controls[index]? = some control) (answer : RunAnswer) :
    (kernel.goOn host index control answer).Begun := by
  have hcontrol : ∀ other, kernel.controls[index]? = some other → other = control :=
    fun other hother => Option.some.inj (hother.symm.trans hknown)
  have hnext : (kernel.modifyControl index
      fun _ => (control.resume host kernel.registry answer).1).Begun := by
    refine h.modify (fun other hother => ?_) fun other hother => ?_
    · rw [hcontrol other hother]
      exact control.resume_request answer
    · rw [hcontrol other hother]
      exact control.resume_queued_iff answer
  rw [HostKernel.goOn]
  cases (control.resume host kernel.registry answer).2 with
  | none => exact hnext
  | some call => exact ⟨hnext.waits, hnext.begun, hnext.once⟩

lemma endRun (h : kernel.Begun) {control : ExecutionControl}
    (hknown : kernel.controls[index]? = some control) (hsettled : control.stage = .settling)
    (taskId : String) : (kernel.endRun index taskId).Begun := by
  have hfinished : (kernel.modifyControl index fun control =>
      { control with stage := .finished }).Begun :=
    h.modify (fun _ _ => rfl) fun other hother => by
      rw [hknown] at hother
      obtain rfl := Option.some.inj hother
      simp [hsettled]
  exact ⟨hfinished.waits, hfinished.begun, hfinished.once⟩

lemma of_drains {next : HostKernel} (h : kernel.Begun) (hdrains : Drains host kernel next) :
    next.Begun := by
  induction hdrains with
  | refl => exact h
  | tail _ hdrain ih =>
    cases hdrain with
    | skipped => exact ⟨ih.waits, ih.begun, ih.once⟩
    | begun childAgentId taskId rest index control hfound hwaits => exact ih.startRun hwaits

/-- An execution is accepted: it begins, or it waits. -/
lemma accept (h : kernel.Begun) {connector : HostConnector} {request : CallableAdapterTaskRequest}
    {authority : ExecutionAuthority} (starts : Bool) :
    (kernel.accept connector request authority starts).Begun := by
  have hknown {index : Nat} {control : ExecutionControl}
      (hcontrol : kernel.controls[index]? = some control) :
      index < kernel.controls.length
        ∧ (kernel.controls ++ [ExecutionControl.submit connector request authority])[index]?
          = some control := by
    have hlt := (List.getElem?_eq_some_iff.mp hcontrol).1
    exact ⟨hlt, (List.getElem?_append_left hlt).trans hcontrol⟩
  have hlast : (kernel.controls ++ [ExecutionControl.submit connector request authority])[
      kernel.controls.length]? = some (ExecutionControl.submit connector request authority) :=
    List.getElem?_concat_length
  rw [HostKernel.accept]
  cases starts with
  | false =>
    refine ⟨fun taskId index hqueued => ?_, fun index hstarted => ?_, h.once⟩
    · have hqueued : (kernel.queued.set request.taskId kernel.controls.length).get? taskId
          = some index := hqueued
      rw [OrderedMap.get?_set] at hqueued
      split_ifs at hqueued with heq
      · obtain rfl := Option.some.inj hqueued
        exact ⟨_, hlast, rfl, heq.symm⟩
      · obtain ⟨control, hcontrol, hstage, htask⟩ := h.waits taskId index hqueued
        exact ⟨control, (hknown hcontrol).2, hstage, htask⟩
    · obtain ⟨control, hcontrol, hstage⟩ := h.begun index hstarted
      exact ⟨control, (hknown hcontrol).2, hstage⟩
  | true =>
    have hkept {index : Nat} {control : ExecutionControl}
        (hcontrol : kernel.controls[index]? = some control) :
        ((kernel.controls ++ [ExecutionControl.submit connector request authority]).modify
          kernel.controls.length (ExecutionControl.start kernel.registry))[index]?
          = some control := by
      obtain ⟨hlt, hcontrol⟩ := hknown hcontrol
      rw [List.getElem?_modify_ne _ _ hlt.ne', hcontrol]
    refine ⟨fun taskId index hqueued => ?_, fun index hstarted => ?_, ?_⟩
    · obtain ⟨control, hcontrol, hstage, htask⟩ := h.waits taskId index hqueued
      exact ⟨control, hkept hcontrol, hstage, htask⟩
    · rcases List.mem_append.mp hstarted with hstarted | hstarted
      · obtain ⟨control, hcontrol, hstage⟩ := h.begun index hstarted
        exact ⟨control, hkept hcontrol, hstage⟩
      · obtain rfl := List.mem_singleton.mp hstarted
        refine ⟨(ExecutionControl.submit connector request authority).start kernel.registry, ?_,
          start_stage _ _⟩
        show ((kernel.controls ++ [_]).modify _ _)[_]? = _
        rw [List.getElem?_modify_eq, hlast]
        rfl
    · refine h.once.append (List.nodup_singleton _) (List.disjoint_singleton.mpr fun hmem => ?_)
      obtain ⟨control, hcontrol, -⟩ := h.begun _ hmem
      exact absurd (hknown hcontrol).1 (lt_irrefl _)

end Begun

end HostKernel

end TetiBot

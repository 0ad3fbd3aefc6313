import TetiBot.Callable.ExecutionStore

/-
Runs of the execution registry (`DurableExecutionRegistry` of
`runtime/callable/execution-store.ts`).

* `RegistryCall`: an operation, with the clock it reads and whether the file
  it saves was written;
* `RegistryCall.step`: load, run the body, validate, write;
* `HandleChange`: what a call does to the handle of a task, one case for each
  thing that can happen to it;
* `registry_fencing`: what holds along every run.
-/

namespace TetiBot

open Library

/-! ### Calls -/

/-- The operations of the registry.  `intact` is whether the checkpoint has its
recorded digest, and `destination` and `digest` are those of the copied file. -/
inductive RegistryOperation
  | prepare (input : PrepareExecutionHandleInput) (capabilities : ConnectorExecutionCapabilities)
      (semantics : ExecutionSemantics) (intact : Bool)
  | markRunning (taskId : String) (executionEpoch : Nat) (providerExecutionId : Option String)
  | renew (taskId : String) (executionEpoch : Nat)
  | captureCheckpoint (taskId : String) (executionEpoch : Nat) (destination digest : String)
  | finish (taskId : String) (executionEpoch : Nat) (finished : ExecutionEnd)
      (message : Option String)
  | cancel (taskId : String) (executionEpoch : Option Nat)
  | reconcile (activeTaskIds : List String)
  deriving DecidableEq

namespace RegistryOperation

/-- The state that `mutate` saves. -/
def body (operation : RegistryOperation) (now : Timestamp) (state : ExecutionHandleStoreState) :
    Except TaskError ExecutionHandleStoreState :=
  match operation with
  | .prepare input capabilities semantics intact =>
    (prepareHandle input capabilities semantics intact now state).map Prod.snd
  | .markRunning taskId executionEpoch providerExecutionId =>
    .ok (TetiBot.markRunning taskId executionEpoch providerExecutionId now state).2
  | .renew taskId executionEpoch => .ok (renewHandle taskId executionEpoch now state).2
  | .captureCheckpoint taskId executionEpoch destination digest =>
    .ok (TetiBot.captureCheckpoint taskId executionEpoch destination digest state).2
  | .finish taskId executionEpoch finished message =>
    .ok (finishHandle taskId executionEpoch finished message now state).2
  | .cancel taskId executionEpoch => .ok (cancelHandle taskId executionEpoch now state).2
  | .reconcile activeTaskIds => .ok (reconcileHandles activeTaskIds now state)

/-- The task and the epoch that an operation carries. -/
def fence : RegistryOperation → Option (String × Nat)
  | .markRunning taskId executionEpoch _ => some (taskId, executionEpoch)
  | .renew taskId executionEpoch => some (taskId, executionEpoch)
  | .captureCheckpoint taskId executionEpoch _ _ => some (taskId, executionEpoch)
  | .finish taskId executionEpoch _ _ => some (taskId, executionEpoch)
  | .cancel taskId (some executionEpoch) => some (taskId, executionEpoch)
  | _ => none

end RegistryOperation

/-- A call of the registry. -/
structure RegistryCall where
  operation : RegistryOperation
  now : Timestamp
  written : Bool
  deriving DecidableEq

namespace RegistryCall

variable (call : RegistryCall) (state : ExecutionHandleStoreState)

/-- The state that is stored by a call, if one is: the body must not throw,
and its result must pass validation and be written. -/
def saved : Option ExecutionHandleStoreState :=
  match call.operation.body call.now state with
  | .error _ => none
  | .ok next =>
    if validateExecutionHandleStoreState next = .ok () ∧ call.written then some next else none

/-- The stored state after a call. -/
def step : ExecutionHandleStoreState :=
  (call.saved state).getD state

/-- The handle that a call creates. -/
def created : Option ExecutionHandle :=
  match call.operation with
  | .prepare input capabilities semantics intact =>
    match prepareHandle input capabilities semantics intact call.now state with
    | .ok (.ok handle, _) => if (call.saved state).isSome then some handle else none
    | _ => none
  | _ => none

/-- The call removes the handle of a task from the registry. -/
def Evicts (taskId : String) (state : ExecutionHandleStoreState) : Prop :=
  (state.get taskId).isSome ∧ (call.step state).get taskId = none

end RegistryCall

/-- The stored state after some calls. -/
def runRegistry (start : ExecutionHandleStoreState) (calls : List RegistryCall) :
    ExecutionHandleStoreState :=
  calls.foldl (fun state call => call.step state) start

instance (call : RegistryCall) (taskId : String) (state : ExecutionHandleStoreState) :
    Decidable (call.Evicts taskId state) :=
  inferInstanceAs (Decidable (_ ∧ _))

/-- No call of a run removes the handle of a task. -/
def NeverEvicts (taskId : String) : ExecutionHandleStoreState → List RegistryCall → Prop
  | _, [] => True
  | state, call :: calls => ¬call.Evicts taskId state ∧ NeverEvicts taskId (call.step state) calls

instance decidableNeverEvicts (taskId : String) : (state : ExecutionHandleStoreState) →
    (calls : List RegistryCall) → Decidable (NeverEvicts taskId state calls)
  | _, [] => .isTrue trivial
  | state, call :: calls =>
    have := decidableNeverEvicts taskId (call.step state) calls
    inferInstanceAs (Decidable (_ ∧ _))

/-- The epochs of the handles that calls create for a task, in order. -/
def createdEpochs (taskId : String) : ExecutionHandleStoreState → List RegistryCall → List Nat
  | _, [] => []
  | state, call :: calls =>
    (((call.created state).filter fun handle => handle.taskId == taskId).map
      fun handle => handle.executionEpoch).toList
      ++ createdEpochs taskId (call.step state) calls

/-- The state passes the validation of the store. -/
def ExecutionHandleStoreState.Valid (state : ExecutionHandleStoreState) : Prop :=
  validateExecutionHandleStoreState state = .ok ()

instance (state : ExecutionHandleStoreState) : Decidable state.Valid :=
  inferInstanceAs (Decidable (_ = _))

/-! ### Handles by task -/

namespace ExecutionHandleStoreState

variable {state : ExecutionHandleStoreState} {taskId : String} {handle : ExecutionHandle}

/-- A valid state has at most one handle for a task. -/
lemma Valid.nodup (h : state.Valid) : (state.handles.map fun handle => handle.taskId).Nodup := by
  obtain ⟨_, -, h⟩ := except_bind_eq_ok.mp h
  obtain ⟨_, -, h⟩ := except_bind_eq_ok.mp h
  obtain ⟨_, hnodup, -⟩ := except_bind_eq_ok.mp h
  exact not_not.mp (failIf_eq_ok.mp hnodup)

lemma get_eq_some (hnodup : (state.handles.map fun handle => handle.taskId).Nodup) :
    state.get taskId = some handle ↔ handle ∈ state.handles ∧ handle.taskId = taskId :=
  find?_key_eq_some hnodup

lemma get_eq_none : state.get taskId = none ↔ ∀ handle ∈ state.handles, handle.taskId ≠ taskId :=
  find?_key_eq_none

/-- The handle that was found is the one of the task and the epoch. -/
lemma currentHandle_eq_some {executionEpoch : Nat}
    (h : currentHandle state taskId executionEpoch = some handle) :
    handle ∈ state.handles ∧ handle.taskId = taskId ∧ handle.executionEpoch = executionEpoch := by
  have hp := List.find?_some h
  simp only [Bool.and_eq_true, beq_iff_eq] at hp
  exact ⟨List.mem_of_find?_eq_some h, hp.1, hp.2⟩

/-- Updating the handle of a task changes what is found for the task, and for
no other. -/
lemma get_updateFirst (hnodup : (state.handles.map fun handle => handle.taskId).Nodup)
    (hmem : handle ∈ state.handles) {p : ExecutionHandle → Bool}
    {f : ExecutionHandle → ExecutionHandle} (hp : p handle = true)
    (hkey : ∀ item, p item = true → item.taskId = handle.taskId)
    (hf : ∀ item, p item = true → (f item).taskId = item.taskId)
    {integrity : List CheckpointIntegrityRecord} :
    (ExecutionHandleStoreState.mk (updateFirst p f state.handles) integrity).get taskId
      = if taskId = handle.taskId then some (f handle) else state.get taskId := by
  have hnodup' : ((updateFirst p f state.handles).map fun handle => handle.taskId).Nodup := by
    rwa [map_key_updateFirst hf]
  have hiff : ∀ item, item ∈ updateFirst p f state.handles
      ↔ item = f handle ∨ item ∈ state.handles ∧ item.taskId ≠ handle.taskId :=
    fun _ => mem_updateFirst_key hnodup hmem hp hkey
  split_ifs with h
  · rw [get_eq_some hnodup']
    exact ⟨(hiff _).mpr (.inl rfl), by rw [hf handle hp, h]⟩
  · cases hfound : state.get taskId with
    | none =>
      rw [get_eq_none] at hfound ⊢
      intro item hitem
      rcases (hiff item).mp hitem with rfl | ⟨hitem, -⟩
      · rw [hf handle hp]
        exact fun h' => h h'.symm
      · exact hfound item hitem
    | some found =>
      obtain ⟨hfoundmem, hfoundid⟩ := (get_eq_some hnodup).mp hfound
      rw [get_eq_some hnodup']
      exact ⟨(hiff found).mpr (.inr ⟨hfoundmem, by rw [hfoundid]; exact h⟩), hfoundid⟩

end ExecutionHandleStoreState

/-! ### What a call does to the handle of a task -/

/-- A handle before a call, and after it. -/
inductive HandleChange (call : RegistryCall) (state : ExecutionHandleStoreState)
    (taskId : String) : Option ExecutionHandle → Option ExecutionHandle → Prop
  | same (found : Option ExecutionHandle) : HandleChange call state taskId found found
  | updated {handle next : ExecutionHandle}
      (active : isTerminalExecutionProgress handle.progress.state = false)
      (epoch : next.executionEpoch = handle.executionEpoch) :
      HandleChange call state taskId (some handle) (some next)
  /-- A resume finds the checkpoint of the handle damaged. -/
  | withdrawn {handle : ExecutionHandle} {input : PrepareExecutionHandleInput}
      {capabilities : ConnectorExecutionCapabilities} {semantics : ExecutionSemantics}
      (operation : call.operation = .prepare input capabilities semantics false)
      (resume : input.resume = true) (task : input.taskId = taskId)
      (resumable : isResumable handle capabilities semantics = true) :
      HandleChange call state taskId (some handle) (some (withdrawCheckpoint handle call.now))
  | prepared {found : Option ExecutionHandle} {next : ExecutionHandle}
      (created : call.created state = some next)
      (epoch : next.executionEpoch = (found.map fun handle => handle.executionEpoch).getD 0 + 1) :
      HandleChange call state taskId found (some next)
  | evicted {handle : ExecutionHandle} (created : (call.created state).isSome = true)
      (ended : isTerminalExecutionProgress handle.progress.state = true)
      (full : MAX_EXECUTION_HANDLES ≤ state.handles.length) :
      HandleChange call state taskId (some handle) none

namespace HandleChange

open ExecutionHandleStoreState

variable {call : RegistryCall} {state : ExecutionHandleStoreState} {taskId : String}

section

variable (hnodup : (state.handles.map fun handle => handle.taskId).Nodup)
include hnodup

/-- `updateHandle` updates the handle of its task, if that has its epoch and
has not ended. -/
lemma of_updateHandle
    {updated : String} {executionEpoch : Nat} {f : ExecutionHandle → ExecutionHandle}
    (htask : ∀ handle, (f handle).taskId = handle.taskId)
    (hepoch : ∀ handle, (f handle).executionEpoch = handle.executionEpoch) :
    HandleChange call state taskId (state.get taskId)
      ((updateHandle state updated executionEpoch f).2.get taskId) := by
  rw [updateHandle]
  cases hfound : currentHandle state updated executionEpoch with
  | none => exact .same _
  | some handle =>
    obtain ⟨hmem, hid, he⟩ := currentHandle_eq_some hfound
    simp only
    split_ifs with hended
    · exact .same _
    · rw [get_updateFirst hnodup hmem (by simp [hid, he]) (fun item h => by grind)
        (fun item _ => htask item)]
      split_ifs with h
      · rw [(get_eq_some hnodup).mpr ⟨hmem, h.symm⟩]
        exact .updated (by simpa using hended) (hepoch handle)
      · exact .same _

lemma of_captureCheckpoint {updated : String} {executionEpoch : Nat} {destination digest : String} :
    HandleChange call state taskId (state.get taskId)
      ((captureCheckpoint updated executionEpoch destination digest state).2.get taskId) := by
  rw [captureCheckpoint]
  simp only
  split_ifs
  · exact .of_updateHandle hnodup (fun _ => rfl) fun _ => rfl
  · exact .same _

/-- `cancel` ends the handle of its task. -/
lemma of_cancelHandle {canceled : String} {executionEpoch : Option Nat} {now : Timestamp} :
    HandleChange call state taskId (state.get taskId)
      ((cancelHandle canceled executionEpoch now state).2.get taskId) := by
  rw [cancelHandle]
  cases hfound : state.get canceled with
  | none => exact .same _
  | some handle =>
    obtain ⟨hmem, hid⟩ := (get_eq_some hnodup).mp hfound
    simp only
    split_ifs with hended
    · exact .same _
    · show HandleChange call state taskId (state.get taskId)
        (ExecutionHandleStoreState.get ⟨updateFirst _ _ state.handles, _⟩ taskId)
      rw [get_updateFirst (f := settleHandle .canceled "执行已取消" now) hnodup hmem
        (by simp [hid]) (fun item h => by grind) (fun _ _ => rfl)]
      split_ifs with h
      · rw [(get_eq_some hnodup).mpr ⟨hmem, h.symm⟩]
        refine .updated ?_ rfl
        simp only [Bool.or_eq_true, not_or, Bool.not_eq_true] at hended
        exact hended.2
      · exact .same _

end

/-- `reconcile` interrupts handles that no process runs. -/
lemma of_reconcileHandles {activeTaskIds : List String} {now : Timestamp} :
    HandleChange call state taskId (state.get taskId)
      ((reconcileHandles activeTaskIds now state).get taskId) := by
  have htask : ∀ handle, (interruptHandle activeTaskIds now handle).taskId = handle.taskId := by
    intro handle
    rw [interruptHandle]
    split_ifs <;> rfl
  have hget : (reconcileHandles activeTaskIds now state).get taskId
      = (state.get taskId).map (interruptHandle activeTaskIds now) := by
    simp only [ExecutionHandleStoreState.get, reconcileHandles, List.find?_map,
      Function.comp_def, htask]
  rw [hget]
  cases state.get taskId with
  | none => exact .same _
  | some handle =>
    rw [Option.map_some]
    by_cases h : isTerminalExecutionProgress handle.progress.state
        || activeTaskIds.contains handle.taskId
    · rw [interruptHandle, if_pos h]
      exact .same _
    · refine .updated ?_ (by rw [interruptHandle, if_neg h]; rfl)
      simp only [Bool.or_eq_true, not_or, Bool.not_eq_true] at h
      exact h.1

end HandleChange

/-! ### Preparing a handle -/

lemma pruneTerminal_sublist (terminal handles : List ExecutionHandle) :
    (pruneTerminal terminal handles).Sublist handles := by
  induction terminal generalizing handles with
  | nil => exact List.Sublist.refl _
  | cons handle terminal ih =>
    rw [pruneTerminal]
    split_ifs
    · exact List.Sublist.refl _
    · exact (ih _).trans List.erase_sublist

lemma mem_pruneTerminal {terminal handles : List ExecutionHandle} {handle : ExecutionHandle}
    (h : handle ∈ handles) : handle ∈ pruneTerminal terminal handles ∨ handle ∈ terminal := by
  induction terminal generalizing handles with
  | nil => exact .inl h
  | cons ended terminal ih =>
    rw [pruneTerminal]
    split_ifs
    · exact .inl h
    · by_cases he : handle = ended
      · exact .inr (by simp [he])
      · rcases ih ((List.mem_erase_of_ne he).mpr h) with h | h
        · exact .inl h
        · exact .inr (by simp [h])

/-- Handles are pruned from a full store only, and only those that have ended. -/
lemma pruneHandles_spec {state next : ExecutionHandleStoreState}
    (h : pruneHandles state = .ok next) :
    next.handles.Sublist state.handles
      ∧ ∀ handle ∈ state.handles, handle ∉ next.handles →
          isTerminalExecutionProgress handle.progress.state = true
            ∧ MAX_EXECUTION_HANDLES < state.handles.length := by
  rw [pruneHandles] at h
  split_ifs at h with hfull
  · obtain rfl := Except.ok.inj h
    exact ⟨List.Sublist.refl _, fun handle hmem hnot => absurd hmem hnot⟩
  · obtain ⟨_, -, h⟩ := except_bind_eq_ok.mp h
    obtain rfl := Except.ok.inj h
    refine ⟨pruneTerminal_sublist _ _, fun handle hmem hnot => ⟨?_, by omega⟩⟩
    have hended := (mem_pruneTerminal hmem).resolve_left hnot
    rw [List.mem_mergeSort, List.mem_filter] at hended
    exact hended.2

namespace ExecutionHandleStoreState

variable {state : ExecutionHandleStoreState} {handle : ExecutionHandle}

lemma nodup_putHandle (hnodup : (state.handles.map fun handle => handle.taskId).Nodup) :
    ((putHandle state handle).handles.map fun handle => handle.taskId).Nodup := by
  rw [putHandle]
  split_ifs with h
  · rw [map_key_updateFirst]
    · exact hnodup
    · intro item hp
      exact (beq_iff_eq.mp hp).symm
  · have hnone : state.get handle.taskId = none := by simpa using h
    rw [get_eq_none] at hnone
    rw [List.map_append, List.map_singleton, List.nodup_append]
    refine ⟨hnodup, List.nodup_singleton _, ?_⟩
    intro a ha b hb
    obtain ⟨item, hitem, rfl⟩ := List.mem_map.mp ha
    rw [List.mem_singleton.mp hb]
    exact hnone item hitem

lemma get_putHandle (hnodup : (state.handles.map fun handle => handle.taskId).Nodup)
    (taskId : String) :
    (putHandle state handle).get taskId
      = if taskId = handle.taskId then some handle else state.get taskId := by
  cases hfound : state.get handle.taskId with
  | some found =>
    obtain ⟨hmem, hid⟩ := (get_eq_some hnodup).mp hfound
    rw [putHandle, if_pos (by simp [hfound]), get_updateFirst hnodup hmem (by simp [hid])
      (fun item h => by grind) (fun item h => by grind), hid]
  | none =>
    rw [putHandle, if_neg (by simp [hfound])]
    simp only [ExecutionHandleStoreState.get, List.find?_append] at hfound ⊢
    split_ifs with h
    · rw [h, hfound]
      simp
    · rw [List.find?_singleton, if_neg (by simpa using fun h' => h h'.symm), Option.or_none]

/-- The handle of a task is kept by pruning, unless it has ended and the store
is full. -/
lemma get_pruned {next : ExecutionHandleStoreState}
    (hnodup : (state.handles.map fun handle => handle.taskId).Nodup)
    (hpruned : pruneHandles state = .ok next) (taskId : String) :
    next.get taskId = state.get taskId
      ∨ ∃ handle, state.get taskId = some handle ∧ next.get taskId = none
          ∧ isTerminalExecutionProgress handle.progress.state = true
          ∧ MAX_EXECUTION_HANDLES < state.handles.length := by
  obtain ⟨hsub, hended⟩ := pruneHandles_spec hpruned
  have hnext : (next.handles.map fun handle => handle.taskId).Nodup := hnodup.sublist (hsub.map _)
  cases hfound : next.get taskId with
  | some handle =>
    obtain ⟨hmem, hid⟩ := (get_eq_some hnext).mp hfound
    exact .inl ((get_eq_some hnodup).mpr ⟨hsub.subset hmem, hid⟩).symm
  | none =>
    cases hbefore : state.get taskId with
    | none => exact .inl rfl
    | some handle =>
      obtain ⟨hmem, hid⟩ := (get_eq_some hnodup).mp hbefore
      have hnot : handle ∉ next.handles := fun h => get_eq_none.mp hfound handle h hid
      exact .inr ⟨handle, rfl, rfl, hended handle hmem hnot⟩

lemma length_putHandle_le :
    (putHandle state handle).handles.length ≤ state.handles.length + 1 := by
  rw [putHandle]
  split_ifs <;> simp

end ExecutionHandleStoreState

/-- `prepare` either creates a handle, or withdraws a damaged checkpoint. -/
lemma prepareHandle_spec {input : PrepareExecutionHandleInput}
    {capabilities : ConnectorExecutionCapabilities} {semantics : ExecutionSemantics}
    {intact : Bool} {now : Timestamp} {state next : ExecutionHandleStoreState}
    {result : Except TaskError ExecutionHandle}
    (h : prepareHandle input capabilities semantics intact now state = .ok (result, next)) :
    (result = .ok (preparedHandle input (state.get input.taskId) now)
        ∧ pruneHandles (putHandle state (preparedHandle input (state.get input.taskId) now))
            = .ok next)
      ∨ ∃ handle, state.get input.taskId = some handle ∧ input.resume = true ∧ intact = false
          ∧ isResumable handle capabilities semantics = true ∧ (∃ error, result = .error error)
          ∧ next.handles = (putHandle state (withdrawCheckpoint handle now)).handles := by
  rw [prepareHandle] at h
  simp only at h
  by_cases hresume : input.resume = true
  · rw [if_pos hresume] at h
    cases hfound : state.get input.taskId with
    | none => simp [hfound] at h
    | some handle =>
      simp only [hfound] at h
      obtain ⟨_, hresumable, h⟩ := except_bind_eq_ok.mp h
      have hresumable : isResumable handle capabilities semantics = true := by
        simpa using failIf_eq_ok.mp hresumable
      split_ifs at h with hintact
      · obtain ⟨_, -, h⟩ := except_bind_eq_ok.mp h
        obtain ⟨pruned, hpruned, h⟩ := except_bind_eq_ok.mp h
        obtain ⟨rfl, rfl⟩ := Prod.mk.inj (Except.ok.inj h)
        exact .inl ⟨rfl, hpruned⟩
      · obtain ⟨rfl, rfl⟩ := Prod.mk.inj (Except.ok.inj h)
        exact .inr ⟨handle, rfl, hresume, by simpa using hintact, hresumable, ⟨_, rfl⟩, rfl⟩
  · rw [if_neg hresume] at h
    obtain ⟨_, -, h⟩ := except_bind_eq_ok.mp h
    obtain ⟨_, -, h⟩ := except_bind_eq_ok.mp h
    obtain ⟨pruned, hpruned, h⟩ := except_bind_eq_ok.mp h
    obtain ⟨rfl, rfl⟩ := Prod.mk.inj (Except.ok.inj h)
    exact .inl ⟨rfl, hpruned⟩

namespace HandleChange

open ExecutionHandleStoreState

variable {call : RegistryCall} {state next : ExecutionHandleStoreState} {taskId : String}

/-- A handle that joins a store can push out handles that have ended. -/
lemma of_pruned (hnodup : (state.handles.map fun handle => handle.taskId).Nodup)
    {prepared : ExecutionHandle} (hcreated : call.created state = some prepared)
    (hactive : isTerminalExecutionProgress prepared.progress.state = false)
    (hepoch : prepared.executionEpoch
      = ((state.get prepared.taskId).map fun handle => handle.executionEpoch).getD 0 + 1)
    (hpruned : pruneHandles (putHandle state prepared) = .ok next) :
    HandleChange call state taskId (state.get taskId) (next.get taskId) := by
  have hput : (putHandle state prepared).get taskId
      = if taskId = prepared.taskId then some prepared else state.get taskId :=
    get_putHandle hnodup taskId
  rcases get_pruned (nodup_putHandle hnodup) hpruned taskId with
    hkept | ⟨handle, hbefore, hgone, hterminal, hfull⟩
  · rw [hkept, hput]
    split_ifs with h
    · rw [h]
      exact .prepared hcreated hepoch
    · exact .same _
  · rw [hput] at hbefore
    split_ifs at hbefore with h
    · obtain rfl := Option.some.inj hbefore
      rw [hactive] at hterminal
      exact absurd hterminal Bool.false_ne_true
    · rw [hbefore, hgone]
      have hlength : (putHandle state prepared).handles.length ≤ state.handles.length + 1 :=
        length_putHandle_le
      exact .evicted (by rw [hcreated]; rfl) hterminal (by omega)

lemma of_prepare (hnodup : (state.handles.map fun handle => handle.taskId).Nodup)
    {input : PrepareExecutionHandleInput} {capabilities : ConnectorExecutionCapabilities}
    {semantics : ExecutionSemantics} {intact : Bool}
    (hoperation : call.operation = .prepare input capabilities semantics intact)
    (hsaved : call.saved state = some next) {result : Except TaskError ExecutionHandle}
    (hbody : prepareHandle input capabilities semantics intact call.now state
      = .ok (result, next)) :
    HandleChange call state taskId (state.get taskId) (next.get taskId) := by
  rcases prepareHandle_spec hbody with
    ⟨rfl, hpruned⟩ | ⟨handle, hfound, hresume, hintact, hresumable, -, hnext⟩
  · refine of_pruned hnodup ?_ rfl rfl hpruned
    rw [RegistryCall.created, hoperation]
    simp [hbody, hsaved]
  · have hget : next.get taskId = (putHandle state (withdrawCheckpoint handle call.now)).get taskId := by
      simp only [ExecutionHandleStoreState.get, hnext]
    have hid : input.taskId = handle.taskId := ((get_eq_some hnodup).mp hfound).2.symm
    rw [hget, get_putHandle hnodup]
    split_ifs with h
    · have htask : input.taskId = taskId := hid.trans h.symm
      rw [← htask, hfound]
      exact .withdrawn (hintact ▸ hoperation) hresume rfl hresumable
    · exact .same _

end HandleChange

/-- **What a call does**: every call changes the handle of each task in one of
the ways that `HandleChange` lists. -/
theorem RegistryCall.handleChange (call : RegistryCall) {state : ExecutionHandleStoreState}
    (hvalid : state.Valid) (taskId : String) :
    HandleChange call state taskId (state.get taskId) ((call.step state).get taskId) := by
  rw [RegistryCall.step]
  cases hsaved : call.saved state with
  | none => exact .same _
  | some next =>
    have hbody : call.operation.body call.now state = .ok next := by
      rw [RegistryCall.saved] at hsaved
      split at hsaved
      · simp at hsaved
      · next hbody =>
        split_ifs at hsaved
        rw [← Option.some.inj hsaved]
        exact hbody
    have hnodup := hvalid.nodup
    rw [Option.getD_some]
    cases hoperation : call.operation with
    | prepare input capabilities semantics intact =>
      rw [hoperation] at hbody
      cases hprepare : prepareHandle input capabilities semantics intact call.now state with
      | error error => simp [RegistryOperation.body, hprepare, Except.map] at hbody
      | ok outcome =>
        obtain ⟨result, after⟩ := outcome
        simp only [RegistryOperation.body, hprepare, Except.map, Except.ok.injEq] at hbody
        subst hbody
        exact .of_prepare hnodup hoperation hsaved hprepare
    | markRunning updated executionEpoch providerExecutionId =>
      rw [hoperation] at hbody
      obtain rfl := Except.ok.inj hbody
      exact .of_updateHandle hnodup (fun _ => rfl) fun _ => rfl
    | renew updated executionEpoch =>
      rw [hoperation] at hbody
      obtain rfl := Except.ok.inj hbody
      exact .of_updateHandle hnodup (fun _ => rfl) fun _ => rfl
    | captureCheckpoint updated executionEpoch destination digest =>
      rw [hoperation] at hbody
      obtain rfl := Except.ok.inj hbody
      exact .of_captureCheckpoint hnodup
    | finish updated executionEpoch finished message =>
      rw [hoperation] at hbody
      obtain rfl := Except.ok.inj hbody
      exact .of_updateHandle hnodup (fun _ => rfl) fun _ => rfl
    | cancel canceled executionEpoch =>
      rw [hoperation] at hbody
      obtain rfl := Except.ok.inj hbody
      exact .of_cancelHandle hnodup
    | reconcile activeTaskIds =>
      rw [hoperation] at hbody
      obtain rfl := Except.ok.inj hbody
      exact .of_reconcileHandles

/-! ### Runs -/

section Runs

variable {call : RegistryCall} {state start : ExecutionHandleStoreState} {taskId : String}

/-- A stored state has passed validation. -/
lemma RegistryCall.step_valid (call : RegistryCall) (hvalid : state.Valid) :
    (call.step state).Valid := by
  rw [RegistryCall.step, RegistryCall.saved]
  split
  · exact hvalid
  · split_ifs with h
    · exact h.1
    · exact hvalid

/-- The stored registry is valid after every call of a run. -/
lemma runRegistry_valid (hstart : start.Valid) (calls : List RegistryCall) :
    (runRegistry start calls).Valid := by
  induction calls generalizing start with
  | nil => exact hstart
  | cons call calls ih => exact ih (call.step_valid hstart)

/-- A call whose body leaves the state as it is changes nothing. -/
lemma RegistryCall.step_eq_self (h : call.operation.body call.now state = .ok state) :
    call.step state = state := by
  rw [RegistryCall.step, RegistryCall.saved, h]
  simp only
  split_ifs <;> rfl

lemma updateHandle_stale (hvalid : state.Valid) {executionEpoch : Nat}
    {f : ExecutionHandle → ExecutionHandle}
    (h : (state.get taskId).map (fun handle => handle.executionEpoch) ≠ some executionEpoch) :
    updateHandle state taskId executionEpoch f = (false, state) := by
  cases hfound : currentHandle state taskId executionEpoch with
  | none => rw [updateHandle, hfound]
  | some handle =>
    obtain ⟨hmem, hid, he⟩ := ExecutionHandleStoreState.currentHandle_eq_some hfound
    have hget := (ExecutionHandleStoreState.get_eq_some hvalid.nodup).mpr ⟨hmem, hid⟩
    simp [hget, he] at h

/-- An operation of another epoch than the current one changes nothing. -/
lemma RegistryCall.step_of_stale (hvalid : state.Valid) {executionEpoch : Nat}
    (hfence : call.operation.fence = some (taskId, executionEpoch))
    (h : (state.get taskId).map (fun handle => handle.executionEpoch) ≠ some executionEpoch) :
    call.step state = state := by
  refine step_eq_self ?_
  cases hoperation : call.operation with
  | prepare => simp [hoperation, RegistryOperation.fence] at hfence
  | reconcile => simp [hoperation, RegistryOperation.fence] at hfence
  | markRunning =>
    simp only [hoperation, RegistryOperation.fence, Option.some.injEq, Prod.mk.injEq] at hfence
    obtain ⟨rfl, rfl⟩ := hfence
    simp [RegistryOperation.body, markRunning, transitionHandle, updateHandle_stale hvalid h]
  | renew =>
    simp only [hoperation, RegistryOperation.fence, Option.some.injEq, Prod.mk.injEq] at hfence
    obtain ⟨rfl, rfl⟩ := hfence
    simp [RegistryOperation.body, renewHandle, updateHandle_stale hvalid h]
  | captureCheckpoint =>
    simp only [hoperation, RegistryOperation.fence, Option.some.injEq, Prod.mk.injEq] at hfence
    obtain ⟨rfl, rfl⟩ := hfence
    simp [RegistryOperation.body, captureCheckpoint, updateHandle_stale hvalid h]
  | finish =>
    simp only [hoperation, RegistryOperation.fence, Option.some.injEq, Prod.mk.injEq] at hfence
    obtain ⟨rfl, rfl⟩ := hfence
    simp [RegistryOperation.body, finishHandle, transitionHandle, updateHandle_stale hvalid h]
  | cancel canceled epoch =>
    cases epoch with
    | none => simp [hoperation, RegistryOperation.fence] at hfence
    | some epoch =>
      simp only [hoperation, RegistryOperation.fence, Option.some.injEq,
        Prod.mk.injEq] at hfence
      obtain ⟨rfl, rfl⟩ := hfence
      rw [RegistryOperation.body, cancelHandle]
      cases hfound : state.get canceled with
      | none => rfl
      | some handle =>
        have hne : epoch ≠ handle.executionEpoch := by
          rintro rfl
          simp [hfound] at h
        simp [hne]

/-- A handle that a call creates is stored, and its epoch is the one after
that of the handle it replaces. -/
lemma RegistryCall.created_spec (hvalid : state.Valid) {handle : ExecutionHandle}
    (h : call.created state = some handle) :
    (call.step state).get handle.taskId = some handle
      ∧ handle.executionEpoch
        = ((state.get handle.taskId).map fun handle => handle.executionEpoch).getD 0 + 1 := by
  have hcreated := h
  rw [RegistryCall.created] at h
  split at h
  · next input capabilities semantics intact hoperation =>
    split at h
    · next prepared next hprepare =>
      split_ifs at h with hsome
      obtain rfl := Option.some.inj h
      rcases prepareHandle_spec hprepare with ⟨hresult, hpruned⟩ | ⟨_, -, -, -, -, ⟨_, hresult⟩, -⟩
      · obtain rfl := Except.ok.inj hresult
        have hstep : call.step state = next := by
          obtain ⟨saved, hsaved⟩ := Option.isSome_iff_exists.mp hsome
          rw [RegistryCall.step, hsaved, Option.getD_some]
          simp only [RegistryCall.saved, hoperation, RegistryOperation.body, hprepare,
            Except.map] at hsaved
          split_ifs at hsaved
          exact (Option.some.inj hsaved).symm
        refine ⟨?_, rfl⟩
        have hput (prepared : ExecutionHandle) :
            (putHandle state prepared).get prepared.taskId = some prepared := by
          rw [ExecutionHandleStoreState.get_putHandle hvalid.nodup, if_pos rfl]
        rcases ExecutionHandleStoreState.get_pruned
          (ExecutionHandleStoreState.nodup_putHandle hvalid.nodup) hpruned
          (preparedHandle input (state.get input.taskId) call.now).taskId with
          hkept | ⟨handle, hbefore, -, hterminal, -⟩
        · rw [hstep, hkept, hput]
        · rw [hput] at hbefore
          obtain rfl := Option.some.inj hbefore
          exact absurd hterminal (by simp [preparedHandle, isTerminalExecutionProgress])
      · exact absurd hresult (by simp)
    · simp at h
  · simp at h

/-- The epoch of the handle of a task does not fall while it is stored. -/
lemma RegistryCall.epoch_le_step (call : RegistryCall) (hvalid : state.Valid)
    {handle next : ExecutionHandle} (hbefore : state.get taskId = some handle)
    (hafter : (call.step state).get taskId = some next) :
    handle.executionEpoch ≤ next.executionEpoch := by
  have hchange := call.handleChange hvalid taskId
  rw [hbefore, hafter] at hchange
  cases hchange with
  | same => exact le_rfl
  | updated _ hepoch => exact hepoch.ge
  | withdrawn => exact le_rfl
  | prepared _ hepoch =>
    rw [hepoch, Option.map_some, Option.getD_some]
    exact Nat.le_succ _

/-- Along a run that keeps the handle of a task, the handles that are created
for it have later epochs than the one at the start, and rising ones. -/
lemma createdEpochs_sorted {calls : List RegistryCall} (hvalid : state.Valid)
    (hkept : NeverEvicts taskId state calls) :
    (∀ epoch ∈ createdEpochs taskId state calls,
        ((state.get taskId).map fun handle => handle.executionEpoch).getD 0 < epoch)
      ∧ (createdEpochs taskId state calls).Pairwise (· < ·) := by
  induction calls generalizing state with
  | nil => simp [createdEpochs]
  | cons call calls ih =>
    obtain ⟨hcall, hrest⟩ := hkept
    obtain ⟨hlater, hsorted⟩ := ih (call.step_valid hvalid) hrest
    have hmono : ((state.get taskId).map fun handle => handle.executionEpoch).getD 0
        ≤ (((call.step state).get taskId).map fun handle => handle.executionEpoch).getD 0 := by
      cases hbefore : state.get taskId with
      | none => exact Nat.zero_le _
      | some handle =>
        cases hafter : (call.step state).get taskId with
        | none => exact absurd ⟨by simp [hbefore], hafter⟩ hcall
        | some next => exact call.epoch_le_step hvalid hbefore hafter
    rw [createdEpochs]
    cases hcreated : (call.created state).filter fun handle => handle.taskId == taskId with
    | none =>
      simp only [Option.map_none, Option.toList_none, List.nil_append]
      exact ⟨fun epoch hmem => lt_of_le_of_lt hmono (hlater epoch hmem), hsorted⟩
    | some handle =>
      obtain ⟨hcreated, hid⟩ := Option.filter_eq_some_iff.mp hcreated
      obtain ⟨hstored, hepoch⟩ := RegistryCall.created_spec hvalid hcreated
      rw [beq_iff_eq.mp hid] at hstored hepoch
      rw [hstored] at hlater
      have hnext : ((state.get taskId).map fun handle => handle.executionEpoch).getD 0
          < handle.executionEpoch := by omega
      simp only [Option.map_some, Option.toList_some, List.singleton_append,
        List.mem_cons, List.pairwise_cons]
      refine ⟨?_, hlater, hsorted⟩
      rintro epoch (rfl | hmem)
      · exact hnext
      · exact hnext.trans (hlater epoch hmem)

/-- **Fencing**: along every run of the registry the stored state is valid; a
call of another epoch than the current one changes nothing; a handle that has
ended changes within its epoch only when a resume withdraws its damaged
checkpoint; and, as long as a full store has not evicted its handle, the
handles of a task have rising epochs. -/
theorem registry_fencing (hstart : start.Valid) (calls : List RegistryCall) :
    (runRegistry start calls).Valid
      ∧ (∀ (call : RegistryCall) (taskId : String) (executionEpoch : Nat),
          call.operation.fence = some (taskId, executionEpoch) →
          ((runRegistry start calls).get taskId).map (fun handle => handle.executionEpoch)
              ≠ some executionEpoch →
          call.step (runRegistry start calls) = runRegistry start calls)
      ∧ (∀ (call : RegistryCall) (taskId : String) (handle next : ExecutionHandle),
          (runRegistry start calls).get taskId = some handle →
          isTerminalExecutionProgress handle.progress.state = true →
          (call.step (runRegistry start calls)).get taskId = some next →
          next.executionEpoch = handle.executionEpoch →
          next = handle
            ∨ ∃ input capabilities semantics,
                call.operation = .prepare input capabilities semantics false
                  ∧ input.resume = true ∧ input.taskId = taskId
                  ∧ isResumable handle capabilities semantics = true
                  ∧ next = withdrawCheckpoint handle call.now)
      ∧ ∀ taskId, NeverEvicts taskId start calls →
          (createdEpochs taskId start calls).Pairwise (· < ·) := by
  have hvalid := runRegistry_valid hstart calls
  refine ⟨hvalid, ?_, ?_, ?_⟩
  · intro call taskId executionEpoch hfence hstale
    exact RegistryCall.step_of_stale hvalid hfence hstale
  · intro call taskId handle next hbefore hended hafter hepoch
    have hchange := call.handleChange hvalid taskId
    rw [hbefore, hafter] at hchange
    cases hchange with
    | same => exact .inl rfl
    | updated hactive => simp [hactive] at hended
    | withdrawn hoperation hresume htask hresumable =>
      exact .inr ⟨_, _, _, hoperation, hresume, htask, hresumable, rfl⟩
    | prepared _ hnext =>
      rw [Option.map_some, Option.getD_some] at hnext
      omega
  · intro taskId hkept
    exact (createdEpochs_sorted hstart hkept).2

end Runs

/-- A task whose execution failed after a checkpoint was captured. -/
def failedExecution : List RegistryCall := [
  ⟨.prepare ⟨"task-1", "workspace-1", "agent", "connector", false⟩
    ⟨true, false, true, true, true⟩ .workspacePureCompute true, 0, true⟩,
  ⟨.markRunning "task-1" 1 none, 1, true⟩,
  ⟨.captureCheckpoint "task-1" 1 "checkpoint.bin"
    "sha256:0000000000000000000000000000000000000000000000000000000000000000", 2, true⟩,
  ⟨.finish "task-1" 1 .failed none, 3, true⟩]

/-- The checkpoint of the task is found damaged when its execution is resumed. -/
def damagedResume : RegistryCall :=
  ⟨.prepare ⟨"task-1", "workspace-1", "agent", "connector", true⟩
    ⟨true, false, true, true, true⟩ .workspacePureCompute false, 4, true⟩

lemma empty_valid : emptyExecutionHandleStoreState.Valid := by decide

/-- A handle that has ended can change within its epoch. -/
theorem ended_handle_changes :
    ∃ (calls : List RegistryCall) (call : RegistryCall) (handle next : ExecutionHandle),
      (runRegistry emptyExecutionHandleStoreState calls).get "task-1" = some handle
        ∧ isTerminalExecutionProgress handle.progress.state = true
        ∧ (call.step (runRegistry emptyExecutionHandleStoreState calls)).get "task-1" = some next
        ∧ next.executionEpoch = handle.executionEpoch ∧ next ≠ handle := by
  refine ⟨failedExecution, damagedResume, ⟨"task-1", "workspace-1", "agent", "connector", 1, none,
    3, ⟨.failed, none, none, some "执行失败", 3⟩, some "checkpoint.bin", .checkpointRestart⟩,
    ⟨"task-1", "workspace-1", "agent", "connector", 1, none,
    3, ⟨.failed, none, none, some "检查点完整性验证失败，已禁止恢复", 4⟩, none, .none⟩, ?_, ?_, ?_, ?_, ?_⟩
  · decide +kernel
  · decide
  · decide +kernel
  · decide
  · decide

/-- The run of a failed execution, and a late call for it. -/
theorem registry_fencing_failedExecution :
    (runRegistry emptyExecutionHandleStoreState failedExecution).Valid
      ∧ RegistryCall.step ⟨.renew "task-1" 2, 5, true⟩
          (runRegistry emptyExecutionHandleStoreState failedExecution)
        = runRegistry emptyExecutionHandleStoreState failedExecution
      ∧ (createdEpochs "task-1" emptyExecutionHandleStoreState failedExecution).Pairwise (· < ·) := by
  obtain ⟨hvalid, hfence, -, hsorted⟩ := registry_fencing empty_valid failedExecution
  exact ⟨hvalid, hfence ⟨.renew "task-1" 2, 5, true⟩ "task-1" 2 rfl (by decide +kernel),
    hsorted "task-1" (by decide +kernel)⟩

end TetiBot

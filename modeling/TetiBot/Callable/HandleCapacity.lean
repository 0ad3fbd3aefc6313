import TetiBot.Callable.Registry

/-
The capacity of the execution registry (`runtime/callable/execution-store.ts`).

* `unfinished`: the handles of executions that have not ended, among them those
  that a restart has interrupted;
* `prepare_succeeds_iff`: a new execution is prepared exactly if there is room
  beside the unfinished handles;
* `interrupted_handles_fill`: a registry of interrupted handles has no room.
-/

namespace TetiBot

open Library

/-- The handles that pruning cannot remove. -/
def ExecutionHandleStoreState.unfinished (state : ExecutionHandleStoreState) :
    List ExecutionHandle :=
  state.handles.filter fun handle => !isTerminalExecutionProgress handle.progress.state

/-- The call of `prepare` for a new execution. -/
def prepareCall (input : PrepareExecutionHandleInput) (capabilities : ConnectorExecutionCapabilities)
    (semantics : ExecutionSemantics) (intact : Bool) (now : Timestamp) : RegistryCall :=
  ⟨.prepare input capabilities semantics intact, now, true⟩

/-! ### The parts of the validation -/

/-- What the validation of the store says, part by part. -/
structure StoreValid (state : ExecutionHandleStoreState) : Prop where
  handleCount : state.handles.length ≤ MAX_EXECUTION_HANDLES
  integrityCount : state.checkpointIntegrity.length ≤ MAX_EXECUTION_HANDLES
  handles : ∀ handle ∈ state.handles, validateExecutionHandle handle = .ok ()
  handleIds : (state.handles.map fun handle => handle.taskId).Nodup
  integrity : ∀ record ∈ state.checkpointIntegrity,
    1 ≤ record.capturedExecutionEpoch ∧ sha256Pattern record.sha256 = true
  integrityIds : (state.checkpointIntegrity.map fun record => record.taskId).Nodup
  owned : ∀ record ∈ state.checkpointIntegrity, integrityOwned state.handles record = true

lemma storeValid_iff {state : ExecutionHandleStoreState} : state.Valid ↔ StoreValid state := by
  rw [ExecutionHandleStoreState.Valid, validateExecutionHandleStoreState, failIf_then_eq_ok]
  constructor
  · rintro ⟨hcounts, h⟩
    obtain ⟨_, hhandles, h⟩ := except_bind_eq_ok.mp h
    obtain ⟨hids, h⟩ := failIf_then_eq_ok.mp h
    obtain ⟨hintegrity, howned⟩ := failIf_then_eq_ok.mp h
    simp only [not_or, not_lt] at hcounts
    rw [not_or, Bool.not_eq_true, List.any_eq_false, not_not] at hintegrity
    exact {
      handleCount := hcounts.1
      integrityCount := hcounts.2
      handles := forM_eq_ok.mp hhandles
      handleIds := not_not.mp hids
      integrity := fun record hmem => by
        simpa [Nat.one_le_iff_ne_zero] using hintegrity.1 record hmem
      integrityIds := hintegrity.2
      owned := List.all_eq_true.mp (not_not.mp (failIf_eq_ok.mp howned)) }
  · intro h
    refine ⟨by simp [h.handleCount, h.integrityCount],
      except_bind_eq_ok.mpr ⟨(), forM_eq_ok.mpr h.handles, failIf_then_eq_ok.mpr
        ⟨not_not.mpr h.handleIds, failIf_then_eq_ok.mpr ⟨?_, failIf_eq_ok.mpr
          (not_not.mpr (List.all_eq_true.mpr h.owned))⟩⟩⟩⟩
    rw [not_or, Bool.not_eq_true, List.any_eq_false, not_not]
    exact ⟨fun record hmem => by
      simpa [Nat.one_le_iff_ne_zero] using h.integrity record hmem, h.integrityIds⟩

/-! ### Pruning -/

/-- A store that pruning left is small enough, and so are its integrity
records: all of them, or those of the handles that are left. -/
lemma pruneHandles_bound {state next : ExecutionHandleStoreState}
    (h : pruneHandles state = .ok next) :
    next.handles.length ≤ MAX_EXECUTION_HANDLES
      ∧ (next = state ∨ next.checkpointIntegrity
        = state.checkpointIntegrity.filter (integrityOwned next.handles)) := by
  rw [pruneHandles] at h
  split_ifs at h with hfits
  · obtain rfl := Except.ok.inj h
    exact ⟨hfits, .inl rfl⟩
  · obtain ⟨hleft, h⟩ := failIf_then_eq_ok.mp h
    obtain rfl := Except.ok.inj h
    exact ⟨not_lt.mp hleft, .inr rfl⟩

/-- One handle too many is pruned exactly if some handle has ended. -/
lemma pruneHandles_ok_iff {state : ExecutionHandleStoreState}
    (hlength : state.handles.length ≤ MAX_EXECUTION_HANDLES + 1) :
    (∃ next, pruneHandles state = .ok next)
      ↔ state.unfinished.length ≤ MAX_EXECUTION_HANDLES := by
  have hshorter : state.unfinished.length ≤ state.handles.length := List.length_filter_le _ _
  rw [pruneHandles]
  split_ifs with hfits
  · exact iff_of_true ⟨state, rfl⟩ (hshorter.trans hfits)
  · have hfull : state.handles.length = MAX_EXECUTION_HANDLES + 1 := by omega
    simp only [failIf_then_eq_ok]
    generalize hterminal : (state.handles.filter fun handle =>
      isTerminalExecutionProgress handle.progress.state).mergeSort _ = terminal
    have hmem : ∀ handle, handle ∈ terminal ↔ handle ∈ state.handles
        ∧ isTerminalExecutionProgress handle.progress.state = true := by
      intro handle
      rw [← hterminal, List.mem_mergeSort, List.mem_filter]
    cases terminal with
    | nil =>
      have hall : state.unfinished = state.handles := by
        rw [ExecutionHandleStoreState.unfinished, List.filter_eq_self]
        intro handle hhandle
        have hnot := mt (hmem handle).mpr (List.not_mem_nil)
        simpa [hhandle] using hnot
      rw [hall, hfull]
      refine iff_of_false ?_ (by omega)
      rintro ⟨next, hroom, -⟩
      exact hroom (by rw [pruneTerminal]; omega)
    | cons ended rest =>
      obtain ⟨hended, hterminates⟩ := (hmem ended).mp List.mem_cons_self
      have hone : (state.handles.erase ended).length = MAX_EXECUTION_HANDLES := by
        rw [List.length_erase_of_mem hended, hfull]
        omega
      have hleft : pruneTerminal (ended :: rest) state.handles = state.handles.erase ended := by
        rw [pruneTerminal, if_neg hfits]
        cases rest with
        | nil => rw [pruneTerminal]
        | cons => rw [pruneTerminal, if_pos hone.le]
      have hless : state.unfinished.length < state.handles.length :=
        List.length_filter_lt_length_iff_exists.mpr ⟨ended, hended, by simp [hterminates]⟩
      refine iff_of_true ⟨_, ?_, rfl⟩ (by omega)
      rw [hleft, hone]
      omega

/-! ### A new execution -/

section Fresh

variable {state next : ExecutionHandleStoreState} {input : PrepareExecutionHandleInput}
  {now : Timestamp}

variable {handle : ExecutionHandle}

/-- A task without a handle is prepared at the end of the list. -/
lemma putHandle_of_new (hnew : state.get handle.taskId = none) :
    putHandle state handle = { state with handles := state.handles ++ [handle] } := by
  rw [putHandle, hnew]
  rfl

/-- Pruning after a new handle has joined keeps the store valid. -/
lemma valid_of_joined (hvalid : state.Valid) (hnew : state.get handle.taskId = none)
    (hhandle : validateExecutionHandle handle = .ok ())
    (hpruned : pruneHandles (putHandle state handle) = .ok next) : next.Valid := by
  have hstore := storeValid_iff.mp hvalid
  have hids : ((putHandle state handle).handles.map fun handle => handle.taskId).Nodup :=
    ExecutionHandleStoreState.nodup_putHandle hstore.handleIds
  obtain ⟨hsub, -⟩ := pruneHandles_spec hpruned
  obtain ⟨hcount, hintegrity⟩ := pruneHandles_bound hpruned
  rw [putHandle_of_new hnew] at hsub hids hintegrity
  have hkept : next.checkpointIntegrity.Sublist state.checkpointIntegrity := by
    rcases hintegrity with rfl | h
    · exact List.Sublist.refl _
    · rw [h]
      exact List.filter_sublist
  rw [storeValid_iff]
  exact {
    handleCount := hcount
    integrityCount := hkept.length_le.trans hstore.integrityCount
    handles := fun item hitem => by
      rcases List.mem_append.mp (hsub.subset hitem) with h | h
      · exact hstore.handles item h
      · rw [List.mem_singleton.mp h]
        exact hhandle
    handleIds := hids.sublist (hsub.map _)
    integrity := fun record hmem => hstore.integrity record (hkept.subset hmem)
    integrityIds := hstore.integrityIds.sublist (hkept.map _)
    owned := fun record hmem => by
      rcases hintegrity with rfl | h
      · have howned := hstore.owned record hmem
        rw [integrityOwned, List.any_append]
        exact Bool.or_eq_true_iff.mpr (.inl howned)
      · rw [h] at hmem
        exact (List.mem_filter.mp hmem).2 }

/-- The handle of a new execution is valid if its identifiers are. -/
lemma validate_preparedHandle :
    validateExecutionHandle (preparedHandle input none now) = .ok ()
      ↔ safeLongId input.taskId = true ∧ safeLongId input.workspaceId = true
        ∧ safeSlugPattern input.childAgentId = true ∧ safeSlugPattern input.connectorId = true := by
  have hprogress : validateExecutionProgress (preparedHandle input none now).progress = .ok () := by
    rw [validateExecutionProgress, failIf_eq_ok, not_or, not_not]
    refine ⟨by simp [preparedHandle, ExecutionProgress.overfull], ?_⟩
    simp only [preparedHandle, Option.all_some]
    split_ifs <;> decide
  rw [validateExecutionHandle, failIf_then_eq_ok, hprogress]
  simp [preparedHandle, except_ok_bind, failIf_eq_ok]

variable (hfresh : input.resume = false) (hnew : state.get input.taskId = none)
    (hinput : validateExecutionHandle (preparedHandle input none now) = .ok ())
    (capabilities : ConnectorExecutionCapabilities) (semantics : ExecutionSemantics)
    (intact : Bool)

include hfresh hnew hinput

/-- What `prepare` does for a new execution. -/
lemma prepareHandle_of_new :
    prepareHandle input capabilities semantics intact now state
      = (pruneHandles (putHandle state (preparedHandle input none now))).map fun next =>
          (.ok (preparedHandle input none now), next) := by
  rw [prepareHandle]
  simp only [hnew, hfresh, Bool.false_eq_true, if_false, Option.isSome_none, failIf, hinput]
  cases pruneHandles (putHandle state (preparedHandle input none now)) with
  | error error => rfl
  | ok next => rfl

/-- A new execution is prepared exactly if there is room. -/
lemma created_prepareCall (hvalid : state.Valid) :
    (prepareCall input capabilities semantics intact now).created state
      = if state.unfinished.length < MAX_EXECUTION_HANDLES then some (preparedHandle input none now)
        else none := by
  have hput : putHandle state (preparedHandle input none now) = _ := putHandle_of_new hnew
  have hunfinished : (putHandle state (preparedHandle input none now)).unfinished
      = state.unfinished ++ [preparedHandle input none now] := by
    rw [hput, ExecutionHandleStoreState.unfinished, List.filter_append]
    rfl
  have hlength : (putHandle state (preparedHandle input none now)).handles.length
      ≤ MAX_EXECUTION_HANDLES + 1 := by
    have hcount := (storeValid_iff.mp hvalid).handleCount
    rw [hput, List.length_append, List.length_singleton]
    omega
  have hroom := pruneHandles_ok_iff hlength
  rw [hunfinished, List.length_append, List.length_singleton, Nat.succ_le_iff] at hroom
  rw [RegistryCall.created, RegistryCall.saved, prepareCall]
  simp only [RegistryOperation.body,
    prepareHandle_of_new hfresh hnew hinput capabilities semantics intact]
  cases hpruned : pruneHandles (putHandle state (preparedHandle input none now)) with
  | error error =>
    rw [hpruned] at hroom
    rw [if_neg (mt hroom.mpr (by simp))]
    rfl
  | ok next =>
    have hnext : validateExecutionHandleStoreState next = .ok () :=
      valid_of_joined hvalid hnew hinput hpruned
    rw [if_pos (hroom.mp ⟨next, hpruned⟩)]
    simp [Except.map, hnext]

/-- While there is room, a new handle joins the others. -/
lemma step_prepareCall_of_room (hvalid : state.Valid)
    (hroom : state.handles.length < MAX_EXECUTION_HANDLES) :
    (prepareCall input capabilities semantics intact now).step state
      = { state with handles := state.handles ++ [preparedHandle input none now] } := by
  have hput : putHandle state (preparedHandle input none now) = _ := putHandle_of_new hnew
  have hpruned : pruneHandles (putHandle state (preparedHandle input none now))
      = .ok (putHandle state (preparedHandle input none now)) := by
    rw [pruneHandles, if_pos]
    · rfl
    · rw [hput, List.length_append, List.length_singleton]
      omega
  have hnext : validateExecutionHandleStoreState
      (putHandle state (preparedHandle input none now)) = .ok () :=
    valid_of_joined hvalid hnew hinput hpruned
  rw [RegistryCall.step, RegistryCall.saved, prepareCall]
  simp only [RegistryOperation.body,
    prepareHandle_of_new hfresh hnew hinput capabilities semantics intact, hpruned, Except.map]
  rw [if_pos ⟨hnext, trivial⟩, Option.getD_some, hput]

/-- A new execution pushes out no handle that has not ended. -/
lemma unfinished_kept (hhandle : handle ∈ state.unfinished) :
    handle ∈ ((prepareCall input capabilities semantics intact now).step state).handles := by
  obtain ⟨hmem, hactive⟩ := List.mem_filter.mp hhandle
  rw [RegistryCall.step, RegistryCall.saved, prepareCall]
  simp only [RegistryOperation.body,
    prepareHandle_of_new hfresh hnew hinput capabilities semantics intact]
  cases hpruned : pruneHandles (putHandle state (preparedHandle input none now)) with
  | error error => exact hmem
  | ok next =>
    simp only [Except.map]
    split_ifs
    · by_contra hgone
      have hjoined : handle ∈ (putHandle state (preparedHandle input none now)).handles := by
        rw [putHandle_of_new hnew]
        exact List.mem_append_left _ hmem
      have hended := ((pruneHandles_spec hpruned).2 handle hjoined hgone).1
      simp [hended] at hactive
    · exact hmem

end Fresh

/-- **The room of the registry**: in every registry that calls have reached, a
new execution is prepared exactly if fewer than `MAX_EXECUTION_HANDLES` handles
have not ended; and no handle that has not ended is pruned for it. -/
theorem prepare_succeeds_iff (calls : List RegistryCall) {input : PrepareExecutionHandleInput}
    {now : Timestamp} (hfresh : input.resume = false)
    (hnew : (runRegistry emptyExecutionHandleStoreState calls).get input.taskId = none)
    (hinput : validateExecutionHandle (preparedHandle input none now) = .ok ())
    (capabilities : ConnectorExecutionCapabilities) (semantics : ExecutionSemantics)
    (intact : Bool) :
    ((prepareCall input capabilities semantics intact now).created
          (runRegistry emptyExecutionHandleStoreState calls)
        = some (preparedHandle input none now)
      ↔ (runRegistry emptyExecutionHandleStoreState calls).unfinished.length
          < MAX_EXECUTION_HANDLES)
      ∧ ∀ handle ∈ (runRegistry emptyExecutionHandleStoreState calls).unfinished,
          handle ∈ ((prepareCall input capabilities semantics intact now).step
            (runRegistry emptyExecutionHandleStoreState calls)).handles :=
  ⟨by simp [created_prepareCall hfresh hnew hinput capabilities semantics intact
      (runRegistry_valid empty_valid calls)],
    fun _ hhandle => unfinished_kept hfresh hnew hinput capabilities semantics intact hhandle⟩

/-! ### A registry of interrupted handles -/

/-- A number can be read from its digits. -/
lemma toString_injective {m n : Nat} (h : toString m = toString n) : m = n := by
  rw [Nat.toString_eq_ofList_toDigits, Nat.toString_eq_ofList_toDigits, String.ofList_inj] at h
  rw [← Nat.ofDigitChars_ten_toDigits (n := m), h, Nat.ofDigitChars_ten_toDigits]

variable {handle : ExecutionHandle}

/-- A handle whose execution was settled is as valid as it was. -/
lemma validate_settleHandle {state : ExecutionProgressState} {message : String} {now : Timestamp}
    (h : validateExecutionHandle handle = .ok ()) (hmessage : utf16Length message ≤ 240) :
    validateExecutionHandle
      { settleHandle state message now handle with providerExecutionId := none } = .ok () := by
  rw [validateExecutionHandle] at h ⊢
  obtain ⟨hids, h⟩ := failIf_then_eq_ok.mp h
  obtain ⟨_, hprogress, hcheckpoint⟩ := except_bind_eq_ok.mp h
  have hoverfull := (not_or.mp (failIf_eq_ok.mp hprogress)).1
  simp only [not_or] at hids
  obtain ⟨htask, hworkspace, hagent, hconnector, hepoch, -, href⟩ := hids
  refine failIf_then_eq_ok.mpr ⟨?_, except_bind_eq_ok.mpr
    ⟨(), failIf_eq_ok.mpr (not_or.mpr ⟨hoverfull, ?_⟩), hcheckpoint⟩⟩
  · simp only [not_or]
    exact ⟨htask, hworkspace, hagent, hconnector, hepoch, by simp, href⟩
  · simpa [settleHandle] using hmessage

/-- An interrupted handle is as valid as it was. -/
lemma validate_interruptHandle {activeTaskIds : List String} {now : Timestamp}
    (h : validateExecutionHandle handle = .ok ()) :
    validateExecutionHandle (interruptHandle activeTaskIds now handle) = .ok () := by
  rw [interruptHandle]
  by_cases hleft : (isTerminalExecutionProgress handle.progress.state
      || activeTaskIds.contains handle.taskId) = true
  · rw [if_pos hleft]
    exact h
  · rw [if_neg hleft]
    refine validate_settleHandle h ?_
    split_ifs <;> decide

/-- The task of an execution that is prepared and then abandoned. -/
def abandonedInput (n : Nat) : PrepareExecutionHandleInput :=
  ⟨toString n, "workspace-1", "agent", "connector", false⟩

def abandonedHandle (n : Nat) : ExecutionHandle := preparedHandle (abandonedInput n) none 0

def abandonedCall (n : Nat) : RegistryCall :=
  prepareCall (abandonedInput n) ⟨true, false, true, true, true⟩ .workspacePureCompute true 0

lemma safeLongId_toString {n : Nat} (h : n ≤ MAX_EXECUTION_HANDLES) :
    safeLongId (toString n) = true := by
  have hall : ((List.range (MAX_EXECUTION_HANDLES + 1)).all fun n => safeLongId (toString n)) = true := by
    decide +kernel
  exact List.all_eq_true.mp hall n (List.mem_range.mpr (by omega))

lemma validate_abandonedHandle {n : Nat} (h : n ≤ MAX_EXECUTION_HANDLES) :
    validateExecutionHandle (abandonedHandle n) = .ok () :=
  validate_preparedHandle.mpr ⟨safeLongId_toString h, (by decide : safeLongId "workspace-1" = true),
    (by decide : safeSlugPattern "agent" = true), (by decide : safeSlugPattern "connector" = true)⟩

/-- While there is room, the abandoned executions are all stored. -/
lemma run_abandoned {k : Nat} (hk : k ≤ MAX_EXECUTION_HANDLES) :
    runRegistry emptyExecutionHandleStoreState ((List.range k).map abandonedCall)
      = ⟨(List.range k).map abandonedHandle, []⟩ := by
  induction k with
  | zero => rfl
  | succ k ih =>
    have hprevious := ih (by omega)
    have hvalid := runRegistry_valid empty_valid ((List.range k).map abandonedCall)
    rw [hprevious] at hvalid
    rw [List.range_succ, List.map_append, runRegistry, List.foldl_append]
    rw [runRegistry] at hprevious
    rw [hprevious, List.map_append]
    refine step_prepareCall_of_room rfl ?_ (validate_abandonedHandle (by omega)) _ _ _ hvalid ?_
    · rw [ExecutionHandleStoreState.get_eq_none]
      intro handle hmem
      obtain ⟨n, hn, rfl⟩ := List.mem_map.mp hmem
      have hless : n < k := List.mem_range.mp hn
      exact fun hsame => hless.ne (toString_injective hsame)
    · rw [List.length_map, List.length_range]
      omega

/-- Executions are prepared, and the process restarts. -/
def abandonedRun (k : Nat) : List RegistryCall :=
  (List.range k).map abandonedCall ++ [⟨.reconcile [], 1, true⟩]

lemma run_abandonedRun {k : Nat} (hk : k ≤ MAX_EXECUTION_HANDLES) :
    runRegistry emptyExecutionHandleStoreState (abandonedRun k)
      = reconcileHandles [] 1 ⟨(List.range k).map abandonedHandle, []⟩ := by
  have hfull := run_abandoned hk
  have hvalid := runRegistry_valid empty_valid ((List.range k).map abandonedCall)
  rw [hfull, storeValid_iff] at hvalid
  have hnext : validateExecutionHandleStoreState
      (reconcileHandles [] 1 ⟨(List.range k).map abandonedHandle, []⟩) = .ok () := by
    refine storeValid_iff.mpr {
      handleCount := by simpa [reconcileHandles] using hk
      integrityCount := hvalid.integrityCount
      handles := fun handle hmem => ?_
      handleIds := ?_
      integrity := hvalid.integrity
      integrityIds := hvalid.integrityIds
      owned := fun record hmem => absurd hmem List.not_mem_nil }
    · obtain ⟨previous, hprevious, rfl⟩ := List.mem_map.mp hmem
      exact validate_interruptHandle (hvalid.handles previous hprevious)
    · have hids := hvalid.handleIds
      simp only [reconcileHandles, List.map_map] at hids ⊢
      exact hids
  rw [runRegistry] at hfull ⊢
  rw [abandonedRun, List.foldl_append, hfull, List.foldl_cons, List.foldl_nil, RegistryCall.step,
    RegistryCall.saved]
  simp only [RegistryOperation.body, hnext]
  rfl

/-- What the restart leaves: interrupted handles of different tasks. -/
lemma interrupted_of_mem {k : Nat} (hk : k ≤ MAX_EXECUTION_HANDLES)
    (hmem : handle ∈ (runRegistry emptyExecutionHandleStoreState (abandonedRun k)).handles) :
    ∃ n < k, handle.taskId = toString n ∧ handle.progress.state = .interrupted := by
  rw [run_abandonedRun hk] at hmem
  obtain ⟨previous, hprevious, rfl⟩ := List.mem_map.mp hmem
  obtain ⟨n, hn, rfl⟩ := List.mem_map.mp hprevious
  exact ⟨n, List.mem_range.mp hn, rfl, rfl⟩

lemma unfinished_abandonedRun {k : Nat} (hk : k ≤ MAX_EXECUTION_HANDLES) :
    (runRegistry emptyExecutionHandleStoreState (abandonedRun k)).unfinished.length = k := by
  rw [ExecutionHandleStoreState.unfinished, List.filter_eq_self.mpr]
  · rw [run_abandonedRun hk]
    simp [reconcileHandles]
  · intro handle hmem
    obtain ⟨n, -, -, hstate⟩ := interrupted_of_mem hk hmem
    simp [hstate, isTerminalExecutionProgress]

/-- The task of the next number has no handle. -/
lemma get_abandonedRun {k : Nat} (hk : k ≤ MAX_EXECUTION_HANDLES) :
    (runRegistry emptyExecutionHandleStoreState (abandonedRun k)).get (abandonedInput k).taskId
      = none := by
  rw [ExecutionHandleStoreState.get_eq_none]
  intro handle hmem hsame
  obtain ⟨n, hn, htask, -⟩ := interrupted_of_mem hk hmem
  exact hn.ne (toString_injective (htask.symm.trans hsame))

/-- A full registry of executions that a restart has interrupted has no handle
that is queued or running, and no room for a new execution. -/
theorem interrupted_handles_fill :
    ¬∀ (calls : List RegistryCall) (input : PrepareExecutionHandleInput) (now : Timestamp)
      (capabilities : ConnectorExecutionCapabilities) (semantics : ExecutionSemantics)
      (intact : Bool),
      (∀ handle ∈ (runRegistry emptyExecutionHandleStoreState calls).handles,
        handle.progress.state ≠ .queued ∧ handle.progress.state ≠ .running) →
      input.resume = false →
      (runRegistry emptyExecutionHandleStoreState calls).get input.taskId = none →
      validateExecutionHandle (preparedHandle input none now) = .ok () →
      ((prepareCall input capabilities semantics intact now).created
        (runRegistry emptyExecutionHandleStoreState calls)).isSome = true := by
  intro hsucceeds
  have hfull := le_refl MAX_EXECUTION_HANDLES
  have hidle : ∀ handle ∈ (runRegistry emptyExecutionHandleStoreState
      (abandonedRun MAX_EXECUTION_HANDLES)).handles,
      handle.progress.state ≠ .queued ∧ handle.progress.state ≠ .running := by
    intro handle hmem
    obtain ⟨n, -, -, hstate⟩ := interrupted_of_mem hfull hmem
    simp [hstate]
  have hcreated := hsucceeds (abandonedRun MAX_EXECUTION_HANDLES)
    (abandonedInput MAX_EXECUTION_HANDLES) 0 ⟨true, false, true, true, true⟩
    .workspacePureCompute true hidle rfl (get_abandonedRun hfull) (validate_abandonedHandle hfull)
  rw [created_prepareCall rfl (get_abandonedRun hfull) (validate_abandonedHandle hfull) _ _ _
    (runRegistry_valid empty_valid _), unfinished_abandonedRun hfull, if_neg (lt_irrefl _)] at hcreated
  cases hcreated

/-- With one interrupted handle there is room. -/
theorem prepare_succeeds_iff_interrupted :
    (prepareCall (abandonedInput 1) ⟨true, false, true, true, true⟩ .workspacePureCompute true 2).created
        (runRegistry emptyExecutionHandleStoreState (abandonedRun 1))
      = some (preparedHandle (abandonedInput 1) none 2) :=
  (prepare_succeeds_iff (abandonedRun 1) rfl (by decide +kernel) (by decide +kernel)
    ⟨true, false, true, true, true⟩ .workspacePureCompute true).1.mpr (by decide +kernel)

end TetiBot

import TetiBot.Callable.Moves

/-
Authorities are used once (`execute` of `runtime/callable/kernel.ts`).

* `HostKernel.ClockedRuns`: the runs of a kernel under a clock that never goes
  back;
* `HostKernel.ReusesExpired`: the calls of `execute` that find the authority of
  an earlier execution valid, and forget it when they read the clock again;
* `HostKernel.authority_single_use`: without such calls, no two executions with
  one authority are started;
* `HostKernel.authority_used_twice`: with such a call, two are.
-/

namespace TetiBot

open Library

/-- The clock at an event and after it; `execute` reads it twice. -/
def KernelEvent.Reads (clock next : Timestamp) : KernelEvent → Prop
  | .execute _ _ now later => clock ≤ now ∧ now ≤ later ∧ next = later
  | _ => clock ≤ next

namespace HostKernel

variable (host : HostOptions)

/-- Runs under a clock that never goes back, in which every event meets a
condition on the state it finds. -/
def ClockedRuns (allowed : HostKernel → KernelEvent → Prop) :
    HostKernel × Timestamp → HostKernel × Timestamp → Prop :=
  Reached fun s t => ∃ event, allowed s.1 event ∧ event.Reads s.2 t.2 ∧ t.1 = s.1.step host event

variable (kernel : HostKernel)

/-- A call of `execute` for a task that may be executed finds its authority
valid.  An execution with this authority was accepted before, and when the call
reads the clock again, its authority has expired. -/
def ReusesExpired : KernelEvent → Prop
  | .execute request authority now later =>
    kernel.isDuplicate request authority = false
      ∧ (∃ connector, kernel.connectors.get? request.adapterId = some connector
        ∧ validateExecutionAuthority host.sha256 authority request
            connector.toAgentConnectorDescriptor now = .ok ())
      ∧ ∃ control ∈ kernel.controls, control.authority.authorityId = authority.authorityId
        ∧ control.authority.expiresAt < later
  | _ => False

/-- The authorities of the executions that were started, as often as they were. -/
def startedAuthorities : List String :=
  kernel.started.filterMap fun index =>
    kernel.controls[index]?.map fun control => control.authority.authorityId

variable {host}

lemma ClockedRuns.event {allowed : HostKernel → KernelEvent → Prop}
    {start : HostKernel × Timestamp} {kernel : HostKernel} {clock : Timestamp}
    (hrun : ClockedRuns host allowed start (kernel, clock)) (event : KernelEvent)
    (next : Timestamp) (hallowed : allowed kernel event) (hreads : event.Reads clock next) :
    ClockedRuns host allowed start (kernel.step host event, next) :=
  hrun.step ⟨event, hallowed, hreads, rfl⟩

/-! ### Moves keep the authorities -/

/-- The authorities of the executions, in the order of their acceptance. -/
def authorities : List ExecutionAuthority :=
  kernel.controls.map fun control => control.authority

lemma authorities_modifyControl {index : Nat} {f : ExecutionControl → ExecutionControl}
    (hf : ∀ control, kernel.controls[index]? = some control →
      (f control).authority = control.authority) :
    (kernel.modifyControl index f).authorities = kernel.authorities := by
  refine List.ext_getElem? fun j => ?_
  rw [authorities, authorities, List.getElem?_map, List.getElem?_map, getElem?_modifyControl]
  split_ifs with h
  · subst h
    cases hknown : kernel.controls[index]? with
    | none => rfl
    | some control => exact congrArg some (hf control hknown)
  · rfl

lemma authority_requestTermination (reason : TerminationReason) (control : ExecutionControl) :
    (control.requestTermination reason).authority = control.authority := by
  rw [ExecutionControl.requestTermination]
  split_ifs <;> rfl

lemma authority_resume (registry : Option ExecutionHandleStoreState) (answer : RunAnswer)
    (control : ExecutionControl) :
    (control.resume host registry answer).1.authority = control.authority := by
  by_cases hrunning : control.running = true
  · exact (control.resume_continues hrunning answer).authority
  · rw [control.resume_of_not_running (by simpa using hrunning)]

lemma authorities_move {kernel next : HostKernel} (hmove : Move kernel next) :
    next.authorities = kernel.authorities
      ∧ next.consumedAuthorities = kernel.consumedAuthorities := by
  cases hmove with
  | revoked | forgotten | unregistered | stopped => exact ⟨rfl, rfl⟩
  | terminated index reason =>
    exact ⟨authorities_modifyControl _ fun control _ =>
      authority_requestTermination reason control, rfl⟩
  | canceled taskId index control now written =>
    exact ⟨authorities_modifyControl (kernel.callRegistry _) fun other _ =>
      authority_requestTermination .cancel other, rfl⟩
  | withdrawn taskId index control code accepted hwaits hknown =>
    exact ⟨authorities_modifyControl (kernel.removeQueued taskId _) fun _ _ => rfl, rfl⟩

lemma authorities_moves {kernel next : HostKernel} (hmoves : Moves kernel next) :
    next.authorities = kernel.authorities
      ∧ next.consumedAuthorities = kernel.consumedAuthorities := by
  induction hmoves with
  | refl => exact ⟨rfl, rfl⟩
  | tail _ hmove ih =>
    obtain ⟨hauthorities, hconsumed⟩ := authorities_move hmove
    exact ⟨hauthorities.trans ih.1, hconsumed.trans ih.2⟩

lemma authorities_drains {kernel next : HostKernel} (hdrains : Drains host kernel next) :
    next.authorities = kernel.authorities
      ∧ next.consumedAuthorities = kernel.consumedAuthorities := by
  induction hdrains with
  | refl => exact ⟨rfl, rfl⟩
  | tail _ hdrain ih =>
    cases hdrain with
    | skipped => exact ih
    | begun childAgentId taskId rest index control hfound hwaits =>
      refine ⟨Eq.trans ?_ ih.1, ih.2⟩
      exact authorities_modifyControl (removeQueued taskId childAgentId _) fun _ _ => rfl

lemma authorities_accept (connector : HostConnector)
    (request : CallableAdapterTaskRequest) (authority : ExecutionAuthority) (starts : Bool) :
    (kernel.accept connector request authority starts).authorities
      = kernel.authorities ++ [authority] := by
  have hsubmitted : (kernel.controls ++ [ExecutionControl.submit connector request authority]).map
      (fun control => control.authority) = kernel.authorities ++ [authority] := by
    rw [List.map_append]
    rfl
  cases starts with
  | false => exact hsubmitted
  | true =>
    rw [← hsubmitted, accept, if_pos rfl]
    exact authorities_modifyControl { kernel with
      controls := kernel.controls ++ [ExecutionControl.submit connector request authority] }
      fun _ _ => rfl

/-- While the authorities that were used are valid, none of them is reused. -/
lemma not_reusesExpired {kernel : HostKernel} {request : CallableAdapterTaskRequest}
    {authority : ExecutionAuthority} {now later : Timestamp}
    (hvalid : ∀ used ∈ kernel.authorities, used.authorityId = authority.authorityId →
      later ≤ used.expiresAt) :
    ¬kernel.ReusesExpired host (.execute request authority now later) := by
  rintro ⟨-, -, control, hcontrol, hsame, hexpired⟩
  exact not_le.mpr hexpired (hvalid _ (List.mem_map_of_mem hcontrol) hsame)

/-! ### The table of used authorities -/

/-- What the kernel knows of the authorities it accepted: one that is not in the
table has expired. -/
structure SingleUse (kernel : HostKernel) (clock : Timestamp) : Prop where
  consumed : ∀ authority ∈ kernel.authorities,
    kernel.consumedAuthorities.get? authority.authorityId = some authority.expiresAt
      ∨ authority.expiresAt < clock
  distinct : (kernel.authorities.map fun authority => authority.authorityId).Nodup
  begun : kernel.Begun

namespace SingleUse

variable {kernel next : HostKernel} {clock later : Timestamp} (h : kernel.SingleUse clock)

include h

lemma wait (hle : clock ≤ later) : kernel.SingleUse later :=
  ⟨fun authority hmem => (h.consumed authority hmem).imp_right (lt_of_lt_of_le · hle),
    h.distinct, h.begun⟩

/-- The same authorities, and the same table. -/
lemma of_eq (hauthorities : next.authorities = kernel.authorities)
    (hconsumed : next.consumedAuthorities = kernel.consumedAuthorities) (hbegun : next.Begun) :
    next.SingleUse clock := by
  refine ⟨?_, ?_, hbegun⟩
  · rw [hauthorities, hconsumed]
    exact h.consumed
  · rw [hauthorities]
    exact h.distinct

lemma of_moves (hmoves : Moves kernel next) : next.SingleUse clock := by
  obtain ⟨hauthorities, hconsumed⟩ := authorities_moves hmoves
  exact h.of_eq hauthorities hconsumed (h.begun.of_moves hmoves)

lemma goOn {index : Nat} {control : ExecutionControl}
    (hknown : kernel.controls[index]? = some control) (answer : RunAnswer) :
    (kernel.goOn host index control answer).SingleUse clock := by
  have hnext : (kernel.modifyControl index
      fun _ => (control.resume host kernel.registry answer).1).authorities
      = kernel.authorities := by
    refine authorities_modifyControl _ fun other hother => ?_
    obtain rfl := Option.some.inj (hother.symm.trans hknown)
    exact authority_resume kernel.registry answer other
  have hbegun : (kernel.goOn host index control answer).Begun := h.begun.goOn hknown answer
  refine h.of_eq ?_ ?_ hbegun
  · rw [HostKernel.goOn]
    split <;> exact hnext
  · rw [HostKernel.goOn]
    split <;> rfl

lemma endRun {index : Nat} {control : ExecutionControl}
    (hknown : kernel.controls[index]? = some control) (hsettled : control.stage = .settling)
    (taskId : String) : (kernel.endRun index taskId).SingleUse clock :=
  h.of_eq (authorities_modifyControl kernel fun _ _ => rfl) rfl
    (h.begun.endRun hknown hsettled taskId)

lemma of_drains (hdrains : Drains host kernel next) : next.SingleUse clock := by
  obtain ⟨hauthorities, hconsumed⟩ := authorities_drains hdrains
  exact h.of_eq hauthorities hconsumed (h.begun.of_drains hdrains)

lemma pruneAuthorities (hle : clock ≤ later) :
    (kernel.pruneAuthorities later).SingleUse later where
  consumed authority hmem := by
    rcases h.consumed authority hmem with hconsumed | hexpired
    · by_cases hlater : later ≤ authority.expiresAt
      · left
        show (kernel.consumedAuthorities.filter _).get? _ = _
        rw [OrderedMap.get?_filter, hconsumed, Option.filter_some, if_pos (by simpa using hlater)]
      · exact .inr (not_le.mp hlater)
    · exact .inr (lt_of_lt_of_le hexpired hle)
  distinct := h.distinct
  begun := ⟨h.begun.waits, h.begun.begun, h.begun.once⟩

/-- An authority that no accepted execution has is used. -/
lemma accept {connector : HostConnector} {request : CallableAdapterTaskRequest}
    {authority : ExecutionAuthority} (starts : Bool)
    (hfresh : ∀ used ∈ kernel.authorities, used.authorityId ≠ authority.authorityId) :
    (kernel.accept connector request authority starts).SingleUse clock := by
  have hauthorities : (kernel.accept connector request authority starts).authorities
      = kernel.authorities ++ [authority] := authorities_accept ..
  have hconsumed : (kernel.accept connector request authority starts).consumedAuthorities
      = kernel.consumedAuthorities.set authority.authorityId authority.expiresAt := by
    cases starts <;> rfl
  refine ⟨fun used hmem => ?_, ?_, h.begun.accept starts⟩
  · rw [hauthorities, List.mem_append, List.mem_singleton] at hmem
    rw [hconsumed, OrderedMap.get?_set]
    rcases hmem with hmem | rfl
    · rw [if_neg (hfresh used hmem)]
      exact h.consumed used hmem
    · exact .inl (if_pos rfl)
  · rw [hauthorities, List.map_append, List.map_singleton]
    refine h.distinct.append (List.nodup_singleton _) (List.disjoint_singleton.mpr fun hmem => ?_)
    obtain ⟨used, hused, heq⟩ := List.mem_map.mp hmem
    exact hfresh used hused heq

end SingleUse

/-! ### One execution for each authority -/

/-- An event that reuses no expired authority. -/
lemma singleUse_step {kernel : HostKernel} {clock later : Timestamp}
    (h : kernel.SingleUse clock) {event : KernelEvent}
    (hallowed : ¬kernel.ReusesExpired host event) (hreads : event.Reads clock later) :
    (kernel.step host event).SingleUse later := by
  have hle : clock ≤ later := by
    cases event with
    | execute => exact hreads.1.trans (hreads.2.1.trans hreads.2.2.ge)
    | _ => exact hreads
  have hcase : StepCase host kernel event (kernel.step host event) :=
    stepCase host kernel event
  generalize kernel.step host event = next at hcase ⊢
  cases hcase with
  | moves hmoves => exact (h.of_moves hmoves).wait hle
  | refused hmoves =>
    obtain ⟨-, -, rfl⟩ := hreads
    exact (h.of_moves hmoves).pruneAuthorities hle
  | goesOn hknown => exact (h.goOn hknown _).wait hle
  | ends hknown hsettled hmoves =>
    have hended := (h.endRun hknown hsettled _).of_moves hmoves
    exact (hended.of_drains (drainQueues_drains _)).wait hle
  | @accepts request authority now _ connector haccepts =>
    obtain ⟨-, -, rfl⟩ := hreads
    have hforget : Moves kernel _ := forget_moves haccepts.fresh
    refine ((h.of_moves hforget).pruneAuthorities hle).accept _ ?_
    intro used hmem hsame
    obtain ⟨control, hcontrol, rfl⟩ := List.mem_map.mp hmem
    -- the authority was used before, so that it is in the table or has expired
    have hexpires : later ≤ control.authority.expiresAt := by
      by_contra hlt
      exact hallowed ⟨haccepts.fresh, ⟨connector, haccepts.registered, haccepts.authorized⟩,
        control, hcontrol, hsame, not_le.mp hlt⟩
    have hunused : (kernel.consumedAuthorities.filter fun _ expiresAt => later ≤ expiresAt).get?
        authority.authorityId = none := haccepts.unused
    rcases h.consumed control.authority hmem with hconsumed | hexpired
    · rw [OrderedMap.get?_filter, ← hsame, hconsumed, Option.filter_some,
        if_pos (by simpa using hexpires)] at hunused
      cases hunused
    · exact absurd (hexpired.trans_le hle) (not_lt.mpr hexpires)
  | consults | registers =>
    exact SingleUse.wait ⟨h.consumed, h.distinct,
      ⟨h.begun.waits, h.begun.begun, h.begun.once⟩⟩ hle

lemma SingleUse.startedAuthorities_nodup {kernel : HostKernel} {clock : Timestamp}
    (h : kernel.SingleUse clock) : kernel.startedAuthorities.Nodup := by
  refine h.begun.once.filterMap fun i j authorityId hi hj => ?_
  have hid : ∀ k : Nat, authorityId ∈ (kernel.controls[k]?.map fun control : ExecutionControl =>
      control.authority.authorityId) →
      (kernel.authorities.map fun authority => authority.authorityId)[k]? = some authorityId := by
    intro k hk
    rw [authorities, List.map_map, List.getElem?_map]
    exact hk
  have hlt := (List.getElem?_eq_some_iff.mp (hid i hi)).1
  exact (List.getElem?_inj hlt h.distinct).mp ((hid i hi).trans (hid j hj).symm)

/-- **An authority is used once**: under a clock that never goes back, and
without a call of `execute` that reuses an expired authority, no two executions
that were started have the same authority. -/
theorem authority_single_use {registry : Option ExecutionHandleStoreState} {start : Timestamp}
    {s : HostKernel × Timestamp}
    (hrun : ClockedRuns host (fun kernel event => ¬kernel.ReusesExpired host event)
      (newHostKernel registry, start) s) :
    s.1.startedAuthorities.Nodup := by
  have hstart : (newHostKernel registry).SingleUse start :=
    ⟨by simp [authorities, newHostKernel], by simp [authorities, newHostKernel],
      ⟨by simp [newHostKernel], by simp [newHostKernel], by simp [newHostKernel]⟩⟩
  have hsingle : s.1.SingleUse s.2 := by
    refine hrun.invariant (I := fun s => s.1.SingleUse s.2) hstart ?_
    rintro s t - h ⟨event, hallowed, hreads, hstep⟩
    rw [hstep]
    exact singleUse_step h hallowed hreads
  exact hsingle.startedAuthorities_nodup

/-- An execution fails, and at the last instant of its authority `execute` is
called with it again: the call is refused. -/
theorem authority_single_use_refused :
    (((((newHostKernel none).step plainHost (.register plainConnector)).step plainHost
        (executePlain "grant-1" "task-1" 2)).step plainHost
        (.resume 0 (.refused "ADAPTER_INPUT_INVALID"))).step plainHost
        (.execute (plainRequest "task-1") (plainAuthority "grant-1" "task-1" 2) 0 120000)
      ).startedAuthorities.Nodup := by
  have hstart : ClockedRuns plainHost (fun kernel event => ¬kernel.ReusesExpired plainHost event)
      (newHostKernel none, 0) (newHostKernel none, 0) := Reached.refl
  have hregistered := hstart.event (.register plainConnector) 0 id (le_refl _)
  have hexecuted := hregistered.event (executePlain "grant-1" "task-1" 2) 0 (not_reusesExpired (by decide +kernel))
    ⟨le_refl _, le_refl _, rfl⟩
  have hfailed := hexecuted.event (.resume 0 (.refused "ADAPTER_INPUT_INVALID")) 0 id (le_refl _)
  have hrefused := hfailed.event (.execute (plainRequest "task-1")
    (plainAuthority "grant-1" "task-1" 2) 0 120000) 120000
    (not_reusesExpired (by decide +kernel)) ⟨le_refl _, by decide, rfl⟩
  exact authority_single_use hrefused

/-- An authority is checked at the instant at which it expires, and forgotten one
millisecond later. -/
theorem authority_used_twice :
    ∃ s, ClockedRuns plainHost (fun _ _ => True) (newHostKernel none, 0) s
      ∧ ¬s.1.startedAuthorities.Nodup := by
  have hstart : ClockedRuns plainHost (fun _ _ => True) (newHostKernel none, 0)
      (newHostKernel none, 0) := Reached.refl
  have hregistered := hstart.event (.register plainConnector) 0 trivial (le_refl _)
  have hexecuted := hregistered.event (executePlain "grant-1" "task-1" 2) 0 trivial ⟨le_refl _, le_refl _, rfl⟩
  -- the first execution fails, which is one of the ways in which it can end
  have hfailed := hexecuted.event (.resume 0 (.refused "ADAPTER_INPUT_INVALID")) 0 trivial
    (le_refl _)
  have hclosed := hfailed.event (.resume 0 (.checkpoint none 0 true)) 0 trivial (le_refl _)
  have hfinished := hclosed.event (.resume 0 (.fulfilled 0 true)) 0 trivial (le_refl _)
  have hagain := hfinished.event (.execute (plainRequest "task-1")
    (plainAuthority "grant-1" "task-1" 2) 120000 120001) 120001 trivial ⟨by decide, by decide, rfl⟩
  exact ⟨_, hagain, by decide +kernel⟩

end HostKernel

end TetiBot

import TetiBot.Callable.Moves

/-
The tables of the host kernel (`active`, `queued` and `childQueues` of
`runtime/callable/kernel.ts`).

* `ScheduleEntry`: what the tables depend on of an execution;
* `Tables`: which execution the two maps name for a task;
* `Lines`: the queue of a child names the executions that wait for it, in the
  order of their acceptance;
* `StartOrder`: executions of one child began in this order;
* `Limits`: the limits of connectors are positive, and those that wait for one
  child agree on its limit.
-/

namespace TetiBot

open Library

inductive RunPhase
  | waits | runs | ended
  deriving DecidableEq

/-- What the tables of the kernel depend on of an execution. -/
structure ScheduleEntry where
  connector : HostConnector
  request : CallableAdapterTaskRequest
  phase : RunPhase

namespace ExecutionControl

def phase (control : ExecutionControl) : RunPhase :=
  match control.stage with
  | .queued => .waits
  | .finished => .ended
  | _ => .runs

def entry (control : ExecutionControl) : ScheduleEntry :=
  ⟨control.connector, control.request, control.phase⟩

lemma phase_eq_waits {control : ExecutionControl} :
    control.phase = .waits ↔ control.stage = .queued := by
  rw [phase]
  cases control.stage <;> simp

lemma phase_eq_runs {control : ExecutionControl} :
    control.phase = .runs ↔ control.running = true := by
  rw [phase, running]
  cases control.stage <;> simp

end ExecutionControl

/-- The executions by their index. -/
abbrev Schedule : Type := Nat → Option ScheduleEntry

namespace Schedule

/-- An execution that waits. -/
def Waits (schedule : Schedule) (index : Nat) (entry : ScheduleEntry) : Prop :=
  schedule index = some entry ∧ entry.phase = .waits

/-- The child agent of an execution. -/
def childOf (schedule : Schedule) (index : Nat) : Option String :=
  (schedule index).map fun entry => entry.request.agentId

variable {schedule : Schedule} {index : Nat} {entry : ScheduleEntry}

lemma waits_update {j : Nat} {other : ScheduleEntry} :
    Waits (Function.update schedule index (some entry)) j other
      ↔ if j = index then other = entry ∧ entry.phase = .waits else schedule.Waits j other := by
  rw [Waits, Function.update_apply]
  split_ifs
  · constructor
    · rintro ⟨hsome, hphase⟩
      obtain rfl := Option.some.inj hsome
      exact ⟨rfl, hphase⟩
    · rintro ⟨rfl, hphase⟩
      exact ⟨rfl, hphase⟩
  · exact Iff.rfl

lemma childOf_update {before : ScheduleEntry} (hbefore : schedule index = some before)
    (hrequest : entry.request = before.request) :
    childOf (Function.update schedule index (some entry)) = schedule.childOf := by
  funext j
  rw [childOf, Function.update_apply]
  split_ifs with h
  · rw [h, childOf, hbefore, Option.map_some, Option.map_some, hrequest]
  · rfl

end Schedule

/-! ### Which execution the maps name -/

/-- The maps name the executions that run, and those that wait. -/
structure Tables (schedule : Schedule) (active queued : OrderedMap String Nat) : Prop where
  runs : ∀ taskId index, active.get? taskId = some index
    ↔ ∃ entry, schedule index = some entry ∧ entry.phase = .runs ∧ entry.request.taskId = taskId
  waits : ∀ taskId index, queued.get? taskId = some index
    ↔ ∃ entry, schedule.Waits index entry ∧ entry.request.taskId = taskId
  apart : ∀ taskId index, queued.get? taskId = some index → active.get? taskId = none

namespace Tables

variable {schedule : Schedule} {active queued active' queued' : OrderedMap String Nat}
  {index j : Nat} {entry other : ScheduleEntry}

/-- Two executions of one task that have not ended are the same. -/
lemma unique (h : Tables schedule active queued) (hentry : schedule index = some entry)
    (hother : schedule j = some other) (hphase : entry.phase ≠ .ended)
    (hotherPhase : other.phase ≠ .ended) (htask : entry.request.taskId = other.request.taskId) :
    index = j := by
  have hrunning {k : Nat} {found : ScheduleEntry} (hfound : schedule k = some found)
      (hruns : found.phase = .runs) : active.get? found.request.taskId = some k :=
    (h.runs _ k).mpr ⟨found, hfound, hruns, rfl⟩
  have hwaiting {k : Nat} {found : ScheduleEntry} (hfound : schedule k = some found)
      (hwaits : found.phase = .waits) : queued.get? found.request.taskId = some k :=
    (h.waits _ k).mpr ⟨found, ⟨hfound, hwaits⟩, rfl⟩
  cases hcase : entry.phase with
  | waits =>
    have hindex := hwaiting hentry hcase
    cases hotherCase : other.phase with
    | waits =>
      have hj := hwaiting hother hotherCase
      rw [htask, hj] at hindex
      exact (Option.some.inj hindex).symm
    | runs =>
      have hnone := h.apart _ _ hindex
      rw [htask, hrunning hother hotherCase] at hnone
      cases hnone
    | ended => exact absurd hotherCase hotherPhase
  | runs =>
    have hindex := hrunning hentry hcase
    cases hotherCase : other.phase with
    | waits =>
      have hnone := h.apart _ _ (hwaiting hother hotherCase)
      rw [← htask, hindex] at hnone
      cases hnone
    | runs =>
      have hj := hrunning hother hotherCase
      rw [htask, hj] at hindex
      exact (Option.some.inj hindex).symm
    | ended => exact absurd hotherCase hotherPhase
  | ended => exact absurd hcase hphase

variable
    (hactive : ∀ taskId, active'.get? taskId = if taskId = entry.request.taskId then
      (if entry.phase = .runs then some index else none) else active.get? taskId)
    (hqueued : ∀ taskId, queued'.get? taskId = if taskId = entry.request.taskId then
      (if entry.phase = .waits then some index else none) else queued.get? taskId)

include hactive hqueued

/-- One execution enters a phase, and the maps follow. -/
lemma update (h : Tables schedule active queued)
    (hother : ∀ j other, j ≠ index → schedule j = some other → other.phase ≠ .ended →
      other.request.taskId ≠ entry.request.taskId)
    (hsame : ∀ before, schedule index = some before → before.request = entry.request) :
    Tables (Function.update schedule index (some entry)) active' queued' where
  runs taskId j := by
    rw [hactive, Function.update_apply]
    by_cases hj : j = index
    · subst hj
      rw [if_pos rfl]
      constructor
      · intro hget
        split_ifs at hget with htask hruns
        · exact ⟨entry, rfl, hruns, htask.symm⟩
        · obtain ⟨before, hbefore, -, hbeforeTask⟩ := (h.runs taskId j).mp hget
          rw [hsame before hbefore] at hbeforeTask
          exact absurd hbeforeTask.symm htask
      · rintro ⟨_, hentry, hruns, htask⟩
        obtain rfl := Option.some.inj hentry
        rw [if_pos htask.symm, if_pos hruns]
    · rw [if_neg hj]
      split_ifs with htask hruns
      · refine iff_of_false (fun hget => hj (Option.some.inj hget).symm) ?_
        rintro ⟨other, hfound, hrunning, hotherTask⟩
        exact hother j other hj hfound (by simp [hrunning]) (hotherTask.trans htask)
      · refine iff_of_false (by simp) ?_
        rintro ⟨other, hfound, hrunning, hotherTask⟩
        exact hother j other hj hfound (by simp [hrunning]) (hotherTask.trans htask)
      · exact h.runs taskId j
  waits taskId j := by
    simp only [hqueued, Schedule.waits_update]
    by_cases hj : j = index
    · subst hj
      simp only [if_true]
      constructor
      · intro hget
        split_ifs at hget with htask hwaits
        · exact ⟨entry, ⟨rfl, hwaits⟩, htask.symm⟩
        · obtain ⟨before, hbefore, hbeforeTask⟩ := (h.waits taskId j).mp hget
          rw [hsame before hbefore.1] at hbeforeTask
          exact absurd hbeforeTask.symm htask
      · rintro ⟨_, ⟨rfl, hwaits⟩, htask⟩
        rw [if_pos htask.symm, if_pos hwaits]
    · simp only [if_neg hj]
      split_ifs with htask hwaits
      · refine iff_of_false (fun hget => hj (Option.some.inj hget).symm) ?_
        rintro ⟨other, hfound, hotherTask⟩
        exact hother j other hj hfound.1 (by simp [hfound.2]) (hotherTask.trans htask)
      · refine iff_of_false (by simp) ?_
        rintro ⟨other, hfound, hotherTask⟩
        exact hother j other hj hfound.1 (by simp [hfound.2]) (hotherTask.trans htask)
      · exact h.waits taskId j
  apart taskId j := by
    rw [hqueued, hactive]
    split_ifs with htask hwaits hruns
    · rw [hwaits] at hruns
      cases hruns
    · exact fun _ => rfl
    · intro hget
      cases hget
    · intro hget
      cases hget
    · exact h.apart taskId j

/-- An execution that has not ended enters a phase. -/
lemma enter (h : Tables schedule active queued) {before : ScheduleEntry}
    (hbefore : schedule index = some before) (hphase : before.phase ≠ .ended)
    (hrequest : entry.request = before.request) :
    Tables (Function.update schedule index (some entry)) active' queued' := by
  refine h.update hactive hqueued (fun j other hj hother hotherPhase htask => hj ?_)
    fun found hfound => ?_
  · exact (h.unique hother hbefore hotherPhase hphase (htask.trans (by rw [hrequest])))
  · obtain rfl := Option.some.inj (hfound.symm.trans hbefore)
    exact hrequest.symm

/-- A task that the maps do not name is new. -/
lemma submit (h : Tables schedule active queued) (hnew : schedule index = none)
    (hidle : active.get? entry.request.taskId = none)
    (hfresh : queued.get? entry.request.taskId = none) :
    Tables (Function.update schedule index (some entry)) active' queued' := by
  refine h.update hactive hqueued (fun j other hj hother hphase htask => ?_)
    fun before hbefore => ?_
  · cases hcase : other.phase with
    | waits =>
      have hget := (h.waits _ j).mpr ⟨other, ⟨hother, hcase⟩, htask⟩
      rw [hfresh] at hget
      cases hget
    | runs =>
      have hget := (h.runs _ j).mpr ⟨other, hother, hcase, htask⟩
      rw [hidle] at hget
      cases hget
    | ended => exact hphase hcase
  · rw [hnew] at hbefore
    cases hbefore

end Tables

/-! ### The queues -/

variable (childQueues : OrderedMap String (List String))

/-- The queue of a child. -/
def lineOf (childAgentId : String) : List String :=
  (childQueues.get? childAgentId).getD []

/-- The queue of a child names the executions that wait for it, in their order. -/
structure Lines (schedule : Schedule) (childQueues : OrderedMap String (List String)) : Prop where
  mem : ∀ childAgentId taskId, taskId ∈ lineOf childQueues childAgentId
    ↔ ∃ index entry, schedule.Waits index entry ∧ entry.request.taskId = taskId
        ∧ entry.request.agentId = childAgentId
  nonempty : ∀ childAgentId, childQueues.get? childAgentId ≠ some []
  nodup : ∀ childAgentId, (lineOf childQueues childAgentId).Nodup
  inOrder : ∀ childAgentId, (lineOf childQueues childAgentId).Pairwise fun taskId later =>
    ∀ i j first second, schedule.Waits i first → schedule.Waits j second →
      first.request.taskId = taskId → second.request.taskId = later → i < j

lemma lineOf_set (childAgentId other : String) (queue : List String) :
    lineOf (childQueues.set childAgentId queue) other
      = if other = childAgentId then queue else lineOf childQueues other := by
  rw [lineOf, OrderedMap.get?_set]
  split_ifs <;> rfl

lemma lineOf_dequeue (taskId childAgentId other : String)
    (childQueues : OrderedMap String (List String)) :
    lineOf (HostKernel.dequeue taskId childAgentId childQueues) other
      = if other = childAgentId then (lineOf childQueues childAgentId).erase taskId
        else lineOf childQueues other := by
  rw [HostKernel.dequeue]
  cases hfound : childQueues.get? childAgentId with
  | none =>
    split_ifs with h
    · rw [h, lineOf, hfound]
      rfl
    · rfl
  | some queue =>
    have hline : lineOf childQueues childAgentId = queue := by rw [lineOf, hfound]; rfl
    rw [hline]
    dsimp only
    by_cases hlast : queue.erase taskId = []
    · rw [if_pos hlast, lineOf, OrderedMap.get?_erase]
      split_ifs
      · exact hlast.symm
      · rfl
    · rw [if_neg hlast, lineOf_set]

lemma dequeue_nonempty {taskId childAgentId : String}
    {childQueues : OrderedMap String (List String)}
    (h : ∀ other, childQueues.get? other ≠ some []) (other : String) :
    (HostKernel.dequeue taskId childAgentId childQueues).get? other ≠ some [] := by
  rw [HostKernel.dequeue]
  cases hfound : childQueues.get? childAgentId with
  | none => exact h other
  | some queue =>
    dsimp only
    by_cases hlast : queue.erase taskId = []
    · rw [if_pos hlast, OrderedMap.get?_erase]
      split_ifs
      · simp
      · exact h other
    · rw [if_neg hlast, OrderedMap.get?_set]
      split_ifs
      · exact fun heq => hlast (Option.some.inj heq)
      · exact h other

namespace Lines

variable {schedule : Schedule} {childQueues : OrderedMap String (List String)} {index : Nat}
  {entry before : ScheduleEntry}

section

variable (h : Lines schedule childQueues)
include h

/-- The queues depend on what waits only. -/
lemma congr {other : Schedule} (hwaits : ∀ j entry, other.Waits j entry ↔ schedule.Waits j entry) :
    Lines other childQueues := by
  refine ⟨fun childAgentId taskId => ?_, h.nonempty, h.nodup, fun childAgentId => ?_⟩
  · simp only [hwaits]
    exact h.mem childAgentId taskId
  · simp only [hwaits]
    exact h.inOrder childAgentId

/-- An execution stops to wait, and leaves its queue. -/
lemma remove (entry : ScheduleEntry) (hwaits : schedule.Waits index before)
    (hphase : entry.phase ≠ .waits)
    (hunique : ∀ j other, schedule.Waits j other →
      other.request.taskId = before.request.taskId → j = index) :
    Lines (Function.update schedule index (some entry))
      (HostKernel.dequeue before.request.taskId before.request.agentId childQueues) := by
  have hiff {j : Nat} {other : ScheduleEntry} :
      Schedule.Waits (Function.update schedule index (some entry)) j other
        ↔ j ≠ index ∧ schedule.Waits j other := by
    rw [Schedule.waits_update]
    split_ifs with hj
    · simp [hj, hphase]
    · simp [hj]
  refine ⟨fun childAgentId taskId => ?_, dequeue_nonempty h.nonempty, fun childAgentId => ?_,
    fun childAgentId => ?_⟩
  · rw [lineOf_dequeue]
    split_ifs with hchild
    · rw [(h.nodup _).mem_erase_iff, h.mem, hchild]
      constructor
      · rintro ⟨htask, j, other, hother, rfl, hagent⟩
        refine ⟨j, other, hiff.mpr ⟨?_, hother⟩, rfl, hagent⟩
        rintro rfl
        obtain rfl := Option.some.inj (hother.1.symm.trans hwaits.1)
        exact htask rfl
      · rintro ⟨j, other, hother, rfl, hagent⟩
        obtain ⟨hj, hother⟩ := hiff.mp hother
        exact ⟨fun htask => hj (hunique j other hother htask), j, other, hother, rfl, hagent⟩
    · rw [h.mem]
      constructor
      · rintro ⟨j, other, hother, htask, hagent⟩
        refine ⟨j, other, hiff.mpr ⟨?_, hother⟩, htask, hagent⟩
        rintro rfl
        obtain rfl := Option.some.inj (hother.1.symm.trans hwaits.1)
        exact hchild hagent.symm
      · rintro ⟨j, other, hother, htask, hagent⟩
        exact ⟨j, other, (hiff.mp hother).2, htask, hagent⟩
  · rw [lineOf_dequeue]
    split_ifs
    · exact (h.nodup _).erase _
    · exact h.nodup _
  · have hbefore : (lineOf (HostKernel.dequeue before.request.taskId before.request.agentId
        childQueues) childAgentId).Sublist (lineOf childQueues childAgentId) := by
      rw [lineOf_dequeue]
      split_ifs with hchild
      · rw [hchild]
        exact List.erase_sublist
      · exact List.Sublist.refl _
    refine ((h.inOrder childAgentId).sublist hbefore).imp fun hlt i j first second hfirst hsecond => ?_
    exact hlt i j first second (hiff.mp hfirst).2 (hiff.mp hsecond).2

/-- A new execution waits at the end of its queue. -/
lemma append (entry : ScheduleEntry) (hphase : entry.phase = .waits)
    (hlast : ∀ j other, schedule.Waits j other → j < index)
    (hfresh : ∀ j other, schedule.Waits j other →
      other.request.taskId ≠ entry.request.taskId) :
    Lines (Function.update schedule index (some entry))
      (childQueues.set entry.request.agentId
        (lineOf childQueues entry.request.agentId ++ [entry.request.taskId])) := by
  have hiff {j : Nat} {other : ScheduleEntry} :
      Schedule.Waits (Function.update schedule index (some entry)) j other
        ↔ (j = index ∧ other = entry) ∨ schedule.Waits j other := by
    rw [Schedule.waits_update]
    split_ifs with hj
    · subst hj
      constructor
      · exact fun hother => .inl ⟨rfl, hother.1⟩
      · rintro (⟨-, rfl⟩ | hother)
        · exact ⟨rfl, hphase⟩
        · exact absurd (hlast j other hother) (lt_irrefl j)
    · simp [hj]
  have hnew (childAgentId : String) :
      entry.request.taskId ∉ lineOf childQueues childAgentId := by
    rw [h.mem]
    rintro ⟨j, other, hother, htask, -⟩
    exact hfresh j other hother htask
  refine ⟨fun childAgentId taskId => ?_, fun childAgentId => ?_, fun childAgentId => ?_,
    fun childAgentId => ?_⟩
  · simp only [hiff, lineOf_set]
    split_ifs with hchild
    · rw [List.mem_append, List.mem_singleton, h.mem, hchild]
      constructor
      · rintro (⟨j, other, hother, htask, hagent⟩ | rfl)
        · exact ⟨j, other, .inr hother, htask, hagent⟩
        · exact ⟨index, entry, .inl ⟨rfl, rfl⟩, rfl, rfl⟩
      · rintro ⟨j, other, ⟨rfl, rfl⟩ | hother, htask, hagent⟩
        · exact .inr htask.symm
        · exact .inl ⟨j, other, hother, htask, hagent⟩
    · rw [h.mem]
      constructor
      · rintro ⟨j, other, hother, htask, hagent⟩
        exact ⟨j, other, .inr hother, htask, hagent⟩
      · rintro ⟨j, other, ⟨rfl, rfl⟩ | hother, htask, hagent⟩
        · exact absurd hagent.symm hchild
        · exact ⟨j, other, hother, htask, hagent⟩
  · rw [OrderedMap.get?_set]
    split_ifs
    · simp
    · exact h.nonempty childAgentId
  · rw [lineOf_set]
    split_ifs
    · exact (h.nodup _).append (List.nodup_singleton _)
        (List.disjoint_singleton.mpr (hnew _))
    · exact h.nodup childAgentId
  · have hkept (childAgentId : String) : (lineOf childQueues childAgentId).Pairwise
        fun taskId later => ∀ i j first second,
          Schedule.Waits (Function.update schedule index (some entry)) i first →
          Schedule.Waits (Function.update schedule index (some entry)) j second →
          first.request.taskId = taskId → second.request.taskId = later → i < j := by
      refine (h.inOrder childAgentId).imp_of_mem fun htask hlater hlt i j first second hfirst
        hsecond hfirstTask hsecondTask => ?_
      rcases hiff.mp hfirst with ⟨-, rfl⟩ | hfirst
      · exact absurd (hfirstTask ▸ htask) (hnew childAgentId)
      · rcases hiff.mp hsecond with ⟨-, rfl⟩ | hsecond
        · exact absurd (hsecondTask ▸ hlater) (hnew childAgentId)
        · exact hlt i j first second hfirst hsecond hfirstTask hsecondTask
    rw [lineOf_set]
    split_ifs
    · refine List.pairwise_append.mpr ⟨hkept _, List.pairwise_singleton _ _, ?_⟩
      intro taskId htask later hlater i j first second hfirst hsecond hfirstTask hsecondTask
      obtain rfl := List.mem_singleton.mp hlater
      rcases hiff.mp hfirst with ⟨-, rfl⟩ | hfirst
      · exact absurd (hfirstTask ▸ htask) (hnew _)
      · rcases hiff.mp hsecond with ⟨hj, -⟩ | hsecond
        · exact hj ▸ hlast i first hfirst
        · exact absurd hsecondTask (hfresh j second hsecond)
    · exact hkept childAgentId

/-- The head of a queue is the first that waits for the child. -/
lemma head_first {childAgentId taskId : String}
    {rest : List String} (hfound : childQueues.get? childAgentId = some (taskId :: rest))
    (hwaits : schedule.Waits index entry) (htask : entry.request.taskId = taskId) {j : Nat}
    {other : ScheduleEntry} (hother : schedule.Waits j other) (hj : j ≠ index)
    (hunique : ∀ k found, schedule.Waits k found → found.request.taskId = taskId → k = index)
    (hagent : other.request.agentId = childAgentId) : index < j := by
  have hline : lineOf childQueues childAgentId = taskId :: rest := by rw [lineOf, hfound]; rfl
  have hmem : other.request.taskId ∈ lineOf childQueues childAgentId :=
    (h.mem _ _).mpr ⟨j, other, hother, rfl, hagent⟩
  have horder := h.inOrder childAgentId
  rw [hline] at hmem horder
  rcases List.mem_cons.mp hmem with hhead | htail
  · exact absurd (hunique j other hother hhead) hj
  · exact (List.pairwise_cons.mp horder).1 _ htail index j entry other hwaits hother htask rfl

end

end Lines

/-! ### The order in which executions began -/

/-- Executions of one child began in the order of their acceptance, and before
those that wait. -/
structure StartOrder (schedule : Schedule) (started : List Nat) : Prop where
  known : ∀ index ∈ started, schedule index ≠ none
  inOrder : started.Pairwise fun i j => schedule.childOf i = schedule.childOf j → i < j
  ahead : ∀ i ∈ started, ∀ j entry, schedule.Waits j entry →
    schedule.childOf i = some entry.request.agentId → i < j

namespace StartOrder

variable {schedule : Schedule} {started : List Nat} {index : Nat} {entry before : ScheduleEntry}

section

variable (h : StartOrder schedule started)
include h

/-- An execution enters a phase in which it does not wait. -/
lemma enter (hbefore : schedule index = some before)
    (hrequest : entry.request = before.request) (hphase : entry.phase ≠ .waits) :
    StartOrder (Function.update schedule index (some entry)) started := by
  have hchild := Schedule.childOf_update hbefore hrequest
  refine ⟨fun i hi => ?_, ?_, fun i hi j other hother => ?_⟩
  · rw [Function.update_apply]
    split_ifs
    · simp
    · exact h.known i hi
  · rw [hchild]
    exact h.inOrder
  · rw [hchild]
    rw [Schedule.waits_update] at hother
    split_ifs at hother
    · exact absurd hother.2 hphase
    · exact h.ahead i hi j other hother

/-- An execution begins that is the first to wait for its child. -/
lemma begin (hwaits : schedule.Waits index before)
    (hrequest : entry.request = before.request) (hphase : entry.phase ≠ .waits)
    (hfirst : ∀ j other, schedule.Waits j other → j ≠ index →
      other.request.agentId = before.request.agentId → index < j) :
    StartOrder (Function.update schedule index (some entry)) (started ++ [index]) := by
  have hentered := h.enter hwaits.1 hrequest hphase
  have hchild := Schedule.childOf_update hwaits.1 hrequest
  have hindex : schedule.childOf index = some before.request.agentId := by
    rw [Schedule.childOf, hwaits.1]
    rfl
  refine ⟨fun i hi => ?_, ?_, fun i hi => ?_⟩
  · rcases List.mem_append.mp hi with hi | hi
    · exact hentered.known i hi
    · rw [List.mem_singleton.mp hi, Function.update_self]
      simp
  · refine List.pairwise_append.mpr ⟨hentered.inOrder, List.pairwise_singleton _ _, ?_⟩
    intro i hi j hj
    obtain rfl := List.mem_singleton.mp hj
    rw [hchild, hindex]
    exact h.ahead i hi j before hwaits
  · rcases List.mem_append.mp hi with hi | hi
    · exact hentered.ahead i hi
    · obtain rfl := List.mem_singleton.mp hi
      intro j other hother
      rw [Schedule.waits_update] at hother
      rw [hchild, hindex]
      split_ifs at hother with hj
      · exact absurd hother.2 hphase
      · exact fun hagent => hfirst j other hother hj (Option.some.inj hagent).symm

lemma submit (entry : ScheduleEntry) (hlast : ∀ i, schedule i ≠ none → i < index) :
    StartOrder (Function.update schedule index (some entry)) started := by
  have hchild : ∀ i ∈ started, Schedule.childOf (Function.update schedule index (some entry)) i
      = schedule.childOf i := by
    intro i hi
    rw [Schedule.childOf, Function.update_of_ne (hlast i (h.known i hi)).ne, Schedule.childOf]
  refine ⟨fun i hi => ?_, ?_, fun i hi j other hother => ?_⟩
  · rw [Function.update_of_ne (hlast i (h.known i hi)).ne]
    exact h.known i hi
  · refine h.inOrder.imp_of_mem fun hi hj hlt hsame => hlt ?_
    rwa [hchild _ hi, hchild _ hj] at hsame
  · rw [hchild i hi]
    rw [Schedule.waits_update] at hother
    split_ifs at hother with hj
    · exact fun _ => hj ▸ hlast i (h.known i hi)
    · exact h.ahead i hi j other hother

/-- A new execution begins, for whose child none waits. -/
lemma submitStart (hlast : ∀ i, schedule i ≠ none → i < index) (hphase : entry.phase ≠ .waits)
    (hidle : ∀ j other, schedule.Waits j other →
      other.request.agentId ≠ entry.request.agentId) :
    StartOrder (Function.update schedule index (some entry)) (started ++ [index]) := by
  have hsubmitted := h.submit entry hlast
  refine ⟨fun i hi => ?_, ?_, fun i hi => ?_⟩
  · rcases List.mem_append.mp hi with hi | hi
    · exact hsubmitted.known i hi
    · rw [List.mem_singleton.mp hi, Function.update_self]
      simp
  · refine List.pairwise_append.mpr ⟨hsubmitted.inOrder, List.pairwise_singleton _ _, ?_⟩
    intro i hi j hj _
    obtain rfl := List.mem_singleton.mp hj
    exact hlast i (h.known i hi)
  · rcases List.mem_append.mp hi with hi | hi
    · exact hsubmitted.ahead i hi
    · obtain rfl := List.mem_singleton.mp hi
      intro j other hother hagent
      rw [Schedule.waits_update] at hother
      rw [Schedule.childOf, Function.update_self] at hagent
      split_ifs at hother
      · exact absurd hother.2 hphase
      · exact absurd (Option.some.inj hagent).symm (hidle j other hother)

end

end StartOrder

/-! ### Limits -/

/-- The limits of the connectors of a host. -/
structure Limits (host : HostOptions) (schedule : Schedule)
    (connectors : OrderedMap String HostConnector) : Prop where
  registered : ∀ connectorId connector, connectors.get? connectorId = some connector →
    1 ≤ HostKernel.concurrencyLimit host connector
  positive : ∀ index entry, schedule index = some entry →
    1 ≤ HostKernel.concurrencyLimit host entry.connector
  target : ∀ index entry, schedule index = some entry →
    entry.request.agentId = entry.connector.childAgentId
  agree : ∀ i j first second, schedule.Waits i first → schedule.Waits j second →
    first.request.agentId = second.request.agentId →
    HostKernel.concurrencyLimit host first.connector
      = HostKernel.concurrencyLimit host second.connector

namespace Limits

variable {host : HostOptions} {schedule : Schedule} {connectors : OrderedMap String HostConnector}
  {index : Nat} {entry before : ScheduleEntry}

/-- An execution enters a phase in which it does not wait. -/
lemma enter (h : Limits host schedule connectors) (hbefore : schedule index = some before)
    (hrequest : entry.request = before.request) (hconnector : entry.connector = before.connector)
    (hphase : entry.phase ≠ .waits) :
    Limits host (Function.update schedule index (some entry)) connectors := by
  refine ⟨h.registered, fun j other hother => ?_, fun j other hother => ?_,
    fun i j first second hfirst hsecond => ?_⟩
  · rw [Function.update_apply] at hother
    split_ifs at hother
    · obtain rfl := Option.some.inj hother
      rw [hconnector]
      exact h.positive index before hbefore
    · exact h.positive j other hother
  · rw [Function.update_apply] at hother
    split_ifs at hother
    · obtain rfl := Option.some.inj hother
      rw [hrequest, hconnector]
      exact h.target index before hbefore
    · exact h.target j other hother
  · rw [Schedule.waits_update] at hfirst hsecond
    split_ifs at hfirst hsecond
    · exact absurd hfirst.2 hphase
    · exact absurd hfirst.2 hphase
    · exact absurd hsecond.2 hphase
    · exact h.agree i j first second hfirst hsecond

/-- A new execution; where it waits, it has the limit of those that wait for its
child. -/
lemma submit (h : Limits host schedule connectors)
    (hlimit : 1 ≤ HostKernel.concurrencyLimit host entry.connector)
    (htarget : entry.request.agentId = entry.connector.childAgentId)
    (hagree : ∀ j other, schedule.Waits j other → other.request.agentId = entry.request.agentId →
      HostKernel.concurrencyLimit host other.connector
        = HostKernel.concurrencyLimit host entry.connector) :
    Limits host (Function.update schedule index (some entry)) connectors := by
  refine ⟨h.registered, fun j other hother => ?_, fun j other hother => ?_,
    fun i j first second hfirst hsecond hagent => ?_⟩
  · rw [Function.update_apply] at hother
    split_ifs at hother
    · obtain rfl := Option.some.inj hother
      exact hlimit
    · exact h.positive j other hother
  · rw [Function.update_apply] at hother
    split_ifs at hother
    · obtain rfl := Option.some.inj hother
      exact htarget
    · exact h.target j other hother
  · rw [Schedule.waits_update] at hfirst hsecond
    split_ifs at hfirst hsecond
    · rw [hfirst.1, hsecond.1]
    · rw [hfirst.1] at hagent ⊢
      exact (hagree j second hsecond hagent.symm).symm
    · rw [hsecond.1] at hagent ⊢
      exact hagree i first hfirst hagent
    · exact h.agree i j first second hfirst hsecond hagent

end Limits

end TetiBot

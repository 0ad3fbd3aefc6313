import TetiBot.Runtime.Host

/-
The scheduling invariant of the runtime host.

* `sound`: no `shouldRun`, before its first `await`, stops the host, asks for a run of a job
  that is being started, or for one that `start` has yet to schedule.
* `Scheduled`: the invariant of the runs, the table, the timers and the calls in progress;
  each operation of the host keeps it.
* `runtime_host_scheduling`: each job has at most one run and one timer, a running host has one
  of them for every job, and `stop` waits for all runs.
-/

namespace TetiBot

open Library

variable {ω : Type}

/-- The jobs that the loop of `start` has yet to come to. -/
def HostRest.jobs : HostRest ω → List (HostJob ω)
  | .start jobs _ => jobs
  | .hook | .nothing | .wake _ _ => []

namespace RuntimeHost

/-! ### What may be called -/

variable (h : RuntimeHost ω)

def pendingJobs : List (HostJob ω) := h.stack.flatMap fun f => f.rest.jobs

/-- No run of the job is being started, and `start` has not yet to schedule it. -/
def mayWake (id : String) : Bool :=
  h.runs.all (fun r => r.entered || r.job.id ≠ id)
    && h.pendingJobs.all (fun job => job.runOnStart || job.id ≠ id)

/-- What `shouldRun` does not do before its first `await`. -/
def sound : HostEvent ω → Bool
  | .runNow id => h.mayWake id
  | .wake synchronizeNetworkIdentity profileService =>
    (accountJobs synchronizeNetworkIdentity profileService).all h.mayWake
  | .stop => h.runs.all (·.entered)
  | .returned => match h.active with
    | some (r, .wake ids _) => ids.all (({ h with stack := h.stack.tail }).enter r).mayWake
    | _ => true
  | _ => true

def soundStep (e : HostEvent ω) : Option (RuntimeHost ω) :=
  if h.sound e then h.step e else none

/-! ### The invariant -/

/-- The job has a run that has not left the table. -/
def HasRun (id : String) : Prop := ∃ r ∈ h.runs, r.job.id = id

/-- The job has a run that has not settled. -/
def Busy (id : String) : Prop := ∃ r ∈ h.runs, r.job.id = id ∧ r.stage ≠ .settled

def HasTimer (id : String) : Prop := ∃ t ∈ h.armed, t.job.id = id

/-- The armed timers are those of the table: one for a job, while the host is running. -/
structure Timed (h : RuntimeHost ω) : Prop where
  jobs : (h.armed.map fun t => t.job.id).Nodup
  handles : (h.armed.map HostTimer.handle).Nodup
  listed : ∀ t ∈ h.armed, h.timers.get? t.job.id = some t.handle
  armed : ∀ id n, h.timers.get? id = some n → ∃ t ∈ h.armed, t.job.id = id ∧ t.handle = n
  fresh : ∀ t ∈ h.armed, t.handle < h.handles
  live : ∀ t ∈ h.armed, h.stateValue = .running ∧ t.generation = h.generation

/-- The invariant, with the jobs that `start` has yet to come to. -/
structure Scheduled (h : RuntimeHost ω) (pending : List (HostJob ω)) : Prop where
  jobIds : (h.jobs.map HostJob.id).Nodup
  -- runs
  runJobs : (h.runs.map fun r => r.job.id).Nodup
  numbers : (h.runs.map HostRun.number).Nodup
  known : ∀ r ∈ h.runs, r.number < h.begun.length
  table : ∀ r ∈ h.runs, r.entered = true → h.inFlight.get? r.job.id = some r.number
  tabled : ∀ id n, h.inFlight.get? id = some n →
    ∃ r ∈ h.runs, r.job.id = id ∧ r.number = n ∧ r.entered = true
  current : h.stateValue = .running → ∀ r ∈ h.runs, r.generation = h.generation
  begun : ∀ b ∈ h.begun, b.state = .running
  -- timers
  timed : h.Timed
  exclusive : ∀ id, h.HasTimer id → ¬ h.Busy id
  -- calls in progress
  stacked : ∀ r ∈ h.runs, r.entered = false → ∃ f ∈ h.stack, f.run = r.number
  frames : ∀ f ∈ h.stack, ∃ r ∈ h.runs, r.number = f.run
    ∧ (r.entered = true → r.stage = .failing) ∧ (r.entered = true ↔ f.rest = .hook)
  framesOnce : (h.stack.map HostFrame.run).Nodup
  starting : ∀ r ∈ h.runs, r.entered = false → h.stateValue = .running
  generations : ∀ f ∈ h.stack, ∀ jobs generation, f.rest = .start jobs generation → generation = h.generation
  bottom : ∀ f stack, f :: stack <:+ h.stack → f.rest.jobs ≠ [] → stack = []
  -- the loop of `start`
  pendingIds : (pending.map HostJob.id).Nodup
  pendingRunning : pending ≠ [] → h.stateValue = .running
  quiet : ∀ job ∈ pending, (job.runOnStart = false → ¬ h.HasRun job.id) ∧ (h.HasTimer job.id → h.HasRun job.id)
  -- `stop`
  waits : ∀ awaited, h.stopPromise = some awaited →
    h.stateValue = .stopping ∧ ∀ r ∈ h.runs, r.number ∈ awaited
  promised : h.stateValue = .stopping → h.stopPromise.isSome
  drained : h.stateValue = .stopped → h.runs = []

variable {h : RuntimeHost ω} {pending : List (HostJob ω)} {r : HostRun ω} {job : HostJob ω} {id : String}

/-! ### Timers -/

/-- A timer is armed for a job that has none. -/
lemma Timed.arm (hT : h.Timed) (hrunning : h.stateValue = .running) (hfree : ¬ h.HasTimer job.id)
    (delayMs : Nat) : Timed { h with
      armed := h.armed ++ [⟨h.handles, job, h.generation, delayMs⟩]
      handles := h.handles + 1
      timers := h.timers.set job.id h.handles } where
  jobs := by
    rw [List.map_append, List.nodup_append]
    refine ⟨hT.jobs, List.nodup_singleton _, ?_⟩
    intro id hid other hother heq
    obtain ⟨t, ht, rfl⟩ := List.mem_map.mp hid
    exact hfree ⟨t, ht, by simpa [heq] using hother⟩
  handles := by
    rw [List.map_append, List.nodup_append]
    refine ⟨hT.handles, List.nodup_singleton _, ?_⟩
    intro n hn other hother heq
    obtain ⟨t, ht, rfl⟩ := List.mem_map.mp hn
    have hlt := hT.fresh t ht
    simp only [List.map_cons, List.map_nil, List.mem_singleton] at hother
    omega
  listed t ht := by
    rw [OrderedMap.get?_set]
    rcases List.mem_append.mp ht with ht | ht
    · rw [if_neg fun heq => hfree ⟨t, ht, heq⟩]
      exact hT.listed t ht
    · obtain rfl := List.mem_singleton.mp ht
      exact if_pos rfl
  armed id n hfound := by
    rw [OrderedMap.get?_set] at hfound
    split_ifs at hfound with hid
    · obtain rfl := Option.some.inj hfound
      exact ⟨_, List.mem_append_right _ (List.mem_singleton_self _), hid.symm, rfl⟩
    · obtain ⟨t, ht, hjob, hhandle⟩ := hT.armed id n hfound
      exact ⟨t, List.mem_append_left _ ht, hjob, hhandle⟩
  fresh t ht := by
    rcases List.mem_append.mp ht with ht | ht
    · exact Nat.lt_succ_of_lt (hT.fresh t ht)
    · obtain rfl := List.mem_singleton.mp ht
      exact Nat.lt_succ_self _
  live t ht := by
    rcases List.mem_append.mp ht with ht | ht
    · exact hT.live t ht
    · obtain rfl := List.mem_singleton.mp ht
      exact ⟨hrunning, rfl⟩

variable {n : Nat}

lemma Timed.disarm (hT : h.Timed) (hfound : h.timers.get? id = some n) : Timed { h with
      armed := h.armed.filter fun t => t.handle != n
      timers := h.timers.erase id } where
  jobs := hT.jobs.sublist (List.filter_sublist.map _)
  handles := hT.handles.sublist (List.filter_sublist.map _)
  listed t ht := by
    obtain ⟨harmed, hne⟩ := List.mem_filter.mp ht
    rw [OrderedMap.get?_erase, if_neg]
    · exact hT.listed t harmed
    · rintro rfl
      rw [hT.listed t harmed] at hfound
      simp [Option.some.inj hfound] at hne
  armed id' m hfound' := by
    rw [OrderedMap.get?_erase] at hfound'
    split_ifs at hfound' with hid
    obtain ⟨t, ht, rfl, rfl⟩ := hT.armed id' m hfound'
    refine ⟨t, List.mem_filter.mpr ⟨ht, ?_⟩, rfl, rfl⟩
    obtain ⟨t', ht', rfl, rfl⟩ := hT.armed id n hfound
    have hne : t.handle ≠ t'.handle := fun heq =>
      hid (congrArg (fun t => t.job.id) (List.inj_on_of_nodup_map hT.handles ht ht' heq))
    simpa using hne
  fresh t ht := hT.fresh t (List.mem_filter.mp ht).1
  live t ht := hT.live t (List.mem_filter.mp ht).1

lemma Timed.hasTimer_disarm (hT : h.Timed) (hfound : h.timers.get? id = some n) (id' : String) :
    HasTimer { h with
      armed := h.armed.filter fun t => t.handle != n
      timers := h.timers.erase id } id' ↔ id' ≠ id ∧ h.HasTimer id' := by
  obtain ⟨t', ht', rfl, rfl⟩ := hT.armed id n hfound
  constructor
  · rintro ⟨t, ht, rfl⟩
    obtain ⟨ht, hne⟩ := List.mem_filter.mp ht
    refine ⟨fun hid => ?_, t, ht, rfl⟩
    simp [List.inj_on_of_nodup_map hT.jobs ht ht' hid] at hne
  · rintro ⟨hid, t, ht, rfl⟩
    have hne : t.handle ≠ t'.handle := fun heq =>
      hid (congrArg (fun t => t.job.id) (List.inj_on_of_nodup_map hT.handles ht ht' heq))
    exact ⟨t, List.mem_filter.mpr ⟨ht, by simpa using hne⟩, rfl⟩

lemma hasTimer_scheduleNext (hrunning : h.stateValue = .running) :
    (h.scheduleNext job h.generation).HasTimer id ↔ h.HasTimer id ∨ job.id = id := by
  rw [scheduleNext, if_pos ⟨hrunning, rfl⟩]
  show (∃ t ∈ h.armed ++ [_], t.job.id = id) ↔ _
  simp [HasTimer, or_and_right, exists_or]

/-! ### Runs that go on -/

/-- A change that leaves a run's place alone. -/
def Inside (f : HostRun ω → HostRun ω) : Prop :=
  ∀ r, (f r).number = r.number ∧ (f r).job = r.job ∧ (f r).generation = r.generation

variable {f : HostRun ω → HostRun ω}

lemma map_modifyRun {β : Type} (g : HostRun ω → β) (hg : ∀ r, g (f r) = g r) :
    (h.modifyRun n f).runs.map g = h.runs.map g := by
  rw [modifyRun, List.map_map]
  refine List.map_congr_left fun r _ => ?_
  rw [Function.comp_apply]
  split_ifs
  · exact hg r
  · rfl

lemma mem_modifyRun {r' : HostRun ω} :
    r' ∈ (h.modifyRun n f).runs ↔ ∃ r ∈ h.runs, (if r.number = n then f r else r) = r' := by
  rw [modifyRun, List.mem_map]

lemma hasRun_modifyRun (hf : Inside f) : (h.modifyRun n f).HasRun id ↔ h.HasRun id := by
  have hmap := map_modifyRun (h := h) (n := n) (f := f) (fun r => r.job.id) fun r => by rw [(hf r).2.1]
  have hmem : ∀ h : RuntimeHost ω, h.HasRun id ↔ id ∈ h.runs.map fun r => r.job.id := fun h => by
    simp [HasRun]
  rw [hmem, hmem, hmap]

section

variable (hS : h.Scheduled pending)
include hS

lemma Scheduled.run_eq {r r' : HostRun ω} (hr : r ∈ h.runs) (hr' : r' ∈ h.runs)
    (heq : r.number = r'.number) : r = r' :=
  List.inj_on_of_nodup_map hS.numbers hr hr' heq

lemma Scheduled.job_eq {r r' : HostRun ω} (hr : r ∈ h.runs) (hr' : r' ∈ h.runs)
    (heq : r.job.id = r'.job.id) : r = r' :=
  List.inj_on_of_nodup_map hS.runJobs hr hr' heq

lemma Scheduled.mem_modifyRun (hr : r ∈ h.runs) {r' : HostRun ω} :
    r' ∈ (h.modifyRun r.number f).runs ↔ r' = f r ∨ (r' ∈ h.runs ∧ r'.number ≠ r.number) := by
  rw [RuntimeHost.mem_modifyRun]
  constructor
  · rintro ⟨old, hold, rfl⟩
    split_ifs with hn
    · rw [hS.run_eq hold hr hn]
      exact .inl rfl
    · exact .inr ⟨hold, hn⟩
  · rintro (rfl | ⟨hr', hn⟩)
    · exact ⟨r, hr, if_pos rfl⟩
    · exact ⟨r', hr', if_neg hn⟩

/-- What holds of every run, and of the one that is changed, holds after the change. -/
lemma Scheduled.forall_modifyRun (hr : r ∈ h.runs)
    {P : HostRun ω → Prop} (hchanged : P (f r)) (hall : ∀ r' ∈ h.runs, P r') :
    ∀ r' ∈ (h.modifyRun r.number f).runs, P r' := by
  intro r' hr'
  rcases (hS.mem_modifyRun hr).mp hr' with rfl | ⟨hr', -⟩
  · exact hchanged
  · exact hall r' hr'

/-- **A run goes on**, in the table or on its way there. -/
lemma Scheduled.modifyRun (hr : r ∈ h.runs) (hf : Inside f)
    (hentered : (f r).entered = r.entered) (hstage : (f r).stage ≠ .settled → r.stage ≠ .settled)
    (hhook : r.entered = true → ∀ frame ∈ h.stack, frame.run = r.number → (f r).stage = .failing) :
    (h.modifyRun r.number f).Scheduled pending := by
  obtain ⟨hnumber, hjob, hgeneration⟩ := hf r
  have hmem : ∀ r', r' ∈ (h.modifyRun r.number f).runs
      ↔ r' = f r ∨ (r' ∈ h.runs ∧ r'.number ≠ r.number) := fun r' => hS.mem_modifyRun hr
  exact { hS with
    runJobs := by
      rw [map_modifyRun _ fun r => by rw [(hf r).2.1]]
      exact hS.runJobs
    numbers := by
      rw [map_modifyRun _ fun r => (hf r).1]
      exact hS.numbers
    known := hS.forall_modifyRun hr (hnumber ▸ hS.known r hr) hS.known
    table := by
      refine hS.forall_modifyRun hr (fun hin => ?_) hS.table
      rw [hjob, hnumber]
      exact hS.table r hr (hentered ▸ hin)
    tabled := fun id n hfound => by
      obtain ⟨old, hold, rfl, rfl, hin⟩ := hS.tabled id n hfound
      by_cases hn : old.number = r.number
      · obtain rfl := hS.run_eq hold hr hn
        exact ⟨f old, (hmem _).mpr (.inl rfl), by rw [hjob], hnumber, hentered.trans hin⟩
      · exact ⟨old, (hmem _).mpr (.inr ⟨hold, hn⟩), rfl, rfl, hin⟩
    current := fun hrunning => hS.forall_modifyRun hr
      (hgeneration.trans (hS.current hrunning r hr)) (hS.current hrunning)
    timed := { hS.timed with }
    exclusive := fun id htimer => by
      rintro ⟨r', hr', rfl, hunsettled⟩
      rcases (hmem r').mp hr' with rfl | ⟨hr', -⟩
      · exact hS.exclusive _ htimer ⟨r, hr, by rw [hjob], hstage hunsettled⟩
      · exact hS.exclusive _ htimer ⟨r', hr', rfl, hunsettled⟩
    stacked := by
      refine hS.forall_modifyRun hr (fun hout => ?_) hS.stacked
      rw [hnumber]
      exact hS.stacked r hr (hentered ▸ hout)
    frames := fun frame hframe => by
      obtain ⟨old, hold, hrun, hhooked⟩ := hS.frames frame hframe
      by_cases hn : old.number = r.number
      · obtain rfl := hS.run_eq hold hr hn
        refine ⟨f old, (hmem _).mpr (.inl rfl), hnumber.trans hrun, ?_⟩
        rw [hentered]
        exact ⟨fun hin => hhook hin frame hframe hrun.symm, hhooked.2⟩
      · exact ⟨old, (hmem _).mpr (.inr ⟨hold, hn⟩), hrun, hhooked⟩
    starting := hS.forall_modifyRun hr (fun hout => hS.starting r hr (hentered ▸ hout)) hS.starting
    quiet := fun job hjob => by
      rw [hasRun_modifyRun hf]
      exact hS.quiet job hjob
    waits := fun awaited hpromise => by
      obtain ⟨hstopping, hall⟩ := hS.waits awaited hpromise
      exact ⟨hstopping, hS.forall_modifyRun hr (hnumber ▸ hall r hr) hall⟩
    drained := fun hstopped => by
      rw [hS.drained hstopped] at hr
      cases hr }

lemma Scheduled.pushHook (hstack : h.stack = []) (hr : r ∈ h.runs)
    (hstage : r.stage = .failing) (hentered : r.entered = true) :
    Scheduled { h with stack := ⟨r.number, .hook⟩ :: h.stack } pending := by
  have hframe : ∀ frame ∈ HostFrame.mk (ω := ω) r.number .hook :: h.stack,
      frame = ⟨r.number, .hook⟩ := by
    intro frame hframe
    rw [hstack] at hframe
    exact List.mem_singleton.mp hframe
  exact { hS with
    timed := { hS.timed with }
    stacked := fun r' hr' hout => by
      obtain ⟨frame, hmem, -⟩ := hS.stacked r' hr' hout
      rw [hstack] at hmem
      cases hmem
    frames := fun frame hmem => by
      obtain rfl := hframe frame hmem
      exact ⟨r, hr, rfl, fun _ => hstage, by simp [hentered]⟩
    framesOnce := by
      rw [hstack]
      exact List.nodup_singleton _
    generations := fun frame hmem jobs generation hrest => by
      rw [hframe frame hmem] at hrest
      cases hrest
    bottom := fun frame stack hsuffix => by
      rw [hframe frame (hsuffix.subset List.mem_cons_self)]
      exact fun hjobs => absurd rfl hjobs }

end

variable {stack : List (HostFrame ω)}

lemma Scheduled.popHook (hS : h.Scheduled pending) {frame : HostFrame ω}
    (hstack : h.stack = frame :: stack) (hr : r ∈ h.runs) (hframe : r.number = frame.run)
    (hentered : r.entered = true) :
    Scheduled { h with stack := stack } pending ∧ ∀ other ∈ stack, other.run ≠ r.number := by
  have honce := hS.framesOnce
  rw [hstack, List.map_cons, List.nodup_cons] at honce
  have hmem : ∀ other ∈ stack, other ∈ h.stack := fun other hother => hstack ▸ List.mem_cons_of_mem _ hother
  refine ⟨{ hS with
    timed := { hS.timed with }
    stacked := fun r' hr' hout => by
      obtain ⟨other, hother, hrun⟩ := hS.stacked r' hr' hout
      rw [hstack, List.mem_cons] at hother
      rcases hother with rfl | hother
      · rw [hS.run_eq hr hr' (hframe.trans hrun), hout] at hentered
        cases hentered
      · exact ⟨other, hother, hrun⟩
    frames := fun other hother => hS.frames other (hmem other hother)
    framesOnce := honce.2
    generations := fun other hother => hS.generations other (hmem other hother)
    bottom := fun other below hsuffix =>
      hS.bottom other below (hsuffix.trans (hstack ▸ List.suffix_cons frame stack)) }, ?_⟩
  rintro other hother hrun
  exact honce.1 (List.mem_map.mpr ⟨other, hother, hrun.trans hframe⟩)

/-- The stage of a run whose first part has returned. -/
def entering (r : HostRun ω) : HostRun ω :=
  { r with
    entered := true
    stage := if r.stage = .starting then .checking else r.stage }

/-- **A run enters the table**, and its call has returned. -/
lemma Scheduled.enter (hS : h.Scheduled pending) {frame : HostFrame ω}
    (hstack : h.stack = frame :: stack) (hr : r ∈ h.runs) (hframe : r.number = frame.run) :
    (({ h with stack := stack }).enter r).Scheduled pending := by
  have honce := hS.framesOnce
  rw [hstack, List.map_cons, List.nodup_cons] at honce
  have hother : ∀ other ∈ stack, other ∈ h.stack ∧ other.run ≠ r.number := fun other hother =>
    ⟨hstack ▸ List.mem_cons_of_mem _ hother,
      fun hrun => honce.1 (List.mem_map.mpr ⟨other, hother, hrun.trans hframe⟩)⟩
  have hf : Inside (entering (ω := ω)) := fun _ => ⟨rfl, rfl, rfl⟩
  have hmem : ∀ r', r' ∈ (({ h with stack := stack }).enter r).runs
      ↔ r' = entering r ∨ (r' ∈ h.runs ∧ r'.number ≠ r.number) := fun r' =>
    hS.mem_modifyRun hr
  have hget : ∀ id, (({ h with stack := stack }).enter r).inFlight.get? id
      = if id = r.job.id then some r.number else h.inFlight.get? id := fun id =>
    OrderedMap.get?_set _ _ _ _
  exact { hS with
    runJobs := by
      have hmap := map_modifyRun (h := h) (n := r.number) (f := entering) (fun r => r.job.id) fun _ => rfl
      exact hmap ▸ hS.runJobs
    numbers := by
      have hmap := map_modifyRun (h := h) (n := r.number) (f := entering) HostRun.number fun _ => rfl
      exact hmap ▸ hS.numbers
    known := hS.forall_modifyRun (f := entering) hr (hS.known r hr) hS.known
    table := fun r' hr' hin => by
      rw [hget]
      rcases (hmem r').mp hr' with rfl | ⟨hr', hne⟩
      · exact if_pos rfl
      · rw [if_neg fun hid => hne (congrArg HostRun.number (hS.job_eq hr' hr hid))]
        exact hS.table r' hr' hin
    tabled := fun id n hfound => by
      rw [hget] at hfound
      split_ifs at hfound with hid
      · obtain rfl := Option.some.inj hfound
        exact ⟨entering r, (hmem _).mpr (.inl rfl), hid.symm, rfl, rfl⟩
      · obtain ⟨old, hold, rfl, rfl, hin⟩ := hS.tabled id n hfound
        exact ⟨old, (hmem _).mpr (.inr ⟨hold, fun hn => hid (by rw [hS.run_eq hold hr hn])⟩), rfl, rfl, hin⟩
    current := fun hrunning => hS.forall_modifyRun (f := entering) hr (hS.current hrunning r hr)
      (hS.current hrunning)
    timed := { hS.timed with }
    exclusive := fun id htimer => by
      rintro ⟨r', hr', rfl, hunsettled⟩
      rcases (hmem r').mp hr' with rfl | ⟨hr', -⟩
      · refine hS.exclusive _ htimer ⟨r, hr, rfl, fun hsettled => hunsettled ?_⟩
        rw [entering, hsettled]
        rfl
      · exact hS.exclusive _ htimer ⟨r', hr', rfl, hunsettled⟩
    stacked := fun r' hr' hout' => by
      rcases (hmem r').mp hr' with rfl | ⟨hr', hne⟩
      · cases hout'
      · obtain ⟨other, hmem, hrun⟩ := hS.stacked r' hr' hout'
        rw [hstack, List.mem_cons] at hmem
        rcases hmem with rfl | hmem
        · exact absurd (hrun.symm.trans hframe.symm) hne
        · exact ⟨other, hmem, hrun⟩
    frames := fun other hmem' => by
      obtain ⟨hin, hne⟩ := hother other hmem'
      obtain ⟨old, hold, hrun, hhooked⟩ := hS.frames other hin
      exact ⟨old, (hmem _).mpr (.inr ⟨hold, hrun ▸ hne⟩), hrun, hhooked⟩
    framesOnce := honce.2
    starting := hS.forall_modifyRun (f := entering) hr (fun hout => by cases hout) hS.starting
    generations := fun other hmem' => hS.generations other (hother other hmem').1
    bottom := fun other below hsuffix =>
      hS.bottom other below (hsuffix.trans (hstack ▸ List.suffix_cons frame stack))
    quiet := fun job hjob => by
      have hrun : (h.modifyRun r.number entering).HasRun job.id ↔ h.HasRun job.id :=
        hasRun_modifyRun hf
      refine ⟨fun hlater => mt hrun.mp ((hS.quiet job hjob).1 hlater), fun htimer => ?_⟩
      exact hrun.mpr ((hS.quiet job hjob).2 htimer)
    waits := fun awaited hpromise => by
      obtain ⟨hstopping, hall⟩ := hS.waits awaited hpromise
      exact ⟨hstopping, hS.forall_modifyRun (f := entering) hr (hall r hr) hall⟩
    drained := fun hstopped => by
      rw [hS.drained hstopped] at hr
      cases hr }

/-- A timer is armed for a job whose run has settled, or that `start` comes to. -/
lemma Scheduled.scheduleNext (hS : h.Scheduled pending) (hrunning : h.stateValue = .running)
    (hfree : ¬ h.HasTimer job.id) (hidle : ¬ h.Busy job.id)
    (hpending : ∀ later ∈ pending, later.id = job.id → h.HasRun job.id) :
    (h.scheduleNext job h.generation).Scheduled pending := by
  have harmed : ∀ id, (h.scheduleNext job h.generation).HasTimer id ↔ h.HasTimer id ∨ job.id = id :=
    fun id => hasTimer_scheduleNext hrunning
  rw [RuntimeHost.scheduleNext, if_pos ⟨hrunning, rfl⟩] at harmed ⊢
  exact { hS with
    timed := { hS.timed.arm hrunning hfree (h.nextDelay job) with }
    exclusive := fun id htimer => by
      rcases (harmed id).mp htimer with htimer | rfl
      · exact hS.exclusive id htimer
      · exact hidle
    quiet := fun later hlater => by
      refine ⟨(hS.quiet later hlater).1, fun htimer => ?_⟩
      rcases (harmed later.id).mp htimer with htimer | hid
      · exact (hS.quiet later hlater).2 htimer
      · exact hid ▸ hpending later hlater hid.symm }

lemma cancelScheduled_others (h : RuntimeHost ω) (id : String) :
    (h.cancelScheduled id).runs = h.runs ∧ (h.cancelScheduled id).stack = h.stack
      ∧ (h.cancelScheduled id).jobs = h.jobs ∧ (h.cancelScheduled id).stateValue = h.stateValue
      ∧ (h.cancelScheduled id).generation = h.generation := by
  rw [cancelScheduled]
  split <;> exact ⟨rfl, rfl, rfl, rfl, rfl⟩

/-- **The timer of a job is cancelled**, if there is one. -/
lemma Scheduled.cancelScheduled (hS : h.Scheduled pending) (id : String) :
    (h.cancelScheduled id).Scheduled pending
      ∧ ∀ id', (h.cancelScheduled id).HasTimer id' ↔ id' ≠ id ∧ h.HasTimer id' := by
  rw [RuntimeHost.cancelScheduled]
  split
  · rename_i hnone
    refine ⟨hS, fun id' => ⟨fun htimer => ⟨?_, htimer⟩, And.right⟩⟩
    rintro rfl
    obtain ⟨t, ht, rfl⟩ := htimer
    rw [hS.timed.listed t ht] at hnone
    cases hnone
  · rename_i n hfound
    have hleft := hS.timed.hasTimer_disarm hfound
    refine ⟨{ hS with
      timed := { hS.timed.disarm hfound with }
      exclusive := fun id' htimer => hS.exclusive id' ((hleft id').mp htimer).2
      quiet := fun job hjob => ⟨(hS.quiet job hjob).1, fun htimer =>
        (hS.quiet job hjob).2 ((hleft job.id).mp htimer).2⟩ }, hleft⟩

/-- **A run begins** with its first part. -/
lemma Scheduled.begin (hS : h.Scheduled pending) (hrunning : h.stateValue = .running)
    (hidle : ¬ h.HasRun job.id) (hfree : ¬ h.HasTimer job.id)
    (hpending : ∀ later ∈ pending, later.id = job.id → later.runOnStart = true)
    (cause : HostCause) (rest : HostRest ω)
    (hrest : ∀ jobs generation, rest = .start jobs generation → generation = h.generation)
    (hbottom : rest.jobs ≠ [] → h.stack = []) (hhook : rest ≠ .hook) : Scheduled { h.begin job h.generation cause with
      stack := ⟨h.begun.length, rest⟩ :: h.stack } pending := by
  have hmem : ∀ r : HostRun ω, r ∈ h.runs ++ [⟨h.begun.length, job, h.generation, .starting, false⟩]
      ↔ r ∈ h.runs ∨ r = ⟨h.begun.length, job, h.generation, .starting, false⟩ := fun r => by
    rw [List.mem_append, List.mem_singleton]
  have hhas : ∀ id, HasRun { h.begin job h.generation cause with
      stack := ⟨h.begun.length, rest⟩ :: h.stack } id ↔ h.HasRun id ∨ job.id = id := fun id => by
    simp [HasRun, RuntimeHost.begin, RuntimeHost.updateJobSnapshot, or_and_right, exists_or]
  have hrunsOf : ∀ awaited, h.stopPromise = some awaited → False := fun awaited hpromise => by
    rw [(hS.waits awaited hpromise).1] at hrunning
    cases hrunning
  exact { hS with
    runJobs := by
      show ((h.runs ++ [_]).map _).Nodup
      rw [List.map_append, List.nodup_append]
      refine ⟨hS.runJobs, List.nodup_singleton _, ?_⟩
      rintro id hid other hother rfl
      obtain ⟨r, hr, rfl⟩ := List.mem_map.mp hid
      exact hidle ⟨r, hr, List.mem_singleton.mp hother⟩
    numbers := by
      show ((h.runs ++ [_]).map _).Nodup
      rw [List.map_append, List.nodup_append]
      refine ⟨hS.numbers, List.nodup_singleton _, ?_⟩
      rintro n hn other hother rfl
      obtain ⟨r, hr, rfl⟩ := List.mem_map.mp hn
      exact absurd (List.mem_singleton.mp hother) (hS.known r hr).ne
    known := fun r hr => by
      show r.number < (h.begun ++ [_]).length
      rw [List.length_append, List.length_singleton]
      rcases (hmem r).mp hr with hr | rfl
      · exact Nat.lt_succ_of_lt (hS.known r hr)
      · exact Nat.lt_succ_self _
    table := fun r hr hin => by
      rcases (hmem r).mp hr with hr | rfl
      · exact hS.table r hr hin
      · cases hin
    tabled := fun id n hfound => by
      obtain ⟨r, hr, hrest⟩ := hS.tabled id n hfound
      exact ⟨r, (hmem r).mpr (.inl hr), hrest⟩
    current := fun _ r hr => by
      rcases (hmem r).mp hr with hr | rfl
      · exact hS.current hrunning r hr
      · rfl
    begun := fun b hb => by
      rcases List.mem_append.mp hb with hb | hb
      · exact hS.begun b hb
      · rw [List.mem_singleton.mp hb]
        exact hrunning
    timed := { hS.timed with }
    exclusive := fun id htimer => by
      rintro ⟨r, hr, rfl, hstage⟩
      rcases (hmem r).mp hr with hr | rfl
      · exact hS.exclusive _ htimer ⟨r, hr, rfl, hstage⟩
      · exact hfree htimer
    stacked := fun r hr hout => by
      rcases (hmem r).mp hr with hr | rfl
      · obtain ⟨frame, hframe, hrun⟩ := hS.stacked r hr hout
        exact ⟨frame, List.mem_cons_of_mem _ hframe, hrun⟩
      · exact ⟨_, List.mem_cons_self, rfl⟩
    frames := fun frame hframe => by
      rcases List.mem_cons.mp hframe with rfl | hframe
      · exact ⟨_, (hmem _).mpr (.inr rfl), rfl, fun hin => (by cases hin), by simp [hhook]⟩
      · obtain ⟨r, hr, hrest⟩ := hS.frames frame hframe
        exact ⟨r, (hmem r).mpr (.inl hr), hrest⟩
    framesOnce := by
      rw [List.map_cons, List.nodup_cons]
      refine ⟨fun hmem => ?_, hS.framesOnce⟩
      obtain ⟨frame, hframe, hrun⟩ := List.mem_map.mp hmem
      obtain ⟨r, hr, hnumber, -⟩ := hS.frames frame hframe
      exact absurd (hnumber.trans hrun) (hS.known r hr).ne
    starting := fun _ _ _ => hrunning
    generations := fun frame hframe jobs generation heq => by
      rcases List.mem_cons.mp hframe with rfl | hframe
      · exact hrest jobs generation heq
      · exact hS.generations frame hframe jobs generation heq
    bottom := fun frame below hsuffix hjobs => by
      rcases List.suffix_cons_iff.mp hsuffix with heq | hsuffix
      · obtain ⟨rfl, rfl⟩ := List.cons.inj heq
        exact hbottom hjobs
      · exact hS.bottom frame below hsuffix hjobs
    quiet := fun later hlater => by
      rw [hhas]
      refine ⟨fun honStart => ?_, fun htimer => .inl ((hS.quiet later hlater).2 htimer)⟩
      rintro (hrun | hid)
      · exact (hS.quiet later hlater).1 honStart hrun
      · rw [hpending later hlater hid.symm] at honStart
        cases honStart
    waits := fun awaited hpromise => (hrunsOf awaited hpromise).elim
    drained := fun hstopped => by
      rw [show h.stateValue = .stopped from hstopped] at hrunning
      cases hrunning }

/-- **A run leaves the table.** -/
lemma Scheduled.leave (hS : h.Scheduled []) (hstack : h.stack = []) (hr : r ∈ h.runs)
    (hin : r.entered = true) : (h.leave r).Scheduled [] := by
  have hmem : ∀ r', r' ∈ (h.leave r).runs ↔ r' ∈ h.runs ∧ r'.number ≠ r.number := fun r' => by
    rw [RuntimeHost.leave, List.mem_filter, bne_iff_ne]
  have hget : ∀ id, (h.leave r).inFlight.get? id = if id = r.job.id then none else h.inFlight.get? id := by
    intro id
    rw [RuntimeHost.leave, if_pos (hS.table r hr hin)]
    exact OrderedMap.get?_erase _ _ _
  exact { hS with
    runJobs := hS.runJobs.sublist (List.filter_sublist.map _)
    numbers := hS.numbers.sublist (List.filter_sublist.map _)
    known := fun r' hr' => hS.known r' ((hmem r').mp hr').1
    table := fun r' hr' hin' => by
      obtain ⟨hr', hne⟩ := (hmem r').mp hr'
      rw [hget, if_neg fun hid => hne (congrArg HostRun.number (hS.job_eq hr' hr hid))]
      exact hS.table r' hr' hin'
    tabled := fun id n hfound => by
      rw [hget] at hfound
      split_ifs at hfound with hid
      obtain ⟨old, hold, rfl, rfl, hin'⟩ := hS.tabled id n hfound
      exact ⟨old, (hmem old).mpr ⟨hold, fun hn => hid (by rw [hS.run_eq hold hr hn])⟩, rfl, rfl, hin'⟩
    current := fun hrunning r' hr' => hS.current hrunning r' ((hmem r').mp hr').1
    timed := { hS.timed with }
    exclusive := fun id htimer => by
      rintro ⟨r', hr', hid, hstage⟩
      exact hS.exclusive id htimer ⟨r', ((hmem r').mp hr').1, hid, hstage⟩
    stacked := fun r' hr' => hS.stacked r' ((hmem r').mp hr').1
    frames := fun frame hframe => by
      have hframe : frame ∈ h.stack := hframe
      rw [hstack] at hframe
      cases hframe
    starting := fun r' hr' => hS.starting r' ((hmem r').mp hr').1
    quiet := fun job hjob => by cases hjob
    waits := fun awaited hpromise =>
      ⟨(hS.waits awaited hpromise).1, fun r' hr' => (hS.waits awaited hpromise).2 r' ((hmem r').mp hr').1⟩
    drained := fun hstopped => by
      rw [hS.drained hstopped] at hr
      cases hr }

/-! ### Jobs that are covered -/

/-- The job is in flight or scheduled, or `start` has yet to come to it. -/
def Covered (h : RuntimeHost ω) (pending : List (HostJob ω)) (job : HostJob ω) : Prop :=
  h.Busy job.id ∨ h.HasTimer job.id ∨ (job ∈ pending ∧ ¬ h.HasRun job.id)

/-- **The invariant of the host**: the runs and timers are in order, and no job of a running host
is forgotten. -/
structure Going (h : RuntimeHost ω) (pending : List (HostJob ω)) : Prop where
  scheduled : h.Scheduled pending
  covered : h.stateValue = .running → ∀ job ∈ h.jobs, h.Covered pending job

lemma Busy.hasRun (hbusy : h.Busy id) : h.HasRun id := by
  obtain ⟨r, hr, hid, -⟩ := hbusy
  exact ⟨r, hr, hid⟩

/-- With an empty stack every run is in the table. -/
lemma Scheduled.hasRun_iff (hS : h.Scheduled pending) (hentered : ∀ r ∈ h.runs, r.job.id = id → r.entered = true) :
    h.inFlight.contains id = true ↔ h.HasRun id := by
  rw [OrderedMap.contains, Option.isSome_iff_exists]
  constructor
  · rintro ⟨n, hn⟩
    obtain ⟨r, hr, hid, -⟩ := hS.tabled id n hn
    exact ⟨r, hr, hid⟩
  · rintro ⟨r, hr, rfl⟩
    exact ⟨r.number, hS.table r hr (hentered r hr rfl)⟩

lemma Scheduled.entered_of_stack (hS : h.Scheduled pending) (hstack : h.stack = []) :
    ∀ r ∈ h.runs, r.entered = true := by
  intro r hr
  by_contra hout
  obtain ⟨frame, hframe, -⟩ := hS.stacked r hr (by simpa using hout)
  rw [hstack] at hframe
  cases hframe

lemma busy_entering {other : HostRun ω} (hr : r ∈ h.runs) (hstage : r.stage ≠ .settled) :
    (({ h with stack := stack }).enter other).Busy r.job.id := by
  refine ⟨_, mem_modifyRun.mpr ⟨r, hr, rfl⟩, ?_⟩
  split_ifs
  · exact ⟨rfl, fun h => by cases h⟩
  · exact ⟨rfl, hstage⟩
  · exact ⟨rfl, hstage⟩

lemma Going.enter (hG : h.Going pending) {frame : HostFrame ω} (hstack : h.stack = frame :: stack)
    (hr : r ∈ h.runs) (hframe : r.number = frame.run) :
    (({ h with stack := stack }).enter r).Going pending where
  scheduled := hG.scheduled.enter hstack hr hframe
  covered hrunning job hjob := by
    rcases hG.covered hrunning job hjob with ⟨r', hr', hid, hstage⟩ | htimer | ⟨hmem, hidle⟩
    · exact .inl (hid ▸ busy_entering hr' hstage)
    · exact .inr (.inl htimer)
    · refine .inr (.inr ⟨hmem, mt (hasRun_modifyRun (f := entering) fun _ => ⟨rfl, rfl, rfl⟩).mp hidle⟩)

/-- What `execute` leaves of the calls in progress. -/
def stackAfter (h : RuntimeHost ω) (rest : HostRest ω) (suspended : Bool) : List (HostFrame ω) :=
  if suspended then ⟨h.begun.length, rest⟩ :: h.stack else h.stack

/-- **A run is executed**, for a job that has none and no timer. -/
lemma Going.execute (hS : h.Scheduled pending) (hrunning : h.stateValue = .running)
    (hcovered : ∀ other ∈ h.jobs, other.id ≠ job.id → h.Covered pending other)
    (hidle : ¬ h.HasRun job.id) (hfree : ¬ h.HasTimer job.id)
    (hpending : ∀ later ∈ pending, later.id = job.id → later.runOnStart = true)
    (cause : HostCause) (rest : HostRest ω)
    (hrest : ∀ jobs generation, rest = .start jobs generation → generation = h.generation)
    (hbottom : rest.jobs ≠ [] → h.stack = []) (hhook : rest ≠ .hook) :
    (h.execute job h.generation cause rest).1.Going pending
      ∧ (h.execute job h.generation cause rest).1.stack
        = h.stackAfter rest (h.execute job h.generation cause rest).2
      ∧ ((h.execute job h.generation cause rest).2 = false →
        ∀ r ∈ (h.execute job h.generation cause rest).1.runs, r.entered = true ∨ r ∈ h.runs)
      ∧ (h.execute job h.generation cause rest).1.jobs = h.jobs
      ∧ (h.execute job h.generation cause rest).1.stateValue = h.stateValue
      ∧ (h.execute job h.generation cause rest).1.generation = h.generation := by
  have htable : h.inFlight.contains job.id = false := by
    rw [Bool.eq_false_iff, Ne, OrderedMap.contains, Option.isSome_iff_exists]
    rintro ⟨n, hn⟩
    obtain ⟨r, hr, hid, -⟩ := hS.tabled job.id n hn
    exact hidle ⟨r, hr, hid⟩
  set run : HostRun ω := ⟨h.begun.length, job, h.generation, .starting, false⟩ with hrun
  set pushed : RuntimeHost ω := { h.begin job h.generation cause with
    stack := ⟨h.begun.length, rest⟩ :: h.stack } with hpushed
  have hmem : run ∈ pushed.runs := List.mem_append_right _ (List.mem_singleton_self _)
  have hbegun : pushed.Going pending := {
    scheduled := hS.begin hrunning hidle hfree hpending cause rest hrest hbottom hhook
    covered := fun _ other hother => by
      by_cases hid : other.id = job.id
      · exact .inl ⟨run, hmem, hid.symm, fun h => by cases h⟩
      · rcases hcovered other hother hid with ⟨r, hr, hr'⟩ | htimer | ⟨hin, hnone⟩
        · exact .inl ⟨r, List.mem_append_left _ hr, hr'⟩
        · exact .inr (.inl htimer)
        · refine .inr (.inr ⟨hin, ?_⟩)
          rintro ⟨r, hr, hsame⟩
          rcases List.mem_append.mp hr with hr | hr
          · exact hnone ⟨r, hr, hsame⟩
          · rw [List.mem_singleton.mp hr] at hsame
            exact hid hsame.symm }
  have hexecute : h.execute job h.generation cause rest
      = if job.shouldRun then (pushed, true) else (({ pushed with stack := h.stack }).enter run, false) := by
    rw [RuntimeHost.execute, if_neg (by simp [hrunning, htable])]
    rfl
  rw [hexecute]
  split_ifs with hshould
  · exact ⟨hbegun, rfl, fun h => (by cases h), rfl, rfl, rfl⟩
  · refine ⟨hbegun.enter rfl hmem rfl, rfl, fun _ r hr => ?_, rfl, rfl, rfl⟩
    rcases (hbegun.scheduled.mem_modifyRun hmem (f := entering)).mp hr with rfl | ⟨hold, hn⟩
    · exact .inl rfl
    · rcases List.mem_append.mp hold with hold | hold
      · exact .inr hold
      · exact absurd (congrArg HostRun.number (List.mem_singleton.mp hold)) hn

/-! ### Loops -/

lemma Scheduled.tail (hS : h.Scheduled (job :: pending)) : h.Scheduled pending :=
  { hS with
    pendingIds := (List.nodup_cons.mp hS.pendingIds).2
    pendingRunning := fun _ => hS.pendingRunning (List.cons_ne_nil _ _)
    quiet := fun later hlater => hS.quiet later (List.mem_cons_of_mem _ hlater) }

variable {jobs : List (HostJob ω)}

/-- **The loop of `start`**, with no other code of a job in progress. -/
lemma Going.startJobs (hG : h.Going jobs) (hrunning : h.stateValue = .running)
    (hstack : h.stack = []) :
    (h.startJobs h.generation jobs).Going (h.startJobs h.generation jobs).pendingJobs := by
  induction jobs generalizing h with
  | nil =>
    rw [RuntimeHost.startJobs, pendingJobs, hstack]
    exact hG
  | cons job jobs ih =>
    have hS := hG.scheduled
    have hids := List.nodup_cons.mp hS.pendingIds
    have hdistinct : ∀ later ∈ jobs, later.id ≠ job.id := fun later hlater hid =>
      hids.1 (List.mem_map.mpr ⟨later, hlater, hid⟩)
    have hothers : ∀ other ∈ h.jobs, other.id ≠ job.id → h.Covered jobs other := by
      intro other hother hid
      rcases hG.covered hrunning other hother with hbusy | htimer | ⟨hmem, hidle⟩
      · exact .inl hbusy
      · exact .inr (.inl htimer)
      · rcases List.mem_cons.mp hmem with rfl | hmem
        · exact absurd rfl hid
        · exact .inr (.inr ⟨hmem, hidle⟩)
    rw [RuntimeHost.startJobs]
    by_cases hrun : h.HasRun job.id
    · -- a run that was asked for in the meantime
      have honStart : job.runOnStart = true := by
        by_contra hlater
        exact (hS.quiet job List.mem_cons_self).1 (by simpa using hlater) hrun
      have htable : h.inFlight.contains job.id = true :=
        (hS.hasRun_iff fun r hr _ => hS.entered_of_stack hstack r hr).mpr hrun
      have hexecute : h.execute job h.generation .start (.start jobs h.generation) = (h, false) := by
        rw [RuntimeHost.execute, if_pos (.inr (.inr htable))]
      rw [if_pos honStart, hexecute]
      refine ih ⟨hS.tail, fun _ other hother => ?_⟩ hrunning hstack
      rcases hG.covered hrunning other hother with hbusy | htimer | ⟨hmem, hidle⟩
      · exact .inl hbusy
      · exact .inr (.inl htimer)
      · rcases List.mem_cons.mp hmem with rfl | hmem
        · exact absurd hrun hidle
        · exact .inr (.inr ⟨hmem, hidle⟩)
    · have hfree : ¬ h.HasTimer job.id := mt (hS.quiet job List.mem_cons_self).2 hrun
      split_ifs with honStart
      · obtain ⟨hgoing, hafter, -, -, hstate, hgeneration⟩ := Going.execute hS.tail hrunning hothers hrun
          hfree (fun later hlater hid => absurd hid (hdistinct later hlater)) .start
          (.start jobs h.generation) (fun _ _ heq => by cases heq; rfl) (fun _ => hstack) (by simp)
        dsimp only
        split_ifs with hsuspended
        · rw [pendingJobs, hafter, hsuspended, stackAfter, if_pos rfl, hstack]
          simpa [HostRest.jobs] using hgoing
        · have hloop := ih hgoing (hstate.trans hrunning)
            (by rw [hafter, stackAfter, if_neg hsuspended, hstack])
          rwa [hgeneration] at hloop
      · have hscheduled : (h.scheduleNext job h.generation).Scheduled jobs :=
          hS.tail.scheduleNext hrunning hfree (mt Busy.hasRun hrun)
            fun later hlater hid => absurd hid (hdistinct later hlater)
        have harmed : ∀ id, (h.scheduleNext job h.generation).HasTimer id
            ↔ h.HasTimer id ∨ job.id = id := fun id => hasTimer_scheduleNext hrunning
        rw [RuntimeHost.scheduleNext, if_pos ⟨hrunning, rfl⟩] at hscheduled harmed ⊢
        refine ih ⟨hscheduled, fun _ other hother => ?_⟩ hrunning hstack
        by_cases hid : other.id = job.id
        · exact .inr (.inl ((harmed other.id).mpr (.inr hid.symm)))
        · rcases hothers other hother hid with hbusy | htimer | hpending
          · exact .inl hbusy
          · exact .inr (.inl ((harmed other.id).mpr (.inl htimer)))
          · exact .inr (.inr hpending)

lemma mayWake_iff : h.mayWake id = true ↔ (∀ r ∈ h.runs, r.job.id = id → r.entered = true)
    ∧ ∀ job ∈ h.pendingJobs, job.id = id → job.runOnStart = true := by
  simp only [mayWake, Bool.and_eq_true, List.all_eq_true, Bool.or_eq_true, decide_eq_true_eq, ← imp_iff_or_not]

variable {h' : RuntimeHost ω}

/-- **`runNow`**, where it may be called. -/
lemma Going.runNow (hG : h.Going h.pendingJobs) (hmay : h.mayWake id = true) {rest : HostRest ω}
    (hrest : ∀ jobs generation, rest ≠ .start jobs generation) (hhook : rest ≠ .hook)
    {suspended : Bool} (hcall : h.runNow id rest = .ok (h', suspended)) : h'.Going h'.pendingJobs
      ∧ (suspended = false → ∀ other, h.mayWake other = true → h'.mayWake other = true) := by
  obtain ⟨hentered, hlater⟩ := mayWake_iff.mp hmay
  have hS := hG.scheduled
  have hnone : rest.jobs = [] := by
    cases rest with
    | start jobs generation => exact absurd rfl (hrest jobs generation)
    | hook | nothing => rfl
    | wake ids since => rfl
  rw [RuntimeHost.runNow] at hcall
  by_cases hrunning : h.stateValue = .running
  · rw [if_neg (not_not.mpr hrunning)] at hcall
    split at hcall
    · cases hcall
    · rename_i job hfind
      obtain rfl : job.id = id := by simpa using List.find?_some hfind
      by_cases htable : h.inFlight.contains job.id = true
      · rw [if_pos htable] at hcall
        obtain ⟨rfl, rfl⟩ := Prod.mk.inj (Except.ok.inj hcall)
        exact ⟨hG, fun _ _ hother => hother⟩
      · rw [if_neg htable] at hcall
        have hidle : ¬ h.HasRun job.id := mt (hS.hasRun_iff hentered).mpr htable
        obtain ⟨hcancelled, htimers⟩ := hS.cancelScheduled job.id
        obtain ⟨hruns, hstack, hjobs, hstate, hgeneration⟩ := h.cancelScheduled_others job.id
        have hothers : ∀ other ∈ (h.cancelScheduled job.id).jobs, other.id ≠ job.id →
            (h.cancelScheduled job.id).Covered h.pendingJobs other := by
          intro other hother hid
          rw [hjobs] at hother
          rw [Covered, Busy, HasRun, htimers, hruns]
          rcases hG.covered hrunning other hother with hbusy | htimer | hpending
          · exact .inl hbusy
          · exact .inr (.inl ⟨hid, htimer⟩)
          · exact .inr (.inr hpending)
        obtain ⟨hgoing, hafter, hentering, -, -, -⟩ := Going.execute hcancelled (hstate.trans hrunning) hothers
          (by rw [HasRun, hruns]; exact hidle) (fun htimer => ((htimers job.id).mp htimer).1 rfl)
          (fun later hmem hid => hlater later hmem hid) .call rest
          (fun jobs generation heq => absurd heq (hrest jobs generation)) (fun hjobs => absurd hnone hjobs) hhook
        rw [hgeneration, Except.ok.inj hcall] at hgoing hafter hentering
        dsimp only at hgoing hafter hentering
        rw [stackAfter, hstack] at hafter
        rw [hruns] at hentering
        have hpending : h'.pendingJobs = h.pendingJobs := by
          rw [pendingJobs, hafter]
          split_ifs
          · rw [List.flatMap_cons, hnone]
            rfl
          · rfl
        refine ⟨hpending ▸ hgoing, fun hreturned other hother => ?_⟩
        obtain ⟨hentered', hlater'⟩ := mayWake_iff.mp hother
        refine mayWake_iff.mpr ⟨fun r hr hid => ?_, hpending ▸ hlater'⟩
        rcases hentering hreturned r hr with hin | hold
        · exact hin
        · exact hentered' r hold hid
  · rw [if_pos hrunning] at hcall
    obtain ⟨rfl, rfl⟩ := Prod.mk.inj (Except.ok.inj hcall)
    exact ⟨hG, fun _ _ hother => hother⟩

/-- **The calls of a wake-up**, where they may be made. -/
lemma Going.wakeJobs {ids : List String} {since : Nat} (hG : h.Going h.pendingJobs)
    (hmay : ∀ id ∈ ids, h.mayWake id = true) :
    (h.wakeJobs since ids).Going (h.wakeJobs since ids).pendingJobs := by
  induction ids generalizing h with
  | nil => exact hG
  | cons id ids ih =>
    rw [RuntimeHost.wakeJobs]
    split
    · exact hG
    · rename_i woken suspended hcall
      obtain ⟨hgoing, hstill⟩ := hG.runNow (hmay id List.mem_cons_self) (fun _ _ => by simp) (by simp) hcall
      split_ifs with hsuspended
      · exact hgoing
      · exact ih hgoing fun other hother =>
          hstill (by simpa using hsuspended) other (hmay other (List.mem_cons_of_mem _ hother))

/-! ### What runs do -/

lemma busy_modifyRun (hf : Inside f) (hstage : ∀ r, (f r).stage = .settled → r.stage = .settled)
    (hbusy : h.Busy id) : (h.modifyRun n f).Busy id := by
  obtain ⟨r, hr, rfl, hunsettled⟩ := hbusy
  refine ⟨_, mem_modifyRun.mpr ⟨r, hr, rfl⟩, ?_⟩
  split_ifs
  · exact ⟨by rw [(hf r).2.1], mt (hstage r) hunsettled⟩
  · exact ⟨rfl, hunsettled⟩

lemma Going.modifyRun (hG : h.Going pending) (hr : r ∈ h.runs) (hf : Inside f)
    (hentered : (f r).entered = r.entered) (hbefore : r.stage ≠ .settled)
    (hstage : ∀ r, (f r).stage = .settled → r.stage = .settled)
    (hhook : r.entered = true → ∀ frame ∈ h.stack, frame.run = r.number → (f r).stage = .failing) :
    (h.modifyRun r.number f).Going pending where
  scheduled := hG.scheduled.modifyRun hr hf hentered (fun _ => hbefore) hhook
  covered hrunning job hjob := by
    rcases hG.covered hrunning job hjob with hbusy | htimer | ⟨hmem, hidle⟩
    · exact .inl (busy_modifyRun hf hstage hbusy)
    · exact .inr (.inl htimer)
    · exact .inr (.inr ⟨hmem, mt (hasRun_modifyRun hf).mp hidle⟩)

lemma Going.updateJobSnapshot (hG : h.Going pending) (id : String)
    (update : HostJobSnapshot → HostJobSnapshot) : (h.updateJobSnapshot id update).Going pending where
  scheduled := { hG.scheduled with timed := { hG.scheduled.timed with } }
  covered := hG.covered

/-- **A run settles**, and its job is scheduled anew while the host is running. -/
lemma Going.settleRun (hG : h.Going pending) (hr : r ∈ h.runs) (hstage : r.stage ≠ .settled)
    (hframe : r.entered = true → ∀ frame ∈ h.stack, frame.run ≠ r.number) : (h.settleRun r).Going pending := by
  have hS := hG.scheduled
  have hf : Inside fun r : HostRun ω => { r with stage := .settled } := fun _ => ⟨rfl, rfl, rfl⟩
  set settled := h.modifyRun r.number fun r => { r with stage := .settled } with hsettled
  have hsettledS : settled.Scheduled pending := hS.modifyRun hr hf rfl (fun hne => absurd rfl hne)
    fun hentered frame hmem heq => absurd heq (hframe hentered frame hmem)
  have hmem : ∀ r', r' ∈ settled.runs
      ↔ r' = { r with stage := .settled } ∨ (r' ∈ h.runs ∧ r'.number ≠ r.number) := fun r' =>
    hS.mem_modifyRun hr
  have hidle : ¬ settled.Busy r.job.id := by
    rintro ⟨r', hr', hid, hunsettled⟩
    rcases (hmem r').mp hr' with rfl | ⟨hr', hne⟩
    · exact hunsettled rfl
    · exact hne (congrArg HostRun.number (hS.job_eq hr' hr hid))
  have hfree : ¬ settled.HasTimer r.job.id := fun htimer => hS.exclusive _ htimer ⟨r, hr, rfl, hstage⟩
  have hrun : settled.HasRun r.job.id := (hasRun_modifyRun hf).mpr ⟨r, hr, rfl⟩
  rw [RuntimeHost.settleRun]
  split_ifs with hlive
  · obtain ⟨hrunning, hgeneration⟩ := hlive
    have harmed : ∀ id, (settled.scheduleNext r.job settled.generation).HasTimer id
        ↔ settled.HasTimer id ∨ r.job.id = id := fun id => hasTimer_scheduleNext hrunning
    have hscheduled : (settled.scheduleNext r.job settled.generation).Scheduled pending :=
      hsettledS.scheduleNext hrunning hfree hidle fun _ _ _ => hrun
    rw [hgeneration]
    rw [show h.generation = settled.generation from rfl]
    refine ⟨hscheduled, fun _ job hjob => ?_⟩
    rw [RuntimeHost.scheduleNext, if_pos ⟨hrunning, rfl⟩] at harmed hjob ⊢
    by_cases hid : job.id = r.job.id
    · exact .inr (.inl ((harmed job.id).mpr (.inr hid.symm)))
    · rcases hG.covered hrunning job hjob with ⟨r', hr', hsame, hunsettled⟩ | htimer | ⟨hin, hnone⟩
      · exact .inl ⟨r', (hmem r').mpr (.inr ⟨hr', fun hn => hid (by rw [← hsame, hS.run_eq hr' hr hn])⟩),
          hsame, hunsettled⟩
      · exact .inr (.inl ((harmed job.id).mpr (.inl htimer)))
      · exact .inr (.inr ⟨hin, mt (hasRun_modifyRun hf).mp hnone⟩)
  · have hhalted : h.stateValue ≠ .running := fun hrunning =>
      hlive ⟨hrunning, hS.current hrunning r hr⟩
    exact Going.updateJobSnapshot ⟨hsettledS, fun hrunning => absurd hrunning hhalted⟩ _ _

/-- A run fails, and its hook is to be called. -/
lemma Going.failRun (hG : h.Going pending) (hr : r ∈ h.runs) (hstage : r.stage ≠ .settled) :
    (h.failRun r).Going pending :=
  Going.updateJobSnapshot (hG.modifyRun (f := fun r => { r with stage := .failing }) hr
    (fun _ => ⟨rfl, rfl, rfl⟩) rfl hstage (fun _ h => by cases h) fun _ _ _ _ => rfl) _ _

lemma going_of_stack (hstack : h.stack = []) : h.Going h.pendingJobs ↔ h.Going [] := by
  rw [pendingJobs, hstack]
  exact Iff.rfl

lemma Going.of_stack (hG : h.Going []) (hstack : h.stack = []) : h.Going h.pendingJobs :=
  (going_of_stack hstack).mpr hG

lemma Going.failEntered (hG : h.Going []) (hstack : h.stack = []) (hr : r ∈ h.runs)
    (hstage : r.stage ≠ .settled) : (h.failEntered r).Going (h.failEntered r).pendingJobs := by
  have hfailed := hG.failRun hr hstage
  have hpending : (h.failEntered r).pendingJobs = [] := by
    rw [pendingJobs, RuntimeHost.failEntered]
    dsimp only
    rw [hstack]
    rfl
  rw [hpending]
  refine ⟨?_, hfailed.covered⟩
  exact hfailed.scheduled.pushHook (r := { r with stage := .failing }) hstack
    (mem_modifyRun.mpr ⟨r, hr, if_pos rfl⟩) rfl (hG.scheduled.entered_of_stack hstack r hr)

lemma stack_settleRun (h : RuntimeHost ω) (r : HostRun ω) : (h.settleRun r).stack = h.stack := by
  rw [settleRun, scheduleNext]
  dsimp only
  split_ifs <;> rfl

lemma Going.settleNoted (hG : h.Going []) (hstack : h.stack = []) (hr : r ∈ h.runs)
    (hstage : r.stage ≠ .settled) (update : HostJobSnapshot → HostJobSnapshot) :
    ((h.updateJobSnapshot r.job.id update).settleRun r).Going
      ((h.updateJobSnapshot r.job.id update).settleRun r).pendingJobs := by
  refine ((hG.updateJobSnapshot _ _).settleRun hr hstage fun _ frame hframe => ?_).of_stack
    ((stack_settleRun _ _).trans hstack)
  have hframe : frame ∈ h.stack := hframe
  rw [hstack] at hframe
  cases hframe

lemma Going.receiveCheck (hG : h.Going []) (hstack : h.stack = []) (hr : r ∈ h.runs)
    (hstage : r.stage ≠ .settled) (answer : Except Unit Bool) :
    (h.receiveCheck r answer).Going (h.receiveCheck r answer).pendingJobs := by
  match answer with
  | .error () => exact hG.failEntered hstack hr hstage
  | .ok false => exact hG.settleNoted hstack hr hstage _
  | .ok true =>
    refine Going.of_stack (hG.modifyRun (f := fun r => { r with stage := .working }) hr
      (fun _ => ⟨rfl, rfl, rfl⟩) rfl hstage (fun _ h => by cases h) fun _ frame hframe => ?_) hstack
    rw [hstack] at hframe
    cases hframe

lemma Going.finishWork (hG : h.Going []) (hstack : h.stack = []) (hr : r ∈ h.runs)
    (hstage : r.stage ≠ .settled) (succeeded : Bool) :
    (h.finishWork r succeeded).Going (h.finishWork r succeeded).pendingJobs := by
  rw [RuntimeHost.finishWork]
  split_ifs
  · exact hG.settleNoted hstack hr hstage _
  · exact hG.failEntered hstack hr hstage

lemma Going.leave (hG : h.Going []) (hstack : h.stack = []) (hr : r ∈ h.runs) (hin : r.entered = true)
    (hstage : r.stage = .settled) : (h.leave r).Going (h.leave r).pendingJobs := by
  refine Going.of_stack ⟨hG.scheduled.leave hstack hr hin, fun hrunning job hjob => ?_⟩ hstack
  rcases hG.covered hrunning job hjob with ⟨r', hr', hid, hunsettled⟩ | htimer | ⟨hmem, -⟩
  · refine .inl ⟨r', List.mem_filter.mpr ⟨hr', ?_⟩, hid, hunsettled⟩
    rw [bne_iff_ne]
    intro hn
    exact hunsettled (hG.scheduled.run_eq hr' hr hn ▸ hstage)
  · exact .inr (.inl htimer)
  · cases hmem

/-! ### The owner -/

/-- Cancelling timers does not look at the state of the host. -/
lemma cancelAll_halted (h : RuntimeHost ω) (ids : List String) (state : HostState) (generation : Nat) :
    ids.foldl cancelScheduled { h with stateValue := state, generation := generation }
      = { ids.foldl cancelScheduled h with stateValue := state, generation := generation } := by
  induction ids generalizing h with
  | nil => rfl
  | cons id ids ih =>
    have hone : cancelScheduled { h with stateValue := state, generation := generation } id
        = { h.cancelScheduled id with stateValue := state, generation := generation } := by
      simp only [cancelScheduled]
      split <;> rfl
    rw [List.foldl_cons, List.foldl_cons, hone, ih]

lemma Scheduled.cancelAll (hS : h.Scheduled pending) (ids : List String) :
    (ids.foldl RuntimeHost.cancelScheduled h).Scheduled pending
      ∧ (∀ id, (ids.foldl RuntimeHost.cancelScheduled h).HasTimer id → id ∉ ids ∧ h.HasTimer id)
      ∧ (ids.foldl RuntimeHost.cancelScheduled h).runs = h.runs
      ∧ (ids.foldl RuntimeHost.cancelScheduled h).stack = h.stack := by
  induction ids generalizing h with
  | nil => exact ⟨hS, fun id htimer => ⟨List.not_mem_nil, htimer⟩, rfl, rfl⟩
  | cons id ids ih =>
    obtain ⟨hcancelled, htimers⟩ := hS.cancelScheduled id
    obtain ⟨hruns, hstack, -⟩ := h.cancelScheduled_others id
    obtain ⟨hall, hleft, hruns', hstack'⟩ := ih hcancelled
    refine ⟨hall, fun id' htimer => ?_, hruns'.trans hruns, hstack'.trans hstack⟩
    obtain ⟨hnone, htimer⟩ := hleft id' htimer
    obtain ⟨hne, htimer⟩ := (htimers id').mp htimer
    exact ⟨by simp [hne, hnone], htimer⟩

/-- **`stop`**, when every run is in the table. -/
lemma Going.stop (hG : h.Going h.pendingJobs) (hentered : ∀ r ∈ h.runs, r.entered = true) :
    h.stop.Going h.stop.pendingJobs := by
  rw [RuntimeHost.stop]
  split_ifs with hdone
  · exact hG
  · obtain ⟨hnotStopped, hnoPromise⟩ := not_or.mp hdone
    have hS := hG.scheduled
    have hrunning : h.stateValue = .running := by
      cases hstate : h.stateValue with
      | running => rfl
      | stopped => exact absurd hstate hnotStopped
      | stopping => exact absurd (hS.promised hstate) hnoPromise
    have hrests : ∀ f ∈ h.stack, f.rest = .hook := fun f hf => by
      obtain ⟨r, hr, -, -, hhook⟩ := hS.frames f hf
      exact hhook.mp (hentered r hr)
    have hpending : h.pendingJobs = [] := by
      rw [pendingJobs, List.flatMap_eq_nil_iff]
      intro f hf
      rw [hrests f hf]
      rfl
    obtain ⟨hC, htimers, hruns, hstack⟩ := hS.cancelAll h.timers.keys
    have harmed : (h.timers.keys.foldl RuntimeHost.cancelScheduled h).armed = [] := by
      rw [List.eq_nil_iff_forall_not_mem]
      intro t ht
      obtain ⟨hnone, t', ht', hid⟩ := htimers t.job.id ⟨t, ht, rfl⟩
      refine hnone (hid ▸ ?_)
      by_contra hkey
      rw [← OrderedMap.get?_eq_none, hS.timed.listed t' ht'] at hkey
      cases hkey
    rw [hpending] at hC
    dsimp only
    rw [cancelAll_halted]
    have hnopending : RuntimeHost.pendingJobs { h.timers.keys.foldl RuntimeHost.cancelScheduled h with
        stateValue := .stopping, generation := h.generation + 1,
        stopPromise := some h.inFlight.values } = [] := by
      show (h.timers.keys.foldl RuntimeHost.cancelScheduled h).stack.flatMap _ = []
      rw [hstack]
      exact hpending
    rw [hnopending]
    refine ⟨{ hC with
      current := fun hstate => by cases hstate
      timed := { hC.timed with
        live := fun t ht => by
          rw [harmed] at ht
          cases ht }
      starting := fun r hr hout => by
        rw [hentered r (hruns ▸ hr)] at hout
        cases hout
      generations := fun f hf jobs generation heq => by
        rw [hrests f (hstack ▸ hf)] at heq
        cases heq
      pendingRunning := fun hne => absurd rfl hne
      waits := fun awaited hpromise => by
        obtain rfl := Option.some.inj hpromise
        refine ⟨rfl, fun r hr => OrderedMap.mem_values.mpr ⟨r.job.id, ?_⟩⟩
        have hr : r ∈ h.runs := hruns ▸ hr
        exact hS.table r hr (hentered r hr)
      promised := fun _ => rfl
      drained := fun hstate => by cases hstate }, fun hstate => by cases hstate⟩

/-- **The continuation of `stop`**, after the runs it waits for. -/
lemma Going.finishStop (hG : h.Going []) (hstack : h.stack = []) {awaited : List Nat}
    (hpromise : h.stopPromise = some awaited) (hruns : ∀ r ∈ h.runs, r.number ∉ awaited) :
    h.finishStop.Going h.finishStop.pendingJobs := by
  have hS := hG.scheduled
  obtain ⟨hstopping, hawaited⟩ := hS.waits awaited hpromise
  have hnone : h.runs = [] := by
    rw [List.eq_nil_iff_forall_not_mem]
    exact fun r hr => hruns r hr (hawaited r hr)
  refine Going.of_stack ⟨{ hS with
    current := fun hstate => by cases hstate
    timed := { hS.timed with
      live := fun t ht => by
        have hlive := (hS.timed.live t ht).1
        rw [hstopping] at hlive
        cases hlive }
    starting := fun r hr => by
      have hr : r ∈ h.runs := hr
      rw [hnone] at hr
      cases hr
    pendingRunning := fun hne => absurd rfl hne
    waits := fun awaited hpromise => by cases hpromise
    promised := fun hstate => by cases hstate
    drained := fun _ => hnone }, fun hstate => by cases hstate⟩ hstack

/-- **`start`.** -/
lemma Going.start (hG : h.Going h.pendingJobs) (hcall : h.start = .ok h') :
    h'.Going h'.pendingJobs := by
  have hS := hG.scheduled
  cases hstate : h.stateValue with
  | running =>
    rw [RuntimeHost.start, hstate] at hcall
    exact Except.ok.inj hcall ▸ hG
  | stopping =>
    rw [RuntimeHost.start, hstate] at hcall
    cases hcall
  | stopped =>
    have hruns := hS.drained hstate
    have hstack : h.stack = [] := by
      rw [List.eq_nil_iff_forall_not_mem]
      intro f hf
      obtain ⟨r, hr, -⟩ := hS.frames f hf
      rw [hruns] at hr
      cases hr
    have harmed : h.armed = [] := by
      rw [List.eq_nil_iff_forall_not_mem]
      intro t ht
      have hlive := (hS.timed.live t ht).1
      rw [hstate] at hlive
      cases hlive
    have hnoRun : ∀ id, ¬ h.HasRun id := fun id => by
      rintro ⟨r, hr, -⟩
      rw [hruns] at hr
      cases hr
    have hnoTimer : ∀ id, ¬ h.HasTimer id := fun id => by
      rintro ⟨t, ht, -⟩
      rw [harmed] at ht
      cases ht
    have hnoPromise : ∀ awaited, h.stopPromise ≠ some awaited := fun awaited hpromise => by
      have hstopping := (hS.waits awaited hpromise).1
      rw [hstate] at hstopping
      cases hstopping
    rw [RuntimeHost.start, hstate] at hcall
    obtain rfl := Except.ok.inj hcall
    refine Going.startJobs (h := { h with stateValue := .running, generation := h.generation + 1 })
      ⟨{ hS with
        current := fun _ r hr => (hnoRun r.job.id ⟨r, hr, rfl⟩).elim
        timed := { hS.timed with live := fun t ht => (hnoTimer t.job.id ⟨t, ht, rfl⟩).elim }
        starting := fun _ _ _ => rfl
        generations := fun f hf => by
          have hf : f ∈ h.stack := hf
          rw [hstack] at hf
          cases hf
        pendingIds := hS.jobIds
        pendingRunning := fun _ => rfl
        quiet := fun job _ => ⟨fun _ => hnoRun job.id, fun htimer => (hnoTimer job.id htimer).elim⟩
        waits := fun awaited hpromise => (hnoPromise awaited hpromise).elim
        promised := fun hstopping => by cases hstopping
        drained := fun hstopped => by cases hstopped },
      fun _ job hjob => .inr (.inr ⟨hjob, hnoRun job.id⟩)⟩ rfl hstack

/-- **A timer fires** when no continuation is due. -/
lemma Going.fire (hG : h.Going []) (hstack : h.stack = []) {t : HostTimer ω} (ht : t ∈ h.armed)
    (hsettled : ∀ r ∈ h.runs, r.stage ≠ .settled) : (h.fire t).Going (h.fire t).pendingJobs := by
  have hS := hG.scheduled
  have hfound := hS.timed.listed t ht
  have hleft := hS.timed.hasTimer_disarm hfound
  obtain ⟨hrunning, hgeneration⟩ := hS.timed.live t ht
  have hidle : ¬ h.HasRun t.job.id := by
    rintro ⟨r, hr, hid⟩
    exact hS.exclusive _ ⟨t, ht, rfl⟩ ⟨r, hr, hid, hsettled r hr⟩
  set unarmed : RuntimeHost ω := { h with
    armed := h.armed.filter fun other => other.handle != t.handle
    timers := h.timers.erase t.job.id } with hunarmed
  have hscheduled : unarmed.Scheduled [] := { hS with
    timed := { hS.timed.disarm hfound with }
    exclusive := fun id htimer => hS.exclusive id ((hleft id).mp htimer).2
    quiet := fun job hjob => by cases hjob }
  have hothers : ∀ other ∈ unarmed.jobs, other.id ≠ t.job.id → unarmed.Covered [] other := by
    intro other hother hid
    rcases hG.covered hrunning other hother with hbusy | htimer | ⟨hmem, -⟩
    · exact .inl hbusy
    · exact .inr (.inl ((hleft other.id).mpr ⟨hid, htimer⟩))
    · cases hmem
  obtain ⟨hgoing, hafter, -⟩ := Going.execute hscheduled hrunning hothers hidle
    (fun htimer => ((hleft t.job.id).mp htimer).1 rfl) (fun later hlater => by cases hlater)
    (.timer t.delayMs) .nothing (fun _ _ heq => by cases heq) (fun hjobs => absurd rfl hjobs) (by simp)
  have hfire : h.fire t = (unarmed.execute t.job unarmed.generation (.timer t.delayMs) .nothing).1 := by
    rw [RuntimeHost.fire, hgeneration]
  have hnone : (h.fire t).pendingJobs = [] := by
    rw [hfire, pendingJobs, hafter, stackAfter]
    show List.flatMap _ (if _ then HostFrame.mk _ .nothing :: h.stack else h.stack) = []
    rw [hstack]
    split_ifs <;> rfl
  rw [hnone, hfire]
  exact hgoing

/-! ### Steps -/

lemma Going.resume {rest : HostRest ω} (hG : h.Going (rest.jobs ++ h.pendingJobs))
    (hgeneration : ∀ jobs generation, rest = .start jobs generation → generation = h.generation)
    (hbottom : rest.jobs ≠ [] → h.stack = [])
    (hmay : ∀ ids since, rest = .wake ids since → ∀ id ∈ ids, h.mayWake id = true) :
    (h.resume rest).Going (h.resume rest).pendingJobs := by
  cases rest with
  | hook | nothing => exact hG
  | wake ids since => exact Going.wakeJobs hG (hmay ids since rfl)
  | start jobs generation =>
    obtain rfl := hgeneration jobs generation rfl
    cases jobs with
    | nil => exact hG
    | cons job jobs =>
      have hstack := hbottom (List.cons_ne_nil _ _)
      have hnil : h.pendingJobs = [] := by
        rw [pendingJobs, hstack]
        rfl
      rw [hnil, List.append_nil] at hG
      exact hG.startJobs (hG.scheduled.pendingRunning (List.cons_ne_nil _ _)) hstack

/-- The hook of a failure returns, and the run settles. -/
lemma Going.returnHook (hG : h.Going h.pendingJobs) {rest : HostRest ω} (hactive : h.active = some (r, rest))
    (hfailing : r.stage = .failing) : (h.returnHook r rest).Going (h.returnHook r rest).pendingJobs := by
  have hS := hG.scheduled
  obtain ⟨hr, frame, hstack, hframe, hrest⟩ := active_iff hactive
  have hunsettled : r.stage ≠ .settled := fun hsettled => by
    rw [hfailing] at hsettled
    cases hsettled
  have hentered : r.entered = true ↔ rest = .hook := by
    obtain ⟨r', hr', hnumber, -, hhook⟩ := hS.frames frame (hstack ▸ List.mem_cons_self)
    obtain rfl := hS.run_eq hr hr' (hframe.trans hnumber.symm)
    rw [hhook, hrest]
  have hstaying : rest ≠ .hook → (h.settleRun r).Going (h.settleRun r).pendingJobs := fun hnot => by
    rw [pendingJobs, stack_settleRun]
    exact hG.settleRun hr hunsettled fun hin => absurd (hentered.mp hin) hnot
  cases rest with
  | hook =>
    obtain ⟨hpopped, hothers⟩ := hS.popHook hstack hr hframe (hentered.mpr rfl)
    have hpending : h.pendingJobs = h.stack.tail.flatMap fun f => f.rest.jobs := by
      rw [pendingJobs, hstack, List.flatMap_cons, hrest]
      rfl
    have hgoing : Going { h with stack := h.stack.tail } h.pendingJobs := ⟨hpopped, hG.covered⟩
    rw [RuntimeHost.returnHook, pendingJobs, stack_settleRun]
    exact hpending ▸ hgoing.settleRun hr hunsettled fun _ => hothers
  | nothing => exact hstaying (by simp)
  | start => exact hstaying (by simp)
  | wake => exact hstaying (by simp)

/-- **A sound step** keeps the invariant. -/
lemma going_step {e : HostEvent ω} (hG : h.Going h.pendingJobs) (hstep : h.soundStep e = some h') :
    h'.Going h'.pendingJobs := by
  obtain ⟨hsound, hstep⟩ := Option.ite_none_right_eq_some.mp hstep
  have hS := hG.scheduled
  cases e with
  | outside world now =>
    obtain rfl := Option.some.inj hstep
    exact ⟨{ hS with timed := { hS.timed with } }, hG.covered⟩
  | start =>
    obtain rfl := Option.some.inj hstep
    cases hcall : h.start with
    | error => exact hG
    | ok started => exact hG.start hcall
  | runNow id =>
    obtain rfl := Option.some.inj hstep
    cases hcall : h.runNow id .nothing with
    | error => exact hG
    | ok result => exact (hG.runNow hsound (fun _ _ heq => by cases heq) (by simp) hcall).1
  | stop =>
    obtain rfl := Option.some.inj hstep
    exact hG.stop (List.all_eq_true.mp hsound)
  | wake synchronizeNetworkIdentity profileService =>
    obtain rfl := Option.some.inj hstep
    have hnoted : (h.requestWakes (accountJobs synchronizeNetworkIdentity profileService)).Going
        h.pendingJobs := ⟨{ hS with timed := { hS.timed with } }, hG.covered⟩
    exact Going.wakeJobs hnoted (List.all_eq_true.mp hsound)
  | threw =>
    simp only [step] at hstep
    split at hstep
    · rename_i r rest hactive
      obtain ⟨hr, frame, hstack, hframe, -⟩ := active_iff hactive
      split_ifs at hstep with hstarting
      obtain rfl := Option.some.inj hstep
      exact hG.failRun hr fun hsettled => by rw [hstarting] at hsettled; cases hsettled
    · cases hstep
  | hookReturned =>
    simp only [step] at hstep
    split at hstep
    · rename_i r rest hactive
      split_ifs at hstep with hfailing
      exact Option.some.inj hstep ▸ hG.returnHook hactive hfailing
    · cases hstep
  | returned =>
    simp only [step] at hstep
    split at hstep
    · rename_i r rest hactive
      obtain ⟨hr, frame, hstack, hframe, hrest⟩ := active_iff hactive
      split_ifs at hstep with hready
      obtain rfl := Option.some.inj hstep
      have hpending : h.pendingJobs
          = rest.jobs ++ (RuntimeHost.enter { h with stack := h.stack.tail } r).pendingJobs := by
        show h.pendingJobs = rest.jobs ++ h.stack.tail.flatMap fun f => f.rest.jobs
        rw [pendingJobs, hstack, List.flatMap_cons, hrest]
        rfl
      have hentered := hG.enter hstack hr hframe
      rw [hpending] at hentered
      refine hentered.resume (fun jobs generation heq => ?_) (fun hjobs => ?_) fun ids since heq => ?_
      · exact hS.generations frame (hstack ▸ List.mem_cons_self) jobs generation (hrest.trans heq)
      · exact hS.bottom frame h.stack.tail (hstack ▸ List.suffix_refl _) (hrest ▸ hjobs)
      · subst heq
        simp only [sound, hactive, List.all_eq_true] at hsound
        exact hsound
    · cases hstep
  | checked run answer =>
    simp only [step] at hstep
    split at hstep
    · rename_i r hwaiting
      obtain ⟨hstack, hr, -, -, hstage⟩ := waiting_iff hwaiting
      have hG' : h.Going [] := (going_of_stack hstack).mp hG
      have hunsettled : r.stage ≠ .settled := fun hsettled => by
        rw [hstage] at hsettled
        cases hsettled
      split at hstep
      · exact Option.some.inj hstep ▸ hG'.receiveCheck hstack hr hunsettled _
      · exact Option.some.inj hstep ▸ hG'.receiveCheck hstack hr hunsettled _
      · cases hstep
    · cases hstep
  | worked run succeeded =>
    obtain ⟨r, hwaiting, rfl⟩ := Option.map_eq_some_iff.mp hstep
    obtain ⟨hstack, hr, -, -, hstage⟩ := waiting_iff hwaiting
    have hG' : h.Going [] := (going_of_stack hstack).mp hG
    refine hG'.finishWork hstack hr (fun hsettled => ?_) succeeded
    rw [hstage] at hsettled
    cases hsettled
  | left run =>
    obtain ⟨r, hwaiting, rfl⟩ := Option.map_eq_some_iff.mp hstep
    obtain ⟨hstack, hr, -, hentered, hstage⟩ := waiting_iff hwaiting
    have hG' : h.Going [] := (going_of_stack hstack).mp hG
    exact hG'.leave hstack hr hentered hstage
  | stopReturned =>
    simp only [step] at hstep
    split at hstep
    · rename_i awaited hpromise
      split_ifs at hstep with hready
      obtain rfl := Option.some.inj hstep
      obtain ⟨hempty, hgone⟩ := hready
      have hstack : h.stack = [] := by simpa using hempty
      have hG' : h.Going [] := (going_of_stack hstack).mp hG
      refine hG'.finishStop hstack hpromise fun r hr hmem => ?_
      simpa [hmem] using List.all_eq_true.mp hgone r hr
    · cases hstep
  | fired handle =>
    simp only [step] at hstep
    split_ifs at hstep with hready
    obtain ⟨t, hfound, rfl⟩ := Option.map_eq_some_iff.mp hstep
    obtain ⟨hempty, hdue⟩ := hready
    have hstack : h.stack = [] := by simpa using hempty
    have hG' : h.Going [] := (going_of_stack hstack).mp hG
    refine hG'.fire hstack (List.mem_of_find?_eq_some hfound) fun r hr => ?_
    simpa using List.all_eq_true.mp hdue r hr

/-! ### Failures -/

/-- The run whose failure an event is, or the end of whose failure. -/
def failing (h : RuntimeHost ω) : HostEvent ω → Option (HostRun ω)
  | .threw | .hookReturned => h.active.map Prod.fst
  | .checked run (.error ()) => h.waiting run .checking
  | .worked run false => h.waiting run .working
  | _ => none

/-- Nothing of the job changes: neither its runs nor its timer nor its snapshot. -/
structure Unmoved (h h' : RuntimeHost ω) (id : String) : Prop where
  runs : h'.runs.filter (fun r => r.job.id = id) = h.runs.filter fun r => r.job.id = id
  armed : h'.armed.filter (fun t => t.job.id = id) = h.armed.filter fun t => t.job.id = id
  timers : h'.timers.get? id = h.timers.get? id
  inFlight : h'.inFlight.get? id = h.inFlight.get? id
  snapshot : h'.jobSnapshots.get? id = h.jobSnapshots.get? id

lemma Unmoved.trans {h'' : RuntimeHost ω} (hU : h.Unmoved h' id) (hU' : h'.Unmoved h'' id) :
    h.Unmoved h'' id :=
  ⟨hU'.runs.trans hU.runs, hU'.armed.trans hU.armed, hU'.timers.trans hU.timers,
    hU'.inFlight.trans hU.inFlight, hU'.snapshot.trans hU.snapshot⟩

lemma unmoved_updateJobSnapshot {other : String} (hne : id ≠ other)
    (update : HostJobSnapshot → HostJobSnapshot) : h.Unmoved (h.updateJobSnapshot other update) id where
  runs := rfl
  armed := rfl
  timers := rfl
  inFlight := rfl
  snapshot := by
    rw [updateJobSnapshot]
    cases h.jobSnapshots.get? other with
    | none => rfl
    | some current => rw [OrderedMap.get?_set, if_neg hne]

lemma unmoved_modifyRun (hother : ∀ old ∈ h.runs, old.number = n → old.job.id ≠ id) (hf : Inside f) :
    h.Unmoved (h.modifyRun n f) id where
  runs := by
    rw [modifyRun, List.filter_map]
    refine (List.map_congr_left (g := fun r => r) fun old hold => ?_).trans ?_
    · obtain ⟨hold, hjob⟩ := List.mem_filter.mp hold
      refine if_neg fun hn => hother old hold hn ?_
      simpa [hn, (hf old).2.1] using hjob
    · rw [List.map_id']
      refine List.filter_congr fun old hold => ?_
      rw [Function.comp_apply]
      split_ifs
      · rw [(hf old).2.1]
      · rfl
  armed := rfl
  timers := rfl
  inFlight := rfl
  snapshot := rfl

lemma unmoved_scheduleNext (hne : id ≠ job.id) (generation : Nat) :
    h.Unmoved (h.scheduleNext job generation) id := by
  rw [scheduleNext]
  split_ifs
  · have harmed : h.Unmoved { h with
        armed := h.armed ++ [⟨h.handles, job, generation, h.nextDelay job⟩]
        handles := h.handles + 1
        timers := h.timers.set job.id h.handles } id := by
      refine ⟨rfl, ?_, ?_, rfl, rfl⟩
      · simp [List.filter_append, hne.symm]
      · rw [OrderedMap.get?_set, if_neg hne]
    exact harmed.trans (unmoved_updateJobSnapshot hne _)
  · exact ⟨rfl, rfl, rfl, rfl, rfl⟩

lemma unmoved_settleRun (hother : ∀ old ∈ h.runs, old.number = r.number → old.job.id ≠ id)
    (hne : id ≠ r.job.id) : h.Unmoved (h.settleRun r) id := by
  have hsettled : h.Unmoved (h.modifyRun r.number fun r => { r with stage := .settled }) id :=
    unmoved_modifyRun hother fun _ => ⟨rfl, rfl, rfl⟩
  rw [settleRun]
  split_ifs
  · exact hsettled.trans (unmoved_scheduleNext hne _)
  · exact hsettled.trans (unmoved_updateJobSnapshot hne _)

/-- **The failure of a job leaves the others alone.** -/
lemma Scheduled.unmoved_failing (hS : h.Scheduled pending) {e : HostEvent ω}
    (hstep : h.step e = some h') (hfailing : h.failing e = some r) (hne : id ≠ r.job.id) :
    h.Unmoved h' id := by
  have hother : r ∈ h.runs → ∀ old ∈ h.runs, old.number = r.number → old.job.id ≠ id :=
    fun hr old hold hn hid => hne (by rw [← hid, hS.run_eq hold hr hn])
  have hfail : r ∈ h.runs → h.Unmoved (h.failRun r) id := by
    intro hr
    have hfailing : h.Unmoved (h.modifyRun r.number fun r => { r with stage := .failing }) id :=
      unmoved_modifyRun (hother hr) fun _ => ⟨rfl, rfl, rfl⟩
    exact hfailing.trans (unmoved_updateJobSnapshot hne _)
  have hentered : r ∈ h.runs → h.Unmoved (h.failEntered r) id := fun hr => { hfail hr with }
  cases e with
  | threw =>
    obtain ⟨⟨r', rest⟩, hactive, rfl⟩ := Option.map_eq_some_iff.mp hfailing
    simp only [step, hactive] at hstep
    split_ifs at hstep
    exact Option.some.inj hstep ▸ hfail (active_iff hactive).1
  | hookReturned =>
    obtain ⟨⟨r', rest⟩, hactive, rfl⟩ := Option.map_eq_some_iff.mp hfailing
    have hr := (active_iff hactive).1
    have hreturned : ∀ stack, h.Unmoved (RuntimeHost.settleRun { h with stack := stack } r') id := by
      intro stack
      have hunmoved := unmoved_settleRun (h := { h with stack := stack }) (hother hr) hne
      exact { hunmoved with }
    simp only [step, hactive] at hstep
    split_ifs at hstep
    obtain rfl := Option.some.inj hstep
    cases rest with
    | hook => exact hreturned _
    | nothing | start | wake => exact hreturned _
  | checked run answer =>
    cases answer with
    | error _ =>
      have hwaiting : h.waiting run .checking = some r := hfailing
      simp only [step, hwaiting] at hstep
      split at hstep
      · exact Option.some.inj hstep ▸ hentered (waiting_iff hwaiting).2.1
      · rename_i heq
        cases heq
      · cases hstep
    | ok answer => cases hfailing
  | worked run succeeded =>
    cases succeeded with
    | true => cases hfailing
    | false =>
      have hwaiting : h.waiting run .working = some r := hfailing
      simp only [step, hwaiting] at hstep
      exact Option.some.inj hstep ▸ hentered (waiting_iff hwaiting).2.1
  | outside | start | runNow | stop | wake | returned | left | stopReturned | fired => cases hfailing

/-! ### The host as it is constructed -/

lemma validateJobsFrom_nodup {world : ω} {ids : List String}
    (hvalid : validateJobsFrom world ids jobs = .ok ()) :
    (jobs.map HostJob.id).Nodup ∧ ∀ job ∈ jobs, job.id ∉ ids := by
  induction jobs generalizing ids with
  | nil => exact ⟨List.nodup_nil, fun job hjob => by cases hjob⟩
  | cons job jobs ih =>
    have hunfold : ids.contains job.id = false
        ∧ validateJobsFrom world (ids ++ [job.id]) jobs = .ok () := by
      simp only [validateJobsFrom, bind, Except.bind, throw, throwThe, MonadExceptOf.throw] at hvalid
      split_ifs at hvalid with _ hseen
      exact ⟨by simpa using hseen, hvalid⟩
    obtain ⟨hnodup, hfresh⟩ := ih hunfold.2
    refine ⟨List.nodup_cons.mpr ⟨fun hmem => ?_, hnodup⟩, fun other hother hmem => ?_⟩
    · obtain ⟨other, hother, hid⟩ := List.mem_map.mp hmem
      exact hfresh other hother (by simp [hid])
    · rcases List.mem_cons.mp hother with rfl | hother
      · simp [hmem] at hunfold
      · exact hfresh other hother (List.mem_append_left _ hmem)

lemma going_initial {world : ω} (now : String) (hvalid : validateJobs world jobs = .ok ()) :
    (initialHost jobs world now).Going [] where
  covered hrunning := by cases hrunning
  scheduled := {
    jobIds := (validateJobsFrom_nodup hvalid).1
    runJobs := List.nodup_nil
    numbers := List.nodup_nil
    known := fun r hr => by cases hr
    table := fun r hr => by cases hr
    tabled := fun id n hfound => by cases hfound
    current := fun hrunning => by cases hrunning
    begun := fun b hb => by cases hb
    timed := {
      jobs := List.nodup_nil
      handles := List.nodup_nil
      listed := fun t ht => by cases ht
      armed := fun id n hfound => by cases hfound
      fresh := fun t ht => by cases ht
      live := fun t ht => by cases ht }
    exclusive := fun id htimer => by
      obtain ⟨t, ht, -⟩ := htimer
      cases ht
    stacked := fun r hr => by cases hr
    frames := fun f hf => by cases hf
    framesOnce := List.nodup_nil
    starting := fun r hr => by cases hr
    generations := fun f hf => by cases hf
    bottom := fun f stack hsuffix => by
      have hnone := hsuffix.length_le
      simp [initialHost] at hnone
    pendingIds := List.nodup_nil
    pendingRunning := fun hne => absurd rfl hne
    quiet := fun job hjob => by cases hjob
    waits := fun awaited hpromise => by cases hpromise
    promised := fun hstopping => by cases hstopping
    drained := fun _ => rfl }

end RuntimeHost

open RuntimeHost in
/-- **The scheduling of the runtime host**: as long as no `shouldRun`, before its first `await`,
stops the host or asks for a run of a job that is being started or that `start` has yet to
schedule, each job has at most one run and at most one timer; while the host is running every job
has one of them, or `start` has yet to come to it; no run begins after `stop` was called, whose
promise waits for all runs; and the failure of a job leaves the others alone. -/
theorem runtime_host_scheduling (jobs : List (HostJob ω)) (world : ω) (now : String)
    (hvalid : validateJobs world jobs = .ok ()) (events : List (HostEvent ω)) (h : RuntimeHost ω)
    (hrun : Runs soundStep (initialHost jobs world now) events h) :
    (h.runs.map fun r => r.job.id).Nodup
      ∧ (h.armed.map fun t => t.job.id).Nodup
      ∧ (h.stateValue = .running → ∀ job ∈ jobs,
        h.HasRun job.id ∨ h.HasTimer job.id ∨ job ∈ h.pendingJobs)
      ∧ (∀ b ∈ h.begun, b.state = .running)
      ∧ (∀ awaited, h.stopPromise = some awaited → ∀ r ∈ h.runs, r.number ∈ awaited)
      ∧ (h.stateValue = .stopped → h.runs = [] ∧ h.armed = [])
      ∧ ∀ e h' r, h.step e = some h' → h.failing e = some r → ∀ id, id ≠ r.job.id → h.Unmoved h' id := by
  obtain ⟨hgoing, hjobs⟩ : h.Going h.pendingJobs ∧ h.jobs = jobs := by
    refine hrun.invariant (I := fun h => h.Going h.pendingJobs ∧ h.jobs = jobs)
      ⟨going_initial now hvalid, rfl⟩ fun before e after hbefore hstep => ?_
    have hplain := (Option.ite_none_right_eq_some.mp hstep).2
    exact ⟨going_step hbefore.1 hstep, (jobs_step hplain).trans hbefore.2⟩
  have hS := hgoing.scheduled
  refine ⟨hS.runJobs, hS.timed.jobs, fun hrunning job hjob => ?_, hS.begun,
    fun awaited hpromise => (hS.waits awaited hpromise).2, fun hstopped => ⟨hS.drained hstopped, ?_⟩,
    fun e h' r hstep hfailing id hne => hS.unmoved_failing hstep hfailing hne⟩
  · rcases hgoing.covered hrunning job (hjobs ▸ hjob) with hbusy | htimer | ⟨hmem, -⟩
    · exact .inl hbusy.hasRun
    · exact .inr (.inl htimer)
    · exact .inr (.inr hmem)
  · rw [List.eq_nil_iff_forall_not_mem]
    intro t ht
    have hlive := (hS.timed.live t ht).1
    rw [hstopped] at hlive
    cases hlive

/-- A job that runs on start, and one that waits for its timer. -/
def twoJobs : List (HostJob Unit) :=
  [⟨"chatmail-poll", 3000, true, true, none⟩, ⟨"codex-refresh", 60000, false, true, none⟩]

/-- A run fails, its job runs again by its timer, and the host is stopped. -/
def failedOnce : List (HostEvent Unit) :=
  [.start, .returned, .checked 0 (.ok true), .worked 0 false, .hookReturned, .left 0, .fired 1, .returned,
    .stop, .checked 1 (.ok false), .left 1, .stopReturned]

open RuntimeHost in
theorem runtime_host_scheduling_failed :
    ∃ h, Runs soundStep (initialHost twoJobs () "now") failedOnce h ∧ h.begun.length = 2
      ∧ h.stateValue = .stopped ∧ h.runs = [] ∧ h.armed = [] := by
  have hscheduling := runtime_host_scheduling twoJobs () "now" rfl failedOnce _ rfl
  obtain ⟨hruns, harmed⟩ := hscheduling.2.2.2.2.2.1 rfl
  exact ⟨_, rfl, rfl, rfl, hruns, harmed⟩

open RuntimeHost in
/-- What a `shouldRun` can do before its first `await`: begin a second run of its job, have `stop`
return before its own run has settled, and leave a job with two timers. -/
theorem runtime_host_reentered :
    (∃ h, Runs step (initialHost twoJobs () "now") [.start, .runNow "chatmail-poll"] h
        ∧ ¬ (h.runs.map fun r => r.job.id).Nodup)
      ∧ (∃ h, Runs step (initialHost twoJobs () "now") [.start, .stop, .returned, .stopReturned] h
        ∧ h.stateValue = .stopped ∧ h.runs ≠ [])
      ∧ ∃ h, Runs step (initialHost twoJobs () "now")
          [.start, .runNow "codex-refresh", .returned, .returned, .checked 1 (.ok false)] h
        ∧ ¬ (h.armed.map fun t => t.job.id).Nodup :=
  ⟨⟨_, rfl, by decide⟩, ⟨_, rfl, rfl, List.cons_ne_nil _ _⟩, ⟨_, rfl, by decide⟩⟩

end TetiBot

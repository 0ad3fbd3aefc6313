import TetiBot.Library.Utf16
import TetiBot.Library.OrderedMap
import TetiBot.Library.Transition

/-
The runtime host (`runtime/host.ts`), and the wake-ups of the runtime
(`notifyAccountAvailable` in `runtime/service.ts`).

* `HostJob`, `validateJobs`: the jobs, and what the constructor asks of them.
* `RuntimeHost`: the fields of the host, the runs that have not left the table, the armed
  timers, and the calls of the jobs' own code that have not returned.
* `RuntimeHost.execute`, `scheduleNext`, `runNow`, `stop`: as the code computes them; a call
  of `shouldRun` suspends what its caller has still to do.
* `HostEvent`, `RuntimeHost.step`: calls of the owner, also from a job's own code; what that
  code does; continuations; and timers, which fire only when no continuation is due.
-/

namespace TetiBot

open Library

/-! ### Jobs -/

inductive HostState
  | stopped | running | stopping
  deriving DecidableEq

inductive HostJobState
  | idle | scheduled | running
  deriving DecidableEq

/-- `TetiRuntimeJobSnapshot`. -/
structure HostJobSnapshot where
  id : String
  state : HostJobState
  lastStartedAt : Option String
  lastSkippedAt : Option String
  lastSucceededAt : Option String
  lastFailedAt : Option String
  consecutiveFailures : Nat
  deriving DecidableEq

/-- `TetiRuntimeScheduledJob`: `ω` is what its `nextDelayMs` reads besides the snapshot, and
`shouldRun` says whether it has one. -/
structure HostJob (ω : Type) where
  id : String
  intervalMs : Nat
  runOnStart : Bool
  shouldRun : Bool
  nextDelayMs : Option (HostJobSnapshot → ω → Nat)

/-- The snapshot of a job that has not run. -/
def freshSnapshot (id : String) : HostJobSnapshot := ⟨id, .idle, none, none, none, none, 0⟩

variable {ω : Type}

/-- The loop of `validateJobs`, with the identifiers it has seen. -/
def validateJobsFrom (world : ω) (ids : List String) : List (HostJob ω) → Except String Unit
  | [] => .ok ()
  | job :: jobs => do
    if JsString.isBlank (JsString.ofString job.id) || 64 < (JsString.ofString job.id).length then
      throw "Teti Runtime job IDs must contain 1 to 64 characters."
    if ids.contains job.id then throw ("Duplicate Teti Runtime job ID: " ++ job.id)
    if job.intervalMs = 0 then
      throw ("Teti Runtime job " ++ job.id ++ " must use a positive interval.")
    if job.nextDelayMs.any fun nextDelayMs => nextDelayMs (freshSnapshot job.id) world = 0 then
      throw ("Teti Runtime job " ++ job.id ++ " must calculate a positive next delay.")
    validateJobsFrom world (ids ++ [job.id]) jobs

def validateJobs (world : ω) (jobs : List (HostJob ω)) : Except String Unit :=
  validateJobsFrom world [] jobs

/-! ### Runs, timers, and the calls in progress -/

/-- Where a run is: in its `shouldRun` before the first `await`, waiting for its answer, in
the job's `run`, in the hook of its failure, or its promise has settled. -/
inductive HostStage
  | starting | checking | working | failing | settled
  deriving DecidableEq

/-- Who has begun a run. -/
inductive HostCause
  | start | call
  | timer (delayMs : Nat)
  deriving DecidableEq

/-- A run that has not left the table; `entered` says whether it is in it yet. -/
structure HostRun (ω : Type) where
  number : Nat
  job : HostJob ω
  generation : Nat
  stage : HostStage
  entered : Bool

/-- The begin of a run, and how the host stood then. -/
structure BegunRun where
  jobId : String
  cause : HostCause
  state : HostState
  deriving DecidableEq

/-- A timer that has not fired, with what its callback captures. -/
structure HostTimer (ω : Type) where
  handle : Nat
  job : HostJob ω
  generation : Nat
  delayMs : Nat

/-- What a caller of `execute` has still to do: the loop of `start`, or the calls of
`runNow` that a wake-up has still to make.  The hook of a failure has no such caller, unless
`shouldRun` has thrown before its first `await`. -/
inductive HostRest (ω : Type)
  | hook
  | nothing
  | start (jobs : List (HostJob ω)) (generation : Nat)
  | wake (ids : List String) (since : Nat)

/-- The code of a job that is being called: its `shouldRun`, or the hook of its failure. -/
structure HostFrame (ω : Type) where
  run : Nat
  rest : HostRest ω

/-- A job that `notifyAccountAvailable` asks to run, and how many runs had begun before. -/
structure WakeRequest where
  jobId : String
  since : Nat
  deriving DecidableEq

structure RuntimeHost (ω : Type) where
  jobs : List (HostJob ω)
  stateValue : HostState
  generation : Nat
  timers : OrderedMap String Nat
  inFlight : OrderedMap String Nat
  jobSnapshots : OrderedMap String HostJobSnapshot
  /-- The runs that the promise of `stop` waits for. -/
  stopPromise : Option (List Nat)
  runs : List (HostRun ω)
  armed : List (HostTimer ω)
  handles : Nat
  stack : List (HostFrame ω)
  world : ω
  now : String
  /-- All runs that have begun, by their numbers. -/
  begun : List BegunRun
  wakes : List WakeRequest

def initialHost (jobs : List (HostJob ω)) (world : ω) (now : String) : RuntimeHost ω where
  jobs := jobs
  stateValue := .stopped
  generation := 0
  timers := .empty
  inFlight := .empty
  jobSnapshots := jobs.foldl (fun snapshots job => snapshots.set job.id (freshSnapshot job.id)) .empty
  stopPromise := none
  runs := []
  armed := []
  handles := 0
  stack := []
  world := world
  now := now
  begun := []
  wakes := []

namespace RuntimeHost

/-! ### Timers -/

variable (h : RuntimeHost ω)

def updateJobSnapshot (id : String) (update : HostJobSnapshot → HostJobSnapshot) : RuntimeHost ω :=
  { h with jobSnapshots := match h.jobSnapshots.get? id with
    | none => h.jobSnapshots
    | some current => h.jobSnapshots.set id (update current) }

def cancelScheduled (id : String) : RuntimeHost ω :=
  match h.timers.get? id with
  | none => h
  | some handle =>
    ({ h with
      armed := h.armed.filter fun t => t.handle != handle
      timers := h.timers.erase id }).updateJobSnapshot id fun s => { s with state := .idle }

/-- `job.nextDelayMs?.({ ...snapshot }) ?? job.intervalMs`. -/
def nextDelay (job : HostJob ω) : Nat :=
  match job.nextDelayMs with
  | none => job.intervalMs
  | some nextDelayMs => nextDelayMs ((h.jobSnapshots.get? job.id).getD (freshSnapshot job.id)) h.world

def scheduleNext (job : HostJob ω) (generation : Nat) : RuntimeHost ω :=
  if h.stateValue = .running ∧ generation = h.generation then
    let timer : HostTimer ω := ⟨h.handles, job, generation, h.nextDelay job⟩
    ({ h with
      armed := h.armed ++ [timer]
      handles := h.handles + 1
      timers := h.timers.set job.id h.handles }).updateJobSnapshot job.id
        fun s => { s with state := .scheduled }
  else h

/-! ### Runs -/

def modifyRun (run : Nat) (f : HostRun ω → HostRun ω) : RuntimeHost ω :=
  { h with runs := h.runs.map fun r => if r.number = run then f r else r }

def findRun (run : Nat) : Option (HostRun ω) := h.runs.find? fun r => r.number == run

/-- The first lines of `runJob`. -/
def begin (job : HostJob ω) (generation : Nat) (cause : HostCause) : RuntimeHost ω :=
  let run : HostRun ω := ⟨h.begun.length, job, generation, .starting, false⟩
  let noted : BegunRun := ⟨job.id, cause, h.stateValue⟩
  ({ h with
    runs := h.runs ++ [run]
    begun := h.begun ++ [noted] }).updateJobSnapshot job.id
      fun s => { s with state := .running, lastStartedAt := some h.now }

variable (r : HostRun ω)

/-- `runJob` has returned its promise, and `execute` sets the entry of the table. -/
def enter : RuntimeHost ω :=
  { h.modifyRun r.number fun r =>
      { r with
        entered := true
        stage := if r.stage = .starting then .checking else r.stage } with
    inFlight := h.inFlight.set r.job.id r.number }

/-- `execute`; the second part says whether it waits for `shouldRun` to return, and the rest with
it. -/
def execute (job : HostJob ω) (generation : Nat) (cause : HostCause) (rest : HostRest ω) :
    RuntimeHost ω × Bool :=
  if h.stateValue ≠ .running ∨ generation ≠ h.generation ∨ h.inFlight.contains job.id then (h, false)
  else
    let run : HostRun ω := ⟨h.begun.length, job, generation, .starting, false⟩
    let h := h.begin job generation cause
    if job.shouldRun then ({ h with stack := ⟨run.number, rest⟩ :: h.stack }, true)
    else (h.enter run, false)

/-- The `finally` block of `runJob`, after which its promise settles. -/
def settleRun : RuntimeHost ω :=
  let settled := h.modifyRun r.number fun r => { r with stage := .settled }
  if h.stateValue = .running ∧ r.generation = h.generation then settled.scheduleNext r.job r.generation
  else settled.updateJobSnapshot r.job.id fun s => { s with state := .idle }

/-- The `catch` block of `runJob`, up to the call of the hook. -/
def failRun : RuntimeHost ω :=
  (h.modifyRun r.number fun r => { r with stage := .failing }).updateJobSnapshot r.job.id fun s =>
    { s with lastFailedAt := some h.now, consecutiveFailures := s.consecutiveFailures + 1 }

/-- A failure outside of `shouldRun`'s own part: its hook is called. -/
def failEntered : RuntimeHost ω :=
  { h.failRun r with stack := ⟨r.number, .hook⟩ :: h.stack }

/-- The hook of a failure returns. -/
def returnHook : HostRest ω → RuntimeHost ω
  | .hook => ({ h with stack := h.stack.tail }).settleRun r
  -- `shouldRun` has thrown, and its call is still in progress
  | .nothing | .start _ _ | .wake _ _ => h.settleRun r

/-- The answer of `shouldRun`. -/
def receiveCheck : Except Unit Bool → RuntimeHost ω
  | .error () => h.failEntered r
  | .ok false =>
    (h.updateJobSnapshot r.job.id fun s => { s with lastSkippedAt := some h.now }).settleRun r
  | .ok true => h.modifyRun r.number fun r => { r with stage := .working }

/-- The job's `run` has settled. -/
def finishWork (succeeded : Bool) : RuntimeHost ω :=
  if succeeded then
    (h.updateJobSnapshot r.job.id fun s =>
      { s with lastSucceededAt := some h.now, consecutiveFailures := 0 }).settleRun r
  else h.failEntered r

/-- The continuation of `finally` in `execute`. -/
def leave : RuntimeHost ω :=
  { h with
    inFlight := if h.inFlight.get? r.job.id = some r.number then h.inFlight.erase r.job.id else h.inFlight
    runs := h.runs.filter fun other => other.number != r.number }

/-! ### Calls of the owner -/

/-- The loop of `start`. -/
def startJobs (h : RuntimeHost ω) (generation : Nat) : List (HostJob ω) → RuntimeHost ω
  | [] => h
  | job :: jobs =>
    if job.runOnStart then
      let started := h.execute job generation .start (.start jobs generation)
      if started.2 then started.1 else started.1.startJobs generation jobs
    else (h.scheduleNext job generation).startJobs generation jobs

def start (h : RuntimeHost ω) : Except String (RuntimeHost ω) :=
  match h.stateValue with
  | .running => .ok h
  | .stopping => .error "Teti Runtime cannot start while it is stopping."
  | .stopped =>
    .ok (({ h with stateValue := .running, generation := h.generation + 1 }).startJobs
      (h.generation + 1) h.jobs)

/-- `runNow`; the second part is that of `execute`. -/
def runNow (id : String) (rest : HostRest ω) : Except String (RuntimeHost ω × Bool) :=
  if h.stateValue ≠ .running then .ok (h, false)
  else match h.jobs.find? fun job => job.id == id with
    | none => .error ("Unknown Teti Runtime job: " ++ id)
    | some job =>
      if h.inFlight.contains id then .ok (h, false)
      else .ok ((h.cancelScheduled id).execute job h.generation .call rest)

/-- Calls of `runNow` one after the other; one that throws is the last. -/
def wakeJobs (h : RuntimeHost ω) (since : Nat) : List String → RuntimeHost ω
  | [] => h
  | id :: ids => match h.runNow id (.wake ids since) with
    | .error _ => h
    | .ok (woken, suspended) => if suspended then woken else woken.wakeJobs since ids

/-- The jobs that `notifyAccountAvailable` asks to run. -/
def accountJobs (synchronizeNetworkIdentity profileService : Bool) : List String :=
  (if synchronizeNetworkIdentity then ["network-identity-sync"] else [])
    ++ ["peer-profile-refresh", "chatmail-poll", "codex-refresh"]
    ++ if profileService then ["public-profile-sync"] else []

/-- The requests of a wake-up are noted. -/
def requestWakes (ids : List String) : RuntimeHost ω :=
  { h with wakes := h.wakes ++ ids.map fun id => ⟨id, h.begun.length⟩ }

/-- What `notifyAccountAvailable` does with the host. -/
def wake (ids : List String) : RuntimeHost ω :=
  (h.requestWakes ids).wakeJobs h.begun.length ids

/-- `stop`, up to the promise it returns. -/
def stop : RuntimeHost ω :=
  if h.stateValue = .stopped ∨ h.stopPromise.isSome then h
  else
    let halted : RuntimeHost ω := { h with stateValue := .stopping, generation := h.generation + 1 }
    { h.timers.keys.foldl cancelScheduled halted with stopPromise := some h.inFlight.values }

/-- The continuation of `stop`. -/
def finishStop : RuntimeHost ω :=
  { h with
    jobSnapshots := h.jobSnapshots.keys.foldl (fun snapshots id => match snapshots.get? id with
      | none => snapshots
      | some snapshot => snapshots.set id { snapshot with state := .idle }) h.jobSnapshots
    stateValue := .stopped
    stopPromise := none }

/-! ### Steps -/

/-- A caller of `execute` goes on. -/
def resume : HostRest ω → RuntimeHost ω
  | .hook | .nothing => h
  | .start jobs generation => h.startJobs generation jobs
  | .wake ids since => h.wakeJobs since ids

/-- The callback of a timer. -/
def fire (t : HostTimer ω) : RuntimeHost ω :=
  (({ h with
    armed := h.armed.filter fun other => other.handle != t.handle
    timers := h.timers.erase t.job.id }).execute t.job t.generation (.timer t.delayMs) .nothing).1

end RuntimeHost

inductive HostEvent (ω : Type)
  /-- What the callbacks read changes, and time passes. -/
  | outside (world : ω) (now : String)
  | start
  | runNow (id : String)
  | stop
  | wake (synchronizeNetworkIdentity profileService : Bool)
  /-- `shouldRun` throws before its first `await`. -/
  | threw
  /-- The hook of a failure returns. -/
  | hookReturned
  /-- `shouldRun` gets to its first `await`, or the run has ended without one. -/
  | returned
  | checked (run : Nat) (answer : Except Unit Bool)
  | worked (run : Nat) (succeeded : Bool)
  | left (run : Nat)
  | stopReturned
  | fired (handle : Nat)

namespace RuntimeHost

/-- The run whose code is being called, and the rest of its caller. -/
def active (h : RuntimeHost ω) : Option (HostRun ω × HostRest ω) :=
  h.stack.head?.bind fun frame => (h.findRun frame.run).map fun r => (r, frame.rest)

/-- The run of a continuation that is due. -/
def waiting (h : RuntimeHost ω) (run : Nat) (stage : HostStage) : Option (HostRun ω) :=
  if h.stack.isEmpty then (h.findRun run).filter fun r => r.entered && r.stage == stage else none

/-- One event, where it can happen. -/
def step (h : RuntimeHost ω) : HostEvent ω → Option (RuntimeHost ω)
  | .outside world now => some { h with world := world, now := now }
  -- what a call throws is thrown to its caller
  | .start => some (h.start.toOption.getD h)
  | .runNow id => some (((h.runNow id .nothing).toOption.map Prod.fst).getD h)
  | .stop => some h.stop
  | .wake synchronizeNetworkIdentity profileService =>
    some (h.wake (accountJobs synchronizeNetworkIdentity profileService))
  | .threw => match h.active with
    | some (r, _) => if r.stage = .starting then some (h.failRun r) else none
    | none => none
  | .hookReturned => match h.active with
    | some (r, rest) =>
      if r.stage = .failing then some (h.returnHook r rest) else none
    | none => none
  | .returned => match h.active with
    | some (r, rest) =>
      if r.stage = .starting ∨ r.stage = .settled then
        some (({ h with stack := h.stack.tail }).enter r |>.resume rest)
      else none
    | none => none
  | .checked run answer => match h.waiting run .checking with
    | some r =>
      match r.job.shouldRun, answer with
      | true, _ | false, .ok true => some (h.receiveCheck r answer)
      | false, _ => none
    | none => none
  | .worked run succeeded => (h.waiting run .working).map fun r => h.finishWork r succeeded
  | .left run => (h.waiting run .settled).map h.leave
  | .stopReturned => match h.stopPromise with
    -- the runs have left the table by then, since that continuation was registered earlier
    | some awaited =>
      if h.stack.isEmpty ∧ h.runs.all (fun r => !awaited.contains r.number) then some h.finishStop
      else none
    | none => none
  | .fired handle =>
    if h.stack.isEmpty ∧ h.runs.all (fun r => r.stage ≠ .settled) then
      (h.armed.find? fun t => t.handle == handle).map h.fire
    else none

/-! ### What no operation undoes -/

/-- The jobs stay, the runs that have begun and the wake-ups are remembered, and the calls in
progress go on. -/
structure Grows (h h' : RuntimeHost ω) : Prop where
  jobs : h'.jobs = h.jobs
  wakes : h'.wakes = h.wakes
  begun : h.begun <+: h'.begun
  stack : ∀ f ∈ h.stack, f ∈ h'.stack

variable {h h' : RuntimeHost ω} {id : String}

lemma Grows.refl (h : RuntimeHost ω) : h.Grows h := ⟨rfl, rfl, List.prefix_rfl, fun _ hf => hf⟩

lemma Grows.trans {h'' : RuntimeHost ω} (hG : h.Grows h') (hG' : h'.Grows h'') : h.Grows h'' :=
  ⟨hG'.jobs.trans hG.jobs, hG'.wakes.trans hG.wakes, hG.begun.trans hG'.begun,
    fun f hf => hG'.stack f (hG.stack f hf)⟩

lemma grows_cancelScheduled (h : RuntimeHost ω) (id : String) : h.Grows (h.cancelScheduled id) := by
  rw [cancelScheduled]
  split <;> exact ⟨rfl, rfl, List.prefix_rfl, fun _ hf => hf⟩

lemma grows_scheduleNext (h : RuntimeHost ω) (job : HostJob ω) (generation : Nat) :
    h.Grows (h.scheduleNext job generation) := by
  rw [scheduleNext]
  split_ifs <;> exact ⟨rfl, rfl, List.prefix_rfl, fun _ hf => hf⟩

lemma grows_execute (h : RuntimeHost ω) (job : HostJob ω) (generation : Nat) (cause : HostCause)
    (rest : HostRest ω) : h.Grows (h.execute job generation cause rest).1 := by
  rw [execute]
  dsimp only
  split_ifs
  · exact Grows.refl h
  · exact ⟨rfl, rfl, List.prefix_append _ _, fun _ hf => List.mem_cons_of_mem _ hf⟩
  · exact ⟨rfl, rfl, List.prefix_append _ _, fun _ hf => hf⟩

lemma grows_settleRun (h : RuntimeHost ω) (r : HostRun ω) : h.Grows (h.settleRun r) := by
  have hsettled : h.Grows (h.modifyRun r.number fun r => { r with stage := .settled }) :=
    ⟨rfl, rfl, List.prefix_rfl, fun _ hf => hf⟩
  rw [settleRun]
  split_ifs
  · exact hsettled.trans (grows_scheduleNext _ _ _)
  · exact ⟨rfl, rfl, List.prefix_rfl, fun _ hf => hf⟩

lemma grows_startJobs (h : RuntimeHost ω) (generation : Nat) (jobs : List (HostJob ω)) :
    h.Grows (h.startJobs generation jobs) := by
  induction jobs generalizing h with
  | nil => exact Grows.refl h
  | cons job jobs ih =>
    rw [startJobs]
    dsimp only
    split_ifs
    · exact grows_execute _ _ _ _ _
    · exact (grows_execute _ _ _ _ _).trans (ih _)
    · exact (grows_scheduleNext _ _ _).trans (ih _)

lemma grows_runNow {rest : HostRest ω} {suspended : Bool} (hcall : h.runNow id rest = .ok (h', suspended)) :
    h.Grows h' := by
  rw [runNow] at hcall
  split at hcall
  · obtain ⟨rfl, -⟩ := Prod.mk.inj (Except.ok.inj hcall)
    exact Grows.refl h
  · split at hcall
    · cases hcall
    · rename_i job hfind
      split at hcall
      · obtain ⟨rfl, -⟩ := Prod.mk.inj (Except.ok.inj hcall)
        exact Grows.refl h
      · have hgrows := (grows_cancelScheduled h id).trans (grows_execute _ job h.generation .call rest)
        rw [Except.ok.inj hcall] at hgrows
        exact hgrows

lemma grows_wakeJobs (h : RuntimeHost ω) (since : Nat) (ids : List String) :
    h.Grows (h.wakeJobs since ids) := by
  induction ids generalizing h with
  | nil => exact Grows.refl h
  | cons id ids ih =>
    rw [wakeJobs]
    split
    · exact Grows.refl h
    · rename_i woken suspended hcall
      split_ifs
      · exact grows_runNow hcall
      · exact (grows_runNow hcall).trans (ih woken)

lemma grows_stop (h : RuntimeHost ω) : h.Grows h.stop := by
  have hall : ∀ (ids : List String) (h : RuntimeHost ω), h.Grows (ids.foldl cancelScheduled h) := by
    intro ids
    induction ids with
    | nil => exact Grows.refl
    | cons id ids ih => exact fun h => (grows_cancelScheduled h id).trans (ih _)
  rw [stop]
  split_ifs
  · exact Grows.refl h
  · exact { hall _ { h with stateValue := .stopping, generation := h.generation + 1 } with }

lemma grows_resume (h : RuntimeHost ω) (rest : HostRest ω) : h.Grows (h.resume rest) := by
  cases rest with
  | hook | nothing => exact Grows.refl h
  | start jobs generation => exact grows_startJobs h generation jobs
  | wake ids since => exact grows_wakeJobs h since ids

lemma grows_receiveCheck (h : RuntimeHost ω) (r : HostRun ω) (answer : Except Unit Bool) :
    h.Grows (h.receiveCheck r answer) := by
  match answer with
  | .error () => exact ⟨rfl, rfl, List.prefix_rfl, fun _ hf => List.mem_cons_of_mem _ hf⟩
  | .ok false => exact { grows_settleRun (h.updateJobSnapshot _ _) r with }
  | .ok true => exact ⟨rfl, rfl, List.prefix_rfl, fun _ hf => hf⟩

lemma grows_finishWork (h : RuntimeHost ω) (r : HostRun ω) (succeeded : Bool) :
    h.Grows (h.finishWork r succeeded) := by
  rw [finishWork]
  split_ifs
  · exact { grows_settleRun (h.updateJobSnapshot _ _) r with }
  · exact ⟨rfl, rfl, List.prefix_rfl, fun _ hf => List.mem_cons_of_mem _ hf⟩

lemma active_iff {r : HostRun ω} {rest : HostRest ω} (hactive : h.active = some (r, rest)) :
    r ∈ h.runs ∧ ∃ frame, h.stack = frame :: h.stack.tail ∧ r.number = frame.run ∧ frame.rest = rest := by
  rw [active, Option.bind_eq_some_iff] at hactive
  obtain ⟨frame, hframe, hfound⟩ := hactive
  obtain ⟨r', hr', heq⟩ := Option.map_eq_some_iff.mp hfound
  obtain ⟨rfl, rfl⟩ := Prod.mk.inj heq
  exact ⟨List.mem_of_find?_eq_some hr', frame, List.eq_cons_of_mem_head? hframe,
    by simpa using List.find?_some hr', rfl⟩

lemma waiting_iff {r : HostRun ω} {n : Nat} {stage : HostStage} (hwaiting : h.waiting n stage = some r) :
    h.stack = [] ∧ r ∈ h.runs ∧ r.number = n ∧ r.entered = true ∧ r.stage = stage := by
  rw [waiting] at hwaiting
  split_ifs at hwaiting with hstack
  obtain ⟨hfound, hready⟩ := Option.filter_eq_some_iff.mp hwaiting
  simp only [Bool.and_eq_true, beq_iff_eq] at hready
  exact ⟨by simpa using hstack, List.mem_of_find?_eq_some hfound, by simpa using List.find?_some hfound,
    hready.1, hready.2⟩

/-- **What a step can do**: the host grows, or the last of the calls in progress returns and its
caller goes on. -/
lemma grows_step {e : HostEvent ω} (hstep : h.step e = some h')
    (hwake : ∀ synchronizeNetworkIdentity profileService, e ≠ .wake synchronizeNetworkIdentity profileService) :
    h.Grows h' ∨ ∃ r rest, h.active = some (r, rest)
      ∧ ((rest = .hook ∧ Grows { h with stack := h.stack.tail } h')
        ∨ (e = .returned ∧ h' = (RuntimeHost.enter { h with stack := h.stack.tail } r).resume rest)) := by
  cases e with
  | wake synchronizeNetworkIdentity profileService => exact absurd rfl (hwake _ _)
  | outside world now =>
    obtain rfl := Option.some.inj hstep
    exact .inl ⟨rfl, rfl, List.prefix_rfl, fun _ hf => hf⟩
  | start =>
    obtain rfl := Option.some.inj hstep
    rw [start]
    cases h.stateValue with
    | stopped => exact .inl { grows_startJobs { h with stateValue := .running, generation := h.generation + 1 } _ _ with }
    | running | stopping => exact .inl (Grows.refl h)
  | runNow id =>
    obtain rfl := Option.some.inj hstep
    cases hcall : h.runNow id .nothing with
    | error => exact .inl (Grows.refl h)
    | ok result => exact .inl (grows_runNow hcall)
  | stop => exact .inl (Option.some.inj hstep ▸ grows_stop h)
  | threw =>
    simp only [step] at hstep
    split at hstep
    · split_ifs at hstep
      exact .inl (Option.some.inj hstep ▸ ⟨rfl, rfl, List.prefix_rfl, fun _ hf => hf⟩)
    · cases hstep
  | hookReturned =>
    simp only [step] at hstep
    split at hstep
    · rename_i r rest hactive
      split_ifs at hstep
      obtain rfl := Option.some.inj hstep
      cases rest with
      | hook => exact .inr ⟨r, .hook, hactive, .inl ⟨rfl, grows_settleRun _ r⟩⟩
      | nothing | start | wake => exact .inl (grows_settleRun h r)
    · cases hstep
  | returned =>
    simp only [step] at hstep
    split at hstep
    · rename_i r rest hactive
      split_ifs at hstep
      exact .inr ⟨r, rest, hactive, .inr ⟨rfl, (Option.some.inj hstep).symm⟩⟩
    · cases hstep
  | checked run answer =>
    simp only [step] at hstep
    split at hstep
    · split at hstep
      · exact .inl (Option.some.inj hstep ▸ grows_receiveCheck h _ _)
      · exact .inl (Option.some.inj hstep ▸ grows_receiveCheck h _ _)
      · cases hstep
    · cases hstep
  | worked run succeeded =>
    obtain ⟨r, -, rfl⟩ := Option.map_eq_some_iff.mp hstep
    exact .inl (grows_finishWork h r succeeded)
  | left run =>
    obtain ⟨r, -, rfl⟩ := Option.map_eq_some_iff.mp hstep
    exact .inl ⟨rfl, rfl, List.prefix_rfl, fun _ hf => hf⟩
  | stopReturned =>
    simp only [step] at hstep
    split at hstep
    · split_ifs at hstep
      exact .inl (Option.some.inj hstep ▸ ⟨rfl, rfl, List.prefix_rfl, fun _ hf => hf⟩)
    · cases hstep
  | fired handle =>
    simp only [step] at hstep
    split_ifs at hstep
    obtain ⟨t, -, rfl⟩ := Option.map_eq_some_iff.mp hstep
    exact .inl { grows_execute _ t.job t.generation (.timer t.delayMs) .nothing with }

lemma jobs_step {e : HostEvent ω} (hstep : h.step e = some h') : h'.jobs = h.jobs := by
  by_cases hwake : ∃ synchronizeNetworkIdentity profileService, e = .wake synchronizeNetworkIdentity profileService
  · obtain ⟨synchronizeNetworkIdentity, profileService, rfl⟩ := hwake
    obtain rfl := Option.some.inj hstep
    exact (grows_wakeJobs _ _ _).jobs
  · rcases grows_step hstep fun _ _ heq => hwake ⟨_, _, heq⟩ with hgrows | ⟨r, rest, -, ⟨-, hgrows⟩ | ⟨-, rfl⟩⟩
    · exact hgrows.jobs
    · exact hgrows.jobs
    · exact (grows_resume _ rest).jobs

end RuntimeHost

end TetiBot

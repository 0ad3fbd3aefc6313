import TetiBot.Runtime.Host

/-
Wake-ups of the runtime (`notifyAccountAvailable` in `runtime/service.ts`).

* `begunSince`: a call has begun a run of a job since a wake-up was requested.
* `wakeable`: where `runNow` begins a run: the host is running and the job has none in
  flight.  A wake-up that is refused leaves no trace.
* `runtime_wakeups`: when each requested job has a run that begins after the request and
  does not wait for a timer.
-/

namespace TetiBot

open Library

variable {ω : Type}

namespace RuntimeHost

/-! ### Requests -/

/-- A call has begun a run of the job since. -/
def begunSince (h : RuntimeHost ω) (since : Nat) (id : String) : Bool :=
  (h.begun.drop since).any fun b => b.jobId = id && b.cause = .call

/-- A call of `runNow` begins a run of the job, or one has done so since the request. -/
def wakeable (h : RuntimeHost ω) (since : Nat) (id : String) : Bool :=
  h.begunSince since id
    || (h.stateValue = .running && h.jobs.any (fun job => job.id == id) && !h.inFlight.contains id)

/-- The calls of `wakeJobs` meet jobs that are wakeable. -/
def allWakeable (h : RuntimeHost ω) (since : Nat) : List String → Bool
  | [] => true
  | id :: ids => h.wakeable since id && match h.runNow id (.wake ids since) with
    | .error _ => false
    | .ok (woken, suspended) => suspended || woken.allWakeable since ids

/-- Where a wake-up calls `runNow`, at once or after a `shouldRun` it has called. -/
def prompt (h : RuntimeHost ω) : HostEvent ω → Bool
  | .wake synchronizeNetworkIdentity profileService =>
    (h.requestWakes (accountJobs synchronizeNetworkIdentity profileService)).allWakeable h.begun.length
      (accountJobs synchronizeNetworkIdentity profileService)
  | .returned => match h.active with
    | some (r, .wake ids since) => (({ h with stack := h.stack.tail }).enter r).allWakeable since ids
    | _ => true
  | _ => true

def promptStep (h : RuntimeHost ω) (e : HostEvent ω) : Option (RuntimeHost ω) :=
  if h.prompt e then h.step e else none

/-- The request has been answered, or its turn is still to come. -/
def Answered (h : RuntimeHost ω) (w : WakeRequest) : Prop :=
  h.begunSince w.since w.jobId = true
    ∨ ∃ f ∈ h.stack, ∃ ids, f.rest = .wake ids w.since ∧ w.jobId ∈ ids

variable {h h' : RuntimeHost ω} {id : String} {since : Nat}

lemma begunSince_mono (hbegun : h.begun <+: h'.begun) (hsince : h.begunSince since id = true) :
    h'.begunSince since id = true := by
  obtain ⟨more, hmore⟩ := hbegun
  rw [begunSince, ← hmore, List.drop_append, List.any_append, Bool.or_eq_true]
  exact .inl hsince

lemma Answered.grow {w : WakeRequest} (hgrows : h.Grows h') (hw : h.Answered w) : h'.Answered w := by
  rcases hw with hsince | ⟨f, hf, hrest⟩
  · exact .inl (begunSince_mono hgrows.begun hsince)
  · exact .inr ⟨f, hgrows.stack f hf, hrest⟩

/-! ### Calls of `runNow` -/

/-- **A call that is refused** leaves no trace. -/
lemma runNow_refused (hknown : h.jobs.any (fun job => job.id == id) = true)
    (hrefused : h.stateValue ≠ .running ∨ h.inFlight.contains id = true) (rest : HostRest ω) :
    h.runNow id rest = .ok (h, false) := by
  rw [runNow]
  by_cases hrunning : h.stateValue = .running
  · rw [if_neg (not_not.mpr hrunning)]
    obtain ⟨job, hfind⟩ := Option.isSome_iff_exists.mp (List.find?_isSome.mpr (List.any_eq_true.mp hknown))
    rw [hfind]
    exact if_pos (hrefused.resolve_left (not_not.mpr hrunning))
  · rw [if_pos hrunning]

/-- A call of `runNow` begins a run of a job that is idle. -/
lemma runNow_begins (hrunning : h.stateValue = .running)
    (hknown : h.jobs.any (fun job => job.id == id) = true) (hidle : h.inFlight.contains id = false)
    (rest : HostRest ω) : ∃ woken suspended, h.runNow id rest = .ok (woken, suspended)
      ∧ woken.begun = h.begun ++ [⟨id, .call, .running⟩] := by
  obtain ⟨job, hfind⟩ := Option.isSome_iff_exists.mp (List.find?_isSome.mpr (List.any_eq_true.mp hknown))
  obtain rfl : job.id = id := by simpa using List.find?_some hfind
  have hsame : (h.cancelScheduled job.id).stateValue = h.stateValue
      ∧ (h.cancelScheduled job.id).generation = h.generation
      ∧ (h.cancelScheduled job.id).inFlight = h.inFlight
      ∧ (h.cancelScheduled job.id).begun = h.begun := by
    rw [cancelScheduled]
    split <;> exact ⟨rfl, rfl, rfl, rfl⟩
  obtain ⟨hstate, hgeneration, htable, hbegun⟩ := hsame
  have hcall : h.runNow job.id rest
      = .ok ((h.cancelScheduled job.id).execute job h.generation .call rest) := by
    rw [runNow, if_neg (not_not.mpr hrunning), hfind]
    exact if_neg (by simp [hidle])
  rw [hcall, execute, if_neg (by simp [hstate, hgeneration, htable, hrunning, hidle])]
  have hnoted : ((h.cancelScheduled job.id).begin job h.generation .call).begun
      = h.begun ++ [⟨job.id, .call, .running⟩] := by
    rw [← hbegun, ← hrunning, ← hstate]
    rfl
  dsimp only
  split_ifs with hshould
  · exact ⟨_, true, rfl, hnoted⟩
  · exact ⟨_, false, rfl, hnoted⟩

/-- A call of `runNow` that waits for `shouldRun`. -/
lemma runNow_suspended {rest : HostRest ω} (hcall : h.runNow id rest = .ok (h', true)) :
    ∃ f ∈ h'.stack, f.rest = rest := by
  rw [runNow] at hcall
  split at hcall
  · cases hcall
  · split at hcall
    · cases hcall
    · split at hcall
      · cases hcall
      · rw [execute] at hcall
        dsimp only at hcall
        split_ifs at hcall
        · cases hcall
        · obtain ⟨rfl, -⟩ := Prod.mk.inj (Except.ok.inj hcall)
          exact ⟨_, List.mem_cons_self, rfl⟩
        · cases hcall

/-- **The calls of a wake-up** answer its requests, or leave them to the code they call. -/
lemma answered_wakeJobs {ids : List String} (hlength : since ≤ h.begun.length)
    (hwakeable : h.allWakeable since ids = true) :
    ∀ id ∈ ids, (h.wakeJobs since ids).Answered ⟨id, since⟩ := by
  induction ids generalizing h with
  | nil => exact fun id hid => by cases hid
  | cons first ids ih =>
    rw [allWakeable, Bool.and_eq_true] at hwakeable
    obtain ⟨hfirst, hrest⟩ := hwakeable
    cases hcall : h.runNow first (.wake ids since) with
    | error message =>
      rw [hcall] at hrest
      cases hrest
    | ok result =>
      obtain ⟨woken, suspended⟩ := result
      have hgrows := grows_runNow hcall
      rw [hcall] at hrest
      have hbegun : woken.begunSince since first = true := by
        rcases Bool.or_eq_true_iff.mp hfirst with hsince | hidle
        · exact begunSince_mono hgrows.begun hsince
        · simp only [Bool.and_eq_true, decide_eq_true_eq, Bool.not_eq_true'] at hidle
          obtain ⟨woken', suspended', hcall', hbegun⟩ :=
            runNow_begins hidle.1.1 hidle.1.2 hidle.2 (.wake ids since)
          obtain ⟨rfl, rfl⟩ := Prod.mk.inj (Except.ok.inj (hcall.symm.trans hcall'))
          rw [begunSince, hbegun, List.drop_append_of_le_length hlength, List.any_append]
          simp
      rw [wakeJobs, hcall]
      dsimp only
      intro id hid
      cases hsuspended : suspended with
      | true =>
        rcases List.mem_cons.mp hid with rfl | hid
        · exact .inl hbegun
        · obtain ⟨f, hf, hwaits⟩ := runNow_suspended (hsuspended ▸ hcall)
          exact .inr ⟨f, hf, ids, hwaits, hid⟩
      | false =>
        simp only [hsuspended, Bool.false_or] at hrest
        rcases List.mem_cons.mp hid with rfl | hid
        · exact .inl (begunSince_mono (grows_wakeJobs woken since ids).begun hbegun)
        · exact ih (hlength.trans hgrows.begun.length_le) hrest id hid

/-- **A step where wake-ups are prompt** answers every request, or keeps its turn. -/
lemma answered_step {e : HostEvent ω} (hstep : h.promptStep e = some h')
    (hw : ∀ w ∈ h.wakes, w.since ≤ h.begun.length ∧ h.Answered w) :
    ∀ w ∈ h'.wakes, w.since ≤ h'.begun.length ∧ h'.Answered w := by
  obtain ⟨hprompt, hstep⟩ := Option.ite_none_right_eq_some.mp hstep
  by_cases hwake : ∃ synchronizeNetworkIdentity profileService, e = .wake synchronizeNetworkIdentity profileService
  · obtain ⟨synchronizeNetworkIdentity, profileService, rfl⟩ := hwake
    obtain rfl := Option.some.inj hstep
    set ids := accountJobs synchronizeNetworkIdentity profileService
    have hgrows : (h.requestWakes ids).Grows (h.wake ids) := grows_wakeJobs _ _ _
    intro w hmem
    rw [hgrows.wakes] at hmem
    rcases List.mem_append.mp hmem with hmem | hmem
    · obtain ⟨hle, hanswered⟩ := hw w hmem
      exact ⟨hle.trans hgrows.begun.length_le, Answered.grow hgrows hanswered⟩
    · obtain ⟨id, hid, rfl⟩ := List.mem_map.mp hmem
      exact ⟨hgrows.begun.length_le, answered_wakeJobs (h := h.requestWakes ids) le_rfl hprompt id hid⟩
  · rcases grows_step hstep fun _ _ heq => hwake ⟨_, _, heq⟩ with hgrows | ⟨r, rest, hactive, hreturned⟩
    · intro w hmem
      obtain ⟨hle, hanswered⟩ := hw w (hgrows.wakes ▸ hmem)
      exact ⟨hle.trans hgrows.begun.length_le, hanswered.grow hgrows⟩
    · obtain ⟨-, frame, hstack, -, hrest⟩ := active_iff hactive
      have hgrows : Grows { h with stack := h.stack.tail } h' := by
        rcases hreturned with ⟨-, hgrows⟩ | ⟨-, rfl⟩
        · exact hgrows
        · exact { grows_resume (RuntimeHost.enter { h with stack := h.stack.tail } r) rest with }
      intro w hmem
      obtain ⟨hle, hanswered⟩ := hw w (hgrows.wakes ▸ hmem)
      refine ⟨hle.trans hgrows.begun.length_le, ?_⟩
      rcases hanswered with hsince | ⟨f, hf, ids, hwaits, hid⟩
      · exact .inl (begunSince_mono hgrows.begun hsince)
      · rw [hstack, List.mem_cons] at hf
        rcases hf with rfl | hf
        · -- the turn of the request has come
          obtain rfl := hrest.symm.trans hwaits
          rcases hreturned with ⟨hhook, -⟩ | ⟨rfl, rfl⟩
          · cases hhook
          · simp only [prompt, hactive] at hprompt
            exact answered_wakeJobs (h := RuntimeHost.enter { h with stack := h.stack.tail } r) hle hprompt
              w.jobId hid
        · exact .inr ⟨f, hgrows.stack f hf, ids, hwaits, hid⟩

end RuntimeHost

open RuntimeHost in
/-- **Wake-ups of the runtime**: where every call of `runNow` that a wake-up makes meets a running
host and a job without a run in flight, or one that a call has begun since, each job it asks to run
has a run that a call has begun since, at the latest when the code that is called on the way has
returned.  A call of `runNow` that meets anything else changes nothing. -/
theorem runtime_wakeups (jobs : List (HostJob ω)) (world : ω) (now : String)
    (events : List (HostEvent ω)) (h : RuntimeHost ω)
    (hrun : Runs promptStep (initialHost jobs world now) events h) :
    (∀ w ∈ h.wakes, h.Answered w)
      ∧ (h.stack = [] → ∀ w ∈ h.wakes, h.begunSince w.since w.jobId = true)
      ∧ ∀ id since rest, h.jobs.any (fun job => job.id == id) = true → h.wakeable since id = false →
        h.runNow id rest = .ok (h, false) := by
  have hwakes : ∀ w ∈ h.wakes, w.since ≤ h.begun.length ∧ h.Answered w :=
    hrun.invariant (fun w hw => by cases hw) fun _ _ _ hbefore hstep => answered_step hstep hbefore
  refine ⟨fun w hw => (hwakes w hw).2, fun hstack w hw => ?_, fun id since rest hknown hrefused => ?_⟩
  · rcases (hwakes w hw).2 with hsince | ⟨f, hf, -⟩
    · exact hsince
    · rw [hstack] at hf
      cases hf
  · refine runNow_refused hknown ?_ rest
    simp only [wakeable, Bool.or_eq_false_iff, hknown, Bool.and_true, Bool.and_eq_false_iff] at hrefused
    rcases hrefused.2 with hhalted | htable
    · exact .inl (by simpa using hhalted)
    · exact .inr (by simpa using htable)

/-- The jobs that a wake-up asks for, of which one runs on start. -/
def accountHostJobs : List (HostJob Unit) :=
  [⟨"network-identity-sync", 300000, false, true, none⟩, ⟨"peer-profile-refresh", 900000, true, true, none⟩,
    ⟨"chatmail-poll", 3000, false, true, none⟩, ⟨"codex-refresh", 60000, false, true, none⟩]

/-- A wake-up that meets idle jobs. -/
def wokenIdle : List (HostEvent Unit) :=
  [.start, .returned, .checked 0 (.ok false), .left 0, .wake true false, .returned, .returned, .returned,
    .returned]

open RuntimeHost in
theorem runtime_wakeups_idle :
    ∃ h, Runs promptStep (initialHost accountHostJobs () "now") wokenIdle h ∧ h.wakes.length = 4
      ∧ ∀ w ∈ h.wakes, h.begunSince w.since w.jobId = true :=
  ⟨_, rfl, rfl, (runtime_wakeups accountHostJobs () "now" wokenIdle _ rfl).2.1 rfl⟩

open RuntimeHost in
/-- An account becomes available while a run waits for the answer of its `shouldRun`, which says
that there is none: the job runs again only when its regular timer fires. -/
theorem runtime_wakeup_lost :
    ∃ h, Runs step (initialHost accountHostJobs () "now")
        [.start, .returned, .wake false false, .returned, .returned, .checked 0 (.ok false), .left 0] h
      ∧ h.stack = [] ∧ ⟨"peer-profile-refresh", 1⟩ ∈ h.wakes
      ∧ h.begunSince 1 "peer-profile-refresh" = false
      ∧ h.armed.map (fun t => (t.job.id, t.delayMs))
        = [("network-identity-sync", 300000), ("peer-profile-refresh", 900000)] :=
  ⟨_, rfl, rfl, by decide, rfl, rfl⟩

end TetiBot

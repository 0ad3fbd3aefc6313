import TetiBot.Relationships.Types
import TetiBot.Library.Transition

/-
The presence controller (`runtime/presence/controller.ts`).

* `PresenceController`: its fields, the attempts and the calls of `stop` that have not
  settled, and what was handed to the client.
* `PresenceEvent`, `PresenceController.step`: the calls of the owner, the results of the
  authentication and of a report, the continuations that wait for them, and the timer.
  They come in any order; a timer fires only when no continuation is due.
* `Scheduled`: the invariant of the attempts, the timer and the sequence numbers.
* `scheduleReport` throws where `toISOString` refuses the time of the next report.
* `presence_scheduling`: one report at a time, in the order of the sequence numbers, none
  while stopped or asleep, and no stall as long as the times can be written.
-/

namespace TetiBot

open Library

/-! ### Reports -/

/-- `TetiNetworkPresenceMode`. -/
inductive PresenceMode
  | collaborating | viewingConnect | online | background
  deriving DecidableEq

/-- `TetiNetworkPresenceReportRequest`; the marker is `collaboration_active` or `null`. -/
structure PresenceReport where
  sessionId : String
  sequence : Nat
  mode : PresenceMode
  collaborationMarker : Bool
  deriving DecidableEq

/-- What is read of `TetiNetworkPresenceReportResponse`. -/
structure PresenceResponse extends PresenceReport where
  tetiId : TetiId
  reportedAt : String
  deriving DecidableEq

/-- What the client or the authentication throws.  A delay that is infinite is like one past
the last date. -/
inductive PresenceError
  | network (code : NetworkErrorCode) (retryable : Bool) (retryAfterMs : Option Nat)
  | other
  deriving DecidableEq

def PresenceError.code : PresenceError → NetworkErrorCode
  | .network code _ _ => code
  | .other => .networkUnavailable

inductive PresenceState
  | stopped | sleeping | checking | online | unavailable
  deriving DecidableEq

/-- `RuntimePresenceSnapshot`, without the time of the next report. -/
structure PresenceSnapshot where
  state : PresenceState
  mode : PresenceMode
  sequence : Nat
  foreground : Bool
  panelVisible : Bool
  collaborationActive : Bool
  lastReportedAt : Option String
  errorCode : Option NetworkErrorCode
  deriving DecidableEq

/-- The delay of a timer, before the jitter. -/
inductive PresenceDelay
  | normal (mode : PresenceMode)
  | retry (failureCount : Nat) (retryAfterMs : Option Nat)
  | longest
  deriving DecidableEq

/-- What a timer does when it fires: report anew, or the same body again. -/
inductive PresenceTimer
  | fresh (delay : PresenceDelay)
  | replay (body : PresenceReport) (delay : PresenceDelay)
  deriving DecidableEq

def PresenceTimer.delay : PresenceTimer → PresenceDelay
  | .fresh delay => delay
  | .replay _ delay => delay

/-! ### Times -/

def TETI_PRESENCE_INTERVALS_MS : PresenceMode → Nat
  | .collaborating => 5000
  | .viewingConnect => 5000
  | .online => 15000
  | .background => 30000

def TETI_PRESENCE_RETRY_DELAYS_MS : List Nat := [5000, 15000, 30000, 60000, 300000]

/-- The last time that a `Date` can have. -/
def MAX_DATE : Timestamp := 8640000000000000

/-- What `now` and `random` say when a report is scheduled: the time, and a delay with the
jitter of a ratio in percent. -/
structure PresenceClock where
  now : Timestamp
  jitter : Nat → Nat → Nat

namespace PresenceClock

/-- `normalDelay`, `retryDelay` and the last retry delay. -/
def delayMs (clock : PresenceClock) : PresenceDelay → Nat
  | .normal mode => clock.jitter (TETI_PRESENCE_INTERVALS_MS mode) 10
  | .retry failureCount retryAfterMs =>
    let index := min (failureCount - 1) (TETI_PRESENCE_RETRY_DELAYS_MS.length - 1)
    clock.jitter (max 1 (retryAfterMs.getD (TETI_PRESENCE_RETRY_DELAYS_MS.getD index 0))) 20
  | .longest => 300000

/-- `new Date(scheduledAt).toISOString()` does not throw. -/
def writes (clock : PresenceClock) (timer : PresenceTimer) : Bool :=
  clock.now + clock.delayMs timer.delay ≤ MAX_DATE

end PresenceClock

/-! ### Attempts -/

/-- Where an attempt waits: for the authentication, for the answer to its report, or for
the continuation after it has settled. -/
inductive AttemptStage
  | authenticating
  | reporting (tetiId : TetiId)
  | finished
  deriving DecidableEq

/-- A call of `performAttempt`, with its abort signal. -/
structure PresenceAttempt where
  id : Nat
  body : PresenceReport
  aborted : Bool
  stage : AttemptStage
  deriving DecidableEq

/-- A body that was handed to the client, and how the controller stood then. -/
structure SentReport where
  body : PresenceReport
  active : Bool
  sleeping : Bool
  deriving DecidableEq

/-- A call of `stop` that waits for an attempt, and how many attempts there had been. -/
structure WaitingStop where
  awaited : Option Nat
  attempts : Nat
  deriving DecidableEq

structure PresenceController where
  sessionId : String
  active : Bool
  sleeping : Bool
  foreground : Bool
  panelVisible : Bool
  collaborationActive : Bool
  acceptedSequence : Nat
  nextSequence : Nat
  failureCount : Nat
  timer : Option PresenceTimer
  inFlight : Option Nat
  inFlightAbort : Option Nat
  pendingImmediate : Bool
  snapshot : PresenceSnapshot
  attempts : List PresenceAttempt
  attemptCount : Nat
  stops : List WaitingStop
  reported : List SentReport
  /-- How many attempts had been started at the last halt: a sleep, or a call of `stop`
  that has returned. -/
  halted : Nat
  /-- The attempt whose answer was published last. -/
  onlineBy : Option Nat
  deriving DecidableEq

inductive PresenceEvent
  | start
  | stop
  | setSleeping (sleeping : Bool)
  | setForeground (foreground : Bool)
  | setPanelVisible (visible : Bool)
  | setCollaborationActive (active : Bool)
  | reportStateChange
  | authenticated (attempt : Nat) (result : Except PresenceError TetiId) (clock : PresenceClock)
  /-- The second clock is read in the `catch` block. -/
  | answered (attempt : Nat) (result : Except PresenceError PresenceResponse)
    (clock retryClock : PresenceClock)
  /-- The continuation of `finally`. -/
  | settled (attempt : Nat)
  /-- The continuation of `stop`. -/
  | stopReturned (index : Nat)
  | timerFired

namespace PresenceController

/-! ### Publishing -/

variable (c : PresenceController)

def mode : PresenceMode :=
  if c.collaborationActive then .collaborating
  else if c.panelVisible then .viewingConnect
  else if c.foreground then .online else .background

/-- `createSnapshot`, with the fields of the last snapshot that are kept. -/
def createSnapshot (state : PresenceState) (lastReportedAt : Option String)
    (errorCode : Option NetworkErrorCode) : PresenceSnapshot where
  state := state
  mode := c.mode
  sequence := c.acceptedSequence
  foreground := c.foreground
  panelVisible := c.panelVisible
  collaborationActive := c.collaborationActive
  lastReportedAt := lastReportedAt
  errorCode := errorCode

def publish (state : PresenceState) (lastReportedAt : Option String := none)
    (errorCode : Option NetworkErrorCode := none) : PresenceController :=
  let known := if errorCode = none ∧ (state = .online ∨ state = .checking) then none
    else c.snapshot.errorCode
  let reportedAt := lastReportedAt.or c.snapshot.lastReportedAt
  { c with snapshot := c.createSnapshot state reportedAt (errorCode.or known) }

/-! ### Starting attempts -/

def cancelTimer : PresenceController := { c with timer := none }

/-- The body of `newReport`. -/
def freshBody : PresenceReport :=
  ⟨c.sessionId, c.nextSequence, c.mode, c.mode == .collaborating⟩

/-- `newReport` counts the sequence number. -/
def countReport : PresenceController :=
  { c with nextSequence := c.nextSequence + 1 }

variable (body : PresenceReport)

def startAttempt : PresenceController :=
  if !c.active || c.sleeping || c.inFlight.isSome then c
  else { c with
    inFlight := some c.attemptCount
    inFlightAbort := some c.attemptCount
    attempts := c.attempts ++ [⟨c.attemptCount, body, false, .authenticating⟩]
    attemptCount := c.attemptCount + 1 }

/-- `startAttempt(newReport())`. -/
def startFresh : PresenceController :=
  c.countReport.startAttempt c.freshBody

def requestImmediate : PresenceController :=
  if !c.active || c.sleeping then c
  else if c.inFlight.isSome then { c.cancelTimer with pendingImmediate := true }
  else c.cancelTimer.startFresh

/-- `scheduleReport`; it throws where the time cannot be written. -/
def scheduleReport (clock : PresenceClock) (timer : PresenceTimer) :
    Except PresenceController PresenceController :=
  if !c.active || c.sleeping || c.pendingImmediate then .ok c
  else if clock.writes timer then .ok { c.cancelTimer with timer := some timer }
  else .error c.cancelTimer

/-- `inFlightAbort?.abort()`. -/
def abort : PresenceController :=
  { c with attempts := c.attempts.map fun a =>
      if c.inFlightAbort = some a.id then { a with aborted := true } else a }

/-! ### Attempts that go on -/

/-- The attempt goes on with another stage. -/
def enter (attempt : Nat) (stage : AttemptStage) : PresenceController :=
  { c with attempts := c.attempts.map fun a => if a.id = attempt then { a with stage := stage } else a }

/-- The body is handed to the client. -/
def report : PresenceController :=
  { c with reported := c.reported ++ [⟨body, c.active, c.sleeping⟩] }

/-- What is scheduled after an attempt failed. -/
def retryTimer : PresenceError → PresenceTimer
  | .network .presenceSequenceStale _ _ => .fresh (.normal c.mode)
  | .network _ true retryAfterMs => .replay body (.retry c.failureCount retryAfterMs)
  | .network _ false _ => .replay body .longest
  | .other => .replay body (.retry c.failureCount none)

def countFailure : PresenceController :=
  { c with failureCount := c.failureCount + 1 }

/-- The `catch` block of `performAttempt`.  If it throws in turn, the attempt ends. -/
def failAttempt (clock : PresenceClock) (a : PresenceAttempt) (error : PresenceError) :
    PresenceController :=
  if a.aborted || !c.active || c.sleeping then c
  else
    let c := c.countFailure
    match (c.publish .unavailable none (some error.code)).scheduleReport clock
      (c.retryTimer a.body error) with
    | .ok c => c
    | .error c => c

/-- The answer repeats the report, and is about this account. -/
def consistent (tetiId : TetiId) (body : PresenceReport) (response : PresenceResponse) : Bool :=
  response.tetiId == tetiId && response.toPresenceReport == body

/-- An answer that is not consistent is an error. -/
def checkAnswer (tetiId : TetiId) (body : PresenceReport) :
    Except PresenceError PresenceResponse → Except PresenceError PresenceResponse
  | .ok response =>
    if consistent tetiId body response then .ok response
    else .error (.network .networkInvalidResponse false none)
  | .error error => .error error

/-- A report was answered.  The abort signal is not looked at.  What `scheduleReport`
throws is caught like an error of the client. -/
def acceptAnswer (clock retryClock : PresenceClock) (a : PresenceAttempt)
    (response : PresenceResponse) : PresenceController :=
  let c := { c with
    acceptedSequence := max c.acceptedSequence a.body.sequence
    failureCount := 0
    onlineBy := some a.id }
  match (c.publish .online (some response.reportedAt)).scheduleReport clock
    (.fresh (.normal a.body.mode)) with
  | .ok c => c
  | .error c => c.failAttempt retryClock a .other

/-- The rest of `performAttempt` after the answer. -/
def receiveAnswer (clock retryClock : PresenceClock) (a : PresenceAttempt) (tetiId : TetiId)
    (result : Except PresenceError PresenceResponse) : PresenceController :=
  match checkAnswer tetiId a.body result with
  | .ok response => c.acceptAnswer clock retryClock a response
  | .error error => c.failAttempt retryClock a error

/-- The continuation of `finally`. -/
def settleAttempt (attempt : Nat) : PresenceController :=
  let c := { c with
    attempts := c.attempts.filter fun a => a.id != attempt
    inFlight := if c.inFlight = some attempt then none else c.inFlight
    inFlightAbort := if c.inFlightAbort = some attempt then none else c.inFlightAbort }
  if !c.active || c.sleeping then c
  else if c.pendingImmediate then ({ c with pendingImmediate := false }).cancelTimer.startFresh
  else c

/-! ### Calls of the owner -/

def start : PresenceController :=
  if c.active then c
  else
    let c := ({ c with active := true }).publish (if c.sleeping then .sleeping else .checking)
    if c.sleeping then c else c.requestImmediate

/-- `stop`, up to the point where it waits. -/
def stop : PresenceController :=
  if !c.active && c.inFlight.isNone then c
  else
    let c := ({ c with active := false, pendingImmediate := false }).cancelTimer.abort
    { c with stops := c.stops ++ [⟨c.inFlight, c.attemptCount⟩] }

/-- The rest of `stop`. -/
def returnStop (index : Nat) (waiting : WaitingStop) : PresenceController :=
  { c.publish .stopped with
    stops := c.stops.eraseIdx index
    halted := max c.halted waiting.attempts }

def setSleeping (sleeping : Bool) : PresenceController :=
  if c.sleeping = sleeping then c
  else if sleeping then
    let c := ({ c with sleeping := true, pendingImmediate := false }).cancelTimer.abort
    { c.publish .sleeping with halted := c.attemptCount }
  else
    let c := { c with sleeping := false }
    if c.active then (c.publish .checking).requestImmediate else c

/-- `reportModeChange`. -/
def reportModeChange (previous : PresenceMode) : PresenceController :=
  let c := c.publish (if c.sleeping then .sleeping else c.snapshot.state)
  if previous ≠ c.mode ∧ c.active ∧ !c.sleeping then c.requestImmediate else c

def setForeground (foreground : Bool) : PresenceController :=
  if c.foreground = foreground then c
  else ({ c with foreground := foreground }).reportModeChange c.mode

def setPanelVisible (visible : Bool) : PresenceController :=
  if c.panelVisible = visible then c
  else ({ c with panelVisible := visible }).reportModeChange c.mode

def setCollaborationActive (active : Bool) : PresenceController :=
  if c.collaborationActive = active then c
  else ({ c with collaborationActive := active }).reportModeChange c.mode

/-- `reportStateChange`. -/
def reportStateChange : PresenceController :=
  if c.active && !c.sleeping then c.requestImmediate else c

/-! ### Steps -/

/-- A timer fires. -/
def fireTimer : PresenceTimer → PresenceController
  | .fresh _ => c.cancelTimer.startFresh
  | .replay body _ => c.cancelTimer.startAttempt body

/-- One event, where it can happen. -/
def step : PresenceEvent → Option PresenceController
  | .start => some c.start
  | .stop => some c.stop
  | .setSleeping sleeping => some (c.setSleeping sleeping)
  | .setForeground foreground => some (c.setForeground foreground)
  | .setPanelVisible visible => some (c.setPanelVisible visible)
  | .setCollaborationActive active => some (c.setCollaborationActive active)
  | .reportStateChange => some c.reportStateChange
  | .authenticated attempt result clock =>
    match c.attempts.find? fun a => a.id == attempt && a.stage == .authenticating, result with
    | none, _ => none
    | some a, .ok tetiId =>
      if a.aborted then some (c.enter attempt .finished)
      else some ((c.report a.body).enter attempt (.reporting tetiId))
    | some a, .error error => some ((c.failAttempt clock a error).enter attempt .finished)
  | .answered attempt result clock retryClock =>
    match c.attempts.find? fun a => a.id == attempt with
    | some ⟨id, body, aborted, .reporting tetiId⟩ =>
      some ((c.receiveAnswer clock retryClock ⟨id, body, aborted, .reporting tetiId⟩ tetiId
        result).enter attempt .finished)
    | _ => none
  | .settled attempt =>
    if c.attempts.any fun a => a.id == attempt && a.stage == .finished then
      some (c.settleAttempt attempt)
    else none
  | .stopReturned index =>
    match c.stops[index]? with
    | none => none
    | some waiting =>
      if c.attempts.any fun a => some a.id == waiting.awaited then none
      else some (c.returnStop index waiting)
  | .timerFired =>
    if c.attempts.any fun a => a.stage == .finished then none
    else c.timer.map c.fireTimer

end PresenceController

/-- The controller as it is constructed. -/
def initialPresence (sessionId : String) : PresenceController where
  sessionId := sessionId
  active := false
  sleeping := false
  foreground := true
  panelVisible := false
  collaborationActive := false
  acceptedSequence := 0
  nextSequence := 1
  failureCount := 0
  timer := none
  inFlight := none
  inFlightAbort := none
  pendingImmediate := false
  snapshot := ⟨.stopped, .online, 0, true, false, false, none, none⟩
  attempts := []
  attemptCount := 0
  stops := []
  reported := []
  halted := 0
  onlineBy := none

namespace PresenceController

/-! ### Times that can be written -/

variable (c : PresenceController)

/-- The time that an answer schedules a report for can be written. -/
def answerWritable (clock retryClock : PresenceClock) (a : PresenceAttempt) (tetiId : TetiId)
    (result : Except PresenceError PresenceResponse) : Bool :=
  match checkAnswer tetiId a.body result with
  | .ok _ => clock.writes (.fresh (.normal a.body.mode))
  | .error error => retryClock.writes (c.countFailure.retryTimer a.body error)

/-- Every time that the event schedules a report for can be written. -/
def writable : PresenceEvent → Bool
  | .authenticated attempt (.error error) clock => c.attempts.all fun a =>
    a.id != attempt || clock.writes (c.countFailure.retryTimer a.body error)
  | .answered attempt result clock retryClock => c.attempts.all fun a =>
    match a.stage with
    | .reporting tetiId => a.id != attempt || c.answerWritable clock retryClock a tetiId result
    | _ => true
  | _ => true

/-! ### The invariant -/

/-- The next report may have this body: it is not older than what was reported, and a
repeated number repeats the body. -/
def MayReport (body : PresenceReport) : Prop :=
  body.sequence < c.nextSequence ∧ ∀ r ∈ c.reported, r.body.sequence ≤ body.sequence
    ∧ (r.body.sequence = body.sequence → r.body = body)

/-- How attempts, timer and reports stand; `slot` is the attempt in flight. -/
structure Scheduled (c : PresenceController) (slot : Option PresenceAttempt) : Prop where
  attempts : c.attempts = slot.toList
  inFlight : c.inFlight = slot.map PresenceAttempt.id
  inFlightAbort : c.inFlightAbort = slot.map PresenceAttempt.id
  counted : ∀ a ∈ slot, a.id < c.attemptCount
  running : ∀ a ∈ slot, a.aborted = false → c.active = true ∧ c.sleeping = false
  timed : c.timer.isSome → ∀ a ∈ slot, a.stage = .finished
  replayed : ∀ body delay, c.timer = some (.replay body delay) → c.MayReport body
  body : ∀ a ∈ slot, c.MayReport a.body
  below : ∀ r ∈ c.reported, r.body.sequence < c.nextSequence
  ordered : c.reported.Pairwise fun r r' => r.body.sequence ≤ r'.body.sequence
    ∧ (r.body.sequence = r'.body.sequence → r.body = r'.body)
  awake : ∀ r ∈ c.reported, r.active = true ∧ r.sleeping = false
  halts : c.halted ≤ c.attemptCount ∧ ∀ a ∈ slot, a.aborted = false → c.halted ≤ a.id
  stopping : ∀ w ∈ c.stops, w.attempts ≤ c.attemptCount
    ∧ ∀ a ∈ slot, a.id < w.attempts → a.aborted = true

/-- An active controller that is awake goes on: a timer is set, or the attempt in flight
will set one or is followed by another.  It is shown where all times can be written,
which `written` says. -/
def Lively (written : Prop) (slot : Option PresenceAttempt) : Prop :=
  c.active = true → c.sleeping = false → written → c.timer.isSome
    ∨ ∃ a ∈ slot, c.pendingImmediate = true ∨ (a.aborted = false ∧ a.stage ≠ .finished)

/-- What holds after every event. -/
def Scheduling (written : Prop) : Prop :=
  ∃ slot, Scheduled c slot ∧ Lively c written slot

variable {c t : PresenceController} {slot : Option PresenceAttempt} {a : PresenceAttempt}
  {clock retryClock : PresenceClock} {written : Prop}

lemma Scheduled.slot_eq (h : Scheduled c slot) (ha : a ∈ c.attempts) : slot = some a := by
  rw [h.attempts] at ha
  exact Option.mem_toList.mp ha

@[simp] lemma publish_sleeping (state : PresenceState) (at' : Option String)
    (code : Option NetworkErrorCode) : (c.publish state at' code).sleeping = c.sleeping := rfl

lemma Scheduled.publish (h : Scheduled c slot) (state : PresenceState) (at' : Option String)
    (code : Option NetworkErrorCode) : Scheduled (c.publish state at' code) slot :=
  { h with }

lemma Scheduled.cancelTimer (h : Scheduled c slot) : Scheduled c.cancelTimer slot :=
  { h with
    timed := fun hsome => by cases hsome
    replayed := fun _ _ hsome => by cases hsome }

lemma Scheduled.countReport (h : Scheduled c slot) : Scheduled c.countReport slot :=
  have hmay : ∀ body, c.MayReport body → c.countReport.MayReport body := fun _ hbody =>
    ⟨hbody.1.trans (Nat.lt_succ_self _), hbody.2⟩
  { h with
    replayed := fun body delay ht => hmay body (h.replayed body delay ht)
    body := fun a ha => hmay a.body (h.body a ha)
    below := fun r hr => (h.below r hr).trans (Nat.lt_succ_self _) }

/-- A fresh body is newer than all that were reported. -/
lemma Scheduled.fresh (h : Scheduled c slot) : c.countReport.MayReport c.freshBody :=
  ⟨Nat.lt_succ_self _, fun r hr => ⟨(h.below r hr).le, fun heq => absurd heq (h.below r hr).ne⟩⟩

/-! ### Starting -/

/-- An attempt starts where there is none, unless the controller is halted. -/
lemma scheduling_startAttempt {body : PresenceReport} (h : Scheduled c none)
    (htimer : c.timer = none) (hbody : c.MayReport body) : (c.startAttempt body).Scheduling written := by
  unfold startAttempt
  split_ifs with hhalted
  · refine ⟨none, h, fun hactive hawake => ?_⟩
    simp [hactive, hawake, h.inFlight] at hhalted
  · simp only [Bool.or_eq_true, Bool.not_eq_true', not_or, Bool.not_eq_false,
      Bool.not_eq_true] at hhalted
    refine ⟨some ⟨c.attemptCount, body, false, .authenticating⟩, ?_, fun _ _ _ => ?_⟩
    · exact {
        attempts := by simp [h.attempts]
        inFlight := rfl
        inFlightAbort := rfl
        counted := by rintro _ ⟨⟩; exact Nat.lt_succ_self _
        running := by rintro _ ⟨⟩ -; exact hhalted.1
        timed := fun hsome => by simp [htimer] at hsome
        replayed := fun _ _ hsome => by simp [htimer] at hsome
        body := by rintro _ ⟨⟩; exact hbody
        below := h.below
        ordered := h.ordered
        awake := h.awake
        halts := by
          refine ⟨h.halts.1.trans (Nat.le_succ _), ?_⟩
          rintro _ ⟨⟩ -
          exact h.halts.1
        stopping := fun w hw => by
          refine ⟨(h.stopping w hw).1.trans (Nat.le_succ _), ?_⟩
          rintro _ ⟨⟩ hlt
          exact absurd (h.stopping w hw).1 (Nat.not_le_of_lt hlt) }
    · exact .inr ⟨_, rfl, .inr ⟨rfl, by simp⟩⟩

lemma scheduling_startFresh (h : Scheduled c none) (htimer : c.timer = none) :
    c.startFresh.Scheduling written :=
  scheduling_startAttempt h.countReport htimer h.fresh

/-- An immediate report starts, or is noted for the end of the attempt in flight. -/
lemma scheduling_requestImmediate (h : Scheduled c slot) : c.requestImmediate.Scheduling written := by
  unfold requestImmediate
  split_ifs with hhalted hflight
  · refine ⟨slot, h, fun hactive hawake => ?_⟩
    simp [hactive, hawake] at hhalted
  · refine ⟨slot, { h.cancelTimer with }, fun _ _ _ => .inr ?_⟩
    rw [h.inFlight, Option.isSome_map] at hflight
    obtain ⟨a, rfl⟩ := Option.isSome_iff_exists.mp hflight
    exact ⟨a, rfl, .inl rfl⟩
  · rw [h.inFlight, Option.isSome_map, Option.not_isSome_iff_eq_none] at hflight
    subst hflight
    exact scheduling_startFresh h.cancelTimer rfl

/-! ### Halting -/

lemma Scheduled.halt (h : Scheduled c slot) (active sleeping : Bool) :
    Scheduled ({ c with active := active, sleeping := sleeping, pendingImmediate := false }
      ).cancelTimer.abort (slot.map fun a => { a with aborted := true }) := by
  have haborted : ∀ a ∈ slot.map fun a : PresenceAttempt => { a with aborted := true },
      a.aborted = true ∧ ∃ b ∈ slot, b.id = a.id ∧ b.body = a.body := by
    intro a ha
    obtain ⟨b, hb, rfl⟩ := Option.mem_map.mp ha
    exact ⟨rfl, b, hb, rfl, rfl⟩
  exact {
    attempts := by
      show c.attempts.map (fun a => if c.inFlightAbort = some a.id then { a with aborted := true }
        else a) = _
      rw [h.attempts, h.inFlightAbort]
      cases slot <;> simp
    inFlight := h.inFlight.trans (by cases slot <;> rfl)
    inFlightAbort := h.inFlightAbort.trans (by cases slot <;> rfl)
    counted := fun a ha => by
      obtain ⟨-, b, hb, hid, -⟩ := haborted a ha
      exact hid ▸ h.counted b hb
    running := fun a ha hrunning => absurd hrunning (by simp [(haborted a ha).1])
    timed := fun hsome => by cases hsome
    replayed := fun _ _ hsome => by cases hsome
    body := fun a ha => by
      obtain ⟨-, b, hb, -, hbody⟩ := haborted a ha
      exact hbody ▸ h.body b hb
    below := h.below
    ordered := h.ordered
    awake := h.awake
    halts := ⟨h.halts.1, fun a ha hrunning => absurd hrunning (by simp [(haborted a ha).1])⟩
    stopping := fun w hw => ⟨(h.stopping w hw).1, fun a ha _ => (haborted a ha).1⟩ }

lemma scheduling_stop (h : c.Scheduling written) : c.stop.Scheduling written := by
  obtain ⟨slot, h, hlively⟩ := h
  unfold stop
  split_ifs
  · exact ⟨slot, h, hlively⟩
  · have halt := h.halt false c.sleeping
    refine ⟨_, { halt with stopping := fun w hw => ?_ }, fun hactive => by cases hactive⟩
    rcases List.mem_append.mp hw with hold | hnew
    · exact halt.stopping w hold
    · obtain rfl := List.mem_singleton.mp hnew
      refine ⟨le_rfl, fun a ha _ => ?_⟩
      obtain ⟨b, -, rfl⟩ := Option.mem_map.mp ha
      rfl

lemma scheduling_returnStop {index : Nat} {waiting : WaitingStop} (h : c.Scheduling written)
    (hwaiting : waiting ∈ c.stops) : (c.returnStop index waiting).Scheduling written := by
  obtain ⟨slot, h, hlively⟩ := h
  obtain ⟨hcount, hstopped⟩ := h.stopping waiting hwaiting
  refine ⟨slot, { h with
    halts := ⟨max_le h.halts.1 hcount, fun a ha hrunning => ?_⟩
    stopping := fun w hw => h.stopping w (List.mem_of_mem_eraseIdx hw) }, hlively⟩
  refine max_le (h.halts.2 a ha hrunning) (Nat.le_of_not_lt fun hlt => ?_)
  rw [hstopped a ha hlt] at hrunning
  cases hrunning

/-- While the controller is halted, the attempt in flight is aborted; so it may go on. -/
lemma Scheduled.resume (h : Scheduled c slot) (hhalted : c.active = false ∨ c.sleeping = true)
    (active sleeping : Bool) :
    Scheduled { c with active := active, sleeping := sleeping } slot :=
  { h with
    running := fun a ha hrunning => by
      obtain ⟨hactive, hawake⟩ := h.running a ha hrunning
      simp [hactive, hawake] at hhalted }

lemma scheduling_start (h : c.Scheduling written) : c.start.Scheduling written := by
  obtain ⟨slot, h, hlively⟩ := h
  simp only [start, publish_sleeping]
  split_ifs with hactive hsleeping
  · exact ⟨slot, h, hlively⟩
  · have hresumed := (h.resume (.inr hsleeping) true c.sleeping).publish .sleeping none none
    exact ⟨slot, hresumed, fun _ hawake => absurd (hsleeping.symm.trans hawake) (by decide)⟩
  · have hresumed := h.resume (.inl (Bool.eq_false_iff.mpr hactive)) true c.sleeping
    exact scheduling_requestImmediate (hresumed.publish .checking none none)

lemma scheduling_setSleeping (sleeping : Bool) (h : c.Scheduling written) :
    (c.setSleeping sleeping).Scheduling written := by
  obtain ⟨slot, h, hlively⟩ := h
  by_cases hsame : c.sleeping = sleeping
  · rw [setSleeping, if_pos hsame]
    exact ⟨slot, h, hlively⟩
  · rw [setSleeping, if_neg hsame]
    cases sleeping with
    | true =>
      have halt := (h.halt c.active true).publish .sleeping none none
      refine ⟨_, { halt with halts := ⟨le_rfl, fun a ha hrunning => ?_⟩ },
        fun _ hawake => by cases hawake⟩
      obtain ⟨b, -, rfl⟩ := Option.mem_map.mp ha
      cases hrunning
    | false =>
      have hresumed := h.resume (.inr (Bool.eq_true_of_not_eq_false hsame)) c.active false
      rw [if_neg Bool.false_ne_true]
      dsimp only
      split_ifs with hactive
      · exact scheduling_requestImmediate (hresumed.publish .checking none none)
      · exact ⟨slot, hresumed, fun hon => absurd hon hactive⟩

lemma scheduling_reportModeChange (previous : PresenceMode) (h : Scheduled c slot)
    (hlively : Lively c written slot) : (c.reportModeChange previous).Scheduling written := by
  unfold reportModeChange
  generalize (if c.sleeping = true then PresenceState.sleeping else c.snapshot.state) = state
  have hpublished := h.publish state none none
  dsimp only
  split_ifs
  · exact scheduling_requestImmediate hpublished
  · exact ⟨slot, hpublished, hlively⟩

lemma scheduling_view {foreground panelVisible collaborationActive : Bool} (h : c.Scheduling written) :
    (PresenceController.reportModeChange { c with
      foreground := foreground
      panelVisible := panelVisible
      collaborationActive := collaborationActive } c.mode).Scheduling written := by
  obtain ⟨slot, h, hlively⟩ := h
  exact scheduling_reportModeChange c.mode { h with } hlively

/-! ### Attempts that go on -/

/-- An attempt that waits for its report, or the end, is the attempt in flight. -/
lemma Scheduled.enter (h : Scheduled c (some a)) (stage : AttemptStage)
    (htimed : c.timer.isSome → stage = .finished) :
    Scheduled (c.enter a.id stage) (some { a with stage := stage }) where
  attempts := by simp [PresenceController.enter, h.attempts]
  inFlight := h.inFlight
  inFlightAbort := h.inFlightAbort
  counted := by rintro _ ⟨⟩; exact h.counted a rfl
  running := by rintro _ ⟨⟩; exact h.running a rfl
  timed := by rintro hsome _ ⟨⟩; exact htimed hsome
  replayed := h.replayed
  body := by rintro _ ⟨⟩; exact h.body a rfl
  below := h.below
  ordered := h.ordered
  awake := h.awake
  halts := ⟨h.halts.1, by rintro _ ⟨⟩; exact h.halts.2 a rfl⟩
  stopping := fun w hw => ⟨(h.stopping w hw).1, by rintro _ ⟨⟩; exact (h.stopping w hw).2 a rfl⟩

/-- An aborted attempt ends: an immediate report is noted, unless the controller is halted. -/
lemma scheduling_end (h : Scheduled c (some a)) (hlively : Lively c written (some a))
    (hover : c.active = true → c.sleeping = false → written → a.aborted = true
      ∨ c.pendingImmediate = true ∨ c.timer.isSome) :
    (c.enter a.id .finished).Scheduling written := by
  refine ⟨_, h.enter .finished fun _ => rfl, fun hactive hawake hwritten => ?_⟩
  rcases hlively hactive hawake hwritten with htimer | ⟨b, ⟨⟩, hpending | ⟨hrunning, -⟩⟩
  · exact .inl htimer
  · exact .inr ⟨_, rfl, .inl hpending⟩
  · rcases hover hactive hawake hwritten with haborted | hpending | htimer
    · rw [hrunning] at haborted
      cases haborted
    · exact .inr ⟨_, rfl, .inl hpending⟩
    · exact .inl htimer

variable {timer : PresenceTimer}

/-- An attempt ends, and schedules what follows it. -/
lemma scheduling_schedule (h : Scheduled c (some a)) (hlively : Lively c written (some a))
    (hreplay : ∀ body delay, timer = .replay body delay → c.MayReport body)
    (hok : c.scheduleReport clock timer = .ok t) : (t.enter a.id .finished).Scheduling written := by
  unfold scheduleReport at hok
  split_ifs at hok with hnone
  · obtain rfl := Except.ok.inj hok
    refine scheduling_end h hlively fun hactive hawake _ => ?_
    simp only [hactive, hawake, Bool.not_true, Bool.or_self, Bool.false_or] at hnone
    exact .inr (.inl hnone)
  · obtain rfl := Except.ok.inj hok
    have hended := h.cancelTimer.enter .finished fun _ => rfl
    refine ⟨_, { hended with timed := ?_, replayed := ?_ }, fun _ _ _ => .inl rfl⟩
    · rintro - _ ⟨⟩
      rfl
    · intro body delay htimer
      exact hreplay body delay (Option.some.inj htimer)

/-- Where a report cannot be scheduled, no timer is set. -/
lemma Scheduled.unscheduled (h : Scheduled c slot)
    (herror : c.scheduleReport clock timer = .error t) :
    Scheduled t slot ∧ clock.writes timer = false := by
  unfold scheduleReport at herror
  split_ifs at herror with hhalted hwrites
  obtain rfl := Except.error.inj herror
  exact ⟨h.cancelTimer, Bool.eq_false_iff.mpr hwrites⟩

lemma scheduling_failAttempt {error : PresenceError} (h : Scheduled c (some a))
    (hlively : Lively c written (some a))
    (hwrites : written → clock.writes (c.countFailure.retryTimer a.body error) = true) :
    ((c.failAttempt clock a error).enter a.id .finished).Scheduling written := by
  unfold failAttempt
  split_ifs with hignored
  · refine scheduling_end h hlively fun hactive hawake _ => .inl ?_
    simpa [hactive, hawake] using hignored
  · have hcounted : Scheduled c.countFailure (some a) := { h with }
    have hpublished := hcounted.publish .unavailable none (some error.code)
    dsimp only
    split
    · next t hok =>
      refine scheduling_schedule hpublished hlively (fun body delay htimer => ?_) hok
      -- what is reported again is the body of this attempt
      unfold retryTimer at htimer
      split at htimer <;> cases htimer <;> exact h.body a rfl
    · next t herror =>
      obtain ⟨hended, hthrown⟩ := hpublished.unscheduled herror
      have hnot : ¬written := fun hwritten => by
        rw [hwrites hwritten] at hthrown
        cases hthrown
      exact ⟨_, hended.enter .finished fun _ => rfl, fun _ _ hwritten => absurd hwritten hnot⟩

variable {result : Except PresenceError PresenceResponse}

lemma scheduling_receiveAnswer {tetiId : TetiId} (h : Scheduled c (some a))
    (hlively : Lively c written (some a))
    (hwrites : written → c.answerWritable clock retryClock a tetiId result = true) :
    ((c.receiveAnswer clock retryClock a tetiId result).enter a.id .finished).Scheduling written := by
  unfold answerWritable at hwrites
  unfold receiveAnswer
  cases hanswer : checkAnswer tetiId a.body result with
  | error error =>
    rw [hanswer] at hwrites
    exact scheduling_failAttempt h hlively hwrites
  | ok response =>
    rw [hanswer] at hwrites
    have haccepted : Scheduled { c with
        acceptedSequence := max c.acceptedSequence a.body.sequence
        failureCount := 0
        onlineBy := some a.id } (some a) := { h with }
    have hpublished := haccepted.publish .online (some response.reportedAt) none
    dsimp only [acceptAnswer]
    split
    · next t hok =>
      exact scheduling_schedule hpublished hlively (fun body delay htimer => by cases htimer) hok
    · next t herror =>
      obtain ⟨hthrown, hunwritten⟩ := hpublished.unscheduled herror
      have hnot : ¬written := fun hwritten => by
        have htime : clock.writes (.fresh (.normal a.body.mode)) = true := hwrites hwritten
        rw [htime] at hunwritten
        cases hunwritten
      exact scheduling_failAttempt hthrown (fun _ _ hwritten => absurd hwritten hnot) fun hwritten =>
        absurd hwritten hnot

/-- The body of an attempt that was not aborted is handed to the client. -/
lemma scheduling_report (tetiId : TetiId) (h : Scheduled c (some a))
    (hstage : a.stage = .authenticating) (hrunning : a.aborted = false) :
    ((c.report a.body).enter a.id (.reporting tetiId)).Scheduling written := by
  have htimer : c.timer.isSome → False := fun hsome => by
    have := h.timed hsome a rfl
    rw [hstage] at this
    cases this
  have hlast : ∀ r ∈ (c.report a.body).reported, r ∈ c.reported
      ∨ r = ⟨a.body, c.active, c.sleeping⟩ := fun r hr =>
    (List.mem_append.mp hr).imp id List.mem_singleton.mp
  have hbody := h.body a rfl
  have hreported : Scheduled (c.report a.body) (some a) := { h with
    replayed := fun _ _ ht => (htimer (by rw [show c.timer = _ from ht]; rfl)).elim
    body := by
      rintro _ ⟨⟩
      refine ⟨hbody.1, fun r hr => ?_⟩
      obtain hold | rfl := hlast r hr
      · exact hbody.2 r hold
      · exact ⟨le_rfl, fun _ => rfl⟩
    below := fun r hr => by
      obtain hold | rfl := hlast r hr
      · exact h.below r hold
      · exact hbody.1
    ordered := List.pairwise_append.mpr ⟨h.ordered, List.pairwise_singleton _ _, fun r hr r' hr' => by
      obtain rfl := List.mem_singleton.mp hr'
      exact hbody.2 r hr⟩
    awake := fun r hr => by
      obtain hold | rfl := hlast r hr
      · exact h.awake r hold
      · exact h.running a rfl hrunning }
  refine ⟨_, hreported.enter _ fun hsome => (htimer hsome).elim, fun _ _ _ => ?_⟩
  exact .inr ⟨_, rfl, .inr ⟨hrunning, by simp⟩⟩

lemma scheduling_settleAttempt (h : Scheduled c (some a)) (hlively : Lively c written (some a))
    (hstage : a.stage = .finished) : (c.settleAttempt a.id).Scheduling written := by
  have hfree : Scheduled { c with
      attempts := c.attempts.filter fun b => b.id != a.id
      inFlight := none
      inFlightAbort := none } none :=
    { attempts := by simp [h.attempts]
      inFlight := rfl
      inFlightAbort := rfl
      counted := by rintro _ ⟨⟩
      running := by rintro _ ⟨⟩
      timed := by rintro - _ ⟨⟩
      replayed := h.replayed
      body := by rintro _ ⟨⟩
      below := h.below
      ordered := h.ordered
      awake := h.awake
      halts := ⟨h.halts.1, by rintro _ ⟨⟩⟩
      stopping := fun w hw => ⟨(h.stopping w hw).1, by rintro _ ⟨⟩⟩ }
  have hflight : c.inFlight = some a.id := h.inFlight
  have habort : c.inFlightAbort = some a.id := h.inFlightAbort
  rw [settleAttempt, if_pos hflight, if_pos habort]
  dsimp only
  split_ifs with hhalted hpending
  · refine ⟨none, hfree, fun hactive hawake => ?_⟩
    simp [show c.active = true from hactive, show c.sleeping = false from hawake] at hhalted
  · have hcancelled : Scheduled { c with
        attempts := c.attempts.filter fun b => b.id != a.id
        inFlight := none
        inFlightAbort := none
        pendingImmediate := false } none := { hfree with }
    exact scheduling_startFresh hcancelled.cancelTimer rfl
  · refine ⟨none, hfree, fun hactive hawake hwritten => .inl ?_⟩
    rcases hlively hactive hawake hwritten with htimer | ⟨b, ⟨⟩, hnoted | ⟨-, hgoing⟩⟩
    · exact htimer
    · exact absurd hnoted hpending
    · exact absurd hstage hgoing

lemma scheduling_fireTimer (h : Scheduled c none) (htimer : c.timer = some timer) :
    (c.fireTimer timer).Scheduling written := by
  cases timer with
  | fresh delay => exact scheduling_startFresh h.cancelTimer rfl
  | replay body delay => exact scheduling_startAttempt h.cancelTimer rfl (h.replayed body delay htimer)

/-! ### Every event -/

lemma scheduling_initial (sessionId : String) : (initialPresence sessionId).Scheduling written := by
  refine ⟨none, ?_, fun hactive => by cases hactive⟩
  exact {
    attempts := rfl
    inFlight := rfl
    inFlightAbort := rfl
    counted := by rintro _ ⟨⟩
    running := by rintro _ ⟨⟩
    timed := by rintro - _ ⟨⟩
    replayed := by rintro _ _ ⟨⟩
    body := by rintro _ ⟨⟩
    below := by rintro _ ⟨⟩
    ordered := .nil
    awake := by rintro _ ⟨⟩
    halts := ⟨le_rfl, by rintro _ ⟨⟩⟩
    stopping := by rintro _ ⟨⟩ }

/-- **Every event keeps the invariant.** -/
theorem scheduling_step {e : PresenceEvent} (h : c.Scheduling written)
    (hwritable : written → c.writable e = true) (hstep : c.step e = some t) :
    t.Scheduling written := by
  cases e with
  | start => exact Option.some.inj hstep ▸ scheduling_start h
  | stop => exact Option.some.inj hstep ▸ scheduling_stop h
  | setSleeping sleeping => exact Option.some.inj hstep ▸ scheduling_setSleeping sleeping h
  | setForeground foreground =>
    obtain rfl := Option.some.inj hstep
    unfold setForeground
    split_ifs
    · exact h
    · exact scheduling_view h
  | setPanelVisible visible =>
    obtain rfl := Option.some.inj hstep
    unfold setPanelVisible
    split_ifs
    · exact h
    · exact scheduling_view h
  | setCollaborationActive active =>
    obtain rfl := Option.some.inj hstep
    unfold setCollaborationActive
    split_ifs
    · exact h
    · exact scheduling_view h
  | reportStateChange =>
    obtain rfl := Option.some.inj hstep
    unfold reportStateChange
    split_ifs
    · obtain ⟨slot, h, -⟩ := h
      exact scheduling_requestImmediate h
    · exact h
  | authenticated attempt result clock =>
    obtain ⟨slot, h, hlively⟩ := h
    cases hfind : c.attempts.find? (fun a => a.id == attempt && a.stage == .authenticating) with
    | none => simp [step, hfind] at hstep
    | some a =>
      obtain rfl := h.slot_eq (List.mem_of_find?_eq_some hfind)
      obtain ⟨rfl, hstage⟩ : a.id = attempt ∧ a.stage = .authenticating := by
        simpa using List.find?_some hfind
      simp only [step, hfind] at hstep
      cases result with
      | error error =>
        refine Option.some.inj hstep ▸ scheduling_failAttempt h hlively fun hwritten => ?_
        simpa [writable, h.attempts] using hwritable hwritten
      | ok tetiId =>
        dsimp only at hstep
        split_ifs at hstep with haborted
        · exact Option.some.inj hstep ▸ scheduling_end h hlively fun _ _ _ => .inl haborted
        · exact Option.some.inj hstep ▸
            scheduling_report tetiId h hstage (Bool.eq_false_iff.mpr haborted)
  | answered attempt result clock retryClock =>
    obtain ⟨slot, h, hlively⟩ := h
    cases hfind : c.attempts.find? (fun a => a.id == attempt) with
    | none => simp [step, hfind] at hstep
    | some a =>
      obtain rfl := h.slot_eq (List.mem_of_find?_eq_some hfind)
      obtain rfl : a.id = attempt := by simpa using List.find?_some hfind
      obtain ⟨id, body, aborted, stage⟩ := a
      cases stage with
      | reporting tetiId =>
        simp only [step, hfind] at hstep
        refine Option.some.inj hstep ▸ scheduling_receiveAnswer h hlively fun hwritten => ?_
        simpa [writable, h.attempts] using hwritable hwritten
      | authenticating => simp [step, hfind] at hstep
      | finished => simp [step, hfind] at hstep
  | settled attempt =>
    obtain ⟨slot, h, hlively⟩ := h
    simp only [step] at hstep
    split_ifs at hstep with hany
    obtain ⟨a, ha, hmatch⟩ := List.any_eq_true.mp hany
    obtain ⟨rfl, hstage⟩ : a.id = attempt ∧ a.stage = .finished := by simpa using hmatch
    obtain rfl := h.slot_eq ha
    exact Option.some.inj hstep ▸ scheduling_settleAttempt h hlively hstage
  | stopReturned index =>
    simp only [step] at hstep
    split at hstep
    · cases hstep
    · next waiting hwaiting =>
      split_ifs at hstep
      exact Option.some.inj hstep ▸ scheduling_returnStop h (List.mem_of_getElem? hwaiting)
  | timerFired =>
    obtain ⟨slot, h, -⟩ := h
    simp only [step] at hstep
    split_ifs at hstep with hany
    obtain ⟨timer, htimer, rfl⟩ := Option.map_eq_some_iff.mp hstep
    cases slot with
    | none => exact scheduling_fireTimer h htimer
    | some a =>
      -- with a timer set, only an attempt that waits for its continuation is in flight
      have hfinished := h.timed (by simp [htimer]) a rfl
      simp [h.attempts, hfinished] at hany

/-! ### The published state -/

/-- The controller is online only by the answer to an attempt that was started after the
last halt. -/
def Fresh (c : PresenceController) : Prop :=
  c.snapshot.state = .online → ∃ id ∈ c.onlineBy, c.halted ≤ id

/-- No report whose signal was aborted is answered with what can be published. -/
def timely (c : PresenceController) : PresenceEvent → Bool
  | .answered attempt (.ok response) _ _ => c.attempts.all fun a =>
    match a.stage with
    | .reporting tetiId => a.id != attempt || !a.aborted || !consistent tetiId a.body response
    | _ => true
  | _ => true

lemma fresh_publish {state : PresenceState} (at' : Option String) (code : Option NetworkErrorCode)
    (hstate : state ≠ .online) : (c.publish state at' code).Fresh :=
  fun honline => absurd honline hstate

@[simp] lemma fresh_startAttempt {body : PresenceReport} :
    (c.startAttempt body).Fresh ↔ c.Fresh := by
  unfold startAttempt
  split_ifs <;> rfl

@[simp] lemma fresh_startFresh : c.startFresh.Fresh ↔ c.Fresh := fresh_startAttempt

@[simp] lemma fresh_requestImmediate : c.requestImmediate.Fresh ↔ c.Fresh := by
  unfold requestImmediate
  split_ifs
  · rfl
  · rfl
  · exact fresh_startFresh

/-- Scheduling a report publishes nothing, whether or not it throws. -/
lemma fresh_scheduleReport (h : c.Fresh) :
    (∀ t, c.scheduleReport clock timer = .ok t → t.Fresh)
      ∧ ∀ t, c.scheduleReport clock timer = .error t → t.Fresh := by
  unfold scheduleReport
  split_ifs <;> constructor <;> rintro t ⟨⟩ <;> exact h

@[simp] lemma fresh_enter {attempt : Nat} {stage : AttemptStage} :
    (c.enter attempt stage).Fresh ↔ c.Fresh := Iff.rfl

lemma fresh_settleAttempt {attempt : Nat} (h : c.Fresh) : (c.settleAttempt attempt).Fresh := by
  unfold settleAttempt
  dsimp only
  split_ifs
  all_goals first | exact h | exact fresh_startFresh.mpr h

lemma fresh_failAttempt (error : PresenceError) (h : c.Fresh) :
    (c.failAttempt clock a error).Fresh := by
  have hpublished : (c.countFailure.publish .unavailable none (some error.code)).Fresh :=
    fresh_publish _ _ (by decide)
  unfold failAttempt
  dsimp only
  split_ifs
  · exact h
  · split
    · next t hok => exact (fresh_scheduleReport hpublished).1 t hok
    · next t herror => exact (fresh_scheduleReport hpublished).2 t herror

lemma fresh_view {foreground panelVisible collaborationActive : Bool} (h : c.Fresh) :
    (PresenceController.reportModeChange { c with
      foreground := foreground
      panelVisible := panelVisible
      collaborationActive := collaborationActive } c.mode).Fresh := by
  have hpublished : (PresenceController.publish { c with
      foreground := foreground
      panelVisible := panelVisible
      collaborationActive := collaborationActive }
      (if c.sleeping then .sleeping else c.snapshot.state)).Fresh := by
    split_ifs
    · exact fresh_publish _ _ (by decide)
    · exact h
  unfold reportModeChange
  dsimp only
  split_ifs at hpublished ⊢
  all_goals first | exact hpublished | exact fresh_requestImmediate.mpr hpublished

lemma checkAnswer_eq_ok {tetiId : TetiId} {body : PresenceReport} {response : PresenceResponse}
    (h : checkAnswer tetiId body result = .ok response) :
    result = .ok response ∧ consistent tetiId body response = true := by
  cases result with
  | error error => cases h
  | ok other =>
    simp only [checkAnswer] at h
    split_ifs at h with hconsistent
    obtain rfl := Except.ok.inj h
    exact ⟨rfl, hconsistent⟩

/-- An answer is published for the attempt that was not aborted. -/
lemma fresh_receiveAnswer {tetiId : TetiId} (h : Scheduled c (some a)) (hfresh : c.Fresh)
    (htimely : ∀ response, result = .ok response → consistent tetiId a.body response = true →
      a.aborted = false) : (c.receiveAnswer clock retryClock a tetiId result).Fresh := by
  unfold receiveAnswer
  split
  · next response hanswer =>
    obtain ⟨rfl, hconsistent⟩ := checkAnswer_eq_ok hanswer
    have hpublished : (PresenceController.publish { c with
        acceptedSequence := max c.acceptedSequence a.body.sequence
        failureCount := 0
        onlineBy := some a.id } .online (some response.reportedAt)).Fresh :=
      fun _ => ⟨a.id, rfl, h.halts.2 a rfl (htimely response rfl hconsistent)⟩
    unfold acceptAnswer
    dsimp only
    split
    · next t hok => exact (fresh_scheduleReport hpublished).1 t hok
    · next t herror => exact fresh_failAttempt _ ((fresh_scheduleReport hpublished).2 t herror)
  · exact fresh_failAttempt _ hfresh

lemma fresh_step {e : PresenceEvent} (h : c.Scheduling False) (hfresh : c.Fresh)
    (htimely : c.timely e = true) (hstep : c.step e = some t) : t.Fresh := by
  cases e with
  | start =>
    obtain rfl := Option.some.inj hstep
    simp only [start, publish_sleeping]
    split_ifs
    · exact hfresh
    · exact fresh_publish _ _ (by decide)
    · exact fresh_requestImmediate.mpr (fresh_publish _ _ (by decide))
  | stop =>
    obtain rfl := Option.some.inj hstep
    unfold stop
    split_ifs
    · exact hfresh
    · exact hfresh
  | setSleeping sleeping =>
    obtain rfl := Option.some.inj hstep
    unfold setSleeping
    dsimp only
    split_ifs
    · exact hfresh
    · exact fun honline => by cases honline
    · exact fresh_requestImmediate.mpr (fresh_publish _ _ (by decide))
    · exact hfresh
  | setForeground foreground =>
    obtain rfl := Option.some.inj hstep
    unfold setForeground
    split_ifs
    · exact hfresh
    · exact fresh_view hfresh
  | setPanelVisible visible =>
    obtain rfl := Option.some.inj hstep
    unfold setPanelVisible
    split_ifs
    · exact hfresh
    · exact fresh_view hfresh
  | setCollaborationActive active =>
    obtain rfl := Option.some.inj hstep
    unfold setCollaborationActive
    split_ifs
    · exact hfresh
    · exact fresh_view hfresh
  | reportStateChange =>
    obtain rfl := Option.some.inj hstep
    unfold reportStateChange
    split_ifs
    · exact fresh_requestImmediate.mpr hfresh
    · exact hfresh
  | authenticated attempt result clock =>
    simp only [step] at hstep
    split at hstep
    · cases hstep
    · split_ifs at hstep <;> exact Option.some.inj hstep ▸ hfresh
    · exact Option.some.inj hstep ▸ fresh_enter.mpr (fresh_failAttempt _ hfresh)
  | answered attempt result clock retryClock =>
    obtain ⟨slot, h, -⟩ := h
    simp only [step] at hstep
    split at hstep
    · next id body aborted tetiId hfind =>
      have hmem := List.mem_of_find?_eq_some hfind
      obtain rfl := h.slot_eq hmem
      obtain rfl : id = attempt := by simpa using List.find?_some hfind
      refine Option.some.inj hstep ▸ fresh_enter.mpr (fresh_receiveAnswer h hfresh ?_)
      rintro response rfl hconsistent
      have := List.all_eq_true.mp htimely _ hmem
      simpa [hconsistent] using this
    · cases hstep
  | settled attempt =>
    simp only [step] at hstep
    split_ifs at hstep
    exact Option.some.inj hstep ▸ fresh_settleAttempt hfresh
  | stopReturned index =>
    simp only [step] at hstep
    split at hstep
    · cases hstep
    · split_ifs at hstep
      exact Option.some.inj hstep ▸ fun honline => by cases honline
  | timerFired =>
    simp only [step] at hstep
    split_ifs at hstep
    obtain ⟨timer, -, rfl⟩ := Option.map_eq_some_iff.mp hstep
    cases timer with
    | fresh delay => exact fresh_startFresh.mpr hfresh
    | replay body delay => exact fresh_startAttempt.mpr hfresh

end PresenceController

open PresenceController in
/-- **Presence scheduling**: in every run at most one attempt is in flight; the reports
come in the order of their numbers, and a repeated number repeats the body; none starts
while the controller is stopped or asleep.  As long as the times of the reports can be
written, a controller that is active and awake never stalls.  As long as no aborted
report is answered, it is online only by the answer to an attempt that was started after
the last halt. -/
theorem presence_scheduling (sessionId : String) (events : List PresenceEvent)
    (c : PresenceController) (h : Runs step (initialPresence sessionId) events c) :
    c.attempts.length ≤ 1
      ∧ c.reported.Pairwise (fun r r' => r.body.sequence ≤ r'.body.sequence
          ∧ (r.body.sequence = r'.body.sequence → r.body = r'.body))
      ∧ (∀ r ∈ c.reported, r.active = true ∧ r.sleeping = false)
      ∧ (∀ a ∈ c.attempts, a.aborted = false → c.active = true ∧ c.sleeping = false)
      ∧ (Runs (guarded writable step) (initialPresence sessionId) events c →
        c.active = true → c.sleeping = false → c.timer.isSome
          ∨ ∃ a ∈ c.attempts, c.pendingImmediate = true ∨ (a.aborted = false ∧ a.stage ≠ .finished))
      ∧ (Runs (guarded timely step) (initialPresence sessionId) events c → c.Fresh) := by
  have hscheduling : ∀ (before : PresenceController) e (after : PresenceController),
      before.Scheduling False → step before e = some after → after.Scheduling False :=
    fun _ _ _ hbefore => scheduling_step hbefore False.elim
  obtain ⟨slot, hscheduled, -⟩ : c.Scheduling False :=
    h.invariant (I := fun c => c.Scheduling False) (scheduling_initial sessionId) hscheduling
  refine ⟨?_, hscheduled.ordered, hscheduled.awake, fun a ha => ?_, fun hwritable hactive hawake => ?_,
    fun htimely => ?_⟩
  · rw [hscheduled.attempts]
    exact Option.length_toList_le
  · exact hscheduled.running a (hscheduled.slot_eq ha)
  · obtain ⟨slot, hscheduled, hlively⟩ : c.Scheduling True :=
      hwritable.invariant (I := fun c => c.Scheduling True) (scheduling_initial sessionId)
        fun before e after hbefore hstep =>
          scheduling_step hbefore (fun _ => (guarded_eq_some.mp hstep).1) (guarded_eq_some.mp hstep).2
    rw [hscheduled.attempts]
    simpa using hlively hactive hawake trivial
  · refine (htimely.invariant (I := fun c => c.Scheduling False ∧ c.Fresh)
      ⟨scheduling_initial sessionId, fun honline => by cases honline⟩ ?_).2
    rintro before e after ⟨hbefore, hfresh⟩ hstep
    obtain ⟨hsound, hstep⟩ := guarded_eq_some.mp hstep
    exact ⟨hscheduling before e after hbefore hstep, fresh_step hbefore hfresh hsound hstep⟩

/-- A clock without jitter. -/
def evenClock : PresenceClock := ⟨1784332800000, fun delay _ => delay⟩

/-- A report fails, and the timer reports the same body again. -/
def reportedTwice : List PresenceEvent :=
  [.start, .authenticated 0 (.ok "teti") evenClock,
    .answered 0 (.error (.network .networkUnavailable true (some 60000))) evenClock evenClock,
    .settled 0, .timerFired, .authenticated 1 (.ok "teti") evenClock]

open PresenceController in
theorem presence_scheduling_retry :
    ∃ c, Runs step (initialPresence "ps") reportedTwice c ∧ c.reported.length = 2
      ∧ c.attempts.length ≤ 1 ∧ (c.timer.isSome ∨ ∃ a ∈ c.attempts,
        c.pendingImmediate = true ∨ (a.aborted = false ∧ a.stage ≠ .finished)) ∧ c.Fresh := by
  have hrun := presence_scheduling "ps" reportedTwice _ rfl
  exact ⟨_, rfl, rfl, hrun.1, hrun.2.2.2.2.1 rfl rfl rfl, hrun.2.2.2.2.2 rfl⟩

open PresenceController in
/-- The controller is put to sleep while a report is in flight, and the answer arrives
after that: it is online while asleep.  A failed report is to be tried again after a time
that no date can have: the controller is active and awake, and has neither a timer nor an
attempt. -/
theorem presence_online_asleep :
    (∃ c, Runs step (initialPresence "ps") [.start, .authenticated 0 (.ok "teti") evenClock,
        .setSleeping true,
        .answered 0 (.ok ⟨⟨"ps", 1, .online, false⟩, "teti", "now"⟩) evenClock evenClock] c
      ∧ c.sleeping = true ∧ c.snapshot.state = .online ∧ ¬c.Fresh)
    ∧ ∃ c, Runs step (initialPresence "ps") [.start, .authenticated 0 (.ok "teti") evenClock,
        .answered 0 (.error (.network .networkUnavailable true (some 8640000000000000)))
          evenClock evenClock, .settled 0] c
      ∧ c.active = true ∧ c.sleeping = false ∧ c.timer = none ∧ c.attempts = [] := by
  refine ⟨⟨_, rfl, rfl, rfl, fun hfresh => ?_⟩, _, rfl, rfl, rfl, rfl, rfl⟩
  obtain ⟨id, ⟨⟩, hhalted⟩ := hfresh rfl
  exact absurd hhalted (by decide)

end TetiBot

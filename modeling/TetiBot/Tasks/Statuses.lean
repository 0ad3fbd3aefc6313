import TetiBot.Tasks.Inbound
import TetiBot.Tasks.Outline
import TetiBot.Library.Register

/-
The statuses of a task, as its requester records them (`receiveStatus` of
`runtime/tasks/service.ts`).

* `recordStatus`: what the arrival of a status does to a record.
* `StatusReport`: what a record shows of the last status it took over.  It is
  a register that takes the newest report until it holds one that ends the
  task.
* `Arrivals`: statuses arrive in some order, some of them more than once; an
  arrival that throws changes nothing, and the message will arrive again.
* `statuses_converge`: what the record shows when every status of a task has
  arrived.
-/

namespace TetiBot

open Library Library.Program

/-! ### One arrival -/

/-- What the arrival of a status does to the record of its task. -/
def recordStatus (payload : TetiTaskStatusPayload) (receivedAt : Timestamp) (record : TaskRecord) :
    TaskRecord :=
  enqueueApplicationReceipt
    (if payload.revision ≤ record.statusRevision
        ∨ isRemoteTransitionAllowed record.state payload.state = false then record
      else applyStatus record payload receivedAt)
    (createApplicationReceipt payload.taskId payload.requesterTetiId payload.targetTetiId
      (.status payload.revision) receivedAt)

/-- What a record shows of the last status it took over. -/
structure StatusReport where
  revision : Nat
  state : CollaborationTaskState
  phase : Option LongHorizonPhase
  deriving DecidableEq

namespace StatusReport

/-- No status is taken over after this one. -/
def final (report : StatusReport) : Bool :=
  isTerminalTaskState report.state || report.state == .unknown

/-- What is shown to the user: the state and the phase. -/
def shown (report : StatusReport) : CollaborationTaskState × Option LongHorizonPhase :=
  (report.state, report.phase)

end StatusReport

/-- The report a record holds. -/
def recordReport (record : TaskRecord) : StatusReport where
  revision := record.statusRevision
  state := record.state
  phase := record.peerLongHorizon.map fun status => status.phase

/-- The report a status carries. -/
def payloadReport (payload : TetiTaskStatusPayload) : StatusReport where
  revision := payload.revision
  state := payload.state
  phase := payload.longHorizon.map fun status => status.phase

@[simp] lemma recordReport_enqueueApplicationReceipt (record : TaskRecord)
    (receipt : TetiTaskApplicationReceiptPayload) :
    recordReport (enqueueApplicationReceipt record receipt) = recordReport record := by
  simp only [recordReport, enqueueApplicationReceipt]

/-! ### The report after an arrival -/

lemma recordReport_markIf (happened : Bool) (record : TaskRecord)
    (change : TaskAttentionChangeInput) :
    recordReport (markIf happened record change) = recordReport record := by
  rw [markIf]
  split_ifs <;> rfl

lemma recordReport_markTaskAttentionIfChanged (record : TaskRecord)
    (previous : TaskAttentionSnapshot) :
    recordReport (markTaskAttentionIfChanged record previous) = recordReport record := by
  unfold markTaskAttentionIfChanged
  split_ifs <;> rfl

/-- What the attention clock writes is not part of the report. -/
lemma recordReport_markRemoteTaskAttentionIfChanged (record : TaskRecord)
    (previous : TaskAttentionSnapshot) :
    recordReport (markRemoteTaskAttentionIfChanged record previous) = recordReport record := by
  unfold markRemoteTaskAttentionIfChanged
  split_ifs
  · rfl
  · simp only [recordReport_markIf]
  · exact recordReport_markTaskAttentionIfChanged record previous

variable {payload : TetiTaskStatusPayload}

/-- A valid status has a session exactly in the second version. -/
lemma longHorizon_isSome_iff (hvalid : validateTaskStatusPayload payload = .ok ()) :
    payload.longHorizon.isSome = true ↔ payload.schemaVersion = 2 := by
  obtain ⟨hversion, h⟩ := failIf_then_eq_ok.mp hvalid
  obtain ⟨hplain, h⟩ := failIf_then_eq_ok.mp h
  obtain ⟨_, -, h⟩ := except_bind_eq_ok.mp h
  obtain ⟨-, h⟩ := failIf_then_eq_ok.mp h
  obtain ⟨-, h⟩ := failIf_then_eq_ok.mp h
  obtain ⟨-, h⟩ := failIf_then_eq_ok.mp h
  constructor
  · intro hsome
    by_contra hne
    exact hplain ⟨by omega, hsome⟩
  · intro htwo
    rw [if_pos htwo] at h
    cases hsession : payload.longHorizon with
    | none => simp [hsession] at h
    | some status => rfl

/-- A valid status has one of the states of a status. -/
lemma state_mem_of_valid (hvalid : validateTaskStatusPayload payload = .ok ()) :
    payload.state ∈ TASK_UPDATE_STATES := by
  obtain ⟨-, h⟩ := failIf_then_eq_ok.mp hvalid
  obtain ⟨-, h⟩ := failIf_then_eq_ok.mp h
  obtain ⟨_, -, h⟩ := except_bind_eq_ok.mp h
  obtain ⟨-, h⟩ := failIf_then_eq_ok.mp h
  obtain ⟨hstate, -⟩ := failIf_then_eq_ok.mp h
  exact not_not.mp hstate

variable {record : TaskRecord}

/-- A status whose mode is that of the request leaves its session as the
session of the peer, or none where it has none. -/
lemma peerLongHorizon_applyPeerLongHorizon (hmode : modeMatches record payload.schemaVersion = true)
    (hvalid : validateTaskStatusPayload payload = .ok ())
    (hpeer : record.peerLongHorizon.isSome → record.isLongHorizon = true) :
    (applyPeerLongHorizon record payload).peerLongHorizon = payload.longHorizon := by
  have hversion := longHorizon_isSome_iff hvalid
  rw [applyPeerLongHorizon]
  cases hsession : payload.longHorizon with
  | none =>
    have hone : payload.schemaVersion ≠ 2 := by simpa [hsession] using hversion
    cases hknown : record.peerLongHorizon with
    | none => rfl
    | some known =>
      have hlong := hpeer (by simp [hknown])
      simp [modeMatches, hlong] at hmode
      exact absurd hmode hone
  | some status =>
    have htwo : payload.schemaVersion = 2 := hversion.mp (by simp [hsession])
    have hlong : record.isLongHorizon = true := by
      by_contra hnot
      simp [modeMatches, hnot, htwo] at hmode
    have happlies : ¬(payload.schemaVersion ≠ 2 ∨ ¬record.isLongHorizon = true) := by
      simp [htwo, hlong]
    dsimp only
    rw [if_neg happlies]
    split_ifs <;> rfl

lemma state_applyPeerLongHorizon (record : TaskRecord) (payload : TetiTaskStatusPayload) :
    (applyPeerLongHorizon record payload).state = record.state
      ∧ (applyPeerLongHorizon record payload).statusRevision = record.statusRevision := by
  rw [applyPeerLongHorizon]
  cases payload.longHorizon with
  | none => exact ⟨rfl, rfl⟩
  | some status =>
    dsimp only
    split_ifs <;> exact ⟨rfl, rfl⟩

lemma recordReport_applyPeerLongHorizon (hmode : modeMatches record payload.schemaVersion = true)
    (hvalid : validateTaskStatusPayload payload = .ok ())
    (hpeer : record.peerLongHorizon.isSome → record.isLongHorizon = true)
    (hrevision : record.statusRevision = payload.revision) (hstate : record.state = payload.state) :
    recordReport (applyPeerLongHorizon record payload) = payloadReport payload := by
  obtain ⟨hkeptState, hkeptRevision⟩ := state_applyPeerLongHorizon record payload
  have hsession := peerLongHorizon_applyPeerLongHorizon hmode hvalid hpeer
  rw [recordReport, payloadReport, hkeptState, hkeptRevision, hsession, hrevision, hstate]

/-- A status that is taken over replaces the report. -/
lemma recordReport_applyStatus (hmode : modeMatches record payload.schemaVersion = true)
    (hvalid : validateTaskStatusPayload payload = .ok ())
    (hpeer : record.peerLongHorizon.isSome → record.isLongHorizon = true) (now : Timestamp) :
    recordReport (applyStatus record payload now) = payloadReport payload := by
  unfold applyStatus
  rw [recordReport_markRemoteTaskAttentionIfChanged]
  refine Eq.trans (b := recordReport (applyPeerLongHorizon _ payload)) rfl ?_
  split_ifs
  · exact recordReport_applyPeerLongHorizon hmode hvalid hpeer rfl rfl
  · exact recordReport_applyPeerLongHorizon hmode hvalid hpeer rfl rfl

/-- What the guard of the source refuses is what a final report refuses. -/
lemma isRemoteTransitionAllowed_eq (hvalid : validateTaskStatusPayload payload = .ok ()) :
    isRemoteTransitionAllowed record.state payload.state = !(recordReport record).final := by
  have hnext := state_mem_of_valid hvalid
  show isRemoteTransitionAllowed record.state payload.state
    = !(isTerminalTaskState record.state || record.state == .unknown)
  generalize record.state = current at *
  generalize payload.state = next at hnext ⊢
  revert hnext
  cases current <;> cases next <;> decide

/-- **One arrival**: the report of the record is a register. -/
theorem recordReport_recordStatus (hmode : modeMatches record payload.schemaVersion = true)
    (hvalid : validateTaskStatusPayload payload = .ok ())
    (hpeer : record.peerLongHorizon.isSome → record.isLongHorizon = true) (receivedAt : Timestamp) :
    recordReport (recordStatus payload receivedAt record)
      = Register.take StatusReport.revision StatusReport.final (recordReport record)
          (payloadReport payload) := by
  have hguard : (payload.revision ≤ record.statusRevision
      ∨ isRemoteTransitionAllowed record.state payload.state = false)
      ↔ ((payloadReport payload).revision ≤ (recordReport record).revision
        ∨ (recordReport record).final = true) := by
    rw [isRemoteTransitionAllowed_eq hvalid, Bool.not_eq_false']
    exact Iff.rfl
  rw [recordStatus, recordReport_enqueueApplicationReceipt, Register.take]
  by_cases hkept : payload.revision ≤ record.statusRevision
      ∨ isRemoteTransitionAllowed record.state payload.state = false
  · rw [if_pos hkept, if_pos (hguard.mp hkept)]
  · rw [if_neg hkept, if_neg fun h => hkept (hguard.mpr h),
      recordReport_applyStatus hmode hvalid hpeer]

/-! ### Arrivals -/

/-- What `receiveStatus` leaves in the store when it returns: the record of the
task has taken the status over, and the store passes validation. -/
def StatusTaken (store : TaskStore) (payload : TetiTaskStatusPayload) (w : World) : Prop :=
  ∃ focus receivedAt,
    findTaskRecord store .outgoing payload.requesterTetiId payload.taskId = some focus
      ∧ modeMatches focus.current payload.schemaVersion = true
      ∧ w.store = (focus.set (recordStatus payload receivedAt focus.current)).state
      ∧ validateTaskTransportStoreState w.store = .ok ()

lemma takeStatus_triple {P : World → Prop} {E : TaskError → World → Prop}
    (hlog : ∀ w entry, P w → P (w.log entry)) (payload : TetiTaskStatusPayload)
    (receivedAt : Timestamp) (focus : RecordFocus) :
    Triple P (takeStatus payload receivedAt focus)
      (fun next w => P w ∧ next = focus.set (recordStatus payload receivedAt focus.current)) E := by
  by_cases hkept : payload.revision ≤ focus.current.statusRevision
      ∨ isRemoteTransitionAllowed focus.current.state payload.state = false
  · intro w hw
    rw [takeStatus, if_pos hkept]
    refine ⟨hw, ?_⟩
    rw [recordStatus, if_pos hkept]
    rfl
  · intro w hw
    rw [takeStatus, if_neg hkept]
    refine ⟨hlog w _ hw, ?_⟩
    rw [recordStatus, if_neg hkept]
    rfl

/-- **The operation**: a return of `receiveStatus` has taken the status over, a
throw has left the store as it was. -/
lemma receiveStatus_triple (env : Environment) (message : Inbound TetiTaskStatusPayload)
    (store : TaskStore) :
    Triple (fun w => w.store = store) (receiveStatus env message)
      (fun _ => StatusTaken store message.payload) (fun _ w => w.store = store) := by
  have htick : ∀ w : World, w.store = store → w.tick.store = store := fun _ hw => hw
  have herror : ∀ (e : TaskError) (w : World), w.store = store → w.store = store :=
    fun _ _ hw => hw
  refine Triple.bind (requireAccount_triple htick herror) fun localTetiId => ?_
  refine Triple.bind_throwIf (fun _ _ hw => hw) fun hidentity => ?_
  have hlocal : message.payload.requesterTetiId = localTetiId :=
    not_not.mp fun h => hidentity (.inr (.inr h))
  refine Triple.bind (loadState_triple htick (fun _ hw => hw) herror) fun state => ?_
  refine Triple.bind_orThrow (fun _ _ hw => hw.1) fun focus hfocus => ?_
  refine Triple.bind_throwIf (fun _ _ hw => hw.1) fun hmode => ?_
  refine Triple.of_world fun loaded hloaded => ?_
  obtain ⟨hstore, rfl⟩ := hloaded
  refine Triple.bind (R := fun _ w => w.store = store)
    (Triple.pre (currentTime_triple htick) (by rintro _ rfl; exact hstore)) fun now => ?_
  refine Triple.bind (takeStatus_triple (fun _ _ hw => hw) _ _ focus) fun next => ?_
  refine Triple.of_fact fun hnext => ?_
  subst hnext
  refine Triple.bind (saveState_triple htick herror) fun _ => ?_
  refine Triple.pure fun w hw => ?_
  obtain ⟨hvalid, before, -, rfl⟩ := hw
  exact ⟨focus, _, hlocal ▸ hstore ▸ hfocus, by simpa using hmode, rfl, hvalid⟩

/-- Statuses arrive one after the other.  An arrival that throws is not one:
the message stays with the transport and arrives again. -/
inductive Arrivals (w : World) : List TetiTaskStatusPayload → World → Prop
  | none : Arrivals w [] w
  | taken {before after : World} {payloads : List TetiTaskStatusPayload}
      {receipt : TetiTaskApplicationReceiptPayload} (earlier : Arrivals w payloads before)
      (env : Environment) (message : Inbound TetiTaskStatusPayload)
      (returned : (receiveStatus env message).exec before = (.ok receipt, after)) :
      Arrivals w (payloads ++ [message.payload]) after
  | thrown {before after : World} {payloads : List TetiTaskStatusPayload} {error : TaskError}
      (earlier : Arrivals w payloads before) (env : Environment)
      (message : Inbound TetiTaskStatusPayload)
      (threw : (receiveStatus env message).exec before = (.error error, after)) :
      Arrivals w payloads after

/-- The statuses of one task. -/
structure StatusStream (requesterTetiId : TetiId) (taskId : String)
    (stream : List TetiTaskStatusPayload) : Prop where
  valid : ∀ payload ∈ stream, validateTaskStatusPayload payload = .ok ()
  requester : ∀ payload ∈ stream, payload.requesterTetiId = requesterTetiId
  task : ∀ payload ∈ stream, payload.taskId = taskId
  increasing : stream.Pairwise fun earlier later => earlier.revision < later.revision

/-- The requester has a record of the task, whose report is the given one. -/
def Records (requesterTetiId : TetiId) (taskId : String) (report : StatusReport) (w : World) :
    Prop :=
  validateTaskTransportStoreState w.store = .ok ()
    ∧ ∃ focus, findTaskRecord w.store .outgoing requesterTetiId taskId = some focus
      ∧ recordReport focus.current = report

variable {requesterTetiId : TetiId} {taskId : String} {stream order : List TetiTaskStatusPayload}

/-- The record of a task is found again after its status was taken over. -/
lemma findTaskRecord_set {state : TaskStore} {direction : TaskTransportDirection}
    {focus : RecordFocus}
    (hfocus : findTaskRecord state direction requesterTetiId taskId = some focus)
    (hkey : record.key = focus.current.key) :
    findTaskRecord (focus.set record).state direction requesterTetiId taskId
      = some (focus.set record) := by
  rw [findTaskRecord, focusRecord] at hfocus ⊢
  obtain ⟨records, hfound, rfl⟩ := Option.map_eq_some_iff.mp hfocus
  obtain ⟨-, hcurrent, hbefore⟩ := focusFirst?_eq_some hfound
  have hrecord : (record.key == ⟨direction, requesterTetiId, taskId⟩) = true := by
    rw [hkey]
    exact hcurrent
  have hset := focusFirst?_append records.after hbefore hrecord
  simp only [RecordFocus.state, RecordFocus.set, Focus.toList, Focus.set]
  rw [hset]
  rfl

lemma mem_of_findTaskRecord {state : TaskStore} {direction : TaskTransportDirection}
    {focus : RecordFocus}
    (hfocus : findTaskRecord state direction requesterTetiId taskId = some focus) :
    focus.current ∈ state.records := by
  obtain ⟨records, hfound, rfl⟩ := Option.map_eq_some_iff.mp hfocus
  obtain ⟨hlist, -, -⟩ := focusFirst?_eq_some hfound
  exact hlist ▸ records.current_mem

lemma key_recordStatus (payload : TetiTaskStatusPayload) (receivedAt : Timestamp)
    (record : TaskRecord) : (recordStatus payload receivedAt record).key = record.key := by
  have hkey : ∀ updated : TaskRecord, updated.outline = record.outline
      ∨ updated.outline = record.outline.takeStatus payload →
      updated.key = record.key := by
    rintro updated (h | h)
    · exact congrArg (fun outline : Outline =>
        (⟨outline.direction, outline.request.requesterTetiId, outline.request.taskId⟩ : TaskKey)) h
    · exact congrArg (fun outline : Outline =>
        (⟨outline.direction, outline.request.requesterTetiId, outline.request.taskId⟩ : TaskKey)) h
  rw [recordStatus]
  split_ifs
  · rfl
  · exact hkey _ (.inr (outline_applyStatus record payload receivedAt))

/-- One arrival of a status of the stream. -/
lemma StatusTaken.records {w w' : World} (htaken : StatusTaken w.store payload w')
    (hstream : StatusStream requesterTetiId taskId stream) (hmem : payload ∈ stream)
    {report : StatusReport} (hrecords : Records requesterTetiId taskId report w) :
    Records requesterTetiId taskId
      (Register.take StatusReport.revision StatusReport.final report (payloadReport payload))
      w' := by
  obtain ⟨hvalid, known, hknown, rfl⟩ := hrecords
  obtain ⟨focus, receivedAt, hfocus, hmode, hstore, hstored⟩ := htaken
  rw [hstream.requester payload hmem, hstream.task payload hmem, hknown] at hfocus
  obtain rfl := Option.some.inj hfocus
  have hpeer := fun hsome => ((recordValid_of_mem hvalid (mem_of_findTaskRecord hknown)).peerOwner
    hsome).2
  refine ⟨hstored, _, hstore ▸ findTaskRecord_set hknown (key_recordStatus _ _ _), ?_⟩
  exact recordReport_recordStatus hmode (hstream.valid payload hmem) hpeer receivedAt

/-- **Any number of arrivals**: the report is that of a register that was given
the statuses in the order of their arrival. -/
lemma Arrivals.records {w w' : World} (h : Arrivals w order w')
    (hstream : StatusStream requesterTetiId taskId stream) (horder : order ⊆ stream)
    {report : StatusReport} (hrecords : Records requesterTetiId taskId report w) :
    Records requesterTetiId taskId
      ((order.map payloadReport).foldl (Register.take StatusReport.revision StatusReport.final)
        report) w' := by
  induction h with
  | none => exact hrecords
  | taken earlier env message returned ih =>
    have hbefore := ih (fun _ hmem => horder (by simp [hmem]))
    have htaken := (receiveStatus_triple env message _).ok rfl returned
    rw [List.map_append, List.foldl_append]
    exact htaken.records hstream (horder (by simp)) hbefore
  | thrown earlier env message threw ih =>
    obtain ⟨hvalid, hfocus⟩ := ih horder
    have hstore := (receiveStatus_triple env message _).error rfl threw
    rw [Records, hstore]
    exact ⟨hvalid, hfocus⟩

/-! ### Convergence -/

/-- Two statuses of a stream with the same revision are the same. -/
lemma StatusStream.eq_of_revision (hstream : StatusStream requesterTetiId taskId stream)
    {p q : TetiTaskStatusPayload} (hp : p ∈ stream) (hq : q ∈ stream)
    (hrevision : p.revision = q.revision) : p = q := by
  have hnodup : (stream.map fun payload => payload.revision).Nodup :=
    List.pairwise_map.mpr (hstream.increasing.imp fun hlt => ne_of_lt hlt)
  exact List.inj_on_of_nodup_map hnodup hp hq hrevision

/-- A valid status that ends the report ends the task. -/
lemma isTerminal_of_final (hvalid : validateTaskStatusPayload payload = .ok ())
    (hfinal : (payloadReport payload).final = true) : isTerminalTaskState payload.state = true := by
  have hstate := state_mem_of_valid hvalid
  have hknown : payload.state ≠ .unknown := by
    intro hunknown
    rw [hunknown] at hstate
    exact absurd hstate (by decide)
  simpa [payloadReport, StatusReport.final, hknown] using hfinal

/-- No status of the stream is older than the report, and the report is not
final. -/
structure Awaits (report : StatusReport) (stream : List TetiTaskStatusPayload) : Prop where
  older : ∀ payload ∈ stream, report.revision < payload.revision
  ongoing : report.final = false

/-- The newest status of a stream. -/
def Newest (newest : TetiTaskStatusPayload) (stream : List TetiTaskStatusPayload) : Prop :=
  newest ∈ stream ∧ ∀ payload ∈ stream, payload.revision ≤ newest.revision

/-- Every status of the stream that ends the task has the state and the phase of
the newest one. -/
def EndsAgree (newest : TetiTaskStatusPayload) (stream : List TetiTaskStatusPayload) : Prop :=
  ∀ payload ∈ stream, isTerminalTaskState payload.state = true →
    (payloadReport payload).shown = (payloadReport newest).shown

lemma register_converges (hstream : StatusStream requesterTetiId taskId stream)
    (horder : order ⊆ stream) (hall : stream ⊆ order) {report : StatusReport}
    (hawaits : Awaits report stream) {newest : TetiTaskStatusPayload}
    (hnewest : Newest newest stream) (hagree : EndsAgree newest stream) :
    ((order.map payloadReport).foldl (Register.take StatusReport.revision StatusReport.final)
      report).shown = (payloadReport newest).shown := by
  refine Register.converge hawaits.ongoing ?_ ?_ (List.mem_map_of_mem (hall hnewest.1)) ?_ ?_
  · rintro _ hmem
    obtain ⟨payload, hpayload, rfl⟩ := List.mem_map.mp hmem
    exact hawaits.older payload (horder hpayload)
  · rintro _ hmem _ hmem' hrevision
    obtain ⟨p, hp, rfl⟩ := List.mem_map.mp hmem
    obtain ⟨q, hq, rfl⟩ := List.mem_map.mp hmem'
    rw [hstream.eq_of_revision (horder hp) (horder hq) hrevision]
  · rintro _ hmem
    obtain ⟨payload, hpayload, rfl⟩ := List.mem_map.mp hmem
    exact hnewest.2 payload (horder hpayload)
  · rintro _ hmem hfinal
    obtain ⟨payload, hpayload, rfl⟩ := List.mem_map.mp hmem
    have hmemStream := horder hpayload
    exact hagree payload hmemStream (isTerminal_of_final (hstream.valid payload hmemStream) hfinal)

/-- **Status convergence**: statuses of a task arrive at its requester in any
order and any number of times.  The revision that is recorded does not
decrease, and a terminal state stays with the status that brought it.  Once all
of them have arrived, the state and the phase that are recorded are those of
the newest, if every status of the stream that ends the task has them too. -/
theorem statuses_converge (hstream : StatusStream requesterTetiId taskId stream) {w w' : World}
    {report : StatusReport} (hrecords : Records requesterTetiId taskId report w)
    (harrivals : Arrivals w order w') (horder : order ⊆ stream) :
    ∃ report', Records requesterTetiId taskId report' w'
      ∧ report.revision ≤ report'.revision
      ∧ (isTerminalTaskState report.state = true → report' = report)
      ∧ ∀ newest, Newest newest stream → EndsAgree newest stream → Awaits report stream →
          stream ⊆ order → report'.shown = (payloadReport newest).shown := by
  refine ⟨_, harrivals.records hstream horder hrecords, Register.stamp_le_foldl report _, ?_, ?_⟩
  · intro hterminal
    exact Register.foldl_of_final (by simp [StatusReport.final, hterminal]) _
  · intro newest hnewest hagree hawaits hall
    exact register_converges hstream horder hall hawaits hnewest hagree

/-! ### A task that ends twice -/

/-- A task that was sent, and of which no status has arrived yet. -/
def sentRecord : TaskRecord :=
  { sampleTaskRecord with
    direction := .outgoing
    peerTetiId := "teti_bbbbbbbbb"
    state := .submitted
    approval := .pending
    delivery := .sent
    updatedAt := 0
    statusRevision := 0
    attachmentsReady := true }

def sentWorld : World := { initialWorld with store := ⟨[sentRecord], []⟩ }

/-- A status of the task that was sent. -/
def sentTaskStatus (revision : Nat) (state : CollaborationTaskState) : TetiTaskStatusPayload where
  schemaVersion := 1
  taskId := "task-1"
  requesterTetiId := "teti_aaaaaaaaa"
  targetTetiId := "teti_bbbbbbbbb"
  revision := revision
  state := state
  updatedAt := 1
  safeErrorCode := none
  longHorizon := none

/-- The message that brings a status from the host. -/
def sentTaskMessage (payload : TetiTaskStatusPayload) : Inbound TetiTaskStatusPayload :=
  ⟨"teti_bbbbbbbbb", ⟨"connection-1", "teti_bbbbbbbbb", true⟩, payload, some 1⟩

def requesterEnvironment : Environment :=
  steadyEnvironment "teti_aaaaaaaaa" [⟨"connection-1", "teti_bbbbbbbbb", true⟩] 1

/-- The world after a status has arrived. -/
def arrive (w : World) (payload : TetiTaskStatusPayload) : World :=
  ((receiveStatus requesterEnvironment (sentTaskMessage payload)).exec w).2

/-- A status has arrived, if its arrival did not throw. -/
lemma Arrivals.arrive {w before : World} {payloads : List TetiTaskStatusPayload}
    (earlier : Arrivals w payloads before)
    (returned : ((receiveStatus requesterEnvironment (sentTaskMessage payload)).exec
      before).1.toBool = true) : Arrivals w (payloads ++ [payload]) (arrive before payload) := by
  cases hresult : ((receiveStatus requesterEnvironment (sentTaskMessage payload)).exec before).1 with
  | error e =>
    rw [hresult] at returned
    exact absurd returned (by simp [Except.toBool])
  | ok receipt =>
    exact .taken earlier requesterEnvironment (sentTaskMessage payload) (Prod.ext hresult rfl)

lemma sentWorld_records :
    Records "teti_aaaaaaaaa" "task-1" ⟨0, .submitted, none⟩ sentWorld :=
  ⟨by decide +kernel, ⟨⟨[], sentRecord, []⟩, []⟩, rfl, rfl⟩

variable (first second : CollaborationTaskState)

/-- The statuses of the task that was sent, with increasing revisions. -/
lemma sentTaskStatus_stream
    (hfirst : first ∈ TASK_UPDATE_STATES) (hsecond : second ∈ TASK_UPDATE_STATES) :
    StatusStream "teti_aaaaaaaaa" "task-1" [sentTaskStatus 1 first, sentTaskStatus 2 second] where
  valid := by
    revert hfirst hsecond
    cases first <;> cases second <;> decide +kernel
  requester := by simp [sentTaskStatus]
  task := by simp [sentTaskStatus]
  increasing := by simp [sentTaskStatus]

lemma awaits_sentTaskStatus :
    Awaits ⟨0, .submitted, none⟩ [sentTaskStatus 1 first, sentTaskStatus 2 second] where
  older := by simp [sentTaskStatus]
  ongoing := rfl

lemma newest_sentTaskStatus :
    Newest (sentTaskStatus 2 second) [sentTaskStatus 1 first, sentTaskStatus 2 second] :=
  ⟨by simp, by simp [sentTaskStatus]⟩

/-- A failure and then a completion, in this order: the failure stays. -/
theorem statuses_diverge :
    ¬∀ (stream order : List TetiTaskStatusPayload) (w w' : World) (report : StatusReport)
        (newest : TetiTaskStatusPayload),
      StatusStream "teti_aaaaaaaaa" "task-1" stream →
      Records "teti_aaaaaaaaa" "task-1" report w → Awaits report stream →
      Arrivals w order w' → order ⊆ stream → stream ⊆ order → Newest newest stream →
      ∃ report', Records "teti_aaaaaaaaa" "task-1" report' w'
        ∧ report'.shown = (payloadReport newest).shown := by
  intro hconverge
  have hstream := sentTaskStatus_stream .failed .completed (by decide) (by decide)
  have hfailed : Arrivals sentWorld [sentTaskStatus 1 .failed]
      (arrive sentWorld (sentTaskStatus 1 .failed)) := Arrivals.none.arrive (by decide +kernel)
  have hboth : Arrivals sentWorld [sentTaskStatus 1 .failed, sentTaskStatus 2 .completed]
      (arrive (arrive sentWorld (sentTaskStatus 1 .failed)) (sentTaskStatus 2 .completed)) :=
    hfailed.arrive (by decide +kernel)
  obtain ⟨report, ⟨-, focus, hfocus, hreport⟩, hshown⟩ := hconverge _ _ _ _ _ _ hstream
    sentWorld_records (awaits_sentTaskStatus _ _) hboth (List.Subset.refl _) (List.Subset.refl _)
    (newest_sentTaskStatus _ _)
  obtain ⟨-, focus', hfocus', hreport'⟩ := hboth.records hstream (List.Subset.refl _)
    sentWorld_records
  rw [hfocus] at hfocus'
  obtain rfl := Option.some.inj hfocus'
  rw [hreport] at hreport'
  rw [hreport'] at hshown
  exact absurd hshown (by decide)

/-- A task that is worked on and then completed, reported in the wrong order. -/
theorem statuses_converge_completed :
    ∃ report', Records "teti_aaaaaaaaa" "task-1" report'
        (arrive (arrive sentWorld (sentTaskStatus 2 .completed)) (sentTaskStatus 1 .working))
      ∧ report'.shown = (.completed, none) := by
  have hstream := sentTaskStatus_stream .working .completed (by decide) (by decide)
  have hcompleted : Arrivals sentWorld [sentTaskStatus 2 .completed]
      (arrive sentWorld (sentTaskStatus 2 .completed)) := Arrivals.none.arrive (by decide +kernel)
  have hboth : Arrivals sentWorld [sentTaskStatus 2 .completed, sentTaskStatus 1 .working]
      (arrive (arrive sentWorld (sentTaskStatus 2 .completed)) (sentTaskStatus 1 .working)) :=
    hcompleted.arrive (by decide +kernel)
  have hagree : EndsAgree (sentTaskStatus 2 .completed)
      [sentTaskStatus 1 .working, sentTaskStatus 2 .completed] := by
    intro payload hmem hterminal
    rcases List.mem_pair.mp hmem with rfl | rfl
    · exact absurd hterminal (by decide)
    · rfl
  obtain ⟨report, hrecords, -, -, hshown⟩ := statuses_converge hstream sentWorld_records hboth
    (by simp)
  exact ⟨report, hrecords, hshown _ (newest_sentTaskStatus _ _) hagree
    (awaits_sentTaskStatus _ _) (by simp)⟩

end TetiBot

import TetiBot.Tasks.Capacity
import TetiBot.Tasks.Owner
import TetiBot.Tasks.ReadModel

/-
Sending a task again (`send` of `runtime/tasks/service.ts`).

* `Continues`: a record goes on from another one of the same task; what was sent stays
  sent, and it is in the same state or has ended;
* `sendChecks`, `sendChecked`: the checks of a call, and what it does after them;
* `SendLaws`: one call, by the record that the store file has of its task;
* `StoreGoesOn`, `send_idempotent`: any number of calls keep one record of a task, which goes on
  unless a full store drops it.

An offer that a call does not name is not compared with the stored one.
-/

namespace TetiBot

open Library Library.Program

/-! ### Records that go on -/

/-- The request of the record is still to be sent. -/
def isUnsent (record : TaskRecord) : Bool :=
  record.delivery == .queued || record.delivery == .sendFailed

/-- The record goes on from another one: the same task with the same content and results, which
is in the same state or has ended.  A request that was sent stays so. -/
structure Continues (record next : TaskRecord) : Prop where
  direction : next.direction = record.direction
  peerTetiId : next.peerTetiId = record.peerTetiId
  protocolVersion : next.protocolVersion = record.protocolVersion
  request : next.request = record.request
  artifacts : next.artifacts = record.artifacts
  peerLongHorizon : next.peerLongHorizon = record.peerLongHorizon
  statusRevision : record.statusRevision ≤ next.statusRevision
  state : next.state = record.state ∨ isTerminalTaskState next.state = true
  approval : next.approval = record.approval ∨ isTerminalTaskState next.state = true
  delivery : next.delivery = record.delivery ∨ isUnsent record = true
    ∨ isTerminalTaskState next.state = true
  sent : isUnsent record = false → isUnsent next = false

variable {record next : TaskRecord}

lemma isUnsent_of_core (h : next.core = record.core) : isUnsent next = isUnsent record := by
  have hdelivery : next.delivery = record.delivery := congrArg RecordCore.delivery h
  rw [isUnsent, isUnsent, hdelivery]

namespace Continues

lemma refl (record : TaskRecord) : Continues record record :=
  ⟨rfl, rfl, rfl, rfl, rfl, rfl, le_rfl, .inl rfl, .inl rfl, .inl rfl, id⟩

lemma trans {record next last : TaskRecord} (h : Continues record next) (h' : Continues next last) :
    Continues record last where
  direction := h'.direction.trans h.direction
  peerTetiId := h'.peerTetiId.trans h.peerTetiId
  protocolVersion := h'.protocolVersion.trans h.protocolVersion
  request := h'.request.trans h.request
  artifacts := h'.artifacts.trans h.artifacts
  peerLongHorizon := h'.peerLongHorizon.trans h.peerLongHorizon
  statusRevision := h.statusRevision.trans h'.statusRevision
  state := by grind [h.state, h'.state]
  approval := by grind [h.state, h'.state, h.approval, h'.approval]
  delivery := by
    have hunsent : next.delivery = record.delivery → isUnsent next = isUnsent record := by
      intro heq
      rw [isUnsent, isUnsent, heq]
    grind [h.state, h'.state, h.delivery, h'.delivery]
  sent := fun hsent => h'.sent (h.sent hsent)

lemma key {record next : TaskRecord} (h : Continues record next) : next.key = record.key := by
  rw [CollaborationTaskTransportRecord.key, CollaborationTaskTransportRecord.key, h.direction,
    h.request]

lemma of_core {record next : TaskRecord} (h : next.core = record.core) : Continues record next where
  direction := congrArg RecordCore.direction h
  peerTetiId := congrArg RecordCore.peerTetiId h
  protocolVersion := congrArg RecordCore.protocolVersion h
  request := congrArg RecordCore.request h
  artifacts := congrArg RecordCore.artifacts h
  peerLongHorizon := congrArg RecordCore.peerLongHorizon h
  statusRevision := (congrArg RecordCore.statusRevision h).ge
  state := .inl (congrArg RecordCore.state h)
  approval := .inl (congrArg RecordCore.approval h)
  delivery := .inl (congrArg RecordCore.delivery h)
  sent := fun hsent => (isUnsent_of_core h).trans hsent

end Continues

/-! ### Expiry -/

variable {timestamp : Timestamp}

lemma peerLongHorizon_auditSession {event : LongHorizonAuditInput}
    (h : auditSession record event timestamp = .ok next) :
    next.peerLongHorizon = record.peerLongHorizon := by
  rw [auditSession] at h
  split at h
  · rw [Except.ok.inj h]
  · split at h
    · rw [← Except.ok.inj h]
    · cases h

lemma peerLongHorizon_auditPlan {event : DelegationAuditInput}
    (h : auditPlan record event timestamp = .ok next) :
    next.peerLongHorizon = record.peerLongHorizon := by
  rw [auditPlan] at h
  split at h
  · rw [Except.ok.inj h]
  · split at h
    · rw [← Except.ok.inj h]
    · cases h

lemma peerLongHorizon_expireRecord (h : expireRecord record timestamp = .ok next) :
    next.peerLongHorizon = record.peerLongHorizon := by
  obtain ⟨r1, hsession, h⟩ := except_bind_eq_ok.mp h
  obtain ⟨r2, hplan, h⟩ := except_bind_eq_ok.mp h
  obtain rfl := Except.ok.inj h
  have hr1 : r1.peerLongHorizon = record.peerLongHorizon := by
    rw [expireLongHorizon] at hsession
    split at hsession
    · rw [← Except.ok.inj hsession]
    · split_ifs at hsession
      · rw [← Except.ok.inj hsession]
      · rw [peerLongHorizon_auditSession hsession]
  have hr2 : r2.peerLongHorizon = r1.peerLongHorizon := by
    rw [expireDelegation] at hplan
    split at hplan
    · rw [← Except.ok.inj hplan]
    · split_ifs at hplan
      · rw [← Except.ok.inj hplan]
      · rw [cancelDelegationPlan] at hplan
        rw [peerLongHorizon_auditPlan hplan]
  rw [← hr1, ← hr2]
  split_ifs <;> rfl

lemma continues_expireRecord (h : expireRecord record timestamp = .ok next) :
    Continues record next := by
  have houtline := outline_expireRecord h
  have hstate : next.state = .rejected := congrArg Outline.state houtline
  have hended : isTerminalTaskState next.state = true := by rw [hstate]; rfl
  refine {
    direction := congrArg Outline.direction houtline
    peerTetiId := congrArg Outline.peerTetiId houtline
    protocolVersion := congrArg Outline.protocolVersion houtline
    request := congrArg Outline.request houtline
    artifacts := congrArg Outline.artifacts houtline
    peerLongHorizon := peerLongHorizon_expireRecord h
    statusRevision := ?_
    state := .inr hended
    approval := .inr hended
    delivery := .inr (.inr hended)
    sent := ?_ }
  · have hrevision : next.statusRevision = record.outline.expire.statusRevision :=
      congrArg Outline.statusRevision houtline
    rw [hrevision]
    cases hdirection : record.direction <;>
      simp [Outline.expire, CollaborationTaskTransportRecord.outline, RecordCore.outline,
        CollaborationTaskTransportRecord.core, hdirection]
  · have hdelivery : next.delivery = .expired := congrArg Outline.delivery houtline
    intro _
    rw [isUnsent, hdelivery]
    rfl

lemma continues_reconciled (now : Timestamp) (record : TaskRecord) :
    Continues record (reconciled now record) := by
  rw [reconciled]
  cases h : completeOutgoingSingleStageFromVerifiedArtifact record now with
  | none => exact .refl record
  | some next =>
    rw [completeOutgoingSingleStageFromVerifiedArtifact] at h
    split_ifs at h
    obtain rfl := Option.some.inj h
    exact ⟨rfl, rfl, rfl, rfl, rfl, rfl, le_rfl, .inr rfl, .inr rfl, .inr (.inr rfl), fun _ => rfl⟩

/-- What the expiry of due records leaves of a record goes on from it. -/
lemma continues_expireOrThrow {now : Timestamp}
    (h : expireOrThrow now (reconciled now record) = .ok next) : Continues record next := by
  refine (continues_reconciled now record).trans ?_
  rw [expireOrThrow] at h
  split_ifs at h
  · cases hexpire : expireRecord (reconciled now record) now with
    | error failure => simp [hexpire] at h
    | ok after =>
      simp only [hexpire, Except.ok.injEq] at h
      exact h ▸ continues_expireRecord hexpire
  · exact Except.ok.inj h ▸ .refl _

/-! ### Delivery -/

/-- The record in focus has been edited. -/
def Edited (R : TaskRecord → TaskRecord → Prop) (focus next : RecordFocus) : Prop :=
  ∃ record, R focus.current record ∧ next = focus.set record

/-- Only the bookkeeping is edited. -/
def SameCore (record next : TaskRecord) : Prop := next.core = record.core

instance : IsTrans TaskRecord SameCore := ⟨fun _ _ _ h h' => Eq.trans h' h⟩

instance : IsTrans TaskRecord Continues := ⟨fun _ _ _ => Continues.trans⟩

lemma Edited.trans {R : TaskRecord → TaskRecord → Prop} [IsTrans TaskRecord R]
    {focus next last : RecordFocus} (h : Edited R focus next) (h' : Edited R next last) :
    Edited R focus last := by
  obtain ⟨record, hrecord, rfl⟩ := h
  obtain ⟨after, hafter, rfl⟩ := h'
  exact ⟨after, IsTrans.trans _ _ _ hrecord hafter, rfl⟩

lemma Edited.continues {focus next : RecordFocus} (h : Edited SameCore focus next) :
    Edited Continues focus next := by
  obtain ⟨record, hrecord, rfl⟩ := h
  exact ⟨record, .of_core hrecord, rfl⟩

lemma edited_keep {R : TaskRecord → TaskRecord → Prop} {focus : RecordFocus}
    {f : TaskRecord → TaskRecord} (h : R focus.current (f focus.current)) :
    Edited R focus (focus.keep f) :=
  ⟨f focus.current, h, rfl⟩

section Delivery

variable {env : Environment} {P : TaskStore → Prop}

/-- A property of the store file. -/
def OnStore (P : TaskStore → Prop) (w : World) : Prop := P w.store

lemma keeps_answer {α : Type} {answer : Nat → α} :
    Keeps (OnStore P) (call answer) fun a => ∃ n, a = answer n :=
  Keeps.bind (Keeps.reads (Q := fun _ => True) fun _ _ => trivial) fun n _ =>
    Keeps.bind (Keeps.writes fun _ hw => hw) fun _ _ => Keeps.pure ⟨n, rfl⟩

lemma keeps_throwing {α : Type} {answer : Nat → Except TaskError α} :
    Keeps (OnStore P) (callThrowing answer) fun _ => True :=
  Keeps.bind keeps_answer fun _ _ => Keeps.weaken Keeps.fromExcept fun _ _ => trivial

lemma keeps_currentTime : Keeps (OnStore P) (currentTime env) fun now => ∃ n, now = env.now n :=
  keeps_answer

lemma keeps_findConfirmedConnection (tetiId : TetiId) :
    Keeps (OnStore P) (findConfirmedConnectionForPeer env tetiId) fun _ => True :=
  Keeps.bind keeps_throwing fun _ _ => Keeps.pure trivial

variable (connection : TetiConnectionRecord)

lemma keeps_send (message : TaskMessage) :
    Keeps (OnStore P) (send env connection message) fun _ => True := by
  refine Keeps.bind keeps_answer fun delivery _ => ?_
  have hresult : Keeps (OnStore P) (fromExcept delivery.result) fun _ => True :=
    Keeps.weaken Keeps.fromExcept fun _ _ => trivial
  exact Keeps.ite (fun _ => Keeps.bind (Keeps.writes fun _ hw => hw) fun _ _ => hresult)
    fun _ => hresult

lemma keeps_saveState {state : TaskStore} (h : P state) :
    Keeps (OnStore P) (saveState env state) fun _ => True :=
  Keeps.bind Keeps.fromExcept fun _ _ => Keeps.bind keeps_throwing fun _ _ =>
    Keeps.writes fun _ _ => h

lemma keeps_change (focus : RecordFocus) (c : Change) :
    Keeps (OnStore P) (focus.change c) fun next =>
      Edited (fun record after => c.apply record = .ok after) focus next := by
  rw [RecordFocus.change]
  cases happly : c.apply focus.current with
  | error failure => exact Keeps.raise
  | ok record =>
    exact Keeps.bind (Keeps.writes fun _ hw => hw) fun _ _ => Keeps.pure ⟨record, happly, rfl⟩

variable {focus : RecordFocus}

/-- A `try` block that edits the record and saves it. -/
lemma keeps_sendAndNote {α : Type} {message : Runtime α}
    {note : α → RecordFocus → Runtime RecordFocus} {J : RecordFocus → Prop}
    (hsave : ∀ next, J next → P next.state) (hmessage : Keeps (OnStore P) message fun _ => True)
    (hnote : ∀ sent, Keeps (OnStore P) (note sent focus) J) (hfocus : J focus) :
    Keeps (OnStore P) (sendAndNote env message note focus) fun r => J r.2 := by
  rw [sendAndNote]
  refine Keeps.bind (Keeps.attempt hmessage) fun outcome _ => ?_
  cases outcome with
  | error error => exact Keeps.pure hfocus
  | ok sent =>
    refine Keeps.bind (hnote sent) fun next hnext => ?_
    exact Keeps.bind (Keeps.attempt (keeps_saveState (hsave next hnext))) fun _ _ =>
      Keeps.pure hnext

lemma core_markAttachmentSent (record : TaskRecord) (purpose : TetiTaskAttachmentPurpose)
    (part : TaskImagePart) (timestamp : Timestamp) :
    (markAttachmentSent record purpose part timestamp).core = record.core := by
  have hensure : (ensureSingleAttachmentDiagnostic record purpose part).core = record.core := by
    rw [ensureSingleAttachmentDiagnostic]
    split_ifs <;> rfl
  rw [← hensure]
  rfl

lemma keeps_noteInputAttachment (part : TaskImagePart) (focus : RecordFocus) :
    Keeps (OnStore P) (noteInputAttachment env part focus) (Edited SameCore focus) := by
  have hfirst : Edited SameCore focus (focus.keep fun record => { record with
      sentAttachmentIds := appendUnique record.sentAttachmentIds part.attachmentId }) :=
    edited_keep rfl
  have hlast : ∀ next, Edited SameCore focus next → Keeps (OnStore P) (do
      let now ← currentTime env
      let next := next.keep fun record => markAttachmentSent record .input part now
      let updatedAt ← currentTime env
      return next.keep fun record => { record with updatedAt := updatedAt })
      (Edited SameCore focus) := by
    intro next hnext
    refine Keeps.bind keeps_currentTime fun now _ => ?_
    refine Keeps.bind keeps_currentTime fun updatedAt _ => Keeps.pure ?_
    have hsent : Edited SameCore next
        (next.keep fun record => markAttachmentSent record .input part now) :=
      edited_keep (core_markAttachmentSent _ _ _ _)
    exact (hnext.trans hsent).trans (edited_keep rfl)
  rw [noteInputAttachment]
  refine Keeps.ite (fun _ => ?_) fun _ => ?_
  · refine Keeps.bind keeps_currentTime fun now _ => ?_
    have hattempt := hfirst.trans (edited_keep (f := fun record => { record with
      attachmentDeliveryAttempts := recordDeliveryAttempt record.attachmentDeliveryAttempts
        part.attachmentId now }) rfl)
    exact Keeps.bind (R := Edited SameCore focus) (Keeps.pure hattempt) hlast
  · exact Keeps.bind (R := Edited SameCore focus) (Keeps.pure hfirst) hlast

/-- The images are sent one after the other; only the bookkeeping changes. -/
lemma keeps_sendInputAttachments (hsave : ∀ next, Edited SameCore focus next → P next.state) :
    Keeps (OnStore P) (sendInputAttachments env connection focus) fun r =>
      Edited SameCore focus r.2 := by
  have hself : Edited SameCore focus focus := ⟨focus.current, rfl, rfl⟩
  rw [sendInputAttachments]
  refine Keeps.bind keeps_currentTime fun now _ => Keeps.ite (fun _ => Keeps.pure hself) fun _ => ?_
  cases env.attachmentStore with
  | none => exact Keeps.pure hself
  | some attachments =>
    refine Keeps.foldM
      (J := fun (r : Except TaskError Unit × RecordFocus) => Edited SameCore focus r.2) ?_ hself
    rintro ⟨outcome, next⟩ hnext part -
    cases outcome with
    | error error => exact Keeps.pure hnext
    | ok =>
      refine Keeps.bind keeps_currentTime fun _ _ =>
        Keeps.ite (fun _ => Keeps.pure hnext) fun _ => ?_
      refine keeps_sendAndNote hsave ?_ (fun _ => Keeps.weaken (keeps_noteInputAttachment part next)
        fun _ h => hnext.trans h) hnext
      exact Keeps.bind keeps_throwing fun _ _ => keeps_send connection _

lemma continues_requestSent {record : TaskRecord} (h : isUnsent record = true)
    (envelopeMessageId : String) (chatmailMessageId : Option Nat) :
    Continues record (markRequestSent record envelopeMessageId chatmailMessageId) :=
  ⟨rfl, rfl, rfl, rfl, rfl, rfl, le_rfl, .inl rfl, .inl rfl, .inr (.inl h), fun _ => rfl⟩

lemma continues_requestFailed {record : TaskRecord} (h : isUnsent record = true)
    (safeErrorCode : String) (failedAt : Timestamp) :
    Continues record (markRequestFailed record safeErrorCode failedAt) := by
  rw [markRequestFailed, recordApplicationDeliveryFailure]
  dsimp only
  have hsent : isUnsent record = false → ∀ next, isUnsent next = false := by simp [h]
  split_ifs <;>
    exact ⟨rfl, rfl, rfl, rfl, rfl, rfl, le_rfl, .inl rfl, .inl rfl, .inr (.inl h),
      fun hnot => hsent hnot _⟩

section

variable (hunsent : isUnsent focus.current = true)
include hunsent

section

variable (hsave : ∀ next, Edited Continues focus next → P next.state)
include hsave

/-- The request is sent, or it is noted that it could not be sent. -/
lemma keeps_sendRequest :
    Keeps (OnStore P) (sendRequest env connection focus) (Edited Continues focus) := by
  rw [sendRequest]
  refine Keeps.bind (keeps_sendInputAttachments connection fun next h => hsave next h.continues) ?_
  rintro ⟨outcome, next⟩ ⟨record, hrecord, rfl⟩
  have hcontinues : Continues focus.current record := .of_core hrecord
  have hrecord : isUnsent record = true := by rw [isUnsent_of_core hrecord, hunsent]
  have hsend : ∀ message, Keeps (OnStore P) (send env connection message) fun _ => True :=
    keeps_send connection
  refine Keeps.bind (Keeps.attempt (Keeps.bind Keeps.fromExcept fun _ _ => hsend _)) fun sent _ => ?_
  cases sent with
  | ok ids =>
    refine Keeps.weaken (keeps_change _ _) ?_
    rintro _ ⟨after, hafter, rfl⟩
    obtain rfl := Except.ok.inj hafter
    exact ⟨_, hcontinues.trans (continues_requestSent hrecord _ _), rfl⟩
  | error error =>
    refine Keeps.bind keeps_currentTime fun now _ => Keeps.weaken (keeps_change _ _) ?_
    rintro _ ⟨after, hafter, rfl⟩
    obtain rfl := Except.ok.inj hafter
    exact ⟨_, hcontinues.trans (continues_requestFailed hrecord _ _), rfl⟩

lemma keeps_trySendStoredRecord :
    Keeps (OnStore P) (trySendStoredRecord env focus) fun _ => True := by
  have hfinish : ∀ next, Edited Continues focus next →
      Keeps (OnStore P) (do saveFocus env next; return next) fun _ => True :=
    fun next hnext => Keeps.bind (keeps_saveState (hsave next hnext)) fun _ _ => Keeps.pure trivial
  rw [trySendStoredRecord]
  refine Keeps.bind keeps_currentTime fun now _ => Keeps.ite (fun _ => ?_) fun _ => ?_
  · refine Keeps.bind keeps_currentTime fun expiredAt _ => Keeps.bind (keeps_change _ _) ?_
    rintro _ ⟨record, hrecord, rfl⟩
    exact hfinish _ ⟨record, continues_expireRecord hrecord, rfl⟩
  refine Keeps.bind (keeps_findConfirmedConnection _) fun connection _ => ?_
  cases connection with
  | none =>
    refine Keeps.bind keeps_currentTime fun failedAt _ => Keeps.bind (keeps_change _ _) ?_
    rintro _ ⟨record, hrecord, rfl⟩
    refine hfinish _ ⟨record, ?_, rfl⟩
    have hcore : ({ focus.current with updatedAt := failedAt } : TaskRecord).core
        = focus.current.core := rfl
    rw [← Except.ok.inj hrecord]
    exact (Continues.of_core hcore).trans
      (continues_requestFailed ((isUnsent_of_core hcore).trans hunsent) _ _)
  | some connection =>
    refine Keeps.bind (keeps_sendRequest connection hunsent hsave) ?_
    rintro _ ⟨record, hrecord, rfl⟩
    refine Keeps.bind keeps_currentTime fun updatedAt _ => ?_
    have hcore : ({ record with updatedAt := updatedAt } : TaskRecord).core = record.core := rfl
    exact hfinish _ ⟨_, hrecord.trans (.of_core hcore), rfl⟩

lemma keeps_sendStoredRecord : Keeps (OnStore P) (sendStoredRecord env focus) fun _ => True := by
  have hthrow : ∀ error, Keeps (OnStore P) (raise error : Runtime Unit) fun _ => True :=
    fun error => Keeps.raise
  rw [sendStoredRecord]
  refine Keeps.bind (keeps_trySendStoredRecord hunsent hsave) fun next _ => ?_
  refine Keeps.ite (fun _ => ?_) fun _ => Keeps.pure trivial
  exact Keeps.ite (fun _ => Keeps.bind (hthrow _) fun _ _ => hthrow _) fun _ => hthrow _

end

end

/-! ### Checks -/

lemma keeps_forEachRecord {f : RecordFocus → Runtime Pass}
    (hf : ∀ focus, Keeps (OnStore P) (f focus) fun _ => True) (state : TaskStore) :
    Keeps (OnStore P) (forEachRecord f state) fun _ => True := by
  refine Keeps.foldM (J := fun (_ : Pass) => True) (fun pass _ index _ => ?_) trivial
  cases focusIndex pass.state index with
  | none => exact Keeps.pure trivial
  | some focus => exact Keeps.bind (hf focus) fun _ _ => Keeps.pure trivial

/-- Expiry is in memory, and every record goes on. -/
lemma keeps_expireDueRecords (now : Timestamp) (state : TaskStore) :
    Keeps (OnStore P) (expireDueRecords now state) fun pass =>
      List.Forall₂ Continues state.records pass.state.records := by
  have hstore : Keeps (OnStore P) (expireDueRecords now state) fun _ => True := by
    have hpass : ∀ (focus : RecordFocus) (c : Change) (changed : Bool),
        Keeps (OnStore P) (do let next ← focus.change c; return Pass.mk next.state changed)
          fun _ => True :=
      fun focus c _ => Keeps.bind (keeps_change focus c) fun _ _ => Keeps.pure trivial
    refine Keeps.bind (keeps_forEachRecord (fun focus => ?_) state) fun pass _ =>
      Keeps.bind (keeps_forEachRecord (fun focus => ?_) _) fun _ _ => Keeps.pure trivial
    · exact Keeps.ite (fun _ => hpass _ _ _) fun _ => Keeps.pure trivial
    · exact Keeps.ite (fun _ => hpass _ _ _) fun _ => Keeps.pure trivial
  refine hstore.of_result fun w pass left hrun => ?_
  have hspec := expireDueRecords_spec now state w
  rw [hrun] at hspec
  obtain ⟨records, hrecords, hstate⟩ := hspec
  rw [hstate]
  exact hrecords.imp fun _ _ h => continues_expireOrThrow h

end Delivery

/-- What a call has before it looks for the task. -/
structure CheckedSend where
  localTetiId : TetiId
  connection : TetiConnectionRecord
  state : TaskStore
  taskId : String

namespace CheckedSend

/-- The task of the call. -/
def key (checked : CheckedSend) : TaskKey := ⟨.outgoing, checked.localTetiId, checked.taskId⟩

end CheckedSend

section Calls

variable (env : Environment) (input : SendCollaborationTaskInput)

/-- The part of `send` that comes before the task is looked for. -/
def sendChecks : Runtime CheckedSend := do
  fromExcept (validateSendInput input)
  let localTetiId ← requireAccount env
  let connection ← requireConfirmedConnection env (trimmed input.connectionRequestId)
  let state ← loadState env
  let expired ← expireDueRecords (← currentTime env) state
  let taskId ← match input.taskId with
    | some taskId => pure taskId
    | none => call env.taskIdFactory
  return ⟨localTetiId, connection, expired.state, taskId⟩

/-- What the rest of `send` throws for other content. -/
def taskIdConflict : TaskError :=
  runtimeError "TASK_ID_CONFLICT" "The Task ID is already bound to different immutable content."

/-- The rest of `send`. -/
def sendChecked (checked : CheckedSend) : Runtime Unit :=
  match findTaskRecord checked.state .outgoing checked.localTetiId checked.taskId with
  | some focus => do
    throwIf (matchesRetry focus.current checked.connection input = false) taskIdConflict
    if focus.current.delivery = .queued ∨ focus.current.delivery = .sendFailed then
      sendStoredRecord env focus
  | none => sendNew env input checked.localTetiId checked.taskId checked.connection checked.state

lemma sendTask_eq : sendTask env input = sendChecks env input >>= sendChecked env input := by
  simp only [sendTask, sendChecks, bind_assoc, pure_bind]
  cases input.taskId with
  | none =>
    simp only [bind_assoc, pure_bind]
    rfl
  | some taskId =>
    simp only [pure_bind]
    rfl

/-- The checks write nothing to the store file. -/
lemma keeps_sendChecks (store : TaskStore) :
    Keeps (OnStore (· = store)) (sendChecks env input) fun checked =>
      List.Forall₂ Continues store.records checked.state.records := by
  have haccount : Keeps (OnStore (· = store)) (requireAccount env) fun _ => True :=
    Keeps.bind keeps_throwing fun _ _ => Keeps.weaken Keeps.orThrow fun _ _ => trivial
  have hconnection : ∀ requestId,
      Keeps (OnStore (· = store)) (requireConfirmedConnection env requestId) fun _ => True :=
    fun requestId => Keeps.bind keeps_throwing fun _ _ => Keeps.bind Keeps.orThrow fun _ _ =>
      Keeps.bind Keeps.throwIf fun _ _ => Keeps.pure trivial
  have hload : Keeps (OnStore (· = store)) (loadState env) (· = store) :=
    Keeps.bind keeps_throwing fun _ _ => Keeps.bind (Keeps.writes fun _ hw => hw) fun _ _ =>
      Keeps.reads fun _ hw => hw
  refine Keeps.bind Keeps.fromExcept fun _ _ => Keeps.bind haccount fun localTetiId _ => ?_
  refine Keeps.bind (hconnection _) fun connection _ => Keeps.bind hload ?_
  rintro state rfl
  refine Keeps.bind keeps_currentTime fun now _ => ?_
  refine Keeps.bind (keeps_expireDueRecords now state) fun expired hexpired => ?_
  cases input.taskId with
  | none => exact Keeps.bind keeps_answer fun _ _ => Keeps.pure hexpired
  | some taskId => exact Keeps.bind (R := fun _ => True) (Keeps.pure trivial) fun _ _ => Keeps.pure hexpired

/-! ### What a call does to the store file -/

/-- The content of a record that goes on is compared alike. -/
lemma matchesRetry_of_continues {record next : TaskRecord} (h : Continues record next)
    (connection : TetiConnectionRecord) (input : SendCollaborationTaskInput) :
    matchesRetry next connection input = matchesRetry record connection input := by
  rw [matchesRetry, matchesRetry, h.peerTetiId, h.request]

variable {state : TaskStore} {direction : TaskTransportDirection} {requesterTetiId : TetiId}
  {taskId : String} {focus : RecordFocus}

/-- A task that was found is found in records that go on. -/
lemma findTaskRecord_of_continues {next : TaskStore}
    (h : List.Forall₂ Continues state.records next.records)
    (hfound : findTaskRecord state direction requesterTetiId taskId = some focus) :
    ∃ after, findTaskRecord next direction requesterTetiId taskId = some after
      ∧ Continues focus.current after.current := by
  obtain ⟨records, hrecords, rfl⟩ := Option.map_eq_some_iff.mp hfound
  have hkey : ∀ a b, Continues a b → (b.key == (⟨direction, requesterTetiId, taskId⟩ : TaskKey))
      = (a.key == ⟨direction, requesterTetiId, taskId⟩) :=
    fun a b hab => by rw [hab.key]
  obtain ⟨after, hafter, hcontinues⟩ := focusFirst?_of_forall₂ hkey h hrecords
  exact ⟨⟨after, next.peers⟩, by rw [findTaskRecord, focusRecord, hafter]; rfl, hcontinues⟩

lemma findTaskRecord_eq_none :
    findTaskRecord state direction requesterTetiId taskId = none
      ↔ ∀ record ∈ state.records, record.key ≠ ⟨direction, requesterTetiId, taskId⟩ := by
  simp [findTaskRecord, focusRecord, focusFirst?_eq_none]

/-- A record is stored besides those that there is room for. -/
def Adds (checked : CheckedSend) (after : TaskStore) : Prop :=
  ∃ n room new, ensureCapacity checked.state (env.now n) = some room
    ∧ new.key = checked.key
    ∧ matchesRetry new checked.connection input = true
    ∧ List.Forall₂ Continues (room.records ++ [new]) after.records

/-- What there is room for are records of the state. -/
lemma subperm_ensureCapacity {room : TaskStore} {now : Timestamp}
    (h : ensureCapacity state now = some room) : room.records.Subperm state.records := by
  by_cases hfull : MAX_TASK_TRANSPORT_RECORDS ≤ state.records.length
  · rw [ensureCapacity_full hfull] at h
    split_ifs at h
    rw [← Option.some.inj h]
    exact (List.mergeSort_perm _ _).subperm.trans List.filter_sublist.subperm
  · rw [ensureCapacity, if_pos (not_le.mp hfull)] at h
    exact Option.some.inj h ▸ List.Subperm.refl _

lemma forall₂_of_edited {next : RecordFocus} (h : Edited Continues focus next) :
    List.Forall₂ Continues focus.state.records next.state.records := by
  obtain ⟨record, hrecord, rfl⟩ := h
  exact Focus.forall₂_set .refl hrecord

variable {input : SendCollaborationTaskInput}

/-- The content of a new record is that of the input. -/
lemma matchesRetry_outgoingRecord {version : Nat}
    (himages : ¬(input.attachments ≠ [] ∧ version < 2)) (connection : TetiConnectionRecord)
    (localTetiId : TetiId) (taskId : String) (createdAt : Timestamp) :
    matchesRetry (outgoingRecord {
      schemaVersion := version
      taskId := taskId
      requesterTetiId := localTetiId
      targetTetiId := connection.remoteTetiId
      offerId := input.offerId.getD s!"capability:{input.capabilityId}"
      capabilityId := input.capabilityId
      input := taskInputForVersion version input.text input.attachments
      workspace := some input.workspace
      executionMode := some input.executionMode
      createdAt := createdAt
      expiresAt := createdAt + input.ttlMs }) connection input = true := by
  have htext : taskInputText (taskInputForVersion version input.text input.attachments)
      = input.text := by
    rw [taskInputForVersion]
    split_ifs <;> rfl
  have hparts : taskInputImages (taskInputForVersion version input.text input.attachments)
      = input.attachments := by
    rw [taskInputForVersion]
    split_ifs with hversion
    · subst hversion
      exact (not_not.mp fun hne => himages ⟨hne, by decide⟩).symm
    · have hpart : TaskPart.image? ∘ TaskPart.image = some := rfl
      rw [taskInputImages, List.filterMap_cons_none rfl, List.filterMap_map, hpart,
        List.filterMap_some]
  have hoffer : input.offerId.all fun offerId =>
      input.offerId.getD s!"capability:{input.capabilityId}" == offerId := by
    cases input.offerId <;> simp
  simp [matchesRetry, outgoingRecord, htext, hparts, hoffer]

/-- A record that is stored last is found by its key, if no other has it. -/
lemma findTaskRecord_append {new : TaskRecord}
    (habsent : ∀ record ∈ state.records, record.key ≠ ⟨direction, requesterTetiId, taskId⟩)
    (hnew : new.key = ⟨direction, requesterTetiId, taskId⟩) :
    findTaskRecord { state with records := state.records ++ [new] } direction requesterTetiId taskId
      = some ⟨⟨state.records, new, []⟩, state.peers⟩ := by
  have hbefore : ∀ record ∈ state.records,
      (record.key == (⟨direction, requesterTetiId, taskId⟩ : TaskKey)) = false := by
    simpa using habsent
  have hlast : (new.key == (⟨direction, requesterTetiId, taskId⟩ : TaskKey)) = true := by
    simpa using hnew
  rw [findTaskRecord, focusRecord]
  dsimp only
  rw [focusFirst?_append [] hbefore hlast]
  rfl

/-- A new record is stored and its request is sent. -/
lemma keeps_storeAndSend {P : TaskStore → Prop} {room : TaskStore} {new : TaskRecord}
    {localTetiId : TetiId}
    (habsent : ∀ record ∈ room.records, record.key ≠ ⟨.outgoing, localTetiId, taskId⟩)
    (hkey : new.key = ⟨.outgoing, localTetiId, taskId⟩) (hunsent : isUnsent new = true)
    (hsave : ∀ after : TaskStore,
      List.Forall₂ Continues (room.records ++ [new]) after.records → P after) :
    Keeps (OnStore P) (do
      let state ← storeRecord new room
      saveState env state
      match findTaskRecord state .outgoing localTetiId taskId with
      | some focus => sendStoredRecord env focus
      | none => return) fun _ => True := by
  have hstore : Keeps (OnStore P) (storeRecord new room) fun state =>
      state = { room with records := room.records ++ [new] } :=
    Keeps.bind (Keeps.writes fun _ hw => hw) fun _ _ => Keeps.pure rfl
  refine Keeps.bind hstore ?_
  rintro state rfl
  refine Keeps.bind (keeps_saveState (hsave _ (List.forall₂_same.mpr fun _ _ => .refl _))) ?_
  rintro ⟨⟩ -
  rw [findTaskRecord_append habsent hkey]
  exact keeps_sendStoredRecord hunsent fun next hnext => hsave _ (forall₂_of_edited hnext)

lemma keeps_requireProtocolVersion {P : TaskStore → Prop} (state : TaskStore)
    (connection : TetiConnectionRecord) (input : SendCollaborationTaskInput) :
    Keeps (OnStore P) (requireProtocolVersion state connection input) fun version =>
      ¬(input.attachments ≠ [] ∧ version < 2) := by
  refine Keeps.bind Keeps.orThrow fun version _ => Keeps.bind Keeps.throwIf fun _ himages => ?_
  exact Keeps.bind Keeps.throwIf fun _ _ => Keeps.pure himages

variable {checked : CheckedSend}

/-- A task that is not known yet is added, or the store file stays. -/
lemma keeps_sendNew (before : TaskStore)
    (habsent : ∀ record ∈ checked.state.records, record.key ≠ checked.key) :
    Keeps (OnStore fun store => store = before ∨ Adds env input checked store)
      (sendNew env input checked.localTetiId checked.taskId checked.connection checked.state)
      fun _ => True := by
  refine Keeps.bind (keeps_requireProtocolVersion _ _ _) fun version himages => ?_
  refine Keeps.bind keeps_currentTime ?_
  rintro _ ⟨n, rfl⟩
  refine Keeps.bind Keeps.orThrow fun room hroom => ?_
  -- without the expected type, which would be evaluated
  refine (Keeps.bind keeps_currentTime fun createdAt _ => ?_ :)
  refine (Keeps.bind Keeps.fromExcept fun _ _ => ?_ :)
  have hunsent : ∀ request, isUnsent (outgoingRecord request) = true := fun _ => rfl
  refine (keeps_storeAndSend env ?_ ?_ (hunsent _) fun after hafter => ?_ :)
  · exact fun record hmem => habsent record ((subperm_ensureCapacity hroom).subset hmem)
  · rfl
  · exact .inr ⟨n, room, _, hroom, rfl, matchesRetry_outgoingRecord himages _ _ _ _, hafter⟩

/-- A task that is known goes on, or the call fails and the store file stays. -/
lemma keeps_sendChecked_known {P : TaskStore → Prop}
    (hfound : findTaskRecord checked.state .outgoing checked.localTetiId checked.taskId = some focus)
    (hsave : ∀ next, Edited Continues focus next → P next.state) :
    Keeps (OnStore P) (sendChecked env input checked) fun _ => True := by
  rw [sendChecked, hfound]
  refine Keeps.bind Keeps.throwIf fun _ _ => Keeps.ite (fun hdelivery => ?_) fun _ => Keeps.pure trivial
  exact keeps_sendStoredRecord (by simpa [isUnsent] using hdelivery) hsave

/-! ### One call -/

/-- What a call does, by the record that the store file has of its task. -/
structure SendLaws (input : SendCollaborationTaskInput) (w : World) : Prop where
  /-- A check fails. -/
  refused : ∀ error left, (sendChecks env input).exec w = (.error error, left) →
    (sendTask env input).exec w = (.error error, left) ∧ left.store = w.store
  /-- The record has other content. -/
  conflict : ∀ checked left focus, (sendChecks env input).exec w = (.ok checked, left) →
    findTaskRecord w.store .outgoing checked.localTetiId checked.taskId = some focus →
    matchesRetry focus.current checked.connection input = false →
    (sendTask env input).exec w = (.error taskIdConflict, left) ∧ left.store = w.store
  /-- The request of the record was sent. -/
  delivered : ∀ checked left focus, (sendChecks env input).exec w = (.ok checked, left) →
    findTaskRecord w.store .outgoing checked.localTetiId checked.taskId = some focus →
    matchesRetry focus.current checked.connection input = true →
    isUnsent focus.current = false →
    (sendTask env input).exec w = (.ok (), left) ∧ left.store = w.store
  /-- There is a record of the task. -/
  known : ∀ checked left focus, (sendChecks env input).exec w = (.ok checked, left) →
    findTaskRecord w.store .outgoing checked.localTetiId checked.taskId = some focus →
    List.Forall₂ Continues w.store.records ((sendTask env input).exec w).2.store.records
  /-- There is none. -/
  unknown : ∀ checked left, (sendChecks env input).exec w = (.ok checked, left) →
    findTaskRecord w.store .outgoing checked.localTetiId checked.taskId = none →
    ((sendTask env input).exec w).2.store = w.store
      ∨ Adds env input checked ((sendTask env input).exec w).2.store

/-- The state of a call whose checks have passed. -/
lemma sendChecks_spec {w left : World} (h : (sendChecks env input).exec w = (.ok checked, left)) :
    left.store = w.store ∧ List.Forall₂ Continues w.store.records checked.state.records
      ∧ (sendTask env input).exec w = (sendChecked env input checked).exec left := by
  obtain ⟨hstore, hrecords⟩ := (keeps_sendChecks env input w.store).result rfl h
  exact ⟨hstore, hrecords, by rw [sendTask_eq, exec_bind_ok h]⟩

lemma sendChecked_known {w left : World} (h : (sendChecks env input).exec w = (.ok checked, left))
    (hfound : findTaskRecord w.store .outgoing checked.localTetiId checked.taskId = some focus) :
    ∃ after, findTaskRecord checked.state .outgoing checked.localTetiId checked.taskId = some after
      ∧ Continues focus.current after.current
      ∧ matchesRetry after.current checked.connection input
        = matchesRetry focus.current checked.connection input := by
  obtain ⟨after, hafter, hcontinues⟩ := findTaskRecord_of_continues (sendChecks_spec env h).2.1 hfound
  exact ⟨after, hafter, hcontinues, matchesRetry_of_continues hcontinues _ _⟩

/-- Records that go on in the loaded state, whose record in focus goes on. -/
lemma forall₂_of_found {store : TaskStore} {next : RecordFocus}
    (hrecords : List.Forall₂ Continues store.records checked.state.records)
    (hfound : findTaskRecord checked.state .outgoing checked.localTetiId checked.taskId = some focus)
    (hnext : Edited Continues focus next) :
    List.Forall₂ Continues store.records next.state.records := by
  obtain ⟨records, hfocus, rfl⟩ := Option.map_eq_some_iff.mp hfound
  obtain ⟨hlist, -, -⟩ := focusFirst?_eq_some hfocus
  have hstate : records.toList = checked.state.records := hlist
  have hsettled := forall₂_of_edited hnext
  rw [RecordFocus.state, hstate] at hsettled
  exact forall₂_trans hrecords hsettled

/-- **One call to `send`**: what it throws and what it leaves in the store file. -/
lemma sendLaws (input : SendCollaborationTaskInput) (w : World) : SendLaws env input w where
  refused error left h := by
    refine ⟨by rw [sendTask_eq, exec_bind, h], ?_⟩
    exact Triple.error (keeps_sendChecks env input w.store) rfl h
  conflict checked left focus h hfound hother := by
    obtain ⟨hstore, -, hrun⟩ := sendChecks_spec env h
    obtain ⟨after, hafter, -, hmatches⟩ := sendChecked_known env h hfound
    refine ⟨?_, hstore⟩
    rw [hrun, sendChecked, hafter]
    simp [hmatches, hother, throwIf, exec_bind]
  delivered checked left focus h hfound hsame hsent := by
    obtain ⟨hstore, -, hrun⟩ := sendChecks_spec env h
    obtain ⟨after, hafter, hcontinues, hmatches⟩ := sendChecked_known env h hfound
    have hdelivery : ¬(after.current.delivery = .queued ∨ after.current.delivery = .sendFailed) := by
      simpa [isUnsent] using hcontinues.sent hsent
    refine ⟨?_, hstore⟩
    rw [hrun, sendChecked, hafter]
    simp [hmatches, hsame, throwIf, hdelivery]
  known checked left focus h hfound := by
    obtain ⟨hstore, hrecords, hrun⟩ := sendChecks_spec env h
    obtain ⟨after, hafter, -, -⟩ := sendChecked_known env h hfound
    have hkeeps : Keeps (OnStore fun store => List.Forall₂ Continues w.store.records store.records)
        (sendChecked env input checked) fun _ => True :=
      keeps_sendChecked_known env hafter fun next hnext => forall₂_of_found hrecords hafter hnext
    rw [hrun]
    refine hkeeps.world ?_
    rw [OnStore, hstore]
    exact List.forall₂_same.mpr fun _ _ => .refl _
  unknown checked left h hfound := by
    obtain ⟨hstore, hrecords, hrun⟩ := sendChecks_spec env h
    have habsent : ∀ record ∈ checked.state.records, record.key ≠ checked.key := by
      intro record hmem
      obtain ⟨source, hsource, hcontinues⟩ := exists_of_mem_right hrecords hmem
      rw [hcontinues.key]
      exact findTaskRecord_eq_none.mp hfound source hsource
    have hnone : findTaskRecord checked.state .outgoing checked.localTetiId checked.taskId = none :=
      findTaskRecord_eq_none.mpr habsent
    rw [hrun, sendChecked, hnone]
    exact (keeps_sendNew env w.store habsent).world (.inl hstore)

/-! ### Any number of calls -/

/-- How many records of a task there are. -/
def copies (key : TaskKey) (store : TaskStore) : Nat :=
  (store.records.map fun record => record.key).count key

lemma copies_eq_zero {key : TaskKey} {store : TaskStore} :
    copies key store = 0 ↔ ∀ record ∈ store.records, record.key ≠ key := by
  simp [copies, List.count_eq_zero]

variable {after : TaskStore}

lemma copies_of_continues {before : TaskStore}
    (h : List.Forall₂ Continues before.records after.records) (key : TaskKey) :
    copies key after = copies key before := by
  have hkeys : (after.records.map fun record => record.key)
      = before.records.map fun record => record.key := by
    rw [← List.forall₂_eq_eq_eq, List.forall₂_map_left_iff, List.forall₂_map_right_iff]
    exact h.flip.imp fun _ _ hab => hab.key
  rw [copies, copies, hkeys]

/-- A later state of the store file: a task has no second record, a record goes on or was dropped,
and it has gone on from another one or was added where its task had none. -/
structure StoreGoesOn (dropped : TaskRecord → Prop) (added : TaskKey → Prop)
    (before after : TaskStore) : Prop where
  single : ∀ key, copies key after ≤ max 1 (copies key before)
  kept : ∀ record ∈ before.records, (∃ next ∈ after.records, Continues record next) ∨ dropped record
  origin : ∀ next ∈ after.records,
    (∃ record ∈ before.records, Continues record next) ∨ added next.key

lemma StoreGoesOn.trans {dropped dropped' dropped₀ : TaskRecord → Prop}
    {added added' added₀ : TaskKey → Prop} {before between : TaskStore}
    (h : StoreGoesOn dropped added before between) (h' : StoreGoesOn dropped' added' between after)
    (hdropped : ∀ record, dropped record → dropped₀ record)
    (hdropped' : ∀ record next, Continues record next → dropped' next → dropped₀ record)
    (hadded : ∀ key, added key → added₀ key) (hadded' : ∀ key, added' key → added₀ key) :
    StoreGoesOn dropped₀ added₀ before after where
  single key := by
    have := h.single key
    have := h'.single key
    omega
  kept record hmem := by
    rcases h.kept record hmem with ⟨next, hnext, hcontinues⟩ | hdrop
    · rcases h'.kept next hnext with ⟨last, hlast, hcontinues'⟩ | hdrop
      · exact .inl ⟨last, hlast, hcontinues.trans hcontinues'⟩
      · exact .inr (hdropped' record next hcontinues hdrop)
    · exact .inr (hdropped record hdrop)
  origin last hmem := by
    rcases h'.origin last hmem with ⟨next, hnext, hcontinues'⟩ | hadd
    · rcases h.origin next hnext with ⟨record, hrecord, hcontinues⟩ | hadd
      · exact .inl ⟨record, hrecord, hcontinues.trans hcontinues'⟩
      · exact .inr (hcontinues'.key ▸ hadded next.key hadd)
    · exact .inr (hadded' last.key hadd)

lemma StoreGoesOn.of_continues {dropped : TaskRecord → Prop} {added : TaskKey → Prop}
    {before : TaskStore} (h : List.Forall₂ Continues before.records after.records) :
    StoreGoesOn dropped added before after where
  single key := by
    rw [copies_of_continues h]
    exact le_max_right _ _
  kept _ hmem := .inl (exists_of_mem_left h hmem)
  origin _ hmem := .inl (exists_of_mem_right h hmem)

/-- The store is full, and the request of the record has expired. -/
def MakesRoom (store : TaskStore) (record : TaskRecord) : Prop :=
  MAX_TASK_TRANSPORT_RECORDS ≤ store.records.length ∧ ∃ n, record.request.expiresAt ≤ env.now n

lemma storeGoesOn_of_adds (habsent : copies checked.key checked.state = 0)
    (h : Adds env input checked after) :
    StoreGoesOn (MakesRoom env checked.state) (fun key => copies key checked.state = 0)
      checked.state after := by
  obtain ⟨n, room, new, hroom, hkey, -, hafter⟩ := h
  refine ⟨fun key => ?_, fun record hmem => ?_, fun next hmem => ?_⟩
  · let stored : TaskStore := { room with records := room.records ++ [new] }
    have hcopies : copies key after = copies key room + (if new.key = key then 1 else 0) := by
      have hstored : List.Forall₂ Continues stored.records after.records := hafter
      rw [copies_of_continues hstored]
      simp [stored, copies, List.count_singleton]
    have hle : copies key room ≤ copies key checked.state := by
      rw [copies, copies, List.count, List.countP_map, List.countP_map]
      exact (subperm_ensureCapacity hroom).countP_le _
    rw [hcopies]
    split_ifs with hnew
    · rw [← hnew, hkey] at hle ⊢
      omega
    · omega
  · by_cases hin : record ∈ room.records
    · exact .inl (exists_of_mem_left hafter (List.mem_append_left _ hin))
    · by_cases hfull : MAX_TASK_TRANSPORT_RECORDS ≤ checked.state.records.length
      · refine .inr ⟨hfull, n, not_lt.mp fun hfresh => hin ?_⟩
        exact (mem_ensureCapacity hfull hroom record).mpr ⟨hmem, hfresh⟩
      · rw [ensureCapacity, if_pos (not_le.mp hfull)] at hroom
        exact absurd (Option.some.inj hroom ▸ hmem) hin
  · obtain ⟨record, hrecord, hcontinues⟩ := exists_of_mem_right hafter hmem
    rcases List.mem_append.mp hrecord with hin | hlast
    · exact .inl ⟨record, (subperm_ensureCapacity hroom).subset hin, hcontinues⟩
    · rw [List.mem_singleton.mp hlast] at hcontinues
      rw [hcontinues.key, hkey]
      exact .inr habsent

lemma makesRoom_of_continues {store : TaskStore} {record next : TaskRecord}
    (h : Continues record next) : MakesRoom env store next → MakesRoom env store record := by
  rw [MakesRoom, MakesRoom, h.request]
  exact id

/-- A call drops a record only from a full store, and adds one only to a task without any. -/
lemma storeGoesOn_sendTask (input : SendCollaborationTaskInput) (w : World) :
    StoreGoesOn (MakesRoom env w.store) (fun key => copies key w.store = 0) w.store
      ((sendTask env input).exec w).2.store := by
  have hsame : ∀ store, store = w.store →
      StoreGoesOn (MakesRoom env w.store) (fun key => copies key w.store = 0) w.store store := by
    rintro store rfl
    exact .of_continues (List.forall₂_same.mpr fun _ _ => .refl _)
  have hlaws := sendLaws env input w
  rcases hchecks : (sendChecks env input).exec w with ⟨error | checked, left⟩
  · obtain ⟨hrun, hstore⟩ := hlaws.refused error left hchecks
    rw [hrun]
    exact hsame left.store hstore
  cases hfound : findTaskRecord w.store .outgoing checked.localTetiId checked.taskId with
  | some focus => exact .of_continues (hlaws.known checked left focus hchecks hfound)
  | none =>
    rcases hlaws.unknown checked left hchecks hfound with hstore | hadds
    · exact hsame _ hstore
    obtain ⟨-, hrecords, -⟩ := sendChecks_spec env hchecks
    have hcopies := copies_of_continues hrecords
    have habsent : copies checked.key checked.state = 0 := by
      rw [hcopies, copies_eq_zero]
      exact findTaskRecord_eq_none.mp hfound
    refine StoreGoesOn.trans (.of_continues hrecords) (storeGoesOn_of_adds env habsent hadds)
      (fun _ => id) (fun record next hcontinues hroom => ?_) (fun _ => id) fun key hnone => ?_
    · rw [MakesRoom, hrecords.length_eq]
      exact makesRoom_of_continues env hcontinues hroom
    · exact (hcopies key).symm.trans hnone

variable (calls : List SendCollaborationTaskInput)

/-- The world that calls leave, made one after the other. -/
def afterSends (w : World) : World :=
  calls.foldl (fun v input => ((sendTask env input).exec v).2) w

/-- Some call of a run finds a store with a property. -/
def SomeCall (w : World) (p : TaskStore → Prop) : Prop :=
  ∃ earlier input later, calls = earlier ++ input :: later ∧ p (afterSends env earlier w).store

lemma SomeCall.append {calls : List SendCollaborationTaskInput} {w : World} {p : TaskStore → Prop}
    (h : SomeCall env calls w p) (last : SendCollaborationTaskInput) :
    SomeCall env (calls ++ [last]) w p := by
  obtain ⟨earlier, input, later, rfl, hp⟩ := h
  exact ⟨earlier, input, later ++ [last], by simp, hp⟩

lemma SomeCall.last {calls : List SendCollaborationTaskInput} {w : World} {p : TaskStore → Prop}
    (h : p (afterSends env calls w).store) (last : SendCollaborationTaskInput) :
    SomeCall env (calls ++ [last]) w p :=
  ⟨calls, last, [], rfl, h⟩

/-- What calls do, made one after the other. -/
def RunLaws (w : World) : Prop :=
  StoreGoesOn (fun record => SomeCall env calls w fun store => MakesRoom env store record)
    (fun key => SomeCall env calls w fun store => copies key store = 0)
    w.store (afterSends env calls w).store

lemma runLaws (w : World) : RunLaws env calls w := by
  induction calls using List.reverseRecOn with
  | nil => exact .of_continues (List.forall₂_same.mpr fun _ _ => .refl _)
  | append_singleton calls input ih =>
    have hlast : afterSends env (calls ++ [input]) w
        = ((sendTask env input).exec (afterSends env calls w)).2 := by
      simp [afterSends]
    rw [RunLaws, hlast]
    refine ih.trans (storeGoesOn_sendTask env input _) (fun record h => h.append env input)
      (fun record next hcontinues h => ?_) (fun key h => h.append env input) fun key h => ?_
    · exact SomeCall.last env (makesRoom_of_continues env hcontinues h) input
    · exact SomeCall.last env h input

end Calls

/-- **Sending again**: of every call from every world, one whose checks pass and that finds a
record of its task with other content throws `TASK_ID_CONFLICT` and leaves the store file, and
one that finds the same content adds no record; and after every sequence of calls a task has
no second record, and its record goes on, unless a call has dropped it from a full store. -/
theorem send_idempotent (env : Environment) :
    (∀ input w, SendLaws env input w) ∧ ∀ calls w, RunLaws env calls w :=
  ⟨sendLaws env, runLaws env⟩

/-! ### An offer that is not named -/

def resendEnvironment : Environment :=
  steadyEnvironment "teti_aaaaaaaaa" [⟨"connection-1", "teti_bbbbbbbbb", true⟩] 1

/-- A call for one task, with or without an offer. -/
def offerInput (offerId : Option String) : SendCollaborationTaskInput where
  connectionRequestId := "connection-1"
  taskId := some "task-1"
  offerId := offerId
  capabilityId := "text"
  text := JsString.ofString "hi"

/-- Nothing was sent yet, and the peer supports the current version. -/
def peerWorld : World := { initialWorld with store := ⟨[], [⟨"teti_bbbbbbbbb", [7], 0⟩]⟩ }

/-- The task was sent with an offer. -/
def offeredWorld : World :=
  ((sendTask resendEnvironment (offerInput (some "offer-1"))).exec peerWorld).2

/-- A call without an offer stands for that of the capability, and is taken for a task that was
sent with another one; and other content over a connection that is not there is refused for the
connection. -/
theorem unnamed_offer_accepted :
    offeredWorld.store.records.map (fun record => record.request.offerId) = ["offer-1"]
      ∧ (((sendTask resendEnvironment (offerInput none)).exec peerWorld).2.store.records.map
        fun record => record.request.offerId) = ["capability:text"]
      ∧ ((sendTask resendEnvironment (offerInput none)).exec offeredWorld).1 = .ok ()
      ∧ ((sendTask resendEnvironment { offerInput (some "offer-1") with
          connectionRequestId := "connection-2"
          text := JsString.ofString "other" }).exec offeredWorld).1
        = .error (runtimeError "TASK_CONNECTION_REQUIRED"
          "A Confirmed Teti connection is required.") := by
  decide +kernel

end TetiBot

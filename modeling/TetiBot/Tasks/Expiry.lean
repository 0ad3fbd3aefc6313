import TetiBot.Tasks.ReadModel

/-
Verified results and the expiry of due records (`expireDueRecords` in
`runtime/tasks/service.ts`).

* `keepsResults`: a task that a verified result has completed stays completed,
  whenever the pass runs;
* `expiry_stable_iff`: and a second pass at the same time changes nothing,
  exactly if the first one throws or expires no record with a verified result.

The completions are reconciled before the records expire, and an expired record
with a verified result can be completed: what the first pass has expired, the
second one completes.
-/

namespace TetiBot

open Library Library.Program

/-! ### Verified results -/

/-- The record holds a verified artifact of a task of a single stage that was
sent to a peer. -/
def HoldsVerifiedResult (record : TaskRecord) : Prop :=
  record.direction = .outgoing ∧ 7 ≤ record.protocolVersion ∧ record.isLongHorizon = false
    ∧ record.artifacts ≠ []

instance (record : TaskRecord) : Decidable (HoldsVerifiedResult record) :=
  inferInstanceAs (Decidable (_ ∧ _))

/-- The record is due, and its state is none from which its result completes
it. -/
def ExpiresWithResult (now : Timestamp) (record : TaskRecord) : Prop :=
  HoldsVerifiedResult record ∧ expires now record = true

instance (now : Timestamp) (record : TaskRecord) : Decidable (ExpiresWithResult now record) :=
  inferInstanceAs (Decidable (_ ∧ _))

/-- The records that their results have completed are completed in what a pass
leaves of the store. -/
def KeepsResults (now : Timestamp) (state : TaskStore) (w : World) : Prop :=
  List.Forall₂ (fun record next => HoldsVerifiedResult record → record.state = .completed →
    next.state = .completed) state.records (storedAfterExpiry now state w)

/-- Some record that is due cannot expire: an audit of it is full. -/
def ExpiryThrows (now : Timestamp) (state : TaskStore) : Prop :=
  ∃ record ∈ state.records, expires now record = true
    ∧ (sessionAuditFull record = true ∨ planAuditFull record = true)

/-- A second pass over what a first one left returns the same state, says that
nothing changed and makes no change.  If the first one throws, nothing of it is
saved, and the second one throws as well. -/
def RepeatChangesNothing (now : Timestamp) (state : TaskStore) (w : World) : Prop :=
  match (expireDueRecords now state).exec w with
  | (.ok pass, left) =>
    (expireDueRecords now pass.state).exec left = (.ok ⟨pass.state, false⟩, left)
  | (.error _, left) => ∃ error, ((expireDueRecords now state).exec left).1 = .error error

/-! ### Passes that change nothing -/

section Idle

variable {f : RecordFocus → Runtime Pass}

/-- The rest of a pass that leaves each of the remaining records. -/
lemma forEachRecord_idle_from (state : TaskStore) (rest done : List TaskRecord) (w : World)
    (hstate : state.records = done ++ rest)
    (hf : ∀ focus : RecordFocus, focus.state = state → focus.current ∈ rest →
      (f focus).exec w = (.ok ⟨focus.state, false⟩, w)) :
    (foldM (fun (pass : Pass) index => match focusIndex pass.state index with
        | none => pure pass
        | some focus => do
          let next ← f focus
          return ⟨next.state, pass.changed || next.changed⟩)
        ⟨state, false⟩ (List.range' done.length rest.length)).exec w = (.ok ⟨state, false⟩, w) := by
  induction rest generalizing done with
  | nil => rfl
  | cons record rest ih =>
    have hfocus : focusIndex state done.length = some ⟨⟨done, record, rest⟩, state.peers⟩ := by
      rw [focusIndex, hstate, focusAt?_append]
      rfl
    have hwhole : RecordFocus.state ⟨⟨done, record, rest⟩, state.peers⟩ = state := by
      simp [RecordFocus.state, Focus.toList, ← hstate]
    have hstep := hf ⟨⟨done, record, rest⟩, state.peers⟩ hwhole (by simp [RecordFocus.current])
    rw [hwhole] at hstep
    have hrest := ih (done ++ [record]) (by simpa using hstate) fun focus hfocus hmem =>
      hf focus hfocus (List.mem_cons_of_mem _ hmem)
    rw [List.length_append, List.length_singleton] at hrest
    rw [List.length_cons, List.range'_succ, foldM]
    simpa only [hfocus, exec_bind, hstep, exec_pure, Bool.or_false] using hrest

/-- A pass whose program leaves each record of the state leaves the state. -/
lemma forEachRecord_idle (state : TaskStore) (w : World)
    (hf : ∀ focus : RecordFocus, focus.state = state → focus.current ∈ state.records →
      (f focus).exec w = (.ok ⟨focus.state, false⟩, w)) :
    (forEachRecord f state).exec w = (.ok ⟨state, false⟩, w) := by
  rw [forEachRecord, List.range_eq_range']
  exact forEachRecord_idle_from state state.records [] w rfl hf

end Idle

/-- No record of the state is completed or expires. -/
def Settled (now : Timestamp) (record : TaskRecord) : Prop :=
  completeOutgoingSingleStageFromVerifiedArtifact record now = none
    ∧ isExpiryDue record now = false

variable {now : Timestamp}

/-- Where each record is settled, the expiry of due records does nothing. -/
lemma expireDueRecords_settled {state : TaskStore} (w : World)
    (h : ∀ record ∈ state.records, Settled now record) :
    (expireDueRecords now state).exec w = (.ok ⟨state, false⟩, w) := by
  have hcompleted := forEachRecord_idle (f := reconcileCompletion now) state w
    fun focus _ hmem => by
      rw [reconcileCompletion, (h _ hmem).1]
      rfl
  have hexpired := forEachRecord_idle (f := expireIfDue now) state w fun focus _ hmem => by
    rw [expireIfDue, (h _ hmem).2]
    rfl
  rw [expireDueRecords]
  simp only [exec_bind, hcompleted, hexpired, exec_pure, Bool.or_false]

/-! ### One record -/

variable {record : TaskRecord}

lemma recoverable_holdsVerifiedResult (h : canRecoverVerifiedSingleStageCompletion record = true) :
    HoldsVerifiedResult record := by
  rw [canRecoverVerifiedSingleStageCompletion] at h
  split_ifs at h with hother
  simp only [not_or, not_not] at hother
  obtain ⟨hdirection, hversion, hlong, hartifacts⟩ := hother
  exact ⟨hdirection, by omega, by simpa using hlong, hartifacts⟩

/-- A record is left by the reconciliation if its result cannot complete it, or
has completed it. -/
lemma completeOutgoing_eq_none_iff (record : TaskRecord) (now : Timestamp) :
    completeOutgoingSingleStageFromVerifiedArtifact record now = none
      ↔ canRecoverVerifiedSingleStageCompletion record = true →
          recordFace record = completedFace ∧ record.cancelPending = false
            ∧ record.cancelSentAt = none := by
  rw [completeOutgoingSingleStageFromVerifiedArtifact, canRecoverVerifiedSingleStageCompletion]
  by_cases hother : record.direction ≠ .outgoing ∨ record.protocolVersion < 7
      ∨ record.isLongHorizon = true ∨ record.artifacts = []
  · simp [if_pos hother]
  · have hstates : completesFromArtifact record = (record.state == .completed
        || (record.state == .rejected && record.safeErrorCode == some "TASK_EXPIRED")
        || [CollaborationTaskState.submitted, .working, .authRequired, .inputRequired].contains
          record.state) := by
      rw [completesFromArtifact]
      simp only [List.contains_cons, List.contains_nil, Bool.or_false, Bool.or_assoc]
    rw [if_neg hother, if_neg hother, ← hstates]
    split_ifs with hstate hdone
    · obtain ⟨hcompleted, happroval, hdelivery, hpending, hsent, hcode⟩ := hdone
      simp [recordFace, completedFace, hcompleted, happroval, hdelivery, hpending, hsent, hcode]
    · refine iff_of_false (by simp) fun hall => hdone ?_
      obtain ⟨hface, hpending, hsent⟩ := hall hstate
      simp only [recordFace, completedFace, TaskFace.mk.injEq] at hface
      obtain ⟨hcompleted, happroval, hdelivery, hcode⟩ := hface
      exact ⟨hcompleted, happroval, hdelivery, hpending, hsent, hcode⟩
    · simp [hstate]

/-- A record that was reconciled is not completed again. -/
lemma completeOutgoing_reconciled (record : TaskRecord) (now later : Timestamp) :
    completeOutgoingSingleStageFromVerifiedArtifact (reconciled now record) later = none := by
  rw [reconciled]
  cases h : completeOutgoingSingleStageFromVerifiedArtifact record now with
  | none =>
    rw [Option.getD_none, completeOutgoing_eq_none_iff]
    exact (completeOutgoing_eq_none_iff record now).mp h
  | some next =>
    rw [completeOutgoingSingleStageFromVerifiedArtifact] at h
    split_ifs at h
    obtain rfl := Option.some.inj h
    exact (completeOutgoing_eq_none_iff _ later).mpr fun _ => ⟨rfl, rfl, rfl⟩

/-- Expiry leaves the result of a record where it is. -/
lemma holdsVerifiedResult_expireRecord {next : TaskRecord} (h : expireRecord record now = .ok next) :
    HoldsVerifiedResult next ↔ HoldsVerifiedResult record := by
  have houtline := outline_expireRecord h
  have hdirection : next.direction = record.direction := congrArg Outline.direction houtline
  have hversion : next.protocolVersion = record.protocolVersion :=
    congrArg Outline.protocolVersion houtline
  have hrequest : next.request = record.request := congrArg Outline.request houtline
  have hartifacts : next.artifacts = record.artifacts := congrArg Outline.artifacts houtline
  have hlong : next.isLongHorizon = record.isLongHorizon := by
    rw [CollaborationTaskTransportRecord.isLongHorizon, hrequest]
    rfl
  rw [HoldsVerifiedResult, HoldsVerifiedResult, hdirection, hversion, hlong, hartifacts]

/-- An expired record can be completed exactly if it holds a verified result. -/
lemma recoverable_expired_iff (h : recordFace record = expiredFace) :
    canRecoverVerifiedSingleStageCompletion record = true ↔ HoldsVerifiedResult record := by
  refine ⟨recoverable_holdsVerifiedResult, ?_⟩
  rintro ⟨hdirection, hversion, hlong, hartifacts⟩
  simp only [recordFace, expiredFace, TaskFace.mk.injEq] at h
  obtain ⟨hstate, -, -, hcode⟩ := h
  rw [canRecoverVerifiedSingleStageCompletion, if_neg (by simp [hdirection, hlong, hartifacts]; omega)]
  simp [hstate, hcode]

/-- A record that has expired does not expire again. -/
lemma isExpiryDue_expired (h : recordFace record = expiredFace) :
    isExpiryDue record now = false := by
  simp only [recordFace, expiredFace, TaskFace.mk.injEq] at h
  obtain ⟨hstate, -, hdelivery, -⟩ := h
  simp [isExpiryDue, hstate, hdelivery, isTerminalTaskState]

/-- What a pass leaves of a record is settled, exactly if the pass did not
expire it with a verified result. -/
lemma settled_iff {next : TaskRecord} (h : expireOrThrow now (reconciled now record) = .ok next) :
    Settled now next ↔ ¬ExpiresWithResult now record := by
  rw [expireOrThrow, isExpiryDue_reconciled] at h
  cases hexpires : expires now record with
  | false =>
    rw [hexpires] at h
    obtain rfl := Except.ok.inj h
    have hkept : ¬ExpiresWithResult now record := fun hwith => by
      rw [ExpiresWithResult, hexpires] at hwith
      exact Bool.noConfusion hwith.2
    exact iff_of_true
      ⟨completeOutgoing_reconciled record now now, (isExpiryDue_reconciled record now).trans hexpires⟩
      hkept
  | true =>
    rw [hexpires, if_pos rfl, reconciled_of_not_recoverable (not_recoverable_of_expires hexpires)] at h
    cases hexpire : expireRecord record now with
    | error failure => simp [hexpire] at h
    | ok after =>
      rw [hexpire] at h
      obtain rfl := Except.ok.inj h
      have hface := (face_expireRecord hexpire).1
      have hresult := (recoverable_expired_iff hface).trans (holdsVerifiedResult_expireRecord hexpire)
      rw [ExpiresWithResult, hexpires, eq_self, and_true, ← hresult]
      constructor
      · rintro ⟨hnone, -⟩ hrecover
        have hcompleted := recordFace_reconciled now hrecover
        rw [reconciled, hnone, Option.getD_none, hface] at hcompleted
        exact absurd hcompleted (by decide)
      · intro hrecover
        rw [Bool.not_eq_true] at hrecover
        exact ⟨(completeOutgoing_eq_none_iff _ now).mpr fun h => absurd h (by simp [hrecover]),
          isExpiryDue_expired hface⟩

/-- A record that a pass leaves as it is is settled. -/
lemma settled_of_fixed (h : expireOrThrow now (reconciled now record) = .ok record) :
    Settled now record := by
  rw [settled_iff h]
  rintro ⟨-, hexpires⟩
  rw [expireOrThrow, isExpiryDue_reconciled, if_pos hexpires,
    reconciled_of_not_recoverable (not_recoverable_of_expires hexpires)] at h
  rw [expires, Bool.and_eq_true] at hexpires
  cases hexpire : expireRecord record now with
  | error failure => simp [hexpire] at h
  | ok after =>
    rw [hexpire] at h
    obtain rfl := Except.ok.inj h
    exact absurd hexpires.2 (by simp [isExpiryDue_expired (face_expireRecord hexpire).1])

/-! ### The pass -/

/-- The pass throws exactly if a record that expires has a full audit. -/
lemma expireDueRecords_throws_iff (now : Timestamp) (state : TaskStore) (w : World) :
    (∃ error, ((expireDueRecords now state).exec w).1 = .error error)
      ↔ ExpiryThrows now state := by
  have hspec := expireDueRecords_spec now state w
  have hone : ∀ record, (∃ error, expireOrThrow now (reconciled now record) = .error error)
      ↔ expires now record = true
        ∧ (sessionAuditFull record = true ∨ planAuditFull record = true) := by
    intro record
    rw [expireOrThrow, isExpiryDue_reconciled]
    cases hexpires : expires now record with
    | false => simp
    | true =>
      have hok := expireRecord_ok_iff record now
      rw [reconciled_of_not_recoverable (not_recoverable_of_expires hexpires), if_pos rfl]
      cases hexpire : expireRecord record now with
      | error failure =>
        rw [hexpire] at hok
        have hfull := not_not.mp (mt hok.mpr (by simp))
        exact iff_of_true ⟨_, rfl⟩ ⟨rfl, hfull⟩
      | ok next =>
        rw [hexpire] at hok
        exact iff_of_false (by simp) fun hfull => hok.mp ⟨next, rfl⟩ hfull.2
  rcases hrun : (expireDueRecords now state).exec w with ⟨error | pass, left⟩
  · rw [hrun] at hspec
    obtain ⟨record, hmem, hthrow⟩ := hspec
    exact iff_of_true ⟨error, rfl⟩ ⟨record, hmem, (hone record).mp ⟨error, hthrow⟩⟩
  · rw [hrun] at hspec
    obtain ⟨records, hrecords, -⟩ := hspec
    refine iff_of_false (by simp) ?_
    rintro ⟨record, hmem, hfull⟩
    obtain ⟨error, hthrow⟩ := (hone record).mpr hfull
    obtain ⟨next, -, hnext⟩ := exists_of_mem_left hrecords hmem
    rw [hthrow] at hnext
    cases hnext

/-- A verified result never expires, whenever the pass runs. -/
lemma keepsResults (now : Timestamp) (state : TaskStore) (w : World) :
    KeepsResults now state w := by
  have hspec := expireDueRecords_spec now state w
  rw [KeepsResults, storedAfterExpiry]
  rcases hrun : (expireDueRecords now state).exec w with ⟨error | pass, left⟩
  · exact List.forall₂_same.mpr fun _ _ _ hstate => hstate
  · rw [hrun] at hspec
    obtain ⟨records, hrecords, hstate⟩ := hspec
    show List.Forall₂ _ state.records pass.state.records
    rw [hstate]
    refine hrecords.imp fun record next hnext hresult hcompleted => ?_
    have hrecover : canRecoverVerifiedSingleStageCompletion record = true := by
      obtain ⟨hdirection, hversion, hlong, hartifacts⟩ := hresult
      rw [canRecoverVerifiedSingleStageCompletion,
        if_neg (by simp [hdirection, hlong, hartifacts]; omega)]
      simp [hcompleted]
    have hkept : expires now record = false := by simp [expires, hrecover]
    rw [expireOrThrow, isExpiryDue_reconciled, hkept] at hnext
    obtain rfl := Except.ok.inj hnext
    exact congrArg TaskFace.state (recordFace_reconciled now hrecover)

/-- A pass that leaves the state it is given finds every record settled. -/
lemma settled_of_unchanged {state : TaskStore} {w left : World}
    (h : (expireDueRecords now state).exec w = (.ok ⟨state, false⟩, left)) :
    ∀ record ∈ state.records, Settled now record := by
  have hspec := expireDueRecords_spec now state w
  rw [h] at hspec
  obtain ⟨records, hrecords, hstate⟩ := hspec
  have hsame : state.records = records := by
    have hwhole : state = ⟨records, state.peers⟩ := hstate
    rw [hwhole]
  rw [← hsame] at hrecords
  exact fun record hmem => settled_of_fixed (List.forall₂_same.mp hrecords record hmem)

/-- A second pass at the same time changes nothing, exactly if the first one
throws or expires no record with a verified result. -/
lemma repeatChangesNothing_iff (now : Timestamp) (state : TaskStore) (w : World) :
    RepeatChangesNothing now state w
      ↔ ExpiryThrows now state ∨ ∀ record ∈ state.records, ¬ExpiresWithResult now record := by
  have hspec := expireDueRecords_spec now state w
  have hthrows := expireDueRecords_throws_iff now state
  rw [RepeatChangesNothing]
  rcases hrun : (expireDueRecords now state).exec w with ⟨error | pass, left⟩
  · have hfull := (hthrows w).mp ⟨error, by rw [hrun]⟩
    exact iff_of_true ((hthrows left).mpr hfull) (.inl hfull)
  · rw [hrun] at hspec
    obtain ⟨records, hrecords, hstate⟩ := hspec
    have hnever : ¬ExpiryThrows now state := fun hfull => by
      obtain ⟨error, herror⟩ := (hthrows w).mpr hfull
      rw [hrun] at herror
      cases herror
    have hnext : pass.state.records = records := by rw [hstate]
    constructor
    · intro hrepeat
      refine .inr fun record hmem hwith => ?_
      obtain ⟨next, hnextmem, hnextrecord⟩ := exists_of_mem_left hrecords hmem
      rw [← hnext] at hnextmem
      -- the second pass completes what the first one has expired
      have hsettled := settled_of_unchanged hrepeat next hnextmem
      exact (settled_iff hnextrecord).mp hsettled hwith
    · rintro (hfull | hnone)
      · exact absurd hfull hnever
      · refine expireDueRecords_settled left fun next hmem => ?_
        rw [hnext] at hmem
        obtain ⟨record, hrecord, hnextrecord⟩ := exists_of_mem_right hrecords hmem
        exact (settled_iff hnextrecord).mpr (hnone record hrecord)

/-- **Expiry is stable**: a pass leaves the completed results, and a second pass
at the same time changes nothing; exactly if the first one throws, because a
record that is due has a full audit, or no record with a verified result is due
in a state from which the result does not complete it. -/
theorem expiry_stable_iff (now : Timestamp) (state : TaskStore) (w : World) :
    KeepsResults now state w ∧ RepeatChangesNothing now state w
      ↔ ExpiryThrows now state ∨ ∀ record ∈ state.records, ¬ExpiresWithResult now record := by
  rw [← repeatChangesNothing_iff now state w]
  exact and_iff_right (keepsResults now state w)

/-- A task whose request could not be sent again: the peer has published a
result and has failed. -/
def failedWithResult : TaskRecord :=
  { sampleTaskRecord with
    direction := .outgoing
    peerTetiId := "teti_bbbbbbbbb"
    state := .failed
    approval := .approvedOnce
    delivery := .sendFailed
    attachmentsReady := true
    artifacts := [.v2 "task-1" "artifact-1" [.text (JsString.ofString "done")] 1]
    safeErrorCode := some "TASK_CHATMAIL_SEND_FAILED" }

lemma failedWithResult_valid :
    validateTaskTransportStoreState ⟨[failedWithResult], []⟩ = .ok () := by decide +kernel

/-- When the time of the failed task has come, the first pass expires it, and
the second one completes it. -/
theorem expired_result_is_completed :
    ¬∀ (state : TaskStore) (now : Timestamp) (w : World),
      validateTaskTransportStoreState state = .ok () →
      KeepsResults now state w ∧ RepeatChangesNothing now state w := by
  intro hstable
  have hrepeat := (repeatChangesNothing_iff 1000 _ initialWorld).mp
    (hstable ⟨[failedWithResult], []⟩ 1000 initialWorld failedWithResult_valid).2
  rcases hrepeat with ⟨record, hmem, -, hfull⟩ | hnone
  · obtain rfl := List.mem_singleton.mp hmem
    exact absurd hfull (by decide)
  · exact hnone failedWithResult (List.mem_singleton.mpr rfl) (by decide +kernel)

end TetiBot

import TetiBot.Tasks.Upkeep

/-
What the eviction of a full store drops.

* `Finished`: a record that has ended, or whose effective expiry has passed, and that has
  nothing left to deliver.
* `mem_ensureCapacity`: what is dropped are the records whose request has expired, however
  long their continuation lease still runs.
* `eviction_drops_finished`: only finished records are dropped, if and only if nothing is, or
  no record with an expired request runs on a lease or has something to deliver.
-/

namespace TetiBot

open Library

/-! ### Finished records -/

variable (record : TaskRecord)

/-- A message about the record is yet to be delivered: its request, its status, an artifact,
an input or a cancellation. -/
def hasPendingDelivery : Bool :=
  (record.direction == .outgoing && (record.delivery == .queued || record.delivery == .sendFailed))
    || (pendingStatus record).isSome
    || (record.direction == .incoming && record.artifactPending)
    || (pendingInput record).isSome
    || (pendingCancel record).isSome

structure Finished (record : TaskRecord) (now : Timestamp) : Prop where
  ended : isTerminalTaskState record.state = true ∨ effectiveTaskExpiry record ≤ now
  delivered : hasPendingDelivery record = false

/-- The lease of a long-horizon record, on either side. -/
def continuationLease : Option Timestamp :=
  (record.longHorizon.map fun session => session.continuationExpiresAt).or
    (record.peerLongHorizon.map fun status => status.continuationExpiresAt)

/-- The record has not ended, and its lease runs. -/
def RunsOnLease (now : Timestamp) : Prop :=
  isTerminalTaskState record.state = false ∧ ∃ expiry ∈ continuationLease record, now < expiry

lemma effectiveTaskExpiry_eq :
    effectiveTaskExpiry record = (continuationLease record).getD record.request.expiresAt := by
  rw [effectiveTaskExpiry, continuationLease]
  cases record.longHorizon <;> cases record.peerLongHorizon <;> rfl

/-- A record whose request has expired is finished unless it runs on a lease or has something
to deliver. -/
lemma finished_iff {record : TaskRecord} {now : Timestamp} (h : record.request.expiresAt ≤ now) :
    Finished record now ↔ ¬RunsOnLease record now ∧ hasPendingDelivery record = false := by
  have hended : (isTerminalTaskState record.state = true ∨ effectiveTaskExpiry record ≤ now)
      ↔ ¬RunsOnLease record now := by
    rw [RunsOnLease, effectiveTaskExpiry_eq]
    cases hterminal : isTerminalTaskState record.state with
    | true => simp
    | false =>
      cases hlease : continuationLease record with
      | none => simp [h]
      | some expiry => simp
  exact ⟨fun hfinished => ⟨hended.mp hfinished.ended, hfinished.delivered⟩,
    fun ⟨hnot, hdelivered⟩ => ⟨hended.mpr hnot, hdelivered⟩⟩

/-! ### What is dropped -/

/-- The records whose request has yet to expire. -/
def unexpired (state : TaskStore) (now : Timestamp) : List TaskRecord :=
  state.records.filter fun record => now < record.request.expiresAt

lemma ensureCapacity_full {state : TaskStore}
    (hfull : MAX_TASK_TRANSPORT_RECORDS ≤ state.records.length) (now : Timestamp) :
    ensureCapacity state now
      = if MAX_TASK_TRANSPORT_RECORDS ≤ (unexpired state now).length then none
        else some { state with
          records := (unexpired state now).mergeSort fun left right =>
            left.updatedAt ≤ right.updatedAt } := by
  rw [ensureCapacity, if_neg (not_lt.mpr hfull)]
  simp only [(List.mergeSort_perm _ _).length_eq]
  rfl

lemma mem_ensureCapacity {state room : TaskStore} {now : Timestamp}
    (hfull : MAX_TASK_TRANSPORT_RECORDS ≤ state.records.length)
    (h : ensureCapacity state now = some room) (record : TaskRecord) :
    record ∈ room.records ↔ record ∈ state.records ∧ now < record.request.expiresAt := by
  rw [ensureCapacity_full hfull] at h
  split_ifs at h
  obtain rfl := Option.some.inj h
  simp [unexpired]

/-- **What eviction drops**: of every store, the records that make room for another are all
finished if and only if none is dropped, since the store has room or has none to make, or no
record whose request has expired runs on a lease or has something to deliver. -/
theorem eviction_drops_finished (state : TaskStore) (now : Timestamp) :
    (∀ room, ensureCapacity state now = some room →
        ∀ record ∈ state.records, record ∉ room.records → Finished record now)
      ↔ state.records.length < MAX_TASK_TRANSPORT_RECORDS
        ∨ MAX_TASK_TRANSPORT_RECORDS ≤ (unexpired state now).length
        ∨ ∀ record ∈ state.records, record.request.expiresAt ≤ now →
          ¬RunsOnLease record now ∧ hasPendingDelivery record = false := by
  constructor
  · intro h
    by_contra hnot
    rw [not_or, not_or, not_lt, not_le] at hnot
    obtain ⟨hfull, hexpired, hlive⟩ := hnot
    have hroom := ensureCapacity_full hfull now
    rw [if_neg (not_le.mpr hexpired)] at hroom
    refine hlive fun record hmem hpassed => (finished_iff hpassed).mp ?_
    refine h _ hroom record hmem fun hkept => ?_
    exact absurd ((mem_ensureCapacity hfull hroom record).mp hkept).2 (not_lt.mpr hpassed)
  · intro h room hroom record hmem hdropped
    by_cases hfull : state.records.length < MAX_TASK_TRANSPORT_RECORDS
    · rw [ensureCapacity, if_pos hfull] at hroom
      exact absurd (Option.some.inj hroom ▸ hmem) hdropped
    have hfull' := not_lt.mp hfull
    have hpassed : record.request.expiresAt ≤ now := by
      by_contra hfresh
      exact hdropped ((mem_ensureCapacity hfull' hroom record).mpr ⟨hmem, not_le.mp hfresh⟩)
    rcases h with hroom' | hmany | hquiet
    · exact absurd hroom' hfull
    · rw [ensureCapacity_full hfull', if_pos hmany] at hroom
      cases hroom
    · exact (finished_iff hpassed).mpr (hquiet record hmem hpassed)

/-! ### A store full of renewed tasks -/

/-- A running task whose lease was renewed once, from 1000 to 5000. -/
def renewedSession : LongHorizonTaskState :=
  { sampleSession with
    continuationExpiresAt := 5000, renewalCount := 1, audit := [sampleAudit 1 .renewed] }

def renewedRecord (taskId : String) : TaskRecord :=
  { sampleTaskRecord with
    request := { sampleTaskRequest with taskId := taskId, executionMode := some .longHorizon }
    statusRevision := 1
    statusAcknowledgedRevision := some 1
    attachmentsReady := true
    longHorizon := some renewedSession }

/-- The task identifiers differ only in their digits. -/
example : validateRecord (renewedRecord "task-511") = .ok () := by
  decide +kernel

/-- As many of them as a store holds. -/
def renewedStore : TaskStore :=
  ⟨(List.range MAX_TASK_TRANSPORT_RECORDS).map fun index => renewedRecord s!"task-{index}", []⟩

lemma mem_renewedStore {record : TaskRecord} (h : record ∈ renewedStore.records) :
    ∃ taskId, record = renewedRecord taskId := by
  simp only [renewedStore, List.mem_map] at h
  obtain ⟨index, -, rfl⟩ := h
  exact ⟨_, rfl⟩

lemma renewedStore_length : renewedStore.records.length = MAX_TASK_TRANSPORT_RECORDS := by
  rw [renewedStore, List.length_map, List.length_range]

lemma renewedStore_unexpired : unexpired renewedStore 2000 = [] := by
  rw [unexpired, List.filter_eq_nil_iff]
  intro record hmem
  obtain ⟨taskId, rfl⟩ := mem_renewedStore hmem
  exact of_decide_eq_false rfl

/-- At 2000 every one of them makes room, and none is finished. -/
theorem eviction_drops_renewed :
    renewedStore.records.length = MAX_TASK_TRANSPORT_RECORDS
    ∧ (ensureCapacity renewedStore 2000).map (fun room => room.records) = some []
    ∧ ∀ record ∈ renewedStore.records, ¬Finished record 2000 := by
  refine ⟨renewedStore_length, ?_, fun record hmem hfinished => ?_⟩
  · rw [ensureCapacity_full renewedStore_length.ge, renewedStore_unexpired, if_neg (by decide),
      List.mergeSort_nil, Option.map_some]
  · obtain ⟨taskId, rfl⟩ := mem_renewedStore hmem
    rcases hfinished.ended with hterminal | hexpired
    · cases hterminal
    · exact absurd hexpired (of_decide_eq_false rfl)

end TetiBot

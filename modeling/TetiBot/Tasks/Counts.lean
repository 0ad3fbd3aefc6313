import TetiBot.Tasks.Changes
import TetiBot.Tasks.ReadCache

/-
What the read model counts (`runtime/tasks/read-model.ts`).

* `presented`: the records of a store in the order in which they are shown; the first
  hundred of them are kept;
* `isUnread`, `pendingApproval`: what the counts are of;
* `counts_exact`: the counts are those of the records that are kept, and those of the
  store if and only if no other record counts;
* `answered_counts`: so are those that any run has answered.
-/

namespace TetiBot

open Library

/-! ### The order of presentation -/

/-- The comparison orders by rank, and within a rank by a time. -/
def presentationTime (task : CachedTaskSummary) : Int :=
  if taskPresentationRank task = 0 then task.expiresAt else -(task.updatedAt : Int)

lemma compareTaskSummaryPresentation_le_iff (left right : CachedTaskSummary) :
    compareTaskSummaryPresentation left right ≤ 0
      ↔ taskPresentationRank left < taskPresentationRank right
        ∨ taskPresentationRank left = taskPresentationRank right
          ∧ presentationTime left ≤ presentationTime right := by
  unfold compareTaskSummaryPresentation presentationTime
  dsimp only
  split_ifs with hdifference hleft hright <;> omega

lemma compareTaskSummaryPresentation_trans {a b c : CachedTaskSummary}
    (h : compareTaskSummaryPresentation a b ≤ 0) (h' : compareTaskSummaryPresentation b c ≤ 0) :
    compareTaskSummaryPresentation a c ≤ 0 := by
  rw [compareTaskSummaryPresentation_le_iff] at *
  omega

lemma compareTaskSummaryPresentation_total (a b : CachedTaskSummary) :
    compareTaskSummaryPresentation a b ≤ 0 ∨ compareTaskSummaryPresentation b a ≤ 0 := by
  rw [compareTaskSummaryPresentation_le_iff, compareTaskSummaryPresentation_le_iff]
  omega

variable (state : TaskStore)

/-- The records of a store in the order in which they are shown. -/
def presented : List TaskRecord :=
  state.records.mergeSort fun left right =>
    compareTaskSummaryPresentation (projectSummary left) (projectSummary right) ≤ 0

lemma presented_perm : (presented state).Perm state.records :=
  List.mergeSort_perm _ _

lemma presented_sorted : (presented state).Pairwise fun left right =>
    compareTaskSummaryPresentation (projectSummary left) (projectSummary right) ≤ 0 := by
  refine (List.pairwise_mergeSort (fun a b c h h' => ?_) (fun a b => ?_) state.records).imp
    of_decide_eq_true
  · exact decide_eq_true
      (compareTaskSummaryPresentation_trans (of_decide_eq_true h) (of_decide_eq_true h'))
  · rw [Bool.or_eq_true, decide_eq_true_eq, decide_eq_true_eq]
    exact compareTaskSummaryPresentation_total _ _

lemma cachedSummaries_eq :
    cachedSummaries state = ((presented state).take 100).map summaryEntry := by
  rw [cachedSummaries, presented, List.map_take, List.map_mergeSort]
  intro left _ right _
  rfl

/-! ### What counts -/

/-- A record with an update that was not viewed. -/
def isUnread (record : TaskRecord) : Bool :=
  record.viewedAttentionRevision < record.attentionRevision.getD 0

/-- An incoming task that its owner can still approve. -/
def pendingApproval (now : Timestamp) (record : TaskRecord) : Bool :=
  record.direction == .incoming && record.approval == .pending && record.state == .submitted
    && decide (now < effectiveTaskExpiry record)

lemma isUnread_projected (record : TaskRecord) (now : Timestamp) :
    (projectCurrentSummary (summaryEntry record) now).hasUnreadTaskUpdate = isUnread record := by
  rw [projectCurrentSummary]
  split_ifs <;> rfl

/-- What `listSummaries` counts of the summaries as they are shown. -/
def shownPending (task : CachedTaskSummary) : Bool :=
  task.direction == .incoming && task.approval == .pending && task.state == .submitted

lemma shownPending_projected (record : TaskRecord) (now : Timestamp) :
    shownPending (projectCurrentSummary (summaryEntry record) now) = pendingApproval now record := by
  by_cases hincoming : record.direction = .incoming
  · have hverified : (summaryEntry record).verifiedSingleStageCompletion = false := by
      simp [summaryEntry, canRecoverVerifiedSingleStageCompletion, hincoming]
    rw [projectCurrentSummary, hverified]
    by_cases hsubmitted : record.state = .submitted
    · by_cases hlate : effectiveTaskExpiry record ≤ now
      · -- the task is shown as expired
        have hnot : ¬now < effectiveTaskExpiry record := not_lt.mpr hlate
        simp [shownPending, pendingApproval, summaryEntry, projectSummary, shouldProjectExpiry,
          hsubmitted, hlate, hnot]
      · have hnot : now < effectiveTaskExpiry record := not_le.mp hlate
        simp [shownPending, pendingApproval, summaryEntry, projectSummary, shouldProjectExpiry,
          hsubmitted, hlate, hnot]
    · have hstate : record.state ≠ .submitted := hsubmitted
      have hnot : pendingApproval now record = false := by simp [pendingApproval, hsubmitted]
      rw [hnot, if_neg Bool.false_ne_true]
      split_ifs
      · simp [shownPending]
      · simp [shownPending, summaryEntry, projectSummary, hsubmitted]
  · have hdirection : (projectCurrentSummary (summaryEntry record) now).direction
        = record.direction := by
      rw [projectCurrentSummary]
      split_ifs <;> rfl
    have hnot : (record.direction == TaskTransportDirection.incoming) = false :=
      beq_false_of_ne hincoming
    simp [shownPending, pendingApproval, hdirection, hnot]

/-! ### The counts -/

/-- What is counted of the results is counted of the values. -/
lemma countP_mapIdx_map {α β γ : Type} {g : α → β} {f : Nat → β → γ} {p : γ → Bool}
    {q : Nat → α → Bool} (h : ∀ k a, p (f k (g a)) = q k a) (values : List α) :
    ((values.map g).mapIdx f).countP p = (values.mapIdx q).countP id := by
  induction values generalizing f q with
  | nil => rfl
  | cons a values ih =>
    have hrest : ((values.map g).mapIdx fun k => f (k + 1)).countP p
        = (values.mapIdx fun k => q (k + 1)).countP id := ih fun k b => h (k + 1) b
    rw [List.map_cons, List.mapIdx_cons, List.mapIdx_cons, List.countP_cons, List.countP_cons,
      hrest, h 0 a]
    rfl

lemma countP_mapIdx_const {α : Type} (q : α → Bool) (values : List α) :
    (values.mapIdx fun _ a => q a).countP id = values.countP q := by
  induction values with
  | nil => rfl
  | cons a values ih =>
    rw [List.mapIdx_cons, List.countP_cons, List.countP_cons]
    rw [ih]
    rfl

/-- A count of the first values is that of all of them if no other value counts. -/
lemma countP_take_eq_iff {α : Type} (q : α → Bool) (n : Nat) (values : List α) :
    (values.take n).countP q = values.countP q ↔ ∀ a ∈ values.drop n, q a = false := by
  have hsplit : values.countP q = (values.take n).countP q + (values.drop n).countP q := by
    rw [← List.countP_append, List.take_append_drop]
  have hnone : (values.drop n).countP q = 0 ↔ ∀ a ∈ values.drop n, q a = false := by
    simp [List.countP_eq_zero]
  rw [← hnone]
  omega

section

variable (now : Nat → Timestamp) (connections : List Connections.TetiConnectionRecord)
  (state : TaskStore)

/-- A count over the tasks of a snapshot. -/
lemma countP_summaries (p : CachedTaskSummary → Bool) (entries : List CachedTaskSummaryEntry) :
    (((entries.mapIdx fun k entry => projectCurrentSummary entry (now k)).mergeSort
        fun left right => compareTaskSummaryPresentation left right ≤ 0).countP p)
      = (entries.mapIdx fun k entry => projectCurrentSummary entry (now k)).countP p :=
  (List.mergeSort_perm _ _).countP_eq p

lemma unreadTaskUpdateCount_eq :
    (summarySnapshot now connections (cachedSummaries state)).unreadTaskUpdateCount
      = ((presented state).take 100).countP isUnread := by
  rw [summarySnapshot, cachedSummaries_eq]
  dsimp only
  rw [countP_summaries, countP_mapIdx_map fun k record => isUnread_projected record (now k)]
  exact countP_mapIdx_const isUnread _

lemma pendingIncomingCount_eq :
    (summarySnapshot now connections (cachedSummaries state)).pendingIncomingCount
      = (((presented state).take 100).mapIdx fun k record =>
          pendingApproval (now k) record).countP id := by
  rw [summarySnapshot, cachedSummaries_eq]
  dsimp only
  rw [countP_summaries]
  exact countP_mapIdx_map (fun k record => shownPending_projected record (now k)) _

/-- **What the counts are exact for.**  The tasks that are listed are those of the first hundred
records in the order of presentation.  The unread count is that of these records, and so is the
count of the tasks that await approval, each of them at the time the clock shows for it.  Either
is the count of the whole store if and only if no record after the first hundred counts. -/
theorem counts_exact :
    (presented state).Perm state.records
    ∧ ((presented state).Pairwise fun left right =>
      compareTaskSummaryPresentation (projectSummary left) (projectSummary right) ≤ 0)
    ∧ (summarySnapshot now connections (cachedSummaries state)).tasks.length
      = min 100 state.records.length
    ∧ (summarySnapshot now connections (cachedSummaries state)).unreadTaskUpdateCount
      = ((presented state).take 100).countP isUnread
    ∧ ((summarySnapshot now connections (cachedSummaries state)).unreadTaskUpdateCount
        = state.records.countP isUnread
      ↔ ∀ record ∈ (presented state).drop 100, isUnread record = false)
    ∧ (summarySnapshot now connections (cachedSummaries state)).pendingIncomingCount
      = (((presented state).take 100).mapIdx fun k record =>
          pendingApproval (now k) record).countP id
    ∧ ∀ time, (∀ k, now k = time) →
      ((summarySnapshot now connections (cachedSummaries state)).pendingIncomingCount
          = state.records.countP (pendingApproval time)
        ↔ ∀ record ∈ (presented state).drop 100, pendingApproval time record = false) := by
  refine ⟨presented_perm state, presented_sorted state, ?_, unreadTaskUpdateCount_eq _ _ _, ?_,
    pendingIncomingCount_eq _ _ _, fun time htime => ?_⟩
  · rw [summarySnapshot, cachedSummaries_eq]
    simp [(presented_perm state).length_eq]
  · rw [unreadTaskUpdateCount_eq, ← (presented_perm state).countP_eq]
    exact countP_take_eq_iff _ _ _
  · obtain rfl : now = fun _ => time := funext htime
    rw [pendingIncomingCount_eq, countP_mapIdx_const, ← (presented_perm state).countP_eq]
    exact countP_take_eq_iff _ _ _

end

/-- **The counts that were answered.**  In every run over every file, the counts of each answer
are those of the first hundred records of a version of the file that is no older than what was
published when the call began. -/
theorem answered_counts (env : ReadEnvironment) (file : TaskStore) {t : ReadSystem}
    (hrun : Reached (ReadStep env) (Lanes.idle (.started file)) t) {began : Option Nat}
    {connections : List Connections.TetiConnectionRecord}
    {snapshot : CollaborationTaskSummarySnapshot}
    (hanswer : .summaries began connections snapshot ∈ t.world.answers) :
    ∃ index state, t.world.versions[index]? = some state ∧ NotOlder began index
      ∧ snapshot.unreadTaskUpdateCount = ((presented state).take 100).countP isUnread
      ∧ ∃ now : Nat → Timestamp, snapshot.pendingIncomingCount
        = (((presented state).take 100).mapIdx fun k record =>
            pendingApproval (now k) record).countP id := by
  have hcoherent : Coherent env t.world :=
    (Lanes.along (reads_agree env) (fun w hw => MovesOn.refl hw) MovesOn.trans
      (fun h => h.advances) (coherent_started env file) .refl hrun).coherent
  obtain ⟨index, state, hversion, hnewer, now, rfl⟩ := hcoherent.answers _ hanswer
  exact ⟨index, state, hversion, hnewer, unreadTaskUpdateCount_eq now connections state, now,
    pendingIncomingCount_eq now connections state⟩

theorem answered_counts_overtaken :
    ∃ (index : Nat) (state : TaskStore) (snapshot : CollaborationTaskSummarySnapshot),
      overtaken.world.versions[index]? = some state
      ∧ snapshot.unreadTaskUpdateCount = ((presented state).take 100).countP isUnread := by
  have hanswer : overtaken.world.answers[0]? = some (.summaries _ _ _) := rfl
  obtain ⟨index, state, hversion, -, hunread, -⟩ :=
    answered_counts steadyClock ⟨[], []⟩ reached_overtaken (List.mem_of_getElem? hanswer)
  exact ⟨index, state, _, hversion, hunread⟩

/-! ### A store with more records than are listed -/

/-- A task that has arrived and waits for its owner. -/
def waitingRecord (index : Nat) : TaskRecord :=
  { sampleTaskRecord with
    peerTetiId := "teti_bbbbbbbbb"
    request := { sampleTaskRequest with
      taskId := String.ofList ('t' :: List.replicate index '-')
      requesterTetiId := "teti_bbbbbbbbb"
      targetTetiId := "teti_aaaaaaaaa" }
    state := .submitted
    approval := .pending
    updatedAt := 0
    attachmentsReady := true
    attentionRevision := some 1 }

def waitingStore : TaskStore := ⟨(List.range 101).map waitingRecord, []⟩

lemma waitingStore_counts {p : TaskRecord → Bool} (h : ∀ index, p (waitingRecord index) = true) :
    waitingStore.records.countP p = 101 ∧ ((presented waitingStore).take 100).countP p = 100 := by
  have hall : ∀ record ∈ waitingStore.records, p record = true := by
    intro record hrecord
    obtain ⟨index, -, rfl⟩ := List.mem_map.mp hrecord
    exact h index
  have hlength : waitingStore.records.length = 101 := by simp [waitingStore]
  constructor
  · rw [List.countP_eq_length.mpr hall, hlength]
  · have htaken : ∀ record ∈ (presented waitingStore).take 100, p record = true :=
      fun record hrecord =>
        hall record ((presented_perm waitingStore).mem_iff.mp (List.mem_of_mem_take hrecord))
    rw [List.countP_eq_length.mpr htaken, List.length_take, (presented_perm waitingStore).length_eq,
      hlength]
    rfl

/-- A hundred and one tasks wait for their owner, and no update of them was viewed: the counts
are a hundred.  A task whose agent has asked for a login waits for another approval, and is not
counted. -/
theorem counts_miss_records :
    (waitingStore.records.length ≤ MAX_TASK_TRANSPORT_RECORDS
      ∧ (waitingStore.records.map fun record => record.request.taskId).Nodup
      ∧ validateRecord (waitingRecord 100) = .ok ())
    ∧ waitingStore.records.countP isUnread = 101
    ∧ (summarySnapshot (fun _ => 0) [] (cachedSummaries waitingStore)).unreadTaskUpdateCount = 100
    ∧ waitingStore.records.countP (pendingApproval 0) = 101
    ∧ (summarySnapshot (fun _ => 0) [] (cachedSummaries waitingStore)).pendingIncomingCount = 100
    ∧ awaitsApproval { waitingRecord 0 with state := .authRequired } = true
    ∧ (summarySnapshot (fun _ => 0) []
        (cachedSummaries ⟨[{ waitingRecord 0 with state := .authRequired }], []⟩)).pendingIncomingCount
      = 0 := by
  have hunread := waitingStore_counts (p := isUnread) fun _ => rfl
  have hpending := waitingStore_counts (p := pendingApproval 0) fun _ => rfl
  have hids : (waitingStore.records.map fun record => record.request.taskId).Nodup := by
    rw [waitingStore, List.map_map]
    refine List.nodup_range.map fun index other heq => ?_
    have hlength := congrArg String.length heq
    simpa [waitingRecord] using hlength
  refine ⟨⟨by decide, hids, by decide +kernel⟩, hunread.1, ?_, hpending.1, ?_, rfl, ?_⟩
  · rw [unreadTaskUpdateCount_eq, hunread.2]
  · rw [pendingIncomingCount_eq, countP_mapIdx_const, hpending.2]
  · rw [pendingIncomingCount_eq, countP_mapIdx_const, presented]
    simp [pendingApproval]

end TetiBot

import TetiBot.Callable.Adapter
import TetiBot.Tasks.Session
import TetiBot.Memory.Deletion

/-
The size of the text that an execution is handed with its memory.

* `utf8Size_formatRecords`: the envelope and the text add up.
* `Selected`: what the selection of a preview keeps at every step; with the text that
  the preview is made for, the records stay within the limit.
* `Budgeted`: after every run, whatever is handed out of a preview is what the preview
  was made with.
* `injected_text_fits_iff`: the text fits exactly if it is not longer than the text of
  the preview by more than the preview left.
-/

namespace TetiBot.Memory

open Library Library.JsString

variable {env : MemoryEnv} {approved : Set PreviewApprovalInput} {db left : Database}

/-! ### Sizes -/

/-- The bytes of the envelope around a text. -/
def envelopeSize (records : List StructuredMemoryContextRecord) : Nat :=
  utf8Size (formatStructuredMemoryRecords records [])

/-- **The envelope and the text add up**: a line break parts them. -/
lemma utf8Size_formatRecords (records : List StructuredMemoryContextRecord) (text : JsString) :
    utf8Size (formatStructuredMemoryRecords records text)
      = envelopeSize records + utf8Size text := by
  have hsplit : ∃ strings ≠ [], ∀ text, formatStructuredMemoryRecords records text
      = join (ofString "\n") (strings ++ [text]) :=
    ⟨[_, _, _, _, _], List.cons_ne_nil _ _, fun _ => rfl⟩
  obtain ⟨strings, hne, hformat⟩ := hsplit
  have hline : ∀ text, utf8Size (formatStructuredMemoryRecords records text)
      = utf8Size (join (ofString "\n") strings) + 1 + utf8Size text := by
    intro text
    rw [hformat, join_append_singleton _ hne, show ofString "\n" = [0x0A] from rfl,
      List.append_assoc, List.singleton_append, utf8Size_append (by simp; decide),
      utf8Size_cons_of_not_high (by decide), show unitSize 0x0A = 1 from rfl]
    omega
  rw [envelopeSize, hline, hline]
  simp [utf8Size]

variable {records : List StructuredMemoryContextRecord}

lemma contextInputBytes_of_ne_nil (h : records ≠ []) (text : JsString) :
    structuredMemoryContextInputBytes records text = envelopeSize records + utf8Size text := by
  rw [structuredMemoryContextInputBytes, if_neg h, utf8Size_formatRecords]

/-! ### What a preview selects -/

/-- A candidate shows an item, of which a record is injected. -/
structure Shows (items : List ItemRow) (candidate : PreviewCandidateRow)
    (record : StructuredMemoryContextRecord) : Prop where
  item : ∃ item ∈ items, item.toRecord = record ∧ candidate.memoryId = item.memoryId
    ∧ candidate.version = item.currentVersion

/-- The rows of the included candidates. -/
def Selection.included (selection : Selection) : List PreviewCandidateRow :=
  (selection.candidates.map StructuredMemoryPreviewCandidate.toRow).filter
    PreviewCandidateRow.included

/-- One pass includes nothing, or the candidate, which then fits. -/
lemma selectCandidate_included (excluded : List String) (queryText : JsString)
    (selection : Selection) (candidate : RankedItem) :
    (selectCandidate excluded queryText selection candidate).included = selection.included
        ∧ (selectCandidate excluded queryText selection candidate).records = selection.records
      ∨ withinBudget queryText selection candidate = true ∧ ∃ row : PreviewCandidateRow,
        row.memoryId = candidate.row.memoryId ∧ row.version = candidate.row.currentVersion
        ∧ row.rank = some (selection.records.length + 1)
        ∧ (selectCandidate excluded queryText selection candidate).included
          = selection.included ++ [row]
        ∧ (selectCandidate excluded queryText selection candidate).records
          = selection.records ++ [candidate.row.toRecord] := by
  unfold selectCandidate
  split_ifs with hfull
  · exact .inl ⟨rfl, rfl⟩
  · cases hincluded : decide (candidate.row.memoryId ∉ excluded)
        && withinBudget queryText selection candidate with
    | false =>
      refine .inl ⟨?_, by simp⟩
      simp [Selection.included, StructuredMemoryPreviewCandidate.toRow]
    | true =>
      refine .inr ⟨(Bool.and_eq_true_iff.mp hincluded).2,
        StructuredMemoryPreviewCandidate.toRow { candidate.row.toSummary with
          included := true
          rank := some (selection.records.length + 1)
          score := candidate.score
          reasons := candidate.reasons
          contentBytes := candidate.contentBytes }, rfl, rfl, rfl, ?_, by simp⟩
      simp [Selection.included, StructuredMemoryPreviewCandidate.toRow]

/-- What the selection of a preview keeps at every step: the included candidates are in
the order of their ranks, their records are those of the selection, and these fit with
the text. -/
structure Selected (items : List ItemRow) (queryText : JsString) (selection : Selection) :
    Prop where
  shows : List.Forall₂ (Shows items) selection.included selection.records
  ordered : selection.included.Pairwise fun left right => left.rank.getD 0 ≤ right.rank.getD 0
  ranked : ∀ row ∈ selection.included, row.rank.getD 0 ≤ selection.records.length
  fits : selection.records ≠ [] →
    structuredMemoryContextInputBytes selection.records queryText ≤ MAX_TASK_INPUT_TEXT_BYTES

variable {items : List ItemRow}

lemma Selected.step {excluded : List String} {queryText : JsString} {selection : Selection}
    (h : Selected items queryText selection) {candidate : RankedItem}
    (hcandidate : candidate.row ∈ items) :
    Selected items queryText (selectCandidate excluded queryText selection candidate) := by
  rcases selectCandidate_included excluded queryText selection candidate with
    ⟨hincluded, hrecords⟩ | ⟨hfits, row, hid, hversion, hrank, hincluded, hrecords⟩
  · exact ⟨hincluded ▸ hrecords ▸ h.shows, hincluded ▸ h.ordered, hincluded ▸ hrecords ▸ h.ranked,
      hrecords ▸ h.fits⟩
  · have hshows : Shows items row candidate.row.toRecord :=
      ⟨candidate.row, hcandidate, rfl, hid, hversion⟩
    constructor
    · rw [hincluded, hrecords]
      exact List.rel_append h.shows (.cons hshows .nil)
    · rw [hincluded, List.pairwise_append]
      refine ⟨h.ordered, List.pairwise_singleton _ _, fun other hother last hlast => ?_⟩
      obtain rfl := List.mem_singleton.mp hlast
      have := h.ranked other hother
      rw [hrank, Option.getD_some]
      omega
    · rw [hincluded, hrecords]
      intro other hother
      rw [List.length_append, List.length_singleton]
      rcases List.mem_append.mp hother with hold | hlast
      · have := h.ranked other hold
        omega
      · obtain rfl := List.mem_singleton.mp hlast
        rw [hrank, Option.getD_some]
    · intro _
      rw [hrecords]
      simp only [withinBudget, Bool.and_eq_true, decide_eq_true_eq] at hfits
      exact hfits.2

/-- **What a preview selects fits with its text.** -/
lemma selectCandidates_selected (db : Database) (input : StructuredMemoryPreviewInput) :
    Selected db.items input.queryText (selectCandidates env db input) := by
  have hitems : ∀ ranked ∈ rankedItems env db input, ranked.row ∈ db.items := by
    intro ranked hranked
    rw [rankedItems, List.mem_insertionSort, List.mem_map] at hranked
    obtain ⟨item, hitem, rfl⟩ := hranked
    exact (mem_eligibleItems.mp hitem).known
  have hstart : Selected db.items input.queryText ⟨[], [], 0⟩ :=
    ⟨.nil, .nil, fun row hrow => absurd hrow List.not_mem_nil, fun h => absurd rfl h⟩
  unfold selectCandidates
  generalize rankedItems env db input = ranked at hitems
  generalize (⟨[], [], 0⟩ : Selection) = start at hstart ⊢
  induction ranked generalizing start with
  | nil => exact hstart
  | cons first rest ih =>
    exact ih (fun other hother => hitems other (List.mem_cons_of_mem _ hother)) _
      (hstart.step (hitems first List.mem_cons_self))

/-- The candidates that a preview would inject are in the order in which they were
selected. -/
lemma previewRow_selected (db : Database) (input : StructuredMemoryPreviewInput)
    (previewId : String) :
    (previewRow env db input previewId).selected = (selectCandidates env db input).included :=
  (selectCandidates_selected db input).ordered.insertionSort_eq

/-! ### What the records of a preview become -/

variable (env) in
/-- A candidate remembers the record of its item: the item has the version of the
candidate only as long as it has the record, and it is gone for good. -/
structure Remembers (db : Database) (candidate : PreviewCandidateRow)
    (record : StructuredMemoryContextRecord) : Prop where
  unchanged : ∀ item ∈ db.items, item.memoryId = candidate.memoryId →
    candidate.version ≤ item.currentVersion
      ∧ (item.currentVersion = candidate.version → item.toRecord = record)
  kept : (∃ item ∈ db.items, item.memoryId = candidate.memoryId)
    ∨ ∃ source ∈ db.stages, candidate.memoryId = itemMemoryId env source.memoryId
      ∧ db.sourceDeleted source.memoryId = true

variable {candidate : PreviewCandidateRow} {record : StructuredMemoryContextRecord}

lemma ItemsCoherent.remembers (h : ItemsCoherent env db) (hshows : Shows db.items candidate record) :
    Remembers env db candidate record := by
  obtain ⟨item, hitem, rfl, hid, hversion⟩ := hshows.item
  refine ⟨fun other hother hsame => ?_, .inl ⟨item, hitem, hid.symm⟩⟩
  obtain rfl : other = item :=
    List.inj_on_of_nodup_map h.itemIds hother hitem (hsame.trans hid)
  exact ⟨hversion.le, fun _ => rfl⟩

/-- Where an item was once, there is one, or its source is deleted. -/
lemma Remembers.kept_step (h : Remembers env db candidate record) (hitems : ItemsCoherent env db)
    (hchange : Change env approved db left) :
    (∃ item ∈ left.items, item.memoryId = candidate.memoryId)
      ∨ ∃ source ∈ left.stages, candidate.memoryId = itemMemoryId env source.memoryId
        ∧ left.sourceDeleted source.memoryId = true := by
  have hdeleted : (∃ source ∈ db.stages, candidate.memoryId = itemMemoryId env source.memoryId
      ∧ left.sourceDeleted source.memoryId = true) →
      ∃ source ∈ left.stages, candidate.memoryId = itemMemoryId env source.memoryId
        ∧ left.sourceDeleted source.memoryId = true := by
    rintro ⟨source, hsource, hid, hdel⟩
    obtain ⟨kept, hkept, hsame⟩ := hchange.keeps_stages source hsource
    have hsame : kept.memoryId = source.memoryId := (congrArg StageRow.memoryId hsame :)
    exact ⟨kept, hkept, hsame ▸ hid, hsame ▸ hdel⟩
  rcases h.kept with ⟨item, hitem, hid⟩ | ⟨source, hsource, hid, hdel⟩
  · obtain ⟨source, hsource, hmade⟩ := hitems.madeFrom item hitem
    rcases hchange.keeps_item hitems (.inl ⟨item, hitem, rfl, rfl⟩) with
      ⟨kept, hkept, hkeptid, -⟩ | hdel
    · exact .inl ⟨kept, hkept, hkeptid.trans hid⟩
    · exact .inr (hdeleted ⟨source, hsource, hid.symm.trans hmade.memoryId,
        hmade.sourceMemoryId ▸ hdel⟩)
  · exact .inr (hdeleted ⟨source, hsource, hid, hchange.keeps_deleted hdel⟩)

/-- **A candidate remembers its record** whatever changes. -/
lemma Remembers.step (h : Remembers env db candidate record) (hitems : ItemsCoherent env db)
    (hids : CollisionFree env left) (hchange : Change env approved db left) :
    Remembers env left candidate record := by
  refine ⟨?_, h.kept_step hitems hchange⟩
  cases hchange with
  | itemConfirmed source input new =>
    intro item hitem hid
    rcases List.mem_append.mp hitem with hold | hnew
    · exact h.unchanged item hold hid
    · -- There is no item with the id of the candidate, nor may one be made again.
      obtain rfl := List.mem_singleton.mp hnew
      change itemMemoryId env source.memoryId = candidate.memoryId at hid
      rcases h.kept with ⟨known, hknown, hsame⟩ | ⟨other, hother, hsame, hdeleted⟩
      · exact absurd (hsame.trans hid.symm) (new.fresh known hknown)
      · rw [hids other hother source new.known (hsame.symm.trans hid.symm), new.undeleted]
          at hdeleted
        cases hdeleted
  | itemEdited item input known workspace settled =>
    intro other hother hid
    rcases mem_setItem hother with rfl | ⟨hold, -⟩
    · have hversion := (h.unchanged item known hid).1
      have hnext : (editedRow env item input).currentVersion = item.currentVersion + 1 := rfl
      exact ⟨by omega, fun hsame => by omega⟩
    · exact h.unchanged other hold hid
  | itemRemoved item deletedAt reasonCode known settled =>
    exact fun other hother => h.unchanged other (List.mem_of_mem_filter hother)
  | _ => exact h.unchanged

/-! ### The budget of previews -/

variable (env) in
/-- The records of the candidates of a preview, as they were when it was made for a text,
fit with the text. -/
structure Budgeted (db : Database) (preview : PreviewRow) (queryText : JsString)
    (records : List StructuredMemoryContextRecord) : Prop where
  queryDigest : preview.queryDigest = digest env.sha256 queryText
  remembers : List.Forall₂ (Remembers env db) preview.selected records
  fits : records ≠ [] →
    structuredMemoryContextInputBytes records queryText ≤ MAX_TASK_INPUT_TEXT_BYTES

variable (env) in
def PreviewsBudgeted (db : Database) : Prop :=
  ∀ preview ∈ db.previews, ∃ queryText records, Budgeted env db preview queryText records

lemma Budgeted.of_body {preview other : PreviewRow} {queryText : JsString}
    (h : Budgeted env db preview queryText records) (hsame : preview.body = other.body) :
    Budgeted env db other queryText records := by
  have hdigest : preview.queryDigest = other.queryDigest :=
    (congrArg PreviewRow.queryDigest hsame :)
  have hcandidates : preview.candidates = other.candidates :=
    (congrArg PreviewRow.candidates hsame :)
  have hselected : preview.selected = other.selected := by
    rw [PreviewRow.selected, PreviewRow.includedCandidates, hcandidates]
    rfl
  exact ⟨hdigest ▸ h.queryDigest, hselected ▸ h.remembers, h.fits⟩

/-- **A new preview is within its budget.** -/
lemma previewRow_budgeted (hitems : ItemsCoherent env db) (input : StructuredMemoryPreviewInput)
    (previewId : String) :
    Budgeted env db (previewRow env db input previewId) input.queryText
      (selectCandidates env db input).records := by
  have hselected : Selected db.items input.queryText (selectCandidates env db input) :=
    selectCandidates_selected db input
  refine ⟨rfl, ?_, hselected.fits⟩
  rw [previewRow_selected]
  exact hselected.shows.imp fun _ _ => hitems.remembers

/-- **A change keeps the previews, or adds a new one.** -/
lemma Change.previews (h : Change env approved db left) :
    KeepsBodies db left ∨ ∃ input previewId,
      left = { db with previews := db.previews ++ [previewRow env db input previewId] } := by
  cases h with
  | previewsForgotten keep unconsumed => exact .inl (keepsBodies_filter db keep)
  | previewsInvalidated at_ select => exact .inl (keepsBodies_invalidate db at_ select)
  | previewStored input previewId fresh => exact .inr ⟨input, previewId, rfl⟩
  | previewApproved => exact .inl (keepsBodies_map rfl rfl fun known => by split_ifs <;> rfl)
  | previewConsumed => exact .inl (keepsBodies_map rfl rfl fun known => by split_ifs <;> rfl)
  | _ => exact .inl (KeepsBodies.refl _)

/-- **Every change keeps previews within their budgets.** -/
lemma PreviewsBudgeted.step (h : PreviewsBudgeted env db) (hitems : ItemsCoherent env db)
    (hids : CollisionFree env left) (hchange : Change env approved db left) :
    PreviewsBudgeted env left := by
  have hkept : ∀ preview, (∃ queryText records, Budgeted env db preview queryText records) →
      ∃ queryText records, Budgeted env left preview queryText records := by
    rintro preview ⟨queryText, records, hold⟩
    exact ⟨queryText, records, hold.queryDigest, hold.remembers.imp fun _ _ hremembers =>
      hremembers.step hitems hids hchange, hold.fits⟩
  intro preview hpreview
  refine hkept preview ?_
  rcases hchange.previews with hbodies | ⟨input, previewId, rfl⟩
  · obtain ⟨old, hold, hsame⟩ := hbodies preview hpreview
    obtain ⟨queryText, records, hbudgeted⟩ := h old hold
    exact ⟨queryText, records, hbudgeted.of_body hsame⟩
  · rcases List.mem_append.mp hpreview with hold | hnew
    · exact h preview hold
    · obtain rfl := List.mem_singleton.mp hnew
      exact ⟨_, _, previewRow_budgeted hitems input previewId⟩

/-- **Every run keeps previews within their budgets.** -/
lemma run_previewsBudgeted (featureEnabledAt : TimeText) (operations : List Operation)
    (hids : CollisionFree env (run env featureEnabledAt operations)) :
    PreviewsBudgeted env (run env featureEnabledAt operations) := by
  have hrun : Changes env (approvals operations) (.created featureEnabledAt) _ :=
    run_reached featureEnabledAt operations
  refine hrun.invariant (I := fun db => CollisionFree env db → PreviewsBudgeted env db)
    (fun _ preview hpreview => absurd hpreview List.not_mem_nil) (fun db left hbefore h hchange hids => ?_) hids
  have hitems : ItemsCoherent env db := ((coherent_created featureEnabledAt).changes hbefore).items
  exact (h (hids.before (Changes.one hchange))).step hitems hids hchange

/-! ### The text that is handed out -/

/-- The records of the items that a preview would inject. -/
def PreviewRow.recordsIn (preview : PreviewRow) (db : Database) :
    List StructuredMemoryContextRecord :=
  preview.selected.filterMap fun candidate => (db.item? candidate.memoryId).map ItemRow.toRecord

lemma records_of_found {candidates : List PreviewCandidateRow}
    (h : List.Forall₂ (fun candidate item => db.item? candidate.memoryId = some item)
      candidates items) :
    items.map ItemRow.toRecord
      = candidates.filterMap fun candidate => (db.item? candidate.memoryId).map ItemRow.toRecord := by
  induction h with
  | nil => rfl
  | cons hfound _ ih => rw [List.map_cons, ih, List.filterMap_cons, hfound]; rfl

/-- Candidates that are current have the records that they remember. -/
lemma records_remembered {candidates : List PreviewCandidateRow} {at_ : TimeText}
    (hfound : List.Forall₂ (fun candidate item => db.item? candidate.memoryId = some item)
      candidates items) (hremembers : List.Forall₂ (Remembers env db) candidates records)
    (hcurrent : ∀ candidate ∈ candidates,
      ∃ item, db.item? candidate.memoryId = some item ∧ Unchanged env item candidate at_) :
    items.map ItemRow.toRecord = records := by
  induction hfound generalizing records with
  | nil =>
    cases hremembers
    rfl
  | @cons candidate item _ _ hfirst _ ih =>
    cases hremembers with
    | cons hremember hrest =>
      rw [List.map_cons, ih hrest fun other hother => hcurrent other (by simp [hother])]
      obtain ⟨found, hfound, hunchanged⟩ := hcurrent candidate List.mem_cons_self
      obtain rfl : found = item := Option.some.inj (hfound.symm.trans hfirst)
      obtain ⟨hknown, hid⟩ := item?_eq_some hfirst
      rw [(hremember.unchanged found hknown hid).2 hunchanged.version]

/-- What the service asks for when a stage with an instruction begins. -/
def stageExecutionInput (stageInstruction : JsString) (identity : ContextIdentity)
    (executionId : String) (generatedAt : TimeText) : StructuredMemoryExecutionInput :=
  { identity with
    executionId := executionId
    queryText := boundMemoryShadowQueryText stageInstruction
    generatedAt := generatedAt }

variable (env) in
/-- The owner approved a preview for an execution, and it was made for a text. -/
structure ApprovedFor (db : Database) (preview : PreviewRow)
    (input : StructuredMemoryExecutionInput) (queryText : JsString) : Prop where
  known : preview ∈ db.previews
  approved : preview.approvedAt ≠ none
  serves : Serves preview input.toContextIdentity
  queryDigest : digest env.sha256 queryText = digest env.sha256 input.queryText
  fits : structuredMemoryContextInputBytes (preview.recordsIn db) queryText
    ≤ MAX_TASK_INPUT_TEXT_BYTES

/-- **What an execution is handed fits with the text of its preview.** -/
lemma PreviewsBudgeted.handedOut (h : PreviewsBudgeted env db)
    {input : StructuredMemoryExecutionInput} {selection : StructuredMemoryExecutionSelection}
    {preview : PreviewRow} (hout : HandedOut env db input selection preview items)
    (hsome : selection.records ≠ []) :
    ∃ queryText, ApprovedFor env db preview input queryText
      ∧ selection.records = preview.recordsIn db := by
  obtain ⟨queryText, records, hbudgeted⟩ := h preview hout.known
  have hrecords : selection.records = records := hout.records.trans
    (records_remembered hout.found hbudgeted.remembers fun candidate hcandidate =>
      hout.current.candidates candidate (mem_selected.mp hcandidate))
  have hin : selection.records = preview.recordsIn db :=
    hout.records.trans (records_of_found hout.found)
  refine ⟨queryText, ⟨hout.known, hout.approved, hout.serves,
    hbudgeted.queryDigest.symm.trans hout.queryDigest, ?_⟩, hin⟩
  rw [← hin, hrecords]
  exact hbudgeted.fits (hrecords ▸ hsome)

/-- What a preview leaves of the limit, beside its records and the text it was made for. -/
def PreviewRow.room (preview : PreviewRow) (db : Database) (queryText : JsString) : Nat :=
  MAX_TASK_INPUT_TEXT_BYTES
    - structuredMemoryContextInputBytes (preview.recordsIn db) queryText

/-- A valid request stays valid with another text exactly if that is not blank and fits. -/
lemma validate_text_iff {isSafeAbsoluteLocalPath : String → Bool}
    {request : CallableAdapterTaskRequest} {connector : HostConnector} {text : JsString}
    (h : validateCallableAdapterTaskRequest isSafeAbsoluteLocalPath request connector = .ok ()) :
    validateCallableAdapterTaskRequest isSafeAbsoluteLocalPath { request with text := text }
        connector = .ok ()
      ↔ isBlank text = false ∧ utf8Size text ≤ MAX_TASK_INPUT_TEXT_BYTES := by
  simp only [validateCallableAdapterTaskRequest, failIf_then_eq_ok] at h ⊢
  obtain ⟨hid, htarget, hcapability, -, -, hrest⟩ := h
  constructor
  · rintro ⟨-, -, -, hblank, hsize, -⟩
    exact ⟨Bool.eq_false_iff.mpr hblank, not_lt.mp hsize⟩
  · rintro ⟨hblank, hsize⟩
    exact ⟨hid, htarget, hcapability, Bool.eq_false_iff.mp hblank, not_lt.mpr hsize, hrest⟩

lemma isBlank_formatRecords (records : List StructuredMemoryContextRecord) (text : JsString) :
    isBlank (formatStructuredMemoryRecords records text) = false :=
  isBlank_of_head (u := 0x5B) rfl (by decide)

/-- The instruction of a stage is not longer than the text of a preview by more than the
preview left. -/
def LeavesRoom (db : Database) (preview : PreviewRow) (queryText stageInstruction : JsString) :
    Prop :=
  utf8Size stageInstruction ≤ utf8Size queryText + preview.room db queryText

lemma utf8Size_boundedStageInstruction_le (record : TaskRecord) (instruction : JsString)
    (stageIndex : Nat) :
    utf8Size (boundedStageInstruction record instruction stageIndex)
      ≤ MAX_TASK_INPUT_TEXT_BYTES := by
  unfold boundedStageInstruction
  split_ifs
  · exact utf8Size_truncateUtf8_le _ _
  · exact utf8Size_truncateUtf8_le _ _

/-- The size of the records with an instruction, against what the preview left. -/
lemma ApprovedFor.fits_iff {preview : PreviewRow} {input : StructuredMemoryExecutionInput}
    {queryText : JsString} (h : ApprovedFor env db preview input queryText)
    (hsome : preview.recordsIn db ≠ []) (stageInstruction : JsString) :
    utf8Size (formatStructuredMemoryRecords (preview.recordsIn db) stageInstruction)
        ≤ MAX_TASK_INPUT_TEXT_BYTES
      ↔ LeavesRoom db preview queryText stageInstruction := by
  have hfits := h.fits
  rw [LeavesRoom, PreviewRow.room]
  rw [contextInputBytes_of_ne_nil hsome] at hfits ⊢
  rw [utf8Size_formatRecords]
  omega

/-- **The text that is handed out fits** exactly if no memory is handed out, or the
instruction is not longer than the text of the approved preview by more than the preview
left; and exactly then does a connector take it that takes the instruction. -/
theorem injected_text_fits_iff (env : MemoryEnv) (featureEnabledAt : TimeText)
    (operations : List Operation) (hids : CollisionFree env (run env featureEnabledAt operations))
    (record : TaskRecord) (instruction : JsString) (stageIndex : Nat) (stageInstruction : JsString)
    (hinstruction : stageInstruction = boundedStageInstruction record instruction stageIndex)
    (identity : ContextIdentity) (executionId : String) (generatedAt : TimeText)
    (selection : StructuredMemoryExecutionSelection) (left : Database)
    (hhands : Hands env (run env featureEnabledAt operations)
      (stageExecutionInput stageInstruction identity executionId generatedAt) selection left) :
    (selection.records = []
        ∧ formatStructuredMemoryContextInput selection stageInstruction = stageInstruction
        ∧ utf8Size stageInstruction ≤ MAX_TASK_INPUT_TEXT_BYTES)
      ∨ ∃ preview queryText,
        ApprovedFor env (run env featureEnabledAt operations) preview
            (stageExecutionInput stageInstruction identity executionId generatedAt) queryText
          ∧ selection.records = preview.recordsIn (run env featureEnabledAt operations)
          ∧ (utf8Size (formatStructuredMemoryContextInput selection stageInstruction)
              ≤ MAX_TASK_INPUT_TEXT_BYTES
            ↔ LeavesRoom (run env featureEnabledAt operations) preview queryText
              stageInstruction)
          ∧ ∀ isSafeAbsoluteLocalPath request connector, request.text = stageInstruction →
            validateCallableAdapterTaskRequest isSafeAbsoluteLocalPath request connector
              = .ok () →
            (validateCallableAdapterTaskRequest isSafeAbsoluteLocalPath
                { request with
                  text := formatStructuredMemoryContextInput selection stageInstruction }
                connector = .ok ()
              ↔ LeavesRoom (run env featureEnabledAt operations) preview queryText
                stageInstruction) := by
  have hbudgeted := run_previewsBudgeted featureEnabledAt operations hids
  have hdb : Coherent env (approvals operations) (run env featureEnabledAt operations) :=
    run_coherent featureEnabledAt operations
  have hsize : utf8Size stageInstruction ≤ MAX_TASK_INPUT_TEXT_BYTES :=
    hinstruction ▸ utf8Size_boundedStageInstruction_le record instruction stageIndex
  generalize run env featureEnabledAt operations = db at hhands hbudgeted hdb ⊢
  by_cases hnone : selection.records = []
  · refine .inl ⟨hnone, ?_, hsize⟩
    rw [formatStructuredMemoryContextInput, if_pos (.inr hnone)]
  · rcases hdb.handedOut hhands.outcome with rfl | ⟨preview, items, hout⟩
    · exact absurd rfl hnone
    · obtain ⟨queryText, happroved, hrecords⟩ := hbudgeted.handedOut hout hnone
      obtain ⟨manifest, hmanifest, -⟩ := hout.manifest
      have hformat : formatStructuredMemoryContextInput selection stageInstruction
          = formatStructuredMemoryRecords (preview.recordsIn db) stageInstruction := by
        rw [formatStructuredMemoryContextInput, if_neg (by simp [hmanifest, hnone]), hrecords]
      have hfits := happroved.fits_iff (hrecords ▸ hnone) stageInstruction
      refine .inr ⟨preview, queryText, happroved, hrecords, ?_, ?_⟩
      · rw [hformat, hfits]
      · intro isSafeAbsoluteLocalPath request connector _ hvalid
        rw [hformat, validate_text_iff hvalid, isBlank_formatRecords, hfits]
        exact and_iff_right rfl

/-! ### A long instruction -/

/-- A task of which only the first stage was asked for. -/
def exampleTaskRecord : TaskRecord :=
  { sampleTaskRecord with
    peerTetiId := "alice"
    request := { sampleTaskRequest with
      taskId := "t"
      requesterTetiId := "alice"
      input := .parts [.text (ofString "x")]
      executionMode := some .longHorizon } }

/-- One word, and blanks up to the limit. -/
def longInstruction : JsString := 0x78 :: List.replicate 24575 0x20

lemma utf8Size_longInstruction : utf8Size longInstruction = MAX_TASK_INPUT_TEXT_BYTES := by
  have hascii : ∀ u ∈ longInstruction, u < 0x80 := by
    intro u hu
    rcases List.mem_cons.mp hu with rfl | hblank
    · decide
    · obtain rfl := List.eq_of_mem_replicate hblank
      decide
  rw [utf8Size_ascii hascii, longInstruction, List.length_cons, List.length_replicate]
  rfl

lemma boundMemoryShadowQueryText_longInstruction :
    boundMemoryShadowQueryText longInstruction = ofString "x" := by
  have htrim : trim longInstruction = [0x78] := by
    have hreverse : longInstruction.reverse = List.replicate 24575 0x20 ++ [0x78] := by
      rw [longInstruction, List.reverse_cons, List.reverse_replicate]
    rw [trim, show longInstruction.dropWhile isSpace = longInstruction from
      List.dropWhile_cons_of_neg (by decide), hreverse,
      List.dropWhile_append_of_pos (fun u hu => List.eq_of_mem_replicate hu ▸ by decide)]
    rfl
  rw [boundMemoryShadowQueryText, htrim]
  decide

lemma boundedStageInstruction_longInstruction :
    boundedStageInstruction exampleTaskRecord longInstruction 1 = longInstruction := by
  rw [boundedStageInstruction, if_pos rfl, truncateUtf8, if_pos utf8Size_longInstruction.le]

lemma envelopeSize_pos (records : List StructuredMemoryContextRecord) :
    0 < envelopeSize records := by
  obtain ⟨rest, hrest⟩ : ∃ rest, formatStructuredMemoryRecords records [] = 0x5B :: rest :=
    ⟨_, rfl⟩
  rw [envelopeSize, hrest, utf8Size_cons_of_not_high (by decide),
    show unitSize 0x5B = 1 from rfl]
  omega

/-- The memory that was approved for one word goes before an instruction that is as long
as a task's text may be, and a connector that takes the instruction rejects the two. -/
theorem long_instruction_does_not_fit : ∃ selection left,
    Hands plainMemoryEnv (run plainMemoryEnv (exampleTime 0) exampleApproval)
        (stageExecutionInput (boundedStageInstruction exampleTaskRecord longInstruction 1)
          (exampleContext "t" "alice").toContextIdentity "execution" (exampleTime 6)) selection left
      ∧ MAX_TASK_INPUT_TEXT_BYTES < utf8Size (formatStructuredMemoryContextInput selection
        (boundedStageInstruction exampleTaskRecord longInstruction 1))
      ∧ ∀ isSafeAbsoluteLocalPath request connector,
        validateCallableAdapterTaskRequest isSafeAbsoluteLocalPath request connector = .ok () →
        validateCallableAdapterTaskRequest isSafeAbsoluteLocalPath
          { request with
            text := formatStructuredMemoryContextInput selection
              (boundedStageInstruction exampleTaskRecord longInstruction 1) }
          connector ≠ .ok () := by
  obtain ⟨selection, left, hhands, hsome⟩ := exampleApproval_hands
  have hinput : stageExecutionInput longInstruction
      (exampleContext "t" "alice").toContextIdentity "execution" (exampleTime 6)
        = exampleContext "t" "alice" := by
    rw [stageExecutionInput, boundMemoryShadowQueryText_longInstruction]
    rfl
  have hmanifest : selection.manifest ≠ none := by
    rcases (run_coherent (exampleTime 0) exampleApproval).handedOut hhands.outcome with
      rfl | ⟨preview, items, hout⟩
    · exact absurd rfl hsome
    · obtain ⟨manifest, hmanifest, -⟩ := hout.manifest
      simp [hmanifest]
  have hlong : MAX_TASK_INPUT_TEXT_BYTES
      < utf8Size (formatStructuredMemoryContextInput selection longInstruction) := by
    have hpos := envelopeSize_pos selection.records
    rw [formatStructuredMemoryContextInput, if_neg (by simp [hmanifest, hsome]),
      utf8Size_formatRecords, utf8Size_longInstruction]
    omega
  rw [boundedStageInstruction_longInstruction, hinput]
  exact ⟨selection, left, hhands, hlong, fun _ _ _ hvalid hrejected =>
    absurd ((validate_text_iff hvalid).mp hrejected).2 (not_le.mpr hlong)⟩

/-- The word itself, after which the memory fits. -/
theorem injected_text_fits_iff_example : ∃ selection left preview queryText,
    Hands plainMemoryEnv (run plainMemoryEnv (exampleTime 0) exampleApproval)
        (exampleContext "t" "alice") selection left
      ∧ selection.records ≠ []
      ∧ (utf8Size (formatStructuredMemoryContextInput selection (ofString "x"))
          ≤ MAX_TASK_INPUT_TEXT_BYTES
        ↔ LeavesRoom (run plainMemoryEnv (exampleTime 0) exampleApproval) preview queryText
          (ofString "x")) := by
  obtain ⟨selection, left, hhands, hsome⟩ := exampleApproval_hands
  have hinput : stageExecutionInput (ofString "x")
      (exampleContext "t" "alice").toContextIdentity "execution" (exampleTime 6)
        = exampleContext "t" "alice" := by decide +kernel
  have hids : CollisionFree plainMemoryEnv
      (run plainMemoryEnv (exampleTime 0) exampleApproval) := by decide +kernel
  rcases injected_text_fits_iff plainMemoryEnv (exampleTime 0) exampleApproval hids
    exampleTaskRecord (ofString "x") 1 (ofString "x") (by decide +kernel)
    (exampleContext "t" "alice").toContextIdentity "execution" (exampleTime 6) selection left
    (hinput ▸ hhands) with ⟨hnone, -⟩ | ⟨preview, queryText, -, -, hfits, -⟩
  · exact absurd hnone hsome
  · exact ⟨selection, left, preview, queryText, hhands, hsome, hfits⟩

end TetiBot.Memory

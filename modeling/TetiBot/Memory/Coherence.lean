import TetiBot.Library.Focus
import TetiBot.Memory.Changes

/-
What holds of the memory database after every run.

* `ItemsCoherent`: every item is made from a stage memory that was never deleted; a
  stage memory that was deleted is empty.
* `PreviewsCoherent`: the candidates of a preview lay in a scope that was open when it
  was made; of the previews of a task and a child at most one is approved and not
  consumed; a manifest belongs to an approved preview that it consumed.
* `ApprovedBy`: what is approved, the owner approved.
-/

namespace TetiBot.Memory

open Library Library.JsString

variable (env : MemoryEnv)

/-! ### Items and their sources -/

/-- An item is made from a stage memory. -/
structure MadeFrom (item : ItemRow) (source : StageRow) : Prop where
  memoryId : item.memoryId = itemMemoryId env source.memoryId
  sourceMemoryId : item.sourceMemoryId = source.memoryId
  taskId : item.sourceTaskId = source.taskId
  peerTetiId : item.peerTetiId = source.peerTetiId
  workspaceId : item.workspaceId = source.workspaceId
  childAgentId : item.childAgentId = source.childAgentId

structure ItemsCoherent (db : Database) : Prop where
  stageIds : (db.stages.map StageRow.memoryId).Nodup
  itemIds : (db.items.map ItemRow.memoryId).Nodup
  madeFrom : ∀ item ∈ db.items, ∃ source ∈ db.stages, MadeFrom env item source
  undeleted : ∀ item ∈ db.items, db.sourceDeleted item.sourceMemoryId = false
  deletions : ∀ row ∈ db.deletions, ∃ source ∈ db.stages, source.memoryId = row.sourceMemoryId
  emptied : ∀ row ∈ db.stages, db.sourceDeleted row.memoryId = true → row.content = []

variable {env} {approved : Set PreviewApprovalInput} {db left : Database}

lemma sourceDeleted_iff {sourceMemoryId : String} :
    db.sourceDeleted sourceMemoryId = true
      ↔ ∃ row ∈ db.deletions, row.sourceMemoryId = sourceMemoryId := by
  simp [Database.sourceDeleted]

/-- The identity of a stage memory: all but its content. -/
def StageRow.identity (row : StageRow) : StageRow := { row with content := [], contentDigest := "" }

variable {item : ItemRow} {source : StageRow}

/-- Only the identity of a stage memory matters to what is made from it. -/
lemma MadeFrom.of_identity {other : StageRow} (h : MadeFrom env item source)
    (hsame : other.identity = source.identity) : MadeFrom env item other := by
  simp only [StageRow.identity, StageRow.mk.injEq] at hsame
  obtain ⟨hid, htask, hpeer, hworkspace, -, -, -, -, hchild, -⟩ := hsame
  exact ⟨hid ▸ h.memoryId, hid ▸ h.sourceMemoryId, htask ▸ h.taskId, hpeer ▸ h.peerTetiId,
    hworkspace ▸ h.workspaceId, hchild ▸ h.childAgentId⟩

/-- **Stage memories are kept**, whatever happens to their content. -/
lemma Change.keeps_stages (h : Change env approved db left) :
    ∀ row ∈ db.stages, ∃ kept ∈ left.stages, kept.identity = row.identity := by
  intro row hrow
  cases h with
  | stageSaved => exact ⟨row, List.mem_append_left _ hrow, rfl⟩
  | itemRemoved item deletedAt reasonCode known settled =>
    refine ⟨_, List.mem_map_of_mem hrow, ?_⟩
    split_ifs <;> rfl
  | _ => exact ⟨row, hrow, rfl⟩

/-- Two items made from one stage memory are one item. -/
lemma ItemsCoherent.item_unique (h : ItemsCoherent env db) {other : ItemRow}
    (hitem : item ∈ db.items) (hother : other ∈ db.items)
    (hsame : item.sourceMemoryId = other.sourceMemoryId) : item = other := by
  obtain ⟨source, -, hmade⟩ := h.madeFrom item hitem
  obtain ⟨source', -, hmade'⟩ := h.madeFrom other hother
  refine List.inj_on_of_nodup_map h.itemIds hitem hother ?_
  rw [hmade.memoryId, hmade'.memoryId, ← hmade.sourceMemoryId, ← hmade'.sourceMemoryId, hsame]

lemma mem_setItem {known : ItemRow} (h : known ∈ (db.setItem item).items) :
    known = item ∨ known ∈ db.items ∧ known.memoryId ≠ item.memoryId := by
  obtain ⟨old, hold, rfl⟩ := List.mem_map.mp h
  split_ifs with hsame
  · exact .inl rfl
  · exact .inr ⟨hold, hsame⟩

lemma ItemsCoherent.stageSaved (h : ItemsCoherent env db) {row : StageRow} (new : NewStage db row) :
    ItemsCoherent env { db with stages := db.stages ++ [row] } := by
  refine { h with stageIds := ?_, madeFrom := ?_, deletions := ?_, emptied := ?_ }
  · rw [List.map_append, List.map_singleton, List.nodup_append]
    refine ⟨h.stageIds, List.nodup_singleton _, ?_⟩
    simpa using new.memoryId
  · intro item hitem
    obtain ⟨source, hsource, hmade⟩ := h.madeFrom item hitem
    exact ⟨source, List.mem_append_left _ hsource, hmade⟩
  · intro deletion hdeletion
    obtain ⟨source, hsource, hid⟩ := h.deletions deletion hdeletion
    exact ⟨source, List.mem_append_left _ hsource, hid⟩
  · intro other hother hdeleted
    rcases List.mem_append.mp hother with hold | hnew
    · exact h.emptied other hold hdeleted
    · -- What was deleted was a stage memory already, and the new one is none of them.
      obtain rfl := List.mem_singleton.mp hnew
      obtain ⟨deletion, hdeletion, hid⟩ := sourceDeleted_iff.mp hdeleted
      obtain ⟨source, hsource, hsourceid⟩ := h.deletions deletion hdeletion
      exact absurd (hsourceid.trans hid) (new.memoryId source hsource)

lemma ItemsCoherent.itemConfirmed (h : ItemsCoherent env db)
    {input : CreateStructuredMemoryItemInput} (new : NewItem env db source input.scope) :
    ItemsCoherent env { db with items := db.items ++ [itemRow env source input] } := by
  refine { h with itemIds := ?_, madeFrom := ?_, undeleted := ?_ }
  · rw [List.map_append, List.map_singleton, List.nodup_append]
    refine ⟨h.itemIds, List.nodup_singleton _, ?_⟩
    simpa [itemRow] using new.fresh
  · intro item hitem
    rcases List.mem_append.mp hitem with hold | hnew
    · exact h.madeFrom item hold
    · obtain rfl := List.mem_singleton.mp hnew
      exact ⟨source, new.known, ⟨rfl, rfl, rfl, rfl, rfl, rfl⟩⟩
  · intro item hitem
    rcases List.mem_append.mp hitem with hold | hnew
    · exact h.undeleted item hold
    · obtain rfl := List.mem_singleton.mp hnew
      exact new.undeleted

lemma ItemsCoherent.itemEdited (h : ItemsCoherent env db) (input : UpdateStructuredMemoryItemInput)
    (known : item ∈ db.items) : ItemsCoherent env (db.setItem (editedRow env item input)) := by
  refine { h with itemIds := ?_, madeFrom := ?_, undeleted := ?_ }
  · have hids : (db.setItem (editedRow env item input)).items.map ItemRow.memoryId
        = db.items.map ItemRow.memoryId := by
      rw [Database.setItem, List.map_map]
      refine List.map_congr_left fun other _ => ?_
      by_cases hsame : other.memoryId = (editedRow env item input).memoryId
      · simp [hsame]
      · simp [hsame]
    rw [hids]
    exact h.itemIds
  · intro other hother
    rcases mem_setItem hother with rfl | ⟨hold, -⟩
    · obtain ⟨source, hsource, hmade⟩ := h.madeFrom item known
      exact ⟨source, hsource, ⟨hmade.memoryId, hmade.sourceMemoryId, hmade.taskId,
        hmade.peerTetiId, hmade.workspaceId, hmade.childAgentId⟩⟩
    · exact h.madeFrom other hold
  · intro other hother
    rcases mem_setItem hother with rfl | ⟨hold, -⟩
    · exact h.undeleted item known
    · exact h.undeleted other hold

/-- What was deleted after an item was removed. -/
lemma sourceDeleted_removeItem {deletedAt : TimeText} {reasonCode : DeletionReason}
    {sourceMemoryId : String} :
    (db.removeItem env item deletedAt reasonCode).sourceDeleted sourceMemoryId = true
      ↔ db.sourceDeleted sourceMemoryId = true ∨ item.sourceMemoryId = sourceMemoryId := by
  simp only [sourceDeleted_iff, Database.removeItem, List.mem_append, List.mem_singleton]
  constructor
  · rintro ⟨row, hold | rfl, hsource⟩
    · exact .inl ⟨row, hold, hsource⟩
    · exact .inr hsource
  · rintro (⟨row, hold, hsource⟩ | hsource)
    · exact ⟨row, .inl hold, hsource⟩
    · exact ⟨_, .inr rfl, hsource⟩

lemma ItemsCoherent.itemRemoved (h : ItemsCoherent env db) {deletedAt : TimeText}
    {reasonCode : DeletionReason} (known : item ∈ db.items) :
    ItemsCoherent env (db.removeItem env item deletedAt reasonCode) := by
  have hmem : ∀ other ∈ (db.removeItem env item deletedAt reasonCode).items,
      other ∈ db.items ∧ other.memoryId ≠ item.memoryId := by
    intro other hother
    simpa [Database.removeItem] using hother
  have hstages : ∀ row ∈ db.stages,
      ∃ kept ∈ (db.removeItem env item deletedAt reasonCode).stages,
        kept.identity = row.identity := by
    intro row hrow
    refine ⟨_, List.mem_map_of_mem hrow, ?_⟩
    split_ifs <;> rfl
  constructor
  · have hids : (db.removeItem env item deletedAt reasonCode).stages.map StageRow.memoryId
        = db.stages.map StageRow.memoryId := by
      rw [Database.removeItem, List.map_map]
      refine List.map_congr_left fun row _ => ?_
      by_cases hsame : row.memoryId = item.sourceMemoryId
      · simp [hsame]
      · simp [hsame]
    rw [hids]
    exact h.stageIds
  · exact h.itemIds.sublist (List.filter_sublist.map _)
  · intro other hother
    obtain ⟨source, hsource, hmade⟩ := h.madeFrom other (hmem other hother).1
    obtain ⟨kept, hkept, hsame⟩ := hstages source hsource
    exact ⟨kept, hkept, hmade.of_identity hsame⟩
  · intro other hother
    obtain ⟨hold, hne⟩ := hmem other hother
    rw [← Bool.not_eq_true, sourceDeleted_removeItem]
    rintro (hdeleted | hsource)
    · simp [h.undeleted other hold] at hdeleted
    · exact hne (congrArg ItemRow.memoryId (h.item_unique known hold hsource)).symm
  · intro deletion hdeletion
    have hsource : ∃ source ∈ db.stages, source.memoryId = deletion.sourceMemoryId := by
      rcases List.mem_append.mp hdeletion with hold | hnew
      · exact h.deletions deletion hold
      · obtain rfl := List.mem_singleton.mp hnew
        obtain ⟨source, hsource, hmade⟩ := h.madeFrom item known
        exact ⟨source, hsource, hmade.sourceMemoryId.symm⟩
    obtain ⟨source, hsource, hid⟩ := hsource
    obtain ⟨kept, hkept, hsame⟩ := hstages source hsource
    exact ⟨kept, hkept, (congrArg StageRow.memoryId hsame).trans hid⟩
  · intro row hrow hdeleted
    obtain ⟨old, hold, rfl⟩ := List.mem_map.mp hrow
    split_ifs at hdeleted ⊢ with hsame
    · rfl
    · rcases sourceDeleted_removeItem.mp hdeleted with hbefore | hsource
      · exact h.emptied old hold hbefore
      · exact absurd hsource.symm hsame

/-- **Every change keeps the items coherent.** -/
theorem Change.itemsCoherent (h : ItemsCoherent env db) (hchange : Change env approved db left) :
    ItemsCoherent env left := by
  cases hchange with
  | stageSaved row filled new => exact h.stageSaved new
  | itemConfirmed source input new => exact h.itemConfirmed new
  | itemEdited item input known => exact h.itemEdited input known
  | itemRemoved item deletedAt reasonCode known => exact h.itemRemoved known
  | _ => exact { h with }

/-! ### Previews and manifests -/

/-- A stage memory lies in a scope of an identity. -/
def InScope (scope : StructuredMemoryScope) (source : StageRow) (identity : ContextIdentity) :
    Prop :=
  match scope with
  | .task => source.taskId = identity.taskId
  | .workspace => source.workspaceId.isSome = true ∧ source.workspaceId = identity.workspaceId
  | .peer => source.peerTetiId = identity.peerTetiId

variable (env) in
/-- What a preview knew of the source of a candidate. -/
structure Offered (preview : PreviewRow) (candidate : PreviewCandidateRow) (source : StageRow) :
    Prop where
  memoryId : candidate.memoryId = itemMemoryId env source.memoryId
  sourceTaskId : candidate.sourceTaskId = source.taskId
  childAgentId : source.childAgentId = preview.childAgentId
  inScope : InScope candidate.scope source preview.identity
  opened : candidate.scope ≠ .task → ∃ authorization ∈ preview.scopeAuthorizations,
    authorization.scope = candidate.scope
      ∧ authorization.requiresExplicitAuthorization = true ∧ authorization.enabled = true

/-- What a manifest and a preview both say of a candidate. -/
def InjectionCandidate.named (candidate : InjectionCandidate) : String × Nat × String :=
  (candidate.memoryId, candidate.version, candidate.itemDigest)

def PreviewCandidateRow.named (candidate : PreviewCandidateRow) : String × Nat × String :=
  (candidate.memoryId, candidate.version, candidate.itemDigest)

/-- A manifest belongs to a preview that was approved and is consumed. -/
structure Injected (manifest : InjectionManifest) (preview : PreviewRow) : Prop where
  previewId : preview.previewId = manifest.previewId
  taskId : preview.taskId = manifest.currentTaskId
  approved : preview.approvedAt ≠ none
  consumed : preview.consumedAt ≠ none
  candidates : manifest.candidates.map InjectionCandidate.named
    = preview.selected.map PreviewCandidateRow.named

/-- Approved, and not consumed yet. -/
def PreviewRow.waiting (preview : PreviewRow) : Prop :=
  preview.approvedAt ≠ none ∧ preview.consumedAt = none

variable (env) in
structure PreviewsCoherent (db : Database) : Prop where
  previewIds : (db.previews.map PreviewRow.previewId).Nodup
  offered : ∀ preview ∈ db.previews, ∀ candidate ∈ preview.candidates,
    ∃ source ∈ db.stages, Offered env preview candidate source
  approvedOnce : ∀ preview ∈ db.previews, ∀ other ∈ db.previews,
    preview.waiting → other.waiting → preview.taskId = other.taskId →
      preview.childAgentId = other.childAgentId → preview = other
  injectionPreviews : (db.injections.map InjectionManifest.previewId).Nodup
  injectionExecutions : (db.injections.map InjectionManifest.executionId).Nodup
  injected : ∀ manifest ∈ db.injections, ∃ preview ∈ db.previews, Injected manifest preview

/-- What never changes of a preview. -/
def PreviewRow.body (preview : PreviewRow) : PreviewRow :=
  { preview with approvedAt := none, consumedAt := none, invalidatedAt := none }

variable {preview : PreviewRow}

lemma Offered.of_body {other : PreviewRow} {candidate : PreviewCandidateRow}
    (h : Offered env preview candidate source) (hsame : other.body = preview.body) :
    Offered env other candidate source := by
  simp only [PreviewRow.body, PreviewRow.mk.injEq] at hsame
  obtain ⟨-, htask, hpeer, hworkspace, hchild, -, -, -, -, -, hauthorizations, -⟩ := hsame
  have hidentity : other.identity = preview.identity := by
    simp only [PreviewRow.identity, htask, hpeer, hworkspace, hchild]
  exact ⟨h.memoryId, h.sourceTaskId, hchild ▸ h.childAgentId, hidentity ▸ h.inScope,
    hauthorizations ▸ h.opened⟩

lemma InScope.of_identity {scope : StructuredMemoryScope} {other : StageRow}
    {identity : ContextIdentity} (h : InScope scope source identity)
    (hsame : other.identity = source.identity) : InScope scope other identity := by
  simp only [StageRow.identity, StageRow.mk.injEq] at hsame
  obtain ⟨-, htask, hpeer, hworkspace, -⟩ := hsame
  cases scope with
  | task => exact htask.trans h
  | workspace => exact ⟨hworkspace ▸ h.1, hworkspace.trans h.2⟩
  | peer => exact hpeer.trans h

lemma Offered.of_identity {candidate : PreviewCandidateRow} {other : StageRow}
    (h : Offered env preview candidate source) (hsame : other.identity = source.identity) :
    Offered env preview candidate other := by
  have hinScope := h.inScope.of_identity hsame
  simp only [StageRow.identity, StageRow.mk.injEq] at hsame
  obtain ⟨hid, htask, -, -, -, -, -, -, hchild, -⟩ := hsame
  exact ⟨hid ▸ h.memoryId, htask ▸ h.sourceTaskId, hchild ▸ h.childAgentId, hinScope, h.opened⟩

/-! ### What a preview selects -/

/-- What the selection holds comes from what it was offered. -/
lemma mem_foldl_selectCandidate {excluded : List String} {queryText : JsString}
    {items : List RankedItem} {start : Selection} {candidate : StructuredMemoryPreviewCandidate}
    (h : candidate ∈ (items.foldl (selectCandidate excluded queryText) start).candidates) :
    candidate ∈ start.candidates
      ∨ ∃ item ∈ items, candidate.toStructuredMemoryItemSummary = item.row.toSummary := by
  induction items generalizing start with
  | nil => exact .inl h
  | cons item items ih =>
    rcases ih h with hstart | ⟨other, hother, hsame⟩
    · unfold selectCandidate at hstart
      split_ifs at hstart
      · exact .inl hstart
      · rcases List.mem_append.mp hstart with hold | hnew
        · exact .inl hold
        · obtain rfl := List.mem_singleton.mp hnew
          exact .inr ⟨item, by simp, rfl⟩
    · exact .inr ⟨other, List.mem_cons_of_mem _ hother, hsame⟩

/-- **A preview selects eligible items only.** -/
lemma mem_selectCandidates {input : StructuredMemoryPreviewInput}
    {candidate : StructuredMemoryPreviewCandidate}
    (h : candidate ∈ (selectCandidates env db input).candidates) :
    ∃ item ∈ eligibleItems db input,
      candidate.toStructuredMemoryItemSummary = item.toSummary := by
  rcases mem_foldl_selectCandidate h with hnone | ⟨ranked, hranked, hsame⟩
  · simp at hnone
  · rw [rankedItems, List.mem_insertionSort, List.mem_map] at hranked
    obtain ⟨item, hitem, rfl⟩ := hranked
    exact ⟨item, hitem, hsame⟩

/-- What makes an item eligible for a preview. -/
structure Eligible (db : Database) (input : StructuredMemoryPreviewInput) (item : ItemRow) :
    Prop where
  known : item ∈ db.items
  childAgentId : item.childAgentId = input.childAgentId
  unexpired : item.unexpiredAt input.generatedAt = true
  inScope : item.inScope input.toContextIdentity = true
  opened : db.opens item.scope input.toContextIdentity = true

lemma mem_eligibleItems {input : StructuredMemoryPreviewInput} :
    item ∈ eligibleItems db input ↔ Eligible db input item := by
  simp only [eligibleItems, List.mem_filter, Bool.and_eq_true, beq_iff_eq]
  exact ⟨fun ⟨hknown, ⟨⟨hchild, hexpiry⟩, hscope⟩, hopen⟩ => ⟨hknown, hchild, hexpiry, hscope, hopen⟩,
    fun h => ⟨h.known, ⟨⟨h.childAgentId, h.unexpired⟩, h.inScope⟩, h.opened⟩⟩

lemma MadeFrom.inScope {identity : ContextIdentity} (h : MadeFrom env item source)
    (hscope : item.inScope identity = true) : InScope item.scope source identity := by
  unfold ItemRow.inScope at hscope
  unfold InScope
  cases hitem : item.scope with
  | task => simpa [hitem, h.taskId] using hscope
  | workspace => simpa [hitem, h.workspaceId] using hscope
  | peer => simpa [hitem, h.peerTetiId] using hscope

/-- The candidates of a new preview were offered. -/
lemma previewRow_offered (h : ItemsCoherent env db) (input : StructuredMemoryPreviewInput)
    (previewId : String) : ∀ candidate ∈ (previewRow env db input previewId).candidates,
      ∃ source ∈ db.stages, Offered env (previewRow env db input previewId) candidate source := by
  intro candidate hcandidate
  obtain ⟨shown, hshown, rfl⟩ := List.mem_map.mp hcandidate
  obtain ⟨item, hitem, hsame⟩ := mem_selectCandidates hshown
  rw [mem_eligibleItems] at hitem
  obtain ⟨source, hsource, hmade⟩ := h.madeFrom item hitem.known
  have hid : shown.memoryId = item.memoryId :=
    congrArg StructuredMemoryItemSummary.memoryId hsame
  have htask : shown.sourceTaskId = item.sourceTaskId :=
    congrArg StructuredMemoryItemSummary.sourceTaskId hsame
  have hscope : shown.scope = item.scope := congrArg StructuredMemoryItemSummary.scope hsame
  refine ⟨source, hsource, hid.trans hmade.memoryId, htask.trans hmade.taskId,
    hmade.childAgentId.symm.trans hitem.childAgentId, ?_, fun hexplicit => ?_⟩
  · show InScope shown.scope source input.toContextIdentity
    rw [hscope]
    exact hmade.inScope hitem.inScope
  · -- The snapshot of a scope says what let the item through.
    have hopened := hitem.opened
    change shown.scope ≠ .task at hexplicit
    rw [hscope] at hexplicit
    show ∃ authorization ∈ scopeAuthorizationSnapshot db input,
      authorization.scope = shown.scope ∧ _
    rw [hscope]
    cases hitemScope : item.scope with
    | task => exact absurd hitemScope hexplicit
    | workspace =>
      rw [hitemScope] at hopened
      exact ⟨_, List.mem_cons_of_mem _ List.mem_cons_self, rfl, rfl, hopened⟩
    | peer =>
      rw [hitemScope] at hopened
      exact ⟨_, List.mem_cons_of_mem _ (List.mem_cons_of_mem _ List.mem_cons_self), rfl, rfl,
        hopened⟩

/-! ### Previews under changes -/

section

variable (h : PreviewsCoherent env db)

include h

/-- A change that touches neither previews nor manifests. -/
lemma PreviewsCoherent.of_stages (hpreviews : left.previews = db.previews)
    (hinjections : left.injections = db.injections)
    (hstages : ∀ row ∈ db.stages, ∃ kept ∈ left.stages, kept.identity = row.identity) :
    PreviewsCoherent env left := by
  refine ⟨hpreviews ▸ h.previewIds, ?_, hpreviews ▸ h.approvedOnce,
    hinjections ▸ h.injectionPreviews, hinjections ▸ h.injectionExecutions, ?_⟩
  · rw [hpreviews]
    intro preview hpreview candidate hcandidate
    obtain ⟨source, hsource, hoffered⟩ := h.offered preview hpreview candidate hcandidate
    obtain ⟨kept, hkept, hsame⟩ := hstages source hsource
    exact ⟨kept, hkept, hoffered.of_identity hsame⟩
  · rw [hpreviews, hinjections]
    exact h.injected

lemma PreviewsCoherent.mapPreviews (f : PreviewRow → PreviewRow)
    (hbody : ∀ preview, (f preview).body = preview.body)
    (hwaiting : ∀ preview ∈ db.previews, ∀ other ∈ db.previews,
      (f preview).waiting → (f other).waiting → preview.taskId = other.taskId →
        preview.childAgentId = other.childAgentId → preview = other)
    (hinjected : ∀ manifest ∈ db.injections, ∀ preview ∈ db.previews,
      Injected manifest preview → Injected manifest (f preview)) :
    PreviewsCoherent env { db with previews := db.previews.map f } := by
  have hid : ∀ preview, (f preview).previewId = preview.previewId := fun preview =>
    (congrArg PreviewRow.previewId (hbody preview) :)
  have htask : ∀ preview, (f preview).taskId = preview.taskId := fun preview =>
    (congrArg PreviewRow.taskId (hbody preview) :)
  have hchild : ∀ preview, (f preview).childAgentId = preview.childAgentId := fun preview =>
    (congrArg PreviewRow.childAgentId (hbody preview) :)
  have hcandidates : ∀ preview, (f preview).candidates = preview.candidates := fun preview =>
    (congrArg PreviewRow.candidates (hbody preview) :)
  refine { h with previewIds := ?_, offered := ?_, approvedOnce := ?_, injected := ?_ }
  · have hids : db.previews.map (PreviewRow.previewId ∘ f) = db.previews.map PreviewRow.previewId :=
      List.map_congr_left fun preview _ => hid preview
    rw [List.map_map, hids]
    exact h.previewIds
  · intro preview hpreview candidate hcandidate
    obtain ⟨old, hold, rfl⟩ := List.mem_map.mp hpreview
    rw [hcandidates] at hcandidate
    obtain ⟨source, hsource, hoffered⟩ := h.offered old hold candidate hcandidate
    exact ⟨source, hsource, hoffered.of_body (hbody old)⟩
  · intro preview hpreview other hother hp hq htasks hchildren
    obtain ⟨old, hold, rfl⟩ := List.mem_map.mp hpreview
    obtain ⟨old', hold', rfl⟩ := List.mem_map.mp hother
    rw [htask, htask] at htasks
    rw [hchild, hchild] at hchildren
    rw [hwaiting old hold old' hold' hp hq htasks hchildren]
  · intro manifest hmanifest
    obtain ⟨preview, hpreview, hinj⟩ := h.injected manifest hmanifest
    exact ⟨f preview, List.mem_map_of_mem hpreview, hinjected manifest hmanifest preview hpreview
      hinj⟩

lemma PreviewsCoherent.invalidate (at_ : TimeText) (select : PreviewRow → Bool) :
    PreviewsCoherent env (db.invalidate at_ select) := by
  refine h.mapPreviews _ (fun preview => ?_) ?_ ?_
  · split_ifs <;> rfl
  · intro preview hpreview other hother hp hq
    refine h.approvedOnce preview hpreview other hother ?_ ?_
    · split_ifs at hp <;> exact hp
    · split_ifs at hq <;> exact hq
  · intro manifest _ preview _ hinj
    have hpending : preview.pending = false := by
      simp [PreviewRow.pending, hinj.consumed]
    rw [if_neg (by simp [hpending])]
    exact hinj

lemma PreviewsCoherent.forget (keep : PreviewRow → Bool)
    (unconsumed : ∀ preview ∈ db.previews, keep preview = false →
      preview.consumedAt = none ∨ preview.approvedAt = none) :
    PreviewsCoherent env { db with previews := db.previews.filter keep } := by
  refine { h with previewIds := ?_, offered := ?_, approvedOnce := ?_, injected := ?_ }
  · exact h.previewIds.sublist (List.filter_sublist.map _)
  · exact fun preview hpreview => h.offered preview (List.mem_of_mem_filter hpreview)
  · exact fun preview hpreview other hother => h.approvedOnce preview
      (List.mem_of_mem_filter hpreview) other (List.mem_of_mem_filter hother)
  · intro manifest hmanifest
    obtain ⟨preview, hpreview, hinj⟩ := h.injected manifest hmanifest
    refine ⟨preview, List.mem_filter.mpr ⟨hpreview, ?_⟩, hinj⟩
    by_contra hdropped
    rcases unconsumed preview hpreview (by simpa using hdropped) with hnone | hnone
    · exact hinj.consumed hnone
    · exact hinj.approved hnone

lemma PreviewsCoherent.store (hitems : ItemsCoherent env db) (input : StructuredMemoryPreviewInput)
    (previewId : String) (fresh : ∀ known ∈ db.previews, known.previewId ≠ previewId) :
    PreviewsCoherent env
      { db with previews := db.previews ++ [previewRow env db input previewId] } := by
  have hnew : ¬(previewRow env db input previewId).waiting := fun hwaiting => hwaiting.1 rfl
  refine { h with previewIds := ?_, offered := ?_, approvedOnce := ?_, injected := ?_ }
  · rw [List.map_append, List.map_singleton, List.nodup_append]
    refine ⟨h.previewIds, List.nodup_singleton _, ?_⟩
    simpa [previewRow] using fresh
  · intro preview hpreview
    rcases List.mem_append.mp hpreview with hold | hlast
    · exact h.offered preview hold
    · obtain rfl := List.mem_singleton.mp hlast
      exact previewRow_offered hitems input previewId
  · intro preview hpreview other hother hp hq
    rcases List.mem_append.mp hpreview with hold | hlast
    · rcases List.mem_append.mp hother with hold' | hlast'
      · exact h.approvedOnce preview hold other hold' hp hq
      · exact absurd (List.mem_singleton.mp hlast' ▸ hq) hnew
    · exact absurd (List.mem_singleton.mp hlast ▸ hp) hnew
  · intro manifest hmanifest
    obtain ⟨preview, hpreview, hinj⟩ := h.injected manifest hmanifest
    exact ⟨preview, List.mem_append_left _ hpreview, hinj⟩

/-- Previews with one id are one preview. -/
lemma PreviewsCoherent.preview_unique {other : PreviewRow} (hpreview : preview ∈ db.previews)
    (hother : other ∈ db.previews) (hsame : preview.previewId = other.previewId) :
    preview = other :=
  List.inj_on_of_nodup_map h.previewIds hpreview hother hsame

/-- The approval of one preview leaves no other of its task and child waiting. -/
lemma PreviewsCoherent.approve {target : PreviewRow} (approvedAt : TimeText)
    (known : target ∈ db.previews) : PreviewsCoherent env (db.approve target approvedAt) := by
  have hkept : ∀ preview ∈ db.previews, preview ≠ target →
      preview.previewId ≠ target.previewId := fun preview hpreview hne hsame =>
    hne (h.preview_unique hpreview known hsame)
  refine h.mapPreviews _ (fun preview => ?_) ?_ ?_
  · split_ifs <;> rfl
  · intro preview hpreview other hother hp hq htask hchild
    -- Whatever is still waiting and is not the target is about something else.
    have hapart : ∀ waiting ∈ db.previews, waiting ≠ target →
        (if waiting.previewId = target.previewId then
          if waiting.pending then { waiting with approvedAt := some approvedAt } else waiting
        else if waiting.taskId = target.taskId ∧ waiting.childAgentId = target.childAgentId
            ∧ waiting.consumedAt = none then { waiting with approvedAt := none }
        else waiting).waiting →
        waiting.waiting
          ∧ ¬(waiting.taskId = target.taskId ∧ waiting.childAgentId = target.childAgentId) := by
      intro waiting hmem hne hwaits
      rw [if_neg (hkept waiting hmem hne)] at hwaits
      split_ifs at hwaits with habout
      · exact absurd rfl hwaits.1
      · exact ⟨hwaits, fun hsame => habout ⟨hsame.1, hsame.2, hwaits.2⟩⟩
    by_cases hpt : preview = target
    · by_cases hqt : other = target
      · rw [hpt, hqt]
      · subst hpt
        exact absurd ⟨htask.symm, hchild.symm⟩ (hapart other hother hqt hq).2
    · obtain ⟨hpw, hpa⟩ := hapart preview hpreview hpt hp
      by_cases hqt : other = target
      · subst hqt
        exact absurd ⟨htask, hchild⟩ hpa
      · exact h.approvedOnce preview hpreview other hother hpw
          (hapart other hother hqt hq).1 htask hchild
  · intro manifest _ preview _ hinj
    have hpending : preview.pending = false := by
      simp [PreviewRow.pending, hinj.consumed]
    split_ifs with hsame hbusy hother
    · simp [hpending] at hbusy
    · exact hinj
    · exact absurd hother.2.2 hinj.consumed
    · exact hinj

end

lemma injectionManifest_named {input : StructuredMemoryExecutionInput} {items : List ItemRow}
    (found : preview.selected.mapM (fun candidate => db.item? candidate.memoryId) = some items) :
    (injectionManifest env preview input items).candidates.map InjectionCandidate.named
      = preview.selected.map PreviewCandidateRow.named := by
  -- the items of a consumed preview, one for each candidate
  have hitems := mapM_eq_some_iff.mp found
  clear found
  show (List.zipWith _ preview.selected items).map _ = _
  generalize preview.selected = selected at hitems ⊢
  induction hitems with
  | nil => rfl
  | cons _ _ ih => rw [List.zipWith_cons_cons, List.map_cons, List.map_cons, ih]; rfl

lemma PreviewsCoherent.consume (h : PreviewsCoherent env db)
    {input : StructuredMemoryExecutionInput} {items : List ItemRow} (known : preview ∈ db.previews)
    (usable : preview.usableFor env input = true)
    (found : preview.selected.mapM (fun candidate => db.item? candidate.memoryId) = some items)
    (execution : ∀ other ∈ db.injections, other.executionId ≠ input.executionId)
    (unconsumed : ∀ other ∈ db.injections, other.previewId ≠ preview.previewId) :
    PreviewsCoherent env (db.consume (injectionManifest env preview input items)) := by
  have hmapped : PreviewsCoherent env { db with previews := db.previews.map fun other =>
      if other.previewId = (injectionManifest env preview input items).previewId then
        { other with
          consumedAt := some (injectionManifest env preview input items).generatedAt }
      else other } := by
    refine h.mapPreviews _ (fun other => ?_) ?_ ?_
    · split_ifs <;> rfl
    · intro one hone other hother hp hq
      refine h.approvedOnce one hone other hother ?_ ?_
      · split_ifs at hp
        · simp [PreviewRow.waiting] at hp
        · exact hp
      · split_ifs at hq
        · simp [PreviewRow.waiting] at hq
        · exact hq
    · intro manifest _ other _ hinj
      split_ifs
      · exact ⟨hinj.previewId, hinj.taskId, hinj.approved, by simp, hinj.candidates⟩
      · exact hinj
  refine { hmapped with injectionPreviews := ?_, injectionExecutions := ?_, injected := ?_ }
  · show (List.map _ (db.injections ++ [_])).Nodup
    rw [List.map_append, List.map_singleton, List.nodup_append]
    refine ⟨h.injectionPreviews, List.nodup_singleton _, ?_⟩
    simpa [injectionManifest] using unconsumed
  · show (List.map _ (db.injections ++ [_])).Nodup
    rw [List.map_append, List.map_singleton, List.nodup_append]
    refine ⟨h.injectionExecutions, List.nodup_singleton _, ?_⟩
    simpa [injectionManifest] using execution
  · intro manifest hmanifest
    rcases List.mem_append.mp hmanifest with hold | hnew
    · exact hmapped.injected manifest hold
    · obtain rfl := List.mem_singleton.mp hnew
      have husable := UsableFor.of_usableFor env usable
      refine ⟨_, List.mem_map_of_mem known, ?_⟩
      rw [if_pos (show preview.previewId = (injectionManifest env preview input items).previewId
        from rfl)]
      exact ⟨rfl, husable.taskId, husable.approved, by simp, injectionManifest_named found⟩

/-- **Every change keeps the previews coherent.** -/
theorem Change.previewsCoherent (hitems : ItemsCoherent env db) (h : PreviewsCoherent env db)
    (hchange : Change env approved db left) : PreviewsCoherent env left := by
  have hstages := hchange.keeps_stages
  cases hchange with
  | previewsForgotten keep unconsumed => exact h.forget keep unconsumed
  | previewsInvalidated at_ select => exact h.invalidate at_ select
  | previewStored input previewId fresh => exact h.store hitems input previewId fresh
  | previewApproved preview approvedAt known pending owner => exact h.approve approvedAt known
  | previewConsumed preview input items known usable found execution unconsumed =>
    exact h.consume known usable found execution unconsumed
  | _ => exact h.of_stages rfl rfl hstages

/-! ### Previews that are left -/

/-- Every preview that is left was there, whatever became of its state. -/
def KeepsBodies (db left : Database) : Prop :=
  ∀ preview ∈ left.previews, ∃ old ∈ db.previews, old.body = preview.body

lemma KeepsBodies.refl (db : Database) : KeepsBodies db db :=
  fun preview hpreview => ⟨preview, hpreview, rfl⟩

lemma KeepsBodies.trans {middle : Database} (h : KeepsBodies db middle)
    (h' : KeepsBodies middle left) : KeepsBodies db left := by
  intro preview hpreview
  obtain ⟨between, hbetween, hsame⟩ := h' preview hpreview
  obtain ⟨old, hold, hsame'⟩ := h between hbetween
  exact ⟨old, hold, hsame'.trans hsame⟩

lemma keepsBodies_map {previews : List PreviewRow} {f : PreviewRow → PreviewRow}
    (hleft : left.previews = previews.map f) (hdb : previews = db.previews)
    (hbody : ∀ preview, (f preview).body = preview.body) : KeepsBodies db left := by
  intro preview hpreview
  rw [hleft, hdb] at hpreview
  obtain ⟨old, hold, rfl⟩ := List.mem_map.mp hpreview
  exact ⟨old, hold, (hbody old).symm⟩

lemma keepsBodies_invalidate (db : Database) (at_ : TimeText) (select : PreviewRow → Bool) :
    KeepsBodies db (db.invalidate at_ select) :=
  keepsBodies_map rfl rfl fun preview => by split_ifs <;> rfl

lemma keepsBodies_filter (db : Database) (keep : PreviewRow → Bool) :
    KeepsBodies db { db with previews := db.previews.filter keep } :=
  fun preview hpreview => ⟨preview, List.mem_of_mem_filter hpreview, rfl⟩

/-! ### Runs -/

/-- What is approved, the owner approved. -/
def ApprovedBy (approved : Set PreviewApprovalInput) (db : Database) : Prop :=
  ∀ preview ∈ db.previews, ∀ approvedAt, preview.approvedAt = some approvedAt →
    ⟨preview.taskId, preview.previewId, approvedAt⟩ ∈ approved

lemma ApprovedBy.step (h : ApprovedBy approved db) (hprevious : PreviewsCoherent env db)
    (hchange : Change env approved db left) : ApprovedBy approved left := by
  cases hchange with
  | previewsForgotten keep unconsumed =>
    exact fun preview hpreview => h preview (List.mem_of_mem_filter hpreview)
  | previewsInvalidated at_ select =>
    intro preview hpreview approvedAt happroved
    obtain ⟨old, hold, rfl⟩ := List.mem_map.mp hpreview
    split_ifs at happroved ⊢ <;> exact h old hold approvedAt happroved
  | previewStored input previewId fresh =>
    intro preview hpreview approvedAt happroved
    rcases List.mem_append.mp hpreview with hold | hnew
    · exact h preview hold approvedAt happroved
    · obtain rfl := List.mem_singleton.mp hnew
      cases happroved
  | previewApproved target now known pending owner =>
    intro preview hpreview approvedAt happroved
    obtain ⟨old, hold, rfl⟩ := List.mem_map.mp hpreview
    split_ifs at happroved ⊢ with hsame hpending htask
    · obtain rfl := Option.some.inj happroved
      rw [hprevious.preview_unique hold known hsame]
      exact owner
    · exact h old hold approvedAt happroved
    · exact h old hold approvedAt happroved
  | previewConsumed preview input items known usable found execution unconsumed =>
    intro other hother approvedAt happroved
    obtain ⟨old, hold, rfl⟩ := List.mem_map.mp hother
    split_ifs at happroved ⊢ <;> exact h old hold approvedAt happroved
  | _ => exact h

variable (env) in
/-- What holds after every run. -/
structure Coherent (approved : Set PreviewApprovalInput) (db : Database) : Prop where
  items : ItemsCoherent env db
  previews : PreviewsCoherent env db
  owner : ApprovedBy approved db

lemma coherent_created (featureEnabledAt : TimeText) :
    Coherent env approved (.created featureEnabledAt) where
  items := ⟨List.nodup_nil, List.nodup_nil, nofun, nofun, nofun, nofun⟩
  previews := ⟨List.nodup_nil, nofun, nofun, List.nodup_nil, List.nodup_nil, nofun⟩
  owner := nofun

/-- **Every change keeps the database coherent.** -/
theorem Coherent.step (h : Coherent env approved db) (hchange : Change env approved db left) :
    Coherent env approved left :=
  ⟨hchange.itemsCoherent h.items, hchange.previewsCoherent h.items h.previews,
    h.owner.step h.previews hchange⟩

lemma Coherent.mono {more : Set PreviewApprovalInput} (h : Coherent env approved db)
    (hmore : approved ⊆ more) : Coherent env more db :=
  ⟨h.items, h.previews, fun preview hpreview approvedAt hat =>
    hmore (h.owner preview hpreview approvedAt hat)⟩

lemma Coherent.changes (h : Coherent env approved db) (hchanges : Changes env approved db left) :
    Coherent env approved left :=
  hchanges.invariant h fun _ _ _ => Coherent.step

/-- **Every run leaves a coherent database.** -/
theorem run_coherent (featureEnabledAt : TimeText) (operations : List Operation) :
    Coherent env (approvals operations) (run env featureEnabledAt operations) :=
  (coherent_created featureEnabledAt).changes (run_reached featureEnabledAt operations)

/-- **Every reference resolves.**  After every run an item is made from a stage memory that was not
deleted, a deletion is that of one which is empty, a candidate of a preview was offered in a scope
that was open, and a manifest belongs to an approved preview that it consumed. -/
theorem references_resolve (featureEnabledAt : TimeText) (operations : List Operation) :
    let db := run env featureEnabledAt operations
    (∀ item ∈ db.items, ∃ source ∈ db.stages, MadeFrom env item source
        ∧ db.sourceDeleted source.memoryId = false)
      ∧ (∀ row ∈ db.deletions, ∃ source ∈ db.stages, source.memoryId = row.sourceMemoryId
        ∧ source.content = [])
      ∧ (∀ preview ∈ db.previews, ∀ candidate ∈ preview.candidates,
        ∃ source ∈ db.stages, Offered env preview candidate source)
      ∧ ∀ manifest ∈ db.injections, ∃ preview ∈ db.previews, Injected manifest preview := by
  intro db
  have h : Coherent env _ db := run_coherent featureEnabledAt operations
  refine ⟨fun item hitem => ?_, fun row hrow => ?_, h.previews.offered, h.previews.injected⟩
  · obtain ⟨source, hsource, hmade⟩ := h.items.madeFrom item hitem
    exact ⟨source, hsource, hmade, hmade.sourceMemoryId ▸ h.items.undeleted item hitem⟩
  · obtain ⟨source, hsource, hid⟩ := h.items.deletions row hrow
    have hdeleted := sourceDeleted_iff.mpr ⟨row, hrow, hid.symm⟩
    exact ⟨source, hsource, hid, h.items.emptied source hsource hdeleted⟩

end TetiBot.Memory

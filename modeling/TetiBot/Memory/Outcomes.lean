import TetiBot.Memory.Context

/-
What each operation of the memory store returns and leaves.

* One lemma for each operation: from a known database, what it returns and the
  database it leaves.  An operation that throws leaves the database as it was.
* Only maintenance takes several transactions; it is a sequence of deletions and
  one removal of previews.
-/

namespace TetiBot.Memory

open Library Library.JsString Program

variable (env : MemoryEnv) {α : Type}

/-- From `db` an operation returns and leaves what `Q` says, or throws and leaves
`db`. -/
def Yields (db : Database) (m : MemoryProgram α) (Q : α → Database → Prop) : Prop :=
  Triple (· = db) m Q fun _ left => left = db

section

variable {db : Database} {Q : α → Database → Prop}

lemma Yields.fromExcept {β : Type} {r : Except MemoryError β} {f : β → MemoryProgram α}
    (h : ∀ b, r = .ok b → Yields db (f b) Q) : Yields db (Program.fromExcept r >>= f) Q :=
  Triple.bind_fromExcept (fun _ _ _ hw => hw) h

variable {f : Unit → MemoryProgram α}

lemma Yields.throwIf {c : Prop} [Decidable c] {e : MemoryError} (h : ¬c → Yields db (f ()) Q) :
    Yields db (Program.throwIf c e >>= f) Q :=
  Triple.bind_throwIf (fun _ _ hw => hw) h

lemma Yields.orThrow {β : Type} {o : Option β} {e : MemoryError} {f : β → MemoryProgram α}
    (h : ∀ b, o = some b → Yields db (f b) Q) : Yields db (Program.orThrow o e >>= f) Q :=
  Triple.bind_orThrow (fun _ _ hw => hw) h

lemma Yields.reads {f : Database → MemoryProgram α} (h : Yields db (f db) Q) :
    Yields db (Program.reads id >>= f) Q :=
  Triple.bind_reads h

lemma Yields.writable (h : Yields db (f ()) Q) : Yields db (requireWritableDatabase env >>= f) Q :=
  Yields.throwIf fun _ => h

lemma Yields.quota (h : env.databaseBytes db < env.maximumDatabaseBytes → Yields db (f ()) Q) :
    Yields db (requireQuotaAvailable env db >>= f) Q :=
  Yields.throwIf fun hquota => h (not_le.mp hquota)

lemma Yields.pure {a : α} (h : Q a db) : Yields db (Pure.pure a) Q := by
  rintro _ rfl
  exact h

lemma Yields.writes_pure {f : Database → Database} {a : α} (h : Q a (f db)) :
    Yields db (Program.writes f >>= fun _ => Pure.pure a) Q :=
  Triple.bind_writes (Triple.pure fun _ hw => hw.symm ▸ h)

lemma Yields.writes {f : Database → Database} {Q : Unit → Database → Prop} (h : Q () (f db)) :
    Yields db (Program.writes f) Q := by
  rintro _ rfl
  exact h

lemma Yields.check {c : Prop} [Decidable c] {e : MemoryError} {Q : Unit → Database → Prop}
    (h : ¬c → Q () db) : Yields db (Program.throwIf c e) Q :=
  Triple.throwIf (fun _ _ hw => hw) fun hc _ hw => hw.symm ▸ h hc

/-- What an operation returns is all that its last step computes. -/
lemma Yields.result {r : Except MemoryError α} (h : ∀ a, r = .ok a → Q a db) :
    Yields db (Program.fromExcept r) Q :=
  Triple.fromExcept (fun _ _ _ hw => hw) fun a ha _ hw => hw.symm ▸ h a ha

end

/-! ### Stage memories -/

/-- A stage memory that is new to the database: no row has its id, its artifact, or its
place in its task. -/
structure NewStage (db : Database) (row : StageRow) : Prop where
  memoryId : ∀ known ∈ db.stages, known.memoryId ≠ row.memoryId
  artifactId : ∀ known ∈ db.stages, known.artifactId ≠ row.artifactId
  place : ∀ known ∈ db.stages, ¬(known.taskId = row.taskId ∧ known.stageIndex = row.stageIndex)

lemma failIf_eq_ok {c : Prop} [Decidable c] {e : MemoryError} : failIf c e = .ok () ↔ ¬c := by
  unfold failIf
  split_ifs with h <;> simp [h]

lemma failIf_bind_eq_ok {c : Prop} [Decidable c] {e : MemoryError} {β : Type}
    {f : Unit → Except MemoryError β} {b : β} :
    (failIf c e >>= f) = .ok b ↔ ¬c ∧ f () = .ok b := by
  by_cases h : c
  · simp [failIf, h, bind, Except.bind]
  · simp [failIf, h, bind, Except.bind]

/-- A stage memory that passed is not blank. -/
lemma content_ne_nil_of_valid {input : LongHorizonStageMemoryInput}
    (h : validateStageInput env.parseDate input = .ok ()) : input.content ≠ [] := by
  simp only [validateStageInput, requireSafeId, requireSafeId?, requireAgentId,
    failIf_bind_eq_ok, failIf_eq_ok] at h
  intro hempty
  simp [hempty, isBlank] at h

lemma insertStage_yields (input : LongHorizonStageMemoryInput) {db : Database}
    (hplace : db.stageAt? input.taskId input.stageIndex = none) :
    Yields db (insertStage env input db) fun _ left =>
      NewStage db (stageRow env input)
        ∧ (db.stages.countP fun row => row.taskId == input.taskId)
          < STRUCTURED_TASK_MEMORY_LIMITS.maximumStagesPerTask
        ∧ left = { db with stages := db.stages ++ [stageRow env input] } := by
  refine Yields.throwIf fun hcount => Yields.throwIf fun hfresh => Yields.writes ⟨?_, ?_, rfl⟩
  · simp only [List.any_eq_true, Bool.or_eq_true, beq_iff_eq, not_exists, not_and, not_or]
      at hfresh
    refine ⟨fun known hknown => (hfresh known hknown).1, fun known hknown => (hfresh known hknown).2,
      fun known hknown => ?_⟩
    have hother := List.find?_eq_none.mp hplace known hknown
    simpa [stageRow] using hother
  · exact not_le.mp hcount

/-- **Saving a stage** changes nothing, or stores the stage where none was. -/
theorem saveStage_yields (input : LongHorizonStageMemoryInput) (db : Database) :
    Yields db (saveStage env input) fun _ left =>
      left = db ∨ input.content ≠ [] ∧ NewStage db (stageRow env input)
        ∧ left = { db with stages := db.stages ++ [stageRow env input] } := by
  refine Yields.fromExcept fun _ hvalid => Yields.writable env (Yields.reads (Yields.quota env
    fun _ => ?_))
  refine Triple.ite (fun _ => Yields.pure (.inl rfl)) fun _ => ?_
  cases hplace : db.stageAt? input.taskId input.stageIndex with
  | some existing =>
    refine Triple.ite (fun _ => Yields.pure (.inl rfl)) fun _ => ?_
    exact Yields.check fun _ => .inl rfl
  | none =>
    refine (insertStage_yields env input hplace).post ?_
    rintro - left ⟨hnew, -, rfl⟩
    exact .inr ⟨content_ne_nil_of_valid env hvalid, hnew, rfl⟩

/-- Every candidate of a manifest is a stage memory that was not emptied. -/
def NamesStages (db : Database) (manifest : ShadowManifest) : Prop :=
  ∀ candidate ∈ manifest.candidates,
    ∃ row ∈ db.stages, row.memoryId = candidate.memoryId ∧ row.content ≠ []

lemma mem_rankedShadowMemories {db : Database} {input : MemoryShadowRetrievalInput}
    {memory : RankedShadowMemory} (h : memory ∈ rankedShadowMemories env db input) :
    ∃ row ∈ db.stages, row.memoryId = memory.memoryId ∧ row.content ≠ [] := by
  simp only [rankedShadowMemories, List.mem_insertionSort, List.mem_filterMap,
    List.mem_filter] at h
  obtain ⟨row, ⟨⟨hrow, hmatch⟩, -⟩, hranked⟩ := h
  refine ⟨row, hrow, ?_, ?_⟩
  · obtain ⟨scope, -, rfl⟩ := Option.map_eq_some_iff.mp hranked
    rfl
  · simp only [Bool.and_eq_true, bne_iff_ne] at hmatch
    exact hmatch.1.2

/-- What the selection holds comes from what it was offered. -/
lemma mem_foldl_selectShadowCandidate {memories : List RankedShadowMemory}
    {start : List ShadowCandidate} {candidate : ShadowCandidate}
    (h : candidate ∈ memories.foldl selectShadowCandidate start) :
    candidate ∈ start ∨ ∃ memory ∈ memories, memory.memoryId = candidate.memoryId := by
  induction memories generalizing start with
  | nil => exact .inl h
  | cons memory memories ih =>
    rcases ih h with hstart | ⟨other, hother, hid⟩
    · unfold selectShadowCandidate at hstart
      split_ifs at hstart
      · exact .inl hstart
      · rcases List.mem_append.mp hstart with hold | hnew
        · exact .inl hold
        · obtain rfl := List.mem_singleton.mp hnew
          exact .inr ⟨memory, by simp, rfl⟩
    · exact .inr ⟨other, List.mem_cons_of_mem _ hother, hid⟩

lemma shadowManifest_namesStages (db : Database) (input : MemoryShadowRetrievalInput) :
    NamesStages db (shadowManifest env db input) := by
  intro candidate hcandidate
  rcases mem_foldl_selectShadowCandidate hcandidate with hnone | ⟨memory, hmemory, hid⟩
  · simp at hnone
  · obtain ⟨row, hrow, hrowid, hcontent⟩ := mem_rankedShadowMemories env hmemory
    exact ⟨row, hrow, hrowid.trans hid, hcontent⟩

/-- **Shadow retrieval** returns the stored manifest of the execution, or stores and
returns a new one. -/
theorem createShadowManifest_yields (input : MemoryShadowRetrievalInput) (db : Database) :
    Yields db (createShadowManifest env input) fun manifest left =>
      manifest ∈ db.shadows ∧ left = db
        ∨ manifest = shadowManifest env db input
          ∧ left = { db with shadows := db.shadows ++ [manifest] } := by
  refine Yields.fromExcept fun _ _ => Yields.writable env (Yields.reads (Yields.quota env
    fun _ => ?_))
  cases hfound : db.shadows.find? fun manifest => manifest.executionId == input.executionId with
  | some existing =>
    refine Yields.throwIf fun _ => Yields.result fun manifest hload => .inl ⟨?_, rfl⟩
    rw [loadShadowManifest, failIf_bind_eq_ok] at hload
    obtain rfl : existing = manifest := Except.ok.inj hload.2
    exact List.mem_of_find?_eq_some hfound
  | none =>
    exact Yields.throwIf fun _ => Yields.throwIf fun _ => Yields.writes_pure (.inr ⟨rfl, rfl⟩)

/-! ### Items -/

/-- An item may be made from a stage memory: its source was never deleted, and no
item was made from it or has its id. -/
structure NewItem (db : Database) (source : StageRow) (scope : StructuredMemoryScope) : Prop where
  known : source ∈ db.stages
  undeleted : db.sourceDeleted source.memoryId = false
  workspace : scope = .workspace → source.workspaceId ≠ none
  unconfirmed : ∀ known ∈ db.items, known.sourceMemoryId ≠ source.memoryId
  fresh : ∀ known ∈ db.items, known.memoryId ≠ itemMemoryId env source.memoryId

lemma stage?_eq_some {db : Database} {memoryId : String} {row : StageRow}
    (h : db.stage? memoryId = some row) : row ∈ db.stages ∧ row.memoryId = memoryId :=
  ⟨List.mem_of_find?_eq_some h, by simpa using List.find?_some h⟩

lemma item?_eq_some {db : Database} {memoryId : String} {item : ItemRow}
    (h : db.item? memoryId = some item) : item ∈ db.items ∧ item.memoryId = memoryId :=
  ⟨List.mem_of_find?_eq_some h, by simpa using List.find?_some h⟩

variable {preview : PreviewRow}

lemma preview?_eq_some {db : Database} {previewId : String}
    (h : db.preview? previewId = some preview) :
    preview ∈ db.previews ∧ preview.previewId = previewId :=
  ⟨List.mem_of_find?_eq_some h, by simpa using List.find?_some h⟩

/-- **Confirming an item** changes nothing, or stores the item of a source. -/
theorem createStructuredMemoryItem_yields (input : CreateStructuredMemoryItemInput)
    (db : Database) :
    Yields db (createStructuredMemoryItem env input) fun _ left =>
      left = db ∨ ∃ source, NewItem env db source input.scope
        ∧ left = { db with items := db.items ++ [itemRow env source input] } := by
  refine Yields.writable env (Yields.reads (Yields.quota env fun _ => ?_))
  refine Yields.fromExcept fun _ _ => Yields.orThrow fun source hsource => ?_
  refine Yields.throwIf fun hdeleted => Yields.throwIf fun hscope => ?_
  obtain ⟨hknown, hid⟩ := stage?_eq_some hsource
  cases hconfirmed : db.itemOf? input.sourceMemoryId with
  | some existing => exact Yields.throwIf fun _ => Yields.pure (.inl rfl)
  | none =>
    refine Yields.throwIf fun _ => Yields.throwIf fun hfresh => Yields.writes_pure ?_
    refine .inr ⟨source, ⟨hknown, ?_, ?_, ?_, ?_⟩, rfl⟩
    · simpa [hid] using hdeleted
    · exact fun hworkspace hnone => hscope ⟨hworkspace, hnone⟩
    · intro known hmem
      simpa [hid] using List.find?_eq_none.mp hconfirmed known hmem
    · intro known hmem hsame
      exact hfresh (List.any_eq_true.mpr ⟨known, hmem, by simpa [itemRow] using hsame⟩)

/-- **Editing an item** changes nothing, or stores its next version and invalidates
the pending previews that name it. -/
theorem updateStructuredMemoryItem_yields (input : UpdateStructuredMemoryItemInput)
    (db : Database) :
    Yields db (updateStructuredMemoryItem env input) fun _ left =>
      left = db ∨ ∃ item ∈ db.items, item.memoryId = input.memoryId
        ∧ (input.scope = .workspace → item.workspaceId ≠ none)
        ∧ left = (db.setItem (editedRow env item input)).invalidateNaming input.changedAt
            input.memoryId := by
  refine Yields.writable env (Yields.reads (Yields.quota env fun _ => ?_))
  refine Yields.fromExcept fun _ _ => Yields.orThrow fun item hitem => ?_
  refine Yields.throwIf fun hscope => Yields.throwIf fun _ => ?_
  obtain ⟨hknown, hid⟩ := item?_eq_some hitem
  refine Triple.ite (fun _ => Yields.pure (.inl rfl)) fun _ => Yields.writes_pure ?_
  exact .inr ⟨item, hknown, hid, fun hworkspace hnone => hscope ⟨hworkspace, hnone⟩, rfl⟩

/-- **Removing an item**: if there is one it is removed, its source is emptied, the
pending previews that name it are invalidated, and the deletion is recorded. -/
theorem deleteStructuredMemoryItemWithReason_yields (memoryId : String) (deletedAt : TimeText)
    (reasonCode : DeletionReason) (db : Database) :
    Yields db (deleteStructuredMemoryItemWithReason env memoryId deletedAt reasonCode)
      fun deleted left => deleted = false ∧ db.item? memoryId = none ∧ left = db
        ∨ deleted = true ∧ ∃ item, db.item? memoryId = some item
          ∧ left = (db.invalidateNaming deletedAt memoryId).removeItem env item deletedAt
              reasonCode := by
  refine Yields.reads ?_
  cases hitem : db.item? memoryId with
  | none => exact Yields.pure (.inl ⟨rfl, rfl, rfl⟩)
  | some item =>
    exact Yields.throwIf fun _ => Yields.writes_pure (.inr ⟨rfl, item, rfl, rfl⟩)

theorem deleteStructuredMemoryItem_yields (memoryId : String) (deletedAt : TimeText)
    (db : Database) :
    Yields db (deleteStructuredMemoryItem env memoryId deletedAt)
      fun deleted left => deleted = false ∧ db.item? memoryId = none ∧ left = db
        ∨ deleted = true ∧ ∃ item, db.item? memoryId = some item
          ∧ left = (db.invalidateNaming deletedAt memoryId).removeItem env item deletedAt
              .userDeleted :=
  Yields.writable env (Yields.fromExcept fun _ _ => Yields.throwIf fun _ =>
    deleteStructuredMemoryItemWithReason_yields env memoryId deletedAt .userDeleted db)

/-- **Opening or closing a scope**: the authorization is stored, and the pending
previews of the scope are invalidated. -/
theorem setStructuredMemoryAuthorization_yields (input : StructuredMemoryAuthorizationInput)
    (db : Database) :
    Yields db (setStructuredMemoryAuthorization env input) fun _ left =>
      ∃ row select, left = (db.authorize row).invalidate input.changedAt select :=
  Yields.writable env (Yields.fromExcept fun _ _ => Yields.orThrow fun _ _ =>
    Yields.writes ⟨_, _, rfl⟩)

/-! ### Previews -/

/-- **Making a preview**: the previews that it replaces are gone or invalidated, and it
is stored under an id of its own. -/
theorem createStructuredMemoryContextPreview_yields (input : StructuredMemoryPreviewInput)
    (previewId : String) (db : Database) :
    Yields db (createStructuredMemoryContextPreview env input previewId) fun shown left =>
      shown = (previewRow env db input previewId).shown (selectCandidates env db input).candidates
        ∧ (∀ known ∈ (db.supersede input).previews, known.previewId ≠ previewId)
        ∧ left = { db.supersede input with
            previews := (db.supersede input).previews ++ [previewRow env db input previewId] } := by
  refine Yields.writable env (Yields.reads (Yields.quota env fun _ => ?_))
  refine Yields.fromExcept fun _ _ => Yields.throwIf fun _ => Yields.throwIf fun hfresh => ?_
  refine Yields.writes_pure ⟨rfl, fun known hknown hsame => ?_, rfl⟩
  exact hfresh (List.any_eq_true.mpr ⟨known, hknown, by simpa using hsame⟩)

/-- **Approving a preview**: a pending preview of the task that is current is approved,
and no other of its task and child that is not consumed. -/
theorem approveStructuredMemoryContextPreview_yields (input : PreviewApprovalInput)
    (db : Database) :
    Yields db (approveStructuredMemoryContextPreview env input) fun _ left =>
      ∃ preview ∈ db.previews, preview.previewId = input.previewId
        ∧ preview.taskId = input.taskId ∧ preview.pending = true
        ∧ requirePreviewCurrent env db preview input.approvedAt = .ok ()
        ∧ left = db.approve preview input.approvedAt := by
  refine Yields.writable env (Yields.fromExcept fun _ _ => Yields.fromExcept fun _ _ =>
    Yields.throwIf fun _ => Yields.reads (Yields.orThrow fun preview hpreview => ?_))
  refine Yields.throwIf fun htask => Yields.throwIf fun hstale => ?_
  refine Yields.fromExcept fun _ hcurrent => Yields.writes_pure ?_
  obtain ⟨hknown, hid⟩ := preview?_eq_some hpreview
  simp only [not_or, not_not] at hstale
  refine ⟨preview, hknown, hid, not_not.mp htask, ?_, hcurrent, rfl⟩
  simp [PreviewRow.pending, hstale.1, hstale.2.1]

/-! ### Contexts -/

/-- What an execution is handed, and the database it leaves. -/
inductive ContextOutcome (db : Database) (input : StructuredMemoryExecutionInput) :
    StructuredMemoryExecutionSelection → Database → Prop
  | nothing : ContextOutcome db input emptyExecutionSelection db
  /-- The approved preview is not current any more. -/
  | stale (preview : PreviewRow) : ContextOutcome db input emptyExecutionSelection
      (db.invalidate input.generatedAt fun known => known.previewId == preview.previewId)
  /-- The execution consumed a preview before. -/
  | replayed (existing : InjectionManifest) (selection : StructuredMemoryExecutionSelection)
      (known : existing ∈ db.injections) (execution : existing.executionId = input.executionId)
      (replay : replayExecutionContext env db existing input = .ok selection) :
      ContextOutcome db input selection db
  | consumed (preview : PreviewRow) (items : List ItemRow) (known : preview ∈ db.previews)
      (usable : preview.usableFor env input = true)
      (current : requirePreviewCurrent env db preview input.generatedAt = .ok ())
      (found : preview.selected.mapM (fun candidate => db.item? candidate.memoryId) = some items)
      (execution : ∀ other ∈ db.injections, other.executionId ≠ input.executionId)
      (unconsumed : ∀ other ∈ db.injections, other.previewId ≠ preview.previewId) :
      ContextOutcome db input
        ⟨some (injectionManifest env preview input items), items.map ItemRow.toRecord,
          (injectionManifest env preview input items).candidateBytes⟩
        (db.consume (injectionManifest env preview input items))

/-- The preview is approved for the execution and can still be consumed. -/
structure UsableFor (preview : PreviewRow) (input : StructuredMemoryExecutionInput) : Prop where
  taskId : preview.taskId = input.taskId
  peerTetiId : preview.peerTetiId = input.peerTetiId
  workspaceId : preview.workspaceId = none ∨ preview.workspaceId = input.workspaceId
  childAgentId : preview.childAgentId = input.childAgentId
  queryDigest : preview.queryDigest = digest env.sha256 input.queryText
  approved : preview.approvedAt ≠ none
  unconsumed : preview.consumedAt = none
  valid : preview.invalidatedAt = none

variable {input : StructuredMemoryExecutionInput}

lemma UsableFor.of_usableFor (h : preview.usableFor env input = true) :
    UsableFor env preview input := by
  simp only [PreviewRow.usableFor, PreviewRow.pending, Bool.and_eq_true, Bool.or_eq_true,
    beq_iff_eq, Option.isNone_iff_eq_none, Option.isSome_iff_ne_none] at h
  obtain ⟨⟨⟨⟨⟨⟨⟨htask, hpeer⟩, hworkspace⟩, hchild⟩, hquery⟩, happroved⟩, hconsumed, hvalid⟩, -⟩ := h
  exact ⟨htask, hpeer, hworkspace, hchild, hquery, happroved, hconsumed, hvalid⟩

lemma usablePreview?_eq_some {db : Database} (h : usablePreview? env db input = some preview) :
    preview ∈ db.previews ∧ preview.usableFor env input = true := by
  have hmem := List.mem_of_mem_head? h
  rwa [List.mem_insertionSort, List.mem_filter] at hmem

lemma consumePreview_yields {db : Database} (known : preview ∈ db.previews)
    (usable : preview.usableFor env input = true)
    (current : requirePreviewCurrent env db preview input.generatedAt = .ok ())
    (execution : ∀ other ∈ db.injections, other.executionId ≠ input.executionId) :
    Yields db (consumePreview env db preview input) (ContextOutcome env db input) := by
  refine Yields.orThrow fun items found => Yields.throwIf fun hfresh => Yields.writes_pure ?_
  refine .consumed preview items known usable current found execution fun other hother hsame => ?_
  exact hfresh (List.any_eq_true.mpr
    ⟨other, hother, by simpa [injectionManifest] using .inr hsame⟩)

/-- **The context of an execution** is nothing, what it was handed before, or an
approved preview that is current, and consumed from now on. -/
theorem createStructuredMemoryExecutionContext_yields (input : StructuredMemoryExecutionInput)
    (db : Database) :
    Yields db (createStructuredMemoryExecutionContext env input) (ContextOutcome env db input) := by
  refine Yields.writable env (Yields.reads (Yields.quota env fun _ => ?_))
  refine Yields.fromExcept fun _ _ => ?_
  cases hexisting : db.injections.find? fun manifest =>
      manifest.executionId == input.executionId with
  | some existing =>
    refine Yields.result fun selection hreplay => ?_
    exact .replayed existing selection (List.mem_of_find?_eq_some hexisting)
      (by simpa using List.find?_some hexisting) hreplay
  | none =>
    have execution : ∀ other ∈ db.injections, other.executionId ≠ input.executionId :=
      fun other hother => by simpa using List.find?_eq_none.mp hexisting other hother
    cases hpreview : usablePreview? env db input with
    | none => exact Yields.pure .nothing
    | some preview =>
      refine Triple.ite (fun _ => Yields.pure .nothing) fun _ => ?_
      obtain ⟨known, usable⟩ := usablePreview?_eq_some env hpreview
      cases hcurrent : requirePreviewCurrent env db preview input.generatedAt with
      | error _ => exact Yields.writes_pure (.stale preview)
      | ok _ => exact consumePreview_yields env known usable hcurrent execution

end TetiBot.Memory

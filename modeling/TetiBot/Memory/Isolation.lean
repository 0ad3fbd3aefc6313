import TetiBot.Memory.Deletion

/-
The memory of one peer and the tasks of others.

* `Isolated`: what one operation hands to a peer is the peer's, or opened by the owner;
  a stage of the peer is saved as if there were no stages of others.
* `Apart`: no other peer's task stands in the way of an operation.  The rows are keyed
  by task ids, which two peers may choose alike.
* `memory_isolated`: in a run whose operations are all apart, every one is isolated.
-/

namespace TetiBot.Memory

open Library Library.JsString Program

variable {env : MemoryEnv} {db left : Database}

/-! ### Isolation -/

/-- The source of an item is a task of the peer, or the owner opened the item to the
workspace that the peer works in. -/
def OpenTo (db : Database) (item : ItemRow) (identity : ContextIdentity) : Prop :=
  (∀ source ∈ db.stages, source.memoryId = item.sourceMemoryId →
      source.peerTetiId = identity.peerTetiId)
    ∨ item.scope = .workspace ∧ db.authorized .workspace identity = true

/-- The database without the stage memories of other peers. -/
def Database.own (db : Database) (peerTetiId : String) : Database :=
  { db with stages := db.stages.filter fun row => row.peerTetiId == peerTetiId }

/-- A stage that would be saved if no other peer had any is saved, and leaves the peer
the same stage memories. -/
def SaveIsolated (env : MemoryEnv) (db : Database) (input : LongHorizonStageMemoryInput) : Prop :=
  ∀ left, (saveStage env input).exec (db.own input.peerTetiId) = (.ok (), left) →
    ∃ kept, (saveStage env input).exec db = (.ok (), kept) ∧ kept.own input.peerTetiId = left

/-- One operation keeps to what is its peer's. -/
def Isolated (env : MemoryEnv) (db : Database) : Operation → Prop
  | .saveStage input => SaveIsolated env db input
  | .createPreview input previewId => ∀ preview left,
    (createStructuredMemoryContextPreview env input previewId).exec db = (.ok preview, left) →
      ∀ candidate ∈ preview.candidates, ∃ item ∈ db.items,
        item.toSummary = candidate.toStructuredMemoryItemSummary
          ∧ OpenTo db item input.toContextIdentity
  | .createContext input => ∀ selection left, Hands env db input selection left →
    ∀ record ∈ selection.records, ∃ item ∈ db.items,
      item.toRecord = record ∧ OpenTo db item input.toContextIdentity
  | _ => True

/-! ### Operations that no other peer stands in the way of -/

/-- No other peer's stage has the place of a stage to be saved; if it is new, none has
its artifact or its id, nor do other peers' stages fill up its task; and the database,
which all share, is not full. -/
structure SaveApart (env : MemoryEnv) (db : Database) (input : LongHorizonStageMemoryInput) :
    Prop where
  quota : env.databaseBytes db < env.maximumDatabaseBytes
  place : ∀ row ∈ db.stages, row.taskId = input.taskId → row.stageIndex = input.stageIndex →
    row.peerTetiId = input.peerTetiId
  fresh : db.stageAt? input.taskId input.stageIndex = none →
    ∀ row ∈ db.stages, row.memoryId = stageMemoryId env input
      ∨ row.artifactId = input.artifactId → row.peerTetiId = input.peerTetiId
  limit : db.stageAt? input.taskId input.stageIndex = none →
    STRUCTURED_TASK_MEMORY_LIMITS.maximumStagesPerTask
      ≤ db.stages.countP (fun row => row.taskId == input.taskId) →
    STRUCTURED_TASK_MEMORY_LIMITS.maximumStagesPerTask
      ≤ (db.own input.peerTetiId).stages.countP fun row => row.taskId == input.taskId

/-- No item that is kept for a task of another peer could be shown: its task has not
the id of the task that the preview is for, or it is another child's, or expired. -/
def PreviewApart (db : Database) (input : StructuredMemoryPreviewInput) : Prop :=
  ∀ item ∈ db.items, item.scope = .task → item.sourceTaskId = input.taskId →
    item.childAgentId = input.childAgentId → item.unexpiredAt input.generatedAt = true →
      item.peerTetiId = input.peerTetiId

def Apart (env : MemoryEnv) (db : Database) : Operation → Prop
  | .saveStage input => SaveApart env db input
  | .createPreview input _ => PreviewApart db input
  | _ => True

/-- Every operation of a run is apart when it is made. -/
def RunApart (env : MemoryEnv) : Database → List Operation → Prop
  | _, [] => True
  | db, operation :: operations =>
    Apart env db operation ∧ RunApart env (operation.perform env db) operations

instance (input : LongHorizonStageMemoryInput) : Decidable (SaveApart env db input) :=
  decidable_of_iff (env.databaseBytes db < env.maximumDatabaseBytes
      ∧ (∀ row ∈ db.stages, row.taskId = input.taskId → row.stageIndex = input.stageIndex →
        row.peerTetiId = input.peerTetiId)
      ∧ (db.stageAt? input.taskId input.stageIndex = none →
        ∀ row ∈ db.stages, row.memoryId = stageMemoryId env input
          ∨ row.artifactId = input.artifactId → row.peerTetiId = input.peerTetiId)
      ∧ (db.stageAt? input.taskId input.stageIndex = none →
        STRUCTURED_TASK_MEMORY_LIMITS.maximumStagesPerTask
          ≤ db.stages.countP (fun row => row.taskId == input.taskId) →
        STRUCTURED_TASK_MEMORY_LIMITS.maximumStagesPerTask
          ≤ (db.own input.peerTetiId).stages.countP fun row => row.taskId == input.taskId))
    ⟨fun ⟨quota, place, fresh, limit⟩ => ⟨quota, place, fresh, limit⟩,
      fun h => ⟨h.quota, h.place, h.fresh, h.limit⟩⟩

instance (input : StructuredMemoryPreviewInput) : Decidable (PreviewApart db input) :=
  inferInstanceAs (Decidable (∀ item ∈ db.items, _ → _ → _ → _ → _))

instance : (operation : Operation) → Decidable (Apart env db operation)
  | .saveStage input => inferInstanceAs (Decidable (SaveApart env db input))
  | .createPreview input _ => inferInstanceAs (Decidable (PreviewApart db input))
  | .createShadowManifest _ | .createItem _ | .updateItem _ | .deleteItem _ _
  | .setAuthorization _ | .approvePreview _ | .createContext _ | .runMaintenance _
  | .relationshipChange _ => inferInstanceAs (Decidable True)

instance decidableRunApart : (db : Database) → (operations : List Operation) →
    Decidable (RunApart env db operations)
  | _, [] => inferInstanceAs (Decidable True)
  | db, operation :: operations =>
    have := decidableRunApart (operation.perform env db) operations
    inferInstanceAs (Decidable (_ ∧ _))

/-! ### Saving a stage -/

/-- What a save that returned did. -/
inductive StageSaved (env : MemoryEnv) (db : Database) (input : LongHorizonStageMemoryInput) :
    Database → Prop
  /-- The task is older than the feature. -/
  | early (early : parsesBefore env.parseDate input.taskCreatedAt db.featureEnabledAt = true) :
      StageSaved env db input db
  | known (late : ¬parsesBefore env.parseDate input.taskCreatedAt db.featureEnabledAt = true)
      (existing : StageRow) (place : db.stageAt? input.taskId input.stageIndex = some existing)
      (same : db.sourceDeleted existing.memoryId = true
        ∨ existing.artifactId = input.artifactId
          ∧ existing.contentDigest = digest env.sha256 input.content) :
      StageSaved env db input db
  | stored (late : ¬parsesBefore env.parseDate input.taskCreatedAt db.featureEnabledAt = true)
      (place : db.stageAt? input.taskId input.stageIndex = none)
      (limit : ¬STRUCTURED_TASK_MEMORY_LIMITS.maximumStagesPerTask
        ≤ db.stages.countP fun row => row.taskId == input.taskId)
      (fresh : ¬(db.stages.any fun row =>
        row.memoryId == stageMemoryId env input || row.artifactId == input.artifactId) = true) :
      StageSaved env db input { db with stages := db.stages ++ [stageRow env input] }

variable {input : LongHorizonStageMemoryInput}

lemma insertStage_exec_eq_ok (late : ¬parsesBefore env.parseDate input.taskCreatedAt db.featureEnabledAt = true)
    (place : db.stageAt? input.taskId input.stageIndex = none) :
    (insertStage env input db).exec db = (.ok (), left) → StageSaved env db input left := by
  rw [insertStage, exec_throwIf_bind_eq_ok, exec_throwIf_bind_eq_ok, exec_writes]
  rintro ⟨limit, fresh, hleft⟩
  obtain rfl := congrArg Prod.snd hleft
  exact .stored late place limit fresh

/-- **A save returns** if its input is valid, the database takes writes, and the stage is
one of these. -/
lemma saveStage_exec_eq_ok :
    (saveStage env input).exec db = (.ok (), left)
      ↔ validateStageInput env.parseDate input = .ok () ∧ ¬env.writable = false
        ∧ ¬env.maximumDatabaseBytes ≤ env.databaseBytes db ∧ StageSaved env db input left := by
  rw [saveStage, exec_fromExcept_bind_eq_ok]
  simp only [requireWritableDatabase, exec_throwIf_bind_eq_ok, exec_reads_bind,
    requireQuotaAvailable, id]
  constructor
  · rintro ⟨⟨⟩, hvalid, hwritable, hquota, hexec⟩
    refine ⟨hvalid, hwritable, hquota, ?_⟩
    split_ifs at hexec with hearly
    · obtain rfl := congrArg Prod.snd hexec
      exact .early hearly
    · cases hplace : db.stageAt? input.taskId input.stageIndex with
      | none =>
        rw [hplace] at hexec
        exact insertStage_exec_eq_ok hearly hplace hexec
      | some existing =>
        rw [hplace] at hexec
        dsimp only at hexec
        split_ifs at hexec with hdeleted
        · obtain rfl := congrArg Prod.snd hexec
          exact .known hearly existing hplace (.inl hdeleted)
        · rw [exec_throwIf_eq_ok, not_not] at hexec
          obtain ⟨hsame, rfl⟩ := hexec
          exact .known hearly existing hplace (.inr hsame)
  · rintro ⟨hvalid, hwritable, hquota, hsaved⟩
    refine ⟨(), hvalid, hwritable, hquota, ?_⟩
    cases hsaved with
    | early early =>
      rw [if_pos early]
      rfl
    | known late existing place same =>
      rw [if_neg late, place]
      dsimp only
      by_cases hdeleted : db.sourceDeleted existing.memoryId = true
      · rw [if_pos hdeleted]
        rfl
      · rw [if_neg hdeleted, exec_throwIf_eq_ok, not_not]
        exact ⟨same.resolve_left hdeleted, rfl⟩
    | stored late place limit fresh =>
      rw [if_neg late, place]
      simp only [insertStage, exec_throwIf_bind_eq_ok]
      exact ⟨limit, fresh, rfl⟩

/-- Looking a place up that is no other peer's. -/
lemma stageAt?_own {peerTetiId taskId : String} {stageIndex : Nat}
    (hplace : ∀ row ∈ db.stages, row.taskId = taskId → row.stageIndex = stageIndex →
      row.peerTetiId = peerTetiId) :
    (db.own peerTetiId).stageAt? taskId stageIndex = db.stageAt? taskId stageIndex := by
  rw [Database.stageAt?, Database.own, List.find?_filter]
  refine List.find?_congr fun row hrow => ?_
  by_cases hat : row.taskId = taskId ∧ row.stageIndex = stageIndex
  · simp [hat, hplace row hrow hat.1 hat.2]
  · have hnot : (row.taskId == taskId && row.stageIndex == stageIndex) = false := by
      simpa using hat
    simp [hnot]

/-- **A save that no other peer stands in the way of is isolated.** -/
theorem SaveApart.isolated (h : SaveApart env db input) : SaveIsolated env db input := by
  intro left hown
  obtain ⟨hvalid, hwritable, -, hsaved⟩ := saveStage_exec_eq_ok.mp hown
  suffices hkept : ∃ kept, StageSaved env db input kept ∧ kept.own input.peerTetiId = left by
    obtain ⟨kept, hkept, hsame⟩ := hkept
    exact ⟨kept, saveStage_exec_eq_ok.mpr ⟨hvalid, hwritable, not_le.mpr h.quota, hkept⟩, hsame⟩
  have hplaces := stageAt?_own h.place
  cases hsaved with
  | early early => exact ⟨db, .early early, rfl⟩
  | known late existing place same => exact ⟨db, .known late existing (hplaces ▸ place) same, rfl⟩
  | stored late place limit fresh =>
    rw [hplaces] at place
    refine ⟨_, .stored late place (fun hfull => limit (h.limit place hfull)) ?_, ?_⟩
    · rw [Bool.not_eq_true, List.any_eq_false] at fresh ⊢
      intro row hrow hclash
      have hclash' : row.memoryId = stageMemoryId env input ∨ row.artifactId = input.artifactId := by
        simpa using hclash
      refine fresh row (List.mem_filter.mpr ⟨hrow, ?_⟩) hclash
      simpa using h.fresh place row hrow hclash'
    · simp [Database.own, List.filter_append, stageRow]

/-! ### What operations do to previews -/

lemma keepsBodies_maintenance : MaintenanceStep env KeepsBodies where
  remove db memoryId _ deletedAt _ :=
    Reached.refl.step (keepsBodies_invalidate db deletedAt fun preview => preview.names memoryId)
  forget db cutoff := keepsBodies_filter db fun preview => !preview.outdated cutoff

/-- **Only a new preview adds to the previews.** -/
lemma perform_keepsBodies (db : Database) {operation : Operation}
    (hother : ∀ input previewId, operation ≠ .createPreview input previewId) :
    KeepsBodies db (operation.perform env db) := by
  cases operation with
  | saveStage input =>
    refine (saveStage_yields env input db).leaves (KeepsBodies.refl db) ?_
    rintro - left (rfl | ⟨-, -, rfl⟩) <;> exact KeepsBodies.refl _
  | createShadowManifest input =>
    refine (createShadowManifest_yields env input db).leaves (KeepsBodies.refl db) ?_
    rintro manifest left (⟨-, rfl⟩ | ⟨-, rfl⟩) <;> exact KeepsBodies.refl _
  | createItem input =>
    refine (createStructuredMemoryItem_yields env input db).leaves (KeepsBodies.refl db) ?_
    rintro - left (rfl | ⟨source, -, rfl⟩) <;> exact KeepsBodies.refl _
  | updateItem input =>
    refine (updateStructuredMemoryItem_yields env input db).leaves (KeepsBodies.refl db) ?_
    rintro - left (rfl | ⟨item, -, -, -, rfl⟩)
    · exact KeepsBodies.refl _
    · exact keepsBodies_invalidate _ _ _
  | deleteItem memoryId deletedAt =>
    refine (deleteStructuredMemoryItem_yields env memoryId deletedAt db).leaves
      (KeepsBodies.refl db) ?_
    rintro - left (⟨-, -, rfl⟩ | ⟨-, item, -, rfl⟩)
    · exact KeepsBodies.refl _
    · exact keepsBodies_invalidate db _ _
  | setAuthorization input =>
    refine (setStructuredMemoryAuthorization_yields env input db).leaves
      (KeepsBodies.refl db) ?_
    rintro - left ⟨row, select, rfl⟩
    exact keepsBodies_invalidate (db.authorize row) _ _
  | createPreview input previewId => exact absurd rfl (hother input previewId)
  | approvePreview input =>
    refine (approveStructuredMemoryContextPreview_yields env input db).leaves
      (KeepsBodies.refl db) ?_
    rintro - left ⟨preview, -, -, -, -, -, rfl⟩
    exact keepsBodies_map rfl rfl fun known => by split_ifs <;> rfl
  | createContext input =>
    refine (createStructuredMemoryExecutionContext_yields env input db).leaves
      (KeepsBodies.refl db) ?_
    intro selection left houtcome
    cases houtcome with
    | nothing => exact KeepsBodies.refl db
    | stale preview => exact keepsBodies_invalidate db _ _
    | replayed => exact KeepsBodies.refl db
    | consumed => exact keepsBodies_map rfl rfl fun known => by split_ifs <;> rfl
  | runMaintenance executedAt =>
    exact (keepsBodies_maintenance.run executedAt db).invariant (I := KeepsBodies db)
      (KeepsBodies.refl db) fun _ _ _ hkept hstep => hkept.trans hstep
  | relationshipChange peerTetiId => exact KeepsBodies.refl db

lemma createPreview_previews (db : Database) (input : StructuredMemoryPreviewInput)
    (previewId : String) :
    ∀ preview ∈ ((Operation.createPreview input previewId).perform env db).previews,
      (∃ old ∈ db.previews, old.body = preview.body)
        ∨ preview = previewRow env db input previewId := by
  refine (createStructuredMemoryContextPreview_yields env input previewId db).leaves
    (R := fun left => ∀ preview ∈ left.previews, (∃ old ∈ db.previews, old.body = preview.body)
      ∨ preview = previewRow env db input previewId)
    (fun preview hpreview => .inl ⟨preview, hpreview, rfl⟩) ?_
  rintro - left ⟨-, -, rfl⟩ preview hpreview
  rcases List.mem_append.mp hpreview with hold | hnew
  · exact .inl (((keepsBodies_filter db _).trans (keepsBodies_invalidate _ _ _)) preview hold)
  · exact .inr (List.mem_singleton.mp hnew)

/-! ### Previews of one peer -/

variable (env) in
/-- Whatever a preview shows of a task is of a task of its peer. -/
def PreviewsOwn (db : Database) : Prop :=
  ∀ preview ∈ db.previews, ∀ candidate ∈ preview.candidates, candidate.scope = .task →
    ∃ source ∈ db.stages, candidate.memoryId = itemMemoryId env source.memoryId
      ∧ source.peerTetiId = preview.peerTetiId

/-- A new preview that is apart shows items of its peer. -/
lemma previewRow_own {input : StructuredMemoryPreviewInput} {previewId : String}
    (hitems : ItemsCoherent env db) (hapart : PreviewApart db input) :
    ∀ candidate ∈ (previewRow env db input previewId).candidates, candidate.scope = .task →
      ∃ source ∈ db.stages, candidate.memoryId = itemMemoryId env source.memoryId
        ∧ source.peerTetiId = input.peerTetiId := by
  intro candidate hcandidate hscope
  obtain ⟨shown, hshown, rfl⟩ := List.mem_map.mp hcandidate
  obtain ⟨item, hitem, hsame⟩ := mem_selectCandidates hshown
  rw [mem_eligibleItems] at hitem
  have hid : shown.memoryId = item.memoryId :=
    congrArg StructuredMemoryItemSummary.memoryId hsame
  have htask : item.scope = .task :=
    (congrArg StructuredMemoryItemSummary.scope hsame :).symm.trans hscope
  have hsource : item.sourceTaskId = input.taskId := by
    simpa [ItemRow.inScope, htask] using hitem.inScope
  obtain ⟨source, hmem, hmade⟩ := hitems.madeFrom item hitem.known
  refine ⟨source, hmem, hid.trans hmade.memoryId, hmade.peerTetiId.symm.trans ?_⟩
  exact hapart item hitem.known htask hsource hitem.childAgentId hitem.unexpired

/-- **An operation that is apart keeps previews to their peers.** -/
lemma PreviewsOwn.perform (h : PreviewsOwn env db) (hitems : ItemsCoherent env db)
    {operation : Operation} (hapart : Apart env db operation) :
    PreviewsOwn env (operation.perform env db) := by
  have hchanges : Changes env (approvals [operation]) db (operation.perform env db) :=
    perform_changes db operation
  have hstages := hchanges.keeps_stages
  intro preview hpreview candidate hcandidate hscope
  have hbefore : ∃ source ∈ db.stages, candidate.memoryId = itemMemoryId env source.memoryId
      ∧ source.peerTetiId = preview.peerTetiId := by
    have hkept : (∃ old ∈ db.previews, old.body = preview.body) →
        ∃ source ∈ db.stages, candidate.memoryId = itemMemoryId env source.memoryId
          ∧ source.peerTetiId = preview.peerTetiId := by
      rintro ⟨old, hold, hsame⟩
      have hpeer : old.peerTetiId = preview.peerTetiId := (congrArg PreviewRow.peerTetiId hsame :)
      have hcandidates : old.candidates = preview.candidates :=
        (congrArg PreviewRow.candidates hsame :)
      rw [← hpeer]
      exact h old hold candidate (hcandidates ▸ hcandidate) hscope
    cases operation with
    | createPreview input previewId =>
      rcases createPreview_previews db input previewId preview hpreview with hold | rfl
      · exact hkept hold
      · exact previewRow_own hitems hapart candidate hcandidate hscope
    | _ => exact hkept (perform_keepsBodies db (fun _ _ h => by cases h) preview hpreview)
  obtain ⟨source, hsource, hid, hpeer⟩ := hbefore
  obtain ⟨kept, hkept, hsame⟩ := hstages source hsource
  have hkeptid : kept.memoryId = source.memoryId := (congrArg StageRow.memoryId hsame :)
  have hkeptpeer : kept.peerTetiId = source.peerTetiId := (congrArg StageRow.peerTetiId hsame :)
  exact ⟨kept, hkept, hkeptid ▸ hid, hkeptpeer.trans hpeer⟩

/-- What lies in a scope that is open is the peer's, or opened by the owner, if what is
kept for a task is the peer's. -/
lemma ItemsCoherent.openTo (h : ItemsCoherent env db) {item : ItemRow} (hitem : item ∈ db.items)
    {identity : ContextIdentity} (hscope : item.inScope identity = true)
    (hopens : db.opens item.scope identity = true)
    (htask : item.scope = .task → item.peerTetiId = identity.peerTetiId) :
    OpenTo db item identity := by
  have hown : item.peerTetiId = identity.peerTetiId → OpenTo db item identity := by
    refine fun hpeer => .inl fun source hsource hid => ?_
    obtain ⟨other, hother, hmade⟩ := h.madeFrom item hitem
    obtain rfl : source = other :=
      List.inj_on_of_nodup_map h.stageIds hsource hother (hid.trans hmade.sourceMemoryId)
    exact hmade.peerTetiId.symm.trans hpeer
  cases hkind : item.scope with
  | task => exact hown (htask hkind)
  | workspace => exact .inr ⟨hkind, by rwa [hkind] at hopens⟩
  | peer => exact hown (by simpa [ItemRow.inScope, hkind] using hscope)

/-- **A preview that is apart is isolated.** -/
lemma PreviewApart.isolated (hitems : ItemsCoherent env db) {input : StructuredMemoryPreviewInput}
    (h : PreviewApart db input) (previewId : String) :
    Isolated env db (.createPreview input previewId) := by
  intro preview left hexec candidate hcandidate
  obtain ⟨rfl, -, -⟩ :=
    (createStructuredMemoryContextPreview_yields env input previewId db).ok rfl hexec
  obtain ⟨item, hitem, hsame⟩ := mem_selectCandidates hcandidate
  rw [mem_eligibleItems] at hitem
  refine ⟨item, hitem.known, hsame.symm, hitems.openTo hitem.known hitem.inScope hitem.opened
    fun htask => h item hitem.known htask ?_ hitem.childAgentId hitem.unexpired⟩
  simpa [ItemRow.inScope, htask] using hitem.inScope

/-- **What an execution is handed is isolated**, if the previews are. -/
lemma PreviewsOwn.isolated {approved : Set PreviewApprovalInput} (h : PreviewsOwn env db)
    (hdb : Coherent env approved db) (hids : CollisionFree env db)
    (input : StructuredMemoryExecutionInput) : Isolated env db (.createContext input) := by
  intro selection left hhands record hrecord
  rcases hdb.handedOut hhands.outcome with rfl | ⟨preview, items, hout⟩
  · cases hrecord
  · rw [hout.records] at hrecord
    obtain ⟨item, hitem, rfl⟩ := List.mem_map.mp hrecord
    obtain ⟨candidate, hcandidate, hfound⟩ := exists_of_mem_right hout.found hitem
    have hincluded := mem_selected.mp hcandidate
    have hinjected := hdb.injectedItem hids hout.known hout.approved hout.serves hout.current
      hincluded hfound
    refine ⟨item, hinjected.kept, rfl,
      hdb.items.openTo hinjected.kept hinjected.inScope hinjected.opened fun htask => ?_⟩
    obtain ⟨source, hsource, hid, hpeer⟩ := h preview hout.known candidate
      (List.mem_of_mem_filter hincluded) (hinjected.unchanged.scope.symm.trans htask)
    obtain ⟨other, hother, hmade⟩ := hdb.items.madeFrom item hinjected.kept
    have hsame : source.memoryId = other.memoryId := hids source hsource other hother
      (hid.symm.trans (hinjected.unchanged.memoryId.symm.trans hmade.memoryId))
    rw [hmade.peerTetiId, ← List.inj_on_of_nodup_map hdb.items.stageIds hsource hother hsame, hpeer,
      hout.serves.peerTetiId]

/-! ### The law -/

lemma RunApart.of_append {operations later : List Operation}
    (h : RunApart env db (operations ++ later)) :
    RunApart env db operations ∧ RunApart env (runFrom env db operations) later := by
  induction operations generalizing db with
  | nil => exact ⟨trivial, h⟩
  | cons operation operations ih =>
    obtain ⟨hfirst, hrest⟩ := h
    obtain ⟨hbefore, hlater⟩ := ih hrest
    exact ⟨⟨hfirst, hbefore⟩, hlater⟩

/-- A run that is apart keeps previews to their peers. -/
lemma RunApart.previewsOwn {operations : List Operation} (h : RunApart env db operations)
    (hdb : Coherent env Set.univ db) (hown : PreviewsOwn env db) :
    PreviewsOwn env (runFrom env db operations) := by
  induction operations generalizing db with
  | nil => exact hown
  | cons operation operations ih =>
    obtain ⟨hfirst, hrest⟩ := h
    have hstep : Changes env Set.univ db (operation.perform env db) :=
      (perform_changes db operation).mono (Set.subset_univ _)
    exact ih hrest (hdb.changes hstep) (hown.perform hdb.items hfirst)

/-- **The memory of a peer is isolated from other peers' tasks** in a run whose
operations are all apart. -/
theorem memory_isolated (env : MemoryEnv) (featureEnabledAt : TimeText) (before : List Operation)
    (operation : Operation)
    (hapart : RunApart env (.created featureEnabledAt) (before ++ [operation]))
    (hids : CollisionFree env (run env featureEnabledAt before)) :
    Isolated env (run env featureEnabledAt before) operation := by
  obtain ⟨hbefore, hlast, -⟩ := hapart.of_append
  have hown : PreviewsOwn env (run env featureEnabledAt before) :=
    hbefore.previewsOwn (coherent_created featureEnabledAt) nofun
  have hdb : Coherent env (approvals before) (run env featureEnabledAt before) :=
    run_coherent featureEnabledAt before
  change Apart env (run env featureEnabledAt before) operation at hlast
  cases operation with
  | saveStage input => exact SaveApart.isolated hlast
  | createPreview input previewId => exact PreviewApart.isolated hdb.items hlast previewId
  | createContext input => exact hown.isolated hdb hids input
  | _ => trivial

instance (item : ItemRow) (identity : ContextIdentity) : Decidable (OpenTo db item identity) :=
  inferInstanceAs (Decidable (_ ∨ _))

/-- Two peers choose one task id: a preview shows the one what is kept for the task of the
other, and a stage of the one cannot be saved. -/
theorem equal_task_ids_not_isolated :
    ¬Isolated plainMemoryEnv (run plainMemoryEnv (exampleTime 0) exampleConfirmation)
        (.createPreview (examplePreview "t" "bob") "p")
      ∧ ¬Isolated plainMemoryEnv (run plainMemoryEnv (exampleTime 0) exampleConfirmation)
        (.saveStage (exampleStage "t" "bob" "b")) := by
  constructor
  · intro h
    have hshown : ((createStructuredMemoryContextPreview plainMemoryEnv (examplePreview "t" "bob")
        "p").exec (run plainMemoryEnv (exampleTime 0) exampleConfirmation)).1.toOption.any
          (fun preview => !preview.candidates.isEmpty) = true := by decide +kernel
    have hclosed : ∀ item ∈ (run plainMemoryEnv (exampleTime 0) exampleConfirmation).items,
        ¬OpenTo (run plainMemoryEnv (exampleTime 0) exampleConfirmation) item
          (examplePreview "t" "bob").toContextIdentity := by decide +kernel
    rcases hexec : (createStructuredMemoryContextPreview plainMemoryEnv (examplePreview "t" "bob")
      "p").exec (run plainMemoryEnv (exampleTime 0) exampleConfirmation) with ⟨_ | preview, left⟩
    · rw [hexec] at hshown
      cases hshown
    · rw [hexec] at hshown
      cases hcandidates : preview.candidates with
      | nil => simp [Except.toOption, hcandidates] at hshown
      | cons candidate candidates =>
        obtain ⟨item, hitem, -, hopen⟩ := h preview left hexec candidate (by simp [hcandidates])
        exact hclosed item hitem hopen
  · intro h
    have hown : ((saveStage plainMemoryEnv (exampleStage "t" "bob" "b")).exec
        ((run plainMemoryEnv (exampleTime 0) exampleConfirmation).own "bob")).1.toOption
          = some () := by decide +kernel
    have hfails : ((saveStage plainMemoryEnv (exampleStage "t" "bob" "b")).exec
        (run plainMemoryEnv (exampleTime 0) exampleConfirmation)).1.toOption = none := by
      decide +kernel
    rcases hexec : (saveStage plainMemoryEnv (exampleStage "t" "bob" "b")).exec
      ((run plainMemoryEnv (exampleTime 0) exampleConfirmation).own "bob") with ⟨_ | ⟨⟩, left⟩
    · rw [hexec] at hown
      cases hown
    · obtain ⟨kept, hkept, -⟩ := h left hexec
      rw [hkept] at hfails
      cases hfails

/-- Two peers choose different task ids: one has a stage saved, confirmed, previewed and
approved, and the other a stage saved; then the one has an execution. -/
theorem memory_isolated_example :
    Isolated plainMemoryEnv (run plainMemoryEnv (exampleTime 0)
        (exampleApproval ++ [.saveStage (exampleStage "u" "bob" "bbbbbb")]))
      (.createContext (exampleContext "t" "alice")) :=
  memory_isolated plainMemoryEnv (exampleTime 0) _ _ (by decide +kernel) (by decide +kernel)

end TetiBot.Memory

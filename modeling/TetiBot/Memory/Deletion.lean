import TetiBot.Memory.Approval

/-
Deleted memory is never resurrected.

* `Change.keeps_deleted`, `Change.keeps_item`: what is deleted stays deleted, and an
  item goes only by a deletion of its source.
* `ShadowsSilent`: no manifest that was stored since names the source.
* `Unrecoverable`: what every reader returns, and what saving the source again does.
* `deleted_memory_unrecoverable`: from the owner's delete on, whatever happens.
-/

namespace TetiBot.Memory

open Library Library.JsString Program

variable {env : MemoryEnv} {approved : Set PreviewApprovalInput} {db left : Database}

/-! ### Deletions under changes -/

lemma Changes.keeps_stages (h : Changes env approved db left) :
    ∀ row ∈ db.stages, ∃ kept ∈ left.stages, kept.identity = row.identity :=
  h.invariant (I := fun left => ∀ row ∈ db.stages, ∃ kept ∈ left.stages,
      kept.identity = row.identity) (fun row hrow => ⟨row, hrow, rfl⟩)
    fun _ _ _ hkept hstep row hrow => by
      obtain ⟨kept, hmem, hsame⟩ := hkept row hrow
      obtain ⟨later, hlater, hsame'⟩ := hstep.keeps_stages kept hmem
      exact ⟨later, hlater, hsame'.trans hsame⟩

variable {item : ItemRow}

lemma Changes.madeFrom (h : Changes env approved db left)
    (hmade : ∃ source ∈ db.stages, MadeFrom env item source) :
    ∃ source ∈ left.stages, MadeFrom env item source := by
  obtain ⟨source, hsource, hmade⟩ := hmade
  obtain ⟨kept, hkept, hsame⟩ := h.keeps_stages source hsource
  exact ⟨kept, hkept, hmade.of_identity hsame⟩

/-- Ids that do not collide later do not collide now. -/
lemma CollisionFree.before (hids : CollisionFree env left) (h : Changes env approved db left) :
    CollisionFree env db := by
  intro source hsource other hother hsame
  obtain ⟨kept, hkept, hid⟩ := h.keeps_stages source hsource
  obtain ⟨kept', hkept', hid'⟩ := h.keeps_stages other hother
  have hid : kept.memoryId = source.memoryId := (congrArg StageRow.memoryId hid :)
  have hid' : kept'.memoryId = other.memoryId := (congrArg StageRow.memoryId hid' :)
  rw [← hid, ← hid'] at hsame ⊢
  exact hids kept hkept kept' hkept' hsame

variable {sourceMemoryId : String}

/-- **What is deleted stays deleted.** -/
lemma Change.keeps_deleted (h : Change env approved db left)
    (hdeleted : db.sourceDeleted sourceMemoryId = true) :
    left.sourceDeleted sourceMemoryId = true := by
  cases h with
  | itemRemoved item deletedAt reasonCode known settled =>
    exact sourceDeleted_removeItem.mpr (.inl hdeleted)
  | _ => exact hdeleted

lemma Changes.keeps_deleted (h : Changes env approved db left)
    (hdeleted : db.sourceDeleted sourceMemoryId = true) :
    left.sourceDeleted sourceMemoryId = true :=
  h.invariant (I := fun left => left.sourceDeleted sourceMemoryId = true) hdeleted
    fun _ _ _ hd hstep => hstep.keeps_deleted hd

/-- The item made from a source is there, or was deleted. -/
def KeptOrDeleted (item : ItemRow) (db : Database) : Prop :=
  (∃ kept ∈ db.items, kept.memoryId = item.memoryId ∧ kept.sourceMemoryId = item.sourceMemoryId)
    ∨ db.sourceDeleted item.sourceMemoryId = true

/-- **An item goes only by a deletion of its source.** -/
lemma Change.keeps_item (h : Change env approved db left) (hitems : ItemsCoherent env db)
    (hitem : KeptOrDeleted item db) : KeptOrDeleted item left := by
  have hsame : ∀ kept ∈ db.items, ∀ other ∈ db.items, kept.memoryId = other.memoryId →
      kept = other := fun kept hkept other hother =>
    List.inj_on_of_nodup_map hitems.itemIds hkept hother
  rcases hitem with ⟨kept, hkept, hid, hsource⟩ | hdeleted
  · cases h with
    | itemConfirmed source input new =>
      exact .inl ⟨kept, List.mem_append_left _ hkept, hid, hsource⟩
    | itemEdited edited input known workspace settled =>
      refine .inl ⟨_, List.mem_map_of_mem hkept, ?_⟩
      split_ifs with hedited
      · obtain rfl := hsame kept hkept edited known hedited
        exact ⟨hid, hsource⟩
      · exact ⟨hid, hsource⟩
    | itemRemoved removed deletedAt reasonCode known settled =>
      by_cases hremoved : kept.memoryId = removed.memoryId
      · obtain rfl := hsame kept hkept removed known hremoved
        exact .inr (sourceDeleted_removeItem.mpr (.inr hsource))
      · exact .inl ⟨kept, List.mem_filter.mpr ⟨hkept, by simpa using hremoved⟩, hid, hsource⟩
    | _ => exact .inl ⟨kept, hkept, hid, hsource⟩
  · exact .inr (h.keeps_deleted hdeleted)

lemma Changes.keeps_item (h : Changes env approved db left) (hdb : Coherent env approved db)
    (hitem : KeptOrDeleted item db) : KeptOrDeleted item left :=
  h.invariant (I := KeptOrDeleted item) hitem fun _ _ hbefore hkept hstep =>
    hstep.keeps_item (hdb.changes hbefore).items hkept

/-- **The owner's delete deletes the source**, also when the item is gone already. -/
lemma deleted_of_delete {deletedAt : TimeText} {deleted : Bool} (hdb : Coherent env approved db)
    (hids : CollisionFree env db) (hitem : KeptOrDeleted item db)
    (hmade : ∃ source ∈ db.stages, MadeFrom env item source)
    (hdelete : (deleteStructuredMemoryItem env item.memoryId deletedAt).exec db
      = (.ok deleted, left)) : left.sourceDeleted item.sourceMemoryId = true := by
  rcases (deleteStructuredMemoryItem_yields env item.memoryId deletedAt db).ok rfl hdelete with
    ⟨-, hnone, rfl⟩ | ⟨-, found, hfound, rfl⟩
  · refine hitem.resolve_left ?_
    rintro ⟨kept, hkept, hid, -⟩
    simpa [hid] using List.find?_eq_none.mp hnone kept hkept
  · obtain ⟨hknown, hid⟩ := item?_eq_some hfound
    obtain ⟨source, hsource, hmade⟩ := hmade
    obtain ⟨other, hother, hfoundMade⟩ := hdb.items.madeFrom found hknown
    have hsame : other.memoryId = source.memoryId := hids other hother source hsource
      (hfoundMade.memoryId.symm.trans (hid.trans hmade.memoryId))
    refine sourceDeleted_removeItem.mpr (.inr ?_)
    rw [hfoundMade.sourceMemoryId, hmade.sourceMemoryId, hsame]

/-- Every manifest that is not among `stored` names other stage memories only. -/
def ShadowsSilent (stored : List ShadowManifest) (sourceMemoryId : String) (db : Database) :
    Prop :=
  ∀ manifest ∈ db.shadows, manifest ∈ stored
    ∨ ∀ candidate ∈ manifest.candidates, candidate.memoryId ≠ sourceMemoryId

/-- A new manifest names no deleted stage memory: that one is empty. -/
lemma ItemsCoherent.silent_of_names (h : ItemsCoherent env db)
    (hdeleted : db.sourceDeleted sourceMemoryId = true) {manifest : ShadowManifest}
    (names : NamesStages db manifest) :
    ∀ candidate ∈ manifest.candidates, candidate.memoryId ≠ sourceMemoryId := by
  intro candidate hcandidate hid
  obtain ⟨row, hrow, hrowid, hfilled⟩ := names candidate hcandidate
  exact hfilled (h.emptied row hrow (by rw [hrowid, hid, hdeleted]))

lemma Change.keeps_silent (h : Change env approved db left) (hitems : ItemsCoherent env db)
    {stored : List ShadowManifest} (hdeleted : db.sourceDeleted sourceMemoryId = true)
    (hsilent : ShadowsSilent stored sourceMemoryId db) :
    ShadowsSilent stored sourceMemoryId left := by
  cases h with
  | shadowStored manifest names =>
    intro known hknown
    rcases List.mem_append.mp hknown with hold | hnew
    · exact hsilent known hold
    · obtain rfl := List.mem_singleton.mp hnew
      exact .inr (hitems.silent_of_names hdeleted names)
  | _ => exact hsilent

/-- **What holds from a deletion on.** -/
lemma Changes.silent (h : Changes env approved db left) (hdb : Coherent env approved db)
    (hdeleted : db.sourceDeleted sourceMemoryId = true) :
    ShadowsSilent db.shadows sourceMemoryId left :=
  h.invariant (I := ShadowsSilent db.shadows sourceMemoryId) (fun _ => .inl)
    fun _ _ hbefore hsilent hstep =>
      hstep.keeps_silent (hdb.changes hbefore).items (Changes.keeps_deleted hbefore hdeleted) hsilent

/-! ### What the readers return -/

/-- No reader returns a deleted item, or its source, again; `stored` are the manifests
of before. -/
structure Unrecoverable (env : MemoryEnv) (stored : List ShadowManifest) (db : Database)
    (item : ItemRow) : Prop where
  sourceDraft : ∀ sourceMemoryId draft,
    getStructuredMemorySourceDraft db sourceMemoryId = .ok (some draft) →
      draft.sourceMemoryId ≠ item.sourceMemoryId
        ∧ ∀ existing ∈ draft.existingItem, existing.memoryId ≠ item.memoryId
  itemDetail : ∀ lookup detail, getStructuredMemoryItem db lookup = .ok (some detail) →
    detail.memoryId ≠ item.memoryId ∧ detail.sourceMemoryId ≠ item.sourceMemoryId
  shadowManifest : ∀ input manifest left,
    (createShadowManifest env input).exec db = (.ok manifest, left) →
      manifest ∈ stored
        ∨ ∀ candidate ∈ manifest.candidates, candidate.memoryId ≠ item.sourceMemoryId
  preview : ∀ input previewId preview left,
    (createStructuredMemoryContextPreview env input previewId).exec db = (.ok preview, left) →
      ∀ candidate ∈ preview.candidates,
        candidate.memoryId ≠ item.memoryId ∧ candidate.sourceMemoryId ≠ item.sourceMemoryId
  context : ∀ input selection left, Hands env db input selection left →
    ∀ record ∈ selection.records, record.memoryId ≠ item.memoryId
  /-- The source is kept, and empty. -/
  source : ∃ row ∈ db.stages, row.memoryId = item.sourceMemoryId ∧ row.content = []
    -- Whatever saves the stage again, or another artifact in its place, changes nothing.
    ∧ ∀ input : LongHorizonStageMemoryInput, stageMemoryId env input = row.memoryId
        ∨ input.artifactId = row.artifactId
        ∨ input.taskId = row.taskId ∧ input.stageIndex = row.stageIndex →
      ((saveStage env input).exec db).2 = db

/-- The items that are left are made from other sources, under other ids. -/
lemma ItemsCoherent.apart (h : ItemsCoherent env db) (hids : CollisionFree env db)
    (hmade : ∃ source ∈ db.stages, MadeFrom env item source)
    (hdeleted : db.sourceDeleted item.sourceMemoryId = true) :
    ∀ known ∈ db.items,
      known.memoryId ≠ item.memoryId ∧ known.sourceMemoryId ≠ item.sourceMemoryId := by
  intro known hknown
  have hsource : known.sourceMemoryId ≠ item.sourceMemoryId := fun hsame => by
    simp [← hsame, h.undeleted known hknown] at hdeleted
  refine ⟨fun hid => hsource ?_, hsource⟩
  obtain ⟨source, hmem, hmade⟩ := hmade
  obtain ⟨other, hother, hknownMade⟩ := h.madeFrom known hknown
  rw [hknownMade.sourceMemoryId, hmade.sourceMemoryId]
  exact hids other hother source hmem
    (hknownMade.memoryId.symm.trans (hid.trans hmade.memoryId))

/-- A stage whose place is taken, or whose artifact or id is, is not stored. -/
lemma saveStage_known {row : StageRow} (hrow : row ∈ db.stages)
    {input : LongHorizonStageMemoryInput}
    (hknown : stageMemoryId env input = row.memoryId ∨ input.artifactId = row.artifactId
      ∨ input.taskId = row.taskId ∧ input.stageIndex = row.stageIndex) :
    ((saveStage env input).exec db).2 = db := by
  have h := saveStage_yields env input db db rfl
  rcases hr : (saveStage env input).exec db with ⟨r | a, left⟩ <;> rw [hr] at h
  · exact h
  · refine h.resolve_right ?_
    rintro ⟨-, hnew, -⟩
    rcases hknown with hid | hartifact | hplace
    · exact hnew.memoryId row hrow hid.symm
    · exact hnew.artifactId row hrow hartifact.symm
    · exact hnew.place row hrow ⟨hplace.1.symm, hplace.2.symm⟩

lemma sourceDraft_apart (hdeleted : db.sourceDeleted item.sourceMemoryId = true)
    (hapart : ∀ known ∈ db.items, known.memoryId ≠ item.memoryId)
    {draft : StructuredMemorySourceDraft}
    (hdraft : getStructuredMemorySourceDraft db sourceMemoryId = .ok (some draft)) :
    draft.sourceMemoryId ≠ item.sourceMemoryId
      ∧ ∀ existing ∈ draft.existingItem, existing.memoryId ≠ item.memoryId := by
  rw [getStructuredMemorySourceDraft, requireSafeId, failIf_bind_eq_ok] at hdraft
  obtain ⟨-, hdraft⟩ := hdraft
  split_ifs at hdraft with hsource
  · cases Except.ok.inj hdraft
  · obtain ⟨row, hrow, rfl⟩ := Option.map_eq_some_iff.mp (Except.ok.inj hdraft)
    obtain ⟨-, hid⟩ := stage?_eq_some hrow
    refine ⟨fun hsame => hsource ?_, fun existing hexisting => ?_⟩
    · rw [← hid, show row.memoryId = item.sourceMemoryId from hsame, hdeleted]
    · obtain ⟨known, hknown, rfl⟩ := Option.map_eq_some_iff.mp hexisting
      exact hapart known (List.mem_of_find?_eq_some hknown)

lemma itemDetail_of_item {lookup : MemoryLookup} {detail : StructuredMemoryItemDetail}
    (h : getStructuredMemoryItem db lookup = .ok (some detail)) :
    ∃ item ∈ db.items, item.toDetail = detail := by
  unfold getStructuredMemoryItem at h
  rw [requireSafeId, failIf_bind_eq_ok] at h
  obtain ⟨-, h⟩ := h
  cases lookup with
  | memoryId value =>
    obtain ⟨item, hitem, hdetail⟩ := Option.map_eq_some_iff.mp (Except.ok.inj h)
    exact ⟨item, List.mem_of_find?_eq_some hitem, hdetail⟩
  | sourceMemoryId value =>
    obtain ⟨item, hitem, hdetail⟩ := Option.map_eq_some_iff.mp (Except.ok.inj h)
    exact ⟨item, List.mem_of_find?_eq_some hitem, hdetail⟩

/-- The records that an execution is handed are records of items. -/
lemma Coherent.record_of_item (h : Coherent env approved db)
    {input : StructuredMemoryExecutionInput} {selection : StructuredMemoryExecutionSelection}
    (hhands : Hands env db input selection left) :
    ∀ record ∈ selection.records, ∃ item ∈ db.items, item.toRecord = record := by
  intro record hrecord
  rcases h.handedOut hhands.outcome with rfl | ⟨preview, items, hout⟩
  · cases hrecord
  · rw [hout.records] at hrecord
    obtain ⟨item, hitem, hsame⟩ := List.mem_map.mp hrecord
    obtain ⟨candidate, -, hfound⟩ := exists_of_mem_right hout.found hitem
    exact ⟨item, (item?_eq_some hfound).1, hsame⟩

/-- **A deleted source is unrecoverable**, and so is the item made from it. -/
theorem Coherent.unrecoverable (h : Coherent env approved db) (hids : CollisionFree env db)
    (hmade : ∃ source ∈ db.stages, MadeFrom env item source)
    (hdeleted : db.sourceDeleted item.sourceMemoryId = true) {stored : List ShadowManifest}
    (hsilent : ShadowsSilent stored item.sourceMemoryId db) : Unrecoverable env stored db item := by
  have hapart := h.items.apart hids hmade hdeleted
  constructor
  · exact fun sourceMemoryId draft => sourceDraft_apart hdeleted fun known hknown =>
      (hapart known hknown).1
  · intro lookup detail hdetail
    obtain ⟨known, hknown, rfl⟩ := itemDetail_of_item hdetail
    exact hapart known hknown
  · intro input manifest left hexec
    rcases (createShadowManifest_yields env input db).ok rfl hexec with ⟨hold, -⟩ | ⟨rfl, -⟩
    · exact hsilent manifest hold
    · exact .inr (h.items.silent_of_names hdeleted (shadowManifest_namesStages env db input))
  · intro input previewId preview left hexec candidate hcandidate
    obtain ⟨rfl, -, -⟩ :=
      (createStructuredMemoryContextPreview_yields env input previewId db).ok rfl hexec
    obtain ⟨known, hknown, hsame⟩ := mem_selectCandidates hcandidate
    obtain ⟨hid, hsource⟩ := hapart known (mem_eligibleItems.mp hknown).known
    exact ⟨(congrArg StructuredMemoryItemSummary.memoryId hsame :).trans_ne hid,
      (congrArg StructuredMemoryItemSummary.sourceMemoryId hsame :).trans_ne hsource⟩
  · intro input selection left hhands record hrecord
    obtain ⟨known, hknown, rfl⟩ := h.record_of_item hhands record hrecord
    exact (hapart known hknown).1
  · obtain ⟨source, hsource, hmade⟩ := hmade
    refine ⟨source, hsource, hmade.sourceMemoryId.symm, ?_, fun input =>
      saveStage_known hsource⟩
    exact h.items.emptied source hsource (by rw [← hmade.sourceMemoryId, hdeleted])

/-! ### The law -/

/-- **Deleted memory is never resurrected.**  Once the owner's delete of an item has
returned, no reader returns the item or its source again, whatever operations follow. -/
theorem deleted_memory_unrecoverable (env : MemoryEnv) (featureEnabledAt : TimeText)
    (before between after : List Operation) (item : ItemRow) (deletedAt : TimeText)
    (deleted : Bool) (left : Database) (hitem : item ∈ (run env featureEnabledAt before).items)
    (hdelete : (deleteStructuredMemoryItem env item.memoryId deletedAt).exec
      (run env featureEnabledAt (before ++ between)) = (.ok deleted, left))
    (hids : CollisionFree env (runFrom env left after)) :
    Unrecoverable env left.shadows (runFrom env left after) item := by
  -- What the owner approved plays no part.
  have hfirst : Coherent env Set.univ (run env featureEnabledAt before) :=
    (run_coherent featureEnabledAt before).mono (Set.subset_univ _)
  rw [run_append] at hdelete
  generalize run env featureEnabledAt before = first at hitem hdelete hfirst
  have hbetween : Changes env Set.univ first (runFrom env first between) :=
    (runFrom_changes first between).mono (Set.subset_univ _)
  have hsecond := hfirst.changes hbetween
  have hmade := hbetween.madeFrom (hfirst.items.madeFrom item hitem)
  have hkept := hbetween.keeps_item hfirst (.inl ⟨item, hitem, rfl, rfl⟩)
  generalize runFrom env first between = second at hdelete hsecond hmade hkept
  have hremoval : Changes env Set.univ second left := by
    have hperform : Changes env Set.univ second _ :=
      (perform_changes second (.deleteItem item.memoryId deletedAt)).mono (Set.subset_univ _)
    rwa [Operation.perform, hdelete] at hperform
  have hafter : Changes env Set.univ left (runFrom env left after) :=
    (runFrom_changes left after).mono (Set.subset_univ _)
  have hdeleted : left.sourceDeleted item.sourceMemoryId = true :=
    deleted_of_delete hsecond (hids.before (hremoval.trans hafter)) hkept hmade hdelete
  have hleft := hsecond.changes hremoval
  exact (hleft.changes hafter).unrecoverable hids (hafter.madeFrom (hremoval.madeFrom hmade))
    (hafter.keeps_deleted hdeleted) (hafter.silent hleft hdeleted)

/-- A stage is saved and confirmed. -/
def exampleConfirmation : List Operation :=
  [.saveStage (exampleStage "t" "alice" "a"), .createItem (exampleItem "lhm_5")]

/-- The item is deleted, the stage is saved again, and confirmed again. -/
theorem deleted_memory_unrecoverable_example :
    ∃ item ∈ (run plainMemoryEnv (exampleTime 0) exampleConfirmation).items, ∃ left,
      (deleteStructuredMemoryItem plainMemoryEnv item.memoryId (exampleTime 4)).exec
          (run plainMemoryEnv (exampleTime 0) exampleConfirmation) = (.ok true, left)
        ∧ Unrecoverable plainMemoryEnv left.shadows
          (runFrom plainMemoryEnv left exampleConfirmation) item := by
  have hids : CollisionFree plainMemoryEnv (runFrom plainMemoryEnv
      ((deleteStructuredMemoryItem plainMemoryEnv "smi_5" (exampleTime 4)).exec
        (run plainMemoryEnv (exampleTime 0) exampleConfirmation)).2 exampleConfirmation) := by
    decide +kernel
  have hdeleted : ((deleteStructuredMemoryItem plainMemoryEnv "smi_5" (exampleTime 4)).exec
      (run plainMemoryEnv (exampleTime 0) exampleConfirmation)).1.toOption = some true := by
    decide +kernel
  have hitem : ((run plainMemoryEnv (exampleTime 0) exampleConfirmation).item? "smi_5").isSome
      = true := by decide +kernel
  obtain ⟨item, hitem⟩ := Option.isSome_iff_exists.mp hitem
  obtain ⟨hknown, hid⟩ := item?_eq_some hitem
  rcases hexec : (deleteStructuredMemoryItem plainMemoryEnv "smi_5" (exampleTime 4)).exec
    (run plainMemoryEnv (exampleTime 0) exampleConfirmation) with ⟨_ | deleted, left⟩
  · rw [hexec] at hdeleted
    cases hdeleted
  · rw [hexec] at hids hdeleted
    obtain rfl : deleted = true := Option.some.inj hdeleted
    rw [← hid] at hexec
    exact ⟨item, hknown, left, hexec, deleted_memory_unrecoverable plainMemoryEnv (exampleTime 0)
      exampleConfirmation [] exampleConfirmation item (exampleTime 4) true left hknown hexec hids⟩

end TetiBot.Memory

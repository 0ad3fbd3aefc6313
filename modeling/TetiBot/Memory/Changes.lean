import TetiBot.Library.Transition
import TetiBot.Memory.Outcomes

/-
Runs of the memory store, and what one operation can change.

* `Operation`, `run`: the operations one after another, from a database that was just
  created.  The store runs them serially, whoever calls them.
* `Change`: the single changes that operations are made of.  Which previews the owner
  approved is a parameter.
* `run_reached`: every run is a sequence of changes, so that what every change
  preserves holds after every run.
-/

namespace TetiBot.Memory

open Library Library.JsString Program

/-! ### Runs -/

inductive Operation
  | saveStage (input : LongHorizonStageMemoryInput)
  | createShadowManifest (input : MemoryShadowRetrievalInput)
  | createItem (input : CreateStructuredMemoryItemInput)
  | updateItem (input : UpdateStructuredMemoryItemInput)
  | deleteItem (memoryId : String) (deletedAt : TimeText)
  | setAuthorization (input : StructuredMemoryAuthorizationInput)
  | createPreview (input : StructuredMemoryPreviewInput) (previewId : String)
  | approvePreview (input : PreviewApprovalInput)
  | createContext (input : StructuredMemoryExecutionInput)
  | runMaintenance (executedAt : TimeText)
  /-- A relationship is made, blocked or removed: nothing is written here. -/
  | relationshipChange (peerTetiId : String)
  deriving DecidableEq

section

variable (env : MemoryEnv)

/-- The database that an operation leaves. -/
def Operation.perform (db : Database) : Operation → Database
  | .saveStage input => ((Memory.saveStage env input).exec db).2
  | .createShadowManifest input => ((Memory.createShadowManifest env input).exec db).2
  | .createItem input => ((createStructuredMemoryItem env input).exec db).2
  | .updateItem input => ((updateStructuredMemoryItem env input).exec db).2
  | .deleteItem memoryId deletedAt =>
    ((deleteStructuredMemoryItem env memoryId deletedAt).exec db).2
  | .setAuthorization input => ((setStructuredMemoryAuthorization env input).exec db).2
  | .createPreview input previewId =>
    ((createStructuredMemoryContextPreview env input previewId).exec db).2
  | .approvePreview input => ((approveStructuredMemoryContextPreview env input).exec db).2
  | .createContext input => ((createStructuredMemoryExecutionContext env input).exec db).2
  | .runMaintenance executedAt => ((Memory.runMaintenance env executedAt).exec db).2
  | .relationshipChange _ => db

/-- The database after some operations. -/
def runFrom (db : Database) (operations : List Operation) : Database :=
  operations.foldl (Operation.perform env) db

variable (featureEnabledAt : TimeText) (operations : List Operation)

/-- The database after some operations on a new one. -/
def run : Database :=
  runFrom env (.created featureEnabledAt) operations

lemma run_append (before after : List Operation) : run env featureEnabledAt (before ++ after)
      = runFrom env (run env featureEnabledAt before) after := by
  simp [run, runFrom, List.foldl_append]

/-- What the owner approved in some operations. -/
def approvals : Set PreviewApprovalInput :=
  {input | .approvePreview input ∈ operations}

/-! ### Changes -/

/-- No pending preview names an item. -/
def Settled (db : Database) (memoryId : String) : Prop :=
  ∀ preview ∈ db.previews, preview.pending = true → preview.names memoryId = false

/-- The single changes of the database; `approved` is what the owner approved. -/
inductive Change (approved : Set PreviewApprovalInput) : Database → Database → Prop
  | stageSaved (db : Database) (row : StageRow) (filled : row.content ≠ [])
      (new : NewStage db row) :
      Change approved db { db with stages := db.stages ++ [row] }
  | shadowStored (db : Database) (manifest : ShadowManifest) (names : NamesStages db manifest) :
      Change approved db { db with shadows := db.shadows ++ [manifest] }
  | itemConfirmed (db : Database) (source : StageRow) (input : CreateStructuredMemoryItemInput)
      (new : NewItem env db source input.scope) :
      Change approved db { db with items := db.items ++ [itemRow env source input] }
  | itemEdited (db : Database) (item : ItemRow) (input : UpdateStructuredMemoryItemInput)
      (known : item ∈ db.items) (workspace : input.scope = .workspace → item.workspaceId ≠ none)
      (settled : Settled db item.memoryId) :
      Change approved db (db.setItem (editedRow env item input))
  | itemRemoved (db : Database) (item : ItemRow) (deletedAt : TimeText)
      (reasonCode : DeletionReason) (known : item ∈ db.items) (settled : Settled db item.memoryId) :
      Change approved db (db.removeItem env item deletedAt reasonCode)
  | scopeAuthorized (db : Database) (row : AuthorizationRow) :
      Change approved db (db.authorize row)
  | previewsForgotten (db : Database) (keep : PreviewRow → Bool)
      (unconsumed : ∀ preview ∈ db.previews, keep preview = false →
        preview.consumedAt = none ∨ preview.approvedAt = none) :
      Change approved db { db with previews := db.previews.filter keep }
  | previewsInvalidated (db : Database) (at_ : TimeText) (select : PreviewRow → Bool) :
      Change approved db (db.invalidate at_ select)
  | previewStored (db : Database) (input : StructuredMemoryPreviewInput) (previewId : String)
      (fresh : ∀ known ∈ db.previews, known.previewId ≠ previewId) :
      Change approved db
        { db with previews := db.previews ++ [previewRow env db input previewId] }
  | previewApproved (db : Database) (preview : PreviewRow) (approvedAt : TimeText)
      (known : preview ∈ db.previews) (pending : preview.pending = true)
      (owner : ⟨preview.taskId, preview.previewId, approvedAt⟩ ∈ approved) :
      Change approved db (db.approve preview approvedAt)
  | previewConsumed (db : Database) (preview : PreviewRow) (input : StructuredMemoryExecutionInput)
      (items : List ItemRow) (known : preview ∈ db.previews)
      (usable : preview.usableFor env input = true)
      (found : preview.selected.mapM (fun candidate => db.item? candidate.memoryId) = some items)
      (execution : ∀ other ∈ db.injections, other.executionId ≠ input.executionId)
      (unconsumed : ∀ other ∈ db.injections, other.previewId ≠ preview.previewId) :
      Change approved db (db.consume (injectionManifest env preview input items))

/-- Changes lead from one database to another. -/
abbrev Changes (approved : Set PreviewApprovalInput) : Database → Database → Prop :=
  Reached (Change env approved)

variable {env} {approved : Set PreviewApprovalInput} {db left : Database}

lemma Change.mono {more : Set PreviewApprovalInput} (h : approved ⊆ more)
    (hchange : Change env approved db left) : Change env more db left := by
  cases hchange with
  | stageSaved row filled new => exact .stageSaved _ row filled new
  | shadowStored manifest names => exact .shadowStored _ manifest names
  | itemConfirmed source input new => exact .itemConfirmed _ source input new
  | itemEdited item input known workspace settled =>
    exact .itemEdited _ item input known workspace settled
  | itemRemoved item deletedAt reasonCode known settled =>
    exact .itemRemoved _ item deletedAt reasonCode known settled
  | scopeAuthorized row => exact .scopeAuthorized _ row
  | previewsForgotten keep unconsumed => exact .previewsForgotten _ keep unconsumed
  | previewsInvalidated at_ select => exact .previewsInvalidated _ at_ select
  | previewStored input previewId fresh => exact .previewStored _ input previewId fresh
  | previewApproved preview approvedAt known pending owner =>
    exact .previewApproved _ preview approvedAt known pending (h owner)
  | previewConsumed preview input items known usable found execution unconsumed =>
    exact .previewConsumed _ preview input items known usable found execution unconsumed

lemma Changes.mono {more : Set PreviewApprovalInput} (h : approved ⊆ more)
    (hchanges : Changes env approved db left) : Changes env more db left :=
  Relation.ReflTransGen.mono (fun _ _ => Change.mono h) _ _ hchanges

lemma Changes.one (h : Change env approved db left) : Changes env approved db left :=
  Reached.refl.step h

lemma Changes.trans {middle : Database} (h : Changes env approved db middle)
    (hrest : Changes env approved middle left) : Changes env approved db left :=
  Reached.trans h hrest

/-! ### Operations make changes -/

/-- Invalidated previews are not pending. -/
lemma settled_invalidateNaming (db : Database) (at_ : TimeText) (memoryId : String) :
    Settled (db.invalidateNaming at_ memoryId) memoryId := by
  intro preview hpreview hpending
  obtain ⟨known, -, rfl⟩ := List.mem_map.mp hpreview
  by_cases hselected : (known.pending && known.names memoryId) = true
  · rw [if_pos hselected] at hpending
    simp [PreviewRow.pending] at hpending
  · rw [if_neg hselected] at hpending ⊢
    simpa [hpending] using hselected

lemma setItem_invalidateNaming (db : Database) (item : ItemRow) (at_ : TimeText)
    (memoryId : String) :
    (db.setItem item).invalidateNaming at_ memoryId
      = (db.invalidateNaming at_ memoryId).setItem item := rfl

/-- What holds of all that an operation may leave, and of what it found, holds of what it
leaves. -/
lemma Yields.leaves {α : Type} {m : MemoryProgram α} {Q : α → Database → Prop} {R : Database → Prop}
    (h : Yields db m Q) (hdb : R db) (hQ : ∀ a left, Q a left → R left) : R (m.exec db).2 := by
  have := h db rfl
  rcases hr : m.exec db with ⟨r | a, left⟩ <;> rw [hr] at this
  · rwa [show left = db from this]
  · exact hQ a left this

lemma Yields.changes {α : Type} {m : MemoryProgram α} {Q : α → Database → Prop} (h : Yields db m Q)
    (hQ : ∀ a left, Q a left → Changes env approved db left) :
    Changes env approved db (m.exec db).2 :=
  h.leaves Reached.refl hQ

lemma removal_changes (memoryId : String) (deletedAt : TimeText) (reasonCode : DeletionReason)
    (db : Database) {item : ItemRow} (hitem : db.item? memoryId = some item) :
    Changes env approved db
      ((db.invalidateNaming deletedAt memoryId).removeItem env item deletedAt reasonCode) := by
  obtain ⟨hknown, rfl⟩ := item?_eq_some hitem
  have hinvalidated : Change env approved db (db.invalidateNaming deletedAt item.memoryId) :=
    .previewsInvalidated db deletedAt _
  exact (Changes.one hinvalidated).step
    (.itemRemoved _ item deletedAt reasonCode hknown (settled_invalidateNaming _ _ _))

/-- Steps that maintenance is made of: it removes items, and then previews. -/
structure MaintenanceStep (env : MemoryEnv) (r : Database → Database → Prop) : Prop where
  remove : ∀ db memoryId item deletedAt, db.item? memoryId = some item →
    Reached r db ((db.invalidateNaming deletedAt memoryId).removeItem env item deletedAt .expired)
  forget : ∀ db cutoff, r db
    { db with previews := db.previews.filter fun preview => !preview.outdated cutoff }

variable {r : Database → Database → Prop}

lemma MaintenanceStep.delete (h : MaintenanceStep env r) (memoryId : String) (deletedAt : TimeText)
    (db : Database) :
    Reached r db
      ((deleteStructuredMemoryItemWithReason env memoryId deletedAt .expired).exec db).2 := by
  refine (deleteStructuredMemoryItemWithReason_yields env _ _ _ db).leaves Reached.refl ?_
  rintro _ left (⟨-, -, rfl⟩ | ⟨-, item, hitem, rfl⟩)
  · exact Reached.refl
  · exact h.remove db memoryId item deletedAt hitem

/-- Each deletion of the clean-up makes steps, and so does the removal of previews. -/
lemma MaintenanceStep.cleanup (h : MaintenanceStep env r) (executedAt cutoff : TimeText)
    (db : Database) :
    Reached r db ((cleanupExpiredStructuredMemory env executedAt cutoff).exec db).2 := by
  have hI : Triple (Reached r db) (cleanupExpiredStructuredMemory env executedAt cutoff)
      (fun _ => Reached r db) fun _ => Reached r db := by
    refine Triple.bind_throwIf (fun _ _ => id) fun _ => Triple.of_world fun w hw => ?_
    refine Triple.bind_reads ((Triple.bind (R := fun _ => Reached r db)
      (Triple.foldM (I := fun _ => Reached r db) (fun count memoryId _ => ?_) 0)
      fun count => ?_).pre fun _ heq => heq ▸ hw)
    · refine Triple.of_world fun w' hw' => ?_
      refine Triple.bind (R := fun _ => Reached r db) ?_ fun deleted => Triple.pure fun _ => id
      rintro w' rfl
      have hdelete : Reached r w' _ := h.delete memoryId executedAt w'
      rcases hr : (deleteStructuredMemoryItemWithReason env memoryId executedAt .expired).exec w'
        with ⟨r | a, left⟩ <;> rw [hr] at hdelete
      · exact hw'.trans hdelete
      · exact hw'.trans hdelete
    · exact Triple.bind (R := fun _ => Reached r db)
        (Triple.writes fun w' hw' => hw'.step (h.forget w' cutoff))
        fun _ => Triple.pure fun _ => id
  exact hI.world Reached.refl

lemma MaintenanceStep.run (h : MaintenanceStep env r) (executedAt : TimeText) (db : Database) :
    Reached r db ((Memory.runMaintenance env executedAt).exec db).2 := by
  have hI : Triple (· = db) (Memory.runMaintenance env executedAt)
      (fun _ => Reached r db) fun _ => Reached r db := by
    refine Triple.bind_orThrow (fun _ _ hw => hw ▸ Reached.refl) fun executed _ => ?_
    refine Triple.bind_throwIf (fun _ _ hw => hw ▸ Reached.refl) fun _ => ?_
    rintro db rfl
    have hcleanup : Reached r db _ := h.cleanup executedAt
      (toISOString (executed - STRUCTURED_MEMORY_STORE_LIMITS.expiredPreviewRetentionMs)) db
    generalize cleanupExpiredStructuredMemory env executedAt _ = cleanup at hcleanup ⊢
    rcases hr : cleanup.exec db with ⟨r | a, left⟩ <;> rw [hr] at hcleanup
    · exact hcleanup
    · exact hcleanup
  exact hI.world rfl

lemma maintenanceStep_change : MaintenanceStep env (Change env approved) where
  remove db memoryId item deletedAt hitem :=
    removal_changes memoryId deletedAt .expired db hitem
  forget db cutoff := by
    refine .previewsForgotten db _ fun preview _ hdropped => ?_
    simp only [PreviewRow.outdated, Bool.not_eq_false', Bool.and_eq_true,
      Option.isNone_iff_eq_none] at hdropped
    exact .inl hdropped.1

/-- **Every operation is a sequence of changes**, in which the owner approves what the
operation approves. -/
theorem perform_changes (db : Database) (operation : Operation) :
    Changes env (approvals [operation]) db (operation.perform env db) := by
  cases operation with
  | saveStage input =>
    refine (saveStage_yields env input db).changes ?_
    rintro - left (rfl | ⟨filled, new, rfl⟩)
    · exact Reached.refl
    · exact Changes.one (.stageSaved db _ filled new)
  | createShadowManifest input =>
    refine (createShadowManifest_yields env input db).changes ?_
    rintro manifest left (⟨-, rfl⟩ | ⟨rfl, rfl⟩)
    · exact Reached.refl
    · exact Changes.one (.shadowStored db _ (shadowManifest_namesStages env db input))
  | createItem input =>
    refine (createStructuredMemoryItem_yields env input db).changes ?_
    rintro - left (rfl | ⟨source, new, rfl⟩)
    · exact Reached.refl
    · exact Changes.one (.itemConfirmed db source input new)
  | updateItem input =>
    refine (updateStructuredMemoryItem_yields env input db).changes ?_
    rintro - left (rfl | ⟨item, hknown, hid, hworkspace, rfl⟩)
    · exact Reached.refl
    · rw [setItem_invalidateNaming, ← hid]
      exact (Changes.one (.previewsInvalidated db _ _)).step
        (.itemEdited _ item input hknown hworkspace (settled_invalidateNaming _ _ _))
  | deleteItem memoryId deletedAt =>
    refine (deleteStructuredMemoryItem_yields env memoryId deletedAt db).changes ?_
    rintro - left (⟨-, -, rfl⟩ | ⟨-, item, hitem, rfl⟩)
    · exact Reached.refl
    · exact removal_changes memoryId deletedAt .userDeleted db hitem
  | setAuthorization input =>
    refine (setStructuredMemoryAuthorization_yields env input db).changes ?_
    rintro - left ⟨row, select, rfl⟩
    exact (Changes.one (.scopeAuthorized db row)).step (.previewsInvalidated _ _ _)
  | createPreview input previewId =>
    refine (createStructuredMemoryContextPreview_yields env input previewId db).changes ?_
    rintro - left ⟨-, hfresh, rfl⟩
    have hforgotten : Change env (approvals [.createPreview input previewId]) db
        { db with previews := db.previews.filter fun preview =>
            !preview.lapsed input.taskId input.generatedAt } := by
      refine .previewsForgotten db _ fun preview _ hdropped => ?_
      simp only [PreviewRow.lapsed, Bool.not_eq_false', Bool.and_eq_true,
        Option.isNone_iff_eq_none] at hdropped
      exact .inr hdropped.1.2
    exact ((Changes.one hforgotten).step (.previewsInvalidated _ _ _)).step
      (.previewStored _ input previewId hfresh)
  | approvePreview input =>
    refine (approveStructuredMemoryContextPreview_yields env input db).changes ?_
    rintro - left ⟨preview, hknown, hid, htask, hpending, -, rfl⟩
    refine Changes.one (.previewApproved db preview input.approvedAt hknown hpending ?_)
    simp [approvals, hid, htask]
  | createContext input =>
    refine (createStructuredMemoryExecutionContext_yields env input db).changes ?_
    intro selection left houtcome
    cases houtcome with
    | nothing => exact Reached.refl
    | stale preview => exact Changes.one (.previewsInvalidated db _ _)
    | replayed => exact Reached.refl
    | consumed preview items known usable current found execution unconsumed =>
      exact Changes.one
        (.previewConsumed db preview input items known usable found execution unconsumed)
  | runMaintenance executedAt => exact maintenanceStep_change.run executedAt db
  | relationshipChange peerTetiId => exact Reached.refl

/-- What every operation of a run approves, the run approves. -/
lemma runFrom_changes (db : Database) (operations : List Operation) :
    Changes env (approvals operations) db (runFrom env db operations) := by
  induction operations generalizing db with
  | nil => exact Reached.refl
  | cons operation operations ih =>
    have hfirst : Changes env (approvals (operation :: operations)) db
        (operation.perform env db) :=
      (perform_changes db operation).mono fun input hinput =>
        List.mem_cons.mpr (.inl (List.mem_singleton.mp hinput))
    exact hfirst.trans ((ih (operation.perform env db)).mono fun input hinput =>
      List.mem_cons_of_mem operation hinput)

/-- **Runs are sequences of changes.** -/
theorem run_reached : Changes env (approvals operations) (.created featureEnabledAt)
      (run env featureEnabledAt operations) :=
  runFrom_changes _ operations

end

end TetiBot.Memory

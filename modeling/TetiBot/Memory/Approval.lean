import TetiBot.Memory.Coherence

/-
Only approved memory is injected.

* `PreviewCurrent`: what the check of a preview establishes.
* `InjectedItem`: what holds of an item that an execution is handed: the owner
  approved it for the task, the peer and the child, and it is unchanged, unexpired,
  undeleted and in a scope that is open.
* `memory_injected_as_approved`: every record of every context of every run is such an
  item.
-/

namespace TetiBot.Memory

open Library Library.JsString

variable {env : MemoryEnv} {approved : Set PreviewApprovalInput} {db left : Database}

/-! ### What the check of a preview establishes -/

/-- The item of a candidate has not changed since it was shown, nor expired. -/
structure Unchanged (env : MemoryEnv) (item : ItemRow) (candidate : PreviewCandidateRow)
    (at_ : TimeText) : Prop where
  memoryId : item.memoryId = candidate.memoryId
  version : item.currentVersion = candidate.version
  digest : item.contentDigest = candidate.itemDigest
  scope : item.scope = candidate.scope
  kind : item.kind = candidate.kind
  unexpired : ∀ expiresAt ∈ item.expiresAt, ∀ expiry ∈ env.parseDate expiresAt,
    ∀ now ∈ env.parseDate at_, now < expiry

structure PreviewCurrent (env : MemoryEnv) (db : Database) (preview : PreviewRow)
    (at_ : TimeText) : Prop where
  unexpired : parsesBefore env.parseDate preview.expiresAt at_ = false
  authorizations : ∀ authorization ∈ preview.scopeAuthorizations,
    authorizationCurrent db preview authorization = true
  candidates : ∀ candidate ∈ preview.includedCandidates,
    ∃ item, db.item? candidate.memoryId = some item ∧ Unchanged env item candidate at_

variable {candidate : PreviewCandidateRow}

lemma Unchanged.of_candidateCurrent {at_ : TimeText}
    (h : candidateCurrent env db at_ candidate = true) :
    ∃ item, db.item? candidate.memoryId = some item ∧ Unchanged env item candidate at_ := by
  unfold candidateCurrent at h
  cases hitem : db.item? candidate.memoryId with
  | none => simp [hitem] at h
  | some item =>
    rw [hitem, Option.any_some] at h
    simp only [Bool.and_eq_true, beq_iff_eq] at h
    obtain ⟨⟨⟨⟨hexpiry, hversion⟩, hdigest⟩, hscope⟩, hkind⟩ := h
    refine ⟨item, rfl, (item?_eq_some hitem).2, hversion, hdigest, hscope, hkind, ?_⟩
    intro expiresAt hexpires expiry hparsed now hnow
    rw [Option.mem_def] at hexpires hparsed hnow
    simpa [hexpires, hparsed, hnow, parsesBefore] using hexpiry

variable {preview : PreviewRow}

lemma PreviewCurrent.of_required {at_ : TimeText}
    (h : requirePreviewCurrent env db preview at_ = .ok ()) : PreviewCurrent env db preview at_ := by
  rw [requirePreviewCurrent, failIf_bind_eq_ok] at h
  obtain ⟨hexpiry, h⟩ := h
  rw [parseScopeAuthorizations, bind_assoc, failIf_bind_eq_ok] at h
  obtain ⟨-, h⟩ := h
  simp only [pure_bind] at h
  rw [failIf_bind_eq_ok, failIf_bind_eq_ok, failIf_eq_ok] at h
  obtain ⟨-, hauthorizations, hcandidates⟩ := h
  rw [Bool.not_eq_false, List.all_eq_true] at hauthorizations hcandidates
  exact ⟨by simpa using hexpiry, hauthorizations,
    fun candidate hcandidate => Unchanged.of_candidateCurrent (hcandidates candidate hcandidate)⟩

/-! ### What is handed to an execution -/

variable (env) in
/-- No two stage memories of the database give one item id: no collision of the hash. -/
def CollisionFree (db : Database) : Prop :=
  ∀ source ∈ db.stages, ∀ other ∈ db.stages,
    itemMemoryId env source.memoryId = itemMemoryId env other.memoryId →
      source.memoryId = other.memoryId

instance (db : Database) : Decidable (CollisionFree env db) :=
  inferInstanceAs (Decidable (∀ source ∈ db.stages, ∀ other ∈ db.stages, _ → _))

/-- The item of a candidate is made from the stage memory that the preview knew. -/
lemma ItemsCoherent.source_of_candidate (h : ItemsCoherent env db) (hids : CollisionFree env db)
    {source : StageRow} {item : ItemRow} (hsource : source ∈ db.stages)
    (hoffered : Offered env preview candidate source) (hitem : item ∈ db.items)
    (hsame : item.memoryId = candidate.memoryId) : MadeFrom env item source := by
  obtain ⟨other, hother, hmade⟩ := h.madeFrom item hitem
  have hid : source.memoryId = other.memoryId := hids source hsource other hother
    (hoffered.memoryId.symm.trans (hsame.symm.trans hmade.memoryId))
  rwa [List.inj_on_of_nodup_map h.stageIds hsource hother hid]

/-- The preview was made for the task, the peer and the child of an execution, and for
its workspace if it was made for one. -/
structure Serves (preview : PreviewRow) (identity : ContextIdentity) : Prop where
  taskId : preview.taskId = identity.taskId
  peerTetiId : preview.peerTetiId = identity.peerTetiId
  childAgentId : preview.childAgentId = identity.childAgentId
  workspaceId : preview.workspaceId = none ∨ preview.workspaceId = identity.workspaceId

/-- What holds of an item that an execution is handed. -/
structure InjectedItem (env : MemoryEnv) (approved : Set PreviewApprovalInput) (db : Database)
    (input : StructuredMemoryExecutionInput) (preview : PreviewRow)
    (candidate : PreviewCandidateRow) (item : ItemRow) : Prop where
  /-- An `approve` of the preview is among the owner's; the preview is for this task, peer and
  child.  The scope of the task itself is not checked against the peer. -/
  approval : ∃ approvedAt, ⟨input.taskId, preview.previewId, approvedAt⟩ ∈ approved
  known : preview ∈ db.previews
  serves : Serves preview input.toContextIdentity
  /-- The preview showed the item as one that it would inject. -/
  included : candidate ∈ preview.includedCandidates
  unchanged : Unchanged env item candidate input.generatedAt
  /-- The item was not deleted, nor anything made from its source. -/
  kept : item ∈ db.items
  undeleted : db.sourceDeleted item.sourceMemoryId = false
  /-- The item is of this child, and in a scope that is open for the task. -/
  childAgentId : item.childAgentId = input.childAgentId
  inScope : item.inScope input.toContextIdentity = true
  opened : db.opens item.scope input.toContextIdentity = true

lemma authorized_of_current {at_ : TimeText} (hcurrent : PreviewCurrent env db preview at_)
    {authorization : ScopeAuthorization} (hmem : authorization ∈ preview.scopeAuthorizations)
    (hexplicit : authorization.requiresExplicitAuthorization = true)
    (henabled : authorization.enabled = true) :
    db.opens authorization.scope preview.identity = true := by
  have h := hcurrent.authorizations authorization hmem
  cases hscope : authorization.scope with
  | task => rfl
  | workspace =>
    simpa [authorizationCurrent, Database.opens, hexplicit, henabled, hscope] using h
  | peer => simpa [authorizationCurrent, Database.opens, hexplicit, henabled, hscope] using h

/-- What an item of a workspace, or of a peer, finds open for a preview is open for the
execution that the preview serves. -/
lemma Serves.inScope_opens {identity : ContextIdentity} {item : ItemRow}
    (h : Serves preview identity) (hscope : item.inScope preview.identity = true)
    (hopens : db.opens item.scope preview.identity = true) :
    item.inScope identity = true ∧ db.opens item.scope identity = true := by
  unfold ItemRow.inScope Database.opens at *
  cases hitem : item.scope with
  | task =>
    rw [hitem] at hscope
    exact ⟨by simpa [PreviewRow.identity, h.taskId] using hscope, rfl⟩
  | workspace =>
    rw [hitem] at hscope hopens
    simp only [PreviewRow.identity, Bool.and_eq_true, beq_iff_eq] at hscope
    have hworkspace : preview.workspaceId = identity.workspaceId := by
      refine h.workspaceId.resolve_left fun hnone => ?_
      rw [hscope.2, hnone] at hscope
      simp at hscope
    refine ⟨by simpa [hscope.2, hworkspace] using hscope.1, ?_⟩
    simpa [Database.authorized, Database.authorizationFor?, AuthorizedScope.key?,
      PreviewRow.identity, hworkspace, h.childAgentId] using hopens
  | peer =>
    rw [hitem] at hscope hopens
    refine ⟨by simpa [PreviewRow.identity, h.peerTetiId] using hscope, ?_⟩
    simpa [Database.authorized, Database.authorizationFor?, AuthorizedScope.key?,
      PreviewRow.identity, h.peerTetiId, h.childAgentId] using hopens

variable {input : StructuredMemoryExecutionInput}

/-- **The item of an included candidate of an approved, current preview.** -/
lemma Coherent.injectedItem (h : Coherent env approved db) (hids : CollisionFree env db)
    (hpreview : preview ∈ db.previews) (happroved : preview.approvedAt ≠ none)
    (hserves : Serves preview input.toContextIdentity)
    (hcurrent : PreviewCurrent env db preview input.generatedAt)
    (hcandidate : candidate ∈ preview.includedCandidates) {item : ItemRow}
    (hitem : db.item? candidate.memoryId = some item) :
    InjectedItem env approved db input preview candidate item := by
  obtain ⟨approvedAt, hat⟩ := Option.ne_none_iff_exists'.mp happroved
  obtain ⟨found, hfound, hunchanged⟩ := hcurrent.candidates candidate hcandidate
  obtain rfl : found = item := Option.some.inj (hfound.symm.trans hitem)
  obtain ⟨hknown, hid⟩ := item?_eq_some hitem
  obtain ⟨source, hsource, hoffered⟩ :=
    h.previews.offered preview hpreview candidate (List.mem_of_mem_filter hcandidate)
  have hmade := h.items.source_of_candidate hids hsource hoffered hknown hid
  have hscope : found.inScope preview.identity = true := by
    have hinScope := hoffered.inScope
    rw [← hunchanged.scope] at hinScope
    unfold InScope at hinScope
    unfold ItemRow.inScope
    cases hfoundScope : found.scope with
    | task =>
      rw [hfoundScope] at hinScope
      simpa [hmade.taskId] using hinScope
    | workspace =>
      rw [hfoundScope] at hinScope
      simpa [hmade.workspaceId] using hinScope
    | peer =>
      rw [hfoundScope] at hinScope
      simpa [hmade.peerTetiId] using hinScope
  have hopens : db.opens found.scope preview.identity = true := by
    rw [hunchanged.scope]
    by_cases htask : candidate.scope = .task
    · rw [htask]
      rfl
    · obtain ⟨authorization, hmem, hsame, hexplicit, henabled⟩ := hoffered.opened htask
      rw [← hsame]
      exact authorized_of_current hcurrent hmem hexplicit henabled
  obtain ⟨hinScope, hopened⟩ := hserves.inScope_opens hscope hopens
  exact {
    approval := ⟨approvedAt, hserves.taskId ▸ h.owner preview hpreview approvedAt hat⟩
    known := hpreview
    serves := hserves
    included := hcandidate
    unchanged := hunchanged
    kept := hknown
    undeleted := h.items.undeleted found hknown
    childAgentId := hmade.childAgentId.trans (hoffered.childAgentId.trans hserves.childAgentId)
    inScope := hinScope
    opened := hopened }

/-! ### The records of a context -/

lemma mem_selected : candidate ∈ preview.selected ↔ candidate ∈ preview.includedCandidates :=
  List.mem_insertionSort _

variable {selection : StructuredMemoryExecutionSelection}

/-- A loaded selection holds the unchanged items of its manifest. -/
lemma loadExecutionSelection_eq_ok {row : InjectionManifest}
    (h : loadExecutionSelection env db row = .ok selection) :
    selection.manifest = some row
      ∧ row.candidates.mapM (injectedRecord? db) = some selection.records := by
  rw [loadExecutionSelection, loadInjectionManifest, bind_assoc, failIf_bind_eq_ok] at h
  obtain ⟨-, h⟩ := h
  simp only [pure_bind] at h
  cases hrecords : row.candidates.mapM (injectedRecord? db) with
  | none => simp [hrecords] at h
  | some records =>
    simp only [hrecords] at h
    obtain rfl := Except.ok.inj h
    exact ⟨rfl, rfl⟩

/-- What an execution is handed again is nothing, or what its manifest names, after the
check of the preview that the manifest consumed. -/
lemma replayExecutionContext_eq_ok {existing : InjectionManifest}
    (h : replayExecutionContext env db existing input = .ok selection) :
    selection = emptyExecutionSelection
      ∨ ∃ preview, db.preview? existing.previewId = some preview
        ∧ preview.identity = input.toContextIdentity
        ∧ preview.queryDigest = digest env.sha256 input.queryText
        ∧ PreviewCurrent env db preview input.generatedAt
        ∧ loadExecutionSelection env db existing = .ok selection := by
  unfold replayExecutionContext at h
  cases hpreview : db.preview? existing.previewId with
  | none => simp [hpreview] at h
  | some preview =>
    simp only [hpreview, failIf_bind_eq_ok, not_or, not_not] at h
    obtain ⟨⟨-, hidentity, hquery⟩, h⟩ := h
    split_ifs at h with hstale
    · exact .inl (Except.ok.inj h).symm
    · cases hcurrent : requirePreviewCurrent env db preview input.generatedAt with
      | error _ =>
        rw [hcurrent] at h
        exact .inl (Except.ok.inj h).symm
      | ok _ =>
        rw [hcurrent] at h
        exact .inr ⟨preview, rfl, hidentity, hquery, .of_required hcurrent, h⟩

variable (env) in
/-- The records of a context are the items of candidates of a preview. -/
structure HandedOut (db : Database) (input : StructuredMemoryExecutionInput)
    (selection : StructuredMemoryExecutionSelection) (preview : PreviewRow)
    (items : List ItemRow) : Prop where
  known : preview ∈ db.previews
  approved : preview.approvedAt ≠ none
  serves : Serves preview input.toContextIdentity
  queryDigest : preview.queryDigest = digest env.sha256 input.queryText
  current : PreviewCurrent env db preview input.generatedAt
  found : List.Forall₂ (fun candidate item => db.item? candidate.memoryId = some item)
    preview.selected items
  records : selection.records = items.map ItemRow.toRecord
  manifest : ∃ manifest, selection.manifest = some manifest
    ∧ manifest.previewId = preview.previewId ∧ manifest.executionId = input.executionId

/-- The candidates of a manifest and of its preview name the same items. -/
lemma items_of_records {candidates : List InjectionCandidate}
    {selected : List PreviewCandidateRow} {records : List StructuredMemoryContextRecord}
    (hnamed : candidates.map InjectionCandidate.named = selected.map PreviewCandidateRow.named)
    (hrecords : List.Forall₂ (fun candidate record => injectedRecord? db candidate = some record)
      candidates records) :
    ∃ items, List.Forall₂ (fun candidate item => db.item? candidate.memoryId = some item)
        selected items
      ∧ records = items.map ItemRow.toRecord := by
  induction hrecords generalizing selected with
  | nil =>
    obtain rfl := List.map_eq_nil_iff.mp hnamed.symm
    exact ⟨[], .nil, rfl⟩
  | @cons candidate record candidates records hrecord _ ih =>
    cases selected with
    | nil => simp at hnamed
    | cons chosen selected =>
      rw [List.map_cons, List.map_cons, List.cons.injEq] at hnamed
      obtain ⟨hsame, hrest⟩ := hnamed
      obtain ⟨items, hitems, rfl⟩ := ih hrest
      obtain ⟨item, hitem, rfl⟩ := Option.map_eq_some_iff.mp hrecord
      have hid : candidate.memoryId = chosen.memoryId := congrArg Prod.fst hsame
      exact ⟨item :: items, .cons (hid ▸ (Option.filter_eq_some_iff.mp hitem).1) hitems, rfl⟩

/-- **What an execution is handed** is nothing, or the items of an approved preview
that serves it and is current. -/
theorem Coherent.handedOut (h : Coherent env approved db)
    (houtcome : ContextOutcome env db input selection left) :
    selection = emptyExecutionSelection
      ∨ ∃ preview items, HandedOut env db input selection preview items := by
  cases houtcome with
  | nothing => exact .inl rfl
  | stale preview => exact .inl rfl
  | replayed existing _ known execution replay =>
    rcases replayExecutionContext_eq_ok replay with hempty | ⟨preview, hpreview, hidentity, hquery,
      hcurrent, hload⟩
    · exact .inl hempty
    · obtain ⟨hknown, hid⟩ := preview?_eq_some hpreview
      obtain ⟨owner, howner, hinjected⟩ := h.previews.injected existing known
      obtain rfl := h.previews.preview_unique hknown howner (hid.trans hinjected.previewId.symm)
      obtain ⟨hmanifest, hrecords⟩ := loadExecutionSelection_eq_ok hload
      obtain ⟨items, hitems, hsame⟩ :=
        items_of_records hinjected.candidates (mapM_eq_some_iff.mp hrecords)
      refine .inr ⟨preview, items, hknown, hinjected.approved, ?_, hquery, hcurrent, hitems,
        hsame, existing, hmanifest, hid.symm, execution⟩
      rw [← hidentity]
      exact ⟨rfl, rfl, rfl, .inr rfl⟩
  | consumed preview items known usable current found execution unconsumed =>
    have husable := UsableFor.of_usableFor env usable
    exact .inr ⟨preview, items, known, husable.approved,
      ⟨husable.taskId, husable.peerTetiId, husable.childAgentId, husable.workspaceId⟩,
      husable.queryDigest, .of_required current, mapM_eq_some_iff.mp found, rfl, _, rfl, rfl, rfl⟩

/-! ### A preview is consumed once -/

/-- The context of an execution returns a selection. -/
def Hands (env : MemoryEnv) (db : Database) (input : StructuredMemoryExecutionInput)
    (selection : StructuredMemoryExecutionSelection) (left : Database) : Prop :=
  (createStructuredMemoryExecutionContext env input).exec db = (.ok selection, left)

lemma Hands.outcome (h : Hands env db input selection left) :
    ContextOutcome env db input selection left :=
  (createStructuredMemoryExecutionContext_yields env input db).ok rfl h

lemma Hands.changes (h : Hands env db input selection left) (approved : Set PreviewApprovalInput) :
    Changes env approved db left := by
  have hperform : Changes env approved db _ :=
    (perform_changes db (.createContext input)).mono fun approval happroval => by
      simp [approvals] at happroval
  rwa [Operation.perform, show _ = _ from h] at hperform

/-! ### The law -/

/-- Plain texts: the hash is the size, and every text is one word. -/
def plainMemoryEnv : MemoryEnv where
  sha256 := fun value => toString (utf8Size value)
  parseDate := dateParse
  localeBefore := fun left right => decide (left < right)
  normalized := id
  words := fun value => [value]
  ftsMatches := fun _ _ => false
  writable := true
  databaseBytes := fun _ => 0
  maximumDatabaseBytes := 1

/-- The `n`-th minute of an hour. -/
def exampleTime (minute : Nat) : TimeText :=
  ofString "2026-07-18T01:" ++ twoDigits minute ++ ofString ":00.000Z"

/-- The first stage of a task of a peer. -/
def exampleStage (taskId peerTetiId artifactId : String) : LongHorizonStageMemoryInput where
  taskId := taskId
  taskCreatedAt := exampleTime 1
  peerTetiId := peerTetiId
  workspaceId := none
  stageId := "stage:1"
  stageIndex := 1
  executionTaskId := "execution"
  executionEpoch := none
  childAgentId := "child"
  connectorId := "connector"
  artifactId := artifactId
  workspaceRevision := 0
  content := ofString "done"
  createdAt := exampleTime 2

/-- The owner confirms the memory of a stage for its task. -/
def exampleItem (sourceMemoryId : String) : CreateStructuredMemoryItemInput where
  scope := .task
  kind := .fact
  title := ofString "note"
  content := ofString "done"
  pinned := false
  expiresAt := none
  sourceMemoryId := sourceMemoryId
  changedAt := exampleTime 3

def examplePreview (taskId peerTetiId : String) : StructuredMemoryPreviewInput where
  taskId := taskId
  peerTetiId := peerTetiId
  workspaceId := none
  childAgentId := "child"
  queryText := ofString "x"
  excludedMemoryIds := []
  generatedAt := exampleTime 4

def exampleContext (taskId peerTetiId : String) : StructuredMemoryExecutionInput where
  taskId := taskId
  peerTetiId := peerTetiId
  workspaceId := none
  childAgentId := "child"
  executionId := "execution"
  queryText := ofString "x"
  generatedAt := exampleTime 6

/-- A stage is saved, confirmed, previewed and approved. -/
def exampleApproval : List Operation :=
  [.saveStage (exampleStage "t" "alice" "a"), .createItem (exampleItem "lhm_5"),
    .createPreview (examplePreview "t" "alice") "p", .approvePreview ⟨"t", "p", exampleTime 5⟩]

lemma exampleApproval_hands : ∃ selection left,
    Hands plainMemoryEnv (run plainMemoryEnv (exampleTime 0) exampleApproval)
        (exampleContext "t" "alice") selection left
      ∧ selection.records ≠ [] := by
  have hsome : (((createStructuredMemoryExecutionContext plainMemoryEnv
      (exampleContext "t" "alice")).exec
        (run plainMemoryEnv (exampleTime 0) exampleApproval)).1.toOption.any
          fun selection => !selection.records.isEmpty) = true := by decide +kernel
  rcases hexec : (createStructuredMemoryExecutionContext plainMemoryEnv
      (exampleContext "t" "alice")).exec (run plainMemoryEnv (exampleTime 0) exampleApproval)
    with ⟨_ | selection, left⟩
  · rw [hexec] at hsome
    cases hsome
  · rw [hexec] at hsome
    refine ⟨selection, left, hexec, fun hnone => ?_⟩
    simp [Except.toOption, hnone] at hsome

end TetiBot.Memory

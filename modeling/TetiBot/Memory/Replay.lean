import TetiBot.Memory.Approval

/-
An execution that asks for its context again
(`runtime/memory/structured-context-sqlite.ts`).

* `executionContext`: `createStructuredMemoryExecutionContext`, after the checks that the
  store makes before it calls it;
* `FirstUse`: the execution has consumed nothing yet, and a preview is found for it;
* `Idempotent`: a second call returns what the first one did, and consumes nothing;
* `executionContext_idempotent_iff`: the second call agrees if and only if the preview that
  the first one found names the workspace of the execution, and none takes its place when
  it is stale.
-/

namespace TetiBot.Memory

open Library Library.JsString Library.Program

section

variable (env : MemoryEnv)

/-! ### A second call -/

def executionContext (input : StructuredMemoryExecutionInput) :
    MemoryProgram StructuredMemoryExecutionSelection := do
  let db ← Program.reads id
  executionContextOf env db input

/-- The execution has no manifest yet, and a preview with candidates is found for it. -/
structure FirstUse (db : Database) (input : StructuredMemoryExecutionInput)
    (preview : PreviewRow) : Prop where
  valid : validateExecutionInput env.parseDate input = .ok ()
  fresh : db.injections.find? (fun manifest => manifest.executionId == input.executionId) = none
  usable : usablePreview? env db input = some preview
  candidates : preview.candidateCount ≠ 0

/-- No manifest takes the id of a new one, or the preview. -/
def Storable (db : Database) (preview : PreviewRow) (input : StructuredMemoryExecutionInput) :
    Prop :=
  ∀ known ∈ db.injections, known.previewId ≠ preview.previewId ∧ known.manifestId
    ≠ shortId env "smm_" (ofString input.executionId ++ [0] ++ ofString preview.previewId)

/-- Invalidate the preview that was found. -/
def Database.stale (db : Database) (input : StructuredMemoryExecutionInput)
    (preview : PreviewRow) : Database :=
  db.invalidate input.generatedAt fun known => known.previewId == preview.previewId

/-- No preview was consumed in between. -/
structure SameConsumption (db left : Database) : Prop where
  injections : left.injections = db.injections
  previews : left.previews.map (fun preview => (preview.previewId, preview.consumedAt))
    = db.previews.map fun preview => (preview.previewId, preview.consumedAt)

/-- A second call returns what the first one returned, and consumes nothing. -/
def Idempotent (db : Database) (input : StructuredMemoryExecutionInput) : Prop :=
  ∀ selection left, (executionContext env input).exec db = (.ok selection, left) →
    ∃ left', (executionContext env input).exec left = (.ok selection, left')
      ∧ SameConsumption left left'

/-- The preview that the first call consumes names the workspace of the execution; where the
preview it finds is stale, no other one can be consumed instead. -/
structure Replayable (db : Database) (input : StructuredMemoryExecutionInput) : Prop where
  workspace : ∀ preview, FirstUse env db input preview →
    requirePreviewCurrent env db preview input.generatedAt = .ok () →
    Storable env db preview input → preview.workspaceId = input.workspaceId
  noOther : ∀ preview next, FirstUse env db input preview →
    requirePreviewCurrent env db preview input.generatedAt ≠ .ok () →
    usablePreview? env (db.stale input preview) input = some next → next.candidateCount ≠ 0 →
    requirePreviewCurrent env db next input.generatedAt ≠ .ok ()

end

variable {env : MemoryEnv} {db left : Database} {input : StructuredMemoryExecutionInput}
  {preview : PreviewRow} {selection : StructuredMemoryExecutionSelection}

/-! ### The cases of a call -/

lemma exec_executionContext :
    (executionContext env input).exec db = (executionContextOf env db input).exec db := by
  rw [executionContext, exec_reads_bind]
  rfl

lemma exec_of_valid (hvalid : validateExecutionInput env.parseDate input = .ok ()) :
    (executionContext env input).exec db
      = (match db.injections.find? fun manifest => manifest.executionId == input.executionId with
        | some existing => (replayExecutionContext env db existing input, db)
        | none =>
          match usablePreview? env db input with
          | none => (.ok emptyExecutionSelection, db)
          | some preview =>
            if preview.candidateCount = 0 then (.ok emptyExecutionSelection, db)
            else match requirePreviewCurrent env db preview input.generatedAt with
              | .error _ => (.ok emptyExecutionSelection, db.stale input preview)
              | .ok () => (consumePreview env db preview input).exec db) := by
  rw [exec_executionContext, executionContextOf, hvalid]
  show Program.exec _ db = _
  cases db.injections.find? fun manifest => manifest.executionId == input.executionId with
  | some existing => exact exec_fromExcept _ _
  | none =>
    cases usablePreview? env db input with
    | none => rfl
    | some preview =>
      dsimp only
      split_ifs
      · rfl
      · cases requirePreviewCurrent env db preview input.generatedAt <;> rfl

lemma valid_of_exec (h : (executionContext env input).exec db = (.ok selection, left)) :
    validateExecutionInput env.parseDate input = .ok () := by
  rw [exec_executionContext, executionContextOf, exec_fromExcept_bind_eq_ok] at h
  obtain ⟨⟨⟩, hvalid, -⟩ := h
  exact hvalid

lemma FirstUse.exec_stale (h : FirstUse env db input preview)
    (hstale : requirePreviewCurrent env db preview input.generatedAt ≠ .ok ()) :
    (executionContext env input).exec db
      = (.ok emptyExecutionSelection, db.stale input preview) := by
  rw [exec_of_valid h.valid, h.fresh, h.usable]
  dsimp only
  rw [if_neg h.candidates]
  cases hcurrent : requirePreviewCurrent env db preview input.generatedAt with
  | error _ => rfl
  | ok _ => exact absurd hcurrent hstale

lemma FirstUse.exec_current (h : FirstUse env db input preview)
    (hcurrent : requirePreviewCurrent env db preview input.generatedAt = .ok ()) :
    (executionContext env input).exec db = (consumePreview env db preview input).exec db := by
  rw [exec_of_valid h.valid, h.fresh, h.usable]
  dsimp only
  rw [if_neg h.candidates, hcurrent]

/-! ### Consuming a preview -/

lemma storable_iff {items : List ItemRow} :
    Storable env db preview input
      ↔ ¬db.injections.any (fun known =>
        known.manifestId == (injectionManifest env preview input items).manifestId
          || known.previewId == (injectionManifest env preview input items).previewId) = true := by
  rw [List.any_eq_true, not_exists]
  simp only [Storable, injectionManifest, not_and, Bool.or_eq_true, beq_iff_eq, not_or]
  exact forall₂_congr fun _ _ => and_comm

lemma exec_consumePreview_eq_ok :
    (consumePreview env db preview input).exec db = (.ok selection, left)
      ↔ ∃ items, preview.selected.mapM (fun candidate => db.item? candidate.memoryId) = some items
        ∧ Storable env db preview input
        ∧ selection = ⟨some (injectionManifest env preview input items),
          items.map ItemRow.toRecord, (injectionManifest env preview input items).candidateBytes⟩
        ∧ left = db.consume (injectionManifest env preview input items) := by
  rw [consumePreview]
  cases hitems : preview.selected.mapM fun candidate => db.item? candidate.memoryId with
  | none =>
    have hthrow : (Program.orThrow (none : Option (List ItemRow)) unavailable
        : MemoryProgram (List ItemRow)) = Program.raise unavailable := rfl
    rw [hthrow, exec_bind, exec_raise]
    simp
  | some items =>
    have hreturn : (Program.orThrow (some items) unavailable : MemoryProgram (List ItemRow))
        = pure items := rfl
    rw [hreturn, pure_bind, exec_throwIf_bind_eq_ok, ← storable_iff]
    constructor
    · rintro ⟨hstorable, h⟩
      obtain ⟨hselection, hleft⟩ := Prod.mk.inj h
      exact ⟨items, rfl, hstorable, (Except.ok.inj hselection).symm, hleft.symm⟩
    · rintro ⟨_, hsame, hstorable, rfl, rfl⟩
      obtain rfl := Option.some.inj hsame
      exact ⟨hstorable, rfl⟩

/-- The items of a preview that is current are there. -/
lemma PreviewCurrent.items {at_ : TimeText} (h : PreviewCurrent env db preview at_) :
    ∃ items, preview.selected.mapM (fun candidate => db.item? candidate.memoryId) = some items := by
  refine exists_mapM_eq_some fun candidate hcandidate => ?_
  obtain ⟨item, hitem, -⟩ := h.candidates candidate (mem_selected.mp hcandidate)
  exact ⟨item, hitem⟩

/-- The manifest of a preview that is current names the items as they are. -/
lemma injectedRecords {at_ : TimeText} {items : List ItemRow} (h : PreviewCurrent env db preview at_)
    (hitems : preview.selected.mapM (fun candidate => db.item? candidate.memoryId) = some items) :
    (injectionManifest env preview input items).candidates.mapM (injectedRecord? db)
      = some (items.map ItemRow.toRecord) := by
  have hunchanged : ∀ candidate ∈ preview.selected, ∀ item,
      db.item? candidate.memoryId = some item → Unchanged env item candidate at_ := by
    intro candidate hcandidate item hitem
    obtain ⟨found, hfound, h⟩ := h.candidates candidate (mem_selected.mp hcandidate)
    obtain rfl := Option.some.inj (hfound.symm.trans hitem)
    exact h
  rw [mapM_eq_some_iff] at hitems ⊢
  show List.Forall₂ _ (List.zipWith _ preview.selected items) _
  generalize preview.selected = selected at hitems hunchanged
  induction hitems with
  | nil => exact .nil
  | cons hitem _ ih =>
    obtain ⟨hfirst, hrest⟩ := List.forall_mem_cons.mp hunchanged
    refine .cons ?_ (ih hrest)
    have hsame := hfirst _ hitem
    simp [injectedRecord?, hitem, hsame.version, hsame.digest]

lemma loadExecutionSelection_injected {at_ : TimeText} {items : List ItemRow}
    (h : PreviewCurrent env db preview at_)
    (hitems : preview.selected.mapM (fun candidate => db.item? candidate.memoryId) = some items) :
    loadExecutionSelection env db (injectionManifest env preview input items)
      = .ok ⟨some (injectionManifest env preview input items), items.map ItemRow.toRecord,
        (injectionManifest env preview input items).candidateBytes⟩ := by
  have hload : loadInjectionManifest env (injectionManifest env preview input items)
      = .ok (injectionManifest env preview input items) := by
    rw [loadInjectionManifest, failIf_eq_ok.mpr]
    · rfl
    · simp [injectionManifest, InjectionManifest.digestCore]
  simp only [loadExecutionSelection, hload, bind, Except.bind, injectedRecords h hitems]
  rfl

/-! ### The replay of what was consumed -/

/-- The preview that a manifest consumed. -/
lemma preview?_consume (hids : (db.previews.map PreviewRow.previewId).Nodup)
    (hpreview : preview ∈ db.previews) {manifest : InjectionManifest}
    (hmanifest : manifest.previewId = preview.previewId) :
    (db.consume manifest).preview? manifest.previewId
      = some { preview with consumedAt := some manifest.generatedAt } := by
  have hfind : (db.preview? preview.previewId) = some preview := by
    obtain ⟨found, hfound⟩ : ∃ found, db.preview? preview.previewId = some found :=
      Option.isSome_iff_exists.mp (List.find?_isSome.mpr ⟨preview, hpreview, by simp⟩)
    obtain ⟨hmem, hid⟩ := preview?_eq_some hfound
    rw [hfound, List.inj_on_of_nodup_map hids hmem hpreview hid]
  rw [Database.preview?, Database.consume, List.find?_map]
  have hsame : ((fun known : PreviewRow => known.previewId == manifest.previewId)
      ∘ fun known : PreviewRow => if known.previewId = manifest.previewId then
        { known with consumedAt := some manifest.generatedAt } else known)
      = fun known => known.previewId == preview.previewId := by
    funext known
    rw [Function.comp_apply, hmanifest]
    split_ifs <;> rfl
  rw [hsame, ← Database.preview?, hfind, Option.map_some, if_pos hmanifest.symm]

/-- The check of a preview does not depend on which previews were consumed or invalidated. -/
lemma requirePreviewCurrent_congr {other : Database} {at_ : TimeText}
    (hitems : other.items = db.items) (hauthorizations : other.authorizations = db.authorizations) :
    requirePreviewCurrent env other preview at_ = requirePreviewCurrent env db preview at_ := by
  have hauthorized : authorizationCurrent other preview = authorizationCurrent db preview := by
    funext authorization
    simp only [authorizationCurrent, Database.authorized, Database.authorizationFor?,
      Database.authorization?, hauthorizations]
  have hcandidate : candidateCurrent env other at_ = candidateCurrent env db at_ := by
    funext candidate
    simp only [candidateCurrent, Database.item?, hitems]
  simp only [requirePreviewCurrent, hauthorized, hcandidate]

lemma FirstUse.usableFor (h : FirstUse env db input preview) :
    preview ∈ db.previews ∧ UsableFor env preview input :=
  ⟨(usablePreview?_eq_some env h.usable).1, .of_usableFor env (usablePreview?_eq_some env h.usable).2⟩

/-- An execution that consumed a preview is handed what it was handed before if the preview
names its workspace, and else a conflict. -/
lemma FirstUse.exec_replay (h : FirstUse env db input preview)
    (hids : (db.previews.map PreviewRow.previewId).Nodup)
    (hcurrent : requirePreviewCurrent env db preview input.generatedAt = .ok ())
    {items : List ItemRow}
    (hitems : preview.selected.mapM (fun candidate => db.item? candidate.memoryId) = some items) :
    (executionContext env input).exec (db.consume (injectionManifest env preview input items))
      = (if preview.workspaceId = input.workspaceId then
          .ok ⟨some (injectionManifest env preview input items), items.map ItemRow.toRecord,
            (injectionManifest env preview input items).candidateBytes⟩
        else .error
          (conflict "Structured Memory execution identity conflicts with its immutable manifest."),
        db.consume (injectionManifest env preview input items)) := by
  obtain ⟨hmem, husable⟩ := h.usableFor
  generalize hmanifest : injectionManifest env preview input items = manifest
  have hexecution : manifest.executionId = input.executionId := by rw [← hmanifest]; rfl
  have hpreview : manifest.previewId = preview.previewId := by rw [← hmanifest]; rfl
  have htask : manifest.currentTaskId = input.taskId := by rw [← hmanifest]; rfl
  have hfind : (db.consume manifest).injections.find?
      (fun known => known.executionId == input.executionId) = some manifest := by
    show (db.injections ++ [manifest]).find? _ = _
    rw [List.find?_append, h.fresh]
    simp [hexecution]
  have hcurrent' : requirePreviewCurrent env (db.consume manifest)
      { preview with consumedAt := some manifest.generatedAt } input.generatedAt = .ok () :=
    Eq.trans (requirePreviewCurrent_congr rfl rfl) hcurrent
  have hexpiry : ¬parsesBefore env.parseDate preview.expiresAt input.generatedAt = true := by
    simp [(PreviewCurrent.of_required hcurrent).unexpired]
  have hload : loadExecutionSelection env (db.consume (injectionManifest env preview input items))
      (injectionManifest env preview input items) = _ :=
    loadExecutionSelection_injected (.of_required hcurrent) hitems
  rw [hmanifest] at hload
  rw [exec_of_valid h.valid, hfind]
  dsimp only
  rw [replayExecutionContext, preview?_consume hids hmem hpreview]
  dsimp only
  by_cases hworkspace : preview.workspaceId = input.workspaceId
  · have hagree : failIf (manifest.currentTaskId ≠ input.taskId
          ∨ PreviewRow.identity { preview with consumedAt := some manifest.generatedAt }
            ≠ input.toContextIdentity
          ∨ preview.queryDigest ≠ digest env.sha256 input.queryText)
        (conflict "Structured Memory execution identity conflicts with its immutable manifest.")
        = .ok () := by
      rw [failIf_eq_ok]
      simp [htask, PreviewRow.identity, husable.taskId, husable.peerTetiId, hworkspace,
        husable.childAgentId, husable.queryDigest]
    rw [hagree, if_pos hworkspace]
    refine Prod.ext ?_ rfl
    show (if preview.invalidatedAt ≠ none ∨ parsesBefore env.parseDate preview.expiresAt input.generatedAt = true
      then _ else _) = _
    rw [if_neg (not_or.mpr ⟨not_not.mpr husable.valid, hexpiry⟩), hcurrent']
    exact hload
  · have hdiffer : failIf (manifest.currentTaskId ≠ input.taskId
          ∨ PreviewRow.identity { preview with consumedAt := some manifest.generatedAt }
            ≠ input.toContextIdentity
          ∨ preview.queryDigest ≠ digest env.sha256 input.queryText)
        (conflict "Structured Memory execution identity conflicts with its immutable manifest.")
        = .error (conflict
          "Structured Memory execution identity conflicts with its immutable manifest.") := by
      refine if_pos (.inr (.inl fun hidentity => hworkspace ?_))
      exact congrArg ContextIdentity.workspaceId hidentity
    rw [hdiffer, if_neg hworkspace]
    rfl

/-! ### A second call -/

lemma SameConsumption.refl (db : Database) : SameConsumption db db := ⟨rfl, rfl⟩

lemma sameConsumption_stale (db : Database) (input : StructuredMemoryExecutionInput)
    (preview : PreviewRow) : SameConsumption db (db.stale input preview) where
  injections := rfl
  previews := by
    show (db.previews.map _).map _ = _
    rw [List.map_map]
    refine List.map_congr_left fun known _ => ?_
    rw [Function.comp_apply]
    split_ifs <;> rfl

/-- A preview that is found after the first one was invalidated. -/
lemma FirstUse.next (h : FirstUse env db input preview) {next : PreviewRow}
    (hnext : usablePreview? env (db.stale input preview) input = some next)
    (hcandidates : next.candidateCount ≠ 0) : FirstUse env (db.stale input preview) input next :=
  ⟨h.valid, h.fresh, hnext, hcandidates⟩

lemma FirstUse.again_stale (h : FirstUse env db input preview)
    (hnone : ∀ next, usablePreview? env (db.stale input preview) input = some next →
      next.candidateCount ≠ 0 →
      requirePreviewCurrent env db next input.generatedAt ≠ .ok ()) :
    ∃ left', (executionContext env input).exec (db.stale input preview)
        = (.ok emptyExecutionSelection, left')
      ∧ SameConsumption (db.stale input preview) left' := by
  have hfresh : (db.stale input preview).injections.find?
      (fun manifest => manifest.executionId == input.executionId) = none := h.fresh
  cases hnext : usablePreview? env (db.stale input preview) input with
  | none =>
    refine ⟨_, ?_, .refl _⟩
    rw [exec_of_valid h.valid, hfresh, hnext]
  | some next =>
    by_cases hcandidates : next.candidateCount = 0
    · refine ⟨_, ?_, .refl _⟩
      rw [exec_of_valid h.valid, hfresh, hnext]
      exact if_pos hcandidates
    · have hsame : requirePreviewCurrent env (db.stale input preview) next input.generatedAt
          = requirePreviewCurrent env db next input.generatedAt :=
        requirePreviewCurrent_congr rfl rfl
      exact ⟨_, (h.next hnext hcandidates).exec_stale (hsame ▸ hnone next hnext hcandidates),
        sameConsumption_stale _ _ _⟩

/-- A call that leaves the database as it was, or the first use of a preview. -/
lemma unchanged_or_firstUse (h : (executionContext env input).exec db = (.ok selection, left)) :
    left = db ∨ ∃ preview, FirstUse env db input preview := by
  have hvalid := valid_of_exec h
  rw [exec_of_valid hvalid] at h
  cases hfind : db.injections.find? fun manifest => manifest.executionId == input.executionId with
  | some existing =>
    rw [hfind] at h
    exact .inl (Prod.mk.inj h).2.symm
  | none =>
    rw [hfind] at h
    cases husable : usablePreview? env db input with
    | none =>
      rw [husable] at h
      exact .inl (Prod.mk.inj h).2.symm
    | some preview =>
      by_cases hcandidates : preview.candidateCount = 0
      · rw [husable] at h
        dsimp only at h
        rw [if_pos hcandidates] at h
        exact .inl (Prod.mk.inj h).2.symm
      · exact .inr ⟨preview, hvalid, hfind, husable, hcandidates⟩

/-- **When a context can be asked for again.**  For every database, whose previews have
different ids, and every input: a call that succeeds is followed by one that returns the same
and consumes nothing, if and only if the preview that the first one consumed names the workspace
of the input and, where the first one found a stale preview, no other one can be consumed in its
place. -/
theorem executionContext_idempotent_iff (env : MemoryEnv) (db : Database)
    (input : StructuredMemoryExecutionInput)
    (hids : (db.previews.map PreviewRow.previewId).Nodup) :
    Idempotent env db input ↔ Replayable env db input := by
  constructor
  · intro h
    refine ⟨fun preview hfirst hcurrent hstorable => ?_,
      fun preview next hfirst hstale hnext hcandidates hcurrent => ?_⟩
    · obtain ⟨items, hitems⟩ := (PreviewCurrent.of_required hcurrent).items
      obtain ⟨left', hagain, -⟩ := h _ _ ((hfirst.exec_current hcurrent).trans
        (exec_consumePreview_eq_ok.mpr ⟨items, hitems, hstorable, rfl, rfl⟩))
      rw [hfirst.exec_replay hids hcurrent hitems] at hagain
      by_contra hworkspace
      rw [if_neg hworkspace] at hagain
      cases (Prod.mk.inj hagain).1
    · -- the second call would consume the other preview
      obtain ⟨left', hagain, -⟩ := h _ _ (hfirst.exec_stale hstale)
      rw [(hfirst.next hnext hcandidates).exec_current
        ((requirePreviewCurrent_congr rfl rfl).trans hcurrent), exec_consumePreview_eq_ok] at hagain
      obtain ⟨items, -, -, hselection, -⟩ := hagain
      cases congrArg StructuredMemoryExecutionSelection.manifest hselection
  · intro hreplayable selection left hexec
    rcases unchanged_or_firstUse hexec with rfl | ⟨preview, hfirst⟩
    · exact ⟨_, hexec, .refl _⟩
    · by_cases hcurrent : requirePreviewCurrent env db preview input.generatedAt = .ok ()
      · rw [hfirst.exec_current hcurrent, exec_consumePreview_eq_ok] at hexec
        obtain ⟨items, hitems, hstorable, rfl, rfl⟩ := hexec
        have hworkspace := hreplayable.workspace preview hfirst hcurrent hstorable
        refine ⟨_, ?_, .refl _⟩
        rw [hfirst.exec_replay hids hcurrent hitems, if_pos hworkspace]
      · rw [hfirst.exec_stale hcurrent] at hexec
        obtain ⟨hselection, rfl⟩ := Prod.mk.inj hexec
        obtain rfl := Except.ok.inj hselection
        exact hfirst.again_stale fun next => hreplayable.noOther preview next hfirst hcurrent

/-- An approved preview of the database that a run leaves. -/
def approvedExample : Database := run plainMemoryEnv (exampleTime 0) exampleApproval

/-- The preview was made for the same workspace, namely none. -/
theorem executionContext_idempotent_example :
    Idempotent plainMemoryEnv approvedExample (exampleContext "t" "alice") := by
  have hfound : (usablePreview? plainMemoryEnv approvedExample
        (exampleContext "t" "alice")).all (fun preview =>
      preview.workspaceId == none && (requirePreviewCurrent plainMemoryEnv approvedExample preview
        (exampleContext "t" "alice").generatedAt).toOption.isSome) = true := by decide +kernel
  have husable : ∀ preview, FirstUse plainMemoryEnv approvedExample
      (exampleContext "t" "alice") preview → preview.workspaceId = none
        ∧ requirePreviewCurrent plainMemoryEnv approvedExample preview
          (exampleContext "t" "alice").generatedAt = .ok () := by
    intro preview hfirst
    rw [hfirst.usable, Option.all_some, Bool.and_eq_true, beq_iff_eq] at hfound
    refine ⟨hfound.1, ?_⟩
    rcases hcurrent : requirePreviewCurrent plainMemoryEnv approvedExample preview
      (exampleContext "t" "alice").generatedAt with _ | ⟨⟩
    · rw [hcurrent] at hfound
      cases hfound.2
    · rfl
  exact (executionContext_idempotent_iff plainMemoryEnv approvedExample (exampleContext "t" "alice")
    (by decide +kernel)).mpr ⟨fun preview hfirst _ _ => (husable preview hfirst).1,
      fun preview _ hfirst hstale => absurd (husable preview hfirst).2 hstale⟩

/-- An execution in a workspace is handed what was approved for the task before it had one, and
asks again. -/
theorem executionContext_conflicts_example :
    ¬Idempotent plainMemoryEnv approvedExample
        { exampleContext "t" "alice" with workspaceId := some "workspace" } := by
  have hcalls : (match (executionContext plainMemoryEnv
      { exampleContext "t" "alice" with workspaceId := some "workspace" }).exec approvedExample with
    | (.ok selection, left) => !selection.records.isEmpty
      && !((executionContext plainMemoryEnv { exampleContext "t" "alice" with
        workspaceId := some "workspace" }).exec left).1.toOption.isSome
    | (.error _, _) => false) = true := by decide +kernel
  intro h
  rcases hfirst : (executionContext plainMemoryEnv
      { exampleContext "t" "alice" with workspaceId := some "workspace" }).exec approvedExample
    with ⟨_ | selection, left⟩
  · rw [hfirst] at hcalls
    cases hcalls
  · obtain ⟨left', hagain, -⟩ := h selection left hfirst
    rw [hfirst] at hcalls
    simp [hagain, Except.toOption] at hcalls

end TetiBot.Memory

import TetiBot.Relationships.Pending

/-
Reconciliation: the checkpoint on the disk is never past a change that the local
state of its identity has not taken.

* `RelationshipFeed`: what the server has to tell an identity, change after change,
  and what its checkpoints and cursors stand for.
* `RelationshipFeed.Serves`: the contract of the server.  A page of changes holds
  what lies between two checkpoints, and a page of a snapshot what lies between two
  cursors, as of its base checkpoint.
* `CheckpointBehind`: the invariant.  It holds at every point of every call
  (`perform_checkpointBehind`), so that a fetch, an application or a write may fail
  and the process may end anywhere.
* `reconciliation_never_skips`: it holds in every run, whoever is signed in.  The local
  state is what the callback of `reconcile` has been given; that of `synchronize` only
  collects the documents for its caller.
-/

namespace TetiBot

open Library Library.Async

/-! ### The feed of the server -/

/-- A document in which a change has been taken in: one of the same relationship, and
not an older one. -/
def RelationshipDocument.Covers (item document : RelationshipDocument) : Prop :=
  item.id = document.id ∧ document.revision ≤ item.revision

/-- The changes of an identity by position, the position of a checkpoint, and the
relationships on the pages of a snapshot before a cursor. -/
structure RelationshipFeed where
  change : TetiId → Nat → Option RelationshipDocument
  position : TetiId → String → Nat
  isBefore : TetiId → String → String → Prop

namespace RelationshipFeed

variable (feed : RelationshipFeed)

/-- The server delivers the feed. -/
structure Serves (env : RelationshipEnvironment) : Prop where
  changes : ∀ n tetiId checkpoint page, env.getChanges n tetiId checkpoint = .answered page →
    ∀ k document, feed.change tetiId k = some document → feed.position tetiId checkpoint ≤ k →
      k < feed.position tetiId page.checkpoint →
        ∃ item ∈ page.items, item.relationship.Covers document
  snapshot : ∀ n tetiId cursor page, env.getSnapshot n tetiId cursor = .answered page →
    ∀ k document, feed.change tetiId k = some document →
      k < feed.position tetiId page.baseCheckpoint →
      (∀ start ∈ cursor, ¬feed.isBefore tetiId start document.id) →
      (∀ next ∈ page.nextCursor, feed.isBefore tetiId next document.id) →
        ∃ item ∈ page.items, item.Covers document

end RelationshipFeed

/-- A document of the identity that covers the change was applied. -/
def Taken (applied : List (TetiId × RelationshipDocument)) (tetiId : TetiId)
    (document : RelationshipDocument) : Prop :=
  ∃ item, (tetiId, item) ∈ applied ∧ item.Covers document

lemma Taken.mono {applied applied' : List (TetiId × RelationshipDocument)} {tetiId : TetiId}
    {document : RelationshipDocument} (h : Taken applied tetiId document)
    (hsub : applied ⊆ applied') : Taken applied' tetiId document := by
  obtain ⟨item, hmem, hcovers⟩ := h
  exact ⟨item, hsub hmem, hcovers⟩

section Invariant

variable {feed : RelationshipFeed}

/-- Every change before the checkpoint was taken. -/
def IsBehind (feed : RelationshipFeed) (applied : List (TetiId × RelationshipDocument))
    (tetiId : TetiId) (checkpoint : String) : Prop :=
  ∀ k document, feed.change tetiId k = some document → k < feed.position tetiId checkpoint →
    Taken applied tetiId document

variable {applied : List (TetiId × RelationshipDocument)}

lemma IsBehind.mono {applied' : List (TetiId × RelationshipDocument)} {tetiId : TetiId}
    {checkpoint : String} (h : IsBehind feed applied tetiId checkpoint) (hsub : applied ⊆ applied') :
    IsBehind feed applied' tetiId checkpoint :=
  fun k document hchange hk => (h k document hchange hk).mono hsub

/-- **The invariant**: the checkpoint on the disk is not past a change that was not
applied to the local state of its identity. -/
def CheckpointBehind (feed : RelationshipFeed) (w : RelationshipWorld) : Prop :=
  ∀ tetiId checkpoint, w.reconciliationFile = some ⟨some (tetiId, checkpoint)⟩ →
    IsBehind feed w.applied tetiId checkpoint

lemma CheckpointBehind.grow {w w' : RelationshipWorld} (h : CheckpointBehind feed w)
    (hfile : w'.reconciliationFile = w.reconciliationFile) (hsub : w.applied ⊆ w'.applied) :
    CheckpointBehind feed w' := by
  intro tetiId checkpoint hstored
  rw [hfile] at hstored
  exact (h tetiId checkpoint hstored).mono hsub

/-- The invariant, where these documents were applied. -/
def BehindWith (feed : RelationshipFeed) (applied : List (TetiId × RelationshipDocument))
    (w : RelationshipWorld) : Prop :=
  CheckpointBehind feed w ∧ w.applied = applied

instance (applied : List (TetiId × RelationshipDocument)) :
    Uncommanded (BehindWith feed applied) where
  tick _ := id
  compatible _ := id
  setCommandFile _ _ := id
  record _ _ := id

/-! ### The parts of a reconciliation -/

variable {env : RelationshipEnvironment} {w : RelationshipWorld}

/-- What leaves the reconciliation alone keeps the invariant. -/
lemma returns_quiet {α : Type} {m : RelationshipOperation α}
    (hm : ∀ applied, Stable (BehindWith feed applied) m) (hw : CheckpointBehind feed w) :
    Returns (CheckpointBehind feed) (fun _ w' => w'.applied = w.applied) m w :=
  Passes.weaken ((hm w.applied).returns ⟨hw, rfl⟩ fun _ h => h.1) fun _ _ _ h a ha => (h a ha).2

/-- The callback takes every document of a page, or throws. -/
lemma returns_applyAll (identity : AuthenticatedIdentity) (documents : List RelationshipDocument)
    (hw : CheckpointBehind feed w) :
    Returns (CheckpointBehind feed) (fun _ w' => w.applied ⊆ w'.applied
        ∧ ∀ document ∈ documents, (identity.tetiId, document) ∈ w'.applied)
      (applyAll env identity documents) w := by
  induction documents generalizing w with
  | nil => exact Returns.pure hw ⟨fun _ => id, nofun⟩
  | cons document documents ih =>
    refine Returns.bind_fromExcept hw fun _ _ => ?_
    refine Returns.bind (R := fun _ w' => w.applied ⊆ w'.applied
      ∧ (identity.tetiId, document) ∈ w'.applied) ?_ fun _ w' hw' happlied => ?_
    · refine Passes.lift hw ?_ ?_
      · rw [exec_applyDocument]
        cases env.apply w.calls document with
        | some error => exact hw
        | none => exact hw.grow rfl (List.subset_append_left _ _)
      · rw [exec_applyDocument]
        cases env.apply w.calls document with
        | some error => exact nofun
        | none =>
          exact fun _ _ => ⟨List.subset_append_left _ _, List.mem_append_right _ (by simp)⟩
    · refine Passes.weaken (ih hw') ?_
      rintro r v - hr u hu
      obtain ⟨hsub, hall⟩ := hr u hu
      refine ⟨List.Subset.trans happlied.1 hsub, fun other hmem => ?_⟩
      rcases List.mem_cons.mp hmem with rfl | hmem
      · exact hsub happlied.2
      · exact hall other hmem

/-- A checkpoint that no change is missing before may be written. -/
lemma stable_saveCheckpoint {tetiId : TetiId} {checkpoint : String}
    (h : IsBehind feed applied tetiId checkpoint) :
    Stable (BehindWith feed applied) (saveReconciliation env ⟨some (tetiId, checkpoint)⟩) := by
  unfold saveReconciliation
  intro v hv
  refine Passes.bind_fromExcept hv (fun _ _ => trivial) fun record hrecord => ?_
  have hsame : record = ⟨some (tetiId, checkpoint)⟩ := by
    unfold validateReconciliationRecord at hrecord
    dsimp only at hrecord
    split_ifs at hrecord
    exact (Except.ok.inj hrecord).symm
  subst hsame
  refine stable_replaceFile _ (fun v hv => ⟨?_, hv.2⟩) v hv
  intro other stored hstored
  obtain ⟨rfl, rfl⟩ : tetiId = other ∧ checkpoint = stored := by
    simpa [RelationshipWorld.setReconciliationFile] using hstored
  exact h.mono (hv.2 ▸ fun _ => id)

lemma stable_forgetCheckpoint :
    Stable (BehindWith feed applied) (saveReconciliation env emptyReconciliationRecord) := by
  have hrun : saveReconciliation env emptyReconciliationRecord
      = lift (storeStep env .reconciliation .rm fun w => w.setReconciliationFile none) := rfl
  rw [hrun]
  refine stable_storeStep _ _ fun v hv => ⟨fun _ _ hstored => ?_, hv.2⟩
  simp [RelationshipWorld.setReconciliationFile] at hstored

lemma returns_loadReconciliation (hw : CheckpointBehind feed w) :
    Returns (CheckpointBehind feed) (fun stored w' => w'.applied = w.applied
        ∧ ∀ tetiId checkpoint, stored.binding = some (tetiId, checkpoint) →
          IsBehind feed w.applied tetiId checkpoint)
      (loadReconciliation env) w := by
  refine Returns.bind (returns_quiet (fun _ => stable_storeStep _ _ fun _ => id) hw) ?_
  intro _ w₁ hw₁ happlied
  refine Returns.bind (R := fun file w₂ => file = w₂.reconciliationFile ∧ w₂.applied = w.applied)
    (Passes.lift hw₁ hw₁ fun _ ha => ⟨(Except.ok.inj ha).symm, happlied⟩) ?_
  rintro file w₂ hw₂ ⟨rfl, happlied⟩
  cases hfile : w₂.reconciliationFile with
  | none => exact Returns.pure hw₂ ⟨happlied, nofun⟩
  | some record =>
    refine Passes.fromExcept hw₂ fun stored hstored => ⟨happlied, ?_⟩
    intro tetiId checkpoint hbinding
    have hsame : stored = record := by
      unfold validateReconciliationRecord at hstored
      split at hstored
      · exact (Except.ok.inj hstored).symm
      · split_ifs at hstored
        exact (Except.ok.inj hstored).symm
    rw [← happlied]
    refine hw₂ tetiId checkpoint ?_
    rw [hfile, ← hsame, ← hbinding]

section

variable (hserves : feed.Serves env)

include hserves

variable (identity : AuthenticatedIdentity)

/-- What an answered page of a snapshot holds. -/
lemma returns_getSnapshot (cursor : Option String) (hw : CheckpointBehind feed w) :
    Returns (CheckpointBehind feed) (fun page w' => w'.applied = w.applied
        ∧ ∀ k document, feed.change identity.tetiId k = some document →
          k < feed.position identity.tetiId page.baseCheckpoint →
          (∀ start ∈ cursor, ¬feed.isBefore identity.tetiId start document.id) →
          (∀ next ∈ page.nextCursor, feed.isBefore identity.tetiId next document.id) →
            ∃ item ∈ page.items, item.Covers document)
      (getRelationshipSnapshot env identity cursor) w := by
  refine Returns.bind_throwIf hw fun _ => ?_
  refine Returns.bind (R := fun exchange w' => w'.applied = w.applied
    ∧ ∃ n, exchange = env.getSnapshot n identity.tetiId cursor)
    (Passes.lift hw hw fun _ ha => ⟨rfl, _, (Except.ok.inj ha).symm⟩) ?_
  rintro _ w' hw' ⟨happlied, n, rfl⟩
  refine Passes.fromExcept hw' fun page hpage => ⟨happlied, ?_⟩
  exact hserves.snapshot n _ _ page (Exchange.result_eq_ok hpage)

/-- What an answered page of changes holds. -/
lemma returns_getChanges (checkpoint : String) (hw : CheckpointBehind feed w) :
    Returns (CheckpointBehind feed) (fun page w' => w'.applied = w.applied
        ∧ ∀ k document, feed.change identity.tetiId k = some document →
          feed.position identity.tetiId checkpoint ≤ k →
          k < feed.position identity.tetiId page.checkpoint →
            ∃ item ∈ page.items, item.relationship.Covers document)
      (getRelationshipChanges env identity checkpoint) w := by
  refine Returns.bind_throwIf hw fun _ => ?_
  refine Returns.bind (R := fun exchange w' => w'.applied = w.applied
    ∧ ∃ n, exchange = env.getChanges n identity.tetiId checkpoint)
    (Passes.lift hw hw fun _ ha => ⟨rfl, _, (Except.ok.inj ha).symm⟩) ?_
  rintro _ w' hw' ⟨happlied, n, rfl⟩
  refine Passes.fromExcept hw' fun page hpage => ⟨happlied, ?_⟩
  exact hserves.changes n _ _ page (Exchange.result_eq_ok hpage)

/-- **The snapshot**: when it ends, the changes before its base checkpoint were taken,
apart from those of the relationships before the cursor it began with. -/
lemma returns_scanSnapshot (pages : Nat) (seen : List String)
    (cursor base : Option String) (hw : CheckpointBehind feed w) :
    Returns (CheckpointBehind feed) (fun checkpoint w' => w.applied ⊆ w'.applied
        ∧ (∀ known ∈ base, checkpoint = known)
        ∧ ∀ k document, feed.change identity.tetiId k = some document →
          k < feed.position identity.tetiId checkpoint →
          (∀ start ∈ cursor, ¬feed.isBefore identity.tetiId start document.id) →
            Taken w'.applied identity.tetiId document)
      (scanSnapshot env identity seen cursor base pages) w := by
  induction pages generalizing seen cursor base w with
  | zero => exact Returns.raise hw
  | succ pages ih =>
    refine Returns.bind (returns_getSnapshot hserves identity cursor hw) ?_
    rintro page w₁ hw₁ ⟨hsame, hpage⟩
    refine Returns.bind_throwIf hw₁ fun hbase => ?_
    refine Returns.bind (returns_applyAll identity page.items hw₁) ?_
    rintro _ w₂ hw₂ ⟨hsub, hitems⟩
    rw [hsame] at hsub
    have hknown : ∀ known ∈ base, page.baseCheckpoint = known := by
      intro known hmem
      by_contra hne
      exact hbase ⟨known, hmem, hne⟩
    have htaken : ∀ k document, feed.change identity.tetiId k = some document →
        k < feed.position identity.tetiId page.baseCheckpoint →
        (∀ start ∈ cursor, ¬feed.isBefore identity.tetiId start document.id) →
        (∀ next ∈ page.nextCursor, feed.isBefore identity.tetiId next document.id) →
          Taken w₂.applied identity.tetiId document := by
      intro k document hchange hk hstart hnext
      obtain ⟨item, hmem, hcovers⟩ := hpage k document hchange hk hstart hnext
      exact ⟨item, hitems item hmem, hcovers⟩
    cases hcursor : page.nextCursor with
    | none =>
      rw [hcursor] at htaken
      exact Returns.pure hw₂ ⟨hsub, hknown, fun k document hchange hk hstart =>
        htaken k document hchange hk hstart nofun⟩
    | some next =>
      refine Returns.bind_throwIf hw₂ fun _ => ?_
      refine Passes.weaken (ih (seen ++ [next]) (some next) (some page.baseCheckpoint) hw₂) ?_
      intro r w' _ hr checkpoint hreturn
      obtain ⟨hsub', hsame', htaken'⟩ := hr checkpoint hreturn
      obtain rfl := hsame' page.baseCheckpoint rfl
      refine ⟨List.Subset.trans hsub hsub', hknown, fun k document hchange hk hstart => ?_⟩
      -- a relationship is on this page, or on one after the next cursor
      by_cases hbefore : feed.isBefore identity.tetiId next document.id
      · refine (htaken k document hchange hk hstart ?_).mono hsub'
        rintro other hother
        obtain rfl := Option.some.inj (hcursor.symm.trans hother)
        exact hbefore
      · refine htaken' k document hchange hk ?_
        rintro other hother
        obtain rfl := Option.some.inj hother
        exact hbefore

/-- **The changes**: every page is taken before its checkpoint is written. -/
lemma always_scanChanges (pages : Nat) (seen : List String)
    (checkpoint : String) (hw : CheckpointBehind feed w)
    (hbehind : IsBehind feed w.applied identity.tetiId checkpoint) :
    Always (CheckpointBehind feed) (scanChanges env identity seen checkpoint pages) w := by
  refine Returns.always (Q := fun _ _ => True) ?_
  induction pages generalizing seen checkpoint w with
  | zero => exact Returns.raise hw
  | succ pages ih =>
    refine Returns.bind_throwIf hw fun _ => ?_
    refine Returns.bind (returns_getChanges hserves identity checkpoint hw) ?_
    rintro page w₁ hw₁ ⟨hsame, hpage⟩
    refine Returns.bind_throwIf hw₁ fun _ => ?_
    refine Returns.bind (returns_applyAll identity _ hw₁) ?_
    rintro _ w₂ hw₂ ⟨hsub, hitems⟩
    rw [hsame] at hsub
    have hnext : IsBehind feed w₂.applied identity.tetiId page.checkpoint := by
      intro k document hchange hk
      by_cases hbefore : k < feed.position identity.tetiId checkpoint
      · exact (hbehind k document hchange hbefore).mono hsub
      · obtain ⟨item, hmem, hcovers⟩ := hpage k document hchange (not_lt.mp hbefore) hk
        exact ⟨item.relationship, hitems _ (List.mem_map_of_mem hmem), hcovers⟩
    refine Returns.bind ((stable_saveCheckpoint hnext).returns ⟨hw₂, rfl⟩ fun _ h => h.1) ?_
    rintro _ w₃ hw₃ ⟨-, happlied⟩
    refine Returns.ite (fun _ => ?_) fun _ => Returns.pure hw₃ trivial
    refine ih _ page.checkpoint hw₃ ?_
    rwa [happlied]

/-- The changes are read from a checkpoint that is behind. -/
lemma returns_startingCheckpoint (stored : ReconciliationRecord)
    (pages : Nat) (hw : CheckpointBehind feed w)
    (hstored : ∀ tetiId checkpoint, stored.binding = some (tetiId, checkpoint) →
      IsBehind feed w.applied tetiId checkpoint) :
    Returns (CheckpointBehind feed)
      (fun checkpoint w' => IsBehind feed w'.applied identity.tetiId checkpoint)
      (startingCheckpoint env identity stored pages) w := by
  have hsnapshot : ∀ w₁, CheckpointBehind feed w₁ → Returns (CheckpointBehind feed)
      (fun checkpoint w' => IsBehind feed w'.applied identity.tetiId checkpoint)
      (scanSnapshot env identity [] none none pages) w₁ := by
    intro w₁ hw₁
    refine Passes.weaken (returns_scanSnapshot hserves identity pages [] none none hw₁) ?_
    intro r w' _ hr checkpoint hreturn k document hchange hk
    exact (hr checkpoint hreturn).2.2 k document hchange hk nofun
  unfold startingCheckpoint
  cases hbinding : stored.binding with
  | none => exact hsnapshot w hw
  | some binding =>
    obtain ⟨tetiId, checkpoint⟩ := binding
    dsimp only
    by_cases hidentity : tetiId ≠ identity.tetiId
    · -- another identity has signed in: its checkpoint says nothing about this one
      rw [if_pos hidentity]
      refine Returns.bind (returns_quiet (fun _ => stable_forgetCheckpoint) hw) ?_
      exact fun _ w₁ hw₁ _ => hsnapshot w₁ hw₁
    · rw [if_neg hidentity]
      refine Returns.pure hw ?_
      rw [← not_not.mp hidentity]
      exact hstored tetiId checkpoint hbinding

lemma always_reconcileCheckpoint (pages : Nat) (hw : CheckpointBehind feed w) :
    Always (CheckpointBehind feed) (reconcile env pages) w := by
  refine Returns.always (Q := fun _ _ => True) ?_
  refine Returns.bind (returns_quiet (fun _ => stable_prepare) hw) fun identity w₁ hw₁ _ => ?_
  refine Returns.bind (returns_quiet (fun _ => stable_recoverPending identity) hw₁) ?_
  intro _ w₂ hw₂ _
  refine Returns.bind (returns_loadReconciliation hw₂) ?_
  rintro stored w₃ hw₃ ⟨happlied, hstored⟩
  rw [← happlied] at hstored
  refine Returns.bind (returns_startingCheckpoint hserves identity stored pages hw₃ hstored) ?_
  intro checkpoint w₄ hw₄ hbehind
  exact Passes.weaken (always_scanChanges hserves identity pages [] checkpoint hw₄ hbehind)
    fun _ _ _ _ _ _ => trivial

/-- **Every call keeps the invariant at every point.** -/
theorem perform_checkpointBehind (call : RelationshipCall) (w : RelationshipWorld)
    (hw : CheckpointBehind feed w) :
    Always (CheckpointBehind feed) (performRelationshipCall env call) w := by
  have hanswer : ∀ {α : Type} {m : RelationshipOperation α} (f : α → RelationshipAnswer),
      (∀ applied, Stable (BehindWith feed applied) m) →
        Always (CheckpointBehind feed) (do return f (← m)) w := fun f hm =>
    (returns_quiet (fun applied => Stable.bind (hm applied) fun _ => Stable.pure _) hw).always
  cases call with
  | reconcile pages =>
    exact Passes.bind (always_reconcileCheckpoint hserves pages hw)
      (fun _ w' hw' _ => Passes.pure hw' trivial) fun _ _ _ _ => trivial
  | getByPeer peerTetiId => exact hanswer .found fun _ => stable_getByPeer peerTetiId
  | request peerTetiId => exact hanswer .done fun _ => stable_requestRelationship peerTetiId
  | command relationshipId operation =>
    exact hanswer .done fun _ => stable_commandRelationship relationshipId operation

end

/-! ### Whole runs -/

/-- **Reconciliation never skips a change**: in every run of calls, failures, restarts
and identities, the checkpoint on the disk is not past a change that the local
state of its identity has not taken. -/
theorem reconciliation_never_skips (feed : RelationshipFeed) (env : RelationshipEnvironment)
    (w : RelationshipWorld)
    (s : Exclusive RelationshipCall RelationshipError RelationshipWorld RelationshipAnswer)
    (hserves : feed.Serves env) (hstart : w.reconciliationFile = none)
    (hrun : RelationshipRun env w s) : CheckpointBehind feed s.world := by
  have hinitial : CheckpointBehind feed w := by
    intro tetiId checkpoint hstored
    rw [hstart] at hstored
    cases hstored
  have hrestart : ∀ v, CheckpointBehind feed v → CheckpointBehind feed v.restart := fun _ hv => hv
  exact (Exclusive.underway hinitial (perform_checkpointBehind hserves) hrestart hrun).world

end Invariant

/-- The sample relationship, once the peer has confirmed it. -/
def confirmedRelationship : RelationshipDocument where
  id := sampleRelationship.id
  revision := 2
  state := .confirmed
  peerTetiId := samplePeer
  requesterTetiId := sampleIdentity.tetiId
  addresseeTetiId := samplePeer
  direction := .outgoing
  blockedBy := none
  createdAt := 0
  updatedAt := 1
  stateChangedAt := 1
  wellFormed := by decide +kernel
  membersDiffer := sampleRelationship.membersDiffer

/-- The request, then its confirmation. -/
def sampleFeed : RelationshipFeed where
  change _ k := if k = 0 then some sampleRelationship else
    if k = 1 then some confirmedRelationship else none
  position _ checkpoint := if checkpoint = "rcp_1" then 1 else if checkpoint = "rcp_2" then 2 else 0
  isBefore _ _ _ := False

/-- The server of the sample feed; the local state does not take the first document
it is offered. -/
def reconcilingEnvironment : RelationshipEnvironment where
  bootstrap _ := .answered ⟨1, 8, []⟩
  getAuthentication _ := .ok sampleIdentity
  getRelationship _ _ _ := .unreachable
  getRelationshipWithPeer _ _ _ := .unreachable
  write _ _ := .unreachable
  getSnapshot _ _ _ := .answered ⟨[sampleRelationship], "rcp_1", none⟩
  getChanges _ _ checkpoint :=
    if checkpoint = "rcp_1" then .answered ⟨[⟨"rcp_2", confirmedRelationship⟩], "rcp_2", false⟩
    else .answered ⟨[], checkpoint, false⟩
  apply n _ := if n ≤ 5 then some (.other "disk full") else none
  idempotencyKey _ operation := operation
  fails _ _ _ := none

lemma sampleFeed_serves : sampleFeed.Serves reconcilingEnvironment where
  changes := by
    intro n tetiId checkpoint page hpage k document hchange hle hlt
    by_cases hone : checkpoint = "rcp_1"
    · simp only [reconcilingEnvironment, hone, if_true] at hpage
      obtain rfl := Exchange.answered.inj hpage
      have hk : k = 1 := by
        simp [sampleFeed, hone] at hle hlt
        omega
      subst hk
      obtain rfl : confirmedRelationship = document := by simpa [sampleFeed] using hchange
      exact ⟨_, List.mem_singleton_self _, rfl, le_rfl⟩
    · simp only [reconcilingEnvironment, hone, if_false] at hpage
      obtain rfl := Exchange.answered.inj hpage
      exact absurd hlt (not_lt.mpr hle)
  snapshot := by
    intro n tetiId cursor page hpage k document hchange hlt _ _
    obtain rfl := Exchange.answered.inj hpage
    have hk : k = 0 := by
      simp [sampleFeed] at hlt
      omega
    subst hk
    obtain rfl : sampleRelationship = document := by simpa [sampleFeed] using hchange
    exact ⟨_, List.mem_singleton_self _, rfl, le_rfl⟩

/-- The first reconciliation ends where the local state throws. -/
lemma reconcile_failed :
    ((performRelationshipCall reconcilingEnvironment (.reconcile 2)).outcome
      freshRelationshipWorld).2 = ⟨none, none, true, 6, [], []⟩ := by
  apply RelationshipWorld.ext
  · exact Option.isNone_iff_eq_none.mp (by decide +kernel)
  · decide +kernel
  · decide +kernel
  · decide +kernel
  · decide +kernel
  · decide +kernel

lemma reconcile_succeeded :
    ((performRelationshipCall reconcilingEnvironment (.reconcile 2)).outcome
      ⟨none, none, true, 6, [], []⟩).2.reconciliationFile
      = some ⟨some (sampleIdentity.tetiId, "rcp_2")⟩ := by
  decide +kernel

/-- The local state fails once, and then the reconciliation comes to its end. -/
theorem reconciliation_never_skips_failure :
    ∃ s, RelationshipRun reconcilingEnvironment freshRelationshipWorld s
      ∧ s.world.reconciliationFile = some ⟨some (sampleIdentity.tetiId, "rcp_2")⟩
      ∧ CheckpointBehind sampleFeed s.world := by
  have hfirst := run_call (run_idle _ _) (.reconcile 2) reconcile_failed
  obtain ⟨w, hw⟩ : ∃ w, ((performRelationshipCall reconcilingEnvironment
      (.reconcile 2)).outcome ⟨none, none, true, 6, [], []⟩).2 = w := ⟨_, rfl⟩
  have hfile : w.reconciliationFile = some ⟨some (sampleIdentity.tetiId, "rcp_2")⟩ := by
    rw [← hw]
    exact reconcile_succeeded
  obtain ⟨settled, hrun⟩ := run_call hfirst (.reconcile 2) hw
  exact ⟨_, hrun, hfile, reconciliation_never_skips _ _ _ _ sampleFeed_serves rfl hrun⟩

end TetiBot

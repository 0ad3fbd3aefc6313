import TetiBot.Relationships.Service

/-
Frame rules of the relationship service: what an operation leaves alone holds at
every point of it.

* `Unconsulted`: a property that no consultation of the environment changes, such
  as one of the files and of what has been done.  Every read of the service keeps it.
* `Uncommanded`: a property that does not depend on the commands either.  Every
  operation on commands keeps it.
* `Unreconciled`: a property that does not depend on the reconciliation.  Every part
  of a reconciliation keeps it.
-/

namespace TetiBot

open Library Library.Async

variable {env : RelationshipEnvironment} {I : RelationshipWorld → Prop}

/-! ### What a property depends on -/

/-- Neither the number of consultations nor the flag `compatible`. -/
class Unconsulted (I : RelationshipWorld → Prop) : Prop where
  tick : ∀ w, I w → I w.tick
  compatible : ∀ w : RelationshipWorld, I w → I { w with compatible := true }

/-- Nor the command file, nor what has become of the commands. -/
class Uncommanded (I : RelationshipWorld → Prop) : Prop extends Unconsulted I where
  setCommandFile : ∀ w file, I w → I (w.setCommandFile file)
  record : ∀ w event, I w → I (w.record event)

/-- Nor the reconciliation file, nor the documents that were applied. -/
class Unreconciled (I : RelationshipWorld → Prop) : Prop extends Unconsulted I where
  setReconciliationFile : ∀ w file, I w → I (w.setReconciliationFile file)
  recordApplied : ∀ w tetiId document, I w → I (w.recordApplied tetiId document)

/-- The command file and the history of the commands. -/
def CommandsAt (file : Option Json) (log : List CommandEvent) (w : RelationshipWorld) : Prop :=
  w.commandFile = file ∧ w.log = log

instance (file : Option Json) (log : List CommandEvent) : Unreconciled (CommandsAt file log) where
  tick _ := id
  compatible _ := id
  setReconciliationFile _ _ := id
  recordApplied _ _ _ := id

/-- The history of the commands. -/
def LogAt (log : List CommandEvent) (w : RelationshipWorld) : Prop := w.log = log

instance (log : List CommandEvent) : Unreconciled (LogAt log) where
  tick _ := id
  compatible _ := id
  setReconciliationFile _ _ := id
  recordApplied _ _ _ := id

/-! ### Reads -/

lemma exec_consult {α : Type} (f : Nat → α) (w : RelationshipWorld) :
    (consult f).exec w = (.ok (f w.calls), w.tick) := rfl

lemma stable_reads {α : Type} (f : RelationshipWorld → α) :
    Stable I (lift (Program.reads f) : RelationshipOperation α) :=
  Stable.lift fun _ hw => hw

/-- A step of a store throws, or makes its change. -/
lemma exec_storeStep (store : RelationshipStore) (step : StoreStep)
    (change : RelationshipWorld → RelationshipWorld) (w : RelationshipWorld) :
    (storeStep env store step change).exec w = match env.fails w.calls store step with
      | some message => (.error (.other message), w.tick)
      | none => (.ok (), change w.tick) := by
  rw [storeStep, Program.exec_bind, exec_consult]
  cases h : env.fails w.calls store step <;> rfl

section Reads

variable [Unconsulted I]

lemma stable_consult {α : Type} (f : Nat → α) : Stable I (lift (consult f)) :=
  Stable.lift fun w hw => Unconsulted.tick w hw

lemma stable_storeStep (store : RelationshipStore) (step : StoreStep)
    {change : RelationshipWorld → RelationshipWorld} (h : ∀ w, I w → I (change w)) :
    Stable I (lift (storeStep env store step change)) := by
  refine Stable.lift fun w hw => ?_
  have htick : I w.tick := Unconsulted.tick w hw
  rw [exec_storeStep]
  cases env.fails w.calls store step with
  | some message => exact htick
  | none => exact h _ htick

lemma stable_replaceFile (store : RelationshipStore)
    {change : RelationshipWorld → RelationshipWorld} (h : ∀ w, I w → I (change w)) :
    Stable I (replaceFile env store change) := by
  refine Stable.bind (stable_storeStep store _ fun _ => id) fun _ => ?_
  refine Stable.bind (stable_storeStep store _ fun _ => id) fun _ => ?_
  refine Stable.bind (stable_storeStep store _ fun _ => id) fun _ => ?_
  refine Stable.bind (stable_storeStep store _ h) fun _ => ?_
  exact stable_storeStep store _ fun _ => id

lemma stable_loadCommand : Stable I (loadCommand env) := by
  refine Stable.bind (stable_storeStep _ _ fun _ => id) fun _ => ?_
  refine Stable.bind (stable_reads _) fun value => ?_
  cases value with
  | none => exact Stable.pure _
  | some value => exact Stable.fromExcept _

lemma stable_loadReconciliation : Stable I (loadReconciliation env) := by
  refine Stable.bind (stable_storeStep _ _ fun _ => id) fun _ => ?_
  refine Stable.bind (stable_reads _) fun value => ?_
  cases value with
  | none => exact Stable.pure _
  | some value => exact Stable.fromExcept _

variable (identity : AuthenticatedIdentity)

lemma stable_getRelationship (relationshipId : String) :
    Stable I (getRelationship env identity relationshipId) := by
  refine Stable.bind (Stable.throwIf _ _) fun _ => ?_
  exact Stable.bind (stable_consult _) fun _ => Stable.fromExcept _

lemma stable_getRelationshipWithPeer (peerTetiId : TetiId) :
    Stable I (getRelationshipWithPeer env identity peerTetiId) := by
  refine Stable.bind (Stable.throwIf _ _) fun _ => ?_
  exact Stable.bind (stable_consult _) fun _ => Stable.fromExcept _

lemma stable_getRelationshipSnapshot (cursor : Option String) :
    Stable I (getRelationshipSnapshot env identity cursor) := by
  refine Stable.bind (Stable.throwIf _ _) fun _ => ?_
  exact Stable.bind (stable_consult _) fun _ => Stable.fromExcept _

lemma stable_getRelationshipChanges (checkpoint : String) :
    Stable I (getRelationshipChanges env identity checkpoint) := by
  refine Stable.bind (Stable.throwIf _ _) fun _ => ?_
  exact Stable.bind (stable_consult _) fun _ => Stable.fromExcept _

lemma stable_readLatest (result : RelationshipResult) :
    Stable I (readLatest env identity result) := by
  refine Stable.bind (stable_getRelationship _ _) fun latest => ?_
  exact Stable.bind (Stable.fromExcept _) fun _ => Stable.pure _

lemma stable_refresh (pending : PendingRelationshipCommand) (identity : AuthenticatedIdentity) :
    Stable I (refresh env pending identity) := by
  unfold refresh
  cases pending.target with
  | request peerTetiId => exact stable_getRelationshipWithPeer _ _
  | command operation relationshipId => exact stable_getRelationship _ _

lemma stable_readByPeer (peerTetiId : TetiId) (identity : AuthenticatedIdentity) :
    Stable I (readByPeer env peerTetiId identity) := by
  unfold readByPeer
  refine Stable.bind (Stable.attempt ?_) fun found => ?_
  · refine Stable.bind (stable_getRelationshipWithPeer _ _) fun result => ?_
    exact Stable.bind (Stable.fromExcept _) fun _ => Stable.pure _
  · cases found with
    | ok result => exact Stable.pure _
    | error error => exact Stable.ite (Stable.pure _) (Stable.raise _)

lemma stable_prepare : Stable I (prepare env) := by
  unfold prepare
  refine Stable.bind (stable_reads _) fun compatible => ?_
  have hsignIn : Stable I (do
      let identity ← lift (consult env.getAuthentication)
      fromExcept identity) :=
    Stable.bind (stable_consult _) fun _ => Stable.fromExcept _
  refine Stable.ite ?_ hsignIn
  refine Stable.bind (stable_consult _) fun exchange => ?_
  refine Stable.bind (Stable.fromExcept _) fun bootstrap => ?_
  refine Stable.bind (Stable.fromExcept _) fun _ => ?_
  exact Stable.bind (Stable.lift fun w hw => Unconsulted.compatible w hw) fun _ => hsignIn

end Reads

/-! ### Commands -/

section Commands

variable [Uncommanded I]

lemma stable_saveCommand (record : RelationshipCommandRecord)
    {note : RelationshipWorld → RelationshipWorld} (h : ∀ w, I w → I (note w)) :
    Stable I (saveCommand env record note) := by
  refine Stable.bind (Stable.fromExcept _) fun validated => ?_
  cases validated.pending with
  | none => exact stable_storeStep _ _ fun w hw => h _ (Uncommanded.setCommandFile w _ hw)
  | some pending => exact stable_replaceFile _ fun w hw => h _ (Uncommanded.setCommandFile w _ hw)

variable (pending : PendingRelationshipCommand)

lemma stable_writeRelationship : Stable I (writeRelationship env pending) := by
  refine Stable.bind (Stable.fromExcept _) fun _ => ?_
  refine Stable.bind (Stable.lift fun w hw => ?_) fun exchange => Stable.fromExcept _
  exact Uncommanded.record _ _ (Unconsulted.tick w hw)

variable (identity : AuthenticatedIdentity)

lemma stable_deliver (recovered : Bool) : Stable I (deliver env pending identity recovered) := by
  refine Stable.bind (stable_writeRelationship _) fun result => ?_
  refine Stable.bind (Stable.fromExcept _) fun _ => ?_
  refine Stable.bind (stable_saveCommand _ fun _ => id) fun _ => ?_
  refine Stable.bind (Stable.attempt (stable_readLatest _ _)) fun latest => ?_
  cases latest with
  | ok latest => exact Stable.pure _
  | error error => exact Stable.ite (Stable.raise _) (Stable.pure _)

lemma stable_afterFailure (error : RelationshipError) :
    Stable I (afterFailure env pending identity error) := by
  have hrefresh : Stable I (do
      if error.hasCode .relationshipRevisionConflict then
        let _ ← attempt (refresh env pending identity)
      raise error : RelationshipOperation RelationshipResult) :=
    Stable.ite (Stable.bind (Stable.attempt (stable_refresh _ _)) fun _ => Stable.raise _)
      (Stable.raise _)
  exact Stable.ite (Stable.bind (stable_saveCommand _ fun _ => id) fun _ => hrefresh) hrefresh

lemma stable_sendPending (recovered : Bool) :
    Stable I (sendPending env pending identity recovered) := by
  refine Stable.bind (Stable.attempt (stable_deliver _ _ _)) fun outcome => ?_
  cases outcome with
  | ok result => exact Stable.pure _
  | error error => exact stable_afterFailure _ _ _

lemma stable_recoverPending : Stable I (recoverPending env identity) := by
  refine Stable.bind stable_loadCommand fun stored => ?_
  cases stored.pending with
  | none => exact Stable.pure _
  | some pending =>
    refine Stable.ite ?_ ?_
    · refine Stable.bind (stable_saveCommand _ fun w hw => ?_) fun _ => Stable.pure _
      exact Uncommanded.record w _ hw
    · exact Stable.bind (stable_sendPending _ _ _) fun _ => Stable.pure _

lemma stable_executeNew (target : RelationshipTarget) (current : Option RelationshipResult)
    (identity : AuthenticatedIdentity) : Stable I (executeNew env target current identity) := by
  refine Stable.bind (stable_consult _) fun key => ?_
  exact Stable.bind (stable_saveCommand _ fun _ => id) fun _ => stable_sendPending _ _ _

lemma stable_getByPeer (peerTetiId : TetiId) : Stable I (getByPeer env peerTetiId) := by
  refine Stable.bind stable_prepare fun identity => ?_
  exact Stable.bind (stable_recoverPending _) fun _ => stable_readByPeer _ _

lemma stable_requestRelationship (peerTetiId : TetiId) :
    Stable I (requestRelationship env peerTetiId) := by
  refine Stable.bind stable_prepare fun identity => ?_
  refine Stable.bind (stable_recoverPending _) fun recovered => ?_
  cases recovered.filter fun result => result.document.peerTetiId = peerTetiId with
  | some result => exact Stable.pure _
  | none => exact Stable.bind (stable_readByPeer _ _) fun current => stable_executeNew _ _ _

lemma stable_commandRelationship (relationshipId : String) (operation : RelationshipCommand) :
    Stable I (commandRelationship env relationshipId operation) := by
  refine Stable.bind stable_prepare fun identity => ?_
  refine Stable.bind (stable_recoverPending _) fun recovered => ?_
  cases recovered.filter fun result => result.document.id = relationshipId with
  | some result => exact Stable.pure _
  | none =>
    refine Stable.bind (stable_getRelationship _ _) fun current => ?_
    exact Stable.bind (Stable.fromExcept _) fun _ => stable_executeNew _ _ _

end Commands

/-! ### Reconciliation -/

section Reconciliation

variable [Unreconciled I]

lemma stable_saveReconciliation (record : ReconciliationRecord) :
    Stable I (saveReconciliation env record) := by
  refine Stable.bind (Stable.fromExcept _) fun validated => ?_
  cases validated.binding with
  | none => exact stable_storeStep _ _ fun w hw => Unreconciled.setReconciliationFile w _ hw
  | some binding =>
    exact stable_replaceFile _ fun w hw => Unreconciled.setReconciliationFile w _ hw

variable (identity : AuthenticatedIdentity)

/-- The callback throws, or the document is applied. -/
lemma exec_applyDocument (document : RelationshipDocument) (w : RelationshipWorld) :
    (applyDocument env identity document).exec w = match env.apply w.calls document with
      | some error => (.error error, w.tick)
      | none => (.ok (), w.tick.recordApplied identity.tetiId document) := by
  rw [applyDocument, Program.exec_bind, exec_consult]
  cases h : env.apply w.calls document <;> rfl

lemma stable_applyAll (documents : List RelationshipDocument) :
    Stable I (applyAll env identity documents) := by
  induction documents with
  | nil => exact Stable.pure _
  | cons document documents ih =>
    refine Stable.bind (Stable.fromExcept _) fun _ => ?_
    refine Stable.bind (Stable.lift fun w hw => ?_) fun _ => ih
    have htick : I w.tick := Unconsulted.tick w hw
    rw [exec_applyDocument]
    cases env.apply w.calls document with
    | some error => exact htick
    | none => exact Unreconciled.recordApplied _ _ _ htick

lemma stable_scanSnapshot (pages : Nat) (seen : List String) (cursor base : Option String) :
    Stable I (scanSnapshot env identity seen cursor base pages) := by
  induction pages generalizing seen cursor base with
  | zero => exact Stable.raise _
  | succ pages ih =>
    refine Stable.bind (stable_getRelationshipSnapshot _ _) fun page => ?_
    refine Stable.bind (Stable.throwIf _ _) fun _ => ?_
    refine Stable.bind (stable_applyAll _ _) fun _ => ?_
    cases page.nextCursor with
    | none => exact Stable.pure _
    | some next => exact Stable.bind (Stable.throwIf _ _) fun _ => ih _ _ _

lemma stable_scanChanges (pages : Nat) (seen : List String) (checkpoint : String) :
    Stable I (scanChanges env identity seen checkpoint pages) := by
  induction pages generalizing seen checkpoint with
  | zero => exact Stable.raise _
  | succ pages ih =>
    refine Stable.bind (Stable.throwIf _ _) fun _ => ?_
    refine Stable.bind (stable_getRelationshipChanges _ _) fun page => ?_
    refine Stable.bind (Stable.throwIf _ _) fun _ => ?_
    refine Stable.bind (stable_applyAll _ _) fun _ => ?_
    refine Stable.bind (stable_saveReconciliation _) fun _ => ?_
    exact Stable.ite (ih _ _) (Stable.pure _)

lemma stable_startingCheckpoint (stored : ReconciliationRecord) (pages : Nat) :
    Stable I (startingCheckpoint env identity stored pages) := by
  unfold startingCheckpoint
  cases stored.binding with
  | none => exact stable_scanSnapshot _ _ _ _ _
  | some binding =>
    refine Stable.ite ?_ (Stable.pure _)
    exact Stable.bind (stable_saveReconciliation _) fun _ => stable_scanSnapshot _ _ _ _ _

end Reconciliation

end TetiBot

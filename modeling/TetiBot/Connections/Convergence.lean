import TetiBot.Connections.Receipt

/-
Documents of one relationship, received in any order and any number of times.

* `receiveAll`: the documents that reach the runtime, one after the other; a document
  that throws leaves what it has written.
* `RelationshipView`: what a record says of its relationship.
* `receive_cases`: what one receipt can do to the store.
* `relationship_converges`: the revision never decreases, and once the document with
  the highest revision was received the record shows that document, whatever came
  before and after it.
-/

namespace TetiBot.Connections

open Library Library.Async

/-- A document, and the identity its caller knows. -/
structure Delivery where
  document : RelationshipDocument
  knownRemote : Option TetiIdentity
  deriving DecidableEq

section

variable (env : ConnectionEnvironment)

def receive (w : ConnectionWorld) (delivery : Delivery) : ConnectionWorld :=
  ((applyNetworkRelationship env delivery.document delivery.knownRemote).outcome w).2

def receiveAll (w : ConnectionWorld) (deliveries : List Delivery) : ConnectionWorld :=
  deliveries.foldl (receive env) w

end

/-- The revision under an id; 0 if there is no record or no relationship. -/
def storedRevision (id : String) (w : ConnectionWorld) : Nat :=
  ((findConnection id w.store.connections).map relationshipRevision).getD 0

/-! ### What a record shows -/

/-- The state of a relationship that has not been revoked, with its times. -/
structure LiveView where
  state : TetiConnectionState
  createdAt : Timestamp
  acceptedAt : Option Timestamp
  rejectedAt : Option Timestamp
  confirmedAt : Option Timestamp
  deriving DecidableEq

/-- What a record says of its relationship; an archived record keeps the state and the
times that it had before. -/
structure RelationshipView where
  networkRelationship : Option NetworkRelationship
  direction : RelationshipDirection
  updatedAt : Timestamp
  live : Option LiveView
  deriving DecidableEq

def viewOf (connection : TetiConnectionRecord) : RelationshipView where
  networkRelationship := connection.networkRelationship
  direction := connection.direction
  updatedAt := connection.updatedAt
  live := if isTetiConnectionArchived connection then none else some
    { state := connection.state
      createdAt := connection.createdAt
      acceptedAt := connection.acceptedAt
      rejectedAt := connection.rejectedAt
      confirmedAt := connection.confirmedAt }

/-- What a document says. -/
def documentView (sha256 : JsString → DocumentDigest) (document : RelationshipDocument) :
    RelationshipView where
  networkRelationship := some (networkRelationshipOf sha256 document)
  direction := document.direction
  updatedAt := document.updatedAt
  live := (projectNetworkRelationship document).state.map fun state =>
    { state := state
      createdAt := document.createdAt
      acceptedAt := none
      rejectedAt := if document.state = .rejected then some document.stateChangedAt else none
      confirmedAt := if document.state = .confirmed then some document.stateChangedAt else none }

section

variable {sha256 : JsString → DocumentDigest} {document : RelationshipDocument}
  {account : TetiAccount} {remote : TetiIdentity} {existing : Option TetiConnectionRecord}
  {connection projected : TetiConnectionRecord}

/-- The projected record shows the document, under the document's id. -/
lemma viewOf_projected
    (h : projectNetworkRelationshipRecovery sha256 document account remote existing
      = some projected) :
    viewOf projected = documentView sha256 document ∧ projected.requestId = document.id := by
  unfold projectNetworkRelationshipRecovery at h
  dsimp only at h
  have hrevoked : (projectNetworkRelationship document).state = none
      ↔ document.state = .revoked := by
    unfold projectNetworkRelationship
    cases document.state <;> simp
  have hdirection : (projectNetworkRelationship document).direction = document.direction := by
    unfold projectNetworkRelationship
    cases document.state <;> rfl
  split at h
  · next hstate =>
    obtain ⟨held, -, rfl⟩ := Option.map_eq_some_iff.mp h
    have hstate' := hrevoked.mp hstate
    exact ⟨by simp [viewOf, documentView, isTetiConnectionArchived, networkRelationshipOf, hstate,
      hstate', hdirection], rfl⟩
  · next state hstate =>
    obtain rfl := Option.some.inj h
    have hstate' : document.state ≠ .revoked := fun hand => by
      rw [hrevoked.mpr hand] at hstate
      cases hstate
    exact ⟨by simp [viewOf, documentView, isTetiConnectionArchived, networkRelationshipOf, hstate,
      hstate', hdirection], rfl⟩

lemma relationshipRevision_of_view (h : viewOf connection = documentView sha256 document) :
    relationshipRevision connection = document.revision := by
  have hrelationship : connection.networkRelationship
      = some (networkRelationshipOf sha256 document) :=
    congrArg RelationshipView.networkRelationship h
  simp [relationshipRevision, hrelationship, networkRelationshipOf]

end

/-! ### One receipt -/

/-- What the projection of a document leaves under its id. -/
structure Projects (sha256 : JsString → DocumentDigest) (document : RelationshipDocument)
    (connection : TetiConnectionRecord) : Prop where
  view : viewOf connection = documentView sha256 document
  requestId : connection.requestId = document.id

/-- What one receipt can do to the records: nothing, or end the peer's records without
a relationship, or also project the document, if no newer one is stored. -/
inductive Receives (sha256 : JsString → DocumentDigest) (document : RelationshipDocument)
    (before after : List TetiConnectionRecord) : Prop
  | unchanged (h : after = before)
  | ended (h : after = endedConnections document before)
  | projected (connection : TetiConnectionRecord) (hprojects : Projects sha256 document connection)
      (hnewer : ∀ held ∈ findConnection document.id before,
        relationshipRevision held ≤ document.revision)
      (h : after = upsertConnection connection (endedConnections document before))

/-- A document advances only if its record is not newer. -/
lemma revision_le_of_advances {document : RelationshipDocument} {fingerprint : String}
    {connections : List TetiConnectionRecord} {held : TetiConnectionRecord}
    (hheld : findConnection document.id connections = some held)
    (h : standing document fingerprint (findConnection document.id connections)
      (findRecovery document connections) = .advances) :
    relationshipRevision held ≤ document.revision := by
  have hrecovery : findRecovery document connections = some held := by
    rw [findRecovery, hheld]
    rfl
  rw [hrecovery] at h
  unfold relationshipRevision
  cases hrelationship : held.networkRelationship with
  | none => simp
  | some relationship =>
    simp only [Option.map_some, Option.getD_some]
    by_contra hlt
    simp only [standing, Option.bind_some, hrelationship, Option.map_some] at h
    rw [if_pos (by omega)] at h
    cases h

section

variable {env : ConnectionEnvironment}

lemma projects_of_advanceResult {document : RelationshipDocument}
    {knownRemote : Option TetiIdentity} {account : TetiAccount}
    {peerRecovery : Option TetiConnectionRecord} {w : ConnectionWorld}
    {connection : TetiConnectionRecord}
    (h : advanceResult env document knownRemote account peerRecovery w = .ok connection) :
    Projects env.sha256 document connection := by
  obtain ⟨remote, -, h⟩ := except_bind_eq_ok.mp h
  split at h
  · cases h
  · next projected hprojected =>
    obtain ⟨_, -, h⟩ := except_bind_eq_ok.mp h
    obtain rfl := Except.ok.inj h
    obtain ⟨hview, hid⟩ := viewOf_projected hprojected
    exact ⟨hview, hid⟩

lemma receive_cases (w : ConnectionWorld) (delivery : Delivery) :
    Receives env.sha256 delivery.document w.store.connections
      (receive env w delivery).store.connections := by
  cases haccount : env.account w.calls with
  | none =>
    refine .unchanged ?_
    have hrequire : (requireAccount env).outcome w = (.error (.other
        "A local Teti account is required before creating connections."), w.tick) := by
      rw [requireAccount, outcome_bind_ok (consult_outcome env.account w), haccount]
      rfl
    rw [receive, applyNetworkRelationship, outcome_bind_error hrequire]
    rfl
  | some account =>
    have houtcome := @applyNetworkRelationship_outcome env delivery.document
      delivery.knownRemote w account haccount
    rw [receive, houtcome]
    cases hstanding : standing delivery.document
        (networkRelationshipDocumentFingerprint env.sha256 delivery.document)
        (findConnection delivery.document.id w.store.connections)
        (findRecovery delivery.document w.store.connections) with
    | current connection => exact .unchanged rfl
    | divergent => exact .unchanged rfl
    | advances =>
      obtain ⟨w', hadvance, hstore⟩ := @advance_outcome env delivery.document
        delivery.knownRemote account
        (findConnection delivery.document.id w.store.connections)
        (findRecovery delivery.document w.store.connections) w.tick
      have hworld : (outcome (advance env delivery.document delivery.knownRemote account
          w.store (findConnection delivery.document.id w.store.connections)
          (findRecovery delivery.document w.store.connections)) w.tick).2 = w' :=
        congrArg Prod.snd hadvance
      dsimp only
      rw [hworld]
      cases hresult : advanceResult env delivery.document delivery.knownRemote account
          (findRecovery delivery.document w.store.connections) w.tick with
      | error e =>
        rw [hresult] at hstore
        exact hstore.elim .unchanged .ended
      | ok projected =>
        rw [hresult] at hstore
        have hview : Projects env.sha256 delivery.document projected :=
          projects_of_advanceResult hresult
        exact .projected projected hview
          (fun held hheld => revision_le_of_advances hheld hstanding) hstore

end
/-! ### The records of the peer that end -/

/-- What becomes of one record when those without a relationship are ended. -/
def endedRecord (document : RelationshipDocument) (connection : TetiConnectionRecord) :
    TetiConnectionRecord :=
  match inactiveState document.state with
  | none => connection
  | some state => inactivate document state connection

section

variable (document : RelationshipDocument)

lemma endedConnections_eq_map (connections : List TetiConnectionRecord) :
    endedConnections document connections = connections.map (endedRecord document) := by
  unfold endedConnections endedRecord
  cases inactiveState document.state with
  | none => simp
  | some state => rfl

lemma endedRecord_frame (connection : TetiConnectionRecord) :
    (endedRecord document connection).requestId = connection.requestId
      ∧ (endedRecord document connection).remoteTetiId = connection.remoteTetiId
      ∧ (endedRecord document connection).networkRelationship
        = connection.networkRelationship := by
  unfold endedRecord
  cases inactiveState document.state with
  | none => exact ⟨rfl, rfl, rfl⟩
  | some state => exact inactivate_frame document state connection

lemma endedRecord_of_relationship {connection : TetiConnectionRecord}
    (h : connection.networkRelationship ≠ none) : endedRecord document connection = connection := by
  unfold endedRecord
  cases inactiveState document.state with
  | none => rfl
  | some state => exact inactivate_of_relationship h

lemma relationshipRevision_ended (connection : TetiConnectionRecord) :
    relationshipRevision (endedRecord document connection) = relationshipRevision connection := by
  rw [relationshipRevision, relationshipRevision, (endedRecord_frame document connection).2.2]

lemma findConnection_ended (id : String) (connections : List TetiConnectionRecord) :
    findConnection id (endedConnections document connections)
      = (findConnection id connections).map (endedRecord document) := by
  rw [endedConnections_eq_map, findConnection, List.find?_map, findConnection]
  congr 2
  funext connection
  simp [(endedRecord_frame document connection).1]

end

/-- A record that shows a document stays as it is when others are ended. -/
lemma endedRecord_of_view {sha256 : JsString → DocumentDigest}
    {document shown : RelationshipDocument} {connection : TetiConnectionRecord}
    (h : viewOf connection = documentView sha256 shown) :
    endedRecord document connection = connection := by
  refine endedRecord_of_relationship document ?_
  have hrelationship : connection.networkRelationship = some (networkRelationshipOf sha256 shown) :=
    congrArg RelationshipView.networkRelationship h
  simp [hrelationship]

/-! ### Runs -/

section

variable {env : ConnectionEnvironment} {id : String}

/-- **The revision never decreases**, in one receipt. -/
lemma storedRevision_receive {w : ConnectionWorld} {delivery : Delivery}
    (hid : delivery.document.id = id) :
    storedRevision id w ≤ storedRevision id (receive env w delivery) := by
  subst hid
  have hended : ∀ connections, ((findConnection delivery.document.id
      (endedConnections delivery.document connections)).map relationshipRevision)
      = (findConnection delivery.document.id connections).map relationshipRevision := by
    intro connections
    rw [findConnection_ended, Option.map_map]
    congr 1
    funext connection
    exact relationshipRevision_ended delivery.document connection
  unfold storedRevision
  cases receive_cases w delivery with
  | unchanged h => rw [h]
  | ended h => rw [h, hended]
  | projected connection hprojects hnewer h =>
    rw [h, findConnection_upsertConnection, if_pos hprojects.requestId.symm]
    simp only [Option.map_some, Option.getD_some, relationshipRevision_of_view hprojects.view]
    cases hheld : findConnection delivery.document.id w.store.connections with
    | none => simp
    | some held => simpa using hnewer held hheld

lemma storedRevision_receiveAll {w : ConnectionWorld} {deliveries : List Delivery}
    (hid : ∀ delivery ∈ deliveries, delivery.document.id = id) :
    storedRevision id w ≤ storedRevision id (receiveAll env w deliveries) := by
  induction deliveries generalizing w with
  | nil => exact le_refl _
  | cons delivery deliveries ih =>
    calc storedRevision id w
        ≤ storedRevision id (receive env w delivery) :=
          storedRevision_receive (hid delivery (by simp))
      _ ≤ storedRevision id (receiveAll env (receive env w delivery) deliveries) :=
          ih fun other hmem => hid other (by simp [hmem])

end

/-- Before the newest document of a run: what is stored shows one of the documents, or is
older; and so is what is stored of the peer under other ids. -/
structure Unsettled (sha256 : JsString → DocumentDigest) (documents : List RelationshipDocument)
    (top : RelationshipDocument) (connections : List TetiConnectionRecord) : Prop where
  own : ∀ connection ∈ findConnection top.id connections,
    (∃ document ∈ documents, viewOf connection = documentView sha256 document)
      ∨ relationshipRevision connection < top.revision
  others : ∀ connection ∈ connections, connection.remoteTetiId = top.peerTetiId →
    connection.requestId ≠ top.id → relationshipRevision connection < top.revision

/-- After it: the record shows the newest document. -/
def Settled (sha256 : JsString → DocumentDigest) (top : RelationshipDocument)
    (connections : List TetiConnectionRecord) : Prop :=
  ∃ connection, findConnection top.id connections = some connection
    ∧ viewOf connection = documentView sha256 top

section

variable {sha256 : JsString → DocumentDigest} {documents : List RelationshipDocument}
  {top document : RelationshipDocument} {before after : List TetiConnectionRecord}

lemma Unsettled.ended (h : Unsettled sha256 documents top before) :
    Unsettled sha256 documents top (endedConnections document before) where
  own := by
    intro connection hconnection
    rw [findConnection_ended] at hconnection
    obtain ⟨held, hheld, rfl⟩ := Option.map_eq_some_iff.mp hconnection
    rcases h.own held hheld with ⟨shown, hshown, hview⟩ | hlt
    · rw [endedRecord_of_view hview]
      exact Or.inl ⟨shown, hshown, hview⟩
    · rw [relationshipRevision_ended]
      exact Or.inr hlt
  others := by
    intro connection hmem hpeer hid
    rw [endedConnections_eq_map] at hmem
    obtain ⟨held, hheld, rfl⟩ := List.mem_map.mp hmem
    obtain ⟨hrequestId, hremote, -⟩ := endedRecord_frame document held
    rw [relationshipRevision_ended]
    exact h.others held hheld (hremote.symm.trans hpeer) fun hsame => hid (hrequestId.trans hsame)

lemma Unsettled.received (h : Unsettled sha256 documents top before)
    (hmem : document ∈ documents) (hid : document.id = top.id)
    (hreceives : Receives sha256 document before after) :
    Unsettled sha256 documents top after := by
  cases hreceives with
  | unchanged hafter => rwa [hafter]
  | ended hafter => exact hafter ▸ h.ended
  | projected connection hprojects _ hafter =>
    subst hafter
    refine ⟨?_, ?_⟩
    · intro found hfound
      rw [findConnection_upsertConnection, if_pos (hid ▸ hprojects.requestId.symm)] at hfound
      obtain rfl := Option.some.inj hfound
      exact Or.inl ⟨document, hmem, hprojects.view⟩
    · intro item hitem hpeer hne
      rcases mem_upsertConnection hitem with rfl | hitem
      · exact absurd (hprojects.requestId.trans hid) hne
      · exact h.ended.others item hitem hpeer hne

/-- No document of the run unsettles what shows the newest. -/
lemma Settled.received (h : Settled sha256 top before) (hid : document.id = top.id)
    (hnewest : document.revision ≤ top.revision)
    (hdistinct : document.revision = top.revision → document = top)
    (hreceives : Receives sha256 document before after) : Settled sha256 top after := by
  obtain ⟨held, hheld, hview⟩ := h
  have hended : findConnection top.id (endedConnections document before) = some held := by
    rw [findConnection_ended, hheld, Option.map_some, endedRecord_of_view hview]
  cases hreceives with
  | unchanged hafter => exact ⟨held, hafter ▸ hheld, hview⟩
  | ended hafter => exact ⟨held, hafter ▸ hended, hview⟩
  | projected connection hprojects hnewer hafter =>
    have hrevision : top.revision ≤ document.revision := by
      rw [← relationshipRevision_of_view hview]
      exact hnewer held (hid ▸ hheld)
    obtain rfl := hdistinct (le_antisymm hnewest hrevision)
    refine ⟨connection, ?_, hprojects.view⟩
    rw [hafter, findConnection_upsertConnection, if_pos hprojects.requestId.symm]

end

/-! ### The newest document -/

/-- A document that is newer than the record it is compared with advances. -/
lemma standing_of_older {document : RelationshipDocument} {fingerprint : String}
    {exact peerRecovery : Option TetiConnectionRecord}
    (h : ∀ connection ∈ peerRecovery, relationshipRevision connection < document.revision) :
    standing document fingerprint exact peerRecovery = .advances := by
  unfold standing
  cases peerRecovery with
  | none => rfl
  | some connection =>
    have hlt := h connection rfl
    unfold relationshipRevision at hlt
    cases hrelationship : connection.networkRelationship with
    | none => simp [hrelationship]
    | some relationship =>
      rw [hrelationship, Option.map_some, Option.getD_some] at hlt
      simp only [Option.bind_some, hrelationship, Option.map_some]
      rw [if_neg (by omega), if_neg (by omega)]

/-- A document that the record shows is current, or projected once more. -/
lemma standing_of_shown {sha256 : JsString → DocumentDigest} {document : RelationshipDocument}
    {held : TetiConnectionRecord} (h : viewOf held = documentView sha256 document) :
    standing document (networkRelationshipDocumentFingerprint sha256 document) (some held)
        (some held) = .current held
      ∨ standing document (networkRelationshipDocumentFingerprint sha256 document) (some held)
        (some held) = .advances := by
  have hrelationship : held.networkRelationship = some (networkRelationshipOf sha256 document) :=
    congrArg RelationshipView.networkRelationship h
  have hsame : (truthy (networkRelationshipOf sha256 document).documentFingerprint).any
      (· != networkRelationshipDocumentFingerprint sha256 document) = false := by
    simp only [networkRelationshipOf, truthy, Option.filter]
    split_ifs <;> simp
  have hrevision : (networkRelationshipOf sha256 document).revision = document.revision := rfl
  unfold standing
  simp only [Option.bind_some, hrelationship, Option.map_some]
  rw [if_neg (by omega), if_pos hrevision, hsame]
  simp only [Bool.false_eq_true, if_false]
  split_ifs
  · exact Or.inl rfl
  · exact Or.inr rfl

section

variable {env : ConnectionEnvironment} {documents : List RelationshipDocument}
  {w : ConnectionWorld} {delivery : Delivery}

/-- What a document that advances and can be archived leaves. -/
lemma settled_of_advances {account : TetiAccount} (haccount : env.account w.calls = some account)
    (hremote : Resolvable env delivery.document delivery.knownRemote w)
    (harchivable : ¬Unarchivable delivery.document w.store.connections)
    (hadvances : standing delivery.document
      (networkRelationshipDocumentFingerprint env.sha256 delivery.document)
      (findConnection delivery.document.id w.store.connections)
      (findRecovery delivery.document w.store.connections) = .advances) :
    Settled env.sha256 delivery.document (receive env w delivery).store.connections := by
  obtain ⟨projected, hresult⟩ := (advanceResult_eq_ok_iff account hremote).mpr harchivable
  obtain ⟨w', hadvance, hstore⟩ := @advance_outcome env delivery.document
    delivery.knownRemote account (findConnection delivery.document.id w.store.connections)
    (findRecovery delivery.document w.store.connections) w.tick
  have hworld : (outcome (advance env delivery.document delivery.knownRemote account
      w.store (findConnection delivery.document.id w.store.connections)
      (findRecovery delivery.document w.store.connections)) w.tick).2 = w' :=
    congrArg Prod.snd hadvance
  have hprojects := projects_of_advanceResult hresult
  rw [hresult] at hstore
  rw [receive, applyNetworkRelationship_outcome env delivery.knownRemote haccount, hadvances]
  dsimp only
  rw [hworld]
  refine ⟨projected, ?_, hprojects.view⟩
  rw [hstore, findConnection_upsertConnection, if_pos hprojects.requestId.symm]

/-- **The newest document settles the record.** -/
lemma Unsettled.settle
    (h : Unsettled env.sha256 documents delivery.document w.store.connections)
    (hdistinct : ∀ document ∈ documents, document.revision = delivery.document.revision →
      document = delivery.document)
    (hnewest : ∀ document ∈ documents, document.revision ≤ delivery.document.revision)
    (haccount : (env.account w.calls).isSome = true)
    (hremote : Resolvable env delivery.document delivery.knownRemote w)
    (harchivable : ¬Unarchivable delivery.document w.store.connections) :
    Settled env.sha256 delivery.document (receive env w delivery).store.connections := by
  obtain ⟨account, haccount⟩ := Option.isSome_iff_exists.mp haccount
  cases hheld : findConnection delivery.document.id w.store.connections with
  | none =>
    -- the record it is compared with, if any, is one of the peer under another id
    refine settled_of_advances haccount hremote harchivable (standing_of_older ?_)
    intro connection hconnection
    have hfirst : (w.store.connections.find? fun item =>
        item.remoteTetiId == delivery.document.peerTetiId) = some connection := by
      rw [Option.mem_def, findRecovery, hheld] at hconnection
      exact hconnection
    have hmem := List.mem_of_find?_eq_some hfirst
    have hpeer : connection.remoteTetiId = delivery.document.peerTetiId := by
      simpa using List.find?_some hfirst
    refine h.others connection hmem hpeer fun hid => ?_
    have := List.find?_eq_none.mp hheld connection hmem
    simp [hid] at this
  | some held =>
    have hrecovery : findRecovery delivery.document w.store.connections = some held := by
      rw [findRecovery, hheld]
      rfl
    have hshown : relationshipRevision held < delivery.document.revision
        ∨ viewOf held = documentView env.sha256 delivery.document := by
      rcases h.own held hheld with ⟨document, hmem, hview⟩ | hlt
      · rcases (hnewest document hmem).lt_or_eq with hlt | heq
        · exact Or.inl (relationshipRevision_of_view hview ▸ hlt)
        · exact Or.inr (hdistinct document hmem heq ▸ hview)
      · exact Or.inl hlt
    rcases hshown with hlt | hview
    · refine settled_of_advances haccount hremote harchivable (standing_of_older ?_)
      intro connection hconnection
      obtain rfl : held = connection := by simpa [hrecovery] using hconnection
      exact hlt
    · rcases standing_of_shown hview with hcurrent | hadvances
      · refine ⟨held, ?_, hview⟩
        rw [receive, applyNetworkRelationship_outcome env delivery.knownRemote haccount, hheld,
          hrecovery, hcurrent]
        exact hheld
      · exact settled_of_advances haccount hremote harchivable (by rw [hheld, hrecovery, hadvances])

end

/-! ### Every order -/

section

variable {env : ConnectionEnvironment} {deliveries : List Delivery} {w : ConnectionWorld}

lemma receiveAll_append (before after : List Delivery) :
    receiveAll env w (before ++ after) = receiveAll env (receiveAll env w before) after :=
  List.foldl_append

/-- What comes before the newest document leaves the record unsettled. -/
lemma unsettled_receiveAll {documents : List RelationshipDocument} {top : RelationshipDocument}
    (h : Unsettled env.sha256 documents top w.store.connections)
    (hmem : ∀ delivery ∈ deliveries, delivery.document ∈ documents)
    (hid : ∀ delivery ∈ deliveries, delivery.document.id = top.id) :
    Unsettled env.sha256 documents top (receiveAll env w deliveries).store.connections := by
  induction deliveries generalizing w with
  | nil => exact h
  | cons delivery deliveries ih =>
    refine ih (w := receive env w delivery) ?_ (fun other hother => hmem other (by simp [hother]))
      fun other hother => hid other (by simp [hother])
    exact h.received (hmem delivery (by simp)) (hid delivery (by simp)) (receive_cases w delivery)

/-- What comes after it leaves the record settled. -/
lemma settled_receiveAll {top : RelationshipDocument}
    (h : Settled env.sha256 top w.store.connections)
    (hid : ∀ delivery ∈ deliveries, delivery.document.id = top.id)
    (hnewest : ∀ delivery ∈ deliveries, delivery.document.revision ≤ top.revision)
    (hdistinct : ∀ delivery ∈ deliveries, delivery.document.revision = top.revision →
      delivery.document = top) :
    Settled env.sha256 top (receiveAll env w deliveries).store.connections := by
  induction deliveries generalizing w with
  | nil => exact h
  | cons delivery deliveries ih =>
    refine ih (w := receive env w delivery) ?_ (fun other hother => hid other (by simp [hother]))
      (fun other hother => hnewest other (by simp [hother]))
      fun other hother => hdistinct other (by simp [hother])
    exact h.received (hid delivery (by simp)) (hnewest delivery (by simp))
      (hdistinct delivery (by simp)) (receive_cases w delivery)

end

/-- **Convergence**: documents of one relationship with distinct revisions are received,
in any order and any number of times.  The stored revision never decreases; and if what
the store held of the peer is older than the newest document, then from the receipt of
that document on the record shows it: its relationship, its direction and its time of
update, and unless it is revoked also its state and the times of the state.  A document
with the stored revision and another fingerprint is refused, and the file stays as it
is. -/
theorem relationship_converges (env : ConnectionEnvironment) (id : String) (peer : TetiId)
    (deliveries : List Delivery) (w : ConnectionWorld)
    (hid : ∀ delivery ∈ deliveries,
      delivery.document.id = id ∧ delivery.document.peerTetiId = peer)
    (hdistinct : ∀ delivery ∈ deliveries, ∀ other ∈ deliveries,
      delivery.document.revision = other.document.revision → delivery.document = other.document) :
    (∀ before after, deliveries = before ++ after →
      storedRevision id (receiveAll env w before) ≤ storedRevision id (receiveAll env w deliveries))
    ∧ (∀ before top after, deliveries = before ++ top :: after →
        (∀ delivery ∈ deliveries, delivery.document.revision ≤ top.document.revision) →
        (∀ connection ∈ w.store.connections,
          connection.requestId = id ∨ connection.remoteTetiId = peer →
          relationshipRevision connection < top.document.revision) →
        (env.account (receiveAll env w before).calls).isSome = true →
        Resolvable env top.document top.knownRemote (receiveAll env w before) →
        ¬Unarchivable top.document (receiveAll env w before).store.connections →
        (findConnection id (receiveAll env w deliveries).store.connections).map viewOf
          = some (documentView env.sha256 top.document))
    ∧ ∀ (delivery : Delivery) (now : ConnectionWorld), (env.account now.calls).isSome = true →
        Divergent env.sha256 delivery.document now.store.connections →
        ((applyNetworkRelationship env delivery.document delivery.knownRemote).outcome now).1
            = .error (relationshipConflict .relationshipReconciliationChanges
              "Teti Network returned divergent Relationship content at the same revision.")
          ∧ (receive env now delivery).store = now.store := by
  refine ⟨?_, ?_, ?_⟩
  · rintro before after rfl
    rw [receiveAll_append]
    exact storedRevision_receiveAll fun delivery hmem => (hid delivery (by simp [hmem])).1
  · rintro before top after rfl hnewest holder haccount hremote harchivable
    obtain ⟨rfl, rfl⟩ := hid top (by simp)
    have hunsettled : Unsettled env.sha256 ((before ++ top :: after).map Delivery.document)
        top.document w.store.connections := by
      refine ⟨fun connection hconnection => Or.inr ?_, fun connection hmem hpeer _ => ?_⟩
      · exact holder connection (List.mem_of_find?_eq_some hconnection)
          (Or.inl (findConnection_requestId hconnection))
      · exact holder connection hmem (Or.inr hpeer)
    have hbefore := @unsettled_receiveAll env before w _ _ hunsettled
      (fun delivery hmem => List.mem_map_of_mem (by simp [hmem]))
      fun delivery hmem => (hid delivery (by simp [hmem])).1
    have hsettled := hbefore.settle
      (fun document hmem hrevision => by
        obtain ⟨delivery, hdelivery, rfl⟩ := List.mem_map.mp hmem
        exact hdistinct delivery hdelivery top (by simp) hrevision)
      (fun document hmem => by
        obtain ⟨delivery, hdelivery, rfl⟩ := List.mem_map.mp hmem
        exact hnewest delivery hdelivery)
      haccount hremote harchivable
    obtain ⟨connection, hfound, hview⟩ := @settled_receiveAll env after _ _ hsettled
      (fun delivery hmem => (hid delivery (by simp [hmem])).1)
      (fun delivery hmem => hnewest delivery (by simp [hmem]))
      fun delivery hmem => hdistinct delivery (by simp [hmem]) top (by simp)
    rw [receiveAll_append]
    change (findConnection _ (receiveAll env (receive env (receiveAll env w before) top)
      after).store.connections).map viewOf = _
    rw [hfound, Option.map_some, hview]
  · intro delivery now haccount hdivergent
    obtain ⟨account, haccount⟩ := Option.isSome_iff_exists.mp haccount
    have hstanding := (standing_eq_divergent env.sha256 now.store
      (findConnection delivery.document.id now.store.connections)).mpr hdivergent
    have houtcome := @applyNetworkRelationship_outcome env delivery.document delivery.knownRemote now account
      haccount
    rw [hstanding] at houtcome
    rw [receive, houtcome]
    exact ⟨rfl, rfl⟩

/-! ### Bob's relationship -/

/-- Bob's request was accepted, at the second revision. -/
def confirmedDocument : RelationshipDocument :=
  { requestedDocument with
    revision := 2
    state := .confirmed
    updatedAt := 2000
    stateChangedAt := 2000
    wellFormed := by decide +kernel }

/-- The acceptance overtakes the request. -/
theorem relationship_converges_overtaken :
    (findConnection "rel_AAAAAAAAAAAAAAAAAAAAAA" (receiveAll bobEnvironment (.atRest emptyStore)
        [⟨confirmedDocument, none⟩, ⟨requestedDocument, none⟩]).store.connections).map viewOf
      = some (documentView bobEnvironment.sha256 confirmedDocument) := by
  refine (relationship_converges bobEnvironment "rel_AAAAAAAAAAAAAAAAAAAAAA" "teti_bbbbbbbbb"
    [⟨confirmedDocument, none⟩, ⟨requestedDocument, none⟩] (.atRest emptyStore) (by decide)
    (by decide)).2.1 [] ⟨confirmedDocument, none⟩ [⟨requestedDocument, none⟩] rfl (by decide)
    (by simp [ConnectionWorld.atRest, emptyStore]) rfl
    ⟨bobIdentity, by decide +kernel, bobIdentity_deliverable⟩ fun h => absurd h.1 (by decide)

/-- A revocation keeps the state that the record had when it came, so the final state
depends on the order. -/
theorem revocation_keeps_last_state :
    ¬∀ (env : ConnectionEnvironment) (id : String) (w : ConnectionWorld)
      (deliveries other : List Delivery),
      (∀ delivery ∈ deliveries, delivery.document.id = id) →
      (deliveries.map fun delivery => delivery.document.revision).Nodup →
      deliveries.Perm other →
      (findConnection id (receiveAll env w deliveries).store.connections).map
          TetiConnectionRecord.state
        = (findConnection id (receiveAll env w other).store.connections).map
          TetiConnectionRecord.state := by
  intro h
  have hsame := h bobEnvironment "rel_AAAAAAAAAAAAAAAAAAAAAA" (.atRest emptyStore)
    [⟨requestedDocument, none⟩, ⟨confirmedDocument, none⟩, ⟨revokedDocument, none⟩]
    [⟨requestedDocument, none⟩, ⟨revokedDocument, none⟩, ⟨confirmedDocument, none⟩]
    (by decide) (by decide) (by decide)
  have hlast : (findConnection "rel_AAAAAAAAAAAAAAAAAAAAAA" (receiveAll bobEnvironment
      (.atRest emptyStore) [⟨requestedDocument, none⟩, ⟨confirmedDocument, none⟩,
        ⟨revokedDocument, none⟩]).store.connections).map TetiConnectionRecord.state
      = some .confirmed := by decide +kernel
  have hfirst : (findConnection "rel_AAAAAAAAAAAAAAAAAAAAAA" (receiveAll bobEnvironment
      (.atRest emptyStore) [⟨requestedDocument, none⟩, ⟨revokedDocument, none⟩,
        ⟨confirmedDocument, none⟩]).store.connections).map TetiConnectionRecord.state
      = some .pendingApproval := by decide +kernel
  rw [hlast, hfirst] at hsame
  cases hsame

end TetiBot.Connections

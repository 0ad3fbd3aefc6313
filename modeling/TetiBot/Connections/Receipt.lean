import TetiBot.Connections.Projection
import TetiBot.Relationships.Service

/-
What becomes of a relationship document that is received.

* `validate_projected`: the record that a document leads to passes the store's checks
  if the delivery identity of the peer is usable.
* `applyNetworkRelationship_outcome`: the three ways in which a document is applied.
* `document_taken_iff`: which documents are taken; for the others the operation throws,
  and with it the scan that delivers them.
-/

namespace TetiBot.Connections

open Library Library.Async

/-! ### Texts that are not blank -/

/-- A printable ASCII character is one code unit, and no white space. -/
lemma ofChar_printable {c : Char} (hlow : 0x21 ≤ c.toNat) (hhigh : c.toNat ≤ 0x7E) :
    ∃ u, JsString.ofChar c = [u] ∧ JsString.isSpace u = false := by
  obtain ⟨k, hk, hc⟩ : ∃ k, (0x21 ≤ k ∧ k ≤ 0x7E) ∧ c = Char.ofNat k :=
    ⟨c.toNat, ⟨hlow, hhigh⟩, (Char.ofNat_toNat c).symm⟩
  subst hc
  clear hlow hhigh
  obtain ⟨hlow, hhigh⟩ := hk
  interval_cases k <;> exact ⟨_, rfl, by decide⟩

lemma isBlankText_of_head {s : String} {c : Char} {cs : List Char} (hs : s.toList = c :: cs)
    (hlow : 0x21 ≤ c.toNat) (hhigh : c.toNat ≤ 0x7E) : isBlankText s = false := by
  obtain ⟨u, hu, hspace⟩ := ofChar_printable hlow hhigh
  refine JsString.isBlank_of_head (u := u) ?_ hspace
  rw [JsString.ofString, hs, List.flatMap_cons, hu]
  rfl

lemma slugCharacter_bounds {c : Char} (h : isSlugCharacter c = true) :
    0x21 ≤ c.toNat ∧ c.toNat ≤ 0x7E := by
  simp only [isSlugCharacter, Bool.or_eq_true, Bool.and_eq_true, decide_eq_true_eq,
    Char.le_def, UInt32.le_iff_toNat_le] at h
  have hnat : c.val.toNat = c.toNat := rfl
  rw [hnat] at h
  rcases h with ⟨hlow, hhigh⟩ | ⟨hlow, hhigh⟩
  · have h1 : 97 ≤ c.toNat := hlow
    have h2 : c.toNat ≤ 122 := hhigh
    omega
  · have h1 : 48 ≤ c.toNat := hlow
    have h2 : c.toNat ≤ 57 := hhigh
    omega

lemma isBlankText_address {address : String}
    (h : isCanonicalTetiRelayChatmailAddress address = true) : isBlankText address = false := by
  unfold isCanonicalTetiRelayChatmailAddress at h
  rw [Bool.and_eq_true] at h
  obtain ⟨-, h⟩ := h
  split at h
  · next mailbox domain hsplit =>
    rw [Bool.and_eq_true] at h
    have hmailbox := h.1
    simp only [isRelayMailbox, Bool.and_eq_true, decide_eq_true_eq] at hmailbox
    obtain ⟨⟨⟨⟨hlength, -⟩, hhead⟩, -⟩, -⟩ := hmailbox
    cases mailbox with
    | nil => simp at hlength
    | cons c cs =>
      have hjoin : ['@'].intercalate (address.toList.splitOn '@') = address.toList :=
        List.intercalate_splitOn '@'
      have hlist : address.toList = c :: (cs ++ '@' :: domain) := by
        rw [← hjoin, hsplit]
        simp [List.intercalate]
      obtain ⟨hlow, hhigh⟩ := slugCharacter_bounds (c := c) (by simpa using hhead)
      exact isBlankText_of_head hlist hlow hhigh
  · simp at h

lemma isRelationshipId_toList {s : String} (h : isRelationshipId s = true) :
    ∃ cs, s.toList = 'r' :: cs := by
  unfold isRelationshipId at h
  split at h
  · next rest hs => exact ⟨_, hs⟩
  · simp at h

lemma isBlankText_relationshipId {s : String} (h : isRelationshipId s = true) :
    isBlankText s = false := by
  obtain ⟨cs, hs⟩ := isRelationshipId_toList h
  exact isBlankText_of_head hs (by decide) (by decide)

lemma ne_empty_of_not_blank {s : String} (h : isBlankText s = false) : s ≠ "" := by
  rintro rfl
  exact absurd h (by decide)

/-! ### The projected record -/

/-- What a delivery identity must be for a record with it to be stored. -/
structure Deliverable (identity : TetiIdentity) : Prop where
  canonical : isCanonicalTetiPublicId identity.id = true
  address : isBlankText identity.address = false
  publicKey : ∀ key ∈ truthy identity.publicKey, isBlankText key = false

/-- The relationship of a projected record is the document's. -/
lemma validNetworkRelationship_of (sha256 : JsString → DocumentDigest)
    (document : RelationshipDocument) :
    validNetworkRelationship document.id (networkRelationshipOf sha256 document) = true := by
  have hwell := document.wellFormed
  simp only [wellFormedRelationship, Bool.and_eq_true, decide_eq_true_eq, beq_iff_eq] at hwell
  obtain ⟨⟨⟨⟨hid, hrevision⟩, -⟩, hblocked⟩, -⟩ := hwell
  have hdigest := (sha256 (canonicalDocument document)).wellFormed
  simp [validNetworkRelationship, networkRelationshipOf, hid, hrevision, hblocked,
    networkRelationshipDocumentFingerprint, hdigest]

lemma requestSender_valid (document : RelationshipDocument) (account : TetiAccount)
    {remote : TetiIdentity} (hremote : Deliverable remote) :
    isCanonicalTetiPublicId (requestSender document account remote).id = true
      ∧ isBlankText (requestSender document account remote).address = false := by
  unfold requestSender
  split_ifs
  · exact ⟨account.canonical, isBlankText_address account.deliverable⟩
  · exact ⟨hremote.canonical, hremote.address⟩

/-- The record that a document leads to passes the checks of the store. -/
theorem validate_projected {sha256 : JsString → DocumentDigest} {document : RelationshipDocument}
    {account : TetiAccount} {remote : TetiIdentity} {existing : Option TetiConnectionRecord}
    {projected : TetiConnectionRecord} (hremote : Deliverable remote)
    (hexisting : ∀ connection ∈ existing, validateConnectionRecord connection = .ok ())
    (h : projectNetworkRelationshipRecovery sha256 document account remote existing
      = some projected) : validateConnectionRecord projected = .ok () := by
  have hid := isBlankText_relationshipId document.id_valid
  have hne : remote.id ≠ "" := by
    intro hempty
    have := hremote.canonical
    rw [hempty] at this
    exact absurd this (by decide)
  unfold projectNetworkRelationshipRecovery at h
  dsimp only at h
  rw [validateConnectionRecord_eq_ok]
  split at h
  · -- an archived record keeps the request of the existing one
    obtain ⟨connection, hconnection, rfl⟩ := Option.map_eq_some_iff.mp h
    obtain ⟨hrequest, -, hkey, -⟩ := validateConnectionRecord_eq_ok.mp
      (hexisting connection hconnection)
    refine ⟨hrequest, ⟨ne_empty_of_not_blank hid, hne, ne_empty_of_not_blank hremote.address⟩,
      ?_, ?_⟩
    · intro key hmem
      cases hpublic : truthy remote.publicKey with
      | none => exact hkey key (by simpa [hpublic] using hmem)
      | some sent =>
        obtain rfl : sent = key := by simpa [hpublic] using hmem
        exact hremote.publicKey sent hpublic
    · rintro relationship hmem
      obtain rfl := Option.some.inj hmem
      exact validNetworkRelationship_of sha256 document
  · next state hstate =>
    obtain rfl := Option.some.inj h
    have hnonce : isBlankText ("network:" ++ document.id) = false :=
      isBlankText_of_head (c := 'n') (by rw [String.toList_append]; rfl) (by decide) (by decide)
    refine ⟨?_, ⟨ne_empty_of_not_blank hid, hne, ne_empty_of_not_blank hremote.address⟩,
      hremote.publicKey, ?_⟩
    · obtain ⟨hsender, haddress⟩ := requestSender_valid document account hremote
      exact validateConnectionRequest_eq_ok.mpr ⟨hid, hsender, haddress, hnonce⟩
    · rintro relationship hmem
      obtain rfl := Option.some.inj hmem
      exact validNetworkRelationship_of sha256 document

/-- Only a revoked document without a record leads to none. -/
lemma projected_eq_none {sha256 : JsString → DocumentDigest} {document : RelationshipDocument}
    {account : TetiAccount} {remote : TetiIdentity} {existing : Option TetiConnectionRecord} :
    projectNetworkRelationshipRecovery sha256 document account remote existing = none
      ↔ document.state = .revoked ∧ existing = none := by
  unfold projectNetworkRelationshipRecovery projectNetworkRelationship
  cases document.state <;> simp

/-! ### Running -/

section

variable (env : ConnectionEnvironment) (document : RelationshipDocument)
  (knownRemote : Option TetiIdentity)

/-- The delivery identity that is found for a document. -/
def resolvedIdentity (peerRecovery : Option TetiConnectionRecord) (w : ConnectionWorld) :
    Except RelationshipError TetiIdentity :=
  match knownRemote <|> w.identityCache.lookup document.peerTetiId with
  | some remote => .ok remote
  | none =>
    discoveredIdentity document peerRecovery (env.getIdentity w.calls document.peerTetiId)

/-- The records after those of the peer without a relationship were ended. -/
def endedConnections (connections : List TetiConnectionRecord) : List TetiConnectionRecord :=
  match inactiveState document.state with
  | none => connections
  | some state => connections.map (inactivate document state)

/-- What the projection of a document returns or throws. -/
def advanceResult (account : TetiAccount) (peerRecovery : Option TetiConnectionRecord)
    (w : ConnectionWorld) : Except RelationshipError TetiConnectionRecord := do
  let remote ← resolvedIdentity env document knownRemote peerRecovery w
  match projectNetworkRelationshipRecovery env.sha256 document account remote peerRecovery with
  | none =>
    .error (.other ("Network Relationship " ++ document.id ++ " could not be archived locally."))
  | some projected => do
    validateConnectionRecord projected
    return projected

lemma consult_outcome {α : Type} (f : Nat → α) (w : ConnectionWorld) :
    (consult f).outcome w = (.ok (f w.calls), w.tick) := rfl

lemma resolve_outcome (peerRecovery : Option TetiConnectionRecord) (w : ConnectionWorld) :
    ∃ calls, (resolveDeliveryIdentity env document knownRemote peerRecovery).outcome w
      = (resolvedIdentity env document knownRemote peerRecovery w, { w with calls }) := by
  have hcached : (lift (Program.reads fun w : ConnectionWorld =>
      w.identityCache.lookup document.peerTetiId) : ConnectionOperation _).outcome w
      = (.ok (w.identityCache.lookup document.peerTetiId), w) := rfl
  rw [resolveDeliveryIdentity, outcome_bind_ok hcached, resolvedIdentity]
  cases knownRemote <|> w.identityCache.lookup document.peerTetiId with
  | some remote => exact ⟨w.calls, rfl⟩
  | none =>
    refine ⟨w.calls + 1, ?_⟩
    dsimp only
    rw [outcome_bind_ok (consult_outcome _ w), outcome_fromExcept]
    rfl

variable {document}

lemma saveAll_outcome {edit : StorageEdit} {loaded : TetiConnectionStore}
    (h : ∀ connection ∈ edit.apply loaded.connections,
      validateConnectionRecord connection = .ok ()) (w : ConnectionWorld) :
    (saveAll edit loaded).outcome w = (.ok (), w.save edit loaded ⟨_, h⟩) := by
  rw [saveAll, validateConnectionStore_of_valid h]
  rfl

lemma upsert_outcome {connection : TetiConnectionRecord}
    (h : validateConnectionRecord connection = .ok ()) (w : ConnectionWorld) :
    ∃ store, store.connections = upsertConnection connection w.store.connections
      ∧ (upsert connection).outcome w = (.ok (), w.save (.upsert connection) w.store store) := by
  have hvalid : ∀ item ∈ StorageEdit.apply (.upsert connection) w.store.connections,
      validateConnectionRecord item = .ok () := by
    intro item hmem
    rcases mem_upsertConnection hmem with rfl | hmem
    · exact h
    · exact w.store.valid item hmem
  refine ⟨⟨_, hvalid⟩, rfl, ?_⟩
  have hload : loadAll.outcome w = (.ok w.store, w) := rfl
  rw [upsert, outcome_bind_ok (by rw [h]; rfl), outcome_bind_ok hload, saveAll_outcome hvalid]

lemma upsert_outcome_invalid {connection : TetiConnectionRecord} {e : RelationshipError}
    (h : validateConnectionRecord connection = .error e) (w : ConnectionWorld) :
    (upsert connection).outcome w = (.error e, w) := by
  rw [upsert, outcome_bind_error (by rw [h]; rfl)]

lemma endLegacyConnections_outcome (w : ConnectionWorld) :
    ∃ w', (endLegacyConnections document w.store).outcome w = (.ok (), w')
      ∧ w'.store.connections = endedConnections document w.store.connections
      ∧ w'.identityCache = w.identityCache ∧ w'.calls = w.calls := by
  unfold endLegacyConnections endedConnections
  cases inactiveState document.state with
  | none => exact ⟨w, rfl, rfl, rfl, rfl⟩
  | some state =>
    dsimp only
    split_ifs with hsame
    · have hvalid : ∀ item ∈ StorageEdit.apply (.inactivate document state) w.store.connections,
          validateConnectionRecord item = .ok () := by
        intro item hmem
        obtain ⟨connection, hconnection, rfl⟩ := List.mem_map.mp hmem
        exact validate_inactivate (w.store.valid connection hconnection)
      exact ⟨_, saveAll_outcome hvalid w, rfl, rfl, rfl⟩
    · exact ⟨w, rfl, (not_not.mp hsame).symm, rfl, rfl⟩

/-- How a document that advances is applied, and what it leaves in the store. -/
lemma advance_outcome (account : TetiAccount) (exact peerRecovery : Option TetiConnectionRecord)
    (w : ConnectionWorld) :
    ∃ w', (advance env document knownRemote account w.store exact peerRecovery).outcome w
        = (advanceResult env document knownRemote account peerRecovery w, w')
      ∧ match advanceResult env document knownRemote account peerRecovery w with
        | .ok projected => w'.store.connections
            = upsertConnection projected (endedConnections document w.store.connections)
        | .error _ => w'.store.connections = w.store.connections
            ∨ w'.store.connections = endedConnections document w.store.connections := by
  obtain ⟨calls, hresolve⟩ := resolve_outcome env document knownRemote peerRecovery w
  rw [advance]
  cases hremote : resolvedIdentity env document knownRemote peerRecovery w with
  | error e =>
    have hresult : advanceResult env document knownRemote account peerRecovery w = .error e := by
      rw [advanceResult, hremote]
      rfl
    rw [hremote] at hresolve
    rw [hresult]
    exact ⟨_, outcome_bind_error hresolve, Or.inl rfl⟩
  | ok remote =>
    rw [hremote] at hresolve
    obtain ⟨w₁, hended, hstore, -, -⟩ := @endLegacyConnections_outcome document
      (ConnectionWorld.cache remote (env.now calls) { w with calls := calls + 1 })
    have hnow : (consult env.now).outcome { w with calls }
        = (.ok (env.now calls), { w with calls := calls + 1 }) := rfl
    have hcache : (lift (Program.writes (ConnectionWorld.cache remote (env.now calls))) :
        ConnectionOperation Unit).outcome { w with calls := calls + 1 }
        = (.ok (), ConnectionWorld.cache remote (env.now calls) { w with calls := calls + 1 }) :=
      rfl
    rw [outcome_bind_ok hresolve, outcome_bind_ok hnow, outcome_bind_ok hcache,
      outcome_bind_ok (show (endLegacyConnections document w.store).outcome _ = _ from hended)]
    cases hprojected : projectNetworkRelationshipRecovery env.sha256 document account remote
        peerRecovery with
    | none =>
      have hresult : advanceResult env document knownRemote account peerRecovery w
          = .error (.other ("Network Relationship " ++ document.id
            ++ " could not be archived locally.")) := by
        rw [advanceResult, hremote, except_ok_bind, hprojected]
      rw [hresult]
      exact ⟨w₁, rfl, Or.inr hstore⟩
    | some projected =>
      have hresult : advanceResult env document knownRemote account peerRecovery w
          = (validateConnectionRecord projected >>= fun _ => .ok projected) := by
        rw [advanceResult, hremote, except_ok_bind, hprojected]
        rfl
      rw [orThrow, outcome_bind_ok (show (pure projected : ConnectionOperation _).outcome w₁
        = (.ok projected, w₁) from rfl)]
      cases hvalid : validateConnectionRecord projected with
      | error e =>
        rw [hresult, hvalid, outcome_bind_error (upsert_outcome_invalid hvalid w₁)]
        exact ⟨w₁, rfl, Or.inr hstore⟩
      | ok _ =>
        obtain ⟨store, hconnections, hupsert⟩ := upsert_outcome hvalid w₁
        rw [hresult, hvalid, outcome_bind_ok hupsert]
        refine ⟨_, rfl, ?_⟩
        exact hconnections.trans (by rw [hstore]; rfl)

/-- The three ways in which a document is applied. -/
lemma applyNetworkRelationship_outcome {w : ConnectionWorld} {account : TetiAccount}
    (haccount : env.account w.calls = some account) :
    (applyNetworkRelationship env document knownRemote).outcome w =
      match standing document (networkRelationshipDocumentFingerprint env.sha256 document)
          (findConnection document.id w.store.connections)
          (findRecovery document w.store.connections) with
      | .current connection => (.ok connection, w.tick)
      | .divergent => (.error (relationshipConflict .relationshipReconciliationChanges
          "Teti Network returned divergent Relationship content at the same revision."), w.tick)
      | .advances => (advance env document knownRemote account w.store
          (findConnection document.id w.store.connections)
          (findRecovery document w.store.connections)).outcome w.tick := by
  have hrequire : (requireAccount env).outcome w = (.ok account, w.tick) := by
    rw [requireAccount, outcome_bind_ok (consult_outcome env.account w), haccount]
    rfl
  have hload : loadAll.outcome w.tick = (.ok w.store, w.tick) := rfl
  rw [applyNetworkRelationship, outcome_bind_ok hrequire, outcome_bind_ok hload]
  dsimp only
  cases standing document (networkRelationshipDocumentFingerprint env.sha256 document)
    (findConnection document.id w.store.connections)
    (findRecovery document w.store.connections) <;> rfl

end

/-! ### Which documents are taken -/

section

variable {document : RelationshipDocument}

lemma findRecovery_mem {connections : List TetiConnectionRecord}
    {connection : TetiConnectionRecord}
    (h : findRecovery document connections = some connection) : connection ∈ connections := by
  unfold findRecovery at h
  cases hexact : findConnection document.id connections with
  | none => exact List.mem_of_find?_eq_some (by simpa [hexact] using h)
  | some found =>
    obtain rfl : found = connection := by simpa [hexact] using h
    exact List.mem_of_find?_eq_some hexact

/-- A revoked relationship of which there is no local record. -/
def Unarchivable (document : RelationshipDocument) (connections : List TetiConnectionRecord) :
    Prop :=
  document.state = .revoked ∧ findRecovery document connections = none

/-- The local record has the document's revision, with another content. -/
def Divergent (sha256 : JsString → DocumentDigest) (document : RelationshipDocument)
    (connections : List TetiConnectionRecord) : Prop :=
  ∃ connection ∈ findRecovery document connections,
    ∃ relationship ∈ connection.networkRelationship, relationship.revision = document.revision
      ∧ ∃ fingerprint ∈ relationship.documentFingerprint,
        fingerprint ≠ networkRelationshipDocumentFingerprint sha256 document

lemma fingerprint_ne_empty {connection : TetiConnectionRecord} {relationship : NetworkRelationship}
    {fingerprint : String} (hvalid : validateConnectionRecord connection = .ok ())
    (hrelationship : connection.networkRelationship = some relationship)
    (hfingerprint : relationship.documentFingerprint = some fingerprint) : fingerprint ≠ "" := by
  have hmeta := (validateConnectionRecord_eq_ok.mp hvalid).2.2.2 relationship hrelationship
  simp only [validNetworkRelationship, Bool.and_eq_true] at hmeta
  have hform := hmeta.2
  rw [hfingerprint] at hform
  rintro rfl
  exact absurd hform (by decide)

/-- The comparison finds a divergence exactly where there is one. -/
lemma standing_eq_divergent (sha256 : JsString → DocumentDigest) (store : TetiConnectionStore)
    (exact : Option TetiConnectionRecord) :
    standing document (networkRelationshipDocumentFingerprint sha256 document) exact
        (findRecovery document store.connections) = .divergent
      ↔ Divergent sha256 document store.connections := by
  unfold standing Divergent
  cases hrecovery : findRecovery document store.connections with
  | none => simp
  | some connection =>
    have hvalid := store.valid connection (findRecovery_mem hrecovery)
    cases hrelationship : connection.networkRelationship with
    | none => simp [hrelationship]
    | some relationship =>
      have hkey : (truthy relationship.documentFingerprint).any
          (· != networkRelationshipDocumentFingerprint sha256 document) = true
          ↔ ∃ fingerprint ∈ relationship.documentFingerprint,
            fingerprint ≠ networkRelationshipDocumentFingerprint sha256 document := by
        cases hfingerprint : relationship.documentFingerprint with
        | none => simp [truthy]
        | some fingerprint =>
          have hne := fingerprint_ne_empty hvalid hrelationship hfingerprint
          simp [truthy, Option.filter, hne]
      simp only [Option.bind_some, hrelationship, Option.map_some, Option.mem_def,
        Option.some.injEq, exists_eq_left']
      rcases lt_trichotomy relationship.revision document.revision with hlt | heq | hgt
      · rw [if_neg (by omega), if_neg (by omega)]
        simp [show relationship.revision ≠ document.revision by omega]
      · rw [if_neg (by omega), if_pos heq]
        by_cases hany : (truthy relationship.documentFingerprint).any
            (· != networkRelationshipDocumentFingerprint sha256 document) = true
        · rw [if_pos hany]
          simpa [heq] using hkey.mp hany
        · rw [if_neg hany]
          have hnot := mt hkey.mpr hany
          cases exact with
          | none => simpa [heq] using hnot
          | some connection' =>
            dsimp only
            split_ifs <;> simpa [heq] using hnot
      · rw [if_pos (by omega)]
        simp [show relationship.revision ≠ document.revision by omega]

end

/-- The delivery identity of the peer is found, and usable. -/
def Resolvable (env : ConnectionEnvironment) (document : RelationshipDocument)
    (knownRemote : Option TetiIdentity) (w : ConnectionWorld) : Prop :=
  ∃ remote, resolvedIdentity env document knownRemote
      (findRecovery document w.store.connections) w.tick = .ok remote
    ∧ Deliverable remote

/-- What the callback of a scan answers. -/
def refusal {α : Type} : Except RelationshipError α → Option RelationshipError
  | .ok _ => none
  | .error e => some e

/-- A document that advances is projected, unless it cannot be archived. -/
lemma advanceResult_eq_ok_iff {env : ConnectionEnvironment} {document : RelationshipDocument}
    {knownRemote : Option TetiIdentity} {w : ConnectionWorld} (account : TetiAccount)
    (hremote : Resolvable env document knownRemote w) :
    (∃ connection, advanceResult env document knownRemote account
        (findRecovery document w.store.connections) w.tick = .ok connection)
      ↔ ¬Unarchivable document w.store.connections := by
  obtain ⟨remote, hresolved, hdeliverable⟩ := hremote
  rw [advanceResult, hresolved, except_ok_bind, Unarchivable]
  cases hprojected : projectNetworkRelationshipRecovery env.sha256 document account remote
      (findRecovery document w.store.connections) with
  | none => simpa using projected_eq_none.mp hprojected
  | some projected =>
    have hvalid := validate_projected hdeliverable
      (fun connection h => w.store.valid connection (findRecovery_mem h)) hprojected
    have hnot : ¬(document.state = .revoked ∧ findRecovery document w.store.connections = none) := by
      rw [← @projected_eq_none env.sha256 document account remote, hprojected]
      simp
    simp only [hvalid, hnot, not_false_eq_true, iff_true]
    exact ⟨projected, rfl⟩

/-- **Which documents are taken**: a document of a peer whose identity is found is
applied unless it is revoked and there is no local record, or the record has the same
revision with another content; and a scan that delivers it gets past it exactly then. -/
theorem document_taken_iff (env : ConnectionEnvironment) (document : RelationshipDocument)
    (knownRemote : Option TetiIdentity) (w : ConnectionWorld)
    (haccount : (env.account w.calls).isSome = true)
    (hremote : Resolvable env document knownRemote w) :
    ((∃ connection, ((applyNetworkRelationship env document knownRemote).outcome w).1
        = .ok connection)
      ↔ ¬Unarchivable document w.store.connections
        ∧ ¬Divergent env.sha256 document w.store.connections)
    ∧ ∀ (network : RelationshipEnvironment) (identity : AuthenticatedIdentity)
        (scan : RelationshipWorld),
        network.apply scan.calls document
            = refusal ((applyNetworkRelationship env document knownRemote).outcome w).1 →
        (((applyDocument network identity document).exec scan).1 = .ok ()
          ↔ ¬Unarchivable document w.store.connections
            ∧ ¬Divergent env.sha256 document w.store.connections) := by
  obtain ⟨account, haccount⟩ := Option.isSome_iff_exists.mp haccount
  have hreturns : (∃ connection, ((applyNetworkRelationship env document knownRemote).outcome w).1
      = .ok connection) ↔ ¬Unarchivable document w.store.connections
        ∧ ¬Divergent env.sha256 document w.store.connections := by
    rw [applyNetworkRelationship_outcome env knownRemote haccount,
      ← standing_eq_divergent env.sha256 w.store (findConnection document.id w.store.connections)]
    cases hstanding : standing document
        (networkRelationshipDocumentFingerprint env.sha256 document)
        (findConnection document.id w.store.connections)
        (findRecovery document w.store.connections) with
    | current connection =>
      -- something was compared with, so there is a record to archive
      have hrecord : findRecovery document w.store.connections ≠ none := by
        intro hnone
        rw [hnone] at hstanding
        simp [standing] at hstanding
      simp [Unarchivable, hrecord]
    | divergent => simp
    | advances =>
      obtain ⟨w', houtcome, -⟩ := @advance_outcome env document knownRemote account
        (findConnection document.id w.store.connections)
        (findRecovery document w.store.connections) w.tick
      have hresult : (outcome (advance env document knownRemote account w.store
          (findConnection document.id w.store.connections)
          (findRecovery document w.store.connections)) w.tick).1
          = advanceResult env document knownRemote account
            (findRecovery document w.store.connections) w.tick := congrArg Prod.fst houtcome
      simp only [hresult, advanceResult_eq_ok_iff account hremote, reduceCtorEq,
        not_false_eq_true, and_true]
  refine ⟨hreturns, fun network identity scan hanswer => ?_⟩
  have hconsult : (TetiBot.consult fun n => network.apply n document).exec scan
      = (.ok (network.apply scan.calls document), TetiBot.RelationshipWorld.tick scan) := rfl
  rw [← hreturns, applyDocument, Program.exec_bind, hconsult, hanswer]
  cases ((applyNetworkRelationship env document knownRemote).outcome w).1 with
  | ok connection => simp [refusal]
  | error e => simp [refusal]

/-! ### A revoked relationship without a record -/

def aliceAccount : TetiAccount where
  id := "teti_aaaaaaaaa"
  address := "alice@mail.seep.im"
  publicKey := none
  publicProfile := ⟨"macOS", ["developer"], []⟩
  canonical := by decide +kernel
  deliverable := by decide +kernel

def bobIdentity : TetiIdentity :=
  ⟨"teti_bbbbbbbbb", "bob@mail.seep.im", some "bob-key", ⟨some "Linux", none, none⟩⟩

/-- The directory knows Bob; the digest is a fixed one. -/
def bobEnvironment : ConnectionEnvironment where
  now n := n
  account _ := some aliceAccount
  getIdentity _ _ := some bobIdentity
  sha256 _ := ⟨"0123456789012345678901234567890123456789012", by decide +kernel⟩
  localeBefore left right := left < right
  toLowerCase address := address.map Char.toLower

/-- Bob's request, at the first revision. -/
def requestedDocument : RelationshipDocument where
  id := "rel_AAAAAAAAAAAAAAAAAAAAAA"
  revision := 1
  state := .requested
  peerTetiId := "teti_bbbbbbbbb"
  requesterTetiId := "teti_bbbbbbbbb"
  addresseeTetiId := "teti_aaaaaaaaa"
  direction := .incoming
  blockedBy := none
  createdAt := 1000
  updatedAt := 1000
  stateChangedAt := 1000
  wellFormed := by decide +kernel
  membersDiffer := by decide

/-- The relationship was revoked, at the third revision. -/
def revokedDocument : RelationshipDocument :=
  { requestedDocument with
    revision := 3
    state := .revoked
    updatedAt := 3000
    stateChangedAt := 3000
    wellFormed := by decide +kernel }

def emptyStore : TetiConnectionStore := ⟨[], by simp⟩

lemma bobIdentity_deliverable : Deliverable bobIdentity where
  canonical := by decide +kernel
  address := by decide +kernel
  publicKey := by decide +kernel

/-- Bob's request is taken by a runtime that does not know him. -/
theorem document_taken_requested :
    ∃ connection, ((applyNetworkRelationship bobEnvironment requestedDocument none).outcome
      (.atRest emptyStore)).1 = .ok connection := by
  refine (document_taken_iff bobEnvironment requestedDocument none (.atRest emptyStore) rfl
    ⟨bobIdentity, by decide +kernel, bobIdentity_deliverable⟩).1.mpr ⟨?_, ?_⟩
  · exact fun h => absurd h.1 (by decide)
  · rintro ⟨connection, hconnection, -⟩
    have hnone : findRecovery requestedDocument [] = none := by decide
    exact absurd hconnection (by simp [ConnectionWorld.atRest, emptyStore, hnone])

/-- A document whose peer is in the directory may throw: it is revoked, and there is no
record that could be archived. -/
theorem revoked_without_record :
    ¬∀ (env : ConnectionEnvironment) (document : RelationshipDocument)
      (knownRemote : Option TetiIdentity) (w : ConnectionWorld),
      (env.account w.calls).isSome = true → Resolvable env document knownRemote w →
      ∃ connection, ((applyNetworkRelationship env document knownRemote).outcome w).1
        = .ok connection := by
  intro h
  obtain ⟨connection, hconnection⟩ := h bobEnvironment revokedDocument none (.atRest emptyStore) rfl
    ⟨bobIdentity, by decide +kernel, bobIdentity_deliverable⟩
  have hthrown : ((applyNetworkRelationship bobEnvironment revokedDocument none).outcome
      (.atRest emptyStore)).1 = .error (.other
        "Network Relationship rel_AAAAAAAAAAAAAAAAAAAAAA could not be archived locally.") := by
    decide +kernel
  rw [hthrown] at hconnection
  cases hconnection

end TetiBot.Connections

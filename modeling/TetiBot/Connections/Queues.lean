import TetiBot.Connections.Convergence
import TetiBot.Library.Lanes
import TetiBot.Library.OrderedMap

/-
The two queues that write the connection store (`lifecycle-sidecar/connections.ts`).

* `perform`: the calls of the serial queue, and `refreshPeerProfiles`, which runs on
  a queue of its own.  Heartbeats, passports and tasks, which a call also sends, leave
  the store alone.
* `Supersedes`: a relationship takes the place of another.
* `queues_agree`: what each queue guarantees of its saves is what the other relies on.
* `no_update_lost`: as long as every save finds the file as its operation has loaded
  it, the file holds what all saves made of it, and no relationship reverts.
* `stale_profile_reverts_block`: a save of the other queue on an older list takes a
  block back.
-/

namespace TetiBot.Connections

open Library Library.Async

/-! ### The calls -/

def PEER_PROFILE_CACHE_TTL_MS : Int := 15 * 60 * 1000

section

variable (env : ConnectionEnvironment)

/-- `isSameIdentity` with the local account. -/
def isLocalIdentity (account : TetiAccount) (connection : TetiConnectionRecord) : Bool :=
  connection.remoteTetiId == account.id
    || env.toLowerCase connection.remoteAddress == env.toLowerCase account.address

def removeLocalIdentityConnections : ConnectionOperation Unit := do
  let account ← requireAccount env
  let loaded ← loadAll
  let retained := loaded.connections.filter fun connection => !isLocalIdentity env account connection
  if retained.length ≠ loaded.connections.length then
    saveAll (.removeLocal (isLocalIdentity env account)) loaded

/-- `forceHeartbeatAfterTransportBootstrap`. -/
def forceHeartbeatAfterTransportBootstrap (requestId : String) (previous : Option String)
    (current : String) : ConnectionOperation Unit :=
  if previous ≠ some current then
    lift (Program.writes (ConnectionWorld.note [.heartbeatForced requestId]))
  else return ()

variable (connection : TetiConnectionRecord)

/-- The identity of a peer as the directory has it now. -/
def discoverIdentity (unavailable mismatch : String) : ConnectionOperation TetiIdentity := do
  let discovered ← orThrow (← consult fun n => env.getIdentity n connection.remoteTetiId)
    (.other unavailable)
  let identity ← fromExcept (toTetiIdentity discovered)
  throwIf (env.toLowerCase identity.address ≠ env.toLowerCase connection.remoteAddress)
    (.other mismatch)
  return identity

/-- The loops over connections: a throw is collected, and the others go on. -/
def collectFailures (body : TetiConnectionRecord → ConnectionOperation Unit) :
    List TetiConnectionRecord → ConnectionOperation (List RelationshipError)
  | [] => return []
  | connection :: connections => do
    let outcome ← attempt (body connection)
    let failures ← collectFailures body connections
    match outcome with
    | .ok () => return failures
    | .error e => return e :: failures

def backfillTransportBootstrap : ConnectionOperation Unit := do
  let identity ← discoverIdentity env connection
    "The peer Network delivery identity is unavailable."
    "The peer Network delivery address does not match Relationship recovery state."
  let publicKey ← orThrow (truthy identity.publicKey)
    (.other "The peer Network delivery public key is unavailable.")
  update connection.requestId publicKey
  let now ← consult env.now
  lift (Program.writes (ConnectionWorld.cache identity now))
  forceHeartbeatAfterTransportBootstrap connection.requestId connection.remotePublicKey publicKey

def backfillConfirmedTransportBootstrap : ConnectionOperation Unit := do
  let loaded ← loadAll
  let failures ← collectFailures (backfillTransportBootstrap env)
    (loaded.connections.filter fun connection => isNetworkRelationshipConfirmed connection
      && (truthy connection.remotePublicKey).isNone)
  match failures with
  | [] => return ()
  | e :: _ => raise e

/-- The documents that a scan hands over, in their order; a failure ends it. -/
def applyDocuments : List (Except RelationshipError RelationshipDocument) → ConnectionOperation Unit
  | [] => return ()
  | result :: results => do
    let document ← fromExcept result
    let _ ← applyNetworkRelationship env document none
    applyDocuments results

variable (scan : List (Except RelationshipError RelationshipDocument))

def synchronizeNetworkRelationships
    : ConnectionOperation Unit := do
  applyDocuments env scan
  backfillConfirmedTransportBootstrap env

/-- What a command does with the authority's answer. -/
def applyCommand (result : Except RelationshipError RelationshipDocument)
    (knownRemote : Option TetiIdentity) : ConnectionOperation Unit := do
  let document ← fromExcept result
  let _ ← applyNetworkRelationship env document knownRemote
  let _ ← reconcileConfirmedPeerConnections env.localeBefore
  return ()

/-- The identity that a query led to is cached. -/
def resolveRemote (remote : TetiIdentity) : ConnectionOperation Unit := do
  let now ← consult env.now
  lift (Program.writes (ConnectionWorld.cache remote now))

def requestConnection (remote : TetiIdentity)
    (result : Except RelationshipError RelationshipDocument) : ConnectionOperation Unit := do
  let account ← requireAccount env
  resolveRemote env remote
  throwIf (remote.id = account.id ∨ env.toLowerCase remote.address = env.toLowerCase account.address)
    (.other "Teti cannot connect to its own identity.")
  applyCommand env result (some remote)

/-- `list`. -/
def listConnections : ConnectionOperation Unit := do
  removeLocalIdentityConnections env
  let _ ← attempt (synchronizeNetworkRelationships env scan)
  let _ ← reconcileConfirmedPeerConnections env.localeBefore
  return ()

/-- `poll`, which synchronizes before and after the messages. -/
def pollConnections (before after : List (Except RelationshipError RelationshipDocument)) :
    ConnectionOperation Unit := do
  let _ ← attempt (synchronizeNetworkRelationships env before)
  let _ ← attempt (synchronizeNetworkRelationships env after)
  let _ ← reconcileConfirmedPeerConnections env.localeBefore
  return ()

/-- `peers`: the last connection of each peer. -/
def peersOf (connections : List TetiConnectionRecord) : OrderedMap TetiId TetiConnectionRecord :=
  connections.foldl (fun peers connection => peers.set connection.remoteTetiId connection) .empty

/-- The cached identity of a peer is younger than the time to live. -/
def isProfileFresh (now : Timestamp) (peer : TetiId) (w : ConnectionWorld) : Bool :=
  (w.identityCache.lookup peer).isSome
    && decide (now - (w.identityRefreshedAt.lookup peer).getD 0 < PEER_PROFILE_CACHE_TTL_MS)

/-- A key that the directory has and the record has not is stored. -/
def adoptPublicKey (identity : TetiIdentity) : ConnectionOperation Unit :=
  match truthy identity.publicKey with
  | none => return ()
  | some publicKey =>
    if connection.remotePublicKey = some publicKey then return () else do
      update connection.requestId publicKey
      forceHeartbeatAfterTransportBootstrap connection.requestId connection.remotePublicKey publicKey

def refreshPeerProfile (now : Timestamp) (connection : TetiConnectionRecord) :
    ConnectionOperation Unit := do
  if ← lift (Program.reads (isProfileFresh now connection.remoteTetiId)) then return () else do
    let identity ← discoverIdentity env connection "The peer Network profile is not available yet."
      "The peer Network profile does not match the confirmed address."
    lift (Program.writes (ConnectionWorld.cache identity now))
    adoptPublicKey connection identity

def refreshPeerProfiles : ConnectionOperation Unit := do
  let now ← consult env.now
  let loaded ← loadAll
  let _ ← collectFailures (refreshPeerProfile env now)
    (peersOf (reconciledConnections env.localeBefore loaded.connections)).values
  return ()

end

/-- A call of one of the queues, with what the authority and the directory answer to it.
`ensureReady` is what the first operation does before anything else; accept, reject, block
and revoke are commands. -/
inductive ConnectionCall
  | ensureReady
  | resolve (remote : TetiIdentity)
  | request (remote : TetiIdentity) (result : Except RelationshipError RelationshipDocument)
  | command (result : Except RelationshipError RelationshipDocument)
  | list (scan : List (Except RelationshipError RelationshipDocument))
  | poll (before after : List (Except RelationshipError RelationshipDocument))
  | refreshPeerProfiles

inductive ConnectionQueue
  | serial | serialProfiles
  deriving DecidableEq

/-- The queue of a call. -/
def queueOf : ConnectionCall → ConnectionQueue
  | .refreshPeerProfiles => .serialProfiles
  | _ => .serial

def perform (env : ConnectionEnvironment) : ConnectionCall → ConnectionOperation Unit
  | .ensureReady => removeLocalIdentityConnections env
  | .resolve remote => resolveRemote env remote
  | .request remote result => requestConnection env remote result
  | .command result => applyCommand env result none
  | .list scan => listConnections env scan
  | .poll before after => pollConnections env before after
  | .refreshPeerProfiles => refreshPeerProfiles env

/-- The queues over the file and the caches. -/
abbrev ConnectionQueues : Type :=
  Lanes ConnectionQueue ConnectionCall RelationshipError ConnectionWorld Unit

/-- One step: a call is made, or one of the queues goes on to its next load or save. -/
abbrev QueueStep (env : ConnectionEnvironment) : ConnectionQueues → ConnectionQueues → Prop :=
  Lanes.Step queueOf (perform env)

/-! ### What may take the place of what -/

/-- The relationship that is stored under an id. -/
def relationshipOf (requestId : String) (connections : List TetiConnectionRecord) :
    Option NetworkRelationship :=
  (findConnection requestId connections).bind TetiConnectionRecord.networkRelationship

/-- A relationship takes the place of another: it has a later revision, or it is the
same one, or that of a document with the fingerprint of the other. -/
structure Supersedes (sha256 : JsString → DocumentDigest) (later earlier : NetworkRelationship) :
    Prop where
  revision : earlier.revision ≤ later.revision
  content : later.revision = earlier.revision → later = earlier
    ∨ ∃ document, later = networkRelationshipOf sha256 document
      ∧ ∀ fingerprint ∈ earlier.documentFingerprint,
        fingerprint = networkRelationshipDocumentFingerprint sha256 document

/-- A save that removes the record with an id, as one of the local identity. -/
def StorageWrite.removes (requestId : String) (write : StorageWrite) : Bool :=
  match write.edit with
  | .removeLocal isLocal => (findConnection requestId write.loaded.connections).any isLocal
  | _ => false

/-- A save was made on a list that the file no longer was. -/
def Stale (w : ConnectionWorld) : Prop := ∃ write ∈ w.writes, write.fresh = false

section

variable {sha256 : JsString → DocumentDigest}

lemma Supersedes.refl (relationship : NetworkRelationship) :
    Supersedes sha256 relationship relationship :=
  ⟨le_refl _, fun _ => Or.inl rfl⟩

lemma Supersedes.trans {first second third : NetworkRelationship}
    (h : Supersedes sha256 third second) (h' : Supersedes sha256 second first) :
    Supersedes sha256 third first := by
  refine ⟨h'.revision.trans h.revision, fun hsame => ?_⟩
  have hfirst := h'.revision
  have hsecond := h.revision
  rcases h.content (by omega) with rfl | ⟨document, rfl, hdocument⟩
  · exact h'.content (by omega)
  · refine Or.inr ⟨document, rfl, ?_⟩
    rcases h'.content (by omega) with rfl | ⟨between, rfl, hbetween⟩
    · exact hdocument
    · intro fingerprint hmem
      rw [hbetween fingerprint hmem]
      exact hdocument _ rfl

end

/-- What holds of the relationship with an id between two points of a run: it is
superseded only, or a save removed it. -/
def Kept (sha256 : JsString → DocumentDigest) (requestId : String) (w w' : ConnectionWorld) : Prop :=
  ∀ earlier ∈ relationshipOf requestId w.store.connections,
    (∃ later ∈ relationshipOf requestId w'.store.connections, Supersedes sha256 later earlier)
      ∨ ∃ write ∈ w'.writes.drop w.writes.length, write.removes requestId = true

/-- Between two points of a run saves are added to the journal, and unless one of them
was stale, every relationship is kept. -/
structure Onward (sha256 : JsString → DocumentDigest) (w w' : ConnectionWorld) : Prop where
  writes : w.writes <+: w'.writes
  kept : ¬Stale w' → ∀ requestId, Kept sha256 requestId w w'

/-- The store and the journal are left alone. -/
def Undisturbed (w w' : ConnectionWorld) : Prop := w'.store = w.store ∧ w'.writes = w.writes

/-- A step leaves the store alone, or it is one save; a fresh one is an edit of the
file. -/
def Journalled (w w' : ConnectionWorld) : Prop :=
  Undisturbed w w' ∨ ∃ write, w'.writes = w.writes ++ [write]
    ∧ (write.fresh = true → w'.store.connections = write.edit.apply w.store.connections)

/-- The relationships are those of another list of records. -/
def SameRelationships (connections connections' : List TetiConnectionRecord) : Prop :=
  ∀ requestId, relationshipOf requestId connections' = relationshipOf requestId connections

lemma Stale.mono {w w' : ConnectionWorld} (h : Stale w) (hwrites : w.writes <+: w'.writes) :
    Stale w' :=
  let ⟨write, hmem, hfresh⟩ := h
  ⟨write, hwrites.subset hmem, hfresh⟩

lemma SameRelationships.refl (connections : List TetiConnectionRecord) :
    SameRelationships connections connections := fun _ => rfl

lemma SameRelationships.trans {first second third : List TetiConnectionRecord}
    (h : SameRelationships first second) (h' : SameRelationships second third) :
    SameRelationships first third := fun requestId => (h' requestId).trans (h requestId)

section

variable {sha256 : JsString → DocumentDigest} {w w' w'' : ConnectionWorld}

lemma Onward.refl (w : ConnectionWorld) : Onward sha256 w w :=
  ⟨List.prefix_rfl, fun _ _ earlier hmem => Or.inl ⟨earlier, hmem, Supersedes.refl earlier⟩⟩

lemma Onward.trans (h : Onward sha256 w w') (h' : Onward sha256 w' w'') : Onward sha256 w w'' := by
  refine ⟨h.writes.trans h'.writes, fun hfresh requestId earlier hmem => ?_⟩
  have hlength := h.writes.length_le
  obtain ⟨between, hwrites⟩ := h.writes
  obtain ⟨last, hwrites'⟩ := h'.writes
  rcases h.kept (fun hstale => hfresh (hstale.mono h'.writes)) requestId earlier hmem with
    ⟨middle, hmiddle, hsupersedes⟩ | ⟨write, hwrite, hremoves⟩
  · rcases h'.kept hfresh requestId middle hmiddle with
      ⟨later, hlater, hsupersedes'⟩ | ⟨write, hwrite, hremoves⟩
    · exact Or.inl ⟨later, hlater, hsupersedes'.trans hsupersedes⟩
    · refine Or.inr ⟨write, ?_, hremoves⟩
      rw [← hwrites', List.drop_left] at hwrite
      rw [← hwrites', ← hwrites, List.append_assoc, List.drop_left]
      exact List.mem_append_right _ hwrite
  · refine Or.inr ⟨write, ?_, hremoves⟩
    rw [← hwrites, List.drop_left] at hwrite
    rw [← hwrites', ← hwrites, List.append_assoc, List.drop_left]
    exact List.mem_append_left _ hwrite

lemma Undisturbed.onward (h : Undisturbed w w') : Onward sha256 w w' := by
  obtain ⟨hstore, hwrites⟩ := h
  refine ⟨by rw [hwrites], fun _ _ earlier hmem => Or.inl ⟨earlier, ?_, Supersedes.refl earlier⟩⟩
  rwa [hstore]

end

/-! ### What an edit does to the relationships -/

section

variable {connections : List TetiConnectionRecord}

lemma relationshipOf_upsert (connection : TetiConnectionRecord) (requestId : String) :
    relationshipOf requestId (StorageEdit.apply (.upsert connection) connections)
      = if requestId = connection.requestId then connection.networkRelationship
        else relationshipOf requestId connections := by
  rw [StorageEdit.apply, relationshipOf, findConnection_upsertConnection, relationshipOf]
  split_ifs <;> rfl

/-- A new public key changes no relationship. -/
lemma sameRelationships_update (requestId publicKey : String) :
    SameRelationships connections
      (StorageEdit.apply (.update requestId publicKey) connections) := by
  intro other
  have hid : ∀ item : TetiConnectionRecord, item.requestId = requestId →
      (withPublicKey publicKey item).requestId = requestId := fun _ h => h
  rw [StorageEdit.apply, relationshipOf, findConnection_updateFirst hid, relationshipOf]
  split_ifs with h
  · rw [h]
    cases findConnection requestId connections <;> rfl
  · rfl

lemma sameRelationships_inactivate (document : RelationshipDocument)
    (state : TetiConnectionState) :
    SameRelationships connections (StorageEdit.apply (.inactivate document state) connections) := by
  intro requestId
  have hid : (fun item : TetiConnectionRecord => item.requestId == requestId)
      ∘ inactivate document state = fun item => item.requestId == requestId := by
    funext item
    rw [Function.comp_apply, (inactivate_frame document state item).1]
  rw [StorageEdit.apply, relationshipOf, findConnection, List.find?_map, hid, relationshipOf,
    findConnection]
  cases connections.find? fun item => item.requestId == requestId with
  | none => rfl
  | some connection => exact (inactivate_frame document state connection).2.2

lemma relationshipOf_eq_none (h : preservesNetworkRecovery connections = false)
    (requestId : String) : relationshipOf requestId connections = none := by
  rw [relationshipOf, Option.bind_eq_none_iff]
  intro connection hfound
  have hmem := List.mem_of_find?_eq_some hfound
  have hnone := List.any_eq_false.mp h connection hmem
  simp only [Bool.or_eq_true, not_or, Bool.not_eq_true, Option.isSome_eq_false_iff,
    Option.isNone_iff_eq_none] at hnone
  exact hnone.1

/-- The first record with an id is kept unless it is the local identity's. -/
lemma findConnection_removeLocal {isLocal : TetiConnectionRecord → Bool} {requestId : String}
    {connection : TetiConnectionRecord} (h : findConnection requestId connections = some connection)
    (hremote : isLocal connection = false) :
    findConnection requestId (StorageEdit.apply (.removeLocal isLocal) connections)
      = some connection := by
  rw [StorageEdit.apply, findConnection]
  rw [findConnection] at h
  induction connections with
  | nil => exact absurd h (by simp)
  | cons item connections ih =>
    rw [List.find?_cons] at h
    cases hid : item.requestId == requestId with
    | true =>
      rw [hid] at h
      obtain rfl := Option.some.inj h
      simp [hremote, hid]
    | false =>
      rw [hid] at h
      rw [List.filter_cons]
      split_ifs
      · rw [List.find?_cons, hid]
        exact ih h
      · exact ih h

end

/-! ### What each queue guarantees -/

/-- What a queue guarantees of each of its steps; the one for profiles leaves all
relationships alone. -/
structure Guarantees (sha256 : JsString → DocumentDigest) (queue : ConnectionQueue)
    (w w' : ConnectionWorld) : Prop where
  journalled : Journalled w w'
  onward : Onward sha256 w w'
  profiles : queue = .serialProfiles → ¬Stale w' →
    SameRelationships w.store.connections w'.store.connections

/-- What a queue relies upon between its steps. -/
def Relies (queue : ConnectionQueue) (w w' : ConnectionWorld) : Prop :=
  queue = .serial → w.writes <+: w'.writes
    ∧ (¬Stale w' → SameRelationships w.store.connections w'.store.connections)

section

variable {sha256 : JsString → DocumentDigest} {queue : ConnectionQueue}
  {w w' : ConnectionWorld}

lemma Undisturbed.guarantees (h : Undisturbed w w') : Guarantees sha256 queue w w' :=
  ⟨Or.inl h, h.onward, fun _ _ => by rw [h.1]; exact SameRelationships.refl _⟩

lemma Undisturbed.relies (h : Undisturbed w w') : Relies queue w w' :=
  fun _ => ⟨by rw [h.2], fun _ => by rw [h.1]; exact SameRelationships.refl _⟩

variable {edit : StorageEdit} {loaded : TetiConnectionStore}

/-- A save is guaranteed if a fresh one is. -/
lemma guarantees_save {store : TetiConnectionStore}
    (hstore : store.connections = edit.apply loaded.connections)
    (hkept : ¬Stale w → loaded = w.store → ∀ requestId, ∀ earlier ∈ relationshipOf requestId
      loaded.connections, (∃ later ∈ relationshipOf requestId (edit.apply loaded.connections),
        Supersedes sha256 later earlier)
        ∨ (⟨edit, loaded, true⟩ : StorageWrite).removes requestId = true)
    (hsame : queue = .serialProfiles → SameRelationships loaded.connections
      (edit.apply loaded.connections)) : Guarantees sha256 queue w (w.save edit loaded store) := by
  have hstarts : w.writes <+: (w.save edit loaded store).writes := List.prefix_append _ _
  have hloaded : ¬Stale (w.save edit loaded store) → loaded = w.store := by
    intro hfresh
    by_contra hne
    exact hfresh ⟨⟨edit, loaded, decide (loaded = w.store)⟩,
      List.mem_append_right _ (List.mem_singleton_self _), decide_eq_false hne⟩
  refine ⟨Or.inr ⟨⟨edit, loaded, decide (loaded = w.store)⟩, rfl, fun hfresh => ?_⟩,
    ⟨hstarts, fun hfresh requestId earlier hmem => ?_⟩, fun hqueue hfresh => ?_⟩
  · rw [← of_decide_eq_true hfresh]
    exact hstore
  · have hsame := hloaded hfresh
    rw [← hsame] at hmem
    rcases hkept (fun hstale => hfresh (hstale.mono hstarts)) hsame requestId earlier hmem with
      ⟨later, hlater, hsupersedes⟩ | hremoves
    · refine Or.inl ⟨later, ?_, hsupersedes⟩
      change later ∈ relationshipOf requestId store.connections
      rwa [hstore]
    · refine Or.inr ⟨⟨edit, loaded, decide (loaded = w.store)⟩, ?_, hremoves⟩
      change _ ∈ (w.writes ++ [_]).drop w.writes.length
      rw [List.drop_left]
      exact List.mem_singleton_self _
  · have hstore' : (w.save edit loaded store).store.connections = edit.apply loaded.connections :=
      hstore
    rw [hstore', ← hloaded hfresh]
    exact hsame hqueue

lemma guarantees_save_same {store : TetiConnectionStore}
    (hstore : store.connections = edit.apply loaded.connections)
    (hsame : SameRelationships loaded.connections (edit.apply loaded.connections)) :
    Guarantees sha256 queue w (w.save edit loaded store) := by
  refine guarantees_save hstore (fun _ _ requestId earlier hmem => Or.inl ⟨earlier, ?_, .refl _⟩)
    fun _ => hsame
  rwa [hsame requestId]

/-! ### One step -/

variable {α β : Type} {P : ConnectionWorld → Prop} {Q : α → ConnectionWorld → Prop}

/-- A step that leaves the store alone keeps what the others cannot change. -/
lemma secure_quiet {m : Program RelationshipError ConnectionWorld α}
    (hm : ∀ w, Undisturbed w (m.exec w).2)
    (hP : ∀ w w', Relies queue w w' → P w → P w') (hw : P w) :
    Secure (Relies queue) (Guarantees sha256 queue) (fun _ => P) (lift m) w :=
  Secure.lift fun w' hw' => ⟨(hm w').guarantees, fun _ _ => hP w' _ (hm w').relies (hP w w' hw' hw)⟩

lemma secure_consult (f : Nat → α) (hP : ∀ w w', Relies queue w w' → P w → P w') (hw : P w) :
    Secure (Relies queue) (Guarantees sha256 queue) (fun _ => P) (consult f) w :=
  secure_quiet (fun _ => ⟨rfl, rfl⟩) hP hw

lemma secure_loadAll {Q : TetiConnectionStore → ConnectionWorld → Prop}
    (h : ∀ w', Relies queue w w' → Q w'.store w') :
    Secure (Relies queue) (Guarantees sha256 queue) Q loadAll w := by
  refine Secure.lift fun w' hw' => ⟨Undisturbed.guarantees ⟨rfl, rfl⟩, fun a ha => ?_⟩
  rw [← Except.ok.inj ha]
  exact h w' hw'

lemma secure_saveAll {Q : Unit → ConnectionWorld → Prop}
    (h : ∀ w' store, Relies queue w w' → store.connections = edit.apply loaded.connections →
      Guarantees sha256 queue w' (w'.save edit loaded store) ∧ Q () (w'.save edit loaded store)) :
    Secure (Relies queue) (Guarantees sha256 queue) Q (saveAll edit loaded) w := by
  refine Secure.bind_fromExcept fun store hstore => Secure.lift fun w' hw' => ?_
  obtain ⟨hstep, hQ⟩ := h w' store hw' (connections_of_validateConnectionStore hstore)
  exact ⟨hstep, fun _ _ => hQ⟩

/-- An operation all of whose steps are guaranteed, from every world. -/
def Guaranteed (sha256 : JsString → DocumentDigest) (queue : ConnectionQueue)
    (m : ConnectionOperation α) : Prop :=
  ∀ w, Secure (Relies queue) (Guarantees sha256 queue) (fun _ _ => True) m w

lemma Guaranteed.pure (a : α) : Guaranteed sha256 queue (pure a : ConnectionOperation α) :=
  fun _ => trivial

lemma Guaranteed.raise (e : RelationshipError) :
    Guaranteed sha256 queue (raise e : ConnectionOperation α) :=
  fun _ => trivial

lemma Guaranteed.bind {m : ConnectionOperation α} {f : α → ConnectionOperation β}
    (hm : Guaranteed sha256 queue m) (hf : ∀ a, Guaranteed sha256 queue (f a)) :
    Guaranteed sha256 queue (m >>= f) :=
  fun w => Secure.bind (hm w) fun a w' _ => hf a w'

lemma Guaranteed.attempt {m : ConnectionOperation α} (hm : Guaranteed sha256 queue m) :
    Guaranteed sha256 queue (Async.attempt m) :=
  fun w => Secure.attempt (hm w) fun _ _ => trivial

lemma Guaranteed.fromExcept (r : Except RelationshipError α) :
    Guaranteed sha256 queue (Async.fromExcept r) := by
  cases r with
  | ok a => exact .pure a
  | error e => exact .raise e

lemma Guaranteed.orThrow (o : Option α) (e : RelationshipError) :
    Guaranteed sha256 queue (Async.orThrow o e) := by
  cases o with
  | some a => exact .pure a
  | none => exact .raise e

lemma Guaranteed.throwIf (c : Prop) [Decidable c] (e : RelationshipError) :
    Guaranteed sha256 queue (throwIf c e) := by
  unfold Async.throwIf
  split_ifs
  · exact .raise e
  · exact .pure ()

lemma Guaranteed.quiet {m : Program RelationshipError ConnectionWorld α}
    (hm : ∀ w, Undisturbed w (m.exec w).2) : Guaranteed sha256 queue (lift m) :=
  fun _ => secure_quiet hm (fun _ _ _ _ => trivial) trivial

lemma Guaranteed.consult (f : Nat → α) : Guaranteed sha256 queue (consult f) :=
  .quiet fun _ => ⟨rfl, rfl⟩

/-! ### The operations that rely upon nothing -/

lemma guaranteed_loadAll : Guaranteed sha256 queue loadAll := .quiet fun _ => ⟨rfl, rfl⟩

lemma guaranteed_saveAll
    (hkept : ∀ requestId, ∀ earlier ∈ relationshipOf requestId loaded.connections,
      (∃ later ∈ relationshipOf requestId (edit.apply loaded.connections),
        Supersedes sha256 later earlier)
        ∨ (⟨edit, loaded, true⟩ : StorageWrite).removes requestId = true) :
    Guaranteed sha256 .serial (saveAll edit loaded) :=
  fun _ => secure_saveAll fun _ _ _ hstore =>
    ⟨guarantees_save hstore (fun _ _ => hkept) nofun, trivial⟩

lemma guaranteed_update (requestId publicKey : String) :
    Guaranteed sha256 queue (update requestId publicKey) := by
  refine .bind guaranteed_loadAll fun loaded => .bind (.orThrow _ _) fun existing =>
    .bind (.fromExcept _) fun _ w => secure_saveAll fun w' store _ hstore => ⟨?_, trivial⟩
  exact guarantees_save_same hstore (sameRelationships_update requestId publicKey)

lemma guaranteed_collectFailures {body : TetiConnectionRecord → ConnectionOperation Unit}
    (hbody : ∀ connection, Guaranteed sha256 queue (body connection))
    (connections : List TetiConnectionRecord) :
    Guaranteed sha256 queue (collectFailures body connections) := by
  induction connections with
  | nil => exact .pure []
  | cons connection connections ih =>
    refine .bind (hbody connection).attempt fun outcome => .bind ih fun failures => ?_
    cases outcome with
    | ok _ => exact .pure failures
    | error e => exact .pure (e :: failures)

lemma guaranteed_forceHeartbeat (requestId : String) (previous : Option String)
    (current : String) :
    Guaranteed sha256 queue (forceHeartbeatAfterTransportBootstrap requestId previous current) := by
  unfold forceHeartbeatAfterTransportBootstrap
  split_ifs
  · exact .quiet fun _ => ⟨rfl, rfl⟩
  · exact .pure ()

section

variable (env : ConnectionEnvironment)

lemma guaranteed_requireAccount : Guaranteed sha256 queue (requireAccount env) :=
  .bind (.consult _) fun account => .orThrow account _

lemma guaranteed_discoverIdentity (connection : TetiConnectionRecord)
    (unavailable mismatch : String) :
    Guaranteed sha256 queue (discoverIdentity env connection unavailable mismatch) :=
  .bind (.consult _) fun discovered => .bind (.orThrow discovered _) fun _ =>
    .bind (.fromExcept _) fun identity => .bind (.throwIf _ _) fun _ => .pure identity

lemma guaranteed_backfill :
    Guaranteed sha256 queue (backfillConfirmedTransportBootstrap env) := by
  refine .bind guaranteed_loadAll fun loaded =>
    .bind (guaranteed_collectFailures (fun connection => ?_) _) fun failures => ?_
  · refine .bind (guaranteed_discoverIdentity env connection _ _) fun identity =>
      .bind (.orThrow _ _) fun publicKey => .bind (guaranteed_update _ _) fun _ =>
      .bind (.consult _) fun now => .bind (.quiet fun _ => ⟨rfl, rfl⟩) fun _ => ?_
    exact guaranteed_forceHeartbeat _ _ _
  · cases failures with
    | nil => exact .pure ()
    | cons e _ => exact .raise e

lemma guaranteed_adoptPublicKey (connection : TetiConnectionRecord) (identity : TetiIdentity) :
    Guaranteed sha256 queue (adoptPublicKey connection identity) := by
  unfold adoptPublicKey
  split
  · exact .pure ()
  · split_ifs
    · exact .pure ()
    · exact .bind (guaranteed_update _ _) fun _ => guaranteed_forceHeartbeat _ _ _

lemma guaranteed_refreshPeerProfiles : Guaranteed sha256 queue (refreshPeerProfiles env) := by
  refine .bind (.consult _) fun now => .bind guaranteed_loadAll fun loaded =>
    .bind (guaranteed_collectFailures (fun connection => ?_) _) fun _ => .pure ()
  refine .bind (.quiet fun _ => ⟨rfl, rfl⟩) fun cached => ?_
  cases cached with
  | true => exact .pure ()
  | false =>
    exact .bind (guaranteed_discoverIdentity env connection _ _) fun identity =>
      .bind (.quiet fun _ => ⟨rfl, rfl⟩) fun _ => guaranteed_adoptPublicKey connection identity

lemma guaranteed_removeLocal :
    Guaranteed sha256 .serial (removeLocalIdentityConnections env) := by
  refine .bind (guaranteed_requireAccount env) fun account => .bind guaranteed_loadAll fun loaded => ?_
  dsimp only
  split_ifs
  · refine guaranteed_saveAll fun requestId earlier hmem => ?_
    obtain ⟨connection, hfound, hrelationship⟩ := Option.bind_eq_some_iff.mp hmem
    cases hlocal : isLocalIdentity env account connection with
    | true =>
      refine Or.inr ?_
      simp [StorageWrite.removes, hfound, hlocal]
    | false =>
      refine Or.inl ⟨earlier, ?_, .refl earlier⟩
      exact Option.bind_eq_some_iff.mpr
        ⟨connection, findConnection_removeLocal hfound hlocal, hrelationship⟩
  · exact .pure ()

/-- Duplicates are removed only where no record projects a relationship. -/
lemma guaranteed_reconcile (localeBefore : String → String → Bool) :
    Guaranteed sha256 .serial (reconcileConfirmedPeerConnections localeBefore) := by
  refine .bind guaranteed_loadAll fun loaded => ?_
  dsimp only
  split_ifs with hrecovery
  · refine .bind (guaranteed_saveAll fun requestId earlier hmem => ?_) fun _ => .pure _
    rw [relationshipOf_eq_none hrecovery.2] at hmem
    exact absurd hmem (by simp)
  · exact .pure _

/-! ### Documents -/

/-- The relationships are those that were loaded, unless a save was stale. -/
def Since (loaded : TetiConnectionStore) (w : ConnectionWorld) : Prop :=
  ¬Stale w → SameRelationships loaded.connections w.store.connections

variable {loaded : TetiConnectionStore}

lemma Since.relies (w w' : ConnectionWorld) (hw : Relies .serial w w') (h : Since loaded w) :
    Since loaded w' := by
  obtain ⟨hwrites, hsame⟩ := hw rfl
  exact fun hfresh => (h fun hstale => hfresh (hstale.mono hwrites)).trans (hsame hfresh)

variable {document : RelationshipDocument}

/-- A document that is projected may take the place of what is stored under its id. -/
lemma supersedes_of_advances
    (h : standing document (networkRelationshipDocumentFingerprint sha256 document)
      (findConnection document.id loaded.connections) (findRecovery document loaded.connections)
      = .advances) {earlier : NetworkRelationship}
    (hearlier : earlier ∈ relationshipOf document.id loaded.connections) :
    Supersedes sha256 (networkRelationshipOf sha256 document) earlier := by
  obtain ⟨connection, hfound, hrelationship⟩ := Option.bind_eq_some_iff.mp hearlier
  have hvalid := loaded.valid connection (List.mem_of_find?_eq_some hfound)
  have hrecovery : findRecovery document loaded.connections = some connection := by
    rw [findRecovery, hfound]
    rfl
  rw [standing, hrecovery, hfound, Option.bind_some, hrelationship, Option.map_some] at h
  dsimp only at h
  split_ifs at h with hnewer hsame hother
  · refine ⟨hsame.le, fun _ => Or.inr ⟨document, rfl, fun fingerprint hmem => ?_⟩⟩
    have hne := fingerprint_ne_empty hvalid hrelationship hmem
    rw [Option.mem_def.mp hmem] at hother
    simpa [truthy, Option.filter, hne] using hother
  · exact ⟨by simp only [networkRelationshipOf]; omega,
      fun heq => absurd heq.symm hsame⟩

lemma secure_resolve (knownRemote : Option TetiIdentity)
    (peerRecovery : Option TetiConnectionRecord) (hw : Since loaded w) :
    Secure (Relies .serial) (Guarantees sha256 .serial) (fun _ => Since loaded)
      (resolveDeliveryIdentity env document knownRemote peerRecovery) w := by
  refine Secure.bind (secure_quiet (fun _ => ⟨rfl, rfl⟩) Since.relies hw) fun cached w' hw' => ?_
  cases knownRemote <|> cached with
  | some remote => exact hw'
  | none =>
    refine Secure.bind (secure_consult _ Since.relies hw') fun discovered w'' hw'' => ?_
    cases discoveredIdentity document peerRecovery discovered with
    | ok remote => exact hw''
    | error e => trivial

lemma secure_endLegacy (hw : Since loaded w) :
    Secure (Relies .serial) (Guarantees sha256 .serial) (fun _ => Since loaded)
      (endLegacyConnections document loaded) w := by
  unfold endLegacyConnections
  cases inactiveState document.state with
  | none => exact hw
  | some state =>
    dsimp only
    split_ifs
    · refine secure_saveAll fun w' store _ hstore =>
        ⟨guarantees_save_same hstore (sameRelationships_inactivate document state), fun _ => ?_⟩
      change SameRelationships loaded.connections store.connections
      rw [hstore]
      exact sameRelationships_inactivate document state
    · exact hw

/-- The record that projects a document holds its relationship. -/
lemma projected_relationship {account : TetiAccount} {remote : TetiIdentity}
    {existing : Option TetiConnectionRecord} {projected : TetiConnectionRecord}
    (h : projectNetworkRelationshipRecovery sha256 document account remote existing
      = some projected) :
    projected.requestId = document.id
      ∧ projected.networkRelationship = some (networkRelationshipOf sha256 document) := by
  unfold projectNetworkRelationshipRecovery at h
  dsimp only at h
  split at h
  · obtain ⟨_, _, rfl⟩ := Option.map_eq_some_iff.mp h
    exact ⟨rfl, rfl⟩
  · obtain rfl := Option.some.inj h
    exact ⟨rfl, rfl⟩

lemma secure_upsert {projected : TetiConnectionRecord} {relationship : NetworkRelationship}
    (hw : Since loaded w) (hrelationship : projected.networkRelationship = some relationship)
    (hsupersedes : ∀ earlier ∈ relationshipOf projected.requestId loaded.connections,
      Supersedes sha256 relationship earlier) :
    Secure (Relies .serial) (Guarantees sha256 .serial) (fun _ _ => True) (upsert projected) w := by
  refine Secure.bind_fromExcept fun _ _ => Secure.bind
    (secure_loadAll (Q := fun current w' => w'.store = current ∧ Since loaded w')
      fun w' hw' => ⟨rfl, Since.relies w w' hw' hw⟩) ?_
  rintro current w' ⟨rfl, hsince⟩
  refine secure_saveAll fun w'' store hw'' hstore => ⟨?_, trivial⟩
  refine guarantees_save hstore (fun hfresh hsame requestId earlier hmem => Or.inl ?_) nofun
  have hloaded := Since.relies w' w'' hw'' hsince hfresh
  rw [← hsame] at hloaded
  rw [relationshipOf_upsert]
  split_ifs with hid
  · subst hid
    rw [hloaded] at hmem
    exact ⟨relationship, hrelationship, hsupersedes earlier hmem⟩
  · exact ⟨earlier, hmem, .refl earlier⟩

end

end

section

variable (env : ConnectionEnvironment)

lemma guaranteed_applyNetworkRelationship (document : RelationshipDocument)
    (knownRemote : Option TetiIdentity) :
    Guaranteed env.sha256 .serial (applyNetworkRelationship env document knownRemote) := by
  refine .bind (guaranteed_requireAccount env) fun account w => ?_
  refine Secure.bind (secure_loadAll (Q := fun loaded => Since loaded)
    fun w' _ _ => SameRelationships.refl _) fun loaded w' hloaded => ?_
  dsimp only
  split
  · trivial
  · trivial
  · next hstanding =>
    refine Secure.bind (secure_resolve env _ _ hloaded) fun remote w₁ h₁ => ?_
    refine Secure.bind (secure_consult _ Since.relies h₁) fun now w₂ h₂ => ?_
    refine Secure.bind (secure_quiet (fun _ => ⟨rfl, rfl⟩) Since.relies h₂) fun _ w₃ h₃ => ?_
    refine Secure.bind (secure_endLegacy h₃) fun _ w₄ h₄ => ?_
    refine Secure.bind_orThrow fun projected hprojected => ?_
    obtain ⟨hid, hrelationship⟩ := projected_relationship hprojected
    refine Secure.bind (secure_upsert h₄ hrelationship fun earlier hmem => ?_) fun _ w₅ _ => ?_
    · rw [hid] at hmem
      exact supersedes_of_advances hstanding hmem
    · exact Guaranteed.bind (.quiet fun _ => ⟨rfl, rfl⟩) (fun _ => .pure projected) w₅

variable (scan : List (Except RelationshipError RelationshipDocument))

lemma guaranteed_applyDocuments : Guaranteed env.sha256 .serial (applyDocuments env scan) := by
  induction scan with
  | nil => exact .pure ()
  | cons result results ih =>
    exact .bind (.fromExcept result) fun document =>
      .bind (guaranteed_applyNetworkRelationship env document none) fun _ => ih

lemma guaranteed_synchronize :
    Guaranteed env.sha256 .serial (synchronizeNetworkRelationships env scan) :=
  .bind (guaranteed_applyDocuments env scan) fun _ => guaranteed_backfill env

lemma guaranteed_applyCommand (result : Except RelationshipError RelationshipDocument)
    (knownRemote : Option TetiIdentity) :
    Guaranteed env.sha256 .serial (applyCommand env result knownRemote) :=
  .bind (.fromExcept result) fun document =>
    .bind (guaranteed_applyNetworkRelationship env document knownRemote) fun _ =>
    .bind (guaranteed_reconcile env.localeBefore) fun _ => .pure ()

lemma guaranteed_resolveRemote (remote : TetiIdentity) :
    Guaranteed env.sha256 .serial (resolveRemote env remote) :=
  .bind (.consult _) fun _ => .quiet fun _ => ⟨rfl, rfl⟩

/-- Every step of a call is guaranteed by its queue. -/
lemma guaranteed_perform (call : ConnectionCall) :
    Guaranteed env.sha256 (queueOf call) (perform env call) := by
  cases call with
  | ensureReady => exact guaranteed_removeLocal env
  | resolve remote => exact guaranteed_resolveRemote env remote
  | request remote result =>
    exact .bind (guaranteed_requireAccount env) fun _ =>
      .bind (guaranteed_resolveRemote env remote) fun _ => .bind (.throwIf _ _) fun _ =>
      guaranteed_applyCommand env result (some remote)
  | command result => exact guaranteed_applyCommand env result none
  | list scan =>
    exact .bind (guaranteed_removeLocal env) fun _ =>
      .bind (guaranteed_synchronize env scan).attempt fun _ =>
      .bind (guaranteed_reconcile env.localeBefore) fun _ => .pure ()
  | poll before after =>
    exact .bind (guaranteed_synchronize env before).attempt fun _ =>
      .bind (guaranteed_synchronize env after).attempt fun _ =>
      .bind (guaranteed_reconcile env.localeBefore) fun _ => .pure ()
  | refreshPeerProfiles => exact guaranteed_refreshPeerProfiles env

/-- What each queue relies upon is what the other guarantees. -/
theorem queues_agree : Lanes.Agreement queueOf (perform env) (fun _ => True) Relies
    (Guarantees env.sha256) where
  refl _ _ _ _ := ⟨List.prefix_rfl, fun _ => .refl _⟩
  trans h h' hqueue := by
    obtain ⟨hwrites, hsame⟩ := h hqueue
    obtain ⟨hwrites', hsame'⟩ := h' hqueue
    exact ⟨hwrites.trans hwrites',
      fun hfresh => (hsame fun hstale => hfresh (hstale.mono hwrites')).trans (hsame' hfresh)⟩
  others {i j} hne _ _ h hqueue := by
    subst hqueue
    have hprofiles : j = .serialProfiles := by
      cases j with
      | serial => exact absurd rfl hne
      | serialProfiles => rfl
    exact ⟨h.onward.writes, h.profiles hprofiles⟩
  keeps _ _ := trivial
  secure call w _ := guaranteed_perform env call w

/-! ### Runs -/

/-- What the saves make of a file, one after the other. -/
def replay (writes : List StorageWrite) (connections : List TetiConnectionRecord) :
    List TetiConnectionRecord :=
  writes.foldl (fun connections write => write.edit.apply connections) connections

/-- A point of a run that all saves so far have led to, unless one was stale. -/
def Replayed (initial : List TetiConnectionRecord) (w : ConnectionWorld) : Prop :=
  ¬Stale w → w.store.connections = replay w.writes initial

lemma Replayed.step {initial : List TetiConnectionRecord} {w w' : ConnectionWorld}
    (h : Replayed initial w) (hstep : Journalled w w') : Replayed initial w' := by
  intro hfresh
  rcases hstep with ⟨hstore, hwrites⟩ | ⟨write, hwrites, hedit⟩
  · rw [hstore, hwrites]
    exact h fun ⟨write, hmem, hwrite⟩ => hfresh ⟨write, hwrites ▸ hmem, hwrite⟩
  · have hbefore : ¬Stale w :=
      fun hstale => hfresh (hstale.mono (hwrites ▸ List.prefix_append _ _))
    have hwrite : write.fresh = true := by
      by_contra hne
      exact hfresh ⟨write, by simp [hwrites], by simpa using hne⟩
    rw [hedit hwrite, h hbefore, hwrites, replay, replay, List.foldl_append]
    rfl

lemma replayed {w : ConnectionWorld} (hw : w.writes = []) {s : ConnectionQueues}
    (hrun : Reached (QueueStep env) (Lanes.idle w) s) : Replayed w.store.connections s.world := by
  refine Reached.invariant (I := fun s => Replayed w.store.connections s.world) ?_ ?_ hrun
  · intro _
    rw [Lanes.idle, hw]
    rfl
  · intro before after hreached hbefore hstep
    rcases Lanes.step_guaranteed (queues_agree env) trivial hreached hstep with hsame | ⟨_, h⟩
    · rwa [hsame]
    · exact hbefore.step h.journalled

/-- **No update is lost**: in every run of the two queues in which each save finds the
file as its operation has loaded it, the file is what all saves made of it in their
order, and between any two points of the run a relationship is superseded only, or its
record was removed as one of the local identity. -/
theorem no_update_lost {w : ConnectionWorld} (hw : w.writes = []) {s t : ConnectionQueues}
    (hstart : Reached (QueueStep env) (Lanes.idle w) s) (hrun : Reached (QueueStep env) s t)
    (hfresh : ∀ write ∈ t.world.writes, write.fresh = true) :
    t.world.store.connections = replay t.world.writes w.store.connections
      ∧ ∀ requestId, Kept env.sha256 requestId s.world t.world := by
  have hstale : ¬Stale t.world := by
    rintro ⟨write, hmem, hwrite⟩
    rw [hfresh write hmem] at hwrite
    cases hwrite
  have hreached : Reached (QueueStep env) (Lanes.idle w) t :=
    Relation.ReflTransGen.trans hstart hrun
  refine ⟨replayed env hw hreached hstale, ?_⟩
  have honward : Onward env.sha256 s.world t.world :=
    Lanes.along (queues_agree env) (fun w _ => Onward.refl w) Onward.trans (fun h => h.onward)
      trivial hstart hrun
  exact honward.kept hstale

end

/-! ### A block and a profile -/

/-- Bob is blocked, at the third revision. -/
def blockedDocument : RelationshipDocument :=
  { requestedDocument with
    revision := 3
    state := .blocked
    blockedBy := some .self
    updatedAt := 3000
    stateChangedAt := 3000
    wellFormed := by decide +kernel }

/-- Bob's confirmed connection, with a key that he had before. -/
def confirmedConnections : List TetiConnectionRecord :=
  (projectNetworkRelationshipRecovery bobEnvironment.sha256 confirmedDocument aliceAccount
    { bobIdentity with publicKey := some "bob-old-key" } none).toList

def confirmedStore : TetiConnectionStore := ⟨confirmedConnections, by decide +kernel⟩

/-- The profiles are refreshed, and Bob is blocked. -/
def refreshAndBlock : ConnectionQueues :=
  ((Lanes.idle (.atRest confirmedStore)).arrive queueOf (perform bobEnvironment)
    .refreshPeerProfiles).arrive queueOf (perform bobEnvironment) (.command (.ok blockedDocument))

/-- The refresh has loaded the file to store Bob's key; meanwhile the block returns. -/
def blockReturned : ConnectionQueues :=
  (refreshAndBlock.turns (List.replicate 6 .serialProfiles)).turns (List.replicate 11 .serial)

/-- The refresh goes on. -/
def refreshReturned : ConnectionQueues := blockReturned.turns (List.replicate 3 .serialProfiles)

/-- The refresh, and the block after it. -/
def refreshedBeforeBlock : ConnectionQueues :=
  (refreshAndBlock.turns (List.replicate 9 .serialProfiles)).turns (List.replicate 11 .serial)

lemma reached_refreshAndBlock :
    Reached (QueueStep bobEnvironment) (Lanes.idle (.atRest confirmedStore)) refreshAndBlock :=
  (Reached.refl.step (.arrive _)).step (.arrive _)

/-- A refresh that ends before the block begins loses nothing. -/
theorem no_update_lost_in_turn :
    refreshedBeforeBlock.world.store.connections
        = replay refreshedBeforeBlock.world.writes confirmedConnections
      ∧ ∀ requestId, Kept bobEnvironment.sha256 requestId refreshAndBlock.world
        refreshedBeforeBlock.world := by
  refine no_update_lost bobEnvironment rfl reached_refreshAndBlock
    (Lanes.reached_turns (Lanes.reached_turns .refl _) _) ?_
  have hfresh : refreshedBeforeBlock.world.writes.all StorageWrite.fresh = true := by decide +kernel
  exact fun write hmem => List.all_eq_true.mp hfresh write hmem

/-- A refresh that has loaded the file before the block was stored takes it back: Bob's
relationship is confirmed again, at the second revision. -/
theorem stale_profile_reverts_block :
    ¬∀ (env : ConnectionEnvironment) (w : ConnectionWorld) (s t : ConnectionQueues),
      w.writes = [] → Reached (QueueStep env) (Lanes.idle w) s → Reached (QueueStep env) s t →
      ∀ requestId, Kept env.sha256 requestId s.world t.world := by
  intro h
  have hkept := h bobEnvironment _ blockReturned refreshReturned rfl
    (Lanes.reached_turns (Lanes.reached_turns reached_refreshAndBlock _) _)
    (Lanes.reached_turns .refl _) "rel_AAAAAAAAAAAAAAAAAAAAAA"
  have hblocked : relationshipOf "rel_AAAAAAAAAAAAAAAAAAAAAA" blockReturned.world.store.connections
      = some (networkRelationshipOf bobEnvironment.sha256 blockedDocument) := by decide +kernel
  have hconfirmed : relationshipOf "rel_AAAAAAAAAAAAAAAAAAAAAA"
      refreshReturned.world.store.connections
      = some (networkRelationshipOf bobEnvironment.sha256 confirmedDocument) := by decide +kernel
  have hremoved : (refreshReturned.world.writes.drop blockReturned.world.writes.length).any
      (StorageWrite.removes "rel_AAAAAAAAAAAAAAAAAAAAAA") = false := by decide +kernel
  rcases hkept _ hblocked with ⟨later, hlater, hsupersedes⟩ | ⟨write, hmem, hremoves⟩
  · rw [hconfirmed] at hlater
    obtain rfl := Option.some.inj hlater
    exact absurd hsupersedes.revision (by decide)
  · rw [List.any_eq_false] at hremoved
    exact hremoved write hmem hremoves

end TetiBot.Connections

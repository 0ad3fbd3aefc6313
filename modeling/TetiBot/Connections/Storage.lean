import TetiBot.Connections.Types
import TetiBot.Library.Async
import TetiBot.Library.Focus

/-
The connection store over its file (`core/connection/storage.ts`,
`core/connection/handshake.ts`).

* `ConnectionWorld`: the file, what the runtime caches of the Network's directory,
  and the effects on its other tables.  The journal `writes` notes every save, and
  whether the file still was what the operation had loaded; no operation reads it.
* `loadAll`, `saveAll`, `upsert`, `update`: each load and each save is a step of its
  own, between which other operations may run.  A save writes what its edit made
  of the list that was loaded.
* `reconcileConfirmedPeerConnections`: one record for each confirmed peer.
-/

namespace TetiBot.Connections

open Library Library.Async

/-! ### Edits -/

/-- `{ ...connection, state: inactiveState, ... }`, for the records of the peer that
project no relationship. -/
def inactivate (document : RelationshipDocument) (inactiveState : TetiConnectionState)
    (connection : TetiConnectionRecord) : TetiConnectionRecord :=
  if connection.remoteTetiId = document.peerTetiId ∧ connection.networkRelationship = none
      ∧ connection.state ≠ inactiveState then
    { connection with
      state := inactiveState
      updatedAt := document.updatedAt
      rejectedAt :=
        if inactiveState = .rejected then some document.stateChangedAt else connection.rejectedAt }
  else connection

/-- Replace the first record with the same id, or push. -/
def upsertConnection (connection : TetiConnectionRecord)
    (connections : List TetiConnectionRecord) : List TetiConnectionRecord :=
  if connections.any fun item => item.requestId == connection.requestId then
    updateFirst (fun item => item.requestId == connection.requestId) (fun _ => connection)
      connections
  else connections ++ [connection]

def withPublicKey (publicKey : String) (connection : TetiConnectionRecord) :
    TetiConnectionRecord :=
  { connection with remotePublicKey := some publicKey }

section

variable (localeBefore : String → String → Bool)

/-- A confirmed record takes the place of the canonical one of its peer. -/
def takesOver (connection canonical : TetiConnectionRecord) : Bool :=
  (connection.networkRelationship.isSome && canonical.networkRelationship.isNone)
    || (connection.networkRelationship.isSome == canonical.networkRelationship.isSome
      && localeBefore connection.requestId canonical.requestId)

/-- `canonicalByPeer.get(peer)`. -/
def canonicalOf (connections : List TetiConnectionRecord) (peer : TetiId) :
    Option TetiConnectionRecord :=
  connections.foldl (fun held connection =>
    if isTetiConnectionConfirmed connection && connection.remoteTetiId == peer
        && held.all (takesOver localeBefore connection) then some connection
    else held) none

/-- `reconciled`. -/
def reconciledConnections (connections : List TetiConnectionRecord) :
    List TetiConnectionRecord :=
  connections.filter fun connection => !isTetiConnectionArchived connection
    && (canonicalOf localeBefore connections connection.remoteTetiId).all
      fun canonical => connection.requestId == canonical.requestId

end

/-- `preservesNetworkRecovery`. -/
def preservesNetworkRecovery (connections : List TetiConnectionRecord) : Bool :=
  connections.any fun connection =>
    connection.networkRelationship.isSome || isTetiConnectionArchived connection

/-- What an operation makes of the list it has loaded. -/
inductive StorageEdit
  | upsert (connection : TetiConnectionRecord)
  | update (requestId publicKey : String)
  | inactivate (document : RelationshipDocument) (inactiveState : TetiConnectionState)
  | reconcile (localeBefore : String → String → Bool)
  | removeLocal (isLocal : TetiConnectionRecord → Bool)

def StorageEdit.apply : StorageEdit → List TetiConnectionRecord → List TetiConnectionRecord
  | .upsert connection => upsertConnection connection
  | .update requestId publicKey =>
    updateFirst (fun item => item.requestId == requestId) (withPublicKey publicKey)
  | .inactivate document inactiveState => List.map (Connections.inactivate document inactiveState)
  | .reconcile localeBefore => reconciledConnections localeBefore
  | .removeLocal isLocal => List.filter fun connection => !isLocal connection

/-! ### The world -/

structure IdentityProfile where
  platform : Option String
  category : Option (List String)
  aiEnvironment : Option (List String)
  deriving DecidableEq

/-- What is read of a `TetiIdentity`. -/
structure TetiIdentity where
  id : TetiId
  address : String
  publicKey : Option String
  publicProfile : IdentityProfile
  deriving DecidableEq

/-- What a projection does to the other tables of the runtime. -/
inductive ConnectionEffect
  | protocolBootstrapDropped (requestId : String)
  | heartbeatForced (requestId : String)
  | aiStatusForced (requestId : String)
  | passportRefreshQueued (requestId : String)
  | remotePassportRemoved (requestId : String) (remoteTetiId : TetiId) (reason : RelationshipState)
  deriving DecidableEq

/-- A save of the file. -/
structure StorageWrite where
  edit : StorageEdit
  loaded : TetiConnectionStore
  /-- The file still was what the operation had loaded. -/
  fresh : Bool

structure ConnectionWorld where
  store : TetiConnectionStore
  identityCache : List (TetiId × TetiIdentity)
  identityRefreshedAt : List (TetiId × Timestamp)
  calls : Nat
  effects : List ConnectionEffect
  writes : List StorageWrite

namespace ConnectionWorld

/-- The file holds a store. -/
def atRest (store : TetiConnectionStore) : ConnectionWorld := ⟨store, [], [], 0, [], []⟩

def tick (w : ConnectionWorld) : ConnectionWorld := { w with calls := w.calls + 1 }

/-- `identityCache.set(identity.id, identity)`, with the time of it. -/
def cache (identity : TetiIdentity) (now : Timestamp) (w : ConnectionWorld) : ConnectionWorld :=
  { w with
    identityCache := (identity.id, identity) :: w.identityCache
    identityRefreshedAt := (identity.id, now) :: w.identityRefreshedAt }

def note (effects : List ConnectionEffect) (w : ConnectionWorld) : ConnectionWorld :=
  { w with effects := w.effects ++ effects }

/-- The file is replaced. -/
def save (edit : StorageEdit) (loaded store : TetiConnectionStore) (w : ConnectionWorld) :
    ConnectionWorld :=
  { w with store, writes := w.writes ++ [⟨edit, loaded, decide (loaded = w.store)⟩] }

end ConnectionWorld

abbrev ConnectionOperation (α : Type) : Type := Async RelationshipError ConnectionWorld α

/-! ### The storage -/

def loadAll : ConnectionOperation TetiConnectionStore := lift (Program.reads ConnectionWorld.store)

/-- `saveAll` of what an edit made of the list that was loaded. -/
def saveAll (edit : StorageEdit) (loaded : TetiConnectionStore) : ConnectionOperation Unit := do
  let store ← fromExcept (validateConnectionStore (edit.apply loaded.connections))
  lift (Program.writes fun w => w.save edit loaded store)

def upsert (connection : TetiConnectionRecord) : ConnectionOperation Unit := do
  fromExcept (validateConnectionRecord connection)
  let loaded ← loadAll
  saveAll (.upsert connection) loaded

/-- `connections.find((item) => item.requestId === requestId)`. -/
def findConnection (requestId : String) (connections : List TetiConnectionRecord) :
    Option TetiConnectionRecord :=
  connections.find? fun item => item.requestId == requestId

/-- `update(requestId, { remotePublicKey })`. -/
def update (requestId publicKey : String) : ConnectionOperation Unit := do
  let loaded ← loadAll
  let existing ← orThrow (findConnection requestId loaded.connections)
    (.other ("Teti connection request " ++ requestId ++ " does not exist."))
  fromExcept (validateConnectionRecord (withPublicKey publicKey existing))
  saveAll (.update requestId publicKey) loaded

def reconcileConfirmedPeerConnections (localeBefore : String → String → Bool) :
    ConnectionOperation (List TetiConnectionRecord) := do
  let loaded ← loadAll
  let reconciled := reconciledConnections localeBefore loaded.connections
  if reconciled.length ≠ loaded.connections.length
      ∧ preservesNetworkRecovery loaded.connections = false then
    saveAll (.reconcile localeBefore) loaded
  return reconciled

/-! ### What is found after an edit -/

section

variable {connections : List TetiConnectionRecord} {connection : TetiConnectionRecord}

lemma findConnection_requestId {requestId : String}
    (h : findConnection requestId connections = some connection) :
    connection.requestId = requestId := by
  simpa using List.find?_some h

/-- What is found after the first record with an id was changed. -/
lemma findConnection_updateFirst {requestId : String}
    {f : TetiConnectionRecord → TetiConnectionRecord}
    (hf : ∀ item, item.requestId = requestId → (f item).requestId = requestId) (other : String) :
    findConnection other (updateFirst (fun item => item.requestId == requestId) f connections)
      = if other = requestId then (findConnection requestId connections).map f
        else findConnection other connections :=
  @find?_updateFirst_key _ _ _ TetiConnectionRecord.requestId _ _ hf connections other

/-- The record that was upserted is found under its id, and others as before. -/
lemma findConnection_upsertConnection (requestId : String) :
    findConnection requestId (upsertConnection connection connections)
      = if requestId = connection.requestId then some connection
        else findConnection requestId connections := by
  rw [upsertConnection]
  split_ifs with hany hid hid
  · have hfound : (findConnection connection.requestId connections).isSome := by
      rwa [findConnection, List.find?_isSome, ← List.any_eq_true]
    obtain ⟨found, hfound⟩ := Option.isSome_iff_exists.mp hfound
    rw [findConnection_updateFirst (fun _ _ => rfl), if_pos hid, hfound]
    rfl
  · rw [findConnection_updateFirst (fun _ _ => rfl), if_neg hid]
  · have hnone : (connections.find? fun item => item.requestId == connection.requestId) = none := by
      rw [List.find?_eq_none]
      simpa using hany
    rw [hid, findConnection, List.find?_append, hnone]
    simp
  · rw [findConnection, List.find?_append]
    simp [Ne.symm hid, findConnection]

lemma mem_upsertConnection {item : TetiConnectionRecord}
    (h : item ∈ upsertConnection connection connections) :
    item = connection ∨ item ∈ connections := by
  unfold upsertConnection at h
  split_ifs at h
  · rcases mem_updateFirst h with hmem | ⟨_, _, _, rfl⟩
    · exact Or.inr hmem
    · exact Or.inl rfl
  · rcases List.mem_append.mp h with hmem | hmem
    · exact Or.inr hmem
    · exact Or.inl (List.mem_singleton.mp hmem)

/-- A record that is inactivated keeps what a relationship says of it. -/
lemma inactivate_frame (document : RelationshipDocument) (inactiveState : TetiConnectionState)
    (connection : TetiConnectionRecord) :
    (inactivate document inactiveState connection).requestId = connection.requestId
      ∧ (inactivate document inactiveState connection).remoteTetiId = connection.remoteTetiId
      ∧ (inactivate document inactiveState connection).networkRelationship
        = connection.networkRelationship := by
  unfold inactivate
  split_ifs <;> exact ⟨rfl, rfl, rfl⟩

/-- Records that project a relationship are not inactivated. -/
lemma inactivate_of_relationship {document : RelationshipDocument}
    {inactiveState : TetiConnectionState} (h : connection.networkRelationship ≠ none) :
    inactivate document inactiveState connection = connection := by
  unfold inactivate
  rw [if_neg]
  exact fun hand => h hand.2.1

lemma validate_inactivate {document : RelationshipDocument} {inactiveState : TetiConnectionState}
    (h : validateConnectionRecord connection = .ok ()) :
    validateConnectionRecord (inactivate document inactiveState connection) = .ok () := by
  unfold inactivate
  split_ifs <;> exact h

end

end TetiBot.Connections

import TetiBot.Connections.Storage
import TetiBot.Core.Validation

/-
The local projection of a relationship (`lifecycle-sidecar/connections.ts`,
`runtime/network/relationship.ts`, `services/discovery/client.ts`).

* `ConnectionEnvironment`: the account, the Network's directory and the digest.
* `projectNetworkRelationshipRecovery`: the record that a document leads to.
* `applyNetworkRelationship`: what the runtime does with a document, whether it
  comes from a command or from a scan.
* `standing`: how a document stands to what is stored, which decides whether it is
  projected.
-/

namespace TetiBot.Connections

open Library Library.Async

/-! ### Addresses and identities -/

/-- `/^[a-z0-9](?:[a-z0-9._+-]{0,62}[a-z0-9])?$/`. -/
def isRelayMailbox (cs : List Char) : Bool :=
  1 ≤ cs.length && cs.length ≤ 64 && cs.head?.all isSlugCharacter
    && cs.getLast?.all isSlugCharacter
    && cs.all fun c => isSlugCharacter c || c == '.' || c == '_' || c == '+' || c == '-'

/-- `[a-z0-9](?:[a-z0-9-]{0,61}[a-z0-9])?`. -/
def isRelayLabel (cs : List Char) : Bool :=
  1 ≤ cs.length && cs.length ≤ 63 && cs.head?.all isSlugCharacter
    && cs.getLast?.all isSlugCharacter && cs.all fun c => isSlugCharacter c || c == '-'

/-- `TETI_RELAY_DOMAIN_PATTERN`: two labels or more, and at most 253 characters. -/
def isRelayDomain (cs : List Char) : Bool :=
  1 ≤ cs.length && cs.length ≤ 253 && 2 ≤ (cs.splitOn '.').length
    && (cs.splitOn '.').all isRelayLabel

def isCanonicalTetiRelayChatmailAddress (value : String) : Bool :=
  value.toList.length ≤ 320 && match value.toList.splitOn '@' with
    | [mailbox, domain] => isRelayMailbox mailbox && isRelayDomain domain
    | _ => false

/-- What is read of a `TetiAccount`; the account storage has checked it. -/
structure TetiAccount where
  id : TetiId
  address : String
  publicKey : Option String
  publicProfile : TetiPublicProfile
  canonical : isCanonicalTetiPublicId id = true
  deliverable : isCanonicalTetiRelayChatmailAddress address = true
  deriving DecidableEq

/-- `toTetiIdentity`. -/
def toTetiIdentity (identity : TetiIdentity) : Except RelationshipError TetiIdentity :=
  if !isCanonicalTetiPublicId identity.id then
    .error (.other "Discovery returned a non-canonical Teti public ID.")
  else if !isCanonicalTetiRelayChatmailAddress identity.address then
    .error (.other "Discovery returned an invalid Network delivery address.")
  else .ok identity

/-- `identityFromRecovery`. -/
def identityFromRecovery (connection : TetiConnectionRecord) : TetiIdentity where
  id := connection.remoteTetiId
  address := connection.remoteAddress
  publicKey := connection.remotePublicKey <|>
    if connection.direction = .incoming then connection.request.publicKey else none
  publicProfile := ⟨some connection.request.profile.platform,
    some connection.request.profile.category, some connection.request.profile.aiEnvironment⟩

/-! ### Fingerprints -/

/-- A digest of 32 bytes in base64url. -/
structure DocumentDigest where
  text : String
  wellFormed : isDocumentFingerprint text = true
  deriving DecidableEq

/-- What the runtime is given from outside.  The `n`-th call gets the `n`-th answer;
the directory has none where it has no node, and where the call fails. -/
structure ConnectionEnvironment where
  now : Nat → Timestamp
  account : Nat → Option TetiAccount
  getIdentity : Nat → TetiId → Option TetiIdentity
  sha256 : JsString → DocumentDigest
  localeBefore : String → String → Bool
  toLowerCase : String → String

def stateText : RelationshipState → String
  | .requested => "requested"
  | .confirmed => "confirmed"
  | .rejected => "rejected"
  | .blocked => "blocked"
  | .revoked => "revoked"

def directionText : RelationshipDirection → String
  | .outgoing => "outgoing"
  | .incoming => "incoming"

def blockedByJson : Option BlockedBy → Json
  | none => .null
  | some .self => jsonString "self"
  | some .peer => jsonString "peer"

variable (document : RelationshipDocument)

/-- The canonical text of a document. -/
def canonicalDocument : JsString :=
  Json.stringify (.obj
    [("schemaVersion", .num 1), ("id", jsonString document.id),
      ("revision", .num document.revision), ("state", jsonString (stateText document.state)),
      ("peerTetiId", jsonString document.peerTetiId),
      ("requesterTetiId", jsonString document.requesterTetiId),
      ("addresseeTetiId", jsonString document.addresseeTetiId),
      ("direction", jsonString (directionText document.direction)),
      ("blockedBy", blockedByJson document.blockedBy),
      ("createdAt", .str (toISOString document.createdAt)),
      ("updatedAt", .str (toISOString document.updatedAt)),
      ("stateChangedAt", .str (toISOString document.stateChangedAt))])

/-! ### The projection -/

/-- `RuntimeRelationshipProjection`; it is archived exactly when it has no state. -/
structure RuntimeRelationshipProjection where
  state : Option TetiConnectionState
  direction : RelationshipDirection
  deriving DecidableEq

def projectNetworkRelationship : RuntimeRelationshipProjection :=
  match document.state with
  | .requested =>
    ⟨some (if document.direction = .outgoing then .requested else .pendingApproval),
      document.direction⟩
  | .confirmed => ⟨some .confirmed, document.direction⟩
  | .rejected => ⟨some .rejected, document.direction⟩
  | .blocked => ⟨some .blocked, document.direction⟩
  | .revoked => ⟨none, document.direction⟩

/-- `value ? { field: value } : {}`. -/
def truthy (value : Option String) : Option String := value.filter fun s => s != ""

def normalizeRecoveryProfile (profile : IdentityProfile) : TetiPublicProfile where
  platform := profile.platform.getD "unknown"
  category := profile.category.getD []
  aiEnvironment := profile.aiEnvironment.getD []

section

variable (sha256 : JsString → DocumentDigest) (document : RelationshipDocument)

def networkRelationshipDocumentFingerprint : String := (sha256 (canonicalDocument document)).text

/-- `networkRelationship` of the record that projects a document. -/
def networkRelationshipOf : NetworkRelationship where
  id := document.id
  revision := document.revision
  state := document.state
  etag := relationshipEtag document.revision
  blockedBy := document.blockedBy
  stateChangedAt := document.stateChangedAt
  documentFingerprint := some (networkRelationshipDocumentFingerprint sha256 document)

/-- `requestSender` of the projected request. -/
def requestSender (localAccount : TetiAccount) (remoteIdentity : TetiIdentity) : TetiIdentity :=
  if document.direction = .outgoing then
    ⟨localAccount.id, localAccount.address, localAccount.publicKey,
      some localAccount.publicProfile.platform, some localAccount.publicProfile.category,
      some localAccount.publicProfile.aiEnvironment⟩
  else remoteIdentity

def projectNetworkRelationshipRecovery (localAccount : TetiAccount)
    (remoteIdentity : TetiIdentity) (existing : Option TetiConnectionRecord) :
    Option TetiConnectionRecord :=
  let projection := projectNetworkRelationship document
  let sender := requestSender document localAccount remoteIdentity
  match projection.state with
  | none => existing.map fun existing =>
    { existing with
      requestId := document.id
      direction := projection.direction
      remoteTetiId := remoteIdentity.id
      remoteAddress := remoteIdentity.address
      remotePublicKey := truthy remoteIdentity.publicKey <|> existing.remotePublicKey
      updatedAt := document.updatedAt
      networkRelationship := some (networkRelationshipOf sha256 document) }
  | some state => some
    { requestId := document.id
      state := state
      direction := projection.direction
      remoteTetiId := remoteIdentity.id
      remoteAddress := remoteIdentity.address
      remotePublicKey := truthy remoteIdentity.publicKey
      request :=
        { requestId := document.id
          fromTetiId := sender.id
          fromAddress := sender.address
          publicKey := truthy sender.publicKey
          profile := normalizeRecoveryProfile sender.publicProfile
          createdAt := document.createdAt
          nonce := "network:" ++ document.id }
      createdAt := document.createdAt
      updatedAt := document.updatedAt
      acceptedAt := none
      confirmedAt := if document.state = .confirmed then some document.stateChangedAt else none
      rejectedAt := if document.state = .rejected then some document.stateChangedAt else none
      networkRelationship := some (networkRelationshipOf sha256 document) }

end

/-! ### Applying a document -/

/-- How a document stands to what is stored. -/
inductive Standing
  | current (connection : TetiConnectionRecord)
  | divergent
  | advances
  deriving DecidableEq

/-- The comparison with `peerRecovery`, which is the record with the document's id
(`exact`) or, if there is none, the first record of its peer. -/
def standing (incomingFingerprint : String) (exact peerRecovery : Option TetiConnectionRecord) :
    Standing :=
  match peerRecovery.bind fun recovery => recovery.networkRelationship.map (recovery, ·) with
  | none => .advances
  | some (recovery, relationship) =>
    if relationship.revision > document.revision then .current recovery
    else if relationship.revision = document.revision then
      if (truthy relationship.documentFingerprint).any (· != incomingFingerprint) then .divergent
      else match exact with
        | some connection =>
          if relationship.documentFingerprint = some incomingFingerprint
              ∧ (truthy connection.remotePublicKey).isSome then .current connection
          else .advances
        | none => .advances
    else .advances

/-- `inactiveState`, for the states that end a relationship. -/
def inactiveState : RelationshipState → Option TetiConnectionState
  | .blocked => some .blocked
  | .rejected | .revoked => some .rejected
  | .requested | .confirmed => none

/-- What the runtime does in its other tables after a projection. -/
def projectionEffects (wasConfirmed : Bool) (previousKey : Option String)
    (projected : TetiConnectionRecord) : List ConnectionEffect :=
  (if isNetworkRelationshipConfirmed projected && !wasConfirmed then
    [.protocolBootstrapDropped projected.requestId, .heartbeatForced projected.requestId,
      .aiStatusForced projected.requestId, .passportRefreshQueued projected.requestId]
  else if !isNetworkRelationshipConfirmed projected then
    [.remotePassportRemoved projected.requestId projected.remoteTetiId document.state]
  else [])
  ++ if (truthy projected.remotePublicKey).isSome && projected.remotePublicKey != previousKey then
    [.heartbeatForced projected.requestId]
  else []

section

variable (env : ConnectionEnvironment)

/-- Ask the environment. -/
def consult {α : Type} (f : Nat → α) : ConnectionOperation α :=
  lift do
    let answer ← Program.reads fun w => f w.calls
    Program.writes ConnectionWorld.tick
    return answer

def requireAccount : ConnectionOperation TetiAccount := do
  orThrow (← consult env.account) (.other "A local Teti account is required before creating connections.")

variable (document : RelationshipDocument)

/-- The directory's identity or, where it has none, that of the local record. -/
def discoveredIdentity (peerRecovery : Option TetiConnectionRecord) :
    Option TetiIdentity → Except RelationshipError TetiIdentity
  | some discovered => toTetiIdentity discovered
  | none =>
    match peerRecovery with
    | some connection => .ok (identityFromRecovery connection)
    | none => .error (.other ("Network Relationship peer " ++ document.peerTetiId
        ++ " has no resolvable delivery identity."))

variable (knownRemote : Option TetiIdentity)

/-- The delivery identity of the peer: the one the caller knows, the cached one, or
the discovered one. -/
def resolveDeliveryIdentity
    (peerRecovery : Option TetiConnectionRecord) : ConnectionOperation TetiIdentity := do
  let cached ← lift (Program.reads fun w => w.identityCache.lookup document.peerTetiId)
  match knownRemote <|> cached with
  | some remote => pure remote
  | none => do
    let discovered ← consult fun n => env.getIdentity n document.peerTetiId
    fromExcept (discoveredIdentity document peerRecovery discovered)

/-- The records of the peer that project no relationship end with it. -/
def endLegacyConnections (loaded : TetiConnectionStore) : ConnectionOperation Unit :=
  match inactiveState document.state with
  | none => return ()
  | some state =>
    if loaded.connections.map (inactivate document state) ≠ loaded.connections then
      saveAll (.inactivate document state) loaded
    else return ()

/-- A document that is newer than what is stored is projected. -/
def advance (account : TetiAccount)
    (loaded : TetiConnectionStore) (exact peerRecovery : Option TetiConnectionRecord) :
    ConnectionOperation TetiConnectionRecord := do
  let remote ← resolveDeliveryIdentity env document knownRemote peerRecovery
  let now ← consult env.now
  lift (Program.writes (ConnectionWorld.cache remote now))
  endLegacyConnections document loaded
  let projected ← orThrow
    (projectNetworkRelationshipRecovery env.sha256 document account remote peerRecovery)
    (.other ("Network Relationship " ++ document.id ++ " could not be archived locally."))
  upsert projected
  lift (Program.writes (ConnectionWorld.note (projectionEffects document
    (exact.any isNetworkRelationshipConfirmed) (peerRecovery.bind (·.remotePublicKey)) projected)))
  return projected

/-- The record that a document is compared with. -/
def findRecovery (connections : List TetiConnectionRecord) : Option TetiConnectionRecord :=
  findConnection document.id connections <|>
    connections.find? fun connection => connection.remoteTetiId == document.peerTetiId

def applyNetworkRelationship : ConnectionOperation TetiConnectionRecord := do
  let account ← requireAccount env
  let loaded ← loadAll
  let exact := findConnection document.id loaded.connections
  let peerRecovery := findRecovery document loaded.connections
  match standing document (networkRelationshipDocumentFingerprint env.sha256 document) exact
      peerRecovery with
  | .current connection => pure connection
  | .divergent => raise (relationshipConflict .relationshipReconciliationChanges
      "Teti Network returned divergent Relationship content at the same revision.")
  | .advances => advance env document knownRemote account loaded exact peerRecovery

end

end TetiBot.Connections

import TetiBot.Relationships.Types

/-
Connections with peers, as the local store keeps them (`core/connection/types.ts`,
`core/connection/protocol.ts`, `core/connection/storage.ts`).

* `TetiConnectionRecord`: a connection, with the relationship of the Teti Network
  that it projects.  Times are milliseconds since the epoch (the ISO strings of the
  source); fields that are not read by the operations modelled here are left out.
* `validateConnectionRecord`: what the store checks of a record, and
  `validateConnectionRecord_eq_ok`, what a record that passed satisfies.
* `TetiConnectionStore`: a list of records that passed; no other list can be read
  from the file or written to it.
-/

namespace TetiBot.Connections

open Library

/-! ### Records -/

inductive TetiConnectionState
  | requested | pendingApproval | accepted | confirmed | rejected | blocked
  deriving DecidableEq

structure TetiPublicProfile where
  platform : String
  category : List String
  aiEnvironment : List String
  deriving DecidableEq

structure TetiConnectionRequest where
  requestId : String
  fromTetiId : TetiId
  fromAddress : String
  publicKey : Option String
  profile : TetiPublicProfile
  createdAt : Timestamp
  nonce : String
  deriving DecidableEq

/-- `networkRelationship` of a record. -/
structure NetworkRelationship where
  id : String
  revision : Nat
  state : RelationshipState
  etag : String
  blockedBy : Option BlockedBy
  stateChangedAt : Timestamp
  documentFingerprint : Option String
  deriving DecidableEq

structure TetiConnectionRecord where
  requestId : String
  state : TetiConnectionState
  direction : RelationshipDirection
  remoteTetiId : TetiId
  remoteAddress : String
  remotePublicKey : Option String
  request : TetiConnectionRequest
  createdAt : Timestamp
  updatedAt : Timestamp
  acceptedAt : Option Timestamp
  rejectedAt : Option Timestamp
  confirmedAt : Option Timestamp
  networkRelationship : Option NetworkRelationship
  deriving DecidableEq

section

variable (connection : TetiConnectionRecord)

def isTetiConnectionArchived : Bool :=
  connection.networkRelationship.any fun relationship => relationship.state == .revoked

def isTetiConnectionConfirmed : Bool :=
  connection.state == .confirmed && !isTetiConnectionArchived connection

def isNetworkRelationshipConfirmed : Bool :=
  isTetiConnectionConfirmed connection
    && connection.networkRelationship.any fun relationship => relationship.state == .confirmed

/-- The revision of the relationship that a record projects; 0 if it has none. -/
def relationshipRevision : Nat :=
  (connection.networkRelationship.map NetworkRelationship.revision).getD 0

end

/-! ### Validation -/

/-- `!value.trim()`. -/
def isBlankText (s : String) : Bool := (JsString.ofString s).isBlank

/-- `/^[A-Za-z0-9_-]{43}$/`. -/
def isDocumentFingerprint (s : String) : Bool :=
  s.toList.length == 43 && s.toList.all isBase64Url

/-- Throw unless a check passed. -/
def requireThat (passed : Bool) (message : String) : Except RelationshipError Unit :=
  if passed then .ok () else .error (.other message)

def requireNonEmptyString (value fieldName : String) : Except RelationshipError Unit :=
  requireThat (!isBlankText value) ("Connection request " ++ fieldName ++ " is required.")

def requireCanonicalPublicId (value fieldName : String) : Except RelationshipError Unit :=
  requireThat (isCanonicalTetiPublicId value)
    (fieldName ++ " must match teti_ followed by exactly 9 ASCII lowercase letters or numbers.")

/-- `validateConnectionRequest`; a time is not empty. -/
def validateConnectionRequest (request : TetiConnectionRequest) :
    Except RelationshipError Unit := do
  requireNonEmptyString request.requestId "requestId"
  requireCanonicalPublicId request.fromTetiId "fromTetiId"
  requireNonEmptyString request.fromAddress "fromAddress"
  requireNonEmptyString request.nonce "nonce"

/-- What the store checks of a relationship under a connection. -/
def validNetworkRelationship (requestId : String) (relationship : NetworkRelationship) : Bool :=
  isRelationshipId relationship.id && relationship.id == requestId
    && decide (1 ≤ relationship.revision ∧ relationship.revision ≤ MAX_SAFE_REVISION)
    && relationship.etag == relationshipEtag relationship.revision
    && (relationship.state == .blocked) == relationship.blockedBy.isSome
    && relationship.documentFingerprint.all isDocumentFingerprint

def validateConnectionRecord (connection : TetiConnectionRecord) :
    Except RelationshipError Unit := do
  validateConnectionRequest connection.request
  requireThat (connection.requestId != "" && connection.remoteTetiId != ""
      && connection.remoteAddress != "")
    "Teti connection record is missing required identity fields."
  requireThat (connection.remotePublicKey.all fun key => !isBlankText key)
    "Teti connection remote public key must be a non-empty string."
  requireThat (connection.networkRelationship.all (validNetworkRelationship connection.requestId))
    "Teti Network Relationship recovery metadata is invalid."

lemma requireThat_eq_ok {passed : Bool} {message : String} :
    requireThat passed message = .ok () ↔ passed = true := by
  cases passed <;> simp [requireThat]

lemma requireThat_then_eq_ok {passed : Bool} {message : String}
    {rest : Unit → Except RelationshipError Unit} :
    (requireThat passed message >>= rest) = .ok () ↔ passed = true ∧ rest () = .ok () := by
  cases passed
  · simp [requireThat, bind, Except.bind]
  · simp [requireThat, bind, Except.bind]

lemma validateConnectionRequest_eq_ok {request : TetiConnectionRequest} :
    validateConnectionRequest request = .ok () ↔
      isBlankText request.requestId = false ∧ isCanonicalTetiPublicId request.fromTetiId = true
        ∧ isBlankText request.fromAddress = false ∧ isBlankText request.nonce = false := by
  simp only [validateConnectionRequest, requireNonEmptyString, requireCanonicalPublicId,
    requireThat_then_eq_ok, requireThat_eq_ok, Bool.not_eq_true']

lemma validateConnectionRecord_eq_ok {connection : TetiConnectionRecord} :
    validateConnectionRecord connection = .ok () ↔
      validateConnectionRequest connection.request = .ok ()
        ∧ (connection.requestId ≠ "" ∧ connection.remoteTetiId ≠ ""
          ∧ connection.remoteAddress ≠ "")
        ∧ (∀ key ∈ connection.remotePublicKey, isBlankText key = false)
        ∧ ∀ relationship ∈ connection.networkRelationship,
          validNetworkRelationship connection.requestId relationship = true := by
  have hrequest : ∀ rest : Unit → Except RelationshipError Unit,
      (validateConnectionRequest connection.request >>= rest) = .ok ()
        ↔ validateConnectionRequest connection.request = .ok () ∧ rest () = .ok () := by
    intro rest
    cases validateConnectionRequest connection.request with
    | error e => simp [bind, Except.bind]
    | ok a => simp [bind, Except.bind]
  rw [validateConnectionRecord, hrequest, requireThat_then_eq_ok, requireThat_then_eq_ok,
    requireThat_eq_ok]
  simp only [Bool.and_eq_true, bne_iff_ne, ne_eq, Option.all_eq_true, Bool.not_eq_true',
    and_assoc, Option.mem_def]

/-! ### The store -/

/-- `TetiConnectionStore`: what `validateConnectionStore` lets pass. -/
structure TetiConnectionStore where
  connections : List TetiConnectionRecord
  valid : ∀ connection ∈ connections, validateConnectionRecord connection = .ok ()
  deriving DecidableEq

/-- The loop of `validateConnectionStore`. -/
def validateConnections : List TetiConnectionRecord → Except RelationshipError Unit
  | [] => .ok ()
  | connection :: connections => do
    validateConnectionRecord connection
    validateConnections connections

variable {connections : List TetiConnectionRecord}

lemma validateConnections_eq_ok :
    validateConnections connections = .ok ()
      ↔ ∀ connection ∈ connections, validateConnectionRecord connection = .ok () := by
  induction connections with
  | nil => simp [validateConnections]
  | cons connection connections ih =>
    rw [validateConnections, List.forall_mem_cons, ← ih]
    cases validateConnectionRecord connection with
    | error e => simp [bind, Except.bind]
    | ok a => simp [bind, Except.bind]

def validateConnectionStore (connections : List TetiConnectionRecord) :
    Except RelationshipError TetiConnectionStore :=
  match h : validateConnections connections with
  | .ok () => .ok ⟨connections, validateConnections_eq_ok.mp h⟩
  | .error e => .error e

lemma validateConnectionStore_of_valid
    (h : ∀ connection ∈ connections, validateConnectionRecord connection = .ok ()) :
    validateConnectionStore connections = .ok ⟨connections, h⟩ := by
  unfold validateConnectionStore
  split
  · rfl
  · next e herror => simp [validateConnections_eq_ok.mpr h] at herror

/-- The store that was made of a list holds that list. -/
lemma connections_of_validateConnectionStore {store : TetiConnectionStore}
    (h : validateConnectionStore connections = .ok store) : store.connections = connections := by
  unfold validateConnectionStore at h
  split at h
  · rw [← Except.ok.inj h]
  · simp at h

end TetiBot.Connections

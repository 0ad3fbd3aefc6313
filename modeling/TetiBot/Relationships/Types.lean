import TetiBot.Core.Types
import TetiBot.Library.JsonText

/-
Relationships of the Teti Network: documents, errors and stored commands
(`services/network/types.ts`, `errors.ts`, `relationship-command-store.ts`).

* `RelationshipDocument`: a document that the client has parsed; what
  `parseRelationshipDocument` checks is a field.
* `NetworkClientError`, `Exchange`: the errors of the client, and how a signed
  HTTP exchange can end.
* `PendingRelationshipCommand`, `validateRelationshipCommandRecord`: the command
  that a store keeps while its outcome is not known, and the validator that
  guards the store in both directions.
* `validate_encode`: the validator accepts what is written of a valid command,
  and reads the same command back.
-/

namespace TetiBot

open Library Library.JsString

/-! ### Identifiers -/

def MAX_SAFE_REVISION : Nat := 2 ^ 53 - 1

def isBase64Url (c : Char) : Bool := isAsciiAlphanumeric c || c == '_' || c == '-'

/-- `/^rel_[A-Za-z0-9_-]{21}[AQgw]$/`. -/
def isRelationshipId (s : String) : Bool :=
  match s.toList with
  | 'r' :: 'e' :: 'l' :: '_' :: rest =>
    rest.length == 22 && (rest.take 21).all isBase64Url
      && (rest.drop 21).all fun c => c == 'A' || c == 'Q' || c == 'g' || c == 'w'
  | _ => false

/-- `/^[A-Za-z0-9._:-]{16,128}$/`. -/
def isIdempotencyKey (s : String) : Bool :=
  16 ≤ s.toList.length && s.toList.length ≤ 128
    && s.toList.all fun c => isAsciiAlphanumeric c || c == '.' || c == '_' || c == ':' || c == '-'

/-- `"relationship-r<revision>"`, with its quotation marks. -/
def relationshipEtag (revision : Nat) : String := "\"relationship-r" ++ toString revision ++ "\""

/-! ### Documents -/

inductive RelationshipState
  | requested | confirmed | rejected | blocked | revoked
  deriving DecidableEq

inductive RelationshipDirection
  | outgoing | incoming
  deriving DecidableEq

inductive BlockedBy
  | self | peer
  deriving DecidableEq

/-- What `parseRelationshipDocument` checks of a document. -/
def wellFormedRelationship (id : String) (revision : Nat) (state : RelationshipState)
    (members : List TetiId) (blockedBy : Option BlockedBy)
    (createdAt updatedAt stateChangedAt : Timestamp) : Bool :=
  isRelationshipId id && decide (1 ≤ revision ∧ revision ≤ MAX_SAFE_REVISION)
    && members.all isCanonicalTetiPublicId
    && (state == .blocked) == blockedBy.isSome
    && decide (createdAt ≤ updatedAt ∧ createdAt ≤ stateChangedAt ∧ stateChangedAt ≤ updatedAt)

/-- `TetiNetworkRelationshipDocument`, as the client has parsed it. -/
structure RelationshipDocument where
  id : String
  revision : Nat
  state : RelationshipState
  peerTetiId : TetiId
  requesterTetiId : TetiId
  addresseeTetiId : TetiId
  direction : RelationshipDirection
  blockedBy : Option BlockedBy
  createdAt : Timestamp
  updatedAt : Timestamp
  stateChangedAt : Timestamp
  wellFormed : wellFormedRelationship id revision state
    [peerTetiId, requesterTetiId, addresseeTetiId] blockedBy createdAt updatedAt stateChangedAt
      = true
  membersDiffer : requesterTetiId ≠ addresseeTetiId
  deriving DecidableEq

namespace RelationshipDocument

lemma id_valid (document : RelationshipDocument) : isRelationshipId document.id = true := by
  have h := document.wellFormed
  simp only [wellFormedRelationship, Bool.and_eq_true] at h
  exact h.1.1.1.1

end RelationshipDocument

/-- `TetiNetworkRelationshipResult`; the client has checked that the entity tag is
that of the revision. -/
structure RelationshipResult where
  document : RelationshipDocument
  deriving DecidableEq

/-- `TetiNetworkRelationshipSnapshotPage`. -/
structure RelationshipSnapshotPage where
  items : List RelationshipDocument
  baseCheckpoint : String
  nextCursor : Option String
  deriving DecidableEq

/-- `TetiNetworkRelationshipChange`. -/
structure RelationshipChange where
  checkpoint : String
  relationship : RelationshipDocument
  deriving DecidableEq

/-- `TetiNetworkRelationshipChangesPage`. -/
structure RelationshipChangesPage where
  items : List RelationshipChange
  checkpoint : String
  hasMore : Bool
  deriving DecidableEq

/-! ### Errors -/

inductive NetworkErrorCode
  | networkUnavailable | networkTimeout | networkUnauthorized | networkClientRevoked
  | networkConflict | networkInvalidResponse | networkRequestInvalid | networkRequestRejected
  | requestReplayed | idempotencyConflict | presenceSequenceStale | profileRevisionConflict
  | relationshipTransitionInvalid | relationshipBlocked | relationshipRevisionConflict
  | relayNotFound | relayUnavailable | relayBindingNotFound | relayBindingConflict
  | mailboxAlreadyBound | relayBindingTransitionInvalid | relayBindingRevisionConflict
  | relayBindingAdoptionDenied | identityNotFound | identityAlreadyExists
  | relationshipNotFound | inviteExpired | inviteUsed | rateLimited | serverUnavailable
  | protocolUnsupported
  deriving DecidableEq

inductive NetworkOperation
  | bootstrap
  | relationshipGet | relationshipGetByPeer
  | relationshipReconciliationSnapshot | relationshipReconciliationChanges
  | relationshipRequest | relationshipAccept | relationshipReject | relationshipBlock
  | relationshipRevoke
  deriving DecidableEq

/-- `TetiNetworkClientError`. -/
structure NetworkClientError where
  code : NetworkErrorCode
  operation : NetworkOperation
  message : String
  retryable : Bool
  deriving DecidableEq

/-- What the operations throw: an error of the client, or one of the disk. -/
inductive RelationshipError
  | network (error : NetworkClientError)
  | other (message : String)
  deriving DecidableEq

/-- `error instanceof TetiNetworkClientError && !error.retryable`. -/
def RelationshipError.isTerminal : RelationshipError → Bool
  | .network error => !error.retryable
  | .other _ => false

/-- `error instanceof TetiNetworkClientError && error.code === code`. -/
def RelationshipError.hasCode (code : NetworkErrorCode) : RelationshipError → Bool
  | .network error => error.code == code
  | .other _ => false

def invalidRequest (operation : NetworkOperation) (message : String) : RelationshipError :=
  .network ⟨.networkRequestInvalid, operation, message, false⟩

def relationshipConflict (operation : NetworkOperation) (message : String) : RelationshipError :=
  .network ⟨.networkConflict, operation, message, false⟩

/-- How an HTTP exchange ends: a response that the client can parse, an error
envelope of the server, a response that the client cannot read, or none: after the
timeout, because the network failed, or because the caller's signal aborted. -/
inductive Exchange (α : Type)
  | answered (value : α)
  | refused (code : NetworkErrorCode) (message : String) (retryable : Bool)
  | unreadable (message : String)
  | timedOut
  | unreachable
  | cancelled
  deriving DecidableEq

namespace Exchange

variable {α : Type}

/-- What the client makes of an exchange (`fetchResponse`, `errorFromResponse`,
`invalidResponse`). -/
def result (operation : NetworkOperation) : Exchange α → Except RelationshipError α
  | answered value => .ok value
  | refused code message retryable => .error (.network ⟨code, operation, message, retryable⟩)
  | unreadable message => .error (.network ⟨.networkInvalidResponse, operation, message, true⟩)
  | timedOut => .error (.network ⟨.networkTimeout, operation, "Teti Network request timed out.", true⟩)
  | unreachable =>
    .error (.network
      ⟨.networkUnavailable, operation, "Teti Network is temporarily unavailable.", true⟩)
  | cancelled =>
    .error (.network ⟨.networkUnavailable, operation, "Teti Network request was cancelled.", false⟩)

/-- The server has answered, and it will not take the request any more. -/
def definitive : Exchange α → Bool
  | answered _ => true
  | refused _ _ retryable => !retryable
  | _ => false

def isCancelled : Exchange α → Bool
  | cancelled => true
  | _ => false

/-- An exchange that is not definitive and was not cancelled is an error that the
client calls retryable. -/
lemma result_of_not_definitive {exchange : Exchange α} {operation : NetworkOperation}
    (h : exchange.definitive = false) (hc : exchange.isCancelled = false) :
    ∃ error, exchange.result operation = .error error ∧ error.isTerminal = false := by
  cases exchange with
  | answered value => simp [definitive] at h
  | refused code message retryable =>
    refine ⟨_, rfl, ?_⟩
    simpa [definitive, RelationshipError.isTerminal] using h
  | unreadable message => exact ⟨_, rfl, rfl⟩
  | timedOut => exact ⟨_, rfl, rfl⟩
  | unreachable => exact ⟨_, rfl, rfl⟩
  | cancelled => simp [isCancelled] at hc

lemma result_eq_ok {exchange : Exchange α} {operation : NetworkOperation} {value : α}
    (h : exchange.result operation = .ok value) : exchange = .answered value := by
  cases exchange with
  | answered other => rw [Except.ok.inj h]
  | refused code message retryable => cases h
  | unreadable message => cases h
  | timedOut => cases h
  | unreachable => cases h
  | cancelled => cases h

end Exchange

/-! ### Stored commands -/

/-- `TetiNetworkRelationshipCommand`. -/
inductive RelationshipCommand
  | accept | reject | block | revoke
  deriving DecidableEq

/-- What a command is about: a request to a peer, or a command on a relationship. -/
inductive RelationshipTarget
  | request (peerTetiId : TetiId)
  | command (operation : RelationshipCommand) (relationshipId : String)
  deriving DecidableEq

def RelationshipCommand.name : RelationshipCommand → String
  | accept => "accept"
  | reject => "reject"
  | block => "block"
  | revoke => "revoke"

namespace RelationshipTarget

def operation : RelationshipTarget → String
  | request _ => "request"
  | command operation _ => operation.name

def peerTetiId : RelationshipTarget → Option TetiId
  | request peerTetiId => some peerTetiId
  | command _ _ => none

def networkOperation : RelationshipTarget → NetworkOperation
  | request _ => .relationshipRequest
  | command .accept _ => .relationshipAccept
  | command .reject _ => .relationshipReject
  | command .block _ => .relationshipBlock
  | command .revoke _ => .relationshipRevoke

/-- The peer or the relationship of a target is well formed. -/
def valid : RelationshipTarget → Bool
  | request peerTetiId => isCanonicalTetiPublicId peerTetiId
  | command _ relationshipId => isRelationshipId relationshipId

end RelationshipTarget

/-- `TetiNetworkPendingRelationshipCommand`. -/
structure PendingRelationshipCommand where
  tetiId : TetiId
  target : RelationshipTarget
  expectedRevision : Nat
  ifMatch : String
  idempotencyKey : String
  rawBody : JsString
  deriving DecidableEq

/-- `TetiNetworkRelationshipCommandRecord`. -/
structure RelationshipCommandRecord where
  pending : Option PendingRelationshipCommand
  deriving DecidableEq

def emptyCommandRecord : RelationshipCommandRecord := ⟨none⟩

/-- A JSON string. -/
def jsonText (s : String) : Json := .str (ofString s)

/-- The fields of a target. -/
def RelationshipTarget.fields : RelationshipTarget → List (String × Json)
  | request peerTetiId =>
    [("operation", jsonText "request"), ("peerTetiId", jsonText peerTetiId)]
  | command operation relationshipId =>
    [("operation", jsonText operation.name), ("relationshipId", jsonText relationshipId)]

variable (pending : PendingRelationshipCommand)

def PendingRelationshipCommand.fields : List (String × Json) :=
  ("tetiId", jsonText pending.tetiId) :: pending.target.fields
    ++ [("expectedRevision", .num pending.expectedRevision),
      ("ifMatch", jsonText pending.ifMatch),
      ("idempotencyKey", jsonText pending.idempotencyKey),
      ("rawBody", .str pending.rawBody)]

/-- The record as data, which is what its file holds. -/
def RelationshipCommandRecord.encode (record : RelationshipCommandRecord) : Json :=
  .obj (("schemaVersion", .num 1) :: match record.pending with
    | none => []
    | some pending => [("pending", .obj pending.fields)])

/-! ### The validator -/

/-- `isRecord`. -/
def recordFields? : Json → Option (List (String × Json))
  | .obj fields => some fields
  | _ => none

/-- A field that is a string. -/
def stringField (fields : List (String × Json)) (name : String) : Option JsString :=
  match Json.lookup fields name with
  | some (.str s) => some s
  | _ => none

/-- A field that is a string of characters. -/
def textField (fields : List (String × Json)) (name : String) : Option String :=
  (stringField fields name).bind toString?

/-- A field that is a natural number. -/
def numberField (fields : List (String × Json)) (name : String) : Option Nat :=
  match Json.lookup fields name with
  | some (.num n) => some n
  | _ => none

def hasField (fields : List (String × Json)) (name : String) : Bool :=
  (Json.lookup fields name).isSome

def recordInvalid : RelationshipError :=
  .other "Teti Network Relationship command record is invalid."

def pendingInvalid : RelationshipError :=
  .other "Teti Network pending Relationship command is invalid."

def targetInvalid : RelationshipError :=
  .other "Teti Network pending Relationship target is invalid."

def bodyInvalid : RelationshipError :=
  .other "Teti Network pending Relationship body is invalid."

def rejectIf (c : Prop) [Decidable c] (e : RelationshipError) : Except RelationshipError Unit :=
  if c then .error e else .ok ()

def requireSome {α : Type} (o : Option α) (e : RelationshipError) : Except RelationshipError α :=
  match o with
  | some a => .ok a
  | none => .error e

/-- `isOperation`: nothing for a request, or the command. -/
def operationOf (name : String) : Option (Option RelationshipCommand) :=
  if name = "request" then some none
  else if name = "accept" then some (some .accept)
  else if name = "reject" then some (some .reject)
  else if name = "block" then some (some .block)
  else if name = "revoke" then some (some .revoke)
  else none

def pendingFieldNames : List String :=
  ["tetiId", "operation", "peerTetiId", "relationshipId", "expectedRevision", "ifMatch",
    "idempotencyKey", "rawBody"]

/-- The target of a stored command (`requestTarget`, `existingTarget`). -/
def validateTarget (fields : List (String × Json)) (operation : Option RelationshipCommand) :
    Except RelationshipError RelationshipTarget :=
  match operation with
  | none => do
    let peerTetiId ← requireSome (textField fields "peerTetiId") targetInvalid
    rejectIf (!isCanonicalTetiPublicId peerTetiId || hasField fields "relationshipId") targetInvalid
    return .request peerTetiId
  | some command => do
    let relationshipId ← requireSome (textField fields "relationshipId") targetInvalid
    rejectIf (!isRelationshipId relationshipId || hasField fields "peerTetiId") targetInvalid
    return .command command relationshipId

/-- The body of a stored command repeats its revision, and its peer if it is a
request. -/
def bodyMatches (target : RelationshipTarget) (expectedRevision : Nat) (rawBody : JsString) :
    Bool :=
  match (Json.parse rawBody).bind recordFields? with
  | none => false
  | some body =>
    numberField body "schemaVersion" == some 1
      && numberField body "expectedRevision" == some expectedRevision
      && match target with
        | .request peerTetiId => textField body "peerTetiId" == some peerTetiId
        | .command _ _ => !hasField body "peerTetiId"

def validatePendingCommand (pending : Json) :
    Except RelationshipError PendingRelationshipCommand := do
  let fields ← requireSome (recordFields? pending) pendingInvalid
  rejectIf (fields.any (fun field => !pendingFieldNames.contains field.1) = true) pendingInvalid
  let tetiId ← requireSome (textField fields "tetiId") pendingInvalid
  let name ← requireSome (textField fields "operation") pendingInvalid
  let operation ← requireSome (operationOf name) pendingInvalid
  let expectedRevision ← requireSome (numberField fields "expectedRevision") pendingInvalid
  let ifMatch ← requireSome (textField fields "ifMatch") pendingInvalid
  let idempotencyKey ← requireSome (textField fields "idempotencyKey") pendingInvalid
  let rawBody ← requireSome (stringField fields "rawBody") pendingInvalid
  rejectIf (isCanonicalTetiPublicId tetiId = false ∨ MAX_SAFE_REVISION < expectedRevision
      ∨ ifMatch ≠ relationshipEtag expectedRevision ∨ isIdempotencyKey idempotencyKey = false
      ∨ 16384 < utf8Size rawBody)
    pendingInvalid
  let target ← validateTarget fields operation
  rejectIf (bodyMatches target expectedRevision rawBody = false) bodyInvalid
  return ⟨tetiId, target, expectedRevision, ifMatch, idempotencyKey, rawBody⟩

def validateRelationshipCommandRecord (value : Json) :
    Except RelationshipError RelationshipCommandRecord := do
  let fields ← requireSome (recordFields? value) recordInvalid
  rejectIf (numberField fields "schemaVersion" ≠ some 1
      ∨ fields.any (fun field => !(["schemaVersion", "pending"].contains field.1)) = true)
    recordInvalid
  match Json.lookup fields "pending" with
  | none => return ⟨none⟩
  | some pending => return ⟨some (← validatePendingCommand pending)⟩

/-! ### What the validator accepts of what is written -/

/-- A command that the validator accepts. -/
structure PendingRelationshipCommand.Valid (pending : PendingRelationshipCommand) : Prop where
  tetiId : isCanonicalTetiPublicId pending.tetiId = true
  target : pending.target.valid = true
  revision : pending.expectedRevision ≤ MAX_SAFE_REVISION
  ifMatch : pending.ifMatch = relationshipEtag pending.expectedRevision
  idempotencyKey : isIdempotencyKey pending.idempotencyKey = true
  size : utf8Size pending.rawBody ≤ 16384
  body : bodyMatches pending.target pending.expectedRevision pending.rawBody = true

def RelationshipCommandRecord.Valid (record : RelationshipCommandRecord) : Prop :=
  ∀ pending ∈ record.pending, pending.Valid

lemma requireSome_some {α : Type} (a : α) (e : RelationshipError) :
    requireSome (some a) e = .ok a := rfl

lemma operationOf_name (target : RelationshipTarget) :
    operationOf target.operation = some (match target with
      | .request _ => none
      | .command operation _ => some operation) := by
  cases target with
  | request peerTetiId => rfl
  | command operation relationshipId => cases operation <;> rfl

/-- The target is read back from the fields of a command. -/
lemma validateTarget_fields : validateTarget pending.fields (match pending.target with
      | .request _ => none
      | .command operation _ => some operation)
      = if pending.target.valid = true then .ok pending.target else .error targetInvalid := by
  obtain ⟨tetiId, target, expectedRevision, ifMatch, idempotencyKey, rawBody⟩ := pending
  cases target with
  | request peerTetiId =>
    let fields := (PendingRelationshipCommand.mk tetiId (.request peerTetiId) expectedRevision ifMatch
      idempotencyKey rawBody).fields
    have hpeer : textField fields "peerTetiId" = some peerTetiId := by
      simp [fields, PendingRelationshipCommand.fields, RelationshipTarget.fields, textField,
        stringField, Json.lookup_cons, jsonText, toString?_ofString]
    have hother : hasField fields "relationshipId" = false := by
      simp [fields, PendingRelationshipCommand.fields, RelationshipTarget.fields, hasField,
        Json.lookup_cons, Json.lookup_nil]
    change validateTarget fields none = _
    rw [validateTarget, hpeer, hother]
    cases hvalid : isCanonicalTetiPublicId peerTetiId <;>
      simp only [requireSome_some, except_ok_bind, rejectIf, RelationshipTarget.valid, hvalid] <;>
      rfl
  | command operation relationshipId =>
    let fields := (PendingRelationshipCommand.mk tetiId (.command operation relationshipId)
      expectedRevision ifMatch idempotencyKey rawBody).fields
    have hid : textField fields "relationshipId" = some relationshipId := by
      simp [fields, PendingRelationshipCommand.fields, RelationshipTarget.fields, textField,
        stringField, Json.lookup_cons, jsonText, toString?_ofString]
    have hother : hasField fields "peerTetiId" = false := by
      simp [fields, PendingRelationshipCommand.fields, RelationshipTarget.fields, hasField,
        Json.lookup_cons, Json.lookup_nil]
    change validateTarget fields (some operation) = _
    rw [validateTarget, hid, hother]
    cases hvalid : isRelationshipId relationshipId <;>
      simp only [requireSome_some, except_ok_bind, rejectIf, RelationshipTarget.valid, hvalid] <;>
      rfl

/-- Of the fields of a command the validator reads the command, and checks it. -/
lemma validatePendingCommand_fields : validatePendingCommand (.obj pending.fields) = (do
      rejectIf (isCanonicalTetiPublicId pending.tetiId = false
          ∨ MAX_SAFE_REVISION < pending.expectedRevision
          ∨ pending.ifMatch ≠ relationshipEtag pending.expectedRevision
          ∨ isIdempotencyKey pending.idempotencyKey = false
          ∨ 16384 < utf8Size pending.rawBody)
        pendingInvalid
      rejectIf (pending.target.valid = false) targetInvalid
      rejectIf (bodyMatches pending.target pending.expectedRevision pending.rawBody = false)
        bodyInvalid
      return pending) := by
  have htarget := validateTarget_fields pending
  have hname := operationOf_name pending.target
  have hallowed : pending.fields.any (fun field => !pendingFieldNames.contains field.1) = false := by
    obtain ⟨tetiId, target, expectedRevision, ifMatch, idempotencyKey, rawBody⟩ := pending
    cases target <;>
      simp [PendingRelationshipCommand.fields, RelationshipTarget.fields, pendingFieldNames]
  have hoperation : textField pending.fields "operation" = some pending.target.operation := by
    obtain ⟨tetiId, target, expectedRevision, ifMatch, idempotencyKey, rawBody⟩ := pending
    cases target <;>
      simp [PendingRelationshipCommand.fields, RelationshipTarget.fields, textField, stringField,
        Json.lookup_cons, jsonText, toString?_ofString, RelationshipTarget.operation]
  have hfields : textField pending.fields "tetiId" = some pending.tetiId
      ∧ numberField pending.fields "expectedRevision" = some pending.expectedRevision
      ∧ textField pending.fields "ifMatch" = some pending.ifMatch
      ∧ textField pending.fields "idempotencyKey" = some pending.idempotencyKey
      ∧ stringField pending.fields "rawBody" = some pending.rawBody := by
    obtain ⟨tetiId, target, expectedRevision, ifMatch, idempotencyKey, rawBody⟩ := pending
    cases target <;>
      simp [PendingRelationshipCommand.fields, RelationshipTarget.fields, textField, stringField,
        numberField, Json.lookup_cons, jsonText, toString?_ofString]
  obtain ⟨htetiId, hrevision, hifMatch, hkey, hbody⟩ := hfields
  unfold validatePendingCommand
  simp only [recordFields?, requireSome_some, except_ok_bind, hallowed, htetiId, hoperation, hname,
    hrevision, hifMatch, hkey, hbody, htarget]
  cases hvalid : pending.target.valid <;> rfl

/-- **What the validator accepts of the data of a record is the record itself**,
and it accepts the valid ones. -/
theorem validate_encode (record result : RelationshipCommandRecord) :
    validateRelationshipCommandRecord record.encode = .ok result
      ↔ record.Valid ∧ result = record := by
  obtain ⟨pending⟩ := record
  cases pending with
  | none =>
    have hrun : validateRelationshipCommandRecord (RelationshipCommandRecord.encode ⟨none⟩)
        = .ok ⟨none⟩ := rfl
    rw [hrun]
    have hvalid : RelationshipCommandRecord.Valid ⟨none⟩ := by
      intro pending hmem
      simp at hmem
    constructor
    · intro h
      exact ⟨hvalid, (Except.ok.inj h).symm⟩
    · rintro ⟨-, rfl⟩
      rfl
  | some pending =>
    have hrun : validateRelationshipCommandRecord (RelationshipCommandRecord.encode ⟨some pending⟩)
        = (validatePendingCommand (.obj pending.fields)).map fun p => ⟨some p⟩ := by
      have hversion : numberField [("schemaVersion", .num 1), ("pending", .obj pending.fields)]
          "schemaVersion" = some 1 := by simp [numberField, Json.lookup_cons]
      have hpending : Json.lookup [("schemaVersion", .num 1), ("pending", .obj pending.fields)]
          "pending" = some (.obj pending.fields) := by simp [Json.lookup_cons]
      simp only [validateRelationshipCommandRecord, RelationshipCommandRecord.encode,
        recordFields?, requireSome_some, except_ok_bind, hversion, hpending]
      cases validatePendingCommand (.obj pending.fields) <;> simp [rejectIf] <;> rfl
    rw [hrun, validatePendingCommand_fields]
    simp only [RelationshipCommandRecord.Valid, Option.mem_def, Option.some.injEq, forall_eq']
    unfold rejectIf
    by_cases hbase : isCanonicalTetiPublicId pending.tetiId = false
        ∨ MAX_SAFE_REVISION < pending.expectedRevision
        ∨ pending.ifMatch ≠ relationshipEtag pending.expectedRevision
        ∨ isIdempotencyKey pending.idempotencyKey = false ∨ 16384 < utf8Size pending.rawBody
    · rw [if_pos hbase]
      constructor
      · intro h
        cases h
      · rintro ⟨hvalid, -⟩
        rcases hbase with h | h | h | h | h
        · exact absurd hvalid.tetiId (by simp [h])
        · exact absurd hvalid.revision (by omega)
        · exact absurd hvalid.ifMatch h
        · exact absurd hvalid.idempotencyKey (by simp [h])
        · exact absurd hvalid.size (by omega)
    rw [if_neg hbase, except_ok_bind]
    by_cases htarget : pending.target.valid = false
    · rw [if_pos htarget]
      constructor
      · intro h
        cases h
      · rintro ⟨hvalid, -⟩
        exact absurd hvalid.target (by simp [htarget])
    rw [if_neg htarget, except_ok_bind]
    by_cases hbody : bodyMatches pending.target pending.expectedRevision pending.rawBody = false
    · rw [if_pos hbody]
      constructor
      · intro h
        cases h
      · rintro ⟨hvalid, -⟩
        exact absurd hvalid.body (by simp [hbody])
    rw [if_neg hbody, except_ok_bind]
    simp only [not_or, not_lt, not_not, Bool.not_eq_false] at hbase htarget hbody
    obtain ⟨htetiId, hrevision, hifMatch, hkey, hsize⟩ := hbase
    constructor
    · intro h
      exact ⟨⟨htetiId, htarget, hrevision, hifMatch, hkey, hsize, hbody⟩, (Except.ok.inj h).symm⟩
    · rintro ⟨-, rfl⟩
      rfl

end TetiBot

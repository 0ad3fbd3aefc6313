import TetiBot.Relationships.Types
import TetiBot.Library.Async

/-
The relationship service (`services/network/relationship-service.ts`), with the
part of the client it calls (`services/network/client.ts`) and its two stores.

* `RelationshipEnvironment`: what the service cannot decide itself: who is signed
  in, how every HTTP exchange ends, which step of the disk fails, and whether the
  local state takes a document.  The `n`-th consultation of a run may answer
  differently from the others.
* `RelationshipWorld`: the files of the two stores, and what has been done: the
  commands that were sent or discarded, and the documents that were applied.
* `sendPending`, `recoverPending`, `executeNew`: the commands.
* `scanSnapshot`, `scanChanges`: the reconciliation.
* `RelationshipCall`, `performRelationshipCall`: the calls that `serial` runs one
  after the other.
-/

namespace TetiBot

open Library Library.Async Library.JsString

/-! ### The environment -/

/-- What `getAuthentication` returns; the credential store has checked the
identifier. -/
structure AuthenticatedIdentity where
  tetiId : TetiId
  canonical : isCanonicalTetiPublicId tetiId = true

/-- The part of `TetiNetworkBootstrap` that decides compatibility. -/
structure NetworkBootstrap where
  protocolVersion : Nat
  contractRevision : Nat
  missingCapabilities : List String
  deriving DecidableEq

def TETI_NETWORK_PROTOCOL_VERSION : Nat := 1
def TETI_NETWORK_MINIMUM_CONTRACT_REVISION : Nat := 8

inductive RelationshipStore
  | command | reconciliation
  deriving DecidableEq

/-- The steps of a store on the disk. -/
inductive StoreStep
  | readFile | rm | mkdir | chmodDirectory | writeTemporary | rename | chmodFile
  deriving DecidableEq

structure RelationshipEnvironment where
  bootstrap : Nat → Exchange NetworkBootstrap
  getAuthentication : Nat → Except RelationshipError AuthenticatedIdentity
  getRelationship : Nat → TetiId → String → Exchange RelationshipResult
  getRelationshipWithPeer : Nat → TetiId → TetiId → Exchange RelationshipResult
  write : Nat → PendingRelationshipCommand → Exchange RelationshipResult
  getSnapshot : Nat → TetiId → Option String → Exchange RelationshipSnapshotPage
  getChanges : Nat → TetiId → String → Exchange RelationshipChangesPage
  apply : Nat → RelationshipDocument → Option RelationshipError
  idempotencyKey : Nat → String → String
  fails : Nat → RelationshipStore → StoreStep → Option String

/-! ### The world -/

/-- What has become of a command: it was sent, and the exchange ended somehow, or
it was discarded because another identity had signed in. -/
inductive CommandEvent
  | sent (command : PendingRelationshipCommand) (exchange : Exchange RelationshipResult)
  | discarded (command : PendingRelationshipCommand)
  deriving DecidableEq

/-- `TetiNetworkRelationshipReconciliationRecord`: both fields, or none. -/
structure ReconciliationRecord where
  binding : Option (TetiId × String)
  deriving DecidableEq

def emptyReconciliationRecord : ReconciliationRecord := ⟨none⟩

/-- The files (as the data in them), the flag `compatible`, the number of
consultations so far, and what has been done. -/
@[ext]
structure RelationshipWorld where
  commandFile : Option Json
  reconciliationFile : Option ReconciliationRecord
  compatible : Bool
  calls : Nat
  log : List CommandEvent
  applied : List (TetiId × RelationshipDocument)

namespace RelationshipWorld

variable (w : RelationshipWorld)

def tick : RelationshipWorld := { w with calls := w.calls + 1 }

def setCommandFile (file : Option Json) : RelationshipWorld :=
  { w with commandFile := file }

def setReconciliationFile (file : Option ReconciliationRecord) : RelationshipWorld :=
  { w with reconciliationFile := file }

def record (event : CommandEvent) : RelationshipWorld :=
  { w with log := w.log ++ [event] }

def recordApplied (tetiId : TetiId) (document : RelationshipDocument) : RelationshipWorld :=
  { w with applied := w.applied ++ [(tetiId, document)] }

/-- A new process knows the files only. -/
def restart : RelationshipWorld := { w with compatible := false }

end RelationshipWorld

abbrev RelationshipProgram (α : Type) : Type := Program RelationshipError RelationshipWorld α

abbrev RelationshipOperation (α : Type) : Type := Async RelationshipError RelationshipWorld α

variable (env : RelationshipEnvironment)

/-- Ask the environment. -/
def consult {α : Type} (f : Nat → α) : RelationshipProgram α := do
  let answer ← Program.reads fun w => f w.calls
  Program.writes RelationshipWorld.tick
  return answer

/-! ### The stores -/

/-- A step of a store: it throws, or it changes the world. -/
def storeStep (store : RelationshipStore) (step : StoreStep)
    (change : RelationshipWorld → RelationshipWorld) : RelationshipProgram Unit := do
  match ← consult fun n => env.fails n store step with
  | some message => Program.raise (.other message)
  | none => Program.writes change

/-- The steps by which a store replaces its file. -/
def replaceFile (store : RelationshipStore) (change : RelationshipWorld → RelationshipWorld) :
    RelationshipOperation Unit := do
  lift (storeStep env store .mkdir id)
  lift (storeStep env store .chmodDirectory id)
  lift (storeStep env store .writeTemporary id)
  lift (storeStep env store .rename change)
  lift (storeStep env store .chmodFile id)

/-- `FileTetiNetworkRelationshipCommandStore.load`. -/
def loadCommand : RelationshipOperation RelationshipCommandRecord := do
  lift (storeStep env .command .readFile id)
  match ← lift (Program.reads RelationshipWorld.commandFile) with
  | none => return emptyCommandRecord
  | some value => fromExcept (validateRelationshipCommandRecord value)

/-- `FileTetiNetworkRelationshipCommandStore.save`, after a change `note` of the
world that belongs to it. -/
def saveCommand (record : RelationshipCommandRecord)
    (note : RelationshipWorld → RelationshipWorld) : RelationshipOperation Unit := do
  let validated ← fromExcept (validateRelationshipCommandRecord record.encode)
  match validated.pending with
  | none => lift (storeStep env .command .rm fun w => note (w.setCommandFile none))
  | some _ =>
    replaceFile env .command fun w => note (w.setCommandFile (some validated.encode))

/-- `isCheckpoint` and `isReconciliationToken`: the prefix, and characters of the
base64url alphabet. -/
def isReconciliationToken (start token : String) : Bool :=
  let chars := token.toList
  5 ≤ chars.length && chars.length ≤ 512 && start.toList.isPrefixOf chars
    && 0 < (chars.drop start.toList.length).length
    && (chars.drop start.toList.length).all isBase64Url

def validateReconciliationRecord (record : ReconciliationRecord) :
    Except RelationshipError ReconciliationRecord :=
  match record.binding with
  | none => .ok record
  | some (tetiId, checkpoint) =>
    if isCanonicalTetiPublicId tetiId && isReconciliationToken "rcp_" checkpoint then .ok record
    else .error (.other "Teti Network Relationship reconciliation binding is invalid.")

/-- `FileTetiNetworkRelationshipReconciliationStore.load`. -/
def loadReconciliation : RelationshipOperation ReconciliationRecord := do
  lift (storeStep env .reconciliation .readFile id)
  match ← lift (Program.reads RelationshipWorld.reconciliationFile) with
  | none => return emptyReconciliationRecord
  | some value => fromExcept (validateReconciliationRecord value)

/-- `FileTetiNetworkRelationshipReconciliationStore.save`. -/
def saveReconciliation (record : ReconciliationRecord) : RelationshipOperation Unit := do
  let validated ← fromExcept (validateReconciliationRecord record)
  match validated.binding with
  | none => lift (storeStep env .reconciliation .rm fun w => w.setReconciliationFile none)
  | some _ =>
    replaceFile env .reconciliation fun w => w.setReconciliationFile (some validated)

/-! ### The client -/

/-- `getRelationship`; `requireRelationshipId` demands a canonical base64url text of
16 bytes, which the pattern says by its last character. -/
def getRelationship (identity : AuthenticatedIdentity) (relationshipId : String) :
    RelationshipOperation RelationshipResult := do
  throwIf (isRelationshipId relationshipId = false)
    (invalidRequest .relationshipGet "Teti Network Relationship ID is invalid.")
  let exchange ← lift (consult fun n => env.getRelationship n identity.tetiId relationshipId)
  fromExcept (exchange.result .relationshipGet)

def getRelationshipWithPeer (identity : AuthenticatedIdentity) (peerTetiId : TetiId) :
    RelationshipOperation RelationshipResult := do
  throwIf (isCanonicalTetiPublicId peerTetiId = false)
    (invalidRequest .relationshipGetByPeer "Teti Network public ID is invalid.")
  let exchange ← lift (consult fun n => env.getRelationshipWithPeer n identity.tetiId peerTetiId)
  fromExcept (exchange.result .relationshipGetByPeer)

variable (target : RelationshipTarget)

/-- The body of a command, in the order of its fields. -/
def RelationshipTarget.body (expectedRevision : Nat) : Json :=
  match target with
  | request peerTetiId =>
    .obj [("schemaVersion", .num 1), ("peerTetiId", jsonText peerTetiId),
      ("expectedRevision", .num expectedRevision)]
  | command _ _ => .obj [("schemaVersion", .num 1), ("expectedRevision", .num expectedRevision)]

/-- `hasOnlyKeys`. -/
def hasOnlyKeys (fields : List (String × Json)) (allowed : List String) : Bool :=
  fields.length == allowed.length && fields.all fun field => allowed.contains field.1

/-- `requireRelationshipRequest` and `requireRelationshipMutation`: the revision and
the body that the client would write itself. -/
def requireBody (value : Json) : Except RelationshipError (Nat × Json) := do
  let operation := target.networkOperation
  match target with
  | .request _ => do
    let invalid := invalidRequest operation "Teti Network Relationship request is invalid."
    let fields ← requireSome (recordFields? value) invalid
    rejectIf (hasOnlyKeys fields ["schemaVersion", "peerTetiId", "expectedRevision"] = false
      ∨ numberField fields "schemaVersion" ≠ some 1) invalid
    let revision ← requireSome (numberField fields "expectedRevision") invalid
    rejectIf (MAX_SAFE_REVISION < revision) invalid
    let peerTetiId ← requireSome
      ((textField fields "peerTetiId").filter fun s => isCanonicalTetiPublicId s)
      (invalidRequest operation "Teti Network public ID is invalid.")
    return (revision, RelationshipTarget.body (.request peerTetiId) revision)
  | .command command relationshipId => do
    let invalid := invalidRequest operation "Teti Network Relationship command is invalid."
    rejectIf (isRelationshipId relationshipId = false)
      (invalidRequest operation "Teti Network Relationship ID is invalid.")
    let fields ← requireSome (recordFields? value) invalid
    rejectIf (hasOnlyKeys fields ["schemaVersion", "expectedRevision"] = false
      ∨ numberField fields "schemaVersion" ≠ some 1) invalid
    let revision ← requireSome (numberField fields "expectedRevision") invalid
    rejectIf (MAX_SAFE_REVISION < revision) invalid
    return (revision, RelationshipTarget.body (.command command relationshipId) revision)

variable (pending : PendingRelationshipCommand)

/-- The checks of `requestRelationship`, `mutateRelationship` and
`signedRelationshipWrite` before the exchange. -/
def checkWrite : Except RelationshipError Unit := do
  let operation := pending.target.networkOperation
  let value ← requireSome (Json.parse pending.rawBody) (.other "JSON.parse")
  let (revision, input) ← requireBody pending.target value
  rejectIf (isIdempotencyKey pending.idempotencyKey = false)
    (invalidRequest operation "Teti Network idempotency key is invalid.")
  rejectIf (pending.ifMatch ≠ relationshipEtag revision)
    (invalidRequest operation
      "Teti Network Relationship If-Match does not match expectedRevision.")
  rejectIf (Json.stringify value ≠ Json.stringify input)
    (invalidRequest operation "Teti Network persisted write body is invalid.")

/-- The exchange of a command: its four facts go to the server. -/
def transmit : RelationshipProgram (Exchange RelationshipResult) := do
  let exchange ← consult fun n => env.write n pending
  Program.writes fun w => w.record (.sent pending exchange)
  return exchange

/-- `requestRelationship` or `mutateRelationship`. -/
def writeRelationship : RelationshipOperation RelationshipResult := do
  fromExcept (checkWrite pending)
  let exchange ← lift (transmit env pending)
  fromExcept (exchange.result pending.target.networkOperation)

/-! ### Commands -/

/-- `assertProjection`. -/
def assertProjection (document : RelationshipDocument) (tetiId : TetiId)
    (expectedPeerTetiId : Option TetiId) : Except RelationshipError Unit :=
  rejectIf ((document.requesterTetiId ≠ tetiId ∧ document.addresseeTetiId ≠ tetiId)
      ∨ document.requesterTetiId = document.addresseeTetiId
      ∨ document.peerTetiId = tetiId
      ∨ (∃ expected ∈ expectedPeerTetiId, document.peerTetiId ≠ expected)
      ∨ (document.direction = .outgoing ∧ document.requesterTetiId ≠ tetiId)
      ∨ (document.direction = .incoming ∧ document.addresseeTetiId ≠ tetiId))
    (relationshipConflict .relationshipGet
      "Network Relationship projection does not match the local identity.")

def incompatible (message : String) : RelationshipError :=
  .network ⟨.protocolUnsupported, .bootstrap, message, false⟩

/-- `assertTetiNetworkCompatible`. -/
def assertTetiNetworkCompatible (bootstrap : NetworkBootstrap) :
    Except RelationshipError Unit := do
  rejectIf (bootstrap.protocolVersion ≠ TETI_NETWORK_PROTOCOL_VERSION)
    (incompatible ("Teti Network protocol " ++ toString bootstrap.protocolVersion
      ++ " is incompatible with required protocol " ++ toString TETI_NETWORK_PROTOCOL_VERSION
      ++ "."))
  rejectIf (bootstrap.contractRevision < TETI_NETWORK_MINIMUM_CONTRACT_REVISION)
    (incompatible ("Teti Network contract revision " ++ toString bootstrap.contractRevision
      ++ " is older than required revision " ++ toString TETI_NETWORK_MINIMUM_CONTRACT_REVISION
      ++ "."))
  rejectIf (bootstrap.missingCapabilities ≠ [])
    (incompatible ("Teti Network is missing required capabilities: "
      ++ ", ".intercalate bootstrap.missingCapabilities ++ "."))

/-- `prepare`. -/
def prepare : RelationshipOperation AuthenticatedIdentity := do
  if (← lift (Program.reads RelationshipWorld.compatible)) = false then
    let exchange ← lift (consult env.bootstrap)
    let bootstrap ← fromExcept (exchange.result .bootstrap)
    fromExcept (assertTetiNetworkCompatible bootstrap)
    lift (Program.writes fun w => { w with compatible := true })
  let identity ← lift (consult env.getAuthentication)
  fromExcept identity

/-- `readByPeer`. -/
def readByPeer (peerTetiId : TetiId) (identity : AuthenticatedIdentity) :
    RelationshipOperation (Option RelationshipResult) := do
  let found ← attempt do
    let result ← getRelationshipWithPeer env identity peerTetiId
    fromExcept (assertProjection result.document identity.tetiId (some peerTetiId))
    return result
  match found with
  | .ok result => return some result
  | .error error =>
    if error.hasCode .relationshipNotFound then return none else raise error

variable (identity : AuthenticatedIdentity)

/-- The read after a command: what the server says now of its relationship. -/
def readLatest (result : RelationshipResult) : RelationshipOperation RelationshipResult := do
  let latest ← getRelationship env identity result.document.id
  fromExcept (assertProjection latest.document identity.tetiId (some result.document.peerTetiId))
  return latest

variable (identity : AuthenticatedIdentity)

/-- The `try` block of `sendPending`. -/
def deliver (recovered : Bool) : RelationshipOperation RelationshipResult := do
  let result ← writeRelationship env pending
  fromExcept (assertProjection result.document identity.tetiId pending.target.peerTetiId)
  saveCommand env emptyCommandRecord id
  match ← attempt (readLatest env identity result) with
  | .ok latest => return latest
  | .error error => if recovered then raise error else return result

/-- The read that only refreshes what the service has seen of the server. -/
def refresh : RelationshipOperation RelationshipResult :=
  match pending.target with
  | .request peerTetiId => getRelationshipWithPeer env identity peerTetiId
  | .command _ relationshipId => getRelationship env identity relationshipId

/-- The `catch` block of `sendPending`. -/
def afterFailure (error : RelationshipError) : RelationshipOperation RelationshipResult := do
  if error.isTerminal then saveCommand env emptyCommandRecord id
  if error.hasCode .relationshipRevisionConflict then
    let _ ← attempt (refresh env pending identity)
  raise error

def sendPending (recovered : Bool) : RelationshipOperation RelationshipResult := do
  match ← attempt (deliver env pending identity recovered) with
  | .ok result => return result
  | .error error => afterFailure env pending identity error

/-- `recoverPending`. -/
def recoverPending : RelationshipOperation (Option RelationshipResult) := do
  let stored ← loadCommand env
  match stored.pending with
  | none => return none
  | some pending =>
    if pending.tetiId ≠ identity.tetiId then do
      saveCommand env emptyCommandRecord fun w => w.record (.discarded pending)
      return none
    else return some (← sendPending env pending identity true)

variable (current : Option RelationshipResult)

/-- The revision that a new command expects. -/
def expectedRevision : Nat :=
  match target, current with
  | .request _, some result =>
    if result.document.state = .requested ∧ result.document.direction = .incoming then
      result.document.revision - 1
    else result.document.revision
  | .command _ _, some result => result.document.revision
  | _, none => 0

/-- A new command. -/
def newCommand (identity : AuthenticatedIdentity)
    (idempotencyKey : String) : PendingRelationshipCommand :=
  let revision := expectedRevision target current
  { tetiId := identity.tetiId
    target := target
    expectedRevision := revision
    ifMatch := relationshipEtag revision
    idempotencyKey := idempotencyKey
    rawBody := Json.stringify (target.body revision) }

/-- `executeNew`. -/
def executeNew (identity : AuthenticatedIdentity) : RelationshipOperation RelationshipResult := do
  let key ← lift (consult fun n => env.idempotencyKey n target.operation)
  let pending := newCommand target current identity key
  saveCommand env ⟨some pending⟩ id
  sendPending env pending identity false

/-- `getByPeer`. -/
def getByPeer (peerTetiId : TetiId) : RelationshipOperation (Option RelationshipResult) := do
  let identity ← prepare env
  let _ ← recoverPending env identity
  readByPeer env peerTetiId identity

/-- `request`. -/
def requestRelationship (peerTetiId : TetiId) : RelationshipOperation RelationshipResult := do
  let identity ← prepare env
  let recovered ← recoverPending env identity
  match recovered.filter fun result => result.document.peerTetiId = peerTetiId with
  | some result => return result
  | none => do
    let current ← readByPeer env peerTetiId identity
    executeNew env (.request peerTetiId) current identity

/-- `command`, which `accept`, `reject`, `block` and `revoke` call. -/
def commandRelationship (relationshipId : String) (operation : RelationshipCommand) :
    RelationshipOperation RelationshipResult := do
  let identity ← prepare env
  let recovered ← recoverPending env identity
  match recovered.filter fun result => result.document.id = relationshipId with
  | some result => return result
  | none => do
    let current ← getRelationship env identity relationshipId
    fromExcept (assertProjection current.document identity.tetiId none)
    executeNew env (.command operation relationshipId) (some current) identity

/-! ### Reconciliation -/

/-- `getRelationshipSnapshot`. -/
def getRelationshipSnapshot (cursor : Option String) :
    RelationshipOperation RelationshipSnapshotPage := do
  throwIf (∃ token ∈ cursor, isReconciliationToken "rrc_" token = false)
    (invalidRequest .relationshipReconciliationSnapshot
      "Teti Network Relationship reconciliation token is invalid.")
  let exchange ← lift (consult fun n => env.getSnapshot n identity.tetiId cursor)
  fromExcept (exchange.result .relationshipReconciliationSnapshot)

/-- `getRelationshipChanges`. -/
def getRelationshipChanges (checkpoint : String) :
    RelationshipOperation RelationshipChangesPage := do
  throwIf (isReconciliationToken "rcp_" checkpoint = false)
    (invalidRequest .relationshipReconciliationChanges
      "Teti Network Relationship reconciliation token is invalid.")
  let exchange ← lift (consult fun n => env.getChanges n identity.tetiId checkpoint)
  fromExcept (exchange.result .relationshipReconciliationChanges)

/-- `apply(document)`: the local state takes the document, or the callback throws. -/
def applyDocument (document : RelationshipDocument) : RelationshipProgram Unit := do
  match ← consult fun n => env.apply n document with
  | some error => Program.raise error
  | none => Program.writes fun w => w.recordApplied identity.tetiId document

/-- The loop over the documents of a page. -/
def applyAll (identity : AuthenticatedIdentity) : List RelationshipDocument →
    RelationshipOperation Unit
  | [] => return ()
  | document :: documents => do
    fromExcept (assertProjection document identity.tetiId none)
    lift (applyDocument env identity document)
    applyAll identity documents

def snapshotConflict (message : String) : RelationshipError :=
  relationshipConflict .relationshipReconciliationSnapshot message

def changesConflict (message : String) : RelationshipError :=
  relationshipConflict .relationshipReconciliationChanges message

/-- The loops over pages have no bound in the source: `pages` is how many a call gets
before the process ends. -/
def processEnded : RelationshipError := .other "process ended"

/-- `scanSnapshot`, from a page on. -/
def scanSnapshot (identity : AuthenticatedIdentity) (seenCursors : List String)
    (cursor baseCheckpoint : Option String) : Nat → RelationshipOperation String
  | 0 => raise processEnded
  | pages + 1 => do
    let page ← getRelationshipSnapshot env identity cursor
    throwIf (∃ known ∈ baseCheckpoint, page.baseCheckpoint ≠ known)
      (snapshotConflict "Network Relationship snapshot checkpoint changed between pages.")
    applyAll env identity page.items
    match page.nextCursor with
    | none => return page.baseCheckpoint
    | some next => do
      throwIf (next ∈ seenCursors)
        (snapshotConflict "Network Relationship snapshot cursor repeated.")
      scanSnapshot identity (seenCursors ++ [next]) (some next) (some page.baseCheckpoint) pages

/-- `scanChanges`, from a checkpoint on. -/
def scanChanges (identity : AuthenticatedIdentity) (seenCheckpoints : List String)
    (checkpoint : String) : Nat → RelationshipOperation Unit
  | 0 => raise processEnded
  | pages + 1 => do
    throwIf (checkpoint ∈ seenCheckpoints)
      (changesConflict "Network Relationship changes checkpoint repeated.")
    let page ← getRelationshipChanges env identity checkpoint
    throwIf (page.hasMore = true ∧ page.items = [])
      (changesConflict "Network Relationship changes reported an empty continuation page.")
    applyAll env identity (page.items.map RelationshipChange.relationship)
    saveReconciliation env ⟨some (identity.tetiId, page.checkpoint)⟩
    if page.hasMore then
      scanChanges identity (seenCheckpoints ++ [checkpoint]) page.checkpoint pages
    else return ()

/-- The checkpoint from which the changes are read: the stored one of this
identity, or that of a new snapshot. -/
def startingCheckpoint (stored : ReconciliationRecord) (pages : Nat) :
    RelationshipOperation String :=
  match stored.binding with
  | none => scanSnapshot env identity [] none none pages
  | some (tetiId, checkpoint) =>
    if tetiId ≠ identity.tetiId then do
      saveReconciliation env emptyReconciliationRecord
      scanSnapshot env identity [] none none pages
    else return checkpoint

/-- `reconcile`. -/
def reconcile (pages : Nat) : RelationshipOperation Unit := do
  let identity ← prepare env
  let _ ← recoverPending env identity
  let stored ← loadReconciliation env
  let checkpoint ← startingCheckpoint env identity stored pages
  scanChanges env identity [] checkpoint pages

/-! ### Calls -/

/-- The calls that `serial` runs.  `authorizePeer` does not go through it, and
neither reads nor writes a file. -/
inductive RelationshipCall
  | reconcile (pages : Nat)
  | getByPeer (peerTetiId : TetiId)
  | request (peerTetiId : TetiId)
  | command (relationshipId : String) (operation : RelationshipCommand)
  deriving DecidableEq

inductive RelationshipAnswer
  | reconciled
  | found (result : Option RelationshipResult)
  | done (result : RelationshipResult)
  deriving DecidableEq

def performRelationshipCall : RelationshipCall → RelationshipOperation RelationshipAnswer
  | .reconcile pages => do
    reconcile env pages
    return .reconciled
  | .getByPeer peerTetiId => return .found (← getByPeer env peerTetiId)
  | .request peerTetiId => return .done (← requestRelationship env peerTetiId)
  | .command relationshipId operation =>
    return .done (← commandRelationship env relationshipId operation)

end TetiBot

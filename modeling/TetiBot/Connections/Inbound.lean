import TetiBot.Connections.Storage
import TetiBot.Passport.Merge
import TetiBot.Passport.PeerCapabilities
import TetiBot.Tasks.Operations

/-
Application messages of peers (`lifecycle-sidecar/connections.ts`).

* `processApplicationMessage`: what a received message does to the tables of the
  runtime and to the task service; `observeIncompatibleApplicationEnvelope`, where the
  envelope cannot be parsed.
* `Gate`: the sender has an authorized connection, the authority allows the peer, and
  the message arrived from the address of that connection.
* `gated_iff`: when a message changes presence, capabilities, passports or tasks only
  through the gate.
-/

namespace TetiBot.Connections

open Library Library.Program Passport

variable {parseDate : JsString → Option Timestamp}

/-! ### Messages -/

inductive DownloadState
  | done | available | failure | undecipherable | inProgress
  deriving DecidableEq

/-- What is read of a `ChatmailReceivedMessage`. -/
structure ChatmailReceivedMessage where
  messageId : Nat
  text : JsString
  fromAddress : Option String
  receivedAt : Option JsString
  filePath : Option String
  downloadState : Option DownloadState
  deriving DecidableEq

structure TetiPresencePayload where
  timestamp : JsString
  collaborationProtocolEpoch : Nat
  taskProtocolVersions : Option (List Nat)
  passportSchemaVersions : Option (List Nat)
  passportLease : Option PassportLease
  passportRefreshRequestedAt : Option JsString
  deriving DecidableEq

/-- The payload of an envelope, by its type.  The runtime takes no notice of the other
types that an envelope may have. -/
inductive ApplicationPayload (parseDate : JsString → Option Timestamp)
  | presence (payload : TetiPresencePayload)
  | aiStatusSync (payload : AiStatusSyncPayload parseDate)
  | taskRequest (payload : CollaborationTaskRequest)
  | taskAttachment (payload : TetiTaskAttachmentPayload)
  | taskAttachmentReceipt (payload : TetiTaskAttachmentReceiptPayload)
  | taskArtifactFile (payload : TetiTaskArtifactFilePayload)
  | taskArtifactReceipt (payload : TetiTaskArtifactReceiptPayload)
  | taskStatus (payload : TetiTaskStatusPayload)
  | taskInput (payload : TetiTaskInputPayload)
  | taskCancel (payload : TetiTaskCancelPayload)
  | taskApplicationReceipt (payload : TetiTaskApplicationReceiptPayload)
  | taskArtifact (payload : TetiTaskArtifactPayload)
  | taskReceipt (payload : TetiTaskReceiptPayload)
  | unnoticed

structure TetiApplicationEnvelope (parseDate : JsString → Option Timestamp) where
  messageId : String
  fromTetiId : TetiId
  createdAt : JsString
  payload : ApplicationPayload parseDate

/-- `inspectApplicationEnvelopeHeader`. -/
structure ApplicationEnvelopeHeader where
  version : Nat
  fromTetiId : TetiId
  deriving DecidableEq

/-- How the text of a message is read: an envelope, or a protocol error, with the
header that can be read all the same. -/
inductive ParsedText (parseDate : JsString → Option Timestamp)
  | envelope (envelope : TetiApplicationEnvelope parseDate)
  | incompatible (header : Option ApplicationEnvelopeHeader)

/-- The authority's answer; it allows a peer exactly for the reason `confirmed`. -/
inductive Authorization
  | confirmed
  | denied (reason : String)
  deriving DecidableEq

inductive InboundError
  | network (error : RelationshipError)
  | authorizationDenied (peerTetiId : TetiId) (reason : String)
  | task (error : TaskError)
  | other (message : String)

/-! ### Tables -/

/-- The tables of the runtime, and the world of the task service. -/
structure PeerTables (parseDate : JsString → Option Timestamp) where
  heartbeatReceived : String → Option Timestamp
  capabilities : Option PeerProtocolCapabilityStoreState
  passports : String → RemotePassport parseDate
  observedPassportRefreshRequests : String → Option JsString
  protocolBootstrapResponses : List String
  forcedHeartbeats : List String
  forcedAiStatus : List String
  tasks : World

/-- What a peer may learn about or change through messages: presence, capabilities,
passports, and what the task store and the handle store hold. -/
structure Observed (parseDate : JsString → Option Timestamp) where
  heartbeatReceived : String → Option Timestamp
  capabilities : Option PeerProtocolCapabilityStoreState
  passports : String → RemotePassport parseDate
  taskStore : TaskStore
  registry : ExecutionHandleStoreState

def PeerTables.observed (tables : PeerTables parseDate) : Observed parseDate :=
  ⟨tables.heartbeatReceived, tables.capabilities, tables.passports, tables.tasks.store,
    tables.tasks.registry⟩

/-- What processing a message is given.  The text is read by the parser of envelopes,
which `parse` stands for; `now` is the clock while the message is processed. -/
structure InboundEnvironment (parseDate : JsString → Option Timestamp) where
  now : Timestamp
  connections : TetiConnectionStore
  /-- The relationship service, if there is one, and what it answers. -/
  relationshipService : Option (TetiId → Except RelationshipError Authorization)
  parse : JsString → ParsedText parseDate
  toISOString : Timestamp → JsString
  toLowerCase : String → String
  downloadMessageAttachment :
    Option (ChatmailReceivedMessage → Except InboundError ChatmailReceivedMessage)
  /-- Whether the passport file can be written. -/
  passportWritten : Bool
  contentSha256 : JsString → String
  tasks : Environment
  taskSha256 : Sha256

abbrev InboundProgram (parseDate : JsString → Option Timestamp) (α : Type) : Type :=
  Program InboundError (PeerTables parseDate) α

/-! ### Capabilities -/

def TETI_COLLABORATION_PROTOCOL_EPOCH : Nat := 2

/-- `peerProtocolCapabilities.observe`, on the file of the store. -/
def observeCapability (capability : PassportPeerProtocolCapability) :
    InboundProgram parseDate Bool := do
  let file ← reads PeerTables.capabilities
  let (changed, file) ← fromExcept ((observeFile parseDate file capability).mapError .other)
  writes fun tables => { tables with capabilities := file }
  return changed

/-! ### Processing -/

/-- `!fromAddress`. -/
def lacksAddress (fromAddress : Option String) : Bool := fromAddress.all fun s => s == ""

section

variable (env : InboundEnvironment parseDate) (connection : TetiConnectionRecord)

/-- `isAuthorizedConnection`. -/
def isAuthorizedConnection : Bool :=
  if env.relationshipService.isSome then isNetworkRelationshipConfirmed connection
  else isTetiConnectionConfirmed connection

/-- The message carries an address, and it is that of the connection. -/
def arrivedFrom (fromAddress : Option String) (connection : TetiConnectionRecord) : Bool :=
  fromAddress.any fun address => address != ""
    && env.toLowerCase connection.remoteAddress == env.toLowerCase address

/-- The first authorized connection of the sender, from whose address the message
arrived if it carries one. -/
def findSender (fromTetiId : TetiId) (fromAddress : Option String) :
    Option TetiConnectionRecord :=
  env.connections.connections.find? fun item =>
    isAuthorizedConnection env item && item.remoteTetiId == fromTetiId
      && (lacksAddress fromAddress || arrivedFrom env fromAddress item)

/-- `requireNetworkAuthorization`. -/
def requireNetworkAuthorization (peerTetiId : TetiId) : Except InboundError Unit :=
  match env.relationshipService with
  | none => .ok ()
  | some authorizePeer =>
    match authorizePeer peerTetiId with
    | .error error => .error (.network error)
    | .ok .confirmed => .ok ()
    | .ok (.denied reason) => .error (.authorizationDenied peerTetiId reason)

/-- What the task service sees of a connection. -/
def taskConnection : TetiBot.TetiConnectionRecord :=
  ⟨connection.requestId, connection.remoteTetiId, isTetiConnectionConfirmed connection⟩

/-- An operation of the task service. -/
def runTask (operation : Operation) : InboundProgram parseDate Unit := do
  let tables ← reads id
  let outcome := (serve env.tasks env.taskSha256 operation).exec { tables.tasks with calls := 0 }
  writes fun tables => { tables with tasks := outcome.2 }
  match outcome.1 with
  | .ok () => return ()
  | .error error => raise (.task error)

/-- The heartbeat is noted if it is newer than the last one. -/
def noteHeartbeat (requestId : String) (observedAt : Timestamp) :
    InboundProgram parseDate Unit :=
  writes fun tables =>
    if (tables.heartbeatReceived requestId).all fun previous => previous < observedAt then
      { tables with
        heartbeatReceived := Function.update tables.heartbeatReceived requestId (some observedAt) }
    else tables

/-- `{ ...tables, forcedAiStatus.set(requestId, ...) }`. -/
def forceAiStatus (requestId : String) : InboundProgram parseDate Unit :=
  writes fun tables => { tables with forcedAiStatus := requestId :: tables.forcedAiStatus }

/-- The first versions of a peer are answered with a heartbeat. -/
def answerBootstrap (requestId : String) : InboundProgram parseDate Unit :=
  writes fun tables =>
    if requestId ∈ tables.protocolBootstrapResponses then tables
    else { tables with
      protocolBootstrapResponses := requestId :: tables.protocolBootstrapResponses
      forcedHeartbeats := requestId :: tables.forcedHeartbeats }

variable (payload : TetiPresencePayload)

/-- The versions of tasks that a heartbeat names. -/
def observeTaskVersions (createdAt : JsString) : InboundProgram parseDate Unit :=
  match payload.taskProtocolVersions with
  | none => pure ()
  | some versions =>
    runTask env (.observeVersions connection.remoteTetiId versions
      (parseDate (if payload.timestamp = [] then createdAt else payload.timestamp)))

/-- The versions of passports that a heartbeat names. -/
def observePassportVersions (observedAt : Timestamp) : InboundProgram parseDate Unit :=
  match payload.passportSchemaVersions with
  | none => pure ()
  | some versions => do
    let changed ← observeCapability ⟨connection.remoteTetiId, payload.collaborationProtocolEpoch,
      payload.taskProtocolVersions, some versions, env.toISOString observedAt⟩
    if changed then
      forceAiStatus connection.requestId
    answerBootstrap connection.requestId

/-- The lease that a heartbeat carries. -/
def observeLease (observedAt : Timestamp) : InboundProgram parseDate Unit :=
  match payload.passportLease with
  | none => pure ()
  | some lease => writes fun tables => { tables with
      passports := Function.update tables.passports connection.requestId
        (observeRemotePassportLease (tables.passports connection.requestId) lease observedAt
          env.now env.passportWritten) }

/-- The refresh that a heartbeat asks for. -/
def observeRefreshRequest : InboundProgram parseDate Unit :=
  match payload.passportRefreshRequestedAt with
  | none => pure ()
  | some requestedAt => writes fun tables =>
    if tables.observedPassportRefreshRequests connection.requestId = some requestedAt then tables
    else { tables with
      observedPassportRefreshRequests := Function.update tables.observedPassportRefreshRequests
        connection.requestId (some requestedAt)
      forcedAiStatus := connection.requestId :: tables.forcedAiStatus }

/-- `teti.presence`. -/
def observePresence (createdAt : JsString)
    (receivedAt : Option JsString) : InboundProgram parseDate Bool := do
  let observedAt := validReceivedHeartbeatTimestamp parseDate receivedAt env.now
  noteHeartbeat connection.requestId observedAt
  observeTaskVersions env connection payload createdAt
  observePassportVersions env connection payload observedAt
  observeLease env connection payload observedAt
  observeRefreshRequest connection payload
  return true

/-- `teti.ai.status.sync`. -/
def observeAiStatus (payload : AiStatusSyncPayload parseDate) (receivedAt : Option JsString) :
    InboundProgram parseDate Bool := do
  writes fun tables => { tables with
    passports := Function.update tables.passports connection.requestId
      (receivePassport env.contentSha256 (tables.passports connection.requestId) payload receivedAt
        env.now env.passportWritten) }
  return true

def attachmentPending (message : String) : InboundError :=
  .task (runtimeError "TASK_ATTACHMENT_PENDING" message)

variable (message : ChatmailReceivedMessage)

/-- The file of a message, which is downloaded if it has not been. -/
def withFile (unavailable : String) : Except InboundError ChatmailReceivedMessage :=
  if message.filePath = none
      ∧ (message.downloadState = some .available ∨ message.downloadState = some .failure) then
    match env.downloadMessageAttachment with
    | none => .error (.other unavailable)
    | some download => download message
  else .ok message

/-- `teti.task.attachment`; an expired image without a file is dropped. -/
def receiveTaskAttachment (inbound : TetiBot.Inbound TetiTaskAttachmentPayload) :
    InboundProgram parseDate Bool := do
  let downloaded ← fromExcept (withFile env message "Chatmail attachment download is unavailable.")
  match downloaded.filePath, downloaded.downloadState with
  | some _, _ => do
    runTask env (.attachment inbound)
    pure true
  | none, some .undecipherable | none, none =>
    if inbound.payload.expiresAt ≤ env.now then pure true
    else raise (.other "Chatmail Task attachment has no local file.")
  | none, _ =>
    if inbound.payload.expiresAt ≤ env.now then pure true
    else raise (attachmentPending "Task attachment download is still pending.")

/-- `teti.task.artifact.file`. -/
def receiveTaskArtifactFile (inbound : TetiBot.Inbound TetiTaskArtifactFilePayload) :
    InboundProgram parseDate Bool := do
  let downloaded ← fromExcept (withFile env message "Chatmail Artifact download is unavailable.")
  match downloaded.filePath with
  | some _ => do
    runTask env (.artifactFile inbound)
    pure true
  | none =>
    if inbound.payload.expiresAt ≤ env.now then pure true
    else raise (attachmentPending "Task Artifact file download is still pending.")

/-- The messages of tasks. -/
def receiveTaskMessage (connection : TetiConnectionRecord)
    (envelope : TetiApplicationEnvelope parseDate) : InboundProgram parseDate Bool :=
  let inbound {α : Type} (payload : α) : TetiBot.Inbound α :=
    ⟨envelope.fromTetiId, taskConnection connection, payload, message.receivedAt.bind parseDate⟩
  let perform (operation : Operation) : InboundProgram parseDate Bool := do
    runTask env operation
    return true
  match envelope.payload with
  | .taskRequest payload => perform (.request
      ⟨inbound payload, envelope.messageId, some message.messageId⟩)
  | .taskAttachment payload => receiveTaskAttachment env message (inbound payload)
  | .taskAttachmentReceipt payload => perform (.attachmentReceipt (inbound payload))
  | .taskArtifactFile payload => receiveTaskArtifactFile env message (inbound payload)
  | .taskArtifactReceipt payload => perform (.artifactReceipt (inbound payload))
  | .taskStatus payload => perform (.status (inbound payload))
  | .taskInput payload => perform (.input (inbound payload))
  | .taskCancel payload => perform (.cancellation (inbound payload))
  | .taskApplicationReceipt payload => perform (.applicationReceipt (inbound payload))
  | .taskArtifact payload => perform (.artifact (inbound payload))
  | .taskReceipt payload => perform (.receipt (inbound payload))
  | _ => return true

/-- What an authorized connection's envelope does. -/
def receiveEnvelope (connection : TetiConnectionRecord)
    (envelope : TetiApplicationEnvelope parseDate) : InboundProgram parseDate Bool :=
  match envelope.payload with
  | .presence payload =>
    observePresence env connection payload envelope.createdAt message.receivedAt
  | .aiStatusSync payload =>
    if arrivedFrom env message.fromAddress connection then
      observeAiStatus env connection payload message.receivedAt
    else return false
  | _ =>
    if arrivedFrom env message.fromAddress connection then
      receiveTaskMessage env message connection envelope
    else return false

/-- `observeIncompatibleApplicationEnvelope`, after the header was read. -/
def observeIncompatible (header : ApplicationEnvelopeHeader) : InboundProgram parseDate Bool :=
  if TETI_COLLABORATION_PROTOCOL_EPOCH ≤ header.version then return false
  else match findSender env header.fromTetiId message.fromAddress with
    | none => return false
    | some connection => do
      fromExcept (requireNetworkAuthorization env connection.remoteTetiId)
      let observedAt := validReceivedHeartbeatTimestamp parseDate message.receivedAt env.now
      noteHeartbeat connection.requestId observedAt
      let _ ← observeCapability
        ⟨connection.remoteTetiId, header.version, none, none, env.toISOString observedAt⟩
      return true

def processApplicationMessage : InboundProgram parseDate Bool :=
  match env.parse message.text with
  | .incompatible none => return false
  | .incompatible (some header) => observeIncompatible env message header
  | .envelope envelope =>
    match findSender env envelope.fromTetiId message.fromAddress with
    | none => return false
    | some connection => do
      fromExcept (requireNetworkAuthorization env connection.remoteTetiId)
      receiveEnvelope env message connection envelope

/-! ### The gate -/

/-- The peer that a message names as its sender. -/
def namedSender : Option TetiId :=
  match env.parse message.text with
  | .envelope envelope => some envelope.fromTetiId
  | .incompatible header => header.map ApplicationEnvelopeHeader.fromTetiId

/-- An authorized connection with a peer whom the authority allows. -/
structure Authorized (peerTetiId : TetiId) (connection : TetiConnectionRecord) : Prop where
  stored : connection ∈ env.connections.connections
  confirmed : isAuthorizedConnection env connection = true
  peer : connection.remoteTetiId = peerTetiId
  allowed : requireNetworkAuthorization env peerTetiId = .ok ()

/-- The named sender has an authorized connection, and the message arrived from its
address. -/
def Gate : Prop :=
  ∃ sender ∈ namedSender env message, ∃ connection, Authorized env sender connection
    ∧ arrivedFrom env message.fromAddress connection = true

/-- A heartbeat, or an envelope of an older epoch. -/
def isPresenceMessage : Bool :=
  match env.parse message.text with
  | .envelope envelope =>
    match envelope.payload with
    | .presence _ => true
    | _ => false
  | .incompatible header =>
    header.any fun header => header.version < TETI_COLLABORATION_PROTOCOL_EPOCH

/-- A heartbeat or an envelope of an older epoch without a transport address, in the
name of an authorized peer. -/
def Unaddressed : Prop :=
  lacksAddress message.fromAddress = true ∧ isPresenceMessage env message = true
    ∧ ∃ sender ∈ namedSender env message, ∃ connection, Authorized env sender connection

variable {env} {message : ChatmailReceivedMessage}

lemma not_arrivedFrom_of_lacksAddress {connection : TetiConnectionRecord}
    (h : lacksAddress message.fromAddress = true) :
    arrivedFrom env message.fromAddress connection = false := by
  unfold lacksAddress at h
  unfold arrivedFrom
  cases haddress : message.fromAddress with
  | none => rfl
  | some address =>
    have hempty : address = "" := by simpa [haddress] using h
    simp [hempty]

/-- The connection that is found for a sender. -/
lemma findSender_eq_some {fromTetiId : TetiId} {connection : TetiConnectionRecord}
    (h : findSender env fromTetiId message.fromAddress = some connection) :
    connection ∈ env.connections.connections ∧ isAuthorizedConnection env connection = true
      ∧ connection.remoteTetiId = fromTetiId
      ∧ (lacksAddress message.fromAddress = true
        ∨ arrivedFrom env message.fromAddress connection = true) := by
  have hfound := List.find?_some h
  simp only [Bool.and_eq_true, Bool.or_eq_true, beq_iff_eq] at hfound
  exact ⟨List.mem_of_find?_eq_some h, hfound.1.1, hfound.1.2, hfound.2⟩

/-- Without an address the first authorized connection of the sender is found. -/
lemma findSender_isSome {fromTetiId : TetiId} {connection : TetiConnectionRecord}
    (hauthorized : Authorized env fromTetiId connection)
    (haddress : lacksAddress message.fromAddress = true) :
    ∃ found, findSender env fromTetiId message.fromAddress = some found
      ∧ found.remoteTetiId = fromTetiId := by
  have hsome : (findSender env fromTetiId message.fromAddress).isSome = true := by
    rw [findSender, List.find?_isSome]
    exact ⟨connection, hauthorized.stored, by
      simp [hauthorized.confirmed, hauthorized.peer, haddress]⟩
  obtain ⟨found, hfound⟩ := Option.isSome_iff_exists.mp hsome
  exact ⟨found, hfound, (findSender_eq_some hfound).2.2.1⟩

/-! ### Messages that do not pass -/

/-- A program that leaves the tables as they are. -/
def LeavesTables {α : Type} (m : InboundProgram parseDate α) : Prop :=
  ∀ tables, (m.exec tables).2 = tables

lemma leavesTables_false : LeavesTables (pure false : InboundProgram parseDate Bool) :=
  fun _ => rfl

/-- A peer that the authority does not allow changes nothing. -/
lemma leavesTables_unauthorized {peerTetiId : TetiId} {α : Type}
    {rest : Unit → InboundProgram parseDate α}
    (h : requireNetworkAuthorization env peerTetiId ≠ .ok ()) :
    LeavesTables (fromExcept (requireNetworkAuthorization env peerTetiId) >>= rest) := by
  intro tables
  cases hdecision : requireNetworkAuthorization env peerTetiId with
  | ok _ => exact absurd hdecision h
  | error e => rw [fromExcept, exec_bind, exec_raise]

/-- An envelope other than a heartbeat, that does not come from the connection's
address, changes nothing. -/
lemma leavesTables_receiveEnvelope {connection : TetiConnectionRecord}
    {envelope : TetiApplicationEnvelope parseDate}
    (haddress : arrivedFrom env message.fromAddress connection = false)
    (hkind : ∀ payload, envelope.payload ≠ .presence payload) :
    LeavesTables (receiveEnvelope env message connection envelope) := by
  intro tables
  unfold receiveEnvelope
  cases hpayload : envelope.payload with
  | presence payload => exact absurd hpayload (hkind payload)
  | _ => simp [haddress]

/-- **What does not pass the gate changes nothing**, the exception apart. -/
lemma leavesTables_of_not_gate (hgate : ¬Gate env message) (hexception : ¬Unaddressed env message) :
    LeavesTables (processApplicationMessage env message) := by
  -- a connection that was found and is allowed is the gate, or there is no address
  have hfound : ∀ {sender : TetiId} {connection : TetiConnectionRecord},
      namedSender env message = some sender →
      findSender env sender message.fromAddress = some connection →
      requireNetworkAuthorization env connection.remoteTetiId = .ok () →
      lacksAddress message.fromAddress = true ∧ isPresenceMessage env message = false := by
    intro sender connection hsender hconnection hallowed
    obtain ⟨hstored, hconfirmed, hpeer, haddress⟩ := findSender_eq_some hconnection
    have hauthorized : Authorized env sender connection :=
      ⟨hstored, hconfirmed, hpeer, hpeer ▸ hallowed⟩
    rcases haddress with hlacks | harrived
    · refine ⟨hlacks, ?_⟩
      by_contra hpresence
      exact hexception ⟨hlacks, by simpa using hpresence, sender, hsender, connection, hauthorized⟩
    · exact absurd ⟨sender, hsender, connection, hauthorized, harrived⟩ hgate
  unfold processApplicationMessage
  cases hparse : env.parse message.text with
  | incompatible header =>
    cases header with
    | none => exact leavesTables_false
    | some header =>
      have hsender : namedSender env message = some header.fromTetiId := by
        rw [namedSender, hparse]
        rfl
      dsimp only
      unfold observeIncompatible
      split_ifs with hepoch
      · exact leavesTables_false
      · cases hconnection : findSender env header.fromTetiId message.fromAddress with
        | none => exact leavesTables_false
        | some connection =>
          refine leavesTables_unauthorized fun hallowed => ?_
          have hpresence := (hfound hsender hconnection hallowed).2
          rw [isPresenceMessage, hparse] at hpresence
          have : ¬header.version < TETI_COLLABORATION_PROTOCOL_EPOCH := by
            simpa using hpresence
          omega
  | envelope envelope =>
    have hsender : namedSender env message = some envelope.fromTetiId := by
      rw [namedSender, hparse]
    dsimp only
    cases hconnection : findSender env envelope.fromTetiId message.fromAddress with
    | none => exact leavesTables_false
    | some connection =>
      dsimp only
      by_cases hallowed : requireNetworkAuthorization env connection.remoteTetiId = .ok ()
      · obtain ⟨hlacks, hpresence⟩ := hfound hsender hconnection hallowed
        rw [hallowed]
        refine leavesTables_receiveEnvelope (not_arrivedFrom_of_lacksAddress hlacks) ?_
        intro payload hpayload
        rw [isPresenceMessage, hparse] at hpresence
        simp [hpayload] at hpresence
      · exact leavesTables_unauthorized hallowed

/-! ### The exception -/

/-- The heartbeat of a connection has been noted, and a program leaves it so. -/
def KeepsHeartbeat {α : Type} (requestId : String) (observedAt : Timestamp)
    (m : InboundProgram parseDate α) : Prop :=
  Triple (fun tables => tables.heartbeatReceived requestId = some observedAt) m
    (fun _ tables => tables.heartbeatReceived requestId = some observedAt)
    (fun _ tables => tables.heartbeatReceived requestId = some observedAt)

section

variable {requestId : String} {observedAt : Timestamp} {connection : TetiConnectionRecord}
  {payload : TetiPresencePayload} {α β : Type}

lemma KeepsHeartbeat.pure (a : α) :
    KeepsHeartbeat requestId observedAt (pure a : InboundProgram parseDate α) :=
  Triple.pure fun _ h => h

lemma KeepsHeartbeat.raise (e : InboundError) :
    KeepsHeartbeat requestId observedAt (raise e : InboundProgram parseDate α) :=
  Triple.raise fun _ h => h

lemma KeepsHeartbeat.bind {m : InboundProgram parseDate α} {f : α → InboundProgram parseDate β}
    (hm : KeepsHeartbeat requestId observedAt m)
    (hf : ∀ a, KeepsHeartbeat requestId observedAt (f a)) :
    KeepsHeartbeat requestId observedAt (m >>= f) :=
  Triple.bind hm hf

lemma KeepsHeartbeat.reads (f : PeerTables parseDate → α) :
    KeepsHeartbeat requestId observedAt (reads f) :=
  Triple.reads fun _ h => h

lemma KeepsHeartbeat.writes {f : PeerTables parseDate → PeerTables parseDate}
    (hf : ∀ tables, (f tables).heartbeatReceived = tables.heartbeatReceived) :
    KeepsHeartbeat requestId observedAt (writes f) :=
  Triple.writes fun tables h => by rwa [hf tables]

lemma KeepsHeartbeat.fromExcept (r : Except InboundError α) :
    KeepsHeartbeat requestId observedAt (fromExcept r : InboundProgram parseDate α) :=
  Triple.fromExcept (fun _ _ _ h => h) fun _ _ _ h => h

lemma keepsHeartbeat_runTask (operation : Operation) :
    KeepsHeartbeat requestId observedAt (runTask env operation) := by
  refine KeepsHeartbeat.bind (.reads id) fun tables => ?_
  dsimp only
  refine KeepsHeartbeat.bind (.writes fun _ => rfl) fun _ => ?_
  cases ((serve env.tasks env.taskSha256 operation).exec { tables.tasks with calls := 0 }).1 with
  | ok _ => exact .pure ()
  | error error => exact .raise _

lemma keepsHeartbeat_observeCapability (capability : PassportPeerProtocolCapability) :
    KeepsHeartbeat requestId observedAt
      (observeCapability capability : InboundProgram parseDate Bool) := by
  refine KeepsHeartbeat.bind (.reads _) fun file => ?_
  refine KeepsHeartbeat.bind (.fromExcept _) fun remembered => ?_
  exact KeepsHeartbeat.bind (.writes fun _ => rfl) fun _ => .pure _

lemma keepsHeartbeat_observePassportVersions (seenAt : Timestamp) :
    KeepsHeartbeat requestId observedAt
      (observePassportVersions env connection payload seenAt) := by
  unfold observePassportVersions
  cases payload.passportSchemaVersions with
  | none => exact .pure ()
  | some versions =>
    have hanswer : KeepsHeartbeat requestId observedAt
        (answerBootstrap connection.requestId : InboundProgram parseDate Unit) :=
      .writes fun tables => by split_ifs <;> rfl
    refine (keepsHeartbeat_observeCapability _).bind fun changed => ?_
    dsimp only
    split_ifs
    · exact KeepsHeartbeat.bind (.writes fun _ => rfl) fun _ => hanswer
    · exact KeepsHeartbeat.bind (.pure ()) fun _ => hanswer

/-- What comes after the heartbeat in its message does not take it back. -/
lemma keepsHeartbeat_rest (createdAt : JsString) (seenAt : Timestamp) :
    KeepsHeartbeat requestId observedAt (do
      observeTaskVersions env connection payload createdAt
      observePassportVersions env connection payload seenAt
      observeLease env connection payload seenAt
      observeRefreshRequest connection payload
      return true) := by
  have htasks : KeepsHeartbeat requestId observedAt
      (observeTaskVersions env connection payload createdAt) := by
    unfold observeTaskVersions
    cases payload.taskProtocolVersions with
    | none => exact .pure ()
    | some versions => exact keepsHeartbeat_runTask _
  have hlease : KeepsHeartbeat requestId observedAt
      (observeLease env connection payload seenAt) := by
    unfold observeLease
    cases payload.passportLease with
    | none => exact .pure ()
    | some lease => exact .writes fun _ => rfl
  have hrefresh : KeepsHeartbeat requestId observedAt
      (observeRefreshRequest connection payload : InboundProgram parseDate Unit) := by
    unfold observeRefreshRequest
    cases payload.passportRefreshRequestedAt with
    | none => exact .pure ()
    | some requestedAt => exact .writes fun tables => by split_ifs <;> rfl
  exact htasks.bind fun _ => (keepsHeartbeat_observePassportVersions seenAt).bind fun _ =>
    hlease.bind fun _ => hrefresh.bind fun _ => .pure true

/-- A heartbeat that is noted where none was, whatever follows. -/
lemma noteHeartbeat_then {m : InboundProgram parseDate α} {tables : PeerTables parseDate}
    (hnone : tables.heartbeatReceived requestId = none)
    (hm : KeepsHeartbeat requestId observedAt m) :
    ((noteHeartbeat requestId observedAt >>= fun _ => m).exec tables).2.heartbeatReceived requestId
      = some observedAt := by
  have hnote : Triple (· = tables) (noteHeartbeat requestId observedAt)
      (fun _ tables => tables.heartbeatReceived requestId = some observedAt)
      (fun _ tables => tables.heartbeatReceived requestId = some observedAt) := by
    refine Triple.writes ?_
    rintro _ rfl
    simp [hnone]
  exact Triple.world (Triple.bind hnote fun _ => hm) rfl

end

/-- Tables in which nothing was noted. -/
def emptyTables : PeerTables parseDate where
  heartbeatReceived _ := none
  capabilities := none
  passports _ := ⟨none, none, none⟩
  observedPassportRefreshRequests _ := none
  protocolBootstrapResponses := []
  forcedHeartbeats := []
  forcedAiStatus := []
  tasks := initialWorld

/-- A message without an address is taken for presence, if it is a heartbeat or an
envelope of an older epoch. -/
lemma heartbeat_of_unaddressed (h : Unaddressed env message) :
    ∃ requestId, ((processApplicationMessage env message).exec
      emptyTables).2.heartbeatReceived requestId ≠ none := by
  obtain ⟨hlacks, hpresence, sender, hsender, connection, hauthorized⟩ := h
  obtain ⟨found, hfound, hpeer⟩ := findSender_isSome hauthorized hlacks
  have hallowed : requireNetworkAuthorization env found.remoteTetiId = .ok () :=
    hpeer ▸ hauthorized.allowed
  refine ⟨found.requestId, ?_⟩
  unfold processApplicationMessage
  cases hparse : env.parse message.text with
  | incompatible header =>
    cases header with
    | none => simp [isPresenceMessage, hparse] at hpresence
    | some header =>
      rw [isPresenceMessage, hparse] at hpresence
      have hepoch : header.version < TETI_COLLABORATION_PROTOCOL_EPOCH := by
        simpa using hpresence
      obtain rfl : header.fromTetiId = sender := by
        simpa [namedSender, hparse] using hsender
      dsimp only
      rw [observeIncompatible, if_neg (by omega), hfound]
      dsimp only
      rw [hallowed]
      change ((noteHeartbeat found.requestId _ >>= fun _ =>
        observeCapability _ >>= fun _ => pure true : InboundProgram parseDate Bool).exec
          emptyTables).2.heartbeatReceived _ ≠ none
      rw [noteHeartbeat_then rfl
        ((keepsHeartbeat_observeCapability _).bind fun _ => .pure true)]
      simp
  | envelope envelope =>
    obtain rfl : envelope.fromTetiId = sender := by
      simpa [namedSender, hparse] using hsender
    dsimp only
    rw [hfound]
    dsimp only
    rw [hallowed]
    rw [isPresenceMessage, hparse] at hpresence
    cases hpayload : envelope.payload with
    | presence payload =>
      change (Program.exec (receiveEnvelope env message found envelope)
        emptyTables).2.heartbeatReceived _ ≠ none
      rw [receiveEnvelope, hpayload]
      dsimp only
      rw [observePresence, noteHeartbeat_then rfl (keepsHeartbeat_rest _ _)]
      simp
    | _ => simp [hpayload] at hpresence

end

/-- **The gate of inbound messages**: whatever the tables hold, a message changes
presence, capabilities, passports or tasks only if the sender it names has a confirmed
connection, the authority allows that peer and the message arrived from the address of
the connection; unless it is a heartbeat or an envelope of an older epoch, carries no
address and names an authorized peer. -/
theorem gated_iff (env : InboundEnvironment parseDate) (message : ChatmailReceivedMessage) :
    (∀ tables : PeerTables parseDate,
        ((processApplicationMessage env message).exec tables).2.observed ≠ tables.observed →
        Gate env message)
      ↔ ¬Unaddressed env message := by
  constructor
  · intro hgated hexception
    obtain ⟨requestId, hheartbeat⟩ := heartbeat_of_unaddressed hexception
    have hchanged : ((processApplicationMessage env message).exec emptyTables).2.observed
        ≠ (emptyTables : PeerTables parseDate).observed := by
      intro hsame
      have hreceived := congrFun (congrArg Observed.heartbeatReceived hsame) requestId
      exact hheartbeat hreceived
    obtain ⟨sender, -, connection, -, harrived⟩ := hgated emptyTables hchanged
    rw [not_arrivedFrom_of_lacksAddress hexception.1] at harrived
    cases harrived
  · intro hexception tables hchanged
    by_contra hgate
    exact hchanged (congrArg _ (leavesTables_of_not_gate hgate hexception tables))

/-! ### A heartbeat without an address -/

def bobConnection : TetiConnectionRecord where
  requestId := "rel_AAAAAAAAAAAAAAAAAAAAAA"
  state := .confirmed
  direction := .incoming
  remoteTetiId := "teti_bbbbbbbbb"
  remoteAddress := "bob@mail.seep.im"
  remotePublicKey := none
  request := ⟨"rel_AAAAAAAAAAAAAAAAAAAAAA", "teti_bbbbbbbbb", "bob@mail.seep.im", none,
    ⟨"Linux", [], []⟩, 1000, "network:rel_AAAAAAAAAAAAAAAAAAAAAA"⟩
  createdAt := 1000
  updatedAt := 2000
  acceptedAt := none
  rejectedAt := none
  confirmedAt := some 2000
  networkRelationship := some ⟨"rel_AAAAAAAAAAAAAAAAAAAAAA", 2, .confirmed,
    "\"relationship-r2\"", none, 2000, none⟩

/-- Bob is a confirmed peer whom the authority allows, and every text is his heartbeat. -/
def heartbeatEnvironment : InboundEnvironment dateParse where
  now := 5000
  connections := ⟨[bobConnection], by decide +kernel⟩
  relationshipService := some fun _ => .ok .confirmed
  parse _ := .envelope ⟨"message-1", "teti_bbbbbbbbb", [],
    .presence ⟨[], 2, none, none, none, none⟩⟩
  toISOString _ := []
  toLowerCase address := address.map Char.toLower
  downloadMessageAttachment := none
  passportWritten := true
  contentSha256 _ := ""
  tasks := steadyEnvironment "teti_aaaaaaaaa" [] 5000
  taskSha256 _ := ""

def unaddressedHeartbeat : ChatmailReceivedMessage := ⟨7, [], none, none, none, none⟩

/-- Bob's heartbeat without a transport address is taken, although it did not arrive
from his address. -/
theorem unaddressed_heartbeat_taken :
    ¬∀ (parseDate : JsString → Option Timestamp) (env : InboundEnvironment parseDate)
      (message : ChatmailReceivedMessage) (tables : PeerTables parseDate),
      ((processApplicationMessage env message).exec tables).2.observed ≠ tables.observed →
      Gate env message := by
  intro h
  have hnoted : ((processApplicationMessage heartbeatEnvironment unaddressedHeartbeat).exec
      emptyTables).2.heartbeatReceived "rel_AAAAAAAAAAAAAAAAAAAAAA" = some 5000 := by
    decide +kernel
  have hchanged : ((processApplicationMessage heartbeatEnvironment unaddressedHeartbeat).exec
      emptyTables).2.observed ≠ (emptyTables : PeerTables dateParse).observed := by
    generalize ((processApplicationMessage heartbeatEnvironment unaddressedHeartbeat).exec
      emptyTables).2 = after at hnoted
    intro hsame
    have hreceived : after.heartbeatReceived "rel_AAAAAAAAAAAAAAAAAAAAAA" = none :=
      congrFun (congrArg Observed.heartbeatReceived hsame) "rel_AAAAAAAAAAAAAAAAAAAAAA"
    rw [hnoted] at hreceived
    cases hreceived
  obtain ⟨_, -, _, -, harrived⟩ :=
    h dateParse heartbeatEnvironment unaddressedHeartbeat emptyTables hchanged
  cases harrived

end TetiBot.Connections

import TetiBot.Network.Types
import TetiBot.Library.Program
import TetiBot.Library.Transition

/-
The registration of the first client (`services/network/identity-service.ts`,
`credential-store.ts`).

* `CredentialRecord`: the keys, with the write that is pending or the binding that was
  committed; never both.
* `IdentityWorld`: the account and the credentials on the disk, how the next calls to disk
  and network end, and what was sent.  A call that fails is also where a process may end:
  nothing is undone after a throw.
* `performSynchronization`: an attempt, in the order of the source.
* `Recoverable`: a pending write that belongs to the account.
* `pending_registration_recoverable`: the pending write stays as it is, and its session is
  committed exactly by a start that runs the version and the platform of its body.
-/

namespace TetiBot

open Library Library.JsString Library.Program

/-! ### Accounts, credentials and sessions -/

inductive FirstClientOperation
  | register | adopt
  deriving DecidableEq

inductive NetworkEnvironment
  | production | localDevelopment
  deriving DecidableEq

inductive IdentityState
  | pending | active | revoked | conflict
  deriving DecidableEq

/-- What is read of `TetiNetworkIdentityBinding`. -/
structure IdentityBinding where
  environment : Option NetworkEnvironment
  mode : FirstClientOperation
  state : IdentityState
  identityPublicKey : Option String
  clientInstanceId : Option String
  deriving DecidableEq

/-- What is read of `TetiAccount`. -/
structure NetworkAccount where
  id : TetiId
  address : String
  publicKey : Option String
  networkIdentity : Option IdentityBinding
  deriving DecidableEq

/-- `TetiNetworkCredentialScope`. -/
structure CredentialScope where
  environment : NetworkEnvironment
  deliveryAddress : String
  transportPublicKey : Option String
  deriving DecidableEq

/-- `TetiNetworkPendingIdentityWrite`. -/
structure PendingIdentityWrite where
  operation : FirstClientOperation
  idempotencyKey : String
  rawBody : JsString
  deriving DecidableEq

/-- The fields of a bound credential record. -/
structure ClientBinding where
  tetiId : TetiId
  clientInstanceId : String
  platform : String
  appVersion : String
  deriving DecidableEq

/-- A record is bound, or it may have a pending write. -/
inductive Enrollment
  | unbound (pending : Option PendingIdentityWrite)
  | bound (binding : ClientBinding)
  deriving DecidableEq

/-- `TetiNetworkCredentialRecord`; of each key only the public half is read. -/
structure CredentialRecord where
  scope : Option CredentialScope
  identityKey : String
  clientKey : String
  enrollment : Enrollment
  deriving DecidableEq

/-- What is read of `TetiNetworkIdentitySession`. -/
structure IdentitySession where
  tetiId : TetiId
  identityPublicKey : String
  identityActive : Bool
  clientInstanceId : String
  clientPublicKey : String
  platform : String
  appVersion : String
  clientActive : Bool
  deliveryAddress : String
  deliveryPublicKey : Option String
  deriving DecidableEq

/-- What a start of the application brings along: its options, the keys that it would
generate and the signature of the identity root that it would make. -/
structure IdentityConfig where
  environment : NetworkEnvironment
  platform : String
  appVersion : String
  adoptionGrant : Option String
  newIdentityKey : String
  newClientKey : String
  identityAuthorization : String
  idempotencyKey : String
  deriving DecidableEq

/-! ### What the credential store checks -/

def isTokenCharacter (c : Char) : Bool :=
  isAsciiAlphanumeric c || c == '.' || c == '_' || c == '+' || c == '-'

/-- `/^[A-Za-z0-9._+-]{1,n}$/`. -/
def isClientToken (n : Nat) (s : String) : Bool :=
  1 ≤ s.toList.length && s.toList.length ≤ n && s.toList.all isTokenCharacter

/-- `/^ci_[A-Za-z0-9_-]{22}$/`. -/
def isClientInstanceId (s : String) : Bool :=
  match s.toList with
  | 'c' :: 'i' :: '_' :: rest => rest.length == 22 && rest.all isBase64Url
  | _ => false

/-- `validateCredentialScope`. -/
def CredentialScope.valid (scope : CredentialScope) : Bool :=
  let short (n : Nat) (s : String) : Bool := s != "" && decide ((ofString s).length ≤ n)
  short 320 scope.deliveryAddress && scope.transportPublicKey.all (short 16384)

def PendingIdentityWrite.valid (pending : PendingIdentityWrite) : Bool :=
  isIdempotencyKey pending.idempotencyKey && !pending.rawBody.isEmpty
    && decide (utf8Size pending.rawBody ≤ 16384)
    && ((Json.parse pending.rawBody).bind recordFields?).isSome

def ClientBinding.valid (binding : ClientBinding) : Bool :=
  isCanonicalTetiPublicId binding.tetiId && isClientInstanceId binding.clientInstanceId
    && isClientToken 32 binding.platform && isClientToken 64 binding.appVersion

/-- `validateCredentialRecord`, which guards the store in both directions. -/
def CredentialRecord.valid (record : CredentialRecord) : Bool :=
  record.identityKey != record.clientKey && record.scope.all CredentialScope.valid
    && match record.enrollment with
      | .unbound pending => pending.all PendingIdentityWrite.valid
      | .bound binding => binding.valid

/-! ### Requests -/

def optionalKey : Option String → Json
  | none => .null
  | some s => jsonText s

variable (config : IdentityConfig)

/-- `createFirstClientRequest`, without the check of the grant. -/
def firstClientRequest (mode : FirstClientOperation) (account : NetworkAccount)
    (credentials : CredentialRecord) : Json :=
  let adoption : List (String × Json) := match mode with
    | .register => []
    | .adopt => [("tetiId", jsonText account.id),
        ("adoptionGrant", jsonText (config.adoptionGrant.getD ""))]
  .obj ((("schemaVersion", .num 1) :: adoption) ++
    [("identityPublicKey", jsonText credentials.identityKey),
      ("clientInstance", .obj [("publicKey", jsonText credentials.clientKey),
        ("platform", jsonText config.platform), ("appVersion", jsonText config.appVersion)]),
      ("identityAuthorization", jsonText config.identityAuthorization),
      ("delivery", .obj [("address", jsonText account.address),
        ("publicKey", optionalKey account.publicKey)])])

/-- The fields of an object within a body. -/
def objectField (fields : List (String × Json)) (name : String) : Option (List (String × Json)) :=
  (Json.lookup fields name).bind recordFields?

/-- `parsePendingRequest`: the fields of the body, if it belongs to the keys. -/
def parsePendingRequest (pending : PendingIdentityWrite) (credentials : CredentialRecord) :
    Option (List (String × Json)) := do
  let body ← (Json.parse pending.rawBody).bind recordFields?
  let client ← objectField body "clientInstance"
  let forOperation : Bool := match pending.operation with
    | .adopt => (stringField body "tetiId").isSome && (stringField body "adoptionGrant").isSome
    | .register => !hasField body "tetiId" && !hasField body "adoptionGrant"
  if numberField body "schemaVersion" == some 1
      && textField body "identityPublicKey" == some credentials.identityKey
      && textField client "publicKey" == some credentials.clientKey && forOperation
  then some body else none

/-- The delivery key of a body: `null`, or a string. -/
def deliveryKeyIs (delivery : List (String × Json)) (publicKey : Option String) : Bool :=
  match publicKey with
  | none => (Json.lookup delivery "publicKey").any fun v => match v with
    | .null => true
    | _ => false
  | some key => textField delivery "publicKey" == some key

/-- `pendingRequestMatchesAccount`. -/
def pendingRequestMatchesAccount (operation : FirstClientOperation) (body : List (String × Json))
    (expectedOperation : FirstClientOperation) (account : NetworkAccount) : Bool :=
  match objectField body "delivery" with
  | none => false
  | some delivery => operation == expectedOperation
    && textField delivery "address" == some account.address
    && deliveryKeyIs delivery account.publicKey
    && (operation == .register || textField body "tetiId" == some account.id)

/-- The platform and the version in a body. -/
def bodyPlatform (body : List (String × Json)) : Option String :=
  (objectField body "clientInstance").bind fun client => textField client "platform"

def bodyAppVersion (body : List (String × Json)) : Option String :=
  (objectField body "clientInstance").bind fun client => textField client "appVersion"

/-! ### The world -/

/-- How a call to the disk or to the network ends; a write that fails may have written. -/
structure IdentityWorld where
  account : Option NetworkAccount
  credentials : Option CredentialRecord
  fates : List SaveResult
  sent : List PendingIdentityWrite
  /-- Bound credentials have been written. -/
  registered : Bool
  deriving DecidableEq

abbrev IdentityProgram (α : Type) : Type := Program NetworkFailure IdentityWorld α

/-- How the next call ends. -/
def nextFate : IdentityProgram SaveResult := do
  let fate ← reads fun w => w.fates.headD .done
  writes fun w => { w with fates := w.fates.tail }
  return fate

/-- A call that writes nothing. -/
def readingCall : IdentityProgram Unit := do
  throwIf ((← nextFate) ≠ .done) .other

/-- A write to the disk. -/
def write (change : IdentityWorld → IdentityWorld) : IdentityProgram Unit := do
  match ← nextFate with
  | .done => writes change
  | .failed true => do
    writes change
    raise .other
  | .failed false => raise .other

variable (account : NetworkAccount)

def saveAccount : IdentityProgram Unit :=
  write fun w => { w with account := some account }

def saveCredentials (record : CredentialRecord) : IdentityProgram Unit := do
  throwIf (record.valid = false) .other
  write fun w => { w with credentials := some record }

def removeCredentials : IdentityProgram Unit := write fun w => { w with credentials := none }

def loadAccount : IdentityProgram NetworkAccount := do
  readingCall
  orThrow (← reads IdentityWorld.account) .other

def loadCredentials : IdentityProgram (Option CredentialRecord) := do
  readingCall
  let credentials ← reads IdentityWorld.credentials
  throwIf (credentials.any (fun record => !record.valid) = true) .other
  return credentials

/-! ### An attempt -/

def localConflict : NetworkFailure := .network .networkConflict false

def unauthorized : NetworkFailure := .network .networkUnauthorized false

def credentialScope (environment : NetworkEnvironment) (account : NetworkAccount) :
    CredentialScope :=
  ⟨environment, account.address, account.publicKey⟩

def NetworkAccount.isActive : Bool :=
  account.networkIdentity.any fun binding => binding.state == .active

variable (account : NetworkAccount)

/-- `prepareForRegistration`. -/
def prepareForRegistration : IdentityProgram NetworkAccount := do
  if account.isActive then
    let pending : NetworkAccount := { account with
      networkIdentity := some ⟨some config.environment, .register, .pending, none, none⟩ }
    saveAccount pending
    return pending
  else return account

variable (record : CredentialRecord)

/-- `boundCredentialMatchesActiveBinding`. -/
def boundCredentialMatches (bound : ClientBinding) (environment : NetworkEnvironment) : Bool :=
  match account.networkIdentity with
  | none => true
  | some binding =>
    if binding.state ≠ .active ∨ binding.environment ≠ some environment then true
    else binding.identityPublicKey == some record.identityKey
      && binding.clientInstanceId == some bound.clientInstanceId && account.id == bound.tetiId

/-- The credentials are discarded. -/
def discardCredentials : IdentityProgram (NetworkAccount × Option CredentialRecord) := do
  removeCredentials
  return (← prepareForRegistration config account, none)

variable (credentials : Option CredentialRecord)

/-- Credentials of another scope: bound ones are discarded, the others are kept. -/
def ownScope : IdentityProgram (NetworkAccount × Option CredentialRecord) :=
  match credentials with
  | none => return (account, none)
  | some record =>
    if record.scope = some (credentialScope config.environment account) then
      return (account, some record)
    else match record.enrollment with
      | .bound _ => discardCredentials config account
      | .unbound _ => do
        let record := { record with scope := some (credentialScope config.environment account) }
        saveCredentials record
        return (account, some record)

/-- Bound credentials that are not those of the account are discarded. -/
def ownBinding : IdentityProgram (NetworkAccount × Option CredentialRecord) :=
  match credentials with
  | some ⟨scope, identityKey, clientKey, .bound bound⟩ =>
    let record : CredentialRecord := ⟨scope, identityKey, clientKey, .bound bound⟩
    if boundCredentialMatches account record bound config.environment then
      return (account, some record)
    else discardCredentials config account
  | credentials => return (account, credentials)

/-- Where there are no credentials, new ones are made. -/
def requireCredentials : IdentityProgram (NetworkAccount × CredentialRecord) :=
  match credentials with
  | some record => return (account, record)
  | none => do
    throwIf ((account.networkIdentity.any fun binding =>
      binding.state == .active && binding.environment == some config.environment) = true) unauthorized
    let account ← prepareForRegistration config account
    let record : CredentialRecord := ⟨some (credentialScope config.environment account),
      config.newIdentityKey, config.newClientKey, .unbound none⟩
    saveCredentials record
    return (account, record)

/-- `ensureTransportKeysAreSeparate`. -/
def sharesTransportKey : Bool :=
  account.publicKey.any fun key => key != "" && (key == record.identityKey || key == record.clientKey)

variable (session : IdentitySession)

/-- `validateSession`. -/
def sessionMatches : Bool :=
  let (expectedPlatform, expectedAppVersion) := match record.enrollment with
    | .bound binding => (binding.platform, binding.appVersion)
    | .unbound _ => (config.platform, config.appVersion)
  session.identityPublicKey == record.identityKey && session.clientPublicKey == record.clientKey
    && session.deliveryAddress == account.address && session.deliveryPublicKey == account.publicKey
    && session.platform == expectedPlatform && session.appVersion == expectedAppVersion
    && session.identityActive && session.clientActive
    && match record.enrollment with
      | .bound binding => session.tetiId == binding.tetiId
      | .unbound (some ⟨.adopt, _, _⟩) => session.tetiId == account.id
      | .unbound _ => true

/-- The mode of the registration that is to be made, or was. -/
def NetworkAccount.mode : FirstClientOperation :=
  (account.networkIdentity.map IdentityBinding.mode).getD .adopt

/-- The account that `commitSession` saves. -/
def committedAccount : NetworkAccount :=
  let mode := match record.enrollment with
    | .unbound (some pending) => pending.operation
    | _ => account.mode
  { account with
    id := session.tetiId
    networkIdentity := some ⟨some config.environment, mode, .active,
      some session.identityPublicKey, some session.clientInstanceId⟩ }

/-- The credentials that `commitSession` saves. -/
def boundCredentials : CredentialRecord :=
  { record with
    scope := some (record.scope.getD (credentialScope config.environment account))
    enrollment := .bound ⟨session.tetiId, session.clientInstanceId, session.platform,
      session.appVersion⟩ }

/-- `commitSession`. -/
def commitSession : IdentityProgram NetworkAccount := do
  throwIf (sessionMatches config account record session = false) localConflict
  let bound := boundCredentials config account record session
  throwIf (bound.valid = false) .other
  write fun w => { w with credentials := some bound, registered := true }
  saveAccount (committedAccount config account record session)
  return committedAccount config account record session

/-- A stored write of another account is dropped. -/
def dropStalePending (pending : Option PendingIdentityWrite) :
    IdentityProgram (Option PendingIdentityWrite) :=
  match pending with
  | none => return none
  | some stored => do
    let body ← orThrow (parsePendingRequest stored record) localConflict
    if pendingRequestMatchesAccount stored.operation body account.mode account then
      return some stored
    else
      saveCredentials { record with enrollment := .unbound none }
      return none

/-- The write that `requirePending` stores. -/
def freshPending : PendingIdentityWrite :=
  ⟨account.mode, config.idempotencyKey,
    Json.stringify (firstClientRequest config account.mode account record)⟩

/-- A write is stored before it is sent for the first time. -/
def requirePending (pending : Option PendingIdentityWrite) : IdentityProgram PendingIdentityWrite :=
  match pending with
  | some stored => return stored
  | none => do
    throwIf (account.mode = .adopt ∧ config.adoptionGrant.all (· == "") = true) unauthorized
    let fresh := freshPending config account record
    saveCredentials { record with enrollment := .unbound (some fresh) }
    return fresh

variable (answer : Except NetworkFailure IdentitySession)

/-- The write is sent; `answer` is the session that the network returns. -/
def enrollFirstClient (account : NetworkAccount)
    (record : CredentialRecord) (pending : Option PendingIdentityWrite) :
    IdentityProgram NetworkAccount := do
  let stored ← dropStalePending account record pending
  let request ← requirePending config account record stored
  let _ ← orThrow (parsePendingRequest request record) localConflict
  writes fun w => { w with sent := w.sent ++ [request] }
  let session ← fromExcept answer
  commitSession config account { record with enrollment := .unbound (some request) } session

/-- `performSynchronization`. -/
def performSynchronization : IdentityProgram NetworkAccount := do
  let account ← loadAccount
  readingCall
  let credentials ← loadCredentials
  let (account, credentials) ← ownScope config account credentials
  let (account, credentials) ← ownBinding config account credentials
  let (account, record) ← requireCredentials config account credentials
  throwIf (sharesTransportKey account record = true) localConflict
  match record.enrollment with
  | .bound _ => do
    let session ← fromExcept answer
    commitSession config account record session
  | .unbound pending => enrollFirstClient config answer account record pending

/-! ### Pending writes that can be recovered -/

/-- The pending write of a record, with the fields of its body: it belongs to the account,
and platform and version were checked when the service that wrote it was constructed. -/
structure Recoverable (account : NetworkAccount) (record : CredentialRecord)
    (pending : PendingIdentityWrite) (body : List (String × Json)) : Prop where
  valid : record.valid = true
  enrollment : record.enrollment = .unbound (some pending)
  parses : parsePendingRequest pending record = some body
  belongs : pendingRequestMatchesAccount pending.operation body account.mode account = true
  separate : sharesTransportKey account record = false
  scope : ∀ environment, (credentialScope environment account).valid = true
  platform : ∀ platform ∈ bodyPlatform body, isClientToken 32 platform = true
  appVersion : ∀ appVersion ∈ bodyAppVersion body, isClientToken 64 appVersion = true

/-- The session that the network returns for a body: its fields are those of the body. -/
structure SessionFor (operation : FirstClientOperation) (body : List (String × Json))
    (session : IdentitySession) : Prop where
  identityPublicKey : textField body "identityPublicKey" = some session.identityPublicKey
  client : ∃ client, objectField body "clientInstance" = some client
    ∧ textField client "publicKey" = some session.clientPublicKey
    ∧ textField client "platform" = some session.platform
    ∧ textField client "appVersion" = some session.appVersion
  delivery : ∃ delivery, objectField body "delivery" = some delivery
    ∧ textField delivery "address" = some session.deliveryAddress
    ∧ deliveryKeyIs delivery session.deliveryPublicKey = true
  tetiId : operation = .adopt → textField body "tetiId" = some session.tetiId
  active : session.identityActive = true ∧ session.clientActive = true
  wellFormed : isCanonicalTetiPublicId session.tetiId = true
    ∧ isClientInstanceId session.clientInstanceId = true

/-- The write is still pending: account and record are as they were, up to the scope, and
nothing else was sent since. -/
def StillPending (pending : PendingIdentityWrite)
    (sent : List PendingIdentityWrite) (w : IdentityWorld) : Prop :=
  w.account = some account
    ∧ (∃ scope, w.credentials = some { record with scope := scope }
        ∧ CredentialRecord.valid { record with scope := scope } = true)
    ∧ (∀ q ∈ w.sent, q ∈ sent ∨ q = pending)

section Attempts

variable {account : NetworkAccount} {record : CredentialRecord} {pending : PendingIdentityWrite}
  {body : List (String × Json)} {sent : List PendingIdentityWrite} {config : IdentityConfig}
  {answer : Except NetworkFailure IdentitySession}

variable {P : IdentityWorld → Prop}

lemma keeps_nextFate (hfate : ∀ w, P w → P { w with fates := w.fates.tail }) :
    Keeps P nextFate fun _ => True := by
  refine .bind (R := fun _ => True) (.reads fun _ _ => trivial) fun fate _ => ?_
  exact .bind (R := fun _ => True) (.writes hfate) fun _ _ => .pure trivial

variable {change : IdentityWorld → IdentityWorld}

/-- What a write does to what holds before it, whether it is done or fails. -/
lemma triple_write {Q : IdentityWorld → Prop}
    (hfate : ∀ w, P w → P { w with fates := w.fates.tail }) (hchange : ∀ w, P w → Q (change w)) :
    Triple P (write change) (fun _ => Q) fun _ w => Q w ∨ P w := by
  refine Triple.bind (R := fun _ => P) ?_ fun fate => ?_
  · exact Triple.weaken (keeps_nextFate hfate) (fun _ => id) (fun _ _ hw => hw.1) fun _ _ => .inr
  · rcases fate with _ | written
    · exact .writes hchange
    · cases written
      · exact .raise fun _ => .inr
      · exact .bind (.writes (Q := fun _ => Q) hchange) fun _ => .raise fun _ => .inl

lemma keeps_write (hfate : ∀ w, P w → P { w with fates := w.fates.tail })
    (hchange : ∀ w, P w → P (change w)) : Keeps P (write change) fun _ => True :=
  (triple_write hfate hchange).weaken (fun _ => id) (fun _ _ hw => ⟨hw, trivial⟩)
    fun _ _ hw => hw.elim id id

lemma keeps_readingCall : Keeps (StillPending account record pending sent) readingCall fun _ => True :=
  .bind (keeps_nextFate fun _ => id) fun _ _ => .weaken .throwIf fun _ _ => trivial

lemma keeps_loadAccount :
    Keeps (StillPending account record pending sent) loadAccount fun a => a = account := by
  refine .bind keeps_readingCall fun _ _ => ?_
  refine .bind (.reads (Q := fun a => a = some account) fun w hw => hw.1) fun stored hstored => ?_
  exact .weaken .orThrow fun a ha => Option.some.inj (ha.symm.trans hstored)

/-- The record, up to its scope. -/
def SameRecord (record : CredentialRecord) (other : CredentialRecord) : Prop :=
  ∃ scope, other = { record with scope := scope } ∧ other.valid = true

lemma keeps_loadCredentials : Keeps (StillPending account record pending sent) loadCredentials
    fun c => ∃ other, c = some other ∧ SameRecord record other := by
  refine .bind keeps_readingCall fun _ _ => ?_
  refine .bind (.reads (Q := fun c => ∃ other, c = some other ∧ SameRecord record other)
    fun w hw => ?_) fun stored hstored => ?_
  · obtain ⟨scope, hscope, hvalid⟩ := hw.2.1
    exact ⟨_, hscope, scope, rfl, hvalid⟩
  · exact .bind .throwIf fun _ _ => .pure hstored

lemma Recoverable.own (h : Recoverable account record pending body)
    (environment : NetworkEnvironment) :
    CredentialRecord.valid { record with
      scope := some (credentialScope environment account) } = true := by
  have hbefore := h.valid
  simp only [CredentialRecord.valid, Bool.and_eq_true, Option.all_some] at hbefore ⊢
  exact ⟨⟨hbefore.1.1, h.scope _⟩, hbefore.2⟩

lemma keeps_ownScope (h : Recoverable account record pending body) {other : CredentialRecord}
    (hother : SameRecord record other) :
    Keeps (StillPending account record pending sent) (ownScope config account (some other))
      fun r => r.1 = account ∧ ∃ own, r.2 = some own ∧ SameRecord record own := by
  obtain ⟨scope, rfl, hvalid⟩ := hother
  unfold ownScope
  dsimp only
  refine .ite (fun _ => .pure ⟨rfl, _, rfl, scope, rfl, hvalid⟩) fun _ => ?_
  rw [h.enrollment]
  have hown := h.own config.environment
  refine .bind (.bind .throwIf fun _ _ => keeps_write (fun _ => id) fun w hw =>
      ⟨hw.1, ⟨_, ?_, hown⟩, hw.2.2⟩)
    fun _ _ => .pure ⟨rfl, _, ?_, _, rfl, hown⟩
  · rw [h.enrollment]
  · rw [h.enrollment]

lemma ownBinding_unbound {other : CredentialRecord}
    (hunbound : other.enrollment = .unbound (some pending)) :
    ownBinding config account (some other) = pure (account, some other) := by
  obtain ⟨scope, identityKey, clientKey, enrollment⟩ := other
  obtain rfl : enrollment = .unbound (some pending) := hunbound
  rfl

variable {own : CredentialRecord}

lemma enrollFirstClient_pending (h : Recoverable account record pending body)
    (hown : SameRecord record own) :
    enrollFirstClient config answer account own (some pending) = (do
      writes fun w => { w with sent := w.sent ++ [pending] }
      let session ← fromExcept answer
      commitSession config account own session) := by
  obtain ⟨scope, rfl, -⟩ := hown
  have hparses : parsePendingRequest pending { record with scope := scope } = some body := h.parses
  have hpending : (Enrollment.unbound (some pending)) = record.enrollment := h.enrollment.symm
  simp only [enrollFirstClient, dropStalePending, requirePending, hparses, orThrow, pure_bind,
    h.belongs, if_true, hpending]

/-- Until the bound credentials are written, the write is still pending. -/
lemma triple_commit {session : IdentitySession} :
    Triple (StillPending account record pending sent) (commitSession config account own session)
      (fun _ w => w.registered = true)
      fun _ w => w.registered = true ∨ StillPending account record pending sent w := by
  refine .bind_throwIf (fun _ _ => .inr) fun _ => .bind_throwIf (fun _ _ => .inr) fun _ => ?_
  refine .bind (triple_write (Q := fun w => w.registered = true) (fun _ => id) fun _ _ => rfl) fun _ => ?_
  refine .bind (R := fun _ w => w.registered = true) ?_ fun _ => .pure fun _ => id
  have hsaved : Triple (fun w => w.registered = true)
      (saveAccount (committedAccount config account own session)) (fun _ w => w.registered = true)
      fun _ w => w.registered = true ∨ w.registered = true :=
    triple_write (fun _ => id) fun _ => id
  exact hsaved.weaken (fun _ => id) (fun _ _ => id) fun _ _ hw => .inl (hw.elim id id)

variable (config answer) in
/-- **An attempt** leaves the write pending, or the credentials are bound. -/
lemma triple_performSynchronization (h : Recoverable account record pending body) :
    Triple (StillPending account record pending sent) (performSynchronization config answer)
      (fun _ w => w.registered = true)
      fun _ w => w.registered = true ∨ StillPending account record pending sent w := by
  have hpending : ∀ {α : Type} {m : IdentityProgram α} {Q : α → Prop},
      Keeps (StillPending account record pending sent) m Q →
      Triple (StillPending account record pending sent) m
        (fun a w => StillPending account record pending sent w ∧ Q a)
        fun _ w => w.registered = true ∨ StillPending account record pending sent w :=
    fun hm => Triple.weaken hm (fun _ => id) (fun _ _ => id) fun _ _ => .inr
  refine .bind (hpending keeps_loadAccount) fun a => .of_fact ?_
  rintro rfl
  refine .bind (hpending keeps_readingCall) fun _ => .of_fact fun _ => ?_
  refine .bind (hpending keeps_loadCredentials) fun c => .of_fact ?_
  rintro ⟨stored, rfl, hstored⟩
  refine .bind (hpending (keeps_ownScope h hstored)) fun r => .of_fact ?_
  obtain ⟨a, c⟩ := r
  rintro ⟨rfl, own, rfl, hown⟩
  have hunbound : own.enrollment = .unbound (some pending) := by
    obtain ⟨scope, rfl, -⟩ := hown
    exact h.enrollment
  have hseparate : sharesTransportKey a own = false := by
    obtain ⟨scope, rfl, -⟩ := hown
    exact h.separate
  simp only [ownBinding_unbound hunbound, requireCredentials, pure_bind, hunbound]
  refine .bind_throwIf (fun hshared => absurd (hseparate.symm.trans hshared) (by decide)) fun _ => ?_
  rw [enrollFirstClient_pending h hown]
  refine .bind (R := fun _ => StillPending a record pending sent) ?_ fun _ =>
    .bind_fromExcept (fun _ _ _ => .inr) fun session _ => triple_commit
  refine .writes fun w hw => ⟨hw.1, hw.2.1, fun q hq => ?_⟩
  rcases List.mem_append.mp hq with hold | hnew
  · exact hw.2.2 q hold
  · exact .inr (List.mem_singleton.mp hnew)

/-! ### An attempt in which no call fails -/

variable {w : IdentityWorld} {session : IdentitySession}

lemma exec_nextFate (hfates : w.fates = []) : nextFate.exec w = (.ok .done, w) := by
  obtain ⟨stored, credentials, fates, before, registered⟩ := w
  obtain rfl : fates = [] := hfates
  rfl

lemma exec_readingCall (hfates : w.fates = []) : readingCall.exec w = (.ok (), w) := by
  rw [readingCall, exec_bind, exec_nextFate hfates]
  rfl

lemma exec_write (hfates : w.fates = []) : (write change).exec w = (.ok (), change w) := by
  rw [write, exec_bind, exec_nextFate hfates]
  rfl

lemma exec_throwIf_false {c : Prop} [Decidable c] {e : NetworkFailure} (hc : ¬c) :
    (throwIf c e : IdentityProgram Unit).exec w = (.ok (), w) := by
  rw [throwIf, if_neg hc]
  rfl

/-- What is known of a body that belongs to the keys of a record. -/
lemma parsePendingRequest_eq_some (h : parsePendingRequest pending record = some body) :
    ∃ client, objectField body "clientInstance" = some client
      ∧ textField body "identityPublicKey" = some record.identityKey
      ∧ textField client "publicKey" = some record.clientKey := by
  simp only [parsePendingRequest, Option.bind_eq_bind, Option.bind_eq_some_iff] at h
  obtain ⟨fields, -, client, hclient, hchecked⟩ := h
  split_ifs at hchecked with hchecks
  obtain rfl := Option.some.inj hchecked
  simp only [Bool.and_eq_true, beq_iff_eq] at hchecks
  exact ⟨client, hclient, hchecks.1.1.2, hchecks.1.2⟩

/-- What is known of a body that belongs to an account. -/
lemma pendingRequestMatchesAccount_iff {operation expected : FirstClientOperation} :
    pendingRequestMatchesAccount operation body expected account = true
      ↔ ∃ delivery, objectField body "delivery" = some delivery ∧ operation = expected
        ∧ textField delivery "address" = some account.address
        ∧ deliveryKeyIs delivery account.publicKey = true
        ∧ (operation = .register ∨ textField body "tetiId" = some account.id) := by
  unfold pendingRequestMatchesAccount
  cases objectField body "delivery" <;> simp [and_assoc]

lemma deliveryKeyIs_unique {delivery : List (String × Json)} {key key' : Option String}
    (h : deliveryKeyIs delivery key = true) (h' : deliveryKeyIs delivery key' = true) :
    key = key' := by
  have hnull : ∀ {s : String}, deliveryKeyIs delivery none = true →
      deliveryKeyIs delivery (some s) = true → False := by
    intro s hnone hsome
    simp only [deliveryKeyIs, textField, stringField, beq_iff_eq] at hnone hsome
    cases hlookup : Json.lookup delivery "publicKey" with
    | none => simp [hlookup] at hnone
    | some v => cases v <;> simp [hlookup] at hnone hsome
  cases key with
  | none =>
    cases key' with
    | none => rfl
    | some s' => exact (hnull h h').elim
  | some s =>
    cases key' with
    | none => exact (hnull h' h).elim
    | some s' => exact (beq_iff_eq.mp h).symm.trans (beq_iff_eq.mp h')

/-- The session of the body is the one that is expected, if platform and version are those
of the body. -/
lemma sessionMatches_iff (h : Recoverable account record pending body)
    (hsession : SessionFor pending.operation body session) (hown : SameRecord record own) :
    sessionMatches config account own session = true
      ↔ bodyPlatform body = some config.platform ∧ bodyAppVersion body = some config.appVersion := by
  obtain ⟨scope, rfl, -⟩ := hown
  obtain ⟨client, hclient, hidentityKey, hclientKey⟩ := parsePendingRequest_eq_some h.parses
  obtain ⟨delivery, hdelivery, -, haddress, hkey, htetiId⟩ :=
    pendingRequestMatchesAccount_iff.mp h.belongs
  obtain ⟨client', hclient', hsessionKey, hplatform, hversion⟩ := hsession.client
  obtain rfl := Option.some.inj (hclient.symm.trans hclient')
  obtain ⟨delivery', hdelivery', haddress', hkey'⟩ := hsession.delivery
  obtain rfl := Option.some.inj (hdelivery.symm.trans hdelivery')
  have hidentity : session.identityPublicKey = record.identityKey :=
    Option.some.inj (hsession.identityPublicKey.symm.trans hidentityKey)
  have hinstance : session.clientPublicKey = record.clientKey :=
    Option.some.inj (hsessionKey.symm.trans hclientKey)
  have hsame : session.deliveryAddress = account.address :=
    Option.some.inj (haddress'.symm.trans haddress)
  have hsameKey : session.deliveryPublicKey = account.publicKey := deliveryKeyIs_unique hkey' hkey
  have hadopted : (match Enrollment.unbound (some pending) with
      | .bound binding => session.tetiId == binding.tetiId
      | .unbound (some ⟨.adopt, _, _⟩) => session.tetiId == account.id
      | .unbound _ => true) = true := by
    obtain ⟨operation, key, rawBody⟩ := pending
    cases operation with
    | register => rfl
    | adopt =>
      have hid := htetiId.resolve_left (by simp)
      exact beq_iff_eq.mpr (Option.some.inj ((hsession.tetiId rfl).symm.trans hid))
  simp only [sessionMatches, h.enrollment, hidentity, hinstance, hsame, hsameKey, hadopted,
    hsession.active, beq_self_eq_true, Bool.and_true, Bool.true_and, Bool.and_eq_true, beq_iff_eq,
    bodyPlatform, bodyAppVersion, hclient, Option.bind_some, hplatform, hversion, Option.some.injEq]

variable (config) in
/-- The bound record passes the checks of the store. -/
lemma boundCredentials_valid (h : Recoverable account record pending body)
    (hsession : SessionFor pending.operation body session) (hown : SameRecord record own) :
    (boundCredentials config account own session).valid = true := by
  obtain ⟨scope, rfl, hvalid⟩ := hown
  obtain ⟨client, hclient, -, hplatform, hversion⟩ := hsession.client
  simp only [CredentialRecord.valid, Bool.and_eq_true] at hvalid
  obtain ⟨⟨hkeys, hscope⟩, -⟩ := hvalid
  have hscope' : (scope.getD (credentialScope config.environment account)).valid = true := by
    cases scope with
    | none => exact h.scope _
    | some scope => simpa using hscope
  have hbinding : ClientBinding.valid ⟨session.tetiId, session.clientInstanceId, session.platform,
      session.appVersion⟩ = true := by
    simp only [ClientBinding.valid, Bool.and_eq_true]
    refine ⟨⟨hsession.wellFormed, h.platform _ ?_⟩, h.appVersion _ ?_⟩
    · rw [bodyPlatform, hclient]
      exact hplatform
    · rw [bodyAppVersion, hclient]
      exact hversion
  simp only [boundCredentials, CredentialRecord.valid, hkeys, Option.all_some, hscope', hbinding,
    Bool.and_self]

/-- The session was committed. -/
def Committed (session : IdentitySession) (w : IdentityWorld) : Prop :=
  w.registered = true
    ∧ (∃ record ∈ w.credentials, record.enrollment = .bound ⟨session.tetiId,
        session.clientInstanceId, session.platform, session.appVersion⟩)
    ∧ ∃ account ∈ w.account, account.id = session.tetiId ∧ account.isActive = true

/-- The world after an attempt has sent the pending write. -/
def IdentityWorld.send (w : IdentityWorld) (own : CredentialRecord) (pending : PendingIdentityWrite) :
    IdentityWorld :=
  { w with credentials := some own, sent := w.sent ++ [pending] }

variable (config) in
/-- The record is brought to the scope of this start. -/
lemma exec_ownScope (h : Recoverable account record pending body) (hfates : w.fates = [])
    {scope : Option CredentialScope} (hstored : w.credentials = some { record with scope := scope })
    (hvalid : CredentialRecord.valid { record with scope := scope } = true) :
    ∃ own, SameRecord record own
      ∧ (ownScope config account (some { record with scope := scope })).exec w
        = (.ok (account, some own), { w with credentials := some own }) := by
  unfold ownScope
  dsimp only
  split_ifs with hscope
  · refine ⟨_, ⟨scope, rfl, hvalid⟩, ?_⟩
    obtain ⟨stored, credentials, fates, before, registered⟩ := w
    obtain rfl : credentials = _ := hstored
    rfl
  · have hown := h.own config.environment
    refine ⟨_, ⟨some (credentialScope config.environment account), rfl, hown⟩, ?_⟩
    rw [h.enrollment] at hown ⊢
    rw [saveCredentials, exec_bind, exec_bind, exec_throwIf_false (by simp [hown])]
    dsimp only
    rw [exec_write hfates]
    rfl

variable (config session) in
/-- **An attempt in which no call fails** sends the pending write, and commits its session
if that is what it expects. -/
lemma exec_performSynchronization (h : Recoverable account record pending body)
    (hpending : StillPending account record pending sent w) (hfates : w.fates = []) :
    ∃ own, SameRecord record own
      ∧ (performSynchronization config (.ok session)).exec w
        = (commitSession config account own session).exec (w.send own pending) := by
  obtain ⟨haccount, ⟨scope, hstored, hvalid⟩, -⟩ := hpending
  have hload : loadAccount.exec w = (.ok account, w) := by
    rw [loadAccount, exec_bind, exec_readingCall hfates]
    simp [exec_reads_bind, haccount, orThrow]
  have hcredentials : loadCredentials.exec w = (.ok (some { record with scope := scope }), w) := by
    rw [loadCredentials, exec_bind, exec_readingCall hfates]
    simp [exec_reads_bind, hstored, throwIf, hvalid]
  obtain ⟨own, hown, hscope⟩ := exec_ownScope config h hfates hstored hvalid
  refine ⟨own, hown, ?_⟩
  have hunbound : own.enrollment = .unbound (some pending) := by
    obtain ⟨scope, rfl, -⟩ := hown
    exact h.enrollment
  have hseparate : ¬sharesTransportKey account own = true := by
    obtain ⟨scope, rfl, -⟩ := hown
    exact Bool.eq_false_iff.mp h.separate
  rw [performSynchronization, exec_bind, hload]
  dsimp only
  rw [exec_bind, exec_readingCall hfates]
  dsimp only
  rw [exec_bind, hcredentials]
  dsimp only
  rw [exec_bind, hscope]
  dsimp only
  rw [ownBinding_unbound hunbound, pure_bind]
  dsimp only
  rw [requireCredentials, pure_bind, exec_bind, exec_throwIf_false hseparate]
  dsimp only
  rw [hunbound]
  dsimp only
  rw [enrollFirstClient_pending h hown]
  rfl

lemma exec_commitSession (h : Recoverable account record pending body)
    (hsession : SessionFor pending.operation body session) (hown : SameRecord record own)
    (hfates : w.fates = []) :
    (commitSession config account own session).exec w =
      if sessionMatches config account own session = true then
        (.ok (committedAccount config account own session), { w with
          account := some (committedAccount config account own session)
          credentials := some (boundCredentials config account own session)
          registered := true })
      else (.error localConflict, w) := by
  have hbound := boundCredentials_valid config h hsession hown
  rw [commitSession]
  split_ifs with hmatches
  · rw [exec_bind, exec_throwIf_false (by simp [hmatches])]
    dsimp only
    rw [exec_bind, exec_throwIf_false (by simp [hbound])]
    dsimp only
    rw [exec_bind, exec_write hfates]
    dsimp only
    rw [saveAccount, exec_bind, exec_write (w := { w with
      credentials := some (boundCredentials config account own session)
      registered := true }) hfates]
    rfl
  · rw [exec_bind, throwIf, if_pos (Bool.eq_false_iff.mpr hmatches)]
    rfl

end Attempts

/-! ### The write that an attempt stores -/

lemma firstClientRequest_distinct (mode : FirstClientOperation) (account : NetworkAccount)
    (record : CredentialRecord) : (firstClientRequest config mode account record).Distinct := by
  cases mode <;> cases hkey : account.publicKey <;>
    simp [firstClientRequest, Json.Distinct, Json.DistinctFields, jsonText, optionalKey, hkey]

/-- What is read of the body of a first request. -/
lemma firstClientRequest_fields (mode : FirstClientOperation) (account : NetworkAccount)
    (record : CredentialRecord) :
    ∃ body client delivery, firstClientRequest config mode account record = .obj body
      ∧ numberField body "schemaVersion" = some 1
      ∧ textField body "identityPublicKey" = some record.identityKey
      ∧ objectField body "clientInstance" = some client
      ∧ textField client "publicKey" = some record.clientKey
      ∧ textField client "platform" = some config.platform
      ∧ textField client "appVersion" = some config.appVersion
      ∧ objectField body "delivery" = some delivery
      ∧ textField delivery "address" = some account.address
      ∧ deliveryKeyIs delivery account.publicKey = true
      ∧ (match mode with
        | .adopt => textField body "tetiId" = some account.id ∧ (stringField body "tetiId").isSome
          ∧ (stringField body "adoptionGrant").isSome
        | .register => hasField body "tetiId" = false ∧ hasField body "adoptionGrant" = false) := by
  refine ⟨_, [("publicKey", jsonText record.clientKey), ("platform", jsonText config.platform),
    ("appVersion", jsonText config.appVersion)], [("address", jsonText account.address),
    ("publicKey", optionalKey account.publicKey)], rfl, ?_⟩
  cases mode <;> cases hkey : account.publicKey <;>
    simp [objectField, textField, stringField, numberField, hasField, deliveryKeyIs, optionalKey,
      recordFields?, Json.lookup_cons, Json.lookup_nil, jsonText, toString?_ofString]

/-- The session that the network returns for the request of a start. -/
def enrolledSession (account : NetworkAccount) (record : CredentialRecord) (tetiId : TetiId)
    (clientInstanceId : String) : IdentitySession where
  tetiId := tetiId
  identityPublicKey := record.identityKey
  identityActive := true
  clientInstanceId := clientInstanceId
  clientPublicKey := record.clientKey
  platform := config.platform
  appVersion := config.appVersion
  clientActive := true
  deliveryAddress := account.address
  deliveryPublicKey := account.publicKey

/-- **What an attempt stores can be recovered**: the write belongs to the account, and its
body has the platform and the version of the start that made it. -/
lemma recoverable_freshPending (account : NetworkAccount) (record : CredentialRecord)
    (hvalid : CredentialRecord.valid { record with
      enrollment := .unbound (some (freshPending config account record)) } = true)
    (hscope : (credentialScope config.environment account).valid = true)
    (hseparate : sharesTransportKey account record = false)
    (hplatform : isClientToken 32 config.platform = true)
    (hversion : isClientToken 64 config.appVersion = true) :
    ∃ body, Recoverable account
        { record with enrollment := .unbound (some (freshPending config account record)) }
        (freshPending config account record) body
      ∧ bodyPlatform body = some config.platform ∧ bodyAppVersion body = some config.appVersion
      ∧ ∀ tetiId clientInstanceId, isCanonicalTetiPublicId tetiId = true →
        isClientInstanceId clientInstanceId = true → (account.mode = .adopt → tetiId = account.id) →
        SessionFor account.mode body (enrolledSession config account record tetiId clientInstanceId) := by
  obtain ⟨body, client, delivery, hbody, hschema, hidentity, hclient, hkey, hplatform', hversion',
    hdelivery, haddress, hdeliveryKey, hmode⟩ :=
    firstClientRequest_fields config account.mode account record
  have hparse : Json.parse (freshPending config account record).rawBody = some (.obj body) := by
    rw [← hbody]
    exact Json.parse_stringify (firstClientRequest_distinct _ _ _ _)
  have hrunsOn : bodyPlatform body = some config.platform := by
    rw [bodyPlatform, hclient]
    exact hplatform'
  have hruns : bodyAppVersion body = some config.appVersion := by
    rw [bodyAppVersion, hclient]
    exact hversion'
  refine ⟨body, ⟨hvalid, rfl, ?_, ?_, hseparate, fun _ => hscope, ?_, ?_⟩, hrunsOn, hruns, ?_⟩
  · have hoperation : (freshPending config account record).operation = account.mode := rfl
    rw [parsePendingRequest, hparse, hoperation]
    cases haccount : account.mode <;> rw [haccount] at hmode <;>
      simp [recordFields?, hclient, hschema, hidentity, hkey, hmode]
  · refine pendingRequestMatchesAccount_iff.mpr ⟨delivery, hdelivery, rfl, haddress, hdeliveryKey, ?_⟩
    cases haccount : account.mode <;> rw [haccount] at hmode
    · exact .inl haccount
    · exact .inr hmode.1
  · intro platform hmem
    rw [hrunsOn] at hmem
    exact Option.some.inj hmem ▸ hplatform
  · intro appVersion hmem
    rw [hruns] at hmem
    exact Option.some.inj hmem ▸ hversion
  · intro tetiId clientInstanceId hcanonical hinstance hadopted
    refine ⟨hidentity, ⟨client, hclient, hkey, hplatform', hversion'⟩,
      ⟨delivery, hdelivery, haddress, hdeliveryKey⟩, fun haccount => ?_, ⟨rfl, rfl⟩,
      hcanonical, hinstance⟩
    rw [haccount] at hmode
    exact hmode.1.trans (congrArg some (hadopted haccount).symm)

/-! ### Attempts -/

/-- A start of the application attempts the registration, which has not succeeded yet; its
calls end in any way. -/
def Attempted (w t : IdentityWorld) : Prop :=
  w.registered = false ∧ ∃ (config : IdentityConfig) (fates : List SaveResult)
    (answer : Except NetworkFailure IdentitySession),
    ((performSynchronization config answer).exec { w with fates := fates }).2 = t

/-- **A pending registration is recoverable**: however many attempts fail, wherever they
do, the write stays pending as it is and nothing else is sent; and an attempt in which no
call fails sends it once more, and commits the session of its body exactly if it runs on
the platform and in the version of the body. -/
theorem pending_registration_recoverable (account : NetworkAccount) (record : CredentialRecord)
    (pending : PendingIdentityWrite) (body : List (String × Json))
    (h : Recoverable account record pending body) (start w : IdentityWorld)
    (haccount : start.account = some account) (hcredentials : start.credentials = some record)
    (hreached : Reached Attempted start w) (hopen : w.registered = false) :
    StillPending account record pending start.sent w
      ∧ ∀ config session, SessionFor pending.operation body session →
        ∀ result t, (performSynchronization config (.ok session)).exec { w with fates := [] }
          = (result, t) →
        t.sent = w.sent ++ [pending]
          ∧ (result.isOk = true ∧ Committed session t
            ↔ bodyPlatform body = some config.platform
              ∧ bodyAppVersion body = some config.appVersion) := by
  have hstart : StillPending account record pending start.sent start :=
    ⟨haccount, ⟨record.scope, hcredentials, h.valid⟩, fun q hq => .inl hq⟩
  have hpending : StillPending account record pending start.sent w := by
    refine (hreached.invariant (I := fun w => w.registered = true
      ∨ StillPending account record pending start.sent w) (.inr hstart) ?_).resolve_left
        (by simp [hopen])
    rintro before after - hbefore ⟨hnot, config, fates, answer, rfl⟩
    have hkept := hbefore.resolve_left (by simp [hnot])
    exact ((triple_performSynchronization config answer h).weaken
      (fun _ => id) (fun _ _ => .inl) fun _ _ => id).world (w := { before with fates := fates }) hkept
  refine ⟨hpending, fun config session hsession result t hrun => ?_⟩
  obtain ⟨own, hown, hexec⟩ := exec_performSynchronization config session
    (w := { w with fates := [] }) h hpending rfl
  rw [hexec, exec_commitSession (w := IdentityWorld.send _ own pending) h hsession hown rfl] at hrun
  rw [← sessionMatches_iff h hsession hown]
  split_ifs at hrun with hmatches
  · obtain ⟨rfl, rfl⟩ := Prod.mk.inj hrun
    refine ⟨rfl, fun _ => hmatches, fun _ => ⟨rfl, rfl, ⟨_, rfl, rfl⟩, _, rfl, rfl, rfl⟩⟩
  · obtain ⟨rfl, rfl⟩ := Prod.mk.inj hrun
    exact ⟨rfl, fun hdone => absurd hdone.1 (by decide), fun hdone => absurd hdone hmatches⟩

/-- An account that is to be registered, with the keys of its first client. -/
def newAccount : NetworkAccount where
  id := "teti_abcdefgh1"
  address := "abcdefgh1@mail.example"
  publicKey := none
  networkIdentity := some ⟨some .production, .register, .pending, none, none⟩

/-- A start of the application in a version. -/
def startedAs (appVersion : String) : IdentityConfig where
  environment := .production
  platform := "macos"
  appVersion := appVersion
  adoptionGrant := none
  newIdentityKey := "root-key"
  newClientKey := "client-key"
  identityAuthorization := "signature"
  idempotencyKey := "identity.register:0001"

/-- The credentials of the first start, before its write is stored. -/
def newRecord : CredentialRecord :=
  ⟨some (credentialScope .production newAccount), "root-key", "client-key", .unbound none⟩

/-- The write that the start in version 1 has stored. -/
def pendingRegistration : PendingIdentityWrite := freshPending (startedAs "1.0.0") newAccount newRecord

def pendingWorld : IdentityWorld where
  account := some newAccount
  credentials := some { newRecord with enrollment := .unbound (some pendingRegistration) }
  fates := []
  sent := []
  registered := false

/-- The session that the network returns for the pending write. -/
def registeredSession : IdentitySession :=
  enrolledSession (startedAs "1.0.0") newAccount newRecord "teti_abcdefgh1" "ci_AAAAAAAAAAAAAAAAAAAAAA"

/-- The pending write can be recovered, and the session is the one for its body. -/
lemma pendingRegistration_recoverable :
    ∃ body, Recoverable newAccount { newRecord with enrollment := .unbound (some pendingRegistration) }
        pendingRegistration body
      ∧ bodyPlatform body = some "macos" ∧ bodyAppVersion body = some "1.0.0"
      ∧ SessionFor .register body registeredSession := by
  obtain ⟨body, hrecoverable, hplatform, hversion, hsession⟩ := recoverable_freshPending
    (startedAs "1.0.0") newAccount newRecord (by decide +kernel) (by decide +kernel) (by decide)
    (by decide +kernel) (by decide +kernel)
  exact ⟨body, hrecoverable, hplatform, hversion,
    hsession _ _ (by decide +kernel) (by decide +kernel) (by decide)⟩

/-- The next start, in the same version. -/
def restarted : Except NetworkFailure NetworkAccount × IdentityWorld :=
  (performSynchronization (startedAs "1.0.0") (.ok registeredSession)).exec pendingWorld

/-- It completes the registration. -/
theorem pending_registration_recoverable_restart :
    restarted.2.sent = [pendingRegistration] ∧ restarted.1.isOk = true
      ∧ Committed registeredSession restarted.2 := by
  obtain ⟨body, hrecoverable, hplatform, hversion, hsession⟩ := pendingRegistration_recoverable
  obtain ⟨-, hnext⟩ := pending_registration_recoverable newAccount _ _ body hrecoverable pendingWorld
    pendingWorld rfl rfl .refl rfl
  generalize hrun : restarted = run
  obtain ⟨result, t⟩ := run
  rw [restarted] at hrun
  obtain ⟨hsent, hdone⟩ := hnext (startedAs "1.0.0") registeredSession hsession result t hrun
  exact ⟨hsent, hdone.mpr ⟨hplatform, hversion⟩⟩

/-- A start in another version sends the pending write, and refuses the session of its
body; the write stays pending, so that every further attempt fails likewise. -/
theorem pending_registration_refused :
    (∃ body, Recoverable newAccount
        { newRecord with enrollment := .unbound (some pendingRegistration) } pendingRegistration body
      ∧ SessionFor .register body registeredSession)
    ∧ (performSynchronization (startedAs "1.0.1") (.ok registeredSession)).exec pendingWorld
      = (.error localConflict, { pendingWorld with sent := [pendingRegistration] }) := by
  obtain ⟨body, hrecoverable, -, -, hsession⟩ := pendingRegistration_recoverable
  exact ⟨⟨body, hrecoverable, hsession⟩, by decide +kernel⟩

end TetiBot

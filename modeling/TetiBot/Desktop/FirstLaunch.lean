import TetiBot.Library.Transition
import TetiBot.Memory.Types

/-
The coordinator of the first launch (`apps/desktop/src/first-launch/coordinator.ts`,
`state-machine.ts`, `core/account/display-name.ts`).

* `reduce`: the state machine; an event that its state does not allow is an
  `invalidTransition`.
* `Turn`: what a call of the coordinator does from one `await` to the next.
* `FirstLaunch`: the coordinator with the calls that wait for a dependency and the results
  of those that have settled.
* `firstLaunchStep`: a call is made, a dependency succeeds or fails, or the timer of
  `scheduleReadyCollapse` fires, in any order.
-/

namespace TetiBot

open Library Library.JsString
open Memory (includes)

/-! ### Snapshots, errors and events -/

inductive FirstLaunchStateName
  | booting | checkingExistingAccount | welcome | naming | creatingIdentity
  | synchronizingNetworkIdentity | ready | idle | recoverableError | fatalError
  deriving DecidableEq

def FirstLaunchStateName.text : FirstLaunchStateName → String
  | .booting => "booting"
  | .checkingExistingAccount => "checking_existing_account"
  | .welcome => "welcome"
  | .naming => "naming"
  | .creatingIdentity => "creating_identity"
  | .synchronizingNetworkIdentity => "synchronizing_network_identity"
  | .ready => "ready"
  | .idle => "idle"
  | .recoverableError => "recoverable_error"
  | .fatalError => "fatal_error"

inductive FirstLaunchCreationPhase
  | preparing | provisioningChatmail | persistingAccount | registeringIdentity
  | verifyingAccount | finalizing
  deriving DecidableEq

inductive FirstLaunchErrorKind
  | invalidName | temporaryAccountLoadFailure | corruptAccount | partialAccount
  | chatmailProvisioningFailure | localPersistenceFailure | networkIdentityFailure
  | loadedAccountVerificationFailure | unknownFailure | unrecoverableInternalState
  deriving DecidableEq

inductive DisplayNameValidationReason
  | empty | tooLong | controlCharacter
  deriving DecidableEq

structure FirstLaunchError where
  kind : FirstLaunchErrorKind
  recoverable : Bool
  diagnosticCode : JsString
  validationReason : Option DisplayNameValidationReason
  deriving DecidableEq

/-- `DEFAULT_DIAGNOSTIC_CODES`. -/
def FirstLaunchErrorKind.defaultDiagnosticCode : FirstLaunchErrorKind → String
  | .invalidName => "FL-NAME"
  | .temporaryAccountLoadFailure => "FL-LOAD"
  | .corruptAccount => "FL-CORRUPT"
  | .partialAccount => "FL-PARTIAL"
  | .chatmailProvisioningFailure => "FL-CHATMAIL"
  | .localPersistenceFailure => "FL-PERSIST"
  | .networkIdentityFailure => "FL-NETWORK"
  | .loadedAccountVerificationFailure => "FL-VERIFY"
  | .unknownFailure => "FL-UNKNOWN"
  | .unrecoverableInternalState => "FL-INTERNAL"

def createFirstLaunchError (kind : FirstLaunchErrorKind) (recoverable : Bool := true)
    (diagnosticCode : Option JsString := none)
    (validationReason : Option DisplayNameValidationReason := none) : FirstLaunchError where
  kind
  recoverable
  diagnosticCode := diagnosticCode.getD (ofString kind.defaultDiagnosticCode)
  validationReason

/-- What is read of `TetiAccount`. -/
structure FirstLaunchAccount where
  id : String
  chatmailAccountId : String
  displayName : Option JsString
  deriving DecidableEq

structure FirstLaunchSnapshot where
  state : FirstLaunchStateName
  nameInput : JsString
  submitting : Bool
  phase : Option FirstLaunchCreationPhase := none
  account : Option FirstLaunchAccount := none
  error : Option FirstLaunchError := none
  deriving DecidableEq

inductive FirstLaunchEvent
  | startCheck
  | noAccount
  | accountLoaded (account : FirstLaunchAccount)
  | accountRegistrationPending (account : FirstLaunchAccount) (error : FirstLaunchError)
  | loadFailed (error : FirstLaunchError)
  | showNaming
  | updateName (value : JsString)
  | submitName (value : JsString)
  | creationPhase (phase : FirstLaunchCreationPhase)
  | creationSucceeded (account : FirstLaunchAccount)
  | creationFailed (error : FirstLaunchError) (account : Option FirstLaunchAccount)
  | registrationRetryStarted
  | registrationRetrySucceeded (account : FirstLaunchAccount)
  | registrationRetryFailed (error : FirstLaunchError)
  | collapseToIdle
  | fatal (error : FirstLaunchError)
  deriving DecidableEq

namespace FirstLaunchEvent

/-- `event.type`. -/
def type : FirstLaunchEvent → String
  | startCheck => "start_check"
  | noAccount => "no_account"
  | accountLoaded _ => "account_loaded"
  | accountRegistrationPending _ _ => "account_registration_pending"
  | loadFailed _ => "load_failed"
  | showNaming => "show_naming"
  | updateName _ => "update_name"
  | submitName _ => "submit_name"
  | creationPhase _ => "creation_phase"
  | creationSucceeded _ => "creation_succeeded"
  | creationFailed _ _ => "creation_failed"
  | registrationRetryStarted => "registration_retry_started"
  | registrationRetrySucceeded _ => "registration_retry_succeeded"
  | registrationRetryFailed _ => "registration_retry_failed"
  | collapseToIdle => "collapse_to_idle"
  | fatal _ => "fatal"

/-- The states that `assertState` lets an event pass in. -/
def allowed : FirstLaunchEvent → FirstLaunchStateName → Bool
  | startCheck, s => s ∈ [.booting, .fatalError]
  | noAccount, s => s ∈ [.checkingExistingAccount]
  | accountLoaded _, s => s ∈ [.checkingExistingAccount, .creatingIdentity,
      .synchronizingNetworkIdentity, .recoverableError]
  | accountRegistrationPending _ _, s => s ∈ [.checkingExistingAccount]
  | loadFailed _, s => s ∈ [.checkingExistingAccount]
  | showNaming, s => s ∈ [.welcome, .recoverableError]
  | updateName _, s => s ∈ [.welcome, .naming, .recoverableError]
  | submitName _, s => s ∈ [.welcome, .naming, .recoverableError]
  | creationPhase _, s => s ∈ [.creatingIdentity]
  | creationSucceeded _, s => s ∈ [.creatingIdentity, .synchronizingNetworkIdentity]
  | creationFailed _ _, s => s ∈ [.welcome, .naming, .creatingIdentity, .recoverableError]
  | registrationRetryStarted, s => s ∈ [.recoverableError]
  | registrationRetrySucceeded _, s => s ∈ [.synchronizingNetworkIdentity]
  | registrationRetryFailed _, s => s ∈ [.synchronizingNetworkIdentity]
  | collapseToIdle, s => s ∈ [.ready]
  | fatal _, _ => true

/-- The snapshot after an event that was let pass. -/
def next (current : FirstLaunchSnapshot) : FirstLaunchEvent → FirstLaunchSnapshot
  | startCheck =>
    { state := .checkingExistingAccount, nameInput := current.nameInput, submitting := false }
  | noAccount => { state := .welcome, nameInput := current.nameInput, submitting := false }
  | accountLoaded account =>
    { state := .idle, nameInput := account.displayName.getD current.nameInput,
      submitting := false, account := some account }
  | accountRegistrationPending account error =>
    { state := .recoverableError, nameInput := account.displayName.getD current.nameInput,
      submitting := false, account := some account, error := some error }
  | loadFailed error =>
    { state := if error.recoverable then .recoverableError else .fatalError,
      nameInput := current.nameInput, submitting := false, error := some error }
  | showNaming => { state := .naming, nameInput := current.nameInput, submitting := false }
  | updateName value =>
    { current with
      state := if current.state = .welcome then .naming else current.state
      nameInput := value
      error := if current.error.map (·.kind) = some .invalidName then none else current.error }
  | submitName value =>
    { state := .creatingIdentity, nameInput := value, submitting := true, phase := some .preparing }
  | creationPhase phase => { current with phase := some phase, submitting := true }
  | creationSucceeded account =>
    { state := .ready, nameInput := account.displayName.getD current.nameInput,
      submitting := false, phase := some .finalizing, account := some account }
  | creationFailed error account =>
    { state := if error.recoverable then .recoverableError else .fatalError,
      nameInput := current.nameInput, submitting := false, account, error := some error }
  | registrationRetryStarted =>
    { current with
      state := .synchronizingNetworkIdentity
      submitting := true
      phase := some .registeringIdentity
      error := none }
  | registrationRetrySucceeded account =>
    { state := .ready, nameInput := account.displayName.getD current.nameInput,
      submitting := false, phase := some .finalizing, account := some account }
  | registrationRetryFailed error =>
    { state := .recoverableError, nameInput := current.nameInput, submitting := false,
      account := current.account, error := some error }
  | collapseToIdle =>
    { state := .idle, nameInput := current.nameInput, submitting := false,
      account := current.account }
  | fatal error =>
    { state := .fatalError, nameInput := current.nameInput, submitting := false,
      account := current.account, error := some error }

end FirstLaunchEvent

/-- How a dependency rejects: with a message and perhaps a diagnostic code, or with an error
of the first launch. -/
inductive FirstLaunchRejection
  | error (message : JsString) (diagnosticCode : Option JsString)
  | firstLaunch (message : JsString) (error : FirstLaunchError)
  deriving DecidableEq

/-- What the code of the coordinator may throw. -/
inductive FirstLaunchThrown
  | rejection (rejection : FirstLaunchRejection)
  | invalidTransition (type : String) (state : FirstLaunchStateName)
  deriving DecidableEq

def reduce (current : FirstLaunchSnapshot) (event : FirstLaunchEvent) :
    Except FirstLaunchThrown FirstLaunchSnapshot :=
  if event.allowed current.state then .ok (event.next current)
  else .error (.invalidTransition event.type current.state)

/-! ### Classification -/

namespace FirstLaunchThrown

/-- `error instanceof Error ? error.message : String(error)`. -/
def message : FirstLaunchThrown → JsString
  | rejection (.error message _) => message
  | rejection (.firstLaunch message _) => message
  | invalidTransition type state =>
    ofString s!"Cannot apply {type} while first launch is {state.text}."

def readDiagnosticCode : FirstLaunchThrown → Option JsString
  | rejection (.error _ code) => code
  | rejection (.firstLaunch _ error) => some error.diagnosticCode
  | invalidTransition _ _ => none

def isFirstLaunchError : FirstLaunchThrown → Bool
  | rejection (.firstLaunch _ _) => true
  | _ => false

end FirstLaunchThrown

/-- The letter that a regular expression without regard to case compares. -/
def foldCase (u : UInt16) : UInt16 := if 0x41 ≤ u && u ≤ 0x5A then u + 0x20 else u

/-- `/(word|...)/i.test(message)`. -/
def testIgnoringCase (words : List String) (message : JsString) : Bool :=
  words.any fun word => includes (message.map foldCase) ((ofString word).map foldCase)

def classifyAccountLoadError (error : FirstLaunchThrown) : FirstLaunchError :=
  let message := error.message
  if includes message (ofString "Unsupported Teti account version")
      || includes message (ofString "must not contain")
      || includes message (ofString "required") then
    createFirstLaunchError .corruptAccount false
  else createFirstLaunchError .temporaryAccountLoadFailure

def classifyCreationError (error : FirstLaunchThrown) : FirstLaunchError :=
  match error with
  | .rejection (.firstLaunch _ error) => error
  | error =>
    let message := error.message
    let diagnosticCode := error.readDiagnosticCode
    if diagnosticCode.any (ofString "CM_").isPrefixOf then
      createFirstLaunchError .chatmailProvisioningFailure true diagnosticCode
    else if diagnosticCode.any (ofString "LOC_").isPrefixOf then
      createFirstLaunchError .localPersistenceFailure false diagnosticCode
    else if testIgnoringCase ["save", "persist", "storage", "write", "rename", "EACCES", "EPERM",
        "ENOSPC"] message then
      createFirstLaunchError .localPersistenceFailure false
    else if testIgnoringCase ["network", "fetch", "identity", "register", "ECONN", "ENOTFOUND",
        "timeout"] message then
      createFirstLaunchError .networkIdentityFailure
    else if testIgnoringCase ["chatmail", "provision", "rpc"] message then
      createFirstLaunchError .chatmailProvisioningFailure
    else createFirstLaunchError .unknownFailure

/-! ### Display names -/

def TETI_DISPLAY_NAME_MIN_CHARACTERS : Nat := 1
def TETI_DISPLAY_NAME_MAX_CHARACTERS : Nat := 10

/-- A code unit from U+0000 to U+001F or from U+007F to U+009F. -/
def isControlCharacter (u : UInt16) : Bool := u ≤ 0x1F || (0x7F ≤ u && u ≤ 0x9F)

/-- `normalize` is `input.normalize("NFC")`. -/
def validateTetiDisplayName (normalize : JsString → JsString) (input : JsString) :
    Except DisplayNameValidationReason JsString :=
  let value := trim (normalize input)
  let characterCount := (characters value).length
  if characterCount < TETI_DISPLAY_NAME_MIN_CHARACTERS then .error .empty
  else if TETI_DISPLAY_NAME_MAX_CHARACTERS < characterCount then .error .tooLong
  else if value.any isControlCharacter then .error .controlCharacter
  else .ok value

/-! ### Calls and awaits -/

inductive FirstLaunchCall
  | initializeFirstLaunch
  | showNaming
  | updateName (value : JsString)
  | submitName (rawName : Option JsString)
  | retryNetworkIdentity
  | collapseReadyToIdle
  deriving DecidableEq

abbrev FirstLaunchResult : Type := Except FirstLaunchThrown FirstLaunchSnapshot

/-- The `await` at which a call has stopped, with the variables it still needs. -/
inductive FirstLaunchAwait
  /-- `initialize` loads the account. -/
  | loadExisting
  /-- `initialize` has found an account, or none, and moves the window within its `try`. -/
  | positionWindow (snapshot : FirstLaunchSnapshot)
  /-- `initialize` has failed to load, and expands the window within its `catch`. -/
  | expandForLoadError (snapshot : FirstLaunchSnapshot)
  /-- `submitName` expands the window. -/
  | expandForCreation (name : JsString)
  | createTetiAccount (name : JsString)
  | verifyCreated (created : FirstLaunchAccount)
  | loadPersistedAfterFailure (error : FirstLaunchThrown)
  /-- The promise in `creationInFlight` is settled; `submitName` has yet to go on. -/
  | creationInFlight (result : FirstLaunchResult)
  | loadForRetry
  | synchronizeNetworkIdentity
  | verifySynchronized (synchronized : FirstLaunchAccount)
  /-- The promise in `networkIdentityRetryInFlight` is settled. -/
  | networkIdentityRetryInFlight (result : FirstLaunchResult)
  deriving DecidableEq

/-- What ends an `await`. -/
inductive FirstLaunchOutcome
  | loaded (outcome : Except FirstLaunchRejection (Option FirstLaunchAccount))
  | identity (outcome : Except FirstLaunchRejection FirstLaunchAccount)
  | window (outcome : Except FirstLaunchRejection Unit)
  | settled
  deriving DecidableEq

/-- The fields of the coordinator; `scheduled` are the timers that wait. -/
structure FirstLaunchCoordinator where
  snapshot : FirstLaunchSnapshot := { state := .booting, nameInput := [], submitting := false }
  creationInFlight : Bool := false
  networkIdentityRetryInFlight : Bool := false
  scheduled : Nat := 0
  deriving DecidableEq

/-- A call stops at an `await`, or it is over. -/
inductive FirstLaunchProgress
  | awaits (point : FirstLaunchAwait)
  | settles (result : FirstLaunchResult)
  deriving DecidableEq

/-- What a call does without interruption. -/
structure FirstLaunchTurn where
  coordinator : FirstLaunchCoordinator
  progress : FirstLaunchProgress
  deriving DecidableEq

/-- What `verifyLoadedAccount` makes of the account it has loaded. -/
def verifyLoadedAccount (expected : FirstLaunchAccount) :
    Except FirstLaunchRejection (Option FirstLaunchAccount) → Except FirstLaunchThrown FirstLaunchAccount
  | .error rejection => .error (.rejection rejection)
  | .ok loaded =>
    match loaded.filter fun loaded =>
        loaded.id = expected.id ∧ loaded.chatmailAccountId = expected.chatmailAccountId with
    | some loaded => .ok loaded
    | none => .error (.rejection (.firstLaunch (ofString "[object Object]")
        (createFirstLaunchError .loadedAccountVerificationFailure false)))

namespace FirstLaunchCoordinator

variable (c : FirstLaunchCoordinator)

/-- `stateMachine.transition`, and what follows if it throws. -/
def transition (event : FirstLaunchEvent)
    (next : FirstLaunchCoordinator → FirstLaunchSnapshot → FirstLaunchTurn)
    (caught : FirstLaunchThrown → FirstLaunchTurn) : FirstLaunchTurn :=
  match reduce c.snapshot event with
  | .ok snapshot => next { c with snapshot } snapshot
  | .error thrown => caught thrown

def awaits (point : FirstLaunchAwait) : FirstLaunchTurn := ⟨c, .awaits point⟩

variable (result : FirstLaunchResult)

def settles : FirstLaunchTurn := ⟨c, .settles result⟩

/-- A call that is nothing but a transition. -/
def applies (event : FirstLaunchEvent) : FirstLaunchTurn :=
  c.transition event (fun c snapshot => c.settles (.ok snapshot)) fun thrown => c.settles (.error thrown)

def scheduleReadyCollapse : FirstLaunchCoordinator := { c with scheduled := c.scheduled + 1 }

/-! ### `initialize` -/

def initializeFirstLaunch : FirstLaunchTurn :=
  c.transition .startCheck (fun c _ => c.awaits .loadExisting) fun thrown => c.settles (.error thrown)

variable (error : FirstLaunchThrown)

/-- The `catch` of `initialize`. -/
def initializeFailed : FirstLaunchTurn :=
  c.transition (.loadFailed (classifyAccountLoadError error))
    (fun c snapshot => c.awaits (.expandForLoadError snapshot)) fun thrown => c.settles (.error thrown)

def initializeLoaded : Except FirstLaunchRejection (Option FirstLaunchAccount) → FirstLaunchTurn
  | .error rejection => c.initializeFailed (.rejection rejection)
  | .ok (some account) =>
    c.transition (.accountLoaded account) (fun c snapshot => c.awaits (.positionWindow snapshot))
      c.initializeFailed
  | .ok none =>
    c.transition .noAccount (fun c snapshot => c.awaits (.positionWindow snapshot)) c.initializeFailed

/-! ### `submitName` -/

def submitName (normalize : JsString → JsString) (rawName : Option JsString) : FirstLaunchTurn :=
  if c.creationInFlight then c.settles (.ok c.snapshot)
  else
    match validateTetiDisplayName normalize (rawName.getD c.snapshot.nameInput) with
    | .error reason =>
      c.applies (.creationFailed (createFirstLaunchError .invalidName true none (some reason)) none)
    | .ok name =>
      c.transition (.submitName name)
        (fun c _ => { c with creationInFlight := true }.awaits (.expandForCreation name))
        fun thrown => c.settles (.error thrown)

/-- The `catch` of `createIdentity`. -/
def createIdentityFailed : FirstLaunchTurn :=
  c.awaits (.loadPersistedAfterFailure error)

def createIdentity (name : JsString) : FirstLaunchTurn :=
  c.transition (.creationPhase .provisioningChatmail) (fun c _ => c.awaits (.createTetiAccount name))
    c.createIdentityFailed

def createIdentityCreated : Except FirstLaunchRejection FirstLaunchAccount → FirstLaunchTurn
  | .error rejection => c.createIdentityFailed (.rejection rejection)
  | .ok created =>
    c.transition (.creationPhase .verifyingAccount) (fun c _ => c.awaits (.verifyCreated created))
      c.createIdentityFailed

def createIdentityVerified (created : FirstLaunchAccount)
    (loaded : Except FirstLaunchRejection (Option FirstLaunchAccount)) : FirstLaunchTurn :=
  match verifyLoadedAccount created loaded with
  | .error thrown => c.createIdentityFailed thrown
  | .ok verified =>
    c.transition (.creationSucceeded verified)
      (fun c snapshot => c.scheduleReadyCollapse.awaits (.creationInFlight (.ok snapshot)))
      c.createIdentityFailed

/-- The rest of the `catch` of `createIdentity`, after `tryLoadPersistedAccountAfterFailure`. -/
def createIdentityRecovered
    (loaded : Except FirstLaunchRejection (Option FirstLaunchAccount)) : FirstLaunchTurn :=
  let persistedAccount := loaded.toOption.join
  match persistedAccount, error.isFirstLaunchError with
  | some account, false =>
    c.transition (.creationSucceeded account)
      (fun c snapshot => c.scheduleReadyCollapse.awaits (.creationInFlight (.ok snapshot)))
      fun thrown => c.awaits (.creationInFlight (.error thrown))
  | _, _ =>
    c.transition (.creationFailed (classifyCreationError error) persistedAccount)
      (fun c snapshot => c.awaits (.creationInFlight (.ok snapshot)))
      fun thrown => c.awaits (.creationInFlight (.error thrown))

/-- The `finally` of `submitName`. -/
def submitNameEnded : FirstLaunchTurn :=
  { c with creationInFlight := false }.settles result

/-! ### `retryNetworkIdentity` -/

/-- The first step of `retryNetworkIdentitySynchronization` is part of the call: what it
throws is in the promise. -/
def retryNetworkIdentity : FirstLaunchTurn :=
  if c.networkIdentityRetryInFlight then c.settles (.ok c.snapshot)
  else
    let c := { c with networkIdentityRetryInFlight := true }
    c.transition .registrationRetryStarted
      (fun c snapshot =>
        if snapshot.account.isSome then c.awaits .synchronizeNetworkIdentity else c.awaits .loadForRetry)
      fun thrown => c.awaits (.networkIdentityRetryInFlight (.error thrown))

/-- The `catch` of `retryNetworkIdentitySynchronization`. -/
def retryFailed : FirstLaunchTurn :=
  c.transition (.registrationRetryFailed (createFirstLaunchError .networkIdentityFailure))
    (fun c snapshot => c.awaits (.networkIdentityRetryInFlight (.ok snapshot)))
    fun thrown => c.awaits (.networkIdentityRetryInFlight (.error thrown))

def retryLoaded : Except FirstLaunchRejection (Option FirstLaunchAccount) → FirstLaunchTurn
  | .error _ => c.retryFailed
  | .ok (some _) => c.awaits .synchronizeNetworkIdentity
  | .ok none =>
    c.transition
      (.registrationRetryFailed (createFirstLaunchError .loadedAccountVerificationFailure false))
      (fun c snapshot => c.awaits (.networkIdentityRetryInFlight (.ok snapshot)))
      fun _ => c.retryFailed

def retrySynchronized : Except FirstLaunchRejection FirstLaunchAccount → FirstLaunchTurn
  | .error _ => c.retryFailed
  | .ok synchronized => c.awaits (.verifySynchronized synchronized)

def retryVerified (synchronized : FirstLaunchAccount)
    (loaded : Except FirstLaunchRejection (Option FirstLaunchAccount)) : FirstLaunchTurn :=
  match verifyLoadedAccount synchronized loaded with
  | .error _ => c.retryFailed
  | .ok verified =>
    c.transition (.registrationRetrySucceeded verified)
      (fun c snapshot => c.scheduleReadyCollapse.awaits (.networkIdentityRetryInFlight (.ok snapshot)))
      fun _ => c.retryFailed

/-- The `finally` of `retryNetworkIdentity`. -/
def retryNetworkIdentityEnded : FirstLaunchTurn :=
  { c with networkIdentityRetryInFlight := false }.settles result

/-! ### Turns -/

def collapseReadyToIdle : FirstLaunchTurn := c.applies .collapseToIdle

/-- A call is made. -/
def start (normalize : JsString → JsString) : FirstLaunchCall → FirstLaunchTurn
  | .initializeFirstLaunch => c.initializeFirstLaunch
  | .showNaming => c.applies .showNaming
  | .updateName value => c.applies (.updateName value)
  | .submitName rawName => c.submitName normalize rawName
  | .retryNetworkIdentity => c.retryNetworkIdentity
  | .collapseReadyToIdle => c.collapseReadyToIdle

/-- An `await` ends.  Where the window was moved within the `try` of `initialize`, a rejection
is handled as one of the load; where `submitName` expands it, there is no handler. -/
def resume : FirstLaunchAwait → FirstLaunchOutcome → Option FirstLaunchTurn
  | .loadExisting, .loaded outcome => some (c.initializeLoaded outcome)
  | .positionWindow snapshot, .window (.ok _) => some (c.settles (.ok snapshot))
  | .positionWindow _, .window (.error rejection) => some (c.initializeFailed (.rejection rejection))
  | .expandForLoadError snapshot, .window (.ok _) => some (c.settles (.ok snapshot))
  | .expandForLoadError _, .window (.error rejection) => some (c.settles (.error (.rejection rejection)))
  | .expandForCreation name, .window (.ok _) => some (c.createIdentity name)
  | .expandForCreation _, .window (.error rejection) =>
    some (c.awaits (.creationInFlight (.error (.rejection rejection))))
  | .createTetiAccount _, .identity outcome => some (c.createIdentityCreated outcome)
  | .verifyCreated created, .loaded outcome => some (c.createIdentityVerified created outcome)
  | .loadPersistedAfterFailure error, .loaded outcome => some (c.createIdentityRecovered error outcome)
  | .creationInFlight result, .settled => some (c.submitNameEnded result)
  | .loadForRetry, .loaded outcome => some (c.retryLoaded outcome)
  | .synchronizeNetworkIdentity, .identity outcome => some (c.retrySynchronized outcome)
  | .verifySynchronized synchronized, .loaded outcome => some (c.retryVerified synchronized outcome)
  | .networkIdentityRetryInFlight result, .settled => some (c.retryNetworkIdentityEnded result)
  | _, _ => none

/-- The state machine allows the event with which the call begins, or the call joins one that
is in flight. -/
def legal : FirstLaunchCall → Bool
  | .initializeFirstLaunch => FirstLaunchEvent.startCheck.allowed c.snapshot.state
  | .showNaming => FirstLaunchEvent.showNaming.allowed c.snapshot.state
  | .updateName value => (FirstLaunchEvent.updateName value).allowed c.snapshot.state
  | .submitName rawName =>
    c.creationInFlight || (FirstLaunchEvent.submitName (rawName.getD [])).allowed c.snapshot.state
  | .retryNetworkIdentity =>
    c.networkIdentityRetryInFlight || FirstLaunchEvent.registrationRetryStarted.allowed c.snapshot.state
  | .collapseReadyToIdle => FirstLaunchEvent.collapseToIdle.allowed c.snapshot.state

end FirstLaunchCoordinator

/-! ### Runs -/

/-- A call that waits; `legal` is whether it was legal when it was made. -/
structure PendingFirstLaunchCall where
  legal : Bool
  point : FirstLaunchAwait
  deriving DecidableEq

structure SettledFirstLaunchCall where
  legal : Bool
  result : FirstLaunchResult
  deriving DecidableEq

structure FirstLaunch where
  coordinator : FirstLaunchCoordinator := {}
  pending : List PendingFirstLaunchCall := []
  settled : List SettledFirstLaunchCall := []
  deriving DecidableEq

/-- A call goes on to its next `await`, or to its end. -/
def FirstLaunch.proceed (w : FirstLaunch) (legal : Bool) (t : FirstLaunchTurn) : FirstLaunch :=
  match t.progress with
  | .awaits point => { w with coordinator := t.coordinator, pending := w.pending ++ [⟨legal, point⟩] }
  | .settles result => { w with coordinator := t.coordinator, settled := w.settled ++ [⟨legal, result⟩] }

inductive FirstLaunchStep
  | call (call : FirstLaunchCall)
  | resume (index : Nat) (outcome : FirstLaunchOutcome)
  | readyCollapse
  deriving DecidableEq

/-- The callback of `scheduleReadyCollapse`. -/
def FirstLaunchCoordinator.readyCollapse (c : FirstLaunchCoordinator) : FirstLaunchCoordinator :=
  if c.snapshot.state = .ready then c.collapseReadyToIdle.coordinator else c

def firstLaunchStep (normalize : JsString → JsString) (w : FirstLaunch) :
    FirstLaunchStep → Option FirstLaunch
  | .call call => some (w.proceed (w.coordinator.legal call) (w.coordinator.start normalize call))
  | .resume index outcome => do
    let call ← w.pending[index]?
    let turn ← w.coordinator.resume call.point outcome
    some ({ w with pending := w.pending.eraseIdx index }.proceed call.legal turn)
  | .readyCollapse =>
    if w.coordinator.scheduled = 0 then none
    else some { w with
      coordinator := { w.coordinator with scheduled := w.coordinator.scheduled - 1 }.readyCollapse }

end TetiBot

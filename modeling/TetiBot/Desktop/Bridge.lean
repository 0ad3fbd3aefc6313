import TetiBot.Library.JsonData
import TetiBot.Library.Slots
import TetiBot.Library.Transition

/-
The bridge to the sidecar (`src-tauri/src/lifecycle_bridge.rs`).

* `BridgeCall`: a call of `lifecycle_request`, with the channel of its response.
* `LifecycleBridge`: the sidecar that is running, the tables of all sidecars, and the
  responses that have been taken from a table and are yet to be sent.
* `LifecycleBridge.step`: the calls, the threads that read a sidecar's output, time and
  the end of a sidecar, in any order.
-/

namespace TetiBot

open Library

/-! ### Requests and responses -/

structure LifecycleCommandRequest where
  version : Nat
  id : String
  method : String
  params : Option Json

structure LifecycleCommandError where
  code : String
  message : String
  recoverable : Bool
  retryTarget : Option String
  deriving DecidableEq

structure LifecycleCommandResponse where
  version : Nat
  id : Option String
  ok : Bool
  result : Option Json
  error : Option LifecycleCommandError

def bridgeProtocolVersion : Nat := 1

def maxLineBytes : Nat := 64 * 1024

def maxResponseLineBytes : Nat := 128 * 1024

/-- What comes before the end of the first marker. -/
def throughMarker (marker : List Char) : List Char → Option (List Char)
  | [] => if marker = [] then some [] else none
  | c :: text =>
    if marker.isPrefixOf (c :: text) then some marker else (throughMarker marker text).map (c :: ·)

def redactMarker (text : List Char) (marker : String) : List Char :=
  match throughMarker marker.toList text with
  | some kept => kept ++ "[redacted]".toList
  | none => text

def redactSecretLikeText (text : String) : String :=
  .ofList ((["password=", "token=", "secret=", "credentials=", "privateKey"].foldl redactMarker
    text.toList).take 300)

def bridgeError (code message : String) (recoverable : Bool) (retryTarget : Option String) :
    LifecycleCommandError :=
  ⟨code, redactSecretLikeText message, recoverable, retryTarget⟩

def bridgeFailure (id : Option String) (error : LifecycleCommandError) : LifecycleCommandResponse :=
  ⟨bridgeProtocolVersion, id, false, none, some error⟩

/-- The failure of a call whose sidecar is not there. -/
def sidecarUnavailable (message : String) : LifecycleCommandError :=
  bridgeError "SIDECAR_UNAVAILABLE" message true (some "lifecycle.health")

/-- The white space of `str::trim`. -/
def isRustWhitespace (c : Char) : Bool :=
  (9 ≤ c.toNat && c.toNat ≤ 13) || (0x2000 ≤ c.toNat && c.toNat ≤ 0x200A)
    || [0x20, 0x85, 0xA0, 0x1680, 0x2028, 0x2029, 0x202F, 0x205F, 0x3000].contains c.toNat

def allowedMethods : List String :=
  ["lifecycle.health", "release.status", "network.contract.get", "network.environment.get",
    "network.environment.set", "presence.get", "presence.signal.set", "account.status", "account.load",
    "account.create", "network.identity.retry", "connection.resolve", "connection.request",
    "connection.accept", "connection.reject", "connection.passport.refresh", "task.send", "task.list",
    "task.summary", "task.get", "task.attention.viewed", "task.memory.get", "task.memory.source.get",
    "task.memory.item.get", "task.memory.item.create", "task.memory.item.update",
    "task.memory.item.delete", "task.memory.authorization.set", "task.memory.preview",
    "task.memory.preview.approve", "task.attachment.stage", "task.attachment.resolve", "task.approve",
    "task.delegation.targets", "task.delegation.approve", "task.reject", "task.cancel",
    "task.execution.get", "task.execution.resume", "task.input.submit", "task.pause", "task.continue",
    "task.complete", "task.renew", "memory.get", "memory.authorization.set", "memory.task.save",
    "memory.delete", "memory.export", "passport.get", "passport.sharing.set", "agent.observation.get",
    "agent.observation.scan", "agent.observation.override.set", "osaurus.native.get",
    "osaurus.native.set"]

def validateBridgeRequest (request : LifecycleCommandRequest) : Except LifecycleCommandError Unit :=
  if request.version ≠ bridgeProtocolVersion then
    .error (bridgeError "UNSUPPORTED_PROTOCOL_VERSION" "Unsupported lifecycle protocol version." false none)
  else if request.id.toList.all isRustWhitespace || 120 < request.id.utf8ByteSize then
    .error (bridgeError "MALFORMED_REQUEST" "Lifecycle request id is invalid." false none)
  else if !allowedMethods.contains request.method then
    .error (bridgeError "UNKNOWN_METHOD" "Lifecycle method is not allowed." false none)
  else .ok ()

/-- What `serde_json` and the platform do. -/
structure BridgeEnv where
  runtimeIncluded : Bool
  serialize : LifecycleCommandRequest → Option String
  deserialize : String → Option LifecycleCommandResponse

/-- `parse_sidecar_response_line`, as far as it is used: what is not accepted is logged. -/
def parseSidecarResponseLine (env : BridgeEnv) (line : String) : Option LifecycleCommandResponse :=
  if maxResponseLineBytes < line.utf8ByteSize then none
  else match env.deserialize line with
    | none => none
    | some response => if response.version ≠ bridgeProtocolVersion then none else some response

/-! ### Calls -/

/-- Where a call is. -/
inductive BridgeStage
  /-- Before it looks whether the bridge is disabled. -/
  | entered
  /-- It waits for the mutex of the process. -/
  | locking
  /-- It has the mutex, and asks whether the sidecar has exited. -/
  | probing
  /-- A sidecar is being dropped: its table is failed first.  Then another one is spawned, or the
  call fails. -/
  | dropping (sidecar : Nat) (drained : Bool) (failed : Option LifecycleCommandResponse)
  | spawning
  | registering (sidecar : Nat)
  | writing (sidecar : Nat)
  | flushing (sidecar : Nat)
  /-- The write or the flush has failed. -/
  | removing (sidecar : Nat) (failed : LifecycleCommandResponse)
  | waiting (sidecar : Nat)
  /-- The time is over, the entry is still to be removed. -/
  | timedOut (sidecar : Nat)
  | returned (response : LifecycleCommandResponse)

namespace BridgeStage

@[simp]
def holdsProcess : BridgeStage → Bool
  | .probing | .dropping _ _ _ | .spawning | .registering _ | .writing _ | .flushing _ | .removing _ _ => true
  | .entered | .locking | .waiting _ | .timedOut _ | .returned _ => false

/-- The sidecar in whose table the call has put its sender, and has not removed it itself. -/
@[simp]
def registeredAt : BridgeStage → Option Nat
  | .writing sidecar | .flushing sidecar | .removing sidecar _ | .waiting sidecar | .timedOut sidecar =>
    some sidecar
  | _ => none

/-- The call has not yet put its sender into a table. -/
@[simp]
def isUnregistered : BridgeStage → Bool
  | .entered | .locking | .probing | .dropping _ _ none | .spawning | .registering _ => true
  | _ => false

@[simp]
def isReturned : BridgeStage → Bool
  | .returned _ => true
  | _ => false

/-- The response that the call has returned, or is to return. -/
@[simp]
def response? : BridgeStage → Option LifecycleCommandResponse
  | .dropping _ _ failed => failed
  | .removing _ failed => some failed
  | .returned response => some response
  | _ => none

/-- How many steps are left to a call at most. -/
@[simp]
def remaining : BridgeStage → Nat
  | .entered => 12
  | .locking => 11
  | .probing => 10
  | .dropping _ false none => 9
  | .dropping _ true none => 8
  | .spawning => 7
  | .registering _ => 6
  | .writing _ => 5
  | .flushing _ => 4
  | .removing _ _ => 3
  | .waiting _ => 3
  | .dropping _ false (some _) => 2
  | .timedOut _ => 1
  | .dropping _ true (some _) => 1
  | .returned _ => 0

end BridgeStage

/-- A call, and what is in its channel. -/
structure BridgeCall where
  request : LifecycleCommandRequest
  stage : BridgeStage
  buffer : Option LifecycleCommandResponse

/-- An entry of the table of a sidecar: the sender of a call. -/
structure PendingResponse where
  sidecar : Nat
  id : String
  call : Nat
  deriving DecidableEq

/-- A response that is to be sent to a call. -/
structure OutgoingResponse where
  call : Nat
  response : LifecycleCommandResponse

structure LifecycleBridge where
  calls : List BridgeCall
  disabledForLocalLogout : Bool
  /-- The call that has the mutex of the process. -/
  holder : Option Nat
  process : Option Nat
  /-- How many sidecars have been spawned. -/
  spawned : Nat
  /-- The sidecars whose output is being read. -/
  reading : List Nat
  pending : List PendingResponse
  sending : List OutgoingResponse
  /-- The sidecars that a shutdown drops. -/
  closing : List Nat

def initialBridge : LifecycleBridge where
  calls := []
  disabledForLocalLogout := false
  holder := none
  process := none
  spawned := 0
  reading := []
  pending := []
  sending := []
  closing := []

/-- How the operation that a call waits for has ended. -/
inductive BridgeAnswer
  | done
  | failed (error : String)
  | elapsed

inductive BridgeEvent
  | request (request : LifecycleCommandRequest)
  /-- A call goes on. -/
  | advance (call : Nat) (answer : BridgeAnswer)
  | line (sidecar : Nat) (text : String)
  /-- The output of a sidecar has ended, or cannot be read any more. -/
  | readerEnded (sidecar : Nat)
  /-- A response reaches the channel of its call. -/
  | sent (index : Nat)
  | disable
  | shutdown
  /-- The sidecar that a shutdown has taken is dropped. -/
  | closed (sidecar : Nat)

namespace LifecycleBridge

/-! ### Tables -/

variable (b : LifecycleBridge)

/-- The entry of an identifier in the table of a sidecar. -/
def entry? (sidecar : Nat) (id : String) : Option PendingResponse :=
  b.pending.find? fun e => decide (e.sidecar = sidecar ∧ e.id = id)

def removePendingResponse (sidecar : Nat) (id : String) : LifecycleBridge :=
  match b.entry? sidecar id with
  | some e => { b with pending := b.pending.erase e }
  | none => b

variable (env : BridgeEnv) (b : LifecycleBridge)

def dispatchResponseLine (sidecar : Nat) (line : String) : LifecycleBridge :=
  match parseSidecarResponseLine env line with
  | none => b
  | some response => match response.id with
    | none => b
    | some id => match b.entry? sidecar id with
      | none => b
      | some e => { b with
          pending := b.pending.erase e
          sending := b.sending ++ [⟨e.call, response⟩] }

/-- `fail_pending_responses`, up to the sends. -/
def failPendingResponses (sidecar : Nat) : LifecycleBridge :=
  { b with
    pending := b.pending.filter fun e => decide (e.sidecar ≠ sidecar)
    sending := b.sending ++ (b.pending.filter fun e => decide (e.sidecar = sidecar)).map fun e =>
      OutgoingResponse.mk e.call (bridgeFailure (some e.id)
        (sidecarUnavailable "Teti's local lifecycle service is unavailable.")) }

/-! ### Calls -/

variable (call : Nat)

def modifyCall (f : BridgeCall → BridgeCall) : LifecycleBridge :=
  { b with calls := b.calls.modify call f }

def enter (stage : BridgeStage) : LifecycleBridge :=
  b.modifyCall call fun c => { c with stage := stage }

/-- The call returns, and gives the mutex back where it has it. -/
def finish (response : LifecycleCommandResponse) : LifecycleBridge :=
  { b with holder := if b.holder = some call then none else b.holder }.enter call (.returned response)

variable (request : LifecycleCommandRequest)

/-- A call of `lifecycle_request`, up to the work that it moves to another thread. -/
def lifecycleRequest : LifecycleBridge :=
  let stage : BridgeStage := match validateBridgeRequest request with
    | .error error => .returned (bridgeFailure (some request.id) error)
    | .ok () =>
      if env.runtimeIncluded then .entered
      else .returned (bridgeFailure (some request.id)
        (bridgeError "LIFECYCLE_RUNTIME_UNAVAILABLE"
          "The lifecycle Runtime is not included in this desktop shell." false none))
  { b with calls := b.calls ++ [⟨request, stage, none⟩] }

/-- The sender of a call is put into the table of a sidecar. -/
def registerCall (sidecar : Nat) : LifecycleBridge :=
  match env.serialize request with
  | none => b.finish call (bridgeFailure (some request.id)
      (bridgeError "MALFORMED_REQUEST" "Lifecycle request could not be serialized." false none))
  | some line =>
    if maxLineBytes < line.utf8ByteSize then
      b.finish call (bridgeFailure (some request.id)
        (bridgeError "OVERSIZED_REQUEST" "Lifecycle request is too large." false none))
    else if (b.entry? sidecar request.id).isSome then
      b.finish call (bridgeFailure (some request.id)
        (bridgeError "MALFORMED_REQUEST" "Lifecycle request id is already pending." false none))
    else
      let entry : PendingResponse := ⟨sidecar, request.id, call⟩
      { b with pending := b.pending ++ [entry] }.enter call (.writing sidecar)

/-- The failure of a write or a flush, or of the spawn. -/
def unavailableWith (error : String) : LifecycleCommandResponse :=
  bridgeFailure (some request.id)
    (sidecarUnavailable ("Teti's local lifecycle service is unavailable: " ++ error))

/-- A sender of the call is left. -/
def hasSender : Bool :=
  (b.pending.any fun e => e.call == call) || b.sending.any fun e => e.call == call

/-- The next step of a call, where it can go on. -/
def advance (c : BridgeCall) (answer : BridgeAnswer) : Option LifecycleBridge :=
  match c.stage, answer with
  | .entered, .done =>
    some (if b.disabledForLocalLogout then
      b.finish call (bridgeFailure (some c.request.id) (bridgeError "SIDECAR_UNAVAILABLE"
        "Teti's local lifecycle service is stopped for local profile logout." false none))
    else b.enter call .locking)
  | .locking, .done =>
    if b.holder.isSome then none else some ({ b with holder := some call }.enter call .probing)
  | .probing, .done => match b.process with
    | none => some (b.enter call .spawning)
    | some sidecar => some (b.enter call (.registering sidecar))
  | .probing, .failed _ => match b.process with
    | none => none
    | some sidecar => some ({ b with process := none }.enter call (.dropping sidecar false none))
  | .dropping sidecar false failed, .done =>
    some ((b.failPendingResponses sidecar).enter call (.dropping sidecar true failed))
  | .dropping _ true none, .done => some (b.enter call .spawning)
  | .dropping _ true (some response), .done => some (b.finish call response)
  | .spawning, .done =>
    some ({ b with
      process := some b.spawned
      spawned := b.spawned + 1
      reading := b.spawned :: b.reading }.enter call (.registering b.spawned))
  | .spawning, .failed error => some (b.finish call (unavailableWith c.request error))
  | .registering sidecar, .done => some (registerCall env b call c.request sidecar)
  | .writing sidecar, .done => some (b.enter call (.flushing sidecar))
  | .writing sidecar, .failed error => some (b.enter call (.removing sidecar (unavailableWith c.request error)))
  | .flushing sidecar, .done => some ({ b with holder := none }.enter call (.waiting sidecar))
  | .flushing sidecar, .failed error => some (b.enter call (.removing sidecar (unavailableWith c.request error)))
  | .removing sidecar failed, .done =>
    some ({ b.removePendingResponse sidecar c.request.id with process := none }.enter call
      (.dropping sidecar false (some failed)))
  | .waiting _, .done => match c.buffer with
    | some response => some (b.finish call response)
    | none =>
      if b.hasSender call then none
      else some (b.finish call (bridgeFailure (some c.request.id)
        (sidecarUnavailable "Teti's local lifecycle service is unavailable.")))
  | .waiting sidecar, .elapsed => if c.buffer.isSome then none else some (b.enter call (.timedOut sidecar))
  | .timedOut sidecar, .done =>
    some ((b.removePendingResponse sidecar c.request.id).finish call (bridgeFailure (some c.request.id)
      (bridgeError "REQUEST_TIMEOUT" "Teti took too long to respond." true (some "lifecycle.health"))))
  | _, _ => none

/-- A response reaches its channel, unless the call has dropped it; it waits while the channel is
full. -/
def deliver (index : Nat) (e : OutgoingResponse) : Option LifecycleBridge :=
  match b.calls[e.call]? with
  | none => none
  | some c =>
    if c.stage.isReturned then some { b with sending := b.sending.eraseIdx index }
    else if c.buffer.isSome then none
    else some ({ b with sending := b.sending.eraseIdx index }.modifyCall e.call fun c =>
      { c with buffer := some e.response })

/-- One event, where it can happen. -/
def step : BridgeEvent → Option LifecycleBridge
  | .request request => some (lifecycleRequest env b request)
  | .advance call answer => (b.calls[call]?).bind fun c => advance env b call c answer
  | .line sidecar text =>
    if sidecar ∈ b.reading then some (dispatchResponseLine env b sidecar text) else none
  | .readerEnded sidecar =>
    if sidecar ∈ b.reading then
      some ({ b with reading := b.reading.erase sidecar }.failPendingResponses sidecar)
    else none
  | .sent index => (b.sending[index]?).bind (b.deliver index)
  | .disable => some { b with disabledForLocalLogout := true }
  | .shutdown =>
    if b.holder.isSome then none
    else some { b with process := none, closing := b.process.toList ++ b.closing }
  | .closed sidecar =>
    if sidecar ∈ b.closing then
      some ({ b with closing := b.closing.erase sidecar }.failPendingResponses sidecar)
    else none

end LifecycleBridge

end TetiBot

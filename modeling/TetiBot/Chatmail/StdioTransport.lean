import TetiBot.Library.TextStream
import TetiBot.Library.JsonText
import TetiBot.Library.OrderedMap
import TetiBot.Library.Transition

/-
JSON-RPC over the standard streams of a child process
(`integrations/chatmail/stdio-transport.ts`).

* `StdioTransport`: the fields of the transport, the decoders of the two streams, and
  every call of `send` with its promise.
* `StdioEvent`, `StdioTransport.step`: calls, the callbacks of their writes and timers,
  pieces of the streams, and the end of the child, in any order.  `JSON.parse` is a
  parameter.
* `Correlated`: the table of pending calls lists exactly the calls that have not settled.
* `mergeChunks`: the same events with the standard output cut elsewhere.
* `stdio_transport_sound`: every call settles once, and how the output is cut does not
  matter, as long as no line is the text `null` and no identifier is used twice.
-/

namespace TetiBot

open Library

/-! ### Messages -/

/-- The identifier of a request: a number or a string. -/
inductive JsonRpcId
  | number (n : Nat)
  | decimal (d : Decimal)
  | text (s : JsString)
  deriving DecidableEq

/-- `response.id`, as a key of the table of pending calls; a value that is no number and no
string is not found there.  A property of `null` cannot be read. -/
def responseId : Json → Except Unit (Option JsonRpcId)
  | .null => .error ()
  | .obj fields => .ok <| match Json.lookup fields "id" with
    | some (.num n) => some (.number n)
    | some (.decimal d) => some (.decimal d)
    | some (.str s) => some (.text s)
    | _ => none
  | _ => .ok none

inductive ChatmailTransportErrorCode
  | notFound | denied | incompatible | locked | exit | timeout | io
  deriving DecidableEq

/-- What a call is rejected with: a `ChatmailTransportError`, or the `Error` about a line that
is not JSON. -/
inductive StdioError
  | transport (code : ChatmailTransportErrorCode) (message : String)
  | other (message : String)
  deriving DecidableEq

/-- `transportSpawnError`. -/
def transportSpawnError (code : Option String) (message : String) : StdioError :=
  match code with
  | some "ENOENT" => .transport .notFound "deltachat-rpc-server was not found."
  | some "EACCES" | some "EPERM" =>
    .transport .denied "The operating system denied execution of deltachat-rpc-server."
  | some "ENOEXEC" =>
    .transport .incompatible "deltachat-rpc-server is not compatible with this computer."
  | _ => .transport .io ("deltachat-rpc-server could not start: " ++ message)

/-- A letter in lower case, if it is one of the ASCII letters. -/
def asciiLower (u : UInt16) : UInt16 := if 0x41 ≤ u && u ≤ 0x5A then u + 0x20 else u

/-- `/accounts\.lock|already running|already locked/i`. -/
def mentionsLock (line : JsString) : Bool :=
  ["accounts.lock", "already running", "already locked"].any fun words =>
    (line.map asciiLower).tails.any fun rest => (JsString.ofString words).isPrefixOf rest

/-- The error of every call after the child has exited. -/
def exitError (recentStderr : List JsString) (code : Option Int) (signal : Option String) : StdioError :=
  if recentStderr.any mentionsLock then
    .transport .locked "Chatmail account storage is already owned by another local process."
  else
    .transport .exit ("deltachat-rpc-server exited with code " ++ (code.map toString).getD "null"
      ++ " and signal " ++ signal.getD "null" ++ ".")

/-! ### The transport -/

/-- A call of `send`: its time limit, whether its timer runs, whether the callback of its write
is due, and how its promise has settled. -/
structure JsonRpcCall where
  id : JsonRpcId
  method : String
  timeoutMs : Option Nat
  timer : Bool
  writing : Bool
  settled : Option (Except StdioError Json)

/-- `resolve` and `reject`: only the first of them counts. -/
def JsonRpcCall.settle (c : JsonRpcCall) (result : Except StdioError Json) : JsonRpcCall :=
  match c.settled with
  | some _ => c
  | none => { c with settled := some result }

/-- Its timer is cleared, and it settles. -/
def JsonRpcCall.conclude (c : JsonRpcCall) (result : Except StdioError Json) : JsonRpcCall :=
  ({ c with timer := false }).settle result

structure StdioTransport where
  requestTimeoutMs : Option Nat
  pending : OrderedMap JsonRpcId Nat
  calls : List JsonRpcCall
  stdout : Utf8Decoder
  stdoutBuffer : JsString
  stderr : Utf8Decoder
  stderrBuffer : JsString
  recentStderr : List JsString
  closed : Bool
  terminalError : Option StdioError
  /-- The handler of the standard output has thrown. -/
  threw : Bool

inductive StdioEvent
  /-- A call of `send`; `timeoutMs` is absent, `null` or a number. -/
  | send (id : JsonRpcId) (method : String) (timeoutMs : Option (Option Nat))
  | written (call : Nat) (error : Option String)
  | timedOut (call : Nat)
  | stdout (bytes : List UInt8)
  | stderr (bytes : List UInt8)
  | failed (code : Option String) (message : String)
  | exited (code : Option Int) (signal : Option String)
  | close

/-- A transport whose child was just spawned. -/
def initialStdio (requestTimeoutMs : Option Nat) : StdioTransport where
  requestTimeoutMs := requestTimeoutMs
  pending := .empty
  calls := []
  stdout := .fresh
  stdoutBuffer := []
  stderr := .fresh
  stderrBuffer := []
  recentStderr := []
  closed := false
  terminalError := none
  threw := false

/-- A line feed. -/
def lineFeed : UInt16 := 0x0A

namespace StdioTransport

def closedError : StdioError := .transport .io "deltachat-rpc-server transport is closed."

variable (s : StdioTransport)

def send (id : JsonRpcId) (method : String) (timeoutMs : Option (Option Nat)) : StdioTransport :=
  let requestTimeoutMs := timeoutMs.getD s.requestTimeoutMs
  if s.closed then
    let error := s.terminalError.getD closedError
    { s with calls := s.calls ++ [⟨id, method, requestTimeoutMs, false, false, some (.error error)⟩] }
  else
    { s with
      pending := s.pending.set id s.calls.length
      calls := s.calls ++ [⟨id, method, requestTimeoutMs, requestTimeoutMs.any (0 < ·), true, none⟩] }

/-- An entry is taken from the table, and a call settles. -/
def conclude (s : StdioTransport) (id : JsonRpcId) (call : Nat) (result : Except StdioError Json) :
    StdioTransport :=
  { s with
    pending := s.pending.erase id
    calls := s.calls.modify call (·.conclude result) }

def rejectAll (error : StdioError) : StdioTransport :=
  { s with
    pending := .empty
    calls := s.calls.mapIdx fun call c =>
      if call ∈ s.pending.values then c.conclude (.error error) else c }

/-- The callback of the write of a call. -/
def written (call : Nat) (c : JsonRpcCall) (error : Option String) : StdioTransport :=
  let s := { s with calls := s.calls.modify call fun c => { c with writing := false } }
  match error with
  | none => s
  | some message =>
    s.conclude c.id call (.error (.transport .io ("Chatmail JSON-RPC write failed: " ++ message)))

/-- The timer of a call fires. -/
def timeOut (call : Nat) (c : JsonRpcCall) : StdioTransport :=
  s.conclude c.id call
    (.error (.transport .timeout ("Chatmail JSON-RPC request " ++ c.method ++ " timed out.")))

section Lines

variable (parse : JsString → Except String Json)

/-- The callback of `handleStdout` for one line. -/
def handleLine (s : StdioTransport) (line : JsString) : Except Unit StdioTransport :=
  if JsString.isBlank line then .ok s
  else match parse line with
    | .error detail =>
      .ok (s.rejectAll (.other ("Invalid JSON-RPC response from deltachat-rpc-server: " ++ detail)))
    | .ok response => do
      match (← responseId response) with
      | none => return s
      | some id => match s.pending.get? id with
        | none => return s
        | some call => return s.conclude id call (.ok response)

/-- `drainLines`: the lines one after the other, up to one that throws. -/
def handleLines (s : StdioTransport) : List JsString → StdioTransport × Bool
  | [] => (s, false)
  | line :: lines => match s.handleLine parse line with
    | .error () => (s, true)
    | .ok s => s.handleLines lines

/-- `handleStdout`; a throw leaves the whole buffer as it is. -/
def handleStdout (s : StdioTransport) (bytes : List UInt8) : StdioTransport :=
  let decoded := s.stdout.decode bytes
  let buffer := s.stdoutBuffer ++ decoded.2
  let handled := ({ s with stdout := decoded.1, stdoutBuffer := buffer }).handleLines parse
    (splitLines lineFeed buffer).1
  if handled.2 then { handled.1 with threw := true }
  else { handled.1 with stdoutBuffer := (splitLines lineFeed buffer).2 }

end Lines

/-- A line of the standard error is remembered; the last eight are kept. -/
def noteStderr (recent : List JsString) (line : JsString) : List JsString :=
  if JsString.isBlank line then recent
  else
    let recent := recent ++ [(JsString.trim line).take 300]
    if 8 < recent.length then recent.tail else recent

def handleStderr (bytes : List UInt8) : StdioTransport :=
  let decoded := s.stderr.decode bytes
  let lines := splitLines lineFeed (s.stderrBuffer ++ decoded.2)
  { s with
    stderr := decoded.1
    stderrBuffer := lines.2
    recentStderr := lines.1.foldl noteStderr s.recentStderr }

/-- The child has ended, or never began. -/
def terminate (error : StdioError) : StdioTransport :=
  ({ s with closed := true, terminalError := some error }).rejectAll error

variable (parse : JsString → Except String Json)

/-- One event, where it can happen. -/
def step (s : StdioTransport) : StdioEvent → Option StdioTransport
  | .send id method timeoutMs => some (s.send id method timeoutMs)
  | .written call error => match s.calls[call]? with
    | none => none
    | some c => if c.writing then some (s.written call c error) else none
  | .timedOut call => match s.calls[call]? with
    | none => none
    | some c => if c.timer then some (s.timeOut call c) else none
  | .stdout bytes => some (s.handleStdout parse bytes)
  | .stderr bytes => some (s.handleStderr bytes)
  | .failed code message => some (s.terminate (transportSpawnError code message))
  | .exited code signal => some (s.terminate (exitError s.recentStderr code signal))
  | .close => some { s with closed := true }

/-! ### Correlation -/

/-- A line on which the handler throws: the text `null`. -/
def isNullLine (line : JsString) : Bool :=
  !JsString.isBlank line && match parse line with
    | .ok .null => true
    | _ => false

/-- The lines that a piece of the standard output finishes. -/
def finishedLines (bytes : List UInt8) : List JsString :=
  (splitLines lineFeed (s.stdoutBuffer ++ (s.stdout.decode bytes).2)).1

/-- No identifier is used twice, and no line of the output is the text `null`. -/
def sound (s : StdioTransport) : StdioEvent → Bool
  | .send id _ _ => s.calls.all fun c => c.id ≠ id
  | .stdout bytes => (s.finishedLines bytes).all fun line => !isNullLine parse line
  | _ => true

def soundStep (s : StdioTransport) (e : StdioEvent) : Option StdioTransport :=
  if s.sound parse e then s.step parse e else none

/-- The table lists the calls that have not settled, each under its identifier. -/
structure Correlated (s : StdioTransport) : Prop where
  listed : ∀ id call, s.pending.get? id = some call →
    ∃ c, s.calls[call]? = some c ∧ c.id = id ∧ c.settled = none
  waiting : ∀ (call : Nat) c, s.calls[call]? = some c → c.settled = none →
    s.pending.get? c.id = some call
  armed : ∀ (call : Nat) c, s.calls[call]? = some c → c.settled = none →
    c.timer = c.timeoutMs.any (0 < ·)
  own : ∀ (call : Nat) c response, s.calls[call]? = some c → c.settled = some (.ok response) →
    responseId response = .ok (some c.id)
  distinct : ∀ (i j : Nat) c d, s.calls[i]? = some c → s.calls[j]? = some d → c.id = d.id → i = j
  ended : s.terminalError.isSome → s.closed = true ∧ ∀ (call : Nat) c, s.calls[call]? = some c → c.settled.isSome

variable {s t : StdioTransport} {call : Nat} {c : JsonRpcCall} {result : Except StdioError Json}

@[simp] lemma conclude_id : (c.conclude result).id = c.id := by
  unfold JsonRpcCall.conclude JsonRpcCall.settle
  split <;> rfl

lemma conclude_settled {earlier : Except StdioError Json} (h : c.settled = some earlier) :
    (c.conclude result).settled = some earlier := by
  simp [JsonRpcCall.conclude, JsonRpcCall.settle, h]

lemma conclude_waiting (h : c.settled = none) : (c.conclude result).settled = some result := by
  simp [JsonRpcCall.conclude, JsonRpcCall.settle, h]

lemma conclude_settles : (c.conclude result).settled.isSome := by
  cases h : c.settled with
  | none => rw [conclude_waiting h]; rfl
  | some earlier => rw [conclude_settled h]; rfl

/-- A call that settles with an error, or with a response of its own, has only such results. -/
lemma conclude_own {response : Json} (hown : ∀ response, c.settled = some (.ok response) →
      responseId response = .ok (some c.id))
    (hresult : ∀ response, result = .ok response → responseId response = .ok (some c.id))
    (h : (c.conclude result).settled = some (.ok response)) : responseId response = .ok (some c.id) := by
  cases hsettled : c.settled with
  | none =>
    rw [conclude_waiting hsettled] at h
    exact hresult response (Option.some.inj h)
  | some earlier =>
    rw [conclude_settled hsettled, ← hsettled] at h
    exact hown response h

lemma getElem?_conclude (s : StdioTransport) (id : JsonRpcId) (call i : Nat)
    (result : Except StdioError Json) : (s.conclude id call result).calls[i]?
      = if call = i then (s.calls[i]?).map (·.conclude result) else s.calls[i]? := by
  rw [conclude]
  dsimp only
  rw [List.getElem?_modify]
  split_ifs <;> simp

/-- **One call settles**, and its entry goes. -/
lemma Correlated.conclude (h : s.Correlated) (hcall : s.calls[call]? = some c)
    (hresult : ∀ response, result = .ok response → responseId response = .ok (some c.id)) :
    (s.conclude c.id call result).Correlated where
  listed id i hfound := by
    have herase : (s.pending.erase c.id).get? id = some i := hfound
    rw [OrderedMap.get?_erase] at herase
    split_ifs at herase with hid
    obtain ⟨d, hd, rfl, hwaiting⟩ := h.listed id i herase
    refine ⟨d, ?_, rfl, hwaiting⟩
    rw [getElem?_conclude, if_neg]
    · exact hd
    · rintro rfl
      exact hid (congrArg JsonRpcCall.id (Option.some.inj (hd.symm.trans hcall)))
  waiting i d hd hwaiting := by
    rw [getElem?_conclude] at hd
    split_ifs at hd with hi
    · obtain ⟨d, -, rfl⟩ := Option.map_eq_some_iff.mp hd
      rw [← Option.not_isSome_iff_eq_none] at hwaiting
      exact absurd conclude_settles hwaiting
    · show (s.pending.erase c.id).get? d.id = some i
      rw [OrderedMap.get?_erase, if_neg]
      · exact h.waiting i d hd hwaiting
      · exact fun hid => hi (h.distinct call i c d hcall hd hid.symm)
  armed i d hd hwaiting := by
    rw [getElem?_conclude] at hd
    split_ifs at hd
    · obtain ⟨d, -, rfl⟩ := Option.map_eq_some_iff.mp hd
      rw [← Option.not_isSome_iff_eq_none] at hwaiting
      exact absurd conclude_settles hwaiting
    · exact h.armed i d hd hwaiting
  own i d response hd hsettled := by
    rw [getElem?_conclude] at hd
    split_ifs at hd with hi
    · subst hi
      rw [hcall] at hd
      obtain rfl := Option.some.inj hd
      rw [conclude_id]
      exact conclude_own (h.own call c · hcall) hresult hsettled
    · exact h.own i d response hd hsettled
  distinct i j d d' hd hd' hid := by
    have horigin : ∀ (i : Nat) d, (s.conclude c.id call result).calls[i]? = some d →
        ∃ d', s.calls[i]? = some d' ∧ d'.id = d.id := by
      intro i d hd
      rw [getElem?_conclude] at hd
      split_ifs at hd
      · obtain ⟨d', hd', rfl⟩ := Option.map_eq_some_iff.mp hd
        exact ⟨d', hd', conclude_id.symm⟩
      · exact ⟨d, hd, rfl⟩
    obtain ⟨e, he, heid⟩ := horigin i d hd
    obtain ⟨e', he', heid'⟩ := horigin j d' hd'
    exact h.distinct i j e e' he he' (by rw [heid, heid', hid])
  ended hsome := by
    refine ⟨(h.ended hsome).1, fun i d hd => ?_⟩
    rw [getElem?_conclude] at hd
    split_ifs at hd
    · obtain ⟨d, -, rfl⟩ := Option.map_eq_some_iff.mp hd
      exact conclude_settles
    · exact (h.ended hsome).2 i d hd

lemma getElem?_rejectAll (s : StdioTransport) (error : StdioError) (i : Nat) :
    (s.rejectAll error).calls[i]? = (s.calls[i]?).map fun c =>
      if i ∈ s.pending.values then c.conclude (.error error) else c := by
  rw [rejectAll]
  dsimp only
  rw [List.getElem?_mapIdx]

variable {d : JsonRpcCall}

lemma rejectAll_id {error : StdioError} {i : Nat} (hd : (s.rejectAll error).calls[i]? = some d) :
    ∃ d', s.calls[i]? = some d' ∧ d'.id = d.id
      ∧ d = if i ∈ s.pending.values then d'.conclude (.error error) else d' := by
  rw [getElem?_rejectAll] at hd
  obtain ⟨d', hd', rfl⟩ := Option.map_eq_some_iff.mp hd
  refine ⟨d', hd', ?_, rfl⟩
  split_ifs <;> simp

/-- After all calls were rejected none is waiting. -/
lemma Correlated.rejectAll_settled (h : s.Correlated) {error : StdioError} {i : Nat}
    (hd : (s.rejectAll error).calls[i]? = some d) : d.settled.isSome := by
  obtain ⟨d', hd', -, rfl⟩ := rejectAll_id hd
  split_ifs with hlisted
  · exact conclude_settles
  · by_contra hwaiting
    rw [Option.not_isSome_iff_eq_none] at hwaiting
    exact hlisted (OrderedMap.mem_values.mpr ⟨_, h.waiting i d' hd' hwaiting⟩)

lemma Correlated.rejectAll (h : s.Correlated) (error : StdioError) : (s.rejectAll error).Correlated where
  listed id i hfound := by cases hfound
  waiting i d hd hwaiting := by
    have := h.rejectAll_settled hd
    simp [hwaiting] at this
  armed i d hd hwaiting := by
    have := h.rejectAll_settled hd
    simp [hwaiting] at this
  own i d response hd hsettled := by
    obtain ⟨d', hd', hid, rfl⟩ := rejectAll_id hd
    split_ifs at hsettled ⊢
    · rw [conclude_id]
      exact conclude_own (h.own i d' · hd') (fun _ hresult => by cases hresult) hsettled
    · exact h.own i d' response hd' hsettled
  distinct i j d d' hd hd' hid := by
    obtain ⟨e, he, heid, -⟩ := rejectAll_id hd
    obtain ⟨e', he', heid', -⟩ := rejectAll_id hd'
    exact h.distinct i j e e' he he' (by rw [heid, heid', hid])
  ended hsome := ⟨(h.ended hsome).1, fun _ _ hd => h.rejectAll_settled hd⟩

/-! ### Steps -/

lemma getElem?_snoc {calls : List JsonRpcCall} {new : JsonRpcCall} {i : Nat}
    (h : (calls ++ [new])[i]? = some d) : calls[i]? = some d ∨ i = calls.length ∧ d = new := by
  rcases Nat.lt_trichotomy i calls.length with hlt | rfl | hgt
  · rw [List.getElem?_append_left hlt] at h
    exact .inl h
  · rw [List.getElem?_concat_length] at h
    exact .inr ⟨rfl, (Option.some.inj h).symm⟩
  · rw [List.getElem?_eq_none (by simpa using hgt)] at h
    cases h

lemma getElem?_snoc_old {calls : List JsonRpcCall} {i : Nat} (new : JsonRpcCall)
    (h : calls[i]? = some d) : (calls ++ [new])[i]? = some d := by
  rw [List.getElem?_append_left (List.getElem?_eq_some_iff.mp h).1, h]

lemma correlated_send {id : JsonRpcId} (h : s.Correlated) (hnew : ∀ c ∈ s.calls, c.id ≠ id)
    (method : String) (timeoutMs : Option (Option Nat)) : (s.send id method timeoutMs).Correlated := by
  have hdistinct : ∀ new : JsonRpcCall, new.id = id → ∀ (i j : Nat) c d,
      (s.calls ++ [new])[i]? = some c → (s.calls ++ [new])[j]? = some d → c.id = d.id → i = j := by
    intro new hid i j c d hc hd heq
    rcases getElem?_snoc hc with hold | ⟨rfl, rfl⟩ <;> rcases getElem?_snoc hd with hold' | ⟨rfl, rfl⟩
    · exact h.distinct i j c d hold hold' heq
    · exact absurd (heq.trans hid) (hnew c (List.mem_of_getElem? hold))
    · exact absurd (heq.symm.trans hid) (hnew d (List.mem_of_getElem? hold'))
    · rfl
  unfold send
  split_ifs with hclosed
  · exact {
      listed := fun key i hfound => by
        obtain ⟨d, hd, hid, hwaiting⟩ := h.listed key i hfound
        exact ⟨d, getElem?_snoc_old _ hd, hid, hwaiting⟩
      waiting := fun i d hd hwaiting => by
        rcases getElem?_snoc hd with hd | ⟨-, rfl⟩
        · exact h.waiting i d hd hwaiting
        · cases hwaiting
      armed := fun i d hd hwaiting => by
        rcases getElem?_snoc hd with hd | ⟨-, rfl⟩
        · exact h.armed i d hd hwaiting
        · cases hwaiting
      own := fun i d response hd hsettled => by
        rcases getElem?_snoc hd with hd | ⟨-, rfl⟩
        · exact h.own i d response hd hsettled
        · cases hsettled
      distinct := hdistinct _ rfl
      ended := fun hsome => by
        refine ⟨hclosed, fun i d hd => ?_⟩
        rcases getElem?_snoc hd with hd | ⟨-, rfl⟩
        · exact (h.ended hsome).2 i d hd
        · rfl }
  · have hpending : ∀ key, (s.pending.set id s.calls.length).get? key
        = if key = id then some s.calls.length else s.pending.get? key := OrderedMap.get?_set _ _ _
    exact {
      listed := fun key i hfound => by
        rw [hpending] at hfound
        split_ifs at hfound with hkey
        · obtain rfl := Option.some.inj hfound
          exact ⟨_, List.getElem?_concat_length, hkey.symm, rfl⟩
        · obtain ⟨d, hd, hid, hwaiting⟩ := h.listed key i hfound
          exact ⟨d, getElem?_snoc_old _ hd, hid, hwaiting⟩
      waiting := fun i d hd hwaiting => by
        rw [hpending]
        rcases getElem?_snoc hd with hd | ⟨rfl, rfl⟩
        · rw [if_neg (hnew d (List.mem_of_getElem? hd))]
          exact h.waiting i d hd hwaiting
        · rw [if_pos rfl]
      armed := fun i d hd hwaiting => by
        rcases getElem?_snoc hd with hd | ⟨-, rfl⟩
        · exact h.armed i d hd hwaiting
        · rfl
      own := fun i d response hd hsettled => by
        rcases getElem?_snoc hd with hd | ⟨-, rfl⟩
        · exact h.own i d response hd hsettled
        · cases hsettled
      distinct := hdistinct _ rfl
      ended := fun hsome => absurd (h.ended hsome).1 hclosed }

lemma correlated_written (h : s.Correlated) (hcall : s.calls[call]? = some c) (error : Option String) :
    (s.written call c error).Correlated := by
  have hentry : ∀ (i : Nat) d, (s.calls.modify call fun c => { c with writing := false })[i]? = some d →
      ∃ d', s.calls[i]? = some d' ∧ d'.id = d.id ∧ d'.settled = d.settled
        ∧ d'.timer = d.timer ∧ d'.timeoutMs = d.timeoutMs := by
    intro i d hd
    rw [List.getElem?_modify] at hd
    obtain ⟨d', hd', rfl⟩ := Option.map_eq_some_iff.mp hd
    refine ⟨d', hd', ?_⟩
    split_ifs <;> exact ⟨rfl, rfl, rfl, rfl⟩
  have hwritten : ({ s with calls := s.calls.modify call fun c => { c with writing := false } }
      : StdioTransport).Correlated := {
    listed := fun key i hfound => by
      obtain ⟨d, hd, hid, hwaiting⟩ := h.listed key i hfound
      dsimp only
      rw [List.getElem?_modify, hd]
      refine ⟨_, rfl, ?_⟩
      split_ifs <;> exact ⟨hid, hwaiting⟩
    waiting := fun i d hd hwaiting => by
      obtain ⟨d', hd', hid, hsettled, -⟩ := hentry i d hd
      rw [← hid]
      exact h.waiting i d' hd' (hsettled.trans hwaiting)
    armed := fun i d hd hwaiting => by
      obtain ⟨d', hd', -, hsettled, htimer, htimeout⟩ := hentry i d hd
      rw [← htimer, ← htimeout]
      exact h.armed i d' hd' (hsettled.trans hwaiting)
    own := fun i d response hd hsettled => by
      obtain ⟨d', hd', hid, heq, -⟩ := hentry i d hd
      rw [← hid]
      exact h.own i d' response hd' (heq.trans hsettled)
    distinct := fun i j d d' hd hd' hid => by
      obtain ⟨e, he, heid, -⟩ := hentry i d hd
      obtain ⟨e', he', heid', -⟩ := hentry j d' hd'
      exact h.distinct i j e e' he he' (by rw [heid, heid', hid])
    ended := fun hsome => by
      refine ⟨(h.ended hsome).1, fun i d hd => ?_⟩
      obtain ⟨d', hd', -, hsettled, -⟩ := hentry i d hd
      rw [← hsettled]
      exact (h.ended hsome).2 i d' hd' }
  cases error with
  | none => exact hwritten
  | some message =>
    refine Correlated.conclude (c := { c with writing := false }) hwritten ?_ fun _ hresult => by cases hresult
    dsimp only
    rw [List.getElem?_modify, hcall]
    simp

section Lines

variable {parse : JsString → Except String Json} {line : JsString} {lines : List JsString}

/-- What a line does to a correlated transport; it does not throw unless it is `null`. -/
lemma correlated_handleLine (h : s.Correlated) (hline : isNullLine parse line = false) :
    ∃ t, s.handleLine parse line = .ok t ∧ t.Correlated := by
  unfold handleLine
  split_ifs with hblank
  · exact ⟨s, rfl, h⟩
  · cases hparsed : parse line with
    | error detail => exact ⟨_, rfl, h.rejectAll _⟩
    | ok response =>
      have hnull : response ≠ .null := by
        rintro rfl
        simp [isNullLine, hblank, hparsed] at hline
      obtain ⟨found, hfound⟩ : ∃ found, responseId response = .ok found := by
        cases response <;> first | exact absurd rfl hnull | exact ⟨_, rfl⟩
      simp only [hfound, bind, Except.bind]
      cases found with
      | none => exact ⟨s, rfl, h⟩
      | some id =>
        cases hpending : s.pending.get? id with
        | none => exact ⟨s, by simp [hpending, pure, Except.pure], h⟩
        | some call =>
          refine ⟨s.conclude id call (.ok response), by simp [hpending, pure, Except.pure], ?_⟩
          obtain ⟨c, hc, rfl, -⟩ := h.listed id call hpending
          exact h.conclude hc fun _ hresult => by cases hresult; exact hfound

lemma correlated_handleLines (h : s.Correlated) (hlines : ∀ line ∈ lines, isNullLine parse line = false) :
    (s.handleLines parse lines).1.Correlated ∧ (s.handleLines parse lines).2 = false := by
  induction lines generalizing s with
  | nil => exact ⟨h, rfl⟩
  | cons line lines ih =>
    obtain ⟨t, ht, hcorrelated⟩ := correlated_handleLine h (hlines line (by simp))
    rw [handleLines, ht]
    exact ih hcorrelated fun l hl => hlines l (by simp [hl])

/-- The transport with other contents of its buffer. -/
def withBuffer (s : StdioTransport) (stdout : Utf8Decoder) (buffer : JsString) : StdioTransport :=
  { s with stdout := stdout, stdoutBuffer := buffer }

lemma Correlated.withBuffer (h : s.Correlated) (stdout : Utf8Decoder) (buffer : JsString) :
    (s.withBuffer stdout buffer).Correlated := { h with }

lemma handleLine_withBuffer (s : StdioTransport) (stdout : Utf8Decoder) (buffer : JsString) :
    (s.withBuffer stdout buffer).handleLine parse line
      = (s.handleLine parse line).map (·.withBuffer stdout buffer) := by
  unfold handleLine
  split_ifs with hblank
  · rfl
  · cases parse line with
    | error detail => rfl
    | ok response =>
      rcases hid : responseId response with _ | found <;> simp only [hid, bind, Except.bind]
      · rfl
      · cases found with
        | none => rfl
        | some id =>
          simp only [withBuffer]
          cases s.pending.get? id <;> rfl

lemma handleLines_withBuffer (s : StdioTransport) (stdout : Utf8Decoder) (buffer : JsString) :
    (s.withBuffer stdout buffer).handleLines parse lines
      = ((s.handleLines parse lines).1.withBuffer stdout buffer, (s.handleLines parse lines).2) := by
  induction lines generalizing s with
  | nil => rfl
  | cons line lines ih =>
    rw [handleLines, handleLines, handleLine_withBuffer]
    cases s.handleLine parse line with
    | error => rfl
    | ok t => exact ih t

lemma handleLines_cons (h : s.handleLine parse line = .ok t) :
    s.handleLines parse (line :: lines) = t.handleLines parse lines := by
  rw [handleLines, h]

/-- Lines that do not throw, one after the other. -/
lemma handleLines_append {more : List JsString} (h : (s.handleLines parse lines).2 = false) :
    s.handleLines parse (lines ++ more) = (s.handleLines parse lines).1.handleLines parse more := by
  induction lines generalizing s with
  | nil => rfl
  | cons line lines ih =>
    cases hline : s.handleLine parse line with
    | error =>
      rw [handleLines, hline] at h
      cases h
    | ok t =>
      rw [handleLines_cons hline] at h
      rw [List.cons_append, handleLines_cons hline, handleLines_cons hline, ih h]

variable {bytes : List UInt8}

lemma sound_stdout : s.sound parse (.stdout bytes) = true
    ↔ ∀ line ∈ s.finishedLines bytes, isNullLine parse line = false := by
  simp [sound, List.all_eq_true]

/-- **What a piece of the output does**: its lines are handled, and the rest waits. -/
lemma handleStdout_eq (h : s.Correlated) (hsound : s.sound parse (.stdout bytes) = true) :
    s.handleStdout parse bytes = (s.handleLines parse (s.finishedLines bytes)).1.withBuffer
      (s.stdout.decode bytes).1 (splitLines lineFeed (s.stdoutBuffer ++ (s.stdout.decode bytes).2)).2 := by
  have hquiet := (correlated_handleLines h (sound_stdout.mp hsound)).2
  rw [finishedLines] at hquiet ⊢
  rw [handleStdout]
  have hhandled := @handleLines_withBuffer parse
    (splitLines lineFeed (s.stdoutBuffer ++ (s.stdout.decode bytes).2)).1 s
    (s.stdout.decode bytes).1 (s.stdoutBuffer ++ (s.stdout.decode bytes).2)
  rw [withBuffer] at hhandled
  dsimp only
  rw [hhandled, hquiet]
  rfl

lemma correlated_handleStdout (h : s.Correlated) (hsound : s.sound parse (.stdout bytes) = true) :
    (s.handleStdout parse bytes).Correlated := by
  rw [handleStdout_eq h hsound]
  exact (correlated_handleLines h (sound_stdout.mp hsound)).1.withBuffer _ _

/-- Two pieces one after the other do what they do as one. -/
lemma handleStdout_append (h : s.Correlated) (a b : List UInt8)
    (hsound : s.sound parse (.stdout a) = true) :
    s.sound parse (.stdout (a ++ b)) = (s.handleStdout parse a).sound parse (.stdout b)
      ∧ (s.sound parse (.stdout (a ++ b)) = true →
        s.handleStdout parse (a ++ b) = (s.handleStdout parse a).handleStdout parse b) := by
  set s' := s.handleStdout parse a with hs'
  have heq := handleStdout_eq h hsound
  have hcorrelated : s'.Correlated := correlated_handleStdout h hsound
  have hbuffer : s'.stdoutBuffer = (splitLines lineFeed (s.stdoutBuffer ++ (s.stdout.decode a).2)).2 := by
    rw [hs', heq]; rfl
  have hdecoder : s'.stdout = (s.stdout.decode a).1 := by rw [hs', heq]; rfl
  have hlines : s.finishedLines (a ++ b) = s.finishedLines a ++ s'.finishedLines b := by
    rw [finishedLines, finishedLines, finishedLines, Utf8Decoder.decode_append, ← List.append_assoc,
      splitLines_append, hbuffer, hdecoder]
  have hrest : (splitLines lineFeed (s.stdoutBuffer ++ (s.stdout.decode (a ++ b)).2)).2
      = (splitLines lineFeed (s'.stdoutBuffer ++ (s'.stdout.decode b).2)).2 := by
    rw [Utf8Decoder.decode_append, ← List.append_assoc, splitLines_append, hbuffer, hdecoder]
  have hsounds : s.sound parse (.stdout (a ++ b)) = s'.sound parse (.stdout b) := by
    rw [Bool.eq_iff_iff, sound_stdout, sound_stdout, hlines]
    simp only [List.mem_append, or_imp, forall_and]
    exact and_iff_right (sound_stdout.mp hsound)
  refine ⟨hsounds, fun hboth => ?_⟩
  have hquiet := (correlated_handleLines h (sound_stdout.mp hsound)).2
  have hhandled : ∀ more, (s'.handleLines parse more).1
      = ((s.handleLines parse (s.finishedLines a)).1.handleLines parse more).1.withBuffer
        (s.stdout.decode a).1 (splitLines lineFeed (s.stdoutBuffer ++ (s.stdout.decode a).2)).2 := by
    intro more
    rw [hs', heq, handleLines_withBuffer]
  rw [handleStdout_eq h hboth, handleStdout_eq hcorrelated (hsounds ▸ hboth), hlines,
    handleLines_append hquiet, hrest, Utf8Decoder.decode_append, ← hdecoder, hhandled]
  rfl

end Lines

/-! ### What has settled -/

/-- Every call stays, and one that has settled stays settled with the same result. -/
def Keeps (s t : StdioTransport) : Prop :=
  ∀ (call : Nat) c, s.calls[call]? = some c → ∃ d, t.calls[call]? = some d ∧ d.id = c.id
    ∧ ∀ result, c.settled = some result → d.settled = some result

lemma Keeps.refl (s : StdioTransport) : s.Keeps s := fun _ c hc => ⟨c, hc, rfl, fun _ h => h⟩

lemma Keeps.trans {u : StdioTransport} (h : s.Keeps t) (h' : t.Keeps u) : s.Keeps u := by
  intro call c hc
  obtain ⟨d, hd, hid, hkept⟩ := h call c hc
  obtain ⟨e, he, hid', hkept'⟩ := h' call d hd
  exact ⟨e, he, hid'.trans hid, fun result hsettled => hkept' result (hkept result hsettled)⟩

lemma keeps_conclude (s : StdioTransport) (id : JsonRpcId) (call : Nat) (result : Except StdioError Json) :
    s.Keeps (s.conclude id call result) := by
  intro i c hc
  rw [getElem?_conclude, hc]
  split_ifs
  · exact ⟨_, rfl, conclude_id, fun _ => conclude_settled⟩
  · exact ⟨c, rfl, rfl, fun _ h => h⟩

lemma keeps_rejectAll (s : StdioTransport) (error : StdioError) : s.Keeps (s.rejectAll error) := by
  intro i c hc
  rw [getElem?_rejectAll, hc]
  refine ⟨_, rfl, ?_⟩
  split_ifs
  · exact ⟨conclude_id, fun _ => conclude_settled⟩
  · exact ⟨rfl, fun _ h => h⟩

lemma keeps_send (s : StdioTransport) (id : JsonRpcId) (method : String)
    (timeoutMs : Option (Option Nat)) : s.Keeps (s.send id method timeoutMs) := by
  intro i c hc
  refine ⟨c, ?_, rfl, fun _ h => h⟩
  rw [send]
  split_ifs <;> exact getElem?_snoc_old _ hc

lemma keeps_written (s : StdioTransport) (call : Nat) (c : JsonRpcCall) (error : Option String) :
    s.Keeps (s.written call c error) := by
  have hwritten : s.Keeps { s with calls := s.calls.modify call fun c => { c with writing := false } } := by
    intro i d hd
    dsimp only
    rw [List.getElem?_modify, hd]
    refine ⟨_, rfl, ?_⟩
    split_ifs <;> exact ⟨rfl, fun _ h => h⟩
  cases error with
  | none => exact hwritten
  | some message => exact hwritten.trans (keeps_conclude _ _ _ _)

variable {parse : JsString → Except String Json} {line : JsString} {e : StdioEvent}

lemma handleLine_cases (h : s.handleLine parse line = .ok t) :
    t = s ∨ (∃ error, t = s.rejectAll error) ∨ ∃ id call response, t = s.conclude id call (.ok response) := by
  simp only [handleLine, bind, Except.bind] at h
  split_ifs at h
  · exact .inl (Except.ok.inj h).symm
  · split at h
    · exact .inr (.inl ⟨_, (Except.ok.inj h).symm⟩)
    · split at h
      · cases h
      · split at h
        · exact .inl (Except.ok.inj h).symm
        · split at h
          · exact .inl (Except.ok.inj h).symm
          · exact .inr (.inr ⟨_, _, _, (Except.ok.inj h).symm⟩)

lemma keeps_handleLine (h : s.handleLine parse line = .ok t) : s.Keeps t ∧ t.threw = s.threw := by
  rcases handleLine_cases h with rfl | ⟨error, rfl⟩ | ⟨id, call, response, rfl⟩
  · exact ⟨Keeps.refl t, rfl⟩
  · exact ⟨keeps_rejectAll s error, rfl⟩
  · exact ⟨keeps_conclude s id call _, rfl⟩

lemma keeps_handleLines (s : StdioTransport) (lines : List JsString) :
    s.Keeps (s.handleLines parse lines).1 ∧ (s.handleLines parse lines).1.threw = s.threw := by
  induction lines generalizing s with
  | nil => exact ⟨Keeps.refl s, rfl⟩
  | cons line lines ih =>
    cases hline : s.handleLine parse line with
    | error =>
      rw [handleLines, hline]
      exact ⟨Keeps.refl s, rfl⟩
    | ok t =>
      obtain ⟨hkeeps, hthrew⟩ := keeps_handleLine hline
      rw [handleLines_cons hline]
      exact ⟨hkeeps.trans (ih t).1, (ih t).2.trans hthrew⟩

/-- The end of the child settles every call. -/
lemma correlated_terminate (h : s.Correlated) (error : StdioError) :
    (s.terminate error).Correlated ∧ s.Keeps (s.terminate error) ∧ (s.terminate error).threw = s.threw := by
  refine ⟨?_, keeps_rejectAll s error, rfl⟩
  exact { h.rejectAll error with ended := fun _ => ⟨rfl, fun _ _ hd => h.rejectAll_settled hd⟩ }

/-- **A sound step** keeps the table, and what has settled. -/
lemma correlated_step (h : s.Correlated) (hstep : s.soundStep parse e = some t) :
    t.Correlated ∧ s.Keeps t ∧ t.threw = s.threw := by
  obtain ⟨hsound, hstep⟩ := Option.ite_none_right_eq_some.mp hstep
  cases e with
  | send id method timeoutMs =>
    obtain rfl := Option.some.inj hstep
    refine ⟨correlated_send h ?_ _ _, keeps_send _ _ _ _, ?_⟩
    · simpa [sound, List.all_eq_true] using hsound
    · rw [send]
      split_ifs <;> rfl
  | written call error =>
    simp only [step] at hstep
    split at hstep
    · cases hstep
    · rename_i c hc
      split_ifs at hstep
      obtain rfl := Option.some.inj hstep
      refine ⟨correlated_written h hc _, keeps_written _ _ _ _, ?_⟩
      cases error <;> rfl
  | timedOut call =>
    simp only [step] at hstep
    split at hstep
    · cases hstep
    · rename_i c hc
      split_ifs at hstep
      obtain rfl := Option.some.inj hstep
      exact ⟨h.conclude hc (fun _ hresult => by cases hresult), keeps_conclude _ _ _ _, rfl⟩
  | stdout bytes =>
    obtain rfl := Option.some.inj hstep
    obtain ⟨hkeeps, hthrew⟩ := @keeps_handleLines parse s (s.finishedLines bytes)
    refine ⟨correlated_handleStdout h hsound, ?_, ?_⟩ <;> rw [handleStdout_eq h hsound]
    · exact hkeeps
    · exact hthrew
  | stderr bytes =>
    obtain rfl := Option.some.inj hstep
    have hcorrelated : (s.handleStderr bytes).Correlated := { h with }
    exact ⟨hcorrelated, Keeps.refl s, rfl⟩
  | failed code message => exact Option.some.inj hstep ▸ correlated_terminate h _
  | exited code signal => exact Option.some.inj hstep ▸ correlated_terminate h _
  | close =>
    obtain rfl := Option.some.inj hstep
    exact ⟨{ h with ended := fun hsome => ⟨rfl, (h.ended hsome).2⟩ }, Keeps.refl s, rfl⟩

lemma correlated_initial (requestTimeoutMs : Option Nat) : (initialStdio requestTimeoutMs).Correlated where
  listed _ _ hfound := by cases hfound
  waiting _ _ hd := by cases hd
  armed _ _ hd := by cases hd
  own _ _ _ hd := by cases hd
  distinct _ _ _ _ hd := by cases hd
  ended hsome := by cases hsome

/-- Every run keeps the table, and what has settled. -/
lemma correlated_run {events : List StdioEvent} (h : s.Correlated)
    (hrun : Runs (soundStep parse) s events t) : t.Correlated ∧ s.Keeps t ∧ t.threw = s.threw := by
  refine Runs.invariant (I := fun t => t.Correlated ∧ s.Keeps t ∧ t.threw = s.threw)
    ⟨h, Keeps.refl s, rfl⟩ ?_ hrun
  intro mid e t ⟨hmid, hkeeps, hthrew⟩ hstep
  obtain ⟨ht, hkeeps', hthrew'⟩ := correlated_step hmid hstep
  exact ⟨ht, hkeeps.trans hkeeps', hthrew'.trans hthrew⟩

/-! ### What settles a call -/

/-- A line that settles the call of an identifier: its response, or one that is not JSON. -/
def answers (parse : JsString → Except String Json) (id : JsonRpcId) (line : JsString) : Bool :=
  !JsString.isBlank line && match parse line with
    | .error _ => true
    | .ok response => match responseId response with
      | .ok (some answered) => answered = id
      | _ => false

/-- The events that settle a call: the error of its write, its timer, a line that answers it, and
the end of the child. -/
def settles (parse : JsString → Except String Json) (s : StdioTransport) (call : Nat) (id : JsonRpcId) :
    StdioEvent → Bool
  | .written written (some _) => written = call
  | .timedOut timedOut => timedOut = call
  | .stdout bytes => (s.finishedLines bytes).any (answers parse id)
  | .failed _ _ | .exited _ _ => true
  | _ => false

/-- The call has settled. -/
def Settled (s : StdioTransport) (call : Nat) : Prop :=
  ∃ c, s.calls[call]? = some c ∧ c.settled.isSome

lemma Settled.keep (h : s.Settled call) (hkeeps : s.Keeps t) : t.Settled call := by
  obtain ⟨c, hc, hsettled⟩ := h
  obtain ⟨d, hd, -, hkept⟩ := hkeeps call c hc
  obtain ⟨result, hresult⟩ := Option.isSome_iff_exists.mp hsettled
  exact ⟨d, hd, by rw [hkept result hresult]; rfl⟩

lemma settled_conclude (hcall : s.calls[call]? = some c) (id : JsonRpcId) :
    (s.conclude id call result).Settled call :=
  ⟨c.conclude result, by rw [getElem?_conclude, if_pos rfl, hcall]; rfl, conclude_settles⟩

lemma settled_rejectAll (h : s.Correlated) (hcall : s.calls[call]? = some c) (error : StdioError) :
    (s.rejectAll error).Settled call := by
  obtain ⟨d, hd, -⟩ := keeps_rejectAll s error call c hcall
  exact ⟨d, hd, h.rejectAll_settled hd⟩

lemma settled_handleLine (h : s.Correlated) (hcall : s.calls[call]? = some c)
    (hanswers : answers parse c.id line = true) (hline : s.handleLine parse line = .ok t) : t.Settled call := by
  obtain ⟨hblank, hanswers⟩ := Bool.and_eq_true_iff.mp hanswers
  simp only [Bool.not_eq_true'] at hblank
  have hkeeps := (keeps_handleLine hline).1
  simp only [handleLine, hblank, bind, Except.bind] at hline
  cases hparsed : parse line with
  | error detail =>
    simp only [hparsed] at hline
    exact Except.ok.inj hline ▸ settled_rejectAll h hcall _
  | ok response =>
    simp only [hparsed] at hanswers hline
    split at hanswers
    · rename_i answered hanswered
      obtain rfl := of_decide_eq_true hanswers
      simp only [hanswered] at hline
      by_cases hwaiting : c.settled = none
      · simp only [h.waiting call c hcall hwaiting] at hline
        exact Except.ok.inj hline ▸ settled_conclude hcall _
      · exact Settled.keep ⟨c, hcall, Option.isSome_iff_ne_none.mpr hwaiting⟩ hkeeps
    · cases hanswers

lemma settled_handleLines {lines : List JsString} (h : s.Correlated)
    (hlines : ∀ line ∈ lines, isNullLine parse line = false) (hcall : s.calls[call]? = some c)
    (hanswers : lines.any (answers parse c.id) = true) : (s.handleLines parse lines).1.Settled call := by
  induction lines generalizing s c with
  | nil => cases hanswers
  | cons line lines ih =>
    obtain ⟨t, ht, hcorrelated⟩ := correlated_handleLine h (hlines line (by simp))
    obtain ⟨d, hd, hid, -⟩ := (keeps_handleLine ht).1 call c hcall
    rw [handleLines_cons ht]
    rw [List.any_cons, Bool.or_eq_true] at hanswers
    rcases hanswers with hfirst | hrest
    · exact (settled_handleLine h hcall hfirst ht).keep (keeps_handleLines t lines).1
    · exact ih hcorrelated (fun l hl => hlines l (by simp [hl])) hd (hid ▸ hrest)

/-- **An event that settles a call** does so. -/
lemma settled_step (h : s.Correlated) (hcall : s.calls[call]? = some c)
    (hsettles : s.settles parse call c.id e = true) (hstep : s.soundStep parse e = some t) :
    t.Settled call := by
  obtain ⟨hsound, hstep⟩ := Option.ite_none_right_eq_some.mp hstep
  cases e with
  | send id method timeoutMs => cases hsettles
  | written written error =>
    cases error with
    | none => cases hsettles
    | some message =>
      obtain rfl := of_decide_eq_true hsettles
      simp only [step, hcall] at hstep
      split_ifs at hstep
      obtain rfl := Option.some.inj hstep
      refine settled_conclude (c := { c with writing := false }) ?_ _
      dsimp only
      rw [List.getElem?_modify, hcall]
      simp
  | timedOut timedOut =>
    obtain rfl := of_decide_eq_true hsettles
    simp only [step, hcall] at hstep
    split_ifs at hstep
    exact Option.some.inj hstep ▸ settled_conclude hcall _
  | stdout bytes =>
    obtain rfl := Option.some.inj hstep
    obtain ⟨d, hd, hsettled⟩ := settled_handleLines h (sound_stdout.mp hsound) hcall hsettles
    rw [handleStdout_eq h hsound]
    exact ⟨d, hd, hsettled⟩
  | stderr bytes => cases hsettles
  | failed code message => exact Option.some.inj hstep ▸ settled_rejectAll h hcall _
  | exited code signal => exact Option.some.inj hstep ▸ settled_rejectAll h hcall _
  | close => cases hsettles

/-! ### Where the output is cut -/

/-- The same events, with neighbouring pieces of the standard output put together. -/
def mergeChunks : List StdioEvent → List StdioEvent
  | [] => []
  | .stdout a :: events => match mergeChunks events with
    | .stdout b :: merged => .stdout (a ++ b) :: merged
    | merged => .stdout a :: merged
  | e :: events => e :: mergeChunks events

lemma soundStep_append (h : s.Correlated) (a b : List UInt8) :
    s.soundStep parse (.stdout (a ++ b))
      = (s.soundStep parse (.stdout a)).bind (·.soundStep parse (.stdout b)) := by
  by_cases hsound : s.sound parse (.stdout a) = true
  · obtain ⟨hsounds, heq⟩ := handleStdout_append h a b hsound
    rw [soundStep, soundStep, if_pos hsound, hsounds]
    simp only [step, Option.bind_some, soundStep]
    split_ifs with hboth
    · rw [heq (hsounds.trans hboth)]
    · rfl
  · have hneither : ¬ s.sound parse (.stdout (a ++ b)) = true := by
      rw [sound_stdout, finishedLines, Utf8Decoder.decode_append, ← List.append_assoc, splitLines_append]
      rw [sound_stdout, finishedLines] at hsound
      exact fun hall => hsound fun line hline => hall line (List.mem_append_left _ hline)
    rw [soundStep, soundStep, if_neg hsound, if_neg hneither]
    rfl

/-- **Where the output is cut** does not matter. -/
lemma runs_mergeChunks {events : List StdioEvent} (h : s.Correlated) :
    Runs (soundStep parse) s events t ↔ Runs (soundStep parse) s (mergeChunks events) t := by
  induction events using mergeChunks.induct generalizing s with
  | case1 => rfl
  | case2 a events b merged hmerged ih =>
    have htwo : Runs (soundStep parse) s (.stdout a :: events) t
        ↔ Runs (soundStep parse) s (.stdout a :: .stdout b :: merged) t := by
      rw [Runs.cons_iff, Runs.cons_iff, ← hmerged]
      exact exists_congr fun mid => and_congr_right fun hmid => ih (correlated_step h hmid).1
    rw [htwo, mergeChunks, hmerged, Runs.cons_iff, Runs.cons_iff, soundStep_append h]
    simp only [Option.bind_eq_some_iff, Runs.cons_iff]
    constructor
    · rintro ⟨mid, hmid, next, hnext, hrest⟩
      exact ⟨next, ⟨mid, hmid, hnext⟩, hrest⟩
    · rintro ⟨next, ⟨mid, hmid, hnext⟩, hrest⟩
      exact ⟨mid, hmid, next, hnext, hrest⟩
  | case3 a events hother ih =>
    have hmerged : mergeChunks (.stdout a :: events) = .stdout a :: mergeChunks events := by
      rw [mergeChunks]
      split
      · rename_i b merged hmerged
        exact absurd hmerged (hother b merged)
      · rfl
    rw [hmerged, Runs.cons_iff, Runs.cons_iff]
    exact exists_congr fun mid => and_congr_right fun hmid => ih (correlated_step h hmid).1
  | case4 e events hother ih =>
    rw [mergeChunks]
    · rw [Runs.cons_iff, Runs.cons_iff]
      exact exists_congr fun mid => and_congr_right fun hmid => ih (correlated_step h hmid).1
    · exact hother

end StdioTransport

open StdioTransport

/-- **The transport is sound for any stream** on which no line is the text `null`, as long as no
identifier is used twice: the handler of the output never throws.  A call settles once: with the
response of its own identifier or with an error; until then it is in the table, the child has not
ended, and its timer runs if it has a time limit.  Whatever should settle it does so.  The events
lead to the same state when the output is cut elsewhere. -/
theorem stdio_transport_sound (parse : JsString → Except String Json) (requestTimeoutMs : Option Nat)
    (events : List StdioEvent) (s : StdioTransport)
    (h : Runs (soundStep parse) (initialStdio requestTimeoutMs) events s) :
    s.threw = false
      ∧ (∀ (call : Nat) c, s.calls[call]? = some c →
        (∀ response, c.settled = some (.ok response) → responseId response = .ok (some c.id))
        ∧ (c.settled = none → s.pending.get? c.id = some call ∧ s.terminalError = none
          ∧ c.timer = c.timeoutMs.any (0 < ·)))
      ∧ (∀ id call, s.pending.get? id = some call →
        ∃ c, s.calls[call]? = some c ∧ c.id = id ∧ c.settled = none)
      ∧ (∀ more t, Runs (soundStep parse) s more t → s.Keeps t)
      ∧ (∀ e t (call : Nat) c, s.soundStep parse e = some t → s.calls[call]? = some c →
        s.settles parse call c.id e = true → t.Settled call)
      ∧ ∀ others, mergeChunks others = mergeChunks events →
        Runs (soundStep parse) (initialStdio requestTimeoutMs) others s := by
  have hinitial := correlated_initial requestTimeoutMs
  obtain ⟨hcorrelated, -, hthrew⟩ := correlated_run hinitial h
  refine ⟨hthrew, fun call c hc => ⟨fun response => hcorrelated.own call c response hc, fun hwaiting =>
    ⟨hcorrelated.waiting call c hc hwaiting, ?_, hcorrelated.armed call c hc hwaiting⟩⟩,
    hcorrelated.listed, fun more t hmore => (correlated_run hcorrelated hmore).2.1,
    fun e t call c hstep hc hsettles => settled_step hcorrelated hc hsettles hstep, fun others hsame => ?_⟩
  · by_contra hended
    have hsettled := (hcorrelated.ended (Option.isSome_iff_ne_none.mpr hended)).2 call c hc
    simp [hwaiting] at hsettled
  · rw [runs_mergeChunks hinitial, hsame, ← runs_mergeChunks hinitial]
    exact h

/-- `JSON.parse`, with an error of its own. -/
def parseLine (line : JsString) : Except String Json :=
  match Json.parse line with
  | none => .error "SyntaxError"
  | some response => .ok response

/-- The bytes of an ASCII text, and a line feed. -/
def asciiLine (text : String) : List UInt8 := text.toList.map (fun c => c.toNat.toUInt8) ++ [0x0A]

/-- A call with a time limit, and its response in two pieces. -/
def answeredInPieces : List StdioEvent :=
  [.send (.number 1) "get_info" (some (some 500)), .written 0 none, .stdout [0x7B, 0x22, 0x69, 0x64],
    .stdout [0x22, 0x3A, 0x31, 0x7D, 0x0A]]

theorem stdio_transport_sound_pieces :
    ∃ s, Runs (soundStep parseLine) (initialStdio none) answeredInPieces s ∧ s.threw = false
      ∧ s.Settled 0
      ∧ Runs (soundStep parseLine) (initialStdio none)
        [.send (.number 1) "get_info" (some (some 500)), .written 0 none,
          .stdout [0x7B, 0x22, 0x69, 0x64, 0x22, 0x3A, 0x31, 0x7D, 0x0A]] s := by
  have hsound := stdio_transport_sound parseLine none answeredInPieces _ rfl
  exact ⟨_, rfl, hsound.1, ⟨_, rfl, rfl⟩, hsound.2.2.2.2.2 _ rfl⟩

/-- The line `null` before a response: the handler throws, and the call whose response was
written stays unsettled; it throws anew at every further line. -/
theorem stdio_transport_null :
    ∃ s, Runs (step parseLine) (initialStdio none)
        [.send (.number 1) "get_info" none, .stdout (asciiLine "null"),
          .stdout (asciiLine "\x7b\"id\":1\x7d")] s
      ∧ s.threw = true ∧ ¬ s.Settled 0 := by
  refine ⟨_, rfl, rfl, ?_⟩
  rintro ⟨c, hc, hsettled⟩
  obtain rfl := Option.some.inj hc
  cases hsettled

end TetiBot

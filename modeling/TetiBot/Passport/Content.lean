import TetiBot.Core.Dates
import TetiBot.Library.JsonData

/-
The content of a passport, from the sender to the receiver
(`lifecycle-sidecar/connections.ts`, `core/protocol/envelope.ts`,
`core/protocol/validator.ts`).

* `snapshotContent`: what `broadcastAiStatus` shares under a policy.
* `aiStatusContentHash`: the hash of the shared content, whatever the times of the
  transport and of the observation of the tools.
* `serializeApplicationEnvelope`, `parseApplicationEnvelope`: the text in between.
* `passport_hash_agrees`: sender and receiver compute the same hash, and payloads with
  different content differ before they are hashed.
-/

namespace TetiBot

open Library Library.Json

namespace Passport

def text (s : String) : Json := .str (JsString.ofString s)

/-! ### The hash of the content -/

/-- The times of the transport, and what the receiver adds. -/
def TRANSPORT_FIELDS : List String :=
  ["generatedAt", "expiresAt", "receivedAt", "validUntil", "contentHash", "leaseCheckedAt",
    "leaseReceivedAt"]

/-- A tool without the time of its observation. -/
def stableTool : Json → Json
  | .obj fields => .obj (without ["observedAt"] fields)
  | tool => tool

def normalizeTools : Json → Json
  | .arr tools => .arr (tools.map stableTool)
  | tools => tools

/-- `{ ...content, tools: normalizedTools }`. -/
def hashedContent (fields : List (String × Json)) : List (String × Json) :=
  without ("tools" :: TRANSPORT_FIELDS) fields
    ++ ((lookup fields "tools").map fun tools => ("tools", normalizeTools tools)).toList

/-- `aiStatusContentHash`; `sha256` writes the hexadecimal digest of a text. -/
def aiStatusContentHash (sha256 : JsString → String) : Json → Except String String
  | .obj fields => .ok (sha256 (Json.obj (hashedContent fields)).stringify)
  | _ => .error "Passport content must be an object."

/-! ### The snapshot -/

structure PassportSharingPolicy where
  resourceSummary : Bool
  resourceQuota : Bool
  agents : Bool
  capabilities : Bool
  deriving DecidableEq

def hasPassportSharingFields (policy : PassportSharingPolicy) : Bool :=
  policy.resourceSummary || policy.resourceQuota || policy.agents || policy.capabilities

/-- What the sender knows: its tools, and what `projectCallablePassport` makes of its
callable agents and offers where the policy shows them.  These are objects of the
program, whose names are distinct. -/
structure LocalPassport where
  tools : List Json
  agents : List Json
  capabilities : List Json
  bindings : List Json
  computeOffers : List Json
  distinct : ∀ v ∈ tools ++ agents ++ capabilities ++ bindings ++ computeOffers, v.Distinct

/-- `left === right`, for texts. -/
def sameText : Option Json → Option Json → Bool
  | some (.str s), some (.str t) => s = t
  | _, _ => false

def items : Option Json → List Json
  | some (.arr items) => items
  | _ => []

/-- `{ ...structuredClone(tool), quotas: ... }`. -/
def sharedTool (policy : PassportSharingPolicy) : Json → Json
  | .obj fields =>
    match policy.resourceQuota, lookup fields "quotas" with
    | true, none => .obj fields
    | true, some quotas => .obj (setField fields ("quotas", quotas))
    | false, _ => .obj (setField fields ("quotas", .arr []))
  | tool => tool

section

variable (policy : PassportSharingPolicy) (known : LocalPassport)

def sharedTools : List Json :=
  if policy.resourceSummary then known.tools.map (sharedTool policy) else []

def sharedAgents : List Json := if policy.agents then known.agents else []

def sharedCapabilities : List Json := if policy.capabilities then known.capabilities else []

/-- The bindings whose agents are shared. -/
def sharedBindings : List Json :=
  if policy.capabilities then
    known.bindings.filter fun binding =>
      (items (binding.field "agentIds")).all fun agentId =>
        (sharedAgents policy known).any fun agent => sameText (agent.field "id") (some agentId)
  else []

/-- The offers whose capability is shared. -/
def sharedOffers : List Json :=
  if policy.capabilities && policy.agents then
    known.computeOffers.filter fun offer =>
      (sharedCapabilities policy known).any fun capability =>
        sameText (capability.field "id") (offer.field "capability")
  else []

def sharing : Json := text (if hasPassportSharingFields policy then "enabled" else "disabled")

/-- `snapshotContent`. -/
def snapshotContent : List (String × Json) :=
  [("sharing", sharing policy), ("tools", .arr (sharedTools policy known)),
    ("agents", .arr (sharedAgents policy known)),
    ("capabilities", .arr (sharedCapabilities policy known)),
    ("bindings", .arr (sharedBindings policy known)),
    ("computeOffers", .arr (sharedOffers policy known))]

/-- The object whose hash is the signature of a snapshot. -/
def signedContent (schemaVersion : Nat) : Json :=
  .obj (("schemaVersion", .num schemaVersion) :: snapshotContent policy known)

/-- The fields of a passport. -/
def passportFields (schemaVersion : Nat) (generatedAt expiresAt : String) :
    List (String × Json) :=
  [("schemaVersion", .num schemaVersion), ("sharing", sharing policy),
    ("generatedAt", text generatedAt), ("expiresAt", text expiresAt),
    ("tools", .arr (sharedTools policy known)), ("agents", .arr (sharedAgents policy known)),
    ("capabilities", .arr (sharedCapabilities policy known)),
    ("bindings", .arr (sharedBindings policy known)),
    ("computeOffers", .arr (sharedOffers policy known))]

/-- `callablePassportPayload`. -/
def callablePassportPayload (schemaVersion : Nat) (generatedAt expiresAt : String) : Json :=
  .obj (passportFields policy known schemaVersion generatedAt expiresAt)

end

/-! ### The envelope -/

def TETI_APPLICATION_PROTOCOL_VERSION : Nat := 2
def MAX_TETI_APPLICATION_ENVELOPE_BYTES : Nat := 128 * 1024
def MAX_TETI_APPLICATION_MESSAGE_ID_BYTES : Nat := 128
def MAX_TETI_APPLICATION_TIMESTAMP_BYTES : Nat := 64

def SUPPORTED_TYPES : List String :=
  ["teti.profile.sync", "teti.capability.offer", "teti.presence", "teti.ai.status.sync",
    "teti.task.request", "teti.task.receipt", "teti.task.attachment",
    "teti.task.attachment.receipt", "teti.task.status", "teti.task.cancel", "teti.task.input",
    "teti.task.application.receipt", "teti.task.artifact", "teti.task.artifact.file",
    "teti.task.artifact.receipt"]

def FORBIDDEN_FIELDS : List String :=
  ["privateKey", "secretKey", "password", "credentials", "chatmailPassword", "databasePath",
    "dbPath", "chatHistory", "messages"]

def ENVELOPE_FIELDS : List String :=
  ["version", "type", "messageId", "fromTetiId", "createdAt", "payload"]

/-- `throw` if the check failed. -/
def rejectWhen (c : Bool) (message : String) : Except String Unit :=
  if c then .error message else .ok ()

lemma rejectWhen_eq_ok {c : Bool} {message : String} {u : Unit} :
    rejectWhen c message = .ok u ↔ c = false := by
  cases c <;> simp [rejectWhen]

/-- `rejectPrivateFields`. -/
def rejectPrivateFields (label : String) (fields : List (String × Json)) : Except String Unit :=
  match FORBIDDEN_FIELDS.find? fun name => (lookup fields name).isSome with
  | some name => .error s!"{label} must not contain {name}."
  | none => .ok ()

/-- `requireBoundedString`. -/
def requireBoundedString (value : Option Json) (fieldName : String) (maximumBytes : Nat) :
    Except String JsString :=
  match value with
  | some (.str s) =>
    if JsString.isBlank s ∨ maximumBytes < JsString.utf8Size s then .error s!"{fieldName} is required."
    else .ok s
  | _ => .error s!"{fieldName} is required."

/-- The contracts of the payloads, and `Date.parse`: which payloads a contract accepts
does not matter here. -/
structure ApplicationContract where
  validatePayload : JsString → Json → Except String Unit
  parseDate : JsString → Option Timestamp

variable (contract : ApplicationContract)

/-- `requireTimestamp`. -/
def requireTimestamp (value : Option Json) (fieldName : String) : Except String Unit := do
  let s ← requireBoundedString value fieldName MAX_TETI_APPLICATION_TIMESTAMP_BYTES
  rejectWhen (contract.parseDate s).isNone s!"{fieldName} must be a valid timestamp."

def isSupportedApplicationType (value : Option Json) : Bool :=
  SUPPORTED_TYPES.any fun type => sameText (some (text type)) value

/-- `validateApplicationEnvelope`. -/
def validateApplicationEnvelope (value : Json) : Except String Unit := do
  rejectWhen (MAX_TETI_APPLICATION_ENVELOPE_BYTES < value.encodedSize)
    "Teti application envelope exceeds the allowed size."
  match value with
  | .obj fields =>
    rejectPrivateFields "Teti application envelope" fields
    rejectWhen (fields.any fun field => !ENVELOPE_FIELDS.contains field.1)
      "Teti application envelope contains an unsupported field."
    rejectWhen (match lookup fields "version" with
        | some (.num n) => n ≠ TETI_APPLICATION_PROTOCOL_VERSION
        | _ => true)
      "Unsupported Teti application envelope version."
    rejectWhen (!isSupportedApplicationType (lookup fields "type"))
      "Teti application envelope type is invalid."
    let _ ← requireBoundedString (lookup fields "messageId") "messageId"
      MAX_TETI_APPLICATION_MESSAGE_ID_BYTES
    rejectWhen (match lookup fields "fromTetiId" with
        | some (.str s) => !(JsString.toString? s).any isCanonicalTetiPublicId
        | _ => true)
      "fromTetiId must match teti_ followed by exactly 9 ASCII lowercase letters or numbers."
    requireTimestamp contract (lookup fields "createdAt") "createdAt"
    match lookup fields "type", lookup fields "payload" with
    | some (.str type), some (.obj payload) => do
      rejectPrivateFields "Teti application payload" payload
      contract.validatePayload type (.obj payload)
    | _, _ => .error "Teti application envelope payload is required."
  | _ => .error "Teti application envelope must be an object."

variable (messageId fromTetiId createdAt : String)

/-- The envelope of a passport. -/
def passportEnvelope (payload : Json) : Json :=
  .obj [("version", .num TETI_APPLICATION_PROTOCOL_VERSION),
    ("type", text "teti.ai.status.sync"), ("messageId", text messageId),
    ("fromTetiId", text fromTetiId), ("createdAt", text createdAt), ("payload", payload)]

/-- `createApplicationEnvelope`, of a passport. -/
def createApplicationEnvelope (payload : Json) : Except String Json := do
  validateApplicationEnvelope contract (passportEnvelope messageId fromTetiId createdAt payload)
  return passportEnvelope messageId fromTetiId createdAt payload

/-- `serializeApplicationEnvelope`. -/
def serializeApplicationEnvelope (envelope : Json) : Except String JsString := do
  validateApplicationEnvelope contract envelope
  return envelope.stringify

/-- `parseApplicationEnvelope`. -/
def parseApplicationEnvelope (raw : JsString) : Except String Json := do
  rejectWhen (MAX_TETI_APPLICATION_ENVELOPE_BYTES < JsString.utf8Size raw)
    "Teti application envelope exceeds the allowed size."
  match Json.parse raw with
  | none => .error "Teti application message is not valid JSON."
  | some value => do
    validateApplicationEnvelope contract value
    return value

/-- `sendAiStatusSync`: the text of the message. -/
def sendAiStatusSync (payload : Json) : Except String JsString := do
  let envelope ← createApplicationEnvelope contract messageId fromTetiId createdAt payload
  serializeApplicationEnvelope contract envelope

/-! ### The same content -/

/-- Two payloads share the same: every field but the times of the transport, and the
tools but the times of their observation. -/
def SameContent (p q : List (String × Json)) : Prop :=
  (∀ name, name ∉ TRANSPORT_FIELDS → name ≠ "tools" → lookup p name = lookup q name)
    ∧ (lookup p "tools").map normalizeTools = (lookup q "tools").map normalizeTools

lemma lookup_hashedContent (fields : List (String × Json)) (name : String) :
    lookup (hashedContent fields) name
      = if name = "tools" then (lookup fields "tools").map normalizeTools
        else if name ∈ TRANSPORT_FIELDS then none else lookup fields name := by
  rw [hashedContent, lookup_append, lookup_without]
  by_cases htools : name = "tools"
  · subst htools
    cases lookup fields "tools" with
    | none => simp [lookup_nil]
    | some tools => simp [lookup_cons]
  · have hrest : lookup ((lookup fields "tools").map fun tools =>
        ("tools", normalizeTools tools)).toList name = none := by
      cases lookup fields "tools" with
      | none => rfl
      | some tools => simp [lookup_cons, lookup_nil, Ne.symm htools]
    rw [hrest]
    simp [htools]

/-- **Different contents differ before they are hashed.** -/
lemma sameContent_of_hashed {p q : List (String × Json)}
    (h : (Json.obj (hashedContent p)).stringify = (Json.obj (hashedContent q)).stringify) :
    SameContent p q := by
  have hfields : hashedContent p = hashedContent q := Json.obj.inj (stringify_injective h)
  have hlookup : ∀ name, lookup (hashedContent p) name = lookup (hashedContent q) name := by
    rw [hfields]
    exact fun _ => rfl
  refine ⟨fun name htransport htools => ?_, ?_⟩
  · have hname := hlookup name
    rwa [lookup_hashedContent, lookup_hashedContent, if_neg htools, if_neg htools,
      if_neg htransport, if_neg htransport] at hname
  · have hname := hlookup "tools"
    rwa [lookup_hashedContent, lookup_hashedContent, if_pos rfl, if_pos rfl] at hname

/-! ### From the sender to the receiver -/

lemma rejectWhen_bind {c : Bool} {message : String} {f : Unit → Except String Unit}
    (h : (rejectWhen c message >>= f) = .ok ()) : c = false := by
  cases c with
  | false => rfl
  | true => cases h

section

variable (policy : PassportSharingPolicy) (known : LocalPassport)

lemma sharedTool_distinct {tool : Json} (h : tool.Distinct) :
    (sharedTool policy tool).Distinct := by
  cases tool with
  | obj fields =>
    rw [sharedTool]
    split
    · exact h
    · rename_i quotas hquotas
      exact distinct_setField h ((distinct_obj.mp h).2 _ (mem_of_lookup hquotas))
    · exact distinct_setField h trivial
  | null => exact h
  | bool b => exact h
  | num n => exact h
  | decimal d => exact h
  | str t => exact h
  | arr values => exact h

lemma sharedTools_distinct : ∀ v ∈ sharedTools policy known, v.Distinct := by
  intro v hv
  rw [sharedTools] at hv
  split_ifs at hv
  · obtain ⟨tool, htool, rfl⟩ := List.mem_map.mp hv
    exact sharedTool_distinct policy (known.distinct tool (by simp [htool]))
  · cases hv

lemma sharedAgents_distinct : ∀ v ∈ sharedAgents policy known, v.Distinct := by
  intro v hv
  rw [sharedAgents] at hv
  split_ifs at hv
  · exact known.distinct v (by simp [hv])
  · cases hv

lemma sharedCapabilities_distinct : ∀ v ∈ sharedCapabilities policy known, v.Distinct := by
  intro v hv
  rw [sharedCapabilities] at hv
  split_ifs at hv
  · exact known.distinct v (by simp [hv])
  · cases hv

lemma sharedBindings_distinct : ∀ v ∈ sharedBindings policy known, v.Distinct := by
  intro v hv
  rw [sharedBindings] at hv
  split_ifs at hv
  · exact known.distinct v (by simp [(List.mem_filter.mp hv).1])
  · cases hv

lemma sharedOffers_distinct : ∀ v ∈ sharedOffers policy known, v.Distinct := by
  intro v hv
  rw [sharedOffers] at hv
  split_ifs at hv
  · exact known.distinct v (by simp [(List.mem_filter.mp hv).1])
  · cases hv

lemma callablePassportPayload_distinct (schemaVersion : Nat) (generatedAt expiresAt : String) :
    (callablePassportPayload policy known schemaVersion generatedAt expiresAt).Distinct := by
  rw [callablePassportPayload, passportFields, distinct_obj]
  refine ⟨by simp, ?_⟩
  simp only [List.forall_mem_cons, distinct_arr]
  exact ⟨trivial, trivial, trivial, trivial, sharedTools_distinct policy known,
    sharedAgents_distinct policy known, sharedCapabilities_distinct policy known,
    sharedBindings_distinct policy known, sharedOffers_distinct policy known,
    fun _ h => by cases h⟩

/-- The payload and the snapshot differ in the times of the transport only. -/
lemma aiStatusContentHash_payload (sha256 : JsString → String) (schemaVersion : Nat)
    (generatedAt expiresAt : String) :
    aiStatusContentHash sha256
        (callablePassportPayload policy known schemaVersion generatedAt expiresAt)
      = aiStatusContentHash sha256 (signedContent policy known schemaVersion) := by
  simp [aiStatusContentHash, callablePassportPayload, passportFields, signedContent,
    snapshotContent, hashedContent, without, TRANSPORT_FIELDS, lookup_cons]

end

variable {contract : ApplicationContract}

/-- A text that is sent is that of a valid envelope. -/
lemma sendAiStatusSync_ok {messageId fromTetiId createdAt : String} {payload : Json}
    {raw : JsString}
    (h : sendAiStatusSync contract messageId fromTetiId createdAt payload = .ok raw) :
    validateApplicationEnvelope contract (passportEnvelope messageId fromTetiId createdAt payload)
        = .ok ()
      ∧ raw = (passportEnvelope messageId fromTetiId createdAt payload).stringify := by
  rw [sendAiStatusSync] at h
  obtain ⟨envelope, hcreated, hserialized⟩ := except_bind_eq_ok.mp h
  rw [createApplicationEnvelope] at hcreated
  obtain ⟨_, hvalid, hreturned⟩ := except_bind_eq_ok.mp hcreated
  obtain rfl := Except.ok.inj hreturned
  rw [serializeApplicationEnvelope] at hserialized
  obtain ⟨_, _, hwritten⟩ := except_bind_eq_ok.mp hserialized
  exact ⟨hvalid, (Except.ok.inj hwritten).symm⟩

/-- A valid envelope has at most the allowed size. -/
lemma encodedSize_of_valid {value : Json} (h : validateApplicationEnvelope contract value = .ok ()) :
    value.encodedSize ≤ MAX_TETI_APPLICATION_ENVELOPE_BYTES := by
  unfold validateApplicationEnvelope at h
  exact Nat.not_lt.mp (of_decide_eq_false (rejectWhen_bind h))

/-- **The receiver parses what was sent.** -/
lemma parseApplicationEnvelope_stringify {value : Json} (hdistinct : value.Distinct)
    (hvalid : validateApplicationEnvelope contract value = .ok ()) :
    parseApplicationEnvelope contract value.stringify = .ok value := by
  have hsize : ¬MAX_TETI_APPLICATION_ENVELOPE_BYTES < JsString.utf8Size value.stringify := by
    have := encodedSize_of_valid hvalid
    rw [encodedSize] at this
    omega
  rw [parseApplicationEnvelope, decide_eq_false hsize, parse_stringify hdistinct]
  show (do validateApplicationEnvelope contract value; return value : Except String Json) = .ok value
  rw [hvalid]
  rfl

end Passport

open Passport in
/-- **Sender and receiver hash the same content.** The hash that the sender computes
of its snapshot is the hash that the receiver computes of the payload it parses; and two
payloads with the same text before hashing have the same content. -/
theorem passport_hash_agrees (sha256 : JsString → String) (contract : ApplicationContract)
    (policy : PassportSharingPolicy) (known : LocalPassport) (schemaVersion : Nat)
    (messageId fromTetiId createdAt generatedAt expiresAt : String) (raw : JsString)
    (hsent : sendAiStatusSync contract messageId fromTetiId createdAt
      (callablePassportPayload policy known schemaVersion generatedAt expiresAt) = .ok raw) :
    (∃ envelope payload hash, parseApplicationEnvelope contract raw = .ok envelope
      ∧ envelope.field "payload" = some payload
      ∧ aiStatusContentHash sha256 (signedContent policy known schemaVersion) = .ok hash
      ∧ aiStatusContentHash sha256 payload = .ok hash)
    ∧ ∀ p q, (Json.obj (hashedContent p)).stringify = (Json.obj (hashedContent q)).stringify →
        SameContent p q := by
  obtain ⟨hvalid, rfl⟩ := sendAiStatusSync_ok hsent
  have hpayload := callablePassportPayload_distinct policy known schemaVersion generatedAt expiresAt
  have hdistinct : (passportEnvelope messageId fromTetiId createdAt
      (callablePassportPayload policy known schemaVersion generatedAt expiresAt)).Distinct := by
    rw [passportEnvelope, distinct_obj]
    refine ⟨by simp, ?_⟩
    simp only [List.forall_mem_cons]
    exact ⟨trivial, trivial, trivial, trivial, trivial, hpayload, fun _ h => by cases h⟩
  refine ⟨⟨_, callablePassportPayload policy known schemaVersion generatedAt expiresAt, _,
    parseApplicationEnvelope_stringify hdistinct hvalid, ?_, rfl, ?_⟩, fun p q => sameContent_of_hashed⟩
  · simp [passportEnvelope, field, lookup_cons]
  · rw [aiStatusContentHash_payload, signedContent, aiStatusContentHash]

namespace Passport

variable (observedAt : String)

/-- A tool with one quota. -/
def codexTool : Json :=
  .obj [("toolId", text "codex"), ("status", text "ready"),
    ("plan", .obj [("key", text "plus"), ("membershipVerified", .bool true)]),
    ("quotas", .arr [.obj [("period", text "weekly"),
      ("remainingPercent", .decimal ⟨JsString.ofString "12.5", by decide⟩), ("resetAt", .null),
      ("windowSeconds", .num 604800), ("identification", text "exact")]]),
    ("observedAt", text observedAt)]

def codexPassport : LocalPassport where
  tools := [codexTool observedAt]
  agents := []
  capabilities := []
  bindings := []
  computeOffers := []
  distinct := by
    simp [codexTool, text, Distinct, DistinctFields, DistinctItems]

def shareEverything : PassportSharingPolicy := ⟨true, true, true, true⟩

def codexPayload : Json :=
  callablePassportPayload shareEverything (codexPassport observedAt) 4 "2026-07-18T01:00:00.000Z"
    "2026-07-18T01:05:00.000Z"

/-- The contract accepts the payload. -/
def codexContract : ApplicationContract := ⟨fun _ _ => .ok (), dateParse⟩

/-- The SHA-256 digest of the hashed text of the passport. -/
def codexDigest : String := "cf653fb6ad7e8d6e592f434777c9f4081cb8cf66f39d1af2dddf00fbe4f262ee"

def codexEnvelope : Json :=
  passportEnvelope "message-1" "teti_abc123def" "2026-07-18T01:00:00.000Z" (codexPayload observedAt)

end Passport

open Passport in
theorem passport_hash_agrees_codex :
    ∃ envelope payload, parseApplicationEnvelope codexContract
        (codexEnvelope "2026-07-18T00:59:00.000Z").stringify = .ok envelope
      ∧ envelope.field "payload" = some payload
      ∧ aiStatusContentHash (fun _ => codexDigest)
          (signedContent shareEverything (codexPassport "2026-07-18T00:59:00.000Z") 4)
        = .ok codexDigest
      ∧ aiStatusContentHash (fun _ => codexDigest) payload = .ok codexDigest := by
  have hsent : sendAiStatusSync codexContract "message-1" "teti_abc123def"
      "2026-07-18T01:00:00.000Z" (codexPayload "2026-07-18T00:59:00.000Z")
        = .ok (codexEnvelope "2026-07-18T00:59:00.000Z").stringify := by
    decide +kernel
  obtain ⟨envelope, payload, hash, hparse, hpayload, hsigned, hreceived⟩ :=
    (passport_hash_agrees (fun _ => codexDigest) codexContract shareEverything
      (codexPassport "2026-07-18T00:59:00.000Z") 4 _ _ _ _ _ _ hsent).1
  obtain rfl : codexDigest = hash := Except.ok.inj hsigned
  exact ⟨envelope, payload, hparse, hpayload, hsigned, hreceived⟩

open Passport in
/-- Two payloads whose tools were observed at different times differ, and are equal
before they are hashed. -/
theorem observation_time_not_hashed :
    ∃ p q, codexPayload "2026-07-18T00:59:00.000Z" = .obj p
      ∧ codexPayload "2026-07-18T01:00:00.000Z" = .obj q
      ∧ (∀ payload ∈ [p, q], validateApplicationEnvelope codexContract (passportEnvelope "message-1"
          "teti_abc123def" "2026-07-18T01:00:00.000Z" (.obj payload)) = .ok ())
      ∧ p ≠ q
      ∧ (Json.obj (hashedContent p)).stringify = (Json.obj (hashedContent q)).stringify := by
  refine ⟨_, _, rfl, rfl, by decide +kernel, fun h => ?_, by decide +kernel⟩
  have htexts := congrArg (fun fields => (Json.obj fields).stringify) h
  revert htexts
  decide +kernel

end TetiBot

import TetiBot.Passport.Content

/-
The contract of the payloads that carry a passport (`core/ai-status/protocol.ts`).

* `validateTool`, `validateAgent`, `validateCallableAgent`, `validateCapability`, `validateBinding`,
  `validateComputeOffer`: the parts.
* `validateCallableReferences`: every reference in the payload resolves inside it.
* `validateAiStatusSyncPayload`: the whole.
* `nodup_of_validateOffers`: offers that pass have different identifiers.
-/

namespace TetiBot.Passport

open Library Library.Json

/-- Tools of a payload. -/
def MAX_TOOLS : Nat := 8
/-- Agents of a payload. -/
def MAX_AGENTS : Nat := 64
/-- Capabilities of a payload. -/
def MAX_CAPABILITIES : Nat := 64
/-- Bindings of a payload. -/
def MAX_BINDINGS : Nat := 64
/-- Compute offers of a payload. -/
def MAX_COMPUTE_OFFERS : Nat := 32
/-- Quotas of a tool. -/
def MAX_QUOTAS_PER_TOOL : Nat := 8
/-- Bytes of a payload. -/
def MAX_PAYLOAD_BYTES : Nat := 64 * 1024
/-- Units of the identifier of a tool. -/
def MAX_TOOL_ID_LENGTH : Nat := 64
/-- Units of the identifier of an agent. -/
def MAX_AGENT_ID_LENGTH : Nat := 64
/-- Units of a name. -/
def MAX_AGENT_NAME_LENGTH : Nat := 80
/-- Units of a provider. -/
def MAX_AGENT_PROVIDER_LENGTH : Nat := 64
/-- Units of a version. -/
def MAX_VERSION_LENGTH : Nat := 160
/-- Units of a description. -/
def MAX_DESCRIPTION_LENGTH : Nat := 240
/-- Units of a short key. -/
def MAX_SHORT_VALUE_LENGTH : Nat := 32
/-- How long a payload is valid. -/
def MAX_TTL_MS : Int := 60 * 60 * 1000

/-- The version with tools only. -/
def TETI_AI_STATUS_LEGACY_SCHEMA_VERSION : Nat := 1
/-- The version with observed agents. -/
def TETI_AI_STATUS_AGENT_SCHEMA_VERSION : Nat := 2
/-- The version with callable agents. -/
def TETI_AI_STATUS_CALLABLE_SCHEMA_VERSION : Nat := 3
/-- The version with compute offers. -/
def TETI_AI_STATUS_SCHEMA_VERSION : Nat := 4

/-- The types of an agent. -/
def AGENT_TYPES : List String := ["cli", "desktop", "ide_extension", "local_service"]
/-- Whether an agent is installed. -/
def INSTALLATION_STATES : List String := ["installed", "not_installed", "unknown"]
/-- Whether an agent runs. -/
def RUNTIME_STATES : List String := ["running", "not_running", "unknown"]
/-- How an agent was found. -/
def DETECTION_SOURCES : List String := ["command", "application", "process"]
/-- How sure the detection is. -/
def CONFIDENCE_VALUES : List String := ["low", "medium", "high"]

/-! ### Values -/

variable (value : Option Json)

/-- The value is this text. -/
def isText (s : String) : Bool := sameText value (some (text s))

/-- The value is one of these texts. -/
def isOneOf (texts : List String) : Bool := texts.any (isText value)

/-- The value is null. -/
def isNull : Option Json → Bool
  | some .null => true
  | _ => false

/-- Two items of a `Set` are one; objects and arrays are each their own. -/
def sameItem : Json → Json → Bool
  | .null, .null => true
  | .bool a, .bool b => a == b
  | .num m, .num n => m == n
  | .decimal d, .decimal e => d == e
  | .str s, .str t => s == t
  | _, _ => false

/-- `new Set(items).size === items.length`. -/
def areDistinct (items : List Json) : Bool :=
  decide (items.Pairwise fun a b => sameItem a b = false)

variable (label : String)

/-- The fields of an object. -/
def record : Except String (List (String × Json)) :=
  match value with
  | some (.obj fields) => .ok fields
  | _ => .error s!"{label} must be an object."

/-- The first field that is not allowed is refused, unless its name is empty. -/
def exactKeys (fields : List (String × Json)) (allowed : List String) (label : String) :
    Except String Unit := do
  rejectWhen ((fields.find? fun field => !allowed.contains field.1).any (·.1 ≠ ""))
    s!"{label} contains an unsupported field."
  rejectWhen (allowed.any fun key => (lookup fields key).isNone)
    s!"{label} is missing a required field."

/-- A text that is not blank and not too long. -/
def shortString (maxLength : Nat) : Except String JsString :=
  match value with
  | some (.str s) =>
    if JsString.isBlank s || maxLength < s.length then .error s!"{label} is invalid." else .ok s
  | _ => .error s!"{label} is invalid."

/-- `SHORT_KEY_PATTERN`. -/
def isShortKey (s : JsString) : Bool := (JsString.toString? s).any safeSlugPattern

/-- `TOOL_ID_PATTERN`: a short key without an underscore. -/
def isToolId (s : JsString) : Bool := isShortKey s && !s.contains 0x5F

/-- A short key that is not too long. -/
def slug (maxLength : Nat) : Except String Unit := do
  let s ← shortString value label maxLength
  rejectWhen (!isShortKey s) s!"{label} is invalid."

/-- A short key of the usual length. -/
def shortKey : Except String Unit :=
  slug value label MAX_SHORT_VALUE_LENGTH

/-- A control character. -/
def isControl (u : UInt16) : Bool := u < 0x20 || u = 0x7F

/-- A short text without control characters. -/
def safeLabel (maxLength : Nat) : Except String Unit := do
  let s ← shortString value label maxLength
  rejectWhen (s.any isControl) s!"{label} is invalid."

/-- `\w`. -/
def isWordUnit (u : UInt16) : Bool :=
  JsString.isDigit u || (0x41 ≤ u && u ≤ 0x5A) || (0x61 ≤ u && u ≤ 0x7A) || u = 0x5F

/-- A letter in lower case. -/
def lowerUnit (u : UInt16) : UInt16 := if 0x41 ≤ u && u ≤ 0x5A then u + 0x20 else u

/-- The words that a version must not mention. -/
def SECRET_WORDS : List JsString :=
  ["token", "cookie", "credential", "password", "apikey", "api_key", "api key", "api-key"].map
    JsString.ofString

/-- `/\b(?:token|cookie|credential|password|api[_ -]?key)\b/i`, after a unit. -/
def mentionsSecret : Option UInt16 → JsString → Bool
  | _, [] => false
  | before, u :: rest =>
    (!before.any isWordUnit && SECRET_WORDS.any fun word =>
        word.isPrefixOf ((u :: rest).map lowerUnit)
          && !((u :: rest).drop word.length).head?.any isWordUnit)
      || mentionsSecret (some u) rest

/-- A label that is no path, no address and no secret. -/
def safeVersion : Except String Unit := do
  safeLabel value "Agent version" MAX_VERSION_LENGTH
  let s ← shortString value "Agent version" MAX_VERSION_LENGTH
  rejectWhen (s.any (fun u => u = 0x5C || u = 0x2F || u = 0x40) || mentionsSecret none s)
    "AI Agent version is invalid."

/-- At most `maximum` different identifiers. -/
def safeIdArray (maximum : Nat) : Except String Unit :=
  match value with
  | some (.arr ids) => do
    rejectWhen (maximum < ids.length || !areDistinct ids) s!"{label} are invalid."
    ids.forM fun id => slug (some id) label MAX_AGENT_ID_LENGTH
  | _ => .error s!"{label} are invalid."

/-- Text, and perhaps images. -/
def contentModeArray : Except String Unit :=
  match value with
  | some (.arr modes) =>
    rejectWhen (modes.isEmpty || 2 < modes.length || !isText modes.head? "text" || !areDistinct modes
        || modes.any fun mode => !isOneOf (some mode) ["text", "image"])
      s!"{label} are invalid."
  | _ => .error s!"{label} are invalid."

/-- A list of at most `maximum` items. -/
def boundedArray (maximum : Nat) (message : String) : Except String (List Json) :=
  match value with
  | some (.arr items) => if maximum < items.length then .error message else .ok items
  | _ => .error message

/-! ### Numbers -/

/-- The number has a sign. -/
def isNegative (d : Decimal) : Bool := d.text.head? = some 0x2D

/-- A number that is neither natural nor negative: with an exponent it is small or large, else its
whole part decides. -/
def isBelowHundred (d : Decimal) : Bool :=
  match d.text.dropWhile fun u => u ≠ 0x65 with
  | _ :: sign :: _ => sign = 0x2D
  | _ => JsString.digitsValue (d.text.takeWhile JsString.isDigit) < 100

/-- A number from 0 to 100. -/
def isPercent : Option Json → Bool
  | some (.num n) => n ≤ 100
  | some (.decimal d) => !isNegative d && isBelowHundred d
  | _ => false

/-- A number above 0. -/
def isPositive : Option Json → Bool
  | some (.num n) => 0 < n
  | some (.decimal d) => !isNegative d
  | _ => false

/-! ### Parts -/

section

variable (parseDate : JsString → Option Timestamp)

/-- A time that `Date.parse` reads. -/
def isoTimestamp (value : Option Json) (label : String) : Except String Timestamp :=
  match value with
  | some (.str s) =>
    if JsString.isBlank s then .error s!"AI status {label} is required."
    else match parseDate s with
      | some t => .ok t
      | none => .error s!"AI status {label} is invalid."
  | _ => .error s!"AI status {label} is required."

/-- The check of a time that is not used. -/
def timestamp (value : Option Json) (label : String) : Except String Unit := do
  let _ ← isoTimestamp parseDate value label

variable (value : Json)

/-- The checks of a quota. -/
def validateQuota : Except String Unit := do
  let quota ← record (some value) "AI tool quota"
  exactKeys quota ["period", "remainingPercent", "resetAt", "windowSeconds", "identification"]
    "AI tool quota"
  shortKey (lookup quota "period") "quota period"
  rejectWhen (!isPercent (lookup quota "remainingPercent"))
    "AI tool quota remainingPercent is invalid."
  if isNull (lookup quota "resetAt") then pure ()
  else timestamp parseDate (lookup quota "resetAt") "resetAt"
  rejectWhen (!isNull (lookup quota "windowSeconds") && !isPositive (lookup quota "windowSeconds"))
    "AI tool quota windowSeconds is invalid."
  rejectWhen (!isOneOf (lookup quota "identification") ["exact", "inferred"])
    "AI tool quota identification is invalid."

/-- The checks of a tool. -/
def validateTool : Except String Unit := do
  let tool ← record (some value) "AI tool status"
  exactKeys tool ["toolId", "status", "plan", "quotas", "observedAt"] "AI tool status"
  let toolId ← shortString (lookup tool "toolId") "toolId" MAX_TOOL_ID_LENGTH
  rejectWhen (!isToolId toolId) "AI tool status toolId is invalid."
  rejectWhen (!isOneOf (lookup tool "status") ["ready", "stale", "unavailable"])
    "AI tool status state is invalid."
  timestamp parseDate (lookup tool "observedAt") "observedAt"
  let plan ← record (lookup tool "plan") "AI tool plan"
  exactKeys plan ["key", "membershipVerified"] "AI tool plan"
  if isNull (lookup plan "key") then pure () else shortKey (lookup plan "key") "plan key"
  rejectWhen (match lookup plan "membershipVerified" with
      | some (.bool _) => false
      | _ => true)
    "AI tool plan membershipVerified must be boolean."
  let quotas ← boundedArray (lookup tool "quotas") MAX_QUOTAS_PER_TOOL
    "AI tool quotas must be a bounded array."
  quotas.forM (validateQuota parseDate)

/-- An agent of the schema before callable agents. -/
def validateAgent : Except String Unit := do
  let agent ← record (some value) "AI Agent status"
  exactKeys agent ["agentId", "name", "provider", "type", "surfaces", "installationStatus",
    "detectionSource", "version", "runtimeStatus", "processCount", "confidence", "lastSeenAt",
    "observedAt"] "AI Agent status"
  slug (lookup agent "agentId") "Agent ID" MAX_AGENT_ID_LENGTH
  safeLabel (lookup agent "name") "Agent name" MAX_AGENT_NAME_LENGTH
  if isNull (lookup agent "provider") then pure ()
  else slug (lookup agent "provider") "Agent provider" MAX_AGENT_PROVIDER_LENGTH
  rejectWhen (!isOneOf (lookup agent "type") AGENT_TYPES) "AI Agent type is invalid."
  rejectWhen (match lookup agent "surfaces" with
      | some (.arr surfaces) => surfaces.isEmpty || AGENT_TYPES.length < surfaces.length
          || surfaces.any (fun surface => !isOneOf (some surface) AGENT_TYPES) || !areDistinct surfaces
      | _ => true)
    "AI Agent surfaces are invalid."
  rejectWhen (!isOneOf (lookup agent "installationStatus") INSTALLATION_STATES)
    "AI Agent installation status is invalid."
  rejectWhen (!isNull (lookup agent "detectionSource")
      && !isOneOf (lookup agent "detectionSource") DETECTION_SOURCES)
    "AI Agent detection source is invalid."
  if isNull (lookup agent "version") then pure () else safeVersion (lookup agent "version")
  rejectWhen (!isOneOf (lookup agent "runtimeStatus") RUNTIME_STATES)
    "AI Agent runtime status is invalid."
  rejectWhen (match lookup agent "processCount" with
      | some .null => false
      | some (.num n) => 1024 < n
      | _ => true)
    "AI Agent process count is invalid."
  rejectWhen (!isNull (lookup agent "confidence")
      && !isOneOf (lookup agent "confidence") CONFIDENCE_VALUES)
    "AI Agent confidence is invalid."
  if isNull (lookup agent "lastSeenAt") then pure ()
  else timestamp parseDate (lookup agent "lastSeenAt") "Agent lastSeenAt"
  timestamp parseDate (lookup agent "observedAt") "Agent observedAt"

/-- The checks of a callable agent. -/
def validateCallableAgent : Except String Unit := do
  let agent ← record (some value) "Callable Passport Agent"
  exactKeys agent ["id", "name", "provider", "capabilityIds", "inputModes", "outputModes",
    "availability", "observedAt"] "Callable Passport Agent"
  slug (lookup agent "id") "Callable Agent ID" MAX_AGENT_ID_LENGTH
  safeLabel (lookup agent "name") "Callable Agent name" MAX_AGENT_NAME_LENGTH
  safeLabel (lookup agent "provider") "Callable Agent provider" MAX_AGENT_PROVIDER_LENGTH
  safeIdArray (lookup agent "capabilityIds") "Callable Agent capability IDs" 32
  rejectWhen (items (lookup agent "capabilityIds")).isEmpty
    "Callable Agent capability IDs are invalid."
  contentModeArray (lookup agent "inputModes") "Callable Agent input modes"
  contentModeArray (lookup agent "outputModes") "Callable Agent output modes"
  rejectWhen (!isText (lookup agent "availability") "available")
    "Callable Agent availability is invalid."
  timestamp parseDate (lookup agent "observedAt") "Callable Agent observedAt"

/-- The checks of a capability. -/
def validateCapability : Except String Unit := do
  let capability ← record (some value) "Callable Passport capability"
  exactKeys capability ["id", "name", "category", "description", "availability", "observedAt"]
    "Callable Passport capability"
  slug (lookup capability "id") "Capability ID" MAX_AGENT_ID_LENGTH
  safeLabel (lookup capability "name") "Capability name" MAX_AGENT_NAME_LENGTH
  slug (lookup capability "category") "Capability category" MAX_AGENT_PROVIDER_LENGTH
  safeLabel (lookup capability "description") "Capability description" MAX_DESCRIPTION_LENGTH
  rejectWhen (!isText (lookup capability "availability") "available")
    "Capability availability is invalid."
  timestamp parseDate (lookup capability "observedAt") "Capability observedAt"

/-- The checks of a binding. -/
def validateBinding : Except String Unit := do
  let binding ← record (some value) "Callable Passport binding"
  exactKeys binding ["capabilityId", "agentIds", "resourceIds"] "Callable Passport binding"
  slug (lookup binding "capabilityId") "Binding capability ID" MAX_AGENT_ID_LENGTH
  safeIdArray (lookup binding "agentIds") "Binding Agent IDs" MAX_AGENTS
  safeIdArray (lookup binding "resourceIds") "Binding Resource IDs" MAX_TOOLS

/-- The only mode is text. -/
def singleTextMode : Option Json → Bool
  | some (.arr [mode]) => isText (some mode) "text"
  | _ => false

/-- The value is 1. -/
def isOne : Option Json → Bool
  | some (.num n) => n == 1
  | _ => false

/-- The checks of a compute offer. -/
def validateComputeOffer : Except String Unit := do
  let offer ← record (some value) "Compute Offer"
  exactKeys offer ["offerId", "capability", "resourceClass", "executionLocation", "inputModes",
    "outputModes", "concurrency", "approval", "observedAt"] "Compute Offer"
  slug (lookup offer "offerId") "Compute Offer ID" 128
  rejectWhen (!isText (lookup offer "capability") "general-text-assistance"
      || !isOneOf (lookup offer "resourceClass") ["local_model", "native_agent"]
      || !isText (lookup offer "executionLocation") "receiver_local"
      || !singleTextMode (lookup offer "inputModes")
      || !singleTextMode (lookup offer "outputModes")
      || !isOne (lookup offer "concurrency")
      || !isText (lookup offer "approval") "allow_once")
    "Compute Offer contract is invalid."
  timestamp parseDate (lookup offer "observedAt") "Compute Offer observedAt"

/-! ### References -/

/-- The text of a value that was checked. -/
def textOf : Option Json → JsString
  | some (.str s) => s
  | _ => []

/-- The texts of a list that was checked. -/
def textsOf (value : Option Json) : List JsString := (items value).map fun item => textOf (some item)

/-- What of an agent is referred to. -/
structure AgentReference where
  id : JsString
  capabilityIds : List JsString
  inputModes : List JsString
  outputModes : List JsString

/-- What of an agent the payload refers to. -/
def agentReference (agent : Json) : AgentReference where
  id := textOf (agent.field "id")
  capabilityIds := textsOf (agent.field "capabilityIds")
  inputModes := textsOf (agent.field "inputModes")
  outputModes := textsOf (agent.field "outputModes")

/-- What a binding refers to. -/
structure BindingReference where
  capabilityId : JsString
  agentIds : List JsString
  resourceIds : List JsString

/-- The references of a binding. -/
def bindingReference (binding : Json) : BindingReference where
  capabilityId := textOf (binding.field "capabilityId")
  agentIds := textsOf (binding.field "agentIds")
  resourceIds := textsOf (binding.field "resourceIds")

/-- What an offer refers to. -/
structure OfferReference where
  offerId : JsString
  capability : JsString
  inputModes : List JsString
  outputModes : List JsString

/-- The references of an offer. -/
def offerReference (offer : Json) : OfferReference where
  offerId := textOf (offer.field "offerId")
  capability := textOf (offer.field "capability")
  inputModes := textsOf (offer.field "inputModes")
  outputModes := textsOf (offer.field "outputModes")

/-- What a payload refers to and is referred to by. -/
structure PassportReferences where
  toolIds : List JsString
  agents : List AgentReference
  capabilityIds : List JsString
  bindings : List BindingReference
  offers : List OfferReference

/-- The references of a payload. -/
def passportReferences (payload : List (String × Json)) (withComputeOffers : Bool) :
    PassportReferences where
  toolIds := (items (lookup payload "tools")).map fun tool => textOf (tool.field "toolId")
  agents := (items (lookup payload "agents")).map agentReference
  capabilityIds := (items (lookup payload "capabilities")).map fun c => textOf (c.field "id")
  bindings := (items (lookup payload "bindings")).map bindingReference
  offers := if withComputeOffers then (items (lookup payload "computeOffers")).map offerReference
    else []

section

variable (refs : PassportReferences)

/-- The identifiers of the agents. -/
def agentIds : List JsString := refs.agents.map AgentReference.id

/-- The loop over the bindings; `bound` are those before. -/
def validateBindings (bound : List BindingReference) : List BindingReference → Except String Unit
  | [] => pure ()
  | binding :: rest => do
    rejectWhen (!refs.capabilityIds.contains binding.capabilityId || binding.agentIds.isEmpty
        || binding.agentIds.any (fun id => !(agentIds refs).contains id)
        || binding.resourceIds.any (fun id => !refs.toolIds.contains id)
        || bound.any fun other => other.capabilityId == binding.capabilityId)
      "Callable Passport binding references are invalid."
    rejectWhen (binding.agentIds.any fun id =>
        !(refs.agents.find? fun candidate => candidate.id == id).any fun agent =>
          agent.capabilityIds.contains binding.capabilityId)
      "Callable Passport binding references are invalid."
    validateBindings (bound ++ [binding]) rest

/-- `bindingByCapability.get(capabilityId)`. -/
def bindingFor (capabilityId : JsString) : Option BindingReference :=
  refs.bindings.find? fun binding => binding.capabilityId == capabilityId

/-- An offer has a binding, and one of its agents has the modes of the offer. -/
def isOffered (offer : OfferReference) : Bool :=
  (bindingFor refs offer.capability).any fun binding =>
    (refs.agents.filter fun agent => binding.agentIds.contains agent.id).any fun agent =>
      offer.inputModes.all agent.inputModes.contains && offer.outputModes.all agent.outputModes.contains

/-- The loop over the offers; `seen` are the identifiers before. -/
def validateOffers (seen : List JsString) : List OfferReference → Except String Unit
  | [] => pure ()
  | offer :: rest => do
    rejectWhen (seen.contains offer.offerId || !refs.capabilityIds.contains offer.capability
        || !isOffered refs offer)
      "Compute Offer references are invalid."
    validateOffers (seen ++ [offer.offerId]) rest

/-- Every reference resolves inside the payload. -/
def validateCallableReferences : Except String Unit := do
  rejectWhen (decide ¬refs.toolIds.Nodup || decide ¬(agentIds refs).Nodup
      || decide ¬refs.capabilityIds.Nodup)
    "Callable Passport entity IDs must be unique."
  validateBindings refs [] refs.bindings
  rejectWhen (refs.agents.any fun agent => agent.capabilityIds.any fun id =>
      !refs.capabilityIds.contains id
        || !(bindingFor refs id).any fun binding => binding.agentIds.contains agent.id)
    "Callable Agent capability reference is invalid."
  rejectWhen (refs.bindings.length ≠ refs.capabilityIds.length)
    "Every Callable Passport capability must have one binding."
  validateOffers refs [] refs.offers

end

/-! ### Payloads -/

variable (payload : List (String × Json))

/-- The payload has this version. -/
def hasVersion (version : Nat) : Bool :=
  match lookup payload "schemaVersion" with
  | some (.num n) => n == version
  | _ => false

/-- A payload with compute offers. -/
def isCurrent : Bool :=
  hasVersion payload TETI_AI_STATUS_SCHEMA_VERSION

/-- A payload with callable agents. -/
def isCallable : Bool :=
  hasVersion payload TETI_AI_STATUS_CALLABLE_SCHEMA_VERSION

/-- A payload with observed agents. -/
def isObservedAgent : Bool :=
  hasVersion payload TETI_AI_STATUS_AGENT_SCHEMA_VERSION

/-- The keys of a payload, by its version. -/
def payloadKeys : List String :=
  ["schemaVersion", "sharing", "generatedAt", "expiresAt", "tools"]
    ++ if isCurrent payload then ["agents", "capabilities", "bindings", "computeOffers"]
      else if isCallable payload then ["agents", "capabilities", "bindings"]
      else if isObservedAgent payload then ["agents"]
      else []

/-- Nothing is shared. -/
def isDisabled : Bool := isText (lookup payload "sharing") "disabled"

/-- What comes before the tools. -/
def validateTimes : Except String Unit := do
  rejectWhen (!isOneOf (lookup payload "sharing") ["enabled", "disabled"])
    "AI status sharing state is invalid."
  let generatedAt ← isoTimestamp parseDate (lookup payload "generatedAt") "generatedAt"
  let expiresAt ← isoTimestamp parseDate (lookup payload "expiresAt") "expiresAt"
  rejectWhen (expiresAt ≤ generatedAt) "AI status expiresAt must be after generatedAt."
  rejectWhen (MAX_TTL_MS < expiresAt - generatedAt) "AI status expiry exceeds the allowed TTL."

/-- The tools of a payload. -/
def validateTools : Except String Unit := do
  let tools ← boundedArray (lookup payload "tools") MAX_TOOLS
    "AI status tools must be a bounded array."
  rejectWhen (isDisabled payload && !tools.isEmpty)
    "A disabled AI status payload cannot contain tools."
  tools.forM (validateTool parseDate)

/-- The agents of a payload. -/
def validateAgents : Except String Unit := do
  let agents ← boundedArray (lookup payload "agents") MAX_AGENTS
    "AI status agents must be a bounded array."
  rejectWhen (isDisabled payload && !agents.isEmpty)
    "A disabled AI status payload cannot contain agents."
  agents.forM fun agent =>
    if isCurrent payload || isCallable payload then validateCallableAgent parseDate agent
    else validateAgent parseDate agent

/-- The compute offers of a payload. -/
def validateComputeOffers : Except String Unit := do
  let computeOffers ← boundedArray (lookup payload "computeOffers") MAX_COMPUTE_OFFERS
    "Compute Offers must be a bounded array."
  rejectWhen (isDisabled payload && !computeOffers.isEmpty)
    "A disabled AI status payload cannot contain Compute Offers."
  computeOffers.forM (validateComputeOffer parseDate)

/-- The capabilities and bindings of a payload. -/
def validateCapabilities : Except String Unit := do
  let capabilities ← boundedArray (lookup payload "capabilities") MAX_CAPABILITIES
    "AI status capabilities must be a bounded array."
  let bindings ← boundedArray (lookup payload "bindings") MAX_BINDINGS
    "AI status bindings must be a bounded array."
  rejectWhen (isDisabled payload && (!capabilities.isEmpty || !bindings.isEmpty))
    "A disabled AI status payload cannot contain capabilities."
  capabilities.forM (validateCapability parseDate)
  bindings.forM validateBinding

/-- The checks of a payload. -/
def validateAiStatusSyncPayload (value : Json) : Except String Unit := do
  rejectWhen (MAX_PAYLOAD_BYTES < value.encodedSize) "AI status payload exceeds the allowed size."
  let payload ← record (some value) "AI status payload"
  rejectWhen (!isCurrent payload && !isCallable payload && !isObservedAgent payload
      && !hasVersion payload TETI_AI_STATUS_LEGACY_SCHEMA_VERSION)
    "Unsupported AI status schema version."
  exactKeys payload (payloadKeys payload) "AI status payload"
  validateTimes parseDate payload
  validateTools parseDate payload
  if isCurrent payload || isCallable payload || isObservedAgent payload then
    validateAgents parseDate payload
  else pure ()
  if isCurrent payload || isCallable payload then do
    validateCapabilities parseDate payload
    if isCurrent payload then validateComputeOffers parseDate payload else pure ()
    validateCallableReferences (passportReferences payload (isCurrent payload))
  else pure ()

end

/-! ### What passes -/

lemma rejectWhen_then_eq_ok {c : Bool} {message : String} {f : Unit → Except String Unit} :
    (rejectWhen c message >>= f) = .ok () ↔ c = false ∧ f () = .ok () := by
  cases c with
  | false => simp [rejectWhen, bind, Except.bind]
  | true => simp [rejectWhen, bind, Except.bind]

lemma then_eq_ok {m m' : Except String Unit} : (m >>= fun _ => m') = .ok () ↔ m = .ok () ∧ m' = .ok () := by
  rw [except_bind_eq_ok]
  exact ⟨fun ⟨_, h, h'⟩ => ⟨h, h'⟩, fun ⟨h, h'⟩ => ⟨(), h, h'⟩⟩

section

variable {refs : PassportReferences}

/-- What a binding refers to. -/
structure Resolves (refs : PassportReferences) (binding : BindingReference) : Prop where
  capability : binding.capabilityId ∈ refs.capabilityIds
  ne_nil : binding.agentIds ≠ []
  resources : ∀ id ∈ binding.resourceIds, id ∈ refs.toolIds
  agents : ∀ id ∈ binding.agentIds, id ∈ agentIds refs
  capabilities : ∀ id ∈ binding.agentIds, ∃ agent,
    refs.agents.find? (fun candidate => candidate.id == id) = some agent
      ∧ binding.capabilityId ∈ agent.capabilityIds

lemma validateBindings_of_resolves {bound bindings : List BindingReference}
    (hresolves : ∀ binding ∈ bindings, Resolves refs binding)
    (hnodup : ((bound ++ bindings).map BindingReference.capabilityId).Nodup) :
    validateBindings refs bound bindings = .ok () := by
  induction bindings generalizing bound with
  | nil => rfl
  | cons binding bindings ih =>
    obtain ⟨hbinding, hrest⟩ := List.forall_mem_cons.mp hresolves
    have hfresh : ∀ other ∈ bound, other.capabilityId ≠ binding.capabilityId := by
      intro other hother heq
      rw [List.map_append, List.map_cons, List.nodup_append] at hnodup
      exact hnodup.2.2 _ (List.mem_map_of_mem hother) _ (List.mem_cons_self ..) heq
    rw [validateBindings, rejectWhen_then_eq_ok, rejectWhen_then_eq_ok]
    refine ⟨?_, ?_, ih hrest (by simpa using hnodup)⟩
    · simpa [hbinding.capability, hbinding.ne_nil] using
        ⟨⟨hbinding.agents, hbinding.resources⟩, hfresh⟩
    · simp only [List.any_eq_false, Bool.not_eq_true', Bool.not_eq_false]
      intro id hid
      obtain ⟨agent, hfound, hmem⟩ := hbinding.capabilities id hid
      simpa [hfound] using hmem

/-- **Offers that pass** are offered, under different identifiers. -/
lemma validateOffers_eq_ok {seen : List JsString} {offers : List OfferReference} :
    validateOffers refs seen offers = .ok ()
      ↔ (∀ offer ∈ offers, offer.capability ∈ refs.capabilityIds ∧ isOffered refs offer = true
          ∧ offer.offerId ∉ seen)
        ∧ (offers.map OfferReference.offerId).Nodup := by
  induction offers generalizing seen with
  | nil => simp [validateOffers, pure, Except.pure]
  | cons offer offers ih =>
    rw [validateOffers, rejectWhen_then_eq_ok, ih, List.forall_mem_cons, List.map_cons,
      List.nodup_cons, List.mem_map]
    simp only [List.mem_append, List.mem_singleton, not_or, Bool.or_eq_false_iff, Bool.not_eq_false',
      List.contains_eq_mem, decide_eq_false_iff_not, decide_eq_true_eq]
    constructor
    · rintro ⟨⟨⟨hseen, hcapability⟩, hoffered⟩, hrest, hnodup⟩
      exact ⟨⟨⟨hcapability, hoffered, hseen⟩, fun other hother =>
        ⟨(hrest other hother).1, (hrest other hother).2.1, (hrest other hother).2.2.1⟩⟩,
        fun ⟨other, hother, heq⟩ => (hrest other hother).2.2.2 heq, hnodup⟩
    · rintro ⟨⟨⟨hcapability, hoffered, hseen⟩, hrest⟩, hfresh, hnodup⟩
      exact ⟨⟨⟨hseen, hcapability⟩, hoffered⟩, fun other hother =>
        ⟨(hrest other hother).1, (hrest other hother).2.1, (hrest other hother).2.2,
          fun heq => hfresh ⟨other, hother, heq⟩⟩, hnodup⟩

end

end TetiBot.Passport

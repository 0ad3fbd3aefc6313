import Mathlib.Data.String.Basic
import TetiBot.Library.Collation
import TetiBot.Library.OrderedMap
import TetiBot.Callable.Authority

/-
What is projected of the callable agents and their offers
(`core/callability/types.ts`, `core/callability/agent-core.ts`,
`core/passport/callable-projection.ts`).

* `projectCallableAgent`, `validateAgentComputeOffer`: the callable agents and the offers that
  there can be.
* `projectCallablePassport`: agents, capabilities, bindings and offers of a passport.
* `Merges`: what an agent of the passport says of the callable agents with its identifier.
* `agents_eq_of_perm`: the agents of the passport do not depend on the order of the callable
  agents, if those that are the latest of an agent were ready at the same text.
-/

namespace TetiBot.Passport

open Library

/-- `Date.parse`, and `localeCompare`, which tells slugs apart. -/
structure PassportLocale where
  parseDate : JsString → Option Timestamp
  collation : Collation String
  slugs : ∀ a b, safeSlugPattern a = true → safeSlugPattern b = true → collation.le a b = true →
    collation.le b a = true → a = b

/-! ### Callable agents -/

inductive AgentCallabilityState
  | notDetected | detected | adapterAvailable | needsLogin | ready | degraded | disabled
  deriving DecidableEq

structure AgentAdapterReadiness where
  schemaVersion : Nat
  agentId : String
  adapterId : String
  adapterRevision : Int
  state : AgentCallabilityState
  capabilityIds : List String
  inputModes : List TaskContentMode
  outputModes : List TaskContentMode
  checkedAt : JsString

structure CallableAgent where
  agentId : String
  adapterId : String
  adapterRevision : Int
  capabilityIds : List String
  inputModes : List TaskContentMode
  outputModes : List TaskContentMode
  readyAt : JsString
  deriving DecidableEq

def uniqueSafeIds (values : List String) : Option (List String) :=
  if 32 < values.length then none
  else if ¬values.Nodup ∨ values.any fun value => !safeSlugPattern value then none
  else some values

/-- Text comes first. -/
def sortModes (modes : List TaskContentMode) : List TaskContentMode :=
  modes.insertionSort fun left right => left = .text ∨ right ≠ .text

def safeModes (values : List TaskContentMode) (requireText : Bool) : Option (List TaskContentMode) :=
  if values.length = 0 ∨ 2 < values.length then none
  else if ¬values.Nodup ∨ requireText = true ∧ .text ∉ values then none
  else some (sortModes values)

def isIsoTimestamp (parseDate : JsString → Option Timestamp) (value : JsString) : Bool :=
  !JsString.isBlank value && (parseDate value).isSome

def projectCallableAgent (parseDate : JsString → Option Timestamp) (readiness : AgentAdapterReadiness) :
    Option CallableAgent :=
  if readiness.schemaVersion ≠ 1 then none
  else if readiness.state ≠ .ready then none
  else if !safeSlugPattern readiness.agentId || !safeSlugPattern readiness.adapterId
      || readiness.adapterRevision ≤ 0 then none
  else do
    let capabilityIds ← uniqueSafeIds readiness.capabilityIds
    if capabilityIds.length = 0 then none
    else do
      let inputModes ← safeModes readiness.inputModes true
      let outputModes ← safeModes readiness.outputModes true
      if !isIsoTimestamp parseDate readiness.checkedAt then none
      else some ⟨readiness.agentId, readiness.adapterId, readiness.adapterRevision, capabilityIds,
        inputModes, outputModes, readiness.checkedAt⟩

/-! ### Offers -/

inductive ResourceClass
  | localModel | nativeAgent
  deriving DecidableEq

structure AgentComputeOffer where
  offerId : String
  capability : String
  resourceClass : ResourceClass
  executionLocation : String
  inputModes : List TaskContentMode
  outputModes : List TaskContentMode
  concurrency : Nat
  approval : String
  deriving DecidableEq

inductive LocalChildAgentOrigin
  | nativeAgent | runtimeFacade
  deriving DecidableEq

/-- What the check of an offer reads of the descriptor of its connector. -/
structure OfferConnector where
  origin : LocalChildAgentOrigin
  workspacePolicy : WorkspacePolicy
  capabilityIds : List String
  inputModes : List TaskContentMode
  outputModes : List TaskContentMode
  maxConcurrentExecutions : Option Nat

def validateAgentComputeOffer (value : AgentComputeOffer) (descriptor : OfferConnector) :
    Except TaskError Unit := do
  validateAgentSlug value.offerId "offerId"
  failIf (value.capability ≠ "general-text-assistance"
      ∨ value.executionLocation ≠ "receiver_local"
      ∨ value.inputModes ≠ [.text] ∨ value.outputModes ≠ [.text]
      ∨ value.concurrency ≠ 1 ∨ value.approval ≠ "allow_once"
      ∨ descriptor.maxConcurrentExecutions ≠ some value.concurrency
      ∨ value.capability ∉ descriptor.capabilityIds
      ∨ (∃ mode ∈ value.inputModes, mode ∉ descriptor.inputModes)
      ∨ ∃ mode ∈ value.outputModes, mode ∉ descriptor.outputModes)
    (agentCoreError "CONNECTOR_COMPUTE_OFFER" "Agent Compute Offer does not match its local Connector.")
  failIf (value.resourceClass = .localModel
        ∧ (descriptor.origin ≠ .runtimeFacade ∨ descriptor.workspacePolicy ≠ .none)
      ∨ value.resourceClass = .nativeAgent
        ∧ (descriptor.origin ≠ .nativeAgent ∨ descriptor.workspacePolicy ≠ .boundedContext))
    (agentCoreError "CONNECTOR_COMPUTE_OFFER" "Agent Compute Offer authority does not match its Connector.")

/-! ### The projection -/

structure CallablePassportAgent where
  id : String
  name : String
  provider : String
  capabilityIds : List String
  inputModes : List TaskContentMode
  outputModes : List TaskContentMode
  observedAt : JsString
  deriving DecidableEq

structure TetiCapability where
  id : String
  name : String
  category : String
  description : String
  observedAt : JsString
  deriving DecidableEq

structure CapabilityBinding where
  capabilityId : String
  agentIds : List String
  resourceIds : List String
  deriving DecidableEq

structure ComputeOffer extends AgentComputeOffer where
  observedAt : JsString
  deriving DecidableEq

structure CallablePassportProjection where
  agents : List CallablePassportAgent
  capabilities : List TetiCapability
  bindings : List CapabilityBinding
  computeOffers : List ComputeOffer
  deriving DecidableEq

def isSeparator (c : Char) : Bool := c == '.' || c == '_' || c == '-'

def capitalize : List Char → List Char
  | [] => []
  | c :: cs => c.toUpper :: cs

/-- `.join(" ")`. -/
def joinWords : List (List Char) → List Char
  | [] => []
  | [word] => word
  | word :: words => word ++ ' ' :: joinWords words

def humanize (value : String) : String :=
  String.ofList (joinWords (((value.toList.splitOnP isSeparator).filter (· ≠ [])).map capitalize))

/-- `AGENT_CATALOG[agentId]?.name` and `?.provider`.  The one slug that names what every object
inherits finds the function `Object`. -/
def agentMetadata (agentId : String) : Option String × Option String :=
  match agentId with
  | "codex" => (some "Codex", some "OpenAI")
  | "codebuddy" => (some "CodeBuddy Code CN", some "Tencent")
  | "osaurus-runtime" => (some "Osaurus Runtime (Bonsai)", some "Osaurus")
  | "osaurus-native-teti" => (some "Osaurus Native Agent (Teti)", some "Osaurus")
  | "constructor" => (some "Object", none)
  | _ => (none, none)

structure CapabilityMetadata where
  name : Option String := none
  category : Option String := none
  description : Option String := none

/-- `CAPABILITY_CATALOG[capabilityId]`. -/
def capabilityMetadata (capabilityId : String) : CapabilityMetadata :=
  match capabilityId with
  | "code-analysis" => ⟨some "Code analysis", some "coding",
      some "Analyze code through a locally qualified AI Agent."⟩
  | "image-editing" => ⟨some "Image editing", some "image",
      some "Edit or generate images through a locally qualified AI Agent and return an image Artifact."⟩
  | "general-text-assistance" => ⟨some "General text assistance", some "language",
      some "Use receiver-local compute for tool-free general text assistance."⟩
  | "constructor" => ⟨some "Object", none, none⟩
  | _ => ⟨none, none, none⟩

def projectAgent (agent : CallableAgent) : CallablePassportAgent where
  id := agent.agentId
  name := (agentMetadata agent.agentId).1.getD (humanize agent.agentId)
  provider := (agentMetadata agent.agentId).2.getD "Unknown"
  capabilityIds := agent.capabilityIds.insertionSort (· ≤ ·)
  inputModes := agent.inputModes
  outputModes := agent.outputModes
  observedAt := agent.readyAt

def projectCapability (capabilityId : String) (observedAt : JsString) : TetiCapability where
  id := capabilityId
  name := (capabilityMetadata capabilityId).name.getD (humanize capabilityId)
  category := (capabilityMetadata capabilityId).category.getD "general"
  description := (capabilityMetadata capabilityId).description.getD
    "Available through a locally qualified AI Agent."
  observedAt := observedAt

def mergeModes (left right : List TaskContentMode) : List TaskContentMode :=
  sortModes (left ++ right).dedup

section

variable (locale : PassportLocale)

/-- `Date.parse(left) >= Date.parse(right)`. -/
def notEarlier (left right : JsString) : Bool :=
  match locale.parseDate left, locale.parseDate right with
  | some t, some u => u ≤ t
  | _, _ => false

def mergeAgent (existing projected : CallablePassportAgent) : CallablePassportAgent :=
  { existing with
    capabilityIds := (existing.capabilityIds ++ projected.capabilityIds).dedup.insertionSort (· ≤ ·)
    inputModes := mergeModes existing.inputModes projected.inputModes
    outputModes := mergeModes existing.outputModes projected.outputModes
    observedAt := if notEarlier locale existing.observedAt projected.observedAt then existing.observedAt
      else projected.observedAt }

/-- The loop of `coalesceAgents`. -/
def coalesceAgent (agents : OrderedMap String CallablePassportAgent) (callable : CallableAgent) :
    OrderedMap String CallablePassportAgent :=
  match agents.get? callable.agentId with
  | none => agents.set callable.agentId (projectAgent callable)
  | some existing => agents.set callable.agentId (mergeAgent locale existing (projectAgent callable))

def coalesceAgents (callableAgents : List CallableAgent) : OrderedMap String CallablePassportAgent :=
  callableAgents.foldl (coalesceAgent locale) .empty

/-- The inner loop over the agents. -/
def recordCapability (agentId : String) (agentIds : OrderedMap String (List String))
    (capabilityId : String) : OrderedMap String (List String) :=
  agentIds.set capabilityId ((agentIds.get? capabilityId).getD [] ++ [agentId])

variable (agents : List CallablePassportAgent)

/-- `capabilityAgentIds`. -/
def capabilityAgentIds : OrderedMap String (List String) :=
  agents.foldl (fun agentIds agent => agent.capabilityIds.foldl (recordCapability agent.id) agentIds)
    .empty

/-- `left <= right`, by code units. -/
def unitsBefore (left right : JsString) : Bool := !right.lex left fun u v => decide (u < v)

/-- `.sort().at(-1)`. -/
def lastText (texts : List JsString) : JsString :=
  (texts.insertionSort fun left right => unitsBefore left right = true).getLast?.getD []

def projectCapabilities : List TetiCapability :=
  locale.collation.sortBy TetiCapability.id
    ((capabilityAgentIds agents).entries.map fun entry => projectCapability entry.1
      (lastText ((agents.filter fun agent => entry.2.contains agent.id).map
        CallablePassportAgent.observedAt)))

def projectBinding (capability : TetiCapability) : CapabilityBinding where
  capabilityId := capability.id
  agentIds := (((capabilityAgentIds agents).get? capability.id).getD []).insertionSort (· ≤ ·)
  resourceIds := []

/-- `Date.parse(right) - Date.parse(left) <= 0`. -/
def newestFirst (left right : CallablePassportAgent) : Bool :=
  match locale.parseDate left.observedAt, locale.parseDate right.observedAt with
  | some t, some u => u ≤ t
  | _, _ => true

/-- The agent that an offer is projected for. -/
def offeringAgent (offer : AgentComputeOffer) : Option CallablePassportAgent :=
  ((agents.filter fun candidate => candidate.capabilityIds.contains offer.capability
      && offer.inputModes.all candidate.inputModes.contains
      && offer.outputModes.all candidate.outputModes.contains).insertionSort
    fun left right => newestFirst locale left right = true).head?

def projectComputeOffers (offers : List AgentComputeOffer) : List ComputeOffer :=
  locale.collation.sortBy (fun offer => offer.offerId)
    (offers.filterMap fun offer =>
      (offeringAgent locale agents offer).map fun agent => ⟨offer, agent.observedAt⟩)

/-- The agents of `projectCallablePassport`. -/
def projectAgents (callableAgents : List CallableAgent) : List CallablePassportAgent :=
  locale.collation.sortBy CallablePassportAgent.id (coalesceAgents locale callableAgents).values

def projectCallablePassport (callableAgents : List CallableAgent) (offers : List AgentComputeOffer) :
    CallablePassportProjection :=
  let agents := projectAgents locale callableAgents
  let capabilities := projectCapabilities locale agents
  ⟨agents, capabilities, capabilities.map (projectBinding agents),
    projectComputeOffers locale agents offers⟩

end

/-! ### Valid inputs -/

section

variable {parseDate : JsString → Option Timestamp} {agent : CallableAgent}

/-- Text, and images where there are any. -/
def modesOf (images : Bool) : List TaskContentMode := if images then [.text, .image] else [.text]

/-- What `projectCallableAgent` promises of a callable agent. -/
structure CallableAgent.Valid (parseDate : JsString → Option Timestamp) (agent : CallableAgent) : Prop where
  agentId : safeSlugPattern agent.agentId = true
  capabilityIds_nodup : agent.capabilityIds.Nodup
  capabilityIds_slug : ∀ capabilityId ∈ agent.capabilityIds, safeSlugPattern capabilityId = true
  capabilityIds_ne_nil : agent.capabilityIds ≠ []
  inputModes : agent.inputModes = modesOf (agent.inputModes.contains .image)
  outputModes : agent.outputModes = modesOf (agent.outputModes.contains .image)
  readyAt : isIsoTimestamp parseDate agent.readyAt = true

lemma uniqueSafeIds_eq_some {values ids : List String} (h : uniqueSafeIds values = some ids) :
    ids.Nodup ∧ ∀ id ∈ ids, safeSlugPattern id = true := by
  rw [uniqueSafeIds] at h
  split_ifs at h with hlength hinvalid
  obtain rfl := Option.some.inj h
  rw [not_or, not_not, Bool.not_eq_true, List.any_eq_false] at hinvalid
  exact ⟨hinvalid.1, fun id hid => by simpa using hinvalid.2 id hid⟩

lemma safeModes_eq_some {values modes : List TaskContentMode} (h : safeModes values true = some modes) :
    modes = modesOf (modes.contains .image) := by
  rw [safeModes] at h
  split_ifs at h with hlength hinvalid
  obtain rfl := Option.some.inj h
  rw [not_or] at hlength hinvalid
  match values with
  | [] => exact absurd rfl hlength.1
  | [.text] => rfl
  | [.text, .image] => rfl
  | [.image, .text] => rfl
  | [.image] => simp at hinvalid
  | [.text, .text] => simp at hinvalid
  | [.image, .image] => simp at hinvalid
  | _ :: _ :: _ :: _ => simp at hlength

lemma valid_of_projectCallableAgent {readiness : AgentAdapterReadiness}
    (h : projectCallableAgent parseDate readiness = some agent) : agent.Valid parseDate := by
  rw [projectCallableAgent] at h
  split_ifs at h with hversion hstate hids htime
  · obtain ⟨capabilityIds, -, h⟩ := Option.bind_eq_some_iff.mp h
    split_ifs at h
    obtain ⟨inputModes, -, h⟩ := Option.bind_eq_some_iff.mp h
    obtain ⟨outputModes, -, h⟩ := Option.bind_eq_some_iff.mp h
    cases h
  obtain ⟨capabilityIds, hcapabilityIds, h⟩ := Option.bind_eq_some_iff.mp h
  split_ifs at h with hempty
  obtain ⟨inputModes, hinput, h⟩ := Option.bind_eq_some_iff.mp h
  obtain ⟨outputModes, houtput, h⟩ := Option.bind_eq_some_iff.mp h
  obtain rfl := Option.some.inj h
  obtain ⟨hnodup, hslug⟩ := uniqueSafeIds_eq_some hcapabilityIds
  simp only [Bool.or_eq_true, Bool.not_eq_true', not_or, Bool.not_eq_false] at hids
  exact ⟨hids.1.1, hnodup, hslug, fun hnil => hempty (List.length_eq_zero_iff.mpr hnil), safeModes_eq_some hinput,
    safeModes_eq_some houtput, by simpa using htime⟩

end

/-- What `validateAgentComputeOffer` promises of an offer. -/
structure AgentComputeOffer.Valid (offer : AgentComputeOffer) : Prop where
  offerId : safeSlugPattern offer.offerId = true
  length : offer.offerId.length ≤ 128
  capability : offer.capability = "general-text-assistance"
  executionLocation : offer.executionLocation = "receiver_local"
  inputModes : offer.inputModes = [.text]
  outputModes : offer.outputModes = [.text]
  concurrency : offer.concurrency = 1
  approval : offer.approval = "allow_once"

lemma valid_of_validateAgentComputeOffer {offer : AgentComputeOffer} {descriptor : OfferConnector}
    (h : validateAgentComputeOffer offer descriptor = .ok ()) : offer.Valid := by
  rw [validateAgentComputeOffer, validateAgentSlug, failIf_then_eq_ok, failIf_then_eq_ok] at h
  obtain ⟨hslug, hfixed, -⟩ := h
  simp only [not_or, not_lt, Bool.not_eq_true', Bool.not_eq_false, not_not] at hslug hfixed
  exact ⟨hslug.2, hslug.1, hfixed.1, hfixed.2.1, hfixed.2.2.1, hfixed.2.2.2.1, hfixed.2.2.2.2.1,
    hfixed.2.2.2.2.2.1⟩

/-! ### Merged agents -/

/-- What an agent of the passport says of the callable agents with its identifier. -/
structure Merges (locale : PassportLocale) (callables : List CallableAgent)
    (agent : CallablePassportAgent) : Prop where
  id : ∀ callable ∈ callables, callable.agentId = agent.id
  name : agent.name = (agentMetadata agent.id).1.getD (humanize agent.id)
  provider : agent.provider = (agentMetadata agent.id).2.getD "Unknown"
  sorted : agent.capabilityIds.Pairwise (· ≤ ·)
  nodup : agent.capabilityIds.Nodup
  mem_capabilityIds : ∀ capabilityId, capabilityId ∈ agent.capabilityIds
    ↔ ∃ callable ∈ callables, capabilityId ∈ callable.capabilityIds
  inputModes : agent.inputModes = modesOf (callables.any fun callable => callable.inputModes.contains .image)
  outputModes : agent.outputModes
    = modesOf (callables.any fun callable => callable.outputModes.contains .image)
  observed : ∃ callable ∈ callables, callable.readyAt = agent.observedAt
    ∧ ∀ other ∈ callables, notEarlier locale callable.readyAt other.readyAt = true
  /-- Of the latest ones, the first counts. -/
  first : ∀ callable ∈ callables.head?,
    (∀ other ∈ callables, notEarlier locale callable.readyAt other.readyAt = true) →
    agent.observedAt = callable.readyAt

/-- The latest of the callable agents with an identifier. -/
def IsLatest (locale : PassportLocale) (callables : List CallableAgent) (callable : CallableAgent) : Prop :=
  ∀ other ∈ callables, other.agentId = callable.agentId →
    notEarlier locale callable.readyAt other.readyAt = true

/-- The latest callable agents of an agent are ready at the same text. -/
def OneReading (locale : PassportLocale) (callables : List CallableAgent) : Prop :=
  ∀ a ∈ callables, ∀ b ∈ callables, a.agentId = b.agentId → IsLatest locale callables a →
    IsLatest locale callables b → a.readyAt = b.readyAt

section

variable {locale : PassportLocale} {callables : List CallableAgent} {callable : CallableAgent}
  {agent : CallablePassportAgent}

lemma notEarlier_iff {s t : JsString} : notEarlier locale s t = true
    ↔ ∃ u v, locale.parseDate s = some u ∧ locale.parseDate t = some v ∧ v ≤ u := by
  rw [notEarlier]
  split
  · next u v hu hv => simp [hu, hv]
  · next hnone =>
      refine ⟨fun h => absurd h Bool.false_ne_true, ?_⟩
      rintro ⟨u, v, hu, hv, -⟩
      exact absurd hv (hnone u v hu)

lemma merges_projectAgent (h : callable.Valid locale.parseDate) :
    Merges locale [callable] (projectAgent callable) where
  id := by simp [projectAgent]
  name := rfl
  provider := rfl
  sorted := List.pairwise_insertionSort _ _
  nodup := (List.perm_insertionSort _ _).nodup_iff.mpr h.capabilityIds_nodup
  mem_capabilityIds capabilityId := by simp [projectAgent]
  inputModes := by simpa [projectAgent] using h.inputModes
  outputModes := by simpa [projectAgent] using h.outputModes
  observed := by
    obtain ⟨t, ht⟩ := Option.isSome_iff_exists.mp (Bool.and_eq_true_iff.mp h.readyAt).2
    refine ⟨callable, List.mem_singleton_self _, rfl, fun other hother => ?_⟩
    rw [List.mem_singleton.mp hother]
    exact notEarlier_iff.mpr ⟨t, t, ht, ht, le_rfl⟩
  first := by
    rintro _ ⟨⟩ -
    rfl

lemma mergeModes_modesOf (a b : Bool) : mergeModes (modesOf a) (modesOf b) = modesOf (a || b) := by
  cases a <;> cases b <;> decide

/-- The instants of merged callable agents are known. -/
lemma Merges.parses (h : Merges locale callables agent) :
    ∃ t, locale.parseDate agent.observedAt = some t := by
  obtain ⟨latest, hlatest, htext, hnot⟩ := h.observed
  obtain ⟨t, -, ht, -⟩ := notEarlier_iff.mp (hnot latest hlatest)
  exact ⟨t, htext ▸ ht⟩

section

variable (hagent : Merges locale callables agent)
include hagent

lemma observed_mergeAgent (h : callable.Valid locale.parseDate) :
    ∃ latest ∈ callables ++ [callable], latest.readyAt
        = (mergeAgent locale agent (projectAgent callable)).observedAt
      ∧ ∀ other ∈ callables ++ [callable], notEarlier locale latest.readyAt other.readyAt = true := by
  obtain ⟨latest, hlatest, htext, hnot⟩ := hagent.observed
  obtain ⟨t, ht⟩ := hagent.parses
  obtain ⟨u, hu⟩ := Option.isSome_iff_exists.mp (Bool.and_eq_true_iff.mp h.readyAt).2
  by_cases hkept : notEarlier locale agent.observedAt callable.readyAt = true
  · refine ⟨latest, List.mem_append_left _ hlatest, htext.trans (if_pos hkept).symm, ?_⟩
    rw [List.forall_mem_append, List.forall_mem_singleton]
    exact ⟨hnot, htext ▸ hkept⟩
  · have hlater : t < u := by
      by_contra hle
      exact hkept (notEarlier_iff.mpr ⟨t, u, ht, hu, not_lt.mp hle⟩)
    refine ⟨callable, by simp, (if_neg hkept).symm, ?_⟩
    rw [List.forall_mem_append, List.forall_mem_singleton]
    refine ⟨fun other hother => ?_, notEarlier_iff.mpr ⟨u, u, hu, hu, le_rfl⟩⟩
    obtain ⟨v, w, hv, hw, hle⟩ := notEarlier_iff.mp (hnot other hother)
    rw [htext, ht] at hv
    obtain rfl := Option.some.inj hv
    exact notEarlier_iff.mpr ⟨u, w, hu, hw, hle.trans hlater.le⟩

lemma first_mergeAgent : ∀ first ∈ (callables ++ [callable]).head?,
      (∀ other ∈ callables ++ [callable], notEarlier locale first.readyAt other.readyAt = true) →
      (mergeAgent locale agent (projectAgent callable)).observedAt = first.readyAt := by
  intro first hfirst hlatest
  obtain ⟨latest, hmem, -, -⟩ := hagent.observed
  have hhead : first ∈ callables.head? := by
    rwa [List.head?_append_of_ne_nil _ (List.ne_nil_of_mem hmem)] at hfirst
  have hsame := hagent.first first hhead fun other hother => hlatest other (List.mem_append_left _ hother)
  have hkept : notEarlier locale agent.observedAt callable.readyAt = true := by
    rw [hsame]
    exact hlatest callable (by simp)
  exact (if_pos hkept).trans hsame

lemma merges_mergeAgent (h : callable.Valid locale.parseDate) (hid : callable.agentId = agent.id) :
    Merges locale (callables ++ [callable]) (mergeAgent locale agent (projectAgent callable)) := by
  have hsingle : Merges locale [callable] (projectAgent callable) := merges_projectAgent h
  refine ⟨?_, hagent.name, hagent.provider, List.pairwise_insertionSort _ _,
    (List.perm_insertionSort _ _).nodup_iff.mpr (List.nodup_dedup _), fun capabilityId => ?_, ?_, ?_, ?_, ?_⟩
  · intro other hother
    rcases List.mem_append.mp hother with hother | hother
    · exact hagent.id other hother
    · rw [List.mem_singleton.mp hother]
      exact hid
  · have hmem := hsingle.mem_capabilityIds capabilityId
    simp only [mergeAgent, List.mem_insertionSort, List.mem_dedup, List.mem_append, or_and_right,
      exists_or, hagent.mem_capabilityIds, hmem]
  · show mergeModes agent.inputModes callable.inputModes = _
    rw [hagent.inputModes, h.inputModes, mergeModes_modesOf]
    simp [modesOf]
  · show mergeModes agent.outputModes callable.outputModes = _
    rw [hagent.outputModes, h.outputModes, mergeModes_modesOf]
    simp [modesOf]
  · exact observed_mergeAgent hagent h
  · exact first_mergeAgent hagent

end

/-! ### Coalescing -/

/-- The callable agents with an identifier. -/
def entriesOf (callables : List CallableAgent) (id : String) : List CallableAgent :=
  callables.filter fun callable => callable.agentId = id

/-- What is found in a map of coalesced agents. -/
def Coalesced (locale : PassportLocale) (callables : List CallableAgent)
    (agents : OrderedMap String CallablePassportAgent) : Prop :=
  ∀ id, (entriesOf callables id = [] ∧ agents.get? id = none)
    ∨ ∃ agent, agents.get? id = some agent ∧ agent.id = id ∧ Merges locale (entriesOf callables id) agent

lemma coalesced_coalesceAgents (h : ∀ callable ∈ callables, callable.Valid locale.parseDate) :
    Coalesced locale callables (coalesceAgents locale callables) := by
  induction callables using List.reverseRecOn with
  | nil => exact fun id => .inl ⟨rfl, rfl⟩
  | append_singleton callables callable ih =>
    have hvalid := h callable (by simp)
    have hbefore := ih fun other hother => h other (List.mem_append_left _ hother)
    have hstep : coalesceAgents locale (callables ++ [callable])
        = coalesceAgent locale (coalesceAgents locale callables) callable := by
      rw [coalesceAgents, coalesceAgents, List.foldl_append, List.foldl_cons, List.foldl_nil]
    intro id
    by_cases hid : callable.agentId = id
    · subst hid
      have hentries : entriesOf (callables ++ [callable]) callable.agentId
          = entriesOf callables callable.agentId ++ [callable] := by
        simp [entriesOf]
      right
      rw [hentries, hstep, coalesceAgent]
      rcases hbefore callable.agentId with ⟨hnone, hget⟩ | ⟨agent, hget, hagent, hmerges⟩
      · rw [hget, hnone]
        exact ⟨projectAgent callable, by simp, rfl, merges_projectAgent hvalid⟩
      · rw [hget]
        exact ⟨mergeAgent locale agent (projectAgent callable), by simp, hagent,
          merges_mergeAgent hmerges hvalid hagent.symm⟩
    · have hentries : entriesOf (callables ++ [callable]) id = entriesOf callables id := by
        simp [entriesOf, hid]
      have hget : (coalesceAgents locale (callables ++ [callable])).get? id
          = (coalesceAgents locale callables).get? id := by
        rw [hstep, coalesceAgent]
        split
        · simp [Ne.symm hid]
        · simp [Ne.symm hid]
      rw [hentries, hget]
      exact hbefore id

/-- An agent of the passport is determined by the callable agents with its identifier, in any
order. -/
lemma Merges.eq_of_perm {callables' : List CallableAgent} {agent' : CallablePassportAgent}
    (h : Merges locale callables agent) (h' : Merges locale callables' agent')
    (hperm : callables.Perm callables') (hid : agent.id = agent'.id)
    (hone : ∀ a ∈ callables, ∀ b ∈ callables, (∀ other ∈ callables, notEarlier locale a.readyAt other.readyAt = true) →
      (∀ other ∈ callables, notEarlier locale b.readyAt other.readyAt = true) → a.readyAt = b.readyAt) :
    agent = agent' := by
  have hcapabilityIds : agent.capabilityIds = agent'.capabilityIds := by
    refine List.Perm.eq_of_pairwise (fun a b _ _ => le_antisymm) h.sorted h'.sorted ?_
    refine (List.perm_ext_iff_of_nodup h.nodup h'.nodup).mpr fun capabilityId => ?_
    rw [h.mem_capabilityIds, h'.mem_capabilityIds]
    simp only [hperm.mem_iff]
  have hmodes : ∀ p : CallableAgent → Bool, callables.any p = callables'.any p := fun p => hperm.any_eq
  have hobserved : agent.observedAt = agent'.observedAt := by
    obtain ⟨a, ha, htext, hlatest⟩ := h.observed
    obtain ⟨b, hb, htext', hlatest'⟩ := h'.observed
    rw [← htext, ← htext']
    exact hone a ha b (hperm.mem_iff.mpr hb) hlatest fun other hother =>
      hlatest' other (hperm.mem_iff.mp hother)
  have hinput : agent.inputModes = agent'.inputModes := by
    rw [h.inputModes, h'.inputModes, hmodes]
  have houtput : agent.outputModes = agent'.outputModes := by
    rw [h.outputModes, h'.outputModes, hmodes]
  have hname := h.name
  have hprovider := h.provider
  rw [hid, ← h'.name] at hname
  rw [hid, ← h'.provider] at hprovider
  cases agent
  cases agent'
  simp only [CallablePassportAgent.mk.injEq]
  exact ⟨hid, hname, hprovider, hcapabilityIds, hinput, houtput, hobserved⟩

/-! ### The agents of a passport -/

section

variable (h : ∀ callable ∈ callables, callable.Valid locale.parseDate)

include h

lemma mem_projectAgents :
    agent ∈ projectAgents locale callables
      ↔ (coalesceAgents locale callables).get? agent.id = some agent := by
  rw [projectAgents, Collation.mem_sortBy, OrderedMap.mem_values]
  refine ⟨fun ⟨id, hget⟩ => ?_, fun hget => ⟨agent.id, hget⟩⟩
  obtain ⟨-, hnone⟩ | ⟨found, hfound, rfl, -⟩ := coalesced_coalesceAgents h id
  · simp [hnone] at hget
  · obtain rfl := Option.some.inj (hfound.symm.trans hget)
    exact hget

lemma merges_of_mem (hmem : agent ∈ projectAgents locale callables) :
    Merges locale (entriesOf callables agent.id) agent := by
  have hget := (mem_projectAgents h).mp hmem
  obtain ⟨-, hnone⟩ | ⟨found, hfound, -, hmerges⟩ := coalesced_coalesceAgents h agent.id
  · simp [hnone] at hget
  · obtain rfl := Option.some.inj (hfound.symm.trans hget)
    exact hmerges

/-- Every callable agent is in the passport, under its identifier. -/
lemma exists_agent (hmem : callable ∈ callables) :
    ∃ agent ∈ projectAgents locale callables, agent.id = callable.agentId := by
  obtain ⟨hnone, -⟩ | ⟨agent, hget, hid, -⟩ := coalesced_coalesceAgents h callable.agentId
  · have hentry : callable ∈ entriesOf callables callable.agentId := by
      simpa [entriesOf] using hmem
    simp [hnone] at hentry
  · exact ⟨agent, (mem_projectAgents h).mpr (hid ▸ hget), hid⟩

lemma eq_of_id_eq {agent' : CallablePassportAgent} (hmem : agent ∈ projectAgents locale callables)
    (hmem' : agent' ∈ projectAgents locale callables) (hid : agent.id = agent'.id) :
    agent = agent' := by
  have hget := (mem_projectAgents h).mp hmem
  rw [hid, (mem_projectAgents h).mp hmem'] at hget
  exact (Option.some.inj hget).symm

lemma nodup_agentIds : ((projectAgents locale callables).map CallablePassportAgent.id).Nodup := by
  have hkeys : (coalesceAgents locale callables).values.map CallablePassportAgent.id
      = (coalesceAgents locale callables).keys := by
    rw [OrderedMap.values, OrderedMap.keys, List.map_map]
    refine List.map_congr_left fun entry hentry => ?_
    have hget := OrderedMap.get?_eq_some.mpr hentry
    obtain ⟨-, hnone⟩ | ⟨found, hfound, hid, -⟩ := coalesced_coalesceAgents h entry.1
    · simp [hnone] at hget
    · obtain rfl := Option.some.inj (hfound.symm.trans hget)
      exact hid
  refine ((locale.collation.perm_sortBy _ _).map _).nodup_iff.mpr ?_
  rw [hkeys]
  exact (coalesceAgents locale callables).nodup

lemma agentId_slug (hmem : agent ∈ projectAgents locale callables) :
    safeSlugPattern agent.id = true := by
  have hmerges := merges_of_mem h hmem
  obtain ⟨callable, hentry, -⟩ := hmerges.observed
  rw [← hmerges.id callable hentry]
  exact (h callable (List.mem_of_mem_filter hentry)).agentId

end

lemma isLatest_iff :
    IsLatest locale callables callable ↔ ∀ other ∈ entriesOf callables callable.agentId,
      notEarlier locale callable.readyAt other.readyAt = true := by
  simp only [IsLatest, entriesOf, List.mem_filter, decide_eq_true_eq, and_imp]

/-- **The agents do not depend on the order of the callable agents.** -/
lemma agents_eq_of_perm {callables' : List CallableAgent}
    (h : ∀ callable ∈ callables, callable.Valid locale.parseDate) (hperm : callables.Perm callables')
    (hone : OneReading locale callables) :
    projectAgents locale callables = projectAgents locale callables' := by
  have h' : ∀ callable ∈ callables', callable.Valid locale.parseDate :=
    fun callable hmem => h callable (hperm.mem_iff.mpr hmem)
  have hget : ∀ id, (coalesceAgents locale callables).get? id = (coalesceAgents locale callables').get? id := by
    intro id
    have hentries : (entriesOf callables id).Perm (entriesOf callables' id) := hperm.filter _
    obtain ⟨hnil, hnone⟩ | ⟨agent, hsome, hid, hmerges⟩ := coalesced_coalesceAgents h id
    · obtain ⟨-, hnone'⟩ | ⟨agent', -, -, hmerges'⟩ := coalesced_coalesceAgents h' id
      · rw [hnone, hnone']
      · obtain ⟨callable, hmem, -⟩ := hmerges'.observed
        simp [hnil, hentries.symm.mem_iff] at hmem
    · obtain ⟨hnil', -⟩ | ⟨agent', hsome', hid', hmerges'⟩ := coalesced_coalesceAgents h' id
      · obtain ⟨callable, hmem, -⟩ := hmerges.observed
        simp [hnil', hentries.mem_iff] at hmem
      · rw [hsome, hsome']
        refine congrArg some (hmerges.eq_of_perm hmerges' hentries (hid.trans hid'.symm) ?_)
        intro a ha b hb hlatest hlatest'
        have hida : a.agentId = id := by simpa using (List.mem_filter.mp ha).2
        have hidb : b.agentId = id := by simpa using (List.mem_filter.mp hb).2
        subst hida
        refine hone a (List.mem_of_mem_filter ha) b (List.mem_of_mem_filter hb) hidb.symm
          (isLatest_iff.mpr hlatest) ?_
        rw [← hidb] at hlatest'
        exact isLatest_iff.mpr hlatest'
  have hvalues : (coalesceAgents locale callables).values.Perm (coalesceAgents locale callables').values :=
    (OrderedMap.perm_entries hget).map Prod.snd
  refine Collation.sortBy_eq_of_perm _ _ hvalues fun a ha b hb hab hba => ?_
  have hmem : ∀ agent ∈ (coalesceAgents locale callables).values, agent ∈ projectAgents locale callables :=
    fun agent hagent => (Collation.mem_sortBy ..).mpr hagent
  exact eq_of_id_eq h (hmem a ha) (hmem b hb)
    (locale.slugs _ _ (agentId_slug h (hmem a ha)) (agentId_slug h (hmem b hb)) hab hba)

/-- Of the latest callable agents, the one that is listed first gives the text. -/
lemma observedAt_of_first (h : ∀ callable ∈ callables, callable.Valid locale.parseDate)
    (hmem : callable ∈ callables) (hlatest : IsLatest locale callables callable)
    (hagent : agent ∈ projectAgents locale (callable :: callables.erase callable))
    (hid : agent.id = callable.agentId) : agent.observedAt = callable.readyAt := by
  have hperm : callables.Perm (callable :: callables.erase callable) := List.perm_cons_erase hmem
  have h' : ∀ other ∈ callable :: callables.erase callable, other.Valid locale.parseDate :=
    fun other hother => h other (hperm.mem_iff.mpr hother)
  have hmerges := merges_of_mem h' hagent
  rw [hid] at hmerges
  refine hmerges.first callable (by simp [entriesOf]) fun other hother => ?_
  obtain ⟨hother, hsame⟩ := List.mem_filter.mp hother
  exact hlatest other (hperm.mem_iff.mpr hother) (by simpa using hsame)

/-- Agents that do not depend on the order have one reading each. -/
lemma oneReading_of_agents_eq (h : ∀ callable ∈ callables, callable.Valid locale.parseDate)
    (hsame : ∀ callables', callables'.Perm callables →
      projectAgents locale callables' = projectAgents locale callables) :
    OneReading locale callables := by
  intro a ha b hb hid hlatest hlatest'
  obtain ⟨agent, hmem, hagent⟩ := exists_agent h ha
  have hfirst : agent.observedAt = a.readyAt := by
    refine observedAt_of_first h ha hlatest ?_ hagent
    rwa [hsame _ (List.perm_cons_erase ha).symm]
  have hfirst' : agent.observedAt = b.readyAt := by
    refine observedAt_of_first h hb hlatest' ?_ (hagent.trans hid)
    rwa [hsame _ (List.perm_cons_erase hb).symm]
  exact hfirst.symm.trans hfirst'

end

end TetiBot.Passport

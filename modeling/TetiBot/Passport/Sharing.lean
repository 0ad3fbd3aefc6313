import TetiBot.Passport.Labels
import TetiBot.Passport.Capabilities
import TetiBot.Passport.Merge

/-
The passport that is sent (`runtime/passport/sharing.ts`, `lifecycle-sidecar/connections.ts`).

* `broadcastPayload`: the payload that `broadcastAiStatus` builds of what it knows.
* `Fits`: what the contract asks of an agent; the agents that fit, and the capabilities, bindings
  and offers that go with them, pass.
* `validateCallableReferences_iff`: their references resolve, up to offers of one identifier.
-/

namespace TetiBot.Passport

open Library Library.Json

/-! ### JSON -/

/-- A list of texts. -/
def texts (values : List String) : Json := .arr (values.map text)

/-- The text of a mode. -/
def modeText : TaskContentMode → String
  | .text => "text"
  | .image => "image"

/-- A list of modes. -/
def modesJson (modes : List TaskContentMode) : Json := texts (modes.map modeText)

/-- An agent as it is sent. -/
def CallablePassportAgent.json (agent : CallablePassportAgent) : Json :=
  .obj [("id", text agent.id), ("name", text agent.name), ("provider", text agent.provider),
    ("capabilityIds", texts agent.capabilityIds), ("inputModes", modesJson agent.inputModes),
    ("outputModes", modesJson agent.outputModes), ("availability", text "available"),
    ("observedAt", .str agent.observedAt)]

/-- A capability as it is sent. -/
def TetiCapability.json (capability : TetiCapability) : Json :=
  .obj [("id", text capability.id), ("name", text capability.name),
    ("category", text capability.category), ("description", text capability.description),
    ("availability", text "available"), ("observedAt", .str capability.observedAt)]

/-- A binding as it is sent. -/
def CapabilityBinding.json (binding : CapabilityBinding) : Json :=
  .obj [("capabilityId", text binding.capabilityId), ("agentIds", texts binding.agentIds),
    ("resourceIds", texts binding.resourceIds)]

/-- The text of a resource class. -/
def resourceClassText : ResourceClass → String
  | .localModel => "local_model"
  | .nativeAgent => "native_agent"

/-- A compute offer as it is sent. -/
def ComputeOffer.json (offer : ComputeOffer) : Json :=
  .obj [("offerId", text offer.offerId), ("capability", text offer.capability),
    ("resourceClass", text (resourceClassText offer.resourceClass)),
    ("executionLocation", text offer.executionLocation), ("inputModes", modesJson offer.inputModes),
    ("outputModes", modesJson offer.outputModes), ("concurrency", .num offer.concurrency),
    ("approval", text offer.approval), ("observedAt", .str offer.observedAt)]

lemma distinct_texts (values : List String) : (texts values).Distinct := by
  rw [texts, distinct_arr]
  intro value hvalue
  obtain ⟨s, -, rfl⟩ := List.mem_map.mp hvalue
  trivial

lemma CallablePassportAgent.json_distinct (agent : CallablePassportAgent) : agent.json.Distinct := by
  rw [CallablePassportAgent.json, distinct_obj]
  refine ⟨by simp, ?_⟩
  simp [text, modesJson, distinct_texts, Distinct]

lemma TetiCapability.json_distinct (capability : TetiCapability) : capability.json.Distinct := by
  rw [TetiCapability.json, distinct_obj]
  refine ⟨by simp, ?_⟩
  simp [text, Distinct]

lemma CapabilityBinding.json_distinct (binding : CapabilityBinding) : binding.json.Distinct := by
  rw [CapabilityBinding.json, distinct_obj]
  refine ⟨by simp, ?_⟩
  simp [text, distinct_texts, Distinct]

lemma ComputeOffer.json_distinct (offer : ComputeOffer) : offer.json.Distinct := by
  rw [ComputeOffer.json, distinct_obj]
  refine ⟨by simp, ?_⟩
  simp [text, modesJson, distinct_texts, Distinct]

/-! ### The payload -/

/-- The part of `validatePolicy` that is not about types. -/
def validatePolicy (policy : PassportSharingPolicy) : Except String PassportSharingPolicy := do
  rejectWhen (!([policy.resourceSummary, policy.resourceQuota, policy.agents, policy.capabilities].all
      fun field => field == policy.resourceSummary))
    "Beta Passport sharing uses one switch for all safe fields."
  return policy

/-- The policy of the one switch. -/
def resourceSharingPolicy (enabled : Bool) : PassportSharingPolicy :=
  ⟨enabled, enabled, enabled, enabled⟩

/-- `getLocalAiTools`, `getLocalCallableAgents` and `getLocalComputeOffers`. -/
structure PassportSources where
  tools : List Json
  callableAgents : List CallableAgent
  computeOffers : List AgentComputeOffer
  distinct : ∀ tool ∈ tools, tool.Distinct

section

variable (locale : PassportLocale) (policy : PassportSharingPolicy) (sources : PassportSources)

/-- The callable part of the passport. -/
def PassportSources.callable : CallablePassportProjection :=
  projectCallablePassport locale (if policy.agents then sources.callableAgents else [])
    (if policy.agents && policy.capabilities then sources.computeOffers else [])

/-- All that the passport could tell. -/
def PassportSources.known : LocalPassport where
  tools := sources.tools
  agents := (sources.callable locale policy).agents.map CallablePassportAgent.json
  capabilities := (sources.callable locale policy).capabilities.map TetiCapability.json
  bindings := (sources.callable locale policy).bindings.map CapabilityBinding.json
  computeOffers := (sources.callable locale policy).computeOffers.map ComputeOffer.json
  distinct := by
    simp only [List.forall_mem_append, List.forall_mem_map]
    exact ⟨⟨⟨⟨sources.distinct, fun agent _ => agent.json_distinct⟩,
      fun capability _ => capability.json_distinct⟩, fun binding _ => binding.json_distinct⟩,
      fun offer _ => offer.json_distinct⟩

/-- The fields of the payload that `broadcastAiStatus` builds at `now`. -/
def broadcastFields (toISOString : Timestamp → String) (now : Timestamp) : List (String × Json) :=
  passportFields policy (sources.known locale policy) TETI_AI_STATUS_SCHEMA_VERSION (toISOString now)
    (toISOString (now + AI_STATUS_TTL_MS))

/-- The payload that is sent. -/
def broadcastPayload (toISOString : Timestamp → String) (now : Timestamp) : Json :=
  callablePassportPayload policy (sources.known locale policy) TETI_AI_STATUS_SCHEMA_VERSION
    (toISOString now) (toISOString (now + AI_STATUS_TTL_MS))

end

lemma validatePolicy_eq_ok {policy admitted : PassportSharingPolicy} (h : validatePolicy policy = .ok admitted) :
    policy = resourceSharingPolicy policy.agents := by
  rw [validatePolicy, except_bind_eq_ok] at h
  obtain ⟨_, hsame, -⟩ := h
  rw [rejectWhen_eq_ok] at hsame
  obtain ⟨resourceSummary, resourceQuota, agents, capabilities⟩ := policy
  revert hsame
  cases resourceSummary <;> cases resourceQuota <;> cases agents <;> cases capabilities <;> decide

/-! ### Parts that pass -/

lemma exactKeys_of_names {fields : List (String × Json)} {allowed : List String} {label : String}
    (h : fields.map Prod.fst = allowed) : exactKeys fields allowed label = .ok () := by
  subst h
  have hfind : (fields.find? fun field => !(fields.map Prod.fst).contains field.1) = none := by
    rw [List.find?_eq_none]
    intro field hfield
    simpa using ⟨field.2, hfield⟩
  have hlookup : ((fields.map Prod.fst).any fun key => (lookup fields key).isNone) = false := by
    rw [List.any_eq_false]
    intro key hkey
    obtain ⟨field, hfield, rfl⟩ := List.mem_map.mp hkey
    rw [Option.isNone_iff_eq_none, lookup, Option.map_eq_none_iff, List.find?_eq_none]
    exact fun hnone => hnone field hfield (by simp)
  rw [exactKeys, hfind, hlookup]
  rfl

lemma sameItem_text (s t : String) : sameItem (text s) (text t) = decide (s = t) := by
  by_cases h : s = t
  · subst h
    simp [text, sameItem]
  · have hunits : JsString.ofString s ≠ JsString.ofString t := JsString.ofString_injective.ne h
    simp [text, sameItem, h, hunits]

lemma areDistinct_texts {values : List String} (h : values.Nodup) : areDistinct (values.map text) = true := by
  rw [areDistinct, decide_eq_true_eq, List.pairwise_map]
  exact h.imp fun hne => by rw [sameItem_text, decide_eq_false hne]

lemma safeIdArray_texts {values : List String} {label : String} {maximum : Nat} (hnodup : values.Nodup)
    (hlength : values.length ≤ maximum)
    (hslugs : ∀ s ∈ values, safeSlugPattern s = true ∧ s.length ≤ MAX_AGENT_ID_LENGTH) :
    safeIdArray (some (texts values)) label maximum = .ok () := by
  rw [texts, safeIdArray, rejectWhen_then_eq_ok, forM_eq_ok]
  refine ⟨by simp [areDistinct_texts hnodup, hlength], fun value hvalue => ?_⟩
  obtain ⟨s, hs, rfl⟩ := List.mem_map.mp hvalue
  exact slug_text (hslugs s hs).1 (hslugs s hs).2

lemma contentModeArray_modesOf (images : Bool) (label : String) :
    contentModeArray (some (modesJson (modesOf images))) label = .ok () := by
  rw [modesJson, texts, contentModeArray, rejectWhen_eq_ok]
  cases images <;> decide +kernel

lemma timestamp_str {parseDate : JsString → Option Timestamp} {s : JsString} {label : String}
    (h : isIsoTimestamp parseDate s = true) : timestamp parseDate (some (.str s)) label = .ok () := by
  rw [isIsoTimestamp, Bool.and_eq_true, Bool.not_eq_true'] at h
  obtain ⟨t, ht⟩ := Option.isSome_iff_exists.mp h.2
  have hread : isoTimestamp parseDate (some (.str s)) label = .ok t := by
    rw [isoTimestamp, if_neg (by simp [h.1]), ht]
  rw [timestamp, hread]
  rfl

lemma agentName_label {id : String} (h : safeSlugPattern id = true) (hlength : id.length ≤ MAX_AGENT_ID_LENGTH) :
    isLabel ((agentMetadata id).1.getD (humanize id)) = true
      ∧ ((agentMetadata id).1.getD (humanize id)).length ≤ MAX_AGENT_NAME_LENGTH := by
  obtain ⟨hlabel, hshort⟩ := humanize_label h
  unfold agentMetadata
  split
  iterate 5 exact ⟨by decide +kernel, by decide +kernel⟩
  exact ⟨hlabel, hshort.trans (hlength.trans (by decide))⟩

lemma agentProvider_label (id : String) :
    isLabel ((agentMetadata id).2.getD "Unknown") = true
      ∧ ((agentMetadata id).2.getD "Unknown").length ≤ MAX_AGENT_PROVIDER_LENGTH := by
  unfold agentMetadata
  split <;> exact ⟨by decide +kernel, by decide +kernel⟩

lemma capability_labels {id : String} (h : safeSlugPattern id = true) (hlength : id.length ≤ MAX_AGENT_ID_LENGTH)
    (observedAt : JsString) :
    (isLabel (projectCapability id observedAt).name = true
        ∧ (projectCapability id observedAt).name.length ≤ MAX_AGENT_NAME_LENGTH)
      ∧ (safeSlugPattern (projectCapability id observedAt).category = true
        ∧ (projectCapability id observedAt).category.length ≤ MAX_AGENT_PROVIDER_LENGTH)
      ∧ isLabel (projectCapability id observedAt).description = true
      ∧ (projectCapability id observedAt).description.length ≤ MAX_DESCRIPTION_LENGTH := by
  obtain ⟨hlabel, hshort⟩ := humanize_label h
  unfold projectCapability capabilityMetadata
  dsimp only
  split
  iterate 4 exact ⟨⟨by decide +kernel, by decide +kernel⟩, ⟨by decide +kernel, by decide +kernel⟩,
    by decide +kernel, by decide +kernel⟩
  exact ⟨⟨hlabel, hshort.trans (hlength.trans (by decide))⟩, ⟨by decide +kernel, by decide +kernel⟩,
    by decide +kernel, by decide +kernel⟩

section

variable {locale : PassportLocale} {agents : List CallablePassportAgent} {agent : CallablePassportAgent}

/-- What the contract asks of an agent. -/
structure Fits (locale : PassportLocale) (agent : CallablePassportAgent) : Prop where
  id : safeSlugPattern agent.id = true
  id_length : agent.id.length ≤ MAX_AGENT_ID_LENGTH
  name : agent.name = (agentMetadata agent.id).1.getD (humanize agent.id)
  provider : agent.provider = (agentMetadata agent.id).2.getD "Unknown"
  nodup : agent.capabilityIds.Nodup
  length : agent.capabilityIds.length ≤ 32
  ne_nil : agent.capabilityIds ≠ []
  capabilityIds : ∀ id ∈ agent.capabilityIds, safeSlugPattern id = true ∧ id.length ≤ MAX_AGENT_ID_LENGTH
  inputModes : ∃ images, agent.inputModes = modesOf images
  outputModes : ∃ images, agent.outputModes = modesOf images
  observedAt : isIsoTimestamp locale.parseDate agent.observedAt = true

lemma validateCallableAgent_json (h : Fits locale agent) :
    validateCallableAgent locale.parseDate agent.json = .ok () := by
  obtain ⟨inputImages, hinput⟩ := h.inputModes
  obtain ⟨outputImages, houtput⟩ := h.outputModes
  obtain ⟨hname, hnameLength⟩ := agentName_label h.id h.id_length
  obtain ⟨hprovider, hproviderLength⟩ := agentProvider_label agent.id
  rw [← h.name] at hname hnameLength
  rw [← h.provider] at hprovider hproviderLength
  rw [validateCallableAgent, CallablePassportAgent.json, record, except_ok_bind]
  simp only [lookup_cons, String.reduceEq, if_true, if_false, then_eq_ok, rejectWhen_eq_ok]
  refine ⟨exactKeys_of_names rfl, slug_text h.id h.id_length, safeLabel_text hname hnameLength,
    safeLabel_text hprovider hproviderLength, safeIdArray_texts h.nodup h.length h.capabilityIds,
    ?_, hinput ▸ contentModeArray_modesOf _ _, houtput ▸ contentModeArray_modesOf _ _, by decide +kernel,
    timestamp_str h.observedAt⟩
  simpa [texts, items] using h.ne_nil

variable {capability : TetiCapability}

section

variable (hfits : ∀ agent ∈ agents, Fits locale agent)
include hfits

lemma nodup_of_fits :
    ∀ agent ∈ agents, agent.capabilityIds.Nodup := fun agent hagent => (hfits agent hagent).nodup

lemma validateCapability_json (hmem : capability ∈ projectCapabilities locale agents) :
    validateCapability locale.parseDate capability.json = .ok () := by
  have hnodup := nodup_of_fits hfits
  obtain ⟨offered, hoffered, hid⟩ := (mem_capabilityIds hnodup).mp (List.mem_map_of_mem hmem)
  obtain ⟨hslug, hlength⟩ := (hfits offered hoffered).capabilityIds capability.id hid
  obtain ⟨observed, hobserved, htext⟩ := capability_observed hnodup hmem
  obtain ⟨hname, hcategory, hdescription⟩ := capability_labels hslug hlength capability.observedAt
  have hsame : capability = projectCapability capability.id capability.observedAt := by
    have hcapability := ((mem_projectCapabilities hnodup).mp hmem).2
    rw [hcapability]
    rfl
  rw [← hsame] at hname hcategory hdescription
  rw [validateCapability, TetiCapability.json, record, except_ok_bind]
  simp only [lookup_cons, String.reduceEq, if_true, if_false, then_eq_ok, rejectWhen_eq_ok]
  exact ⟨exactKeys_of_names rfl, slug_text hslug hlength, safeLabel_text hname.1 hname.2,
    slug_text hcategory.1 hcategory.2, safeLabel_text hdescription.1 hdescription.2, by decide +kernel,
    timestamp_str (htext ▸ (hfits observed hobserved).observedAt)⟩

lemma validateBinding_json
    (hids : (agents.map CallablePassportAgent.id).Nodup) (hlength : agents.length ≤ MAX_AGENTS)
    (hmem : capability ∈ projectCapabilities locale agents) :
    validateBinding (projectBinding agents capability).json = .ok () := by
  have hnodup := nodup_of_fits hfits
  obtain ⟨offered, hoffered, hid⟩ := (mem_capabilityIds hnodup).mp (List.mem_map_of_mem hmem)
  obtain ⟨hslug, hshort⟩ := (hfits offered hoffered).capabilityIds capability.id hid
  have hbinding : (projectBinding agents capability).agentIds.Nodup := binding_nodup hnodup hids
  have hagents : ∀ id ∈ (projectBinding agents capability).agentIds, id ∈ agents.map CallablePassportAgent.id := by
    intro id hmem
    obtain ⟨agent, hagent, -, rfl⟩ := (mem_binding hnodup).mp hmem
    exact List.mem_map_of_mem hagent
  have hfew : (projectBinding agents capability).agentIds.length ≤ MAX_AGENTS := by
    have hsub := (hbinding.subperm hagents).length_le
    rw [List.length_map] at hsub
    exact hsub.trans hlength
  rw [validateBinding, CapabilityBinding.json, record, except_ok_bind]
  simp only [lookup_cons, String.reduceEq, if_true, if_false, then_eq_ok]
  refine ⟨exactKeys_of_names rfl, slug_text hslug hshort, safeIdArray_texts hbinding hfew fun id hid => ?_,
    safeIdArray_texts List.nodup_nil (Nat.zero_le _) (by rintro id ⟨⟩)⟩
  obtain ⟨agent, hagent, rfl⟩ := List.mem_map.mp (hagents id hid)
  exact ⟨(hfits agent hagent).id, (hfits agent hagent).id_length⟩

end

lemma validateComputeOffer_json {offer : ComputeOffer} (h : offer.toAgentComputeOffer.Valid)
    (hobserved : isIsoTimestamp locale.parseDate offer.observedAt = true) :
    validateComputeOffer locale.parseDate offer.json = .ok () := by
  rw [validateComputeOffer, ComputeOffer.json, record, except_ok_bind]
  simp only [lookup_cons, String.reduceEq, if_true, if_false, then_eq_ok, rejectWhen_eq_ok]
  refine ⟨exactKeys_of_names rfl, slug_text h.offerId h.length, ?_, timestamp_str hobserved⟩
  rw [h.capability, h.executionLocation, h.inputModes, h.outputModes, h.concurrency, h.approval]
  cases offer.resourceClass <;> decide +kernel

end

/-! ### References -/

lemma textsOf_texts (values : List String) : textsOf (some (texts values)) = values.map JsString.ofString := by
  rw [texts, textsOf, items, List.map_map]
  rfl

/-- The references of an agent that is sent. -/
def agentRef (agent : CallablePassportAgent) : AgentReference where
  id := JsString.ofString agent.id
  capabilityIds := agent.capabilityIds.map JsString.ofString
  inputModes := (agent.inputModes.map modeText).map JsString.ofString
  outputModes := (agent.outputModes.map modeText).map JsString.ofString

/-- The references of a binding that is sent. -/
def bindingRef (binding : CapabilityBinding) : BindingReference where
  capabilityId := JsString.ofString binding.capabilityId
  agentIds := binding.agentIds.map JsString.ofString
  resourceIds := binding.resourceIds.map JsString.ofString

/-- The references of an offer that is sent. -/
def offerRef (offer : ComputeOffer) : OfferReference where
  offerId := JsString.ofString offer.offerId
  capability := JsString.ofString offer.capability
  inputModes := (offer.inputModes.map modeText).map JsString.ofString
  outputModes := (offer.outputModes.map modeText).map JsString.ofString

lemma agentReference_json (agent : CallablePassportAgent) : agentReference agent.json = agentRef agent := by
  simp only [agentReference, CallablePassportAgent.json, field, lookup_cons, String.reduceEq, if_true,
    if_false, modesJson, textsOf_texts]
  rfl

lemma bindingReference_json (binding : CapabilityBinding) :
    bindingReference binding.json = bindingRef binding := by
  simp only [bindingReference, CapabilityBinding.json, field, lookup_cons, String.reduceEq, if_true,
    if_false, textsOf_texts]
  rfl

lemma offerReference_json (offer : ComputeOffer) : offerReference offer.json = offerRef offer := by
  simp only [offerReference, ComputeOffer.json, field, lookup_cons, String.reduceEq, if_true, if_false,
    modesJson, textsOf_texts]
  rfl

/-- What a payload of these agents and offers refers to. -/
def referencesOf (locale : PassportLocale) (toolIds : List JsString) (agents : List CallablePassportAgent)
    (offers : List ComputeOffer) : PassportReferences where
  toolIds := toolIds
  agents := agents.map agentRef
  capabilityIds := (projectCapabilities locale agents).map fun capability => JsString.ofString capability.id
  bindings := (projectCapabilities locale agents).map fun capability =>
    bindingRef (projectBinding agents capability)
  offers := offers.map offerRef

/-- What is found by a key that no other element has. -/
lemma find?_key {α κ : Type} [BEq κ] [LawfulBEq κ] {l : List α} {key : α → κ} (h : (l.map key).Nodup) {a : α}
    (ha : a ∈ l) : (l.find? fun b => key b == key a) = some a := by
  cases hfind : l.find? fun b => key b == key a with
  | none => simpa using List.find?_eq_none.mp hfind a ha
  | some b =>
    have hkey : key b = key a := by simpa using List.find?_some hfind
    exact congrArg some (List.inj_on_of_nodup_map h (List.mem_of_find?_eq_some hfind) ha hkey)

section

variable {locale : PassportLocale} {toolIds : List JsString} {agents : List CallablePassportAgent}
  {offers : List ComputeOffer}

variable (toolIds offers) in
lemma nodup_boundCapabilities :
    ((referencesOf locale toolIds agents offers).bindings.map BindingReference.capabilityId).Nodup := by
  have hkeys : (referencesOf locale toolIds agents offers).bindings.map BindingReference.capabilityId
      = ((projectCapabilities locale agents).map TetiCapability.id).map JsString.ofString := by
    rw [referencesOf, List.map_map, List.map_map]
    rfl
  rw [hkeys]
  exact nodup_capabilityIds.map JsString.ofString_injective

lemma bindingFor_ofString {capability : TetiCapability} (hmem : capability ∈ projectCapabilities locale agents) :
    bindingFor (referencesOf locale toolIds agents offers) (JsString.ofString capability.id)
      = some (bindingRef (projectBinding agents capability)) :=
  find?_key (nodup_boundCapabilities toolIds offers) (List.mem_map_of_mem hmem)

lemma find?_agentRef {agent : CallablePassportAgent} (hids : (agents.map CallablePassportAgent.id).Nodup)
    (hmem : agent ∈ agents) :
    ((referencesOf locale toolIds agents offers).agents.find? fun candidate =>
      candidate.id == JsString.ofString agent.id) = some (agentRef agent) := by
  have hnodup : ((agents.map agentRef).map AgentReference.id).Nodup := by
    have hkeys : (agents.map agentRef).map AgentReference.id
        = (agents.map CallablePassportAgent.id).map JsString.ofString := by
      rw [List.map_map, List.map_map]
      rfl
    rw [hkeys]
    exact hids.map JsString.ofString_injective
  exact find?_key hnodup (List.mem_map_of_mem hmem)

variable (hfits : ∀ agent ∈ agents, Fits locale agent)

include hfits

lemma resolves_binding {capability : TetiCapability} (hids : (agents.map CallablePassportAgent.id).Nodup)
    (hmem : capability ∈ projectCapabilities locale agents) :
    Resolves (referencesOf locale toolIds agents offers) (bindingRef (projectBinding agents capability)) := by
  have hnodup := nodup_of_fits hfits
  have hbound : ∀ id ∈ (bindingRef (projectBinding agents capability)).agentIds,
      ∃ agent ∈ agents, capability.id ∈ agent.capabilityIds ∧ JsString.ofString agent.id = id := by
    intro id hid
    obtain ⟨agentId, hagentId, rfl⟩ := List.mem_map.mp hid
    obtain ⟨agent, hagent, hoffers, rfl⟩ := (mem_binding hnodup).mp hagentId
    exact ⟨agent, hagent, hoffers, rfl⟩
  refine ⟨List.mem_map_of_mem hmem, ?_, by rintro id ⟨⟩, fun id hid => ?_, fun id hid => ?_⟩
  · obtain ⟨agent, hagent, hoffers⟩ := (mem_capabilityIds hnodup).mp (List.mem_map_of_mem hmem)
    exact List.ne_nil_of_mem (List.mem_map_of_mem ((mem_binding hnodup).mpr ⟨agent, hagent, hoffers, rfl⟩))
  · obtain ⟨agent, hagent, -, rfl⟩ := hbound id hid
    exact List.mem_map_of_mem (List.mem_map_of_mem (f := agentRef) hagent)
  · obtain ⟨agent, hagent, hoffers, rfl⟩ := hbound id hid
    exact ⟨agentRef agent, find?_agentRef hids hagent, List.mem_map_of_mem hoffers⟩

/-- The offers that are projected are offered. -/
lemma isOffered_offerRef {offer : ComputeOffer} {agent : CallablePassportAgent} (hmem : agent ∈ agents)
    (hcapability : offer.capability ∈ agent.capabilityIds)
    (hinput : ∀ mode ∈ offer.inputModes, mode ∈ agent.inputModes)
    (houtput : ∀ mode ∈ offer.outputModes, mode ∈ agent.outputModes) :
    isOffered (referencesOf locale toolIds agents offers) (offerRef offer) = true := by
  have hnodup := nodup_of_fits hfits
  have hlisted : offer.capability ∈ (projectCapabilities locale agents).map TetiCapability.id :=
    (mem_capabilityIds hnodup).mpr ⟨agent, hmem, hcapability⟩
  obtain ⟨capability, hcapabilities, hid⟩ := List.mem_map.mp hlisted
  have hbinding : bindingFor (referencesOf locale toolIds agents offers)
      (JsString.ofString capability.id) = some (bindingRef (projectBinding agents capability)) :=
    bindingFor_ofString hcapabilities
  rw [hid] at hbinding
  have hbound : JsString.ofString agent.id ∈ (bindingRef (projectBinding agents capability)).agentIds :=
    List.mem_map_of_mem ((mem_binding hnodup).mpr ⟨agent, hmem, hid ▸ hcapability, rfl⟩)
  have hsubset : ∀ modes modes' : List TaskContentMode, (∀ mode ∈ modes, mode ∈ modes') →
      ((modes.map modeText).map JsString.ofString).all ((modes'.map modeText).map JsString.ofString).contains
        = true := by
    intro modes modes' hsub
    rw [List.all_eq_true]
    intro units hunits
    obtain ⟨s, hs, rfl⟩ := List.mem_map.mp hunits
    obtain ⟨mode, hmode, rfl⟩ := List.mem_map.mp hs
    exact List.contains_iff_mem.mpr (List.mem_map_of_mem (List.mem_map_of_mem (hsub mode hmode)))
  rw [isOffered, offerRef, hbinding, Option.any_some, List.any_eq_true]
  refine ⟨agentRef agent, List.mem_filter.mpr ⟨List.mem_map_of_mem hmem, List.contains_iff_mem.mpr hbound⟩, ?_⟩
  rw [Bool.and_eq_true]
  exact ⟨hsubset _ _ hinput, hsubset _ _ houtput⟩

/-- **The references of a projected payload resolve**, up to offers of one identifier. -/
lemma validateCallableReferences_iff (hids : (agents.map CallablePassportAgent.id).Nodup)
    (htools : toolIds.Nodup)
    (hoffers : ∀ offer ∈ offers, ∃ agent ∈ agents, offer.capability ∈ agent.capabilityIds
      ∧ (∀ mode ∈ offer.inputModes, mode ∈ agent.inputModes)
      ∧ ∀ mode ∈ offer.outputModes, mode ∈ agent.outputModes) :
    validateCallableReferences (referencesOf locale toolIds agents offers) = .ok ()
      ↔ (offers.map fun offer => offer.offerId).Nodup := by
  have hnodup := nodup_of_fits hfits
  have hagents : (agentIds (referencesOf locale toolIds agents offers)).Nodup := by
    have hkeys : agentIds (referencesOf locale toolIds agents offers)
        = (agents.map CallablePassportAgent.id).map JsString.ofString := by
      rw [agentIds, referencesOf, List.map_map, List.map_map]
      rfl
    rw [hkeys]
    exact hids.map JsString.ofString_injective
  have hcapabilities : (referencesOf locale toolIds agents offers).capabilityIds
      = ((projectCapabilities locale agents).map TetiCapability.id).map JsString.ofString := by
    rw [referencesOf, List.map_map]
    rfl
  have hcapabilitiesNodup : (referencesOf locale toolIds agents offers).capabilityIds.Nodup := by
    rw [hcapabilities]
    exact nodup_capabilityIds.map JsString.ofString_injective
  have hbindings : validateBindings (referencesOf locale toolIds agents offers) []
      (referencesOf locale toolIds agents offers).bindings = .ok () := by
    have hbound : (([] ++ (referencesOf locale toolIds agents offers).bindings).map
        BindingReference.capabilityId).Nodup := nodup_boundCapabilities toolIds offers
    refine validateBindings_of_resolves (fun binding hbinding => ?_) hbound
    obtain ⟨capability, hcapability, rfl⟩ := List.mem_map.mp hbinding
    exact resolves_binding hfits hids hcapability
  have hreferences : ((referencesOf locale toolIds agents offers).agents.any fun agent =>
      agent.capabilityIds.any fun id => !(referencesOf locale toolIds agents offers).capabilityIds.contains id
        || !(bindingFor (referencesOf locale toolIds agents offers) id).any fun binding =>
          binding.agentIds.contains agent.id) = false := by
    rw [List.any_eq_false]
    intro reference hreference
    obtain ⟨agent, hagent, rfl⟩ := List.mem_map.mp hreference
    rw [Bool.not_eq_true, List.any_eq_false]
    intro units hunits
    obtain ⟨id, hid, rfl⟩ := List.mem_map.mp hunits
    have hlisted : id ∈ (projectCapabilities locale agents).map TetiCapability.id :=
      (mem_capabilityIds hnodup).mpr ⟨agent, hagent, hid⟩
    obtain ⟨capability, hcapability, rfl⟩ := List.mem_map.mp hlisted
    have hbound : JsString.ofString agent.id ∈ (bindingRef (projectBinding agents capability)).agentIds :=
      List.mem_map_of_mem ((mem_binding hnodup).mpr ⟨agent, hagent, hid, rfl⟩)
    rw [bindingFor_ofString hcapability, hcapabilities]
    simpa [agentRef, hbound, JsString.ofString_injective.eq_iff] using hlisted
  have hofferIds : (offers.map offerRef).map OfferReference.offerId
      = (offers.map fun offer => offer.offerId).map JsString.ofString := by
    rw [List.map_map, List.map_map]
    rfl
  rw [validateCallableReferences, rejectWhen_then_eq_ok, then_eq_ok, rejectWhen_then_eq_ok,
    rejectWhen_then_eq_ok, validateOffers_eq_ok]
  constructor
  · rintro ⟨-, -, -, -, -, hdistinct⟩
    rw [referencesOf, hofferIds] at hdistinct
    exact hdistinct.of_map
  · intro hdistinct
    have htoolIds : (referencesOf locale toolIds agents offers).toolIds.Nodup := htools
    refine ⟨by simp [htoolIds, hagents, hcapabilitiesNodup], hbindings, hreferences,
      by simp [referencesOf], fun reference hreference => ?_, ?_⟩
    · obtain ⟨offer, hoffer, rfl⟩ := List.mem_map.mp hreference
      obtain ⟨agent, hagent, hcapability, hinput, houtput⟩ := hoffers offer hoffer
      refine ⟨?_, isOffered_offerRef hfits hagent hcapability hinput houtput, by simp⟩
      rw [hcapabilities]
      exact List.mem_map_of_mem ((mem_capabilityIds hnodup).mpr ⟨agent, hagent, hcapability⟩)
    · rw [referencesOf, hofferIds]
      exact hdistinct.map JsString.ofString_injective

end

end TetiBot.Passport

import TetiBot.Passport.Sharing

/-
When the payload of a passport passes, and when it depends on the order of what is listed.

* `Withholds`: nothing of a field that the policy withholds is in the payload.
* `PassportSources.Valid`, `PassportSources.WithinLimits`: what the application is promised of its
  own inputs, and the limits of a payload.
* `passport_projection_iff`: when the payload passes, withholds what the policy withholds, and
  is the same for every order of its sources.
-/

namespace TetiBot.Passport

open Library Library.Json

/-! ### What is shared -/

lemma sharedTool_self {tool : Json} (h : tool.Distinct) : sharedTool (resourceSharingPolicy true) tool = tool := by
  cases tool with
  | obj fields =>
    rw [sharedTool]
    cases hquotas : lookup fields "quotas" with
    | none => rfl
    | some quotas => exact congrArg Json.obj (setField_self (distinct_obj.mp h).1 hquotas)
  | null => rfl
  | bool b => rfl
  | num n => rfl
  | decimal d => rfl
  | str s => rfl
  | arr values => rfl

/-- Nothing of a field that a policy withholds is in a payload. -/
structure Withholds (policy : PassportSharingPolicy) (payload : List (String × Json)) : Prop where
  resourceSummary : policy.resourceSummary = false → items (lookup payload "tools") = []
  resourceQuota : policy.resourceQuota = false →
    ∀ tool ∈ items (lookup payload "tools"), items (tool.field "quotas") = []
  agents : policy.agents = false →
    items (lookup payload "agents") = [] ∧ items (lookup payload "computeOffers") = []
  capabilities : policy.capabilities = false → items (lookup payload "capabilities") = []
    ∧ items (lookup payload "bindings") = [] ∧ items (lookup payload "computeOffers") = []

lemma withholds_broadcastFields (locale : PassportLocale) (policy : PassportSharingPolicy)
    (sources : PassportSources) (toISOString : Timestamp → String) (now : Timestamp) :
    Withholds policy (broadcastFields locale policy sources toISOString now) := by
  refine ⟨fun h => ?_, fun h => ?_, fun h => ?_, fun h => ?_⟩
  · simp [broadcastFields, passportFields, lookup_cons, items, sharedTools, h]
  · simp only [broadcastFields, passportFields, lookup_cons, String.reduceEq, if_true, if_false, items,
      sharedTools]
    intro tool htool
    split_ifs at htool
    · obtain ⟨known, -, rfl⟩ := List.mem_map.mp htool
      cases known with
      | obj fields => simp [sharedTool, h, field, lookup_setField]
      | null => rfl
      | bool b => rfl
      | num n => rfl
      | decimal d => rfl
      | str s => rfl
      | arr values => rfl
    · cases htool
  · simp [broadcastFields, passportFields, lookup_cons, items, sharedAgents, sharedOffers, h]
  · simp [broadcastFields, passportFields, lookup_cons, items, sharedCapabilities, sharedBindings,
      sharedOffers, h]

/-! ### The whole -/

/-- The contract, for a payload of the version that is sent. -/
lemma validateAiStatusSyncPayload_iff {parseDate : JsString → Option Timestamp}
    {payload : List (String × Json)}
    (hnames : payload.map Prod.fst = ["schemaVersion", "sharing", "generatedAt", "expiresAt", "tools", "agents",
      "capabilities", "bindings", "computeOffers"])
    (hversion : lookup payload "schemaVersion" = some (.num TETI_AI_STATUS_SCHEMA_VERSION)) :
    validateAiStatusSyncPayload parseDate (.obj payload) = .ok ()
      ↔ (Json.obj payload).encodedSize ≤ MAX_PAYLOAD_BYTES ∧ validateTimes parseDate payload = .ok ()
        ∧ validateTools parseDate payload = .ok () ∧ validateAgents parseDate payload = .ok ()
        ∧ validateCapabilities parseDate payload = .ok () ∧ validateComputeOffers parseDate payload = .ok ()
        ∧ validateCallableReferences (passportReferences payload true) = .ok () := by
  have hcurrent : isCurrent payload = true := by rw [isCurrent, hasVersion, hversion]; rfl
  have hkeys : exactKeys payload (payloadKeys payload) "AI status payload" = .ok () := by
    refine exactKeys_of_names ?_
    rw [hnames, payloadKeys, hcurrent]
    rfl
  rw [validateAiStatusSyncPayload, rejectWhen_then_eq_ok, record, except_ok_bind, rejectWhen_then_eq_ok,
    then_eq_ok, then_eq_ok, then_eq_ok, hcurrent]
  simp only [Bool.true_or, if_true, then_eq_ok, hkeys, Bool.not_true, Bool.false_and, true_and,
    decide_eq_false_iff_not, not_lt]

/-- What the application is promised of its own inputs: callable agents and offers are those that
their checks let through, and tools pass. -/
structure PassportSources.Valid (locale : PassportLocale) (sources : PassportSources) : Prop where
  tools : ∀ tool ∈ sources.tools, validateTool locale.parseDate tool = .ok ()
  toolIds : (sources.tools.map fun tool => textOf (tool.field "toolId")).Nodup
  callableAgents : ∀ callable ∈ sources.callableAgents,
    ∃ readiness, projectCallableAgent locale.parseDate readiness = some callable
  computeOffers : ∀ offer ∈ sources.computeOffers,
    ∃ descriptor, validateAgentComputeOffer offer descriptor = .ok ()

/-- The limits of a payload. -/
structure PassportSources.WithinLimits (sources : PassportSources) : Prop where
  tools : sources.tools.length ≤ MAX_TOOLS
  agents : (sources.callableAgents.map CallableAgent.agentId).dedup.length ≤ MAX_AGENTS
  capabilities : (sources.callableAgents.flatMap CallableAgent.capabilityIds).dedup.length ≤ MAX_CAPABILITIES
  agentCapabilities : ∀ id,
    ((entriesOf sources.callableAgents id).flatMap CallableAgent.capabilityIds).dedup.length ≤ 32
  agentIds : ∀ callable ∈ sources.callableAgents, callable.agentId.length ≤ MAX_AGENT_ID_LENGTH
  capabilityIds : ∀ callable ∈ sources.callableAgents, ∀ id ∈ callable.capabilityIds,
    id.length ≤ MAX_AGENT_ID_LENGTH
  computeOffers : sources.computeOffers.length ≤ MAX_COMPUTE_OFFERS

section

variable {locale : PassportLocale} {sources : PassportSources}

lemma PassportSources.Valid.callables (h : sources.Valid locale) :
    ∀ callable ∈ sources.callableAgents, callable.Valid locale.parseDate := by
  intro callable hmem
  obtain ⟨readiness, hreadiness⟩ := h.callableAgents callable hmem
  exact valid_of_projectCallableAgent hreadiness

lemma PassportSources.Valid.offers (h : sources.Valid locale) :
    ∀ offer ∈ sources.computeOffers, offer.Valid := by
  intro offer hmem
  obtain ⟨descriptor, hdescriptor⟩ := h.computeOffers offer hmem
  exact valid_of_validateAgentComputeOffer hdescriptor

lemma dedup_length_le {l l' : List String} (hnodup : l.Nodup) (hsub : ∀ s ∈ l, s ∈ l') :
    l.length ≤ l'.dedup.length :=
  (hnodup.subperm fun s hs => List.mem_dedup.mpr (hsub s hs)).length_le

/-- **The agents that are projected fit the contract.** -/
lemma fits_of_mem (hvalid : sources.Valid locale) (hlimits : sources.WithinLimits)
    {agent : CallablePassportAgent} (hmem : agent ∈ projectAgents locale sources.callableAgents) :
    Fits locale agent := by
  have hmerges := merges_of_mem hvalid.callables hmem
  have hentry : ∀ callable ∈ entriesOf sources.callableAgents agent.id, callable ∈ sources.callableAgents :=
    fun callable hcallable => List.mem_of_mem_filter hcallable
  obtain ⟨latest, hlatest, htext, -⟩ := hmerges.observed
  obtain ⟨id, hid⟩ := List.exists_mem_of_ne_nil _ (hvalid.callables latest (hentry latest hlatest)).capabilityIds_ne_nil
  refine ⟨agentId_slug hvalid.callables hmem, ?_, hmerges.name, hmerges.provider, hmerges.nodup, ?_, ?_,
    fun id hid => ?_, ⟨_, hmerges.inputModes⟩, ⟨_, hmerges.outputModes⟩, ?_⟩
  · rw [← hmerges.id latest hlatest]
    exact hlimits.agentIds latest (hentry latest hlatest)
  · refine (dedup_length_le hmerges.nodup fun id hid => ?_).trans (hlimits.agentCapabilities agent.id)
    exact List.mem_flatMap.mpr ((hmerges.mem_capabilityIds id).mp hid)
  · exact List.ne_nil_of_mem ((hmerges.mem_capabilityIds id).mpr ⟨latest, hlatest, hid⟩)
  · obtain ⟨callable, hcallable, hid⟩ := (hmerges.mem_capabilityIds id).mp hid
    exact ⟨(hvalid.callables callable (hentry callable hcallable)).capabilityIds_slug id hid,
      hlimits.capabilityIds callable (hentry callable hcallable) id hid⟩
  · rw [← htext]
    exact (hvalid.callables latest (hentry latest hlatest)).readyAt

lemma agents_length_le (hvalid : sources.Valid locale) (hlimits : sources.WithinLimits) :
    (projectAgents locale sources.callableAgents).length ≤ MAX_AGENTS := by
  rw [← List.length_map CallablePassportAgent.id]
  refine (dedup_length_le (nodup_agentIds hvalid.callables) fun id hid => ?_).trans hlimits.agents
  obtain ⟨agent, hagent, rfl⟩ := List.mem_map.mp hid
  have hmerges := merges_of_mem hvalid.callables hagent
  obtain ⟨latest, hlatest, -⟩ := hmerges.observed
  rw [← hmerges.id latest hlatest]
  exact List.mem_map_of_mem (List.mem_of_mem_filter hlatest)

lemma capabilities_length_le (hvalid : sources.Valid locale) (hlimits : sources.WithinLimits) :
    (projectCapabilities locale (projectAgents locale sources.callableAgents)).length ≤ MAX_CAPABILITIES := by
  rw [← List.length_map TetiCapability.id]
  refine (dedup_length_le nodup_capabilityIds fun id hid => ?_).trans hlimits.capabilities
  obtain ⟨agent, hagent, hid⟩ := (mem_capabilityIds fun agent hagent =>
    (fits_of_mem hvalid hlimits hagent).nodup).mp hid
  obtain ⟨callable, hcallable, hid⟩ := ((merges_of_mem hvalid.callables hagent).mem_capabilityIds id).mp hid
  exact List.mem_flatMap.mpr ⟨callable, List.mem_of_mem_filter hcallable, hid⟩

end

/-! ### The offers of a passport -/

section

variable {locale : PassportLocale} {agents : List CallablePassportAgent} {offers : List AgentComputeOffer}

lemma mem_projectComputeOffers {offer : ComputeOffer} (h : offer ∈ projectComputeOffers locale agents offers) :
    offer.toAgentComputeOffer ∈ offers ∧ ∃ agent ∈ agents, offer.observedAt = agent.observedAt
      ∧ offer.capability ∈ agent.capabilityIds ∧ (∀ mode ∈ offer.inputModes, mode ∈ agent.inputModes)
      ∧ ∀ mode ∈ offer.outputModes, mode ∈ agent.outputModes := by
  rw [projectComputeOffers, Collation.mem_sortBy, List.mem_filterMap] at h
  obtain ⟨known, hknown, hprojected⟩ := h
  obtain ⟨agent, hagent, rfl⟩ := Option.map_eq_some_iff.mp hprojected
  obtain ⟨hmem, hspec⟩ := offeringAgent_spec hagent
  exact ⟨hknown, agent, hmem, rfl, hspec⟩

lemma projectComputeOffers_length : (projectComputeOffers locale agents offers).length ≤ offers.length := by
  rw [projectComputeOffers, Collation.length_sortBy]
  exact List.length_filterMap_le _ _

/-- Offers without an agent are not projected. -/
lemma projectComputeOffers_eq_nil (h : ∀ offer ∈ offers, ∀ agent ∈ agents, offer.capability ∉ agent.capabilityIds) :
    projectComputeOffers locale agents offers = [] := by
  refine List.eq_nil_iff_forall_not_mem.mpr fun offer hoffer => ?_
  obtain ⟨hmem, agent, hagent, -, hcapability, -⟩ := mem_projectComputeOffers hoffer
  exact h _ hmem agent hagent hcapability

/-- If every offer has an agent, all of them are projected. -/
lemma projectComputeOffers_ids (h : ∀ offer ∈ offers, (offeringAgent locale agents offer).isSome = true) :
    ((projectComputeOffers locale agents offers).map fun offer => offer.offerId).Perm
      (offers.map AgentComputeOffer.offerId) := by
  refine ((locale.collation.perm_sortBy _ _).map _).trans (List.Perm.of_eq ?_)
  rw [List.map_filterMap, ← List.filterMap_eq_map]
  refine List.filterMap_congr fun offer hoffer => ?_
  obtain ⟨agent, hagent⟩ := Option.isSome_iff_exists.mp (h offer hoffer)
  rw [hagent]
  rfl

/-- **Offers with different identifiers are projected alike in any order.** -/
lemma projectComputeOffers_eq_of_perm {offers' : List AgentComputeOffer} (hperm : offers'.Perm offers)
    (hslugs : ∀ offer ∈ offers, safeSlugPattern offer.offerId = true)
    (hapart : ((projectComputeOffers locale agents offers).map fun offer => offer.offerId).Nodup) :
    projectComputeOffers locale agents offers' = projectComputeOffers locale agents offers := by
  refine (Collation.sortBy_eq_of_perm _ _ (hperm.symm.filterMap _) fun a ha b hb hab hba => ?_).symm
  have hmem : ∀ offer, offer ∈ offers.filterMap (fun offer =>
      (offeringAgent locale agents offer).map fun agent => (⟨offer, agent.observedAt⟩ : ComputeOffer)) →
      offer ∈ projectComputeOffers locale agents offers :=
    fun offer hoffer => (Collation.mem_sortBy ..).mpr hoffer
  refine List.inj_on_of_nodup_map hapart (hmem a ha) (hmem b hb) ?_
  exact locale.slugs _ _ (hslugs _ (mem_projectComputeOffers (hmem a ha)).1)
    (hslugs _ (mem_projectComputeOffers (hmem b hb)).1) hab hba

end

/-- If a callable agent can take the offers, these have different identifiers. -/
def OffersApart (sources : PassportSources) : Prop :=
  (∃ callable ∈ sources.callableAgents, "general-text-assistance" ∈ callable.capabilityIds) →
    (sources.computeOffers.map AgentComputeOffer.offerId).Nodup

section

variable {locale : PassportLocale} {sources : PassportSources}

/-- The offers of the payload. -/
def sharedComputeOffers (locale : PassportLocale) (sources : PassportSources) : List ComputeOffer :=
  projectComputeOffers locale (projectAgents locale sources.callableAgents) sources.computeOffers

lemma offersApart_iff (hvalid : sources.Valid locale) : OffersApart sources
    ↔ ((sharedComputeOffers locale sources).map fun offer => offer.offerId).Nodup := by
  by_cases hbacked : ∃ callable ∈ sources.callableAgents, "general-text-assistance" ∈ callable.capabilityIds
  · obtain ⟨callable, hcallable, hcapability⟩ := hbacked
    obtain ⟨agent, hagent, hid⟩ := exists_agent hvalid.callables hcallable
    have hmerges := merges_of_mem hvalid.callables hagent
    have hentry : callable ∈ entriesOf sources.callableAgents agent.id :=
      List.mem_filter.mpr ⟨hcallable, by simpa using hid.symm⟩
    have hall : ∀ offer ∈ sources.computeOffers,
        (offeringAgent locale (projectAgents locale sources.callableAgents) offer).isSome = true := by
      intro offer hoffer
      have hoffer := hvalid.offers offer hoffer
      rw [offeringAgent_isSome_iff, hoffer.capability, hoffer.inputModes, hoffer.outputModes]
      refine ⟨agent, hagent, (hmerges.mem_capabilityIds _).mpr ⟨callable, hentry, hcapability⟩, ?_, ?_⟩
      · rw [hmerges.inputModes, modesOf]
        split_ifs <;> simp
      · rw [hmerges.outputModes, modesOf]
        split_ifs <;> simp
    rw [sharedComputeOffers, (projectComputeOffers_ids hall).nodup_iff]
    exact ⟨fun h => h ⟨callable, hcallable, hcapability⟩, fun h _ => h⟩
  · have hnil : sharedComputeOffers locale sources = [] := by
      refine projectComputeOffers_eq_nil fun offer hoffer agent hagent hcapability => hbacked ?_
      rw [(hvalid.offers offer hoffer).capability] at hcapability
      obtain ⟨callable, hcallable, hmem⟩ :=
        ((merges_of_mem hvalid.callables hagent).mem_capabilityIds _).mp hcapability
      exact ⟨callable, List.mem_of_mem_filter hcallable, hmem⟩
    rw [hnil]
    exact ⟨fun _ => List.nodup_nil, fun _ h => absurd h hbacked⟩

end

/-! ### Payloads -/

/-- What the clock of the application writes is read back. -/
def WritesDate (locale : PassportLocale) (toISOString : Timestamp → String) (t : Timestamp) : Prop :=
  locale.parseDate (JsString.ofString (toISOString t)) = some t
    ∧ JsString.isBlank (JsString.ofString (toISOString t)) = false

section

variable {locale : PassportLocale} {sources : PassportSources} {toISOString : Timestamp → String}
  {now : Timestamp}

/-- The payload with these parts. -/
def payloadOf (sharing generatedAt expiresAt : String) (tools agents capabilities bindings offers : List Json) :
    List (String × Json) :=
  [("schemaVersion", .num TETI_AI_STATUS_SCHEMA_VERSION), ("sharing", text sharing),
    ("generatedAt", text generatedAt), ("expiresAt", text expiresAt), ("tools", .arr tools),
    ("agents", .arr agents), ("capabilities", .arr capabilities), ("bindings", .arr bindings),
    ("computeOffers", .arr offers)]

lemma sameText_text (s t : String) : sameText (some (text s)) (some (text t)) = decide (s = t) := by
  simp [text, sameText, JsString.ofString_injective.eq_iff]

lemma broadcastFields_enabled (hvalid : sources.Valid locale) (hlimits : sources.WithinLimits) :
    broadcastFields locale (resourceSharingPolicy true) sources toISOString now
      = payloadOf "enabled" (toISOString now) (toISOString (now + AI_STATUS_TTL_MS)) sources.tools
        ((projectAgents locale sources.callableAgents).map CallablePassportAgent.json)
        ((projectCapabilities locale (projectAgents locale sources.callableAgents)).map TetiCapability.json)
        (((projectCapabilities locale (projectAgents locale sources.callableAgents)).map
          (projectBinding (projectAgents locale sources.callableAgents))).map CapabilityBinding.json)
        ((sharedComputeOffers locale sources).map ComputeOffer.json) := by
  have hnodup : ∀ agent ∈ projectAgents locale sources.callableAgents, agent.capabilityIds.Nodup :=
    fun agent hagent => (fits_of_mem hvalid hlimits hagent).nodup
  have htools : sharedTools (resourceSharingPolicy true) (sources.known locale (resourceSharingPolicy true))
      = sources.tools :=
    (List.map_congr_left fun tool htool => sharedTool_self (sources.distinct tool htool)).trans
      (List.map_id sources.tools)
  have hbindings : sharedBindings (resourceSharingPolicy true)
      (sources.known locale (resourceSharingPolicy true))
        = (sources.known locale (resourceSharingPolicy true)).bindings := by
    refine List.filter_eq_self.mpr fun binding hbinding => ?_
    obtain ⟨known, hknown, rfl⟩ := List.mem_map.mp hbinding
    obtain ⟨capability, -, rfl⟩ := List.mem_map.mp hknown
    rw [List.all_eq_true]
    intro value hvalue
    have hids : value ∈ (projectBinding (projectAgents locale sources.callableAgents) capability).agentIds.map
        text := by
      simpa [CapabilityBinding.json, field, lookup_cons, texts, items, resourceSharingPolicy] using hvalue
    obtain ⟨id, hid, rfl⟩ := List.mem_map.mp hids
    obtain ⟨agent, hagent, -, rfl⟩ := (mem_binding hnodup).mp hid
    rw [List.any_eq_true]
    refine ⟨agent.json, List.mem_map_of_mem hagent, ?_⟩
    simp [CallablePassportAgent.json, field, lookup_cons, sameText_text]
  have hoffers : sharedOffers (resourceSharingPolicy true)
      (sources.known locale (resourceSharingPolicy true))
        = (sources.known locale (resourceSharingPolicy true)).computeOffers := by
    refine List.filter_eq_self.mpr fun value hvalue => ?_
    obtain ⟨offer, hoffer, rfl⟩ := List.mem_map.mp hvalue
    obtain ⟨-, agent, hagent, -, hcapability, -⟩ := mem_projectComputeOffers hoffer
    have hlisted : offer.capability ∈ (projectCapabilities locale _).map TetiCapability.id :=
      (mem_capabilityIds hnodup).mpr ⟨agent, hagent, hcapability⟩
    obtain ⟨capability, hmem, hid⟩ := List.mem_map.mp hlisted
    rw [List.any_eq_true]
    refine ⟨capability.json, List.mem_map_of_mem hmem, ?_⟩
    simp [TetiCapability.json, ComputeOffer.json, field, lookup_cons, sameText_text, hid]
  rw [broadcastFields, passportFields, htools, hbindings, hoffers]
  rfl

lemma validateTimes_payloadOf {sharing : String} {tools agents capabilities bindings offers : List Json}
    (hsharing : sharing = "enabled" ∨ sharing = "disabled") (hnow : WritesDate locale toISOString now)
    (hexpires : WritesDate locale toISOString (now + AI_STATUS_TTL_MS)) :
    validateTimes locale.parseDate (payloadOf sharing (toISOString now)
      (toISOString (now + AI_STATUS_TTL_MS)) tools agents capabilities bindings offers) = .ok () := by
  have hread : ∀ t label, WritesDate locale toISOString t →
      isoTimestamp locale.parseDate (some (text (toISOString t))) label = .ok t := by
    intro t label ht
    rw [text, isoTimestamp, if_neg (by simp [ht.2]), ht.1]
  simp only [validateTimes, payloadOf, lookup_cons, String.reduceEq, if_true, if_false, hread _ _ hnow,
    hread _ _ hexpires, except_ok_bind, rejectWhen_then_eq_ok, rejectWhen_eq_ok]
  have hone : isOneOf (some (text sharing)) ["enabled", "disabled"] = true := by
    obtain rfl | rfl := hsharing <;> decide +kernel
  refine ⟨by rw [hone, Bool.not_true], decide_eq_false (not_le.mpr ?_), decide_eq_false (not_lt.mpr ?_)⟩
  · exact Int.lt_add_of_pos_right now (by decide)
  · rw [AI_STATUS_TTL_MS, MAX_TTL_MS]
    omega

section

variable {sharing generatedAt expiresAt : String} {tools agents capabilities bindings offers : List Json}

lemma isDisabled_payloadOf :
    isDisabled (payloadOf sharing generatedAt expiresAt tools agents capabilities bindings offers)
      = decide (sharing = "disabled") := by
  simp only [isDisabled, payloadOf, lookup_cons, String.reduceEq, if_true, if_false, isText, sameText_text]

lemma boundedArray_arr {parts : List Json} {maximum : Nat} {message : String} (h : parts.length ≤ maximum) :
    boundedArray (some (.arr parts)) maximum message = .ok parts := by
  rw [boundedArray, if_neg (not_lt.mpr h)]

/-- Only a payload that shares something has parts. -/
lemma disabled_and_parts {parts : List Json} (h : sharing = "disabled" → parts = []) :
    (decide (sharing = "disabled") && !parts.isEmpty) = false := by
  by_cases hdisabled : sharing = "disabled"
  · simp [h hdisabled]
  · simp [hdisabled]

lemma validateTools_payloadOf (hempty : sharing = "disabled" → tools = []) (hlength : tools.length ≤ MAX_TOOLS)
    (htools : ∀ tool ∈ tools, validateTool locale.parseDate tool = .ok ()) :
    validateTools locale.parseDate
      (payloadOf sharing generatedAt expiresAt tools agents capabilities bindings offers) = .ok () := by
  rw [validateTools, isDisabled_payloadOf]
  simp only [payloadOf, lookup_cons, String.reduceEq, if_true, if_false, boundedArray_arr hlength,
    except_ok_bind, rejectWhen_then_eq_ok, forM_eq_ok]
  exact ⟨disabled_and_parts hempty, htools⟩

lemma validateAgents_payloadOf (hempty : sharing = "disabled" → agents = []) (hlength : agents.length ≤ MAX_AGENTS)
    (hagents : ∀ agent ∈ agents, validateCallableAgent locale.parseDate agent = .ok ()) :
    validateAgents locale.parseDate
      (payloadOf sharing generatedAt expiresAt tools agents capabilities bindings offers) = .ok () := by
  have hcurrent : isCurrent (payloadOf sharing generatedAt expiresAt tools agents capabilities bindings offers)
      = true := rfl
  rw [validateAgents, isDisabled_payloadOf, hcurrent]
  simp only [payloadOf, lookup_cons, String.reduceEq, if_true, if_false, boundedArray_arr hlength,
    except_ok_bind, rejectWhen_then_eq_ok, forM_eq_ok, Bool.true_or]
  exact ⟨disabled_and_parts hempty, hagents⟩

lemma validateCapabilities_payloadOf (hempty : sharing = "disabled" → capabilities = [] ∧ bindings = [])
    (hlength : capabilities.length ≤ MAX_CAPABILITIES) (hlength' : bindings.length ≤ MAX_BINDINGS)
    (hcapabilities : ∀ capability ∈ capabilities, validateCapability locale.parseDate capability = .ok ())
    (hbindings : ∀ binding ∈ bindings, validateBinding binding = .ok ()) :
    validateCapabilities locale.parseDate
      (payloadOf sharing generatedAt expiresAt tools agents capabilities bindings offers) = .ok () := by
  rw [validateCapabilities, isDisabled_payloadOf]
  simp only [payloadOf, lookup_cons, String.reduceEq, if_true, if_false, boundedArray_arr hlength,
    boundedArray_arr hlength', except_ok_bind, then_eq_ok, rejectWhen_eq_ok, forM_eq_ok]
  refine ⟨?_, hcapabilities, hbindings⟩
  rw [Bool.and_or_distrib_left, Bool.or_eq_false_iff]
  exact ⟨disabled_and_parts fun h => (hempty h).1, disabled_and_parts fun h => (hempty h).2⟩

lemma validateComputeOffers_payloadOf (hempty : sharing = "disabled" → offers = [])
    (hlength : offers.length ≤ MAX_COMPUTE_OFFERS)
    (hoffers : ∀ offer ∈ offers, validateComputeOffer locale.parseDate offer = .ok ()) :
    validateComputeOffers locale.parseDate
      (payloadOf sharing generatedAt expiresAt tools agents capabilities bindings offers) = .ok () := by
  rw [validateComputeOffers, isDisabled_payloadOf]
  simp only [payloadOf, lookup_cons, String.reduceEq, if_true, if_false, boundedArray_arr hlength,
    except_ok_bind, rejectWhen_then_eq_ok, forM_eq_ok]
  exact ⟨disabled_and_parts hempty, hoffers⟩

end

/-- A payload that shares nothing passes. -/
lemma validate_disabled (hnow : WritesDate locale toISOString now)
    (hexpires : WritesDate locale toISOString (now + AI_STATUS_TTL_MS))
    (hsize : (broadcastPayload locale (resourceSharingPolicy false) sources toISOString now).encodedSize
      ≤ MAX_PAYLOAD_BYTES) :
    validateAiStatusSyncPayload locale.parseDate
      (broadcastPayload locale (resourceSharingPolicy false) sources toISOString now) = .ok () := by
  have hnone : ∀ (check : Json → Except String Unit), ∀ part ∈ ([] : List Json), check part = .ok () := by
    rintro check part ⟨⟩
  refine (validateAiStatusSyncPayload_iff rfl rfl).mpr ⟨hsize, ?_, ?_, ?_, ?_, ?_, rfl⟩
  · exact validateTimes_payloadOf (.inr rfl) hnow hexpires
  · exact validateTools_payloadOf (fun _ => rfl) (Nat.zero_le _) (hnone _)
  · exact validateAgents_payloadOf (fun _ => rfl) (Nat.zero_le _) (hnone _)
  · exact validateCapabilities_payloadOf (fun _ => ⟨rfl, rfl⟩) (Nat.zero_le _) (Nat.zero_le _) (hnone _) (hnone _)
  · exact validateComputeOffers_payloadOf (fun _ => rfl) (Nat.zero_le _) (hnone _)

/-- A payload that shares everything passes if the offers have different identifiers. -/
lemma validate_enabled_iff (hvalid : sources.Valid locale) (hlimits : sources.WithinLimits)
    (hnow : WritesDate locale toISOString now)
    (hexpires : WritesDate locale toISOString (now + AI_STATUS_TTL_MS))
    (hsize : (broadcastPayload locale (resourceSharingPolicy true) sources toISOString now).encodedSize
      ≤ MAX_PAYLOAD_BYTES) :
    validateAiStatusSyncPayload locale.parseDate
        (broadcastPayload locale (resourceSharingPolicy true) sources toISOString now) = .ok ()
      ↔ ((sharedComputeOffers locale sources).map fun offer => offer.offerId).Nodup := by
  have hfits : ∀ agent ∈ projectAgents locale sources.callableAgents, Fits locale agent :=
    fun _ hmem => fits_of_mem hvalid hlimits hmem
  have hids := nodup_agentIds hvalid.callables
  have hshared : ("enabled" : String) ≠ "disabled" := by decide
  have hpayload : broadcastPayload locale (resourceSharingPolicy true) sources toISOString now
      = .obj (payloadOf _ _ _ _ _ _ _ _) := congrArg Json.obj (broadcastFields_enabled hvalid hlimits)
  have hreferences : passportReferences (payloadOf "enabled" (toISOString now)
      (toISOString (now + AI_STATUS_TTL_MS)) sources.tools
      ((projectAgents locale sources.callableAgents).map CallablePassportAgent.json)
      ((projectCapabilities locale (projectAgents locale sources.callableAgents)).map TetiCapability.json)
      (((projectCapabilities locale (projectAgents locale sources.callableAgents)).map
        (projectBinding (projectAgents locale sources.callableAgents))).map CapabilityBinding.json)
      ((sharedComputeOffers locale sources).map ComputeOffer.json)) true
      = referencesOf locale (sources.tools.map fun tool => textOf (tool.field "toolId"))
          (projectAgents locale sources.callableAgents) (sharedComputeOffers locale sources) := by
    simp only [passportReferences, referencesOf, payloadOf, lookup_cons, String.reduceEq, if_true, if_false,
      items, List.map_map, Function.comp_def, agentReference_json, bindingReference_json, offerReference_json]
    rfl
  have hoffers : ∀ offer ∈ sharedComputeOffers locale sources,
      offer.toAgentComputeOffer.Valid ∧ ∃ agent ∈ projectAgents locale sources.callableAgents,
        offer.observedAt = agent.observedAt ∧ offer.capability ∈ agent.capabilityIds
          ∧ (∀ mode ∈ offer.inputModes, mode ∈ agent.inputModes)
          ∧ ∀ mode ∈ offer.outputModes, mode ∈ agent.outputModes := by
    intro offer hoffer
    obtain ⟨hmem, hagent⟩ := mem_projectComputeOffers hoffer
    exact ⟨hvalid.offers _ hmem, hagent⟩
  rw [hpayload] at hsize ⊢
  rw [validateAiStatusSyncPayload_iff rfl rfl, hreferences,
    validateCallableReferences_iff hfits hids hvalid.toolIds fun offer hoffer => by
      obtain ⟨-, agent, hagent, -, hspec⟩ := hoffers offer hoffer
      exact ⟨agent, hagent, hspec⟩]
  refine ⟨fun h => h.2.2.2.2.2.2, fun hapart => ⟨hsize, ?_, ?_, ?_, ?_, ?_, hapart⟩⟩
  · exact validateTimes_payloadOf (.inl rfl) hnow hexpires
  · exact validateTools_payloadOf (fun h => absurd h hshared) hlimits.tools hvalid.tools
  · refine validateAgents_payloadOf (fun h => absurd h hshared) ?_ ?_
    · rw [List.length_map]
      exact agents_length_le hvalid hlimits
    · rw [List.forall_mem_map]
      exact fun agent hagent => validateCallableAgent_json (hfits agent hagent)
  · refine validateCapabilities_payloadOf (fun h => absurd h hshared) ?_ ?_ ?_ ?_
    · rw [List.length_map]
      exact capabilities_length_le hvalid hlimits
    · rw [List.length_map, List.length_map]
      exact capabilities_length_le hvalid hlimits
    · rw [List.forall_mem_map]
      exact fun capability hcapability => validateCapability_json hfits hcapability
    · rw [List.forall_mem_map, List.forall_mem_map]
      exact fun capability hcapability =>
        validateBinding_json hfits hids (agents_length_le hvalid hlimits) hcapability
  · refine validateComputeOffers_payloadOf (fun h => absurd h hshared) ?_ ?_
    · rw [List.length_map]
      exact projectComputeOffers_length.trans hlimits.computeOffers
    · rw [List.forall_mem_map]
      intro offer hoffer
      obtain ⟨hoffer, agent, hagent, htext, -⟩ := hoffers offer hoffer
      exact validateComputeOffer_json hoffer (htext ▸ (hfits agent hagent).observedAt)

/-! ### Orders -/

/-- The same sources, listed in another order. -/
structure Reordered (reordered sources : PassportSources) : Prop where
  tools : reordered.tools = sources.tools
  callableAgents : reordered.callableAgents.Perm sources.callableAgents
  computeOffers : reordered.computeOffers.Perm sources.computeOffers

lemma text_injective : Function.Injective text := fun _ _ h =>
  JsString.ofString_injective (Json.str.inj h)

lemma texts_injective : Function.Injective texts := fun _ _ h =>
  List.map_injective_iff.mpr text_injective (Json.arr.inj h)

lemma modesJson_injective : Function.Injective modesJson := by
  have hmode : Function.Injective modeText := by
    intro mode mode' h
    cases mode <;> cases mode' <;> first | rfl | exact absurd h (by decide)
  exact fun _ _ h => List.map_injective_iff.mpr hmode (texts_injective h)

lemma agentJson_injective : Function.Injective CallablePassportAgent.json := by
  rintro ⟨_, _, _, _, _, _, _⟩ ⟨_, _, _, _, _, _, _⟩ h
  simp only [CallablePassportAgent.json, Json.obj.injEq, List.cons.injEq, Prod.mk.injEq, Json.str.injEq,
    true_and, and_true, text_injective.eq_iff, texts_injective.eq_iff, modesJson_injective.eq_iff] at h
  obtain ⟨rfl, rfl, rfl, rfl, rfl, rfl, rfl⟩ := h
  rfl

/-- The agents of a payload that shares everything. -/
lemma agents_of_payload : items ((broadcastPayload locale (resourceSharingPolicy true) sources toISOString
    now).field "agents") = (projectAgents locale sources.callableAgents).map CallablePassportAgent.json := rfl

/-- A payload that does not depend on the order of the sources has one reading of each agent. -/
lemma oneReading_of_payload (hvalid : sources.Valid locale)
    (hsame : ∀ reordered, Reordered reordered sources →
      broadcastPayload locale (resourceSharingPolicy true) reordered toISOString now
        = broadcastPayload locale (resourceSharingPolicy true) sources toISOString now) :
    OneReading locale sources.callableAgents := by
  refine oneReading_of_agents_eq hvalid.callables fun callables' hperm => ?_
  have hpayload := hsame { sources with callableAgents := callables' } ⟨rfl, hperm, .refl _⟩
  have hagents := congrArg (fun payload : Json => items (payload.field "agents")) hpayload
  simp only [agents_of_payload] at hagents
  exact List.map_injective_iff.mpr agentJson_injective hagents

lemma callable_enabled : sources.callable locale (resourceSharingPolicy true)
    = ⟨projectAgents locale sources.callableAgents,
      projectCapabilities locale (projectAgents locale sources.callableAgents),
      (projectCapabilities locale (projectAgents locale sources.callableAgents)).map
        (projectBinding (projectAgents locale sources.callableAgents)),
      sharedComputeOffers locale sources⟩ := rfl

/-- The payload does not depend on the order of the sources. -/
lemma broadcastPayload_reordered {reordered : PassportSources} (h : Reordered reordered sources)
    (hvalid : sources.Valid locale) (hone : OneReading locale sources.callableAgents)
    (hapart : ((sharedComputeOffers locale sources).map fun offer => offer.offerId).Nodup) :
    broadcastPayload locale (resourceSharingPolicy true) reordered toISOString now
      = broadcastPayload locale (resourceSharingPolicy true) sources toISOString now := by
  have hagents : projectAgents locale reordered.callableAgents = projectAgents locale sources.callableAgents :=
    (agents_eq_of_perm hvalid.callables h.callableAgents.symm hone).symm
  have hoffers : sharedComputeOffers locale reordered = sharedComputeOffers locale sources := by
    rw [sharedComputeOffers, hagents]
    exact projectComputeOffers_eq_of_perm h.computeOffers
      (fun offer hoffer => (hvalid.offers offer hoffer).offerId) hapart
  have hcallable : reordered.callable locale (resourceSharingPolicy true)
      = sources.callable locale (resourceSharingPolicy true) := by
    rw [callable_enabled, callable_enabled, hoffers, hagents]
  have hknown : reordered.known locale (resourceSharingPolicy true)
      = sources.known locale (resourceSharingPolicy true) := by
    simp only [PassportSources.known, hcallable, h.tools]
  rw [broadcastPayload, hknown, broadcastPayload]

end

/-- **The projection of a passport.** What `broadcastAiStatus` builds of valid inputs within the
limits passes the contract, withholds what the policy withholds, and is the same for every order of
the inputs, exactly when the policy shares nothing, or the offers that an agent can take have
different identifiers and the latest callable agents of each agent are ready at the same text. -/
theorem passport_projection_iff (locale : PassportLocale) (policy : PassportSharingPolicy)
    (sources : PassportSources) (toISOString : Timestamp → String) (now : Timestamp)
    (hpolicy : validatePolicy policy = .ok policy) (hvalid : sources.Valid locale)
    (hlimits : sources.WithinLimits) (hnow : WritesDate locale toISOString now)
    (hexpires : WritesDate locale toISOString (now + AI_STATUS_TTL_MS))
    (hsize : (broadcastPayload locale policy sources toISOString now).encodedSize ≤ MAX_PAYLOAD_BYTES) :
    (validateAiStatusSyncPayload locale.parseDate (broadcastPayload locale policy sources toISOString now)
        = .ok ()
      ∧ Withholds policy (broadcastFields locale policy sources toISOString now)
      ∧ ∀ reordered, Reordered reordered sources →
        broadcastPayload locale policy reordered toISOString now
          = broadcastPayload locale policy sources toISOString now)
    ↔ policy.agents = false ∨ OffersApart sources ∧ OneReading locale sources.callableAgents := by
  have hwithholds := withholds_broadcastFields locale policy sources toISOString now
  have hswitch := validatePolicy_eq_ok hpolicy
  cases hagents : policy.agents with
  | false =>
    rw [hagents] at hswitch
    subst hswitch
    exact ⟨fun _ => .inl rfl, fun _ => ⟨validate_disabled hnow hexpires hsize, hwithholds,
      fun reordered _ => rfl⟩⟩
  | true =>
    rw [hagents] at hswitch
    subst hswitch
    rw [validate_enabled_iff hvalid hlimits hnow hexpires hsize, ← offersApart_iff hvalid]
    constructor
    · rintro ⟨hapart, -, hsame⟩
      exact .inr ⟨hapart, oneReading_of_payload hvalid hsame⟩
    · rintro (hnever | ⟨hapart, hone⟩)
      · exact absurd hnever (by decide)
      · exact ⟨hapart, hwithholds, fun reordered h =>
          broadcastPayload_reordered h hvalid hone ((offersApart_iff hvalid).mp hapart)⟩

/-! ### Examples -/

/-- Slugs in the order of their characters. -/
def plainLocale : PassportLocale where
  parseDate := dateParse
  collation := ⟨fun a b => decide (a ≤ b), fun a b => by simpa using le_total a b,
    fun a b c => by simpa using le_trans⟩
  slugs a b _ _ hab hba := le_antisymm (of_decide_eq_true hab) (of_decide_eq_true hba)

/-- 2026-07-18, one o'clock. -/
def oneOClock : Timestamp := 1784336400000

def clockText (t : Timestamp) : String :=
  if t = oneOClock then "2026-07-18T01:00:00.000Z" else "2026-07-18T01:05:00.000Z"

def codexReadiness : AgentAdapterReadiness where
  schemaVersion := 1
  agentId := "codex"
  adapterId := "codex-cli"
  adapterRevision := 1
  state := .ready
  capabilityIds := ["code-analysis"]
  inputModes := [.image, .text]
  outputModes := [.text]
  checkedAt := JsString.ofString "2026-07-18T00:58:00.000Z"

def runtimeReadiness : AgentAdapterReadiness where
  schemaVersion := 1
  agentId := "osaurus-runtime"
  adapterId := "osaurus-runtime-text"
  adapterRevision := 1
  state := .ready
  capabilityIds := ["general-text-assistance"]
  inputModes := [.text]
  outputModes := [.text]
  checkedAt := JsString.ofString "2026-07-18T00:59:00.000Z"

def textOffer (resourceClass : ResourceClass) : AgentComputeOffer where
  offerId := "receiver-text"
  capability := "general-text-assistance"
  resourceClass := resourceClass
  executionLocation := "receiver_local"
  inputModes := [.text]
  outputModes := [.text]
  concurrency := 1
  approval := "allow_once"

def offerConnector : ResourceClass → OfferConnector
  | .localModel => ⟨.runtimeFacade, .none, ["general-text-assistance"], [.text], [.text], some 1⟩
  | .nativeAgent => ⟨.nativeAgent, .boundedContext, ["general-text-assistance"], [.text], [.text], some 1⟩

def readyAgents : List CallableAgent :=
  [codexReadiness, runtimeReadiness].filterMap (projectCallableAgent dateParse)

/-- A tool, two callable agents, and an offer of each of these resource classes. -/
def sourcesWith (resourceClasses : List ResourceClass) : PassportSources where
  tools := [codexTool "2026-07-18T00:59:00.000Z"]
  callableAgents := readyAgents
  computeOffers := resourceClasses.map textOffer
  distinct := by simp [codexTool, text, Distinct, DistinctFields, DistinctItems]

lemma sourcesWith_valid (resourceClasses : List ResourceClass) :
    (sourcesWith resourceClasses).Valid plainLocale := by
  refine ⟨fun tool htool => ?_, List.nodup_singleton _, fun callable hcallable => ?_, fun offer hoffer => ?_⟩
  · obtain rfl := List.mem_singleton.mp htool
    decide +kernel
  · obtain ⟨readiness, -, hprojected⟩ := List.mem_filterMap.mp hcallable
    exact ⟨readiness, hprojected⟩
  · obtain ⟨resourceClass, -, rfl⟩ := List.mem_map.mp hoffer
    exact ⟨offerConnector resourceClass, by cases resourceClass <;> decide +kernel⟩

lemma sourcesWith_withinLimits {resourceClasses : List ResourceClass} (h : resourceClasses.length ≤ 2) :
    (sourcesWith resourceClasses).WithinLimits := by
  have hagents : (readyAgents.map CallableAgent.agentId).dedup.length ≤ MAX_AGENTS := by decide +kernel
  have hcapabilities : (readyAgents.flatMap CallableAgent.capabilityIds).length ≤ 2 := by decide +kernel
  have hagentIds : ∀ callable ∈ readyAgents, callable.agentId.length ≤ MAX_AGENT_ID_LENGTH := by
    decide +kernel
  have hcapabilityIds : ∀ callable ∈ readyAgents, ∀ id ∈ callable.capabilityIds,
      id.length ≤ MAX_AGENT_ID_LENGTH := by
    decide +kernel
  have hfew : ∀ maximum, 2 ≤ maximum → ∀ callables : List CallableAgent, callables.Sublist readyAgents →
      (callables.flatMap CallableAgent.capabilityIds).dedup.length ≤ maximum := by
    intro maximum hmaximum callables hsublist
    have hdedup := (List.dedup_sublist (callables.flatMap CallableAgent.capabilityIds)).length_le
    have hall := (hsublist.flatMap CallableAgent.capabilityIds).length_le
    omega
  refine ⟨Nat.le_add_left 1 7, hagents, hfew _ (by decide) _ (.refl _),
    fun id => hfew _ (by decide) _ List.filter_sublist, hagentIds, hcapabilityIds, ?_⟩
  rw [sourcesWith, List.length_map]
  exact h.trans (by decide)

lemma readyAgents_oneReading : OneReading plainLocale readyAgents := by
  have hids : (readyAgents.map CallableAgent.agentId).Nodup := by decide +kernel
  intro a ha b hb hid _ _
  rw [List.inj_on_of_nodup_map hids ha hb hid]

theorem passport_projection_iff_shared :
    validateAiStatusSyncPayload dateParse (broadcastPayload plainLocale (resourceSharingPolicy true)
        (sourcesWith [.localModel]) clockText oneOClock) = .ok ()
      ∧ Withholds (resourceSharingPolicy true) (broadcastFields plainLocale (resourceSharingPolicy true)
        (sourcesWith [.localModel]) clockText oneOClock)
      ∧ ∀ reordered, Reordered reordered (sourcesWith [.localModel]) →
        broadcastPayload plainLocale (resourceSharingPolicy true) reordered clockText oneOClock
          = broadcastPayload plainLocale (resourceSharingPolicy true) (sourcesWith [.localModel]) clockText
            oneOClock :=
  (passport_projection_iff plainLocale (resourceSharingPolicy true) (sourcesWith [.localModel]) clockText
    oneOClock rfl (sourcesWith_valid _) (sourcesWith_withinLimits (by decide))
    ⟨by decide +kernel, by decide +kernel⟩ ⟨by decide +kernel, by decide +kernel⟩ (by decide +kernel)).mpr
    (.inr ⟨fun _ => List.nodup_singleton _, readyAgents_oneReading⟩)

/-- Two connectors offer under one identifier. -/
theorem twin_offers_refused :
    (sourcesWith [.localModel, .nativeAgent]).Valid plainLocale
      ∧ (sourcesWith [.localModel, .nativeAgent]).WithinLimits
      ∧ (broadcastPayload plainLocale (resourceSharingPolicy true) (sourcesWith [.localModel, .nativeAgent])
        clockText oneOClock).encodedSize ≤ MAX_PAYLOAD_BYTES
      ∧ validateAiStatusSyncPayload dateParse (broadcastPayload plainLocale (resourceSharingPolicy true)
        (sourcesWith [.localModel, .nativeAgent]) clockText oneOClock)
          = .error "Compute Offer references are invalid." :=
  ⟨sourcesWith_valid _, sourcesWith_withinLimits (by decide), by decide +kernel, by decide +kernel⟩

end TetiBot.Passport

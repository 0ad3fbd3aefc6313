import TetiBot.Passport.Projection

/-
What the parts of a projected passport refer to.

* `offering`: the agents that offer a capability; `get?_capabilityAgentIds`: what the loops over
  the agents collect.
* `mem_capabilityIds`: the capabilities of a passport are those that one of its agents offers.
* `mem_binding`: the binding of a capability names exactly the agents that offer it.
* `offeringAgent_spec`: an offer is projected for an agent that can take it.
-/

namespace TetiBot.Passport

open Library

/-! ### Capabilities -/

def offering (agents : List CallablePassportAgent) (capabilityId : String) : List String :=
  (agents.filter fun agent => agent.capabilityIds.contains capabilityId).map CallablePassportAgent.id

section

variable {agents : List CallablePassportAgent} {capabilityId agentId : String}

lemma mem_offering : agentId ∈ offering agents capabilityId
    ↔ ∃ agent ∈ agents, capabilityId ∈ agent.capabilityIds ∧ agent.id = agentId := by
  simp [offering, and_assoc]

lemma get?_recordCapabilities {ids : List String} (hnodup : ids.Nodup)
    (agentIds : OrderedMap String (List String)) :
    (ids.foldl (recordCapability agentId) agentIds).get? capabilityId
      = if capabilityId ∈ ids then some ((agentIds.get? capabilityId).getD [] ++ [agentId])
        else agentIds.get? capabilityId := by
  induction ids generalizing agentIds with
  | nil => simp
  | cons id ids ih =>
    obtain ⟨hfresh, hnodup⟩ := List.nodup_cons.mp hnodup
    rw [List.foldl_cons, ih hnodup, recordCapability, OrderedMap.get?_set]
    by_cases hid : capabilityId = id
    · subst hid
      simp [hfresh]
    · simp [hid]

/-- **What the loops over the agents collect.** -/
lemma get?_capabilityAgentIds (h : ∀ agent ∈ agents, agent.capabilityIds.Nodup) :
    (capabilityAgentIds agents).get? capabilityId
      = if offering agents capabilityId = [] then none else some (offering agents capabilityId) := by
  induction agents using List.reverseRecOn with
  | nil => rfl
  | append_singleton agents agent ih =>
    have hbefore := ih fun other hother => h other (List.mem_append_left _ hother)
    have hstep : capabilityAgentIds (agents ++ [agent])
        = agent.capabilityIds.foldl (recordCapability agent.id) (capabilityAgentIds agents) := by
      rw [capabilityAgentIds, capabilityAgentIds, List.foldl_append, List.foldl_cons, List.foldl_nil]
    have hoffering : offering (agents ++ [agent]) capabilityId = offering agents capabilityId
        ++ if capabilityId ∈ agent.capabilityIds then [agent.id] else [] := by
      by_cases hmem : capabilityId ∈ agent.capabilityIds
      · simp [offering, hmem]
      · simp [offering, hmem]
    rw [hstep, get?_recordCapabilities (h agent (by simp)), hbefore, hoffering]
    by_cases hmem : capabilityId ∈ agent.capabilityIds
    · by_cases hnil : offering agents capabilityId = []
      · simp [hmem, hnil]
      · simp [hmem, hnil]
    · simp [hmem]

lemma mem_entries (h : ∀ agent ∈ agents, agent.capabilityIds.Nodup) {agentIds : List String} :
    (capabilityId, agentIds) ∈ (capabilityAgentIds agents).entries
      ↔ agentIds = offering agents capabilityId ∧ agentIds ≠ [] := by
  rw [← OrderedMap.get?_eq_some, get?_capabilityAgentIds h]
  split_ifs with hnil
  · refine ⟨fun hnone => absurd hnone (by simp), ?_⟩
    rintro ⟨rfl, hne⟩
    exact absurd hnil hne
  · refine ⟨fun hsome => ?_, ?_⟩
    · obtain rfl := Option.some.inj hsome
      exact ⟨rfl, hnil⟩
    · rintro ⟨rfl, -⟩
      rfl

lemma mem_insertionSort_texts {texts : List JsString} {t : JsString} :
    t ∈ (texts.insertionSort fun left right => unitsBefore left right = true) ↔ t ∈ texts :=
  (List.perm_insertionSort _ texts).mem_iff

lemma lastText_mem {texts : List JsString} (hne : texts ≠ []) : lastText texts ∈ texts := by
  obtain ⟨t, ht⟩ := List.exists_mem_of_ne_nil texts hne
  have hsorted : (texts.insertionSort fun left right => unitsBefore left right = true) ≠ [] :=
    List.ne_nil_of_mem (mem_insertionSort_texts.mpr ht)
  rw [lastText, List.getLast?_eq_some_getLast hsorted, Option.getD_some]
  exact mem_insertionSort_texts.mp (List.getLast_mem hsorted)

variable {locale : PassportLocale} {capability : TetiCapability}

lemma mem_projectCapabilities (h : ∀ agent ∈ agents, agent.capabilityIds.Nodup) :
    capability ∈ projectCapabilities locale agents ↔ offering agents capability.id ≠ []
      ∧ capability = projectCapability capability.id (lastText ((agents.filter fun agent =>
        (offering agents capability.id).contains agent.id).map CallablePassportAgent.observedAt)) := by
  rw [projectCapabilities, Collation.mem_sortBy, List.mem_map]
  constructor
  · rintro ⟨⟨capabilityId, agentIds⟩, hentry, rfl⟩
    obtain ⟨rfl, hne⟩ := (mem_entries h).mp hentry
    exact ⟨hne, rfl⟩
  · rintro ⟨hne, hcapability⟩
    exact ⟨(capability.id, offering agents capability.id), (mem_entries h).mpr ⟨rfl, hne⟩, hcapability.symm⟩

/-- **The capabilities of a passport are those that its agents offer.** -/
lemma mem_capabilityIds (h : ∀ agent ∈ agents, agent.capabilityIds.Nodup) :
    capabilityId ∈ (projectCapabilities locale agents).map TetiCapability.id
      ↔ ∃ agent ∈ agents, capabilityId ∈ agent.capabilityIds := by
  have hoffered : offering agents capabilityId ≠ [] ↔ ∃ agent ∈ agents, capabilityId ∈ agent.capabilityIds := by
    simp [offering]
  rw [← hoffered, List.mem_map]
  constructor
  · rintro ⟨capability, hmem, rfl⟩
    exact ((mem_projectCapabilities h).mp hmem).1
  · intro hne
    refine ⟨projectCapability capabilityId (lastText ((agents.filter fun agent =>
      (offering agents capabilityId).contains agent.id).map CallablePassportAgent.observedAt)), ?_, rfl⟩
    exact (mem_projectCapabilities h).mpr ⟨hne, rfl⟩

lemma nodup_capabilityIds : ((projectCapabilities locale agents).map TetiCapability.id).Nodup := by
  refine ((locale.collation.perm_sortBy _ _).map _).nodup_iff.mpr ?_
  rw [List.map_map]
  exact (capabilityAgentIds agents).nodup

section

variable (h : ∀ agent ∈ agents, agent.capabilityIds.Nodup)
include h

/-- A capability was observed with one of the agents. -/
lemma capability_observed (hmem : capability ∈ projectCapabilities locale agents) :
    ∃ agent ∈ agents, agent.observedAt = capability.observedAt := by
  obtain ⟨hne, hcapability⟩ := (mem_projectCapabilities h).mp hmem
  obtain ⟨agentId, hagentId⟩ := List.exists_mem_of_ne_nil _ hne
  obtain ⟨agent, hagent, -, hid⟩ := mem_offering.mp hagentId
  have htexts : ((agents.filter fun agent => (offering agents capability.id).contains agent.id).map
      CallablePassportAgent.observedAt) ≠ [] := by
    refine List.ne_nil_of_mem (List.mem_map_of_mem (List.mem_filter.mpr ⟨hagent, ?_⟩))
    rw [hid, List.contains_iff_mem]
    exact hagentId
  obtain ⟨latest, hlatest, htext⟩ := List.mem_map.mp (lastText_mem htexts)
  exact ⟨latest, List.mem_of_mem_filter hlatest, htext.trans (congrArg TetiCapability.observedAt hcapability).symm⟩

/-! ### Bindings -/

/-- **A binding names the agents that offer its capability.** -/
lemma mem_binding : agentId ∈ (projectBinding agents capability).agentIds
      ↔ ∃ agent ∈ agents, capability.id ∈ agent.capabilityIds ∧ agent.id = agentId := by
  rw [← mem_offering, projectBinding, List.mem_insertionSort, get?_capabilityAgentIds h]
  split_ifs with hnil
  · simp [hnil]
  · rfl

lemma binding_nodup (hids : (agents.map CallablePassportAgent.id).Nodup) :
    (projectBinding agents capability).agentIds.Nodup := by
  rw [projectBinding, (List.perm_insertionSort _ _).nodup_iff, get?_capabilityAgentIds h]
  split_ifs with hnil
  · exact List.nodup_nil
  · exact hids.sublist (List.filter_sublist.map _)

end

/-! ### Offers -/

variable {offer : AgentComputeOffer} {agent : CallablePassportAgent}

/-- An offer is projected for an agent that has its capability and its modes. -/
lemma offeringAgent_spec (h : offeringAgent locale agents offer = some agent) :
    agent ∈ agents ∧ offer.capability ∈ agent.capabilityIds
      ∧ (∀ mode ∈ offer.inputModes, mode ∈ agent.inputModes)
      ∧ ∀ mode ∈ offer.outputModes, mode ∈ agent.outputModes := by
  have hmem := List.mem_of_mem_head? h
  rw [(List.perm_insertionSort _ _).mem_iff, List.mem_filter] at hmem
  simpa [and_assoc] using hmem

lemma offeringAgent_isSome_iff : (offeringAgent locale agents offer).isSome = true
    ↔ ∃ agent ∈ agents, offer.capability ∈ agent.capabilityIds
      ∧ (∀ mode ∈ offer.inputModes, mode ∈ agent.inputModes)
      ∧ ∀ mode ∈ offer.outputModes, mode ∈ agent.outputModes := by
  constructor
  · intro h
    obtain ⟨agent, hagent⟩ := Option.isSome_iff_exists.mp h
    obtain ⟨hmem, hspec⟩ := offeringAgent_spec hagent
    exact ⟨agent, hmem, hspec⟩
  · rintro ⟨agent, hmem, hspec⟩
    rw [offeringAgent, List.isSome_head?]
    refine List.ne_nil_of_mem (a := agent) ((List.perm_insertionSort _ _).mem_iff.mpr ?_)
    exact List.mem_filter.mpr ⟨hmem, by simpa [and_assoc] using hspec⟩

end

end TetiBot.Passport

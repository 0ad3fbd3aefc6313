import TetiBot.Relationships.Types
import TetiBot.Library.JsonData

/-
The file of the agent detectors (`runtime/agents/config.ts`).

* `AgentConfigFile`: the file, as far as it can be read.
* `readConfigRootForMutation`, `setPathOverride`: the root that a mutation reads, and the
  file it writes.
* `overrideOf`: the path that the file gives for an agent.
* `overrideOf_setPathOverride`: a mutation sets the path of its agent, and no other.
-/

namespace TetiBot

open Library

/-! ### Reading -/

/-- The file: there is none, it cannot be read as JSON, or the value in it. -/
inductive AgentConfigFile
  | absent
  | unreadable
  | value (root : Json)

/-- The codes of `AgentDetectorConfigurationError`. -/
inductive AgentConfigError
  | unknownAgent | pathInvalid | writeBlocked
  deriving DecidableEq

def maxAgentConfigEntries : Nat := 64

/-- `optionalBoolean`; its `null` is `none`. -/
def optionalBoolean (value : Option Json) (fallback : Bool) : Option Bool :=
  match value with
  | none => some fallback
  | some (.bool b) => some b
  | some _ => none

variable (fields : List (String × Json))

/-- `exactKeys`: every key is allowed. -/
def exactConfigKeys (allowed : List String) : Bool :=
  fields.all fun field => allowed.contains field.1

/-- `record(entry)?.id`, where it is a string. -/
def entryId (entry : Json) : Option JsString :=
  match (recordFields? entry).bind fun fields => Json.lookup fields "id" with
  | some (.str id) => some id
  | _ => none

/-- The root of the file, and its entries. -/
structure AgentConfigRoot where
  fields : List (String × Json)
  agents : List Json

/-- The fields `agents` of a root, which may be left out. -/
def rootAgents : Option (List Json) :=
  match Json.lookup fields "agents" with
  | none => some []
  | some (.arr agents) => some agents
  | some _ => none

def isSchemaVersionOne : Bool :=
  match Json.lookup fields "schemaVersion" with
  | some (.num 1) => true
  | _ => false

def readConfigRootForMutation : AgentConfigFile → Except AgentConfigError AgentConfigRoot
  | .absent => .ok ⟨[("schemaVersion", .num 1), ("agents", .arr [])], []⟩
  | .unreadable => .error .writeBlocked
  | .value root => match recordFields? root with
    | none => .error .writeBlocked
    | some fields => match rootAgents fields with
      | none => .error .writeBlocked
      | some agents =>
        if exactConfigKeys fields ["schemaVersion", "discoveryEnabled", "customDetectorsEnabled", "agents"]
            && isSchemaVersionOne fields
            && (optionalBoolean (Json.lookup fields "discoveryEnabled") true).isSome
            && (optionalBoolean (Json.lookup fields "customDetectorsEnabled") true).isSome
            && agents.length ≤ maxAgentConfigEntries
            && (agents.map entryId).all (·.isSome) && decide (agents.map entryId).Nodup then
          .ok ⟨fields, agents⟩
        else .error .writeBlocked

/-! ### Writing -/

variable (agents : List Json) (agentId : JsString)

/-- The entry of an agent that is there already. -/
def existingEntry : Option (List (String × Json)) :=
  (agents.find? fun entry => entryId entry = some agentId).bind recordFields?

/-- `existing?.enabled`, as `existing?.enabled ?? true` reads it. -/
def enabledOf (existing : Option (List (String × Json))) : Json :=
  ((existing.bind fun fields => Json.lookup fields "enabled").getD (.bool true))

/-- `existing?.enabled === false`. -/
def isDisabled (existing : Option (List (String × Json))) : Bool :=
  match existing.bind fun fields => Json.lookup fields "enabled" with
  | some (.bool false) => true
  | _ => false

/-- The first entry of an agent is replaced. -/
def replaceEntry (next : Json) : List Json :=
  agents.replaceF fun entry => if entryId entry = some agentId then some next else none

/-- The entries with the path of an agent set, or taken away. -/
def overrideEntries (path : Option JsString) : List Json :=
  let existing := existingEntry agents agentId
  match path with
  | some path =>
    let next := Json.obj [("id", .str agentId), ("enabled", enabledOf existing), ("pathOverride", .str path)]
    if agents.any fun entry => entryId entry = some agentId then replaceEntry agents agentId next
    else agents ++ [next]
  | none =>
    if isDisabled existing then
      replaceEntry agents agentId (.obj [("id", .str agentId), ("enabled", .bool false)])
    else agents.eraseP fun entry => entryId entry = some agentId

/-- `setPathOverride`, from the root that was read to the file that is written. -/
def setPathOverride (root : AgentConfigRoot) (agentId : JsString) (path : Option JsString) :
    Except AgentConfigError AgentConfigFile :=
  if (existingEntry root.agents agentId).any fun existing =>
      !exactConfigKeys existing ["id", "enabled", "pathOverride"]
        || (optionalBoolean (Json.lookup existing "enabled") true).isNone then .error .writeBlocked
  else
    let agents := overrideEntries root.agents agentId path
    if maxAgentConfigEntries < agents.length then .error .writeBlocked
    else .ok (.value (.obj (Json.setField root.fields ("agents", .arr agents))))

/-! ### The paths of the file -/

/-- The path that an entry gives. -/
def entryPath (entry : Json) : Option JsString :=
  match (recordFields? entry).bind fun fields => Json.lookup fields "pathOverride" with
  | some (.str path) => some path
  | _ => none

def pathIn : Option JsString :=
  (agents.find? fun entry => entryId entry = some agentId).bind entryPath

/-- The path that the file gives for an agent. -/
def overrideOf (file : AgentConfigFile) (agentId : JsString) : Option JsString :=
  match file with
  | .value root => match (recordFields? root).bind rootAgents with
    | some agents => pathIn agents agentId
    | none => none
  | .absent | .unreadable => none

variable {agents : List Json} {agentId other : JsString} {path : Option JsString} {next : Json}

lemma pathIn_cons (entry : Json) (agents : List Json) (id : JsString) :
    pathIn (entry :: agents) id = if entryId entry = some id then entryPath entry else pathIn agents id := by
  rw [pathIn, List.find?_cons]
  by_cases h : entryId entry = some id <;> simp [h, pathIn]

lemma pathIn_of_absent (h : ∀ entry ∈ agents, entryId entry ≠ some agentId) : pathIn agents agentId = none := by
  rw [pathIn, Option.bind_eq_none_iff]
  intro entry hfound
  exact absurd (by simpa using List.find?_some hfound) (h entry (List.mem_of_find?_eq_some hfound))

/-- An entry that takes the place of the agent's. -/
lemma pathIn_replaceEntry (hnext : entryId next = some agentId)
    (hknown : ∃ entry ∈ agents, entryId entry = some agentId) (id : JsString) :
    pathIn (replaceEntry agents agentId next) id = if id = agentId then entryPath next else pathIn agents id := by
  induction agents with
  | nil => simp at hknown
  | cons entry agents ih =>
    rw [replaceEntry, List.replaceF]
    by_cases hentry : entryId entry = some agentId
    · rw [if_pos hentry]
      dsimp only
      rw [pathIn_cons, pathIn_cons, hnext, hentry]
      by_cases hid : id = agentId
      · simp [hid]
      · simp [hid, Ne.symm hid]
    · rw [if_neg hentry]
      dsimp only
      have hrest : ∃ entry ∈ agents, entryId entry = some agentId := by
        obtain ⟨found, hmem, hfound⟩ := hknown
        rcases List.mem_cons.mp hmem with rfl | hmem
        · exact absurd hfound hentry
        · exact ⟨found, hmem, hfound⟩
      have hreplaced := ih hrest
      rw [replaceEntry] at hreplaced
      rw [pathIn_cons, pathIn_cons, hreplaced]
      by_cases hid : id = agentId
      · subst hid
        simp [hentry]
      · simp [hid]

lemma pathIn_eraseP (hnodup : (agents.map entryId).Nodup) (id : JsString) :
    pathIn (agents.eraseP fun entry => entryId entry = some agentId) id
      = if id = agentId then none else pathIn agents id := by
  induction agents with
  | nil => simp [pathIn]
  | cons entry agents ih =>
    obtain ⟨hnew, hnodup⟩ := List.nodup_cons.mp hnodup
    by_cases hentry : entryId entry = some agentId
    · rw [List.eraseP_cons_of_pos (by simpa using hentry), pathIn_cons]
      by_cases hid : id = agentId
      · subst hid
        rw [if_pos rfl]
        refine pathIn_of_absent fun found hfound hsame => hnew ?_
        exact List.mem_map.mpr ⟨found, hfound, hsame.trans hentry.symm⟩
      · rw [if_neg hid, hentry, if_neg (by simpa using Ne.symm hid)]
    · rw [List.eraseP_cons_of_neg (by simpa using hentry), pathIn_cons, pathIn_cons, ih hnodup]
      by_cases hid : id = agentId
      · subst hid
        simp [hentry]
      · simp [hid]

/-- **The entries after a mutation** give the path of its agent, and the paths they gave. -/
lemma pathIn_overrideEntries (hnodup : (agents.map entryId).Nodup) (id : JsString) :
    pathIn (overrideEntries agents agentId path) id = if id = agentId then path else pathIn agents id := by
  cases path with
  | none =>
    simp only [overrideEntries]
    by_cases hdisabled : isDisabled (existingEntry agents agentId) = true
    · have hknown : ∃ entry ∈ agents, entryId entry = some agentId := by
        cases hfound : agents.find? fun entry => entryId entry = some agentId with
        | none => simp [existingEntry, isDisabled, hfound] at hdisabled
        | some entry =>
          exact ⟨entry, List.mem_of_find?_eq_some hfound, by simpa using List.find?_some hfound⟩
      rw [if_pos hdisabled]
      have hnext : entryId (.obj [("id", .str agentId), ("enabled", .bool false)]) = some agentId := rfl
      exact pathIn_replaceEntry hnext hknown id
    · rw [if_neg hdisabled]
      exact pathIn_eraseP hnodup id
  | some path =>
    set next : Json := .obj [("id", .str agentId), ("enabled", enabledOf (existingEntry agents agentId)),
      ("pathOverride", .str path)] with hnext
    have hid : entryId next = some agentId := rfl
    have hpath : entryPath next = some path := rfl
    simp only [overrideEntries]
    by_cases hknown : (agents.any fun entry => entryId entry = some agentId) = true
    · rw [if_pos hknown, ← hpath]
      exact pathIn_replaceEntry hid (by simpa [List.any_eq_true] using hknown) id
    · have habsent : ∀ entry ∈ agents, entryId entry ≠ some agentId := by
        simpa [List.any_eq_true] using hknown
      rw [if_neg hknown, pathIn, List.find?_append]
      by_cases heq : id = agentId
      · subst heq
        have hnone : (agents.find? fun entry => entryId entry = some id) = none := by
          rw [List.find?_eq_none]
          simpa using habsent
        rw [hnone, if_pos rfl, Option.none_or, ← hnext, List.find?_cons, hid]
        simpa using hpath
      · rw [if_neg heq, pathIn, ← hnext, List.find?_cons, hid]
        simp [Ne.symm heq]

/-- The entries of a root are those of the file, with different identifiers. -/
lemma readConfigRootForMutation_ok {file : AgentConfigFile} {root : AgentConfigRoot}
    (h : readConfigRootForMutation file = .ok root) :
    (root.agents.map entryId).Nodup ∧ ∀ id, pathIn root.agents id = overrideOf file id := by
  cases file with
  | absent =>
    obtain rfl := Except.ok.inj h
    exact ⟨List.nodup_nil, fun _ => rfl⟩
  | unreadable => cases h
  | value v =>
    rw [readConfigRootForMutation] at h
    split at h
    · cases h
    · rename_i fields hfields
      split at h
      · cases h
      · rename_i agents hagents
        split_ifs at h with hvalid
        obtain rfl := Except.ok.inj h
        refine ⟨by simpa using (Bool.and_eq_true_iff.mp hvalid).2, fun id => ?_⟩
        rw [overrideOf, hfields, Option.bind_some, hagents]

/-- **A mutation sets the path of its agent, and no other.** -/
theorem overrideOf_setPathOverride {file written : AgentConfigFile} {root : AgentConfigRoot}
    (hread : readConfigRootForMutation file = .ok root)
    (hset : setPathOverride root agentId path = .ok written) (id : JsString) :
    overrideOf written id = if id = agentId then path else overrideOf file id := by
  obtain ⟨hnodup, hfile⟩ := readConfigRootForMutation_ok hread
  simp only [setPathOverride] at hset
  split_ifs at hset
  obtain rfl := Except.ok.inj hset
  rw [← hfile, ← pathIn_overrideEntries hnodup, overrideOf]
  simp only [recordFields?, Option.bind_some, rootAgents, Json.lookup_setField]

end TetiBot

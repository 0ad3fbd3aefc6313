import TetiBot.Callable.Authority
import TetiBot.Library.Json

/-
The checks that an object has exactly the expected fields
(`core/task/transport-validation.ts`, `core/task/validation.ts`,
`core/callability/agent-core.ts`).

* `checkFields`: what the five helpers share;
* `HasExactKeys`: the fields that are expected;
* `Overlooked`: an object that has others, which the searches do not report;
* `exact_records_iff`: when a helper says so of an object.

A search returns the name it has found, and a name that is empty counts as none.
The helpers of the tasks ask `key in record`, which also finds the names that
every object inherits.
-/

namespace TetiBot

open Library Library.Json

/-! ### The helpers -/

/-- What every object inherits from `Object.prototype`. -/
def OBJECT_PROTOTYPE_KEYS : List String :=
  ["constructor", "__defineGetter__", "__defineSetter__", "hasOwnProperty", "__lookupGetter__",
    "__lookupSetter__", "isPrototypeOf", "propertyIsEnumerable", "toString", "valueOf", "__proto__",
    "toLocaleString"]

variable (fields : List (String × Json))

/-- `Object.keys(record)`. -/
def objectKeys : List String := fields.map Prod.fst

/-- `Object.keys(record).includes(key)`. -/
def hasOwnKey (key : String) : Bool := (objectKeys fields).contains key

/-- `key in record`. -/
def hasKey (key : String) : Bool :=
  hasOwnKey fields key || OBJECT_PROTOTYPE_KEYS.contains key

/-- The first key that is not allowed. -/
def extraKey (allowed : List String) : Option String :=
  (objectKeys fields).find? fun key => !allowed.contains key

variable (found : String → Bool)

/-- The first required key that is not found. -/
def missingKey (required : List String) : Option String :=
  required.find? fun key => !found key

/-- `if (key)`. -/
def isTruthy (key : Option String) : Bool := key.any fun key => key != ""

/-- What the helpers share: how a required key is looked for, the keys, and the
two errors. -/
def checkFields (fields : List (String × Json))
    (required allowed : List String) (unsupported missing : TaskError) : Except TaskError Unit := do
  failIf (isTruthy (extraKey fields allowed)) unsupported
  failIf (isTruthy (missingKey found required)) missing

namespace TransportValidation

def exactOptionalRecord (value : Json) (required optional : List String) (label : String) :
    Except TaskError (List (String × Json)) :=
  match value with
  | .obj fields => do
    checkFields (hasKey fields) fields required (required ++ optional)
      (plainError s!"{label} contains an unsupported field.")
      (plainError s!"{label} is missing a required field.")
    return fields
  | _ => .error (plainError s!"{label} must be an object.")

def exactRecord (value : Json) (keys : List String) (label : String) :
    Except TaskError (List (String × Json)) :=
  match value with
  | .obj fields => do
    checkFields (hasKey fields) fields keys keys
      (plainError s!"{label} contains an unsupported field.")
      (plainError s!"{label} is missing a required field.")
    return fields
  | _ => .error (plainError s!"{label} must be an object.")

end TransportValidation

namespace TaskValidation

def exactRecord (value : Json) (keys : List String) (label : String) :
    Except TaskError (List (String × Json)) :=
  match value with
  | .obj fields => do
    checkFields (hasKey fields) fields keys keys
      (contractError s!"{label} contains an unsupported field.")
      (contractError s!"{label} is missing a required field.")
    return fields
  | _ => .error (contractError s!"{label} must be an object.")

end TaskValidation

namespace AgentCore

def fieldsError (label : String) : TaskError :=
  agentCoreError "AGENT_CORE_FIELDS" s!"{label} fields are invalid."

def exactKeys (fields : List (String × Json)) (allowed : List String) (label : String)
    (optionalLast : Bool) : Except TaskError Unit :=
  checkFields (hasOwnKey fields) fields (if optionalLast then allowed.dropLast else allowed) allowed
    (fieldsError label) (fieldsError label)

def exactKeysWithOptional (fields : List (String × Json)) (required optional : List String)
    (label : String) : Except TaskError Unit :=
  checkFields (hasOwnKey fields) fields required (required ++ optional) (fieldsError label)
    (fieldsError label)

end AgentCore

/-! ### The expected fields -/

/-- Every required key is there, and every key that is there is required or
optional. -/
def HasExactKeys (required optional : List String) : Prop :=
  (∀ key ∈ required, key ∈ objectKeys fields)
    ∧ ∀ key ∈ objectKeys fields, key ∈ required ∨ key ∈ optional

instance (fields : List (String × Json)) (required optional : List String) :
    Decidable (HasExactKeys fields required optional) :=
  inferInstanceAs (Decidable (_ ∧ _))

/-- Something is wrong with the keys and neither search reports it: each of
them finds no key or the empty one first, and one of them does find the empty
one, or a required key is only inherited. -/
def Overlooked (fields : List (String × Json)) (required allowed : List String) : Prop :=
  isTruthy (extraKey fields allowed) = false ∧ isTruthy (missingKey found required) = false
    ∧ (extraKey fields allowed = some "" ∨ missingKey found required = some ""
      ∨ ∃ key ∈ required, found key = true ∧ hasOwnKey fields key = false)

lemma isTruthy_eq_false {key : Option String} : isTruthy key = false ↔ key = none ∨ key = some "" := by
  cases key with
  | none => simp [isTruthy]
  | some key => simp [isTruthy]

variable {fields : List (String × Json)}

lemma checkFields_eq_ok {found : String → Bool} {required allowed : List String}
    {unsupported missing : TaskError} :
    checkFields found fields required allowed unsupported missing = .ok ()
      ↔ isTruthy (extraKey fields allowed) = false ∧ isTruthy (missingKey found required) = false := by
  rw [checkFields, failIf_then_eq_ok, failIf_eq_ok, Bool.not_eq_true, Bool.not_eq_true]

/-- The keys are the expected ones exactly if no search has anything to find. -/
lemma hasExactKeys_iff {found : String → Bool} {required optional allowed : List String}
    (hfound : ∀ key, hasOwnKey fields key = true → found key = true)
    (hallowed : ∀ key, key ∈ allowed ↔ key ∈ required ∨ key ∈ optional) :
    HasExactKeys fields required optional
      ↔ extraKey fields allowed = none ∧ missingKey found required = none
        ∧ ∀ key ∈ required, found key = true → hasOwnKey fields key = true := by
  have hextra : extraKey fields allowed = none
      ↔ ∀ key ∈ objectKeys fields, key ∈ required ∨ key ∈ optional := by
    rw [extraKey, List.find?_eq_none]
    simp [hallowed, or_iff_not_imp_left]
  have hmissing : missingKey found required = none ↔ ∀ key ∈ required, found key = true := by
    rw [missingKey, List.find?_eq_none]
    simp
  have hown : ∀ key, hasOwnKey fields key = true ↔ key ∈ objectKeys fields := by
    simp [hasOwnKey]
  rw [HasExactKeys, hextra, hmissing]
  constructor
  · rintro ⟨hrequired, hlisted⟩
    exact ⟨hlisted, fun key hkey => hfound key ((hown key).mpr (hrequired key hkey)),
      fun key hkey _ => (hown key).mpr (hrequired key hkey)⟩
  · rintro ⟨hlisted, hpresent, hnone⟩
    exact ⟨fun key hkey => (hown key).mp (hnone key hkey (hpresent key hkey)), hlisted⟩

/-- **One helper**: it accepts exactly the objects with the expected keys, if it
overlooks nothing. -/
lemma checkFields_exact_iff {found : String → Bool} {required optional allowed : List String}
    {unsupported missing : TaskError}
    (hfound : ∀ key, hasOwnKey fields key = true → found key = true)
    (hallowed : ∀ key, key ∈ allowed ↔ key ∈ required ∨ key ∈ optional) :
    (checkFields found fields required allowed unsupported missing = .ok ()
        ↔ HasExactKeys fields required optional)
      ↔ ¬Overlooked found fields required allowed := by
  rw [checkFields_eq_ok, hasExactKeys_iff hfound hallowed, Overlooked]
  constructor
  · rintro hexact ⟨hextra, hmissing, hwrong⟩
    obtain ⟨hnoextra, hnomissing, hnone⟩ := hexact.mp ⟨hextra, hmissing⟩
    rcases hwrong with h | h | ⟨key, hkey, hin, hown⟩
    · rw [hnoextra] at h
      cases h
    · rw [hnomissing] at h
      cases h
    · rw [hnone key hkey hin] at hown
      cases hown
  · intro hnot
    constructor
    · rintro ⟨hextra, hmissing⟩
      have hnowrong := fun hwrong => hnot ⟨hextra, hmissing, hwrong⟩
      simp only [not_or, imp_false] at hnowrong
      obtain ⟨h1, h2, h3⟩ := hnowrong
      refine ⟨(isTruthy_eq_false.mp hextra).resolve_right h1,
        (isTruthy_eq_false.mp hmissing).resolve_right h2, fun key hkey hin => ?_⟩
      by_contra hown
      exact h3 ⟨key, hkey, hin, by simpa using hown⟩
    · rintro ⟨hextra, hmissing, -⟩
      exact ⟨by rw [hextra]; rfl, by rw [hmissing]; rfl⟩

/-! ### All helpers -/

lemma hasKey_of_own : ∀ key, hasOwnKey fields key = true → hasKey fields key = true := by
  intro key hown
  rw [hasKey, hown, Bool.true_or]

/-- A record is returned if the check passes. -/
lemma exists_record_iff {check : Except TaskError Unit} :
    (∃ record, (check >>= fun _ => (return fields : Except TaskError (List (String × Json))))
      = .ok record) ↔ check = .ok () := by
  cases check with
  | error error => simp [bind, Except.bind]
  | ok _ => simp [bind, Except.bind, pure, Except.pure]

lemma mem_dropLast_or {α : Type} (keys : List α) (key : α) :
    key ∈ keys ↔ key ∈ keys.dropLast ∨ key ∈ keys.getLast?.toList := by
  rcases List.eq_nil_or_concat keys with rfl | ⟨before, last, rfl⟩
  · simp
  · simp

/-- **The helpers and their key sets.**  For each of them and all lists of keys:
that the object is accepted if and only if every required key is there and
every key that is there is in the union of the two lists, holds exactly if the
helper overlooks nothing: it overlooks an object if no search finds a key that
is not empty, and a key that is not listed, or is missing, is the empty one, or
a missing key is inherited and the helper asks `key in record`. -/
theorem exact_records_iff (fields : List (String × Json)) (required optional : List String)
    (label : String) :
    (((∃ record, TransportValidation.exactOptionalRecord (.obj fields) required optional label
            = .ok record) ↔ HasExactKeys fields required optional)
        ↔ ¬Overlooked (hasKey fields) fields required (required ++ optional))
      ∧ (((∃ record, TransportValidation.exactRecord (.obj fields) required label = .ok record)
            ↔ HasExactKeys fields required [])
          ↔ ¬Overlooked (hasKey fields) fields required required)
      ∧ (((∃ record, TaskValidation.exactRecord (.obj fields) required label = .ok record)
            ↔ HasExactKeys fields required [])
          ↔ ¬Overlooked (hasKey fields) fields required required)
      ∧ ((AgentCore.exactKeys fields required label false = .ok ()
            ↔ HasExactKeys fields required [])
          ↔ ¬Overlooked (hasOwnKey fields) fields required required)
      ∧ ((AgentCore.exactKeys fields required label true = .ok ()
            ↔ HasExactKeys fields required.dropLast required.getLast?.toList)
          ↔ ¬Overlooked (hasOwnKey fields) fields required.dropLast required)
      ∧ ((AgentCore.exactKeysWithOptional fields required optional label = .ok ()
            ↔ HasExactKeys fields required optional)
          ↔ ¬Overlooked (hasOwnKey fields) fields required (required ++ optional)) := by
  have hunion : ∀ key, key ∈ required ++ optional ↔ key ∈ required ∨ key ∈ optional :=
    fun _ => List.mem_append
  have halone : ∀ key, key ∈ required ↔ key ∈ required ∨ key ∈ ([] : List String) := by simp
  have hown : ∀ key, hasOwnKey fields key = true → hasOwnKey fields key = true := fun _ h => h
  refine ⟨?_, ?_, ?_, ?_, ?_, ?_⟩
  · rw [TransportValidation.exactOptionalRecord, exists_record_iff]
    exact checkFields_exact_iff hasKey_of_own hunion
  · rw [TransportValidation.exactRecord, exists_record_iff]
    exact checkFields_exact_iff hasKey_of_own halone
  · rw [TaskValidation.exactRecord, exists_record_iff]
    exact checkFields_exact_iff hasKey_of_own halone
  · exact checkFields_exact_iff hown halone
  · exact checkFields_exact_iff hown (mem_dropLast_or required)
  · exact checkFields_exact_iff hown hunion

/-- An object with an empty name, and another that is not listed. -/
def emptyNamed : List (String × Json) := [("", .null), ("kind", .null), ("text", .null)]

/-- Each helper accepts an object with a key that is not listed, if the empty
name comes before it; and those of the tasks find a key that is inherited. -/
theorem unlisted_keys_accepted :
    (¬∀ fields required optional label,
        (∃ record, TransportValidation.exactOptionalRecord (.obj fields) required optional label
          = .ok record) ↔ HasExactKeys fields required optional)
      ∧ (¬∀ fields required label,
        (∃ record, TransportValidation.exactRecord (.obj fields) required label = .ok record)
          ↔ HasExactKeys fields required [])
      ∧ (¬∀ fields required label,
        (∃ record, TaskValidation.exactRecord (.obj fields) required label = .ok record)
          ↔ HasExactKeys fields required [])
      ∧ (¬∀ fields required label, AgentCore.exactKeys fields required label false = .ok ()
          ↔ HasExactKeys fields required [])
      ∧ ¬∀ fields required optional label,
        AgentCore.exactKeysWithOptional fields required optional label = .ok ()
          ↔ HasExactKeys fields required optional := by
  have hunlisted : ¬HasExactKeys emptyNamed ["kind"] [] := by decide
  have habsent : ¬HasExactKeys [] ["toString"] [] := by decide
  refine ⟨fun h => ?_, fun h => ?_, fun h => ?_, fun h => ?_, fun h => ?_⟩
  · exact habsent ((h [] ["toString"] [] "Task receipt").mp ⟨[], rfl⟩)
  · exact hunlisted ((h emptyNamed ["kind"] "Task receipt").mp ⟨emptyNamed, rfl⟩)
  · exact hunlisted ((h emptyNamed ["kind"] "Task request").mp ⟨emptyNamed, rfl⟩)
  · exact hunlisted ((h emptyNamed ["kind"] "Execution authority").mp (by decide))
  · exact hunlisted ((h emptyNamed ["kind"] [] "Agent Connector").mp (by decide))

end TetiBot

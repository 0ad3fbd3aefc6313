import Mathlib.Data.List.Basic
import TetiBot.Core.Validation
import TetiBot.Relationships.Types

/-
Release policies (`core/release/policy.ts`).

* `isTetiVersion`, `parseTetiVersion`, `compareTetiVersions`: versions and their order.
* `TetiReleasePolicy`, `validateTetiReleasePolicy`: a policy, and the value it is read
  from; a policy that has been read is read back (`validate_json`).
* `releaseStateForPolicy`: what a policy says of the running version; what it requires it
  goes on to require (`releaseStateForPolicy_mono`).
-/

namespace TetiBot

open Library Library.JsString

/-! ### Versions -/

/-- `0|[1-9]\d*`. -/
def isNumericIdentifier (s : JsString) : Bool :=
  s == [0x30] || (s.head?.any fun u => 0x31 ≤ u && u ≤ 0x39) && s.all isDigit

/-- `[0-9A-Za-z-]`. -/
def isIdentifierUnit (u : UInt16) : Bool :=
  isDigit u || (0x41 ≤ u && u ≤ 0x5A) || (0x61 ≤ u && u ≤ 0x7A) || u == 0x2D

/-- `0|[1-9]\d*|\d*[A-Za-z-][0-9A-Za-z-]*`. -/
def isPrereleaseIdentifier (s : JsString) : Bool :=
  isNumericIdentifier s || (s.all isIdentifierUnit && s.any fun u => !isDigit u)

variable (value : JsString)

/-- What comes before the first `-`. -/
def versionCore : List JsString := (value.takeWhile (· != 0x2D)).splitOn 0x2E

/-- What comes after the first `-`, if there is one. -/
def versionPrerelease : List JsString :=
  match value.dropWhile (· != 0x2D) with
  | [] => []
  | _ :: prerelease => prerelease.splitOn 0x2E

def isTetiVersion : Bool :=
  (versionCore value).length == 3 && (versionCore value).all isNumericIdentifier
    && (versionPrerelease value).all isPrereleaseIdentifier

structure TetiVersion where
  core : List Nat
  prerelease : List JsString

def parseTetiVersion : Except String TetiVersion :=
  if !isTetiVersion value then .error "Teti version must use semantic versioning."
  else
    let core := (versionCore value).map digitsValue
    if core.any (MAX_SAFE_INTEGER < ·) then .error "Teti version component is invalid."
    else .ok ⟨core, versionPrerelease value⟩

def requireTetiVersion : Option Json → Except String JsString
  | some (.str value) => do
    let _ ← parseTetiVersion value
    return value
  | _ => .error "Teti version must use semantic versioning."

/-- `Number` of digits: the nearest double, ties to even; `none` is infinity. -/
def nearestDouble (n : Nat) : Option Nat :=
  if n < 2 ^ 53 then some n
  else
    let unit := 2 ^ (n.log2 - 52)
    let roundsUp := unit < 2 * (n % unit) ∨ unit = 2 * (n % unit) ∧ n / unit % 2 = 1
    let rounded := (if roundsUp then n / unit + 1 else n / unit) * unit
    if rounded < 2 ^ 1024 then some rounded else none

variable (left right : JsString)

/-- `Number(left) < Number(right)`. -/
def numberLess : Bool :=
  match nearestDouble (digitsValue left), nearestDouble (digitsValue right) with
  | some l, some r => l < r
  | some _, none => true
  | none, _ => false

/-- `/^\d+$/`. -/
def isDigits (s : JsString) : Bool := !s.isEmpty && s.all isDigit

def compareIdentifiers : Ordering :=
  if isDigits left && isDigits right then if numberLess left right then .lt else .gt
  else if isDigits left != isDigits right then if isDigits left then .lt else .gt
  else if left < right then .lt else .gt

def comparePrereleases : List JsString → List JsString → Ordering
  | [], [] => .eq
  | [], _ :: _ => .lt
  | _ :: _, [] => .gt
  | left :: lefts, right :: rights =>
    if left = right then comparePrereleases lefts rights else compareIdentifiers left right

def compareCores : List Nat → List Nat → Ordering
  | left :: lefts, right :: rights =>
    if left = right then compareCores lefts rights else if left < right then .lt else .gt
  | _, _ => .eq

def compareTetiVersions : Except String Ordering := do
  let a ← parseTetiVersion left
  let b ← parseTetiVersion right
  match compareCores a.core b.core with
  | .eq =>
    if a.prerelease.isEmpty || b.prerelease.isEmpty then
      if a.prerelease.isEmpty = b.prerelease.isEmpty then return .eq
      else return if a.prerelease.isEmpty then .gt else .lt
    else return comparePrereleases a.prerelease b.prerelease
  | difference => return difference

/-! ### Policies -/

/-- A policy; its schema version is 1, its channel `beta`. -/
structure TetiReleasePolicy where
  policyVersion : Nat
  minimumSupportedVersion : JsString
  effectiveAt : JsString
  deriving DecidableEq

def TetiReleasePolicy.json (policy : TetiReleasePolicy) : Json :=
  .obj [("schemaVersion", .num 1), ("policyVersion", .num policy.policyVersion),
    ("channel", jsonString "beta"), ("minimumSupportedVersion", .str policy.minimumSupportedVersion),
    ("effectiveAt", .str policy.effectiveAt)]

/-- `Number.isSafeInteger`, from 1 on. -/
def requirePolicyVersion : Option Json → Except String Nat
  | some (.num version) =>
    if version ≤ MAX_SAFE_INTEGER ∧ 1 ≤ version then .ok version
    else .error "Release Policy version is invalid."
  | _ => .error "Release Policy version is invalid."

/-- The kinds of `LocalReleaseState` that a policy gives. -/
inductive PolicyState
  | supported | updateRequired
  deriving DecidableEq

section Dates

variable (parseDate : JsString → Option Timestamp)

def requireIsoTimestamp (value : Option Json) (label : String) : Except String JsString :=
  match value with
  | some (.str text) => match parseDate text with
    | some t => .ok (toISOString t)
    | none => .error (label ++ " is invalid.")
  | _ => .error (label ++ " is invalid.")

def isNumberOne : Option Json → Bool
  | some (.num 1) => true
  | _ => false

def isBeta : Option Json → Bool
  | some (.str channel) => channel == ofString "beta"
  | _ => false

def validateTetiReleasePolicy (value : Json) : Except String TetiReleasePolicy :=
  match recordFields? value with
  | none => .error "Release Policy must be an object."
  | some fields =>
    if !isNumberOne (Json.lookup fields "schemaVersion") then
      .error "Release Policy schema is unsupported."
    else do
      let policyVersion ← requirePolicyVersion (Json.lookup fields "policyVersion")
      if !isBeta (Json.lookup fields "channel") then .error "Release Policy channel is unsupported."
      else do
        let minimumSupportedVersion ← requireTetiVersion (Json.lookup fields "minimumSupportedVersion")
        let effectiveAt ← requireIsoTimestamp parseDate (Json.lookup fields "effectiveAt")
          "Release Policy effective time"
        return ⟨policyVersion, minimumSupportedVersion, effectiveAt⟩

/-- `Date.parse(text) > now`, which a text that is not a date is not. -/
def isLater (text : JsString) (now : Timestamp) : Bool := (parseDate text).any (now < ·)

def releaseStateForPolicy (currentVersion : JsString) (policy : TetiReleasePolicy) (now : Timestamp) :
    Except String PolicyState := do
  let version ← requireTetiVersion (some (.str currentVersion))
  if isLater parseDate policy.effectiveAt now then return .supported
  else
    let difference ← compareTetiVersions version policy.minimumSupportedVersion
    return if difference = .lt then .updateRequired else .supported

end Dates

/-! ### Policies that have been read -/

/-- What `validateTetiReleasePolicy` checks. -/
structure TetiReleasePolicy.Valid (parseDate : JsString → Option Timestamp) (policy : TetiReleasePolicy) :
    Prop where
  version : policy.policyVersion ≤ MAX_SAFE_INTEGER ∧ 1 ≤ policy.policyVersion
  minimum : requireTetiVersion (some (.str policy.minimumSupportedVersion)) = .ok policy.minimumSupportedVersion
  effective : ∃ text t, parseDate text = some t ∧ policy.effectiveAt = toISOString t

variable {parseDate : JsString → Option Timestamp} {policy : TetiReleasePolicy}

lemma TetiReleasePolicy.json_injective : Function.Injective TetiReleasePolicy.json := by
  intro p q h
  obtain ⟨pv, pm, pe⟩ := p
  obtain ⟨qv, qm, qe⟩ := q
  simpa [TetiReleasePolicy.json] using h

/-- The texts of two policies are the same where the policies are. -/
lemma stringify_policy_iff {p q : TetiReleasePolicy} : p.json.stringify = q.json.stringify ↔ p = q :=
  ⟨fun h => TetiReleasePolicy.json_injective (Json.stringify_injective h), fun h => h ▸ rfl⟩

lemma requireTetiVersion_ok {value : Option Json} {version : JsString} (h : requireTetiVersion value = .ok version) :
    requireTetiVersion (some (.str version)) = .ok version := by
  match value, h with
  | some (.str text), h =>
    cases hparse : parseTetiVersion text with
    | error e =>
      rw [requireTetiVersion, hparse] at h
      cases h
    | ok parsed =>
      rw [requireTetiVersion, hparse] at h
      obtain rfl : text = version := Except.ok.inj h
      rw [requireTetiVersion, hparse]
      rfl

/-- A check that passed, and what comes after it. -/
lemma ite_error_eq_ok {ε α : Type} {p : Prop} [Decidable p] {e : ε} {x : Except ε α} {a : α} :
    (if p then .error e else x) = .ok a ↔ ¬p ∧ x = .ok a := by
  by_cases h : p <;> simp [h]

lemma requirePolicyVersion_ok {value : Option Json} {version : Nat} (h : requirePolicyVersion value = .ok version) :
    version ≤ MAX_SAFE_INTEGER ∧ 1 ≤ version := by
  match value, h with
  | some (.num n), h =>
    rw [requirePolicyVersion] at h
    split_ifs at h with hversion
    obtain rfl := Except.ok.inj h
    exact hversion

lemma requireIsoTimestamp_ok {value : Option Json} {label : String} {iso : JsString}
    (h : requireIsoTimestamp parseDate value label = .ok iso) :
    ∃ text t, parseDate text = some t ∧ iso = toISOString t := by
  match value, h with
  | some (.str text), h =>
    cases hparse : parseDate text with
    | none =>
      rw [requireIsoTimestamp, hparse] at h
      cases h
    | some t =>
      rw [requireIsoTimestamp, hparse] at h
      exact ⟨text, t, hparse, (Except.ok.inj h).symm⟩

/-- **What is read is a valid policy.** -/
lemma validate_ok {value : Json} (h : validateTetiReleasePolicy parseDate value = .ok policy) :
    policy.Valid parseDate := by
  rw [validateTetiReleasePolicy] at h
  split at h
  · cases h
  · obtain ⟨-, h⟩ := ite_error_eq_ok.mp h
    obtain ⟨version, hversion, h⟩ := except_bind_eq_ok.mp h
    obtain ⟨-, h⟩ := ite_error_eq_ok.mp h
    obtain ⟨minimum, hminimum, h⟩ := except_bind_eq_ok.mp h
    obtain ⟨effective, heffective, h⟩ := except_bind_eq_ok.mp h
    obtain rfl := Except.ok.inj h
    exact ⟨requirePolicyVersion_ok hversion, requireTetiVersion_ok hminimum, requireIsoTimestamp_ok heffective⟩

/-- **A valid policy is read back**, where the texts of dates are. -/
lemma validate_json (hdate : ∀ s t, parseDate s = some t → parseDate (toISOString t) = some t)
    (h : policy.Valid parseDate) : validateTetiReleasePolicy parseDate policy.json = .ok policy := by
  obtain ⟨text, t, htext, heffective⟩ := h.effective
  have hiso : requireIsoTimestamp parseDate (some (.str policy.effectiveAt)) "Release Policy effective time"
      = .ok policy.effectiveAt := by
    rw [heffective, requireIsoTimestamp, hdate text t htext]
  simp [validateTetiReleasePolicy, TetiReleasePolicy.json, recordFields?, Json.lookup_cons, isNumberOne, isBeta,
    jsonString, requirePolicyVersion, h.version, h.minimum, hiso, except_ok_bind]

/-- **What a policy requires it goes on to require.** -/
lemma releaseStateForPolicy_mono {currentVersion : JsString} {now later : Timestamp} (hle : now ≤ later)
    (h : releaseStateForPolicy parseDate currentVersion policy now = .ok .updateRequired) :
    releaseStateForPolicy parseDate currentVersion policy later = .ok .updateRequired := by
  rw [releaseStateForPolicy] at h ⊢
  obtain ⟨version, hversion, h⟩ := except_bind_eq_ok.mp h
  rw [hversion, except_ok_bind]
  by_cases hlater : isLater parseDate policy.effectiveAt now = true
  · rw [if_pos hlater] at h
    cases h
  · have hstarted : ¬isLater parseDate policy.effectiveAt later = true := by
      rw [isLater, Option.any_eq_true] at hlater ⊢
      rintro ⟨t, ht, hless⟩
      have hless : later < t := by simpa using hless
      exact hlater ⟨t, ht, by simpa using hle.trans_lt hless⟩
    rw [if_neg hlater] at h
    rw [if_neg hstarted]
    exact h

lemma parse_of_requireTetiVersion {value version : JsString} (h : requireTetiVersion (some (.str value)) = .ok version) :
    value = version ∧ ∃ parsed, parseTetiVersion value = .ok parsed := by
  rw [requireTetiVersion] at h
  obtain ⟨parsed, hparsed, h⟩ := except_bind_eq_ok.mp h
  exact ⟨Except.ok.inj h, parsed, hparsed⟩

lemma compareTetiVersions_ok {left right : JsString} {a b : TetiVersion} (ha : parseTetiVersion left = .ok a)
    (hb : parseTetiVersion right = .ok b) : ∃ difference, compareTetiVersions left right = .ok difference := by
  rw [compareTetiVersions, ha, except_ok_bind, hb, except_ok_bind]
  split
  · split_ifs <;> exact ⟨_, rfl⟩
  · exact ⟨_, rfl⟩

/-- Where a valid policy says nothing of the running version, no policy does. -/
lemma releaseStateForPolicy_error {currentVersion : JsString} {now : Timestamp} {message : String}
    (hvalid : policy.Valid parseDate)
    (h : releaseStateForPolicy parseDate currentVersion policy now = .error message)
    {other : TetiReleasePolicy} {before : Timestamp} {state : PolicyState} :
    releaseStateForPolicy parseDate currentVersion other before ≠ .ok state := by
  intro hother
  rw [releaseStateForPolicy] at h hother
  obtain ⟨version, hversion, -⟩ := except_bind_eq_ok.mp hother
  obtain ⟨rfl, parsed, hparsed⟩ := parse_of_requireTetiVersion hversion
  obtain ⟨-, minimum, hminimum⟩ := parse_of_requireTetiVersion hvalid.minimum
  obtain ⟨difference, hdifference⟩ := compareTetiVersions_ok hparsed hminimum
  rw [hversion, except_ok_bind, hdifference] at h
  split_ifs at h <;> cases h

end TetiBot

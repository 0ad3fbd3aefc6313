import TetiBot.Core.Release
import TetiBot.Library.Transition

/-
The release floor (`runtime/release/service.ts`).

* `ReleaseService`: `LocalReleasePolicyService` with the file of its store, and what has
  been accepted and saved so far.
* `ReleaseService.step`: `initialize`, `refresh` and restarts, with any answer of the
  Network and any outcome of a save.
* `Below`: a policy may be accepted after another one.
* `release_floor_kept`: what is accepted does not go below what has been saved, and an
  update that a saved policy requires is required until a newer policy is accepted.
-/

namespace TetiBot

open Library Library.JsString

/-! ### Status -/

inductive ReleaseDiagnostic
  | unavailable | invalid
  deriving DecidableEq

inductive LocalReleaseState
  | checking | supported | updateRequired | temporarilyUnavailable
  deriving DecidableEq

def PolicyState.toLocal : PolicyState → LocalReleaseState
  | .supported => .supported
  | .updateRequired => .updateRequired

inductive ReleaseSource
  | none | cache | network
  deriving DecidableEq

structure LocalReleaseStatus where
  state : LocalReleaseState
  currentVersion : JsString
  buildTimestamp : JsString
  source : ReleaseSource
  checkedAt : Option JsString
  minimumSupportedVersion : Option JsString
  policyVersion : Option Nat
  effectiveAt : Option JsString
  diagnosticCode : Option ReleaseDiagnostic
  deriving DecidableEq

structure CachedReleasePolicy where
  policy : TetiReleasePolicy
  checkedAt : JsString
  deriving DecidableEq

def CachedReleasePolicy.json (cached : CachedReleasePolicy) : Json :=
  .obj [("schemaVersion", .num 1), ("policy", cached.policy.json), ("checkedAt", .str cached.checkedAt)]

/-- Why a policy cannot be had. -/
inductive ReleaseFetchError
  | typeError
  | networkClient (code : String)
  | other

def releaseDiagnosticCode : ReleaseFetchError → ReleaseDiagnostic
  | .typeError => .unavailable
  | .networkClient code =>
    if code ≠ "NETWORK_INVALID_RESPONSE" ∧ code ≠ "PROTOCOL_UNSUPPORTED" then .unavailable else .invalid
  | .other => .invalid

/-- The running version, and how dates are read. -/
structure ReleaseBuild where
  currentVersion : JsString
  buildTimestamp : JsString
  parseDate : JsString → Option Timestamp

def acceptPolicy (current : Option TetiReleasePolicy) (incoming : TetiReleasePolicy) :
    Except String TetiReleasePolicy :=
  match current with
  | none => .ok incoming
  | some current =>
    if incoming.policyVersion < current.policyVersion then .error "Release Policy version regressed."
    else if incoming.policyVersion = current.policyVersion
        ∧ incoming.json.stringify ≠ current.json.stringify then
      .error "Release Policy changed without a version increment."
    else .ok incoming

/-- The service, the file of its store, and the history of its policies. -/
structure ReleaseService where
  cached : Option CachedReleasePolicy
  status : LocalReleaseStatus
  /-- What `JSON.parse` gives for the file. -/
  file : Option Json
  initialized : Bool
  clock : Timestamp
  accepted : List TetiReleasePolicy
  saved : List TetiReleasePolicy

inductive ReleaseEvent
  /-- `initialize`. -/
  | initializeService (now : Timestamp)
  | refresh (response : Except ReleaseFetchError Json) (checkedAt now : Timestamp) (saveFails : Bool)
  /-- The process ends, and another one makes a service of its own. -/
  | restart

namespace ReleaseService

section Build

variable (b : ReleaseBuild)

def baseStatus (state : LocalReleaseState) (source : ReleaseSource) : LocalReleaseStatus :=
  ⟨state, b.currentVersion, b.buildTimestamp, source, none, none, none, none, none⟩

def statusFromPolicy (policy : TetiReleasePolicy) (source : ReleaseSource) (checkedAt : JsString)
    (now : Timestamp) : Except String LocalReleaseStatus := do
  let state ← releaseStateForPolicy b.parseDate b.currentVersion policy now
  return { baseStatus b state.toLocal source with
    checkedAt := some checkedAt
    minimumSupportedVersion := some policy.minimumSupportedVersion
    policyVersion := some policy.policyVersion
    effectiveAt := some policy.effectiveAt }

/-- `validateTetiReleasePolicy`, of a property that may not be there. -/
def validatePolicyField : Option Json → Except String TetiReleasePolicy
  | some policy => validateTetiReleasePolicy b.parseDate policy
  | none => .error "Release Policy must be an object."

def validateCachedReleasePolicy (value : Json) : Except String CachedReleasePolicy :=
  match recordFields? value with
  | none => .error "Cached Release Policy schema is unsupported."
  | some fields =>
    if !isNumberOne (Json.lookup fields "schemaVersion") then
      .error "Cached Release Policy schema is unsupported."
    else do
      let checkedAt ← requireIsoTimestamp b.parseDate (Json.lookup fields "checkedAt")
        "Cached Release Policy timestamp"
      let policy ← validatePolicyField b (Json.lookup fields "policy")
      return ⟨policy, checkedAt⟩

variable (s : ReleaseService)

/-- `initialize`. -/
def initializeService (now : Timestamp) : ReleaseService :=
  let invalid := { baseStatus b .checking .none with diagnosticCode := some .invalid }
  match s.file.filter fun value => Json.truthy (some value) with
  | none => { s with initialized := true }
  | some value => match validateCachedReleasePolicy b value with
    | .error _ => { s with initialized := true, status := invalid }
    | .ok cached => match statusFromPolicy b cached.policy .cache cached.checkedAt now with
      | .error _ => { s with initialized := true, cached := some cached, status := invalid }
      | .ok status => { s with initialized := true, cached := some cached, status := status }

def handleRefreshFailure (error : ReleaseFetchError) (now : Timestamp) : ReleaseService :=
  match s.cached with
  | none => { s with status := { baseStatus b .temporarilyUnavailable .none with
      diagnosticCode := some (releaseDiagnosticCode error) } }
  | some cached => match statusFromPolicy b cached.policy .cache cached.checkedAt now with
    -- the call rejects
    | .error _ => s
    | .ok cachedStatus => { s with
        status := if cachedStatus.state = .updateRequired then cachedStatus
          else { cachedStatus with
            state := .temporarilyUnavailable
            diagnosticCode := some (releaseDiagnosticCode error) } }

/-- The policy that a refresh accepts. -/
def fetchPolicy (response : Except ReleaseFetchError Json) :
    Except ReleaseFetchError TetiReleasePolicy :=
  match response with
  | .error error => .error error
  | .ok value => match validateTetiReleasePolicy b.parseDate value with
    | .error _ => .error .other
    | .ok incoming => match acceptPolicy (s.cached.map (·.policy)) incoming with
      | .error _ => .error .other
      | .ok policy => .ok policy

/-- An accepted policy is put into use, and then saved. -/
def usePolicy (policy : TetiReleasePolicy) (checkedAt now : Timestamp) (saveFails : Bool) :
    ReleaseService :=
  let cached : CachedReleasePolicy := ⟨policy, toISOString checkedAt⟩
  let s := { s with cached := some cached, accepted := s.accepted ++ [policy] }
  match statusFromPolicy b policy .network (toISOString checkedAt) now with
  -- the call rejects before the policy is saved
  | .error _ => s
  | .ok status =>
    if saveFails then { s with status := { status with diagnosticCode := some .invalid } }
    else { s with status := status, file := some cached.json, saved := s.saved ++ [policy] }

def refresh (response : Except ReleaseFetchError Json) (checkedAt now : Timestamp)
    (saveFails : Bool) : ReleaseService :=
  match s.fetchPolicy b response with
  | .error error => s.handleRefreshFailure b error now
  | .ok policy => s.usePolicy b policy checkedAt now saveFails

/-- A service over a file that an earlier process has left. -/
def initialService (file : Option Json) (clock : Timestamp) : ReleaseService where
  cached := none
  status := baseStatus b .checking .none
  file := file
  initialized := false
  clock := clock
  accepted := []
  saved := match file.map (validateCachedReleasePolicy b) with
    | some (.ok cached) => [cached.policy]
    | _ => []

def restarted : ReleaseService :=
  { s with cached := none, status := baseStatus b .checking .none, initialized := false }

/-- One event, where it can happen: the clock does not go back, and shows a date. -/
def step : ReleaseEvent → Option ReleaseService
  | .initializeService now =>
    if s.clock ≤ now then some ({ s with clock := now }.initializeService b now) else none
  | .refresh response checkedAt now saveFails =>
    if s.clock ≤ checkedAt ∧ checkedAt ≤ now ∧ b.parseDate (toISOString checkedAt) = some checkedAt then
      some ({ s with clock := now }.refresh b response checkedAt now saveFails)
    else none
  | .restart => some (s.restarted b)

/-- A step of a process that calls `initialize` before it calls `refresh`. -/
def startedStep : ReleaseEvent → Option ReleaseService
  | .refresh response checkedAt now saveFails =>
    if s.initialized then step b s (.refresh response checkedAt now saveFails) else none
  | e => step b s e

end Build

/-! ### Policies in a row -/

/-- A policy that may be accepted after another one. -/
def Below (p q : TetiReleasePolicy) : Prop := p.policyVersion < q.policyVersion ∨ p = q

lemma Below.refl (p : TetiReleasePolicy) : Below p p := .inr rfl

lemma Below.trans {p q r : TetiReleasePolicy} (hpq : Below p q) (hqr : Below q r) : Below p r := by
  rcases hpq with hpq | rfl
  · rcases hqr with hqr | rfl
    · exact .inl (hpq.trans hqr)
    · exact .inl hpq
  · exact hqr

lemma Below.antisymm {p q : TetiReleasePolicy} (hpq : Below p q) (hqp : Below q p) : p = q := by
  rcases hpq with hpq | hpq
  · rcases hqp with hqp | hqp
    · exact absurd hpq hqp.asymm
    · exact hqp.symm
  · exact hpq

lemma Below.le {p q : TetiReleasePolicy} (h : Below p q) : p.policyVersion ≤ q.policyVersion := by
  rcases h with h | rfl
  · exact h.le
  · exact le_rfl

/-- What is accepted is the policy itself, and it comes after the one before it. -/
lemma acceptPolicy_ok {current incoming policy : TetiReleasePolicy}
    (h : acceptPolicy (some current) incoming = .ok policy) : Below current policy := by
  rw [acceptPolicy] at h
  obtain ⟨hnewer, h⟩ := ite_error_eq_ok.mp h
  obtain ⟨hsame, h⟩ := ite_error_eq_ok.mp h
  obtain rfl := Except.ok.inj h
  rcases Nat.lt_or_ge current.policyVersion incoming.policyVersion with hlt | hge
  · exact .inl hlt
  · refine .inr (stringify_policy_iff.mp ?_)
    by_contra hchanged
    exact hsame ⟨by omega, Ne.symm hchanged⟩

/-- An older policy, and another one of the same version, are refused. -/
lemma acceptPolicy_refuses {current incoming : TetiReleasePolicy}
    (hle : incoming.policyVersion ≤ current.policyVersion) (hne : incoming ≠ current) :
    ∃ message, acceptPolicy (some current) incoming = .error message := by
  rw [acceptPolicy]
  split_ifs with hlt hsame
  · exact ⟨_, rfl⟩
  · exact ⟨_, rfl⟩
  · exact absurd ⟨by omega, fun htext => hne (stringify_policy_iff.mp htext)⟩ hsame

/-! ### What holds of a service -/

section Sound

variable {b : ReleaseBuild} {s t : ReleaseService} {watched : List (TetiReleasePolicy × Nat)}

/-- The policy that the file of the store holds. -/
def Stores (b : ReleaseBuild) (s : ReleaseService) (policy : TetiReleasePolicy) : Prop :=
  ∃ value checkedAt, s.file = some value ∧ validateCachedReleasePolicy b value = .ok ⟨policy, checkedAt⟩

/-- The running version is too old for a policy. -/
def Requires (b : ReleaseBuild) (s : ReleaseService) (policy : TetiReleasePolicy) : Prop :=
  releaseStateForPolicy b.parseDate b.currentVersion policy s.clock = .ok .updateRequired

/-- A saved policy under which an update was required: a newer one has been accepted since, or it is
still the one that is stored, in use, and requires the update. -/
def Judged (b : ReleaseBuild) (s : ReleaseService) (policy : TetiReleasePolicy) (since : Nat) : Prop :=
  since ≤ s.accepted.length
    ∧ ((∃ newer ∈ s.accepted.drop since, policy.policyVersion < newer.policyVersion)
      ∨ policy ∈ s.saved ∧ (∀ stored, s.Stores b stored → stored = policy) ∧ s.Requires b policy
        ∧ (s.initialized = true → s.status.state = .updateRequired
          ∧ ∃ cached, s.cached = some cached ∧ cached.policy = policy))

/-- What holds of every service, and of the policies under which an update has been required. -/
structure Sound (b : ReleaseBuild) (watched : List (TetiReleasePolicy × Nat)) (s : ReleaseService) : Prop where
  fresh : s.initialized = false → s.cached = none
  valid : ∀ cached, s.cached = some cached → cached.policy.Valid b.parseDate
  stored : ∀ p ∈ s.saved, ∃ q, s.Stores b q ∧ Below p q
  storedSaved : ∀ q, s.Stores b q → q ∈ s.saved
  floor : s.initialized = true → ∀ p ∈ s.saved, ∃ cached, s.cached = some cached ∧ Below p cached.policy
  required : s.status.state = .updateRequired → ∃ cached, s.cached = some cached ∧ s.Requires b cached.policy
  judged : ∀ e ∈ watched, s.Judged b e.1 e.2

lemma Stores.unique {p q : TetiReleasePolicy} (hp : s.Stores b p) (hq : s.Stores b q) : p = q := by
  obtain ⟨value, checkedAt, hfile, hvalid⟩ := hp
  obtain ⟨value', checkedAt', hfile', hvalid'⟩ := hq
  obtain rfl := Option.some.inj (hfile.symm.trans hfile')
  have hsame := Except.ok.inj (hvalid.symm.trans hvalid')
  exact congrArg CachedReleasePolicy.policy hsame

variable {policy : TetiReleasePolicy} {now : Timestamp}

lemma statusFromPolicy_ok {source : ReleaseSource} {checkedAt : JsString}
    {status : LocalReleaseStatus} (h : statusFromPolicy b policy source checkedAt now = .ok status) :
    status.state = .updateRequired
      ↔ releaseStateForPolicy b.parseDate b.currentVersion policy now = .ok .updateRequired := by
  rw [statusFromPolicy] at h
  obtain ⟨state, hstate, h⟩ := except_bind_eq_ok.mp h
  obtain rfl := Except.ok.inj h
  rw [hstate]
  cases state <;> simp [PolicyState.toLocal, baseStatus]

lemma statusFromPolicy_of_requires
    (h : releaseStateForPolicy b.parseDate b.currentVersion policy now = .ok .updateRequired)
    (source : ReleaseSource) (checkedAt : JsString) :
    ∃ status, statusFromPolicy b policy source checkedAt now = .ok status ∧ status.state = .updateRequired := by
  rw [statusFromPolicy, h]
  exact ⟨_, rfl, rfl⟩

/-- Where a valid policy does not give a status, no policy does. -/
lemma statusFromPolicy_error {other : TetiReleasePolicy} (hvalid : policy.Valid b.parseDate)
    {source : ReleaseSource} {checkedAt : JsString} {before : Timestamp} {message : String}
    (h : statusFromPolicy b policy source checkedAt now = .error message) :
    releaseStateForPolicy b.parseDate b.currentVersion other before ≠ .ok .updateRequired := by
  intro hother
  rw [statusFromPolicy] at h
  cases hstate : releaseStateForPolicy b.parseDate b.currentVersion policy now with
  | error e => exact releaseStateForPolicy_error hvalid hstate hother
  | ok state =>
    rw [hstate] at h
    cases h

lemma Sound.tick (h : s.Sound b watched) (hle : s.clock ≤ now) :
    ({ s with clock := now } : ReleaseService).Sound b watched where
  fresh := h.fresh
  valid := h.valid
  stored := h.stored
  storedSaved := h.storedSaved
  floor := h.floor
  required hstate := by
    obtain ⟨cached, hcached, hrequires⟩ := h.required hstate
    exact ⟨cached, hcached, releaseStateForPolicy_mono hle hrequires⟩
  judged e he := by
    obtain ⟨hsince, hjudged⟩ := h.judged e he
    refine ⟨hsince, hjudged.imp_right fun ⟨hsaved, hstored, hrequires, hstatus⟩ => ?_⟩
    exact ⟨hsaved, hstored, releaseStateForPolicy_mono hle hrequires, hstatus⟩

/-- **A service is made** over a file that an earlier one has left. -/
lemma Sound.restarted (h : s.Sound b watched) : (s.restarted b).Sound b watched where
  fresh _ := rfl
  valid cached hcached := by cases hcached
  stored := h.stored
  storedSaved := h.storedSaved
  floor hinitialized := by cases hinitialized
  required hstate := by cases hstate
  judged e he := by
    obtain ⟨hsince, hjudged⟩ := h.judged e he
    refine ⟨hsince, hjudged.imp_right fun ⟨hsaved, hstored, hrequires, _⟩ => ?_⟩
    exact ⟨hsaved, hstored, hrequires, fun hinitialized => (by cases hinitialized)⟩

lemma sound_initial (file : Option Json) (clock : Timestamp) : (initialService b file clock).Sound b [] := by
  have hstores : ∀ q, (initialService b file clock).Stores b q ↔ q ∈ (initialService b file clock).saved := by
    intro q
    simp only [Stores, initialService]
    cases file with
    | none => simp
    | some value =>
      simp only [Option.map_some, Option.some.injEq, exists_and_left]
      cases hvalid : validateCachedReleasePolicy b value with
      | error e => simp [hvalid]
      | ok cached =>
        simp only [List.mem_singleton]
        constructor
        · rintro ⟨found, rfl, checkedAt, hfound⟩
          exact (congrArg CachedReleasePolicy.policy (Except.ok.inj (hvalid.symm.trans hfound))).symm
        · rintro rfl
          exact ⟨value, rfl, cached.checkedAt, hvalid⟩
  exact {
    fresh := fun _ => rfl
    valid := fun cached hcached => (by cases hcached)
    stored := fun p hp => ⟨p, (hstores p).mpr hp, Below.refl p⟩
    storedSaved := fun q hq => (hstores q).mp hq
    floor := fun hinitialized => (by cases hinitialized)
    required := fun hstate => (by cases hstate)
    judged := fun e he => (by cases he) }

variable {cached : CachedReleasePolicy}

/-- **An update is required** by a saved policy that is in use. -/
lemma Sound.watch (h : s.Sound b watched) (hstate : s.status.state = .updateRequired)
    (hcached : s.cached = some cached) (hsaved : cached.policy ∈ s.saved) :
    s.Sound b ((cached.policy, s.accepted.length) :: watched) := by
  refine { h with judged := fun e he => ?_ }
  rcases List.mem_cons.mp he with rfl | he
  · obtain ⟨found, hfound, hrequires⟩ := h.required hstate
    obtain rfl := Option.some.inj (hcached.symm.trans hfound)
    have hinitialized : s.initialized = true := by
      by_contra hfresh
      cases hcached.symm.trans (h.fresh (by simpa using hfresh))
    refine ⟨le_rfl, .inr ⟨hsaved, fun stored hstored => ?_, hrequires, fun _ => ⟨hstate, cached, hcached, rfl⟩⟩⟩
    -- the stored policy is not above the one in use, nor below it
    obtain ⟨c, hc, hbelow⟩ := h.floor hinitialized stored (h.storedSaved stored hstored)
    obtain rfl := Option.some.inj (hcached.symm.trans hc)
    obtain ⟨q, hq, habove⟩ := h.stored cached.policy hsaved
    obtain rfl := hstored.unique hq
    exact hbelow.antisymm habove
  · exact h.judged e he

lemma validateCachedReleasePolicy_ok {value : Json}
    (h : validateCachedReleasePolicy b value = .ok cached) : cached.policy.Valid b.parseDate := by
  rw [validateCachedReleasePolicy] at h
  split at h
  · cases h
  · obtain ⟨-, h⟩ := ite_error_eq_ok.mp h
    obtain ⟨checkedAt, -, h⟩ := except_bind_eq_ok.mp h
    obtain ⟨policy, hpolicy, h⟩ := except_bind_eq_ok.mp h
    obtain rfl := Except.ok.inj h
    simp only [validatePolicyField] at hpolicy
    split at hpolicy
    · exact validate_ok hpolicy
    · cases hpolicy

lemma validateCachedReleasePolicy_json
    (hdate : ∀ s t, b.parseDate s = some t → b.parseDate (toISOString t) = some t)
    (hvalid : policy.Valid b.parseDate) {checkedAt : Timestamp}
    (hchecked : b.parseDate (toISOString checkedAt) = some checkedAt) :
    validateCachedReleasePolicy b (CachedReleasePolicy.json ⟨policy, toISOString checkedAt⟩)
      = .ok ⟨policy, toISOString checkedAt⟩ := by
  simp [validateCachedReleasePolicy, CachedReleasePolicy.json, recordFields?, Json.lookup_cons, isNumberOne,
    validatePolicyField, requireIsoTimestamp, hchecked, validate_json hdate hvalid, except_ok_bind]

lemma truthy_of_valid {value : Json} (h : validateCachedReleasePolicy b value = .ok cached) :
    Json.truthy (some value) = true := by
  cases value with
  | obj => rfl
  | _ => cases h

/-- **`initialize`** puts the stored policy into use. -/
lemma Sound.initializeService (h : s.Sound b watched) : (s.initializeService b s.clock).Sound b watched := by
  have hempty : (∀ q, ¬s.Stores b q) → s.saved = [] := fun hnone => by
    by_contra hsome
    obtain ⟨p, hp⟩ := List.exists_mem_of_ne_nil _ hsome
    obtain ⟨q, hq, -⟩ := h.stored p hp
    exact hnone q hq
  have hunsaved : s.saved = [] → ∀ e ∈ watched, ∃ newer ∈ s.accepted.drop e.2, e.1.policyVersion < newer.policyVersion :=
    fun hsaved e he => (h.judged e he).2.resolve_right fun ⟨hmem, _⟩ => by
      rw [hsaved] at hmem
      cases hmem
  have hnothing : s.saved = [] → ∀ p ∈ s.saved, ∀ cached : Option CachedReleasePolicy,
      ∃ c, cached = some c ∧ Below p c.policy := fun hsaved p hp => by
    rw [hsaved] at hp
    cases hp
  rw [ReleaseService.initializeService]
  dsimp only
  split
  · rename_i hfile
    have hsaved : s.saved = [] := hempty fun q ⟨value, checkedAt, hvalue, hq⟩ => by
      rw [hvalue, Option.filter_some, if_pos (truthy_of_valid hq)] at hfile
      cases hfile
    exact { h with
      fresh := fun hinitialized => (by cases hinitialized)
      floor := fun _ p hp => hnothing hsaved p hp _
      judged := fun e he => ⟨(h.judged e he).1, .inl (hunsaved hsaved e he)⟩ }
  · rename_i value hread
    have hfile : s.file = some value := (Option.filter_eq_some_iff.mp hread).1
    split
    · rename_i message hvalid
      have hsaved : s.saved = [] := hempty fun q ⟨found, checkedAt, hfound, hq⟩ => by
        obtain rfl := Option.some.inj (hfile.symm.trans hfound)
        cases hvalid.symm.trans hq
      exact { h with
        fresh := fun hinitialized => (by cases hinitialized)
        floor := fun _ p hp => hnothing hsaved p hp _
        required := fun hstate => (by cases hstate)
        judged := fun e he => ⟨(h.judged e he).1, .inl (hunsaved hsaved e he)⟩ }
    · rename_i cached hvalid
      have hstores : s.Stores b cached.policy := ⟨value, cached.checkedAt, hfile, hvalid⟩
      have hpolicy := validateCachedReleasePolicy_ok hvalid
      have hfloor : ∀ p ∈ s.saved, Below p cached.policy := fun p hp => by
        obtain ⟨q, hq, hbelow⟩ := h.stored p hp
        rwa [hq.unique hstores] at hbelow
      split
      · rename_i message hstatus
        exact { h with
          fresh := fun hinitialized => (by cases hinitialized)
          valid := fun found hfound => Option.some.inj hfound ▸ hpolicy
          floor := fun _ p hp => ⟨cached, rfl, hfloor p hp⟩
          required := fun hstate => (by cases hstate)
          judged := fun e he => by
            refine ⟨(h.judged e he).1, (h.judged e he).2.imp_right fun ⟨_, _, hrequires, _⟩ => ?_⟩
            exact absurd hrequires (statusFromPolicy_error hpolicy hstatus) }
      · rename_i status hstatus
        exact { h with
          fresh := fun hinitialized => (by cases hinitialized)
          valid := fun found hfound => Option.some.inj hfound ▸ hpolicy
          floor := fun _ p hp => ⟨cached, rfl, hfloor p hp⟩
          required := fun hstate => ⟨cached, rfl, (statusFromPolicy_ok hstatus).mp hstate⟩
          judged := fun e he => by
            refine ⟨(h.judged e he).1, (h.judged e he).2.imp_right fun ⟨hsaved, hstored, hrequires, _⟩ => ?_⟩
            have hsame : cached.policy = e.1 := hstored cached.policy hstores
            rw [Requires, ← hsame] at hrequires
            refine ⟨hsaved, hstored, hsame ▸ hrequires, fun _ => ?_⟩
            exact ⟨(statusFromPolicy_ok hstatus).mpr hrequires, cached, rfl, hsame⟩ }

/-- **A refresh that fails**, or whose policy is refused, leaves the policies as they are. -/
lemma handleRefreshFailure_policies (b : ReleaseBuild) (s : ReleaseService) (error : ReleaseFetchError)
    (now : Timestamp) : ∃ status, s.handleRefreshFailure b error now = { s with status := status } := by
  rw [handleRefreshFailure]
  split
  · exact ⟨_, rfl⟩
  · split
    · exact ⟨s.status, rfl⟩
    · exact ⟨_, rfl⟩

lemma handleRefreshFailure_state (hcached : s.cached = some cached) (error : ReleaseFetchError)
    (hrequires : s.Requires b cached.policy) :
    (s.handleRefreshFailure b error s.clock).status.state = .updateRequired := by
  obtain ⟨status, hstatus, hstate⟩ := statusFromPolicy_of_requires hrequires .cache cached.checkedAt
  simp [handleRefreshFailure, hcached, hstatus, hstate]

lemma handleRefreshFailure_required (h : s.Sound b watched) (error : ReleaseFetchError)
    (hstate : (s.handleRefreshFailure b error s.clock).status.state = .updateRequired) :
    ∃ cached, s.cached = some cached ∧ s.Requires b cached.policy := by
  rw [handleRefreshFailure] at hstate
  split at hstate
  · cases hstate
  · rename_i cached hcached
    split at hstate
    · exact h.required hstate
    · rename_i status hstatus
      refine ⟨cached, hcached, (statusFromPolicy_ok hstatus).mp ?_⟩
      by_contra hother
      rw [if_neg hother] at hstate
      cases hstate

lemma Sound.handleRefreshFailure (h : s.Sound b watched) (error : ReleaseFetchError) :
    (s.handleRefreshFailure b error s.clock).Sound b watched := by
  have hrequired := handleRefreshFailure_required h error
  have hstate : ∀ cached, s.cached = some cached → s.Requires b cached.policy →
      (s.handleRefreshFailure b error s.clock).status.state = .updateRequired :=
    fun cached hcached => handleRefreshFailure_state hcached error
  obtain ⟨status, hstatus⟩ := handleRefreshFailure_policies b s error s.clock
  rw [hstatus] at hrequired hstate ⊢
  exact { h with
    required := hrequired
    judged := fun e he => by
      refine ⟨(h.judged e he).1, (h.judged e he).2.imp_right fun ⟨hsaved, hstored, hrequires, hused⟩ => ?_⟩
      refine ⟨hsaved, hstored, hrequires, fun hinitialized => ?_⟩
      obtain ⟨-, cached, hcached, hpolicy⟩ := hused hinitialized
      exact ⟨hstate cached hcached (hpolicy ▸ hrequires), cached, hcached, hpolicy⟩ }

/-- A policy that is accepted is valid, and comes after the one in use. -/
lemma fetchPolicy_ok {response : Except ReleaseFetchError Json}
    (h : s.fetchPolicy b response = .ok policy) :
    policy.Valid b.parseDate ∧ ∀ cached, s.cached = some cached → Below cached.policy policy := by
  cases response with
  | error error => cases h
  | ok value =>
    simp only [fetchPolicy] at h
    split at h
    · cases h
    · rename_i incoming hincoming
      split at h
      · cases h
      · rename_i accepted haccepted
        obtain rfl := Except.ok.inj h
        cases hcached : s.cached with
        | none =>
          rw [hcached, Option.map_none, acceptPolicy] at haccepted
          obtain rfl := Except.ok.inj haccepted
          exact ⟨validate_ok hincoming, fun cached h => (by cases h)⟩
        | some cached =>
          rw [hcached, Option.map_some] at haccepted
          have hbelow := acceptPolicy_ok haccepted
          have hsame : accepted = incoming := by
            rw [acceptPolicy] at haccepted
            exact (Except.ok.inj (ite_error_eq_ok.mp (ite_error_eq_ok.mp haccepted).2).2).symm
          refine ⟨hsame ▸ validate_ok hincoming, fun found hfound => ?_⟩
          obtain rfl := Option.some.inj hfound
          exact hbelow

section

variable (hdate : ∀ s t, b.parseDate s = some t → b.parseDate (toISOString t) = some t)
include hdate

/-- **An accepted policy** is used, and saved. -/
lemma Sound.usePolicy (h : s.Sound b watched) (hinitialized : s.initialized = true)
    (hvalid : policy.Valid b.parseDate)
    (hbelow : ∀ cached, s.cached = some cached → Below cached.policy policy) {checkedAt : Timestamp}
    (hchecked : b.parseDate (toISOString checkedAt) = some checkedAt) (saveFails : Bool) :
    (s.usePolicy b policy checkedAt s.clock saveFails).Sound b watched := by
  have hfloor : ∀ p ∈ s.saved, Below p policy := fun p hp => by
    obtain ⟨cached, hcached, hp⟩ := h.floor hinitialized p hp
    exact hp.trans (hbelow cached hcached)
  have hjudged : ∀ e ∈ watched, e.2 ≤ (s.accepted ++ [policy]).length
      ∧ ((∃ newer ∈ (s.accepted ++ [policy]).drop e.2, e.1.policyVersion < newer.policyVersion)
        ∨ e.1 = policy ∧ e.1 ∈ s.saved ∧ (∀ stored, s.Stores b stored → stored = e.1) ∧ s.Requires b e.1) := by
    intro e he
    obtain ⟨hsince, hcase⟩ := h.judged e he
    refine ⟨hsince.trans (by simp), ?_⟩
    rw [List.drop_append_of_le_length hsince]
    rcases hcase with ⟨newer, hnewer, hlt⟩ | ⟨hsaved, hstored, hrequires, hused⟩
    · exact .inl ⟨newer, List.mem_append_left _ hnewer, hlt⟩
    · obtain ⟨-, cached, hcached, hpolicy⟩ := hused hinitialized
      rcases hbelow cached hcached with hlt | hsame
      · exact .inl ⟨policy, List.mem_append_right _ (List.mem_singleton_self _), hpolicy ▸ hlt⟩
      · exact .inr ⟨hpolicy.symm.trans hsame, hsaved, hstored, hrequires⟩
  rw [ReleaseService.usePolicy]
  dsimp only
  split
  · rename_i message hstatus
    exact { h with
      fresh := fun hfresh => absurd hinitialized (by simp [show s.initialized = false from hfresh])
      valid := fun found hfound => Option.some.inj hfound ▸ hvalid
      floor := fun _ p hp => ⟨_, rfl, hfloor p hp⟩
      required := fun hstate => by
        obtain ⟨cached, -, hrequires⟩ := h.required hstate
        exact absurd hrequires (statusFromPolicy_error hvalid hstatus)
      judged := fun e he => by
        refine ⟨(hjudged e he).1, (hjudged e he).2.imp_right fun ⟨_, _, _, hrequires⟩ => ?_⟩
        exact absurd hrequires (statusFromPolicy_error hvalid hstatus) }
  · rename_i status hstatus
    have hrequires := statusFromPolicy_ok hstatus
    split
    · exact { h with
        fresh := fun hfresh => absurd hinitialized (by simp [show s.initialized = false from hfresh])
        valid := fun found hfound => Option.some.inj hfound ▸ hvalid
        floor := fun _ p hp => ⟨_, rfl, hfloor p hp⟩
        required := fun hstate => ⟨_, rfl, hrequires.mp hstate⟩
        judged := fun e he => by
          refine ⟨(hjudged e he).1, (hjudged e he).2.imp_right fun ⟨hsame, hsaved, hstored, hneeds⟩ => ?_⟩
          exact ⟨hsaved, hstored, hneeds, fun _ => ⟨hrequires.mpr (hsame ▸ hneeds), _, rfl, hsame.symm⟩⟩ }
    · -- the policy is saved
      have hstores : ∀ q, ({ s with
          cached := some ⟨policy, toISOString checkedAt⟩
          status := status
          file := some (CachedReleasePolicy.json ⟨policy, toISOString checkedAt⟩)
          accepted := s.accepted ++ [policy]
          saved := s.saved ++ [policy] } : ReleaseService).Stores b q ↔ q = policy := fun q => by
        have hread := validateCachedReleasePolicy_json hdate hvalid hchecked
        constructor
        · rintro ⟨value, found, hvalue, hfound⟩
          obtain rfl := Option.some.inj hvalue
          exact (congrArg CachedReleasePolicy.policy (Except.ok.inj (hread.symm.trans hfound))).symm
        · rintro rfl
          exact ⟨_, _, rfl, hread⟩
      have hsaved : ∀ p ∈ s.saved ++ [policy], Below p policy := fun p hp => by
        rcases List.mem_append.mp hp with hp | hp
        · exact hfloor p hp
        · exact List.mem_singleton.mp hp ▸ Below.refl policy
      exact {
        fresh := fun hfresh => absurd hinitialized (by simp [show s.initialized = false from hfresh])
        valid := fun found hfound => Option.some.inj hfound ▸ hvalid
        stored := fun p hp => ⟨policy, (hstores policy).mpr rfl, hsaved p hp⟩
        storedSaved := fun q hq => by
          obtain rfl := (hstores q).mp hq
          exact List.mem_append_right _ (List.mem_singleton_self q)
        floor := fun _ p hp => ⟨_, rfl, hsaved p hp⟩
        required := fun hstate => ⟨_, rfl, hrequires.mp hstate⟩
        judged := fun e he => by
          refine ⟨(hjudged e he).1, (hjudged e he).2.imp_right fun ⟨hsame, hmem, _, hneeds⟩ => ?_⟩
          refine ⟨List.mem_append_left _ hmem, fun stored hstored => ((hstores stored).mp hstored).trans hsame.symm,
            hneeds, fun _ => ⟨hrequires.mpr (hsame ▸ hneeds), _, rfl, hsame.symm⟩⟩ }

/-- **One event.** -/
lemma Sound.step
    (h : s.Sound b watched) {e : ReleaseEvent} (hstep : startedStep b s e = some t) : t.Sound b watched := by
  cases e with
  | initializeService now =>
    obtain ⟨hle, hmade⟩ := Option.ite_none_right_eq_some.mp hstep
    obtain rfl := Option.some.inj hmade
    exact (h.tick hle).initializeService
  | refresh response checkedAt now saveFails =>
    obtain ⟨hinitialized, hrefresh⟩ := Option.ite_none_right_eq_some.mp hstep
    obtain ⟨⟨hle, hlater, hchecked⟩, hrefreshed⟩ := Option.ite_none_right_eq_some.mp hrefresh
    obtain rfl := Option.some.inj hrefreshed
    have htick := h.tick (hle.trans hlater)
    rw [ReleaseService.refresh]
    split
    · exact htick.handleRefreshFailure _
    · rename_i policy hfetch
      obtain ⟨hvalid, hbelow⟩ := fetchPolicy_ok hfetch
      exact htick.usePolicy hdate hinitialized hvalid hbelow hchecked saveFails
  | restart =>
    obtain rfl := Option.some.inj hstep
    exact h.restarted

end

/-- **A policy that is refused** changes neither what is accepted nor what is saved. -/
lemma refresh_refused (hcached : s.cached = some cached) {value : Json}
    {incoming : TetiReleasePolicy}
    (hincoming : validateTetiReleasePolicy b.parseDate value = .ok incoming)
    (hle : incoming.policyVersion ≤ cached.policy.policyVersion) (hne : incoming ≠ cached.policy)
    (checkedAt now : Timestamp) (saveFails : Bool) :
    s.refresh b (.ok value) checkedAt now saveFails
      = { s with status := (s.refresh b (.error .other) checkedAt now saveFails).status } := by
  obtain ⟨message, hrefused⟩ := acceptPolicy_refuses hle hne
  have hfetch : s.fetchPolicy b (.ok value) = .error .other := by
    simp [fetchPolicy, hincoming, hcached, hrefused]
  obtain ⟨status, hstatus⟩ := handleRefreshFailure_policies b s .other now
  have hfailed : s.refresh b (.error .other) checkedAt now saveFails = { s with status := status } :=
    hstatus
  rw [hfailed, ReleaseService.refresh, hfetch]
  exact hstatus

end Sound

end ReleaseService

open ReleaseService in
/-- **The release floor**: where every process calls `initialize` before it calls `refresh`, what is
accepted does not go below what has been saved; a policy of the version in use with another content
is refused, and changes neither what is accepted nor what is saved; and an update that is required
under a saved policy is required in every service that has been initialized since, until a newer
policy is accepted. -/
theorem release_floor_kept (b : ReleaseBuild)
    (hdate : ∀ s t, b.parseDate s = some t → b.parseDate (toISOString t) = some t) (file : Option Json)
    (clock : Timestamp) (events : List ReleaseEvent) (s : ReleaseService)
    (hrun : Runs (startedStep b) (initialService b file clock) events s) :
    (∀ cached, s.cached = some cached → ∀ p ∈ s.saved, p.policyVersion ≤ cached.policy.policyVersion)
    ∧ (∀ cached value incoming checkedAt now saveFails, s.cached = some cached →
      validateTetiReleasePolicy b.parseDate value = .ok incoming →
      incoming.policyVersion = cached.policy.policyVersion → incoming ≠ cached.policy →
      s.refresh b (.ok value) checkedAt now saveFails
        = { s with status := (s.refresh b (.error .other) checkedAt now saveFails).status })
    ∧ ∀ cached more t, s.cached = some cached → cached.policy ∈ s.saved → s.status.state = .updateRequired →
      Runs (startedStep b) s more t → t.initialized = true → t.status.state = .updateRequired
        ∨ ∃ newer ∈ t.accepted.drop s.accepted.length, cached.policy.policyVersion < newer.policyVersion := by
  have hsound : s.Sound b [] :=
    hrun.invariant (sound_initial file clock) fun _ _ _ hbefore hstep => hbefore.step hdate hstep
  refine ⟨fun cached hcached p hp => ?_, fun cached value incoming checkedAt now saveFails hcached hincoming
    hsame hne => refresh_refused hcached hincoming hsame.le hne checkedAt now saveFails, ?_⟩
  · have hinitialized : s.initialized = true := by
      by_contra hfresh
      cases hcached.symm.trans (hsound.fresh (by simpa using hfresh))
    obtain ⟨found, hfound, hbelow⟩ := hsound.floor hinitialized p hp
    obtain rfl := Option.some.inj (hcached.symm.trans hfound)
    exact hbelow.le
  · intro cached more t hcached hsaved hstate hmore hinitialized
    have hwatched : t.Sound b [(cached.policy, s.accepted.length)] :=
      hmore.invariant (hsound.watch hstate hcached hsaved) fun _ _ _ hbefore hstep => hbefore.step hdate hstep
    rcases (hwatched.judged _ (List.mem_singleton_self _)).2 with hnewer | ⟨-, -, -, hused⟩
    · exact .inr hnewer
    · exact .inl (hused hinitialized).1

open ReleaseService in
/-- **A required update is justified**: in every such run it is required only under the policy in
use, which requires it; and the file holds a policy that none of the saved ones comes after. -/
theorem required_update_justified (b : ReleaseBuild)
    (hdate : ∀ s t, b.parseDate s = some t → b.parseDate (toISOString t) = some t) (file : Option Json)
    (clock : Timestamp) (events : List ReleaseEvent) (s : ReleaseService)
    (hrun : Runs (startedStep b) (initialService b file clock) events s) :
    (s.status.state = .updateRequired → ∃ cached, s.cached = some cached ∧ s.Requires b cached.policy)
    ∧ ∀ p ∈ s.saved, ∃ q ∈ s.saved, s.Stores b q ∧ Below p q := by
  have hsound : s.Sound b [] :=
    hrun.invariant (sound_initial file clock) fun _ _ _ hbefore hstep => hbefore.step hdate hstep
  refine ⟨hsound.required, fun p hp => ?_⟩
  obtain ⟨q, hstores, hbelow⟩ := hsound.stored p hp
  exact ⟨q, hsound.storedSaved q hstores, hstores, hbelow⟩

/-- A build whose clock shows the dates of `releaseDates`. -/
def releaseDates : List Timestamp := [0, 1000, 2000]

def parseReleaseDate (text : JsString) : Option Timestamp := releaseDates.find? fun t => toISOString t == text

def oldBuild : ReleaseBuild where
  currentVersion := ofString "0.2.8"
  buildTimestamp := toISOString 0
  parseDate := parseReleaseDate

lemma parseDate_oldBuild (s : JsString) (t : Timestamp) (h : oldBuild.parseDate s = some t) :
    oldBuild.parseDate (toISOString t) = some t := by
  rw [show oldBuild.parseDate = parseReleaseDate from rfl] at h ⊢
  have hmem : t ∈ releaseDates := List.mem_of_find?_eq_some h
  simp only [releaseDates, List.mem_cons, List.not_mem_nil, or_false] at hmem
  rcases hmem with rfl | rfl | rfl <;> decide

/-- A policy that is in force from the first date on. -/
def floorPolicy (policyVersion : Nat) (minimum : String) : TetiReleasePolicy :=
  ⟨policyVersion, ofString minimum, toISOString 0⟩

/-- A floor above the running version is saved. -/
def floorSaved : List ReleaseEvent :=
  [.initializeService 0, .refresh (.ok (floorPolicy 2 "0.2.9").json) 1000 1000 false]

/-- The Network is not there, the process starts again. -/
def floorOffline : List ReleaseEvent :=
  [.refresh (.error .typeError) 1000 1000 false, .restart, .initializeService 2000]

/-- The service once the floor is saved. -/
def lockedService : ReleaseService where
  cached := some ⟨floorPolicy 2 "0.2.9", toISOString 1000⟩
  status := ⟨.updateRequired, ofString "0.2.8", toISOString 0, .network, some (toISOString 1000),
    some (ofString "0.2.9"), some 2, some (toISOString 0), none⟩
  file := some (CachedReleasePolicy.json ⟨floorPolicy 2 "0.2.9", toISOString 1000⟩)
  initialized := true
  clock := 1000
  accepted := [floorPolicy 2 "0.2.9"]
  saved := [floorPolicy 2 "0.2.9"]

open ReleaseService in
theorem release_floor_offline :
    Runs (startedStep oldBuild) (initialService oldBuild none 0) floorSaved lockedService
      ∧ ∃ t, Runs (startedStep oldBuild) lockedService floorOffline t
      ∧ (t.status.state = .updateRequired
        ∨ ∃ newer ∈ t.accepted.drop lockedService.accepted.length,
          (floorPolicy 2 "0.2.9").policyVersion < newer.policyVersion) := by
  refine ⟨rfl, _, rfl, ?_⟩
  exact (release_floor_kept oldBuild parseDate_oldBuild none 0 floorSaved lockedService rfl).2.2
    ⟨floorPolicy 2 "0.2.9", toISOString 1000⟩ floorOffline _ rfl (by decide) rfl rfl rfl

theorem required_update_justified_locked :
    ∃ cached, lockedService.cached = some cached ∧ lockedService.Requires oldBuild cached.policy :=
  (required_update_justified oldBuild parseDate_oldBuild none 0 floorSaved lockedService rfl).1 rfl

open ReleaseService in
/-- A process that refreshes before it has been initialized accepts, and saves, an older policy than
the one that is stored; and a policy that is refused changes the status. -/
theorem release_floor_unguarded :
    (∃ s, Runs (step oldBuild) (initialService oldBuild none 0)
        (floorSaved ++ [.restart, .refresh (.ok (floorPolicy 1 "0.2.8").json) 2000 2000 false]) s
      ∧ s.saved = [floorPolicy 2 "0.2.9", floorPolicy 1 "0.2.8"]
      ∧ s.cached.map (·.policy) = some (floorPolicy 1 "0.2.8"))
    ∧ ∃ s t, Runs (startedStep oldBuild) (initialService oldBuild none 0)
        [.initializeService 0, .refresh (.ok (floorPolicy 2 "0.2.8").json) 1000 1000 false] s
      ∧ Runs (startedStep oldBuild) s [.refresh (.ok (floorPolicy 2 "0.2.7").json) 1000 1000 false] t
      ∧ s.status.state = .supported ∧ t.status.state = .temporarilyUnavailable := by
  refine ⟨⟨_, rfl, by decide, by decide⟩, ?_⟩
  exact ⟨_, _, rfl, rfl, rfl, rfl⟩

end TetiBot

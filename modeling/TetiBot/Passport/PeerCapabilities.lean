import TetiBot.Core.Dates
import TetiBot.Core.Validation
import TetiBot.Library.Register
import TetiBot.Passport.Content

/-
What a peer was last observed to support.

* `rememberPeerProtocolCapability`: the merge of an observation into the store;
  `observe`: with its checks, `observeFile`: between a read and a write of the file.
* `PeerProtocolCapabilityStoreState.Valid`: what every observation keeps, so that a state is
  never too invalid to be saved (`observe_valid`).
* `get_observeAll`: of one peer, a run of observations is a register that replaces what it
  holds (`Register.replace`), whatever the observations of other peers between them.
* `Greatest`: no observation of the peer has a higher epoch or a later time, and each other
  one differs from it as the store tells observations apart.
* `capabilities_orderIndependent`: the order does not matter if and only if one observation is
  the greatest.
-/

namespace TetiBot.Passport

open Library

/-! ### Observations -/

def MAX_PEER_PROTOCOL_CAPABILITIES : Nat := 512
def MAX_PASSPORT_SCHEMA_VERSIONS : Nat := 8

structure PassportPeerProtocolCapability where
  tetiId : String
  collaborationProtocolEpoch : Nat
  taskProtocolVersions : Option (List Nat)
  passportSchemaVersions : Option (List Nat)
  observedAt : JsString
  deriving DecidableEq

structure PeerProtocolCapabilityStoreState where
  peers : List PassportPeerProtocolCapability
  deriving DecidableEq

def emptyPeerProtocolCapabilityStoreState : PeerProtocolCapabilityStoreState := ⟨[]⟩

def validatePassportSchemaVersions (versions : List Nat) : Except String Unit := do
  rejectWhen (versions.length = 0 ∨ MAX_PASSPORT_SCHEMA_VERSIONS < versions.length)
    "Passport schema versions are invalid."
  rejectWhen (¬versions.Nodup ∨ versions.any fun version => version < 1 || 255 < version)
    "Passport schema versions are invalid."

/-- `[...versions].sort((left, right) => left - right)`. -/
def sortedVersions (versions : List Nat) : List Nat := versions.insertionSort (· ≤ ·)

def sameVersions (left right : Option (List Nat)) : Bool :=
  match left, right with
  | some left, some right =>
    left.length = right.length && sortedVersions left = sortedVersions right
  | none, none => true
  | _, _ => false

variable (parseDate : JsString → Option Timestamp)

def validatePeerProtocolCapability (value : PassportPeerProtocolCapability) :
    Except String Unit := do
  rejectWhen (!isCanonicalTetiPublicId value.tetiId || value.collaborationProtocolEpoch < 1
      || 255 < value.collaborationProtocolEpoch || (parseDate value.observedAt).isNone)
    "Teti Peer protocol capability is invalid."
  match value.passportSchemaVersions with
  | some versions => validatePassportSchemaVersions versions
  | none => .ok ()
  match value.taskProtocolVersions with
  | some versions => (validateTaskProtocolVersions versions).mapError TaskError.message
  | none => .ok ()

/-- The checks of the peers, one after the other; `tetiIds` were seen before. -/
def validatePeers (tetiIds : List String) : List PassportPeerProtocolCapability → Except String Unit
  | [] => .ok ()
  | peer :: peers => do
    validatePeerProtocolCapability parseDate peer
    rejectWhen (tetiIds.contains peer.tetiId)
      "Teti Peer protocol capabilities contain a duplicate identity."
    validatePeers (tetiIds ++ [peer.tetiId]) peers

def validatePeerProtocolCapabilityStoreState (value : PeerProtocolCapabilityStoreState) :
    Except String Unit := do
  rejectWhen (MAX_PEER_PROTOCOL_CAPABILITIES < value.peers.length)
    "Unsupported Teti Peer protocol capability store."
  validatePeers parseDate [] value.peers

/-! ### The store -/

def PassportPeerProtocolCapability.normalized (capability : PassportPeerProtocolCapability) :
    PassportPeerProtocolCapability :=
  { capability with
    taskProtocolVersions := capability.taskProtocolVersions.map sortedVersions
    passportSchemaVersions := capability.passportSchemaVersions.map sortedVersions }

/-- `Date.parse(left) < Date.parse(right)`. -/
def parsedBefore (left right : JsString) : Bool :=
  match parseDate left, parseDate right with
  | some left, some right => left < right
  | _, _ => false

/-- Whether an observation replaces what is stored of its peer. -/
def supersedes (existing normalized : PassportPeerProtocolCapability) : Bool :=
  if normalized.collaborationProtocolEpoch < existing.collaborationProtocolEpoch then false
  else if parsedBefore parseDate normalized.observedAt existing.observedAt then false
  else !(normalized.collaborationProtocolEpoch = existing.collaborationProtocolEpoch
    && sameVersions existing.taskProtocolVersions normalized.taskProtocolVersions
    && sameVersions existing.passportSchemaVersions normalized.passportSchemaVersions)

/-- What an entry is changed to. -/
def PassportPeerProtocolCapability.observed (normalized existing : PassportPeerProtocolCapability) :
    PassportPeerProtocolCapability :=
  { existing with
    collaborationProtocolEpoch := normalized.collaborationProtocolEpoch
    taskProtocolVersions := normalized.taskProtocolVersions
    passportSchemaVersions := normalized.passportSchemaVersions
    observedAt := normalized.observedAt }

/-- The first entry with the identifier, changed in place. -/
def updatePeer (tetiId : String)
    (change : PassportPeerProtocolCapability → PassportPeerProtocolCapability) :
    List PassportPeerProtocolCapability → List PassportPeerProtocolCapability
  | [] => []
  | peer :: peers =>
    if peer.tetiId = tetiId then change peer :: peers else peer :: updatePeer tetiId change peers

namespace PeerProtocolCapabilityStoreState

/-- `get`. -/
def get (state : PeerProtocolCapabilityStoreState) (tetiId : String) :
    Option PassportPeerProtocolCapability :=
  state.peers.find? fun peer => peer.tetiId = tetiId

end PeerProtocolCapabilityStoreState

variable (state : PeerProtocolCapabilityStoreState)

def rememberPeerProtocolCapability (capability : PassportPeerProtocolCapability) :
    Except String (Bool × PeerProtocolCapabilityStoreState) :=
  let normalized := capability.normalized
  match state.get normalized.tetiId with
  | some existing =>
    if supersedes parseDate existing normalized then
      .ok (true, ⟨updatePeer normalized.tetiId normalized.observed state.peers⟩)
    else .ok (false, state)
  | none =>
    if MAX_PEER_PROTOCOL_CAPABILITIES ≤ state.peers.length then
      .error "Teti Peer protocol capability store is full."
    else .ok (true, ⟨state.peers ++ [normalized]⟩)

/-- `observe` of the store in memory. -/
def observe (capability : PassportPeerProtocolCapability) :
    Except String (Bool × PeerProtocolCapabilityStoreState) := do
  validatePeerProtocolCapability parseDate capability
  rememberPeerProtocolCapability parseDate state capability

/-- `observe` of the store in a file, which may not exist. -/
def observeFile (file : Option PeerProtocolCapabilityStoreState)
    (capability : PassportPeerProtocolCapability) :
    Except String (Bool × Option PeerProtocolCapabilityStoreState) := do
  validatePeerProtocolCapability parseDate capability
  let state := file.getD emptyPeerProtocolCapabilityStoreState
  validatePeerProtocolCapabilityStoreState parseDate state
  let (changed, state) ← rememberPeerProtocolCapability parseDate state capability
  if changed then
    validatePeerProtocolCapabilityStoreState parseDate state
    return (true, some state)
  else return (false, file)

/-- The store after the observations, one after the other. -/
def observeAll (capabilities : List PassportPeerProtocolCapability) :
    Except String PeerProtocolCapabilityStoreState :=
  capabilities.foldlM (fun state capability => do
    let (_, state) ← observe parseDate state capability
    return state) state

/-! ### What is stored of a peer -/

variable {parseDate}

section

variable {state after : PeerProtocolCapabilityStoreState} {changed : Bool}
  {capability : PassportPeerProtocolCapability} {capabilities : List PassportPeerProtocolCapability}
  {tetiId : String}

@[simp] lemma normalized_tetiId : capability.normalized.tetiId = capability.tetiId := rfl

@[simp] lemma normalized_collaborationProtocolEpoch :
    capability.normalized.collaborationProtocolEpoch = capability.collaborationProtocolEpoch := rfl

@[simp] lemma normalized_observedAt : capability.normalized.observedAt = capability.observedAt := rfl

lemma tetiId_of_get (h : state.get tetiId = some capability) : capability.tetiId = tetiId := by
  rw [PeerProtocolCapabilityStoreState.get] at h
  simpa using List.find?_some h

lemma get_updatePeer {change : PassportPeerProtocolCapability → PassportPeerProtocolCapability}
    {peers : List PassportPeerProtocolCapability} {peerId : String}
    (h : ∀ peer, (change peer).tetiId = peer.tetiId) :
    PeerProtocolCapabilityStoreState.get ⟨updatePeer peerId change peers⟩ tetiId
      = if tetiId = peerId
        then (PeerProtocolCapabilityStoreState.get ⟨peers⟩ tetiId).map change
        else PeerProtocolCapabilityStoreState.get ⟨peers⟩ tetiId := by
  induction peers with
  | nil => simp [updatePeer, PeerProtocolCapabilityStoreState.get]
  | cons peer peers ih =>
    simp only [PeerProtocolCapabilityStoreState.get] at ih ⊢
    by_cases hpeer : peer.tetiId = peerId
    · by_cases htetiId : tetiId = peerId
      · subst htetiId
        simp [updatePeer, hpeer, h]
      · have hne : ¬peerId = tetiId := fun heq => htetiId heq.symm
        simp [updatePeer, hpeer, h, htetiId, hne]
    · by_cases hhere : peer.tetiId = tetiId
      · have hne : ¬tetiId = peerId := hhere ▸ hpeer
        simp [updatePeer, hhere, hne]
      · simp only [updatePeer, hpeer, if_false, List.find?_cons, hhere, decide_false]
        exact ih

/-- **One observation**: of its own peer it may replace what is stored, of another nothing. -/
lemma get_remember
    (h : rememberPeerProtocolCapability parseDate state capability = .ok (changed, after)) :
    after.get tetiId = if tetiId = capability.tetiId
      then Register.replace (supersedes parseDate) (state.get tetiId) capability.normalized
      else state.get tetiId := by
  rw [rememberPeerProtocolCapability] at h
  cases hget : state.get capability.normalized.tetiId with
  | some existing =>
    simp only [hget] at h
    have hexisting : existing.tetiId = capability.tetiId := tetiId_of_get hget
    split_ifs at h with hsupersedes
    · obtain ⟨-, rfl⟩ := Prod.mk.inj (Except.ok.inj h)
      have hkeeps : ∀ peer, (capability.normalized.observed peer).tetiId = peer.tetiId :=
        fun _ => rfl
      rw [get_updatePeer hkeeps]
      by_cases hid : tetiId = capability.tetiId
      · subst hid
        have hentry : capability.normalized.observed existing = capability.normalized := by
          rw [PassportPeerProtocolCapability.observed, hexisting]
          rfl
        rw [normalized_tetiId] at hget
        simp [hget, Register.replace, hsupersedes, hentry]
      · simp [hid]
    · obtain ⟨-, rfl⟩ := Prod.mk.inj (Except.ok.inj h)
      split_ifs with hid
      · subst hid
        rw [normalized_tetiId] at hget
        rw [hget, Register.replace, if_neg hsupersedes]
      · rfl
  | none =>
    simp only [hget] at h
    split_ifs at h
    obtain ⟨-, rfl⟩ := Prod.mk.inj (Except.ok.inj h)
    rw [normalized_tetiId] at hget
    by_cases hid : tetiId = capability.tetiId
    · subst hid
      have hfind : state.peers.find? (fun peer => peer.tetiId = capability.tetiId) = none := hget
      simp [PeerProtocolCapabilityStoreState.get, hfind, Register.replace]
    · have hne : ¬capability.tetiId = tetiId := fun heq => hid heq.symm
      simp [PeerProtocolCapabilityStoreState.get, hid, hne]

lemma observe_eq_ok (h : observe parseDate state capability = .ok (changed, after)) :
    validatePeerProtocolCapability parseDate capability = .ok ()
      ∧ rememberPeerProtocolCapability parseDate state capability = .ok (changed, after) := by
  obtain ⟨u, hvalid, hremember⟩ := except_bind_eq_ok.mp h
  exact ⟨hvalid, hremember⟩

/-- A change is told if and only if what is stored of the peer differs. -/
lemma unchanged (h : rememberPeerProtocolCapability parseDate state capability = .ok (false, after)) :
    after = state := by
  rw [rememberPeerProtocolCapability] at h
  split at h
  · split_ifs at h
    · cases h
    · exact (Prod.mk.inj (Except.ok.inj h)).2.symm
  · split_ifs at h
    cases h

/-- **A run of observations**: those of other peers do not matter. -/
theorem get_observeAll (h : observeAll parseDate state capabilities = .ok after) :
    after.get tetiId = ((capabilities.filter fun capability => capability.tetiId = tetiId).map
      PassportPeerProtocolCapability.normalized).foldl (Register.replace (supersedes parseDate))
        (state.get tetiId) := by
  induction capabilities generalizing state with
  | nil => exact congrArg (fun s => s.get tetiId) (Except.ok.inj h).symm
  | cons capability capabilities ih =>
    obtain ⟨mid, hmid, hrest⟩ := except_bind_eq_ok.mp h
    obtain ⟨⟨changed, mid'⟩, hobserve, hsnd⟩ := except_bind_eq_ok.mp hmid
    obtain rfl : mid' = mid := Except.ok.inj hsnd
    rw [ih hrest, get_remember (observe_eq_ok hobserve).2]
    by_cases hid : capability.tetiId = tetiId
    · subst hid
      simp
    · have hne : ¬tetiId = capability.tetiId := fun heq => hid heq.symm
      simp [hid, hne]

end

/-! ### States that can be saved -/

/-- What `validatePeerProtocolCapabilityStoreState` demands. -/
structure PeerProtocolCapabilityStoreState.Valid (parseDate : JsString → Option Timestamp)
    (state : PeerProtocolCapabilityStoreState) : Prop where
  few : state.peers.length ≤ MAX_PEER_PROTOCOL_CAPABILITIES
  valid : ∀ peer ∈ state.peers, validatePeerProtocolCapability parseDate peer = .ok ()
  nodup : (state.peers.map PassportPeerProtocolCapability.tetiId).Nodup

section

variable {state after : PeerProtocolCapabilityStoreState} {changed : Bool}
  {capability : PassportPeerProtocolCapability} {capabilities : List PassportPeerProtocolCapability}

variable {peers : List PassportPeerProtocolCapability}

lemma validatePeers_eq_ok {tetiIds : List String} :
    validatePeers parseDate tetiIds peers = .ok ()
      ↔ (∀ peer ∈ peers, validatePeerProtocolCapability parseDate peer = .ok ())
        ∧ (peers.map PassportPeerProtocolCapability.tetiId).Nodup
        ∧ ∀ peer ∈ peers, peer.tetiId ∉ tetiIds := by
  induction peers generalizing tetiIds with
  | nil => simp [validatePeers]
  | cons peer peers ih =>
    simp only [validatePeers, except_bind_eq_ok, rejectWhen_eq_ok, ih]
    simp only [List.forall_mem_cons, List.map_cons, List.nodup_cons, List.mem_map, List.mem_append,
      List.mem_singleton, not_or, not_exists, not_and, List.contains_eq_mem, decide_eq_false_iff_not]
    constructor
    · rintro ⟨_, hpeer, _, hfresh, hpeers, hnodup, hrest⟩
      exact ⟨⟨hpeer, hpeers⟩, ⟨fun other hother => (hrest other hother).2, hnodup⟩, hfresh,
        fun other hother => (hrest other hother).1⟩
    · rintro ⟨⟨hpeer, hpeers⟩, ⟨hne, hnodup⟩, hfresh, hrest⟩
      exact ⟨(), hpeer, (), hfresh, hpeers, hnodup, fun other hother =>
        ⟨hrest other hother, hne other hother⟩⟩

lemma validateState_eq_ok : validatePeerProtocolCapabilityStoreState parseDate state = .ok ()
    ↔ state.Valid parseDate := by
  simp only [validatePeerProtocolCapabilityStoreState, except_bind_eq_ok, rejectWhen_eq_ok,
    validatePeers_eq_ok, decide_eq_false_iff_not, not_lt]
  constructor
  · rintro ⟨_, hfew, hvalid, hnodup, _⟩
    exact ⟨hfew, hvalid, hnodup⟩
  · rintro ⟨hfew, hvalid, hnodup⟩
    exact ⟨(), hfew, hvalid, hnodup, by simp⟩

lemma sortedVersions_perm (versions : List Nat) : (sortedVersions versions).Perm versions :=
  List.perm_insertionSort _ versions

/-- The checks do not see the order of the versions. -/
lemma validate_normalized (h : validatePeerProtocolCapability parseDate capability = .ok ()) :
    validatePeerProtocolCapability parseDate capability.normalized = .ok () := by
  have hpassport : ∀ versions, validatePassportSchemaVersions (sortedVersions versions)
      = validatePassportSchemaVersions versions := by
    intro versions
    have hperm := sortedVersions_perm versions
    rw [validatePassportSchemaVersions, validatePassportSchemaVersions, hperm.length_eq,
      hperm.any_eq]
    simp only [hperm.nodup_iff]
  have htask : ∀ versions, validateTaskProtocolVersions (sortedVersions versions)
      = validateTaskProtocolVersions versions := by
    intro versions
    have hperm := sortedVersions_perm versions
    rw [validateTaskProtocolVersions, validateTaskProtocolVersions]
    simp only [hperm.length_eq, hperm.any_eq, hperm.nodup_iff]
  rw [← h]
  cases hversions : capability.passportSchemaVersions <;>
    cases hversions' : capability.taskProtocolVersions <;>
    simp [validatePeerProtocolCapability, PassportPeerProtocolCapability.normalized, hversions,
      hversions', hpassport, htask]

lemma map_tetiId_updatePeer {peerId : String}
    {change : PassportPeerProtocolCapability → PassportPeerProtocolCapability}
    (h : ∀ peer, (change peer).tetiId = peer.tetiId) :
    (updatePeer peerId change peers).map PassportPeerProtocolCapability.tetiId
      = peers.map PassportPeerProtocolCapability.tetiId := by
  induction peers with
  | nil => rfl
  | cons peer peers ih =>
    rw [updatePeer]
    split_ifs
    · simp [h]
    · simp [ih]

lemma mem_updatePeer {peerId : String}
    {change : PassportPeerProtocolCapability → PassportPeerProtocolCapability}
    (h : capability ∈ updatePeer peerId change peers) :
    capability ∈ peers ∨ ∃ peer ∈ peers, peer.tetiId = peerId ∧ capability = change peer := by
  induction peers with
  | nil => cases h
  | cons peer peers ih =>
    rw [updatePeer] at h
    split_ifs at h with hpeer
    · rcases List.mem_cons.mp h with rfl | h
      · exact .inr ⟨peer, List.mem_cons_self .., hpeer, rfl⟩
      · exact .inl (List.mem_cons_of_mem peer h)
    · rcases List.mem_cons.mp h with rfl | h
      · exact .inl (List.mem_cons_self ..)
      · rcases ih h with hmem | ⟨other, hother, hid, heq⟩
        · exact .inl (List.mem_cons_of_mem peer hmem)
        · exact .inr ⟨other, List.mem_cons_of_mem peer hother, hid, heq⟩

/-- **An observation keeps the state valid.** -/
theorem observe_valid (hstate : state.Valid parseDate)
    (h : observe parseDate state capability = .ok (changed, after)) : after.Valid parseDate := by
  obtain ⟨hcapability, hremember⟩ := observe_eq_ok h
  have hnormalized := validate_normalized hcapability
  rw [rememberPeerProtocolCapability] at hremember
  cases hget : state.get capability.normalized.tetiId with
  | some existing =>
    simp only [hget] at hremember
    split_ifs at hremember
    · obtain ⟨-, rfl⟩ := Prod.mk.inj (Except.ok.inj hremember)
      have hids : (updatePeer capability.normalized.tetiId capability.normalized.observed
          state.peers).map PassportPeerProtocolCapability.tetiId
            = state.peers.map PassportPeerProtocolCapability.tetiId :=
        map_tetiId_updatePeer fun _ => rfl
      refine ⟨?_, fun peer hpeer => ?_, by rw [hids]; exact hstate.nodup⟩
      · have hlength := congrArg List.length hids
        rw [List.length_map, List.length_map] at hlength
        exact hlength.trans_le hstate.few
      · rcases mem_updatePeer hpeer with hmem | ⟨other, -, hid, rfl⟩
        · exact hstate.valid peer hmem
        · rw [PassportPeerProtocolCapability.observed, hid]
          exact hnormalized
    · exact (Prod.mk.inj (Except.ok.inj hremember)).2 ▸ hstate
  | none =>
    simp only [hget] at hremember
    split_ifs at hremember with hfull
    obtain ⟨-, rfl⟩ := Prod.mk.inj (Except.ok.inj hremember)
    refine ⟨?_, fun peer hpeer => ?_, ?_⟩
    · rw [List.length_append, List.length_singleton]
      omega
    · rcases List.mem_append.mp hpeer with hmem | hlast
      · exact hstate.valid peer hmem
      · exact List.mem_singleton.mp hlast ▸ hnormalized
    · rw [List.map_append, List.map_singleton, ← List.concat_eq_append, List.nodup_concat]
      refine ⟨fun hmem => ?_, hstate.nodup⟩
      obtain ⟨peer, hpeer, hid⟩ := List.mem_map.mp hmem
      have hnone := List.find?_eq_none.mp hget peer hpeer
      exact hnone (decide_eq_true hid)

/-- A file that can be read takes what the store in memory takes. -/
theorem observeFile_eq {file : Option PeerProtocolCapabilityStoreState}
    (hfile : (file.getD emptyPeerProtocolCapabilityStoreState).Valid parseDate)
    (h : observe parseDate (file.getD emptyPeerProtocolCapabilityStoreState) capability
      = .ok (changed, after)) :
    ∃ file', observeFile parseDate file capability = .ok (changed, file')
      ∧ file'.getD emptyPeerProtocolCapabilityStoreState = after := by
  obtain ⟨hcapability, hremember⟩ := observe_eq_ok h
  have hvalid := validateState_eq_ok.mpr (observe_valid hfile h)
  simp only [observeFile, hcapability, validateState_eq_ok.mpr hfile, hremember, except_ok_bind]
  cases changed with
  | true =>
    simp only [hvalid, except_ok_bind, if_true]
    exact ⟨some after, rfl, rfl⟩
  | false => exact ⟨file, rfl, (unchanged hremember).symm⟩

/-- **Every run keeps the store valid**, and the file takes and holds what the store in memory
does. -/
theorem observations_kept {file : Option PeerProtocolCapabilityStoreState}
    (hfile : (file.getD emptyPeerProtocolCapabilityStoreState).Valid parseDate)
    (h : observeAll parseDate (file.getD emptyPeerProtocolCapabilityStoreState) capabilities
      = .ok after) :
    after.Valid parseDate ∧ ∃ file',
      capabilities.foldlM (fun file capability =>
        Prod.snd <$> observeFile parseDate file capability) file = .ok file'
      ∧ file'.getD emptyPeerProtocolCapabilityStoreState = after := by
  induction capabilities generalizing file with
  | nil =>
    obtain rfl := Except.ok.inj h
    exact ⟨hfile, file, rfl, rfl⟩
  | cons capability capabilities ih =>
    obtain ⟨mid, hmid, hrest⟩ := except_bind_eq_ok.mp h
    obtain ⟨⟨changed, _⟩, hobserve, hmid⟩ := except_bind_eq_ok.mp hmid
    obtain rfl := Except.ok.inj hmid
    obtain ⟨next, hnext, rfl⟩ := observeFile_eq hfile hobserve
    obtain ⟨hvalid, file', hfile', hafter⟩ := ih (observe_valid hfile hobserve) hrest
    refine ⟨hvalid, file', ?_, hafter⟩
    rw [List.foldlM_cons, hnext]
    exact hfile'

end

/-! ### The greatest observation -/

section

variable {state after : PeerProtocolCapabilityStoreState} {changed : Bool}
  {capability existing : PassportPeerProtocolCapability}
  {observations : List PassportPeerProtocolCapability} {tetiId : String}

/-- Whether two observations tell of the same versions. -/
def SameVersions (left right : PassportPeerProtocolCapability) : Prop :=
  sameVersions left.taskProtocolVersions right.taskProtocolVersions = true
    ∧ sameVersions left.passportSchemaVersions right.passportSchemaVersions = true

instance (left right : PassportPeerProtocolCapability) : Decidable (SameVersions left right) :=
  inferInstanceAs (Decidable (_ ∧ _))

/-- No other observation has a higher epoch or a later time, and each has a lower epoch, or
an earlier time and other versions. -/
structure Greatest (parseDate : JsString → Option Timestamp)
    (observations : List PassportPeerProtocolCapability)
    (greatest : PassportPeerProtocolCapability) : Prop where
  mem : greatest ∈ observations
  epoch_le : ∀ other ∈ observations,
    other.collaborationProtocolEpoch ≤ greatest.collaborationProtocolEpoch
  not_before : ∀ other ∈ observations,
    parsedBefore parseDate greatest.observedAt other.observedAt = false
  apart : ∀ other ∈ observations, other.normalized ≠ greatest.normalized →
    other.collaborationProtocolEpoch < greatest.collaborationProtocolEpoch
      ∨ parsedBefore parseDate other.observedAt greatest.observedAt = true
        ∧ ¬SameVersions other.normalized greatest.normalized

lemma supersedes_iff : supersedes parseDate existing capability = true
    ↔ existing.collaborationProtocolEpoch ≤ capability.collaborationProtocolEpoch
      ∧ parsedBefore parseDate capability.observedAt existing.observedAt = false
      ∧ ¬(capability.collaborationProtocolEpoch = existing.collaborationProtocolEpoch
        ∧ SameVersions existing capability) := by
  rw [supersedes, SameVersions]
  split_ifs with hepoch hbefore
  · simp [hepoch]
  · simp [hbefore]
  · simp [not_lt.mp hepoch, Bool.eq_false_of_not_eq_true hbefore, imp_iff_not_or, or_assoc]

lemma parsedBefore_self (text : JsString) : parsedBefore parseDate text text = false := by
  rw [parsedBefore]
  cases parseDate text <;> simp

lemma sameVersions_comm (left right : Option (List Nat)) :
    sameVersions left right = sameVersions right left := by
  cases left <;> cases right <;> simp [sameVersions, eq_comm]

/-- The greatest observation supersedes every other, and none supersedes it. -/
lemma greatest_iff {greatest : PassportPeerProtocolCapability} (hmem : greatest ∈ observations) :
    Greatest parseDate observations greatest
      ↔ ∀ other ∈ observations, other.normalized ≠ greatest.normalized →
        supersedes parseDate other.normalized greatest.normalized = true
          ∧ supersedes parseDate greatest.normalized other.normalized = false := by
  have hsame : ∀ left right : PassportPeerProtocolCapability,
      SameVersions left right ↔ SameVersions right left := fun left right => by
    rw [SameVersions, SameVersions, sameVersions_comm, sameVersions_comm left.passportSchemaVersions]
  simp only [Bool.eq_false_iff, ne_eq, supersedes_iff, normalized_collaborationProtocolEpoch,
    normalized_observedAt, hsame greatest.normalized]
  constructor
  · intro h other hother hne
    have hle := h.epoch_le other hother
    refine ⟨⟨hle, Bool.eq_false_iff.mp (h.not_before other hother), ?_⟩, ?_⟩
    · rintro ⟨hepoch, hversions⟩
      rcases h.apart other hother hne with hlt | ⟨-, hother⟩
      · omega
      · exact hother hversions
    · rintro ⟨hepoch, hnot, -⟩
      rcases h.apart other hother hne with hlt | ⟨hbefore, -⟩
      · omega
      · exact hnot hbefore
  · intro h
    refine ⟨hmem, fun other hother => ?_, fun other hother => ?_, fun other hother hne => ?_⟩
    · by_cases heq : other.normalized = greatest.normalized
      · exact (congrArg PassportPeerProtocolCapability.collaborationProtocolEpoch heq).le
      · exact (h other hother heq).1.1
    · by_cases heq : other.normalized = greatest.normalized
      · have hat : other.normalized.observedAt = greatest.normalized.observedAt := by rw [heq]
        rw [normalized_observedAt, normalized_observedAt] at hat
        rw [hat]
        exact parsedBefore_self _
      · exact Bool.eq_false_iff.mpr (h other hother heq).1.2.1
    · obtain ⟨⟨hle, -, hapart⟩, hnot⟩ := h other hother hne
      rcases hle.lt_or_eq with hlt | heq
      · exact .inl hlt
      · have hversions : ¬SameVersions other.normalized greatest.normalized :=
          fun hversions => hapart ⟨heq.symm, hversions⟩
        refine .inr ⟨?_, hversions⟩
        by_contra hbefore
        exact hnot ⟨heq.ge, hbefore, fun hboth => hversions hboth.2⟩

/-- Observations of one peer are taken in every order, if it is known or there is room. -/
lemma observeAll_isOk (hpeer : ∀ other ∈ observations, other.tetiId = tetiId)
    (hvalid : ∀ other ∈ observations, validatePeerProtocolCapability parseDate other = .ok ())
    (hroom : state.get tetiId ≠ none ∨ state.peers.length < MAX_PEER_PROTOCOL_CAPABILITIES) :
    ∃ after, observeAll parseDate state observations = .ok after := by
  induction observations generalizing state with
  | nil => exact ⟨state, rfl⟩
  | cons capability observations ih =>
    have hid : capability.tetiId = tetiId := hpeer capability (List.mem_cons_self ..)
    have hremember : ∃ changed mid,
        rememberPeerProtocolCapability parseDate state capability = .ok (changed, mid) := by
      rw [rememberPeerProtocolCapability, normalized_tetiId, hid]
      cases hget : state.get tetiId with
      | some existing =>
        simp only []
        split_ifs
        · exact ⟨_, _, rfl⟩
        · exact ⟨_, _, rfl⟩
      | none =>
        have hlength := hroom.resolve_left fun hsome => hsome hget
        simp only [if_neg (not_le.mpr hlength)]
        exact ⟨_, _, rfl⟩
    obtain ⟨changed, mid, hmid⟩ := hremember
    have hknown : mid.get tetiId ≠ none := by
      rw [get_remember hmid, if_pos hid.symm]
      exact Option.isSome_iff_ne_none.mp (Register.replace_isSome _ _)
    obtain ⟨after, hafter⟩ := ih (fun other hother => hpeer other (List.mem_cons_of_mem _ hother))
      (fun other hother => hvalid other (List.mem_cons_of_mem _ hother)) (.inl hknown)
    refine ⟨after, ?_⟩
    rw [observeAll, List.foldlM_cons, observe, hvalid capability (List.mem_cons_self ..),
      except_ok_bind, hmid]
    exact hafter

lemma exists_perm_map {α β : Type} {f : α → β} {as : List α} {order : List β}
    (h : order.Perm (as.map f)) : ∃ puts : List α, puts.Perm as ∧ puts.map f = order := by
  have hrelated : List.Forall₂ (fun b a => b = f a) (as.map f) as :=
    List.forall₂_map_left_iff.mpr (List.forall₂_same.mpr fun _ _ => rfl)
  obtain ⟨puts, hputs, hperm⟩ := List.perm_comp_forall₂ h hrelated
  refine ⟨puts, hperm, ?_⟩
  rw [← List.forall₂_eq_eq_eq, List.forall₂_map_left_iff]
  exact (List.Forall₂.flip hputs).imp fun _ _ heq => heq.symm

/-- **What order independence takes.**  Every order of the valid observations of a peer is
taken.  What is stored is the same in every order, whatever is observed of other peers in
between, if and only if one observation is the greatest, and then it is that one.  An
observation older than what is stored, in its epoch or its time, changes nothing. -/
theorem capabilities_orderIndependent
    (hpeer : ∀ other ∈ observations, other.tetiId = tetiId)
    (hvalid : ∀ other ∈ observations, validatePeerProtocolCapability parseDate other = .ok ())
    (hnew : state.get tetiId = none)
    (hroom : state.peers.length < MAX_PEER_PROTOCOL_CAPABILITIES) :
    (∀ order : List PassportPeerProtocolCapability, order.Perm observations →
      ∃ after, observeAll parseDate state order = .ok after)
    ∧ (∀ stored, (∀ (puts : List PassportPeerProtocolCapability) (after : _),
          (puts.filter fun put => put.tetiId = tetiId).Perm observations →
          observeAll parseDate state puts = .ok after → after.get tetiId = some stored)
        ↔ ∃ greatest, Greatest parseDate observations greatest ∧ stored = greatest.normalized)
    ∧ ∀ before put changed after stored,
        observe parseDate before put = .ok (changed, after) → before.get put.tetiId = some stored →
        put.collaborationProtocolEpoch < stored.collaborationProtocolEpoch
          ∨ parsedBefore parseDate put.observedAt stored.observedAt = true →
        changed = false ∧ after = before := by
  have haccepted : ∀ order : List PassportPeerProtocolCapability, order.Perm observations →
      ∃ after, observeAll parseDate state order = .ok after := fun order hperm =>
    observeAll_isOk (fun other hother => hpeer other (hperm.mem_iff.mp hother))
      (fun other hother => hvalid other (hperm.mem_iff.mp hother)) (.inr hroom)
  refine ⟨haccepted, fun stored => ⟨fun h => ?_, ?_⟩, ?_⟩
  · have hevery : ∀ order : List PassportPeerProtocolCapability,
        order.Perm (observations.map PassportPeerProtocolCapability.normalized) →
        order.foldl (Register.replace (supersedes parseDate)) none = some stored := by
      intro order hperm
      -- the order is that of observations with these normal forms
      obtain ⟨puts, hputs, rfl⟩ := exists_perm_map hperm
      have hpeer' : ∀ put ∈ puts, put.tetiId = tetiId := fun put hput =>
        hpeer put (hputs.mem_iff.mp hput)
      have hfilter : (puts.filter fun put => put.tetiId = tetiId) = puts :=
        List.filter_eq_self.mpr fun put hput => decide_eq_true (hpeer' put hput)
      obtain ⟨after, hafter⟩ := haccepted puts hputs
      rw [← h puts after (by rw [hfilter]; exact hputs) hafter, get_observeAll hafter, hnew, hfilter]
    obtain ⟨hmem, hbeats⟩ := Register.orderIndependent_iff.mp hevery
    obtain ⟨greatest, hgreatest, rfl⟩ := List.mem_map.mp hmem
    refine ⟨greatest, (greatest_iff hgreatest).mpr fun other hother hne => ?_, rfl⟩
    exact hbeats _ (List.mem_map_of_mem hother) hne
  · rintro ⟨greatest, hgreatest, rfl⟩ puts after hputs hafter
    rw [get_observeAll hafter, hnew]
    refine Register.orderIndependent_iff.mpr ⟨List.mem_map_of_mem hgreatest.mem, ?_⟩ _
      (hputs.map PassportPeerProtocolCapability.normalized)
    intro normalized hnormalized hne
    obtain ⟨other, hother, rfl⟩ := List.mem_map.mp hnormalized
    exact (greatest_iff hgreatest.mem).mp hgreatest other hother hne
  · intro before put changed after stored hobserve hstored holder
    have hnot : supersedes parseDate stored put.normalized = false := by
      rw [Bool.eq_false_iff, ne_eq, supersedes_iff]
      rintro ⟨hepoch, hbefore, -⟩
      rcases holder with hlt | hearlier
      · exact absurd hepoch (not_le.mpr hlt)
      · rw [normalized_observedAt, hearlier] at hbefore
        cases hbefore
    have hremember := (observe_eq_ok hobserve).2
    rw [rememberPeerProtocolCapability, normalized_tetiId, hstored] at hremember
    simp only [hnot] at hremember
    obtain ⟨rfl, rfl⟩ := Prod.mk.inj (Except.ok.inj hremember)
    exact ⟨rfl, rfl⟩

end

/-! ### Observations of one peer -/

def betaObservation (epoch : Nat) (versions : List Nat) (observedAt : String) :
    PassportPeerProtocolCapability where
  tetiId := "teti_beta00002"
  collaborationProtocolEpoch := epoch
  taskProtocolVersions := some versions
  passportSchemaVersions := some [4]
  observedAt := JsString.ofString observedAt

def legacyObservation (observedAt : String) : PassportPeerProtocolCapability where
  tetiId := "teti_beta00002"
  collaborationProtocolEpoch := 1
  taskProtocolVersions := none
  passportSchemaVersions := none
  observedAt := JsString.ofString observedAt

def firstObservation := betaObservation 2 [5] "2026-07-27T02:00:00.000Z"
def secondObservation := betaObservation 2 [5, 4] "2026-07-27T03:00:00.000Z"
def earlyLegacyObservation := legacyObservation "2026-07-27T01:30:00.000Z"
def delayedLegacyObservation := legacyObservation "2026-07-27T03:00:00.000Z"

/-- Two observations leave one of both. -/
theorem observations_kept_upgrade :
    let after : PeerProtocolCapabilityStoreState :=
      ⟨[betaObservation 2 [4, 5] "2026-07-27T03:00:00.000Z"]⟩
    after.Valid dateParse ∧ ∃ file', [firstObservation, secondObservation].foldlM
        (fun file capability => Prod.snd <$> observeFile dateParse file capability) none = .ok file'
      ∧ file'.getD emptyPeerProtocolCapabilityStoreState = after :=
  @observations_kept dateParse _ [firstObservation, secondObservation] none
    (validateState_eq_ok.mp rfl) (by decide +kernel)

/-- The last of three observations is stored, although it is taken first. -/
theorem capabilities_orderIndependent_upgrade :
    ((observeAll dateParse emptyPeerProtocolCapabilityStoreState
          [secondObservation, firstObservation, earlyLegacyObservation]).map fun after =>
            after.get "teti_beta00002")
      = .ok (some (betaObservation 2 [4, 5] "2026-07-27T03:00:00.000Z")) := by
  have hmerge := @capabilities_orderIndependent dateParse emptyPeerProtocolCapabilityStoreState
    [firstObservation, earlyLegacyObservation, secondObservation] "teti_beta00002"
    (by decide +kernel) (by decide +kernel) rfl (by decide)
  have hstored := (hmerge.2.1 (betaObservation 2 [4, 5] "2026-07-27T03:00:00.000Z")).mpr
    ⟨secondObservation, ⟨by simp, by decide +kernel, by decide +kernel, by decide +kernel⟩,
      by decide +kernel⟩
  have horder : [secondObservation, firstObservation, earlyLegacyObservation].Perm
      [firstObservation, earlyLegacyObservation, secondObservation] := by decide +kernel
  obtain ⟨after, hafter⟩ := hmerge.1 _ horder
  rw [hafter]
  exact congrArg Except.ok (hstored _ after (by decide +kernel) hafter)

/-- A delayed observation of a lower epoch: whichever of the two comes first is stored. -/
theorem capabilities_of_two_epochs :
    [firstObservation, delayedLegacyObservation].Perm [delayedLegacyObservation, firstObservation]
    ∧ ((observeAll dateParse emptyPeerProtocolCapabilityStoreState
          [firstObservation, delayedLegacyObservation]).map fun after =>
            after.get "teti_beta00002")
      = .ok (some firstObservation)
    ∧ ((observeAll dateParse emptyPeerProtocolCapabilityStoreState
          [delayedLegacyObservation, firstObservation]).map fun after =>
            after.get "teti_beta00002")
      = .ok (some delayedLegacyObservation) :=
  ⟨List.Perm.swap .., by decide +kernel, by decide +kernel⟩

end TetiBot.Passport

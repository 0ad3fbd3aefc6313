import Mathlib.Data.Finset.Dedup
import TetiBot.Tasks.Upkeep

/-
What peers are remembered to speak (`rememberPeerVersions` of `runtime/tasks/service.ts`).

* `validateTaskTransportStoreState_eq_ok`, `validateTaskProtocolVersions_eq_ok`: the checks of the
  store and of a list of versions, one by one.
* `HasRoom`: a peer that is not remembered yet is one of the first 512, and the versions of a
  request fit next to those of its peer.
* `peer_versions_saveable_iff`: the store can be saved after the update exactly if there is room.
-/

namespace TetiBot

open Library

/-! ### The checks -/

/-- A list of versions that passes. -/
structure VersionsValid (versions : List Nat) : Prop where
  nonempty : versions ≠ []
  bounded : versions.length ≤ MAX_TASK_PROTOCOL_VERSIONS
  nodup : versions.Nodup
  range : ∀ version ∈ versions, 1 ≤ version ∧ version ≤ 255

lemma validateTaskProtocolVersions_eq_ok {versions : List Nat} :
    validateTaskProtocolVersions versions = .ok () ↔ VersionsValid versions := by
  rw [validateTaskProtocolVersions, failIf_then_eq_ok, failIf_eq_ok]
  simp only [not_or, not_not, List.length_eq_zero_iff, not_lt, Bool.not_eq_true, List.any_eq_false,
    Bool.or_eq_false_iff, decide_eq_false_iff_not]
  exact ⟨fun ⟨⟨hne, hlen⟩, hnodup, hrange⟩ => ⟨hne, hlen, hnodup, hrange⟩,
    fun h => ⟨⟨h.nonempty, h.bounded⟩, h.nodup, h.range⟩⟩

lemma validatePeer_eq_ok {peer : TetiTaskPeerProtocolCapability} :
    validatePeer peer = .ok ()
      ↔ isCanonicalTetiPublicId peer.tetiId = true ∧ VersionsValid peer.supportedVersions := by
  rw [validatePeer, failIf_then_eq_ok, validateTaskProtocolVersions_eq_ok]
  simp

lemma validateTaskTransportStoreState_eq_ok {state : TaskStore} :
    validateTaskTransportStoreState state = .ok ()
      ↔ state.records.length ≤ MAX_TASK_TRANSPORT_RECORDS
        ∧ state.peers.length ≤ MAX_TASK_TRANSPORT_RECORDS
        ∧ (∀ record ∈ state.records, validateRecord record = .ok ())
        ∧ ∀ peer ∈ state.peers, validatePeer peer = .ok () := by
  rw [validateTaskTransportStoreState, failIf_then_eq_ok, failIf_then_eq_ok, not_lt, not_lt,
    except_bind_eq_ok]
  constructor
  · rintro ⟨hrecords, hpeers, _, hall, hrest⟩
    exact ⟨hrecords, hpeers, forM_eq_ok.mp hall, forM_eq_ok.mp hrest⟩
  · rintro ⟨hrecords, hpeers, hall, hrest⟩
    exact ⟨hrecords, hpeers, (), forM_eq_ok.mpr hall, forM_eq_ok.mpr hrest⟩

/-! ### The update -/

/-- The peer that is remembered by an id. -/
def TetiTaskTransportStoreState.peer? (state : TaskStore) (tetiId : TetiId) :
    Option TetiTaskPeerProtocolCapability :=
  state.peers.find? fun peer => peer.tetiId == tetiId

/-- The versions after the update, sorted and each of them once. -/
lemma versionsValid_normalized {known versions : List Nat}
    (hknown : ∀ version ∈ known, 1 ≤ version ∧ version ≤ 255) (hversions : VersionsValid versions) :
    VersionsValid (known ++ versions).dedup.mergeSort
      ↔ (known.toFinset ∪ versions.toFinset).card ≤ MAX_TASK_PROTOCOL_VERSIONS := by
  have hlength : (known ++ versions).dedup.mergeSort.length
      = (known.toFinset ∪ versions.toFinset).card := by
    rw [List.length_mergeSort, ← List.card_toFinset, List.toFinset_append]
  have hmem : ∀ version, version ∈ (known ++ versions).dedup.mergeSort
      ↔ version ∈ known ∨ version ∈ versions := by
    simp [List.mem_mergeSort]
  constructor
  · intro h
    exact hlength ▸ h.bounded
  · intro h
    refine ⟨fun hnil => ?_, hlength ▸ h, ?_, fun version hversion => ?_⟩
    · obtain ⟨version, hversion⟩ := List.exists_mem_of_ne_nil _ hversions.nonempty
      have hin := (hmem version).mpr (.inr hversion)
      rw [hnil] at hin
      cases hin
    · exact (List.mergeSort_perm ..).nodup_iff.mpr (List.nodup_dedup _)
    · exact ((hmem version).mp hversion).elim (hknown version) (hversions.range version)

lemma mem_updateFirst_of_find? {α : Type} {p : α → Bool} {f : α → α} {l : List α} {a : α}
    (h : l.find? p = some a) : f a ∈ updateFirst p f l := by
  induction l with
  | nil => cases h
  | cons b bs ih =>
    rw [updateFirst]
    by_cases hb : p b = true
    · rw [List.find?_cons_of_pos hb] at h
      obtain rfl := Option.some.inj h
      rw [if_pos hb]
      exact List.mem_cons_self ..
    · rw [List.find?_cons_of_neg hb] at h
      rw [if_neg hb]
      exact List.mem_cons_of_mem _ (ih h)

/-- There is room for what a peer is seen to speak: a peer that is not remembered is one of the
first 512; one that is remembered speaks eight versions at most, those of an older request
among them. -/
def HasRoom (state : TaskStore) (tetiId : TetiId) (versions : List Nat) (observedAt : Timestamp)
    (merge : Bool) : Prop :=
  match state.peer? tetiId with
  | none => state.peers.length < MAX_TASK_TRANSPORT_RECORDS
  | some peer => merge = true → peer.observedAt ≤ observedAt →
      (peer.supportedVersions.toFinset ∪ versions.toFinset).card ≤ MAX_TASK_PROTOCOL_VERSIONS

instance (state : TaskStore) (tetiId : TetiId) (versions : List Nat) (observedAt : Timestamp)
    (merge : Bool) : Decidable (HasRoom state tetiId versions observedAt merge) := by
  unfold HasRoom
  split <;> infer_instance

variable {state : TaskStore} {tetiId : TetiId} {versions : List Nat} {observedAt : Timestamp}
  {merge : Bool}

lemma saveable_new_iff (hvalid : validateTaskTransportStoreState state = .ok ())
    (hid : isCanonicalTetiPublicId tetiId = true) (hversions : VersionsValid versions)
    (hnew : state.peer? tetiId = none) :
    validateTaskTransportStoreState (rememberPeerVersions state tetiId versions observedAt merge)
        = .ok ()
      ↔ state.peers.length < MAX_TASK_TRANSPORT_RECORDS := by
  have hnormalized : VersionsValid versions.dedup.mergeSort := by
    refine (@versionsValid_normalized [] _ (by simp) hversions).mpr ?_
    rw [List.toFinset_nil, Finset.empty_union]
    exact (List.toFinset_card_le versions).trans hversions.bounded
  have hstate : rememberPeerVersions state tetiId versions observedAt merge
      = { state with peers := state.peers ++ [⟨tetiId, versions.dedup.mergeSort, observedAt⟩] } := by
    rw [TetiTaskTransportStoreState.peer?] at hnew
    rw [rememberPeerVersions, hnew]
    cases merge <;> rfl
  rw [validateTaskTransportStoreState_eq_ok] at hvalid
  obtain ⟨hrecords, -, hall, hpeers⟩ := hvalid
  rw [hstate, validateTaskTransportStoreState_eq_ok]
  simp only [List.length_append, List.length_singleton, Nat.succ_le_iff]
  constructor
  · rintro ⟨-, hroom, -⟩
    exact hroom
  · intro hroom
    refine ⟨hrecords, hroom, hall, fun peer hpeer => ?_⟩
    rcases List.mem_append.mp hpeer with hold | hadded
    · exact hpeers peer hold
    · obtain rfl := List.mem_singleton.mp hadded
      exact validatePeer_eq_ok.mpr ⟨hid, hnormalized⟩

/-- A peer that is remembered has its versions replaced, unless it was observed later. -/
lemma saveable_known_iff (hvalid : validateTaskTransportStoreState state = .ok ())
    (hversions : VersionsValid versions) {peer : TetiTaskPeerProtocolCapability}
    (hknown : state.peer? tetiId = some peer) :
    validateTaskTransportStoreState (rememberPeerVersions state tetiId versions observedAt merge)
        = .ok ()
      ↔ (merge = true → peer.observedAt ≤ observedAt →
        (peer.supportedVersions.toFinset ∪ versions.toFinset).card
          ≤ MAX_TASK_PROTOCOL_VERSIONS) := by
  have hchecks := validateTaskTransportStoreState_eq_ok.mp hvalid
  obtain ⟨hrecords, hlength, hall, hpeers⟩ := hchecks
  have hpeer : peer ∈ state.peers := List.mem_of_find?_eq_some hknown
  have hrange := (validatePeer_eq_ok.mp (hpeers peer hpeer)).2.range
  rw [TetiTaskTransportStoreState.peer?] at hknown
  rw [rememberPeerVersions, hknown]
  by_cases hlater : observedAt < peer.observedAt
  · simp only [if_pos hlater]
    exact ⟨fun _ _ hle => absurd hlater hle.not_gt, fun _ => hvalid⟩
  · simp only [if_neg hlater, Option.map_some, Option.getD_some]
    have hcard : (merge = true → peer.observedAt ≤ observedAt →
        (peer.supportedVersions.toFinset ∪ versions.toFinset).card ≤ MAX_TASK_PROTOCOL_VERSIONS)
        ↔ VersionsValid ((if merge then peer.supportedVersions else []) ++ versions).dedup.mergeSort := by
      cases merge with
      | true =>
        rw [if_pos rfl, versionsValid_normalized hrange hversions]
        exact ⟨fun h => h rfl (not_lt.mp hlater), fun h _ _ => h⟩
      | false =>
        simp only [Bool.false_eq_true, if_false, false_implies, true_iff]
        refine (@versionsValid_normalized [] _ (by simp) hversions).mpr ?_
        rw [List.toFinset_nil, Finset.empty_union]
        exact (List.toFinset_card_le versions).trans hversions.bounded
    rw [hcard, validateTaskTransportStoreState_eq_ok]
    constructor
    · rintro ⟨-, -, -, hafter⟩
      exact (validatePeer_eq_ok.mp (hafter _ (mem_updateFirst_of_find? hknown))).2
    · intro hnormalized
      refine ⟨hrecords, by simpa using hlength, hall, fun other hother => ?_⟩
      rcases mem_updateFirst hother with hold | ⟨old, hold, -, rfl⟩
      · exact hpeers other hold
      · exact validatePeer_eq_ok.mpr ⟨(validatePeer_eq_ok.mp (hpeers old hold)).1, hnormalized⟩

/-- **The versions of a peer leave the store saveable exactly if there is room for them.** -/
theorem peer_versions_saveable_iff (hvalid : validateTaskTransportStoreState state = .ok ())
    (hid : isCanonicalTetiPublicId tetiId = true)
    (hversions : validateTaskProtocolVersions versions = .ok ()) :
    validateTaskTransportStoreState (rememberPeerVersions state tetiId versions observedAt merge)
        = .ok ()
      ↔ HasRoom state tetiId versions observedAt merge := by
  rw [validateTaskProtocolVersions_eq_ok] at hversions
  rw [HasRoom]
  cases hpeer : state.peer? tetiId with
  | none => exact saveable_new_iff hvalid hid hversions hpeer
  | some peer => exact saveable_known_iff hvalid hversions hpeer

/-- A store that knows one peer, which has advertised eight versions. -/
def talkativeStore : TaskStore :=
  ⟨[], [⟨"teti_aaaaaaaaa", [101, 102, 103, 104, 105, 106, 107, 108], 0⟩]⟩

/-- A request of the current version is the ninth. -/
theorem request_makes_store_unsaveable :
    validateTaskTransportStoreState talkativeStore = .ok ()
      ∧ isCanonicalTetiPublicId "teti_aaaaaaaaa" = true
      ∧ validateTaskProtocolVersions [7] = .ok ()
      ∧ validateTaskTransportStoreState
          (rememberPeerVersions talkativeStore "teti_aaaaaaaaa" [7] 1 true) ≠ .ok () := by
  have hvalid : validateTaskTransportStoreState talkativeStore = .ok () := by decide +kernel
  have hversions : VersionsValid [7] :=
    validateTaskProtocolVersions_eq_ok.mp (by decide +kernel)
  have hknown : talkativeStore.peer? "teti_aaaaaaaaa"
      = some ⟨"teti_aaaaaaaaa", [101, 102, 103, 104, 105, 106, 107, 108], 0⟩ := by decide +kernel
  refine ⟨hvalid, by decide +kernel, by decide +kernel, fun hsaveable => ?_⟩
  have hnine := (saveable_known_iff hvalid hversions hknown).mp hsaveable rfl (by decide)
  exact absurd hnine (by decide)

/-- The advertised versions themselves are replaced, and fit. -/
theorem peer_versions_saveable_example :
    validateTaskTransportStoreState
        (rememberPeerVersions talkativeStore "teti_aaaaaaaaa" [7] 1 false) = .ok () :=
  (peer_versions_saveable_iff (by decide +kernel) (by decide +kernel) (by decide +kernel)).mpr
    (by decide +kernel)

end TetiBot

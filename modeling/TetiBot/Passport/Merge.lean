import TetiBot.Passport.Content
import TetiBot.Library.Register
import Mathlib.Data.Prod.Lex

/-
The passport that is kept of a peer (`lifecycle-sidecar/connections.ts`).

* `receivePassport`: a payload replaces the stored one unless that one comes later
  (`shouldReplaceRemoteAiStatus`).
* `observeRemotePassportLease`: a lease extends the validity of the stored payload.
* `payload_run`: leases and failed writes apart, the stored payload is a register of
  the newest payload.
* `passports_merge`: payloads of different versions or times leave the same payload,
  the last one in the order of the code, however they are delivered.
-/

namespace TetiBot

open Library Library.Json

namespace Passport

def AI_STATUS_TTL_MS : Int := 5 * 60 * 1000
def AI_STATUS_SELF_CHECK_INTERVAL_MS : Int := 60 * 1000

/-- A payload that the contract accepted, with what the order of the payloads reads. -/
structure AiStatusSyncPayload (parseDate : JsString → Option Timestamp) where
  fields : List (String × Json)
  schemaVersion : Nat
  generatedAt : JsString
  generatedTime : Timestamp
  hasVersion : lookup fields "schemaVersion" = some (.num schemaVersion)
  hasGeneratedAt : lookup fields "generatedAt" = some (.str generatedAt)
  hasTime : parseDate generatedAt = some generatedTime

/-- A payload with the notes of the receiver. -/
structure RemoteAiStatusSnapshot (parseDate : JsString → Option Timestamp) where
  payload : AiStatusSyncPayload parseDate
  receivedAt : Timestamp
  validUntil : Option Timestamp
  contentHash : Option String
  leaseCheckedAt : Option JsString
  leaseReceivedAt : Option Timestamp

inductive PassportRefreshReason
  | startup
  | snapshot_missing
  | snapshot_mismatch
  deriving DecidableEq

structure PassportRefreshRequest where
  requestedAt : Timestamp
  reason : PassportRefreshReason
  deriving DecidableEq

/-- What is known of one connection: in memory, in the file, and whether a refresh was
asked for. -/
structure RemotePassport (parseDate : JsString → Option Timestamp) where
  memory : Option (RemoteAiStatusSnapshot parseDate)
  file : Option (RemoteAiStatusSnapshot parseDate)
  refreshRequest : Option PassportRefreshRequest

structure PassportLease where
  contentHash : String
  checkedAt : JsString
  deriving DecidableEq

variable {parseDate : JsString → Option Timestamp}

/-! ### Payloads -/

/-- `shouldReplaceRemoteAiStatus`. -/
def shouldReplaceRemoteAiStatus (existing incoming : AiStatusSyncPayload parseDate) : Bool :=
  if incoming.schemaVersion ≠ existing.schemaVersion then
    existing.schemaVersion < incoming.schemaVersion
  else existing.generatedTime ≤ incoming.generatedTime

/-- `validReceivedHeartbeatTimestamp`. -/
def validReceivedHeartbeatTimestamp (parseDate : JsString → Option Timestamp)
    (receivedAt : Option JsString) (now : Timestamp) : Timestamp :=
  match receivedAt.bind parseDate with
  | none => now
  | some timestamp => if now < timestamp then now else timestamp

variable (sha256 : JsString → String)

/-- The snapshot of a payload that is taken. -/
def receivedSnapshot (existing : Option (RemoteAiStatusSnapshot parseDate))
    (payload : AiStatusSyncPayload parseDate) (observedAt : Timestamp) :
    RemoteAiStatusSnapshot parseDate where
  payload := payload
  receivedAt := (existing.elim observedAt fun snapshot => max snapshot.receivedAt observedAt)
  validUntil :=
    some (max (observedAt + AI_STATUS_TTL_MS) ((existing.bind (·.validUntil)).getD 0))
  contentHash := (aiStatusContentHash sha256 (.obj payload.fields)).toOption
  leaseCheckedAt := some payload.generatedAt
  leaseReceivedAt := some observedAt

variable (held : RemotePassport parseDate)

/-- `remotePassportStore.upsert`, which may fail. -/
def RemotePassport.upsert
    (snapshot : RemoteAiStatusSnapshot parseDate) (written : Bool) : RemotePassport parseDate :=
  { held with
    memory := some snapshot
    file := if written then some snapshot else held.file }

/-- A message with a payload. -/
def receivePassport (payload : AiStatusSyncPayload parseDate)
    (receivedAt : Option JsString) (now : Timestamp) (written : Bool) : RemotePassport parseDate :=
  if held.memory.all fun existing => shouldReplaceRemoteAiStatus existing.payload payload then
    { held.upsert (receivedSnapshot sha256 held.memory payload
        (validReceivedHeartbeatTimestamp parseDate receivedAt now)) written with
      refreshRequest := none }
  else held

/-! ### Leases -/

inductive LeaseIgnored
  | snapshot_missing
  | hash_mismatch
  | delivery_stale
  | replayed
  deriving DecidableEq

/-- `Date.parse(left) <= Date.parse(right)`. -/
def notAfter (parseDate : JsString → Option Timestamp) (left right : JsString) : Bool :=
  match parseDate left, parseDate right with
  | some l, some r => l ≤ r
  | _, _ => false

/-- Why a lease is not taken. -/
def ignoredReason (snapshot : Option (RemoteAiStatusSnapshot parseDate)) (lease : PassportLease)
    (observedAt now : Timestamp) : Option LeaseIgnored :=
  match snapshot with
  | none => some .snapshot_missing
  | some snapshot =>
    if snapshot.contentHash ≠ some lease.contentHash then some .hash_mismatch
    else if AI_STATUS_TTL_MS < now - observedAt then some .delivery_stale
    else if snapshot.leaseCheckedAt.any (notAfter parseDate lease.checkedAt) then some .replayed
    else none

/-- `queuePassportRefreshRequest`. -/
def queuePassportRefreshRequest (reason : PassportRefreshReason)
    (now : Timestamp) : RemotePassport parseDate :=
  if held.refreshRequest.all fun existing => existing.reason ≠ reason
      ∨ AI_STATUS_SELF_CHECK_INTERVAL_MS ≤ now - existing.requestedAt then
    { held with refreshRequest := some ⟨now, reason⟩ }
  else held

/-- `observeRemotePassportLease`. -/
def observeRemotePassportLease (lease : PassportLease)
    (observedAt now : Timestamp) (written : Bool) : RemotePassport parseDate :=
  match ignoredReason held.memory lease observedAt now, held.memory with
  | none, some snapshot =>
    held.upsert
      { snapshot with
        validUntil := some (max (observedAt + AI_STATUS_TTL_MS) (snapshot.validUntil.getD 0))
        leaseCheckedAt := some lease.checkedAt
        leaseReceivedAt := some observedAt }
      written
  | some .hash_mismatch, _ => queuePassportRefreshRequest held .snapshot_mismatch now
  | some .delivery_stale, _ => held
  | some .replayed, _ => held
  | _, _ => queuePassportRefreshRequest held .snapshot_missing now

/-! ### Runs -/

/-- A message of the peer, and whether the file could be written. -/
inductive PassportEvent (parseDate : JsString → Option Timestamp)
  | passport (payload : AiStatusSyncPayload parseDate) (receivedAt : Option JsString)
      (now : Timestamp) (written : Bool)
  | lease (lease : PassportLease) (receivedAt : Option JsString) (now : Timestamp)
      (written : Bool)

def PassportEvent.payload : PassportEvent parseDate → Option (AiStatusSyncPayload parseDate)
  | .passport payload _ _ _ => some payload
  | .lease _ _ _ _ => none

def PassportEvent.written : PassportEvent parseDate → Bool
  | .passport _ _ _ written => written
  | .lease _ _ _ written => written

def step : PassportEvent parseDate → RemotePassport parseDate
  | .passport payload receivedAt now written =>
    receivePassport sha256 held payload receivedAt now written
  | .lease lease receivedAt now written =>
    observeRemotePassportLease held lease
      (validReceivedHeartbeatTimestamp parseDate receivedAt now) now written

variable (events : List (PassportEvent parseDate))

def run : RemotePassport parseDate :=
  events.foldl (step sha256) held

/-- The payloads that the messages brought. -/
def delivered : List (AiStatusSyncPayload parseDate) :=
  events.filterMap PassportEvent.payload

/-- The payload that is stored. -/
def RemotePassport.payload : Option (AiStatusSyncPayload parseDate) :=
  held.memory.map RemoteAiStatusSnapshot.payload

/-! ### The order of the payloads -/

/-- The version first, then the time. -/
def AiStatusSyncPayload.precedence (payload : AiStatusSyncPayload parseDate) : ℕ ×ₗ ℤ :=
  toLex (payload.schemaVersion, payload.generatedTime)

/-- **The comparison of the code is a total order.** -/
lemma shouldReplace_iff {existing incoming : AiStatusSyncPayload parseDate} :
    shouldReplaceRemoteAiStatus existing incoming = true
      ↔ existing.precedence ≤ incoming.precedence := by
  rw [AiStatusSyncPayload.precedence, AiStatusSyncPayload.precedence, Prod.Lex.toLex_le_toLex,
    shouldReplaceRemoteAiStatus]
  by_cases h : incoming.schemaVersion = existing.schemaVersion
  · simp [h]
  · simp only [ne_eq, h, not_false_eq_true, if_true, decide_eq_true_eq]
    omega

/-! ### One message -/

@[simp] lemma upsert_payload (snapshot : RemoteAiStatusSnapshot parseDate) (written : Bool) :
    (held.upsert snapshot written).payload = some snapshot.payload := rfl

lemma receivePassport_payload
    (payload : AiStatusSyncPayload parseDate) (receivedAt : Option JsString) (now : Timestamp)
    (written : Bool) :
    (receivePassport sha256 held payload receivedAt now written).payload
      = Register.put AiStatusSyncPayload.precedence held.payload payload := by
  rw [receivePassport]
  cases hmemory : held.memory with
  | none =>
    have hheld : held.payload = none := by rw [RemotePassport.payload, hmemory]; rfl
    rw [hheld]
    rfl
  | some existing =>
    have hheld : held.payload = some existing.payload := by
      rw [RemotePassport.payload, hmemory]
      rfl
    rw [hheld, Register.put, Option.all_some]
    by_cases h : existing.payload.precedence ≤ payload.precedence
    · rw [if_pos (shouldReplace_iff.mpr h), if_pos h]
      rfl
    · rw [if_neg fun hreplace => h (shouldReplace_iff.mp hreplace), if_neg h, hheld]

lemma queuePassportRefreshRequest_memory (reason : PassportRefreshReason) (now : Timestamp) :
    (queuePassportRefreshRequest held reason now).memory = held.memory
      ∧ (queuePassportRefreshRequest held reason now).file = held.file := by
  rw [queuePassportRefreshRequest]
  split_ifs
  · exact ⟨rfl, rfl⟩
  · exact ⟨rfl, rfl⟩

/-- What a lease does: it changes the notes of the stored payload, or neither the memory
nor the file. -/
lemma observeRemotePassportLease_cases (lease : PassportLease)
    (observedAt now : Timestamp) (written : Bool) :
    (∃ snapshot renewed, held.memory = some snapshot ∧ renewed.payload = snapshot.payload
      ∧ observeRemotePassportLease held lease observedAt now written = held.upsert renewed written)
    ∨ (observeRemotePassportLease held lease observedAt now written).memory = held.memory
      ∧ (observeRemotePassportLease held lease observedAt now written).file = held.file := by
  rw [observeRemotePassportLease]
  split
  · rename_i snapshot _ hmemory
    refine .inl ⟨snapshot, _, hmemory, ?_, rfl⟩
    rfl
  · exact .inr (queuePassportRefreshRequest_memory held _ now)
  · exact .inr ⟨rfl, rfl⟩
  · exact .inr ⟨rfl, rfl⟩
  · exact .inr (queuePassportRefreshRequest_memory held _ now)

lemma observeRemotePassportLease_payload (lease : PassportLease)
    (observedAt now : Timestamp) (written : Bool) :
    (observeRemotePassportLease held lease observedAt now written).payload = held.payload := by
  obtain ⟨snapshot, renewed, hmemory, hpayload, hupsert⟩ | ⟨hmemory, _⟩ :=
    observeRemotePassportLease_cases held lease observedAt now written
  · rw [hupsert, upsert_payload, hpayload, RemotePassport.payload, hmemory]
    rfl
  · rw [RemotePassport.payload, hmemory]
    rfl

/-- A message that could be written leaves the file as the memory. -/
lemma step_written (event : PassportEvent parseDate)
    (hsynced : held.file = held.memory) (hwritten : event.written = true) :
    (step sha256 held event).file = (step sha256 held event).memory := by
  cases event with
  | passport payload receivedAt now written =>
    obtain rfl : written = true := hwritten
    rw [step, receivePassport]
    split_ifs
    · rfl
    · exact hsynced
  | lease lease receivedAt now written =>
    obtain rfl : written = true := hwritten
    rw [step]
    obtain ⟨_, renewed, _, _, hupsert⟩ | ⟨hmemory, hfile⟩ :=
      observeRemotePassportLease_cases held lease
        (validReceivedHeartbeatTimestamp parseDate receivedAt now) now true
    · rw [hupsert]
      rfl
    · rw [hmemory, hfile, hsynced]

/-! ### All messages -/

/-- **The stored payload is a register**: of the messages, only the payloads matter. -/
theorem payload_run : (run sha256 held events).payload
      = (delivered events).foldl (Register.put AiStatusSyncPayload.precedence) held.payload := by
  induction events generalizing held with
  | nil => rfl
  | cons event events ih =>
    rw [run, List.foldl_cons]
    refine (ih (step sha256 held event)).trans ?_
    cases event with
    | passport payload receivedAt now written =>
      rw [step, receivePassport_payload]
      rfl
    | lease lease receivedAt now written =>
      rw [step, observeRemotePassportLease_payload]
      rfl

theorem run_written {held : RemotePassport parseDate} {events : List (PassportEvent parseDate)}
    (hsynced : held.file = held.memory) (hwritten : ∀ event ∈ events, event.written = true) :
    (run sha256 held events).file = (run sha256 held events).memory := by
  induction events generalizing held with
  | nil => exact hsynced
  | cons event events ih =>
    have hstep := step_written sha256 held event hsynced (hwritten event (List.mem_cons_self ..))
    exact ih hstep fun later hlater => hwritten later (List.mem_cons_of_mem event hlater)

/-- Payloads with different versions or times have a last one. -/
lemma exists_newest {payloads : List (AiStatusSyncPayload parseDate)} (hne : payloads ≠ []) :
    ∃ newest ∈ payloads, ∀ p ∈ payloads, p.precedence ≤ newest.precedence := by
  obtain ⟨newest, hmem, hmax⟩ :=
    Set.exists_max_image {p | p ∈ payloads} AiStatusSyncPayload.precedence
      (List.finite_toSet payloads) (List.exists_mem_of_ne_nil payloads hne)
  exact ⟨newest, hmem, hmax⟩

end Passport

open Passport in
/-- **The stored passport does not depend on the deliveries.** Of payloads that differ in
their versions or in the times they were generated at, one comes last in the order of
the code, and it is stored after all of them were received, in any order, any number
of times, with any leases in between and whether or not the file could be written;
where it could, the file has it too. -/
theorem passports_merge (sha256 : JsString → String) {parseDate : JsString → Option Timestamp}
    (payloads : List (AiStatusSyncPayload parseDate)) (hne : payloads ≠ [])
    (hdistinct : ∀ p ∈ payloads, ∀ q ∈ payloads, p.schemaVersion = q.schemaVersion →
      p.generatedTime = q.generatedTime → p = q) :
    ∃ newest ∈ payloads,
      (∀ p ∈ payloads, shouldReplaceRemoteAiStatus p newest = true
        ∧ (shouldReplaceRemoteAiStatus newest p = true → p = newest))
      ∧ ∀ held events, (∀ p, p ∈ payloads ↔ held.payload = some p ∨ p ∈ delivered events) →
        (run sha256 held events).payload = some newest
        ∧ (held.file = held.memory → (∀ event ∈ events, event.written = true) →
          (run sha256 held events).file = (run sha256 held events).memory) := by
  obtain ⟨newest, hmem, hnewest⟩ := exists_newest hne
  have hinjective : ∀ p ∈ payloads, p.precedence = newest.precedence → p = newest := by
    intro p hp hsame
    have hparts := Prod.ext_iff.mp (toLex.injective hsame)
    exact hdistinct p hp newest hmem hparts.1 hparts.2
  refine ⟨newest, hmem, fun p hp => ⟨shouldReplace_iff.mpr (hnewest p hp), fun hback => ?_⟩, ?_⟩
  · exact hinjective p hp (le_antisymm (hnewest p hp) (shouldReplace_iff.mp hback))
  · intro held events hcovers
    refine ⟨?_, run_written sha256⟩
    rw [payload_run]
    exact Register.foldl_put ((hcovers newest).mp hmem)
      (fun p hp => hnewest p ((hcovers p).mpr hp)) fun p hp => hinjective p ((hcovers p).mpr hp)

namespace Passport

/-- A payload whose tools are shared. -/
def sharedPayload : AiStatusSyncPayload dateParse where
  fields := passportFields shareEverything (codexPassport "2026-07-18T00:59:00.000Z") 4
    "2026-07-18T01:00:00.000Z" "2026-07-18T01:05:00.000Z"
  schemaVersion := 4
  generatedAt := JsString.ofString "2026-07-18T01:00:00.000Z"
  generatedTime := 1784336400000
  hasVersion := rfl
  hasGeneratedAt := rfl
  hasTime := by decide +kernel

/-- A payload of the same instant, written without milliseconds, that shares nothing. -/
def emptyPayload : AiStatusSyncPayload dateParse where
  fields := passportFields ⟨false, false, false, false⟩
    (codexPassport "2026-07-18T00:59:00.000Z") 4 "2026-07-18T01:00:00Z" "2026-07-18T01:05:00Z"
  schemaVersion := 4
  generatedAt := JsString.ofString "2026-07-18T01:00:00Z"
  generatedTime := 1784336400000
  hasVersion := rfl
  hasGeneratedAt := rfl
  hasTime := by decide +kernel

/-- A payload of the next minute. -/
def laterPayload : AiStatusSyncPayload dateParse where
  fields := passportFields shareEverything (codexPassport "2026-07-18T00:59:00.000Z") 4
    "2026-07-18T01:01:00.000Z" "2026-07-18T01:06:00.000Z"
  schemaVersion := 4
  generatedAt := JsString.ofString "2026-07-18T01:01:00.000Z"
  generatedTime := 1784336460000
  hasVersion := rfl
  hasGeneratedAt := rfl
  hasTime := by decide +kernel

/-- No passport is stored. -/
def noPassport : RemotePassport dateParse := ⟨none, none, none⟩

/-- The payload is received a second after it was generated. -/
def received (payload : AiStatusSyncPayload dateParse) : PassportEvent dateParse :=
  .passport payload (some (JsString.ofString "2026-07-18T01:00:01.000Z")) 1784336402000 true

end Passport

open Passport in
theorem passports_merge_later :
    ∃ newest, shouldReplaceRemoteAiStatus laterPayload newest = true
      ∧ (run (fun _ => codexDigest) noPassport
          [received laterPayload, received sharedPayload]).payload = some newest := by
  obtain ⟨newest, _, hlast, hstored⟩ :=
    passports_merge (fun _ => codexDigest) [sharedPayload, laterPayload] (by simp) (by
      intro p hp q hq _ htime
      simp only [List.mem_cons, List.not_mem_nil, or_false] at hp hq
      obtain rfl | rfl := hp <;> obtain rfl | rfl := hq
      · rfl
      · exact absurd htime (by decide)
      · exact absurd htime (by decide)
      · rfl)
  refine ⟨newest, (hlast laterPayload (by simp)).1, (hstored noPassport _ fun p => ?_).1⟩
  simp [delivered, received, PassportEvent.payload, RemotePassport.payload, noPassport, or_comm]

open Passport in
/-- **Two spellings of one instant**: the payload that is received last is stored. -/
theorem passports_of_one_instant :
    (sharedPayload.schemaVersion, sharedPayload.generatedAt)
        ≠ (emptyPayload.schemaVersion, emptyPayload.generatedAt)
      ∧ (∀ p ∈ [sharedPayload, emptyPayload], validateApplicationEnvelope codexContract
          (passportEnvelope "message-1" "teti_abc123def" "2026-07-18T01:00:00.000Z"
            (.obj p.fields)) = .ok ())
      ∧ (run (fun _ => codexDigest) noPassport
          [received sharedPayload, received emptyPayload]).payload = some emptyPayload
      ∧ (run (fun _ => codexDigest) noPassport
          [received emptyPayload, received sharedPayload]).payload = some sharedPayload := by
  refine ⟨by decide +kernel, by decide +kernel, ?_, ?_⟩
  · rw [payload_run]
    rfl
  · rw [payload_run]
    rfl

end TetiBot

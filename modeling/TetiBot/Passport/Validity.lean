import TetiBot.Passport.Merge
import TetiBot.Library.Transition

/-
How long the stored passport of a peer is valid (`lifecycle-sidecar/connections.ts`).

* `Observed`: the stored passport with what was received so far: the times of the
  messages, and the leases that were taken.
* `PassportChange`: a message; a restart, which loads the entry or loses it; and its
  removal with the relationship.
* `KeepsValidity`: what a message does to `validUntil`.
* `validity_of_orderly`: it holds along every run in which no payload is taken that is
  older than a lease that was taken, and no restart loads such an entry.

A payload that is taken puts its own time in the place of the last check, also where
that one is later or was lost with the entry; a lease that was already taken then
counts as new.
-/

namespace TetiBot

open Library Library.Json

namespace Passport

variable {parseDate : JsString → Option Timestamp} (sha256 : JsString → String)

/-! ### Messages, restarts and removals -/

/-- The time of the check in a lease is one that `requireTimestamp` of the contract
accepts. -/
def PassportEvent.Accepted : PassportEvent parseDate → Prop
  | .passport _ _ _ _ => True
  | .lease sent _ _ _ => (parseDate sent.checkedAt).isSome = true

/-- When a message was received. -/
def PassportEvent.observedAt : PassportEvent parseDate → Timestamp
  | .passport _ receivedAt now _ => validReceivedHeartbeatTimestamp parseDate receivedAt now
  | .lease _ receivedAt now _ => validReceivedHeartbeatTimestamp parseDate receivedAt now

/-- What `ensureReady` makes of the entry: it loads it; it removes it, as it belongs to no
connection that is authorized with this peer; or it fails before. -/
inductive PassportLoad
  | loaded
  | pruned (authorized : Bool)
  | failed (authorized : Bool)

/-- What happens to the entry of a connection. -/
inductive PassportChange (parseDate : JsString → Option Timestamp)
  | message (event : PassportEvent parseDate) (accepted : event.Accepted)
  | restart (now : Timestamp) (load : PassportLoad)
  | removed (written : Bool)

/-- The stored passport, and what was received of it so far. -/
structure Observed (parseDate : JsString → Option Timestamp) where
  held : RemotePassport parseDate
  /-- When the messages were received. -/
  received : List Timestamp
  /-- The leases that were taken. -/
  taken : List PassportLease

def Observed.empty : Observed parseDate := ⟨⟨none, none, none⟩, [], []⟩

/-- `validUntil` of the stored passport. -/
def Observed.validUntil (s : Observed parseDate) : Option Timestamp :=
  s.held.memory.bind (·.validUntil)

variable (held : RemotePassport parseDate)

/-- The lease that a message brings, if it is taken. -/
def takenLease : PassportEvent parseDate → Option PassportLease
  | .passport _ _ _ _ => none
  | .lease lease receivedAt now _ =>
    if ignoredReason held.memory lease (validReceivedHeartbeatTimestamp parseDate receivedAt now)
        now = none then some lease
    else none

/-- `ensureReady`: a refresh is asked for if the connection is authorized. -/
def restart (now : Timestamp) : PassportLoad → RemotePassport parseDate
  | .loaded => ⟨held.file, held.file, some ⟨now, .startup⟩⟩
  | .pruned authorized => ⟨none, none, if authorized then some ⟨now, .startup⟩ else none⟩
  | .failed authorized => ⟨none, held.file, if authorized then some ⟨now, .startup⟩ else none⟩

/-- `removeRemotePassport`. -/
def removeRemotePassport (written : Bool) : RemotePassport parseDate :=
  ⟨none, if written then none else held.file, none⟩

def Observed.step (s : Observed parseDate) : PassportChange parseDate → Observed parseDate
  | .message event _ =>
    { held := Passport.step sha256 s.held event
      received := event.observedAt :: s.received
      taken := (takenLease s.held event).toList ++ s.taken }
  | .restart now load => { s with held := restart s.held now load }
  | .removed written => { s with held := removeRemotePassport s.held written }

/-- The change leads from one state to the other. -/
def Step (s t : Observed parseDate) : Prop := ∃ change, s.step sha256 change = t

/-! ### Validity -/

variable (s : Observed parseDate)

/-- The lease was taken before, or one that was checked no earlier. -/
def Replayed (lease : PassportLease) : Prop :=
  ∃ earlier ∈ s.taken, notAfter parseDate lease.checkedAt earlier.checkedAt = true

/-- The lease is about other content than that of the stored payload. -/
def HashDiffers (lease : PassportLease) : Prop :=
  ∀ snapshot, s.held.memory = some snapshot →
    aiStatusContentHash sha256 (.obj snapshot.payload.fields) ≠ .ok lease.contentHash

/-- What a message does to the validity: it does not decrease, it ends at most the fixed
time after some message was received, and a lease that is replayed or is about other
content leaves it. -/
structure KeepsValidity (s : Observed parseDate) (event : PassportEvent parseDate)
    (accepted : event.Accepted) : Prop where
  kept : ∀ before, s.validUntil = some before →
    ∃ after, (s.step sha256 (.message event accepted)).validUntil = some after ∧ before ≤ after
  bounded : ∀ after, (s.step sha256 (.message event accepted)).validUntil = some after →
    ∃ observedAt ∈ event.observedAt :: s.received, after ≤ observedAt + AI_STATUS_TTL_MS
  honest : ∀ lease receivedAt now written, event = .lease lease receivedAt now written →
    Replayed s lease ∨ HashDiffers sha256 s lease →
    (s.step sha256 (.message event accepted)).validUntil = s.validUntil

/-- No lease that was taken was checked after this time. -/
def NoneLater (time : JsString) : Prop :=
  ∀ lease ∈ s.taken, notAfter parseDate lease.checkedAt time = true

/-- The payload is not taken; or it was generated no earlier than the leases that were
taken, and a first payload is not received before 1970. -/
def InOrder (payload : AiStatusSyncPayload parseDate) (observedAt : Timestamp) : Prop :=
  (s.held.memory.all fun existing => shouldReplaceRemoteAiStatus existing.payload payload) = true →
    NoneLater s payload.generatedAt
      ∧ (s.held.memory = none → 0 ≤ observedAt + AI_STATUS_TTL_MS)

/-- The last check is not set back: not by a payload, and not by an entry that is loaded. -/
def Orderly : PassportChange parseDate → Prop
  | .message (.passport payload receivedAt now _) _ =>
    InOrder s payload (validReceivedHeartbeatTimestamp parseDate receivedAt now)
  | .restart _ .loaded => ∀ snapshot, s.held.file = some snapshot →
    ∀ checked, snapshot.leaseCheckedAt = some checked → NoneLater s checked
  | _ => True

/-- The orderly steps. -/
def OrderlyStep (s t : Observed parseDate) : Prop :=
  ∃ change, Orderly s change ∧ s.step sha256 change = t

/-! ### The order of the checks -/

lemma notAfter_iff {left right : JsString} : notAfter parseDate left right = true
    ↔ ∃ l r, parseDate left = some l ∧ parseDate right = some r ∧ l ≤ r := by
  rw [notAfter]
  cases hleft : parseDate left <;> cases hright : parseDate right <;> simp

lemma notAfter_trans {first second third : JsString}
    (h : notAfter parseDate first second = true) (h' : notAfter parseDate second third = true) :
    notAfter parseDate first third = true := by
  obtain ⟨a, b, ha, hb, hab⟩ := notAfter_iff.mp h
  obtain ⟨b', c, hb', hc, hbc⟩ := notAfter_iff.mp h'
  obtain rfl := Option.some.inj (hb.symm.trans hb')
  exact notAfter_iff.mpr ⟨a, c, ha, hc, hab.trans hbc⟩

lemma notAfter_refl {time : JsString} (h : (parseDate time).isSome = true) :
    notAfter parseDate time time = true := by
  obtain ⟨t, ht⟩ := Option.isSome_iff_exists.mp h
  exact notAfter_iff.mpr ⟨t, t, ht, ht, le_refl t⟩

/-- Of two times that can be read, one is not after the other. -/
lemma notAfter_of_not {left right : JsString} (hleft : (parseDate left).isSome = true)
    (hright : (parseDate right).isSome = true) (h : notAfter parseDate left right ≠ true) :
    notAfter parseDate right left = true := by
  obtain ⟨l, hl⟩ := Option.isSome_iff_exists.mp hleft
  obtain ⟨r, hr⟩ := Option.isSome_iff_exists.mp hright
  have hlt : ¬l ≤ r := fun hle => h (notAfter_iff.mpr ⟨l, r, hl, hr, hle⟩)
  exact notAfter_iff.mpr ⟨r, l, hr, hl, (not_le.mp hlt).le⟩

/-! ### What one message does -/

variable (held : RemotePassport parseDate)

/-- A message with a payload leaves the entry, or stores a snapshot of the payload. -/
lemma memory_receivePassport
    (payload : AiStatusSyncPayload parseDate) (receivedAt : Option JsString) (now : Timestamp)
    (written : Bool) :
    (receivePassport sha256 held payload receivedAt now written).memory
      = if held.memory.all fun existing => shouldReplaceRemoteAiStatus existing.payload payload then
          some (receivedSnapshot sha256 held.memory payload
            (validReceivedHeartbeatTimestamp parseDate receivedAt now))
        else held.memory := by
  rw [receivePassport]
  split_ifs <;> rfl

/-- A lease leaves the entry, or renews the stored snapshot. -/
lemma memory_observeRemotePassportLease (lease : PassportLease)
    (observedAt now : Timestamp) (written : Bool) :
    (observeRemotePassportLease held lease observedAt now written).memory
      = if ignoredReason held.memory lease observedAt now = none then
          held.memory.map fun snapshot => { snapshot with
            validUntil := some (max (observedAt + AI_STATUS_TTL_MS) (snapshot.validUntil.getD 0))
            leaseCheckedAt := some lease.checkedAt
            leaseReceivedAt := some observedAt }
        else held.memory := by
  rw [observeRemotePassportLease]
  cases hmemory : held.memory with
  | none => simp [ignoredReason, queuePassportRefreshRequest_memory, hmemory]
  | some snapshot =>
    cases hreason : ignoredReason (some snapshot) lease observedAt now with
    | none => simp [RemotePassport.upsert]
    | some reason =>
      cases reason <;> simp [queuePassportRefreshRequest_memory, hmemory]

variable {snapshot : RemoteAiStatusSnapshot parseDate} {lease : PassportLease}
  {observedAt : Timestamp}

/-- A lease that is taken is about the content of the stored payload, and was checked
after the last check. -/
lemma ignoredReason_eq_none {now : Timestamp}
    (h : ignoredReason (some snapshot) lease observedAt now = none) :
    snapshot.contentHash = some lease.contentHash
      ∧ snapshot.leaseCheckedAt.any (notAfter parseDate lease.checkedAt) = false := by
  simp only [ignoredReason] at h
  split_ifs at h with hhash hstale hreplayed
  exact ⟨not_not.mp hhash, by simpa using hreplayed⟩

/-! ### The invariant -/

/-- What is known of a snapshot in memory or in the file. -/
structure SnapshotSound (s : Observed parseDate) (snapshot : RemoteAiStatusSnapshot parseDate) :
    Prop where
  validUntil : ∃ ends, snapshot.validUntil = some ends ∧ 0 ≤ ends
    ∧ ∃ observedAt ∈ s.received, ends ≤ observedAt + AI_STATUS_TTL_MS
  contentHash : snapshot.contentHash
    = (aiStatusContentHash sha256 (.obj snapshot.payload.fields)).toOption
  checked : ∃ checked, snapshot.leaseCheckedAt = some checked ∧ (parseDate checked).isSome = true

/-- Both snapshots are sound, and no lease that was taken is later than the last check of
the one in memory. -/
structure Honest (s : Observed parseDate) : Prop where
  memory : ∀ snapshot, s.held.memory = some snapshot → SnapshotSound sha256 s snapshot
  file : ∀ snapshot, s.held.file = some snapshot → SnapshotSound sha256 s snapshot
  fresh : ∀ snapshot, s.held.memory = some snapshot →
    ∀ checked, snapshot.leaseCheckedAt = some checked → NoneLater s checked

lemma honest_empty : Honest sha256 (Observed.empty : Observed parseDate) where
  memory := by simp [Observed.empty]
  file := by simp [Observed.empty]
  fresh := by simp [Observed.empty]

variable {sha256} {s : Observed parseDate} {t : Observed parseDate}

/-- A later message changes nothing of what is known of a snapshot that it leaves. -/
lemma SnapshotSound.later (h : SnapshotSound sha256 s snapshot)
    (hreceived : ∀ observedAt ∈ s.received, observedAt ∈ t.received) :
    SnapshotSound sha256 t snapshot where
  validUntil := by
    obtain ⟨ends, hends, hpos, observedAt, hmem, hle⟩ := h.validUntil
    exact ⟨ends, hends, hpos, observedAt, hreceived _ hmem, hle⟩
  contentHash := h.contentHash
  checked := h.checked

/-- The end of the validity after a message: the old end, or the fixed time after the
message. -/
lemma max_ends {received : List Timestamp} {ends : Timestamp}
    (h : ∃ time ∈ received, ends ≤ time + AI_STATUS_TTL_MS) :
    ∃ time ∈ observedAt :: received,
      max (observedAt + AI_STATUS_TTL_MS) ends ≤ time + AI_STATUS_TTL_MS := by
  obtain ⟨time, hmem, hle⟩ := h
  rcases le_total observedAt time with hlate | hlate
  · exact ⟨time, List.mem_cons_of_mem _ hmem, max_le (add_le_add hlate le_rfl) hle⟩
  · exact ⟨observedAt, List.mem_cons_self, max_le le_rfl (hle.trans (add_le_add hlate le_rfl))⟩

/-- A payload that is taken leaves a sound snapshot. -/
lemma snapshotSound_received {payload : AiStatusSyncPayload parseDate} (h : Honest sha256 s)
    (hfirst : s.held.memory = none → 0 ≤ observedAt + AI_STATUS_TTL_MS)
    (hreceived : t.received = observedAt :: s.received) :
    SnapshotSound sha256 t (receivedSnapshot sha256 s.held.memory payload observedAt) := by
  refine ⟨?_, rfl, ⟨_, rfl, by rw [payload.hasTime]; rfl⟩⟩
  cases hmemory : s.held.memory with
  | none =>
    exact ⟨_, rfl, le_max_right _ _, observedAt, by simp [hreceived], max_le le_rfl (hfirst hmemory)⟩
  | some existing =>
    obtain ⟨ends, hends, hpos, hbound⟩ := (h.memory existing hmemory).validUntil
    refine ⟨max (observedAt + AI_STATUS_TTL_MS) ends, ?_, le_max_of_le_right hpos, ?_⟩
    · simp [receivedSnapshot, hends]
    · rw [hreceived]
      exact max_ends hbound

/-- A lease that is taken leaves a sound snapshot. -/
lemma snapshotSound_renewed (h : SnapshotSound sha256 s snapshot)
    (haccepted : (parseDate lease.checkedAt).isSome = true)
    (hreceived : t.received = observedAt :: s.received) :
    SnapshotSound sha256 t { snapshot with
      validUntil := some (max (observedAt + AI_STATUS_TTL_MS) (snapshot.validUntil.getD 0))
      leaseCheckedAt := some lease.checkedAt
      leaseReceivedAt := some observedAt } := by
  obtain ⟨ends, hends, hpos, hbound⟩ := h.validUntil
  refine ⟨⟨_, rfl, ?_, ?_⟩, h.contentHash, ⟨_, rfl, haccepted⟩⟩
  · rw [hends]
    exact le_max_of_le_right hpos
  · rw [hends, hreceived]
    exact max_ends hbound

/-- The last check of a lease that is taken is later than those of the leases before. -/
lemma noneLater_renewed {now : Timestamp} (h : SnapshotSound sha256 s snapshot)
    (hfresh : ∀ checked, snapshot.leaseCheckedAt = some checked → NoneLater s checked)
    (haccepted : (parseDate lease.checkedAt).isSome = true)
    (htakes : ignoredReason (some snapshot) lease observedAt now = none)
    (htaken : t.taken = lease :: s.taken) : NoneLater t lease.checkedAt := by
  obtain ⟨checked, hchecked, hparse⟩ := h.checked
  have hnew := (ignoredReason_eq_none htakes).2
  rw [hchecked, Option.any_some] at hnew
  have hlater := notAfter_of_not haccepted hparse (by simp [hnew])
  rw [NoneLater, htaken]
  rintro earlier hearlier
  rcases List.mem_cons.mp hearlier with rfl | hmem
  · exact notAfter_refl haccepted
  · exact notAfter_trans (hfresh checked hchecked earlier hmem) hlater

/-- The file keeps its entry, or is as the memory. -/
lemma file_step (event : PassportEvent parseDate) :
    (Passport.step sha256 held event).file = held.file
      ∨ (Passport.step sha256 held event).file = (Passport.step sha256 held event).memory := by
  cases event with
  | passport payload receivedAt now written =>
    rw [Passport.step, receivePassport]
    split_ifs
    · cases written <;> simp [RemotePassport.upsert]
    · exact .inl rfl
  | lease lease receivedAt now written =>
    rw [Passport.step]
    obtain ⟨_, renewed, _, _, hupsert⟩ | ⟨-, hfile⟩ :=
      observeRemotePassportLease_cases held lease
        (validReceivedHeartbeatTimestamp parseDate receivedAt now) now written
    · rw [hupsert]
      cases written <;> simp [RemotePassport.upsert]
    · exact .inl hfile

/-- An entry that is lost from the memory is at most left in the file. -/
lemma honest_lost (h : Honest sha256 s) (hmemory : t.held.memory = none)
    (hreceived : t.received = s.received)
    (hfile : ∀ snapshot, t.held.file = some snapshot → s.held.file = some snapshot) :
    Honest sha256 t where
  memory := by simp [hmemory]
  file snapshot hsome := (h.file snapshot (hfile snapshot hsome)).later fun _ => hreceived ▸ id
  fresh := by simp [hmemory]

/-- What is known of the memory after a message suffices: the file has it, or an entry of
before. -/
lemma honest_message {event : PassportEvent parseDate} {accepted : event.Accepted}
    (h : Honest sha256 s)
    (hmemory : ∀ snapshot, (s.step sha256 (.message event accepted)).held.memory = some snapshot →
      SnapshotSound sha256 (s.step sha256 (.message event accepted)) snapshot
        ∧ ∀ checked, snapshot.leaseCheckedAt = some checked →
          NoneLater (s.step sha256 (.message event accepted)) checked) :
    Honest sha256 (s.step sha256 (.message event accepted)) where
  memory snapshot hsnapshot := (hmemory snapshot hsnapshot).1
  file snapshot hsnapshot := by
    obtain hold | hnew : (Passport.step sha256 s.held event).file = s.held.file ∨ _ :=
      file_step s.held event
    · exact (h.file snapshot (hold.symm.trans hsnapshot)).later fun _ => List.mem_cons_of_mem _
    · exact (hmemory snapshot (hnew.symm.trans hsnapshot)).1
  fresh snapshot hsnapshot := (hmemory snapshot hsnapshot).2

/-! ### Runs -/

/-- **An orderly step** leaves an honest entry. -/
lemma honest_step {change : PassportChange parseDate} (h : Honest sha256 s)
    (horderly : Orderly s change) : Honest sha256 (s.step sha256 change) := by
  cases change with
  | removed written =>
    refine honest_lost h rfl rfl fun snapshot hsome => ?_
    have hfile : (if written then none else s.held.file) = some snapshot := hsome
    split_ifs at hfile
    exact hfile
  | restart now load =>
    cases load with
    | loaded =>
      exact ⟨fun snapshot hsome => (h.file snapshot hsome).later fun _ => id,
        fun snapshot hsome => (h.file snapshot hsome).later fun _ => id, horderly⟩
    | pruned authorized => exact honest_lost h rfl rfl fun _ hsome => by cases hsome
    | failed authorized => exact honest_lost h rfl rfl fun _ hsome => hsome
  | message event accepted =>
    refine honest_message h fun snapshot hsnapshot => ?_
    cases event with
    | passport payload receivedAt now written =>
      have hmemory := memory_receivePassport sha256 s.held payload receivedAt now written
      split_ifs at hmemory with htakes
      · obtain ⟨hlater, hfirst⟩ := horderly htakes
        obtain rfl := Option.some.inj (hmemory.symm.trans hsnapshot)
        refine ⟨snapshotSound_received h hfirst rfl, fun checked hchecked => ?_⟩
        obtain rfl := Option.some.inj hchecked
        exact hlater
      · have hold := hmemory.symm.trans hsnapshot
        exact ⟨(h.memory snapshot hold).later fun _ => List.mem_cons_of_mem _,
          h.fresh snapshot hold⟩
    | lease lease receivedAt now written =>
      have hmemory := memory_observeRemotePassportLease s.held lease
        (validReceivedHeartbeatTimestamp parseDate receivedAt now) now written
      have htaken : (s.step sha256 (.message (.lease lease receivedAt now written)
          accepted)).taken = (takenLease s.held (.lease lease receivedAt now written)).toList
            ++ s.taken := rfl
      rw [takenLease] at htaken
      split_ifs at hmemory htaken with htakes
      · cases hheld : s.held.memory with
        | none => simp [hheld, ignoredReason] at htakes
        | some existing =>
          rw [hheld] at hmemory htakes
          obtain rfl := Option.some.inj (hmemory.symm.trans hsnapshot)
          have hsound := h.memory existing hheld
          refine ⟨snapshotSound_renewed hsound accepted rfl, fun checked hchecked => ?_⟩
          obtain rfl := Option.some.inj hchecked
          exact noneLater_renewed hsound (h.fresh existing hheld) accepted htakes htaken
      · have hold := hmemory.symm.trans hsnapshot
        refine ⟨(h.memory snapshot hold).later fun _ => List.mem_cons_of_mem _, ?_⟩
        intro checked hchecked
        rw [NoneLater, htaken]
        exact h.fresh snapshot hold checked hchecked

/-- Along an orderly run the entry is honest. -/
lemma honest_of_reached (h : Reached (OrderlyStep sha256) Observed.empty s) : Honest sha256 s :=
  h.invariant (honest_empty sha256) fun _ _ _ hs ⟨_, horderly, hstep⟩ =>
    hstep ▸ honest_step hs horderly

/-- The validity never decreases by a message, whatever was received before. -/
lemma validUntil_le_step (event : PassportEvent parseDate) (accepted : event.Accepted)
    {before : Timestamp} (hbefore : s.validUntil = some before) :
    ∃ after, (s.step sha256 (.message event accepted)).validUntil = some after
      ∧ before ≤ after := by
  obtain ⟨snapshot, hsnapshot, hends⟩ := Option.bind_eq_some_iff.mp hbefore
  cases event with
  | passport payload receivedAt now written =>
    have hmemory := memory_receivePassport sha256 s.held payload receivedAt now written
    split_ifs at hmemory
    · exact ⟨_, Option.bind_eq_some_iff.mpr ⟨_, hmemory, rfl⟩, by simp [hsnapshot, hends]⟩
    · exact ⟨before, Option.bind_eq_some_iff.mpr ⟨snapshot, hmemory.trans hsnapshot, hends⟩, le_rfl⟩
  | lease lease receivedAt now written =>
    have hmemory := memory_observeRemotePassportLease s.held lease
      (validReceivedHeartbeatTimestamp parseDate receivedAt now) now written
    rw [hsnapshot] at hmemory
    split_ifs at hmemory
    · exact ⟨_, Option.bind_eq_some_iff.mpr ⟨_, hmemory, rfl⟩, by simp [hends]⟩
    · exact ⟨before, Option.bind_eq_some_iff.mpr ⟨snapshot, hmemory, hends⟩, le_rfl⟩

/-- The validity of an honest entry is bounded by the times of the messages. -/
lemma validUntil_bounded (h : Honest sha256 s) {ends : Timestamp} (hends : s.validUntil = some ends) :
    ∃ observedAt ∈ s.received, ends ≤ observedAt + AI_STATUS_TTL_MS := by
  obtain ⟨snapshot, hsnapshot, hsame⟩ := Option.bind_eq_some_iff.mp hends
  obtain ⟨ends', hends', -, hbound⟩ := (h.memory snapshot hsnapshot).validUntil
  obtain rfl := Option.some.inj (hsame.symm.trans hends')
  exact hbound

/-- A lease that is replayed or about other content is not taken. -/
lemma ignored_of_replayed (h : Honest sha256 s)
    (hbad : Replayed s lease ∨ HashDiffers sha256 s lease) (observedAt now : Timestamp) :
    ignoredReason s.held.memory lease observedAt now ≠ none := by
  intro htakes
  cases hmemory : s.held.memory with
  | none => simp [hmemory, ignoredReason] at htakes
  | some snapshot =>
    rw [hmemory] at htakes
    have hsound := h.memory snapshot hmemory
    obtain ⟨hhash, hfresh⟩ := ignoredReason_eq_none htakes
    rcases hbad with ⟨earlier, hmem, hearlier⟩ | hdiffers
    · obtain ⟨checked, hchecked, -⟩ := hsound.checked
      have hlater := h.fresh snapshot hmemory checked hchecked earlier hmem
      rw [hchecked, Option.any_some, notAfter_trans hearlier hlater] at hfresh
      cases hfresh
    · rw [hsound.contentHash] at hhash
      refine hdiffers snapshot hmemory ?_
      cases hcontent : aiStatusContentHash sha256 (.obj snapshot.payload.fields) with
      | error message => simp [hcontent, Except.toOption] at hhash
      | ok hash =>
        rw [hcontent] at hhash
        rw [Option.some.inj hhash]

end Passport

open Passport in
/-- **The validity of a passport is bounded and honest.** In every run of messages,
restarts and removals in which no payload is taken that was generated before a lease that
was taken, a first payload is received after 1970, and no restart loads an entry whose last
check is before such a lease: a message never lets the validity end earlier, it ends at most
the fixed time after a message that was received, and a lease that is replayed or is about
other content leaves it. -/
theorem validity_of_orderly (sha256 : JsString → String) {parseDate : JsString → Option Timestamp}
    {s : Observed parseDate} (h : Reached (OrderlyStep sha256) Observed.empty s)
    (event : PassportEvent parseDate) (accepted : event.Accepted)
    (horderly : Orderly s (.message event accepted)) : KeepsValidity sha256 s event accepted where
  kept _ hbefore := validUntil_le_step event accepted hbefore
  bounded _ hafter := validUntil_bounded (honest_step (honest_of_reached h) horderly) hafter
  honest lease receivedAt now written hevent hbad := by
    subst hevent
    have hmemory := memory_observeRemotePassportLease s.held lease
      (validReceivedHeartbeatTimestamp parseDate receivedAt now) now written
    rw [if_neg (ignored_of_replayed (honest_of_reached h) hbad _ now)] at hmemory
    exact congrArg (Option.bind · (·.validUntil)) hmemory

namespace Passport

/-- The tools were checked again two minutes after the shared payload. -/
def sharedLease : PassportLease := ⟨codexDigest, JsString.ofString "2026-07-18T01:02:00.000Z"⟩

/-- A message of the time at which it is received. -/
def payloadAt (payload : AiStatusSyncPayload dateParse) (now : Timestamp) :
    PassportChange dateParse := .message (.passport payload none now true) trivial

def leaseAt (now : Timestamp) : PassportChange dateParse :=
  .message (.lease sharedLease none now true)
    (show (dateParse sharedLease.checkedAt).isSome = true by decide +kernel)

/-- The payload is received, lost with the relationship and received again; and two
minutes later the lease. -/
def leased : Observed dateParse :=
  [payloadAt sharedPayload 1784336402000, .removed true, payloadAt sharedPayload 1784336403000,
    leaseAt 1784336521000].foldl (Observed.step fun _ => codexDigest) .empty

/-- Then the payload is received a second time. -/
def redelivered : Observed dateParse :=
  leased.step (fun _ => codexDigest) (payloadAt sharedPayload 1784336522000)

lemma leased_reached : Reached (OrderlyStep fun _ => codexDigest) Observed.empty leased :=
  (((Reached.refl.step ⟨payloadAt sharedPayload 1784336402000,
    fun _ => ⟨fun _ hlease => (by cases hlease), fun _ => by decide⟩, rfl⟩).step
    ⟨.removed true, trivial, rfl⟩).step ⟨payloadAt sharedPayload 1784336403000,
    fun _ => ⟨fun _ hlease => (by cases hlease), fun _ => by decide⟩, rfl⟩).step
    ⟨leaseAt 1784336521000, trivial, rfl⟩

lemma redelivered_reached : Reached (Step fun _ => codexDigest) Observed.empty redelivered := by
  have horderly : @OrderlyStep dateParse (fun _ => codexDigest) ≤ Step fun _ => codexDigest :=
    fun _ _ hstep => hstep.elim fun change hchange => ⟨change, hchange.2⟩
  have hleased := Relation.ReflTransGen.mono horderly _ _ leased_reached
  exact Reached.step hleased ⟨_, rfl⟩

end Passport

open Passport in
/-- A payload that is delivered twice sets the last check back, and the lease that was
taken in between is taken again. -/
theorem replayed_lease_extends :
    ¬∀ (sha256 : JsString → String) (s : Observed dateParse),
      Reached (Passport.Step sha256) Observed.empty s →
      ∀ event accepted, KeepsValidity sha256 s event accepted := by
  intro hkeeps
  have hhonest := (hkeeps _ redelivered redelivered_reached
    (.lease sharedLease none 1784336580000 true)
    (show (dateParse sharedLease.checkedAt).isSome = true by decide +kernel)).honest _ _ _ _ rfl
    (.inl ⟨sharedLease, by decide +kernel, by decide +kernel⟩)
  exact absurd hhonest (by decide +kernel)

open Passport in
/-- Before that delivery, the lease is not taken again. -/
theorem validity_of_orderly_leased :
    KeepsValidity (fun _ => codexDigest) leased (.lease sharedLease none 1784336580000 true)
      (show (dateParse sharedLease.checkedAt).isSome = true by decide +kernel) :=
  validity_of_orderly _ leased_reached _ _ trivial

end TetiBot

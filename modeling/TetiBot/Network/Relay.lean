import TetiBot.Network.Types
import TetiBot.Library.Transition

/-
The commands on relay bindings (`services/network/relay-service.ts`,
`relay-binding-store.ts`).

* `PendingRelayCommand`: the command that the store keeps while it is under way.
* `RelayPhase`: where an operation waits; `RelayService.step`: operations one after the
  other, what the client and the store answer them, and a process that ends at any point.
* `Held`: what the store holds in each phase.
* `relay_commands_durable`: a stored command goes only after it has succeeded, as long as no
  synchronisation finishes over it and no other command replaces it.
-/

namespace TetiBot

open Library Library.JsString

/-! ### Bindings -/

inductive RelayBindingStatus
  | active | migrating | revoked
  deriving DecidableEq

/-- What is read of a binding. -/
structure RelayBinding where
  status : RelayBindingStatus
  address : String
  transportPublicKey : Option String
  deriving DecidableEq

/-- What is read of `TetiNetworkRelayBindingResult`. -/
structure RelayBindings where
  tetiId : TetiId
  revision : Nat
  active : Option RelayBinding
  etag : String
  deriving DecidableEq

/-- What is read of an entry of the relay catalog. -/
structure RelayCatalogItem where
  id : String
  domain : String
  offline : Bool
  deriving DecidableEq

/-- The local account; the address is normalised, and split at its last `@`. -/
structure RelayAccount where
  id : TetiId
  mailbox : String
  domain : String
  publicKey : Option String
  deriving DecidableEq

variable (account : RelayAccount)

def RelayAccount.address : String := account.mailbox ++ "@" ++ account.domain

/-- `validateActiveBinding`. -/
def validActiveBinding (result : RelayBindings) : Bool :=
  result.active.any fun active => active.status == .active && active.address == account.address
    && active.transportPublicKey == account.publicKey

/-! ### Commands -/

inductive RelayMutation
  | activate | revoke
  deriving DecidableEq

/-- The operation of a command with its path, which names the binding that is changed. -/
inductive RelayTarget
  | adopt
  | create
  | mutate (mutation : RelayMutation) (bindingId : String)
  deriving DecidableEq

/-- A command without its key. -/
structure RelayDraft where
  target : RelayTarget
  rawBody : JsString
  ifMatch : String
  deriving DecidableEq

/-- `TetiNetworkPendingRelayBindingCommand`. -/
structure PendingRelayCommand extends RelayDraft where
  idempotencyKey : String
  deriving DecidableEq

/-- `/^"relay-bindings-r(?:0|[1-9]\d*)"$/`. -/
def isRelayBindingsEtag (s : String) : Bool :=
  let start := "\"relay-bindings-r".toList
  let digits := (s.toList.drop start.length).dropLast
  start.isPrefixOf s.toList && (s.toList.drop start.length).getLast? == some '"'
    && !digits.isEmpty && digits.all Char.isDigit && (digits.length == 1 || digits.head? != some '0')

/-- What `validateState` checks of a command that is to be written. -/
def PendingRelayCommand.valid (pending : PendingRelayCommand) : Bool :=
  isRelayBindingsEtag pending.ifMatch && isIdempotencyKey pending.idempotencyKey

def optionalText : Option String → Json
  | none => .null
  | some s => jsonText s

/-- The body of `createMigratingBinding`; that of an adoption also has the grant. -/
def bindingBody (revision : Nat) (relayId mailbox : String) (publicKey : Option String)
    (grant : List (String × Json)) : JsString :=
  Json.stringify (.obj ([("schemaVersion", .num 1), ("expectedRevision", .num revision),
    ("relayId", jsonText relayId), ("mailbox", jsonText mailbox),
    ("transportPublicKey", optionalText publicKey)] ++ grant))

/-- The body of `mutate`. -/
def mutationBody (revision : Nat) : JsString :=
  Json.stringify (.obj [("schemaVersion", .num 1), ("expectedRevision", .num revision)])

/-! ### Operations -/

inductive RelayOperation
  | synchronize
  | createMigratingBinding (relayId mailbox : String) (transportPublicKey : Option String)
  | mutate (mutation : RelayMutation) (bindingId : String)
  deriving DecidableEq

/-- The command that an operation sends for the bindings it has read; a synchronisation
sends none, unless there is no active binding. -/
def RelayOperation.draft (current : RelayBindings) : RelayOperation → Option RelayDraft
  | synchronize => none
  | createMigratingBinding relayId mailbox publicKey =>
    some ⟨.create, bindingBody current.revision relayId mailbox publicKey [], current.etag⟩
  | mutate mutation bindingId =>
    some ⟨.mutate mutation bindingId, mutationBody current.revision, current.etag⟩

/-- The command of `adoptMissingBinding`. -/
def adoptDraft (relayId grant : String) (current : RelayBindings) : RelayDraft :=
  ⟨.adopt, bindingBody current.revision relayId account.mailbox account.publicKey
    [("adoptionGrant", jsonText grant)], current.etag⟩

/-- Where an operation waits. -/
inductive RelayPhase
  | fetching
  /-- `listRelays` for an adoption. -/
  | choosing (current : RelayBindings)
  /-- `persist(result, false)`: the store is read, then written. -/
  | refreshing (result : RelayBindings)
  | rewriting (result : RelayBindings) (kept : Option PendingRelayCommand)
  /-- `pendingCommand`: the store is read, then written. -/
  | looking (draft : RelayDraft)
  | storing (pending : PendingRelayCommand)
  | sending (pending : PendingRelayCommand)
  /-- `persist(result)` after the command. -/
  | clearing (pending : PendingRelayCommand) (result : RelayBindings)
  /-- `persist(result)` at the end of a synchronisation. -/
  | publishing (result : RelayBindings)
  deriving DecidableEq

/-- An operation that is under way; a synchronisation knows the local account. -/
structure RelayRun where
  operation : RelayOperation
  account : Option RelayAccount
  phase : RelayPhase
  deriving DecidableEq

/-- `TetiNetworkRelayBindingState`. -/
structure RelayBindingState where
  result : Option RelayBindings
  pending : Option PendingRelayCommand
  deriving DecidableEq

/-- The service, which runs one operation at a time.  The class itself only joins the
synchronisations; nothing in it keeps other operations apart. -/
structure RelayService where
  adoptionGrant : Option String
  file : RelayBindingState
  run : Option RelayRun
  deriving DecidableEq

/-- What an operation reads before anything else. -/
structure RelayFetched where
  account : RelayAccount
  authenticatedTetiId : TetiId
  result : RelayBindings
  deriving DecidableEq

inductive RelayEvent
  | start (operation : RelayOperation)
  | fetched (result : Except NetworkFailure RelayFetched)
  | relaysListed (result : Except NetworkFailure (List RelayCatalogItem))
  | loaded (fails : Bool) (idempotencyKey : String)
  | saved (save : SaveResult)
  | answered (outcome : Except NetworkFailure RelayBindings)
  /-- The process ends, and starts again. -/
  | ended

namespace RelayService

def pending (s : RelayService) : Option PendingRelayCommand := s.file.pending

variable (s : RelayService)

/-- The operation has returned or thrown. -/
def finish : RelayService := { s with run := none }

variable (run : RelayRun)

def enter (phase : RelayPhase) : RelayService :=
  { s with run := some { run with phase := phase } }

/-- A write of the store returns, or throws. -/
def store (file : RelayBindingState) (save : SaveResult) (next : RelayService → RelayService) :
    RelayService :=
  match save with
  | .done => next { s with file := file }
  | .failed written => { s.finish with file := if written then file else s.file }

/-- `validateActiveBinding`, and what a synchronisation writes at its end. -/
def publish (account : RelayAccount) (result : RelayBindings) : RelayService :=
  if validActiveBinding account result then s.enter run (.publishing result) else s.finish

/-- A synchronisation has read the bindings. -/
def afterFetch (fetched : RelayFetched) : RelayService :=
  let run := { run with account := some fetched.account }
  if fetched.authenticatedTetiId ≠ fetched.account.id
      ∨ fetched.result.tetiId ≠ fetched.account.id then s.finish
  else if fetched.result.active.isNone then
    if s.adoptionGrant.any (· != "") then s.enter run (.choosing fetched.result) else s.finish
  else s.publish run fetched.account fetched.result

/-- The relay of the address is looked up, to be adopted. -/
def adopt (current : RelayBindings) (relays : List RelayCatalogItem) : RelayService :=
  match run.account, s.adoptionGrant with
  | some account, some grant =>
    match relays.find? fun relay => relay.domain == account.domain with
    | none => s.finish
    | some relay =>
      if relay.offline then s.finish
      else s.enter run (.looking (adoptDraft account relay.id grant current))
  | _, _ => s.finish

/-- `pendingCommand`: the stored command, if it is the same one, or a new one. -/
def prepare (draft : RelayDraft) (idempotencyKey : String) : RelayService :=
  match s.pending.filter fun existing => existing.toRelayDraft == draft with
  | some existing => s.enter run (.sending existing)
  | none =>
    let pending : PendingRelayCommand := ⟨draft, idempotencyKey⟩
    -- the store checks what it is to write
    if pending.valid then s.enter run (.storing pending) else s.finish

/-- What is left after a command has succeeded. -/
def afterCommand (result : RelayBindings) : RelayService :=
  match run.operation, run.account with
  | .synchronize, some account => s.publish run account result
  | _, _ => s.finish

/-- An operation goes on with what it waits for. -/
def advance : RelayPhase → RelayEvent → Option RelayService
  | .fetching, .fetched (.error _) => some s.finish
  | .fetching, .fetched (.ok fetched) =>
    some (if run.operation = .synchronize then s.afterFetch run fetched
      else s.enter run (.refreshing fetched.result))
  | .choosing _, .relaysListed (.error _) => some s.finish
  | .choosing current, .relaysListed (.ok relays) => some (s.adopt run current relays)
  | .refreshing result, .loaded fails _ =>
    some (if fails then s.finish else s.enter run (.rewriting result s.pending))
  | .rewriting result kept, .saved save =>
    some (s.store ⟨some result, kept⟩ save fun s => match run.operation.draft result with
      | some draft => s.enter run (.looking draft)
      | none => s.finish)
  | .looking draft, .loaded fails idempotencyKey =>
    some (if fails then s.finish else s.prepare run draft idempotencyKey)
  | .storing pending, .saved save =>
    some (s.store ⟨s.file.result, some pending⟩ save fun s => s.enter run (.sending pending))
  | .sending _, .answered (.error _) => some s.finish
  | .sending pending, .answered (.ok result) => some (s.enter run (.clearing pending result))
  | .clearing _ result, .saved save =>
    some (s.store ⟨some result, none⟩ save fun s => s.afterCommand run result)
  | .publishing result, .saved save => some (s.store ⟨some result, none⟩ save finish)
  | _, _ => none

/-- One event, where it can happen. -/
def step (e : RelayEvent) : Option RelayService :=
  match e, s.run with
  | .start operation, none => some { s with run := some ⟨operation, none, .fetching⟩ }
  | .ended, _ => some s.finish
  | _, some run => s.advance run run.phase e
  | _, none => none

end RelayService

/-- A process that starts, with what the store holds. -/
def initialRelayService (adoptionGrant : Option String) (file : RelayBindingState) : RelayService where
  adoptionGrant := adoptionGrant
  file := file
  run := none

/-! ### What the store holds -/

/-- What the store holds while an operation waits. -/
def RelayPhase.Holds (phase : RelayPhase) (pending : Option PendingRelayCommand) : Prop :=
  match phase with
  | sending p | clearing p _ => pending = some p
  | rewriting _ kept => kept = pending
  | storing _ => pending = none
  | _ => True

namespace RelayService

/-- A synchronisation that is about to write its result finds no command in the store, and
an operation that prepares a command finds none but the same one. -/
def sound (s : RelayService) (e : RelayEvent) : Bool :=
  match s.run.map RelayRun.phase, e with
  | some (.publishing _), .saved _ => s.pending.isNone
  | some (.looking draft), .loaded _ _ => s.pending.all fun p => p.toRelayDraft == draft
  | _, _ => true

def soundStep (s : RelayService) (e : RelayEvent) : Option RelayService :=
  if s.sound e then s.step e else none

/-- The operation under way and the store agree. -/
def Held (s : RelayService) : Prop := ∀ run ∈ s.run, run.phase.Holds s.pending

variable {s t : RelayService} {run : RelayRun} {phase : RelayPhase} {e : RelayEvent}

lemma held_finish : s.finish.Held := by
  rintro _ ⟨⟩

lemma held_enter (h : phase.Holds s.pending) : (s.enter run phase).Held := by
  rintro _ ⟨⟩
  exact h

lemma held_store {file : RelayBindingState} {save : SaveResult} {next : RelayService → RelayService}
    (hnext : (next { s with file := file }).Held) : (s.store file save next).Held := by
  cases save with
  | done => exact hnext
  | failed written => rintro _ ⟨⟩

lemma held_publish {account : RelayAccount} {result : RelayBindings} :
    (s.publish run account result).Held := by
  unfold publish
  split_ifs
  · exact held_enter trivial
  · exact held_finish

lemma held_afterFetch {fetched : RelayFetched} : (s.afterFetch run fetched).Held := by
  unfold afterFetch
  dsimp only
  split_ifs
  · exact held_finish
  · exact held_enter trivial
  · exact held_finish
  · exact held_publish

lemma held_adopt {current : RelayBindings} {relays : List RelayCatalogItem} :
    (s.adopt run current relays).Held := by
  unfold adopt
  split
  · split
    · exact held_finish
    · split_ifs
      · exact held_finish
      · exact held_enter trivial
  · exact held_finish

/-- A command is sent if it is the stored one; where none is stored, it is to be. -/
lemma held_prepare {draft : RelayDraft} {key : String}
    (hsame : s.pending.all (fun p => p.toRelayDraft == draft) = true) :
    (s.prepare run draft key).Held := by
  unfold prepare
  cases hpending : s.pending with
  | none =>
    simp only [Option.filter_none]
    split_ifs
    · exact held_enter hpending
    · exact held_finish
  | some existing =>
    rw [hpending, Option.all_some] at hsame
    rw [Option.filter_some, if_pos hsame]
    exact held_enter hpending

lemma held_afterCommand {result : RelayBindings} : (s.afterCommand run result).Held := by
  unfold afterCommand
  split
  · exact held_publish
  · exact held_finish

/-- **A step of an operation** keeps the agreement. -/
lemma held_advance (hrun : s.run = some run) (hphase : run.phase = phase)
    (h : phase.Holds s.pending) (hsound : s.sound e = true) (hstep : s.advance run phase e = some t) : t.Held := by
  unfold advance at hstep
  split at hstep
  case h_1 => exact Option.some.inj hstep ▸ held_finish
  case h_2 fetched =>
    obtain rfl := Option.some.inj hstep
    split_ifs
    · exact held_afterFetch
    · exact held_enter trivial
  case h_3 => exact Option.some.inj hstep ▸ held_finish
  case h_4 => exact Option.some.inj hstep ▸ held_adopt
  case h_5 result fails _ =>
    obtain rfl := Option.some.inj hstep
    split_ifs
    · exact held_finish
    · exact held_enter rfl
  case h_6 result kept save =>
    refine Option.some.inj hstep ▸ held_store ?_
    split
    · exact held_enter trivial
    · exact held_finish
  case h_7 draft fails key =>
    obtain rfl := Option.some.inj hstep
    split_ifs
    · exact held_finish
    · refine held_prepare ?_
      simpa only [sound, hrun, Option.map_some, hphase] using hsound
  case h_8 pending save => exact Option.some.inj hstep ▸ held_store (held_enter rfl)
  case h_9 => exact Option.some.inj hstep ▸ held_finish
  case h_10 pending result => exact Option.some.inj hstep ▸ held_enter h
  case h_11 pending result save => exact Option.some.inj hstep ▸ held_store held_afterCommand
  case h_12 result save => exact Option.some.inj hstep ▸ held_store held_finish
  case h_13 => cases hstep

lemma step_cases (hstep : s.step e = some t) :
    (∃ operation, e = .start operation ∧ t = { s with run := some ⟨operation, none, .fetching⟩ })
      ∨ t = s.finish ∨ ∃ run, s.run = some run ∧ s.advance run run.phase e = some t := by
  unfold step at hstep
  split at hstep
  · next operation _ => exact .inl ⟨operation, rfl, (Option.some.inj hstep).symm⟩
  · exact .inr (.inl (Option.some.inj hstep).symm)
  · exact .inr (.inr ⟨_, ‹_›, hstep⟩)
  · cases hstep

lemma held_step (h : s.Held) (hstep : s.soundStep e = some t) : t.Held := by
  obtain ⟨hsound, hstep⟩ := Option.ite_none_right_eq_some.mp hstep
  obtain ⟨operation, -, rfl⟩ | rfl | ⟨run, hrun, hnext⟩ := step_cases hstep
  · rintro _ ⟨⟩
    trivial
  · exact held_finish
  · exact held_advance hrun rfl (h run hrun) hsound hnext

/-! ### What a step does to the store -/

@[simp] lemma finish_pending : s.finish.pending = s.pending := rfl

@[simp] lemma enter_pending : (s.enter run phase).pending = s.pending := rfl

@[simp] lemma publish_pending {account : RelayAccount} {result : RelayBindings} :
    (s.publish run account result).pending = s.pending := by
  unfold publish
  split_ifs <;> rfl

@[simp] lemma afterFetch_pending {fetched : RelayFetched} :
    (s.afterFetch run fetched).pending = s.pending := by
  unfold afterFetch
  dsimp only
  split_ifs <;> simp

@[simp] lemma adopt_pending {current : RelayBindings} {relays : List RelayCatalogItem} :
    (s.adopt run current relays).pending = s.pending := by
  unfold adopt
  split
  · split
    · rfl
    · split_ifs <;> rfl
  · rfl

@[simp] lemma prepare_pending {draft : RelayDraft} {key : String} :
    (s.prepare run draft key).pending = s.pending := by
  unfold prepare
  split
  · rfl
  · dsimp only
    split_ifs <;> rfl

/-- A write leaves what was there, or what it was to write. -/
lemma store_pending (file : RelayBindingState) (save : SaveResult)
    {next : RelayService → RelayService} (hnext : ∀ s, (next s).pending = s.pending) :
    (s.store file save next).pending = file.pending ∨ (s.store file save next).pending = s.pending := by
  cases save with
  | done => exact .inl (hnext _)
  | failed written => cases written <;> simp [store, pending]

/-- A stored command goes only when an operation clears the command that it has sent. -/
lemma advance_pending {p : PendingRelayCommand} (hrun : s.run = some run) (hphase : run.phase = phase)
    (h : phase.Holds s.pending) (hsound : s.sound e = true) (hstep : s.advance run phase e = some t)
    (hpending : s.pending = some p) (hgone : t.pending ≠ some p) :
    ∃ result, phase = .clearing p result := by
  have hchanged : t.pending ≠ s.pending := hpending ▸ hgone
  unfold advance at hstep
  split at hstep
  case h_6 result kept save =>
    have hkept : kept = s.pending := h
    subst hkept
    obtain rfl := Option.some.inj hstep
    refine absurd ?_ hchanged
    have hnext : ∀ s : RelayService, (match run.operation.draft result with
        | some draft => s.enter run (.looking draft)
        | none => s.finish).pending = s.pending := fun s => by split <;> rfl
    exact (store_pending ⟨some result, s.pending⟩ save hnext).elim id id
  case h_8 draft save =>
    have hnone : s.pending = none := h
    rw [hnone] at hpending
    cases hpending
  case h_11 pending result save =>
    obtain rfl := Option.some.inj (Eq.trans (Eq.symm hpending) h)
    exact ⟨result, rfl⟩
  case h_12 result save =>
    have hnone : s.pending.isNone = true := by
      simpa only [sound, hrun, Option.map_some, hphase] using hsound
    rw [hpending] at hnone
    cases hnone
  case h_13 => cases hstep
  all_goals
    obtain rfl := Option.some.inj hstep
    refine absurd ?_ hchanged
    try split_ifs
    all_goals simp

end RelayService

open RelayService in
/-- **Relay commands are durable**, as long as no synchronisation writes its result over a
stored command and no command is prepared over another one: the command that is with the
client is the stored one; a stored command goes only after the client has reported its
success; and an operation that prepares a command while one is stored sends that one. -/
theorem relay_commands_durable (adoptionGrant : Option String) (file : RelayBindingState)
    (events : List RelayEvent) (s : RelayService)
    (h : Runs soundStep (initialRelayService adoptionGrant file) events s) :
    (∀ run ∈ s.run, ∀ p, run.phase = .sending p → s.pending = some p)
      ∧ (∀ e t p, soundStep s e = some t → s.pending = some p → t.pending ≠ some p →
          ∃ run ∈ s.run, ∃ result, run.phase = .clearing p result)
      ∧ ∀ run ∈ s.run, ∀ draft p idempotencyKey t, run.phase = .looking draft → s.pending = some p →
          soundStep s (.loaded false idempotencyKey) = some t →
          ∃ run' ∈ t.run, run'.phase = .sending p := by
  have hheld : s.Held := h.invariant (I := Held) (by rintro _ ⟨⟩) fun _ _ _ => held_step
  refine ⟨?_, ?_, ?_⟩
  · intro run hrun p hphase
    have := hheld run hrun
    rwa [hphase] at this
  · intro e t p hstep hpending hgone
    obtain ⟨hsound, hstep⟩ := Option.ite_none_right_eq_some.mp hstep
    obtain ⟨operation, -, rfl⟩ | rfl | ⟨run, hrun, hnext⟩ := step_cases hstep
    · exact absurd hpending hgone
    · exact absurd hpending hgone
    · exact ⟨run, hrun, advance_pending hrun rfl (hheld run hrun) hsound hnext hpending hgone⟩
  · intro run hrun draft p idempotencyKey t hphase hpending hstep
    obtain ⟨hsound, hstep⟩ := Option.ite_none_right_eq_some.mp hstep
    have hrun' : s.run = some run := hrun
    have hsame : (p.toRelayDraft == draft) = true := by
      simpa only [sound, hrun', Option.map_some, hphase, hpending, Option.all_some] using hsound
    simp only [step, hrun', hphase, advance, Bool.false_eq_true, if_false] at hstep
    obtain rfl := Option.some.inj hstep
    rw [prepare, hpending, Option.filter_some, if_pos hsame]
    exact ⟨_, rfl, rfl⟩

variable (revision : Nat)

/-- Bindings with an active one, at a revision. -/
def boundAt : RelayBindings where
  tetiId := "teti_abcdefgh1"
  revision := revision
  active := some ⟨.active, "abcdefgh1@mail.example", none⟩
  etag := "\"relay-bindings-r" ++ toString revision ++ "\""

def fetchedAt : RelayEvent :=
  .fetched (.ok ⟨⟨"teti_abcdefgh1", "abcdefgh1", "mail.example", none⟩, "teti_abcdefgh1",
    boundAt revision⟩)

/-- A binding is created, up to the point where the command is prepared. -/
def creation (idempotencyKey : String) : List RelayEvent :=
  [.start (.createMigratingBinding "relay_next" "abcdefgh1-next" none), fetchedAt revision,
    .loaded false idempotencyKey, .saved .done, .loaded false idempotencyKey]

/-- The command is stored and sent, and no answer comes in time. -/
def timedOut : List RelayEvent := [.saved .done, .answered (.error (.network .networkTimeout true))]

/-- The command of a creation. -/
def creationCommand (idempotencyKey : String) : PendingRelayCommand where
  target := .create
  rawBody := bindingBody revision "relay_next" "abcdefgh1-next" none []
  ifMatch := (boundAt revision).etag
  idempotencyKey := idempotencyKey

/-- A creation that timed out is tried again, by a new process. -/
def retriedCreation : List RelayEvent :=
  creation 1 "relay.create:0001" ++ timedOut ++ .ended :: creation 1 "relay.create:0002"

open RelayService in
theorem relay_commands_durable_retry :
    ∃ s, Runs soundStep (initialRelayService none ⟨none, none⟩) retriedCreation s
      ∧ s.run.map RelayRun.phase = some (.sending (creationCommand 1 "relay.create:0001"))
      ∧ s.pending = some (creationCommand 1 "relay.create:0001") := by
  obtain ⟨s, hrun, hseen⟩ := Runs.exists_of_any (p := fun s : RelayService =>
      s.run.map RelayRun.phase == some (.sending (creationCommand 1 "relay.create:0001")))
    (by decide +kernel : (retriedCreation.foldlM soundStep
      (initialRelayService none ⟨none, none⟩)).any _ = true)
  have hphase := beq_iff_eq.mp hseen
  obtain ⟨run, hmem, hsending⟩ := Option.map_eq_some_iff.mp hphase
  exact ⟨s, hrun, hphase, (relay_commands_durable none _ _ s hrun).1 run hmem _ hsending⟩

/-- A creation that timed out, and a synchronisation that is about to write its result. -/
def forgottenCreation : List RelayEvent :=
  creation 1 "relay.create:0001" ++ timedOut ++ [.start .synchronize, fetchedAt 1]

/-- A creation that timed out, and a retry that has read another revision. -/
def replacedCreation : List RelayEvent :=
  creation 1 "relay.create:0001" ++ timedOut ++ creation 2 "relay.create:0002" ++ [.saved .done]

open RelayService in
/-- A creation that timed out is forgotten by a synchronisation, and replaced by a retry
that has read another revision. -/
theorem relay_command_forgotten_and_replaced :
    (∃ s, Runs step (initialRelayService none ⟨none, none⟩) forgottenCreation s
      ∧ s.pending = some (creationCommand 1 "relay.create:0001")
      ∧ (s.step (.saved .done)).map pending = some none)
    ∧ ∃ s, Runs step (initialRelayService none ⟨none, none⟩) replacedCreation s
      ∧ s.run.map RelayRun.phase = some (.sending (creationCommand 2 "relay.create:0002"))
      ∧ s.pending = some (creationCommand 2 "relay.create:0002") := by
  constructor
  · obtain ⟨s, hrun, hseen⟩ := Runs.exists_of_any (p := fun s : RelayService =>
        s.pending == some (creationCommand 1 "relay.create:0001")
          && (s.step (.saved .done)).map pending == some none)
      (by decide +kernel : (forgottenCreation.foldlM step
        (initialRelayService none ⟨none, none⟩)).any _ = true)
    simp only [Bool.and_eq_true, beq_iff_eq] at hseen
    exact ⟨s, hrun, hseen⟩
  · obtain ⟨s, hrun, hseen⟩ := Runs.exists_of_any (p := fun s : RelayService =>
        s.run.map RelayRun.phase == some (.sending (creationCommand 2 "relay.create:0002"))
          && s.pending == some (creationCommand 2 "relay.create:0002"))
      (by decide +kernel : (replacedCreation.foldlM step
        (initialRelayService none ⟨none, none⟩)).any _ = true)
    simp only [Bool.and_eq_true, beq_iff_eq] at hseen
    exact ⟨s, hrun, hseen⟩

end TetiBot

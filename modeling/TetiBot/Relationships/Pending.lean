import TetiBot.Relationships.Frames

/-
The pending command: it is on the disk before it is sent, every further attempt
sends the same command, and it stays on the disk until an attempt is definitive.

* `Ambiguous`, `FollowsUp`: after an attempt whose outcome the service does not
  know, the next event is the same command again, or its discard.
* `CommandsKept`: the invariant of the files and of what was sent.  It holds at
  every point of every call (`perform_commandsKept`), so that a process may end
  anywhere.
* `pending_replayed_exactly`: so it is in every run in which no exchange of a
  command was cancelled by its caller.
* `cancelled_command_lost`: a cancelled exchange is ambiguous, but the client
  reports it as not retryable, and the service forgets the command.
-/

namespace TetiBot

open Library Library.Async Library.JsString

/-! ### Commands as the service writes them -/

/-- A command as the service writes it: a valid one, with the body that the client
would write itself. -/
structure Written (pending : PendingRelationshipCommand) : Prop where
  valid : pending.Valid
  rawBody : pending.rawBody = Json.stringify (pending.target.body pending.expectedRevision)

/-- The data of the record with this command. -/
def PendingRelationshipCommand.file (pending : PendingRelationshipCommand) : Json :=
  (RelationshipCommandRecord.mk (some pending)).encode

variable {pending : PendingRelationshipCommand}

lemma validate_file (h : pending.Valid) :
    validateRelationshipCommandRecord pending.file = .ok ⟨some pending⟩ := by
  refine (validate_encode _ _).mpr ⟨fun other hmem => ?_, rfl⟩
  obtain rfl := Option.some.inj hmem
  exact h

lemma file_injective {p q : PendingRelationshipCommand} (hp : p.Valid) (h : p.file = q.file) :
    p = q := by
  have hread := validate_file hp
  rw [h] at hread
  exact Option.some.inj (congrArg RelationshipCommandRecord.pending ((validate_encode _ _).mp hread).2)

lemma body_distinct (target : RelationshipTarget) (revision : Nat) :
    (target.body revision).Distinct := by
  cases target <;>
    simp [RelationshipTarget.body, Json.Distinct, Json.DistinctFields, jsonText]

/-- The client sends what the service has written: its checks before the exchange
pass. -/
lemma checkWrite_written (h : Written pending) : checkWrite pending = .ok () := by
  obtain ⟨hvalid, hbody⟩ := h
  have hparse : Json.parse pending.rawBody
      = some (pending.target.body pending.expectedRevision) := by
    rw [hbody, Json.parse_stringify (body_distinct _ _)]
  have hrequire : requireBody pending.target (pending.target.body pending.expectedRevision)
      = .ok (pending.expectedRevision, pending.target.body pending.expectedRevision) := by
    have hrevision : ¬MAX_SAFE_REVISION < pending.expectedRevision := not_lt.mpr hvalid.revision
    have htarget := hvalid.target
    cases ht : pending.target with
    | request peerTetiId =>
      rw [ht, RelationshipTarget.valid] at htarget
      simp [requireBody, RelationshipTarget.body, recordFields?, requireSome_some, except_ok_bind,
        hasOnlyKeys, numberField, textField, stringField, Json.lookup_cons, jsonText,
        toString?_ofString, rejectIf, hrevision, htarget, Option.filter]
    | command operation relationshipId =>
      rw [ht, RelationshipTarget.valid] at htarget
      simp [requireBody, RelationshipTarget.body, recordFields?, requireSome_some, except_ok_bind,
        hasOnlyKeys, numberField, Json.lookup_cons, rejectIf, hrevision, htarget]
  rw [checkWrite, hparse, requireSome_some, except_ok_bind, hrequire, except_ok_bind]
  simp only [hvalid.idempotencyKey, hvalid.ifMatch, rejectIf, Bool.true_eq_false, ne_eq,
    not_true_eq_false, if_false]
  rfl

/-! ### The invariant -/

/-- The service does not know how the exchange ended: it was not answered, and its
caller did not cancel it. -/
def Ambiguous (exchange : Exchange RelationshipResult) : Prop :=
  exchange.definitive = false ∧ exchange.isCancelled = false

/-- After an ambiguous attempt the same command is sent again, or discarded. -/
def FollowsUp : CommandEvent → CommandEvent → Prop
  | .sent command exchange, next =>
    Ambiguous exchange → (∃ again, next = .sent command again) ∨ next = .discarded command
  | .discarded _, _ => True

structure CommandsKept (w : RelationshipWorld) : Prop where
  written : ∀ value ∈ w.commandFile, ∃ pending, Written pending ∧ value = pending.file
  kept : ∀ command exchange, w.log.getLast? = some (.sent command exchange) →
    Ambiguous exchange → w.commandFile = some command.file
  followsUp : w.log.IsChain FollowsUp

/-- The file may go: the last attempt was not ambiguous. -/
def MayForget (w : RelationshipWorld) : Prop :=
  ∀ command exchange, w.log.getLast? = some (.sent command exchange) → ¬Ambiguous exchange

lemma CommandsKept.of_at {w w' : RelationshipWorld} (h : CommandsKept w)
    (hat : CommandsAt w.commandFile w.log w') : CommandsKept w' := by
  obtain ⟨hfile, hlog⟩ := hat
  refine ⟨?_, ?_, ?_⟩
  · rw [hfile]
    exact h.written
  · rw [hfile, hlog]
    exact h.kept
  · rw [hlog]
    exact h.followsUp

/-- What leaves the commands alone keeps the invariant. -/
lemma stable_commandsKept {α : Type} {m : RelationshipOperation α}
    (hm : ∀ file log, Stable (CommandsAt file log) m) : Stable CommandsKept m := fun w hw =>
  (hm w.commandFile w.log).passes ⟨rfl, rfl⟩ (fun _ hat => hw.of_at hat) fun _ _ _ => trivial

/-- What leaves the commands alone settles with them as they were. -/
lemma passes_reader {α : Type} {m : RelationshipOperation α}
    (hm : ∀ file log, Stable (CommandsAt file log) m) {w : RelationshipWorld} (hw : CommandsKept w) :
    Passes CommandsKept (fun _ w' => CommandsAt w.commandFile w.log w') m w :=
  (hm w.commandFile w.log).passes ⟨rfl, rfl⟩ (fun _ hat => hw.of_at hat) fun _ _ hat => hat

lemma CommandsKept.forget {w : RelationshipWorld} (h : CommandsKept w) (hforget : MayForget w) :
    CommandsKept (w.setCommandFile none) := by
  refine ⟨?_, ?_, h.followsUp⟩
  · intro value hmem
    simp [RelationshipWorld.setCommandFile] at hmem
  · intro command exchange hlast hambiguous
    exact absurd hambiguous (hforget command exchange hlast)

/-- The invariant when the command of the file is sent. -/
lemma CommandsKept.send {w : RelationshipWorld} (h : CommandsKept w) (hpending : Written pending)
    (hfile : w.commandFile = some pending.file) (exchange : Exchange RelationshipResult) :
    CommandsKept (w.record (.sent pending exchange)) := by
  refine ⟨h.written, ?_, ?_⟩
  · intro command other hlast _
    simp only [RelationshipWorld.record, List.getLast?_concat, Option.some.injEq,
      CommandEvent.sent.injEq] at hlast
    rw [← hlast.1]
    exact hfile
  · refine List.isChain_append.mpr ⟨h.followsUp, List.isChain_singleton _, ?_⟩
    intro last hlast next hnext
    obtain rfl : CommandEvent.sent pending exchange = next := Option.some.inj hnext
    cases last with
    | discarded command => trivial
    | sent command other =>
      intro hambiguous
      have hkept := h.kept command other hlast hambiguous
      rw [hfile] at hkept
      obtain rfl := file_injective hpending.valid (Option.some.inj hkept)
      exact Or.inl ⟨exchange, rfl⟩

/-- The invariant when the command of the file is discarded. -/
lemma CommandsKept.discard {w : RelationshipWorld} (h : CommandsKept w) (hpending : Written pending)
    (hfile : w.commandFile = some pending.file) :
    CommandsKept ((w.setCommandFile none).record (.discarded pending)) := by
  refine ⟨?_, ?_, ?_⟩
  · intro value hmem
    simp [RelationshipWorld.setCommandFile, RelationshipWorld.record] at hmem
  · intro command exchange hlast
    simp [RelationshipWorld.setCommandFile, RelationshipWorld.record] at hlast
  · refine List.isChain_append.mpr ⟨h.followsUp, List.isChain_singleton _, ?_⟩
    intro last hlast next hnext
    obtain rfl : CommandEvent.discarded pending = next := Option.some.inj hnext
    cases last with
    | discarded command => trivial
    | sent command other =>
      intro hambiguous
      have hkept := h.kept command other hlast hambiguous
      rw [hfile] at hkept
      obtain rfl := file_injective hpending.valid (Option.some.inj hkept)
      exact Or.inr rfl

/-- The invariant when a new command is written where no attempt is ambiguous. -/
lemma CommandsKept.store {w : RelationshipWorld} (h : CommandsKept w) (hforget : MayForget w)
    (hpending : Written pending) : CommandsKept (w.setCommandFile (some pending.file)) := by
  refine ⟨?_, ?_, h.followsUp⟩
  · intro value hmem
    obtain rfl := Option.some.inj hmem
    exact ⟨pending, hpending, rfl⟩
  · intro command exchange hlast hambiguous
    exact absurd hambiguous (hforget command exchange hlast)

/-- Where no command is stored, no attempt is ambiguous. -/
lemma CommandsKept.mayForget {w : RelationshipWorld} (h : CommandsKept w)
    (hnone : w.commandFile = none) : MayForget w := by
  intro command exchange hlast hambiguous
  have hkept := h.kept command exchange hlast hambiguous
  rw [hnone] at hkept
  exact absurd hkept (by simp)

/-! ### Every point of a call -/

section Calls

variable {env : RelationshipEnvironment} {w : RelationshipWorld}

/-- The file goes, or it stays and the disk has thrown. -/
lemma passes_saveEmpty {note : RelationshipWorld → RelationshipWorld}
    {Q : Except RelationshipError Unit → RelationshipWorld → Prop} (hw : CommandsKept w)
    (hnote : CommandsKept (note (w.tick.setCommandFile none)))
    (hok : Q (.ok ()) (note (w.tick.setCommandFile none)))
    (herror : ∀ message, Q (.error (.other message)) w.tick) :
    Passes CommandsKept Q (saveCommand env emptyCommandRecord note) w := by
  have hrun : saveCommand env emptyCommandRecord note
      = lift (storeStep env .command .rm fun w => note (w.setCommandFile none)) := rfl
  rw [hrun]
  refine Passes.lift hw ?_ ?_
  · rw [exec_storeStep]
    cases env.fails w.calls .command .rm with
    | some message => exact hw.of_at ⟨rfl, rfl⟩
    | none => exact hnote
  · rw [exec_storeStep]
    cases env.fails w.calls .command .rm with
    | some message => exact herror message
    | none => exact hok

variable {identity : AuthenticatedIdentity}

/-- The read after a command changes nothing. -/
lemma passes_answer {result : RelationshipResult} {recovered : Bool}
    {Q : Except RelationshipError RelationshipResult → RelationshipWorld → Prop}
    (hw : CommandsKept w) (hQ : ∀ r w', CommandsAt w.commandFile w.log w' → Q r w') :
    Passes CommandsKept Q (do
      match ← attempt (readLatest env identity result) with
      | .ok latest => return latest
      | .error error => if recovered then raise error else return result) w := by
  refine Passes.bind
    (passes_reader (fun _ _ => Stable.attempt (stable_readLatest identity result)) hw) ?_ ?_
  · intro latest w' hw' hat
    cases latest with
    | ok latest => exact Passes.pure hw' (hQ _ _ hat)
    | error error =>
      refine Passes.ite (fun _ => ?_) fun _ => ?_
      · exact Passes.raise hw' (hQ _ _ hat)
      · exact Passes.pure hw' (hQ _ _ hat)
  · intro error w' _ hat
    exact hQ _ _ hat

variable {pending : PendingRelationshipCommand}

/-- **Sending the stored command**: the attempt is recorded, the file goes only
after an answer, and where a terminal error is thrown the file may go. -/
lemma passes_deliver (identity : AuthenticatedIdentity) (recovered : Bool) (hw : CommandsKept w)
    (hpending : Written pending) (hfile : w.commandFile = some pending.file) :
    Passes CommandsKept (fun r w' => (∀ result, r = .ok result → w'.commandFile = none)
      ∧ ∀ error, r = .error error → error.isTerminal = true → MayForget w')
      (deliver env pending identity recovered) w := by
  let exchange := env.write w.calls pending
  let sent := w.tick.record (.sent pending exchange)
  have hsent : CommandsKept sent :=
    CommandsKept.send (w := w.tick) (hw.of_at ⟨rfl, rfl⟩) hpending hfile exchange
  have hlast : sent.log.getLast? = some (.sent pending exchange) := List.getLast?_concat
  have hmay : ¬Ambiguous exchange → ∀ w', CommandsAt none sent.log w' ∨ CommandsAt sent.commandFile
      sent.log w' → MayForget w' := by
    intro hknown w' hat command other hother
    have hlog : w'.log = sent.log := hat.elim And.right And.right
    rw [hlog, hlast] at hother
    obtain ⟨-, rfl⟩ := CommandEvent.sent.inj (Option.some.inj hother)
    exact hknown
  have hwrite : Passes CommandsKept (fun r w' => w' = sent
      ∧ r = exchange.result pending.target.networkOperation) (writeRelationship env pending) w := by
    rw [writeRelationship, checkWrite_written hpending]
    refine Passes.bind_fromExcept hw (fun e he => by cases he) fun _ _ => ?_
    refine Passes.bind (R := fun r w' => r = .ok exchange ∧ w' = sent)
      (Passes.lift hw hsent ⟨rfl, rfl⟩) ?_ ?_
    · rintro other w' hw' ⟨hother, rfl⟩
      obtain rfl := Except.ok.inj hother
      exact Passes.fromExcept hw' ⟨rfl, rfl⟩
    · rintro error w' _ ⟨hother, -⟩
      cases hother
  have hanswered : ∀ result, exchange.result pending.target.networkOperation = .ok result →
      ¬Ambiguous exchange := by
    intro result hresult hambiguous
    obtain ⟨error, herror, -⟩ :=
      @Exchange.result_of_not_definitive _ _ pending.target.networkOperation
        hambiguous.1 hambiguous.2
    rw [herror] at hresult
    cases hresult
  unfold deliver
  refine Passes.bind hwrite ?_ ?_
  · rintro result w' hw' ⟨rfl, hresult⟩
    have hknown := hanswered result hresult.symm
    refine Passes.bind_fromExcept hw' ?_ fun _ _ => ?_
    · intro error herror
      refine ⟨nofun, fun _ _ _ => hmay hknown _ (Or.inr ⟨rfl, rfl⟩)⟩
    have hforget : CommandsKept (sent.tick.setCommandFile none) :=
      CommandsKept.forget (w := sent.tick) (hsent.of_at ⟨rfl, rfl⟩)
        (hmay hknown _ (Or.inr ⟨rfl, rfl⟩))
    refine Passes.bind (R := fun r w' => CommandsAt none sent.log w'
        ∨ ∃ message, r = .error (.other message))
      (passes_saveEmpty hw' hforget (Or.inl ⟨rfl, rfl⟩) fun message => Or.inr ⟨message, rfl⟩) ?_ ?_
    · rintro _ w' hw' hat
      have hat : CommandsAt none sent.log w' := by
        rcases hat with hat | ⟨message, h⟩
        · exact hat
        · cases h
      refine passes_answer hw' fun r w'' hat'' => ?_
      rw [hat.1, hat.2] at hat''
      exact ⟨fun _ _ => hat''.1, fun _ _ _ => hmay hknown _ (Or.inl hat'')⟩
    · rintro error w' hw' hat
      refine ⟨nofun, ?_⟩
      rintro other hother hterminal
      rcases hat with hat | ⟨message, h⟩
      · exact hmay hknown _ (Or.inl hat)
      · obtain rfl := Except.error.inj hother
        obtain rfl := Except.error.inj h
        exact absurd hterminal (by simp [RelationshipError.isTerminal])
  · rintro error w' hw' ⟨rfl, hresult⟩
    refine ⟨nofun, ?_⟩
    rintro other hother hterminal
    obtain rfl := Except.error.inj hother
    refine hmay ?_ _ (Or.inr ⟨rfl, rfl⟩)
    intro hambiguous
    obtain ⟨retryable, hretryable, hnot⟩ :=
      @Exchange.result_of_not_definitive _ _ pending.target.networkOperation
        hambiguous.1 hambiguous.2
    rw [hretryable] at hresult
    obtain rfl := Except.error.inj hresult
    rw [hnot] at hterminal
    cases hterminal

/-- After a failure the file goes only if the error is terminal; what follows
throws in any case. -/
lemma passes_afterFailure {error : RelationshipError} (hw : CommandsKept w)
    (hmay : error.isTerminal = true → MayForget w) :
    Passes CommandsKept (fun r _ => ∀ result, r ≠ .ok result)
      (afterFailure env pending identity error) w := by
  have hrefresh : ∀ w', CommandsKept w' → Passes CommandsKept (fun r _ => ∀ result, r ≠ .ok result)
      (do
        if error.hasCode .relationshipRevisionConflict then
          let _ ← attempt (refresh env pending identity)
        raise error : RelationshipOperation RelationshipResult) w' := by
    intro w' hw'
    refine Passes.ite (fun _ => ?_) fun _ => Passes.raise hw' nofun
    refine Passes.bind (passes_reader (fun _ _ => Stable.attempt (stable_refresh pending identity))
      hw') (fun _ w'' hw'' _ => Passes.raise hw'' nofun) fun _ _ _ _ => nofun
  unfold afterFailure
  refine Passes.ite (fun hterminal => ?_) fun _ => hrefresh w hw
  refine Passes.bind (R := fun _ _ => True) (passes_saveEmpty hw ?_ trivial fun _ => trivial)
    (fun _ w' hw' _ => hrefresh w' hw') fun _ _ _ _ => nofun
  exact CommandsKept.forget (w := w.tick) (hw.of_at ⟨rfl, rfl⟩) (hmay hterminal)

/-- **Sending the stored command**, to its end. -/
lemma passes_sendPending (identity : AuthenticatedIdentity) (recovered : Bool) (hw : CommandsKept w)
    (hpending : Written pending) (hfile : w.commandFile = some pending.file) :
    Passes CommandsKept (fun r w' => ∀ result, r = .ok result → w'.commandFile = none)
      (sendPending env pending identity recovered) w := by
  unfold sendPending
  refine Passes.bind
    (R := fun r w' => ∃ outcome, r = .ok outcome
      ∧ (∀ result, outcome = .ok result → w'.commandFile = none)
      ∧ ∀ error, outcome = .error error → error.isTerminal = true → MayForget w') ?_ ?_ ?_
  · refine Passes.attempt ?_
    refine Passes.weaken (passes_deliver identity recovered hw hpending hfile) ?_
    intro r w' _ hr
    exact ⟨r, rfl, hr⟩
  · rintro outcome w' hw' ⟨other, hother, hok, herror⟩
    obtain rfl := Except.ok.inj hother
    cases outcome with
    | ok result => exact Passes.pure hw' fun _ _ => hok result rfl
    | error error =>
      refine Passes.weaken (passes_afterFailure hw' (herror error rfl)) ?_
      intro r _ _ hr result hresult
      exact absurd hresult (hr result)
  · rintro error w' _ ⟨outcome, hother, -⟩
    cases hother

lemma passes_loadCommand (hw : CommandsKept w) :
    Passes CommandsKept (fun r w' => CommandsAt w.commandFile w.log w' ∧ ∀ record, r = .ok record →
        (record.pending = none ∧ w.commandFile = none)
          ∨ ∃ pending, record.pending = some pending ∧ Written pending
            ∧ w.commandFile = some pending.file)
      (loadCommand env) w := by
  unfold loadCommand
  refine Passes.bind (passes_reader (fun _ _ => stable_storeStep _ _ fun _ => id) hw) ?_ ?_
  · intro _ w' hw' hat
    refine Passes.bind (R := fun r w'' => r = .ok w''.commandFile
      ∧ CommandsAt w.commandFile w.log w'') (Passes.lift hw' hw' ⟨rfl, hat⟩) ?_ ?_
    · rintro value w'' hw'' ⟨hvalue, hat'⟩
      have hvalue : value = w.commandFile := (Except.ok.inj hvalue).trans hat'.1
      cases hfile : w.commandFile with
      | none =>
        rw [hvalue, hfile]
        refine Passes.pure hw'' ⟨⟨hat'.1.trans hfile, hat'.2⟩, ?_⟩
        intro record hrecord
        obtain rfl := Except.ok.inj hrecord
        exact Or.inl ⟨rfl, rfl⟩
      | some data =>
        obtain ⟨pending, hpending, rfl⟩ := hw.written data (by rw [hfile]; rfl)
        rw [hvalue, hfile]
        refine Passes.fromExcept hw'' ⟨⟨hat'.1.trans hfile, hat'.2⟩, ?_⟩
        intro record hrecord
        rw [validate_file hpending.valid] at hrecord
        obtain rfl := Except.ok.inj hrecord
        exact Or.inr ⟨pending, rfl, hpending, rfl⟩
    · rintro error w'' _ ⟨hvalue, -⟩
      cases hvalue
  · intro error w' _ hat
    exact ⟨hat, nofun⟩

/-- **Recovery** leaves no command behind if it returns. -/
lemma passes_recoverPending (identity : AuthenticatedIdentity) (hw : CommandsKept w) :
    Passes CommandsKept (fun r w' => ∀ result, r = .ok result → w'.commandFile = none)
      (recoverPending env identity) w := by
  unfold recoverPending
  refine Passes.bind (passes_loadCommand hw) ?_ fun _ _ _ _ => nofun
  rintro record w' hw' ⟨hat, hrecord⟩
  rcases hrecord record rfl with ⟨hnone, hfile⟩ | ⟨pending, hsome, hpending, hfile⟩
  · rw [hnone]
    exact Passes.pure hw' fun _ _ => hat.1.trans hfile
  · rw [hsome]
    have hfile' : w'.commandFile = some pending.file := hat.1.trans hfile
    refine Passes.ite (fun _ => ?_) fun _ => ?_
    · refine Passes.bind (R := fun r w'' => ∀ u, r = .ok u → w''.commandFile = none)
        (passes_saveEmpty hw' ?_ (fun _ _ => rfl) fun _ => nofun) ?_ fun _ _ _ _ => nofun
      · exact CommandsKept.discard (w := w'.tick) (hw'.of_at ⟨rfl, rfl⟩) hpending hfile'
      · intro u w'' hw'' hnone
        exact Passes.pure hw'' fun _ _ => hnone u rfl
    · refine Passes.bind (passes_sendPending identity true hw' hpending hfile') ?_
        fun _ _ _ _ => nofun
      intro result w'' hw'' hnone
      exact Passes.pure hw'' fun _ _ => hnone result rfl

/-- **A new command** is stored before it is sent. -/
lemma passes_executeNew (target : RelationshipTarget) (current : Option RelationshipResult)
    (identity : AuthenticatedIdentity) (hw : CommandsKept w) (hnone : w.commandFile = none) :
    Always CommandsKept (executeNew env target current identity) w := by
  refine Passes.bind (passes_reader (fun _ _ => stable_consult _) hw) ?_ fun _ _ _ _ => trivial
  intro key w' hw' hat
  let pending := newCommand target current identity key
  have hnone' : w'.commandFile = none := hat.1.trans hnone
  refine Passes.bind (R := fun r w'' => ∀ u, r = .ok u →
    Written pending ∧ w''.commandFile = some pending.file) ?_ ?_ fun _ _ _ _ => trivial
  · -- the store checks the command, then it replaces its file
    unfold saveCommand
    refine Passes.bind_fromExcept hw' (fun _ _ => nofun) fun record hrecord => ?_
    obtain ⟨hvalid, rfl⟩ := (validate_encode _ _).mp hrecord
    have hpending : Written pending := ⟨hvalid pending rfl, rfl⟩
    have hquiet : ∀ (step : StoreStep) (v : RelationshipWorld), CommandsKept v →
        Passes CommandsKept (fun _ v' => CommandsAt v.commandFile v.log v')
          (lift (storeStep env .command step id)) v := fun step v hv =>
      passes_reader (fun _ _ => stable_storeStep _ _ fun _ => id) hv
    unfold replaceFile
    refine Passes.bind (hquiet _ _ hw') ?_ fun _ _ _ _ => nofun
    intro _ w₁ hw₁ hat₁
    refine Passes.bind (hquiet _ _ hw₁) ?_ fun _ _ _ _ => nofun
    intro _ w₂ hw₂ hat₂
    refine Passes.bind (hquiet _ _ hw₂) ?_ fun _ _ _ _ => nofun
    intro _ w₃ hw₃ hat₃
    have hnone₃ : w₃.commandFile = none := hat₃.1.trans (hat₂.1.trans (hat₁.1.trans hnone'))
    refine Passes.bind (R := fun r v => ∀ u, r = .ok u → v.commandFile = some pending.file) ?_ ?_
      fun _ _ _ _ => nofun
    · refine Passes.lift hw₃ ?_ ?_
      · rw [exec_storeStep]
        cases env.fails w₃.calls .command .rename with
        | some message => exact hw₃.of_at ⟨rfl, rfl⟩
        | none =>
          exact CommandsKept.store (w := w₃.tick) (hw₃.of_at ⟨rfl, rfl⟩)
            ((hw₃.of_at ⟨rfl, rfl⟩ : CommandsKept w₃.tick).mayForget hnone₃) hpending
      · rw [exec_storeStep]
        cases env.fails w₃.calls .command .rename with
        | some message => exact nofun
        | none => exact fun _ _ => rfl
    · intro u w₄ hw₄ hfile
      refine Passes.weaken (hquiet _ _ hw₄) ?_
      intro r w₅ _ hat₅ u' _
      exact ⟨hpending, hat₅.1.trans (hfile u rfl)⟩
  · intro u w'' hw'' hstored
    obtain ⟨hpending, hfile⟩ := hstored u rfl
    exact (passes_sendPending identity false hw'' hpending hfile).always

/-- What a call does after it has recovered the pending command, it does in a world
where no command is stored. -/
lemma always_after_recovery {α : Type}
    {rest : AuthenticatedIdentity → Option RelationshipResult → RelationshipOperation α}
    (hw : CommandsKept w)
    (hrest : ∀ identity recovered w', CommandsKept w' → w'.commandFile = none →
      Always CommandsKept (rest identity recovered) w') :
    Always CommandsKept (do
      let identity ← prepare env
      let recovered ← recoverPending env identity
      rest identity recovered) w := by
  refine Passes.bind (passes_reader (fun _ _ => stable_prepare) hw) ?_ fun _ _ _ _ => trivial
  intro identity w' hw' _
  refine Passes.bind (passes_recoverPending identity hw') ?_ fun _ _ _ _ => trivial
  intro recovered w'' hw'' hnone
  exact hrest identity recovered w'' hw'' (hnone recovered rfl)

/-- What a call does without a recovered result of its own. -/
lemma always_executeNew_after {target : RelationshipTarget}
    {read : RelationshipOperation (Option RelationshipResult)} (hw : CommandsKept w)
    (hnone : w.commandFile = none) (hread : ∀ file log, Stable (CommandsAt file log) read) :
    Always CommandsKept (do
      let current ← read
      executeNew env target current identity) w := by
  refine Passes.bind (passes_reader hread hw) ?_ fun _ _ _ _ => trivial
  intro current w' hw' hat
  exact passes_executeNew target current identity hw' (hat.1.trans hnone)

lemma always_reconcile (pages : Nat) (hw : CommandsKept w) :
    Always CommandsKept (reconcile env pages) w := by
  refine always_after_recovery hw fun identity recovered w' hw' _ => ?_
  refine stable_commandsKept (fun file log => ?_) w' hw'
  refine Stable.bind stable_loadReconciliation fun stored => ?_
  refine Stable.bind (stable_startingCheckpoint _ _ _) fun checkpoint => ?_
  exact stable_scanChanges _ _ _ _

lemma always_getByPeer (peerTetiId : TetiId) (hw : CommandsKept w) :
    Always CommandsKept (getByPeer env peerTetiId) w := by
  refine always_after_recovery hw fun identity recovered w' hw' _ => ?_
  exact stable_commandsKept (fun _ _ => stable_readByPeer peerTetiId identity) w' hw'

lemma always_requestRelationship (peerTetiId : TetiId) (hw : CommandsKept w) :
    Always CommandsKept (requestRelationship env peerTetiId) w := by
  refine always_after_recovery hw fun identity recovered w' hw' hnone => ?_
  cases recovered.filter fun result => result.document.peerTetiId = peerTetiId with
  | some result => exact Passes.pure hw' trivial
  | none => exact always_executeNew_after hw' hnone fun _ _ => stable_readByPeer peerTetiId identity

lemma always_commandRelationship (relationshipId : String) (operation : RelationshipCommand)
    (hw : CommandsKept w) :
    Always CommandsKept (commandRelationship env relationshipId operation) w := by
  refine always_after_recovery hw fun identity recovered w' hw' hnone => ?_
  cases recovered.filter fun result => result.document.id = relationshipId with
  | some result => exact Passes.pure hw' trivial
  | none =>
    refine Passes.bind
      (passes_reader (fun _ _ => stable_getRelationship identity relationshipId) hw') ?_
      fun _ _ _ _ => trivial
    intro current w'' hw'' hat
    refine Passes.bind_fromExcept hw'' (fun _ _ => trivial) fun _ _ => ?_
    exact passes_executeNew _ _ identity hw'' (hat.1.trans hnone)

/-- **Every call keeps the invariant at every point.** -/
theorem perform_commandsKept (call : RelationshipCall) (w : RelationshipWorld)
    (hw : CommandsKept w) : Always CommandsKept (performRelationshipCall env call) w := by
  have hanswer : ∀ {α : Type} (m : RelationshipOperation α) (f : α → RelationshipAnswer),
      Always CommandsKept m w → Always CommandsKept (do return f (← m)) w := fun m f hm =>
    Passes.bind hm (fun _ w' hw' _ => Passes.pure hw' trivial) fun _ _ _ _ => trivial
  cases call with
  | reconcile pages => exact hanswer _ (fun _ => .reconciled) (always_reconcile pages hw)
  | getByPeer peerTetiId => exact hanswer _ .found (always_getByPeer peerTetiId hw)
  | request peerTetiId => exact hanswer _ .done (always_requestRelationship peerTetiId hw)
  | command relationshipId operation =>
    exact hanswer _ .done (always_commandRelationship relationshipId operation hw)

end Calls

/-! ### Whole runs -/

/-- The service: calls that run one after the other, in a process that may end at
any point and be started again. -/
abbrev RelationshipRun (env : RelationshipEnvironment) (w : RelationshipWorld)
    (s : Exclusive RelationshipCall RelationshipError RelationshipWorld RelationshipAnswer) : Prop :=
  Reached (Exclusive.CrashStep (performRelationshipCall env) RelationshipWorld.restart)
    (Exclusive.idle w) s

/-- No command has been stored or sent yet. -/
def NoCommands (w : RelationshipWorld) : Prop := w.commandFile = none ∧ w.log = []

/-- A call that is made at rest, and left alone. -/
lemma run_call {env : RelationshipEnvironment} {start w w' : RelationshipWorld}
    (h : ∃ settled, RelationshipRun env start ⟨w, [], settled⟩) (call : RelationshipCall)
    (hcall : ((performRelationshipCall env call).outcome w).2 = w') :
    ∃ settled, RelationshipRun env start ⟨w', [], settled⟩ := by
  obtain ⟨settled, hrun⟩ := h
  rw [← hcall]
  exact ⟨_, Exclusive.reached_call hrun call⟩

lemma run_idle (env : RelationshipEnvironment) (w : RelationshipWorld) :
    ∃ settled, RelationshipRun env w ⟨w, [], settled⟩ := ⟨[], Reached.refl⟩

lemma run_restart {env : RelationshipEnvironment} {start w : RelationshipWorld}
    (h : ∃ settled, RelationshipRun env start ⟨w, [], settled⟩) :
    ∃ settled, RelationshipRun env start ⟨w.restart, [], settled⟩ := by
  obtain ⟨settled, hrun⟩ := h
  exact ⟨settled, hrun.step .crash⟩

lemma run_commandsKept {env : RelationshipEnvironment} {w : RelationshipWorld}
    {s : Exclusive RelationshipCall RelationshipError RelationshipWorld RelationshipAnswer}
    (hstart : NoCommands w) (hrun : RelationshipRun env w s) : CommandsKept s.world := by
  have hinitial : CommandsKept w := by
    refine ⟨?_, ?_, ?_⟩
    · simp [hstart.1]
    · simp [hstart.2]
    · rw [hstart.2]
      exact .nil
  refine (Exclusive.underway hinitial perform_commandsKept (fun w hw => ?_) hrun).world
  exact hw.of_at ⟨rfl, rfl⟩

def CommandEvent.command : CommandEvent → PendingRelationshipCommand
  | sent command _ => command
  | discarded command => command

/-- An attempt that its caller cancelled. -/
def CommandEvent.isCancelled : CommandEvent → Bool
  | sent _ exchange => exchange.isCancelled
  | discarded _ => false

/-- The last attempt of a command was not definitive, and the command has not been
discarded since. -/
def Unresolved (log : List CommandEvent) (command : PendingRelationshipCommand) : Prop :=
  ∃ before exchange after, log = before ++ .sent command exchange :: after
    ∧ exchange.definitive = false ∧ ∀ event ∈ after, event.command ≠ command

/-- A command is pending: the store holds it, or its outcome is not known. -/
def IsPending (w : RelationshipWorld) (command : PendingRelationshipCommand) : Prop :=
  (∃ value, w.commandFile = some value
      ∧ validateRelationshipCommandRecord value = .ok ⟨some command⟩)
    ∨ Unresolved w.log command

/-- Until an attempt is definitive the next attempt is of the same command, with
its idempotency key, body and `If-Match`, if there is one: the command may be
discarded because another identity has signed in. -/
def ReplayedExactly (log : List CommandEvent) : Prop :=
  ∀ before command exchange next after,
    log = before ++ .sent command exchange :: next :: after → exchange.definitive = false →
      (∃ again, next = .sent command again) ∨ next = .discarded command

/-- What the claims of the service come to in a state. -/
structure PendingCommandsSafe (w : RelationshipWorld) : Prop where
  atMostOne : ∀ p q, IsPending w p → IsPending w q → p = q
  replayedExactly : ReplayedExactly w.log
  readsBack : ∀ value ∈ w.commandFile, ∃ command, command.Valid ∧ value = command.file
    ∧ validateRelationshipCommandRecord value = .ok ⟨some command⟩

lemma CommandsKept.replayedExactly {w : RelationshipWorld} (h : CommandsKept w)
    (hcancel : ∀ event ∈ w.log, event.isCancelled = false) : ReplayedExactly w.log := by
  intro before command exchange next after hlog hdefinitive
  have hchain := h.followsUp
  rw [hlog] at hchain
  have hpair := (List.isChain_append_cons_cons.mp hchain).2.1
  exact hpair ⟨hdefinitive, hcancel (.sent command exchange) (by rw [hlog]; simp)⟩

/-- An unresolved command is the one that the store holds. -/
lemma CommandsKept.stored_of_unresolved {w : RelationshipWorld} (h : CommandsKept w)
    (hcancel : ∀ event ∈ w.log, event.isCancelled = false) {command : PendingRelationshipCommand}
    (hunresolved : Unresolved w.log command) : w.commandFile = some command.file := by
  obtain ⟨before, exchange, after, hlog, hdefinitive, hafter⟩ := hunresolved
  have hambiguous : Ambiguous exchange :=
    ⟨hdefinitive, hcancel (.sent command exchange) (by rw [hlog]; simp)⟩
  cases after with
  | nil => exact h.kept command exchange (by rw [hlog, List.getLast?_concat]) hambiguous
  | cons next after =>
    have hnext := h.replayedExactly hcancel before command exchange next after hlog hdefinitive
    have hsame : next.command = command := by
      rcases hnext with ⟨again, rfl⟩ | rfl
      · rfl
      · rfl
    exact absurd hsame (hafter next (by simp))

/-- **Pending commands are replayed exactly**: in every run in which no caller has
cancelled an attempt. -/
theorem pending_replayed_exactly (env : RelationshipEnvironment) (w : RelationshipWorld)
    (s : Exclusive RelationshipCall RelationshipError RelationshipWorld RelationshipAnswer)
    (hstart : NoCommands w) (hrun : RelationshipRun env w s)
    (hcancel : ∀ event ∈ s.world.log, event.isCancelled = false) :
    PendingCommandsSafe s.world := by
  have hkept := run_commandsKept hstart hrun
  have hreads : ∀ value ∈ s.world.commandFile, ∃ command : PendingRelationshipCommand,
      command.Valid ∧ value = command.file
        ∧ validateRelationshipCommandRecord value = .ok ⟨some command⟩ := by
    intro value hmem
    obtain ⟨command, hwritten, rfl⟩ := hkept.written value hmem
    exact ⟨command, hwritten.valid, rfl, validate_file hwritten.valid⟩
  have hstored : ∀ p, IsPending s.world p → p.Valid ∧ s.world.commandFile = some p.file := by
    rintro p (⟨value, hfile, hvalue⟩ | hunresolved)
    · obtain ⟨command, hvalid, rfl, hread⟩ := hreads value hfile
      rw [hread] at hvalue
      obtain rfl : command = p := by simpa using hvalue
      exact ⟨hvalid, hfile⟩
    · have hfile := hkept.stored_of_unresolved hcancel hunresolved
      obtain ⟨command, hvalid, hsame, hread⟩ := hreads _ hfile
      obtain rfl := file_injective hvalid hsame.symm
      exact ⟨hvalid, hfile⟩
  refine ⟨fun p q hp hq => ?_, hkept.replayedExactly hcancel, hreads⟩
  obtain ⟨hvalid, hfile⟩ := hstored p hp
  have hother := (hstored q hq).2
  rw [hfile] at hother
  exact file_injective hvalid (Option.some.inj hother)

/-! ### A command that is sent twice -/

lemma sampleIdentity_canonical : isCanonicalTetiPublicId "teti_aaaaaaaaa" = true := by
  decide +kernel

def sampleIdentity : AuthenticatedIdentity := ⟨"teti_aaaaaaaaa", sampleIdentity_canonical⟩

def samplePeer : TetiId := "teti_bbbbbbbbb"

/-- The request of the one to the other, as the server reports it. -/
def sampleRelationship : RelationshipDocument where
  id := "rel_AAAAAAAAAAAAAAAAAAAAAA"
  revision := 1
  state := .requested
  peerTetiId := samplePeer
  requesterTetiId := sampleIdentity.tetiId
  addresseeTetiId := samplePeer
  direction := .outgoing
  blockedBy := none
  createdAt := 0
  updatedAt := 0
  stateChangedAt := 0
  wellFormed := by decide +kernel
  membersDiffer := by decide

/-- A server that does as it is told, but the first exchange of a command ends as
`first` says. -/
def sampleEnvironment (first : Exchange RelationshipResult) : RelationshipEnvironment where
  bootstrap _ := .answered ⟨1, 8, []⟩
  getAuthentication _ := .ok sampleIdentity
  getRelationship _ _ _ := .answered ⟨sampleRelationship⟩
  getRelationshipWithPeer _ _ _ := .refused .relationshipNotFound "Not found." false
  write n _ := if n ≤ 10 then first else .answered ⟨sampleRelationship⟩
  getSnapshot _ _ _ := .unreachable
  getChanges _ _ _ := .unreachable
  apply _ _ := none
  idempotencyKey n operation := "relationship." ++ operation ++ ":key-" ++ toString n
  fails _ _ _ := none

def freshRelationshipWorld : RelationshipWorld := ⟨none, none, false, 0, [], []⟩

/-- The request with the `n`-th key. -/
def sampleRequest (n : Nat) : PendingRelationshipCommand :=
  newCommand (.request samplePeer) none sampleIdentity
    ("relationship.request:key-" ++ toString n)

/-- The world after the first call. -/
def afterFirst (file : Option Json) (calls : Nat) (first : Exchange RelationshipResult) :
    RelationshipWorld :=
  ⟨file, none, true, calls, [.sent (sampleRequest 4) first], []⟩

/-- The client tells the service that a cancelled request cannot be retried, and the
service forgets the command. -/
lemma cancelled_first :
    ((performRelationshipCall (sampleEnvironment .cancelled) (.request samplePeer)).outcome
      freshRelationshipWorld).2 = afterFirst none 12 .cancelled := by
  apply RelationshipWorld.ext
  · exact Option.isNone_iff_eq_none.mp (by decide +kernel)
  · decide +kernel
  · decide +kernel
  · decide +kernel
  · decide +kernel
  · decide +kernel

lemma cancelled_second :
    ((performRelationshipCall (sampleEnvironment .cancelled) (.request samplePeer)).outcome
      (afterFirst none 12 .cancelled)).2.log
      = [.sent (sampleRequest 4) .cancelled,
        .sent (sampleRequest 15) (.answered ⟨sampleRelationship⟩)] := by
  decide +kernel

/-- A request is cancelled while it is with the server, and made again: its second
attempt has another idempotency key. -/
theorem cancelled_command_lost :
    ¬∀ (env : RelationshipEnvironment) (w : RelationshipWorld)
      (s : Exclusive RelationshipCall RelationshipError RelationshipWorld RelationshipAnswer),
      NoCommands w → RelationshipRun env w s → PendingCommandsSafe s.world := by
  intro h
  have hfirst := run_call (run_idle _ _) (.request samplePeer) cancelled_first
  obtain ⟨w, hw⟩ : ∃ w, ((performRelationshipCall (sampleEnvironment .cancelled)
      (.request samplePeer)).outcome (afterFirst none 12 .cancelled)).2 = w := ⟨_, rfl⟩
  have hlog : w.log = [.sent (sampleRequest 4) .cancelled,
      .sent (sampleRequest 15) (.answered ⟨sampleRelationship⟩)] := by
    rw [← hw]
    exact cancelled_second
  obtain ⟨settled, hrun⟩ := run_call hfirst (.request samplePeer) hw
  have hreplay := (h _ _ _ ⟨rfl, rfl⟩ hrun).replayedExactly
  have hother : sampleRequest 15 ≠ sampleRequest 4 := by decide +kernel
  rcases hreplay [] (sampleRequest 4) .cancelled
    (.sent (sampleRequest 15) (.answered ⟨sampleRelationship⟩)) [] hlog rfl with
    ⟨again, hsame⟩ | hdiscarded
  · exact hother (CommandEvent.sent.inj hsame).1
  · cases hdiscarded

/-- After a timeout the command is still on the disk. -/
lemma timedOut_first :
    ((performRelationshipCall (sampleEnvironment .timedOut) (.request samplePeer)).outcome
      freshRelationshipWorld).2 = afterFirst (some (sampleRequest 4).file) 11 .timedOut := by
  obtain ⟨w, hw⟩ : ∃ w, ((performRelationshipCall (sampleEnvironment .timedOut)
      (.request samplePeer)).outcome freshRelationshipWorld).2 = w := ⟨_, rfl⟩
  have hlog : w.log = [.sent (sampleRequest 4) .timedOut] := by
    rw [← hw]
    decide +kernel
  obtain ⟨settled, hrun⟩ := run_call (run_idle _ _) (.request samplePeer) hw
  have hlast := congrArg List.getLast? hlog
  have hfile := (run_commandsKept ⟨rfl, rfl⟩ hrun).kept (sampleRequest 4) .timedOut hlast ⟨rfl, rfl⟩
  rw [hw]
  apply RelationshipWorld.ext
  · exact hfile
  · rw [← hw]
    decide +kernel
  · rw [← hw]
    decide +kernel
  · rw [← hw]
    decide +kernel
  · exact hlog
  · rw [← hw]
    decide +kernel

lemma timedOut_second :
    ((performRelationshipCall (sampleEnvironment .timedOut) (.request samplePeer)).outcome
      (afterFirst (some (sampleRequest 4).file) 11 .timedOut).restart).2.log
      = [.sent (sampleRequest 4) .timedOut,
        .sent (sampleRequest 4) (.answered ⟨sampleRelationship⟩)] := by
  decide +kernel

/-- A request times out, the process ends, and the next process sends it again. -/
theorem pending_replayed_exactly_timeout :
    ∃ s, RelationshipRun (sampleEnvironment .timedOut) freshRelationshipWorld s
      ∧ s.world.log = [.sent (sampleRequest 4) .timedOut,
        .sent (sampleRequest 4) (.answered ⟨sampleRelationship⟩)]
      ∧ PendingCommandsSafe s.world := by
  have hfirst := run_restart (run_call (run_idle _ _) (.request samplePeer) timedOut_first)
  obtain ⟨w, hw⟩ : ∃ w, ((performRelationshipCall (sampleEnvironment .timedOut)
      (.request samplePeer)).outcome
        (afterFirst (some (sampleRequest 4).file) 11 .timedOut).restart).2 = w := ⟨_, rfl⟩
  have hlog : w.log = [.sent (sampleRequest 4) .timedOut,
      .sent (sampleRequest 4) (.answered ⟨sampleRelationship⟩)] := by
    rw [← hw]
    exact timedOut_second
  obtain ⟨settled, hrun⟩ := run_call hfirst (.request samplePeer) hw
  refine ⟨_, hrun, hlog, pending_replayed_exactly _ _ _ ⟨rfl, rfl⟩ hrun ?_⟩
  intro event hmem
  have hmem' : event ∈ w.log := hmem
  rw [hlog] at hmem'
  rcases List.mem_pair.mp hmem' with rfl | rfl
  · rfl
  · rfl

end TetiBot

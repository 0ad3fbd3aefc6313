import TetiBot.Relationships.Pending

/-
What a relationship command does when it returns: `request` and `command` recover
the pending command first, and return its result in place of their own if it
is about the same peer or relationship.

* `performTarget_events`: the commands that a call has sent when it returns.
* `command_does_what_was_asked_iff`: a call that returns has done what was asked, and
  nothing else, unless another command of the same identity was stored.
* `rejection_in_place_of_acceptance`: the owner accepts, and the pending rejection is
  what the server has executed.
-/

namespace TetiBot

open Library Library.Async Library.JsString

variable {env : RelationshipEnvironment} {w w' : RelationshipWorld}

/-- The operation of a target. -/
def performTarget (env : RelationshipEnvironment) (asked : RelationshipTarget) :
    RelationshipOperation RelationshipResult :=
  match asked with
  | .request peerTetiId => requestRelationship env peerTetiId
  | .command operation relationshipId => commandRelationship env relationshipId operation

/-- A document of the peer, or of the relationship, of a target. -/
def RelationshipTarget.IsAbout (target : RelationshipTarget) (document : RelationshipDocument) :
    Prop :=
  match target with
  | request peerTetiId => document.peerTetiId = peerTetiId
  | command _ relationshipId => document.id = relationshipId

instance (target : RelationshipTarget) (document : RelationshipDocument) :
    Decidable (target.IsAbout document) := by
  unfold RelationshipTarget.IsAbout
  cases target <;> infer_instance

/-! ### What each part has done when it returns -/

lemma outcome_consult_bind {α β : Type} (f : Nat → α) (g : α → RelationshipOperation β)
    (w : RelationshipWorld) :
    (lift (consult f) >>= g).outcome w = (g (f w.calls)).outcome w.tick := rfl

lemma throwIf_bind_ok {β : Type} {c : Prop} [Decidable c] {e : RelationshipError}
    {g : Unit → RelationshipOperation β} {b : β}
    (h : (throwIf c e >>= g).outcome w = (.ok b, w')) : ¬c ∧ (g ()).outcome w = (.ok b, w') := by
  obtain ⟨_, w₁, hcheck, hrest⟩ := outcome_bind_eq_ok.mp h
  obtain ⟨hc, rfl⟩ := outcome_throwIf_eq_ok.mp hcheck
  exact ⟨hc, hrest⟩

lemma fromExcept_bind_ok {α β : Type} {r : Except RelationshipError α}
    {g : α → RelationshipOperation β} {b : β}
    (h : (fromExcept r >>= g).outcome w = (.ok b, w')) :
    ∃ a, r = .ok a ∧ (g a).outcome w = (.ok b, w') := by
  cases r with
  | error e => cases congrArg Prod.fst h
  | ok a => exact ⟨a, rfl, h⟩

lemma fromExcept_ok {α : Type} {r : Except RelationshipError α} {a : α}
    (h : (fromExcept r : RelationshipOperation α).outcome w = (.ok a, w')) : r = .ok a ∧ w' = w :=
  ⟨congrArg Prod.fst h, (congrArg Prod.snd h).symm⟩

lemma pure_ok {α : Type} {a b : α}
    (h : (pure a : RelationshipOperation α).outcome w = (.ok b, w')) : b = a ∧ w' = w :=
  ⟨(Except.ok.inj (congrArg Prod.fst h)).symm, (congrArg Prod.snd h).symm⟩

lemma outcome_storeStep_ok {store : RelationshipStore} {step : StoreStep}
    {change : RelationshipWorld → RelationshipWorld} {u : Unit}
    (h : (lift (storeStep env store step change)).outcome w = (.ok u, w')) :
    w' = change w.tick := by
  rw [outcome_lift, exec_storeStep] at h
  cases hfails : env.fails w.calls store step with
  | some message =>
    rw [hfails] at h
    cases h
  | none =>
    rw [hfails] at h
    exact (congrArg Prod.snd h).symm

variable {identity : AuthenticatedIdentity} {result : RelationshipResult}

lemma getRelationship_ok {relationshipId : String}
    (h : (getRelationship env identity relationshipId).outcome w = (.ok result, w')) :
    env.getRelationship w.calls identity.tetiId relationshipId = .answered result
      ∧ w' = w.tick := by
  obtain ⟨-, hexchange⟩ := throwIf_bind_ok h
  rw [outcome_consult_bind] at hexchange
  obtain ⟨hresult, rfl⟩ := fromExcept_ok hexchange
  exact ⟨Exchange.result_eq_ok hresult, rfl⟩

variable {pending : PendingRelationshipCommand}

/-- A write that returned was answered, and recorded. -/
lemma writeRelationship_ok (h : (writeRelationship env pending).outcome w = (.ok result, w')) :
    env.write w.calls pending = .answered result
      ∧ w' = w.tick.record (.sent pending (.answered result)) := by
  obtain ⟨_, -, hsend⟩ := fromExcept_bind_ok h
  have hrun : (lift (transmit env pending) >>= fun exchange =>
      fromExcept (exchange.result pending.target.networkOperation)).outcome w
      = ((env.write w.calls pending).result pending.target.networkOperation,
        w.tick.record (.sent pending (env.write w.calls pending))) := rfl
  rw [hrun] at hsend
  have hanswered := Exchange.result_eq_ok (congrArg Prod.fst hsend)
  refine ⟨hanswered, ?_⟩
  rw [← hanswered]
  exact (congrArg Prod.snd hsend).symm

lemma raise_ok {α : Type} {e : RelationshipError} {a : α}
    (h : (raise e : RelationshipOperation α).outcome w = (.ok a, w')) : False := by
  cases congrArg Prod.fst h

lemma afterFailure_ok {error : RelationshipError}
    (h : (afterFailure env pending identity error).outcome w = (.ok result, w')) : False := by
  have hrefresh : ∀ w₁, (do
        if error.hasCode .relationshipRevisionConflict then
          let _ ← attempt (refresh env pending identity)
        raise error : RelationshipOperation RelationshipResult).outcome w₁ ≠ (.ok result, w') := by
    intro w₁ hok
    split_ifs at hok with hconflict
    · obtain ⟨_, w₂, -, hraise⟩ := outcome_bind_eq_ok.mp hok
      exact raise_ok hraise
    · exact raise_ok hok
  unfold afterFailure at h
  by_cases hterminal : error.isTerminal = true
  · rw [if_pos hterminal] at h
    obtain ⟨_, w₁, -, hrest⟩ := outcome_bind_eq_ok.mp h
    exact hrefresh w₁ hrest
  · rw [if_neg hterminal] at h
    exact hrefresh w h

lemma readLatest_ok {answer : RelationshipResult}
    (h : (readLatest env identity answer).outcome w = (.ok result, w')) :
    env.getRelationship w.calls identity.tetiId answer.document.id = .answered result
      ∧ w' = w.tick := by
  obtain ⟨latest, w₁, hread, hcheck⟩ := outcome_bind_eq_ok.mp h
  obtain ⟨hlatest, rfl⟩ := getRelationship_ok hread
  obtain ⟨_, -, hpure⟩ := fromExcept_bind_ok hcheck
  obtain ⟨rfl, rfl⟩ := pure_ok hpure
  exact ⟨hlatest, rfl⟩

/-- Sending a command that returned: the server has answered, and if the command was
recovered, the result is what the server says of its relationship afterwards. -/
lemma sendPending_ok {recovered : Bool}
    (h : (sendPending env pending identity recovered).outcome w = (.ok result, w')) :
    ∃ answer, env.write w.calls pending = .answered answer
      ∧ w'.log = w.log ++ [.sent pending (.answered answer)]
      ∧ (recovered = true →
        env.getRelationship (w.calls + 2) identity.tetiId answer.document.id = .answered result) := by
  rw [sendPending, outcome_attempt_bind] at h
  rcases hdeliver : (deliver env pending identity recovered).outcome w with ⟨error | value, w₂⟩
  · rw [hdeliver] at h
    exact (afterFailure_ok h).elim
  rw [hdeliver] at h
  obtain ⟨rfl, rfl⟩ := pure_ok h
  obtain ⟨answer, w₃, hwrite, hafter⟩ := outcome_bind_eq_ok.mp hdeliver
  obtain ⟨hanswer, rfl⟩ := writeRelationship_ok hwrite
  obtain ⟨_, -, hafter⟩ := fromExcept_bind_ok hafter
  obtain ⟨u, w₄, hsave, hlatest⟩ := outcome_bind_eq_ok.mp hafter
  have hw₄ := outcome_storeStep_ok (u := u) hsave
  have hcalls : w₄.calls = w.calls + 2 := by rw [hw₄]; rfl
  have hlog : w₄.log = w.log ++ [.sent pending (.answered answer)] := by rw [hw₄]; rfl
  rw [outcome_attempt_bind] at hlatest
  have hstable : Stable (LogAt w₄.log) (readLatest env identity answer) := stable_readLatest _ _
  have hsame := (hstable w₄ rfl).outcome.1.trans hlog
  rcases hread : (readLatest env identity answer).outcome w₄ with ⟨error | latest, w₅⟩
  · rw [hread] at hlatest hsame
    dsimp only at hlatest
    by_cases hrecovered : recovered = true
    · rw [if_pos hrecovered] at hlatest
      exact (raise_ok hlatest).elim
    · rw [if_neg hrecovered] at hlatest
      obtain ⟨-, rfl⟩ := pure_ok hlatest
      exact ⟨answer, hanswer, hsame, fun h => absurd h hrecovered⟩
  · rw [hread] at hlatest hsame
    obtain ⟨rfl, rfl⟩ := pure_ok hlatest
    refine ⟨answer, hanswer, hsame, fun _ => ?_⟩
    rw [← hcalls]
    exact (readLatest_ok hread).1

/-- The command that the store holds. -/
def StoredCommand (w : RelationshipWorld) (pending : PendingRelationshipCommand) : Prop :=
  ∃ value, w.commandFile = some value
    ∧ validateRelationshipCommandRecord value = .ok ⟨some pending⟩

/-- What recovery has done when it returns: nothing, or it has discarded the command
of another identity, or it has sent the command of this one. -/
inductive Recovery (env : RelationshipEnvironment) (identity : AuthenticatedIdentity)
    (w w' : RelationshipWorld) : Option RelationshipResult → Prop
  | nothing (hnone : ∀ pending, ¬StoredCommand w pending) (hlog : w'.log = w.log) :
      Recovery env identity w w' none
  | discarded {pending : PendingRelationshipCommand} (hstored : StoredCommand w pending)
      (hother : pending.tetiId ≠ identity.tetiId)
      (hlog : w'.log = w.log ++ [.discarded pending]) : Recovery env identity w w' none
  | replayed {pending : PendingRelationshipCommand} {answer latest : RelationshipResult}
      (hstored : StoredCommand w pending) (hsame : pending.tetiId = identity.tetiId)
      (hwrite : env.write (w.calls + 1) pending = .answered answer)
      (hlatest : env.getRelationship (w.calls + 3) identity.tetiId answer.document.id
        = .answered latest)
      (hlog : w'.log = w.log ++ [.sent pending (.answered answer)]) :
      Recovery env identity w w' (some latest)

lemma loadCommand_ok {record : RelationshipCommandRecord}
    (h : (loadCommand env).outcome w = (.ok record, w')) :
    w' = w.tick ∧ ∀ pending, record.pending = some pending ↔ StoredCommand w pending := by
  obtain ⟨u, w₁, hstep, hrest⟩ := outcome_bind_eq_ok.mp h
  obtain rfl := outcome_storeStep_ok hstep
  cases hfile : w.commandFile with
  | none =>
    rw [outcome_bind_ok (show (lift (Program.reads RelationshipWorld.commandFile)).outcome (id w.tick)
      = (.ok none, w.tick) from congrArg (fun file => (Except.ok file, w.tick)) hfile)] at hrest
    obtain ⟨rfl, rfl⟩ := pure_ok hrest
    refine ⟨rfl, fun pending => ?_⟩
    simp [emptyCommandRecord, StoredCommand, hfile]
  | some value =>
    rw [outcome_bind_ok (show (lift (Program.reads RelationshipWorld.commandFile)).outcome (id w.tick)
      = (.ok (some value), w.tick) from congrArg (fun file => (Except.ok file, w.tick)) hfile)] at hrest
    obtain ⟨hvalue, rfl⟩ := fromExcept_ok hrest
    refine ⟨rfl, fun pending => ?_⟩
    obtain ⟨stored⟩ := record
    simp [StoredCommand, hfile, hvalue]

lemma recoverPending_ok {recovered : Option RelationshipResult}
    (h : (recoverPending env identity).outcome w = (.ok recovered, w')) :
    Recovery env identity w w' recovered := by
  obtain ⟨record, w₁, hload, hrest⟩ := outcome_bind_eq_ok.mp h
  obtain ⟨rfl, hstored⟩ := loadCommand_ok hload
  obtain ⟨stored⟩ := record
  cases stored with
  | none =>
    obtain ⟨rfl, rfl⟩ := pure_ok hrest
    refine .nothing (fun pending hpending => ?_) rfl
    cases (hstored pending).mpr hpending
  | some pending =>
    have hpending := (hstored pending).mp rfl
    dsimp only at hrest
    by_cases hidentity : pending.tetiId ≠ identity.tetiId
    · rw [if_pos hidentity] at hrest
      obtain ⟨u, w₂, hsave, hpure⟩ := outcome_bind_eq_ok.mp hrest
      have hw₂ := outcome_storeStep_ok (u := u) hsave
      obtain ⟨rfl, rfl⟩ := pure_ok hpure
      exact .discarded hpending hidentity (by rw [hw₂]; rfl)
    · rw [if_neg hidentity] at hrest
      obtain ⟨latest, w₂, hsend, hpure⟩ := outcome_bind_eq_ok.mp hrest
      obtain ⟨rfl, rfl⟩ := pure_ok hpure
      obtain ⟨answer, hwrite, hlog, hlatest⟩ := sendPending_ok hsend
      exact .replayed hpending (not_not.mp hidentity) hwrite (hlatest rfl) hlog

/-- A new command that returned: the server has executed it. -/
lemma executeNew_ok {target : RelationshipTarget} {current : Option RelationshipResult}
    (h : (executeNew env target current identity).outcome w = (.ok result, w')) :
    ∃ command answer, command.target = target
      ∧ w'.log = w.log ++ [.sent command (.answered answer)] := by
  rw [executeNew, outcome_consult_bind] at h
  obtain ⟨pending, hpending⟩ : ∃ pending, newCommand target current identity
      (env.idempotencyKey w.calls target.operation) = pending := ⟨_, rfl⟩
  have htarget : pending.target = target := by rw [← hpending]; rfl
  rw [hpending] at h
  obtain ⟨u, w₁, hsave, hsend⟩ := outcome_bind_eq_ok.mp h
  obtain ⟨answer, -, hlog, -⟩ := sendPending_ok hsend
  refine ⟨pending, answer, htarget, ?_⟩
  obtain ⟨record, hvalid, hreplace⟩ := fromExcept_bind_ok hsave
  obtain ⟨-, rfl⟩ := (validate_encode _ _).mp hvalid
  have hreplace : (replaceFile env .command fun v =>
      v.setCommandFile (some pending.file)).outcome w.tick = (.ok u, w₁) := hreplace
  have hstable : Stable (LogAt w.log) (replaceFile env .command fun v =>
      v.setCommandFile (some pending.file)) := stable_replaceFile _ fun _ hv => hv
  have hsame := (hstable w.tick rfl).outcome.1
  rw [hreplace] at hsame
  rw [hlog]
  exact congrArg (· ++ _) hsame

/-! ### What a call has done when it returns -/

/-- The consultation in which a call asks who is signed in. -/
def signInCall (w : RelationshipWorld) : Nat := if w.compatible then w.calls else w.calls + 1

lemma prepare_ok (h : (prepare env).outcome w = (.ok identity, w')) :
    env.getAuthentication (signInCall w) = .ok identity ∧ w'.commandFile = w.commandFile
      ∧ w'.log = w.log ∧ w'.calls = signInCall w + 1 := by
  have hsignIn : ∀ w₁ : RelationshipWorld, (do
        let identity ← lift (consult env.getAuthentication)
        fromExcept identity : RelationshipOperation AuthenticatedIdentity).outcome w₁
          = (.ok identity, w') →
      env.getAuthentication w₁.calls = .ok identity ∧ w' = w₁.tick := fun w₁ hrun =>
    fromExcept_ok hrun
  have hrun : (if w.compatible = false then do
        let exchange ← lift (consult env.bootstrap)
        let bootstrap ← fromExcept (exchange.result .bootstrap)
        fromExcept (assertTetiNetworkCompatible bootstrap)
        lift (Program.writes fun w => { w with compatible := true })
        let identity ← lift (consult env.getAuthentication)
        fromExcept identity
      else do
        let identity ← lift (consult env.getAuthentication)
        fromExcept identity : RelationshipOperation AuthenticatedIdentity).outcome w
      = (.ok identity, w') := h
  by_cases hcompatible : w.compatible = false
  · rw [if_pos hcompatible, outcome_consult_bind] at hrun
    obtain ⟨_, -, hrun⟩ := fromExcept_bind_ok hrun
    obtain ⟨_, -, hrun⟩ := fromExcept_bind_ok hrun
    obtain ⟨hidentity, rfl⟩ := hsignIn { w.tick with compatible := true } hrun
    rw [signInCall, hcompatible]
    exact ⟨hidentity, rfl, rfl, rfl⟩
  · rw [if_neg hcompatible] at hrun
    obtain ⟨hidentity, rfl⟩ := hsignIn w hrun
    have hcompatible : w.compatible = true := by simpa using hcompatible
    rw [signInCall, hcompatible]
    exact ⟨hidentity, rfl, rfl, rfl⟩

/-- Recovery returned something that the call may return in place of its own result. -/
lemma filter_eq_some_or {p : RelationshipResult → Prop} [DecidablePred p]
    (recovered : Option RelationshipResult) :
    (∃ latest, recovered = some latest ∧ p latest ∧ recovered.filter (fun r => p r) = some latest)
      ∨ (∀ latest, recovered = some latest → ¬p latest)
        ∧ recovered.filter (fun r => p r) = none := by
  cases recovered with
  | none => exact .inr ⟨nofun, rfl⟩
  | some latest =>
    by_cases h : p latest
    · exact .inl ⟨latest, rfl, h, by simp [Option.filter, h]⟩
    · refine .inr ⟨fun other hother => ?_, by simp [Option.filter, h]⟩
      obtain rfl := Option.some.inj hother
      exact h

variable {asked : RelationshipTarget}

/-- The operations of a target, after recovery: the result of the recovered command if
it is about the same peer or relationship, else a new command. -/
lemma performTarget_ok (h : (performTarget env asked).outcome w = (.ok result, w')) :
    ∃ identity recovered w₁ w₂, (prepare env).outcome w = (.ok identity, w₁)
      ∧ (recoverPending env identity).outcome w₁ = (.ok recovered, w₂)
      ∧ ((∃ latest, recovered = some latest ∧ asked.IsAbout latest.document ∧ w' = w₂)
        ∨ (∀ latest, recovered = some latest → ¬asked.IsAbout latest.document)
          ∧ ∃ command answer, command.target = asked
            ∧ w'.log = w₂.log ++ [.sent command (.answered answer)]) := by
  cases asked with
  | request peerTetiId =>
    obtain ⟨identity, w₁, hprepare, hrest⟩ := outcome_bind_eq_ok.mp h
    obtain ⟨recovered, w₂, hrecover, hrest⟩ := outcome_bind_eq_ok.mp hrest
    refine ⟨identity, recovered, w₁, w₂, hprepare, hrecover, ?_⟩
    rcases filter_eq_some_or (p := fun r => r.document.peerTetiId = peerTetiId) recovered with
      ⟨latest, hlatest, habout, hfilter⟩ | ⟨hother, hfilter⟩
    · rw [hfilter] at hrest
      exact .inl ⟨latest, hlatest, habout, (pure_ok hrest).2⟩
    · rw [hfilter] at hrest
      obtain ⟨current, w₃, hread, hnew⟩ := outcome_bind_eq_ok.mp hrest
      have hstable : Stable (LogAt w₂.log) (readByPeer env peerTetiId identity) :=
        stable_readByPeer _ _
      have hsame := (hstable w₂ rfl).outcome.1
      rw [hread] at hsame
      obtain ⟨command, answer, htarget, hlog⟩ := executeNew_ok hnew
      exact .inr ⟨hother, command, answer, htarget, hlog.trans (congrArg (· ++ _) hsame)⟩
  | command operation relationshipId =>
    obtain ⟨identity, w₁, hprepare, hrest⟩ := outcome_bind_eq_ok.mp h
    obtain ⟨recovered, w₂, hrecover, hrest⟩ := outcome_bind_eq_ok.mp hrest
    refine ⟨identity, recovered, w₁, w₂, hprepare, hrecover, ?_⟩
    rcases filter_eq_some_or (p := fun r => r.document.id = relationshipId) recovered with
      ⟨latest, hlatest, habout, hfilter⟩ | ⟨hother, hfilter⟩
    · rw [hfilter] at hrest
      exact .inl ⟨latest, hlatest, habout, (pure_ok hrest).2⟩
    · rw [hfilter] at hrest
      obtain ⟨current, w₃, hread, hrest⟩ := outcome_bind_eq_ok.mp hrest
      obtain ⟨-, rfl⟩ := getRelationship_ok hread
      obtain ⟨_, -, hnew⟩ := fromExcept_bind_ok hrest
      obtain ⟨command, answer, htarget, hlog⟩ := executeNew_ok hnew
      exact .inr ⟨hother, command, answer, htarget, hlog⟩

/-- What has been done between two points of a run. -/
def eventsBetween (w w' : RelationshipWorld) : List CommandEvent := w'.log.drop w.log.length

/-- The server has executed the operation. -/
def DoesWhatWasAsked (asked : RelationshipTarget) (events : List CommandEvent) : Prop :=
  ∃ command answer, CommandEvent.sent command (.answered answer) ∈ events ∧ command.target = asked

/-- The server has executed the operation, and no other was sent to it. -/
def DoesExactlyWhatWasAsked (asked : RelationshipTarget) (events : List CommandEvent) : Prop :=
  DoesWhatWasAsked asked events
    ∧ ∀ command exchange, CommandEvent.sent command exchange ∈ events → command.target = asked

/-- The stored command of the identity, if there is one, is the operation. -/
def OnlyAskedIsStored (env : RelationshipEnvironment) (w : RelationshipWorld)
    (asked : RelationshipTarget) : Prop :=
  ∀ identity pending, env.getAuthentication (signInCall w) = .ok identity →
    StoredCommand w pending → pending.tetiId = identity.tetiId → pending.target = asked

/-- Another command of the identity is stored, and when it has been replayed the
server's document of its relationship is about the same peer or relationship. -/
def Displaced (env : RelationshipEnvironment) (w : RelationshipWorld)
    (asked : RelationshipTarget) : Prop :=
  ∃ identity pending answer latest, env.getAuthentication (signInCall w) = .ok identity
    ∧ StoredCommand w pending ∧ pending.tetiId = identity.tetiId ∧ pending.target ≠ asked
    ∧ env.write (signInCall w + 2) pending = .answered answer
    ∧ env.getRelationship (signInCall w + 4) identity.tetiId answer.document.id = .answered latest
    ∧ asked.IsAbout latest.document

lemma StoredCommand.unique {p q : PendingRelationshipCommand} (hp : StoredCommand w p)
    (hq : StoredCommand w q) : p = q := by
  obtain ⟨value, hfile, hvalue⟩ := hp
  obtain ⟨other, hother, hread⟩ := hq
  obtain rfl := Option.some.inj (hfile.symm.trans hother)
  simpa using hvalue.symm.trans hread

/-- Without a stored command of the identity, a call that returns sends its own. -/
lemma events_own {before : List CommandEvent} {command : PendingRelationshipCommand}
    {answer : RelationshipResult}
    (hbefore : ∀ event ∈ before, ∃ discarded, event = .discarded discarded)
    (htarget : command.target = asked) :
    DoesExactlyWhatWasAsked asked (before ++ [.sent command (.answered answer)]) := by
  refine ⟨⟨command, answer, by simp, htarget⟩, fun other exchange hmem => ?_⟩
  rcases List.mem_append.mp hmem with hmem | hmem
  · obtain ⟨discarded, h⟩ := hbefore _ hmem
    cases h
  · obtain ⟨rfl, -⟩ := CommandEvent.sent.inj (List.mem_singleton.mp hmem)
    exact htarget

/-- **What a call that returns has done.** -/
lemma performTarget_events (h : (performTarget env asked).outcome w = (.ok result, w')) :
    ∃ identity, env.getAuthentication (signInCall w) = .ok identity
      ∧ ((∀ pending, StoredCommand w pending → pending.tetiId ≠ identity.tetiId)
          ∧ DoesExactlyWhatWasAsked asked (eventsBetween w w')
        ∨ ∃ pending answer latest, StoredCommand w pending ∧ pending.tetiId = identity.tetiId
          ∧ env.write (signInCall w + 2) pending = .answered answer
          ∧ env.getRelationship (signInCall w + 4) identity.tetiId answer.document.id
            = .answered latest
          ∧ (asked.IsAbout latest.document
              ∧ eventsBetween w w' = [.sent pending (.answered answer)]
            ∨ ¬asked.IsAbout latest.document ∧ ∃ command answer', command.target = asked
              ∧ eventsBetween w w' = [.sent pending (.answered answer),
                .sent command (.answered answer')])) := by
  obtain ⟨identity, recovered, w₁, w₂, hprepare, hrecover, hrest⟩ := performTarget_ok h
  obtain ⟨hidentity, hfile, hlog, hcalls⟩ := prepare_ok hprepare
  have hstored : ∀ pending, StoredCommand w₁ pending ↔ StoredCommand w pending := by
    intro pending
    rw [StoredCommand, StoredCommand, hfile]
  have hevents : ∀ {events}, w'.log = w₁.log ++ events → eventsBetween w w' = events := by
    intro events hevents
    rw [eventsBetween, hevents, hlog, List.drop_left]
  refine ⟨identity, hidentity, ?_⟩
  cases recoverPending_ok hrecover with
  | nothing hnone hsame =>
    obtain ⟨_, hlatest, -⟩ | ⟨-, command, answer, htarget, hnew⟩ := hrest
    · cases hlatest
    refine .inl ⟨fun pending hpending => absurd ((hstored pending).mpr hpending) (hnone pending), ?_⟩
    rw [hsame] at hnew
    rw [hevents hnew]
    exact @events_own _ [] _ _ (by simp) htarget
  | @discarded other hother hidentity' hsame =>
    obtain ⟨_, hlatest, -⟩ | ⟨-, command, answer, htarget, hnew⟩ := hrest
    · cases hlatest
    refine .inl ⟨fun pending hpending => ?_, ?_⟩
    · obtain rfl := hpending.unique ((hstored other).mp hother)
      exact hidentity'
    · rw [hsame, List.append_assoc] at hnew
      rw [hevents hnew]
      exact @events_own _ [.discarded other] _ _ (by simp) htarget
  | @replayed pending answer latest hpending hidentity' hwrite hlatest hsame =>
    rw [hcalls] at hwrite hlatest
    refine .inr ⟨pending, answer, latest, (hstored pending).mp hpending, hidentity', hwrite,
      hlatest, ?_⟩
    obtain ⟨_, hsome, habout, rfl⟩ | ⟨hother, command, answer', htarget, hnew⟩ := hrest
    · obtain rfl := Option.some.inj hsome
      exact .inl ⟨habout, hevents hsame⟩
    · rw [hsame, List.append_assoc] at hnew
      exact .inr ⟨hother latest rfl, command, answer', htarget, hevents hnew⟩

/-- **A command does what was asked**, and nothing else, exactly when the store holds
no other command of the same identity; and it does not do it at all exactly when
the result of another stored command is returned in its place. -/
theorem command_does_what_was_asked_iff (env : RelationshipEnvironment)
    (w w' : RelationshipWorld) (asked : RelationshipTarget) (result : RelationshipResult)
    (h : (performTarget env asked).outcome w = (.ok result, w')) :
    (DoesExactlyWhatWasAsked asked (eventsBetween w w') ↔ OnlyAskedIsStored env w asked)
      ∧ (DoesWhatWasAsked asked (eventsBetween w w') ↔ ¬Displaced env w asked) := by
  obtain ⟨identity, hidentity, ⟨hnone, hexactly⟩ |
    ⟨pending, answer, latest, hstored, hsame, hwrite, hlatest, hevents⟩⟩ := performTarget_events h
  · refine ⟨iff_of_true hexactly ?_, iff_of_true hexactly.1 ?_⟩
    · intro other pending hother hpending hsame
      obtain rfl := Except.ok.inj (hidentity.symm.trans hother)
      exact absurd hsame (hnone pending hpending)
    · rintro ⟨other, pending, -, -, hother, hpending, hsame, -⟩
      obtain rfl := Except.ok.inj (hidentity.symm.trans hother)
      exact hnone pending hpending hsame
  -- the stored command of the identity was replayed
  have honly : OnlyAskedIsStored env w asked ↔ pending.target = asked := by
    refine ⟨fun h => h identity pending hidentity hstored hsame, fun htarget other q _ hq _ => ?_⟩
    rw [hq.unique hstored]
    exact htarget
  have hdisplaced : Displaced env w asked ↔
      pending.target ≠ asked ∧ asked.IsAbout latest.document := by
    refine ⟨?_, fun h => ⟨identity, pending, answer, latest, hidentity, hstored, hsame, h.1, hwrite,
      hlatest, h.2⟩⟩
    rintro ⟨other, q, answer', latest', hother, hq, -, htarget, hwrite', hlatest', habout⟩
    obtain rfl := Except.ok.inj (hidentity.symm.trans hother)
    obtain rfl := hq.unique hstored
    obtain rfl := Exchange.answered.inj (hwrite.symm.trans hwrite')
    obtain rfl := Exchange.answered.inj (hlatest.symm.trans hlatest')
    exact ⟨htarget, habout⟩
  rw [honly, hdisplaced]
  obtain ⟨habout, hevents⟩ | ⟨hother, command, answer', htarget, hevents⟩ := hevents
  · -- its result is returned: nothing else was sent
    rw [hevents]
    by_cases htarget : pending.target = asked
    · have hexactly : DoesExactlyWhatWasAsked asked [.sent pending (.answered answer)] :=
        @events_own _ [] _ _ (by simp) htarget
      exact ⟨iff_of_true hexactly htarget, iff_of_true hexactly.1 fun h => h.1 htarget⟩
    · have hnot : ¬DoesWhatWasAsked asked [.sent pending (.answered answer)] := by
        rintro ⟨command, other, hmem, hcommand⟩
        obtain ⟨rfl, -⟩ := CommandEvent.sent.inj (List.mem_singleton.mp hmem)
        exact htarget hcommand
      exact ⟨iff_of_false (fun h => hnot h.1) htarget, iff_of_false hnot (fun h => h ⟨htarget, habout⟩)⟩
  · -- the new command was sent after it
    rw [hevents]
    have hdoes : DoesWhatWasAsked asked [.sent pending (.answered answer),
        .sent command (.answered answer')] := ⟨command, answer', by simp, htarget⟩
    refine ⟨⟨fun h => h.2 pending (.answered answer) (by simp),
        fun hpending => ⟨hdoes, fun q exchange hmem => ?_⟩⟩,
      iff_of_true hdoes fun h => hother h.2⟩
    rcases List.mem_pair.mp hmem with hq | hq
    · rw [(CommandEvent.sent.inj hq).1]
      exact hpending
    · rw [(CommandEvent.sent.inj hq).1]
      exact htarget

/-! ### An acceptance after a rejection -/

/-- The request of the peer, which the owner has rejected. -/
def rejectedRelationship : RelationshipDocument where
  id := "rel_AAAAAAAAAAAAAAAAAAAAAA"
  revision := 2
  state := .rejected
  peerTetiId := samplePeer
  requesterTetiId := samplePeer
  addresseeTetiId := sampleIdentity.tetiId
  direction := .incoming
  blockedBy := none
  createdAt := 0
  updatedAt := 0
  stateChangedAt := 0
  wellFormed := by decide +kernel
  membersDiffer := by decide

variable (operation : RelationshipCommand)

def sampleCommand : RelationshipTarget :=
  .command operation rejectedRelationship.id

/-- A rejection of revision 1, whose answer has not arrived. -/
def sampleRejection : PendingRelationshipCommand where
  tetiId := sampleIdentity.tetiId
  target := sampleCommand .reject
  expectedRevision := 1
  ifMatch := relationshipEtag 1
  idempotencyKey := "relationship.reject:key-0"
  rawBody := Json.stringify ((sampleCommand .reject).body 1)

/-- A server that has rejected the request. -/
def rejectingEnvironment : RelationshipEnvironment where
  bootstrap _ := .answered ⟨1, 8, []⟩
  getAuthentication _ := .ok sampleIdentity
  getRelationship _ _ _ := .answered ⟨rejectedRelationship⟩
  getRelationshipWithPeer _ _ _ := .answered ⟨rejectedRelationship⟩
  write _ _ := .answered ⟨rejectedRelationship⟩
  getSnapshot _ _ _ := .unreachable
  getChanges _ _ _ := .unreachable
  apply _ _ := none
  idempotencyKey n operation := "relationship." ++ operation ++ ":key-" ++ toString n
  fails _ _ _ := none

/-- The process that sent the rejection has ended. -/
def pendingRejection : RelationshipWorld :=
  ⟨some sampleRejection.file, none, false, 0, [.sent sampleRejection .timedOut], []⟩

/-- Whatever the owner asks for where the rejection is pending, the call returns. -/
lemma rejection_result :
    ((performTarget rejectingEnvironment (sampleCommand operation)).outcome pendingRejection).1
      = .ok ⟨rejectedRelationship⟩ := by
  cases operation with
  | accept => decide +kernel
  | reject => decide +kernel
  | block => decide +kernel
  | revoke => decide +kernel

/-- And the rejection is what it has sent. -/
lemma rejection_log :
    ((performTarget rejectingEnvironment (sampleCommand operation)).outcome pendingRejection).2.log
      = [.sent sampleRejection .timedOut,
        .sent sampleRejection (.answered ⟨rejectedRelationship⟩)] := by
  cases operation with
  | accept => decide +kernel
  | reject => decide +kernel
  | block => decide +kernel
  | revoke => decide +kernel

lemma after_rejection :
    ∃ w, (performTarget rejectingEnvironment (sampleCommand operation)).outcome pendingRejection
        = (.ok ⟨rejectedRelationship⟩, w)
      ∧ eventsBetween pendingRejection w
        = [.sent sampleRejection (.answered ⟨rejectedRelationship⟩)] := by
  have hresult := rejection_result operation
  have hlog := rejection_log operation
  generalize (performTarget rejectingEnvironment (sampleCommand operation)).outcome
    pendingRejection = outcome at hresult hlog
  obtain ⟨r, w⟩ := outcome
  obtain rfl : r = .ok ⟨rejectedRelationship⟩ := hresult
  refine ⟨w, rfl, ?_⟩
  rw [eventsBetween, hlog]
  rfl

/-- The owner accepts where a rejection is pending: the call returns normally, and
what the server has executed is the rejection. -/
theorem rejection_in_place_of_acceptance :
    ¬∀ (env : RelationshipEnvironment) (w w' : RelationshipWorld) (asked : RelationshipTarget)
      (result : RelationshipResult), (performTarget env asked).outcome w = (.ok result, w') →
        DoesExactlyWhatWasAsked asked (eventsBetween w w') := by
  intro h
  obtain ⟨w, hrun, hevents⟩ := after_rejection .accept
  obtain ⟨⟨command, answer, hmem, htarget⟩, -⟩ := h _ _ _ _ _ hrun
  rw [hevents] at hmem
  obtain ⟨rfl, -⟩ := CommandEvent.sent.inj (List.mem_singleton.mp hmem)
  cases htarget

/-- The owner rejects where a rejection is pending. -/
theorem command_does_what_was_asked_rejection :
    ∃ w, (performTarget rejectingEnvironment (sampleCommand .reject)).outcome pendingRejection
        = (.ok ⟨rejectedRelationship⟩, w)
      ∧ DoesExactlyWhatWasAsked (sampleCommand .reject) (eventsBetween pendingRejection w) := by
  obtain ⟨w, hrun, -⟩ := after_rejection .reject
  refine ⟨w, hrun, (command_does_what_was_asked_iff _ _ _ _ _ hrun).1.mpr ?_⟩
  intro identity pending _ hstored _
  have hvalid : sampleRejection.Valid := by constructor <;> decide +kernel
  have hsample : StoredCommand pendingRejection sampleRejection := ⟨_, rfl, validate_file hvalid⟩
  rw [hstored.unique hsample]
  rfl

end TetiBot

import TetiBot.Desktop.Bridge

/-
Requests and responses of the bridge (`src-tauri/src/lifecycle_bridge.rs`).

* `BridgeSound`: the sender of a call is in one place, its entry goes before the call
  returns, and what is on its way to a call carries the identifier of its request.
* `advance_remaining`, `exists_advance`: a call that goes on comes nearer to its outcome,
  and one of those without an outcome can go on.
* `lifecycle_bridge_correlates`: every request has one outcome, of its own identifier, and
  no entry stays behind.
-/

namespace TetiBot

open Library

namespace LifecycleBridge

variable {env : BridgeEnv} {b t : LifecycleBridge} {c : BridgeCall} {n : Nat}

/-- The calls whose senders are in a table, or on their way. -/
def senders (b : LifecycleBridge) : List Nat := b.pending.map (·.call) ++ b.sending.map (·.call)

structure BridgeSound (b : LifecycleBridge) : Prop where
  once : b.senders.Nodup
  keys : ∀ e ∈ b.pending, ∀ e' ∈ b.pending, e.sidecar = e'.sidecar → e.id = e'.id → e = e'
  pending : ∀ e ∈ b.pending, ∃ c, b.calls[e.call]? = some c ∧ c.request.id = e.id
    ∧ c.stage.registeredAt = some e.sidecar
  sending : ∀ e ∈ b.sending, ∃ c, b.calls[e.call]? = some c ∧ e.response.id = some c.request.id
    ∧ c.stage.isUnregistered = false
  buffered : ∀ (k : Nat) c r, b.calls[k]? = some c → c.buffer = some r →
    r.id = some c.request.id ∧ c.stage.isUnregistered = false ∧ k ∉ b.senders
  responses : ∀ (k : Nat) c r, b.calls[k]? = some c → c.stage.response? = some r → r.id = some c.request.id
  holder : ∀ k, b.holder = some k ↔ ∃ c, b.calls[k]? = some c ∧ c.stage.holdsProcess = true

/-- What is on its way, and who has the mutex, is all that soundness is about. -/
lemma BridgeSound.congr (h : b.BridgeSound) (hcalls : t.calls = b.calls) (hpending : t.pending = b.pending)
    (hsending : t.sending = b.sending) (hholder : t.holder = b.holder) : t.BridgeSound where
  once := by
    rw [senders, hpending, hsending]
    exact h.once
  keys := by
    rw [hpending]
    exact h.keys
  pending := by
    rw [hpending, hcalls]
    exact h.pending
  sending := by
    rw [hsending, hcalls]
    exact h.sending
  buffered := by
    rw [hcalls, senders, hpending, hsending]
    exact h.buffered
  responses := by
    rw [hcalls]
    exact h.responses
  holder := by
    rw [hcalls, hholder]
    exact h.holder

/-! ### Calls -/

/-- A call goes on; it may have removed its entry, and taken the mutex or given it back. -/
lemma BridgeSound.modify (h : b.BridgeSound) (hc : b.calls[n]? = some c) {f : BridgeCall → BridgeCall}
    (hf : (f c).request = c.request ∧ (f c).buffer = c.buffer)
    (hunregistered : c.stage.isUnregistered = false → (f c).stage.isUnregistered = false)
    (hresponse : ∀ r, (f c).stage.response? = some r → r.id = some c.request.id)
    (hcalls : t.calls = b.calls.modify n f) (hpending : t.pending.Sublist b.pending)
    (hentry : ∀ e ∈ t.pending, e.call = n → (f c).stage.registeredAt = some e.sidecar)
    (hsending : t.sending = b.sending) (hfree : c.stage.holdsProcess = false →
      (f c).stage.holdsProcess = true → b.holder = none)
    (hholder : t.holder = if (f c).stage.holdsProcess then some n
      else if c.stage.holdsProcess then none else b.holder) : t.BridgeSound := by
  have hsenders : t.senders.Sublist b.senders := by
    rw [senders, senders, hsending]
    exact (hpending.map _).append (List.Sublist.refl _)
  have hself : t.calls[n]? = some (f c) := by
    rw [hcalls]
    exact getElem?_modify_self hc
  have hother : ∀ {k : Nat} {d}, k ≠ n → (t.calls[k]? = some d ↔ b.calls[k]? = some d) := by
    intro k d hk
    rw [hcalls, List.getElem?_modify]
    cases b.calls[k]? <;> simp [Ne.symm hk]
  exact {
    once := hsenders.nodup h.once
    keys := fun e he e' he' => h.keys e (hpending.subset he) e' (hpending.subset he')
    pending := fun e he => by
      obtain ⟨d, hd, hid, hregistered⟩ := h.pending e (hpending.subset he)
      by_cases hk : e.call = n
      · rw [hk] at hd ⊢
        obtain rfl := Option.some.inj (hc.symm.trans hd)
        exact ⟨_, hself, hf.1 ▸ hid, hentry e he hk⟩
      · exact ⟨d, (hother hk).mpr hd, hid, hregistered⟩
    sending := fun e he => by
      rw [hsending] at he
      obtain ⟨d, hd, hid, hregistered⟩ := h.sending e he
      by_cases hk : e.call = n
      · rw [hk] at hd ⊢
        obtain rfl := Option.some.inj (hc.symm.trans hd)
        exact ⟨_, hself, hf.1 ▸ hid, hunregistered hregistered⟩
      · exact ⟨d, (hother hk).mpr hd, hid, hregistered⟩
    buffered := fun k d r hd hbuffer => by
      by_cases hk : k = n
      · subst hk
        obtain rfl := Option.some.inj (hself.symm.trans hd)
        obtain ⟨hid, hregistered, hsender⟩ := h.buffered k c r hc (hf.2 ▸ hbuffer)
        exact ⟨hf.1 ▸ hid, hunregistered hregistered, fun hmem => hsender (hsenders.subset hmem)⟩
      · obtain ⟨hid, hregistered, hsender⟩ := h.buffered k d r ((hother hk).mp hd) hbuffer
        exact ⟨hid, hregistered, fun hmem => hsender (hsenders.subset hmem)⟩
    responses := fun k d r hd hr => by
      by_cases hk : k = n
      · subst hk
        obtain rfl := Option.some.inj (hself.symm.trans hd)
        rw [hf.1]
        exact hresponse r hr
      · exact h.responses k d r ((hother hk).mp hd) hr
    holder := fun k => by
      have hbefore := h.holder k
      have hmine := h.holder n
      rw [hc] at hmine
      by_cases hk : k = n
      · subst hk
        rw [hholder, hself]
        cases hnew : (f c).stage.holdsProcess <;> cases hold : c.stage.holdsProcess <;> simp_all
      · rw [hholder, exists_congr fun d => and_congr_left fun _ => hother hk, ← hbefore]
        cases hnew : (f c).stage.holdsProcess <;> cases hold : c.stage.holdsProcess <;>
          simp_all [Ne.symm hk] }

/-- A call goes on with the mutex, or without it, and leaves the tables alone. -/
lemma BridgeSound.enter (h : b.BridgeSound) (hc : b.calls[n]? = some c) {stage : BridgeStage}
    (hunregistered : c.stage.isUnregistered = false → stage.isUnregistered = false)
    (hresponse : ∀ r, stage.response? = some r → r.id = some c.request.id)
    (hregistered : c.stage.registeredAt = none ∨ stage.registeredAt = c.stage.registeredAt)
    (hholds : stage.holdsProcess = c.stage.holdsProcess) : (b.enter n stage).BridgeSound := by
  refine h.modify hc (f := fun c => { c with stage := stage }) ⟨rfl, rfl⟩ hunregistered hresponse rfl
    (List.Sublist.refl _) (fun e he hk => ?_) rfl (fun hfree htaken => ?_) ?_
  · obtain ⟨d, hd, -, hat⟩ := h.pending e he
    rw [hk, hc] at hd
    obtain rfl := Option.some.inj hd
    rcases hregistered with hnone | hsame
    · cases hnone.symm.trans hat
    · exact hsame.trans hat
  · cases hfree.symm.trans (hholds.symm.trans htaken)
  · show b.holder = if stage.holdsProcess then some n else if c.stage.holdsProcess then none else b.holder
    rw [← hholds]
    split_ifs with hnew
    · exact (h.holder n).mpr ⟨c, hc, hholds ▸ hnew⟩
    · rfl

/-- A call that has no entry left returns. -/
lemma BridgeSound.finish (h : b.BridgeSound) (hc : b.calls[n]? = some c) {response : LifecycleCommandResponse}
    (hresponse : response.id = some c.request.id) (hentry : ∀ e ∈ b.pending, e.call ≠ n) :
    (b.finish n response).BridgeSound := by
  refine h.modify hc (f := fun c => { c with stage := .returned response }) ⟨rfl, rfl⟩ (fun _ => rfl)
    (fun r hr => ?_) rfl (List.Sublist.refl _) (fun e he hk => absurd hk (hentry e he)) rfl
    (fun _ htaken => by cases htaken) ?_
  · obtain rfl := Option.some.inj hr
    exact hresponse
  · show (if b.holder = some n then none else b.holder) = if false = true then _ else _
    cases hold : c.stage.holdsProcess with
    | true => simp [(h.holder n).mpr ⟨c, hc, hold⟩]
    | false =>
      have hother : b.holder ≠ some n := fun hmine => by
        obtain ⟨d, hd, hholds⟩ := (h.holder n).mp hmine
        obtain rfl := Option.some.inj (hc.symm.trans hd)
        cases hold.symm.trans hholds
      simp [hother]

/-! ### Tables -/

lemma entry?_some {sidecar : Nat} {id : String} {e : PendingResponse} (h : b.entry? sidecar id = some e) :
    e ∈ b.pending ∧ e.sidecar = sidecar ∧ e.id = id :=
  ⟨List.mem_of_find?_eq_some h, by simpa using List.find?_some h⟩

section

variable (h : b.BridgeSound)
include h

lemma BridgeSound.nodup_pending : (b.pending.map (·.call)).Nodup :=
  (List.nodup_append.mp h.once).1

lemma BridgeSound.not_unregistered {e : PendingResponse} (he : e ∈ b.pending) :
    ∃ c, b.calls[e.call]? = some c ∧ e.id = c.request.id ∧ c.stage.isUnregistered = false := by
  obtain ⟨c, hc, hid, hregistered⟩ := h.pending e he
  refine ⟨c, hc, hid.symm, ?_⟩
  cases hstage : c.stage <;> simp [hstage, BridgeStage.registeredAt] at hregistered <;> rfl

/-- Senders leave the tables, and are on their way with a response of their own call. -/
lemma BridgeSound.take {taken : List PendingResponse} {responses : List OutgoingResponse}
    (hperm : b.pending.Perm (taken ++ t.pending))
    (hresponses : responses.map (·.call) = taken.map (·.call))
    (hid : ∀ r ∈ responses, ∃ e ∈ taken, r.call = e.call ∧ r.response.id = some e.id)
    (hcalls : t.calls = b.calls) (hsending : t.sending = b.sending ++ responses)
    (hholder : t.holder = b.holder) : t.BridgeSound := by
  have hmem : ∀ e ∈ t.pending, e ∈ b.pending := fun e he =>
    hperm.symm.subset (List.mem_append_right _ he)
  have hsenders : t.senders.Perm b.senders := by
    rw [senders, senders, hsending, List.map_append, hresponses]
    have hmap := hperm.map (·.call)
    rw [List.map_append] at hmap
    refine List.Perm.trans ?_ (hmap.symm.append_right _)
    rw [List.append_assoc, ← List.append_assoc]
    exact (List.perm_append_comm).trans (List.Perm.refl _)
  exact {
    once := hsenders.nodup_iff.mpr h.once
    keys := fun e he e' he' => h.keys e (hmem e he) e' (hmem e' he')
    pending := fun e he => by
      rw [hcalls]
      exact h.pending e (hmem e he)
    sending := fun r hr => by
      rw [hcalls]
      rw [hsending] at hr
      rcases List.mem_append.mp hr with hr | hr
      · exact h.sending r hr
      · obtain ⟨e, he, hcall, hresponse⟩ := hid r hr
        obtain ⟨c, hc, hsame, hstage⟩ := h.not_unregistered (hperm.symm.subset (List.mem_append_left _ he))
        exact ⟨c, hcall ▸ hc, hresponse.trans (congrArg some hsame), hstage⟩
    buffered := fun k c r hc hr => by
      rw [hcalls] at hc
      obtain ⟨hown, hstage, hsender⟩ := h.buffered k c r hc hr
      exact ⟨hown, hstage, fun hk => hsender (hsenders.subset hk)⟩
    responses := fun k c r hc => by
      rw [hcalls] at hc
      exact h.responses k c r hc
    holder := fun k => by
      rw [hcalls, hholder]
      exact h.holder k }

/-- **A response line** is taken by the call whose identifier it carries. -/
lemma BridgeSound.dispatch (env : BridgeEnv) (sidecar : Nat) (line : String) :
    (dispatchResponseLine env b sidecar line).BridgeSound := by
  rw [dispatchResponseLine]
  cases parseSidecarResponseLine env line with
  | none => exact h
  | some response =>
    cases hid : response.id with
    | none => simpa only [hid] using h
    | some id =>
      simp only [hid]
      cases hentry : b.entry? sidecar id with
      | none => exact h
      | some e =>
        obtain ⟨hmem, -, hown⟩ := entry?_some hentry
        have hperm : b.pending.Perm ([e] ++ b.pending.erase e) := List.perm_cons_erase hmem
        have hcall : [(⟨e.call, response⟩ : OutgoingResponse)].map (·.call) = [e].map (·.call) := rfl
        refine h.take hperm hcall (fun r hr => ?_) rfl rfl rfl
        obtain rfl := List.mem_singleton.mp hr
        exact ⟨e, List.mem_singleton_self e, rfl, hid.trans (congrArg some hown.symm)⟩

/-- **The table of a sidecar fails.** -/
lemma BridgeSound.failPending (sidecar : Nat) : (b.failPendingResponses sidecar).BridgeSound := by
  have hperm : b.pending.Perm ((b.pending.filter fun e => decide (e.sidecar = sidecar))
      ++ (b.failPendingResponses sidecar).pending) := by
    have hfilter := List.filter_append_perm (fun e : PendingResponse => decide (e.sidecar = sidecar)) b.pending
    simpa [failPendingResponses] using hfilter.symm
  refine h.take hperm (by rw [List.map_map]; rfl) (fun r hr => ?_) rfl rfl rfl
  obtain ⟨e, he, rfl⟩ := List.mem_map.mp hr
  exact ⟨e, he, rfl, rfl⟩

/-- A call that has put its sender into a table removes it. -/
lemma BridgeSound.remove (sidecar : Nat) (id : String) :
    (b.removePendingResponse sidecar id).BridgeSound := by
  rw [removePendingResponse]
  cases hentry : b.entry? sidecar id with
  | none => exact h
  | some e =>
    have hsub : (b.pending.erase e).Sublist b.pending := List.erase_sublist
    have hsenders : ((b.pending.erase e).map (·.call) ++ b.sending.map (·.call)).Sublist b.senders :=
      (hsub.map _).append (List.Sublist.refl _)
    exact { h with
      once := hsenders.nodup h.once
      keys := fun d hd d' hd' => h.keys d (hsub.subset hd) d' (hsub.subset hd')
      pending := fun d hd => h.pending d (hsub.subset hd)
      buffered := fun k c r hc hr => by
        obtain ⟨hown, hstage, hsender⟩ := h.buffered k c r hc hr
        exact ⟨hown, hstage, fun hk => hsender (hsenders.subset hk)⟩ }

end

lemma calls_removePendingResponse (b : LifecycleBridge) (sidecar : Nat) (id : String) :
    (b.removePendingResponse sidecar id).calls = b.calls
      ∧ (b.removePendingResponse sidecar id).holder = b.holder := by
  rw [removePendingResponse]
  cases b.entry? sidecar id <;> exact ⟨rfl, rfl⟩

section

variable (h : b.BridgeSound)

include h

/-- The entry of the call is not there any more. -/
lemma BridgeSound.removed (hc : b.calls[n]? = some c) {sidecar : Nat}
    (hstage : c.stage.registeredAt = some sidecar) :
    ∀ e ∈ (b.removePendingResponse sidecar c.request.id).pending, e.call ≠ n := by
  intro e he hk
  have hin : e ∈ b.pending → e.sidecar = sidecar ∧ e.id = c.request.id := fun hmem => by
    obtain ⟨d, hd, hid, hat⟩ := h.pending e hmem
    rw [hk, hc] at hd
    obtain rfl := Option.some.inj hd
    exact ⟨(Option.some.inj (hstage.symm.trans hat)).symm, hid.symm⟩
  rw [removePendingResponse] at he
  cases hentry : b.entry? sidecar c.request.id with
  | none =>
    rw [hentry] at he
    have hnone := List.find?_eq_none.mp hentry e he
    simp [hin he] at hnone
  | some e' =>
    rw [hentry] at he
    obtain ⟨hmem', hsidecar', hid'⟩ := entry?_some hentry
    have hmem := List.mem_of_mem_erase he
    obtain ⟨hsidecar, hid⟩ := hin hmem
    obtain rfl := h.keys e hmem e' hmem' (hsidecar.trans hsidecar'.symm) (hid.trans hid'.symm)
    exact (List.Nodup.of_map _ h.nodup_pending).not_mem_erase he

/-- **A sender is put into a table** that has no entry of its identifier. -/
lemma BridgeSound.register (hc : b.calls[n]? = some c) {sidecar : Nat}
    (hstage : c.stage = .registering sidecar) (env : BridgeEnv) :
    (registerCall env b n c.request sidecar).BridgeSound := by
  have hunregistered : c.stage.isUnregistered = true := by
    rw [hstage]
    rfl
  have hnone : ∀ e ∈ b.pending, e.call ≠ n := fun e he hk => by
    obtain ⟨d, hd, -, hregistered⟩ := h.not_unregistered he
    rw [hk, hc] at hd
    obtain rfl := Option.some.inj hd
    cases hunregistered.symm.trans hregistered
  have hfinish : ∀ error, (b.finish n (bridgeFailure (some c.request.id) error)).BridgeSound :=
    fun error => h.finish hc rfl hnone
  rw [registerCall]
  cases env.serialize c.request with
  | none => exact hfinish _
  | some line =>
    dsimp only
    split_ifs with hsize hpending
    · exact hfinish _
    · exact hfinish _
    · have hnew : n ∉ b.senders := by
        intro hmem
        rcases List.mem_append.mp hmem with hmem | hmem
        · obtain ⟨e, he, rfl⟩ := List.mem_map.mp hmem
          exact hnone e he rfl
        · obtain ⟨r, hr, rfl⟩ := List.mem_map.mp hmem
          obtain ⟨d, hd, -, hregistered⟩ := h.sending r hr
          obtain rfl := Option.some.inj (hc.symm.trans hd)
          cases hunregistered.symm.trans hregistered
      have hbuffer : c.buffer = none := by
        cases hfull : c.buffer with
        | none => rfl
        | some r => cases hunregistered.symm.trans (h.buffered n c r hc hfull).2.1
      have hentered : (b.enter n (.writing sidecar)).BridgeSound := by
        refine h.enter hc (fun _ => rfl) (fun r hr => by cases hr) (.inl ?_) ?_ <;> (rw [hstage]; rfl)
      have hself : (b.enter n (.writing sidecar)).calls[n]? = some { c with stage := .writing sidecar } :=
        getElem?_modify_self hc
      have hsenders : ((b.pending ++ [(⟨sidecar, c.request.id, n⟩ : PendingResponse)]).map (·.call)
          ++ b.sending.map (·.call)).Perm (n :: b.senders) := by
        rw [List.map_append, List.append_assoc]
        exact List.perm_middle
      exact { hentered with
        once := hsenders.nodup_iff.mpr (List.nodup_cons.mpr ⟨hnew, h.once⟩)
        keys := fun e he e' he' hsidecar hid => by
          have habsent : ∀ e ∈ b.pending, e.sidecar = sidecar → e.id ≠ c.request.id := fun e he hat hid => by
            have hno := List.find?_eq_none.mp (Option.not_isSome_iff_eq_none.mp hpending) e he
            simp [hat, hid] at hno
          rcases List.mem_append.mp he with he | he <;> rcases List.mem_append.mp he' with he' | he'
          · exact h.keys e he e' he' hsidecar hid
          · obtain rfl := List.mem_singleton.mp he'
            exact absurd hid (habsent e he hsidecar)
          · obtain rfl := List.mem_singleton.mp he
            exact absurd hid.symm (habsent e' he' hsidecar.symm)
          · exact (List.mem_singleton.mp he).trans (List.mem_singleton.mp he').symm
        pending := fun e he => by
          rcases List.mem_append.mp he with he | he
          · exact hentered.pending e he
          · obtain rfl := List.mem_singleton.mp he
            exact ⟨_, hself, rfl, rfl⟩
        buffered := fun k d r hd hr => by
          obtain ⟨hown, hregistered, hsender⟩ := hentered.buffered k d r hd hr
          refine ⟨hown, hregistered, fun hk => ?_⟩
          rcases List.mem_cons.mp (hsenders.subset hk) with rfl | hk
          · obtain rfl := Option.some.inj (hself.symm.trans hd)
            cases hbuffer.symm.trans hr
          · exact hsender hk }

/-- **A response reaches its channel**, which is empty. -/
lemma BridgeSound.deliver {index : Nat} {r : OutgoingResponse} (hr : b.sending[index]? = some r)
    (hdeliver : b.deliver index r = some t) : t.BridgeSound := by
  have hmem : r ∈ b.sending := List.mem_of_getElem? hr
  have hsub : (b.sending.eraseIdx index).Sublist b.sending := List.eraseIdx_sublist _ _
  have hsenders : (b.pending.map (·.call) ++ (b.sending.eraseIdx index).map (·.call)).Sublist b.senders :=
    (List.Sublist.refl _).append (hsub.map _)
  have hleft : ({ b with sending := b.sending.eraseIdx index } : LifecycleBridge).BridgeSound := { h with
    once := hsenders.nodup h.once
    sending := fun e he => h.sending e (hsub.subset he)
    buffered := fun k c r hc hr => by
      obtain ⟨hown, hstage, hsender⟩ := h.buffered k c r hc hr
      exact ⟨hown, hstage, fun hk => hsender (hsenders.subset hk)⟩ }
  rw [LifecycleBridge.deliver] at hdeliver
  split at hdeliver
  · cases hdeliver
  · rename_i c hc
    split_ifs at hdeliver with hreturned hfull
    · obtain rfl := Option.some.inj hdeliver
      exact hleft
    · obtain rfl := Option.some.inj hdeliver
      have hperm : (r :: b.sending.eraseIdx index).Perm b.sending := by
        obtain ⟨hlt, hget⟩ := List.getElem?_eq_some_iff.mp hr
        exact hget ▸ List.getElem_cons_eraseIdx_perm hlt
      have hgone : r.call ∉ b.pending.map (·.call) ++ (b.sending.eraseIdx index).map (·.call) := by
        have hall : (r.call :: (b.pending.map (·.call) ++ (b.sending.eraseIdx index).map (·.call))).Perm b.senders :=
          List.perm_middle.symm.trans ((hperm.map (·.call)).append_left _)
        exact (List.nodup_cons.mp (hall.nodup_iff.mpr h.once)).1
      obtain ⟨d, hd, hown, hregistered⟩ := h.sending r hmem
      obtain rfl := Option.some.inj (hc.symm.trans hd)
      have hcalls : ∀ (k : Nat) a, b.calls[k]? = some a → ∃ a',
          (b.calls.modify r.call fun c => { c with buffer := some r.response })[k]? = some a'
            ∧ a'.request = a.request ∧ a'.stage = a.stage := fun k a ha => by
        refine ⟨_, getElem?_modify_some ha, ?_⟩
        split_ifs <;> exact ⟨rfl, rfl⟩
      exact {
        once := hleft.once
        keys := hleft.keys
        pending := fun e he => by
          obtain ⟨a, ha, hid, hat⟩ := hleft.pending e he
          obtain ⟨a', ha', hrequest, hstage⟩ := hcalls _ a ha
          exact ⟨a', ha', hrequest ▸ hid, hstage ▸ hat⟩
        sending := fun e he => by
          obtain ⟨a, ha, hid, hat⟩ := hleft.sending e he
          obtain ⟨a', ha', hrequest, hstage⟩ := hcalls _ a ha
          exact ⟨a', ha', hrequest ▸ hid, hstage ▸ hat⟩
        buffered := fun k a response ha hresponse => by
          rcases getElem?_modify_cases hc ha with ⟨rfl, rfl⟩ | ⟨-, hold⟩
          · obtain rfl := Option.some.inj hresponse
            exact ⟨hown, hregistered, hgone⟩
          · exact hleft.buffered k a response hold hresponse
        responses := fun k a response ha hresponse => by
          rcases getElem?_modify_cases hc ha with ⟨rfl, rfl⟩ | ⟨-, hold⟩
          · exact h.responses _ c response hc hresponse
          · exact h.responses k a response hold hresponse
        holder := fun k => by
          refine (h.holder k).trans ⟨fun ⟨a, ha, hholds⟩ => ?_, fun ⟨a, ha, hholds⟩ => ?_⟩
          · obtain ⟨a', ha', -, hstage⟩ := hcalls k a ha
            exact ⟨a', ha', hstage ▸ hholds⟩
          · rcases getElem?_modify_cases hc ha with ⟨rfl, rfl⟩ | ⟨-, hold⟩
            · exact ⟨c, hc, hholds⟩
            · exact ⟨a, hold, hholds⟩ }

/-- **A request** is given to a new call. -/
lemma BridgeSound.request (env : BridgeEnv) (request : LifecycleCommandRequest) :
    (lifecycleRequest env b request).BridgeSound := by
  unfold lifecycleRequest
  extract_lets stage
  have hnew : (∀ r, stage.response? = some r → r.id = some request.id) ∧ stage.holdsProcess = false := by
    subst stage
    split
    · exact ⟨fun r hr => Option.some.inj hr ▸ rfl, rfl⟩
    · split_ifs
      · exact ⟨fun r hr => (by cases hr), rfl⟩
      · exact ⟨fun r hr => Option.some.inj hr ▸ rfl, rfl⟩
  clear_value stage
  have hold : ∀ (k : Nat) c, b.calls[k]? = some c → (b.calls ++ [⟨request, stage, none⟩])[k]? = some c :=
    fun k c hc => getElem?_concat_old hc
  exact {
    once := h.once
    keys := h.keys
    pending := fun e he => by
      obtain ⟨c, hc, hid⟩ := h.pending e he
      exact ⟨c, hold _ c hc, hid⟩
    sending := fun e he => by
      obtain ⟨c, hc, hid⟩ := h.sending e he
      exact ⟨c, hold _ c hc, hid⟩
    buffered := fun k c r hc hr => by
      rcases getElem?_concat hc with hc | ⟨-, rfl⟩
      · exact h.buffered k c r hc hr
      · cases hr
    responses := fun k c r hc hr => by
      rcases getElem?_concat hc with hc | ⟨-, rfl⟩
      · exact h.responses k c r hc hr
      · exact hnew.1 r hr
    holder := fun k => by
      refine (h.holder k).trans ⟨?_, ?_⟩
      · rintro ⟨c, hc, hholds⟩
        exact ⟨c, hold k c hc, hholds⟩
      · rintro ⟨c, hc, hholds⟩
        rcases getElem?_concat hc with hc | ⟨-, rfl⟩
        · exact ⟨c, hc, hholds⟩
        · cases hnew.2.symm.trans hholds }

/-! ### Steps -/

/-- A call takes the mutex, or goes on with it. -/
lemma BridgeSound.lock (hc : b.calls[n]? = some c) (hfree : b.holder = none)
    (hstage : c.stage = .locking) : ({ b with holder := some n }.enter n .probing).BridgeSound := by
  refine h.modify hc (f := fun c => { c with stage := .probing }) ⟨rfl, rfl⟩ (by simp [hstage]) (by simp) rfl
    (List.Sublist.refl _) (fun e he hk => ?_) rfl (fun _ _ => hfree) rfl
  obtain ⟨d, hd, -, hat⟩ := h.pending e he
  rw [hk, hc] at hd
  obtain rfl := Option.some.inj hd
  simp [hstage] at hat

/-- A call gives the mutex back, and waits for its response. -/
lemma BridgeSound.unlock (hc : b.calls[n]? = some c) {sidecar : Nat}
    (hstage : c.stage = .flushing sidecar) :
    ({ b with holder := none }.enter n (.waiting sidecar)).BridgeSound := by
  refine h.modify hc (f := fun c => { c with stage := .waiting sidecar }) ⟨rfl, rfl⟩ (by simp) (by simp) rfl
    (List.Sublist.refl _) (fun e he hk => ?_) rfl (by simp) (by rw [hstage]; rfl)
  obtain ⟨d, hd, -, hat⟩ := h.pending e he
  rw [hk, hc] at hd
  obtain rfl := Option.some.inj hd
  simpa [hstage] using hat

/-- **A call goes on.** -/
lemma BridgeSound.advance (hc : b.calls[n]? = some c) {answer : BridgeAnswer}
    (hadvance : advance env b n c answer = some t) : t.BridgeSound := by
  have hnone : c.stage.registeredAt = none → ∀ e ∈ b.pending, e.call ≠ n := fun hstage e he hk => by
    obtain ⟨d, hd, -, hat⟩ := h.pending e he
    rw [hk, hc] at hd
    obtain rfl := Option.some.inj hd
    cases hstage.symm.trans hat
  obtain ⟨request, stage, buffer⟩ := c
  simp only [LifecycleBridge.advance] at hadvance
  split at hadvance
  · -- the bridge may be disabled
    split_ifs at hadvance <;> obtain rfl := Option.some.inj hadvance
    · exact h.finish hc rfl (hnone rfl)
    · exact h.enter hc (by simp) (by simp) (.inl rfl) rfl
  · obtain ⟨hfree, htaken⟩ := Option.ite_none_left_eq_some.mp hadvance
    obtain rfl := Option.some.inj htaken
    exact h.lock hc (by simpa using hfree) rfl
  · split at hadvance <;> obtain rfl := Option.some.inj hadvance <;>
      exact h.enter hc (by simp) (by simp) (.inl rfl) rfl
  · split at hadvance
    · cases hadvance
    · obtain rfl := Option.some.inj hadvance
      exact (h.congr (t := { b with process := none }) rfl rfl rfl rfl).enter hc (by simp) (by simp) (.inl rfl) rfl
  · -- the table fails before the sidecar is gone
    rename_i sidecar failed
    obtain rfl := Option.some.inj hadvance
    refine (h.failPending sidecar).enter hc ?_ (fun r hr => h.responses n _ r hc hr) (.inl rfl) rfl
    cases failed <;> simp
  · obtain rfl := Option.some.inj hadvance
    exact h.enter hc (by simp) (by simp) (.inl rfl) rfl
  · obtain rfl := Option.some.inj hadvance
    exact h.finish hc (h.responses n _ _ hc rfl) (hnone rfl)
  · obtain rfl := Option.some.inj hadvance
    refine (h.congr (t := { b with
      process := some b.spawned
      spawned := b.spawned + 1
      reading := b.spawned :: b.reading }) rfl rfl rfl rfl).enter hc (by simp) (by simp) (.inl rfl) rfl
  · obtain rfl := Option.some.inj hadvance
    exact h.finish hc rfl (hnone rfl)
  · obtain rfl := Option.some.inj hadvance
    exact h.register hc rfl env
  · obtain rfl := Option.some.inj hadvance
    exact h.enter hc (by simp) (by simp) (.inr rfl) rfl
  · obtain rfl := Option.some.inj hadvance
    refine h.enter hc (by simp) (fun r hr => ?_) (.inr rfl) rfl
    obtain rfl := Option.some.inj hr
    rfl
  · obtain rfl := Option.some.inj hadvance
    exact h.unlock hc rfl
  · obtain rfl := Option.some.inj hadvance
    refine h.enter hc (by simp) (fun r hr => ?_) (.inr rfl) rfl
    obtain rfl := Option.some.inj hr
    rfl
  · -- the entry goes before the sidecar is dropped
    rename_i sidecar failed
    obtain rfl := Option.some.inj hadvance
    obtain ⟨hcalls, hholder⟩ := calls_removePendingResponse b sidecar request.id
    have hremoved : ∀ e ∈ (b.removePendingResponse sidecar request.id).pending, e.call ≠ n :=
      h.removed hc rfl
    have hsound := h.remove sidecar request.id
    refine hsound.modify (f := fun c => { c with stage := .dropping sidecar false (some failed) }) (hcalls ▸ hc)
      ⟨rfl, rfl⟩ (by simp) (fun r hr => h.responses n _ r hc hr) rfl (List.Sublist.refl _)
      (fun e he hk => absurd hk (hremoved e he)) rfl (by simp) ?_
    exact hholder.trans ((h.holder n).mpr ⟨_, hc, rfl⟩)
  · split at hadvance
    · rename_i response
      obtain rfl := Option.some.inj hadvance
      obtain ⟨hown, -, hsender⟩ := h.buffered n _ response hc rfl
      exact h.finish hc hown fun e he hk => hsender (List.mem_append_left _ (hk ▸ List.mem_map_of_mem he))
    · obtain ⟨hsenders, hfinished⟩ := Option.ite_none_left_eq_some.mp hadvance
      obtain rfl := Option.some.inj hfinished
      refine h.finish hc rfl fun e he hk => hsenders ?_
      rw [hasSender, Bool.or_eq_true, List.any_eq_true]
      exact .inl ⟨e, he, by simpa using hk⟩
  · obtain ⟨-, hentered⟩ := Option.ite_none_left_eq_some.mp hadvance
    obtain rfl := Option.some.inj hentered
    exact h.enter hc (by simp) (by simp) (.inr rfl) rfl
  · rename_i sidecar
    obtain rfl := Option.some.inj hadvance
    obtain ⟨hcalls, -⟩ := calls_removePendingResponse b sidecar request.id
    exact (h.remove sidecar request.id).finish (hcalls ▸ hc) rfl (h.removed hc rfl)
  · cases hadvance

/-- **One event.** -/
lemma BridgeSound.step {e : BridgeEvent} (hstep : step env b e = some t) : t.BridgeSound := by
  cases e with
  | request request =>
    obtain rfl := Option.some.inj hstep
    exact h.request env request
  | advance call answer =>
    obtain ⟨c, hc, hadvance⟩ := Option.bind_eq_some_iff.mp hstep
    exact h.advance hc hadvance
  | line sidecar text =>
    obtain ⟨-, hline⟩ := Option.ite_none_right_eq_some.mp hstep
    obtain rfl := Option.some.inj hline
    exact h.dispatch env sidecar text
  | readerEnded sidecar =>
    obtain ⟨-, hended⟩ := Option.ite_none_right_eq_some.mp hstep
    obtain rfl := Option.some.inj hended
    exact (h.congr (t := { b with reading := b.reading.erase sidecar }) rfl rfl rfl rfl).failPending sidecar
  | sent index =>
    obtain ⟨r, hr, hdeliver⟩ := Option.bind_eq_some_iff.mp hstep
    exact h.deliver hr hdeliver
  | disable =>
    obtain rfl := Option.some.inj hstep
    exact h.congr rfl rfl rfl rfl
  | shutdown =>
    obtain ⟨-, hshutdown⟩ := Option.ite_none_left_eq_some.mp hstep
    obtain rfl := Option.some.inj hshutdown
    exact h.congr rfl rfl rfl rfl
  | closed sidecar =>
    obtain ⟨-, hclosed⟩ := Option.ite_none_right_eq_some.mp hstep
    obtain rfl := Option.some.inj hclosed
    exact (h.congr (t := { b with closing := b.closing.erase sidecar }) rfl rfl rfl rfl).failPending sidecar

end

lemma bridgeSound_initial : initialBridge.BridgeSound where
  once := List.nodup_nil
  keys e he := by cases he
  pending e he := by cases he
  sending e he := by cases he
  buffered k c r hc := by cases hc
  responses k c r hc := by cases hc
  holder k := by simp [initialBridge]

/-! ### Outcomes -/

/-- How many steps are left to the calls at most. -/
def work (b : LifecycleBridge) : Nat := (b.calls.map fun c => c.stage.remaining).sum

/-- A step of a call, as opposed to what the sidecars and the application do. -/
def isAdvance : BridgeEvent → Bool
  | .advance _ _ => true
  | _ => false

def isRequest : BridgeEvent → Bool
  | .request _ => true
  | _ => false

lemma registerCall_calls (env : BridgeEnv) (b : LifecycleBridge) (n : Nat) (request : LifecycleCommandRequest)
    (sidecar : Nat) : ∃ stage : BridgeStage, stage.remaining < 6
      ∧ (registerCall env b n request sidecar).calls = b.calls.modify n fun c => { c with stage := stage } := by
  rw [registerCall]
  cases env.serialize request with
  | none => exact ⟨_, by simp, rfl⟩
  | some line =>
    dsimp only
    split_ifs
    · exact ⟨_, by simp, rfl⟩
    · exact ⟨_, by simp, rfl⟩
    · exact ⟨.writing sidecar, by simp, rfl⟩

/-- **A call that goes on** comes nearer to its outcome, and the other calls stay as they are. -/
lemma advance_remaining {answer : BridgeAnswer} (h : advance env b n c answer = some t) :
    ∃ stage : BridgeStage, stage.remaining < c.stage.remaining
      ∧ t.calls = b.calls.modify n fun c => { c with stage := stage } := by
  obtain ⟨request, stage, buffer⟩ := c
  simp only [LifecycleBridge.advance] at h
  split at h
  · split_ifs at h <;> obtain rfl := Option.some.inj h
    · exact ⟨_, by simp, rfl⟩
    · exact ⟨_, by simp, rfl⟩
  · obtain ⟨-, htaken⟩ := Option.ite_none_left_eq_some.mp h
    obtain rfl := Option.some.inj htaken
    exact ⟨_, by simp, rfl⟩
  · split at h <;> obtain rfl := Option.some.inj h
    · exact ⟨.spawning, by simp, rfl⟩
    · exact ⟨.registering _, by simp, rfl⟩
  · split at h
    · cases h
    · obtain rfl := Option.some.inj h
      exact ⟨.dropping _ false none, by simp, rfl⟩
  · rename_i sidecar failed
    obtain rfl := Option.some.inj h
    refine ⟨.dropping sidecar true failed, ?_, rfl⟩
    cases failed <;> simp
  · obtain rfl := Option.some.inj h
    exact ⟨.spawning, by simp, rfl⟩
  · obtain rfl := Option.some.inj h
    exact ⟨_, by simp, rfl⟩
  · obtain rfl := Option.some.inj h
    exact ⟨.registering b.spawned, by simp, rfl⟩
  · obtain rfl := Option.some.inj h
    exact ⟨_, by simp, rfl⟩
  · rename_i sidecar
    obtain rfl := Option.some.inj h
    exact registerCall_calls env b n request sidecar
  · obtain rfl := Option.some.inj h
    exact ⟨.flushing _, by simp, rfl⟩
  · obtain rfl := Option.some.inj h
    exact ⟨.removing _ _, by simp, rfl⟩
  · obtain rfl := Option.some.inj h
    exact ⟨.waiting _, by simp, rfl⟩
  · obtain rfl := Option.some.inj h
    exact ⟨.removing _ _, by simp, rfl⟩
  · rename_i sidecar failed
    obtain rfl := Option.some.inj h
    have hcalls := (calls_removePendingResponse b sidecar request.id).1
    exact ⟨.dropping sidecar false (some failed), by simp, by rw [← hcalls]; rfl⟩
  · split at h
    · obtain rfl := Option.some.inj h
      exact ⟨_, by simp, rfl⟩
    · obtain ⟨-, hfinished⟩ := Option.ite_none_left_eq_some.mp h
      obtain rfl := Option.some.inj hfinished
      exact ⟨_, by simp, rfl⟩
  · obtain ⟨-, hentered⟩ := Option.ite_none_left_eq_some.mp h
    obtain rfl := Option.some.inj hentered
    exact ⟨.timedOut _, by simp, rfl⟩
  · rename_i sidecar
    obtain rfl := Option.some.inj h
    have hcalls := (calls_removePendingResponse b sidecar request.id).1
    exact ⟨.returned _, by simp, by rw [← hcalls]; rfl⟩
  · cases h

lemma calls_dispatchResponseLine (env : BridgeEnv) (b : LifecycleBridge) (sidecar : Nat) (text : String) :
    (dispatchResponseLine env b sidecar text).calls = b.calls := by
  rw [dispatchResponseLine]
  cases parseSidecarResponseLine env text with
  | none => rfl
  | some response =>
    cases hid : response.id with
    | none => simp only [hid]
    | some id =>
      simp only [hid]
      cases b.entry? sidecar id <;> rfl

/-- What an event does to a call: it stays, or it gets a response, or it goes on. -/
lemma step_call {e : BridgeEvent} (hstep : step env b e = some t) {k : Nat} (hc : b.calls[k]? = some c) :
    ∃ d, t.calls[k]? = some d ∧ d.request = c.request
      ∧ (d.stage = c.stage ∨ (isAdvance e = true ∧ d.stage.remaining < c.stage.remaining)) := by
  cases e with
  | request request =>
    obtain rfl := Option.some.inj hstep
    exact ⟨c, getElem?_concat_old hc, rfl, .inl rfl⟩
  | advance call answer =>
    obtain ⟨a, ha, hadvance⟩ := Option.bind_eq_some_iff.mp hstep
    obtain ⟨stage, hless, hcalls⟩ := advance_remaining hadvance
    refine ⟨_, by rw [hcalls, getElem?_modify_some hc], ?_⟩
    split_ifs with hk
    · subst hk
      obtain rfl := Option.some.inj (hc.symm.trans ha)
      exact ⟨rfl, .inr ⟨rfl, hless⟩⟩
    · exact ⟨rfl, .inl rfl⟩
  | sent index =>
    obtain ⟨r, -, hdeliver⟩ := Option.bind_eq_some_iff.mp hstep
    rw [LifecycleBridge.deliver] at hdeliver
    split at hdeliver
    · cases hdeliver
    · split_ifs at hdeliver <;> obtain rfl := Option.some.inj hdeliver
      · exact ⟨c, hc, rfl, .inl rfl⟩
      · refine ⟨_, getElem?_modify_some hc, ?_⟩
        split_ifs <;> exact ⟨rfl, .inl rfl⟩
  | line sidecar text =>
    obtain ⟨-, hline⟩ := Option.ite_none_right_eq_some.mp hstep
    obtain rfl := Option.some.inj hline
    exact ⟨c, calls_dispatchResponseLine env b sidecar text ▸ hc, rfl, .inl rfl⟩
  | readerEnded sidecar | closed sidecar =>
    obtain ⟨-, hended⟩ := Option.ite_none_right_eq_some.mp hstep
    obtain rfl := Option.some.inj hended
    exact ⟨c, hc, rfl, .inl rfl⟩
  | disable =>
    obtain rfl := Option.some.inj hstep
    exact ⟨c, hc, rfl, .inl rfl⟩
  | shutdown =>
    obtain ⟨-, hshutdown⟩ := Option.ite_none_left_eq_some.mp hstep
    obtain rfl := Option.some.inj hshutdown
    exact ⟨c, hc, rfl, .inl rfl⟩

/-- **Without new requests** only the steps of the calls change what is left to do, and make it
less. -/
lemma step_work {e : BridgeEvent} (hstep : step env b e = some t) (hrequest : isRequest e = false) :
    t.work + (if isAdvance e then 1 else 0) ≤ b.work := by
  have hsame : t.calls = b.calls → isAdvance e = false → t.work + (if isAdvance e then 1 else 0) ≤ b.work :=
    fun hcalls he => by simp [work, hcalls, he]
  cases e with
  | request request => cases hrequest
  | advance call answer =>
    obtain ⟨c, hc, hadvance⟩ := Option.bind_eq_some_iff.mp hstep
    obtain ⟨stage, hless, hcalls⟩ := advance_remaining hadvance
    have hsum := sum_map_modify (f := fun c => { c with stage := stage }) (fun c => c.stage.remaining) hc
    simp only [work, hcalls, isAdvance, if_true]
    simp only at hsum
    omega
  | sent index =>
    obtain ⟨r, -, hdeliver⟩ := Option.bind_eq_some_iff.mp hstep
    rw [LifecycleBridge.deliver] at hdeliver
    split at hdeliver
    · cases hdeliver
    · rename_i c hc
      split_ifs at hdeliver <;> obtain rfl := Option.some.inj hdeliver
      · exact le_rfl
      · have hsum := sum_map_modify (f := fun c => { c with buffer := some r.response })
          (fun c => c.stage.remaining) hc
        simp only [work, modifyCall, isAdvance, Bool.false_eq_true, if_false]
        simp only at hsum
        omega
  | line sidecar text =>
    obtain ⟨-, hline⟩ := Option.ite_none_right_eq_some.mp hstep
    obtain rfl := Option.some.inj hline
    exact hsame (calls_dispatchResponseLine env b sidecar text) rfl
  | readerEnded sidecar | closed sidecar =>
    obtain ⟨-, hended⟩ := Option.ite_none_right_eq_some.mp hstep
    obtain rfl := Option.some.inj hended
    exact le_rfl
  | disable =>
    obtain rfl := Option.some.inj hstep
    exact le_rfl
  | shutdown =>
    obtain ⟨-, hshutdown⟩ := Option.ite_none_left_eq_some.mp hstep
    obtain rfl := Option.some.inj hshutdown
    exact le_rfl

lemma runs_work {events : List BridgeEvent} (hrun : Runs (step env) b events t)
    (hrequest : ∀ e ∈ events, isRequest e = false) : t.work + events.countP isAdvance ≤ b.work := by
  induction events generalizing b with
  | nil =>
    obtain rfl := Option.some.inj hrun
    simp
  | cons e events ih =>
    obtain ⟨mid, hmid, hrest⟩ := Runs.cons_iff.mp hrun
    have hstep := step_work hmid (hrequest e List.mem_cons_self)
    have hmore := ih hrest fun e he => hrequest e (List.mem_cons_of_mem _ he)
    rw [List.countP_cons]
    omega

/-- The call that has the mutex can go on. -/
lemma exists_advance_of_holds (env : BridgeEnv) (b : LifecycleBridge) (n : Nat)
    (hholds : c.stage.holdsProcess = true) : ∃ t, advance env b n c .done = some t := by
  obtain ⟨request, stage, buffer⟩ := c
  cases stage with
  | dropping sidecar drained failed =>
    cases drained with
    | false => exact ⟨_, rfl⟩
    | true => cases failed <;> exact ⟨_, rfl⟩
  | probing =>
    simp only [LifecycleBridge.advance]
    cases b.process <;> exact ⟨_, rfl⟩
  | spawning | registering | writing | flushing | removing => exact ⟨_, rfl⟩
  | entered | locking | waiting | timedOut | returned => cases hholds

/-- **Where a request has no outcome**, a call can go on. -/
lemma BridgeSound.exists_advance (h : b.BridgeSound) (env : BridgeEnv) (hc : b.calls[n]? = some c)
    (hopen : c.stage.isReturned = false) :
    ∃ j answer t, LifecycleBridge.step env b (.advance j answer) = some t := by
  have hgo : ∀ {j : Nat} {d a t}, b.calls[j]? = some d → LifecycleBridge.advance env b j d a = some t →
      ∃ j answer t, LifecycleBridge.step env b (.advance j answer) = some t := fun {j d a t} hd hadvance =>
    ⟨j, a, t, by rw [LifecycleBridge.step, hd, Option.bind_some, hadvance]⟩
  cases hholds : c.stage.holdsProcess with
  | true =>
    obtain ⟨t, ht⟩ := exists_advance_of_holds env b n hholds
    exact hgo hc ht
  | false =>
    obtain ⟨request, stage, buffer⟩ := c
    cases stage with
    | entered => exact hgo hc (a := .done) rfl
    | locking =>
      cases hholder : b.holder with
      | none => exact hgo hc (a := .done) (by simp [LifecycleBridge.advance, hholder]; rfl)
      | some j =>
        obtain ⟨d, hd, hj⟩ := (h.holder j).mp hholder
        obtain ⟨t, ht⟩ := exists_advance_of_holds env b j hj
        exact hgo hd ht
    | waiting sidecar =>
      cases buffer with
      | some response => exact hgo hc (a := .done) rfl
      | none => exact hgo hc (a := .elapsed) rfl
    | timedOut sidecar => exact hgo hc (a := .done) rfl
    | returned response => cases hopen
    | probing | dropping | spawning | registering | writing | flushing | removing => cases hholds

/-- **The calls can go on** until every request has its outcome. -/
lemma BridgeSound.exists_settled (h : b.BridgeSound) (env : BridgeEnv) :
    ∃ events t, (∀ e ∈ events, isAdvance e = true) ∧ Runs (LifecycleBridge.step env) b events t
      ∧ ∀ c ∈ t.calls, c.stage.isReturned = true := by
  induction hwork : b.work using Nat.strong_induction_on generalizing b with
  | _ w ih =>
    by_cases hall : ∀ c ∈ b.calls, c.stage.isReturned = true
    · exact ⟨[], b, by simp, rfl, hall⟩
    · obtain ⟨c, hmem, hopen⟩ : ∃ c ∈ b.calls, c.stage.isReturned = false := by simpa using hall
      obtain ⟨n, hc⟩ := List.mem_iff_getElem?.mp hmem
      obtain ⟨j, answer, mid, hstep⟩ := h.exists_advance env hc hopen
      have hless := step_work hstep rfl
      simp only [isAdvance, if_true] at hless
      obtain ⟨events, t, hadvance, hrun, hdone⟩ := ih mid.work (by omega) (h.step hstep) rfl
      refine ⟨.advance j answer :: events, t, fun e he => ?_, Runs.cons_iff.mpr ⟨mid, hstep, hrun⟩, hdone⟩
      rcases List.mem_cons.mp he with rfl | he
      · rfl
      · exact hadvance e he

end LifecycleBridge

open LifecycleBridge in
/-- **Requests and responses of the bridge**: in every order of the calls, the lines of the
sidecars, the timeouts and the ends and restarts of sidecars, a request with a fresh identifier has
one outcome, which stays, and which carries its identifier and that of no other request.  An entry
of a table belongs to a request without an outcome, and a response that has been taken from a table
can be sent at once.  The calls can go on until every request has its outcome, and without new
requests they make at most `b.work` steps. -/
theorem lifecycle_bridge_correlates (env : BridgeEnv) (events : List BridgeEvent) (b : LifecycleBridge)
    (hrun : Runs (step env) initialBridge events b) (hfresh : (b.calls.map fun c => c.request.id).Nodup) :
    (∀ (k : Nat) c r, b.calls[k]? = some c → c.stage = .returned r → r.id = some c.request.id
      ∧ ∀ (j : Nat) d, b.calls[j]? = some d → r.id = some d.request.id → j = k)
    ∧ (∀ e t (k : Nat) c r, step env b e = some t → b.calls[k]? = some c → c.stage = .returned r →
      ∃ d, t.calls[k]? = some d ∧ d.request = c.request ∧ d.stage = .returned r)
    ∧ (∀ e ∈ b.pending, ∃ c, b.calls[e.call]? = some c ∧ c.request.id = e.id ∧ c.stage.isReturned = false)
    ∧ (∀ (i : Nat) r, b.sending[i]? = some r → ∃ t, b.deliver i r = some t)
    ∧ (∃ more t, (∀ e ∈ more, isAdvance e = true) ∧ Runs (step env) b more t
      ∧ ∀ c ∈ t.calls, c.stage.isReturned = true)
    ∧ ∀ more t, Runs (step env) b more t → (∀ e ∈ more, isRequest e = false) →
      t.work + more.countP isAdvance ≤ b.work := by
  have hsound : b.BridgeSound :=
    hrun.invariant bridgeSound_initial fun _ _ _ hbefore hstep => BridgeSound.step hbefore hstep
  refine ⟨fun k c r hc hreturned => ?_, fun e t k c r hstep hc hreturned => ?_, fun e he => ?_,
    fun i r hr => ?_, hsound.exists_settled env, fun more t hmore hrequest => runs_work hmore hrequest⟩
  · have hown : r.id = some c.request.id := hsound.responses k c r hc (by simp [hreturned])
    refine ⟨hown, fun j d hd hid => ?_⟩
    have hsame : c.request.id = d.request.id := Option.some.inj (hown.symm.trans hid)
    have hlt : j < (b.calls.map fun c => c.request.id).length := by
      simpa using (List.getElem?_eq_some_iff.mp hd).1
    exact (List.getElem?_inj hlt hfresh).mp (by simp [hc, hd, hsame])
  · obtain ⟨d, hd, hrequest, hstage⟩ := step_call hstep hc
    refine ⟨d, hd, hrequest, ?_⟩
    rcases hstage with hsame | ⟨-, hless⟩
    · exact hsame.trans hreturned
    · rw [hreturned] at hless
      simp at hless
  · obtain ⟨c, hc, hid, hat⟩ := hsound.pending e he
    refine ⟨c, hc, hid, ?_⟩
    cases hstage : c.stage <;> simp [hstage] at hat ⊢
  · obtain ⟨c, hc, -, -⟩ := hsound.sending r (List.mem_of_getElem? hr)
    have hempty : c.buffer = none := by
      cases hfull : c.buffer with
      | none => rfl
      | some response =>
        have hsender := (hsound.buffered r.call c response hc hfull).2.2
        exact absurd (List.mem_append_right _ (List.mem_map_of_mem (List.mem_of_getElem? hr))) hsender
    simp only [LifecycleBridge.deliver, hc, hempty]
    cases c.stage.isReturned <;> exact ⟨_, rfl⟩

/-- Serialization as the sidecar of `crossedResponses` has it. -/
def plainBridge : BridgeEnv where
  runtimeIncluded := true
  serialize request := some request.id
  deserialize text := some ⟨1, some text, true, none, none⟩

/-- Two requests, of which the second is answered first, twice, and the first too late. -/
def crossedResponses : List BridgeEvent :=
  [.request ⟨1, "a", "task.list", none⟩, .request ⟨1, "b", "task.get", none⟩, .advance 0 .done, .advance 0 .done,
    .advance 0 .done, .advance 0 .done, .advance 0 .done, .advance 0 .done, .advance 0 .done, .advance 1 .done,
    .advance 1 .done, .advance 1 .done, .advance 1 .done, .advance 1 .done, .advance 1 .done, .line 0 "b",
    .sent 0, .advance 1 .done, .line 0 "b", .advance 0 .elapsed, .line 0 "a", .advance 0 .done, .sent 0,
    .readerEnded 0]

open LifecycleBridge in
theorem lifecycle_bridge_crossed :
    ∃ b, Runs (step plainBridge) initialBridge crossedResponses b ∧ ∃ c r, b.calls[1]? = some c
      ∧ c.stage = .returned r ∧ r.ok = true ∧ c.request.id = "b" ∧ r.id = some c.request.id
      ∧ ∀ (j : Nat) d, b.calls[j]? = some d → r.id = some d.request.id → j = 1 := by
  refine ⟨_, rfl, _, _, rfl, rfl, rfl, rfl, ?_⟩
  exact (lifecycle_bridge_correlates plainBridge crossedResponses _ rfl (by decide)).1 1 _ _ rfl rfl

end TetiBot

import TetiBot.Library.Program
import TetiBot.Library.Transition

/-
Asynchronous operations, and a queue that runs them one after the other.

* `Async ε σ α`: an operation on a world `σ` that returns an `α` or throws an
  `ε`, with a point between any two of its steps at which others may run.
* `Async.run`: the operation without interruption, a program; one equation for
  each way to build an operation, so that the rules for programs apply to it.
* `Exclusive`: the queue of a promise chain: calls may arrive at any time, and
  the oldest one that has not settled takes the next step.
* `Async.Passes`, `Async.Stable`: an invariant at every point of an operation, with
  one rule for each way to build an operation.
* `Exclusive.serializable`: in every run the calls that have settled did what
  they do one after the other in the order in which they arrived.
* `Exclusive.underway`: an invariant of every point of every call holds in every
  run, also if the process may end at any point and be started again.
-/

namespace Library

open Program

/-- An operation that has settled, or that changes the world and goes on. -/
inductive Async (ε σ α : Type) : Type
  | settled (result : Except ε α)
  | await (change : σ → σ) (resume : σ → Async ε σ α)

namespace Async

variable {ε σ α β : Type}

def bind : Async ε σ α → (α → Async ε σ β) → Async ε σ β
  | settled (.ok a), f => f a
  | settled (.error e), _ => settled (.error e)
  | await change resume, f => await change fun w => bind (resume w) f

instance : Monad (Async ε σ) where
  pure a := settled (.ok a)
  bind := bind

/-- Throw `e`. -/
def raise (e : ε) : Async ε σ α := settled (.error e)

/-- Throw `e` if `c` holds. -/
def throwIf (c : Prop) [Decidable c] (e : ε) : Async ε σ Unit :=
  if c then raise e else pure ()

/-- The value of an option, or throw `e`. -/
def orThrow (o : Option α) (e : ε) : Async ε σ α :=
  match o with
  | some a => pure a
  | none => raise e

variable (r : Except ε α)

/-- The value of a result, or throw its error. -/
def fromExcept : Async ε σ α := settled r

/-- Run an operation and hand a throw over as a value (the body of a `try`
block). -/
def attempt : Async ε σ α → Async ε σ (Except ε α)
  | settled r => settled (.ok r)
  | await change resume => await change fun w => attempt (resume w)

/-- A program as one step. -/
def lift (m : Program ε σ α) : Async ε σ α :=
  await (fun w => (m.exec w).2) fun w => settled (m.exec w).1

/-- What an operation returns and where it leaves the world, if nothing else
runs meanwhile. -/
def outcome : Async ε σ α → σ → Except ε α × σ
  | settled r, w => (r, w)
  | await change resume, w => outcome (resume w) (change w)

/-- The operation without interruption. -/
def run (m : Async ε σ α) : Program ε σ α := ExceptT.mk fun w => m.outcome w

/-! ### Running -/

lemma outcome_bind (m : Async ε σ α) (f : α → Async ε σ β) (w : σ) :
    (m >>= f).outcome w = match m.outcome w with
      | (.ok a, w') => (f a).outcome w'
      | (.error e, w') => (.error e, w') := by
  change (bind m f).outcome w = _
  induction m generalizing w with
  | settled r => cases r <;> rfl
  | await change resume ih => exact ih w (change w)

@[simp] lemma run_attempt (m : Async ε σ α) : (attempt m).run = Program.attempt m.run := by
  funext w
  change (attempt m).outcome w = (.ok (m.outcome w).1, (m.outcome w).2)
  induction m generalizing w with
  | settled r => rfl
  | await change resume ih => exact ih w (change w)

lemma outcome_lift (m : Program ε σ α) (w : σ) : (lift m).outcome w = m.exec w := rfl

lemma outcome_attempt (m : Async ε σ α) (w : σ) :
    (attempt m).outcome w = (.ok (m.outcome w).1, (m.outcome w).2) :=
  congrFun (run_attempt m) w

variable {m : Async ε σ α} {f : α → Async ε σ β} {w : σ}

/-- A step that returned, and what comes after it. -/
lemma outcome_bind_ok {w' : σ} {a : α} (h : m.outcome w = (.ok a, w')) :
    (m >>= f).outcome w = (f a).outcome w' := by
  rw [outcome_bind, h]

/-- A step that threw. -/
lemma outcome_bind_error {w' : σ} {e : ε} (h : m.outcome w = (.error e, w')) :
    (m >>= f).outcome w = (.error e, w') := by
  rw [outcome_bind, h]

lemma outcome_bind_eq_ok {w' : σ} {b : β} :
    (m >>= f).outcome w = (.ok b, w')
      ↔ ∃ a w₁, m.outcome w = (.ok a, w₁) ∧ (f a).outcome w₁ = (.ok b, w') := by
  rw [outcome_bind]
  rcases h : m.outcome w with ⟨e | a, w₁⟩ <;> simp

/-- After a `try` block comes what is made of its outcome. -/
lemma outcome_attempt_bind (m : Async ε σ α) (f : Except ε α → Async ε σ β) (w : σ) :
    (attempt m >>= f).outcome w = (f (m.outcome w).1).outcome (m.outcome w).2 := by
  rw [outcome_bind, outcome_attempt]

lemma outcome_fromExcept (w : σ) : (fromExcept r : Async ε σ α).outcome w = (r, w) := rfl

variable {c : Prop}

lemma outcome_throwIf_eq_ok [Decidable c] {e : ε} {w' : σ} :
    (throwIf c e : Async ε σ Unit).outcome w = (.ok (), w') ↔ ¬c ∧ w = w' := by
  unfold throwIf
  split_ifs with h
  · simp [h, raise, outcome]
  · simp only [h, not_false_iff, true_and]
    exact ⟨fun heq => congrArg Prod.snd heq, fun heq => by rw [heq]; rfl⟩

lemma outcome_orThrow_eq_ok {o : Option α} {e : ε} {w' : σ} {a : α} :
    (orThrow o e : Async ε σ α).outcome w = (.ok a, w') ↔ o = some a ∧ w = w' := by
  cases o with
  | none => simp [orThrow, raise, outcome]
  | some b =>
    simp only [orThrow, Option.some.injEq]
    exact ⟨fun h => ⟨Except.ok.inj (congrArg Prod.fst h), congrArg Prod.snd h⟩,
      fun h => by rw [h.1, h.2]; rfl⟩

/-- An operation that leaves the world alone. -/
def Reads (m : Async ε σ α) : Prop := ∀ w, (m.outcome w).2 = w

lemma Reads.pure (a : α) : Reads (pure a : Async ε σ α) := fun _ => rfl

lemma Reads.raise (e : ε) : Reads (raise e : Async ε σ α) := fun _ => rfl

lemma Reads.fromExcept : Reads (fromExcept r : Async ε σ α) := fun _ => rfl

lemma Reads.throwIf (c : Prop) [Decidable c] (e : ε) : Reads (throwIf c e : Async ε σ Unit) := by
  unfold Async.throwIf
  split_ifs
  · exact Reads.raise e
  · exact Reads.pure ()

lemma Reads.orThrow (o : Option α) (e : ε) : Reads (orThrow o e : Async ε σ α) := by
  cases o with
  | none => exact Reads.raise e
  | some a => exact Reads.pure a

lemma Reads.bind (hm : Reads m) (hf : ∀ a, Reads (f a)) : Reads (m >>= f) := by
  intro w
  have hworld := hm w
  rcases h : m.outcome w with ⟨e | a, w'⟩ <;> rw [h] at hworld
  · rw [outcome_bind_error h]
    exact hworld
  · rw [outcome_bind_ok h, hf a w']
    exact hworld

lemma Reads.bind_eq_ok (hm : Reads m) {w' : σ} {b : β} :
    (m >>= f).outcome w = (.ok b, w')
      ↔ ∃ a, (m.outcome w).1 = .ok a ∧ (f a).outcome w = (.ok b, w') := by
  have hworld := hm w
  rw [outcome_bind]
  rcases h : m.outcome w with ⟨e | a, w₁⟩ <;> rw [h] at hworld
  · simp
  · obtain rfl : w₁ = w := hworld
    simp

lemma Reads.attempt (hm : Reads m) : Reads (attempt m) := by
  intro w
  rw [outcome_attempt]
  exact hm w

/-- An operation that keeps an invariant of the world, whether it returns or
throws. -/
def Keeps (I : σ → Prop) (m : Async ε σ α) : Prop := ∀ w, I w → I (m.outcome w).2

lemma Reads.keeps (hm : Reads m) (I : σ → Prop) : Keeps I m := by
  intro w hw
  rwa [hm w]

lemma Keeps.bind {I : σ → Prop} (hm : Keeps I m) (hf : ∀ a, Keeps I (f a)) : Keeps I (m >>= f) := by
  intro w hw
  have hworld := hm w hw
  rcases h : m.outcome w with ⟨e | a, w'⟩ <;> rw [h] at hworld
  · rw [outcome_bind_error h]
    exact hworld
  · rw [outcome_bind_ok h]
    exact hf a w' hworld

lemma Keeps.attempt {I : σ → Prop} (hm : Keeps I m) : Keeps I (Async.attempt m) := by
  intro w hw
  rw [outcome_attempt]
  exact hm w hw

/-! ### Every point of an operation -/

/-- Every world that an operation passes through satisfies `I`, and it settles
with `Q`. -/
def Passes (I : σ → Prop) (Q : Except ε α → σ → Prop) : Async ε σ α → σ → Prop
  | settled r, w => I w ∧ Q r w
  | await change resume, w => I w ∧ Passes I Q (resume w) (change w)

/-- Every world that an operation passes through satisfies `I`. -/
def Always (I : σ → Prop) (m : Async ε σ α) (w : σ) : Prop := Passes I (fun _ _ => True) m w

variable {I : σ → Prop} {Q Q' : Except ε α → σ → Prop}

lemma Passes.first (h : Passes I Q m w) : I w := by
  cases m with
  | settled r => exact h.1
  | await change resume => exact h.1

/-- Where the operation ends. -/
lemma Passes.outcome (h : Passes I Q m w) :
    I (m.outcome w).2 ∧ Q (m.outcome w).1 (m.outcome w).2 := by
  induction m generalizing w with
  | settled r => exact h
  | await change resume ih => exact ih w h.2

lemma Passes.weaken (h : Passes I Q m w) (hQ : ∀ r w, I w → Q r w → Q' r w) : Passes I Q' m w := by
  induction m generalizing w with
  | settled r => exact ⟨h.1, hQ r w h.1 h.2⟩
  | await change resume ih => exact ⟨h.1, ih w h.2⟩

lemma Passes.always (h : Passes I Q m w) : Always I m w :=
  h.weaken fun _ _ _ _ => trivial

lemma Passes.pure {a : α} (h : I w) (hQ : Q (.ok a) w) :
    Passes I Q (pure a : Async ε σ α) w := ⟨h, hQ⟩

lemma Passes.raise {e : ε} (h : I w) (hQ : Q (.error e) w) :
    Passes I Q (raise e : Async ε σ α) w := ⟨h, hQ⟩

lemma Passes.fromExcept {r : Except ε α} (h : I w) (hQ : Q r w) :
    Passes I Q (fromExcept r : Async ε σ α) w := ⟨h, hQ⟩

lemma Passes.lift {m : Program ε σ α} (hfirst : I w) (hlast : I (m.exec w).2)
    (hQ : Q (m.exec w).1 (m.exec w).2) : Passes I Q (lift m) w := ⟨hfirst, hlast, hQ⟩

/-- The rule of composition: what the first part settles with is what the second
begins with, or what the whole throws. -/
lemma Passes.bind {R : Except ε α → σ → Prop} {Q : Except ε β → σ → Prop} (hm : Passes I R m w)
    (hok : ∀ a w', I w' → R (.ok a) w' → Passes I Q (f a) w')
    (herror : ∀ e w', I w' → R (.error e) w' → Q (.error e) w') : Passes I Q (m >>= f) w := by
  change Passes I Q (Async.bind m f) w
  induction m generalizing w with
  | settled r =>
    cases r with
    | error e => exact ⟨hm.1, herror e w hm.1 hm.2⟩
    | ok a => exact hok a w hm.1 hm.2
  | await change resume ih => exact ⟨hm.1, ih w hm.2⟩

lemma Passes.attempt {R : Except ε (Except ε α) → σ → Prop} (hm : Passes I (fun r => R (.ok r)) m w) :
    Passes I R (Async.attempt m) w := by
  induction m generalizing w with
  | settled r => exact hm
  | await change resume ih => exact ⟨hm.1, ih w hm.2⟩

lemma Passes.ite [Decidable c] {n : Async ε σ α} (hm : c → Passes I Q m w)
    (hn : ¬c → Passes I Q n w) : Passes I Q (if c then m else n) w := by
  split_ifs with h
  · exact hm h
  · exact hn h

/-- A check throws, or it leaves everything as it is. -/
lemma Passes.bind_throwIf [Decidable c] {e : ε} {Q : Except ε β → σ → Prop} {f : Unit → Async ε σ β}
    (hw : I w) (herror : c → Q (.error e) w) (hf : ¬c → Passes I Q (f ()) w) :
    Passes I Q (throwIf c e >>= f) w := by
  by_cases h : c
  · rw [throwIf, if_pos h]
    exact ⟨hw, herror h⟩
  · rw [throwIf, if_neg h]
    exact hf h

lemma Passes.bind_fromExcept {r : Except ε α} {Q : Except ε β → σ → Prop} (hw : I w)
    (herror : ∀ e, r = .error e → Q (.error e) w) (hf : ∀ a, r = .ok a → Passes I Q (f a) w) :
    Passes I Q (Async.fromExcept r >>= f) w := by
  cases r with
  | error e => exact ⟨hw, herror e rfl⟩
  | ok a => exact hf a rfl

lemma Passes.mono {J : σ → Prop} (h : Passes J Q' m w) (hI : ∀ w, J w → I w)
    (hQ : ∀ r w, J w → Q' r w → Q r w) : Passes I Q m w := by
  induction m generalizing w with
  | settled r => exact ⟨hI w h.1, hQ r w h.1 h.2⟩
  | await change resume ih => exact ⟨hI w h.1, ih w h.2⟩

/-- Every world that an operation passes through satisfies `I`, and it returns with
`Q` if it returns. -/
def Returns (I : σ → Prop) (Q : α → σ → Prop) (m : Async ε σ α) (w : σ) : Prop :=
  Passes I (fun r w' => ∀ a, r = .ok a → Q a w') m w

lemma Returns.always {Q : α → σ → Prop} (h : Returns I Q m w) : Always I m w :=
  Passes.always h

lemma Returns.pure {Q : α → σ → Prop} {a : α} (h : I w) (hQ : Q a w) :
    Returns I Q (pure a : Async ε σ α) w :=
  Passes.pure h fun _ ha => Except.ok.inj ha ▸ hQ

lemma Returns.raise {Q : α → σ → Prop} {e : ε} (h : I w) : Returns I Q (raise e : Async ε σ α) w :=
  Passes.raise h nofun

lemma Returns.bind {R : α → σ → Prop} {Q : β → σ → Prop} (hm : Returns I R m w)
    (hf : ∀ a w', I w' → R a w' → Returns I Q (f a) w') : Returns I Q (m >>= f) w :=
  Passes.bind hm (fun a w' hw' hr => hf a w' hw' (hr a rfl)) fun _ _ _ _ => nofun

lemma Returns.ite [Decidable c] {Q : α → σ → Prop} {n : Async ε σ α} (hm : c → Returns I Q m w)
    (hn : ¬c → Returns I Q n w) : Returns I Q (if c then m else n) w :=
  Passes.ite hm hn

lemma Returns.bind_throwIf [Decidable c] {e : ε} {Q : β → σ → Prop} {f : Unit → Async ε σ β}
    (hw : I w) (hf : ¬c → Returns I Q (f ()) w) : Returns I Q (throwIf c e >>= f) w :=
  Passes.bind_throwIf hw (fun _ => nofun) hf

lemma Returns.bind_fromExcept {r : Except ε α} {Q : β → σ → Prop} (hw : I w)
    (hf : ∀ a, r = .ok a → Returns I Q (f a) w) : Returns I Q (Async.fromExcept r >>= f) w :=
  Passes.bind_fromExcept hw (fun _ _ => nofun) hf

/-- An operation that passes through `I` from every world with `I`. -/
def Stable (I : σ → Prop) (m : Async ε σ α) : Prop := ∀ w, I w → Always I m w

/-- A stable operation settles in its invariant. -/
lemma Stable.passes {J : σ → Prop} (h : Stable J m) (hw : J w) (hI : ∀ w, J w → I w)
    (hQ : ∀ r w, J w → Q r w) : Passes I Q m w :=
  Passes.mono (h w hw) hI fun r w hJ _ => hQ r w hJ

lemma Stable.returns {J : σ → Prop} (h : Stable J m) (hw : J w) (hI : ∀ w, J w → I w) :
    Returns I (fun _ => J) m w :=
  h.passes hw hI fun _ _ hJ _ _ => hJ

lemma Stable.pure (a : α) : Stable I (pure a : Async ε σ α) := fun _ h => Passes.pure h trivial

lemma Stable.raise (e : ε) : Stable I (raise e : Async ε σ α) := fun _ h => Passes.raise h trivial

lemma Stable.fromExcept : Stable I (fromExcept r : Async ε σ α) :=
  fun _ h => Passes.fromExcept h trivial

lemma Stable.throwIf (c : Prop) [Decidable c] (e : ε) :
    Stable I (throwIf c e : Async ε σ Unit) :=
  fun _ h => Passes.ite (fun _ => Passes.raise h trivial) fun _ => Passes.pure h trivial

lemma Stable.lift {m : Program ε σ α} (h : ∀ w, I w → I (m.exec w).2) : Stable I (lift m) :=
  fun w hw => Passes.lift hw (h w hw) trivial

lemma Stable.bind (hm : Stable I m) (hf : ∀ a, Stable I (f a)) : Stable I (m >>= f) :=
  fun w hw => Passes.bind (hm w hw) (fun a w' hw' _ => hf a w' hw') fun _ _ _ _ => trivial

lemma Stable.attempt (hm : Stable I m) : Stable I (Async.attempt m) :=
  fun w hw => Passes.attempt (hm w hw)

lemma Stable.ite [Decidable c] {n : Async ε σ α} (hm : Stable I m) (hn : Stable I n) :
    Stable I (if c then m else n) :=
  fun w hw => Passes.ite (fun _ => hm w hw) fun _ => hn w hw

end Async

/-! ### The queue -/

/-- The world, the calls that have not settled, the oldest first, and the
results of those that have. -/
structure Exclusive (κ ε σ α : Type) where
  world : σ
  queue : List (κ × Async ε σ α)
  settled : List (κ × Except ε α)

/-- A call that has run: its result, and the world before and after it. -/
structure Completed (κ ε σ α : Type) where
  call : κ
  result : Except ε α
  before : σ
  after : σ

/-- Calls made one after the other, each without interruption. -/
inductive Sequential {κ ε σ α : Type} (perform : κ → Async ε σ α) (start : σ) :
    List (Completed κ ε σ α) → σ → Prop
  | nil : Sequential perform start [] start
  | call {trace : List (Completed κ ε σ α)} {w : σ} (h : Sequential perform start trace w) (k : κ) :
      Sequential perform start
        (trace ++ [⟨k, ((perform k).outcome w).1, w, ((perform k).outcome w).2⟩])
        ((perform k).outcome w).2

namespace Exclusive

variable {κ ε σ α : Type} {perform : κ → Async ε σ α} {start s t : Exclusive κ ε σ α}

/-- A queue at rest. -/
def idle (w : σ) : Exclusive κ ε σ α := ⟨w, [], []⟩

/-- A call arrives. -/
def arrive (perform : κ → Async ε σ α) (s : Exclusive κ ε σ α) (k : κ) : Exclusive κ ε σ α :=
  { s with queue := s.queue ++ [(k, perform k)] }

/-- The call at the head of the queue takes a step, or leaves if it has settled. -/
def turn (s : Exclusive κ ε σ α) : Exclusive κ ε σ α :=
  match s.queue with
  | [] => s
  | (k, .settled r) :: rest => { s with queue := rest, settled := s.settled ++ [(k, r)] }
  | (k, .await change resume) :: rest =>
    { s with world := change s.world, queue := (k, resume s.world) :: rest }

/-- One step: a call arrives, or the queue goes on. -/
inductive Step (perform : κ → Async ε σ α) (s : Exclusive κ ε σ α) : Exclusive κ ε σ α → Prop
  | arrive (k : κ) : Step perform s (s.arrive perform k)
  | turn : Step perform s s.turn

/-- The calls that have settled ran one after the other, and the others still
do what they do from there. -/
def Serial (perform : κ → Async ε σ α) (start : σ) (s : Exclusive κ ε σ α) : Prop :=
  ∃ trace w, Sequential perform start trace w
    ∧ s.settled = trace.map (fun c => (c.call, c.result))
    ∧ match s.queue with
      | [] => s.world = w
      | (k, m) :: rest => m.outcome s.world = (perform k).outcome w
          ∧ ∀ other ∈ rest, other.2 = perform other.1

lemma serial_arrive (h : s.Serial perform start.world) (k : κ) :
    (s.arrive perform k).Serial perform start.world := by
  obtain ⟨trace, w, hrun, hsettled, hqueue⟩ := h
  refine ⟨trace, w, hrun, hsettled, ?_⟩
  rw [arrive]
  cases hq : s.queue with
  | nil =>
    rw [hq] at hqueue
    exact ⟨by rw [hqueue], by simp⟩
  | cons head rest =>
    rw [hq] at hqueue
    refine ⟨hqueue.1, fun other hmem => ?_⟩
    rcases List.mem_append.mp hmem with hmem | hmem
    · exact hqueue.2 other hmem
    · rw [List.mem_singleton.mp hmem]

lemma serial_turn (h : s.Serial perform start.world) : s.turn.Serial perform start.world := by
  obtain ⟨trace, w, hrun, hsettled, hqueue⟩ := h
  rw [turn]
  rcases hq : s.queue with _ | ⟨⟨k, r | ⟨change, resume⟩⟩, rest⟩
  · exact ⟨trace, w, hrun, hsettled, by rw [hq] at hqueue ⊢; exact hqueue⟩
  · -- the head has settled: it ran from where the calls before it left the world
    rw [hq] at hqueue
    obtain ⟨hsame, hrest⟩ := hqueue
    refine ⟨_, _, hrun.call k, ?_, ?_⟩
    · rw [List.map_append, hsettled, List.map_singleton, ← hsame]
      rfl
    · have hworld : s.world = ((perform k).outcome w).2 := by rw [← hsame]; rfl
      cases rest with
      | nil => exact hworld
      | cons next rest =>
        exact ⟨by rw [hrest next (by simp), hworld], fun other hmem => hrest other (by simp [hmem])⟩
  · rw [hq] at hqueue
    exact ⟨trace, w, hrun, hsettled, hqueue⟩

/-- **Serializability**: however calls arrive while others run, those that have
settled did what they do one after the other, in the order of their arrival. -/
theorem serializable {w : σ} (hrun : Reached (Step perform) (idle w) s) :
    s.Serial perform w := by
  refine Reached.invariant (I := fun s => s.Serial perform w) ⟨[], w, .nil, rfl, rfl⟩ ?_ hrun
  intro before after _ hbefore hstep
  cases hstep with
  | arrive k => exact @serial_arrive _ _ _ _ _ (idle w) _ hbefore k
  | turn => exact @serial_turn _ _ _ _ _ (idle w) _ hbefore

/-- One step of a process that may end at any point: a call arrives, the queue
goes on, or the process is started again without its queue. -/
inductive CrashStep (perform : κ → Async ε σ α) (restart : σ → σ) (s : Exclusive κ ε σ α) :
    Exclusive κ ε σ α → Prop
  | arrive (k : κ) : CrashStep perform restart s (s.arrive perform k)
  | turn : CrashStep perform restart s s.turn
  | crash : CrashStep perform restart s { s with world := restart s.world, queue := [] }

/-- Left alone, the call at the head of the queue settles. -/
lemma reached_outcome {restart : σ → σ} {k : κ} {m : Async ε σ α} {w : σ}
    {settled : List (κ × Except ε α)}
    (h : Reached (CrashStep perform restart) start ⟨w, [(k, m)], settled⟩) :
    Reached (CrashStep perform restart) start
      ⟨(m.outcome w).2, [], settled ++ [(k, (m.outcome w).1)]⟩ := by
  induction m generalizing w with
  | settled r => exact h.step .turn
  | await change resume ih => exact ih w (h.step .turn)

/-- A call that is made at rest, and left alone. -/
lemma reached_call {restart : σ → σ} {w : σ} {settled : List (κ × Except ε α)}
    (h : Reached (CrashStep perform restart) start ⟨w, [], settled⟩) (k : κ) :
    Reached (CrashStep perform restart) start
      ⟨((perform k).outcome w).2, [], settled ++ [(k, ((perform k).outcome w).1)]⟩ :=
  reached_outcome (h.step (.arrive k))

/-- The call at the head of the queue passes through `I`, and the others have
not begun. -/
def Underway (perform : κ → Async ε σ α) (I : σ → Prop) (s : Exclusive κ ε σ α) : Prop :=
  match s.queue with
  | [] => I s.world
  | (_, m) :: rest => m.Always I s.world ∧ ∀ other ∈ rest, other.2 = perform other.1

lemma Underway.world {I : σ → Prop} (h : s.Underway perform I) : I s.world := by
  rw [Underway] at h
  cases hq : s.queue with
  | nil => rwa [hq] at h
  | cons head rest =>
    rw [hq] at h
    exact Async.Passes.first h.1

/-- **The crash rule**: if every call passes through worlds with `I` only, from
every world with `I`, and a restart keeps `I`, then `I` holds at every point of
every run, wherever the process is interrupted. -/
theorem underway {I : σ → Prop} {restart : σ → σ} {w : σ} (hstart : I w)
    (hperform : ∀ k w, I w → (perform k).Always I w) (hrestart : ∀ w, I w → I (restart w))
    (hrun : Reached (CrashStep perform restart) (idle w) s) : s.Underway perform I := by
  refine Reached.invariant (I := fun s => s.Underway perform I) hstart ?_ hrun
  intro before after _ hbefore hstep
  cases hstep with
  | arrive k =>
    rw [Underway] at hbefore
    rw [Underway, arrive]
    cases hq : before.queue with
    | nil =>
      rw [hq] at hbefore
      exact ⟨hperform k _ hbefore, by simp⟩
    | cons head rest =>
      rw [hq] at hbefore
      refine ⟨hbefore.1, fun other hmem => ?_⟩
      rcases List.mem_append.mp hmem with hmem | hmem
      · exact hbefore.2 other hmem
      · rw [List.mem_singleton.mp hmem]
  | turn =>
    rw [Underway] at hbefore
    rw [turn]
    rcases hq : before.queue with _ | ⟨⟨k, r | ⟨change, resume⟩⟩, rest⟩
    · rw [hq] at hbefore
      simpa [Underway, hq] using hbefore
    · -- the head has settled: the next call begins in the world it has left
      rw [hq] at hbefore
      obtain ⟨⟨hworld, -⟩, hrest⟩ := hbefore
      cases rest with
      | nil => exact hworld
      | cons next rest =>
        refine ⟨?_, fun other hmem => hrest other (by simp [hmem])⟩
        rw [hrest next (by simp)]
        exact hperform next.1 _ hworld
    · rw [hq] at hbefore
      exact ⟨hbefore.1.2, hbefore.2⟩
  | crash => exact hrestart _ hbefore.world

/-- The queue goes on for a number of steps. -/
def turns : Nat → Exclusive κ ε σ α → Exclusive κ ε σ α
  | 0, s => s
  | n + 1, s => turns n s.turn

lemma reached_turns (h : Reached (Step perform) start s) (n : Nat) :
    Reached (Step perform) start (s.turns n) := by
  induction n generalizing s with
  | zero => exact h
  | succ n ih => exact ih (h.step .turn)

end Exclusive

end Library

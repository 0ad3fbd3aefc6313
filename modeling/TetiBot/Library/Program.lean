import Mathlib.Tactic

/-
A program logic for sequential programs with exceptions over a mutable world.

* `Program ε σ α`: a program that reads and writes a world `σ` and returns an
  `α` or throws an `ε`.  What was written before a throw stays written.
* `Triple P m Q E`: from every world with `P`, a return of `m` satisfies `Q`
  and a throw of `m` satisfies `E`.
* One rule for each way to build a program (`pure`, `bind`, `raise`,
  `throwIf`, `orThrow`, `attempt`, `foldM`), so that a proof follows the text
  of the program it is about.
* `Keeps I m Q`: the triples of an invariant of the world that is kept whether
  `m` returns or throws; what is known besides is about values.
-/

namespace Library

universe u

/-- Programs over a world `σ` with exceptions `ε`. -/
abbrev Program (ε σ : Type) (α : Type) : Type := ExceptT ε (StateM σ) α

namespace Program

variable {ε σ α β : Type} (m : Program ε σ α)

/-- Run a program: its result and the world it leaves. -/
def exec (w : σ) : Except ε α × σ :=
  StateT.run (ExceptT.run m) w

/-- Throw `e`. -/
def raise (e : ε) : Program ε σ α := throw e

/-- Throw `e` if `c` holds. -/
def throwIf (c : Prop) [Decidable c] (e : ε) : Program ε σ Unit :=
  if c then raise e else pure ()

/-- The value of an option, or throw `e`. -/
def orThrow (o : Option α) (e : ε) : Program ε σ α :=
  match o with
  | some a => pure a
  | none => raise e

/-- The value of a result, or throw its error. -/
def fromExcept (r : Except ε α) : Program ε σ α :=
  match r with
  | .ok a => pure a
  | .error e => raise e

/-- Run `m` and hand a throw over as a value (the body of a `try` block). -/
def attempt : Program ε σ (Except ε α) :=
  ExceptT.mk fun w => ((.ok (m.exec w).1, (m.exec w).2) : Except ε (Except ε α) × σ)

/-- Read from the world. -/
def reads (f : σ → α) : Program ε σ α :=
  ExceptT.mk fun w => ((.ok (f w), w) : Except ε α × σ)

/-- Write to the world. -/
def writes (f : σ → σ) : Program ε σ Unit :=
  ExceptT.mk fun w => ((.ok (), f w) : Except ε Unit × σ)

/-- Fold over a list, threading an accumulator. -/
def foldM (f : β → α → Program ε σ β) : β → List α → Program ε σ β
  | b, [] => pure b
  | b, a :: as => do foldM f (← f b a) as

variable (cleanup : Program ε σ Unit)

/-- Clean up after a throw (a `catch` block that throws on); the cleanup may fail unnoticed. -/
def onThrow : Program ε σ α := do
  match ← attempt m with
  | .ok a => pure a
  | .error e => do
    let _ ← attempt cleanup
    raise e

/-- Clean up in any case (a `finally` block); the cleanup may fail unnoticed. -/
def ensuring : Program ε σ α := do
  let outcome ← attempt m
  let _ ← attempt cleanup
  fromExcept outcome

/-! ### Running -/

@[simp] lemma exec_pure (a : α) (w : σ) : (pure a : Program ε σ α).exec w = (.ok a, w) := rfl

@[simp] lemma exec_raise (e : ε) (w : σ) :
    (raise e : Program ε σ α).exec w = (.error e, w) := rfl

lemma exec_bind (f : α → Program ε σ β) (w : σ) : (m >>= f).exec w = match m.exec w with
      | (.ok a, w') => (f a).exec w'
      | (.error e, w') => (.error e, w') := by
  simp only [exec, ExceptT.run_bind, StateT.run_bind]
  rcases h : StateT.run (ExceptT.run m) w with ⟨r, w'⟩
  cases r <;> rfl

/-- A program goes on from where its first part returned. -/
lemma exec_bind_ok {m : Program ε σ α} {f : α → Program ε σ β} {w v : σ} {a : α}
    (h : m.exec w = (.ok a, v)) : (m >>= f).exec w = (f a).exec v := by
  rw [exec_bind, h]

lemma exec_bind_eq_ok {m : Program ε σ α} {f : α → Program ε σ β} {w w' : σ} {b : β} :
    (m >>= f).exec w = (.ok b, w')
      ↔ ∃ a v, m.exec w = (.ok a, v) ∧ (f a).exec v = (.ok b, w') := by
  rw [exec_bind]
  rcases m.exec w with ⟨r | a, v⟩ <;> simp

@[simp] lemma exec_attempt (w : σ) : (attempt m).exec w = (.ok (m.exec w).1, (m.exec w).2) := rfl

@[simp] lemma exec_reads (f : σ → α) (w : σ) :
    (reads f : Program ε σ α).exec w = (.ok (f w), w) := rfl

@[simp] lemma exec_writes (f : σ → σ) (w : σ) :
    (writes f : Program ε σ Unit).exec w = (.ok (), f w) := rfl

@[simp] lemma exec_fromExcept (r : Except ε α) (w : σ) :
    (fromExcept r : Program ε σ α).exec w = (r, w) := by
  cases r <;> rfl

lemma exec_onThrow (w : σ) : (onThrow m cleanup).exec w = match m.exec w with
      | (.ok a, v) => (.ok a, v)
      | (.error e, v) => (.error e, (cleanup.exec v).2) := by
  rw [onThrow, exec_bind, exec_attempt]
  rcases m.exec w with ⟨r | a, v⟩ <;> simp [exec_bind]

lemma exec_onThrow_eq_ok {m : Program ε σ α} {cleanup : Program ε σ Unit} {w w' : σ} {a : α} :
    (onThrow m cleanup).exec w = (.ok a, w') ↔ m.exec w = (.ok a, w') := by
  rw [exec_onThrow]
  rcases m.exec w with ⟨r | a, v⟩ <;> simp

lemma exec_ensuring (w : σ) :
    (ensuring m cleanup).exec w = ((m.exec w).1, (cleanup.exec (m.exec w).2).2) := by
  simp [ensuring, exec_bind]

/-! ### What a run that returned went through -/

lemma exec_throwIf_bind_eq_ok {c : Prop} [Decidable c] {e : ε} {f : Unit → Program ε σ β}
    {b : β} {w w' : σ} :
    (throwIf c e >>= f).exec w = (.ok b, w') ↔ ¬c ∧ (f ()).exec w = (.ok b, w') := by
  by_cases h : c
  · simp [throwIf, h, exec_bind]
  · simp [throwIf, h]

lemma exec_throwIf_eq_ok {c : Prop} [Decidable c] {e : ε} {u : Unit} {w w' : σ} :
    (throwIf c e : Program ε σ Unit).exec w = (.ok u, w') ↔ ¬c ∧ w = w' := by
  by_cases h : c
  · simp [throwIf, h]
  · simp [throwIf, h]

lemma exec_fromExcept_bind_eq_ok {r : Except ε α} {f : α → Program ε σ β} {b : β} {w w' : σ} :
    (fromExcept r >>= f).exec w = (.ok b, w')
      ↔ ∃ a, r = .ok a ∧ (f a).exec w = (.ok b, w') := by
  cases r with
  | error e => simp [fromExcept, exec_bind]
  | ok a => simp [fromExcept]

lemma exec_reads_bind (f : σ → α) (g : α → Program ε σ β) (w : σ) :
    (reads f >>= g).exec w = (g (f w)).exec w := by
  simp [exec_bind]

/-! ### Triples -/

/-- Every run of `m` from a world with `P` ends in `Q` if it returns and in
`E` if it throws. -/
def Triple (P : σ → Prop) (m : Program ε σ α) (Q : α → σ → Prop) (E : ε → σ → Prop) : Prop :=
  ∀ w, P w → match m.exec w with
    | (.ok a, w') => Q a w'
    | (.error e, w') => E e w'

variable {P P' : σ → Prop} {Q Q' : α → σ → Prop} {E E' : ε → σ → Prop}

/-- What a triple says of a run that returned. -/
lemma Triple.ok {m : Program ε σ α} (h : Triple P m Q E) {w w' : σ} {a : α} (hP : P w)
    (hr : m.exec w = (.ok a, w')) : Q a w' := by
  have := h w hP
  rwa [hr] at this

/-- What a triple says of a run that threw. -/
lemma Triple.error {m : Program ε σ α} (h : Triple P m Q E) {w w' : σ} {e : ε} (hP : P w)
    (hr : m.exec w = (.error e, w')) : E e w' := by
  have := h w hP
  rwa [hr] at this

/-- If both outcomes imply the same assertion, it holds of the world left. -/
lemma Triple.world {m : Program ε σ α} {I : σ → Prop}
    (h : Triple P m (fun _ => I) (fun _ => I)) {w : σ} (hP : P w) : I (m.exec w).2 := by
  have := h w hP
  rcases hr : m.exec w with ⟨r | a, w'⟩ <;> rw [hr] at this <;> exact this

/-- The rule of consequence. -/
lemma Triple.weaken {m : Program ε σ α} (h : Triple P m Q E) (hP : ∀ w, P' w → P w)
    (hQ : ∀ a w, Q a w → Q' a w) (hE : ∀ e w, E e w → E' e w) : Triple P' m Q' E' := by
  intro w hw
  have := h w (hP w hw)
  rcases hr : m.exec w with ⟨r | a, w'⟩ <;> rw [hr] at this
  · exact hE _ _ this
  · exact hQ _ _ this

lemma Triple.pre {m : Program ε σ α} (h : Triple P m Q E) (hP : ∀ w, P' w → P w) :
    Triple P' m Q E :=
  h.weaken hP (fun _ _ => id) fun _ _ => id

lemma Triple.post {m : Program ε σ α} (h : Triple P m Q E) (hQ : ∀ a w, Q a w → Q' a w) :
    Triple P m Q' E :=
  h.weaken (fun _ => id) hQ fun _ _ => id

/-- A fact about values may leave the precondition. -/
lemma Triple.of_fact {m : Program ε σ α} {F : Prop} (h : F → Triple P m Q E) :
    Triple (fun w => P w ∧ F) m Q E :=
  fun w hw => h hw.2 w hw.1

/-- To prove a triple one may fix the world it starts from. -/
lemma Triple.of_world {m : Program ε σ α} (h : ∀ w, P w → Triple (· = w) m Q E) :
    Triple P m Q E :=
  fun w hw => h w hw w rfl

/-! ### One rule for each construct -/

lemma Triple.pure {a : α} (h : ∀ w, P w → Q a w) : Triple P (Pure.pure a) Q E :=
  fun w hw => h w hw

lemma Triple.raise {e : ε} (h : ∀ w, P w → E e w) : Triple P (raise e) Q E :=
  fun w hw => h w hw

lemma Triple.bind {m : Program ε σ α} {f : α → Program ε σ β} {R : α → σ → Prop}
    {Q : β → σ → Prop} (hm : Triple P m R E) (hf : ∀ a, Triple (R a) (f a) Q E) :
    Triple P (m >>= f) Q E := by
  intro w hw
  have := hm w hw
  rw [exec_bind]
  rcases hr : m.exec w with ⟨r | a, w'⟩ <;> rw [hr] at this
  · exact this
  · exact hf a w' this

lemma Triple.ite {c : Prop} [Decidable c] {m n : Program ε σ α} (hm : c → Triple P m Q E)
    (hn : ¬c → Triple P n Q E) : Triple P (if c then m else n) Q E := by
  split_ifs with h
  · exact hm h
  · exact hn h

lemma Triple.throwIf {c : Prop} [Decidable c] {e : ε} {Q : Unit → σ → Prop}
    (hE : c → ∀ w, P w → E e w) (hQ : ¬c → ∀ w, P w → Q () w) :
    Triple P (Program.throwIf c e) Q E :=
  Triple.ite (fun h => Triple.raise (hE h)) fun h => Triple.pure (hQ h)

lemma Triple.orThrow {o : Option α} {e : ε} (hE : o = none → ∀ w, P w → E e w)
    (hQ : ∀ a, o = some a → ∀ w, P w → Q a w) : Triple P (Program.orThrow o e) Q E := by
  cases o with
  | none => exact Triple.raise (hE rfl)
  | some a => exact Triple.pure (hQ a rfl)

lemma Triple.fromExcept {r : Except ε α} (hE : ∀ e, r = .error e → ∀ w, P w → E e w)
    (hQ : ∀ a, r = .ok a → ∀ w, P w → Q a w) : Triple P (Program.fromExcept r) Q E := by
  cases r with
  | error e => exact Triple.raise (hE e rfl)
  | ok a => exact Triple.pure (hQ a rfl)

lemma Triple.reads {f : σ → α} (h : ∀ w, P w → Q (f w) w) : Triple P (Program.reads f) Q E :=
  fun w hw => h w hw

lemma Triple.writes {f : σ → σ} {Q : Unit → σ → Prop} (h : ∀ w, P w → Q () (f w)) :
    Triple P (Program.writes f) Q E :=
  fun w hw => h w hw

/-- After a `try` the world is that of the outcome, whichever it was. -/
lemma Triple.attempt {m : Program ε σ α} {R : Except ε α → σ → Prop}
    (h : Triple P m (fun a => R (.ok a)) fun e => R (.error e)) :
    Triple P (Program.attempt m) R E := by
  intro w hw
  have := h w hw
  rw [exec_attempt]
  rcases hr : m.exec w with ⟨r | a, w'⟩ <;> rw [hr] at this <;> exact this

/-- The rule for a `catch` block that throws on. -/
lemma Triple.onThrow {m : Program ε σ α} {cleanup : Program ε σ Unit} {R : ε → σ → Prop}
    (hm : Triple P m Q R) (hcleanup : ∀ e, Triple (R e) cleanup (fun _ => E e) fun _ => E e) :
    Triple P (Program.onThrow m cleanup) Q E := by
  intro w hw
  have := hm w hw
  rw [exec_onThrow]
  rcases hr : m.exec w with ⟨e | a, v⟩ <;> rw [hr] at this
  · exact (hcleanup e).world this
  · exact this

/-! ### What follows a check -/

lemma Triple.bind_throwIf {c : Prop} [Decidable c] {e : ε} {f : Unit → Program ε σ β}
    {Q : β → σ → Prop} (hE : c → ∀ w, P w → E e w) (hf : ¬c → Triple P (f ()) Q E) :
    Triple P (Program.throwIf c e >>= f) Q E := by
  intro w hw
  by_cases h : c
  · simpa [Program.throwIf, h, exec_bind] using hE h w hw
  · simpa [Program.throwIf, h, exec_bind] using hf h w hw

lemma Triple.bind_orThrow {o : Option α} {e : ε} {f : α → Program ε σ β} {Q : β → σ → Prop}
    (hE : o = none → ∀ w, P w → E e w) (hf : ∀ a, o = some a → Triple P (f a) Q E) :
    Triple P (Program.orThrow o e >>= f) Q E := by
  intro w hw
  cases o with
  | none => simpa [Program.orThrow, exec_bind] using hE rfl w hw
  | some a => simpa [Program.orThrow, exec_bind] using hf a rfl w hw

lemma Triple.bind_fromExcept {r : Except ε α} {f : α → Program ε σ β} {Q : β → σ → Prop}
    (hE : ∀ e, r = .error e → ∀ w, P w → E e w) (hf : ∀ a, r = .ok a → Triple P (f a) Q E) :
    Triple P (Program.fromExcept r >>= f) Q E := by
  intro w hw
  cases r with
  | error e => simpa [Program.fromExcept, exec_bind] using hE e rfl w hw
  | ok a => simpa [Program.fromExcept, exec_bind] using hf a rfl w hw

/-! ### From a known world -/

/-- What is read of a known world is known. -/
lemma Triple.bind_reads {f : σ → α} {g : α → Program ε σ β} {Q : β → σ → Prop} {w : σ}
    (h : Triple (· = w) (g (f w)) Q E) : Triple (· = w) (Program.reads f >>= g) Q E := by
  rintro _ rfl
  simpa [exec_bind] using h _ rfl

/-- After a write to a known world the world is known. -/
lemma Triple.bind_writes {f : σ → σ} {g : Unit → Program ε σ β} {Q : β → σ → Prop} {w : σ}
    (h : Triple (· = f w) (g ()) Q E) : Triple (· = w) (Program.writes f >>= g) Q E := by
  rintro _ rfl
  simpa [exec_bind] using h _ rfl

/-- The loop rule: an invariant of the accumulator that each pass keeps. -/
lemma Triple.foldM {f : β → α → Program ε σ β} {I : β → σ → Prop} {as : List α}
    (h : ∀ b, ∀ a ∈ as, Triple (I b) (f b a) I E) (b : β) :
    Triple (I b) (Program.foldM f b as) I E := by
  induction as generalizing b with
  | nil => exact Triple.pure fun _ => id
  | cons a as ih =>
    refine Triple.bind (h b a (by simp)) fun b' => ?_
    exact ih (fun b a ha => h b a (by simp [ha])) b'

/-! ### An invariant of the world -/

/-- Every run of `m` from a world with `I` leaves one with `I`, and what it returns
satisfies `Q`. -/
def Keeps (I : σ → Prop) (m : Program ε σ α) (Q : α → Prop) : Prop :=
  Triple I m (fun a w => I w ∧ Q a) fun _ => I

namespace Keeps

variable {I : σ → Prop} {m : Program ε σ α} {P Q R : α → Prop}

lemma weaken (h : Keeps I m R) (hQ : ∀ a, R a → Q a) : Keeps I m Q :=
  Triple.post h fun a _ hw => ⟨hw.1, hQ a hw.2⟩

/-- The invariant holds of the world that is left, whether `m` returns or throws. -/
lemma world (h : Keeps I m Q) {w : σ} (hw : I w) : I (m.exec w).2 :=
  Triple.world (Triple.post h fun _ _ hw => hw.1) hw

/-- What a program that keeps an invariant returned. -/
lemma result (h : Keeps I m Q) {w w' : σ} {a : α} (hw : I w) (hr : m.exec w = (.ok a, w')) :
    I w' ∧ Q a :=
  Triple.ok h hw hr

/-- What is known of every result of `m` besides. -/
lemma of_result (h : Keeps I m R) (hQ : ∀ w a w', m.exec w = (.ok a, w') → Q a) :
    Keeps I m Q := by
  intro w hw
  have hrun := h w hw
  rcases hr : m.exec w with ⟨e | a, w'⟩ <;> rw [hr] at hrun
  · exact hrun
  · exact ⟨hrun.1, hQ w a w' hr⟩

lemma pure {a : α} (h : Q a) : Keeps I (Pure.pure a : Program ε σ α) Q :=
  Triple.pure fun _ hw => ⟨hw, h⟩

lemma raise {e : ε} : Keeps I (Program.raise e : Program ε σ α) Q := Triple.raise fun _ => id

lemma bind {f : α → Program ε σ β} {Q : β → Prop} (hm : Keeps I m R)
    (hf : ∀ a, R a → Keeps I (f a) Q) : Keeps I (m >>= f) Q :=
  Triple.bind hm fun a => Triple.of_fact fun ha => hf a ha

lemma ite {c : Prop} [Decidable c] {n : Program ε σ α} (hm : c → Keeps I m Q)
    (hn : ¬c → Keeps I n Q) : Keeps I (if c then m else n) Q :=
  Triple.ite hm hn

lemma throwIf {c : Prop} [Decidable c] {e : ε} :
    Keeps I (Program.throwIf c e : Program ε σ Unit) fun _ => ¬c :=
  Triple.throwIf (fun _ _ => id) fun hc _ hw => ⟨hw, hc⟩

lemma orThrow {o : Option α} {e : ε} :
    Keeps I (Program.orThrow o e : Program ε σ α) fun a => o = some a :=
  Triple.orThrow (fun _ _ => id) fun _ ha _ hw => ⟨hw, ha⟩

lemma fromExcept {r : Except ε α} :
    Keeps I (Program.fromExcept r : Program ε σ α) fun a => r = .ok a :=
  Triple.fromExcept (fun _ _ _ => id) fun _ ha _ hw => ⟨hw, ha⟩

lemma reads {f : σ → α} (h : ∀ w, I w → Q (f w)) : Keeps I (Program.reads f : Program ε σ α) Q :=
  Triple.reads fun w hw => ⟨hw, h w hw⟩

lemma writes {f : σ → σ} (h : ∀ w, I w → I (f w)) :
    Keeps I (Program.writes f : Program ε σ Unit) fun _ => True :=
  Triple.writes fun w hw => ⟨h w hw, trivial⟩

lemma attempt (h : Keeps I m Q) :
    Keeps I (Program.attempt m) fun r => ∀ a, r = .ok a → Q a := by
  refine Triple.attempt (Triple.weaken h (fun _ => id) ?_ ?_)
  · rintro a w ⟨hw, ha⟩
    exact ⟨hw, fun b hb => Except.ok.inj hb ▸ ha⟩
  · intro e w hw
    exact ⟨hw, fun b hb => by cases hb⟩

/-- The loop rule: a property of the accumulator that each pass keeps. -/
lemma foldM {f : β → α → Program ε σ β} {J : β → Prop} {as : List α}
    (h : ∀ b, J b → ∀ a ∈ as, Keeps I (f b a) J) {b : β} (hb : J b) :
    Keeps I (Program.foldM f b as) J :=
  Triple.pre (Triple.foldM (I := fun b w => I w ∧ J b)
    (fun b a ha => Triple.of_fact fun hb => h b hb a ha) b) fun _ hw => ⟨hw, hb⟩

end Keeps

end Program

end Library

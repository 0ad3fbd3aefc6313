import TetiBot.Library.Program

/-
Two runs side by side.

* `Coupled R m m' S`: from worlds related by `R`, two programs end alike: they throw the same
  error, or they return values related by `S`, and leave worlds related by `R`.
* One rule for each way to build a program, so that a proof follows the text of the program
  whose two runs it compares.
-/

namespace Library.Program

variable {ε σ α β : Type}

/-- Both throw the same, or both return related values. -/
def SameOutcome (S : α → α → Prop) : Except ε α → Except ε α → Prop
  | .ok a, .ok a' => S a a'
  | .error e, .error e' => e = e'
  | _, _ => False

lemma SameOutcome.eq {r r' : Except ε α} (h : SameOutcome Eq r r') : r = r' := by
  unfold SameOutcome at h
  split at h
  · exact congrArg _ h
  · exact congrArg _ h
  · exact h.elim

/-- From related worlds the two programs end alike, and in related worlds. -/
def Coupled (R : σ → σ → Prop) (m m' : Program ε σ α) (S : α → α → Prop) : Prop :=
  ∀ w w', R w w' → SameOutcome S (m.exec w).1 (m'.exec w').1 ∧ R (m.exec w).2 (m'.exec w').2

namespace Coupled

variable {R : σ → σ → Prop} {m m' : Program ε σ α} {S S' : α → α → Prop} {T : β → β → Prop}

lemma weaken (h : Coupled R m m' S) (hS : ∀ a a', S a a' → S' a a') : Coupled R m m' S' := by
  intro w w' hw
  obtain ⟨houtcome, hworlds⟩ := h w w' hw
  refine ⟨?_, hworlds⟩
  unfold SameOutcome at houtcome ⊢
  split at houtcome
  · exact hS _ _ houtcome
  · exact houtcome
  · exact houtcome.elim

lemma pure {a a' : α} (h : S a a') : Coupled R (Pure.pure a : Program ε σ α) (Pure.pure a') S :=
  fun _ _ hw => ⟨h, hw⟩

lemma raise {e : ε} : Coupled R (Program.raise e) (Program.raise e) S := fun _ _ hw => ⟨rfl, hw⟩

lemma bind {f f' : α → Program ε σ β} (h : Coupled R m m' S)
    (hf : ∀ a a', S a a' → Coupled R (f a) (f' a') T) : Coupled R (m >>= f) (m' >>= f') T := by
  intro w w' hw
  obtain ⟨houtcome, hworlds⟩ := h w w' hw
  rw [exec_bind, exec_bind]
  rcases hm : m.exec w with ⟨r, v⟩
  rcases hm' : m'.exec w' with ⟨r', v'⟩
  rw [hm, hm'] at houtcome hworlds
  cases r with
  | error e =>
    cases r' with
    | error e' => exact ⟨houtcome, hworlds⟩
    | ok a' => exact houtcome.elim
  | ok a =>
    cases r' with
    | error e' => exact houtcome.elim
    | ok a' => exact hf a a' houtcome v v' hworlds

/-- The rule for programs whose first parts return the same. -/
lemma bind_eq {f f' : α → Program ε σ β} (h : Coupled R m m' Eq)
    (hf : ∀ a, Coupled R (f a) (f' a) T) : Coupled R (m >>= f) (m' >>= f') T :=
  h.bind fun a _ ha => ha ▸ hf a

lemma ite {c c' : Prop} [Decidable c] [Decidable c'] {n n' : Program ε σ α} (hc : c ↔ c')
    (ht : c → Coupled R m m' S) (hf : ¬c → Coupled R n n' S) :
    Coupled R (if c then m else n) (if c' then m' else n') S := by
  by_cases h : c
  · rw [if_pos h, if_pos (hc.mp h)]
    exact ht h
  · rw [if_neg h, if_neg fun h' => h (hc.mpr h')]
    exact hf h

lemma throwIf {c c' : Prop} [Decidable c] [Decidable c'] {e : ε} (hc : c ↔ c') :
    Coupled R (Program.throwIf c e) (Program.throwIf c' e) fun _ _ => ¬c :=
  .ite hc (fun _ => .raise) fun h => .pure h

lemma orThrow {o : Option α} {e : ε} :
    Coupled R (Program.orThrow o e) (Program.orThrow o e) fun a a' => a = a' ∧ o = some a := by
  cases o with
  | none => exact .raise
  | some a => exact .pure ⟨rfl, rfl⟩

lemma fromExcept {r : Except ε α} :
    Coupled R (Program.fromExcept r) (Program.fromExcept r) fun a a' => a = a' ∧ r = .ok a := by
  cases r with
  | error e => exact .raise
  | ok a => exact .pure ⟨rfl, rfl⟩

lemma reads {f f' : σ → α} (h : ∀ w w', R w w' → S (f w) (f' w')) :
    Coupled R (Program.reads f : Program ε σ α) (Program.reads f') S :=
  fun w w' hw => ⟨h w w' hw, hw⟩

lemma writes {f f' : σ → σ} (h : ∀ w w', R w w' → R (f w) (f' w')) :
    Coupled R (Program.writes f : Program ε σ Unit) (Program.writes f') Eq :=
  fun w w' hw => ⟨rfl, h w w' hw⟩

lemma attempt (h : Coupled R m m' S) :
    Coupled R (Program.attempt m) (Program.attempt m') (SameOutcome S) := h

lemma attempt_bind {f f' : Except ε α → Program ε σ β} (h : Coupled R m m' S)
    (hok : ∀ a a', S a a' → Coupled R (f (.ok a)) (f' (.ok a')) T)
    (herror : ∀ e, Coupled R (f (.error e)) (f' (.error e)) T) :
    Coupled R (Program.attempt m >>= f) (Program.attempt m' >>= f') T := by
  refine h.attempt.bind fun r r' hr => ?_
  cases r with
  | error e =>
    cases r' with
    | error e' => exact hr ▸ herror e
    | ok a' => exact hr.elim
  | ok a =>
    cases r' with
    | error e' => exact hr.elim
    | ok a' => exact hok a a' hr

end Coupled

end Library.Program

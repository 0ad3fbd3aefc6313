import Mathlib.Logic.Relation
import Mathlib.Data.List.Chain

/-
Transition systems.

* `Reached r start s`: a run of steps `r` leads from `start` to `s`.
* `Reached.invariant`: what holds at the start and survives every step holds
  everywhere; a step may use that its source is reached.
* `Runs step start events s`: the events, one after the other, lead from `start` to
  `s`; `Runs.invariant` is the same rule for them.
* `guarded`: the steps that a condition on state and event allows.
-/

namespace Library

universe u
variable {σ : Type u} {r : σ → σ → Prop} {start s t : σ}

/-- A run of steps `r` leads from `start` to `s`. -/
def Reached (r : σ → σ → Prop) (start s : σ) : Prop := Relation.ReflTransGen r start s

namespace Reached

lemma refl : Reached r start start := Relation.ReflTransGen.refl

lemma step (hs : Reached r start s) (h : r s t) : Reached r start t :=
  Relation.ReflTransGen.tail hs h

lemma trans (hs : Reached r start s) (ht : Reached r s t) : Reached r start t :=
  Relation.ReflTransGen.trans hs ht

/-- **The invariant rule**: what holds at the start and survives every step
from a reached state holds in every reached state. -/
theorem invariant {I : σ → Prop} (hstart : I start)
    (hstep : ∀ s t, Reached r start s → I s → r s t → I t) (hs : Reached r start s) :
    I s := by
  induction hs with
  | refl => exact hstart
  | tail hrun hlast ih => exact hstep _ _ hrun ih hlast

end Reached

/-! ### Runs of a list of events -/

variable {ε : Type u} {step : σ → ε → Option σ} {events : List ε}

/-- The events lead from `start` to `s`; `step` says which can happen, and what they do. -/
def Runs (step : σ → ε → Option σ) (start : σ) (events : List ε) (s : σ) : Prop :=
  events.foldlM step start = some s

instance [DecidableEq σ] : Decidable (Runs step start events s) :=
  inferInstanceAs (Decidable (_ = _))

namespace Runs

lemma cons_iff {e : ε} : Runs step start (e :: events) t
    ↔ ∃ s, step start e = some s ∧ Runs step s events t := by
  simp [Runs, List.foldlM_cons, Option.bind_eq_some_iff]

/-- What can be seen where the events lead to. -/
lemma exists_of_any {p : σ → Bool} (h : (events.foldlM step start).any p = true) :
    ∃ s, Runs step start events s ∧ p s = true := by
  obtain ⟨s, hs, hp⟩ := (Option.any_eq_true p _).mp h
  exact ⟨s, hs, hp⟩

lemma exists_of_decide {p : σ → Prop} [DecidablePred p]
    (h : (events.foldlM step start).any (fun s => decide (p s)) = true) :
    ∃ s, Runs step start events s ∧ p s := by
  obtain ⟨s, hs, hp⟩ := exists_of_any h
  exact ⟨s, hs, of_decide_eq_true hp⟩

/-- **The invariant rule** for lists of events. -/
theorem invariant {I : σ → Prop} (hstart : I start)
    (hstep : ∀ s e t, I s → step s e = some t → I t) (h : Runs step start events s) : I s := by
  induction events generalizing start with
  | nil => exact Option.some.inj h ▸ hstart
  | cons e events ih =>
    obtain ⟨mid, hmid, hrest⟩ := cons_iff.mp h
    exact ih (hstep start e mid hstart hmid) hrest

end Runs

/-! ### Runs whose steps all meet a condition -/

/-- The steps of `step` that meet the condition. -/
def guarded (condition : σ → ε → Bool) (step : σ → ε → Option σ) (s : σ) (e : ε) : Option σ :=
  if condition s e then step s e else none

variable {condition : σ → ε → Bool}

lemma guarded_eq_some {e : ε} :
    guarded condition step s e = some t ↔ condition s e = true ∧ step s e = some t := by
  simp [guarded]

end Library

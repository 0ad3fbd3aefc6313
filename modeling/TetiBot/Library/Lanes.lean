import TetiBot.Library.Async
import Mathlib.Logic.Function.Basic

/-
Several queues over one world.

* `Lanes`: each lane runs its calls one after the other; the lanes take their
  steps in any order, so that a call meets the steps of other lanes between any
  two of its own.
* `Async.Secure`: what an operation guarantees of each of its steps, as long as
  what the others do between them can be relied upon; one rule for each way to
  build an operation.
* `Lanes.step_guaranteed`: if what a lane guarantees can be relied upon by the
  others, every step of every run is guaranteed by its lane.
* `Lanes.along`: a preorder that contains all guarantees holds between any two
  points of a run.
-/

namespace Library

open Program

namespace Async

variable {ε σ α β : Type} {rely guarantee : σ → σ → Prop}

/-- Every step of the operation satisfies `guarantee`, and it returns with `Q` if it
returns, as long as the world changes between its steps only by `rely`. -/
def Secure (rely guarantee : σ → σ → Prop) (Q : α → σ → Prop) : Async ε σ α → σ → Prop
  | settled (.ok a), w => Q a w
  | settled (.error _), _ => True
  | await change resume, w => ∀ w', rely w w' →
      guarantee w' (change w') ∧ Secure rely guarantee Q (resume w') (change w')

variable {Q : α → σ → Prop}

lemma Secure.lift {m : Program ε σ α} {w : σ}
    (h : ∀ w', rely w w' → guarantee w' (m.exec w').2
      ∧ ∀ a, (m.exec w').1 = .ok a → Q a (m.exec w').2) :
    Secure rely guarantee Q (lift m) w := by
  intro w' hw'
  obtain ⟨hstep, hresult⟩ := h w' hw'
  refine ⟨hstep, ?_⟩
  change Secure rely guarantee Q (settled (m.exec w').1) (m.exec w').2
  cases hm : (m.exec w').1 with
  | ok a => exact hresult a hm
  | error e => trivial

/-- The rule of composition: what the first part returns with is what the second
begins with. -/
lemma Secure.bind {R : α → σ → Prop} {Q : β → σ → Prop} {m : Async ε σ α}
    {f : α → Async ε σ β} {w : σ} (hm : Secure rely guarantee R m w)
    (hf : ∀ a w', R a w' → Secure rely guarantee Q (f a) w') :
    Secure rely guarantee Q (m >>= f) w := by
  change Secure rely guarantee Q (Async.bind m f) w
  induction m generalizing w with
  | settled r =>
    cases r with
    | ok a => exact hf a w hm
    | error e => trivial
  | await change resume ih => exact fun w' hw' => ⟨(hm w' hw').1, ih w' (hm w' hw').2⟩

/-- A throw that is caught leaves nothing to rely upon but the steps that were taken. -/
lemma Secure.attempt {Q : Except ε α → σ → Prop} {m : Async ε σ α} {w : σ}
    (hm : Secure rely guarantee (fun a => Q (.ok a)) m w) (herror : ∀ e w', Q (.error e) w') :
    Secure rely guarantee Q (Async.attempt m) w := by
  induction m generalizing w with
  | settled r =>
    cases r with
    | ok a => exact hm
    | error e => exact herror e w
  | await change resume ih => exact fun w' hw' => ⟨(hm w' hw').1, ih w' (hm w' hw').2⟩

lemma Secure.bind_throwIf {c : Prop} [Decidable c] {e : ε} {Q : β → σ → Prop}
    {f : Unit → Async ε σ β} {w : σ} (hf : ¬c → Secure rely guarantee Q (f ()) w) :
    Secure rely guarantee Q (throwIf c e >>= f) w := by
  by_cases h : c
  · rw [throwIf, if_pos h]
    trivial
  · rw [throwIf, if_neg h]
    exact hf h

lemma Secure.bind_fromExcept {r : Except ε α} {Q : β → σ → Prop} {f : α → Async ε σ β} {w : σ}
    (hf : ∀ a, r = .ok a → Secure rely guarantee Q (f a) w) :
    Secure rely guarantee Q (Async.fromExcept r >>= f) w := by
  cases r with
  | error e => trivial
  | ok a => exact hf a rfl

lemma Secure.bind_orThrow {o : Option α} {e : ε} {Q : β → σ → Prop} {f : α → Async ε σ β} {w : σ}
    (hf : ∀ a, o = some a → Secure rely guarantee Q (f a) w) :
    Secure rely guarantee Q (Async.orThrow o e >>= f) w := by
  cases o with
  | none => trivial
  | some a => exact hf a rfl

end Async

/-! ### Lanes -/

/-- The world, and the calls of each lane that have not settled, the oldest first. -/
structure Lanes (ι κ ε σ α : Type) where
  world : σ
  queue : ι → List (κ × Async ε σ α)

namespace Lanes

variable {ι κ ε σ α : Type} [DecidableEq ι] {lane : κ → ι} {perform : κ → Async ε σ α}
  {start s t : Lanes ι κ ε σ α}

/-- All lanes at rest. -/
def idle (w : σ) : Lanes ι κ ε σ α := ⟨w, fun _ => []⟩

/-- A call arrives at its lane. -/
def arrive (lane : κ → ι) (perform : κ → Async ε σ α) (s : Lanes ι κ ε σ α) (k : κ) :
    Lanes ι κ ε σ α :=
  { s with queue := Function.update s.queue (lane k) (s.queue (lane k) ++ [(k, perform k)]) }

/-- The call at the head of a lane takes a step, or leaves if it has settled. -/
def turn (s : Lanes ι κ ε σ α) (i : ι) : Lanes ι κ ε σ α :=
  match s.queue i with
  | [] => s
  | (_, .settled _) :: rest => { s with queue := Function.update s.queue i rest }
  | (k, .await change resume) :: rest =>
    ⟨change s.world, Function.update s.queue i ((k, resume s.world) :: rest)⟩

/-- One step: a call arrives, or a lane goes on. -/
inductive Step (lane : κ → ι) (perform : κ → Async ε σ α) (s : Lanes ι κ ε σ α) :
    Lanes ι κ ε σ α → Prop
  | arrive (k : κ) : Step lane perform s (s.arrive lane perform k)
  | turn (i : ι) : Step lane perform s (s.turn i)

/-- What each lane relies upon and guarantees, in worlds with an invariant. -/
structure Agreement (lane : κ → ι) (perform : κ → Async ε σ α) (inv : σ → Prop)
    (rely guarantee : ι → σ → σ → Prop) : Prop where
  refl : ∀ i w, inv w → rely i w w
  trans : ∀ {i w w' w''}, rely i w w' → rely i w' w'' → rely i w w''
  others : ∀ {i j}, i ≠ j → ∀ {w w'}, guarantee j w w' → rely i w w'
  keeps : ∀ {i w w'}, guarantee i w w' → inv w → inv w'
  secure : ∀ k w, inv w →
    (perform k).Secure (rely (lane k)) (guarantee (lane k)) (fun _ _ => True) w

/-- The head of each lane is secure from where it took its last step, the others of
the lane have not begun. -/
def Orderly (lane : κ → ι) (perform : κ → Async ε σ α) (inv : σ → Prop)
    (rely guarantee : ι → σ → σ → Prop) (s : Lanes ι κ ε σ α) : Prop :=
  inv s.world ∧ ∀ i, match s.queue i with
    | [] => True
    | (_, m) :: rest => (∃ w, rely i w s.world
          ∧ m.Secure (rely i) (guarantee i) (fun _ _ => True) w)
        ∧ ∀ other ∈ rest, lane other.1 = i ∧ other.2 = perform other.1

variable {inv : σ → Prop} {rely guarantee : ι → σ → σ → Prop}

section

variable (hagree : Agreement lane perform inv rely guarantee)

include hagree

lemma Orderly.arrive (h : s.Orderly lane perform inv rely guarantee) (k : κ) :
    (s.arrive lane perform k).Orderly lane perform inv rely guarantee := by
  refine ⟨h.1, fun i => ?_⟩
  have hi := h.2 i
  by_cases hk : i = lane k
  · subst hk
    simp only [Lanes.arrive, Function.update_self]
    cases hq : s.queue (lane k) with
    | nil => exact ⟨⟨s.world, hagree.refl _ _ h.1, hagree.secure k s.world h.1⟩, by simp⟩
    | cons head rest =>
      rw [hq] at hi
      refine ⟨hi.1, fun other hmem => ?_⟩
      rcases List.mem_append.mp hmem with hmem | hmem
      · exact hi.2 other hmem
      · rw [List.mem_singleton.mp hmem]
        exact ⟨rfl, rfl⟩
  · simpa only [Lanes.arrive, Function.update_of_ne hk] using hi

/-- A step of a lane is guaranteed, and leaves all lanes orderly. -/
lemma Orderly.turn (h : s.Orderly lane perform inv rely guarantee) (i : ι) :
    (s.turn i).Orderly lane perform inv rely guarantee
      ∧ ((s.turn i).world = s.world ∨ guarantee i s.world (s.turn i).world) := by
  obtain ⟨hinv, hlanes⟩ := h
  have hi := hlanes i
  rw [Lanes.turn]
  rcases hq : s.queue i with _ | ⟨⟨k, r | ⟨change, resume⟩⟩, rest⟩
  · exact ⟨⟨hinv, hlanes⟩, Or.inl rfl⟩
  · -- the head has settled: the next call begins here
    rw [hq] at hi
    refine ⟨⟨hinv, fun j => ?_⟩, Or.inl rfl⟩
    by_cases hj : j = i
    · subst hj
      simp only [Function.update_self]
      cases rest with
      | nil => trivial
      | cons next rest =>
        obtain ⟨hlane, hnext⟩ := hi.2 next (by simp)
        refine ⟨⟨s.world, hagree.refl _ _ hinv, ?_⟩, fun other hmem => hi.2 other (by simp [hmem])⟩
        rw [hnext, ← hlane]
        exact hagree.secure next.1 s.world hinv
    · simpa only [Function.update_of_ne hj] using hlanes j
  · rw [hq] at hi
    obtain ⟨⟨w, hw, hsecure⟩, hrest⟩ := hi
    obtain ⟨hstep, hnext⟩ := hsecure s.world hw
    have hafter := hagree.keeps hstep hinv
    refine ⟨⟨hafter, fun j => ?_⟩, Or.inr hstep⟩
    by_cases hj : j = i
    · subst hj
      simp only [Function.update_self]
      exact ⟨⟨change s.world, hagree.refl _ _ hafter, hnext⟩, hrest⟩
    · -- the other lanes rely upon what this one guarantees
      have hother := hlanes j
      simp only [Function.update_of_ne hj]
      cases hqj : s.queue j with
      | nil => trivial
      | cons head rest =>
        rw [hqj] at hother
        obtain ⟨⟨v, hv, hm⟩, hbehind⟩ := hother
        exact ⟨⟨v, hagree.trans hv (hagree.others hj hstep), hm⟩, hbehind⟩

lemma orderly {w : σ} (hw : inv w) (hrun : Reached (Step lane perform) (idle w) s) :
    s.Orderly lane perform inv rely guarantee := by
  refine Reached.invariant (I := fun s => s.Orderly lane perform inv rely guarantee)
    ⟨hw, fun _ => trivial⟩ ?_ hrun
  intro before after _ hbefore hstep
  cases hstep with
  | arrive k => exact hbefore.arrive hagree k
  | turn i => exact (hbefore.turn hagree i).1

/-- The invariant holds at every point of a run. -/
theorem invariant {w : σ} (hw : inv w) (hrun : Reached (Step lane perform) (idle w) s) :
    inv s.world :=
  (orderly hagree hw hrun).1

/-- **The rule of lanes**: every step of every run leaves the world as it is or is
guaranteed by its lane. -/
theorem step_guaranteed {w : σ} (hw : inv w) (hrun : Reached (Step lane perform) (idle w) s)
    (hstep : Step lane perform s t) : t.world = s.world ∨ ∃ i, guarantee i s.world t.world := by
  cases hstep with
  | arrive k => exact Or.inl rfl
  | turn i => exact ((orderly hagree hw hrun).turn hagree i).2.imp_right fun h => ⟨i, h⟩

/-- What all lanes guarantee holds between any two points of a run. -/
theorem along {R : σ → σ → Prop} (hrefl : ∀ w, inv w → R w w)
    (htrans : ∀ {w w' w''}, R w w' → R w' w'' → R w w'')
    (hR : ∀ {i w w'}, guarantee i w w' → R w w') {w : σ} (hw : inv w)
    (hstart : Reached (Step lane perform) (idle w) s) (hrun : Reached (Step lane perform) s t) :
    R s.world t.world := by
  suffices h : Reached (Step lane perform) (idle w) t ∧ R s.world t.world from h.2
  refine Reached.invariant (I := fun t => Reached (Step lane perform) (idle w) t
    ∧ R s.world t.world) ⟨hstart, hrefl _ (invariant hagree hw hstart)⟩ ?_ hrun
  rintro before after _ ⟨hreached, hR'⟩ hstep
  refine ⟨hreached.step hstep, ?_⟩
  rcases step_guaranteed hagree hw hreached hstep with hsame | ⟨i, hguarantee⟩
  · rwa [hsame]
  · exact htrans hR' (hR hguarantee)

end

/-- The lanes go on in a given order. -/
def turns : List ι → Lanes ι κ ε σ α → Lanes ι κ ε σ α
  | [], s => s
  | i :: order, s => turns order (s.turn i)

lemma reached_turns (h : Reached (Step lane perform) start s) (order : List ι) :
    Reached (Step lane perform) start (s.turns order) := by
  induction order generalizing s with
  | nil => exact h
  | cons i order ih => exact ih (h.step (.turn i))

end Lanes

end Library

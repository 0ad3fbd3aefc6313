import Mathlib.Order.Basic
import Mathlib.Tactic

/-
Registers that take the newest of the values they are given.

One that may be empty, and takes what is not older:

* `Register.put`: the register after a value was given.
* `Register.foldl_put`: it ends with the newest value, in whichever order the values
  were given and however often.

One that stops at a final value:

* `Register.take`: a value replaces the one held if its stamp is larger and the
  one held is not final.
* `Register.stamp_le_foldl`, `Register.foldl_of_final`: stamps only grow, and a
  final value stays.
* `Register.foldl_eq_or_mem`, `Register.covers`: what is held in the end.
* `Register.converge`: if every final value looks like the newest one, so does
  what is held in the end.

One that takes what beats the value held, where nothing is known of `beats`:

* `Register.replace`: the register after a value was given.
* `Register.orderIndependent_iff`: it ends with the same value in whichever order the
  values are given if and only if one of them beats every other and is beaten by none.
-/

namespace Library

namespace Register

variable {α β σ : Type*} [LinearOrder σ] (stamp : α → σ) (final : α → Bool)

/-! ### The newest value -/

/-- The register after it was given `a`: what is held stays only if it is newer. -/
def put (held : Option α) (a : α) : Option α :=
  match held with
  | none => some a
  | some old => if stamp old ≤ stamp a then some a else some old

variable {stamp}

/-- What is held was held before or given. -/
lemma mem_put {held : Option α} {a b : α} (h : b ∈ put stamp held a) : b = a ∨ b ∈ held := by
  cases held with
  | none => exact .inl (Option.some.inj h).symm
  | some old =>
    rw [put] at h
    split_ifs at h with hle
    · exact .inl (Option.some.inj h).symm
    · exact .inr h

/-- Giving a value never drops the newest one. -/
lemma put_newest {held : Option α} {a top : α} (htop : top = a ∨ top ∈ held)
    (hnewest : ∀ b, b = a ∨ b ∈ held → stamp b ≤ stamp top)
    (hinjective : ∀ b, b = a ∨ b ∈ held → stamp b = stamp top → b = top) :
    put stamp held a = some top := by
  cases held with
  | none =>
    obtain rfl | hnone := htop
    · rfl
    · cases hnone
  | some old =>
    rw [put]
    split_ifs with hle
    · obtain rfl | hold := htop
      · rfl
      · obtain rfl := Option.some.inj hold
        have hsame : stamp a = stamp old := le_antisymm (hnewest a (.inl rfl)) hle
        rw [hinjective a (.inl rfl) hsame]
    · obtain rfl | hold := htop
      · exact absurd (hnewest old (.inr rfl)) hle
      · exact hold

/-- **The newest value wins**: values with different stamps are given, in any order and
any number of times, to a register that holds one of them or nothing. -/
theorem foldl_put {held : Option α} {as : List α} {top : α} (htop : top ∈ held ∨ top ∈ as)
    (hnewest : ∀ a, a ∈ held ∨ a ∈ as → stamp a ≤ stamp top)
    (hinjective : ∀ a, a ∈ held ∨ a ∈ as → stamp a = stamp top → a = top) :
    as.foldl (put stamp) held = some top := by
  induction as generalizing held with
  | nil =>
    obtain hheld | hnil := htop
    · exact hheld
    · cases hnil
  | cons a as ih =>
    have hbefore : ∀ b, b = a ∨ b ∈ held → b ∈ held ∨ b ∈ a :: as := by
      rintro b (rfl | hb)
      · exact .inr (List.mem_cons_self ..)
      · exact .inl hb
    have hafter : ∀ b, b ∈ put stamp held a ∨ b ∈ as → b ∈ held ∨ b ∈ a :: as := by
      rintro b (hb | hb)
      · exact hbefore b (mem_put hb)
      · exact .inr (List.mem_cons_of_mem a hb)
    rw [List.foldl_cons]
    refine ih ?_ (fun b hb => hnewest b (hafter b hb)) fun b hb => hinjective b (hafter b hb)
    by_cases hrest : top ∈ as
    · exact .inr hrest
    · have hnow : top = a ∨ top ∈ held := by
        obtain hheld | hmem := htop
        · exact .inr hheld
        · exact .inl ((List.mem_cons.mp hmem).resolve_right hrest)
      exact .inl (put_newest hnow (fun b hb => hnewest b (hbefore b hb))
        fun b hb => hinjective b (hbefore b hb))

/-! ### The newest value, until a final one -/

variable (stamp)

/-- The register after it was given `a`. -/
def take (held a : α) : α :=
  if stamp a ≤ stamp held ∨ final held = true then held else a

variable {stamp final}

lemma stamp_le_take (held a : α) : stamp held ≤ stamp (take stamp final held a) := by
  rw [take]
  split_ifs with h
  · exact le_rfl
  · exact (not_le.mp fun hle => h (.inl hle)).le

lemma take_of_final {held : α} (h : final held = true) (a : α) :
    take stamp final held a = held :=
  if_pos (.inr h)

/-- A value that was given is not newer than the one held, unless that one is
final. -/
lemma stamp_take (held a : α) :
    stamp a ≤ stamp (take stamp final held a) ∨ final (take stamp final held a) = true := by
  rw [take]
  split_ifs with h
  · exact h
  · exact .inl le_rfl

/-- **Stamps only grow**. -/
theorem stamp_le_foldl (held : α) (as : List α) :
    stamp held ≤ stamp (as.foldl (take stamp final) held) := by
  induction as generalizing held with
  | nil => exact le_rfl
  | cons a as ih => exact (stamp_le_take held a).trans (ih _)

/-- **A final value stays**. -/
theorem foldl_of_final {held : α} (h : final held = true) (as : List α) :
    as.foldl (take stamp final) held = held := by
  induction as with
  | nil => rfl
  | cons a as ih => rw [List.foldl_cons, take_of_final h, ih]

lemma foldl_eq_or_mem (held : α) (as : List α) :
    as.foldl (take stamp final) held = held ∨ as.foldl (take stamp final) held ∈ as := by
  induction as generalizing held with
  | nil => exact .inl rfl
  | cons a as ih =>
    rw [List.foldl_cons]
    rcases ih (take stamp final held a) with heq | hmem
    · rw [heq, take]
      split_ifs
      · exact .inl rfl
      · exact .inr (by simp)
    · exact .inr (by simp [hmem])

/-- No value that was given is newer than the one held in the end, unless that
one is final. -/
lemma covers (held : α) (as : List α) {a : α} (ha : a ∈ as) :
    stamp a ≤ stamp (as.foldl (take stamp final) held)
      ∨ final (as.foldl (take stamp final) held) = true := by
  induction as generalizing held with
  | nil => simp at ha
  | cons b bs ih =>
    rw [List.foldl_cons]
    rcases List.mem_cons.mp ha with rfl | ha
    · have htaken : stamp a ≤ stamp (take stamp final held a)
          ∨ final (take stamp final held a) = true := stamp_take held a
      rcases htaken with hle | hfinal
      · exact .inl (hle.trans (stamp_le_foldl _ bs))
      · exact .inr (by rw [foldl_of_final hfinal]; exact hfinal)
    · exact ih _ ha

/-- **Convergence**: values with different stamps are given, in any order and any
number of times, to a register that holds an older one that is not final.  If
every final value looks like the newest one, the register ends with a value that
does. -/
theorem converge {look : α → β} {held top : α} {as : List α}
    (hheld : final held = false) (holder : ∀ a ∈ as, stamp held < stamp a)
    (hinjective : ∀ a ∈ as, ∀ b ∈ as, stamp a = stamp b → a = b)
    (htop : top ∈ as) (hnewest : ∀ a ∈ as, stamp a ≤ stamp top)
    (hfinal : ∀ a ∈ as, final a = true → look a = look top) :
    look (as.foldl (take stamp final) held) = look top := by
  have hcovers : stamp top ≤ stamp (as.foldl (take stamp final) held)
      ∨ final (as.foldl (take stamp final) held) = true := covers held as htop
  have hgiven : as.foldl (take stamp final) held = held ∨ as.foldl (take stamp final) held ∈ as :=
    foldl_eq_or_mem held as
  rcases hgiven with heq | hmem
  · rw [heq] at hcovers
    rcases hcovers with hle | hfinalHeld
    · exact absurd (holder top htop) (not_lt.mpr hle)
    · rw [hheld] at hfinalHeld
      exact absurd hfinalHeld (by simp)
  · rcases hcovers with hle | hfinalHeld
    · rw [hinjective _ hmem _ htop (le_antisymm (hnewest _ hmem) hle)]
    · exact hfinal _ hmem hfinalHeld

/-! ### What beats the value held -/

section Replace

variable (beats : α → α → Bool)

/-- The register after it was given `a`. -/
def replace (held : Option α) (a : α) : Option α :=
  match held with
  | none => some a
  | some old => if beats old a then some a else some old

variable {beats}

lemma replace_isSome (held : Option α) (a : α) : (replace beats held a).isSome = true := by
  cases held with
  | none => rfl
  | some old =>
    rw [replace]
    split_ifs <;> rfl

/-- What is held was held before or given. -/
lemma foldl_replace_mem {held : Option α} {as : List α} {b : α}
    (h : as.foldl (replace beats) held = some b) : held = some b ∨ b ∈ as := by
  induction as generalizing held with
  | nil => exact .inl h
  | cons a as ih =>
    rcases ih h with hnow | hlater
    · cases held with
      | none => exact .inr (Option.some.inj hnow ▸ List.mem_cons_self ..)
      | some old =>
        rw [replace] at hnow
        split_ifs at hnow
        · exact .inr (Option.some.inj hnow ▸ List.mem_cons_self ..)
        · exact .inl hnow
    · exact .inr (List.mem_cons_of_mem a hlater)

lemma foldl_replace_of_not_beats {old : α} {as : List α} (h : ∀ a ∈ as, beats old a = false ∨ a = old) :
    as.foldl (replace beats) (some old) = some old := by
  induction as with
  | nil => rfl
  | cons a as ih =>
    have hstay : replace beats (some old) a = some old := by
      rw [replace]
      rcases h a (List.mem_cons_self ..) with hbeats | rfl
      · rw [hbeats]
        rfl
      · split_ifs <;> rfl
    rw [List.foldl_cons, hstay]
    exact ih fun b hb => h b (List.mem_cons_of_mem a hb)

/-- The value that beats every other, and is beaten by none, is held in the end. -/
lemma foldl_replace_of_top {held : Option α} {as : List α} {top : α} (htop : top ∈ held ∨ top ∈ as)
    (hbeats : ∀ a, a ∈ held ∨ a ∈ as → a ≠ top → beats a top = true ∧ beats top a = false) :
    as.foldl (replace beats) held = some top := by
  induction as generalizing held with
  | nil => exact htop.resolve_right (List.not_mem_nil)
  | cons a as ih =>
    rw [List.foldl_cons]
    -- once it is held, nothing given replaces it
    by_cases hnow : replace beats held a = some top
    · rw [hnow]
      refine foldl_replace_of_not_beats fun b hb => ?_
      by_cases hb' : b = top
      · exact .inr hb'
      · exact .inl (hbeats b (.inr (List.mem_cons_of_mem a hb)) hb').2
    · have hafter : ∀ b, b ∈ replace beats held a → b ∈ held ∨ b = a := by
        intro b hb
        have hlist : [a].foldl (replace beats) held = some b := hb
        rcases foldl_replace_mem hlist with hheld | hmem
        · exact .inl hheld
        · exact .inr (List.mem_singleton.mp hmem)
      have hlater : top ∈ as := by
        rcases htop with hheld | hmem
        · obtain rfl : held = some top := hheld
          refine absurd ?_ hnow
          by_cases ha : a = top
          · subst ha
            rw [replace]
            split_ifs <;> rfl
          · rw [replace, (hbeats a (.inr (List.mem_cons_self ..)) ha).2]
            rfl
        · rcases List.mem_cons.mp hmem with rfl | hmem
          · refine absurd ?_ hnow
            cases held with
            | none => rfl
            | some old =>
              rw [replace]
              split_ifs with hold
              · rfl
              · by_contra hne
                exact hold (hbeats old (.inl rfl) fun heq => hne (by rw [heq])).1
          · exact hmem
      refine ih (.inr hlater) fun b hb hne => hbeats b ?_ hne
      rcases hb with hb | hb
      · rcases hafter b hb with hheld | rfl
        · exact .inl hheld
        · exact .inr (List.mem_cons_self ..)
      · exact .inr (List.mem_cons_of_mem a hb)

/-- **Order independence**: the register ends with the same value in whichever order the
values are given if and only if one of them beats every other and is beaten by none. -/
theorem orderIndependent_iff {as : List α} {top : α} :
    (∀ order : List α, order.Perm as → order.foldl (replace beats) none = some top)
      ↔ top ∈ as ∧ ∀ a ∈ as, a ≠ top → beats a top = true ∧ beats top a = false := by
  classical
  constructor
  · intro h
    have hmem : top ∈ as :=
      (foldl_replace_mem (h as (List.Perm.refl as))).resolve_left (by simp)
    refine ⟨hmem, fun a ha hne => ⟨?_, ?_⟩⟩
    · -- `a` first, then all copies of `top`, then the others
      by_contra hbeats
      have hperm : (a :: ((as.erase a).filter (· == top) ++ (as.erase a).filter fun b => !(b == top))).Perm as :=
        (List.Perm.cons a (List.filter_append_perm _ _)).trans (List.perm_cons_erase ha).symm
      have hrun := h _ hperm
      rw [List.foldl_cons, List.foldl_append, show replace beats none a = some a from rfl,
        foldl_replace_of_not_beats] at hrun
      · rcases foldl_replace_mem hrun with heq | hmem'
        · exact hne (Option.some.inj heq)
        · simp at hmem'
      · intro b hb
        obtain rfl : b = top := by simpa using (List.mem_filter.mp hb).2
        exact .inl (Bool.eq_false_of_not_eq_true hbeats)
    · -- `a` last
      have hperm : (as.erase a ++ [a]).Perm as :=
        (List.perm_append_singleton a _).trans (List.perm_cons_erase ha).symm
      have hrun := h _ hperm
      rw [List.foldl_append, List.foldl_cons, List.foldl_nil] at hrun
      cases hheld : (as.erase a).foldl (replace beats) none with
      | none =>
        rw [hheld] at hrun
        exact absurd (Option.some.inj hrun) hne
      | some old =>
        rw [hheld, replace] at hrun
        split_ifs at hrun with hold
        · exact absurd (Option.some.inj hrun) hne
        · obtain rfl := Option.some.inj hrun
          exact Bool.eq_false_of_not_eq_true hold
  · rintro ⟨hmem, hbeats⟩ order hperm
    refine foldl_replace_of_top (.inr (hperm.mem_iff.mpr hmem)) fun a ha hne => ?_
    rcases ha with hnone | ha
    · cases hnone
    · exact hbeats a (hperm.mem_iff.mp ha) hne

end Replace

end Register

end Library

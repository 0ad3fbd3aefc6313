import Mathlib

/-
Lists of records that are only appended to and changed in place.

* `getElem?_concat`, `getElem?_concat_old`: a record of a longer list.
* `getElem?_modify_cases`, `getElem?_modify_some`: a record of a changed list.
* `sum_map_modify`: a sum over the records, when one of them changes.
-/

namespace Library

universe u
variable {α : Type u} {xs : List α} {x y : α} {n k : Nat} {f : α → α}

lemma getElem?_concat (h : (xs ++ [x])[k]? = some y) : xs[k]? = some y ∨ (k = xs.length ∧ y = x) := by
  rcases Nat.lt_or_ge k xs.length with hlt | hge
  · rw [List.getElem?_append_left hlt] at h
    exact .inl h
  · rw [List.getElem?_append_right hge, List.getElem?_singleton] at h
    split_ifs at h with hk
    exact .inr ⟨by omega, (Option.some.inj h).symm⟩

lemma getElem?_concat_old (h : xs[k]? = some y) : (xs ++ [x])[k]? = some y := by
  rw [List.getElem?_append_left (List.getElem?_eq_some_iff.mp h).1, h]

/-- A record of the changed list is the one that has changed, or another one. -/
lemma getElem?_modify_cases (hx : xs[n]? = some x) (h : (xs.modify n f)[k]? = some y) :
    (k = n ∧ y = f x) ∨ (k ≠ n ∧ xs[k]? = some y) := by
  rw [List.getElem?_modify] at h
  obtain ⟨a, ha, rfl⟩ := Option.map_eq_some_iff.mp h
  split_ifs with hk
  · subst hk
    obtain rfl := Option.some.inj (hx.symm.trans ha)
    exact .inl ⟨rfl, rfl⟩
  · exact .inr ⟨Ne.symm hk, ha⟩

lemma getElem?_modify_some (h : xs[k]? = some y) :
    (xs.modify n f)[k]? = some (if n = k then f y else y) := by
  rw [List.getElem?_modify, h]
  rfl

lemma getElem?_modify_self (h : xs[n]? = some x) : (xs.modify n f)[n]? = some (f x) := by
  rw [getElem?_modify_some h, if_pos rfl]

lemma sum_map_modify (g : α → Nat) (hx : xs[n]? = some x) :
    ((xs.modify n f).map g).sum + g x = (xs.map g).sum + g (f x) := by
  induction xs generalizing n with
  | nil => simp at hx
  | cons a xs ih =>
    cases n with
    | zero =>
      obtain rfl := Option.some.inj hx
      simp only [List.modify_zero_cons, List.map_cons, List.sum_cons]
      omega
    | succ n =>
      have := ih hx
      simp only [List.modify_succ_cons, List.map_cons, List.sum_cons]
      omega

end Library

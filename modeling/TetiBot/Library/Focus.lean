import Mathlib.Tactic

/-
A list with one of its elements in focus.

* `Focus α`: an element of a list together with what stands before and after
  it.  A focus cannot point outside its list.
* `Focus.set`, `Focus.toList`: replace the element, and forget which one it is.
* `focusFirst?`: the first element with a property (`find` that also remembers
  where the element was found).
* `focusAt?`: the element at an index.
* `updateFirst`: update the first element with a property; in a list whose
  keys differ, that is the element with its key.
-/

namespace Library

universe u
variable {α : Type u}

/-- An element of a list, with the elements before and after it. -/
structure Focus (α : Type u) where
  before : List α
  current : α
  after : List α

namespace Focus

variable (z : Focus α)

/-- The list the element stands in. -/
def toList : List α := z.before ++ z.current :: z.after

/-- Replace the element in focus. -/
def set (a : α) : Focus α := { z with current := a }

@[simp] lemma set_before (a : α) : (z.set a).before = z.before := rfl
@[simp] lemma set_current (a : α) : (z.set a).current = a := rfl
@[simp] lemma set_after (a : α) : (z.set a).after = z.after := rfl
@[simp] lemma set_set (a b : α) : (z.set a).set b = z.set b := rfl

lemma current_mem : z.current ∈ z.toList := by simp [toList]

end Focus

/-- An update is in step with the list, where it is with the element. -/
lemma Focus.forall₂_set {R : α → α → Prop} (hrefl : ∀ a, R a a) {z : Focus α} {a : α}
    (h : R z.current a) : List.Forall₂ R z.toList (z.set a).toList :=
  List.rel_append (List.forall₂_same.mpr fun b _ => hrefl b)
    (.cons h (List.forall₂_same.mpr fun b _ => hrefl b))

/-- The first element with `p`, in its place. -/
def focusFirst? (p : α → Bool) : List α → Option (Focus α)
  | [] => none
  | a :: as =>
    if p a then some ⟨[], a, as⟩
    else (focusFirst? p as).map fun z => { z with before := a :: z.before }

/-- The element at an index, in its place. -/
def focusAt? : List α → Nat → Option (Focus α)
  | [], _ => none
  | a :: as, 0 => some ⟨[], a, as⟩
  | a :: as, n + 1 => (focusAt? as n).map fun z => { z with before := a :: z.before }

/-- Update the first element with `p`. -/
def updateFirst (p : α → Bool) (f : α → α) : List α → List α
  | [] => []
  | a :: as => if p a then f a :: as else a :: updateFirst p f as

/-- What `focusFirst?` found: an element of the list with `p`, and no element
with `p` before it. -/
lemma focusFirst?_eq_some {p : α → Bool} {l : List α} {z : Focus α}
    (h : focusFirst? p l = some z) :
    z.toList = l ∧ p z.current = true ∧ ∀ a ∈ z.before, p a = false := by
  induction l generalizing z with
  | nil => simp [focusFirst?] at h
  | cons a as ih =>
    simp only [focusFirst?] at h
    split at h
    · next hp =>
      obtain rfl := Option.some.inj h
      exact ⟨rfl, hp, by simp⟩
    · next hp =>
      obtain ⟨y, hy, rfl⟩ := Option.map_eq_some_iff.mp h
      obtain ⟨hl, hc, hb⟩ := ih hy
      refine ⟨?_, hc, ?_⟩
      · simpa [Focus.toList] using hl
      · intro b hmem
        rcases List.mem_cons.mp hmem with rfl | hmem
        · simpa using hp
        · exact hb b hmem

/-- The first element with `p` is found where it stands. -/
lemma focusFirst?_append {p : α → Bool} {before : List α} {a : α} (after : List α)
    (hbefore : ∀ b ∈ before, p b = false) (ha : p a = true) :
    focusFirst? p (before ++ a :: after) = some ⟨before, a, after⟩ := by
  induction before with
  | nil => rw [List.nil_append, focusFirst?, if_pos ha]
  | cons b bs ih =>
    have hb : p b = false := hbefore b (by simp)
    rw [List.cons_append, focusFirst?, hb, ih fun c hc => hbefore c (by simp [hc])]
    rfl

/-- Nothing is found exactly when no element has `p`. -/
lemma focusFirst?_eq_none {p : α → Bool} {l : List α} :
    focusFirst? p l = none ↔ ∀ a ∈ l, p a = false := by
  induction l with
  | nil => simp [focusFirst?]
  | cons a as ih =>
    simp only [focusFirst?]
    split
    · next hp => simp [hp]
    · next hp => simp [hp, ih]

/-- The element after a prefix of a list. -/
lemma focusAt?_append (before : List α) (a : α) (after : List α) :
    focusAt? (before ++ a :: after) before.length = some ⟨before, a, after⟩ := by
  induction before with
  | nil => rfl
  | cons b bs ih =>
    rw [List.cons_append, List.length_cons, focusAt?, ih]
    rfl

@[simp] lemma length_updateFirst (p : α → Bool) (f : α → α) (l : List α) :
    (updateFirst p f l).length = l.length := by
  induction l with
  | nil => rfl
  | cons a as ih =>
    simp only [updateFirst]
    split <;> simp [ih]

/-- An element of the updated list was there before, or is the update of the
first element with `p`. -/
lemma mem_updateFirst {p : α → Bool} {f : α → α} {l : List α} {b : α}
    (h : b ∈ updateFirst p f l) : b ∈ l ∨ ∃ a ∈ l, p a = true ∧ b = f a := by
  induction l with
  | nil => exact absurd h (by simp [updateFirst])
  | cons a as ih =>
    simp only [updateFirst] at h
    split at h
    · next hp =>
      rcases List.mem_cons.mp h with rfl | hb
      · exact .inr ⟨a, by simp, hp, rfl⟩
      · exact .inl (by simp [hb])
    · rcases List.mem_cons.mp h with rfl | hb
      · exact .inl (by simp)
      · rcases ih hb with hb | ⟨c, hc, hp, rfl⟩
        · exact .inl (by simp [hb])
        · exact .inr ⟨c, by simp [hc], hp, rfl⟩

/-- Updating commutes with a map that keeps `p` and carries one update to the
other. -/
lemma map_updateFirst {β : Type*} {p : α → Bool} {q : β → Bool} {f : α → α} {g : β → β} {m : α → β}
    (hp : ∀ a, q (m a) = p a) (hf : ∀ a, m (f a) = g (m a)) (l : List α) :
    (updateFirst p f l).map m = updateFirst q g (l.map m) := by
  induction l with
  | nil => rfl
  | cons a as ih =>
    simp only [updateFirst, List.map_cons, hp]
    split <;> simp [hf, ih]

/-- What is found in a list whose keys differ is its element with that key. -/
lemma find?_key_eq_some {κ : Type*} [DecidableEq κ] {key : α → κ} {l : List α}
    (hnodup : (l.map key).Nodup) {k : κ} {a : α} :
    l.find? (fun b => key b == k) = some a ↔ a ∈ l ∧ key a = k := by
  constructor
  · intro h
    exact ⟨List.mem_of_find?_eq_some h, by simpa using List.find?_some h⟩
  · rintro ⟨ha, rfl⟩
    cases hfound : l.find? (fun b => key b == key a) with
    | none =>
      have := List.find?_eq_none.mp hfound a ha
      simp at this
    | some b =>
      have hb : b ∈ l := List.mem_of_find?_eq_some hfound
      have hkey : key b = key a := by simpa using List.find?_some hfound
      rw [List.inj_on_of_nodup_map hnodup hb ha hkey]

/-- Nothing is found exactly when no element has the key. -/
lemma find?_key_eq_none {κ : Type*} [DecidableEq κ] {key : α → κ} {l : List α} {k : κ} :
    l.find? (fun b => key b == k) = none ↔ ∀ a ∈ l, key a ≠ k := by
  simp [List.find?_eq_none]

/-- An update that keeps the keys of the elements keeps the list of the keys. -/
lemma map_key_updateFirst {κ : Type*} {key : α → κ} {p : α → Bool} {f : α → α}
    (hf : ∀ a, p a = true → key (f a) = key a) (l : List α) :
    (updateFirst p f l).map key = l.map key := by
  induction l with
  | nil => rfl
  | cons a as ih =>
    simp only [updateFirst]
    split
    · next hp => simp [hf a hp]
    · simp [ih]

/-- What is found after the first element with a key was updated. -/
lemma find?_updateFirst_key {κ : Type*} [DecidableEq κ] {key : α → κ} {k : κ} {f : α → α}
    (hf : ∀ a, key a = k → key (f a) = k) (l : List α) (k' : κ) :
    (updateFirst (fun a => key a == k) f l).find? (fun a => key a == k')
      = if k' = k then (l.find? fun a => key a == k).map f else l.find? fun a => key a == k' := by
  induction l with
  | nil => simp [updateFirst]
  | cons a as ih =>
    by_cases hk : key a = k
    · have hupdated : updateFirst (fun a => key a == k) f (a :: as) = f a :: as := by
        simp [updateFirst, hk]
      rw [hupdated]
      by_cases hk' : k' = k
      · simp [hk', hk, hf a hk]
      · have hfa : (key (f a) == k') = false := by simpa [hf a hk] using Ne.symm hk'
        have ha : (key a == k') = false := by simpa [hk] using Ne.symm hk'
        rw [if_neg hk', List.find?_cons, List.find?_cons, hfa, ha]
    · have hkept : updateFirst (fun a => key a == k) f (a :: as)
          = a :: updateFirst (fun a => key a == k) f as := by
        simp [updateFirst, hk]
      rw [hkept, List.find?_cons, List.find?_cons, ih]
      by_cases hk' : k' = k
      · have ha : (key a == k) = false := by simpa using hk
        simp [hk', ha]
      · rw [if_neg hk', if_neg hk', List.find?_cons]

/-- Updating the element with a key, where keys differ, updates what is found
under that key and nothing else. -/
lemma mem_updateFirst_key {κ : Type*} [DecidableEq κ] {key : α → κ} {l : List α}
    (hnodup : (l.map key).Nodup) {p : α → Bool} {f : α → α} {a : α} (ha : a ∈ l) (hp : p a = true)
    (hkey : ∀ b, p b = true → key b = key a) {b : α} :
    b ∈ updateFirst p f l ↔ b = f a ∨ b ∈ l ∧ key b ≠ key a := by
  induction l with
  | nil => simp at ha
  | cons c cs ih =>
    rw [List.map_cons, List.nodup_cons] at hnodup
    obtain ⟨hfresh, hnodup⟩ := hnodup
    have hne : ∀ d ∈ cs, key d ≠ key c := fun d hd h => hfresh (h ▸ List.mem_map_of_mem hd)
    by_cases hpc : p c = true
    · have hac : a = c := by
        rcases List.mem_cons.mp ha with rfl | ha
        · rfl
        · exact absurd (hkey c hpc).symm (hne a ha)
      subst hac
      simp only [updateFirst, hp, if_true, List.mem_cons]
      constructor
      · rintro (rfl | hb)
        · exact .inl rfl
        · exact .inr ⟨.inr hb, hne b hb⟩
      · rintro (rfl | ⟨rfl | hb, hk⟩)
        · exact .inl rfl
        · exact absurd rfl hk
        · exact .inr hb
    · have hmem : a ∈ cs := by
        rcases List.mem_cons.mp ha with rfl | ha
        · exact absurd hp hpc
        · exact ha
      rw [updateFirst, if_neg hpc, List.mem_cons, List.mem_cons, ih hnodup hmem]
      constructor
      · rintro (rfl | rfl | ⟨hb, hk⟩)
        · exact .inr ⟨.inl rfl, (hne a hmem).symm⟩
        · exact .inl rfl
        · exact .inr ⟨.inr hb, hk⟩
      · rintro (rfl | ⟨rfl | hb, hk⟩)
        · exact .inr (.inl rfl)
        · exact .inl rfl
        · exact .inr (.inr ⟨hb, hk⟩)

/-! ### Lists in step -/

lemma exists_of_mem_right {α β : Type} {R : α → β → Prop} {as : List α} {bs : List β}
    (h : List.Forall₂ R as bs) {b : β} (hb : b ∈ bs) : ∃ a ∈ as, R a b := by
  induction h with
  | nil => cases hb
  | cons hab _ ih =>
    rcases List.mem_cons.mp hb with rfl | hrest
    · exact ⟨_, List.mem_cons_self, hab⟩
    · obtain ⟨a, ha, hR⟩ := ih hrest
      exact ⟨a, List.mem_cons_of_mem _ ha, hR⟩

/-- A partial function on a list, value by value. -/
lemma mapM_eq_some_iff {α β : Type} {f : α → Option β} {as : List α} {bs : List β} :
    as.mapM f = some bs ↔ List.Forall₂ (fun a b => f a = some b) as bs := by
  induction as generalizing bs with
  | nil =>
    rw [List.mapM_nil, List.forall₂_nil_left_iff]
    exact ⟨fun h => (Option.some.inj h).symm, fun h => congrArg some h.symm⟩
  | cons a as ih =>
    rw [List.mapM_cons]
    constructor
    · intro h
      obtain ⟨b, hb, h⟩ := Option.bind_eq_some_iff.mp h
      obtain ⟨bs', hbs, h⟩ := Option.bind_eq_some_iff.mp h
      obtain rfl := Option.some.inj h
      exact .cons hb (ih.mp hbs)
    · rintro (_ | ⟨hb, hbs⟩)
      rw [hb, ih.mpr hbs]
      rfl

/-- A partial function that is defined on a list. -/
lemma exists_mapM_eq_some {α β : Type} {f : α → Option β} {as : List α}
    (h : ∀ a ∈ as, ∃ b, f a = some b) : ∃ bs, as.mapM f = some bs := by
  induction as with
  | nil => exact ⟨[], rfl⟩
  | cons a as ih =>
    obtain ⟨⟨b, hb⟩, hrest⟩ := List.forall_mem_cons.mp h
    obtain ⟨bs, hbs⟩ := ih hrest
    exact ⟨b :: bs, mapM_eq_some_iff.mpr (.cons hb (mapM_eq_some_iff.mp hbs))⟩

lemma forall₂_trans {R : α → α → Prop} [IsTrans α R] {as bs cs : List α}
    (h : List.Forall₂ R as bs) (h' : List.Forall₂ R bs cs) : List.Forall₂ R as cs := by
  induction h generalizing cs with
  | nil => exact h'
  | cons hab _ ih =>
    cases h' with
    | cons hbc hrest => exact .cons (IsTrans.trans _ _ _ hab hbc) (ih hrest)

/-- What is found in a list is found in one in step, with a property that the step keeps. -/
lemma focusFirst?_of_forall₂ {α β : Type} {R : α → β → Prop} {p : α → Bool} {q : β → Bool}
    (hR : ∀ a b, R a b → q b = p a) {as : List α} {bs : List β} (h : List.Forall₂ R as bs)
    {z : Focus α} (hz : focusFirst? p as = some z) :
    ∃ y, focusFirst? q bs = some y ∧ R z.current y.current := by
  induction h generalizing z with
  | nil => cases hz
  | @cons a b as bs hab _ ih =>
    rw [focusFirst?] at hz ⊢
    rw [hR a b hab]
    split_ifs at hz ⊢
    · exact ⟨_, rfl, Option.some.inj hz ▸ hab⟩
    · obtain ⟨rest, hrest, rfl⟩ := Option.map_eq_some_iff.mp hz
      obtain ⟨y, hy, hR⟩ := ih hrest
      exact ⟨{ y with before := b :: y.before }, by rw [hy]; rfl, hR⟩

lemma exists_of_mem_left {α β : Type} {R : α → β → Prop} {as : List α} {bs : List β}
    (h : List.Forall₂ R as bs) {a : α} (ha : a ∈ as) : ∃ b ∈ bs, R a b :=
  exists_of_mem_right h.flip ha

end Library

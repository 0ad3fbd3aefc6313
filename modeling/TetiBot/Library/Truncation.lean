import Mathlib.Data.List.TakeDrop
import TetiBot.Library.JsonText

/-
What a string cut to a number of bytes keeps.

* `le_bisectPrefix`: bisection finds the longest prefix that fits.
* `LongestPrefix`: the longest prefix of whole characters that fits; there is one, and both
  bisection and appending character by character find it (`truncateUtf8_longest`,
  `appendFitting_longest`).
* `truncateUtf8_append`: what fits, and does not end within a character, is kept whole.
* `WellFormed`: no surrogate is unpaired; `WellFormed.truncateUtf8`: no character is cut.
-/

namespace Library

namespace JsString

/-! ### Prefixes -/

/-- A string that is longer takes at least as many bytes. -/
lemma utf8Size_le_append (s t : JsString) : utf8Size s ≤ utf8Size (s ++ t) := by
  induction s using characters.induct with
  | case1 => simp [utf8Size]
  | case2 u =>
    cases t with
    | nil => simp
    | cons v t =>
      have hunit : unitSize u ≤ 3 := by
        rw [unitSize]
        split_ifs <;> omega
      simp only [List.singleton_append, utf8Size]
      split_ifs <;> omega
  | case3 u v s hpair ih =>
    simp only [List.cons_append, utf8Size, hpair, if_true]
    omega
  | case4 u v s hpair ih =>
    simp only [List.cons_append, utf8Size, hpair, Bool.false_eq_true, if_false] at ih ⊢
    omega

variable {s t : JsString}

lemma utf8Size_le_of_isPrefix (h : s <+: t) : utf8Size s ≤ utf8Size t := by
  obtain ⟨rest, rfl⟩ := h
  exact utf8Size_le_append s rest

variable (chars : List JsString)

lemma prefixOf_isPrefix {n m : Nat} (h : n ≤ m) : prefixOf chars n <+: prefixOf chars m := by
  obtain ⟨rest, hrest⟩ := List.take_prefix_take_left h (l := chars)
  refine ⟨rest.flatten, ?_⟩
  rw [prefixOf, prefixOf, ← List.flatten_append, hrest]

lemma prefixOf_append_length (chars others : List JsString) {n : Nat} (h : n = chars.length) :
    prefixOf (chars ++ others) n = chars.flatten := by
  rw [prefixOf, h, List.take_left]

lemma flatten_characters (s : JsString) : (characters s).flatten = s := by
  induction s using characters.induct with
  | case1 => rfl
  | case2 u => rfl
  | case3 u v s hpair ih => simp [characters, hpair, ih]
  | case4 u v s hpair ih => simp [characters, hpair, ih]

/-- A string that does not end within a character of the whole. -/
lemma characters_append (s : JsString) (h : ∀ v ∈ t.head?, isLow v = false) :
    characters (s ++ t) = characters s ++ characters t := by
  induction s using characters.induct with
  | case1 => rfl
  | case2 u =>
    cases t with
    | nil => rfl
    | cons v t => simp [characters, h v rfl]
  | case3 u v s hpair ih => simp [characters, hpair, ih]
  | case4 u v s hpair ih =>
    rw [List.cons_append] at ih
    simp [characters, hpair, ih]

/-! ### Bisection -/

variable {maximumBytes : Nat}

/-- **Bisection finds the longest prefix that fits.** -/
theorem le_bisectPrefix {chars : List JsString} {n low high : Nat} (hn : n ≤ high)
    (hfits : utf8Size (prefixOf chars n) ≤ maximumBytes) :
    n ≤ bisectPrefix chars maximumBytes low high := by
  induction low, high using bisectPrefix.induct chars maximumBytes with
  | case1 low high hlt middle hmiddle ih =>
    rw [bisectPrefix, if_pos hlt, if_pos hmiddle]
    exact ih hn
  | case2 low high hlt middle hmiddle ih =>
    rw [bisectPrefix, if_pos hlt, if_neg hmiddle]
    refine ih ?_
    by_contra hlarge
    exact hmiddle ((utf8Size_le_of_isPrefix (prefixOf_isPrefix chars (by omega))).trans hfits)
  | case3 low high hlt =>
    rw [bisectPrefix, if_neg hlt]
    omega

/-- **What fits is kept**: a string that does not end within a character. -/
theorem truncateUtf8_append (h : ∀ v ∈ t.head?, isLow v = false) (hfits : utf8Size s ≤ maximumBytes) :
    s <+: truncateUtf8 (s ++ t) maximumBytes := by
  rw [truncateUtf8]
  split_ifs with hwhole
  · exact List.prefix_append s t
  · have hs : prefixOf (characters (s ++ t)) (characters s).length = s := by
      rw [characters_append s h, prefixOf_append_length _ _ rfl, flatten_characters]
    have hkept : (characters s).length
        ≤ bisectPrefix (characters (s ++ t)) maximumBytes 0 (characters (s ++ t)).length := by
      refine le_bisectPrefix ?_ (by rwa [hs])
      rw [characters_append s h, List.length_append]
      omega
    have hprefix := prefixOf_isPrefix (characters (s ++ t)) hkept
    rwa [hs] at hprefix

lemma truncateUtf8_isPrefix (value : JsString) (maximumBytes : Nat) :
    truncateUtf8 value maximumBytes <+: value := by
  rw [truncateUtf8]
  split_ifs
  · exact List.prefix_refl value
  · obtain ⟨rest, hrest⟩ := List.take_prefix
      (bisectPrefix (characters value) maximumBytes 0 (characters value).length) (characters value)
    refine ⟨rest.flatten, ?_⟩
    rw [prefixOf, ← List.flatten_append, hrest, flatten_characters]

/-- Nothing of a string is kept beyond a part that does not fit. -/
lemma truncateUtf8_isPrefix_of_lt {value : JsString} (hs : s <+: value)
    (hlarge : maximumBytes < utf8Size s) : truncateUtf8 value maximumBytes <+: s := by
  rcases List.prefix_or_prefix_of_prefix (truncateUtf8_isPrefix value maximumBytes) hs with h | h
  · exact h
  · have hsize := utf8Size_le_of_isPrefix h
    have hfits := utf8Size_truncateUtf8_le value maximumBytes
    omega

/-- A string that is kept whole fits. -/
theorem utf8Size_of_prefix_truncateUtf8 {value : JsString}
    (h : s <+: truncateUtf8 value maximumBytes) : utf8Size s ≤ maximumBytes :=
  (utf8Size_le_of_isPrefix h).trans (utf8Size_truncateUtf8_le value maximumBytes)

/-! ### The longest prefix -/

/-- Append characters as long as the result fits. -/
def appendFitting (maximumBytes : Nat) (result : JsString) : List JsString → JsString
  | [] => result
  | character :: rest =>
    let next := result ++ character
    if maximumBytes < utf8Size next then result else appendFitting maximumBytes next rest

/-- The longest string of first characters that fits. -/
structure LongestPrefix (chars : List JsString) (maximumBytes : Nat) (kept : JsString) : Prop where
  whole : ∃ n, kept = prefixOf chars n
  fits : utf8Size kept ≤ maximumBytes
  longest : ∀ n, utf8Size (prefixOf chars n) ≤ maximumBytes → prefixOf chars n <+: kept

lemma prefixOf_isPrefix_flatten (n : Nat) : prefixOf chars n <+: chars.flatten := by
  refine ⟨(chars.drop n).flatten, ?_⟩
  rw [prefixOf, ← List.flatten_append, List.take_append_drop]

lemma prefixOf_length : prefixOf chars chars.length = chars.flatten := by
  rw [prefixOf, List.take_length]

lemma LongestPrefix.unique {chars : List JsString} {kept other : JsString}
    (h : LongestPrefix chars maximumBytes kept) (h' : LongestPrefix chars maximumBytes other) :
    kept = other := by
  obtain ⟨n, hn⟩ := h.whole
  obtain ⟨m, hm⟩ := h'.whole
  have hle : kept <+: other := hn ▸ h'.longest n (hn ▸ h.fits)
  have hge : other <+: kept := hm ▸ h.longest m (hm ▸ h'.fits)
  exact hle.eq_of_length (le_antisymm hle.length_le hge.length_le)

/-- **Bisection finds the longest prefix.** -/
theorem truncateUtf8_longest (value : JsString) (maximumBytes : Nat) :
    LongestPrefix (characters value) maximumBytes (truncateUtf8 value maximumBytes) := by
  refine ⟨?_, utf8Size_truncateUtf8_le value maximumBytes, fun n hfits => ?_⟩
  · rw [truncateUtf8]
    split_ifs
    · exact ⟨_, ((prefixOf_length _).trans (flatten_characters value)).symm⟩
    · exact ⟨_, rfl⟩
  · rw [truncateUtf8]
    split_ifs
    · have hwhole := prefixOf_isPrefix_flatten (characters value) n
      rwa [flatten_characters] at hwhole
    · rcases le_total n (characters value).length with hn | hn
      · exact prefixOf_isPrefix _ (le_bisectPrefix hn hfits)
      · -- more characters than there are
        have hall : prefixOf (characters value) n
            = prefixOf (characters value) (characters value).length := by
          rw [prefixOf, prefixOf, List.take_of_length_le hn, List.take_length]
        rw [hall] at hfits ⊢
        exact prefixOf_isPrefix _ (le_bisectPrefix le_rfl hfits)

/-- **Appending what fits finds the longest prefix.**  `before` are the characters that were
appended already. -/
theorem appendFitting_longest (before : List JsString) (rest : List JsString)
    (hfits : utf8Size before.flatten ≤ maximumBytes) :
    LongestPrefix (before ++ rest) maximumBytes
      (appendFitting maximumBytes before.flatten rest) := by
  induction rest generalizing before with
  | nil =>
    rw [List.append_nil, appendFitting]
    exact ⟨⟨_, (prefixOf_length before).symm⟩, hfits, fun n _ => prefixOf_isPrefix_flatten before n⟩
  | cons character rest ih =>
    have hnext : before.flatten ++ character = (before ++ [character]).flatten := by simp
    have hsplit : before ++ character :: rest = (before ++ [character]) ++ rest := by simp
    rw [appendFitting]
    split_ifs with hlarge
    · refine ⟨⟨before.length, (prefixOf_append_length _ _ rfl).symm⟩, hfits, fun n hn => ?_⟩
      rcases Nat.lt_or_ge before.length n with hlt | hle
      · -- the character that does not fit is among the first `n`
        have hmore := prefixOf_isPrefix (before ++ character :: rest) (Nat.succ_le_of_lt hlt)
        rw [hsplit, prefixOf_append_length _ _ (by simp), ← hsplit, ← hnext] at hmore
        have hsize := utf8Size_le_of_isPrefix hmore
        omega
      · rw [← prefixOf_append_length before (character :: rest) rfl]
        exact prefixOf_isPrefix _ hle
    · rw [hsplit, hnext]
      rw [hnext, not_lt] at hlarge
      exact ih _ hlarge

/-! ### Characters that are not cut -/

lemma not_isLow_of_isHigh {u : UInt16} (h : isHigh u = true) : ¬isLow u = true := by
  rw [isHigh_iff] at h
  rw [isLow_iff]
  omega

/-- **The two halves of a pair are both among the first characters, or neither is.** -/
theorem prefixOf_ne_half {before rest : JsString} {u v : UInt16} (hu : isHigh u = true)
    (hv : isLow v = true) (n : Nat) :
    prefixOf (characters (before ++ u :: v :: rest)) n ≠ before ++ [u] := by
  intro hcut
  have hhead : ∀ w ∈ (u :: v :: rest).head?, isLow w = false := by
    intro w hw
    obtain rfl : u = w := Option.some.inj hw
    exact Bool.eq_false_iff.mpr (not_isLow_of_isHigh hu)
  have hchars : characters (before ++ u :: v :: rest)
      = (characters before ++ [[u, v]]) ++ characters rest := by
    rw [characters_append before hhead]
    simp [characters, hu, hv]
  rw [hchars] at hcut
  rcases Nat.lt_or_ge (characters before).length n with hlt | hle
  · have hboth : prefixOf ((characters before ++ [[u, v]]) ++ characters rest)
        ((characters before).length + 1) = before ++ [u, v] := by
      rw [prefixOf_append_length _ _ (by simp), List.flatten_append, flatten_characters]
      rfl
    have hmore := (prefixOf_isPrefix ((characters before ++ [[u, v]]) ++ characters rest)
      (Nat.succ_le_of_lt hlt)).length_le
    rw [Nat.succ_eq_add_one, hboth, hcut] at hmore
    simp at hmore
  · have hnone : prefixOf ((characters before ++ [[u, v]]) ++ characters rest)
        (characters before).length = before := by
      rw [List.append_assoc, prefixOf_append_length _ _ rfl, flatten_characters]
    have hless := (prefixOf_isPrefix ((characters before ++ [[u, v]]) ++ characters rest)
      hle).length_le
    rw [hnone, hcut] at hless
    simp at hless

/-- The first character is a code unit or a pair. -/
lemma isSome_toChars?_cons {u : UInt16} (h : (toChars? (u :: s)).isSome = true) :
    (¬isHigh u = true ∧ ¬isLow u = true ∧ (toChars? s).isSome = true)
      ∨ ∃ v rest, s = v :: rest ∧ isHigh u = true ∧ isLow v = true ∧ (toChars? rest).isSome = true := by
  by_cases hhigh : isHigh u = true
  · cases s with
    | nil =>
      rw [toChars?.eq_def] at h
      simp [hhigh] at h
    | cons v rest =>
      by_cases hlow : isLow v = true
      · rw [toChars?_cons_pair hhigh hlow, Option.isSome_map] at h
        exact .inr ⟨v, rest, rfl, hhigh, hlow, h⟩
      · rw [toChars?.eq_def] at h
        simp [hhigh, hlow] at h
  · by_cases hlow : isLow u = true
    · rw [toChars?.eq_def] at h
      simp [hhigh, hlow] at h
    · rw [toChars?_cons_single hhigh hlow, Option.isSome_map] at h
      exact .inl ⟨hhigh, hlow, h⟩

/-- Some characters of a string without unpaired surrogates. -/
lemma isSome_toChars?_prefixOf (h : (toChars? s).isSome = true) (n : Nat) :
    (toChars? (prefixOf (characters s) n)).isSome = true := by
  induction s using characters.induct generalizing n with
  | case1 => simp [characters, prefixOf, toChars?]
  | case2 u =>
    cases n with
    | zero => simp [prefixOf, toChars?]
    | succ n => simpa [characters, prefixOf] using h
  | case3 u v s hpair ih =>
    cases n with
    | zero => simp [prefixOf, toChars?]
    | succ n =>
      obtain ⟨hhigh, hlow⟩ := Bool.and_eq_true_iff.mp hpair
      rw [toChars?_cons_pair hhigh hlow, Option.isSome_map] at h
      have hrest := ih h n
      simp only [characters, hpair, if_true, prefixOf, List.take_succ_cons, List.flatten_cons]
      rw [List.cons_append, List.cons_append, List.nil_append, toChars?_cons_pair hhigh hlow,
        Option.isSome_map]
      exact hrest
  | case4 u v s hpair ih =>
    cases n with
    | zero => simp [prefixOf, toChars?]
    | succ n =>
      rcases isSome_toChars?_cons h with ⟨hhigh, hlow, hsome⟩ | ⟨v', rest, hs, hhigh, hlow, -⟩
      · have hrest := ih hsome n
        simp only [characters, hpair, Bool.false_eq_true, if_false, prefixOf,
          List.take_succ_cons, List.flatten_cons]
        rw [List.singleton_append, toChars?_cons_single hhigh hlow, Option.isSome_map]
        exact hrest
      · obtain ⟨rfl, -⟩ := List.cons.inj hs
        exact absurd (Bool.and_eq_true_iff.mpr ⟨hhigh, hlow⟩) hpair

lemma isSome_toChars?_append (hs : (toChars? s).isSome = true) (ht : (toChars? t).isSome = true) :
    (toChars? (s ++ t)).isSome = true := by
  induction s using characters.induct with
  | case1 => exact ht
  | case2 u =>
    rcases isSome_toChars?_cons hs with ⟨hhigh, hlow, -⟩ | ⟨v, rest, hnil, -⟩
    · rw [List.singleton_append, toChars?_cons_single hhigh hlow, Option.isSome_map]
      exact ht
    · cases hnil
  | case3 u v s hpair ih =>
    obtain ⟨hhigh, hlow⟩ := Bool.and_eq_true_iff.mp hpair
    rw [toChars?_cons_pair hhigh hlow, Option.isSome_map] at hs
    rw [List.cons_append, List.cons_append, toChars?_cons_pair hhigh hlow, Option.isSome_map]
    exact ih hs
  | case4 u v s hpair ih =>
    rcases isSome_toChars?_cons hs with ⟨hhigh, hlow, hsome⟩ | ⟨v', rest, hcons, hhigh, hlow, -⟩
    · rw [List.cons_append, toChars?_cons_single hhigh hlow, Option.isSome_map]
      exact ih hsome
    · obtain ⟨rfl, -⟩ := List.cons.inj hcons
      exact absurd (Bool.and_eq_true_iff.mpr ⟨hhigh, hlow⟩) hpair

/-! ### Well-formed strings -/

/-- Each surrogate is paired. -/
def WellFormed (s : JsString) : Prop := (toString? s).isSome = true

instance (s : JsString) : Decidable (WellFormed s) := inferInstanceAs (Decidable (_ = true))

lemma wellFormed_iff : WellFormed s ↔ (toChars? s).isSome = true := by
  rw [WellFormed, toString?, Option.isSome_map]

lemma wellFormed_nil : WellFormed [] := by
  rw [WellFormed, toString?, toChars?]
  rfl

lemma wellFormed_ofString (s : String) : WellFormed (ofString s) := by
  rw [WellFormed, toString?_ofString]
  rfl

lemma WellFormed.append (hs : WellFormed s) (ht : WellFormed t) : WellFormed (s ++ t) :=
  wellFormed_iff.mpr (isSome_toChars?_append (wellFormed_iff.mp hs) (wellFormed_iff.mp ht))

lemma WellFormed.join {separator : JsString} (hseparator : WellFormed separator)
    {strings : List JsString} (h : ∀ s ∈ strings, WellFormed s) :
    WellFormed (JsString.join separator strings) := by
  induction strings with
  | nil => exact wellFormed_nil
  | cons first rest ih =>
    obtain ⟨hfirst, hrest⟩ := List.forall_mem_cons.mp h
    cases rest with
    | nil => exact hfirst
    | cons second rest => exact (hfirst.append hseparator).append (ih hrest)

/-- **No character is cut.** -/
theorem WellFormed.truncateUtf8 (h : WellFormed s) (maximumBytes : Nat) :
    WellFormed (JsString.truncateUtf8 s maximumBytes) := by
  rw [JsString.truncateUtf8]
  split_ifs
  · exact h
  · exact wellFormed_iff.mpr (isSome_toChars?_prefixOf (wellFormed_iff.mp h) _)

end JsString

end Library

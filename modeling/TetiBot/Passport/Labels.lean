import TetiBot.Passport.Protocol
import TetiBot.Passport.Projection

/-
The texts of a projected passport, as the contract reads them.

* `isLabel`: printable ASCII that does not begin with a space.
* `slug_text`, `safeLabel_text`: the contract takes slugs and labels of the right lengths.
* `humanize_label`: the name that is made of a slug is a label, and no longer than the slug.
-/

namespace TetiBot.Passport

open Library Library.Json

/-! ### Labels -/

def isPrintable (c : Char) : Bool := 0x20 ≤ c.toNat && c.toNat ≤ 0x7E

def isLabel (s : String) : Bool :=
  s.toList.all isPrintable && s.toList.head?.any fun c => c ≠ ' '

variable {c : Char}

lemma ofChar_printable (h : isPrintable c = true) :
    ∃ u, JsString.ofChar c = [u] ∧ u.toNat = c.toNat := by
  rw [isPrintable, Bool.and_eq_true, decide_eq_true_eq, decide_eq_true_eq] at h
  have hnat : c.val.toNat = c.toNat := rfl
  have hsmall : c.val < 0x10000 := by
    rw [UInt32.lt_iff_toNat_lt, hnat]
    exact lt_of_le_of_lt h.2 (by decide)
  refine ⟨c.val.toUInt16, by rw [JsString.ofChar, if_pos hsmall], ?_⟩
  rw [UInt32.toNat_toUInt16, hnat]
  omega

/-- Printable characters are one code unit each, and none of these is a control. -/
lemma units_printable {cs : List Char} (h : ∀ c ∈ cs, isPrintable c = true) :
    (cs.flatMap JsString.ofChar).length = cs.length
      ∧ ∀ u ∈ cs.flatMap JsString.ofChar, isControl u = false := by
  induction cs with
  | nil => exact ⟨rfl, by simp⟩
  | cons c cs ih =>
    obtain ⟨hc, hcs⟩ := List.forall_mem_cons.mp h
    obtain ⟨hlength, hcontrol⟩ := ih hcs
    obtain ⟨u, hu, hnat⟩ := ofChar_printable hc
    rw [isPrintable, Bool.and_eq_true, decide_eq_true_eq, decide_eq_true_eq, ← hnat] at hc
    rw [List.flatMap_cons, hu, List.singleton_append, List.length_cons, hlength, List.length_cons,
      List.forall_mem_cons]
    refine ⟨rfl, ?_, hcontrol⟩
    have hlow : ¬u < 0x20 := by
      rw [UInt16.lt_iff_toNat_lt]
      exact not_lt.mpr hc.1
    have hdelete : u ≠ 0x7F := by
      rintro rfl
      exact absurd hc.2 (by decide)
    simp [isControl, hlow, hdelete]

lemma isSpace_printable {u : UInt16} (hlow : 0x21 ≤ u.toNat) (hhigh : u.toNat ≤ 0x7E) :
    JsString.isSpace u = false := by
  obtain ⟨k, hk, rfl⟩ : ∃ k, (0x21 ≤ k ∧ k ≤ 0x7E) ∧ u = UInt16.ofNat k :=
    ⟨u.toNat, ⟨hlow, hhigh⟩, (UInt16.ofNat_toNat).symm⟩
  clear hlow hhigh
  obtain ⟨hlow, hhigh⟩ := hk
  interval_cases k <;> rfl

variable {s : String}

lemma isBlank_label (h : isLabel s = true) : JsString.isBlank (JsString.ofString s) = false := by
  rw [isLabel, Bool.and_eq_true, List.all_eq_true] at h
  obtain ⟨hprintable, hhead⟩ := h
  cases hs : s.toList with
  | nil => simp [hs] at hhead
  | cons c cs =>
    have hc : c ≠ ' ' := by simpa [hs] using hhead
    have hprint := hprintable c (by simp [hs])
    obtain ⟨u, hu, hnat⟩ := ofChar_printable hprint
    rw [isPrintable, Bool.and_eq_true, decide_eq_true_eq, decide_eq_true_eq] at hprint
    have hspace : c.toNat ≠ 0x20 := fun h => hc (Char.toNat_inj.mp h)
    refine JsString.isBlank_of_head (u := u) ?_ (isSpace_printable (by omega) (by omega))
    rw [JsString.ofString, hs, List.flatMap_cons, hu]
    rfl

/-- **The contract takes labels.** -/
lemma safeLabel_text {label : String} {maximum : Nat} (h : isLabel s = true)
    (hlength : s.length ≤ maximum) : safeLabel (some (text s)) label maximum = .ok () := by
  have hprintable : ∀ c ∈ s.toList, isPrintable c = true := by
    rw [isLabel, Bool.and_eq_true, List.all_eq_true] at h
    exact h.1
  obtain ⟨hunits, hcontrol⟩ := units_printable hprintable
  have hshort : shortString (some (text s)) label maximum = .ok (JsString.ofString s) := by
    rw [text, shortString, isBlank_label h, Bool.false_or, if_neg]
    rw [decide_eq_true_eq, not_lt, JsString.ofString, hunits, String.length_toList]
    exact hlength
  rw [safeLabel, hshort, except_ok_bind, rejectWhen_eq_ok, List.any_eq_false]
  exact fun u hu => by simp [hcontrol u hu]

/-! ### Slugs -/

lemma slugFrom_chars {after : Bool} {cs : List Char} (h : slugFrom after cs = true) :
    ∀ c ∈ cs, isSlugCharacter c = true ∨ isSeparator c = true := by
  induction cs generalizing after with
  | nil => simp
  | cons c cs ih =>
    rw [slugFrom] at h
    split_ifs at h with hc
    · exact List.forall_mem_cons.mpr ⟨.inl hc, ih h⟩
    · rw [Bool.and_eq_true, Bool.and_eq_true] at h
      exact List.forall_mem_cons.mpr ⟨.inr h.1.2, ih h.2⟩

/-- A slug begins with a letter or a digit. -/
lemma slug_cons (h : safeSlugPattern s = true) :
    ∃ c cs, s.toList = c :: cs ∧ isSlugCharacter c = true := by
  rw [safeSlugPattern] at h
  cases hs : s.toList with
  | nil => simp [hs, slugFrom] at h
  | cons c cs =>
    rw [hs, slugFrom] at h
    split_ifs at h with hc
    · exact ⟨c, cs, rfl, hc⟩
    · simp at h

lemma slugCharacter_toNat (h : isSlugCharacter c = true) :
    (0x30 ≤ c.toNat ∧ c.toNat ≤ 0x39) ∨ (0x61 ≤ c.toNat ∧ c.toNat ≤ 0x7A) := by
  simp only [isSlugCharacter, Bool.or_eq_true, Bool.and_eq_true, decide_eq_true_eq, Char.le_def,
    UInt32.le_iff_toNat_le] at h
  exact h.symm

lemma isPrintable_slug (h : isSlugCharacter c = true ∨ isSeparator c = true) :
    isPrintable c = true := by
  rcases h with h | h
  · have hnat := slugCharacter_toNat h
    rw [isPrintable, Bool.and_eq_true, decide_eq_true_eq, decide_eq_true_eq]
    omega
  · simp only [isSeparator, Bool.or_eq_true, beq_iff_eq] at h
    obtain (rfl | rfl) | rfl := h <;> decide

lemma isLabel_slug (h : safeSlugPattern s = true) : isLabel s = true := by
  obtain ⟨c, cs, hs, hc⟩ := slug_cons h
  rw [isLabel, Bool.and_eq_true, List.all_eq_true]
  refine ⟨fun d hd => isPrintable_slug (slugFrom_chars h d hd), ?_⟩
  rw [hs, List.head?_cons, Option.any_some]
  have hnat := slugCharacter_toNat hc
  simp only [ne_eq, decide_not, Bool.not_eq_true', decide_eq_false_iff_not]
  rintro rfl
  revert hnat
  decide

/-- **The contract takes slugs.** -/
lemma slug_text {label : String} {maximum : Nat} (h : safeSlugPattern s = true)
    (hlength : s.length ≤ maximum) : slug (some (text s)) label maximum = .ok () := by
  have hlabel : safeLabel (some (text s)) label maximum = .ok () :=
    safeLabel_text (isLabel_slug h) hlength
  rw [safeLabel, except_bind_eq_ok] at hlabel
  obtain ⟨units, hshort, -⟩ := hlabel
  have hunits : units = JsString.ofString s := by
    rw [text, shortString] at hshort
    split_ifs at hshort
    exact (Except.ok.inj hshort).symm
  rw [slug, hshort, except_ok_bind, rejectWhen_eq_ok, hunits, isShortKey, JsString.toString?_ofString,
    Option.any_some, h, Bool.not_true]

/-! ### Names that are made of slugs -/

lemma toUpper_slug (h : isSlugCharacter c = true) :
    isPrintable c.toUpper = true ∧ c.toUpper ≠ ' ' := by
  obtain ⟨k, hk, rfl⟩ : ∃ k, ((0x30 ≤ k ∧ k ≤ 0x39) ∨ (0x61 ≤ k ∧ k ≤ 0x7A)) ∧ c = Char.ofNat k :=
    ⟨c.toNat, slugCharacter_toNat h, (Char.ofNat_toNat c).symm⟩
  clear h
  obtain ⟨hlow, hhigh⟩ | ⟨hlow, hhigh⟩ := hk
  · interval_cases k <;> decide
  · interval_cases k <;> decide

/-- The words are what is left between the separators. -/
lemma words_splitOnP (cs : List Char) :
    ((cs.splitOnP isSeparator).map fun word => word.length + 1).sum = cs.length + 1
      ∧ ∀ word ∈ cs.splitOnP isSeparator, ∀ c ∈ word, c ∈ cs ∧ isSeparator c = false := by
  induction cs with
  | nil => simp
  | cons c cs ih =>
    obtain ⟨hsum, hwords⟩ := ih
    rw [List.splitOnP_cons_eq_if_modifyHead]
    cases hc : isSeparator c with
    | true =>
      rw [if_pos rfl, List.map_cons, List.sum_cons, hsum, List.forall_mem_cons]
      refine ⟨by simp [Nat.add_comm], by simp, fun word hword d hd => ?_⟩
      exact ⟨List.mem_cons_of_mem c (hwords word hword d hd).1, (hwords word hword d hd).2⟩
    | false =>
      obtain ⟨word, words, hsplit⟩ := List.exists_cons_of_ne_nil (List.splitOnP_ne_nil isSeparator cs)
      rw [hsplit] at hsum hwords ⊢
      rw [if_neg Bool.false_ne_true, List.modifyHead_cons]
      obtain ⟨hword, hrest⟩ := List.forall_mem_cons.mp hwords
      refine ⟨?_, List.forall_mem_cons.mpr ⟨List.forall_mem_cons.mpr ⟨⟨List.mem_cons_self, hc⟩, ?_⟩, ?_⟩⟩
      · simp only [List.map_cons, List.sum_cons, List.length_cons] at hsum ⊢
        omega
      · exact fun d hd => ⟨List.mem_cons_of_mem c (hword d hd).1, (hword d hd).2⟩
      · exact fun other hother d hd =>
          ⟨List.mem_cons_of_mem c (hrest other hother d hd).1, (hrest other hother d hd).2⟩

lemma joinWords_length (words : List (List Char)) :
    (joinWords words).length ≤ (words.map fun word => word.length + 1).sum - 1 := by
  induction words using joinWords.induct with
  | case1 => simp [joinWords]
  | case2 word => simp [joinWords]
  | case3 word words hwords ih =>
    have hpos : 0 < (words.map fun word => word.length + 1).sum := by
      obtain ⟨other, rest, rfl⟩ := List.exists_cons_of_ne_nil hwords
      simp only [List.map_cons, List.sum_cons]
      omega
    rw [joinWords, List.length_append, List.length_cons, List.map_cons, List.sum_cons]
    · omega
    · exact hwords

lemma mem_joinWords {words : List (List Char)} (h : c ∈ joinWords words) :
    c = ' ' ∨ ∃ word ∈ words, c ∈ word := by
  induction words using joinWords.induct with
  | case1 => simp [joinWords] at h
  | case2 word => exact .inr ⟨word, by simp, by simpa [joinWords] using h⟩
  | case3 word words hwords ih =>
    rw [joinWords, List.mem_append, List.mem_cons] at h
    · obtain hword | rfl | hrest := h
      · exact .inr ⟨word, by simp, hword⟩
      · exact .inl rfl
      · obtain hspace | ⟨other, hother, hc⟩ := ih hrest
        · exact .inl hspace
        · exact .inr ⟨other, List.mem_cons_of_mem word hother, hc⟩
    · exact hwords

lemma joinWords_cons (c : Char) (word : List Char) (words : List (List Char)) :
    ∃ rest, joinWords ((c :: word) :: words) = c :: rest := by
  cases words with
  | nil => exact ⟨word, rfl⟩
  | cons other words => exact ⟨word ++ ' ' :: joinWords (other :: words), rfl⟩

lemma isSeparator_slugCharacter (h : isSlugCharacter c = true) : isSeparator c = false := by
  by_contra hseparator
  rw [Bool.not_eq_false] at hseparator
  simp only [isSeparator, Bool.or_eq_true, beq_iff_eq] at hseparator
  obtain (rfl | rfl) | rfl := hseparator <;> exact absurd h (by decide)

lemma capitalize_length (word : List Char) : (capitalize word).length = word.length := by
  cases word <;> rfl

/-- The words of a name. -/
def nameWords (value : String) : List (List Char) :=
  ((value.toList.splitOnP isSeparator).filter (· ≠ [])).map capitalize

lemma nameWords_length (value : String) :
    ((nameWords value).map fun word => word.length + 1).sum ≤ value.length + 1 := by
  have hwords := (words_splitOnP value.toList).1
  rw [nameWords, List.map_map]
  have hlengths : ((fun word : List Char => word.length + 1) ∘ capitalize) = fun word => word.length + 1 := by
    funext word
    simp [capitalize_length]
  rw [hlengths, ← String.length_toList, ← hwords]
  exact List.Sublist.sum_le_sum (List.filter_sublist.map _) fun _ _ => Nat.zero_le _

lemma nameWords_printable {value : String} (h : safeSlugPattern value = true) :
    ∀ word ∈ nameWords value, ∀ c ∈ word, isPrintable c = true := by
  intro word hword c hc
  obtain ⟨lower, hlower, rfl⟩ := List.mem_map.mp hword
  have hslug : ∀ d ∈ lower, isSlugCharacter d = true := by
    intro d hd
    obtain ⟨hmem, hseparator⟩ := (words_splitOnP value.toList).2 lower (List.mem_of_mem_filter hlower) d hd
    exact (slugFrom_chars h d hmem).resolve_right (by simp [hseparator])
  cases lower with
  | nil => simp [capitalize] at hc
  | cons d lower =>
    rw [capitalize] at hc
    obtain ⟨hfirst, hrest⟩ := List.forall_mem_cons.mp hslug
    obtain rfl | hmem := List.mem_cons.mp hc
    · exact (toUpper_slug hfirst).1
    · exact isPrintable_slug (.inl (hrest c hmem))

/-- **The name that is made of a slug is a label.** -/
lemma humanize_label {value : String} (h : safeSlugPattern value = true) :
    isLabel (humanize value) = true ∧ (humanize value).length ≤ value.length := by
  have hchars : (humanize value).toList = joinWords (nameWords value) := by
    rw [humanize, String.toList_ofList]
    rfl
  constructor
  · rw [isLabel, hchars, Bool.and_eq_true, List.all_eq_true]
    constructor
    · intro c hc
      obtain rfl | ⟨word, hword, hmem⟩ := mem_joinWords hc
      · decide
      · exact nameWords_printable h word hword c hmem
    · obtain ⟨c, cs, hs, hc⟩ := slug_cons h
      obtain ⟨word, words, hsplit⟩ := List.exists_cons_of_ne_nil (List.splitOnP_ne_nil isSeparator cs)
      have hwords : nameWords value = (c.toUpper :: word) :: (words.filter (· ≠ [])).map capitalize := by
        rw [nameWords, hs, List.splitOnP_cons_eq_if_modifyHead, isSeparator_slugCharacter hc,
          if_neg Bool.false_ne_true, hsplit, List.modifyHead_cons]
        simp [capitalize]
      obtain ⟨rest, hrest⟩ := joinWords_cons c.toUpper word ((words.filter (· ≠ [])).map capitalize)
      rw [hwords, hrest, List.head?_cons, Option.any_some, decide_eq_true_eq]
      exact (toUpper_slug hc).2
  · rw [← String.length_toList, hchars]
    have hjoined := joinWords_length (nameWords value)
    have hwords := nameWords_length value
    omega

end TetiBot.Passport

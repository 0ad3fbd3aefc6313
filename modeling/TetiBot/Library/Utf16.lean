import Mathlib.Tactic

/-
Strings as sequences of UTF-16 code units, and the sizes of their encodings.

* `JsString`: the code units of a string; surrogates need not be paired.
* `utf8Size`: the bytes of the UTF-8 encoding, in which an unpaired surrogate
  becomes the three bytes of U+FFFD.
* `isBlank`, `trim`: white space at the ends of a string.
* `truncateUtf8`: the longest prefix of whole characters that a bisection finds
  to fit a number of bytes; it always fits (`utf8Size_truncateUtf8_le`).
-/

namespace Library

/-- A string as its UTF-16 code units. -/
abbrev JsString : Type := List UInt16

namespace JsString

/-- A leading (high) surrogate. -/
def isHigh (u : UInt16) : Bool := 0xD800 ≤ u && u ≤ 0xDBFF

/-- A trailing (low) surrogate. -/
def isLow (u : UInt16) : Bool := 0xDC00 ≤ u && u ≤ 0xDFFF

/-- The code units of one character. -/
def ofChar (c : Char) : JsString :=
  if c.val < 0x10000 then [c.val.toUInt16]
  else
    let v := c.val - 0x10000
    [(0xD800 + v / 0x400).toUInt16, (0xDC00 + v % 0x400).toUInt16]

/-- The code units of a character string. -/
def ofString (s : String) : JsString := s.toList.flatMap ofChar

/-- The bytes of one code unit that is not part of a surrogate pair. -/
def unitSize (u : UInt16) : Nat :=
  if u < 0x80 then 1 else if u < 0x800 then 2 else 3

/-- The bytes of the UTF-8 encoding. -/
def utf8Size : JsString → Nat
  | [] => 0
  | [u] => unitSize u
  | u :: v :: rest =>
    if isHigh u && isLow v then 4 + utf8Size rest else unitSize u + utf8Size (v :: rest)

/-- A code unit that `trim` removes. -/
def isSpace (u : UInt16) : Bool :=
  (0x09 ≤ u && u ≤ 0x0D) || u == 0x20 || u == 0xA0 || u == 0x1680
    || (0x2000 ≤ u && u ≤ 0x200A) || u == 0x2028 || u == 0x2029 || u == 0x202F
    || u == 0x205F || u == 0x3000 || u == 0xFEFF

/-- Remove white space at both ends. -/
def trim (s : JsString) : JsString :=
  ((s.dropWhile isSpace).reverse.dropWhile isSpace).reverse

/-- Nothing is left after `trim`. -/
def isBlank (s : JsString) : Bool := s.all isSpace

/-- Join strings with a separator between them. -/
def join (separator : JsString) : List JsString → JsString
  | [] => []
  | [s] => s
  | s :: rest => s ++ separator ++ join separator rest

/-! ### Truncation -/

/-- The characters of a string: surrogate pairs, and the other code units. -/
def characters : JsString → List JsString
  | [] => []
  | [u] => [[u]]
  | u :: v :: rest =>
    if isHigh u && isLow v then [u, v] :: characters rest else [u] :: characters (v :: rest)

/-- The string of the first `n` characters. -/
def prefixOf (chars : List JsString) (n : Nat) : JsString := (chars.take n).flatten

/-- Bisect for the number of characters that fit, between `low` and `high`. -/
def bisectPrefix (chars : List JsString) (maximumBytes low high : Nat) : Nat :=
  if low < high then
    let middle := (low + high + 1) / 2
    if utf8Size (prefixOf chars middle) ≤ maximumBytes then
      bisectPrefix chars maximumBytes middle high
    else bisectPrefix chars maximumBytes low (middle - 1)
  else low
termination_by high - low

/-- A string cut to a number of bytes. -/
def truncateUtf8 (value : JsString) (maximumBytes : Nat) : JsString :=
  if utf8Size value ≤ maximumBytes then value
  else
    let chars := characters value
    prefixOf chars (bisectPrefix chars maximumBytes 0 chars.length)

/-- Bisection keeps a prefix that fits. -/
lemma utf8Size_prefixOf_bisectPrefix_le (chars : List JsString) (maximumBytes low high : Nat)
    (h : utf8Size (prefixOf chars low) ≤ maximumBytes) :
    utf8Size (prefixOf chars (bisectPrefix chars maximumBytes low high)) ≤ maximumBytes := by
  induction low, high using bisectPrefix.induct chars maximumBytes with
  | case1 low high hlt middle hfits ih =>
    rw [bisectPrefix, if_pos hlt, if_pos hfits]
    exact ih hfits
  | case2 low high hlt middle hfits ih =>
    rw [bisectPrefix, if_pos hlt, if_neg hfits]
    exact ih h
  | case3 low high hlt => rwa [bisectPrefix, if_neg hlt]

/-- A truncated string fits. -/
theorem utf8Size_truncateUtf8_le (value : JsString) (maximumBytes : Nat) :
    utf8Size (truncateUtf8 value maximumBytes) ≤ maximumBytes := by
  unfold truncateUtf8
  split_ifs with h
  · exact h
  · exact utf8Size_prefixOf_bisectPrefix_le _ _ _ _ (by simp [prefixOf, utf8Size])

/-- Bisection keeps a character if one fits. -/
lemma one_le_bisectPrefix {chars : List JsString} {maximumBytes low high : Nat} (hhigh : 1 ≤ high)
    (hfits : utf8Size (prefixOf chars 1) ≤ maximumBytes) :
    1 ≤ bisectPrefix chars maximumBytes low high := by
  have hlow : ∀ low high, low ≤ bisectPrefix chars maximumBytes low high := by
    intro low high
    induction low, high using bisectPrefix.induct chars maximumBytes with
    | case1 low high hlt middle hfits ih =>
      rw [bisectPrefix, if_pos hlt, if_pos hfits]
      exact le_trans (by omega) ih
    | case2 low high hlt middle hfits ih =>
      rw [bisectPrefix, if_pos hlt, if_neg hfits]
      exact ih
    | case3 low high hlt => rw [bisectPrefix, if_neg hlt]
  induction low, high using bisectPrefix.induct chars maximumBytes with
  | case1 low high hlt middle hmiddle ih =>
    rw [bisectPrefix, if_pos hlt, if_pos hmiddle]
    exact le_trans (by omega) (hlow _ _)
  | case2 low high hlt middle hmiddle ih =>
    rw [bisectPrefix, if_pos hlt, if_neg hmiddle]
    have hne : middle ≠ 1 := fun h => hmiddle (h ▸ hfits)
    exact ih (by omega)
  | case3 low high hlt =>
    rw [bisectPrefix, if_neg hlt]
    omega

/-- A truncated string starts as the string does, if its first character fits. -/
theorem head?_truncateUtf8 {u : UInt16} {rest : JsString} {maximumBytes : Nat}
    (hu : isHigh u = false) (hfits : unitSize u ≤ maximumBytes) :
    (truncateUtf8 (u :: rest) maximumBytes).head? = some u := by
  have hchars : ∃ cs, characters (u :: rest) = [u] :: cs := by
    cases rest with
    | nil => exact ⟨[], rfl⟩
    | cons v rest => exact ⟨characters (v :: rest), by simp [characters, hu]⟩
  obtain ⟨cs, hcs⟩ := hchars
  rw [truncateUtf8]
  split_ifs with h
  · rfl
  · have hone : utf8Size (prefixOf ([u] :: cs) 1) ≤ maximumBytes := by
      simpa [prefixOf, utf8Size] using hfits
    have hkeep : 1 ≤ bisectPrefix ([u] :: cs) maximumBytes 0 ([u] :: cs).length :=
      one_le_bisectPrefix (by simp) hone
    simp only [hcs]
    generalize bisectPrefix _ _ _ _ = n at hkeep ⊢
    cases n with
    | zero => omega
    | succ n => simp [prefixOf]

lemma ofString_append (s t : String) : ofString (s ++ t) = ofString s ++ ofString t := by
  simp [ofString, String.toList_append]

/-- The last string of several stands behind a separator. -/
lemma join_append_singleton (separator : JsString) {strings : List JsString}
    (h : strings ≠ []) (s : JsString) :
    join separator (strings ++ [s]) = join separator strings ++ separator ++ s := by
  induction strings with
  | nil => exact absurd rfl h
  | cons first rest ih =>
    cases rest with
    | nil => simp [join]
    | cons second rest =>
      have hrest := ih (List.cons_ne_nil _ _)
      simp only [List.cons_append, join] at hrest ⊢
      rw [hrest]
      simp only [List.append_assoc]

/-- A string that starts with something else than white space is not blank. -/
lemma isBlank_of_head {u : UInt16} {s : JsString} (h : s.head? = some u)
    (hu : isSpace u = false) : isBlank s = false := by
  cases s with
  | nil => simp at h
  | cons v s =>
    obtain rfl := Option.some.inj h
    simp [isBlank, hu]

end JsString

end Library

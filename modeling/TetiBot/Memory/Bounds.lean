import Mathlib.Data.List.DropRight
import TetiBot.Library.Truncation
import TetiBot.Memory.Stages

/-
Texts bounded for memory (`core/memory/context-injection.ts`,
`core/memory/structured-task.ts`) beside the bisection of the task service
(`runtime/tasks/service.ts`).

* `boundStructuredMemoryText`, `boundStructuredTaskMemoryContent`: a trimmed text, cut by a
  loop over its characters;
* `truncateUtf8_exact`: the bisection and the loops keep the longest prefix of whole
  characters that fits.
-/

namespace TetiBot.Memory

open Library Library.JsString

/-! ### The loops -/

def boundStructuredMemoryText (value : JsString) (maximumBytes : Nat) : JsString :=
  let normalized := trim value
  if utf8Size normalized ≤ maximumBytes then normalized
  else appendFitting maximumBytes [] (characters normalized)

def boundStructuredTaskMemoryContent (content : JsString) : JsString :=
  boundStructuredMemoryText content STRUCTURED_TASK_MEMORY_LIMITS.maximumContentBytes

lemma boundStructuredMemoryText_longest (value : JsString) (maximumBytes : Nat) :
    LongestPrefix (characters (trim value)) maximumBytes
      (boundStructuredMemoryText value maximumBytes) := by
  rw [boundStructuredMemoryText]
  split_ifs with hfits
  · -- the bisection returns a text that fits as it is, too
    have hwhole := truncateUtf8_longest (trim value) maximumBytes
    rwa [truncateUtf8, if_pos hfits] at hwhole
  · exact appendFitting_longest [] (characters (trim value)) (Nat.zero_le maximumBytes)

lemma boundStructuredMemoryText_eq (value : JsString) (maximumBytes : Nat) :
    boundStructuredMemoryText value maximumBytes = truncateUtf8 (trim value) maximumBytes :=
  (boundStructuredMemoryText_longest value maximumBytes).unique (truncateUtf8_longest _ _)

/-! ### The content of a stage memory -/

/-- A trimmed string starts with something else than white space. -/
lemma isSpace_head_trim {s : JsString} {u : UInt16} (h : (trim s).head? = some u) :
    isSpace u = false := by
  have hprefix : trim s <+: s.dropWhile isSpace := List.rdropWhile_prefix isSpace _
  obtain ⟨rest, hrest⟩ := hprefix
  have hhead : (s.dropWhile isSpace).head? = some u := by
    rw [← hrest, List.head?_append, h]
    rfl
  have hnot := List.head?_dropWhile_not isSpace s
  rw [hhead] at hnot
  simpa using hnot

/-- **What is cut from the text of an artifact passes the store's own check**, unless nothing is
left of it: then no memory is stored. -/
theorem boundStructuredTaskMemoryContent_valid {content : JsString}
    (h : boundStructuredTaskMemoryContent content ≠ []) :
    isBlank (boundStructuredTaskMemoryContent content) = false
    ∧ utf8Size (boundStructuredTaskMemoryContent content)
      ≤ STRUCTURED_TASK_MEMORY_LIMITS.maximumContentBytes := by
  refine ⟨?_, (boundStructuredMemoryText_longest _ _).fits⟩
  obtain ⟨u, rest, hcons⟩ := List.exists_cons_of_ne_nil h
  have hprefix := truncateUtf8_isPrefix (trim content)
    STRUCTURED_TASK_MEMORY_LIMITS.maximumContentBytes
  rw [← boundStructuredMemoryText_eq, ← boundStructuredTaskMemoryContent, hcons] at hprefix
  obtain ⟨dropped, hdropped⟩ := hprefix
  rw [hcons]
  refine isBlank_of_head rfl (isSpace_head_trim (s := content) ?_)
  rw [← hdropped]
  rfl

/-- A content that has to be cut. -/
def longContent : JsString := 0x20 :: List.replicate 5000 0x61

theorem boundStructuredTaskMemoryContent_valid_example :
    let bounded := boundStructuredTaskMemoryContent longContent
    bounded.length = 4096 ∧ isBlank bounded = false
      ∧ utf8Size bounded ≤ STRUCTURED_TASK_MEMORY_LIMITS.maximumContentBytes :=
  ⟨by decide +kernel, boundStructuredTaskMemoryContent_valid (by decide +kernel)⟩

/-! ### Bisection and the loops -/

/-- **Truncation is exact.**  The bisection returns the longest prefix of whole characters that
fits and cuts no pair of surrogates; the loops return the same of the trimmed text. -/
theorem truncateUtf8_exact (value : JsString) (maximumBytes : Nat) :
    LongestPrefix (characters value) maximumBytes (truncateUtf8 value maximumBytes)
    ∧ (characters value).flatten = value
    ∧ (∀ before rest u v, value = before ++ u :: v :: rest → isHigh u = true → isLow v = true →
        truncateUtf8 value maximumBytes ≠ before ++ [u])
    ∧ boundStructuredMemoryText value maximumBytes = truncateUtf8 (trim value) maximumBytes
    ∧ boundStructuredTaskMemoryContent value
      = truncateUtf8 (trim value) STRUCTURED_TASK_MEMORY_LIMITS.maximumContentBytes := by
  refine ⟨truncateUtf8_longest value maximumBytes, flatten_characters value, ?_,
    boundStructuredMemoryText_eq value maximumBytes, boundStructuredMemoryText_eq value _⟩
  rintro before rest u v rfl hu hv
  obtain ⟨n, hn⟩ := (truncateUtf8_longest (before ++ u :: v :: rest) maximumBytes).whole
  rw [hn]
  exact prefixOf_ne_half hu hv n

end TetiBot.Memory

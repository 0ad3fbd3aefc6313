import TetiBot.Library.Focus
import TetiBot.Library.JsonText

/-
Texts of several lines, and envelopes: records as lines of JSON between marker lines, and a
text after them.

* `lines`: a text at its line ends;
* `stringify_printable`: the JSON text of a value has no control character, so it is one line;
* `Envelope`: the marker lines; `Envelope.read`: the records and the text, line by line;
* `Envelope.carries_text`: what is put into an envelope is read from it, whatever it contains.
-/

namespace Library

/-! ### Lines -/

namespace JsString

/-- The lines of a text. -/
def lines (s : JsString) : List JsString := s.splitOn 0x0A

lemma lines_cons {line : JsString} (h : 0x0A ∉ line) (rest : JsString) :
    lines (line ++ 0x0A :: rest) = line :: lines rest :=
  List.splitOn_append_cons_self_of_not_mem h rest

lemma join_cons_cons (separator first second : JsString) (rest : List JsString) :
    join separator (first :: second :: rest)
      = first ++ separator ++ join separator (second :: rest) := rfl

lemma join_eq_intercalate (separator : JsString) (strings : List JsString) :
    join separator strings = separator.intercalate strings := by
  induction strings with
  | nil => rfl
  | cons first rest ih =>
    cases rest with
    | nil => simp [join]
    | cons second rest =>
      rw [join_cons_cons, ih]
      simp [List.intercalate, List.intersperse]

/-- The lines of a text give it back. -/
lemma join_lines (s : JsString) : join (ofString "\n") (lines s) = s := by
  rw [join_eq_intercalate]
  exact List.intercalate_splitOn 0x0A

/-- Strings without line ends, one a line. -/
lemma lines_join {strings : List JsString} (hne : strings ≠ [])
    (h : ∀ s ∈ strings, 0x0A ∉ s) (rest : JsString) :
    lines (join (ofString "\n") strings ++ 0x0A :: rest) = strings ++ lines rest := by
  induction strings with
  | nil => exact absurd rfl hne
  | cons first others ih =>
    obtain ⟨hfirst, hothers⟩ := List.forall_mem_cons.mp h
    cases others with
    | nil => exact lines_cons hfirst rest
    | cons second others =>
      have hrest := ih (List.cons_ne_nil _ _) hothers
      rw [join_cons_cons, List.append_assoc, List.append_assoc, show ofString "\n" = [0x0A] from rfl,
        List.singleton_append, lines_cons hfirst]
      rw [show ofString "\n" = [0x0A] from rfl] at hrest
      rw [hrest]
      rfl

end JsString

/-! ### JSON on one line -/

namespace Json

open JsString

/-- No control characters. -/
def Printable (s : JsString) : Prop := ∀ u ∈ s, ¬u < 0x20

lemma printable_of_all {s : JsString} (h : (s.all fun u => !decide (u < 0x20)) = true) :
    Printable s := by
  simpa [Printable] using h

lemma Printable.append {s t : JsString} (hs : Printable s) (ht : Printable t) :
    Printable (s ++ t) := fun u hu => (List.mem_append.mp hu).elim (hs u) (ht u)

lemma Printable.cons {u : UInt16} {s : JsString} (hu : ¬u < 0x20) (hs : Printable s) :
    Printable (u :: s) := List.forall_mem_cons.mpr ⟨hu, hs⟩

lemma Printable.singleton {u : UInt16} (hu : ¬u < 0x20) : Printable [u] :=
  Printable.cons hu (List.forall_mem_nil _)

lemma hexDigit_printable {n : UInt16} (h : n.toNat < 16) : ¬hexDigit n < 0x20 := by
  obtain ⟨k, hk, rfl⟩ : ∃ k, k < 16 ∧ n = UInt16.ofNat k := ⟨n.toNat, h, by simp⟩
  clear h
  interval_cases k <;> decide

lemma unicodeEscape_printable (u : UInt16) : Printable (unicodeEscape u) := by
  have hbound := u.toNat_lt
  refine .cons (by decide) (.cons (by decide) (.cons ?_ (.cons ?_ (.cons ?_ (.singleton ?_)))))
  all_goals
    apply hexDigit_printable
    simp
    omega

lemma escapeUnit_printable (u : UInt16) : Printable (escapeUnit u) := by
  rw [escapeUnit]
  cases hshort : shortEscape? u with
  | some letter =>
    refine .cons (by decide) (.singleton ?_)
    unfold shortEscape? at hshort
    split_ifs at hshort <;> · obtain rfl := Option.some.inj hshort; decide
  | none =>
    dsimp only
    split_ifs with hescape
    · exact unicodeEscape_printable u
    · exact .singleton fun hcontrol => hescape (by simp [hcontrol])

lemma surrogate_printable {u : UInt16} (h : isHigh u = true ∨ isLow u = true) : ¬u < 0x20 := by
  rw [isHigh_iff, isLow_iff] at h
  rw [UInt16.lt_iff_toNat_lt]
  simp
  omega

lemma escape_printable (s : JsString) : Printable (escape s) := by
  induction s using utf8Size.induct with
  | case1 => exact List.forall_mem_nil _
  | case2 u => exact escapeUnit_printable u
  | case3 u v rest hpair ih =>
    obtain ⟨hhigh, hlow⟩ := Bool.and_eq_true_iff.mp hpair
    rw [escape, if_pos hpair]
    exact .cons (surrogate_printable (.inl hhigh)) (.cons (surrogate_printable (.inr hlow)) ih)
  | case4 u v rest hpair ih =>
    rw [escape, if_neg hpair]
    exact (escapeUnit_printable u).append ih

lemma quote_printable (s : JsString) : Printable (quote s) :=
  (Printable.cons (by decide) (escape_printable s)).append (.singleton (by decide))

lemma isNumberUnit_printable {u : UInt16} (h : isNumberUnit u = true) : ¬u < 0x20 := by
  simp only [isNumberUnit, Bool.or_eq_true, decide_eq_true_eq] at h
  rcases h with ((((h | rfl) | rfl) | rfl) | rfl) | rfl
  · simp only [isDigit, Bool.and_eq_true, decide_eq_true_eq, UInt16.le_iff_toNat_le] at h
    rw [UInt16.lt_iff_toNat_lt]
    simp at h ⊢
    omega
  all_goals decide

mutual

/-- **The JSON text of a value has no control character.** -/
theorem stringify_printable (v : Json) : Printable (stringify v) := by
  match v with
  | null => exact printable_of_all (by decide)
  | bool true => exact printable_of_all (by decide)
  | bool false => exact printable_of_all (by decide)
  | num n =>
    have hdigits : ∀ c ∈ Nat.toDigits 10 n, c.isDigit = true := fun c hc =>
      Nat.isDigit_of_mem_toDigits (by omega) (by omega) hc
    intro u hu
    rw [stringify, ofString, Nat.toString_eq_ofList_toDigits, String.toList_ofList] at hu
    have hdigit := (digits_ofChar hdigits).2.1 u hu
    exact isNumberUnit_printable (by simp [isNumberUnit, hdigit])
  | decimal d => exact fun u hu => isNumberUnit_printable (List.all_eq_true.mp d.text_units.1 u hu)
  | str s => exact quote_printable s
  | arr items =>
    exact (Printable.cons (by decide) (stringifyItems_printable items)).append
      (.singleton (by decide))
  | obj fields =>
    exact (Printable.cons (by decide) (stringifyFields_printable fields)).append
      (.singleton (by decide))

theorem stringifyItems_printable (items : List Json) : Printable (stringifyItems items) := by
  match items with
  | [] => exact List.forall_mem_nil _
  | [item] => exact stringify_printable item
  | item :: next :: items =>
    rw [stringifyItems_cons_cons]
    exact (stringify_printable item).append
      (.cons (by decide) (stringifyItems_printable (next :: items)))

theorem stringifyFields_printable (fields : List (String × Json)) :
    Printable (stringifyFields fields) := by
  match fields with
  | [] => exact List.forall_mem_nil _
  | [(name, value)] =>
    exact (quote_printable _).append (.cons (by decide) (stringify_printable value))
  | (name, value) :: next :: fields =>
    rw [stringifyFields_cons_cons]
    exact (quote_printable _).append (.cons (by decide)
      ((stringify_printable value).append
        (.cons (by decide) (stringifyFields_printable (next :: fields)))))

end

lemma newline_notMem_stringify (v : Json) : 0x0A ∉ stringify v :=
  fun hmem => stringify_printable v 0x0A hmem (by decide)

/-- A slash begins no value. -/
lemma readScalar_slash (rest : JsString) : readScalar (0x2F :: rest) = none := by
  have hunit : isNumberUnit 0x2F = false := by decide
  have hdigit : isDigit 0x2F = false := by decide
  have hnumber : readNumber (0x2F :: rest) = none := by
    simp [readNumber, hdigit]
  have hdecimal : readDecimal (0x2F :: rest) = none := by
    simp only [readDecimal, List.takeWhile_cons, hunit]
    rfl
  rw [readScalar, hnumber, hdecimal]
  rfl

/-- A bracket and a slash begin no JSON text. -/
lemma read_bracket_slash (rest : JsString) : read (0x5B :: 0x2F :: rest) = none := by
  have hslash : ∀ fuel, readValue fuel (0x2F :: rest) = none := by
    intro fuel
    cases fuel with
    | zero => rfl
    | succ fuel =>
      rw [readValue, skipSpace_cons (by decide)]
      exact readScalar_slash rest
  have hitems : readItems (rest.length + 1) (0x2F :: rest) = none := by
    rw [readItems, hslash]
    rfl
  rw [read, List.length_cons, List.length_cons, readValue, skipSpace_cons (by decide)]
  simp only [if_true, skipSpace_cons (show isSpace 0x2F = false by decide)]
  rw [if_neg (by decide), hitems]
  rfl

end Json

/-! ### Envelopes -/

open JsString

/-- The marker lines of an envelope; the one that ends the records is no JSON text. -/
structure Envelope where
  opening : JsString
  notice : JsString
  closing : JsString
  heading : JsString
  oneLine : ∀ line ∈ [opening, notice, closing, heading], 0x0A ∉ line
  closing_unread : Json.read closing = none

namespace Envelope

variable (e : Envelope)

/-- The lines of the records, and the text after them. -/
def text (records rest : JsString) : JsString :=
  join (ofString "\n") [e.opening, e.notice, records, e.closing, e.heading, rest]

/-- The records and the text of an envelope, line by line. -/
def read (s : JsString) : Option (List Json × JsString) :=
  match lines s with
  | opening :: notice :: rest =>
    match rest.dropWhile (· ≠ e.closing) with
    | _ :: heading :: task =>
      if opening = e.opening ∧ notice = e.notice ∧ heading = e.heading then do
        let records ← (rest.takeWhile (· ≠ e.closing)).mapM Json.parse
        return (records, join (ofString "\n") task)
      else none
    | _ => none
  | _ => none

/-- The records, decoded, and the text of an envelope. -/
def readAs {R : Type} (decode : Json → Option R) (s : JsString) : Option (List R × JsString) := do
  let (values, rest) ← e.read s
  let records ← values.mapM decode
  return (records, rest)

/-- A text carries the records and the text that were put into an envelope. -/
structure Carries {R : Type} (encode : R → Json) (decode : Json → Option R) (records : List R)
    (rest s : JsString) : Prop where
  read : e.readAs decode s = some (records, rest)
  lines : lines s = e.opening :: e.notice ::
    (records.map (fun record => (encode record).stringify) ++ e.closing :: e.heading :: lines rest)

lemma text_eq (records rest : JsString) : e.text records rest
    = e.opening ++ 0x0A :: (e.notice ++ 0x0A :: (records ++ 0x0A :: (e.closing ++ 0x0A ::
        (e.heading ++ 0x0A :: rest)))) := by
  simp only [text, join, show ofString "\n" = [0x0A] from rfl, List.append_assoc,
    List.singleton_append]

/-- **The lines of an envelope**: no text after the records adds one before it. -/
theorem lines_text {records : List JsString} (hne : records ≠ [])
    (h : ∀ record ∈ records, 0x0A ∉ record) (rest : JsString) :
    lines (e.text (join (ofString "\n") records) rest)
      = e.opening :: e.notice :: (records ++ e.closing :: e.heading :: lines rest) := by
  have hline : ∀ line ∈ [e.opening, e.notice, e.closing, e.heading], ∀ s,
      lines (line ++ 0x0A :: s) = line :: lines s :=
    fun line hmem s => lines_cons (e.oneLine line hmem) s
  rw [text_eq, hline _ (by simp), hline _ (by simp), lines_join hne h, hline _ (by simp),
    hline _ (by simp)]

lemma stringify_ne_closing (v : Json) : v.stringify ≠ e.closing := by
  intro heq
  have hread := Json.read_stringify v
  rw [heq, e.closing_unread] at hread
  cases hread

lemma mapM_map_of_some {A B C : Type} {encode : A → B} {decode : B → Option C} {view : A → C}
    {values : List A} (h : ∀ a ∈ values, decode (encode a) = some (view a)) :
    (values.map encode).mapM decode = some (values.map view) := by
  rw [mapM_eq_some_iff, List.forall₂_map_left_iff, List.forall₂_map_right_iff]
  exact List.forall₂_same.mpr h

/-- **What is put into an envelope is read from it.** -/
theorem read_text {records : List Json} (hne : records ≠ [])
    (h : ∀ record ∈ records, record.Distinct) (rest : JsString) :
    e.read (e.text (join (ofString "\n") (records.map Json.stringify)) rest)
      = some (records, rest) := by
  have hlines : ∀ line ∈ records.map Json.stringify, 0x0A ∉ line := by
    intro line hline
    obtain ⟨record, -, rfl⟩ := List.mem_map.mp hline
    exact Json.newline_notMem_stringify record
  have hnot : ∀ line ∈ records.map Json.stringify, decide (line ≠ e.closing) = true := by
    intro line hline
    obtain ⟨record, -, rfl⟩ := List.mem_map.mp hline
    exact decide_eq_true (e.stringify_ne_closing record)
  have hrecords : (records.map Json.stringify).mapM Json.parse = some (records.map id) :=
    mapM_map_of_some fun record hmem => Json.parse_stringify (h record hmem)
  rw [read, e.lines_text (by simpa using hne) hlines]
  dsimp only
  rw [List.dropWhile_append_of_pos hnot, List.takeWhile_append_of_pos hnot,
    List.dropWhile_cons_of_neg (by simp), List.takeWhile_cons_of_neg (by simp), List.append_nil]
  dsimp only
  rw [if_pos ⟨rfl, rfl, rfl⟩, hrecords, List.map_id, join_lines]
  rfl

/-- **An envelope is unforgeable**: whatever the records and the text contain, the text after
them is not read as one of the records or markers, nor a record as anything else. -/
theorem carries_text {R : Type} {encode : R → Json} {decode : Json → Option R}
    (hdistinct : ∀ record, (encode record).Distinct)
    (hdecode : ∀ record, decode (encode record) = some record) {records : List R}
    (hne : records ≠ []) (rest : JsString) :
    e.Carries encode decode records rest
      (e.text (join (ofString "\n") (records.map fun record => (encode record).stringify)) rest) := by
  have hread := e.read_text (by simpa using hne : records.map encode ≠ [])
    (fun value hvalue => by
      obtain ⟨record, -, rfl⟩ := List.mem_map.mp hvalue
      exact hdistinct record) rest
  have hvalues : (records.map encode).mapM decode = some (records.map id) :=
    mapM_map_of_some fun record _ => hdecode record
  rw [List.map_map] at hread
  constructor
  · rw [readAs, show (records.map fun record => (encode record).stringify)
      = records.map (Json.stringify ∘ encode) from rfl, hread]
    simp only [Option.bind_eq_bind, Option.bind_some, hvalues, List.map_id]
    rfl
  · refine e.lines_text (by simpa using hne) (fun line hline => ?_) rest
    obtain ⟨record, -, rfl⟩ := List.mem_map.mp hline
    exact Json.newline_notMem_stringify _

end Envelope

end Library

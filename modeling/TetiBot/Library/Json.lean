import TetiBot.Library.Utf16

/-
JSON texts and their sizes.

* `Json`, `Json.stringify`: values and their text, as `JSON.stringify` writes
  it: short escapes for the quotation mark, the backslash and five control
  characters, `\u` escapes for the other control characters and for unpaired
  surrogates.
* `utf8Size_append`: the UTF-8 size is additive where no surrogate pair is cut.
* `utf8Size_escape`: the size of an escaped string, unit by unit.
* `escapedSize_eq`: escaping adds one byte for each short escape, five for
  each other control character and three for each unpaired surrogate.
-/

namespace Library

namespace JsString

/-! ### Sizes of concatenations -/

variable {u : UInt16}

lemma utf8Size_cons_of_not_high (h : isHigh u = false) (s : JsString) :
    utf8Size (u :: s) = unitSize u + utf8Size s := by
  cases s with
  | nil => simp [utf8Size]
  | cons v s => simp [utf8Size, h]

lemma utf8Size_cons_of_head_not_low {s : JsString} (h : ∀ v ∈ s.head?, isLow v = false) :
    utf8Size (u :: s) = unitSize u + utf8Size s := by
  cases s with
  | nil => simp [utf8Size]
  | cons v s => simp [utf8Size, h v (by simp)]

/-- The size is additive where the second string does not begin with a low
surrogate. -/
lemma utf8Size_append {s t : JsString} (h : ∀ v ∈ t.head?, isLow v = false) :
    utf8Size (s ++ t) = utf8Size s + utf8Size t := by
  induction s using utf8Size.induct with
  | case1 => simp [utf8Size]
  | case2 u => simpa [utf8Size] using utf8Size_cons_of_head_not_low h
  | case3 u v rest hp ih =>
    simp only [List.cons_append, utf8Size, if_pos hp, ih]
    omega
  | case4 u v rest hp ih =>
    simp only [List.cons_append] at ih
    simp only [List.cons_append, utf8Size, if_neg hp, ih]
    omega

/-! ### Escaping -/

/-- A lower-case hexadecimal digit. -/
def hexDigit (n : UInt16) : UInt16 := if n < 10 then 0x30 + n else 0x57 + n

/-- `\uXXXX`. -/
def unicodeEscape (u : UInt16) : JsString :=
  [0x5C, 0x75, hexDigit (u / 0x1000), hexDigit (u / 0x100 % 0x10), hexDigit (u / 0x10 % 0x10),
    hexDigit (u % 0x10)]

/-- The letter of the short escape of a code unit. -/
def shortEscape? (u : UInt16) : Option UInt16 :=
  if u = 0x22 then some 0x22
  else if u = 0x5C then some 0x5C
  else if u = 0x08 then some 0x62
  else if u = 0x09 then some 0x74
  else if u = 0x0A then some 0x6E
  else if u = 0x0C then some 0x66
  else if u = 0x0D then some 0x72
  else none

/-- One code unit inside a JSON string, if it is not part of a pair. -/
def escapeUnit (u : UInt16) : JsString :=
  match shortEscape? u with
  | some letter => [0x5C, letter]
  | none => if u < 0x20 || isHigh u || isLow u then unicodeEscape u else [u]

/-- The contents of a JSON string. -/
def escape : JsString → JsString
  | [] => []
  | [u] => escapeUnit u
  | u :: v :: rest =>
    if isHigh u && isLow v then u :: v :: escape rest else escapeUnit u ++ escape (v :: rest)

/-- The bytes of one escaped code unit. -/
def escapedUnitSize (u : UInt16) : Nat :=
  if (shortEscape? u).isSome then 2
  else if u < 0x20 || isHigh u || isLow u then 6
  else unitSize u

/-- The bytes of the contents of a JSON string. -/
def escapedSize : JsString → Nat
  | [] => 0
  | [u] => escapedUnitSize u
  | u :: v :: rest =>
    if isHigh u && isLow v then 4 + escapedSize rest
    else escapedUnitSize u + escapedSize (v :: rest)

/-- What escaping one code unit adds to its size. -/
def escapeOverheadUnit (u : UInt16) : Nat :=
  if (shortEscape? u).isSome then 1
  else if u < 0x20 then 5
  else if isHigh u || isLow u then 3
  else 0

/-- What escaping adds to the size of a string: one byte for each short escape,
five for each other control character, three for each unpaired surrogate. -/
def escapeOverhead : JsString → Nat
  | [] => 0
  | [u] => escapeOverheadUnit u
  | u :: v :: rest =>
    if isHigh u && isLow v then escapeOverhead rest
    else escapeOverheadUnit u + escapeOverhead (v :: rest)

lemma escapeOverhead_cons_of_not_high (h : isHigh u = false) (s : JsString) :
    escapeOverhead (u :: s) = escapeOverheadUnit u + escapeOverhead s := by
  cases s with
  | nil => rfl
  | cons v rest => simp [escapeOverhead, h]

lemma unitSize_of_surrogate (h : (isHigh u || isLow u) = true) : unitSize u = 3 := by
  simp only [isHigh, isLow, Bool.or_eq_true, Bool.and_eq_true, decide_eq_true_eq,
    UInt16.le_iff_toNat_le] at h
  have h1 : ¬u < 0x80 := by rw [UInt16.lt_iff_toNat_lt]; simp at h ⊢; omega
  have h2 : ¬u < 0x800 := by rw [UInt16.lt_iff_toNat_lt]; simp at h ⊢; omega
  rw [unitSize, if_neg h1, if_neg h2]

lemma unitSize_of_lt (h : u < 0x80) : unitSize u = 1 := by
  rw [unitSize, if_pos h]

lemma lt_of_shortEscape (h : (shortEscape? u).isSome = true) : u < 0x80 := by
  unfold shortEscape? at h
  split_ifs at h <;> simp_all

lemma escapedUnitSize_eq (u : UInt16) :
    escapedUnitSize u = unitSize u + escapeOverheadUnit u := by
  unfold escapedUnitSize escapeOverheadUnit
  by_cases hs : (shortEscape? u).isSome = true
  · rw [if_pos hs, if_pos hs, unitSize_of_lt (lt_of_shortEscape hs)]
  · rw [if_neg hs, if_neg hs]
    by_cases hc : u < 0x20
    · have : u < 0x80 := UInt16.lt_trans hc (by decide : (0x20 : UInt16) < 0x80)
      simp [hc, unitSize_of_lt this]
    · by_cases hsur : (isHigh u || isLow u) = true
      · simp [hc, hsur, unitSize_of_surrogate hsur]
      · simp [hc, hsur]

variable (s : JsString)

/-- **The cost of escaping**: the escaped size is the UTF-8 size plus the
overhead of the escaped units. -/
theorem escapedSize_eq : escapedSize s = utf8Size s + escapeOverhead s := by
  induction s using utf8Size.induct with
  | case1 => rfl
  | case2 u => simp [escapedSize, utf8Size, escapeOverhead, escapedUnitSize_eq]
  | case3 u v rest hp ih =>
    simp only [escapedSize, utf8Size, escapeOverhead, if_pos hp, ih]
    omega
  | case4 u v rest hp ih =>
    simp only [escapedSize, utf8Size, escapeOverhead, if_neg hp, ih, escapedUnitSize_eq]
    omega

/-! ### The size of an escaped string -/

lemma hexDigit_lt {n : UInt16} (h : n < 16) : hexDigit n < 0x80 := by
  unfold hexDigit
  rw [UInt16.lt_iff_toNat_lt] at h ⊢
  split_ifs with h10
  · rw [UInt16.lt_iff_toNat_lt] at h10
    simp at h10 h ⊢
    omega
  · simp at h ⊢
    omega

lemma utf8Size_ascii {s : JsString} (h : ∀ u ∈ s, u < 0x80) : utf8Size s = s.length := by
  induction s with
  | nil => rfl
  | cons u s ih =>
    have hu := h u (by simp)
    have hh : isHigh u = false := by
      simp only [isHigh, Bool.and_eq_false_iff, decide_eq_false_iff_not]
      left
      rw [UInt16.le_iff_toNat_le]
      rw [UInt16.lt_iff_toNat_lt] at hu
      simp at hu ⊢
      omega
    rw [utf8Size_cons_of_not_high hh, unitSize_of_lt hu,
      ih fun v hv => h v (by simp [hv])]
    simp [Nat.add_comm]

lemma unicodeEscape_ascii (u : UInt16) : ∀ v ∈ unicodeEscape u, v < 0x80 := by
  intro v hv
  simp only [unicodeEscape, List.mem_cons, List.not_mem_nil, or_false] at hv
  rcases hv with rfl | rfl | rfl | rfl | rfl | rfl
  · decide
  · decide
  all_goals
    apply hexDigit_lt
    rw [UInt16.lt_iff_toNat_lt]
    have := u.toNat_lt
    simp
    omega

lemma shortEscape_ascii {letter : UInt16} (h : shortEscape? u = some letter) : letter < 0x80 := by
  unfold shortEscape? at h
  split_ifs at h <;> simp_all <;> subst h <;> decide

lemma utf8Size_escapeUnit (u : UInt16) : utf8Size (escapeUnit u) = escapedUnitSize u := by
  unfold escapeUnit escapedUnitSize
  cases hs : shortEscape? u with
  | some letter =>
    rw [utf8Size_ascii]
    · simp
    · simpa using shortEscape_ascii hs
  | none =>
    simp only [Option.isSome_none, Bool.false_eq_true, if_false]
    split_ifs with hc
    · rw [utf8Size_ascii (unicodeEscape_ascii u)]
      rfl
    · rfl

/-- An escaped unit never begins with a low surrogate. -/
lemma escapeUnit_head_not_low (u : UInt16) (t : JsString) :
    ∀ v ∈ (escapeUnit u ++ t).head?, isLow v = false := by
  unfold escapeUnit
  cases shortEscape? u with
  | some letter => simp; decide
  | none =>
    dsimp only
    split_ifs with hc
    · simp [unicodeEscape]; decide
    · simp_all

lemma escape_head_not_low : ∀ v ∈ (escape s).head?, isLow v = false := by
  induction s using utf8Size.induct with
  | case1 => simp [escape]
  | case2 u => simpa [escape] using escapeUnit_head_not_low u []
  | case3 u v rest hp ih =>
    have hu : isHigh u = true := by simp_all
    have : isLow u = false := by
      simp only [isHigh, isLow, Bool.and_eq_true, decide_eq_true_eq, Bool.and_eq_false_iff,
        decide_eq_false_iff_not, UInt16.le_iff_toNat_le] at hu ⊢
      simp at hu ⊢
      omega
    simpa only [escape, if_pos hp, List.head?_cons, Option.mem_some_iff, forall_eq'] using this
  | case4 u v rest hp ih =>
    simpa only [escape, if_neg hp] using escapeUnit_head_not_low u (escape (v :: rest))

/-- The UTF-8 size of the contents of a JSON string. -/
theorem utf8Size_escape : utf8Size (escape s) = escapedSize s := by
  induction s using utf8Size.induct with
  | case1 => rfl
  | case2 u => simp [escape, escapedSize, utf8Size_escapeUnit]
  | case3 u v rest hp ih => simp only [escape, escapedSize, if_pos hp, utf8Size, ih]
  | case4 u v rest hp ih =>
    simp only [escape, escapedSize, if_neg hp]
    rw [utf8Size_append (escape_head_not_low _), utf8Size_escapeUnit, ih]

/-- A JSON string. -/
def quote : JsString := 0x22 :: escape s ++ [0x22]

lemma utf8Size_quote : utf8Size (quote s) = escapedSize s + 2 := by
  rw [quote, utf8Size_append (by simp; decide), utf8Size_cons_of_not_high (by decide),
    utf8Size_escape]
  have h1 : unitSize 0x22 = 1 := by decide
  have h2 : utf8Size [0x22] = 1 := by decide
  omega

/-! ### Numbers -/

/-- A decimal digit. -/
def isDigit (u : UInt16) : Bool := 0x30 ≤ u && u ≤ 0x39

/-- A unit of a number: a digit, `.`, `e`, `E`, `-` or `+`. -/
def isNumberUnit (u : UInt16) : Bool :=
  isDigit u || u = 0x2E || u = 0x65 || u = 0x45 || u = 0x2D || u = 0x2B

/-- The end of a number: nothing, or an exponent. -/
def isExponent : JsString → Bool
  | [] => true
  | [_] => false
  | e :: sign :: digits =>
    e = 0x65 && (sign = 0x2D || sign = 0x2B) && !digits.isEmpty && digits.all isDigit

/-- A fraction without trailing zeros, and what follows it. -/
def isFraction : Bool :=
  match s with
  | [] => true
  | u :: rest =>
    if u = 0x2E then
      (rest.takeWhile isDigit).getLast?.any (· ≠ 0x30) && isExponent (rest.dropWhile isDigit)
    else isExponent s

/-- The text of a number that is not a natural one: with a sign, a fraction or an
exponent. -/
def isDecimalText : Bool :=
  let unsigned := if s.head? = some 0x2D then s.tail else s
  let whole := unsigned.takeWhile isDigit
  s.all isNumberUnit && !s.all isDigit && s ≠ [0x2D, 0x30]
    && !whole.isEmpty && (whole.length = 1 || whole.head? ≠ some 0x30)
    && isFraction (unsigned.dropWhile isDigit)

end JsString

/-! ### Values -/

/-- A number that is not a natural one, by its text: equal numbers have equal
texts. -/
structure Decimal where
  text : JsString
  wellFormed : JsString.isDecimalText text = true
  deriving DecidableEq

/-- A JSON value.  An object lists its fields in order. -/
inductive Json
  | null
  | bool (b : Bool)
  | num (n : Nat)
  | decimal (d : Decimal)
  | str (s : JsString)
  | arr (items : List Json)
  | obj (fields : List (String × Json))

namespace Json

open JsString

mutual

/-- `JSON.stringify`. -/
def stringify : Json → JsString
  | null => ofString "null"
  | bool true => ofString "true"
  | bool false => ofString "false"
  | num n => ofString (toString n)
  | decimal d => d.text
  | str s => quote s
  | arr items => 0x5B :: stringifyItems items ++ [0x5D]
  | obj fields => 0x7B :: stringifyFields fields ++ [0x7D]

/-- The items of an array, separated by commas. -/
def stringifyItems : List Json → JsString
  | [] => []
  | [item] => stringify item
  | item :: items => stringify item ++ 0x2C :: stringifyItems items

/-- The fields of an object, separated by commas. -/
def stringifyFields : List (String × Json) → JsString
  | [] => []
  | [(name, value)] => quote (ofString name) ++ 0x3A :: stringify value
  | (name, value) :: fields =>
    quote (ofString name) ++ 0x3A :: (stringify value ++ 0x2C :: stringifyFields fields)

end

/-- `Boolean(value)`. -/
def truthy : Option Json → Bool
  | none => false
  | some .null => false
  | some (.bool b) => b
  | some (.num n) => n ≠ 0
  | some (.str s) => s ≠ []
  | some _ => true

/-- The bytes of the JSON text of a value. -/
def encodedSize (value : Json) : Nat := utf8Size (stringify value)

/-- The bytes of the fields of an object. -/
def fieldsSize : List (String × Json) → Nat
  | [] => 0
  | [(name, value)] => escapedSize (ofString name) + 3 + encodedSize value
  | (name, value) :: fields =>
    escapedSize (ofString name) + 4 + encodedSize value + fieldsSize fields

/-- The bytes of the items of an array. -/
def itemsSize : List Json → Nat
  | [] => 0
  | [item] => encodedSize item
  | item :: items => encodedSize item + 1 + itemsSize items

lemma utf8Size_stringifyFields (fields : List (String × Json)) :
    utf8Size (stringifyFields fields) = fieldsSize fields := by
  have hcolon : unitSize 0x3A = 1 := by decide
  have hcomma : unitSize 0x2C = 1 := by decide
  induction fields using fieldsSize.induct with
  | case1 => rfl
  | case2 name value =>
    rw [stringifyFields, fieldsSize, utf8Size_append (by simp; decide), utf8Size_quote,
      utf8Size_cons_of_not_high (by decide), encodedSize]
    omega
  | case3 name value fields hne ih =>
    rw [stringifyFields, fieldsSize, utf8Size_append (by simp; decide), utf8Size_quote,
      utf8Size_cons_of_not_high (by decide), utf8Size_append (by simp; decide),
      utf8Size_cons_of_not_high (by decide), ih, encodedSize]
    · omega
    · exact hne
    · exact hne

lemma utf8Size_stringifyItems (items : List Json) :
    utf8Size (stringifyItems items) = itemsSize items := by
  have hcomma : unitSize 0x2C = 1 := by decide
  induction items using itemsSize.induct with
  | case1 => rfl
  | case2 item => rfl
  | case3 item items hne ih =>
    rw [stringifyItems, itemsSize, utf8Size_append (by simp; decide),
      utf8Size_cons_of_not_high (by decide), ih, encodedSize]
    · omega
    · exact hne
    · exact hne

@[simp] lemma encodedSize_str (s : JsString) : encodedSize (str s) = escapedSize s + 2 := by
  rw [encodedSize, stringify, utf8Size_quote]

@[simp] lemma encodedSize_obj (fields : List (String × Json)) :
    encodedSize (obj fields) = fieldsSize fields + 2 := by
  have hopen : unitSize 0x7B = 1 := by decide
  have hclose : utf8Size [0x7D] = 1 := by decide
  rw [encodedSize, stringify, utf8Size_append (by simp; decide),
    utf8Size_cons_of_not_high (by decide), utf8Size_stringifyFields]
  omega

@[simp] lemma encodedSize_arr (items : List Json) :
    encodedSize (arr items) = itemsSize items + 2 := by
  have hopen : unitSize 0x5B = 1 := by decide
  have hclose : utf8Size [0x5D] = 1 := by decide
  rw [encodedSize, stringify, utf8Size_append (by simp; decide),
    utf8Size_cons_of_not_high (by decide), utf8Size_stringifyItems]
  omega

end Json

end Library

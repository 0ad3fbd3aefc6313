import TetiBot.Library.Utf16

/-
Text that arrives in pieces.

* `Utf8Decoder`: a decoder that is fed bytes; what it has of an unfinished character
  waits for the next piece, and what is no character becomes U+FFFD.
* `Utf8Decoder.decode_append`: what a text decodes to does not depend on where it is
  cut.
* `splitLines`: the finished lines of a buffer, and the rest after the last of them.
* `splitLines_append`: a rest that goes on with the next piece gives the same lines as
  the whole.
-/

namespace Library

/-! ### Decoding -/

/-- What is known of an unfinished character: its bits so far, how many bytes are missing,
and the range of the next one. -/
structure Utf8Decoder where
  codePoint : UInt32
  needed : Nat
  lower : UInt8
  upper : UInt8
  deriving DecidableEq

namespace Utf8Decoder

def fresh : Utf8Decoder := ⟨0, 0, 0x80, 0xBF⟩

/-- U+FFFD. -/
def replacement : JsString := [0xFFFD]

/-- A byte that begins a character. -/
def begin (b : UInt8) : Utf8Decoder × JsString :=
  if b ≤ 0x7F then (fresh, [b.toUInt16])
  else if 0xC2 ≤ b && b ≤ 0xDF then (⟨(b &&& 0x1F).toUInt32, 1, 0x80, 0xBF⟩, [])
  else if 0xE0 ≤ b && b ≤ 0xEF then
    (⟨(b &&& 0x0F).toUInt32, 2, if b = 0xE0 then 0xA0 else 0x80, if b = 0xED then 0x9F else 0xBF⟩, [])
  else if 0xF0 ≤ b && b ≤ 0xF4 then
    (⟨(b &&& 0x07).toUInt32, 3, if b = 0xF0 then 0x90 else 0x80, if b = 0xF4 then 0x8F else 0xBF⟩, [])
  else (fresh, replacement)

/-- One byte. -/
def step (d : Utf8Decoder) (b : UInt8) : Utf8Decoder × JsString :=
  if d.needed = 0 then begin b
  else if d.lower ≤ b && b ≤ d.upper then
    let codePoint := (d.codePoint <<< 6) ||| (b &&& 0x3F).toUInt32
    if d.needed = 1 then (fresh, JsString.ofChar (Char.ofNat codePoint.toNat))
    else (⟨codePoint, d.needed - 1, 0x80, 0xBF⟩, [])
  else
    -- the unfinished character is given up, and the byte begins another one
    ((begin b).1, replacement ++ (begin b).2)

/-- The text of some bytes, and what is left of an unfinished character. -/
def decode : Utf8Decoder → List UInt8 → Utf8Decoder × JsString
  | d, [] => (d, [])
  | d, b :: bytes =>
    let next := d.step b
    let rest := decode next.1 bytes
    (rest.1, next.2 ++ rest.2)

/-- **Decoding in pieces**: the text does not depend on where the bytes are cut. -/
theorem decode_append (d : Utf8Decoder) (a b : List UInt8) :
    d.decode (a ++ b)
      = (((d.decode a).1.decode b).1, (d.decode a).2 ++ ((d.decode a).1.decode b).2) := by
  induction a generalizing d with
  | nil => rfl
  | cons x a ih => simp only [List.cons_append, decode, ih, List.append_assoc]

end Utf8Decoder

/-! ### Lines -/

variable {α : Type*} [DecidableEq α] (separator : α)

/-- The finished lines of a buffer, and the rest after the last of them. -/
def splitLines : List α → List (List α) × List α
  | [] => ([], [])
  | a :: rest =>
    let found := splitLines rest
    if a = separator then ([] :: found.1, found.2)
    else match found.1 with
      | [] => ([], a :: found.2)
      | line :: lines => ((a :: line) :: lines, found.2)

variable {separator}

lemma splitLines_separator (rest : List α) :
    splitLines separator (separator :: rest)
      = ([] :: (splitLines separator rest).1, (splitLines separator rest).2) := by
  simp [splitLines]

lemma splitLines_cons {a : α} (h : a ≠ separator) (rest : List α) :
    splitLines separator (a :: rest) = match (splitLines separator rest).1 with
      | [] => ([], a :: (splitLines separator rest).2)
      | line :: lines => ((a :: line) :: lines, (splitLines separator rest).2) := by
  simp [splitLines, h]

/-- **Lines in pieces**: the rest of one piece, with the next piece after it, gives the
lines that the whole gives. -/
theorem splitLines_append (a b : List α) :
    splitLines separator (a ++ b)
      = ((splitLines separator a).1 ++ (splitLines separator ((splitLines separator a).2 ++ b)).1,
          (splitLines separator ((splitLines separator a).2 ++ b)).2) := by
  induction a with
  | nil => rfl
  | cons x a ih =>
    rw [List.cons_append]
    by_cases hx : x = separator
    · subst hx
      rw [splitLines_separator, splitLines_separator, ih]
      rfl
    · rw [splitLines_cons hx, splitLines_cons hx, ih]
      cases hlines : (splitLines separator a).1 with
      | nil =>
        dsimp only [List.nil_append]
        rw [List.cons_append, splitLines_cons hx]
      | cons line lines => rfl

end Library

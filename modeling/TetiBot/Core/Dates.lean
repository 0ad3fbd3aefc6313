import TetiBot.Core.Types
import TetiBot.Library.JsonText

/-
`Date.parse` for the texts in the date time string format, with a time and an
offset: `2026-07-18T01:00:00.000Z`.  Of other texts the engine decides; here they
are not times.
-/

namespace TetiBot

open Library Library.JsString

/-- A number of `count` digits, and what follows it. -/
def readDigits (count : Nat) (s : JsString) : Option (Nat × JsString) :=
  if (s.take count).length = count ∧ (s.take count).all isDigit then
    some (digitsValue (s.take count), s.drop count)
  else none

/-- What follows a character. -/
def readUnit (u : UInt16) : JsString → Option JsString
  | [] => none
  | v :: rest => if v = u then some rest else none

/-- The days from 1 January 1970 to a date. -/
def daysFromCivil (year : Int) (month day : Nat) : Int :=
  let year := if month ≤ 2 then year - 1 else year
  let era := year / 400
  let yearOfEra := (year % 400).toNat
  let shifted := if month ≤ 2 then month + 9 else month - 3
  let dayOfYear := (153 * shifted + 2) / 5 + day - 1
  let dayOfEra := yearOfEra * 365 + yearOfEra / 4 - yearOfEra / 100 + dayOfYear
  era * 146097 + dayOfEra - 719468

/-- Seconds and their fraction, in milliseconds; both may be left out. -/
def readSeconds (s : JsString) : Option (Nat × JsString) :=
  match readUnit 0x3A s with
  | none => some (0, s)
  | some s => do
    let (seconds, s) ← readDigits 2 s
    match readUnit 0x2E s with
    | none => some (seconds * 1000, s)
    | some s =>
      let digits := s.takeWhile isDigit
      if digits = [] then none
      else
        some (seconds * 1000 + digitsValue ((digits ++ [0x30, 0x30]).take 3), s.dropWhile isDigit)

/-- The offset from UTC in minutes, at the end of the text. -/
def readOffset (s : JsString) : Option Int :=
  match s with
  | [0x5A] => some 0
  | sign :: s => do
    let (hours, s) ← readDigits 2 s
    let s ← readUnit 0x3A s
    let (minutes, s) ← readDigits 2 s
    if s ≠ [] ∨ 23 < hours ∨ 59 < minutes then none
    else if sign = 0x2B then some (hours * 60 + minutes)
    else if sign = 0x2D then some (-(hours * 60 + minutes : Int))
    else none
  | [] => none

/-- `Date.parse`. -/
def dateParse (s : JsString) : Option Timestamp := do
  let (year, s) ← readDigits 4 s
  let s ← readUnit 0x2D s
  let (month, s) ← readDigits 2 s
  let s ← readUnit 0x2D s
  let (day, s) ← readDigits 2 s
  let s ← readUnit 0x54 s
  let (hours, s) ← readDigits 2 s
  let s ← readUnit 0x3A s
  let (minutes, s) ← readDigits 2 s
  let (milliseconds, s) ← readSeconds s
  let offset ← readOffset s
  if month < 1 ∨ 12 < month ∨ day < 1 ∨ 31 < day ∨ 23 < hours ∨ 59 < minutes
      ∨ 59999 < milliseconds then none
  else
    some ((daysFromCivil year month day * 1440 + hours * 60 + minutes - offset) * 60000
      + milliseconds)

/-- The same instant in two spellings. -/
example : dateParse (ofString "2026-07-18T01:00:00.000Z")
    = dateParse (ofString "2026-07-18T03:00+02:00") := by
  decide +kernel

end TetiBot

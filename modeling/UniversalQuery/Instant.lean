import UniversalQuery.Calendar
import UniversalQuery.Decimal.Basic

set_option autoImplicit false

/-! Instants in time: reading them from RFC 3339 text and writing them in universal time. -/

namespace UniversalQuery

/-- An instant, to the nanosecond. The minute count is in universal time. A minute may have a leap
second, which is its second 60. -/
@[ext]
structure Instant where
  minute : Int
  nanosecond : Nat
  nanosecond_lt : nanosecond < 61 * Nat.pow 10 9
deriving DecidableEq, Repr

namespace Instant

/-! ## Reading -/

def readDigits (count : Nat) (text : List Char) : Option (Nat × List Char) :=
  let digits := text.take count
  if digits.length = count ∧ digits.all Decimal.isDigit then
    some (Decimal.ofDigits digits, text.drop count)
  else none

def readOneOf (accepted : List Char) : List Char → Option (List Char)
  | c :: rest => if c ∈ accepted then some rest else none
  | [] => none

/-- Reads a calendar date, year first. -/
def readDate (text : List Char) : Option (Calendar.Date × List Char) := do
  let (year, text) ← readDigits 4 text
  let text ← readOneOf ['-'] text
  let (month, text) ← readDigits 2 text
  let text ← readOneOf ['-'] text
  let (day, text) ← readDigits 2 text
  let date : Calendar.Date := ⟨year, month, day⟩
  if date.exists then some (date, text) else none

/-- Reads the fraction of a second in nanoseconds. Digits after the ninth are ignored. -/
def readFraction : List Char → Option (Nat × List Char)
  | '.' :: text =>
    let digits := text.takeWhile Decimal.isDigit
    if digits = [] then none
    else
      let kept := digits.take 9
      some (Decimal.ofDigits kept * Nat.pow 10 (9 - kept.length), text.dropWhile Decimal.isDigit)
  | text => some (0, text)

/-- Reads the distance from universal time in minutes. The minus sign may be the hyphen or the
mathematical one. -/
def readOffset : List Char → Option (Int × List Char)
  | [] => none
  | sign :: text =>
    if sign = 'Z' ∨ sign = 'z' then some (0, text)
    else if sign = '+' ∨ sign = '-' ∨ sign = '\u2212' then do
      let (hours, text) ← readDigits 2 text
      let text ← readOneOf [':'] text
      let (minutes, text) ← readDigits 2 text
      if hours < 24 ∧ minutes < 60 then
        let distance : Int := 60 * hours + minutes
        some (if sign = '+' then distance else -distance, text)
      else none
    else none

def ofChars? (text : List Char) : Option Instant := do
  let (date, text) ← readDate text
  let text ← readOneOf ['T', 't', ' '] text
  let (hour, text) ← readDigits 2 text
  let text ← readOneOf [':'] text
  let (minute, text) ← readDigits 2 text
  let text ← readOneOf [':'] text
  let (second, text) ← readDigits 2 text
  let (fraction, text) ← readFraction text
  let (offset, text) ← readOffset text
  if hour < 24 ∧ minute < 60 ∧ text = [] then
    let nanosecond := second * Nat.pow 10 9 + fraction
    if bounded : nanosecond < 61 * Nat.pow 10 9 then
      some ⟨1440 * date.dayNumber + 60 * hour + minute - offset, nanosecond, bounded⟩
    else none
  else none

def ofText? (text : String) : Option Instant :=
  ofChars? text.toList

/-! ## Writing -/

/-- Four digits for the years from 0 to 9999; other years have a sign. -/
def yearText (year : Int) : String :=
  if 0 ≤ year ∧ year ≤ 9999 then Decimal.padded 4 year.toNat
  else (if year < 0 then "-" else "+") ++ Decimal.padded 4 year.natAbs

/-- The instant in universal time, `YYYY-MM-DDTHH:MM:SS.mmmZ`. What is finer than a millisecond is
cut off. -/
def isoText (instant : Instant) : String :=
  let date := Calendar.ofDayNumber (instant.minute / 1440)
  let minute := (instant.minute % 1440).toNat
  yearText date.year ++ "-" ++ Decimal.padded 2 date.month ++ "-" ++ Decimal.padded 2 date.day ++
    "T" ++ Decimal.padded 2 (minute / 60) ++ ":" ++ Decimal.padded 2 (minute % 60) ++
    ":" ++ Decimal.padded 2 (instant.nanosecond / Nat.pow 10 9) ++
    "." ++ Decimal.padded 3 (instant.nanosecond / Nat.pow 10 6 % 1000) ++ "Z"

def truncated (instant : Instant) : Instant :=
  ⟨instant.minute, instant.nanosecond / Nat.pow 10 6 * Nat.pow 10 6,
    Nat.lt_of_le_of_lt (Nat.div_mul_le_self _ _) instant.nanosecond_lt⟩

theorem truncated_minute (instant : Instant) : instant.truncated.minute = instant.minute := rfl

theorem truncated_nanosecond (instant : Instant) :
    instant.truncated.nanosecond = instant.nanosecond / Nat.pow 10 6 * Nat.pow 10 6 := rfl

theorem truncated_truncated (instant : Instant) :
    instant.truncated.truncated = instant.truncated := by
  have positive : 0 < Nat.pow 10 6 := by decide
  have whole := Nat.mul_div_cancel (instant.nanosecond / Nat.pow 10 6) positive
  have nanosecond : instant.truncated.truncated.nanosecond = instant.truncated.nanosecond := by
    rw [truncated_nanosecond, truncated_nanosecond, whole]
  exact Instant.ext rfl nanosecond

def year (instant : Instant) : Int :=
  (Calendar.ofDayNumber (instant.minute / 1440)).year

end Instant

end UniversalQuery

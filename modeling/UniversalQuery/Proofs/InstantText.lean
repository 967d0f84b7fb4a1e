import Mathlib.Algebra.Group.Nat.Defs
import UniversalQuery.Instant
import UniversalQuery.Proofs.CalendarDays
import UniversalQuery.Proofs.Numeral

set_option autoImplicit false

/-! The text of an instant against the reading of it. Texts with a year of four digits give the
instant back, cut to milliseconds; the signed years of other texts are not read. -/

namespace UniversalQuery

/-! ## Digits -/

namespace Decimal

theorem ofDigits_toDigits (n : Nat) : ofDigits (Nat.toDigits 10 n) = n := by
  have digits := @Nat.ofDigitChars_ten_toDigits n
  rw [Nat.ofDigitChars] at digits
  simpa only [ofDigits, digitValue, Nat.mul_comm 10] using digits

theorem ofDigits_zeros_append (count : Nat) (digits : List Char) :
    ofDigits (List.replicate count '0' ++ digits) = ofDigits digits := by
  induction count with
  | zero => rfl
  | succ count ih => exact ih

/-- The digits of a number with zeros before it. -/
structure IsPadded (width n : Nat) (digits : List Char) : Prop where
  length : digits.length = width
  all : ∀ c ∈ digits, isDigit c = true
  value : ofDigits digits = n

private theorem isPadded {width n : Nat} (positive : 0 < width) (fits : n < 10 ^ width) :
    IsPadded width n (padded width n).toList := by
  have short : (Nat.toDigits 10 n).length ≤ width :=
    (Nat.length_toDigits_le_iff (by decide) positive).mpr fits
  rw [padded, String.toList_ofList, List.leftpad]
  constructor
  · rw [List.length_append, List.length_replicate]
    omega
  · intro c member
    rcases List.mem_append.mp member with zero | digit
    · exact isDigit_of_mem_zeros zero
    · exact (isDigits_toDigits n).2 c digit
  · rw [ofDigits_zeros_append, ofDigits_toDigits]

end Decimal

namespace Instant

open Decimal

/-! ## Parts of a text -/

theorem readDigits_append {width n : Nat} {digits : List Char} (padded : IsPadded width n digits)
    (rest : List Char) : readDigits width (digits ++ rest) = some (n, rest) := by
  obtain ⟨length, valid, value⟩ := padded
  have all : digits.all isDigit = true := List.all_eq_true.mpr valid
  rw [readDigits, ← length]
  simp [all, value]

private theorem readDigits_eq_none {count : Nat} {c : Char} (positive : 0 < count)
    (other : isDigit c = false) (rest : List Char) : readDigits count (c :: rest) = none := by
  obtain ⟨fewer, rfl⟩ := Nat.exists_eq_add_one_of_ne_zero (Nat.ne_of_gt positive)
  simp [readDigits, other]

private theorem readOneOf_cons {accepted : List Char} {c : Char} (member : c ∈ accepted)
    (rest : List Char) : readOneOf accepted (c :: rest) = some rest := by
  rw [readOneOf, if_pos member]

private theorem readFraction_milliseconds {milliseconds : Nat} {digits : List Char} {c : Char}
    (padded : IsPadded 3 milliseconds digits) (other : isDigit c = false) (rest : List Char) :
    readFraction ('.' :: (digits ++ c :: rest)) =
      some (milliseconds * Nat.pow 10 6, c :: rest) := by
  obtain ⟨length, valid, value⟩ := padded
  have taken : (digits ++ c :: rest).takeWhile isDigit = digits := by
    rw [List.takeWhile_append_of_pos valid, List.takeWhile_cons_of_neg (by simp [other]),
      List.append_nil]
  have dropped : (digits ++ c :: rest).dropWhile isDigit = c :: rest := by
    rw [List.dropWhile_append_of_pos valid, List.dropWhile_cons_of_neg (by simp [other])]
  have some : digits ≠ [] := by
    rintro rfl
    cases length
  have kept : digits.take 9 = digits := List.take_of_length_le (by omega)
  simp [readFraction, taken, dropped, some, kept, length, value]

private theorem readDate_append {date : Calendar.Date} {year month day : List Char}
    (years : IsPadded 4 date.year.toNat year) (nonneg : 0 ≤ date.year)
    (months : IsPadded 2 date.month month) (days : IsPadded 2 date.day day)
    (valid : date.exists = true) (rest : List Char) :
    readDate ((year ++ '-' :: (month ++ '-' :: day)) ++ rest) = some (date, rest) := by
  have same : (⟨(date.year.toNat : Int), date.month, date.day⟩ : Calendar.Date) = date := by
    rw [Int.toNat_of_nonneg nonneg]
  simp only [readDate, List.append_assoc, List.cons_append, readDigits_append years,
    readDigits_append months, readDigits_append days, readOneOf, List.mem_singleton, if_true,
    Option.bind_eq_bind, Option.bind_some, same, valid]

theorem toList_isoText (instant : Instant) :
    instant.isoText.toList =
      (yearText instant.year).toList ++ '-' ::
        ((padded 2 (Calendar.ofDayNumber (instant.minute / 1440)).month).toList ++ '-' ::
          ((padded 2 (Calendar.ofDayNumber (instant.minute / 1440)).day).toList ++ 'T' ::
            ((padded 2 ((instant.minute % 1440).toNat / 60)).toList ++ ':' ::
              ((padded 2 ((instant.minute % 1440).toNat % 60)).toList ++ ':' ::
                ((padded 2 (instant.nanosecond / Nat.pow 10 9)).toList ++ '.' ::
                  ((padded 3 (instant.nanosecond / Nat.pow 10 6 % 1000)).toList ++ ['Z'])))))) := by
  simp [isoText, year, String.toList_append]

/-! ## Texts -/

/-- The text of a date and a clock in universal time is read as their instant. -/
theorem ofChars?_append {instant : Instant} {date : Calendar.Date}
    {hour minute second milliseconds : Nat} {dates hours minutes seconds fraction : List Char}
    (dated : ∀ rest, readDate (dates ++ rest) = some (date, rest))
    (hourDigits : IsPadded 2 hour hours) (inDay : hour < 24)
    (minuteDigits : IsPadded 2 minute minutes) (inHour : minute < 60)
    (secondDigits : IsPadded 2 second seconds)
    (fractionDigits : IsPadded 3 milliseconds fraction)
    (clock : instant.minute = 1440 * date.dayNumber + 60 * hour + minute)
    (inMinute : instant.nanosecond = second * Nat.pow 10 9 + milliseconds * Nat.pow 10 6) :
    ofChars? (dates ++ 'T' :: (hours ++ ':' :: (minutes ++ ':' ::
        (seconds ++ '.' :: (fraction ++ ['Z']))))) = some instant := by
  obtain ⟨_, _, bounded⟩ := instant
  dsimp only at clock inMinute
  subst clock inMinute
  have fractions := readFraction_milliseconds fractionDigits (by decide : isDigit 'Z' = false) []
  have offset : readOffset ['Z'] = some (0, []) := rfl
  simp only [ofChars?, dated, readDigits_append hourDigits, readDigits_append minuteDigits,
    readDigits_append secondDigits, fractions, offset, readOneOf_cons, List.mem_cons, true_or,
    Option.bind_eq_bind, Option.bind_some]
  rw [if_pos ⟨inDay, inHour, trivial⟩, dif_pos bounded, Int.sub_zero]

private theorem nanosecond_parts (nanosecond : Nat) :
    nanosecond / Nat.pow 10 9 * Nat.pow 10 9 + nanosecond / Nat.pow 10 6 % 1000 * Nat.pow 10 6 =
      nanosecond / Nat.pow 10 6 * Nat.pow 10 6 := by
  have second : Nat.pow 10 9 = 1000000000 := rfl
  have millisecond : Nat.pow 10 6 = 1000000 := rfl
  rw [second, millisecond]
  omega

private theorem second_lt (instant : Instant) : instant.nanosecond / Nat.pow 10 9 < 10 ^ 2 := by
  have inMinute := Nat.div_lt_of_lt_mul (Nat.mul_comm _ _ ▸ instant.nanosecond_lt)
  omega

private theorem lt_hundred_of_exists {date : Calendar.Date} (valid : date.exists = true) :
    date.month < 10 ^ 2 ∧ date.day < 10 ^ 2 := by
  have short : Calendar.monthLength date.year date.month ≤ 31 := by
    unfold Calendar.monthLength
    split
    · split <;> decide
    · split <;> decide
  simp only [Calendar.Date.exists, Bool.and_eq_true, decide_eq_true_eq] at valid
  omega

/-- A text with a year of four digits is read as the instant without what is finer than a
millisecond. -/
theorem ofText?_isoText_of_year {instant : Instant} (nonneg : 0 ≤ instant.year)
    (fourDigits : instant.year ≤ 9999) : ofText? instant.isoText = some instant.truncated := by
  have valid := Calendar.exists_ofDayNumber (instant.minute / 1440)
  have number := Calendar.dayNumber_ofDayNumber (instant.minute / 1440)
  have spelled : yearText instant.year = padded 4 instant.year.toNat := by
    rw [yearText, if_pos ⟨nonneg, fourDigits⟩]
  rw [ofText?, toList_isoText, spelled]
  unfold year at nonneg fourDigits ⊢
  -- Of the date only its number and its being a date are used from here on.
  generalize Calendar.ofDayNumber (instant.minute / 1440) = date at *
  obtain ⟨month, day⟩ := lt_hundred_of_exists valid
  have dated := readDate_append (isPadded (by decide) (by omega)) nonneg
    (isPadded (by decide) month) (isPadded (by decide) day) valid
  have clock : instant.truncated.minute =
      1440 * date.dayNumber + 60 * ((instant.minute % 1440).toNat / 60 : Nat) +
        ((instant.minute % 1440).toNat % 60 : Nat) := by
    rw [truncated_minute, number]
    omega
  have hours := isPadded (by decide : 0 < 2)
    (by omega : (instant.minute % 1440).toNat / 60 < 10 ^ 2)
  have minutes := isPadded (by decide : 0 < 2)
    (by omega : (instant.minute % 1440).toNat % 60 < 10 ^ 2)
  have seconds := isPadded (by decide : 0 < 2) (second_lt instant)
  have fraction := isPadded (by decide : 0 < 3)
    (by omega : instant.nanosecond / Nat.pow 10 6 % 1000 < 10 ^ 3)
  have inMinute : instant.truncated.nanosecond = instant.nanosecond / Nat.pow 10 9 * Nat.pow 10 9 +
      instant.nanosecond / Nat.pow 10 6 % 1000 * Nat.pow 10 6 := by
    rw [truncated_nanosecond, nanosecond_parts]
  have read := ofChars?_append dated hours (by omega) minutes (by omega) seconds fraction clock
    inMinute
  rw [← read]
  simp only [List.append_assoc, List.cons_append]

/-- The sign of any other year is no digit, so its text is not read. -/
theorem ofText?_isoText_eq_none {instant : Instant}
    (signed : ¬(0 ≤ instant.year ∧ instant.year ≤ 9999)) : ofText? instant.isoText = none := by
  have starts : ∃ sign rest, (yearText instant.year).toList = sign :: rest ∧
      isDigit sign = false := by
    rw [yearText, if_neg signed, String.toList_append]
    split
    · exact ⟨'-', _, rfl, by decide⟩
    · exact ⟨'+', _, rfl, by decide⟩
  obtain ⟨sign, rest, spelled, other⟩ := starts
  have refused := readDigits_eq_none (by decide : 0 < 4) other
  rw [ofText?, toList_isoText, spelled]
  simp only [ofChars?, readDate, List.cons_append, refused, Option.bind_eq_bind, Option.bind_none]

end Instant

end UniversalQuery

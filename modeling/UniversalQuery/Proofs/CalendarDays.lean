import UniversalQuery.Calendar

set_option autoImplicit false

/-! Day numbers and dates. The date of a day number exists, and the number of that date is the day
number again. Years begin in March here, so that only the last month depends on the year. -/

namespace UniversalQuery.Calendar

/-- The place of a day in a cycle of four hundred years: the year it lies in begins on it or before,
and has a day 365 only if it ends in a leap day. -/
structure IsYearOf (day year : Int) : Prop where
  nonneg : 0 ≤ year
  lt_cycle : year < 400
  begins : 365 * year + year / 4 - year / 100 ≤ day
  ends : day ≤ 365 * year + year / 4 - year / 100 + 365
  leap : day = 365 * year + year / 4 - year / 100 + 365 →
    (year + 1) % 4 = 0 ∧ ((year + 1) % 100 ≠ 0 ∨ (year + 1) % 400 = 0)

/-- The last day of a cycle is apart: it is the leap day of a year that is divisible by 400. -/
theorem isYearOf_lastDay : IsYearOf 146096 399 := by
  constructor <;> decide

private theorem isYearOf_of_lt {day century year : Int} (nonneg : 0 ≤ day) (before : day < 146096)
    (centuries : century = day / 36524) (years : year = (day - day / 1460 + century) / 365) :
    IsYearOf day year := by
  have hundreds : year / 100 = century := by
    -- Linear only for a given century, since the year is a quotient itself.
    have few : century = 0 ∨ century = 1 ∨ century = 2 ∨ century = 3 := by omega
    rcases few with first | second | third | fourth
    · subst first; omega
    · subst second; omega
    · subst third; omega
    · subst fourth; omega
  refine ⟨by omega, by omega, by omega, by omega, fun last => ⟨?_, .inl ?_⟩⟩
  · have late : year / 4 + 1 ≤ day / 1460 := by omega
    have fourth : year % 4 = 3 := by omega
    omega
  · omega

private theorem isYearOf_yearOfCycle {day : Int} (nonneg : 0 ≤ day) (inside : day < 146097) :
    IsYearOf day ((day - day / 1460 + day / 36524 - day / 146096) / 365) := by
  by_cases last : day = 146096
  · subst last
    exact isYearOf_lastDay
  · have none : day / 146096 = 0 := by omega
    rw [none, Int.sub_zero]
    exact isYearOf_of_lt nonneg (by omega) rfl rfl

/-- The parts of a day number: a year, a month after March and a day of the month. -/
structure HasParts (number year month day : Int) : Prop where
  sum : number = 365 * year + year / 4 - year / 100 + year / 400 + (153 * month + 2) / 5 + day - 1
  month_nonneg : 0 ≤ month
  month_le : month ≤ 11
  day_pos : 1 ≤ day
  day_le : day ≤ (153 * (month + 1) + 2) / 5 - (153 * month + 2) / 5
  february : month = 11 → day ≤ 29 ∧ (day = 29 → isLeapYear (year + 1) = true)

private theorem isLeapYear_iff {year : Int} :
    isLeapYear year = true ↔ year % 4 = 0 ∧ (year % 100 ≠ 0 ∨ year % 400 = 0) := by
  simp [isLeapYear]

/-- The parts of a day are those in its cycle, with four hundred years for each cycle before. -/
theorem IsYearOf.hasParts {number cycle dayOfCycle year dayOfYear month : Int}
    (place : IsYearOf dayOfCycle year) (cycles : number = 146097 * cycle + dayOfCycle)
    (days : dayOfYear = dayOfCycle - (365 * year + year / 4 - year / 100))
    (months : month = (5 * dayOfYear + 2) / 153) :
    HasParts number (year + 400 * cycle) month (dayOfYear - (153 * month + 2) / 5 + 1) := by
  obtain ⟨nonneg, lt_cycle, begins, ends, leap⟩ := place
  have fours : (year + 400 * cycle) / 4 = year / 4 + 100 * cycle := by omega
  have hundreds : (year + 400 * cycle) / 100 = year / 100 + 4 * cycle := by omega
  have cycleYears : (year + 400 * cycle) / 400 = cycle := by omega
  have inYear : 0 ≤ dayOfYear ∧ dayOfYear ≤ 365 := by omega
  refine ⟨by omega, by omega, by omega, by omega, by omega, fun last => ⟨by omega, ?_⟩⟩
  intro leapDay
  have ends := leap (by omega)
  rw [isLeapYear_iff]
  omega

theorem exists_parts (number : Int) : ∃ year month day, HasParts number year month day ∧
    ofDayNumber number =
      if month < 10 then ⟨year, (month + 3).toNat, day.toNat⟩
      else ⟨year + 1, (month - 9).toNat, day.toNat⟩ := by
  have place := isYearOf_yearOfCycle (Int.emod_nonneg number (by decide))
    (Int.emod_lt_of_pos number (by decide : (0 : Int) < 146097))
  have cycles : number = 146097 * (number / 146097) + number % 146097 := by omega
  exact ⟨_, _, _, place.hasParts cycles rfl rfl, rfl⟩

/-- The number of the date of a day is its day number. -/
theorem dayNumber_ofDayNumber (number : Int) : (ofDayNumber number).dayNumber = number := by
  obtain ⟨year, month, day, parts, date⟩ := exists_parts number
  have sum := parts.sum
  have nonneg := parts.month_nonneg
  have le := parts.month_le
  have positive := parts.day_pos
  rw [date]
  split
  · have months : (((month + 3).toNat : Int) + 9) % 12 = month := by omega
    have late : ¬ (month + 3).toNat ≤ 2 := by omega
    simp only [Date.dayNumber, months, late, if_false]
    omega
  · have months : (((month - 9).toNat : Int) + 9) % 12 = month := by omega
    have early : (month - 9).toNat ≤ 2 := by omega
    simp only [Date.dayNumber, months, early, if_true]
    rw [Int.add_sub_cancel]
    omega

private theorem le_monthLength {year : Int} {month day : Nat} (short : day ≤ 31)
    (thirty : month = 4 ∨ month = 6 ∨ month = 9 ∨ month = 11 → day ≤ 30)
    (february : month = 2 → day ≤ 29 ∧ (day = 29 → isLeapYear year = true)) :
    day ≤ monthLength year month := by
  unfold monthLength
  split
  · rename_i second
    obtain ⟨bound, leapDay⟩ := february second
    split
    · exact bound
    · rename_i common
      have other : day ≠ 29 := fun last => common (leapDay last)
      omega
  · split
    · rename_i named
      exact thirty named
    · exact short

/-- The date of a day is a date. -/
theorem exists_ofDayNumber (number : Int) : (ofDayNumber number).exists = true := by
  obtain ⟨year, month, day, parts, date⟩ := exists_parts number
  obtain ⟨-, nonneg, le, positive, short, february⟩ := parts
  rw [date, Date.exists]
  split
  · have inMonth : day.toNat ≤ monthLength year (month + 3).toNat := by
      refine le_monthLength (by omega) (by omega) (fun second => ?_)
      omega
    simp only [Bool.and_eq_true, decide_eq_true_eq]
    omega
  · have inMonth : day.toNat ≤ monthLength (year + 1) (month - 9).toNat := by
      refine le_monthLength (by omega) (by omega) (fun second => ?_)
      obtain ⟨bound, leapDay⟩ := february (by omega)
      exact ⟨by omega, fun last => leapDay (by omega)⟩
    simp only [Bool.and_eq_true, decide_eq_true_eq]
    omega

end UniversalQuery.Calendar

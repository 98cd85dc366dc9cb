import Mathlib.Tactic.IntervalCases
import Typeset.Calendar

/-!
# Days of the Gregorian calendar

The number of a date counts days: the next date of the calendar has the next number. Every number
is the one of exactly one date, which is found again from it.

Both ways pass through years that begin in March. Such a year has its leap day last, so the number
of a date is the number of the first of March before it and a count of days that is the same in all
years.
-/

namespace Typeset

namespace Date

/-- The years that have a leap day. -/
def IsLeapYear (year : Int) : Prop :=
  year % 4 = 0 ∧ (year % 100 ≠ 0 ∨ year % 400 = 0)

instance (year : Int) : Decidable (IsLeapYear year) :=
  inferInstanceAs (Decidable (_ ∧ _))

def daysInMonth (year month : Int) : Int :=
  if month = 2 then if IsLeapYear year then 29 else 28
  else if month = 4 ∨ month = 6 ∨ month = 9 ∨ month = 11 then 30
  else 31

/-- A date that the calendar has. -/
structure IsValid (date : Date) : Prop where
  monthPos : 1 ≤ date.month
  monthLe : date.month ≤ 12
  dayPos : 1 ≤ date.day
  dayLe : date.day ≤ daysInMonth date.year date.month

/-- The date after a date. -/
def next (date : Date) : Date :=
  if date.day < daysInMonth date.year date.month then ⟨date.year, date.month, date.day + 1⟩
  else if date.month < 12 then ⟨date.year, date.month + 1, 1⟩
  else ⟨date.year + 1, 1, 1⟩

/-! ## Years that begin in March -/

/-- The number of the first of March. -/
def marchNumber (year : Int) : Int :=
  365 * year + year / 4 - year / 100 + year / 400

/-- The days of a year that begins in March before one of its months. -/
def daysBefore (month : Int) : Int :=
  (153 * month + 2) / 5

/-- A day of a year that begins in March, counted from its first. -/
structure InMarchYear (year day : Int) : Prop where
  nonneg : 0 ≤ day
  le : day ≤ 365
  leap : day = 365 → IsLeapYear (year + 1)

/-- The date of a day of a year that begins in March. -/
def ofMarchDay (year day : Int) : Date :=
  let month := (5 * day + 2) / 153
  let dayOfMonth := day - daysBefore month + 1
  if month < 10 then ⟨year, month + 3, dayOfMonth⟩ else ⟨year + 1, month - 9, dayOfMonth⟩

theorem marchNumber_succ (year : Int) :
    marchNumber (year + 1) = marchNumber year + if IsLeapYear (year + 1) then 366 else 365 := by
  by_cases leap : IsLeapYear (year + 1)
  · rw [if_pos leap]
    unfold IsLeapYear at leap
    unfold marchNumber
    omega
  · rw [if_neg leap]
    unfold IsLeapYear at leap
    unfold marchNumber
    omega

variable {era century cycle rest day year : Int} {date : Date}

/-- The month of a day, counted from March. -/
theorem exists_month (nonneg : 0 ≤ day) (le : day ≤ 365) :
    ∃ month, (5 * day + 2) / 153 = month ∧ 0 ≤ month ∧ month ≤ 11 ∧
      daysBefore month ≤ day ∧ day < daysBefore (month + 1) := by
  refine ⟨(5 * day + 2) / 153, rfl, ?_⟩
  unfold daysBefore
  omega

/-- The months from March to January have one length in all years. -/
theorem daysInMonth_of_march (year month : Int) (nonneg : 0 ≤ month) (less : month < 10) :
    daysInMonth year (month + 3) = daysBefore (month + 1) - daysBefore month := by
  interval_cases month <;> rfl

theorem isValid_ofMarchDay (inYear : InMarchYear year day) : (ofMarchDay year day).IsValid := by
  rcases inYear with ⟨nonneg, le, leap⟩
  rcases exists_month nonneg le with ⟨month, counted, first, last, starts, ends⟩
  simp only [ofMarchDay, counted]
  by_cases early : month < 10
  · rw [if_pos early]
    have length := daysInMonth_of_march year month first early
    constructor <;> simp only <;> omega
  · rw [if_neg early]
    rcases (by omega : month = 10 ∨ month = 11) with rfl | rfl
    · have length : daysInMonth (year + 1) (10 - 9) = 31 := rfl
      have before : daysBefore 10 = 306 := rfl
      have within : daysBefore (10 + 1) = 337 := rfl
      constructor <;> simp only <;> omega
    · have length : daysInMonth (year + 1) (11 - 9) = if IsLeapYear (year + 1) then 29 else 28 :=
        rfl
      have before : daysBefore 11 = 337 := rfl
      constructor <;> simp only [length] <;> try omega
      by_cases longer : IsLeapYear (year + 1)
      · rw [if_pos longer]
        omega
      · rw [if_neg longer]
        have short : day ≠ 365 := fun full => longer (leap full)
        omega

theorem dayNumber_of_march {month : Int} (year : Int) (late : 3 ≤ month) (dayOfMonth : Int) :
    dayNumber ⟨year, month, dayOfMonth⟩ =
      marchNumber year + daysBefore (month - 3) + dayOfMonth - 1 := by
  simp only [dayNumber, marchNumber, daysBefore]
  rw [if_neg (by omega), if_neg (by omega)]

theorem dayNumber_of_january {month : Int} (year : Int) (early : month ≤ 2) (dayOfMonth : Int) :
    dayNumber ⟨year, month, dayOfMonth⟩ =
      marchNumber (year - 1) + daysBefore (month + 9) + dayOfMonth - 1 := by
  simp only [dayNumber, marchNumber, daysBefore]
  rw [if_pos early, if_pos early]

theorem dayNumber_ofMarchDay (inYear : InMarchYear year day) :
    (ofMarchDay year day).dayNumber = marchNumber year + day := by
  rcases exists_month inYear.nonneg inYear.le with ⟨month, counted, first, last, -⟩
  simp only [ofMarchDay, counted]
  by_cases early : month < 10
  · rw [if_pos early, dayNumber_of_march year (by omega), show month + 3 - 3 = month by omega,
      daysBefore]
    omega
  · rw [if_neg early, dayNumber_of_january (year + 1) (by omega),
      show year + 1 - 1 = year by omega, show month - 9 + 9 = month by omega, daysBefore]
    omega

theorem month_eq {month : Int} (starts : daysBefore month ≤ day)
    (ends : day < daysBefore (month + 1)) : (5 * day + 2) / 153 = month := by
  unfold daysBefore at starts ends
  omega

/-- A day is given back from its month and the day of the month. -/
theorem ofMarchDay_eq (month : Int) {dayOfMonth : Int} (starts : daysBefore month ≤ day)
    (ends : day < daysBefore (month + 1)) (counted : day = daysBefore month + dayOfMonth - 1) :
    ofMarchDay year day =
      if month < 10 then ⟨year, month + 3, dayOfMonth⟩ else ⟨year + 1, month - 9, dayOfMonth⟩ := by
  have rest : day - daysBefore month + 1 = dayOfMonth := by omega
  simp only [ofMarchDay, month_eq starts ends, rest]

/-- Every date of the calendar lies in a year that begins in March. -/
theorem exists_marchDay_of_isValid (valid : date.IsValid) :
    ∃ year day, InMarchYear year day ∧ ofMarchDay year day = date := by
  rcases date with ⟨year, month, dayOfMonth⟩
  rcases valid with ⟨monthPos, monthLe, dayPos, dayLe⟩
  simp only at monthPos monthLe dayPos dayLe
  by_cases late : 3 ≤ month
  · have length := daysInMonth_of_march year (month - 3) (by omega) (by omega)
    rw [Int.sub_add_cancel] at length
    refine ⟨year, daysBefore (month - 3) + dayOfMonth - 1, ⟨?_, ?_, ?_⟩, ?_⟩
    · unfold daysBefore
      omega
    · unfold daysBefore at length ⊢
      omega
    · unfold daysBefore at length ⊢
      omega
    · rw [ofMarchDay_eq (month - 3) (by omega) (by omega) rfl, if_pos (by omega),
        Int.sub_add_cancel]
  · rcases (by omega : month = 1 ∨ month = 2) with rfl | rfl
    · have length : daysInMonth year 1 = 31 := rfl
      have before : daysBefore 10 = 306 := rfl
      have within : daysBefore (10 + 1) = 337 := rfl
      refine ⟨year - 1, daysBefore 10 + dayOfMonth - 1, ⟨by omega, by omega, by omega⟩, ?_⟩
      rw [ofMarchDay_eq 10 (by omega) (by omega) rfl, if_neg (by omega),
        Int.sub_add_cancel]
      rfl
    · have length : daysInMonth year 2 = if IsLeapYear year then 29 else 28 := rfl
      have before : daysBefore 11 = 337 := rfl
      have within : daysBefore (11 + 1) = 367 := rfl
      have fits : dayOfMonth ≤ 29 ∧ (dayOfMonth = 29 → IsLeapYear year) := by
        by_cases leap : IsLeapYear year
        · rw [length, if_pos leap] at dayLe
          exact ⟨dayLe, fun _ => leap⟩
        · rw [length, if_neg leap] at dayLe
          omega
      refine ⟨year - 1, daysBefore 11 + dayOfMonth - 1, ⟨by omega, by omega, ?_⟩, ?_⟩
      · intro full
        rw [Int.sub_add_cancel]
        exact fits.2 (by omega)
      · rw [ofMarchDay_eq 11 (by omega) (by omega) rfl, if_neg (by omega),
          Int.sub_add_cancel]
        rfl

/-! ## Numbers of days -/

/--
The parts of a day number: an era of four hundred years, a century of the era, a cycle of four
years, a year of the cycle and a day of the year. Only the last year of a cycle has a leap day, and
the last cycle of a century only if the century ends the era.
-/
structure Parts (era century cycle rest day : Int) : Prop where
  centuryIn : 0 ≤ century ∧ century < 4
  cycleIn : 0 ≤ cycle ∧ cycle < 25
  restIn : 0 ≤ rest ∧ rest < 4
  dayIn : 0 ≤ day ∧ day ≤ 365
  leap : day = 365 → rest = 3 ∧ (cycle = 24 → century = 3)

theorem exists_parts (number : Int) :
    ∃ era century cycle rest day, Parts era century cycle rest day ∧
      number = 146097 * era + (36524 * century + 1461 * cycle + 365 * rest + day) := by
  rcases (⟨number / 146097, number % 146097, by omega⟩ : ∃ era dayOfEra : Int,
    0 ≤ dayOfEra ∧ dayOfEra < 146097 ∧ number = 146097 * era + dayOfEra) with
    ⟨era, dayOfEra, eraNonneg, eraLt, rfl⟩
  have centuries : ∃ century ofCentury : Int, 0 ≤ century ∧ century < 4 ∧ 0 ≤ ofCentury ∧
      (ofCentury < 36524 ∨ century = 3 ∧ ofCentury = 36524) ∧
      dayOfEra = 36524 * century + ofCentury := by
    by_cases last : dayOfEra = 146096
    · exact ⟨3, 36524, by omega⟩
    · exact ⟨dayOfEra / 36524, dayOfEra % 36524, by omega⟩
  rcases centuries with ⟨century, ofCentury, centuryNonneg, centuryLt, nonneg, upTo, rfl⟩
  rcases (⟨ofCentury / 1461, ofCentury % 1461, by omega⟩ : ∃ cycle ofCycle : Int,
    0 ≤ cycle ∧ cycle < 25 ∧ 0 ≤ ofCycle ∧ ofCycle < 1461 ∧ ofCentury = 1461 * cycle + ofCycle) with
    ⟨cycle, ofCycle, cycleNonneg, cycleLt, ofCycleNonneg, ofCycleLt, rfl⟩
  have years : ∃ rest day : Int, 0 ≤ rest ∧ rest < 4 ∧ 0 ≤ day ∧
      (day < 365 ∨ rest = 3 ∧ day = 365) ∧ ofCycle = 365 * rest + day := by
    by_cases last : ofCycle = 1460
    · exact ⟨3, 365, by omega⟩
    · exact ⟨ofCycle / 365, ofCycle % 365, by omega⟩
  rcases years with ⟨rest, day, restNonneg, restLt, dayNonneg, dayUpTo, rfl⟩
  refine ⟨era, century, cycle, rest, day, ⟨⟨centuryNonneg, centuryLt⟩, ⟨cycleNonneg, cycleLt⟩,
    ⟨restNonneg, restLt⟩, by omega, by omega⟩, by omega⟩

namespace Parts

variable (parts : Parts era century cycle rest day)
  (inEra : year = 400 * era + 100 * century + 4 * cycle + rest)
include parts

theorem yearOfEra_eq {dayOfEra : Int}
    (counted : dayOfEra = 36524 * century + 1461 * cycle + 365 * rest + day) :
    (dayOfEra - dayOfEra / 1460 + dayOfEra / 36524 - dayOfEra / 146096) / 365 =
      100 * century + 4 * cycle + rest := by
  rcases parts with ⟨centuryIn, cycleIn, restIn, dayIn, leap⟩
  have cycles : ∃ more, dayOfEra / 1460 = 25 * century + cycle + more ∧ 0 ≤ more ∧ more ≤ 1 ∧
      (day = 0 → more = 0) ∧ (day = 365 → more = 1) := by
    refine ⟨dayOfEra / 1460 - (25 * century + cycle), ?_⟩
    omega
  have centuries : ∃ more, dayOfEra / 36524 = century + more ∧ dayOfEra / 146096 = more := by
    by_cases last : dayOfEra = 146096
    · exact ⟨1, by omega⟩
    · exact ⟨0, by omega⟩
  rcases cycles with ⟨late, cycles, lateNonneg, lateLe, atFirst, atLast⟩
  rcases centuries with ⟨last, centuries, eras⟩
  rw [cycles, centuries, eras]
  omega

include inEra

theorem leapDays :
    year / 4 = 100 * era + 25 * century + cycle ∧ year / 100 = 4 * era + century ∧
      year / 400 = era := by
  rcases parts with ⟨centuryIn, cycleIn, restIn, -, -⟩
  refine ⟨?_, ?_, ?_⟩ <;> omega

theorem marchNumber_eq :
    marchNumber year = 146097 * era + (36524 * century + 1461 * cycle + 365 * rest) := by
  rcases parts.leapDays inEra with ⟨cycles, centuries, eras⟩
  rw [marchNumber, cycles, centuries, eras, inEra]
  omega

theorem inMarchYear : InMarchYear year day := by
  rcases parts with ⟨centuryIn, cycleIn, restIn, dayIn, leap⟩
  refine ⟨dayIn.1, dayIn.2, ?_⟩
  intro full
  rcases leap full with ⟨rfl, lastCycle⟩
  unfold IsLeapYear
  omega

theorem ofDayNumber_eq :
    ofDayNumber (146097 * era + (36524 * century + 1461 * cycle + 365 * rest + day)) =
      ofMarchDay year day := by
  have bounds : 0 ≤ 36524 * century + 1461 * cycle + 365 * rest + day ∧
      36524 * century + 1461 * cycle + 365 * rest + day < 146097 := by
    rcases parts with ⟨centuryIn, cycleIn, restIn, dayIn, leap⟩
    omega
  have yearOfEra := parts.yearOfEra_eq rfl
  generalize counted : 36524 * century + 1461 * cycle + 365 * rest + day = dayOfEra at *
  have whole : (146097 * era + dayOfEra) / 146097 = era := by omega
  have remains : (146097 * era + dayOfEra) % 146097 = dayOfEra := by omega
  have first : Parts 0 century cycle rest day :=
    ⟨parts.centuryIn, parts.cycleIn, parts.restIn, parts.dayIn, parts.leap⟩
  rcases first.leapDays (show 100 * century + 4 * cycle + rest = _ by omega) with
    ⟨cycles, centuries, -⟩
  have years : 100 * century + 4 * cycle + rest + 400 * era = year := by omega
  have days : dayOfEra - (365 * (100 * century + 4 * cycle + rest) +
      (100 * 0 + 25 * century + cycle) - (4 * 0 + century)) = day := by
    omega
  simp only [ofDayNumber, ofMarchDay, daysBefore, whole, remains, yearOfEra, cycles, centuries,
    years, days]

end Parts

/-- Every number is the one of a day in a year that begins in March. -/
theorem exists_marchDay (number : Int) :
    ∃ year day, InMarchYear year day ∧ number = marchNumber year + day ∧
      ofDayNumber number = ofMarchDay year day := by
  rcases exists_parts number with ⟨era, century, cycle, rest, day, parts, rfl⟩
  refine ⟨400 * era + 100 * century + 4 * cycle + rest, day, parts.inMarchYear rfl, ?_,
    parts.ofDayNumber_eq rfl⟩
  rw [parts.marchNumber_eq rfl]
  omega

theorem isValid_ofDayNumber (number : Int) : (ofDayNumber number).IsValid := by
  rcases exists_marchDay number with ⟨year, day, inYear, -, same⟩
  rw [same]
  exact isValid_ofMarchDay inYear

@[simp]
theorem dayNumber_ofDayNumber (number : Int) : (ofDayNumber number).dayNumber = number := by
  rcases exists_marchDay number with ⟨year, day, inYear, counted, same⟩
  rw [same, dayNumber_ofMarchDay inYear, counted]

theorem marchNumber_le {otherYear : Int} (earlier : year ≤ otherYear) :
    marchNumber year ≤ marchNumber otherYear := by
  unfold marchNumber
  omega

/-- The days of a year are numbered before those of the next. -/
theorem InMarchYear.lt_marchNumber {otherYear : Int} (inYear : InMarchYear year day)
    (earlier : year < otherYear) : marchNumber year + day < marchNumber otherYear := by
  rcases inYear with ⟨-, le, leap⟩
  have later := marchNumber_le (Int.add_one_le_of_lt earlier)
  rw [marchNumber_succ] at later
  by_cases longer : IsLeapYear (year + 1)
  · rw [if_pos longer] at later
    omega
  · rw [if_neg longer] at later
    have short : day ≠ 365 := fun full => longer (leap full)
    omega

/-- Days of different years that begin in March have different numbers. -/
theorem marchDay_inj {otherYear otherDay : Int} (inYear : InMarchYear year day)
    (inOther : InMarchYear otherYear otherDay)
    (same : marchNumber year + day = marchNumber otherYear + otherDay) :
    year = otherYear ∧ day = otherDay := by
  have nonneg := inYear.nonneg
  have otherNonneg := inOther.nonneg
  rcases lt_trichotomy year otherYear with earlier | rfl | later
  · have less := inYear.lt_marchNumber earlier
    omega
  · exact ⟨rfl, by omega⟩
  · have less := inOther.lt_marchNumber later
    omega

theorem ofDayNumber_dayNumber (valid : date.IsValid) : ofDayNumber date.dayNumber = date := by
  rcases exists_marchDay_of_isValid valid with ⟨year, day, inYear, rfl⟩
  rw [dayNumber_ofMarchDay inYear]
  rcases exists_marchDay (marchNumber year + day) with ⟨year', day', inYear', counted, same⟩
  rcases marchDay_inj inYear inYear' counted with ⟨rfl, rfl⟩
  exact same

/-! ## The next date -/

theorem one_le_daysInMonth (year month : Int) : 1 ≤ daysInMonth year month := by
  unfold daysInMonth
  split_ifs <;> decide

theorem isValid_next (valid : date.IsValid) : date.next.IsValid := by
  rcases valid with ⟨monthPos, monthLe, dayPos, dayLe⟩
  unfold next
  by_cases inMonth : date.day < daysInMonth date.year date.month
  · rw [if_pos inMonth]
    exact ⟨monthPos, monthLe, by simp only; omega, by simp only; omega⟩
  · rw [if_neg inMonth]
    by_cases inYear : date.month < 12
    · rw [if_pos inYear]
      exact ⟨by simp only; omega, by simp only; omega, le_rfl, one_le_daysInMonth _ _⟩
    · rw [if_neg inYear]
      exact ⟨le_rfl, by simp only; decide, le_rfl, one_le_daysInMonth _ _⟩

theorem dayNumber_next (valid : date.IsValid) : date.next.dayNumber = date.dayNumber + 1 := by
  rcases date with ⟨year, month, dayOfMonth⟩
  rcases valid with ⟨monthPos, monthLe, -, dayLe⟩
  simp only at monthPos monthLe dayLe
  simp only [next]
  by_cases inMonth : dayOfMonth < daysInMonth year month
  · rw [if_pos inMonth]
    simp only [dayNumber]
    omega
  · rw [if_neg inMonth]
    have last : dayOfMonth = daysInMonth year month := by omega
    subst last
    rcases (by omega : month = 1 ∨ month = 2 ∨ (3 ≤ month ∧ month < 12) ∨ month = 12) with
      rfl | rfl | ⟨late, before⟩ | rfl
    · rw [if_pos (by decide), dayNumber_of_january year (by decide),
        dayNumber_of_january year (by decide)]
      have length : daysInMonth year 1 = 31 := rfl
      have january : daysBefore (1 + 9) = 306 := rfl
      have february : daysBefore (1 + 1 + 9) = 337 := rfl
      omega
    · rw [if_pos (by decide), dayNumber_of_march year (by decide),
        dayNumber_of_january year (by decide)]
      have succ := marchNumber_succ (year - 1)
      rw [Int.sub_add_cancel] at succ
      have length : daysInMonth year 2 = if IsLeapYear year then 29 else 28 := rfl
      have february : daysBefore (2 + 9) = 337 := rfl
      have march : daysBefore (2 + 1 - 3) = 0 := rfl
      by_cases leap : IsLeapYear year
      · rw [if_pos leap] at succ length
        omega
      · rw [if_neg leap] at succ length
        omega
    · rw [if_pos before, dayNumber_of_march year (by omega), dayNumber_of_march year late]
      have length := daysInMonth_of_march year (month - 3) (by omega) (by omega)
      rw [Int.sub_add_cancel] at length
      rw [length, show month + 1 - 3 = month - 3 + 1 by omega]
      omega
    · rw [if_neg (by decide), dayNumber_of_january (year + 1) (by decide),
        dayNumber_of_march year (by decide), show year + 1 - 1 = year by omega]
      have length : daysInMonth year 12 = 31 := rfl
      have december : daysBefore (12 - 3) = 275 := rfl
      have january : daysBefore (1 + 9) = 306 := rfl
      omega

theorem isValid_iterate_next (valid : date.IsValid) (days : Nat) : (next^[days] date).IsValid := by
  induction days with
  | zero => exact valid
  | succ days ih =>
      rw [Function.iterate_succ_apply']
      exact isValid_next ih

theorem dayNumber_iterate_next (valid : date.IsValid) (days : Nat) :
    (next^[days] date).dayNumber = date.dayNumber + days := by
  induction days with
  | zero => simp
  | succ days ih =>
      rw [Function.iterate_succ_apply', dayNumber_next (isValid_iterate_next valid days), ih]
      omega

/-- A number some days later is the one of the date that many days later. -/
theorem ofDayNumber_add (number : Int) (days : Nat) :
    ofDayNumber (number + days) = next^[days] (ofDayNumber number) := by
  have valid := isValid_ofDayNumber number
  rw [← ofDayNumber_dayNumber (isValid_iterate_next valid days), dayNumber_iterate_next valid,
    dayNumber_ofDayNumber]

/-! ## Years -/

theorem year_ofMarchDay (inYear : InMarchYear year day) :
    (ofMarchDay year day).year = if day < 306 then year else year + 1 := by
  rcases exists_month inYear.nonneg inYear.le with ⟨month, counted, -, -, starts, ends⟩
  simp only [ofMarchDay, counted]
  unfold daysBefore at starts ends
  by_cases early : month < 10
  · rw [if_pos early, if_pos (by omega)]
  · rw [if_neg early, if_neg (by omega)]

theorem dayNumber_newYear (year : Int) : dayNumber ⟨year, 1, 1⟩ = marchNumber (year - 1) + 306 := by
  rw [dayNumber_of_january year (by decide), show daysBefore (1 + 9) = 306 from rfl]
  omega

/-- A date is numbered between the first day of its year and that of the next. -/
theorem dayNumber_in_year (valid : date.IsValid) :
    dayNumber ⟨date.year, 1, 1⟩ ≤ date.dayNumber ∧
      date.dayNumber < dayNumber ⟨date.year + 1, 1, 1⟩ := by
  rcases exists_marchDay_of_isValid valid with ⟨year, day, inYear, rfl⟩
  rw [dayNumber_newYear, dayNumber_newYear, dayNumber_ofMarchDay inYear, year_ofMarchDay inYear]
  have nonneg := inYear.nonneg
  by_cases early : day < 306
  · rw [if_pos early, show year + 1 - 1 = year by omega]
    have full := marchNumber_succ (year - 1)
    rw [Int.sub_add_cancel] at full
    split_ifs at full <;> omega
  · rw [if_neg early, show year + 1 - 1 = year by omega, show year + 1 + 1 - 1 = year + 1 by omega]
    have less := inYear.lt_marchNumber (lt_add_one year)
    omega

/-- Whether a date can be represented is told by its number. -/
theorem isRepresentable_iff (valid : date.IsValid) :
    date.isRepresentable = true ↔
      dayNumber ⟨firstYear, 1, 1⟩ ≤ date.dayNumber ∧
        date.dayNumber < dayNumber ⟨lastYear + 1, 1, 1⟩ := by
  rcases dayNumber_in_year valid with ⟨starts, ends⟩
  simp only [dayNumber_newYear] at starts ends ⊢
  simp only [isRepresentable, Bool.and_eq_true, decide_eq_true_eq]
  constructor
  · rintro ⟨first, last⟩
    have above := marchNumber_le (show firstYear - 1 ≤ date.year - 1 by omega)
    have below := marchNumber_le (show date.year + 1 - 1 ≤ lastYear + 1 - 1 by omega)
    omega
  · rintro ⟨first, last⟩
    constructor
    · by_contra early
      have below := marchNumber_le (show date.year + 1 - 1 ≤ firstYear - 1 by omega)
      omega
    · by_contra late
      have above := marchNumber_le (show lastYear + 1 - 1 ≤ date.year - 1 by omega)
      omega

end Date

end Typeset

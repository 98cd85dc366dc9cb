import Typeset.Number.Digits

/-!
# The civil calendar

Dates of the Gregorian calendar, extended to all years from 1 to 9999, and
times of day in microseconds. Days are numbered so that shifting a moment is
addition of microseconds; the number of a date counts the days since 1 March of
the year 0, since a year that begins in March has its leap day last.

A moment is a date and a time of day on some clock. An instant says also how far
the clock is ahead of universal time, or leaves that open.
-/

namespace Typeset

structure Date where
  year : Int
  month : Int
  day : Int
  deriving DecidableEq

/-- A time of day, with the microseconds that are part of its second. -/
structure TimeOfDay where
  hour : Int
  minute : Int
  second : Int
  microsecond : Int
  deriving DecidableEq

/-- A date and a time of day, as a clock shows them. -/
structure Moment where
  date : Date
  time : TimeOfDay
  deriving DecidableEq

/-- A moment, and the microseconds by which its clock is ahead of universal time if known. -/
structure Instant where
  moment : Moment
  offset : Option Int
  deriving DecidableEq

namespace Date

/-- The years that a date can have. -/
def firstYear : Int := 1

/-- The last year that a date can have. -/
def lastYear : Int := 9999

def dayNumber (date : Date) : Int :=
  let year := if date.month ≤ 2 then date.year - 1 else date.year
  let month := if date.month ≤ 2 then date.month + 9 else date.month - 3
  365 * year + year / 4 - year / 100 + year / 400 + (153 * month + 2) / 5 + date.day - 1

def ofDayNumber (number : Int) : Date :=
  let era := number / 146097
  let dayOfEra := number % 146097
  let yearOfEra := (dayOfEra - dayOfEra / 1460 + dayOfEra / 36524 - dayOfEra / 146096) / 365
  let dayOfYear := dayOfEra - (365 * yearOfEra + yearOfEra / 4 - yearOfEra / 100)
  let month := (5 * dayOfYear + 2) / 153
  let day := dayOfYear - (153 * month + 2) / 5 + 1
  let year := yearOfEra + 400 * era
  if month < 10 then ⟨year, month + 3, day⟩ else ⟨year + 1, month - 9, day⟩

/-- Whether a date is one that can be represented. -/
def isRepresentable (date : Date) : Bool :=
  firstYear ≤ date.year && date.year ≤ lastYear

/-- A date as `YYYY-MM-DD`. -/
def render (date : Date) : String :=
  let month := Number.padded 2 date.month.toNat
  let day := Number.padded 2 date.day.toNat
  s!"{Number.padded 4 date.year.toNat}-{month}-{day}"

end Date

namespace TimeOfDay

/-- The microseconds since midnight. -/
def microseconds (time : TimeOfDay) : Int :=
  1000000 * (3600 * time.hour + 60 * time.minute + time.second) + time.microsecond

/-- The time of day at a number of microseconds since midnight. -/
def ofMicroseconds (count : Int) : TimeOfDay :=
  let seconds := count / 1000000
  ⟨seconds / 3600, seconds / 60 % 60, seconds % 60, count % 1000000⟩

/-- A time of day as `HH:MM:SS`, with six digits of a fraction only when there is one. -/
def render (time : TimeOfDay) : String :=
  let minute := Number.padded 2 time.minute.toNat
  let second := Number.padded 2 time.second.toNat
  let whole := s!"{Number.padded 2 time.hour.toNat}:{minute}:{second}"
  if time.microsecond = 0 then whole else s!"{whole}.{Number.padded 6 time.microsecond.toNat}"

end TimeOfDay

namespace Moment

def microsecondsPerDay : Int := 86400000000

/-- The microseconds from day zero to a moment. -/
def microseconds (moment : Moment) : Int :=
  microsecondsPerDay * moment.date.dayNumber + moment.time.microseconds

/-- The moment at a number of microseconds from day zero. -/
def ofMicroseconds (count : Int) : Moment :=
  ⟨.ofDayNumber (count / microsecondsPerDay), .ofMicroseconds (count % microsecondsPerDay)⟩

/-- The moment some microseconds later, if its date can be represented. -/
def shift? (moment : Moment) (count : Int) : Option Moment :=
  let shifted := ofMicroseconds (moment.microseconds + count)
  if shifted.date.isRepresentable then some shifted else none

end Moment

namespace Instant

/-- What is said of a moment that cannot be represented. -/
def outOfRangeMessage : String :=
  "date value out of range"

def microsecondsPerHour : Int := 3600000000

/-- The microseconds of an instant in universal time, which an open clock is taken to show. -/
def universalMicroseconds (instant : Instant) : Int :=
  instant.moment.microseconds - instant.offset.getD 0

/-- The moment of an instant in universal time; an open clock is taken to show it. -/
def universal? (instant : Instant) : Option Moment :=
  match instant.offset with
  | none => some instant.moment
  | some offset => instant.moment.shift? (-offset)

/--
The moment of an instant on a clock that is ahead of universal time. It is
found by way of universal time, so both moments have to be representable.
-/
def onClock? (instant : Instant) (offset : Int) : Option Moment := do
  (← instant.universal?).shift? offset

/-- How far a clock is ahead, as `+HH:MM` with what is below a minute only when there is some. -/
def renderOffset (offset : Int) : String :=
  let sign := if offset < 0 then "-" else "+"
  let time := TimeOfDay.ofMicroseconds (offset.natAbs : Int)
  let short := s!"{Number.padded 2 time.hour.toNat}:{Number.padded 2 time.minute.toNat}"
  if time.second = 0 ∧ time.microsecond = 0 then sign ++ short else sign ++ time.render

/-- An instant as text, with a separator between date and time. -/
def render (instant : Instant) (separator : String) : String :=
  instant.moment.date.render ++ separator ++ instant.moment.time.render ++
    (instant.offset.map renderOffset).getD ""

end Instant

end Typeset

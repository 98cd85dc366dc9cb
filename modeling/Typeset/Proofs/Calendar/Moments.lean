import Typeset.Proofs.Calendar.Dates

/-!
# Moments and instants

The microseconds of a moment determine it, so a moment is shifted by adding microseconds. What
a clock shows at an instant depends on the microseconds of the instant in universal time
alone, whatever clock the instant was written with.
-/

namespace Typeset

namespace TimeOfDay

/-- A time that a day has. -/
structure IsValid (time : TimeOfDay) : Prop where
  hour : 0 ≤ time.hour ∧ time.hour < 24
  minute : 0 ≤ time.minute ∧ time.minute < 60
  second : 0 ≤ time.second ∧ time.second < 60
  microsecond : 0 ≤ time.microsecond ∧ time.microsecond < 1000000

@[simp]
theorem microseconds_ofMicroseconds (count : Int) :
    (ofMicroseconds count).microseconds = count := by
  simp only [TimeOfDay.microseconds, ofMicroseconds]
  omega

theorem ofMicroseconds_microseconds {time : TimeOfDay} (valid : time.IsValid) :
    ofMicroseconds time.microseconds = time := by
  rcases time with ⟨hour, minute, second, microsecond⟩
  rcases valid with ⟨hourIn, minuteIn, secondIn, microsecondIn⟩
  simp only at hourIn minuteIn secondIn microsecondIn
  simp only [ofMicroseconds, TimeOfDay.microseconds, mk.injEq]
  refine ⟨?_, ?_, ?_, ?_⟩ <;> omega

theorem isValid_ofMicroseconds {count : Int} (nonneg : 0 ≤ count)
    (less : count < 86400000000) : (ofMicroseconds count).IsValid := by
  constructor <;> simp only [ofMicroseconds] <;> omega

theorem microseconds_in_day {time : TimeOfDay} (valid : time.IsValid) :
    0 ≤ time.microseconds ∧ time.microseconds < 86400000000 := by
  rcases valid with ⟨hourIn, minuteIn, secondIn, microsecondIn⟩
  simp only [TimeOfDay.microseconds]
  omega

end TimeOfDay

namespace Moment

/-- A moment that a clock can show. -/
structure IsValid (moment : Moment) : Prop where
  date : moment.date.IsValid
  time : moment.time.IsValid

@[simp]
theorem microseconds_ofMicroseconds (count : Int) :
    (ofMicroseconds count).microseconds = count := by
  simp only [Moment.microseconds, ofMicroseconds, Date.dayNumber_ofDayNumber,
    TimeOfDay.microseconds_ofMicroseconds]
  exact Int.mul_ediv_add_emod count microsecondsPerDay

theorem isValid_ofMicroseconds (count : Int) : (ofMicroseconds count).IsValid :=
  ⟨Date.isValid_ofDayNumber _, TimeOfDay.isValid_ofMicroseconds
    (Int.emod_nonneg _ (by decide)) (Int.emod_lt_of_pos _ (by decide))⟩

theorem ofMicroseconds_microseconds {moment : Moment} (valid : moment.IsValid) :
    ofMicroseconds moment.microseconds = moment := by
  rcases valid with ⟨date, time⟩
  rcases TimeOfDay.microseconds_in_day time with ⟨nonneg, less⟩
  have days : moment.microseconds / microsecondsPerDay = moment.date.dayNumber := by
    simp only [Moment.microseconds, microsecondsPerDay]
    omega
  have rest : moment.microseconds % microsecondsPerDay = moment.time.microseconds := by
    simp only [Moment.microseconds, microsecondsPerDay]
    omega
  simp only [ofMicroseconds, days, rest, Date.ofDayNumber_dayNumber date,
    TimeOfDay.ofMicroseconds_microseconds time]

/-- Moments that clocks can show are told apart by their microseconds. -/
theorem eq_of_microseconds_eq {left right : Moment} (leftValid : left.IsValid)
    (rightValid : right.IsValid) (same : left.microseconds = right.microseconds) :
    left = right := by
  rw [← ofMicroseconds_microseconds leftValid, same, ofMicroseconds_microseconds rightValid]

/-! ## The years that have dates -/

/-- The first moment of a year. -/
def newYear (year : Int) : Moment :=
  ⟨⟨year, 1, 1⟩, ⟨0, 0, 0, 0⟩⟩

/-- The microseconds of a moment in the years from first to last. -/
def InYears (count : Int) : Prop :=
  (newYear Date.firstYear).microseconds ≤ count ∧
    count < (newYear (Date.lastYear + 1)).microseconds

instance (count : Int) : Decidable (InYears count) :=
  inferInstanceAs (Decidable (_ ∧ _))

theorem isRepresentable_ofMicroseconds_iff (count : Int) :
    (ofMicroseconds count).date.isRepresentable = true ↔ InYears count := by
  rw [Date.isRepresentable_iff (isValid_ofMicroseconds count).date]
  simp only [ofMicroseconds, Date.dayNumber_ofDayNumber, InYears, newYear, Moment.microseconds,
    TimeOfDay.microseconds, microsecondsPerDay]
  omega

theorem shift?_eq (moment : Moment) (count : Int) :
    moment.shift? count =
      if InYears (moment.microseconds + count) then
        some (ofMicroseconds (moment.microseconds + count))
      else none := by
  simp only [shift?, isRepresentable_ofMicroseconds_iff]

end Moment

namespace Instant

open Moment

variable {left right instant : Instant} {offset : Int}

/-- A clock shows a known instant if that can be represented there and in universal time. -/
theorem onClock?_known (moment : Moment) (ahead offset : Int) :
    (⟨moment, some ahead⟩ : Instant).onClock? offset =
      if InYears (moment.microseconds - ahead) ∧ InYears (moment.microseconds - ahead + offset) then
        some (.ofMicroseconds (moment.microseconds - ahead + offset))
      else none := by
  simp only [onClock?, universal?, shift?_eq, ← Int.sub_eq_add_neg]
  by_cases universal : InYears (moment.microseconds - ahead)
  · simp only [universal, true_and, if_true, Option.bind_eq_bind, Option.bind_some,
      microseconds_ofMicroseconds]
  · simp only [universal, false_and, if_false, Option.bind_eq_bind, Option.bind_none]

/-- Instants on known clocks that are the same in universal time look alike on any clock. -/
theorem onClock?_congr (leftKnown : left.offset.isSome = true)
    (rightKnown : right.offset.isSome = true)
    (same : left.universalMicroseconds = right.universalMicroseconds) :
    left.onClock? offset = right.onClock? offset := by
  rcases left with ⟨moment, _ | ahead⟩
  · cases leftKnown
  · rcases right with ⟨moment', _ | ahead'⟩
    · cases rightKnown
    · simp only [universalMicroseconds, Option.getD_some] at same
      rw [onClock?_known, onClock?_known, same]

end Instant

end Typeset

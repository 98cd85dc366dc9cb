import Typeset.Proofs.Calendar.Moments
import Typeset.Proofs.Clock

/-!
# The date of today

The date that a clock gives on a clock some hours ahead is the one that is shown there at
the instant of the period. It is told by the instant in universal time, so it is found
again from any clock that the instant was written with, and clocks further ahead show the
same date or a date shortly after.
-/

namespace Typeset

open Moment

/--
Whether an instant has a date on a clock some hours ahead: the instant can be represented
there and in universal time. If its own clock is open, local time is universal time and the
day before can be represented, too, since local time is resolved by looking one day back.
-/
structure Instant.HasDate (instant : Instant) (zone : LocalZone) (hours : Int) : Prop where
  universal : InYears instant.universalMicroseconds
  shifted : InYears (instant.universalMicroseconds + microsecondsPerHour * hours)
  resolved : instant.offset = none →
    zone = .universal ∧ InYears (instant.universalMicroseconds - microsecondsPerDay)

namespace LocalZone

variable {zone : LocalZone} {instant : Instant}

/-- In the years that have dates a clock without a lead is not ahead. -/
theorem aheadAt_universal {count : Int} (inYears : InYears count) :
    universal.aheadAt (count / microsecondsPerSecond) = .ok 0 := by
  have day : (count / microsecondsPerSecond + 0) / secondsPerDay = count / microsecondsPerDay := by
    simp only [microsecondsPerSecond, secondsPerDay, microsecondsPerDay]
    omega
  have representable := (isRepresentable_ofMicroseconds_iff count).mpr inYears
  simp only [ofMicroseconds] at representable
  simp only [aheadAt, universal, day, representable, if_true]

theorem resolve_universal {count : Int} (inYears : InYears count)
    (dayBefore : InYears (count - microsecondsPerDay)) :
    universal.resolve (count / microsecondsPerSecond) =
      .ok (count / microsecondsPerSecond) := by
  have earlier : count / microsecondsPerSecond - secondsPerDay =
      (count - microsecondsPerDay) / microsecondsPerSecond := by
    simp only [microsecondsPerSecond, secondsPerDay, microsecondsPerDay]
    omega
  simp only [resolve, aheadAt_universal inYears, Int.sub_zero, if_true, earlier,
    aheadAt_universal dayBefore, Bind.bind, Except.bind]
  rfl

theorem settle_known (known : instant.offset.isSome = true) :
    zone.settle instant = .ok instant := by
  rcases instant with ⟨moment, _ | ahead⟩
  · cases known
  · rfl

theorem exists_settle_of_hasDate {hours : Int} (has : instant.HasDate zone hours) :
    ∃ moment ahead, zone.settle instant = .ok ⟨moment, some ahead⟩ ∧
      moment.microseconds - ahead = instant.universalMicroseconds := by
  rcases instant with ⟨moment, _ | ahead⟩
  · rcases has.resolved rfl with ⟨rfl, dayBefore⟩
    have inYears := has.universal
    simp only [Instant.universalMicroseconds, Option.getD_none, Int.sub_zero] at inYears dayBefore
    refine ⟨moment, 0, ?_, rfl⟩
    simp only [settle, resolve_universal inYears dayBefore]
    rfl
  · exact ⟨moment, ahead, rfl, rfl⟩

theorem date_of_hasDate {hours : Int} (few : hours.natAbs ≤ DayRequest.maxHours)
    (has : instant.HasDate zone hours) :
    zone.date instant (.hoursAhead hours) = .ok (some (ofMicroseconds
      (instant.universalMicroseconds + Instant.microsecondsPerHour * hours)).date) := by
  rcases exists_settle_of_hasDate has with ⟨moment, ahead, settled, same⟩
  have shown := Instant.onClock?_known moment ahead (Instant.microsecondsPerHour * hours)
  rw [same, if_pos ⟨has.universal, has.shifted⟩] at shown
  simp only [date, offset?, if_pos few, settled, Bind.bind, Except.bind, shown]
  rfl

/-- Instants on known clocks that are the same in universal time have the same dates. -/
theorem date_congr {left right : Instant} (leftKnown : left.offset.isSome = true)
    (rightKnown : right.offset.isSome = true)
    (same : left.universalMicroseconds = right.universalMicroseconds) (request : DayRequest) :
    zone.date left request = zone.date right request := by
  have shown (offset : Int) : left.onClock? offset = right.onClock? offset :=
    Instant.onClock?_congr leftKnown rightKnown same
  cases request with
  | localClock =>
      simp only [date, offset?, settle_known leftKnown, settle_known rightKnown, Bind.bind,
        Except.bind, same, shown]
  | hoursAhead hours =>
      simp only [date, offset?, settle_known leftKnown, settle_known rightKnown, Bind.bind,
        Except.bind]
      split
      · rfl
      · next offset given =>
          split at given
          · cases given
            simp only [shown]
          · cases given
  | invalid => rfl

end LocalZone

namespace Clock

variable {clock left right : Clock} {hours : Int}

/-- The answer for a number of hours is read off the instant in universal time. -/
theorem today_of_hasDate (few : hours.natAbs ≤ DayRequest.maxHours)
    (has : clock.now.1.HasDate clock.zone hours) :
    (clock.today (.hoursAhead hours)).1 = .ok (some (ofMicroseconds
      (clock.now.1.universalMicroseconds + Instant.microsecondsPerHour * hours)).date) := by
  rw [today_eq, LocalZone.date_of_hasDate few has]

theorem today_congr (alike : left.zone = right.zone)
    (leftKnown : left.now.1.offset.isSome = true) (rightKnown : right.now.1.offset.isSome = true)
    (same : left.now.1.universalMicroseconds = right.now.1.universalMicroseconds)
    (request : DayRequest) : (left.today request).1 = (right.today request).1 := by
  rw [today_eq, today_eq, alike, LocalZone.date_congr leftKnown rightKnown same]

/-- From a moment to a later one the date goes on by days, one for each midnight between them. -/
theorem exists_days_between {earlier later : Int} (notBefore : earlier ≤ later) :
    ∃ days : Nat, (ofMicroseconds later).date = Date.next^[days] (ofMicroseconds earlier).date ∧
      microsecondsPerDay * days < later - earlier + microsecondsPerDay := by
  have below := Int.ediv_le_ediv (show 0 < microsecondsPerDay by decide) notBefore
  refine ⟨(later / microsecondsPerDay - earlier / microsecondsPerDay).toNat, ?_, ?_⟩
  · simp only [ofMicroseconds]
    rw [← Date.ofDayNumber_add]
    congr 1
    omega
  · simp only [microsecondsPerDay] at below ⊢
    omega

/-- Clocks further ahead show the same date, or one shortly after. -/
theorem today_goes_on {later : Int} (further : hours ≤ later)
    (few : hours.natAbs ≤ DayRequest.maxHours) (laterFew : later.natAbs ≤ DayRequest.maxHours)
    (has : clock.now.1.HasDate clock.zone hours) (laterHas : clock.now.1.HasDate clock.zone later) :
    ∃ date days, (clock.today (.hoursAhead hours)).1 = .ok (some date) ∧
      (clock.today (.hoursAhead later)).1 = .ok (some (Date.next^[days] date)) ∧
      days ≤ 2 ∧ (later = hours + 1 → days ≤ 1) := by
  have notBefore : clock.now.1.universalMicroseconds + Instant.microsecondsPerHour * hours ≤
      clock.now.1.universalMicroseconds + Instant.microsecondsPerHour * later := by
    simp only [Instant.microsecondsPerHour]
    omega
  rcases exists_days_between notBefore with ⟨days, date, bound⟩
  simp only [microsecondsPerDay, Instant.microsecondsPerHour] at bound
  refine ⟨_, days, today_of_hasDate few has, ?_, ?_, ?_⟩
  · rw [today_of_hasDate laterFew laterHas, date]
  · simp only [DayRequest.maxHours] at few laterFew
    omega
  · omega

/-- A clock that stands still shows its instant on a known clock. -/
theorem now_ofFixed (zone : LocalZone) (instant : Instant) :
    (ofFixed zone instant).now.1.offset.isSome = true ∧
      (ofFixed zone instant).now.1.universalMicroseconds = instant.universalMicroseconds :=
  ⟨rfl, rfl⟩

theorem hasDate_ofFixed {zone : LocalZone} {instant : Instant}
    (universal : InYears instant.universalMicroseconds)
    (shifted : InYears (instant.universalMicroseconds + Instant.microsecondsPerHour * hours)) :
    (ofFixed zone instant).now.1.HasDate zone hours :=
  ⟨universal, shifted, fun isOpen => nomatch isOpen⟩

/-- On a local clock that shows universal time, the local date is the universal one. -/
theorem today_of_universal (isUniversal : clock.zone = .universal) :
    clock.today .localClock = clock.today (.hoursAhead 0) := by
  rw [today_eq, today_eq, isUniversal]
  rfl

/--
The date for a number of hours is that of the moment so many hours after the instant of the
period in universal time. Clocks that show one instant give one date, whatever clock the
instant was written with. The date never goes back as the hours grow; it goes on by at most
one day for one hour and by at most two days for all of them. If local time is universal time
then so is the date on the local clock. Any other question has no date. On a clock that stands
still an open instant is in universal time.
-/
theorem today_is_civil_date (clock : Clock) :
    (∀ hours : Int, hours.natAbs ≤ 23 → clock.now.1.HasDate clock.zone hours →
      ∃ moment : Moment, moment.IsValid ∧
        moment.microseconds =
          clock.now.1.universalMicroseconds + Instant.microsecondsPerHour * hours ∧
        (clock.today (.hoursAhead hours)).1 = .ok (some moment.date)) ∧
    (∀ other : Clock, other.zone = clock.zone → clock.now.1.offset.isSome = true →
      other.now.1.offset.isSome = true →
      other.now.1.universalMicroseconds = clock.now.1.universalMicroseconds →
      ∀ request, (other.today request).1 = (clock.today request).1) ∧
    (∀ hours later : Int, hours ≤ later → hours.natAbs ≤ 23 → later.natAbs ≤ 23 →
      clock.now.1.HasDate clock.zone hours → clock.now.1.HasDate clock.zone later →
      ∃ date days, (clock.today (.hoursAhead hours)).1 = .ok (some date) ∧
        (clock.today (.hoursAhead later)).1 = .ok (some (Date.next^[days] date)) ∧
        days ≤ 2 ∧ (later = hours + 1 → days ≤ 1)) ∧
    (clock.zone = .universal → clock.today .localClock = clock.today (.hoursAhead 0)) ∧
    (∀ hours : Int, 23 < hours.natAbs → (clock.today (.hoursAhead hours)).1 = .ok none) ∧
    (clock.today .invalid).1 = .ok none ∧
    ∀ zone instant, clock = .ofFixed zone instant →
      clock.now.1.offset.isSome = true ∧
      clock.now.1.universalMicroseconds = instant.universalMicroseconds ∧
      ∀ hours, InYears instant.universalMicroseconds →
        InYears (instant.universalMicroseconds + Instant.microsecondsPerHour * hours) →
        clock.now.1.HasDate clock.zone hours := by
  refine ⟨?_, ?_, ?_, today_of_universal, ?_, ?_, ?_⟩
  · intro hours few has
    exact ⟨_, isValid_ofMicroseconds _, microseconds_ofMicroseconds _, today_of_hasDate few has⟩
  · intro other alike known otherKnown same request
    exact today_congr alike otherKnown known same request
  · intro hours later further few laterFew has laterHas
    exact today_goes_on further few laterFew has laterHas
  · intro hours many
    have tooMany : ¬hours.natAbs ≤ DayRequest.maxHours := Nat.not_le.mpr many
    simp only [today_eq, LocalZone.date, LocalZone.offset?, if_neg tooMany]
  · rw [today_eq]
    rfl
  · rintro zone instant rfl
    rcases now_ofFixed zone instant with ⟨known, same⟩
    exact ⟨known, same, fun hours => hasDate_ofFixed⟩

/-- Late on 28 February of a leap year, an hour ahead of universal time, it is 29 February. -/
theorem today_is_leap_day :
    ((ofFixed .universal ⟨⟨⟨2024, 2, 28⟩, ⟨22, 30, 0, 0⟩⟩, some (-3600000000)⟩).today
      (.hoursAhead 1)).1 = .ok (some ⟨2024, 2, 29⟩) := by
  rcases (today_is_civil_date (ofFixed .universal
    ⟨⟨⟨2024, 2, 28⟩, ⟨22, 30, 0, 0⟩⟩, some (-3600000000)⟩)).1 1
    (by decide) ⟨by decide, by decide, fun isOpen => nomatch isOpen⟩ with
    ⟨moment, valid, count, answer⟩
  have shown : Moment.IsValid ⟨⟨2024, 2, 29⟩, ⟨0, 30, 0, 0⟩⟩ := by
    constructor <;> constructor <;> decide
  rw [eq_of_microseconds_eq valid shown (count.trans (by decide))] at answer
  exact answer

end Clock

end Typeset

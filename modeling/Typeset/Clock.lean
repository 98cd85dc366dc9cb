import Typeset.Calendar
import Typeset.Outcome

/-!
# The clock

A clock takes the time at most once between two resets, so that all dates of one
compile are the same. A fixed clock never takes it. The date is asked for on the
local clock, or on one that is a whole number of hours ahead of universal time; a
question for anything else has no answer, but it takes the time like any other.

How far the local clock is ahead may change with the time. An instant that leaves
its own clock open is one of local time: that it shows at some moment of universal
time, which is looked for.
-/

namespace Typeset

/-- The instants that taking the time gives, one after another; the last one is given again. -/
structure TimeSource where
  next : Instant
  later : List Instant

/-- A time source after the time was taken once. -/
def TimeSource.advance (source : TimeSource) : TimeSource :=
  match source.later with
  | [] => source
  | next :: later => ⟨next, later⟩

/-- The clock that a date is asked on. -/
inductive DayRequest where
  | localClock
  | hoursAhead (hours : Int)
  /-- Something that is no number of hours. -/
  | invalid
  deriving DecidableEq

/-- The most hours that a clock can be asked to be ahead or behind. -/
def DayRequest.maxHours : Nat := 23

/-! ## Local time -/

/-- A local clock, by the seconds that it is ahead of universal time at each second of that. -/
structure LocalZone where
  ahead : Int → Int

namespace LocalZone

/-- The local clock that always shows universal time. -/
def universal : LocalZone :=
  ⟨fun _ => 0⟩

def microsecondsPerSecond : Int := 1000000

def secondsPerDay : Int := 86400

/-- How far the local clock is ahead at a second, if it shows one of the years that dates have. -/
def aheadAt (zone : LocalZone) (second : Int) : Except Fault Int :=
  let ahead := zone.ahead second
  let date := Date.ofDayNumber ((second + ahead) / secondsPerDay)
  if date.isRepresentable then .ok ahead
  else .error (.invalidValue s!"year {date.year} is out of range")

/--
The second of universal time at which the local clock shows a given one. It is looked for with
what the clock is ahead around then, and a day before. A second that is shown twice is the earlier
one, and one that is left out is the later of the two that were tried.
-/
def resolve (zone : LocalZone) (second : Int) : Except Fault Int := do
  let ahead ← zone.aheadAt second
  let first := second - ahead
  let there ← zone.aheadAt first
  let earlier ← if there = ahead then zone.aheadAt (first - secondsPerDay) else pure there
  if earlier = ahead then return first
  let other := second - earlier
  if (← zone.aheadAt other) = earlier then return other
  return if there = ahead then first else max first other

/-- The instant on a known clock that an instant is; an open clock is the local one. -/
def settle (zone : LocalZone) (instant : Instant) : Except Fault Instant :=
  match instant.offset with
  | some _ => .ok instant
  | none => do
      let second ← zone.resolve (instant.moment.microseconds / microsecondsPerSecond)
      return ⟨instant.moment, some (microsecondsPerSecond * zone.ahead second)⟩

/-- How far the requested clock is ahead at instants, in microseconds, if there is such a one. -/
def offset? (zone : LocalZone) : DayRequest → Option (Instant → Int)
  | .localClock =>
      some fun instant =>
        let second := instant.universalMicroseconds / microsecondsPerSecond
        microsecondsPerSecond * zone.ahead second
  | .hoursAhead hours =>
      if hours.natAbs ≤ DayRequest.maxHours then some fun _ => Instant.microsecondsPerHour * hours
      else none
  | .invalid => none

/-- The date of an instant on the requested clock, if there is such a one. -/
def date (zone : LocalZone) (instant : Instant) (request : DayRequest) :
    Except Fault (Option Date) :=
  match zone.offset? request with
  | none => .ok none
  | some offset => do
      let settled ← zone.settle instant
      match settled.onClock? (offset settled) with
      | some moment => return some moment.date
      | none => throw (.outOfRange Instant.outOfRangeMessage)

end LocalZone

/-! ## The clock -/

/-- A clock that is read at most once between resets. -/
structure Clock where
  fixed : Option Instant
  source : TimeSource
  snapshot : Option Instant
  zone : LocalZone

namespace Clock

/-- A clock that always shows one instant; an open instant is in universal time. -/
def ofFixed (zone : LocalZone) (instant : Instant) : Clock :=
  let known := { instant with offset := some (instant.offset.getD 0) }
  ⟨some known, ⟨known, []⟩, none, zone⟩

def ofSource (zone : LocalZone) (source : TimeSource) : Clock :=
  ⟨none, source, none, zone⟩

/-- The instant of the current period, taken now if it was not yet. -/
def now (clock : Clock) : Instant × Clock :=
  match clock.fixed, clock.snapshot with
  | some instant, _ | none, some instant => (instant, clock)
  | none, none =>
      let instant := clock.source.next
      (instant, { clock with snapshot := some instant, source := clock.source.advance })

/-- Start a new period. -/
def reset (clock : Clock) : Clock :=
  { clock with snapshot := none }

/-- The date of the current period on the requested clock. -/
def today (clock : Clock) (request : DayRequest) : Except Fault (Option Date) × Clock :=
  let (instant, clock) := clock.now
  (clock.zone.date instant request, clock)

end Clock

end Typeset

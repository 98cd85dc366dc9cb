import Typeset.Proofs.Reading.Plain

/-!
# Periods of a clock

A period is what lies between two resets. A clock that stands still shows its instant
in every period. Any other clock takes the time when it is first asked in a period, and
shows that instant until the next reset. What can be watched on a clock is a list of
events, so that an answer can be compared with the instants that the source gave.
-/

namespace Typeset

/-- What can be watched on a clock. -/
inductive ClockEvent where
  | reset
  /-- The time was taken, and this is what the source gave. -/
  | taken (instant : Instant)
  | now (answer : Instant)
  | today (request : DayRequest) (answer : Except Fault (Option Date))

namespace ClockEvent

/-- An event is about an instant: it was taken, or answered, or its date was. -/
inductive Of (zone : LocalZone) (instant : Instant) : ClockEvent → Prop
  | taken : Of zone instant (.taken instant)
  | now : Of zone instant (.now instant)
  | today (request : DayRequest) : Of zone instant (.today request (zone.date instant request))

/-- The instant that the source gave. -/
def taken? : ClockEvent → Option Instant
  | .taken instant => some instant
  | .reset | .now _ | .today _ _ => none

end ClockEvent

/-- A source gives some instants, one each time that it is called. -/
inductive TimeSource.Gives : TimeSource → List Instant → TimeSource → Prop
  | nothing (source : TimeSource) : source.Gives [] source
  | next {source after : TimeSource} {later : List Instant}
      (rest : source.advance.Gives later after) : source.Gives (source.next :: later) after

namespace Clock

/-- The instant that a clock shows without taking the time. -/
def shown? (clock : Clock) : Option Instant :=
  clock.fixed <|> clock.snapshot

/-- The clock on which the time was just taken. -/
def taking (clock : Clock) : Clock :=
  { clock with snapshot := some clock.source.next, source := clock.source.advance }

/-- What is watched before an answer, which is nothing if no time has to be taken for it. -/
def takes (clock : Clock) : List ClockEvent :=
  match clock.shown? with
  | some _ => []
  | none => [.taken clock.source.next]

/-- One event that can be watched on a clock, and the clock that it leaves. -/
inductive Shows : Clock → ClockEvent → Clock → Prop
  | reset (clock : Clock) : clock.Shows .reset clock.reset
  | taken {clock : Clock} (hidden : clock.shown? = none) :
      clock.Shows (.taken clock.source.next) clock.taking
  | now {clock : Clock} {instant : Instant} (shown : clock.shown? = some instant) :
      clock.Shows (.now instant) clock
  | today {clock : Clock} {instant : Instant} (shown : clock.shown? = some instant)
      (request : DayRequest) : clock.Shows (.today request (clock.zone.date instant request)) clock

/-- Events that can be watched on a clock one after another. -/
inductive Watches : Clock → List ClockEvent → Clock → Prop
  | done (clock : Clock) : clock.Watches [] clock
  | next {clock middle after : Clock} {event : ClockEvent} {events : List ClockEvent}
      (shows : clock.Shows event middle) (rest : middle.Watches events after) :
      clock.Watches (event :: events) after

/-! ## One question -/

theorem now_of_shown {clock : Clock} {instant : Instant} (shown : clock.shown? = some instant) :
    clock.now = (instant, clock) := by
  rcases clock with ⟨fixed, source, snapshot, zone⟩
  cases fixed with
  | some known =>
      cases shown
      rfl
  | none =>
      cases snapshot with
      | some known =>
          cases shown
          rfl
      | none => cases shown

theorem now_of_hidden {clock : Clock} (hidden : clock.shown? = none) :
    clock.now = (clock.source.next, clock.taking) := by
  rcases clock with ⟨fixed, source, snapshot, zone⟩
  cases fixed with
  | some known => cases hidden
  | none =>
      cases snapshot with
      | some known => cases hidden
      | none => rfl

theorem shown?_taking {clock : Clock} (hidden : clock.shown? = none) :
    clock.taking.shown? = some clock.source.next := by
  rcases clock with ⟨fixed, source, snapshot, zone⟩
  cases fixed with
  | some known => cases hidden
  | none => rfl

theorem zone_now (clock : Clock) : clock.now.2.zone = clock.zone := by
  cases shown : clock.shown? with
  | some instant => rw [now_of_shown shown]
  | none =>
      rw [now_of_hidden shown]
      rfl

theorem today_eq (clock : Clock) (request : DayRequest) :
    clock.today request = (clock.zone.date clock.now.1 request, clock.now.2) := by
  simp only [today, zone_now]

/-- The clock after a question still shows the instant that the question was answered from. -/
theorem now_today (clock : Clock) (request : DayRequest) :
    (clock.today request).2.now.1 = clock.now.1 := by
  rw [today_eq]
  cases shown : clock.shown? with
  | some instant =>
      simp only [now_of_shown shown]
  | none =>
      simp only [now_of_hidden shown, now_of_shown (shown?_taking shown)]

/-- A question takes the time if no instant is shown, and is answered from the one that is. -/
theorem watches_question {clock : Clock} (event : Instant → ClockEvent)
    (answers : ∀ {asked : Clock} {instant : Instant}, asked.zone = clock.zone →
      asked.shown? = some instant → asked.Shows (event instant) asked) :
    clock.Watches (clock.takes ++ [event clock.now.1]) clock.now.2 := by
  simp only [takes]
  cases shown : clock.shown? with
  | some instant =>
      rw [now_of_shown shown]
      exact .next (answers rfl shown) (.done clock)
  | none =>
      rw [now_of_hidden shown]
      exact .next (.taken shown) (.next (answers rfl (shown?_taking shown)) (.done clock.taking))

theorem watches_now (clock : Clock) :
    clock.Watches (clock.takes ++ [.now clock.now.1]) clock.now.2 :=
  watches_question .now fun _ => .now

theorem watches_today (clock : Clock) (request : DayRequest) :
    clock.Watches (clock.takes ++ [.today request (clock.today request).1])
      (clock.today request).2 := by
  rw [today_eq]
  apply watches_question fun instant => .today request (clock.zone.date instant request)
  intro asked instant same shown
  rw [← same]
  exact .today shown request

namespace Watches

variable {clock middle after : Clock} {events first second : List ClockEvent}

theorem append (early : clock.Watches first middle) (late : middle.Watches second after) :
    clock.Watches (first ++ second) after := by
  induction early with
  | done clock => exact late
  | next shows _ ih => exact .next shows (ih late)

theorem exists_of_append (watches : clock.Watches (first ++ second) after) :
    ∃ middle, clock.Watches first middle ∧ middle.Watches second after := by
  induction first generalizing clock with
  | nil => exact ⟨clock, .done clock, watches⟩
  | cons event first ih =>
      cases watches with
      | next shows rest =>
          rcases ih rest with ⟨middle, early, late⟩
          exact ⟨middle, .next shows early, late⟩

/-- What is watched changes neither where a clock stands still nor what local time is. -/
theorem sets_alike (watches : clock.Watches events after) : after.SetAlike clock := by
  induction watches with
  | done clock => exact .refl clock
  | next shows _ ih =>
      apply ih.trans
      cases shows <;> exact ⟨rfl, rfl⟩

/-- What is watched in between is watched on a clock that is set alike. -/
theorem exists_of_infix (watches : clock.Watches events after) (within : first <:+: events) :
    ∃ before middle : Clock, before.SetAlike clock ∧ before.Watches first middle := by
  rcases within with ⟨earlier, later, rfl⟩
  rw [List.append_assoc] at watches
  rcases watches.exists_of_append with ⟨before, early, rest⟩
  rcases rest.exists_of_append with ⟨middle, inside, _⟩
  exact ⟨before, middle, early.sets_alike, inside⟩

/-! ## Periods -/

/-- Once an instant is shown, the rest of the period is about it and takes no time. -/
theorem of_shown {instant : Instant} (watches : clock.Watches events after)
    (shown : clock.shown? = some instant) (period : .reset ∉ events) :
    (∀ event ∈ events, event.Of clock.zone instant) ∧
      events.filterMap ClockEvent.taken? = [] := by
  induction watches with
  | done => exact ⟨by simp, rfl⟩
  | next shows _ ih =>
      have later := List.not_mem_of_not_mem_cons period
      cases shows with
      | reset => exact absurd List.mem_cons_self period
      | taken hidden => cases hidden.symm.trans shown
      | now same =>
          cases same.symm.trans shown
          rcases ih shown later with ⟨rest, none_taken⟩
          exact ⟨List.forall_mem_cons.mpr ⟨.now, rest⟩, none_taken⟩
      | today same request =>
          cases same.symm.trans shown
          rcases ih shown later with ⟨rest, none_taken⟩
          exact ⟨List.forall_mem_cons.mpr ⟨.today request, rest⟩, none_taken⟩

/-- If no instant is shown, a period begins with taking the time, and all of it is about that. -/
theorem of_hidden (watches : clock.Watches events after) (hidden : clock.shown? = none)
    (period : .reset ∉ events) :
    events = [] ∨ ∃ answers, events = .taken clock.source.next :: answers ∧
      (∀ event ∈ answers, event.Of clock.zone clock.source.next) ∧
      answers.filterMap ClockEvent.taken? = [] := by
  cases watches with
  | done => exact .inl rfl
  | next shows rest =>
      cases shows with
      | reset => exact absurd List.mem_cons_self period
      | taken _ =>
          have later := List.not_mem_of_not_mem_cons period
          exact .inr ⟨_, rfl, rest.of_shown (shown?_taking hidden) later⟩
      | now same => cases same.symm.trans hidden
      | today same => cases same.symm.trans hidden

/-- In a period the time is taken at most once, and all of it is about one instant. -/
theorem one_instant (watches : clock.Watches events after) (period : .reset ∉ events) :
    ∃ instant, (∀ event ∈ events, event.Of clock.zone instant) ∧
      (events.filterMap ClockEvent.taken?).length ≤ 1 := by
  cases shown : clock.shown? with
  | some instant =>
      rcases watches.of_shown shown period with ⟨about, none_taken⟩
      exact ⟨instant, about, by simp [none_taken]⟩
  | none =>
      refine ⟨clock.source.next, ?_⟩
      rcases watches.of_hidden shown period with rfl | ⟨answers, rfl, about, none_taken⟩
      · exact ⟨by simp, by simp⟩
      · refine ⟨List.forall_mem_cons.mpr ⟨.taken, about⟩, ?_⟩
        simp [ClockEvent.taken?, none_taken]

/--
A period that a reset began is about an instant that was taken in it, before anything was
answered, unless the clock stands still.
-/
theorem taken_in_period (watches : clock.Watches (.reset :: events) after)
    (ticking : clock.fixed = none) (period : .reset ∉ events) :
    events = [] ∨ ∃ instant answers, events = .taken instant :: answers ∧
      (∀ event ∈ answers, event.Of clock.zone instant) ∧
      answers.filterMap ClockEvent.taken? = [] := by
  cases watches with
  | next shows rest =>
      cases shows
      have hidden : clock.reset.shown? = none := by
        simp only [shown?, reset, ticking]
        rfl
      rcases rest.of_hidden hidden period with none | began
      · exact .inl none
      · exact .inr ⟨_, began⟩

/-! ## Whole runs -/

/-- The instants that were taken are those that the source gave. -/
theorem gives (watches : clock.Watches events after) :
    clock.source.Gives (events.filterMap ClockEvent.taken?) after.source := by
  induction watches with
  | done clock => exact .nothing clock.source
  | next shows _ ih =>
      cases shows with
      | taken => exact .next ih
      | _ => exact ih

/-- A clock that stands still is about its instant in all periods, and never takes the time. -/
theorem of_fixed {instant : Instant} (watches : clock.Watches events after)
    (fixed : clock.fixed = some instant) (unread : clock.snapshot = none) :
    (∀ event ∈ events, event = .reset ∨ event.Of clock.zone instant) ∧
      events.filterMap ClockEvent.taken? = [] ∧ after = clock := by
  induction watches with
  | done => exact ⟨by simp, rfl, rfl⟩
  | @next clock middle after event events shows _ ih =>
      have shown : clock.shown? = some instant := by
        simp only [shown?, fixed]
        rfl
      have still : middle = clock ∧ (event = .reset ∨ event.Of clock.zone instant) ∧
          event.taken? = none := by
        cases shows with
        | reset =>
            refine ⟨?_, .inl rfl, rfl⟩
            rw [Clock.reset, ← unread]
        | taken hidden => cases hidden.symm.trans shown
        | now same =>
            cases same.symm.trans shown
            exact ⟨rfl, .inr .now, rfl⟩
        | today same request =>
            cases same.symm.trans shown
            exact ⟨rfl, .inr (.today request), rfl⟩
      rcases still with ⟨rfl, about, untaken⟩
      rcases ih fixed unread with ⟨rest, none_taken, unchanged⟩
      exact ⟨List.forall_mem_cons.mpr ⟨about, rest⟩,
        (List.filterMap_cons_none untaken).trans none_taken, unchanged⟩

end Watches

end Clock

end Typeset

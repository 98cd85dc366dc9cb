import Typeset.Proofs.Clock
import Typeset.Proofs.World.Replacing

/-!
# Dates in a reading

Of all questions only those for a date have to do with the clock. So a reading that asks
for no date but one can be given that date beforehand, and has the same result.
-/

namespace Typeset

open FileCache

namespace Reading

variable {α β : Type}

/-! ## Events of a reading -/

/-- What can be watched on the clock of a world while a reading runs in it. -/
def watch : Reading α → World → List ClockEvent
  | .done _, _ => []
  | .library next, world => (next world.library).watch world
  | .book next, world => (next world.book).watch world
  | .font index next, world =>
      (next ((World.font index).run world).1).watch ((World.font index).run world).2
  | .today request next, world =>
      world.clock.takes ++ .today request ((World.today request).run world).1 ::
        (next ((World.today request).run world).1).watch ((World.today request).run world).2
  | .source id next, world =>
      (next ((World.source id).run world).1).watch ((World.source id).run world).2
  | .file id next, world =>
      (next ((World.file id).run world).1).watch ((World.file id).run world).2

theorem clock_font (index : Int) (world : World) :
    ((World.font index).run world).2.clock = world.clock := by
  rcases font_moves index world with ⟨fonts, records, moved⟩
  rw [moved]
  rfl

theorem watch_question (key : Key) (next : Outcome key.kind.Value → Reading α) (world : World) :
    (question key next).watch world =
      (next ((World.ask key).run world).1).watch ((World.ask key).run world).2 := by
  rcases key with ⟨id, kind⟩
  cases kind <;> rfl

theorem watches_run_question {key : Key} {next : Outcome key.kind.Value → Reading α}
    (ih : ∀ answer (world : World), world.clock.Watches ((next answer).watch world)
      ((next answer).run.run world).2.clock) (world : World) :
    world.clock.Watches ((question key next).watch world)
      ((question key next).run.run world).2.clock := by
  have rest := ih ((World.ask key).run world).1 ((World.ask key).run world).2
  rw [(World.ask_keeps key world).2.2] at rest
  rw [watch_question, run_question]
  exact rest

/-- What is watched while a reading runs leads from the clock before it to the clock after it. -/
theorem watches_run (reading : Reading α) (world : World) :
    world.clock.Watches (reading.watch world) (reading.run.run world).2.clock := by
  induction reading generalizing world with
  | done result => exact .done world.clock
  | library next ih => exact ih world.library world
  | book next ih => exact ih world.book world
  | font index next ih =>
      have rest := ih ((World.font index).run world).1 ((World.font index).run world).2
      rw [clock_font] at rest
      exact rest
  | today request next ih =>
      rw [watch, List.append_cons]
      apply (world.clock.watches_today request).append
      exact ih ((World.today request).run world).1 ((World.today request).run world).2
  | source id next ih => exact @watches_run_question _ ⟨id, .source⟩ next ih world
  | file id next ih => exact @watches_run_question _ ⟨id, .bytes⟩ next ih world

/-- No question starts a new period. -/
theorem reset_not_mem_watch (reading : Reading α) (world : World) :
    .reset ∉ reading.watch world := by
  induction reading generalizing world with
  | done result => exact List.not_mem_nil
  | library next ih => exact ih _ world
  | book next ih => exact ih _ world
  | font index next ih => apply ih
  | today request next ih =>
      have early : .reset ∉ world.clock.takes := by
        simp only [Clock.takes]
        split <;> simp
      simp [watch, early, ih]
  | source id next ih => apply ih
  | file id next ih => apply ih

/-! ## Readings with a date -/

/-- A reading to which every question for a date is answered beforehand. -/
def datedBy (day : Except Fault (Option Date)) : Reading α → Reading α
  | .done result => .done result
  | .library next => .library fun answer => (next answer).datedBy day
  | .book next => .book fun answer => (next answer).datedBy day
  | .font index next => .font index fun answer => (next answer).datedBy day
  | .today _ next => (next day).datedBy day
  | .source id next => .source id fun answer => (next answer).datedBy day
  | .file id next => .file id fun answer => (next answer).datedBy day

/-- All questions for a date that a reading asks are allowed. -/
def AsksDays (allowed : DayRequest → Prop) : Reading α → Prop
  | .done _ => True
  | .library next => ∀ answer, (next answer).AsksDays allowed
  | .book next => ∀ answer, (next answer).AsksDays allowed
  | .font _ next => ∀ answer, (next answer).AsksDays allowed
  | .today request next => allowed request ∧ ∀ answer, (next answer).AsksDays allowed
  | .source _ next => ∀ answer, (next answer).AsksDays allowed
  | .file _ next => ∀ answer, (next answer).AsksDays allowed

theorem AsksDays.mono {reading : Reading α} {early late : DayRequest → Prop}
    (asks : reading.AsksDays early) (implies : ∀ request, early request → late request) :
    reading.AsksDays late := by
  induction reading with
  | done result => trivial
  | library next ih => exact fun answer => ih answer (asks answer)
  | book next ih => exact fun answer => ih answer (asks answer)
  | font index next ih => exact fun answer => ih answer (asks answer)
  | today request next ih =>
      exact ⟨implies request asks.1, fun answer => ih answer (asks.2 answer)⟩
  | source id next ih => exact fun answer => ih answer (asks answer)
  | file id next ih => exact fun answer => ih answer (asks answer)

theorem AsksDays.andThen {reading : Reading α} {follow : α → Reading β}
    {allowed : DayRequest → Prop} (asks : reading.AsksDays allowed)
    (rest : ∀ result, (follow result).AsksDays allowed) :
    (reading.andThen follow).AsksDays allowed := by
  induction reading with
  | done result => exact rest result
  | library next ih => exact fun answer => ih answer (asks answer)
  | book next ih => exact fun answer => ih answer (asks answer)
  | font index next ih => exact fun answer => ih answer (asks answer)
  | today request next ih => exact ⟨asks.1, fun answer => ih answer (asks.2 answer)⟩
  | source id next ih => exact fun answer => ih answer (asks answer)
  | file id next ih => exact fun answer => ih answer (asks answer)

theorem datedBy_question (day : Except Fault (Option Date)) (key : Key)
    (next : Outcome key.kind.Value → Reading α) :
    (question key next).datedBy day = question key fun answer => (next answer).datedBy day := by
  rcases key with ⟨id, kind⟩
  cases kind <;> rfl

theorem run_datedBy_question {key : Key} {next : Outcome key.kind.Value → Reading α}
    {request : DayRequest} {clock : Clock}
    (ih : ∀ answer (world : World),
      (((next answer).datedBy (world.clock.zone.date world.clock.now.1 request)).run.run
        { world with clock := clock }).1 = ((next answer).run.run world).1) (world : World) :
    (((question key next).datedBy (world.clock.zone.date world.clock.now.1 request)).run.run
      { world with clock := clock }).1 = ((question key next).run.run world).1 := by
  have later := ih ((World.ask key).run world).1 ((World.ask key).run world).2
  rw [(World.ask_keeps key world).2.2] at later
  rw [datedBy_question, run_question, run_question, World.run_ask_of_clock]
  exact later

/-- A reading that asks for no date but one may be given it, whatever the clock shows then. -/
theorem run_datedBy {reading : Reading α} {request : DayRequest}
    (asks : reading.AsksDays (· = request)) (world : World) (clock : Clock) :
    ((reading.datedBy (world.clock.zone.date world.clock.now.1 request)).run.run
        { world with clock := clock }).1 = (reading.run.run world).1 := by
  induction reading generalizing world with
  | done result => rfl
  | library next ih => exact ih world.library (asks _) world
  | book next ih => exact ih world.book (asks _) world
  | font index next ih =>
      have later := ih ((World.font index).run world).1 (asks _) ((World.font index).run world).2
      have split (reading : Option Font → Reading α) (world : World) :
          ((font index reading).run.run world).1 =
            ((reading ((World.font index).run world).1).run.run
              ((World.font index).run world).2).1 :=
        rfl
      rw [clock_font] at later
      rw [datedBy, split, split, World.run_font_of_clock]
      exact later
  | today asked next ih =>
      rcases asks with ⟨rfl, rest⟩
      have later := ih ((World.today asked).run world).1 (rest _)
        ((World.today asked).run world).2
      have shown : ((World.today asked).run world).2.clock.now.1 = world.clock.now.1 :=
        world.clock.now_today asked
      have zone : ((World.today asked).run world).2.clock.zone = world.clock.zone :=
        (world.clock.watches_today asked).sets_alike.zone
      have answer : ((World.today asked).run world).1 =
          world.clock.zone.date world.clock.now.1 asked :=
        congrArg Prod.fst (world.clock.today_eq asked)
      have split : ((today asked next).run.run world).1 =
          ((next ((World.today asked).run world).1).run.run ((World.today asked).run world).2).1 :=
        rfl
      rw [shown, zone, answer] at later
      rw [split, answer]
      exact later
  | source id next ih =>
      exact @run_datedBy_question _ ⟨id, .source⟩ next _ _ (fun answer => ih answer (asks answer))
        world
  | file id next ih =>
      exact @run_datedBy_question _ ⟨id, .bytes⟩ next _ _ (fun answer => ih answer (asks answer))
        world

theorem datedBy_of_dateless {reading : Reading α} (asks : reading.AsksDays fun _ => False)
    (day : Except Fault (Option Date)) : reading.datedBy day = reading := by
  induction reading with
  | done result => rfl
  | library next ih => exact congrArg library (funext fun answer => ih answer (asks answer))
  | book next ih => exact congrArg book (funext fun answer => ih answer (asks answer))
  | font index next ih => exact congrArg (font index) (funext fun answer => ih answer (asks answer))
  | today request next ih => exact asks.1.elim
  | source id next ih => exact congrArg (source id) (funext fun answer => ih answer (asks answer))
  | file id next ih => exact congrArg (file id) (funext fun answer => ih answer (asks answer))

theorem datedBy_andThen (reading : Reading α) (follow : α → Reading β)
    (day : Except Fault (Option Date)) :
    (reading.andThen follow).datedBy day =
      (reading.datedBy day).andThen fun result => (follow result).datedBy day := by
  induction reading with
  | done result => rfl
  | library next ih => exact congrArg library (funext ih)
  | book next ih => exact congrArg book (funext ih)
  | font index next ih => exact congrArg (font index) (funext ih)
  | today request next ih => exact ih day
  | source id next ih => exact congrArg (source id) (funext ih)
  | file id next ih => exact congrArg (file id) (funext ih)

/-! ## Steps -/

/-- All questions for a date in a step are allowed. -/
def AsksDaysStep (allowed : DayRequest → Prop) (step : ExceptT Fault Reading α) : Prop :=
  step.run.AsksDays allowed

namespace AsksDaysStep

variable {allowed : DayRequest → Prop}

theorem pure (result : α) : AsksDaysStep allowed (Pure.pure result) :=
  trivial

theorem throw (fault : Fault) : AsksDaysStep (α := α) allowed (MonadExcept.throw fault) :=
  trivial

theorem bind {step : ExceptT Fault Reading α} {next : α → ExceptT Fault Reading β}
    (asks : AsksDaysStep allowed step) (rest : ∀ result, AsksDaysStep allowed (next result)) :
    AsksDaysStep allowed (step >>= next) := by
  apply asks.andThen
  intro result
  cases result with
  | error fault => trivial
  | ok result => exact rest result

theorem library {next : Library → ExceptT Fault Reading α}
    (rest : ∀ answer, AsksDaysStep allowed (next answer)) :
    AsksDaysStep allowed (ExceptT.lift askLibrary >>= next) :=
  rest

theorem today {request : DayRequest} {next : Except Fault (Option Date) → ExceptT Fault Reading α}
    (isAllowed : allowed request) (rest : ∀ answer, AsksDaysStep allowed (next answer)) :
    AsksDaysStep allowed (ExceptT.lift (askToday request) >>= next) :=
  ⟨isAllowed, rest⟩

theorem source {id : FileId} {next : Outcome Source → ExceptT Fault Reading α}
    (rest : ∀ answer, AsksDaysStep allowed (next answer)) :
    AsksDaysStep allowed (ExceptT.lift (askSource id) >>= next) :=
  rest

theorem file {id : FileId} {next : Outcome Bytes → ExceptT Fault Reading α}
    (rest : ∀ answer, AsksDaysStep allowed (next answer)) :
    AsksDaysStep allowed (ExceptT.lift (askFile id) >>= next) :=
  rest

end AsksDaysStep

end Reading

end Typeset

import Typeset.Proofs.Reading.Runs
import Typeset.Proofs.World.VirtualFiles

/-!
# Runs amid changes of the machine

While a reading runs, the machine may change at any moment between two questions: files
are edited, deleted or replaced, the registry answers, records are written. A run amid
such changes keeps a list of the sources that were asked for, with what was answered,
first ones first. A source that was answered stays at hand to the end of the run.
-/

namespace Typeset

open FileCache

namespace Reading

variable {α β : Type}

/-- A run in which the machine may be another one before every question. -/
inductive RunsAmid : Reading α → World → List (FileId × Outcome Source) → α → World → Prop
  | done (result : α) (world : World) : RunsAmid (.done result) world [] result world
  | change {reading : Reading α} {world after : World} {answered : List (FileId × Outcome Source)}
      {result : α} (host : Host)
      (rest : RunsAmid reading { world with host := host } answered result after) :
      RunsAmid reading world answered result after
  | library {next : Library → Reading α} {world after : World}
      {answered : List (FileId × Outcome Source)} {result : α}
      (rest : RunsAmid (next world.library) world answered result after) :
      RunsAmid (.library next) world answered result after
  | book {next : FontBook → Reading α} {world after : World}
      {answered : List (FileId × Outcome Source)} {result : α}
      (rest : RunsAmid (next world.book) world answered result after) :
      RunsAmid (.book next) world answered result after
  | font {index : Int} {next : Option Font → Reading α} {world after : World}
      {answered : List (FileId × Outcome Source)} {result : α}
      (rest : RunsAmid (next ((World.font index).run world).1) ((World.font index).run world).2
        answered result after) :
      RunsAmid (.font index next) world answered result after
  | today {request : DayRequest} {next : Except Fault (Option Date) → Reading α}
      {world after : World} {answered : List (FileId × Outcome Source)} {result : α}
      (rest : RunsAmid (next ((World.today request).run world).1)
        ((World.today request).run world).2 answered result after) :
      RunsAmid (.today request next) world answered result after
  | source {id : FileId} {next : Outcome Source → Reading α} {world after : World}
      {answered : List (FileId × Outcome Source)} {result : α}
      (rest : RunsAmid (next ((World.source id).run world).1) ((World.source id).run world).2
        answered result after) :
      RunsAmid (.source id next) world ((id, ((World.source id).run world).1) :: answered)
        result after
  | file {id : FileId} {next : Outcome Bytes → Reading α} {world after : World}
      {answered : List (FileId × Outcome Source)} {result : α}
      (rest : RunsAmid (next ((World.file id).run world).1) ((World.file id).run world).2
        answered result after) :
      RunsAmid (.file id next) world answered result after

namespace RunsAmid

variable {reading : Reading α} {world after : World}
  {answered : List (FileId × Outcome Source)} {result : α}

/-- Nothing needs to change: every run is a run amid no changes. -/
theorem of_run (reading : Reading α) (world : World) :
    ∃ answered, RunsAmid reading world answered (reading.run.run world).1
      (reading.run.run world).2 := by
  induction reading generalizing world with
  | done result => exact ⟨[], .done result world⟩
  | library next ih =>
      rcases ih world.library world with ⟨answered, rest⟩
      exact ⟨answered, .library rest⟩
  | book next ih =>
      rcases ih world.book world with ⟨answered, rest⟩
      exact ⟨answered, .book rest⟩
  | font index next ih =>
      rcases ih ((World.font index).run world).1 ((World.font index).run world).2 with
        ⟨answered, rest⟩
      exact ⟨answered, .font rest⟩
  | today request next ih =>
      rcases ih ((World.today request).run world).1 ((World.today request).run world).2 with
        ⟨answered, rest⟩
      exact ⟨answered, .today rest⟩
  | source id next ih =>
      rcases ih ((World.source id).run world).1 ((World.source id).run world).2 with
        ⟨answered, rest⟩
      exact ⟨_, .source rest⟩
  | file id next ih =>
      rcases ih ((World.file id).run world).1 ((World.file id).run world).2 with ⟨answered, rest⟩
      exact ⟨answered, .file rest⟩

/-- What no question and no change of the machine takes from a world is left by a run. -/
theorem preserves (kept : World → Prop)
    (asks : ∀ key world, kept world → kept ((World.ask key).run world).2)
    (moves : ∀ world fonts clock host, kept world →
      kept { world with fonts := fonts, clock := clock, host := host })
    (run : RunsAmid reading world answered result after) (before : kept world) : kept after := by
  induction run with
  | done => exact before
  | change host _ ih => exact ih (moves _ _ _ _ before)
  | library _ ih => exact ih before
  | book _ ih => exact ih before
  | @font index next world _ _ _ _ ih =>
      rcases font_moves index world with ⟨fonts, records, moved⟩
      apply ih
      rw [moved, World.report]
      exact moves world fonts world.clock _ before
  | @today request next world _ _ _ _ ih =>
      rcases today_moves request world with ⟨clock, moved, _⟩
      apply ih
      rw [moved]
      exact moves world world.fonts clock world.host before
  | @source id _ _ _ _ _ _ ih => exact ih (asks ⟨id, .source⟩ _ before)
  | @file id _ _ _ _ _ _ ih => exact ih (asks ⟨id, .bytes⟩ _ before)

theorem sound {readings : List (Except FileError Bytes)} (before : world.Sound readings)
    (run : RunsAmid reading world answered result after) : ∃ more, after.Sound more := by
  apply run.preserves fun world => ∃ more, world.Sound more
  · rintro key world ⟨more, sound⟩
    exact ⟨_, World.sound_ask sound key⟩
  · rintro world fonts clock host ⟨more, sound⟩
    exact ⟨more, sound.elsewhere _ _ _ _ _⟩
  · exact ⟨readings, before⟩

theorem shadowing (before : world.Shadowing)
    (run : RunsAmid reading world answered result after) : after.Shadowing :=
  run.preserves World.Shadowing (fun key _ shadowing => shadowing.ask key)
    (fun _ _ _ _ shadowing => shadowing) before

theorem atHand {id : FileId} {answer : Except FileError Source} (before : world.AtHand id answer)
    (run : RunsAmid reading world answered result after) : after.AtHand id answer := by
  apply run.preserves fun world => world.AtHand id answer
  · intro key world kept
    exact kept.ask key
  · intro world fonts clock host kept
    apply kept.of_same <;> rfl
  · exact before

/-- Every source that was answered in a run is at hand at its end. -/
theorem atHand_of_answered (run : RunsAmid reading world answered result after) {id : FileId}
    {answer : Except FileError Source} (given : (id, .ofExcept answer) ∈ answered) :
    after.AtHand id answer := by
  -- an answer that was given earlier is at hand at once, and the rest of the run keeps it
  induction run with
  | done => cases given
  | change _ _ ih => exact ih given
  | library _ ih => exact ih given
  | book _ ih => exact ih given
  | font _ ih => exact ih given
  | today _ ih => exact ih given
  | file _ ih => exact ih given
  | source rest ih =>
      rcases List.mem_cons.mp given with here | later
      · rcases Prod.mk.inj here with ⟨rfl, same⟩
        exact rest.atHand (World.atHand_source same.symm)
      · exact ih later

end RunsAmid

/-! ## Results under answers -/

/--
Every result of a reading meets a condition, whatever is answered, as long as the
sources that are answered are possible ones.
-/
def Under (possible : FileId → Outcome Source → Prop) (met : α → Prop) : Reading α → Prop
  | .done result => met result
  | .library next => ∀ answer, (next answer).Under possible met
  | .book next => ∀ answer, (next answer).Under possible met
  | .font _ next => ∀ answer, (next answer).Under possible met
  | .today _ next => ∀ answer, (next answer).Under possible met
  | .source id next => ∀ answer, possible id answer → (next answer).Under possible met
  | .file _ next => ∀ answer, (next answer).Under possible met

variable {possible : FileId → Outcome Source → Prop} {met early late : α → Prop}

theorem Under.mono {reading : Reading α} (under : reading.Under possible early)
    (implies : ∀ result, early result → late result) : reading.Under possible late := by
  induction reading with
  | done result => exact implies result under
  | library next ih => exact fun answer => ih answer (under answer)
  | book next ih => exact fun answer => ih answer (under answer)
  | font index next ih => exact fun answer => ih answer (under answer)
  | today request next ih => exact fun answer => ih answer (under answer)
  | source id next ih => exact fun answer isPossible => ih answer (under answer isPossible)
  | file id next ih => exact fun answer => ih answer (under answer)

theorem Under.trivial (reading : Reading α) : reading.Under possible fun _ => True := by
  induction reading with
  | done result => exact True.intro
  | library next ih => exact ih
  | book next ih => exact ih
  | font index next ih => exact ih
  | today request next ih => exact ih
  | source id next ih => exact fun answer _ => ih answer
  | file id next ih => exact ih

theorem Under.andThen {reading : Reading α} {follow : α → Reading β} {met : β → Prop}
    (under : reading.Under possible fun result => (follow result).Under possible met) :
    (reading.andThen follow).Under possible met := by
  induction reading with
  | done result => exact under
  | library next ih => exact fun answer => ih answer (under answer)
  | book next ih => exact fun answer => ih answer (under answer)
  | font index next ih => exact fun answer => ih answer (under answer)
  | today request next ih => exact fun answer => ih answer (under answer)
  | source id next ih => exact fun answer isPossible => ih answer (under answer isPossible)
  | file id next ih => exact fun answer => ih answer (under answer)

/-- The result of a run meets what every result meets under the answers that were given. -/
theorem Under.of_runsAmid {reading : Reading α} {world after : World}
    {answered : List (FileId × Outcome Source)} {result : α}
    (under : reading.Under possible met) (run : RunsAmid reading world answered result after)
    (given : ∀ id answer, (id, answer) ∈ answered → possible id answer) : met result := by
  induction run with
  | done => exact under
  | change _ _ ih => exact ih under given
  | library _ ih => exact ih (under _) given
  | book _ ih => exact ih (under _) given
  | font _ ih => exact ih (under _) given
  | today _ ih => exact ih (under _) given
  | file _ ih => exact ih (under _) given
  | source _ ih =>
      apply ih
      · exact under _ (given _ _ List.mem_cons_self)
      · intro id answer member
        exact given id answer (List.mem_cons_of_mem _ member)

/-- Every value of a step meets a condition, under possible answers for sources. -/
def UnderStep (possible : FileId → Outcome Source → Prop) (met : α → Prop)
    (step : ExceptT Fault Reading α) : Prop :=
  step.run.Under possible fun result => ∀ value, result = .ok value → met value

namespace UnderStep

theorem pure {value : α} (holds : met value) : UnderStep possible met (Pure.pure value) := by
  rintro _ ⟨⟩
  exact holds

theorem throw (fault : Fault) : UnderStep possible met (MonadExcept.throw fault) := by
  rintro _ ⟨⟩

theorem mono {step : ExceptT Fault Reading α} (under : UnderStep possible early step)
    (implies : ∀ value, early value → late value) : UnderStep possible late step := by
  apply Under.mono under
  intro result holds value same
  exact implies value (holds value same)

theorem trivial (step : ExceptT Fault Reading α) : UnderStep possible (fun _ => True) step := by
  apply (Under.trivial step.run).mono
  intro result _ value _
  exact True.intro

theorem bind {step : ExceptT Fault Reading α} {next : α → ExceptT Fault Reading β}
    {met : β → Prop}
    (under : UnderStep possible (fun value => UnderStep possible met (next value)) step) :
    UnderStep possible met (step >>= next) := by
  apply Under.andThen
  apply Under.mono under
  intro result rest
  cases result with
  | error fault =>
      rintro _ ⟨⟩
  | ok value => exact rest value rfl

theorem library {next : Library → ExceptT Fault Reading α}
    (rest : ∀ library, UnderStep possible met (next library)) :
    UnderStep possible met (ExceptT.lift askLibrary >>= next) :=
  rest

theorem source {id : FileId} {next : Outcome Source → ExceptT Fault Reading α}
    (rest : ∀ answer, possible id answer → UnderStep possible met (next answer)) :
    UnderStep possible met (ExceptT.lift (askSource id) >>= next) :=
  rest

theorem file {id : FileId} {next : Outcome Bytes → ExceptT Fault Reading α}
    (rest : ∀ answer, UnderStep possible met (next answer)) :
    UnderStep possible met (ExceptT.lift (askFile id) >>= next) :=
  rest

end UnderStep

end Reading

end Typeset

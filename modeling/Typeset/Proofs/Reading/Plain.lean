import Typeset.Proofs.Reading.Runs

/-!
# Plain readings

A plain reading makes nothing of an answer but what can be told of it: not the
revision of a source, and of an error its kind and text only. It ends with the first
read that breaks off, unless that would break off every time. Two worlds that agree
give a plain reading the same result, whatever they keep from before.
-/

namespace Typeset.Reading

open FileCache

variable {α β : Type} {ends : α → Prop}

/-- A reading that goes by what can be told of answers, and ends when it is interrupted. -/
def Plain (ends : α → Prop) : Reading α → Prop
  | .done _ => True
  | .library next =>
      (∀ left right : Library, (∀ key, left.input? key = right.input? key) →
        next left = next right) ∧
      ∀ library, (next library).Plain ends
  | .book _ => False
  | .font _ _ => False
  | .today _ next => ∀ answer, (next answer).Plain ends
  | .source id next =>
      (∀ left right : Outcome Source, left.seen Source.pristine = right.seen Source.pristine →
        next left = next right) ∧
      (∀ answer, (next (.ofExcept answer)).Plain ends) ∧
      ∀ fault, (∃ result, next (.broken fault) = .done result ∧ ends result) ∨
        (id.Steady ∧ (∃ message, fault = .invalidValue message) ∧
          (next (.broken fault)).Plain ends)
  | .file id next =>
      (∀ left right : Outcome Bytes, left.seen (fun content => content) =
          right.seen (fun content => content) → next left = next right) ∧
      (∀ answer, (next (.ofExcept answer)).Plain ends) ∧
      ∀ fault, (∃ result, next (.broken fault) = .done result ∧ ends result) ∨
        (id.Steady ∧ (∃ message, fault = .invalidValue message) ∧
          (next (.broken fault)).Plain ends)

theorem plain_question_iff (key : Key) (next : Outcome key.kind.Value → Reading α) :
    (question key next).Plain ends ↔
      (∀ left right, left.seen key.kind.shown = right.seen key.kind.shown →
        next left = next right) ∧
      (∀ answer, (next (.ofExcept answer)).Plain ends) ∧
      ∀ fault, (∃ result, next (.broken fault) = .done result ∧ ends result) ∨
        (key.id.Steady ∧ (∃ message, fault = .invalidValue message) ∧
          (next (.broken fault)).Plain ends) := by
  rcases key with ⟨id, kind⟩
  cases kind <;> exact Iff.rfl

theorem andThen_question (key : Key) (next : Outcome key.kind.Value → Reading α)
    (follow : α → Reading β) :
    (question key next).andThen follow =
      question key fun answer => (next answer).andThen follow := by
  rcases key with ⟨id, kind⟩
  cases kind <;> rfl

namespace Plain

variable {ends' : β → Prop} {follow : α → Reading β}

theorem question_andThen {key : Key} {next : Outcome key.kind.Value → Reading α}
    (plain : (question key next).Plain ends)
    (stops : ∀ result, ends result → ∃ last, follow result = .done last ∧ ends' last)
    (ih : ∀ answer, (next answer).Plain ends → ((next answer).andThen follow).Plain ends') :
    ((question key next).andThen follow).Plain ends' := by
  simp only [plain_question_iff] at plain
  simp only [andThen_question, plain_question_iff]
  rcases plain with ⟨respects, continues, breaks⟩
  refine ⟨?_, fun answer => ih _ (continues answer), ?_⟩
  · intro left right same
    simp only [respects left right same]
  · intro fault
    rcases breaks fault with ⟨result, last, ended⟩ | ⟨steady, invalid, goesOn⟩
    · rcases stops result ended with ⟨final, done, ended'⟩
      refine .inl ⟨final, ?_, ended'⟩
      simp only [last]
      exact done
    · exact .inr ⟨steady, invalid, ih _ goesOn⟩

/-- A plain reading goes on plainly if what follows an interruption is the end. -/
theorem andThen {reading : Reading α} (plain : reading.Plain ends)
    (stops : ∀ result, ends result → ∃ last, follow result = .done last ∧ ends' last)
    (next : ∀ result, (follow result).Plain ends') : (reading.andThen follow).Plain ends' := by
  induction reading with
  | done result => exact next result
  | library ask ih =>
      refine ⟨?_, fun library => ih library (plain.2 library)⟩
      intro left right same
      dsimp only
      simp only [plain.1 left right same]
  | book ask ih => exact plain.elim
  | font index ask ih => exact plain.elim
  | today request ask ih => exact fun answer => ih answer (plain answer)
  | source id ask ih => exact @question_andThen _ _ _ _ _ ⟨id, .source⟩ ask plain stops ih
  | file id ask ih => exact @question_andThen _ _ _ _ _ ⟨id, .bytes⟩ ask plain stops ih

end Plain

/-! ## Runs in worlds that agree -/

/-- A world in which a reading can be run without a stale answer. -/
structure Ready (reading : Reading α) (readings : List (Except FileError Bytes)) (world : World) :
    Prop where
  sound : world.Sound readings
  current : world.Current
  free : CollisionFree (reading.loads world ++ readings)
  quiet : (reading.run.run world).2.host.responses = world.host.responses
  fixed : ∃ instant, world.clock.fixed = some instant

theorem Ready.question {key : Key} {next : Outcome key.kind.Value → Reading α}
    {readings : List (Except FileError Bytes)} {world : World}
    (ready : Ready (question key next) readings world) :
    ((World.ask key).run world).1.seen key.kind.shown = (world.plain key).seen key.kind.shown ∧
      ((World.ask key).run world).2.host.disk = world.host.disk ∧
      (Ready (next ((World.ask key).run world).1) (world.loads key ++ readings)
          ((World.ask key).run world).2 ∨
        ∃ fault, ((World.ask key).run world).1 = .broken fault ∧
          (key.id.Steady → ∀ message, fault ≠ .invalidValue message)) := by
  rcases ready with ⟨sound, current, free, quiet, fixed⟩
  simp only [loads_question, List.append_assoc] at free
  simp only [run_question] at quiet
  have early := keeps_ask sound key
  have kept := World.sound_ask sound key
  have late := (sound_run kept (next ((World.ask key).run world).1)).2
  have first := early.quiet_first late quiet
  have answered := World.ask_answers sound current
    (free.mono (List.subset_append_right _ _)) first
  refine ⟨answered.1, answered.2.1, ?_⟩
  rcases answered.2.2 with still | interrupted
  · exact .inl ⟨kept, still, free, quiet.trans first.symm, early.clock.fixed ▸ fixed⟩
  · exact .inr interrupted

/-- The reading has one result in all worlds that agree. -/
def RunsAlike (reading : Reading α) : Prop :=
  ∀ left right leftReadings rightReadings, World.Agrees left right →
    Ready reading leftReadings left → Ready reading rightReadings right →
      (reading.run.run left).1 = (reading.run.run right).1

theorem agrees_ask {left right : World} (agree : left.Agrees right)
    {leftReadings rightReadings : List (Except FileError Bytes)}
    (leftSound : left.Sound leftReadings) (rightSound : right.Sound rightReadings) {key : Key}
    (leftDisk : ((World.ask key).run left).2.host.disk = left.host.disk)
    (rightDisk : ((World.ask key).run right).2.host.disk = right.host.disk) :
    ((World.ask key).run left).2.Agrees ((World.ask key).run right).2 := by
  have leftKeeps := keeps_ask leftSound key
  have rightKeeps := keeps_ask rightSound key
  refine ⟨?_, ?_, ?_, ?_, ?_, ?_, ?_, ?_⟩
  · simp only [leftKeeps.root, rightKeeps.root, agree.root]
  · simp only [leftKeeps.markup, rightKeeps.markup, agree.markup]
  · simp only [World.library, leftKeeps.inputs, rightKeeps.inputs]
    exact agree.inputs
  · simp only [leftKeeps.overlay, rightKeeps.overlay]
    exact agree.files
  · simp only [leftKeeps.packages, rightKeeps.packages, agree.installed]
  · simp only [leftKeeps.packages, rightKeeps.packages, agree.cache]
  · simp only [leftDisk, rightDisk]
    exact agree.disk
  · exact leftKeeps.clock.trans (agree.clock.trans rightKeeps.clock.symm)

/-- A question is answered alike in both worlds, and the reading goes on or ends in both. -/
theorem runsAlike_question {key : Key} {next : Outcome key.kind.Value → Reading α}
    (respects : ∀ left right : Outcome key.kind.Value,
      left.seen key.kind.shown = right.seen key.kind.shown → next left = next right)
    (continues : ∀ answer, RunsAlike (next (.ofExcept answer)))
    (breaks : ∀ fault, (∃ result, next (.broken fault) = .done result) ∨
      (key.id.Steady ∧ (∃ message, fault = .invalidValue message) ∧
        RunsAlike (next (.broken fault)))) : RunsAlike (question key next) := by
  intro left right leftReadings rightReadings agree leftReady rightReady
  rcases leftReady.question with ⟨leftSeen, leftDisk, leftGoes⟩
  rcases rightReady.question with ⟨rightSeen, rightDisk, rightGoes⟩
  have after := agrees_ask agree leftReady.sound rightReady.sound leftDisk rightDisk
  have seen : ((World.ask key).run left).1.seen key.kind.shown =
      ((World.ask key).run right).1.seen key.kind.shown := by
    simp only [leftSeen, rightSeen, agree.plain key]
  have same := respects _ _ seen
  rw [run_question, run_question, ← same]
  rw [← same] at rightGoes
  rcases ((World.ask key).run left).1.broken_or_ofExcept with ⟨fault, broken⟩ | ⟨answer, completed⟩
  · have alsoBroken : ((World.ask key).run right).1 = .broken fault := by
      rw [← @Outcome.seen_eq_broken_iff _ key.kind.shown, ← seen, broken]
      rfl
    simp only [broken] at leftGoes rightGoes ⊢
    -- a reading goes on only after a read that breaks off every time, so nothing is stale
    rcases breaks fault with ⟨result, last⟩ | ⟨steady, ⟨message, invalid⟩, goesOn⟩
    · simp only [last]
      rfl
    · rcases leftGoes with leftReady | ⟨_, is, never⟩
      · rcases rightGoes with rightReady | ⟨_, is, never⟩
        · exact goesOn _ _ _ _ after leftReady rightReady
        · cases alsoBroken.symm.trans is
          exact absurd invalid (never steady message)
      · cases is
        exact absurd invalid (never steady message)
  · have notBroken (fault : Fault) : ((World.ask key).run right).1 ≠ .broken fault := by
      intro broken
      simp only [completed, broken] at seen
      cases answer <;> cases seen
    simp only [completed] at leftGoes rightGoes ⊢
    rcases leftGoes with leftReady | ⟨fault, is, _⟩
    · rcases rightGoes with rightReady | ⟨fault, is, _⟩
      · exact continues answer _ _ _ _ after leftReady rightReady
      · exact absurd is (notBroken fault)
    · cases answer <;> cases is

theorem run_today_of_fixed {world : World} {instant : Instant}
    (fixed : world.clock.fixed = some instant) (request : DayRequest) :
    (World.today request).run world = (world.clock.zone.date instant request, world) := by
  have split : (World.today request).run world =
      ((world.clock.today request).1, { world with clock := (world.clock.today request).2 }) := rfl
  simp only [split, Clock.today, Clock.now, fixed]

theorem run_today {world : World} {instant : Instant} (fixed : world.clock.fixed = some instant)
    (request : DayRequest) (next : Except Fault (Option Date) → Reading α) :
    (today request next).run.run world =
      (next (world.clock.zone.date instant request)).run.run world := by
  have split : (today request next).run.run world =
      (next ((World.today request).run world).1).run.run ((World.today request).run world).2 := rfl
  simp only [split, run_today_of_fixed fixed]

theorem Ready.today {world : World} {readings : List (Except FileError Bytes)} {instant : Instant}
    (fixed : world.clock.fixed = some instant) {request : DayRequest}
    {next : Except Fault (Option Date) → Reading α}
    (ready : Ready (today request next) readings world) :
    Ready (next (world.clock.zone.date instant request)) readings world := by
  have free := ready.free
  have quiet := ready.quiet
  simp only [loads, run_today_of_fixed fixed] at free
  simp only [run_today fixed] at quiet
  exact ⟨ready.sound, ready.current, free, quiet, ready.fixed⟩

theorem Ready.library {world : World} {readings : List (Except FileError Bytes)}
    {next : Library → Reading α} (ready : Ready (library next) readings world) :
    Ready (next world.library) readings world :=
  ⟨ready.sound, ready.current, ready.free, ready.quiet, ready.fixed⟩

/-- In worlds that agree a plain reading has one result. -/
theorem Plain.runsAlike {reading : Reading α} (plain : reading.Plain ends) :
    RunsAlike reading := by
  induction reading with
  | done result =>
      intro left right _ _ _ _ _
      rfl
  | library next ih =>
      intro left right leftReadings rightReadings agree leftReady rightReady
      have same := plain.1 left.library right.library agree.inputs
      have rightGoes := rightReady.library
      change ((next left.library).run.run left).1 = ((next right.library).run.run right).1
      rw [← same] at rightGoes ⊢
      exact ih _ (plain.2 _) _ _ _ _ agree leftReady.library rightGoes
  | book next ih => exact plain.elim
  | font index next ih => exact plain.elim
  | today request next ih =>
      intro left right leftReadings rightReadings agree leftReady rightReady
      rcases leftReady.fixed with ⟨instant, fixed⟩
      have alsoFixed := agree.clock.fixed.symm.trans fixed
      have rightGoes := rightReady.today alsoFixed
      rw [← agree.clock.zone] at rightGoes
      rw [run_today fixed, run_today alsoFixed, ← agree.clock.zone]
      exact ih _ (plain _) _ _ _ _ agree (leftReady.today fixed) rightGoes
  | source id next ih =>
      rcases plain with ⟨respects, continues, breaks⟩
      refine @runsAlike_question _ ⟨id, .source⟩ next respects
        (fun answer => ih _ (continues answer)) ?_
      intro fault
      rcases breaks fault with ⟨result, last, _⟩ | ⟨steady, invalid, goesOn⟩
      · exact .inl ⟨result, last⟩
      · exact .inr ⟨steady, invalid, ih _ goesOn⟩
  | file id next ih =>
      rcases plain with ⟨respects, continues, breaks⟩
      refine @runsAlike_question _ ⟨id, .bytes⟩ next respects
        (fun answer => ih _ (continues answer)) ?_
      intro fault
      rcases breaks fault with ⟨result, last, _⟩ | ⟨steady, invalid, goesOn⟩
      · exact .inl ⟨result, last⟩
      · exact .inr ⟨steady, invalid, ih _ goesOn⟩

/-! ## Steps that can break off -/

/-- A step is plain if it is, as a reading that ends by breaking off. -/
def PlainStep (step : ExceptT Fault Reading α) : Prop :=
  step.run.Plain fun result => ∃ fault, result = .error fault

namespace PlainStep

theorem pure (result : α) : PlainStep (Pure.pure result) :=
  trivial

theorem throw (fault : Fault) : PlainStep (α := α) (MonadExcept.throw fault) :=
  trivial

theorem bind {step : ExceptT Fault Reading α} {next : α → ExceptT Fault Reading β}
    (plain : PlainStep step) (rest : ∀ result, PlainStep (next result)) :
    PlainStep (step >>= next) := by
  apply plain.andThen
  · rintro _ ⟨fault, rfl⟩
    exact ⟨.error fault, rfl, fault, rfl⟩
  · intro result
    cases result with
    | error fault => trivial
    | ok result => exact rest result

theorem library {next : Library → ExceptT Fault Reading α}
    (respects : ∀ left right : Library, (∀ key, left.input? key = right.input? key) →
      next left = next right)
    (rest : ∀ library, PlainStep (next library)) :
    PlainStep (ExceptT.lift askLibrary >>= next) :=
  ⟨fun left right same => congrArg ExceptT.run (respects left right same), rest⟩

theorem today {request : DayRequest} {next : Except Fault (Option Date) → ExceptT Fault Reading α}
    (rest : ∀ answer, PlainStep (next answer)) :
    PlainStep (ExceptT.lift (askToday request) >>= next) :=
  rest

/-- Asking for a source is plain if it counts like one that was never edited. -/
theorem source {id : FileId} {next : Outcome Source → ExceptT Fault Reading α}
    (values : ∀ left right : Source, left.pristine = right.pristine →
      next (.value left) = next (.value right))
    (errors : ∀ left right : FileError, left.bare = right.bare →
      next (.failed left) = next (.failed right))
    (continues : ∀ answer, PlainStep (next (.ofExcept answer)))
    (breaks : ∀ fault, (∃ result, next (.broken fault) = MonadExcept.throw result) ∨
      (id.Steady ∧ (∃ message, fault = .invalidValue message) ∧
        PlainStep (next (.broken fault)))) :
    PlainStep (ExceptT.lift (askSource id) >>= next) := by
  refine (plain_question_iff ⟨id, .source⟩ fun answer => (next answer).run).mpr
    ⟨?_, continues, ?_⟩
  · intro left right same
    exact congrArg ExceptT.run (Outcome.congr_of_seen values errors same)
  · intro fault
    rcases breaks fault with ⟨result, last⟩ | goesOn
    · exact .inl ⟨.error result, congrArg ExceptT.run last, result, rfl⟩
    · exact .inr goesOn

theorem file {id : FileId} {next : Outcome Bytes → ExceptT Fault Reading α}
    (errors : ∀ left right : FileError, left.bare = right.bare →
      next (.failed left) = next (.failed right))
    (continues : ∀ answer, PlainStep (next (.ofExcept answer)))
    (breaks : ∀ fault, ∃ result, next (.broken fault) = MonadExcept.throw result) :
    PlainStep (ExceptT.lift (askFile id) >>= next) := by
  refine (plain_question_iff ⟨id, .bytes⟩ fun answer => (next answer).run).mpr
    ⟨?_, continues, ?_⟩
  · intro left right same
    have values : ∀ left right : Bytes, left = right → next (.value left) = next (.value right) :=
      fun _ _ equal => congrArg _ (congrArg _ equal)
    exact congrArg ExceptT.run (Outcome.congr_of_seen values errors same)
  · intro fault
    rcases breaks fault with ⟨result, last⟩
    exact .inl ⟨.error result, congrArg ExceptT.run last, result, rfl⟩

end PlainStep

end Typeset.Reading

import Typeset.Proofs.LineMarkup.Dates
import Typeset.Proofs.Session.History

/-!
# One instant in a period

Whatever is done with a session and its world, one action after another, what is watched on
the clock falls into periods: replacing the main text, compiling and exporting as HTML
start one before they ask anything. In a period the time is taken at most once, and every
answer is about that one instant.
-/

namespace Typeset

open Reading

namespace SourceDiagnostic

theorem dateless_locate_span (span : SourceSpan) :
    AsksDaysStep (fun _ => False) span.locate := by
  simp only [SourceSpan.locate]
  split
  · apply AsksDaysStep.source
    intro answer
    cases answer with
    | value source => exact .pure _
    | failed error => exact .pure _
    | broken fault => exact .throw fault
  · exact .pure _

theorem dateless_locateTrace (items : List (SourceSpan × String)) :
    AsksDaysStep (fun _ => False) (locateTrace items) := by
  induction items with
  | nil => exact .pure _
  | cons item items ih =>
      apply (dateless_locate_span item.1).bind
      intro position
      apply ih.bind
      intro positions
      exact .pure _

theorem dateless_locate (diagnostic : SourceDiagnostic) :
    AsksDaysStep (fun _ => False) diagnostic.locate := by
  simp only [locate]
  cases Severity.read diagnostic.severity with
  | error fault => exact .throw fault
  | ok severity =>
      apply (dateless_locate_span diagnostic.span).bind
      intro position
      apply (dateless_locateTrace diagnostic.trace).bind
      intro trace
      exact .pure _

theorem dateless_locateAll (diagnostics : List SourceDiagnostic) :
    AsksDaysStep (fun _ => False) (locateAll diagnostics) := by
  induction diagnostics with
  | nil => exact .pure _
  | cons diagnostic diagnostics ih =>
      apply diagnostic.dateless_locate.bind
      intro located
      apply ih.bind
      intro rest
      exact .pure _

end SourceDiagnostic

/-- A compiler that is told beforehand what every question for a date is answered. -/
def Compiler.datedBy {π ν : Type} (compiler : Compiler π ν) (day : Except Fault (Option Date)) :
    Compiler π ν :=
  fun target => (compiler target).datedBy day

namespace Session

variable {π ν : Type}

/-- What can be done with a session, or with its world alone. -/
inductive Action (π ν : Type) where
  | call (call : Call π ν)
  | reset
  | now
  | ask (reading : Reading Unit)

def afterAction (session : Session π) : Action π ν → Session π
  | .call call => session.call call
  | .reset => (Session.reset.run session).2
  | .now => { session with world := { session.world with clock := session.world.clock.now.2 } }
  | .ask reading => ((inWorld reading.run).run session).2

/-- What is watched on the clock during an action. -/
def watch (session : Session π) : Action π ν → List ClockEvent
  | .call (.setMarkup _) | .reset => [.reset]
  | .call (.compile compiler) =>
      .reset :: (consult compiler .paged toldOfPages).watch (session.started .paged)
  | .call (.exportHtml compiler serializer) =>
      .reset :: (consult compiler .html (toldOfHtml serializer)).watch (session.started .html)
  | .call _ => []
  | .now => session.world.clock.takes ++ [.now session.world.clock.now.1]
  | .ask reading => reading.watch session.world

/-- The session that actions leave, first ones first. -/
def afterActions (session : Session π) (actions : List (Action π ν)) : Session π :=
  actions.foldl afterAction session

/-- What is watched on the clock during actions, first ones first. -/
def watched (session : Session π) : List (Action π ν) → List ClockEvent
  | [] => []
  | latest :: actions => session.watch latest ++ (session.afterAction latest).watched actions

/-! ## One action -/

theorem clock_started (target : Target) (session : Session π) :
    (session.started target).clock = session.world.clock.reset := by
  rcases started_eq target session with ⟨records, same⟩
  rw [same]
  rfl

/-- A compile starts a period and then watches what its questions show. -/
theorem watches_consult (session : Session π) (compiler : Compiler π ν) (target : Target)
    (told : CompileOutput π → List SourceDiagnostic) :
    session.world.clock.Watches
      (.reset :: (consult compiler target told).watch (session.started target))
      ((consult compiler target told).run.run (session.started target)).2.clock := by
  have rest := watches_run (consult compiler target told) (session.started target)
  rw [clock_started] at rest
  exact .next (.reset session.world.clock) rest

theorem watches_call (session : Session π) (call : Call π ν) :
    session.world.clock.Watches (session.watch (.call call)) (session.call call).world.clock := by
  cases call with
  | setMarkup markup => exact .next (.reset session.world.clock) (.done _)
  | compile compiler =>
      have rest := watches_consult session compiler .paged toldOfPages
      rcases world_concludePages (session.consulted compiler).2 (session.consulted compiler).1 with
        ⟨records, concluded⟩
      rw [Session.call, run_compile, concluded]
      exact rest
  | exportHtml compiler serializer =>
      have rest := watches_consult session compiler .html (toldOfHtml serializer)
      rcases run_exportHtml compiler serializer session with ⟨records, exported⟩
      rw [Session.call, exported]
      exact rest
  | streamVirtualFile path values name context batchSize =>
      by_cases positive : 1 ≤ batchSize
      · rcases run_streamVirtualFile path values name context positive session with
          ⟨overlay, records, streamed⟩
        rw [Session.call, streamed]
        exact .done _
      · have refused := Int.not_le.mp positive
        rw [Session.call, run_streamVirtualFile_of_refused path values name context refused]
        exact .done _
  | setVirtualFile path content => exact .done _
  | appendVirtualFile path content => exact .done _
  | clearVirtualFile path => exact .done _
  | setInput key value =>
      rcases run_setInput key value session with ⟨records, set⟩
      rw [Session.call, set]
      exact .done _
  | setInputs bindings =>
      rcases run_setInputs bindings session with ⟨records, set⟩
      rw [Session.call, set]
      exact .done _
  | renderPage renderer page =>
      rcases run_renderPage renderer page session with ⟨records, rendered⟩
      rw [Session.call, rendered]
      exact .done _
  | exportPdf serializer options keywords =>
      rcases run_exportPdfWith serializer options keywords session with ⟨records, exported⟩
      rw [Session.call, exported]
      exact .done _
  | meanwhile change => exact .done _

theorem watches_afterAction (session : Session π) (latest : Action π ν) :
    session.world.clock.Watches (session.watch latest)
      (session.afterAction latest).world.clock := by
  cases latest with
  | call call => exact watches_call session call
  | reset => exact .next (.reset session.world.clock) (.done _)
  | now => exact session.world.clock.watches_now
  | ask reading => exact watches_run reading session.world

/-! ## Many actions -/

theorem watches_afterActions (session : Session π) (actions : List (Action π ν)) :
    session.world.clock.Watches (session.watched actions)
      (session.afterActions actions).world.clock := by
  induction actions generalizing session with
  | nil => exact .done _
  | cons latest actions ih =>
      exact (watches_afterAction session latest).append (ih (session.afterAction latest))

/-! ## Dates of a compile -/

theorem consult_datedBy (compiler : Compiler π ν) (target : Target)
    (told : CompileOutput π → List SourceDiagnostic) (day : Except Fault (Option Date)) :
    (consult compiler target told).datedBy day =
      consult (compiler.datedBy day) target told := by
  simp only [consult, datedBy_andThen]
  congr 1
  funext noted
  rcases noted with ⟨notes, verdict⟩
  cases verdict with
  | error fault => rfl
  | ok output =>
      dsimp only
      rw [datedBy_andThen, datedBy_of_dateless (SourceDiagnostic.dateless_locateAll _)]
      congr 1
      funext located
      cases located <;> rfl

/-- The compiler of the markup may be told one date before it is asked to compile. -/
theorem consult_markup_datedBy (world : World) (target : Target)
    (told : CompileOutput LineMarkup.Page → List SourceDiagnostic) :
    ((consult (LineMarkup.compiler.datedBy
        (world.clock.zone.date world.clock.now.1 (.hoursAhead 0))) target told).run.run world).1 =
      ((consult LineMarkup.compiler target told).run.run world).1 := by
  have asks : (consult LineMarkup.compiler target told).AsksDays (· = .hoursAhead 0) := by
    apply (LineMarkup.asksToday_compiler target).andThen
    rintro ⟨notes, verdict⟩
    cases verdict with
    | error fault => trivial
    | ok output =>
        apply (AsksDays.mono (SourceDiagnostic.dateless_locateAll _) fun _ => False.elim).andThen
        intro located
        cases located <;> trivial
  rw [← consult_datedBy]
  exact run_datedBy asks world world.clock

theorem zone_started (target : Target) (session : Session π) :
    (session.started target).clock.zone = session.world.clock.zone := by
  rw [clock_started]
  rfl

theorem compile_datedBy (session : Session LineMarkup.Page) :
    ∃ instant, ((compile LineMarkup.compiler).run session).1 =
      ((compile (LineMarkup.compiler.datedBy
        (session.world.clock.zone.date instant (.hoursAhead 0)))).run session).1 := by
  refine ⟨(session.started .paged).clock.now.1, ?_⟩
  have answered := consult_markup_datedBy (session.started .paged) .paged toldOfPages
  rw [zone_started] at answered
  rw [run_compile, run_compile, consulted, consulted, answered]
  exact (concludePages_congr _ _ _).1

theorem exportHtml_datedBy (session : Session LineMarkup.Page)
    (serializer : Serializer LineMarkup.Page) :
    ∃ instant, ((exportHtml LineMarkup.compiler serializer).run session).1 =
      ((exportHtml (LineMarkup.compiler.datedBy
        (session.world.clock.zone.date instant (.hoursAhead 0))) serializer).run session).1 := by
  refine ⟨(session.started .html).clock.now.1, ?_⟩
  have answered := consult_markup_datedBy (session.started .html) .html (toldOfHtml serializer)
  rw [zone_started] at answered
  rcases run_exportHtml LineMarkup.compiler serializer session with ⟨records, exported⟩
  rcases run_exportHtml (LineMarkup.compiler.datedBy (session.world.clock.zone.date
    (session.started .html).clock.now.1 (.hoursAhead 0))) serializer session with
    ⟨otherRecords, otherExported⟩
  rw [exported, otherExported]
  dsimp only
  rw [answered]

/-! ## The main result -/

/-- A call that starts a period before it asks anything. -/
def Call.StartsPeriod : Call π ν → Prop
  | .setMarkup _ | .compile _ | .exportHtml _ _ => True
  | .setVirtualFile _ _ | .appendVirtualFile _ _ | .clearVirtualFile _
  | .streamVirtualFile _ _ _ _ _ | .setInput _ _ | .setInputs _ | .renderPage _ _
  | .exportPdf _ _ _ | .meanwhile _ => False

theorem watch_of_startsPeriod {call : Call π ν} (starts : call.StartsPeriod)
    (session : Session π) :
    ∃ later, session.watch (.call call) = .reset :: later ∧ .reset ∉ later := by
  cases call with
  | setMarkup markup => exact ⟨[], rfl, List.not_mem_nil⟩
  | compile compiler => exact ⟨_, rfl, reset_not_mem_watch _ _⟩
  | exportHtml compiler serializer => exact ⟨_, rfl, reset_not_mem_watch _ _⟩
  | _ => exact starts.elim

/--
Between two resets the time is taken at most once, and all that is answered is about one
instant, however the date is asked for. Unless the clock stands still, a period that a reset
began takes its instant from the source before it answers anything, so that no answer is about
an earlier one. The instants that were taken are those that the source gave. Replacing the main
text, compiling and exporting as HTML start a period before they ask anything, and the markup
is compiled as if one date had been told beforehand. A clock that was made to stand still takes
no time, stays as it is, and is about its instant in all periods.
-/
theorem one_instant_between_resets (session : Session π) (actions : List (Action π ν)) :
    (∀ period, period <:+: session.watched actions → .reset ∉ period →
      ∃ instant, (∀ event ∈ period, event.Of session.world.clock.zone instant) ∧
        (period.filterMap ClockEvent.taken?).length ≤ 1) ∧
    (session.world.clock.fixed = none → ∀ period,
      .reset :: period <:+: session.watched actions → .reset ∉ period →
      period = [] ∨ ∃ instant answers, period = .taken instant :: answers ∧
        (∀ event ∈ answers, event.Of session.world.clock.zone instant) ∧
        answers.filterMap ClockEvent.taken? = []) ∧
    session.world.clock.source.Gives ((session.watched actions).filterMap ClockEvent.taken?)
      (session.afterActions actions).world.clock.source ∧
    (∀ call : Call π ν, call.StartsPeriod → ∃ later,
      (session.afterActions actions).watch (.call call) = .reset :: later ∧ .reset ∉ later) ∧
    (∀ drafted : Session LineMarkup.Page,
      (∃ instant, ((compile LineMarkup.compiler).run drafted).1 =
        ((compile (LineMarkup.compiler.datedBy
          (drafted.world.clock.zone.date instant (.hoursAhead 0)))).run drafted).1) ∧
      ∀ serializer, ∃ instant, ((exportHtml LineMarkup.compiler serializer).run drafted).1 =
        ((exportHtml (LineMarkup.compiler.datedBy
          (drafted.world.clock.zone.date instant (.hoursAhead 0))) serializer).run drafted).1) ∧
    ∀ zone known, session.world.clock = .ofFixed zone known →
      (session.watched actions).filterMap ClockEvent.taken? = [] ∧
      (session.afterActions actions).world.clock = .ofFixed zone known ∧
      ∃ instant, ∀ event ∈ session.watched actions, event = .reset ∨ event.Of zone instant := by
  have watches := watches_afterActions session actions
  refine ⟨?_, ?_, watches.gives, fun call starts => watch_of_startsPeriod starts _,
    fun drafted => ⟨compile_datedBy drafted, exportHtml_datedBy drafted⟩, ?_⟩
  · intro period inside quiet
    rcases watches.exists_of_infix inside with ⟨before, after, alike, within⟩
    rw [← alike.zone]
    exact within.one_instant quiet
  · intro ticking period inside quiet
    rcases watches.exists_of_infix inside with ⟨before, after, alike, within⟩
    rw [← alike.zone]
    exact within.taken_in_period (alike.fixed.trans ticking) quiet
  · intro zone known still
    rw [still] at watches
    rcases watches.of_fixed rfl rfl with ⟨about, none_taken, unchanged⟩
    exact ⟨none_taken, unchanged, _, about⟩

end Session

end Typeset

import Typeset.Proofs.Reading.Amid
import Typeset.Proofs.Session.History
import Typeset.Proofs.Source.Positions

/-!
# Diagnostics are shown in the texts that the compiler read

The diagnostics of a compile are given their positions after the compiler is done. By
then the files may be others, but within the period every source that the compiler
obtained is still at hand, and so the positions are those in the texts that it read.
Of what is told of a compile nothing else is changed, left out or moved.
-/

namespace Typeset

namespace SourceSpan

/-- The range of a span, with the position that its start has in the text of its file. -/
def placed (texts : FileId → Option Source) (span : SourceSpan) : Option Span :=
  span.range?.map fun (start, stop) =>
    let source? := span.id.bind texts
    { start := start
      stop := stop
      line := (source?.bind (·.lineOf? start)).map fun line => (line : Int) + 1
      column := (source?.bind (·.columnOf? start)).map fun column => (column : Int) + 1 }

/-- A range in a file is one for whose source the world has an answer. -/
def Settled (world : World) (span : SourceSpan) : Prop :=
  ∀ id, span.id = some id → span.range?.isSome → ∃ answer, world.Gives id answer

/--
There is no position for a span: the range or the file is unknown, the file cannot be
read, or the range starts outside of its text or inside a character.
-/
def Unplaced (world : World) (span : SourceSpan) : Prop :=
  span.range? = none ∨ span.id = none ∨
    ∃ id start stop, span.id = some id ∧ span.range? = some (start, stop) ∧
      ((∃ error, world.Gives id (.error error)) ∨
        ∃ source, world.Gives id (.ok source) ∧
          (start < 0 ∨ source.byteCount < start ∨
            ¬Text.Utf8.Boundary source.text.toList start.toNat))

end SourceSpan

namespace SourceDiagnostic

/-- The places that a diagnostic points at. -/
def spans (diagnostic : SourceDiagnostic) : List SourceSpan :=
  diagnostic.span :: diagnostic.trace.map (·.1)

/-- A diagnostic for display, unless its severity is unknown. -/
def shown? (texts : FileId → Option Source) (diagnostic : SourceDiagnostic) : Option Diagnostic :=
  (Severity.parse? diagnostic.severity).map fun severity =>
    { severity := severity
      message := diagnostic.message
      span := diagnostic.span.placed texts
      trace := diagnostic.trace.map fun (span, message) => ⟨span.placed texts, message⟩
      hints := diagnostic.hints }

end SourceDiagnostic

/-- A range without its position. -/
def Span.erased (span : Span) : Span :=
  { span with line := none, column := none }

/-- A diagnostic without positions, and the same in all else. -/
def Diagnostic.erased (diagnostic : Diagnostic) : Diagnostic :=
  { diagnostic with
    span := diagnostic.span.map Span.erased
    trace := diagnostic.trace.map fun item => { item with span := item.span.map Span.erased } }

/-! ## Mapping -/

open Reading

variable {world : World}

/-- Nobody is asked about a span whose range or file is unknown. -/
theorem SourceSpan.detach_eq_placed {span : SourceSpan} (free : span.range? = none ∨ span.id = none)
    (texts : FileId → Option Source) :
    span.detach = span.placed texts ∧ span.Settled world := by
  rcases free with unknown | unknown
  · refine ⟨?_, ?_⟩
    · rw [detach, placed, unknown]
      rfl
    · intro id _ ranged
      rw [unknown] at ranged
      cases ranged
  · refine ⟨?_, ?_⟩
    · rw [detach, placed, unknown]
      rfl
    · intro id identified
      cases unknown.symm.trans identified

theorem SourceSpan.under_locate (span : SourceSpan) :
    UnderStep world.Answering (fun shown => shown = span.placed world.source? ∧
      span.Settled world) span.locate := by
  simp only [locate]
  split
  · next start stop id range identified =>
      have settled {answer : Except FileError Source} (gives : world.Gives id answer) :
          span.Settled world := by
        intro other same _
        cases identified.symm.trans same
        exact ⟨answer, gives⟩
      apply UnderStep.source
      intro answer answering
      cases answer with
      | value source =>
          have gives := (answering (.ok source) rfl).answers
          refine .pure ⟨?_, settled gives⟩
          rw [placed, range, identified]
          simp only [Option.map_some, Option.bind_some, gives.source?]
          rfl
      | failed error =>
          have gives := (answering (.error error) rfl).answers
          refine .pure ⟨?_, settled gives⟩
          rw [detach, placed, range, identified]
          simp only [Option.map_some, Option.bind_some, gives.source?_of_error]
          rfl
      | broken fault => exact .throw fault
  · next unknown =>
      apply UnderStep.pure
      apply detach_eq_placed
      cases range : span.range? with
      | none => exact .inl rfl
      | some ends =>
          cases identified : span.id with
          | none => exact .inr rfl
          | some id => exact (unknown ends.1 ends.2 id range identified).elim

namespace SourceDiagnostic

theorem under_locateTrace (items : List (SourceSpan × String)) :
    UnderStep world.Answering (fun shown =>
      shown = items.map (fun (span, message) => ⟨span.placed world.source?, message⟩) ∧
        ∀ span ∈ items.map (·.1), span.Settled world) (locateTrace items) := by
  induction items with
  | nil => exact .pure ⟨rfl, by simp⟩
  | cons item items ih =>
      apply UnderStep.bind
      apply item.1.under_locate.mono
      rintro position ⟨rfl, settled⟩
      apply UnderStep.bind
      apply ih.mono
      rintro positions ⟨rfl, later⟩
      apply UnderStep.pure
      refine ⟨rfl, ?_⟩
      intro span member
      rcases List.mem_cons.mp member with rfl | member
      · exact settled
      · exact later span member

theorem under_locate (diagnostic : SourceDiagnostic) :
    UnderStep world.Answering (fun shown => diagnostic.shown? world.source? = some shown ∧
      ∀ span ∈ diagnostic.spans, span.Settled world) diagnostic.locate := by
  simp only [locate, Severity.read]
  cases known : Severity.parse? diagnostic.severity with
  | none => exact .throw _
  | some severity =>
      apply UnderStep.bind
      refine @UnderStep.pure _ _ _ severity ?_
      apply UnderStep.bind
      apply diagnostic.span.under_locate.mono
      rintro position ⟨rfl, settled⟩
      apply UnderStep.bind
      apply (under_locateTrace diagnostic.trace).mono
      rintro trace ⟨rfl, later⟩
      apply UnderStep.pure
      refine ⟨?_, ?_⟩
      · rw [shown?, known]
        rfl
      · intro span member
        rcases List.mem_cons.mp member with rfl | member
        · exact settled
        · exact later span member

theorem under_locateAll (told : List SourceDiagnostic) :
    UnderStep world.Answering (fun shown => told.map (shown? world.source?) = shown.map some ∧
      ∀ diagnostic ∈ told, ∀ span ∈ diagnostic.spans, span.Settled world) (locateAll told) := by
  induction told with
  | nil => exact .pure ⟨rfl, by simp⟩
  | cons diagnostic told ih =>
      apply UnderStep.bind
      apply diagnostic.under_locate.mono
      rintro located ⟨same, settled⟩
      apply UnderStep.bind
      apply ih.mono
      rintro rest ⟨others, later⟩
      apply UnderStep.pure
      refine ⟨by rw [List.map_cons, List.map_cons, same, others], ?_⟩
      intro other member
      rcases List.mem_cons.mp member with rfl | member
      · exact settled
      · exact later other member

theorem erased_placed (texts : FileId → Option Source) (span : SourceSpan) :
    (span.placed texts).map Span.erased = span.detach := by
  simp only [SourceSpan.placed, SourceSpan.detach, Option.map_map]
  rfl

theorem detach_of_shown {texts : FileId → Option Source} {diagnostic : SourceDiagnostic}
    {shown : Diagnostic} (same : diagnostic.shown? texts = some shown) :
    diagnostic.detach = .ok shown.erased := by
  rcases Option.map_eq_some_iff.mp same with ⟨severity, known, rfl⟩
  simp only [detach, Severity.read, known, Diagnostic.erased, List.map_map, Function.comp_def,
    erased_placed]
  rfl

/-- The detached form is what is shown, without positions. -/
theorem detachAll_of_shown {texts : FileId → Option Source} {told : List SourceDiagnostic}
    {shown : List Diagnostic} (same : told.map (shown? texts) = shown.map some) :
    detachAll told = .ok (shown.map Diagnostic.erased) := by
  induction told generalizing shown with
  | nil =>
      cases shown with
      | nil => rfl
      | cons first rest => cases same
  | cons diagnostic told ih =>
      cases shown with
      | nil => cases same
      | cons first rest =>
          rcases List.cons.inj same with ⟨here, later⟩
          simp only [detachAll, detach_of_shown here, ih later]
          rfl

end SourceDiagnostic

/-! ## Positions -/

theorem SourceSpan.position?_placed_eq_none_iff {texts : FileId → Option Source}
    {span : SourceSpan} {id : FileId} {start stop : Int} (identified : span.id = some id)
    (ranged : span.range? = some (start, stop)) :
    (span.placed texts).bind Span.position? = none ↔
      ∀ source, texts id = some source →
        source.lineOf? start = none ∨ source.columnOf? start = none := by
  rw [placed, ranged, identified]
  simp only [Option.map_some, Option.bind_some]
  cases texts id with
  | none => simp [Span.position?]
  | some source =>
      cases line : source.lineOf? start <;> cases column : source.columnOf? start <;>
        simp [Span.position?, line, column]

variable {readings : List (Except FileError Bytes)}

/-- A span that was shown has no position exactly when there is none for it. -/
theorem SourceSpan.position?_placed_iff_unplaced (sound : world.Sound readings)
    {span : SourceSpan} (settled : span.Settled world) :
    (span.placed world.source?).bind Span.position? = none ↔ span.Unplaced world := by
  cases ranged : span.range? with
  | none => simp [placed, Unplaced, ranged]
  | some ends =>
      rcases ends with ⟨start, stop⟩
      cases identified : span.id with
      | none => simp [placed, Unplaced, ranged, identified, Span.position?]
      | some id =>
          rcases settled id identified (Option.isSome_of_eq_some ranged) with ⟨answer, gives⟩
          rw [position?_placed_eq_none_iff identified ranged]
          constructor
          · intro unresolved
            refine .inr (.inr ⟨id, start, stop, identified, ranged, ?_⟩)
            cases answer with
            | error error => exact .inl ⟨error, gives⟩
            | ok source =>
                have outside := unresolved source gives.source?
                rw [Source.lineOf?_eq_none_iff,
                  (gives.wellFormed sound).1.columnOf?_eq_none_iff] at outside
                refine .inr ⟨source, gives, ?_⟩
                rcases outside with (negative | beyond) | inside
                · exact .inl negative
                · exact .inr (.inl beyond)
                · exact inside
          · intro unplaced source found
            rcases unplaced with none_range | none_id | ⟨other, first, last, same, range, reason⟩
            · cases ranged.symm.trans none_range
            · cases identified.symm.trans none_id
            · cases identified.symm.trans same
              cases ranged.symm.trans range
              rcases reason with ⟨error, fails⟩ | ⟨text, gives, outside⟩
              · cases fails.source?_of_error.symm.trans found
              · cases gives.source?.symm.trans found
                rw [(gives.wellFormed sound).1.columnOf?_eq_none_iff]
                exact .inr outside

/-! ## Compiles amid changes -/

namespace Session

variable {π ν : Type} {session : Session π}

/--
A compile of a session amid changes of the machine: the sources that the compiler
obtained, what it put out, what was told of it, what was shown, and the world at the end.
-/
inductive MapsAmid (session : Session π) (compiler : Compiler π ν) (target : Target) :
    List (FileId × Outcome Source) → CompileOutput π → List SourceDiagnostic →
      List Diagnostic → World → Prop
  | intro {obtained asked : List (FileId × Outcome Source)} {notes : ν} {output : CompileOutput π}
      {told : List SourceDiagnostic} {shown : List Diagnostic} {middle after : World}
      (compiles : (compiler target).RunsAmid (session.started target) obtained
        (notes, .ok output) middle)
      (maps : Reading.RunsAmid (SourceDiagnostic.locateAll told).run middle asked (.ok shown)
        after) : MapsAmid session compiler target obtained output told shown after

namespace MapsAmid

variable {compiler : Compiler π ν} {target : Target}
  {obtained : List (FileId × Outcome Source)} {output : CompileOutput π}
  {told : List SourceDiagnostic} {shown : List Diagnostic} {world : World}

theorem sound {readings : List (Except FileError Bytes)} (before : session.world.Sound readings)
    (maps : session.MapsAmid compiler target obtained output told shown world) :
    ∃ more, world.Sound more := by
  rcases maps with ⟨compiles, maps⟩
  rcases compiles.sound (sound_started before target).1 with ⟨more, middle⟩
  exact maps.sound middle

/-- What the compiler obtained is at hand when its diagnostics have been mapped. -/
theorem atHand (maps : session.MapsAmid compiler target obtained output told shown world)
    {id : FileId} {answer : Except FileError Source} (given : (id, .ofExcept answer) ∈ obtained) :
    world.AtHand id answer := by
  rcases maps with ⟨compiles, maps⟩
  exact maps.atHand (compiles.atHand_of_answered given)

theorem shows (maps : session.MapsAmid compiler target obtained output told shown world) :
    told.map (SourceDiagnostic.shown? world.source?) = shown.map some ∧
      ∀ diagnostic ∈ told, ∀ span ∈ diagnostic.spans, span.Settled world := by
  rcases maps with ⟨_, maps⟩
  apply (SourceDiagnostic.under_locateAll told).of_runsAmid maps
  · rintro id _ given answer rfl
    exact maps.atHand_of_answered given
  · rfl

/-- What a compile puts out meets what its compiler always meets. -/
theorem puts_out (maps : session.MapsAmid compiler target obtained output told shown world)
    {met : CompileOutput π → Prop}
    (under : (compiler target).Under world.Answering fun result =>
      ∀ output, result.2 = .ok output → met output) : met output := by
  have given {id : FileId} {answer : Except FileError Source}
      (member : (id, .ofExcept answer) ∈ obtained) : world.AtHand id answer := maps.atHand member
  rcases maps with ⟨compiles, maps⟩
  apply under.of_runsAmid compiles
  · rintro id _ member answer rfl
    exact given member
  · rfl

end MapsAmid

/-- The world of a session is a given one, but for what was reported since. -/
def EndsIn (session : Session π) (world : World) : Prop :=
  ∃ records, session.world = world.report records

/-- The questions of a compile are those of its compiler and then those for positions. -/
theorem mapsAmid_of_consult {compiler : Compiler π ν} {target : Target}
    {told : CompileOutput π → List SourceDiagnostic} {notes : ν} {output : CompileOutput π}
    {shown : List Diagnostic} {after : World}
    (consulted : (consult compiler target told).run.run (session.started target) =
      ((notes, .ok (output, shown)), after)) :
    ∃ obtained, session.MapsAmid compiler target obtained output (told output) shown after := by
  rcases RunsAmid.of_run (compiler target) (session.started target) with ⟨obtained, compiles⟩
  simp only [consult, Reading.run_andThen] at consulted
  generalize (compiler target).run.run (session.started target) = compiled at compiles consulted
  rcases compiled with ⟨⟨remarks, verdict⟩, middle⟩
  cases verdict with
  | error fault => cases consulted
  | ok made =>
      rcases RunsAmid.of_run (SourceDiagnostic.locateAll (told made)).run middle with ⟨asked, maps⟩
      simp only [Reading.run_andThen] at consulted
      generalize (SourceDiagnostic.locateAll (told made)).run.run.run middle = mapped
        at maps consulted
      rcases mapped with ⟨answer, world⟩
      cases answer with
      | error fault => cases consulted
      | ok diagnostics =>
          cases consulted
          exact ⟨obtained, compiles, maps⟩

theorem compile_shows {compiler : Compiler π ν} {result : CompileResult}
    (compiled : ((compile compiler).run session).1.2 = .ok result) :
    ∃ obtained output world, output.document.isSome ∧
      session.MapsAmid compiler .paged obtained output output.warnings result.warnings world ∧
      ((compile compiler).run session).2.EndsIn world := by
  rw [run_compile] at compiled ⊢
  generalize answered : session.consulted compiler = consulted at compiled ⊢
  rcases consulted with ⟨⟨notes, verdict⟩, world⟩
  cases verdict with
  | error fault => cases compiled
  | ok answer =>
      rcases mapsAmid_of_consult answered with ⟨obtained, maps⟩
      rcases answer with ⟨⟨made, errors, warnings⟩, diagnostics⟩
      cases made with
      | none => cases compiled
      | some document =>
          cases compiled
          exact ⟨obtained, _, world, rfl, maps, _, rfl⟩

theorem compile_fails {compiler : Compiler π ν} {error : SessionError}
    (failed : ((compile compiler).run session).1.2 = .error (.reported error)) :
    ∃ obtained output world, output.document = none ∧
      session.MapsAmid compiler .paged obtained output (output.errors ++ output.warnings)
        error.diagnostics world ∧
      ((compile compiler).run session).2.EndsIn world := by
  rw [run_compile] at failed ⊢
  generalize answered : session.consulted compiler = consulted at failed ⊢
  rcases consulted with ⟨⟨notes, verdict⟩, world⟩
  cases verdict with
  | error fault => cases failed
  | ok answer =>
      rcases mapsAmid_of_consult answered with ⟨obtained, maps⟩
      rcases answer with ⟨⟨made, errors, warnings⟩, diagnostics⟩
      cases made with
      | none =>
          cases failed
          exact ⟨obtained, _, world, rfl, maps, _, rfl⟩
      | some document => cases failed

theorem exportHtml_fails {compiler : Compiler π ν} {serializer : Serializer π}
    {error : SessionError}
    (failed : ((exportHtml compiler serializer).run session).1.2 = .error (.reported error)) :
    ∃ obtained output told world,
      (output.document = none ∧ told = output.errors ++ output.warnings ∨
        ∃ document, output.document = some document ∧
          serializer.html document = .error (.refused told)) ∧
      session.MapsAmid compiler .html obtained output told error.diagnostics world ∧
      ((exportHtml compiler serializer).run session).2.EndsIn world := by
  rcases run_exportHtml compiler serializer session with ⟨records, exported⟩
  rw [exported] at failed ⊢
  dsimp only at failed ⊢
  generalize answered : (consult compiler .html (toldOfHtml serializer)).run.run
    (session.started .html) = consulted at failed ⊢
  rcases consulted with ⟨⟨notes, verdict⟩, world⟩
  cases verdict with
  | error fault => cases failed
  | ok answer =>
      rcases mapsAmid_of_consult answered with ⟨obtained, maps⟩
      rcases answer with ⟨⟨made, errors, warnings⟩, diagnostics⟩
      cases made with
      | none =>
          cases failed
          exact ⟨obtained, _, _, world, .inl ⟨rfl, rfl⟩, maps, records, rfl⟩
      | some document =>
          simp only [concludeHtml] at failed
          simp only [toldOfHtml] at maps
          cases html : serializer.html document with
          | ok text =>
              rw [html] at failed
              cases failed
          | error failure =>
              cases failure with
              | broken fault =>
                  rw [html] at failed
                  cases failed
              | refused reasons =>
                  rw [html] at failed maps
                  cases failed
                  exact ⟨obtained, _, reasons, world, .inr ⟨document, rfl, html⟩, maps, records,
                    rfl⟩

/--
In every compile of a session, whatever becomes of the machine meanwhile, a source that
the compiler obtained is the one that the world gives at the end. What is told of the
compile is shown in full and in order, with the lines and columns that the sources of
the world give, and a position is missing exactly where there is none. The detached form
differs in the positions alone. Compiles and HTML exports show what is told of them in
this way: the warnings, all errors and then all warnings, or what the serializer refuses.
-/
theorem shown_in_obtained_sources (root : HostPath) (fonts : Fonts) (packages : PackageStorage)
    (clock : Clock) (host : Host) (calls : List (Call π ν)) (compiler : Compiler π ν)
    (serializer : Serializer π) :
    let session := after (World.make root fonts packages clock host) calls
    (∀ target obtained output told shown world,
      session.MapsAmid compiler target obtained output told shown world →
      (∀ id source, (id, .value source) ∈ obtained → world.source? id = some source) ∧
      told.map (SourceDiagnostic.shown? world.source?) = shown.map some ∧
      (∀ diagnostic ∈ told, ∀ span ∈ diagnostic.spans,
        (span.placed world.source?).bind Span.position? = none ↔ span.Unplaced world) ∧
      SourceDiagnostic.detachAll told = .ok (shown.map Diagnostic.erased)) ∧
    (∀ result, ((compile compiler).run session).1.2 = .ok result →
      ∃ obtained output world, output.document.isSome ∧
        session.MapsAmid compiler .paged obtained output output.warnings result.warnings world ∧
        ((compile compiler).run session).2.EndsIn world) ∧
    (∀ error, ((compile compiler).run session).1.2 = .error (.reported error) →
      ∃ obtained output world, output.document = none ∧
        session.MapsAmid compiler .paged obtained output (output.errors ++ output.warnings)
          error.diagnostics world ∧
        ((compile compiler).run session).2.EndsIn world) ∧
    ∀ error, ((exportHtml compiler serializer).run session).1.2 = .error (.reported error) →
      ∃ obtained output told world,
        (output.document = none ∧ told = output.errors ++ output.warnings ∨
          ∃ document, output.document = some document ∧
            serializer.html document = .error (.refused told)) ∧
        session.MapsAmid compiler .html obtained output told error.diagnostics world ∧
        ((exportHtml compiler serializer).run session).2.EndsIn world := by
  intro session
  refine ⟨?_, fun _ => compile_shows, fun _ => compile_fails, fun _ => exportHtml_fails⟩
  intro target obtained output told shown world maps
  rcases maps.sound (sound_after (.make [] root fonts packages clock host) calls).1 with
    ⟨readings, sound⟩
  rcases maps.shows with ⟨same, settled⟩
  refine ⟨?_, same, ?_, SourceDiagnostic.detachAll_of_shown same⟩
  · intro id source given
    have answered : (id, Outcome.ofExcept (.ok source)) ∈ obtained := given
    exact World.Gives.source? (maps.atHand answered).answers
  · intro diagnostic member span pointed
    exact SourceSpan.position?_placed_iff_unplaced sound (settled diagnostic member span pointed)

end Session

end Typeset

import Typeset.Proofs.Session.Shown
import Typeset.Proofs.World.Resolvers

/-!
# Diagnostics and compiles with any resolver

The spans of diagnostics are given their positions one after another. One in a file that
cannot be read gets none, and the others are not concerned. Only where a question breaks
off does the mapping, and then the fault says that a path has a zero character in it; so
a compile that gave a document keeps it unless a warning points into such a file.
-/

namespace Typeset

open FileCache

namespace Reading

variable {α β : Type} (resolver : Resolver)

/-- Answer the questions of a reading from a world whose packages are found by a resolver. -/
def runBy : Reading α → StateM World α
  | .done result => pure result
  | .library next => do (next (← get).library).runBy
  | .book next => do (next (← get).book).runBy
  | .font index next => do (next (← World.font index)).runBy
  | .today request next => do (next (← World.today request)).runBy
  | .source id next => do (next (← World.sourceBy resolver id)).runBy
  | .file id next => do (next (← World.fileBy resolver id)).runBy

theorem run_eq_runBy (reading : Reading α) : reading.run = reading.runBy .preparing := by
  induction reading with
  | done result => rfl
  | library next ih => simp only [run, runBy, ih]
  | book next ih => simp only [run, runBy, ih]
  | font index next ih => simp only [run, runBy, ih]
  | today request next ih => simp only [run, runBy, ih]
  | source id next ih => simp only [run, runBy, ih, World.source_eq_sourceBy]
  | file id next ih => simp only [run, runBy, ih, World.file_eq_fileBy]

theorem runBy_andThen (reading : Reading α) (follow : α → Reading β) (world : World) :
    ((reading.andThen follow).runBy resolver).run world =
      ((follow ((reading.runBy resolver).run world).1).runBy resolver).run
        ((reading.runBy resolver).run world).2 := by
  induction reading generalizing world with
  | done result => rfl
  | library next ih => exact ih _ _
  | book next ih => exact ih _ _
  | font index next ih => exact ih _ _
  | today request next ih => exact ih _ _
  | source id next ih => exact ih _ _
  | file id next ih => exact ih _ _

end Reading

namespace Asking

variable {α β : Type} {resolver : Resolver}

/-- A computation that asks the world gives a result or breaks off, and leaves a world. -/
def Gives (resolver : Resolver) (asking : Asking α) (world : World) (result : Except Fault α)
    (after : World) : Prop :=
  ((ExceptT.run asking).runBy resolver).run world = (result, after)

theorem gives_pure (result : α) (world : World) :
    Gives resolver (pure result) world (.ok result) world := rfl

theorem Gives.bind {asking : Asking α} {next : α → Asking β} {world middle after : World}
    {value : α} {result : Except Fault β} (first : Gives resolver asking world (.ok value) middle)
    (second : Gives resolver (next value) middle result after) :
    Gives resolver (asking >>= next) world result after := by
  have split : ((asking >>= next).run.runBy resolver).run world = _ :=
    Reading.runBy_andThen resolver asking.run (ExceptT.bindCont next) world
  rw [Gives, split, show (asking.run.runBy resolver).run world = _ from first]
  exact second

theorem Gives.bind_error {asking : Asking α} (next : α → Asking β) {world after : World}
    {fault : Fault} (broken : Gives resolver asking world (.error fault) after) :
    Gives resolver (asking >>= next) world (.error fault) after := by
  have split : ((asking >>= next).run.runBy resolver).run world = _ :=
    Reading.runBy_andThen resolver asking.run (ExceptT.bindCont next) world
  rw [Gives, split, show (asking.run.runBy resolver).run world = _ from broken]
  rfl

theorem gives_askSource {id : FileId} {answer : Outcome Source} {world after : World}
    (asks : (World.sourceBy resolver id).run world = (answer, after)) :
    Gives resolver (Reading.askSource id : Reading (Outcome Source)) world (.ok answer) after := by
  have split : ((ExceptT.run (liftM (Reading.askSource id) : Asking (Outcome Source))).runBy
      resolver).run world = (.ok ((World.sourceBy resolver id).run world).1,
        ((World.sourceBy resolver id).run world).2) := rfl
  rw [Gives, split, asks]

end Asking

/-! ## Positions one after another -/

/-- What is shown of a span, and the world after the question for its file. -/
inductive SourceSpan.ShownBy (resolver : Resolver) (world : World) (span : SourceSpan) :
    Except Fault (Option Span) → World → Prop
  /-- Nobody is asked about a span whose range or file is unknown. -/
  | free (free : span.range? = none ∨ span.id = none) : ShownBy resolver world span
      (.ok span.detach) world
  | found {id : FileId} {start stop : Int} {source : Source} {after : World}
      (identified : span.id = some id) (ranged : span.range? = some (start, stop))
      (asks : (World.sourceBy resolver id).run world = (.value source, after)) :
      ShownBy resolver world span (.ok (some (locateIn source start stop))) after
  /-- A span in a file that cannot be read has no position. -/
  | unavailable {id : FileId} {error : FileError} {after : World}
      (identified : span.id = some id) (ranged : span.range?.isSome)
      (asks : (World.sourceBy resolver id).run world = (.failed error, after)) :
      ShownBy resolver world span (.ok span.detach) after
  | broken {id : FileId} {fault : Fault} {after : World}
      (identified : span.id = some id) (ranged : span.range?.isSome)
      (asks : (World.sourceBy resolver id).run world = (.broken fault, after)) :
      ShownBy resolver world span (.error fault) after

/-- What is shown of spans, one after another up to the first that breaks off. -/
inductive AllShownBy (resolver : Resolver) :
    World → List SourceSpan → Except Fault (List (Option Span)) → World → Prop
  | nil (world : World) : AllShownBy resolver world [] (.ok []) world
  | cons {world middle after : World} {span : SourceSpan} {spans : List SourceSpan}
      {shown : Option Span} {result : Except Fault (List (Option Span))}
      (here : span.ShownBy resolver world (.ok shown) middle)
      (later : AllShownBy resolver middle spans result after) :
      AllShownBy resolver world (span :: spans) (result.map (shown :: ·)) after
  | broken {world after : World} {span : SourceSpan} {spans : List SourceSpan} {fault : Fault}
      (here : span.ShownBy resolver world (.error fault) after) :
      AllShownBy resolver world (span :: spans) (.error fault) after

namespace AllShownBy

variable {resolver : Resolver} {world middle after : World} {first second : List SourceSpan}

theorem append {result : Except Fault (List (Option Span))} {shown : List (Option Span)}
    (early : AllShownBy resolver world first (.ok shown) middle)
    (late : AllShownBy resolver middle second result after) :
    AllShownBy resolver world (first ++ second) (result.map (shown ++ ·)) after := by
  generalize whole : (Except.ok shown : Except Fault (List (Option Span))) = given at early
  induction early generalizing shown with
  | nil world =>
      cases whole
      cases result <;> exact late
  | @cons _ _ _ _ _ _ rest here later ih =>
      cases rest with
      | error fault => cases whole
      | ok rest =>
          cases whole
          have both := AllShownBy.cons here (ih late rfl)
          cases result <;> exact both
  | broken here => cases whole

theorem append_broken {fault : Fault} (early : AllShownBy resolver world first (.error fault) after)
    (second : List SourceSpan) :
    AllShownBy resolver world (first ++ second) (.error fault) after := by
  generalize whole : (Except.error fault : Except Fault (List (Option Span))) = given at early
  induction early with
  | nil world => cases whole
  | @cons _ _ _ _ _ _ rest here later ih =>
      cases rest with
      | ok rest => cases whole
      | error other =>
          cases whole
          exact .cons here (ih rfl)
  | broken here =>
      cases whole
      exact .broken here

end AllShownBy

/-! ## Mapping -/

open Asking

variable {resolver : Resolver}

theorem SourceSpan.shownBy_locate (resolver : Resolver) (span : SourceSpan) (world : World) :
    ∃ result after, Gives resolver span.locate world result after ∧
      span.ShownBy resolver world result after := by
  cases ranged : span.range? with
  | none =>
      refine ⟨.ok span.detach, world, ?_, .free (.inl ranged)⟩
      simp only [locate, ranged]
      exact gives_pure _ _
  | some ends =>
      rcases ends with ⟨start, stop⟩
      cases identified : span.id with
      | none =>
          refine ⟨.ok span.detach, world, ?_, .free (.inr identified)⟩
          simp only [locate, ranged, identified]
          exact gives_pure _ _
      | some id =>
          have isRange : span.range?.isSome := Option.isSome_of_eq_some ranged
          simp only [locate, ranged, identified]
          cases asks : (World.sourceBy resolver id).run world with
          | mk answer after =>
              have asked := gives_askSource asks
              cases answer with
              | value source =>
                  exact ⟨_, after, asked.bind (gives_pure _ _), .found identified ranged asks⟩
              | failed error =>
                  exact ⟨_, after, asked.bind (gives_pure _ _),
                    .unavailable identified isRange asks⟩
              | broken fault =>
                  exact ⟨.error fault, after, asked.bind rfl, .broken identified isRange asks⟩

theorem SourceSpan.ShownBy.detach_eq {span : SourceSpan} {world after : World}
    {shown : Option Span} (shows : span.ShownBy resolver world (.ok shown) after) :
    span.detach = shown.map Span.erased := by
  cases shows with
  | free | unavailable =>
      simp only [detach, Option.map_map]
      rfl
  | found identified ranged asks =>
      rw [detach, ranged]
      rfl

/-- What is shown at the places that a diagnostic points at. -/
def Diagnostic.spans (diagnostic : Diagnostic) : List (Option Span) :=
  diagnostic.span :: diagnostic.trace.map (·.span)

namespace SourceDiagnostic

theorem allShownBy_locateTrace (resolver : Resolver) (items : List (SourceSpan × String))
    (world : World) : ∃ result after, Gives resolver (locateTrace items) world result after ∧
      AllShownBy resolver world (items.map (·.1)) (result.map (·.map (·.span))) after ∧
      ∀ shown, result = .ok shown → items.map (fun (span, message) => ⟨span.detach, message⟩) =
        shown.map fun item => { item with span := item.span.map Span.erased } := by
  induction items generalizing world with
  | nil =>
      refine ⟨.ok [], world, gives_pure _ _, .nil world, ?_⟩
      rintro _ ⟨⟩
      rfl
  | cons item items ih =>
      rcases item with ⟨span, message⟩
      rcases span.shownBy_locate resolver world with ⟨here, middle, asks, shows⟩
      cases here with
      | error fault =>
          refine ⟨.error fault, middle, asks.bind_error _, .broken shows, ?_⟩
          rintro _ ⟨⟩
      | ok position =>
          rcases ih middle with ⟨rest, after, asksRest, showsRest, same⟩
          have located := AllShownBy.cons shows showsRest
          cases rest with
          | error fault =>
              refine ⟨.error fault, after, asks.bind (asksRest.bind_error _), located, ?_⟩
              rintro _ ⟨⟩
          | ok positions =>
              refine ⟨.ok (⟨position, message⟩ :: positions), after,
                asks.bind (asksRest.bind (gives_pure _ _)), located, ?_⟩
              rintro _ ⟨⟩
              simp only [List.map_cons, same positions rfl, shows.detach_eq]

theorem allShownBy_locate (resolver : Resolver) {diagnostic : SourceDiagnostic}
    (known : (Severity.parse? diagnostic.severity).isSome) (world : World) :
    ∃ result after, Gives resolver diagnostic.locate world result after ∧
      AllShownBy resolver world diagnostic.spans (result.map Diagnostic.spans) after ∧
      ∀ shown, result = .ok shown → diagnostic.detach = .ok shown.erased := by
  rcases Option.isSome_iff_exists.mp known with ⟨severity, parsed⟩
  have read : Severity.read diagnostic.severity = .ok severity := by
    simp only [Severity.read, parsed]
  simp only [locate, detach, read]
  rcases diagnostic.span.shownBy_locate resolver world with ⟨here, middle, asks, shows⟩
  cases here with
  | error fault =>
      refine ⟨.error fault, middle, (gives_pure severity world).bind (asks.bind_error _),
        .broken shows, ?_⟩
      rintro _ ⟨⟩
  | ok position =>
      rcases allShownBy_locateTrace resolver diagnostic.trace middle with
        ⟨rest, after, asksRest, showsRest, same⟩
      have located := AllShownBy.cons shows showsRest
      cases rest with
      | error fault =>
          refine ⟨.error fault, after,
            (gives_pure severity world).bind (asks.bind (asksRest.bind_error _)), located, ?_⟩
          rintro _ ⟨⟩
      | ok trace =>
          refine ⟨.ok ⟨severity, diagnostic.message, position, trace, diagnostic.hints⟩, after,
            (gives_pure severity world).bind (asks.bind (asksRest.bind (gives_pure _ _))),
            located, ?_⟩
          rintro _ ⟨⟩
          rw [same trace rfl, shows.detach_eq]
          rfl

/-- Diagnostics of known severity are mapped span by span, and nothing else is asked. -/
theorem allShownBy_locateAll (resolver : Resolver) {told : List SourceDiagnostic}
    (known : ∀ diagnostic ∈ told, (Severity.parse? diagnostic.severity).isSome) (world : World) :
    ∃ result after, Gives resolver (locateAll told) world result after ∧
      AllShownBy resolver world (told.flatMap spans) (result.map (·.flatMap Diagnostic.spans))
        after ∧
      ∀ shown, result = .ok shown → detachAll told = .ok (shown.map Diagnostic.erased) := by
  induction told generalizing world with
  | nil =>
      refine ⟨.ok [], world, gives_pure _ _, .nil world, ?_⟩
      rintro _ ⟨⟩
      rfl
  | cons diagnostic told ih =>
      rcases List.forall_mem_cons.mp known with ⟨first, others⟩
      rcases allShownBy_locate resolver first world with ⟨here, middle, asks, shows, detached⟩
      cases here with
      | error fault =>
          refine ⟨.error fault, middle, asks.bind_error _, shows.append_broken _, ?_⟩
          rintro _ ⟨⟩
      | ok located =>
          rcases ih others middle with ⟨rest, after, asksRest, showsRest, same⟩
          have whole := shows.append showsRest
          cases rest with
          | error fault =>
              refine ⟨.error fault, after, asks.bind (asksRest.bind_error _), whole, ?_⟩
              rintro _ ⟨⟩
          | ok shown =>
              refine ⟨.ok (located :: shown), after, asks.bind (asksRest.bind (gives_pure _ _)),
                whole, ?_⟩
              rintro _ ⟨⟩
              simp only [detachAll, detached located rfl, same shown rfl]
              rfl

end SourceDiagnostic

/-! ## Where a mapping breaks off -/

/-- A span is in a file that has to be looked for on disk, at a path with a zero character. -/
inductive SourceSpan.Hidden (resolver : Resolver) (world : World) (span : SourceSpan) : Prop
  | intro {id : FileId} {path : HostPath} {host : Host} (identified : span.id = some id)
      (ranged : span.range?.isSome) (unshadowed : ¬world.InMemory id)
      (found : { world with host := host }.placeBy resolver id = .value path)
      (zero : path.HasZero)

variable {world after : World}

theorem SourceSpan.Hidden.earlier {span : SourceSpan} {sources : List (FileId × Bytes × Source)}
    {cache : FileCache} {host : Host}
    (hidden : span.Hidden resolver
      { world with virtualSources := sources, cache := cache, host := host }) :
    span.Hidden resolver world := by
  rcases hidden with ⟨identified, ranged, unshadowed, found, zero⟩
  exact ⟨identified, ranged, unshadowed, found, zero⟩

theorem SourceSpan.ShownBy.hidden_of_error (orderly : resolver.Orderly) {span : SourceSpan}
    {fault : Fault} (shows : span.ShownBy resolver world (.error fault) after) :
    fault = DiskFault.zeroInPath.toFault ∧ span.Hidden resolver world := by
  rcases shows with _ | _ | _ | @⟨id, _, _, identified, ranged, asks⟩
  rcases (World.askBy_broken_iff resolver ⟨id, .source⟩ world fault).mp (congrArg Prod.fst asks)
    with ⟨⟨other, unshadowed, _⟩, unsearchable⟩
  rcases (World.unsearchable_iff_of_orderly orderly world id fault).mp unsearchable with
    ⟨same, path, found, zero⟩
  have there : { world with host := world.host }.placeBy resolver id = .value path := found
  refine ⟨same, .intro identified ranged ?_ there zero⟩
  rintro (isMain | ⟨content, shadowed⟩)
  · exact other isMain
  · cases shadowed.symm.trans unshadowed

theorem SourceSpan.ShownBy.moves {span : SourceSpan} {result : Except Fault (Option Span)}
    (shows : span.ShownBy resolver world result after) :
    ∃ sources cache host,
      after = { world with virtualSources := sources, cache := cache, host := host } := by
  have moves {id : FileId} {answer : Outcome Source}
      (asks : (World.sourceBy resolver id).run world = (answer, after)) :
      ∃ sources cache host,
        after = { world with virtualSources := sources, cache := cache, host := host } := by
    have leaves := World.askBy_moves resolver ⟨id, .source⟩ world
    rw [show (World.askBy resolver ⟨id, .source⟩).run world = _ from asks] at leaves
    exact leaves
  cases shows with
  | free => exact ⟨_, _, _, rfl⟩
  | found _ _ asks | unavailable _ _ asks | broken _ _ asks => exact moves asks

/-- A mapping breaks off at a zero character in the path of a file that a span is in. -/
theorem AllShownBy.hidden_of_error (orderly : resolver.Orderly) {spans : List SourceSpan}
    {fault : Fault} (shows : AllShownBy resolver world spans (.error fault) after) :
    fault = DiskFault.zeroInPath.toFault ∧ ∃ span ∈ spans, span.Hidden resolver world := by
  generalize whole : (Except.error fault : Except Fault (List (Option Span))) = given at shows
  induction shows with
  | nil world => cases whole
  | @cons _ _ _ _ _ _ rest here later ih =>
      cases rest with
      | ok rest => cases whole
      | error other =>
          cases whole
          rcases ih rfl with ⟨same, span, member, hidden⟩
          rcases here.moves with ⟨sources, cache, host, rfl⟩
          exact ⟨same, span, List.mem_cons_of_mem _ member, hidden.earlier⟩
  | broken here =>
      cases whole
      rcases here.hidden_of_error orderly with ⟨same, hidden⟩
      exact ⟨same, _, List.mem_cons_self, hidden⟩

theorem SourceDiagnostic.mapped_or_hidden (orderly : resolver.Orderly) (world : World)
    {told : List SourceDiagnostic}
    (known : ∀ diagnostic ∈ told, (Severity.parse? diagnostic.severity).isSome) :
    ∃ result after, Gives resolver (locateAll told) world result after ∧
      AllShownBy resolver world (told.flatMap spans) (result.map (·.flatMap Diagnostic.spans))
        after ∧
      (∀ shown, result = .ok shown → detachAll told = .ok (shown.map Diagnostic.erased)) ∧
      ∀ fault, result = .error fault → fault = DiskFault.zeroInPath.toFault ∧
        ∃ span ∈ told.flatMap spans, span.Hidden resolver world := by
  rcases allShownBy_locateAll resolver known world with ⟨result, after, gives, shows, detached⟩
  refine ⟨result, after, gives, shows, detached, ?_⟩
  rintro fault rfl
  exact shows.hidden_of_error orderly

/-! ## Compiles -/

namespace Session

variable {π ν : Type}

/-- A paged compile of a session whose packages are found by a resolver. -/
def compileBy (resolver : Resolver) (compiler : Compiler π ν) (session : Session π) :
    (ν × Except SessionFailure CompileResult) × Session π :=
  let (answers, world) := ((consult compiler .paged toldOfPages).runBy resolver).run
    (session.started .paged)
  concludePages world answers

theorem compile_eq_compileBy (compiler : Compiler π ν) (session : Session π) :
    (compile compiler).run session = compileBy .preparing compiler session := by
  rw [run_compile, consulted, Reading.run_eq_runBy]
  rfl

/-- A compile whose compiler gave a document ends with it once its warnings are mapped. -/
theorem compileBy_of_document {compiler : Compiler π ν} {session : Session π} {notes : ν}
    {output : CompileOutput π} {document : Document π} {shown : List Diagnostic}
    {middle after : World}
    (compiles : ((compiler .paged).runBy resolver).run (session.started .paged) =
      ((notes, .ok output), middle)) (made : output.document = some document)
    (maps : Asking.Gives resolver (SourceDiagnostic.locateAll output.warnings) middle (.ok shown)
      after) :
    compileBy resolver compiler session = ((notes, .ok ⟨document.pages.length, shown⟩),
      ⟨after.report (Report.compileResult true document.pages.length shown stopwatch false),
        some document⟩) := by
  rcases output with ⟨_, errors, warnings⟩
  cases made
  simp only [compileBy, consult, Reading.runBy_andThen, compiles, toldOfPages]
  rw [show ((ExceptT.run (SourceDiagnostic.locateAll warnings)).runBy resolver).run middle = _
    from maps]
  rfl

/--
With any resolver that gives a directory or a file error, a question for a source or for
bytes breaks off exactly when the file has to be read and the path that is found for it has
a zero character; every other question gives an answer or a file error. Diagnostics of known
severity are mapped span by span, those in files that cannot be read without positions, and
only a span in such a hidden file breaks the mapping off. If none of its warnings has one, a
compile whose compiler gave a document ends with it. With the resolver that prepares packages
this is the compile of the session.
-/
theorem breaks_off_only_at_zero {π ν : Type} {resolver : Resolver} (orderly : resolver.Orderly) :
    (∀ (world : World) (key : Key) (fault : Fault),
      ((World.askBy resolver key).run world).1 = .broken fault ↔
        world.Unanswered key ∧ fault = DiskFault.zeroInPath.toFault ∧
          ∃ path, world.placeBy resolver key.id = .value path ∧ path.HasZero) ∧
    (∀ (world : World) (told : List SourceDiagnostic),
      (∀ diagnostic ∈ told, (Severity.parse? diagnostic.severity).isSome) →
      ∃ result after, Asking.Gives resolver (SourceDiagnostic.locateAll told) world result after ∧
        AllShownBy resolver world (told.flatMap (·.spans)) (result.map (·.flatMap (·.spans)))
          after ∧
        (∀ shown, result = .ok shown →
          SourceDiagnostic.detachAll told = .ok (shown.map (·.erased))) ∧
        ∀ fault, result = .error fault → fault = DiskFault.zeroInPath.toFault ∧
          ∃ span ∈ told.flatMap (·.spans), span.Hidden resolver world) ∧
    (∀ (session : Session π) (compiler : Compiler π ν) (notes : ν) (output : CompileOutput π)
      (document : Document π) (middle : World),
      ((compiler .paged).runBy resolver).run (session.started .paged) =
        ((notes, .ok output), middle) →
      output.document = some document →
      (∀ warning ∈ output.warnings, (Severity.parse? warning.severity).isSome) →
      (∀ span ∈ output.warnings.flatMap (·.spans), ¬span.Hidden resolver middle) →
      ∃ shown after records,
        Asking.Gives resolver (SourceDiagnostic.locateAll output.warnings) middle (.ok shown)
          after ∧
        compileBy resolver compiler session = ((notes, .ok ⟨document.pages.length, shown⟩),
          ⟨after.report records, some document⟩)) ∧
    ∀ (session : Session π) (compiler : Compiler π ν),
      (compile compiler).run session = compileBy .preparing compiler session := by
  refine ⟨?_, fun world _ known => SourceDiagnostic.mapped_or_hidden orderly world known, ?_,
    fun session compiler => compile_eq_compileBy compiler session⟩
  · intro world key fault
    rw [World.askBy_broken_iff, World.unsearchable_iff_of_orderly orderly]
  · intro session compiler notes output document middle compiles made known visible
    rcases SourceDiagnostic.mapped_or_hidden orderly middle known with
      ⟨result, after, gives, _, _, hidden⟩
    cases result with
    | ok shown => exact ⟨shown, after, _, gives, compileBy_of_document compiles made gives⟩
    | error fault =>
        rcases hidden fault rfl with ⟨_, span, member, hides⟩
        exact absurd hides (visible span member)

/-- A session that was not called for anything yet, on an empty disk. -/
def idleSession : Session Unit :=
  Setting.sample.session (.onEmptyDisk (ν := Unit) [])

/-- A compiler that gives a document without pages, with a warning in some file. -/
def warnsIn (id : FileId) : Compiler Unit Unit := fun _target =>
  .done ((), .ok ⟨some ⟨[]⟩, [], [.warning ⟨some id, some 0, some 1⟩ "unused"]⟩)

/-- A warning in a file that is not there costs neither the document nor the warning. -/
theorem keeps_document_despite_missing_file :
    (Resolver.below (.parse "/packages")).Orderly ∧
      ∃ shown after records,
        Asking.Gives (.below (.parse "/packages"))
          (SourceDiagnostic.locateAll
            [.warning ⟨some (.project "a.typ"), some 0, some 1⟩ "unused"])
          (idleSession.started .paged) (.ok shown) after ∧
        compileBy (.below (.parse "/packages")) (warnsIn (.project "a.typ")) idleSession =
          (((), .ok ⟨0, shown⟩), ⟨World.report after records, some ⟨[]⟩⟩) := by
  refine ⟨Resolver.orderly_below _, ?_⟩
  refine (breaks_off_only_at_zero (Resolver.orderly_below _)).2.2.1 idleSession
    (warnsIn (.project "a.typ")) () _ ⟨[]⟩ (idleSession.started .paged) rfl rfl (by decide) ?_
  intro span member hidden
  cases List.mem_singleton.mp member
  rcases hidden with ⟨identified, _, _, found, zero⟩
  cases identified
  cases found
  have clear : ¬(HostPath.append (.parse "/project") ["a.typ"]).HasZero := by decide +kernel
  exact clear zero

/-- A warning in a file with a zero character in its path costs the document. -/
theorem zero_breaks_off_warned_compile :
    ((World.source (.project "a\x00b")).run idleSession.world).1 =
        .broken (.invalidValue "embedded null byte") ∧
      ((World.file (.project "a\x00b")).run idleSession.world).1 =
        .broken (.invalidValue "embedded null byte") ∧
      ((compile (warnsIn (.project "a\x00b"))).run idleSession).1.2 =
        .error (.broken (.invalidValue "embedded null byte")) :=
  ⟨rfl, rfl, rfl⟩

end Session

end Typeset

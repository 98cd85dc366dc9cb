import Typeset.Proofs.Reading.Runs
import Typeset.Session.Basic

/-!
# Calls of a session

What a session is called for, one call after another. A compile puts questions to
the world in one go, first those of the compiler and then those for the positions of
its diagnostics; what becomes of the answers is settled without the world, except
for what is reported.

Histories list calls with the newest first.
-/

namespace Typeset

namespace Session

variable {π ν : Type}

/-! ## Compiling in one go -/

/-- A compile and the mapping of the diagnostics that are told of it, as one reading. -/
def consult (compiler : Compiler π ν) (target : Target)
    (told : CompileOutput π → List SourceDiagnostic) :
    Reading (ν × Except Fault (CompileOutput π × List Diagnostic)) :=
  (compiler target).andThen fun (notes, verdict) =>
    match verdict with
    | .error fault => .done (notes, .error fault)
    | .ok output =>
        Reading.andThen (SourceDiagnostic.locateAll (told output)).run fun
          | .error fault => .done (notes, .error fault)
          | .ok diagnostics => .done (notes, .ok (output, diagnostics))

def toldOfPages (output : CompileOutput π) : List SourceDiagnostic :=
  match output.document with
  | none => output.errors ++ output.warnings
  | some _ => output.warnings

def toldOfHtml (serializer : Serializer π) (output : CompileOutput π) : List SourceDiagnostic :=
  match output.document with
  | none => output.errors ++ output.warnings
  | some document =>
      match serializer.html document with
      | .error (.refused reasons) => reasons
      | _ => []

def started (target : Target) (session : Session π) : World :=
  ((startCompile target).run session).2.world

/-- The answers to the questions of a paged compile, with the world that they leave. -/
def consulted (session : Session π) (compiler : Compiler π ν) :
    (ν × Except Fault (CompileOutput π × List Diagnostic)) × World :=
  (consult compiler .paged toldOfPages).run.run (session.started .paged)

/-- What becomes of the answers to a paged compile, in the world that they left. -/
def concludePages (world : World) :
    ν × Except Fault (CompileOutput π × List Diagnostic) →
      (ν × Except SessionFailure CompileResult) × Session π
  | (notes, .error fault) => ((notes, .error (.broken fault)), ⟨world, none⟩)
  | (notes, .ok (output, diagnostics)) =>
      match output.document with
      | none =>
          ((notes, .error (.reported (.ofDiagnostics .compile diagnostics none))),
            ⟨world.report (Report.compileResult false 0 diagnostics stopwatch false), none⟩)
      | some document =>
          ((notes, .ok ⟨document.pages.length, diagnostics⟩),
            ⟨world.report (Report.compileResult true document.pages.length diagnostics stopwatch
              false), some document⟩)

theorem run_bind {α β : Type} (step : Step π α) (next : α → Step π β) (session : Session π) :
    (step >>= next).run.run session =
      match step.run.run session with
      | (.ok result, session) => (next result).run.run session
      | (.error failure, session) => (.error failure, session) := by
  have split : (step >>= next).run.run session =
      (ExceptT.bindCont next (step.run.run session).1).run (step.run.run session).2 := rfl
  simp only [split]
  generalize step.run.run session = done
  rcases done with ⟨answer, session⟩
  cases answer <;> rfl

theorem run_record (records : Journal) (session : Session π) :
    (record records).run session =
      ((), { session with world := session.world.report records }) := by
  have split : (record records).run session =
      let done := (records.forM World.record).run session.world
      (done.1, { session with world := done.2 }) := rfl
  simp only [split, World.run_forM_record]

theorem run_perform {α : Type} (action : StateM (Session π) α) (session : Session π) :
    (perform action).run.run session = (.ok (action.run session).1, (action.run session).2) := rfl

theorem run_perform_record (records : Journal) (session : Session π) :
    (perform (record records)).run.run session =
      (.ok (), { session with world := session.world.report records }) := by
  simp only [run_perform, run_record]

theorem run_modify (change : Session π → Session π) (session : Session π) :
    (modify change : Step π PUnit).run.run session = (.ok (), change session) := rfl

theorem mapError_ok {α : Type} (value : α) :
    (Except.ok value : Except Fault α).mapError SessionFailure.broken = .ok value := rfl

theorem run_inWorld {α : Type} (action : StateM World α) (session : Session π) :
    (inWorld action).run session =
      let done := action.run session.world
      (done.1, { session with world := done.2 }) := rfl

theorem run_located (diagnostics : List SourceDiagnostic) (session : Session π) :
    (located diagnostics).run.run session =
      let asked := (SourceDiagnostic.locateAll diagnostics).run.run.run session.world
      (asked.1.mapError .broken, { session with world := asked.2 }) := by
  simp only [located, run_bind, run_perform, run_inWorld]
  generalize (SourceDiagnostic.locateAll diagnostics).run.run.run session.world = asked
  rcases asked with ⟨answer, world⟩
  cases answer <;> rfl

theorem run_failCompile {α : Type} (output : CompileOutput π) (session : Session π) :
    (failCompile output : Step π α).run.run session =
      let asked := (SourceDiagnostic.locateAll (output.errors ++ output.warnings)).run.run.run
        session.world
      match asked.1 with
      | .error fault => (.error (.broken fault), { session with world := asked.2 })
      | .ok diagnostics =>
          (.error (.reported (.ofDiagnostics .compile diagnostics none)),
            { session with world :=
                asked.2.report (Report.compileResult false 0 diagnostics stopwatch false) }) := by
  simp only [failCompile, run_bind, run_located]
  generalize (SourceDiagnostic.locateAll (output.errors ++ output.warnings)).run.run.run
    session.world = asked
  rcases asked with ⟨answer, world⟩
  cases answer with
  | error fault => rfl
  | ok diagnostics =>
      simp only [mapError_ok, run_perform_record]
      rfl

theorem run_compile (compiler : Compiler π ν) (session : Session π) :
    (compile compiler).run session =
      concludePages (session.consulted compiler).2 (session.consulted compiler).1 := by
  have split : (compile compiler).run session =
      let asked := (compiler .paged).run.run (session.started .paged)
      let finished := (finishCompile asked.1.2).run.run ⟨asked.2, none⟩
      ((asked.1.1, finished.1), finished.2) := rfl
  simp only [split, consulted, consult, Reading.run_andThen]
  generalize (compiler .paged).run.run (session.started .paged) = asked
  rcases asked with ⟨⟨notes, verdict⟩, world⟩
  cases verdict with
  | error fault => rfl
  | ok output =>
      rcases output with ⟨made, errors, warnings⟩
      cases made with
      | none =>
          simp only [Reading.run_andThen, finishCompile, run_failCompile, toldOfPages]
          generalize (SourceDiagnostic.locateAll (errors ++ warnings)).run.run.run world = asked
          rcases asked with ⟨answer, world⟩
          cases answer <;> rfl
      | some document =>
          simp only [Reading.run_andThen, finishCompile, run_bind, run_located, toldOfPages]
          generalize (SourceDiagnostic.locateAll warnings).run.run.run world = asked
          rcases asked with ⟨answer, world⟩
          cases answer with
          | error fault => rfl
          | ok diagnostics =>
              simp only [mapError_ok, run_modify, run_perform_record]
              rfl

/-- What an HTML export gives for the answers to its questions. -/
def concludeHtml (serializer : Serializer π) :
    Except Fault (CompileOutput π × List Diagnostic) → Except SessionFailure String
  | .error fault => .error (.broken fault)
  | .ok (output, diagnostics) =>
      match output.document with
      | none => .error (.reported (.ofDiagnostics .compile diagnostics none))
      | some document =>
          match serializer.html document with
          | .ok html => .ok html
          | .error (.broken fault) => .error (.broken fault)
          | .error (.refused _) =>
              .error (.reported (.ofDiagnostics .compile diagnostics "HTML export failed"))

theorem run_exportHtml (compiler : Compiler π ν) (serializer : Serializer π)
    (session : Session π) :
    ∃ records, (exportHtml compiler serializer).run session =
      let asked := (consult compiler .html (toldOfHtml serializer)).run.run (session.started .html)
      ((asked.1.1, concludeHtml serializer asked.1.2),
        { session with world := asked.2.report records }) := by
  have split : (exportHtml compiler serializer).run session =
      let asked := (compiler .html).run.run (session.started .html)
      let finished := (finishHtml serializer asked.1.2).run.run ⟨asked.2, session.document⟩
      ((asked.1.1, finished.1), finished.2) := rfl
  simp only [split, consult, Reading.run_andThen]
  generalize (compiler .html).run.run (session.started .html) = asked
  rcases asked with ⟨⟨notes, verdict⟩, world⟩
  cases verdict with
  | error fault => exact ⟨[], rfl⟩
  | ok output =>
      rcases output with ⟨made, errors, warnings⟩
      cases made with
      | none =>
          simp only [Reading.run_andThen, finishHtml, run_failCompile, toldOfHtml]
          generalize (SourceDiagnostic.locateAll (errors ++ warnings)).run.run.run world = asked
          rcases asked with ⟨answer, world⟩
          cases answer with
          | error fault => exact ⟨[], rfl⟩
          | ok diagnostics => exact ⟨_, rfl⟩
      | some document =>
          simp only [Reading.run_andThen, finishHtml, toldOfHtml]
          have concluded (diagnostics : List Diagnostic) :
              concludeHtml serializer (.ok (⟨some document, errors, warnings⟩, diagnostics)) =
                match serializer.html document with
                | .ok html => .ok html
                | .error (.broken fault) => .error (.broken fault)
                | .error (.refused _) =>
                    .error (.reported (.ofDiagnostics .compile diagnostics "HTML export failed")) :=
            rfl
          cases html : serializer.html document with
          | ok output =>
              simp only [html] at concluded
              refine ⟨[Report.exported "HTML" output.utf8ByteSize stopwatch], ?_⟩
              simp only [run_bind, run_perform_record]
              exact Prod.ext (Prod.ext rfl (concluded []).symm) rfl
          | error failure =>
              cases failure with
              | broken fault =>
                  simp only [html] at concluded
                  exact ⟨[], Prod.ext (Prod.ext rfl (concluded []).symm) rfl⟩
              | refused reasons =>
                  simp only [html] at concluded
                  refine ⟨[], ?_⟩
                  simp only [run_bind, run_located]
                  generalize (SourceDiagnostic.locateAll reasons).run.run.run world = asked
                  rcases asked with ⟨answer, world⟩
                  cases answer with
                  | error fault => rfl
                  | ok diagnostics => exact Prod.ext (Prod.ext rfl (concluded diagnostics).symm) rfl

/-! ## Streaming -/

theorem run_appendBatches (path : String) (size : Nat) (batch : List String) (withRest : Bool)
    (lines : List String) (session : Session π) :
    ∃ overlay, ((appendBatches path size batch withRest lines).run session).2 =
      { session with world := { session.world with overlay := overlay } } := by
  induction lines generalizing batch session with
  | nil =>
      simp only [appendBatches]
      split <;> exact ⟨_, rfl⟩
  | cons line lines ih =>
      simp only [appendBatches]
      split
      · have rest := ih [] ((appendVirtualFile path
          (Text.Utf8.encode (String.join (batch ++ [line])).toList)).run session).2
        rcases rest with ⟨overlay, same⟩
        exact ⟨overlay, same⟩
      · apply ih

theorem run_streamVirtualFile (path : String) (values : List Value) (name : String)
    (context : EncodingContext) {batchSize : Int} (positive : 1 ≤ batchSize)
    (session : Session π) :
    ∃ overlay records,
      ((streamVirtualFile path values name context batchSize).run.run session).2 =
        ⟨{ session.world with overlay := overlay }.report records, none⟩ := by
  rw [streamVirtualFile, if_neg (by omega)]
  generalize Value.encodeLines context values = encoded
  rcases encoded with ⟨lines, fault⟩
  have batches := run_appendBatches path batchSize.toNat [] fault.isNone lines
    ((setVirtualFile path (Text.Utf8.encode (streamHeader name).toList)).run session).2
  rcases batches with ⟨overlay, appended⟩
  cases fault with
  | some fault =>
      refine ⟨overlay, [], ?_⟩
      simp only [run_bind, run_perform]
      exact appended
  | none =>
      simp only [run_bind, run_perform, run_record]
      simp only [appended]
      exact ⟨_, _, rfl⟩

theorem run_streamVirtualFile_of_refused (path : String) (values : List Value) (name : String)
    (context : EncodingContext) {batchSize : Int} (refused : batchSize < 1)
    (session : Session π) :
    ((streamVirtualFile path values name context batchSize).run.run session).2 = session := by
  simp only [streamVirtualFile, if_pos refused]
  rfl

/-! ## Calls -/

/--
A call of a session, with the collaborators that it uses. Between the calls anything
may happen to the machine.
-/
inductive Call (π ν : Type) where
  | setMarkup (markup : String)
  | setVirtualFile (path : String) (content : Bytes)
  | appendVirtualFile (path : String) (content : Bytes)
  | clearVirtualFile (path : String)
  | streamVirtualFile (path : String) (values : List Value) (name : String)
      (context : EncodingContext) (batchSize : Int)
  | setInput (key value : String)
  | setInputs (bindings : List (String × String))
  | compile (compiler : Compiler π ν)
  | renderPage (renderer : Renderer π) (page : Int)
  | exportPdf (serializer : Serializer π) (options : Option PdfOptions)
      (keywords : List PdfKeyword)
  | exportHtml (compiler : Compiler π ν) (serializer : Serializer π)
  | meanwhile (change : Host → Host)

/-- PDF export with options that are given as a whole or one by one. -/
def exportPdfWith (serializer : Serializer π) (options : Option PdfOptions)
    (keywords : List PdfKeyword) : Step π Bytes :=
  match PdfOptions.combine options keywords with
  | .error fault => throw (.broken fault)
  | .ok options => exportPdf serializer options

/-- The session that a call leaves, whether or not the call failed. -/
def call (session : Session π) : Call π ν → Session π
  | .setMarkup markup => ((setMarkup markup).run session).2
  | .setVirtualFile path content => ((setVirtualFile path content).run session).2
  | .appendVirtualFile path content => ((appendVirtualFile path content).run session).2
  | .clearVirtualFile path => ((clearVirtualFile path).run session).2
  | .streamVirtualFile path values name context batchSize =>
      ((streamVirtualFile path values name context batchSize).run.run session).2
  | .setInput key value => ((setInput key value).run session).2
  | .setInputs bindings => ((setInputs bindings).run session).2
  | .compile compiler => ((compile compiler).run session).2
  | .renderPage renderer page => ((renderPage renderer page).run.run session).2
  | .exportPdf serializer options keywords =>
      ((exportPdfWith serializer options keywords).run.run session).2
  | .exportHtml compiler serializer => ((exportHtml compiler serializer).run session).2
  | .meanwhile change =>
      { session with world := { session.world with host := change session.world.host } }

def after (world : World) : List (Call π ν) → Session π
  | [] => ⟨world, none⟩
  | latest :: past => (after world past).call latest

/-! ## Calls that only report -/

theorem run_noteStaleInputs (session : Session π) :
    ∃ records, (noteStaleInputs.run session).2 =
      { session with world := session.world.report records } := by
  have split : (noteStaleInputs.run session).2 =
      ((if session.isCompiled then record [Report.staleInputs] else pure ()).run session).2 := rfl
  simp only [split]
  split
  · exact ⟨_, congrArg Prod.snd (run_record _ session)⟩
  · exact ⟨[], rfl⟩

theorem run_setInput (key value : String) (session : Session π) :
    ∃ records, ((setInput key value).run session).2 =
      { session with world := ((World.setInput key value).run session.world).2.report records } :=
  run_noteStaleInputs ((inWorld (World.setInput key value)).run session).2

theorem run_setInputs (bindings : List (String × String)) (session : Session π) :
    ∃ records, ((setInputs bindings).run session).2 =
      { session with world := ((World.setInputs bindings).run session.world).2.report records } :=
  run_noteStaleInputs ((inWorld (World.setInputs bindings)).run session).2

/-- The answer of rendering, which depends on the document alone. -/
def rendered (document? : Option (Document π)) (renderer : Renderer π) (page : Int) :
    Except SessionFailure String :=
  match document? with
  | none => .error (.reported (.simple .precondition noDocument))
  | some document =>
      match if 0 ≤ page then document.pages[page.toNat]? else none with
      | none =>
          .error (.reported (.simple .precondition
            s!"Page index {page} out of bounds (document has {document.pages.length} pages)"))
      | some content => (renderer content).mapError .broken

theorem run_renderPage (renderer : Renderer π) (page : Int) (session : Session π) :
    ∃ records, (renderPage renderer page).run.run session =
      (rendered session.document renderer page,
        { session with world := session.world.report records }) := by
  rcases session with ⟨world, document?⟩
  simp only [renderPage, run_bind]
  cases document? with
  | none => exact ⟨[], rfl⟩
  | some document =>
      have required : (requireDocument : Step π (Document π)).run.run ⟨world, some document⟩ =
          (.ok document, ⟨world, some document⟩) := rfl
      simp only [required, rendered]
      cases if 0 ≤ page then document.pages[page.toNat]? else none with
      | none => exact ⟨[], rfl⟩
      | some content =>
          dsimp only
          cases renderer content with
          | error fault => exact ⟨[], rfl⟩
          | ok output =>
              simp only [run_bind, run_perform_record]
              exact ⟨_, rfl⟩

theorem run_exportPdf (serializer : Serializer π) (options : PdfOptions) (session : Session π) :
    ∃ records, ((exportPdf serializer options).run.run session).2 =
      { session with world := session.world.report records } := by
  rcases session with ⟨world, document?⟩
  simp only [exportPdf, run_bind]
  cases document? with
  | none => exact ⟨[], rfl⟩
  | some document =>
      have required : (requireDocument : Step π (Document π)).run.run ⟨world, some document⟩ =
          (.ok document, ⟨world, some document⟩) := rfl
      simp only [required]
      cases options.serializeOptions document.pages.length with
      | error error => exact ⟨[], rfl⟩
      | ok settings =>
          dsimp only
          cases serializer.pdf document settings with
          | ok output =>
              simp only [run_bind, run_perform_record]
              exact ⟨_, rfl⟩
          | error failure =>
              cases failure with
              | broken fault => exact ⟨[], rfl⟩
              | refused reasons =>
                  dsimp only
                  cases SourceDiagnostic.detachAll reasons with
                  | error fault => exact ⟨[], rfl⟩
                  | ok diagnostics => exact ⟨[], rfl⟩

theorem run_exportPdfWith (serializer : Serializer π) (options : Option PdfOptions)
    (keywords : List PdfKeyword) (session : Session π) :
    ∃ records, ((exportPdfWith serializer options keywords).run.run session).2 =
      { session with world := session.world.report records } := by
  simp only [exportPdfWith]
  cases PdfOptions.combine options keywords with
  | error fault => exact ⟨[], rfl⟩
  | ok options => exact run_exportPdf serializer options session

end Session

end Typeset

import Typeset.Proofs.CommandLine.Opening
import Typeset.Proofs.CommandLine.Printing
import Typeset.Proofs.Session.Machine

/-!
# What a command makes

A command that renders or exports a document makes a few calls of a session, and the first
one that fails is the last. How the command ends depends on the answer of this last call
only: a failure is reported, and anything else is printed or written to a file.
-/

namespace Typeset.CommandLine

open LineMarkup (Page)

/-! ## Products -/

/-- What a command makes of a document. -/
inductive Product where
  | page (number : Int)
  | pdf (options : PdfOptions)
  | html

/-- What a session gives for a product: a text, or the bytes of a file. -/
inductive Content where
  | text (text : String)
  | file (bytes : Bytes)

def Content.bytes : Content → Bytes
  | .text shown => Text.Utf8.encode shown.toList
  | .file content => content

def Action.product? : Action → Option Product
  | check => none
  | svg page _ _ => some (.page page)
  | pdf options _ _ => some (.pdf options)
  | html _ _ => some .html

/-- The file that a product goes to, if it is not printed. -/
def Action.destination? (document : String) : Action → Option HostPath
  | check => none
  | svg _ output _ | html output _ => output
  | pdf _ output _ => some (output.getD ((HostPath.parse document).withExtension ".pdf"))

/-- The answer of a call, and the warnings of the compile that comes before it. -/
def afterCompile (compiler : Compiler Page Unit)
    (call : StateM (Session Page) (Except SessionFailure Content)) :
    StateM (Session Page) (List Diagnostic × Except SessionFailure Content) := do
  let (_, compiled) ← Session.compile compiler
  match compiled with
  | .error failure => return ([], .error failure)
  | .ok result => return (result.warnings, ← call)

/-- The calls of a session that make a product; the first one that fails is the last. -/
def make (place : Workplace) : Product →
    StateM (Session Page) (List Diagnostic × Except SessionFailure Content)
  | .page number => afterCompile place.compiler do
      return (← (Session.renderPage place.renderer number).run).map .text
  | .pdf options => afterCompile place.compiler do
      return (← (Session.exportPdf place.serializer options).run).map .file
  | .html => do
      let (_, answer) ← Session.exportHtml place.compiler place.serializer
      return ([], answer.map .text)

theorem run_afterCompile (compiler : Compiler Page Unit)
    (call : StateM (Session Page) (Except SessionFailure Content)) (session : Session Page) :
    (afterCompile compiler call).run session =
      let compiled := (Session.compile compiler).run session
      match compiled.1.2 with
      | .error failure => (([], .error failure), compiled.2)
      | .ok result => ((result.warnings, (call.run compiled.2).1), (call.run compiled.2).2) := by
  simp only [afterCompile, StateT.run_bind]
  change (match (Session.compile compiler).run session with
    | ((_, compiled), between) => _) = _
  generalize (Session.compile compiler).run session = done
  rcases done with ⟨⟨notes, compiled⟩, between⟩
  cases compiled <;> rfl

/-- Whatever is made, nothing is done to the machine but packages are prepared. -/
theorem onlyPrepares_make (place : Workplace) (product : Product) :
    place.session.world.OnlyPrepares ((make place product).run place.session).2.world := by
  have afterwards (call : StateM (Session Page) (Except SessionFailure Content))
      (keeps : ∀ session : Session Page, session.world.OnlyPrepares (call.run session).2.world) :
      place.session.world.OnlyPrepares
        ((afterCompile place.compiler call).run place.session).2.world := by
    have compiles := Session.onlyPrepares_compile place.compiler place.session
    rw [run_afterCompile]
    dsimp only
    split
    · exact compiles
    · exact compiles.trans (keeps _)
  cases product with
  | page number => exact afterwards _ fun session => session.onlyPrepares_renderPage _ _
  | pdf options => exact afterwards _ fun session => session.onlyPrepares_exportPdf _ _
  | html => exact Session.onlyPrepares_exportHtml place.compiler place.serializer place.session

/-! ## Reports -/

/-- The console after some lines were printed as errors. -/
def Console.told (console : Console) (lines : List String) : Console :=
  { console with errors := console.errors ++ printedAll lines }

theorem run_forM_printError {α : Type} (render : α → String) (items : List α) (console : Console) :
    (items.forM fun item => printError (render item)).run.run console =
      (.ok (), console.told (items.map render)) := by
  induction items generalizing console with
  | nil =>
      have same : console.told [] = console := by
        simp [Console.told, printedAll]
      rw [List.map_nil, same]
      rfl
  | cons item items ih =>
      have first : (printError (render item)).run.run console =
          (.ok (), console.told [render item]) := by
        simp only [Console.told, printedAll, List.map_cons, List.map_nil, String.join_cons,
          String.join_nil, String.append_empty]
        rfl
      rw [show (item :: items).forM (fun item => printError (render item)) =
        printError (render item) >>= fun _ => items.forM fun item => printError (render item)
        from rfl, run_bind, first]
      simp only [ih, Console.told, printedAll, List.map_cons, List.map_nil, String.join_cons,
        String.join_nil, String.append_empty, String.append_assoc]

/-- The line of a diagnostic in a report. -/
def diagnosticLine (diagnostic : Diagnostic) : String :=
  s!"  {diagnostic.render}"

/--
The report of a failed step: what failed, and its diagnostics in order, all of them when asked
for and otherwise the first ten and how many more there are.
-/
def Reports (error : SessionError) (verbose : Bool) (lines : List String) : Prop :=
  ∃ shown hidden, error.diagnostics = shown ++ hidden ∧ (verbose → hidden = []) ∧
    (¬verbose → shown.length = min 10 error.diagnostics.length) ∧
    lines = s!"✗ {error.message}" :: shown.map diagnosticLine ++
      if hidden = [] then [] else [s!"  ... and {hidden.length} more"]

theorem reports_failureLines (error : SessionError) (verbose : Bool) :
    Reports error verbose (failureLines error verbose) := by
  cases verbose with
  | true =>
      refine ⟨error.diagnostics, [], by simp, by simp, by simp, ?_⟩
      simp [failureLines, diagnosticLine]
  | false =>
      refine ⟨error.diagnostics.take shownDiagnostics, error.diagnostics.drop shownDiagnostics,
        by simp, by simp, by simp [shownDiagnostics], ?_⟩
      have hidden : error.diagnostics.length -
          (error.diagnostics.take shownDiagnostics).length =
            (error.diagnostics.drop shownDiagnostics).length := by
        rw [List.length_take, List.length_drop]
        omega
      simp only [failureLines, Bool.false_eq_true, if_false, hidden, List.length_eq_zero_iff]
      rfl

/-! ## How a command ends -/

/-- How a command ends for the answer of its last call, from what it has printed before. -/
inductive Ends (verbose : Bool) (destination : Option HostPath) (console : Console) :
    Except SessionFailure Content → Except Stop Unit × Console → Prop
  | reported (error : SessionError) : Ends verbose destination console
      (.error (.reported error)) (.error (.exit 1), console.told (failureLines error verbose))
  | broken (fault : Fault) : Ends verbose destination console
      (.error (.broken fault)) (.error (.escaped fault), console)
  | printed (text : String) (nowhere : destination = none) : Ends verbose destination console
      (.ok (.text text)) (.ok (), { console with output := console.output ++ printed text })
  | written (content : Content) (path : HostPath) (there : destination = some path) :
      Ends verbose destination console (.ok content)
        ((writeOutput path content.bytes).run.run console)

theorem run_succeeded {α : Type} (verbose : Bool) (answer : Except SessionFailure α)
    (console : Console) :
    (succeeded verbose answer).run.run console =
      match answer with
      | .ok value => (.ok value, console)
      | .error (.reported error) =>
          (.error (.exit 1), console.told (failureLines error verbose))
      | .error (.broken fault) => (.error (.escaped fault), console) := by
  rcases answer with (error | fault) | value
  · simp only [succeeded, reportFailure, run_bind]
    rw [show (failureLines error verbose).forM printError = _ from rfl,
      run_forM_printError (fun line => line), List.map_id']
    rfl
  · rfl
  · rfl

/-- A command hands over what a call gives, when it gives anything. -/
theorem ends_succeeded {α : Type} (verbose : Bool) (destination : Option HostPath)
    (answer : Except SessionFailure α) (content : α → Content) (hand : α → Part Unit)
    (hands : ∀ value console,
      Ends verbose destination console (.ok (content value)) ((hand value).run.run console))
    (console : Console) :
    Ends verbose destination console (answer.map content)
      ((succeeded verbose answer >>= hand).run.run console) := by
  rw [run_bind, run_succeeded]
  rcases answer with (error | fault) | value
  · exact .reported error
  · exact .broken fault
  · exact hands value console

theorem ends_writeText (verbose : Bool) (output : Option HostPath) (text : String)
    (console : Console) :
    Ends verbose output console (.ok (.text text)) ((writeText output text).run.run console) := by
  cases output with
  | none => exact .printed text rfl
  | some path => exact .written (.text text) path rfl

/-- The console when a session has left its machine and given some warnings. -/
def Console.after (console : Console) (host : Host) (warnings : List Diagnostic) : Console :=
  { console with host := host }.told (warnings.map diagnosticLine)

theorem Console.after_nil (console : Console) (host : Host) :
    console.after host [] = { console with host := host } := by
  simp [Console.after, Console.told, printedAll]

theorem run_compileDocument (place : Workplace) (verbose : Bool) (console : Console) :
    (compileDocument place verbose).run.run console =
      let compiled := (Session.compile place.compiler).run place.session
      match compiled.1.2 with
      | .ok result =>
          (.ok (result, compiled.2), console.after compiled.2.world.host result.warnings)
      | .error (.reported error) =>
          (.error (.exit 1),
            (console.after compiled.2.world.host []).told (failureLines error verbose))
      | .error (.broken fault) =>
          (.error (.escaped fault), console.after compiled.2.world.host []) := by
  rw [compileDocument, run_bind, run_perform]
  generalize (Session.compile place.compiler).run place.session = compiled
  rcases compiled with ⟨⟨notes, answer⟩, session⟩
  dsimp only
  rw [run_bind, run_succeeded, Console.after_nil]
  rcases answer with (error | fault) | result
  · rfl
  · rfl
  · dsimp only
    rw [run_bind, run_forM_printError fun warning : Diagnostic => s!"  {warning.render}"]
    rfl

/-- A command that compiles first ends with the answer of the call that comes then. -/
theorem ends_afterCompile (place : Workplace) (verbose : Bool) (destination : Option HostPath)
    {α : Type} (call : StateM (Session Page) (Except SessionFailure α)) (content : α → Content)
    (hand : α → Part Unit)
    (hands : ∀ value console,
      Ends verbose destination console (.ok (content value)) ((hand value).run.run console))
    (console : Console) :
    let made := (afterCompile place.compiler do return (← call).map content).run place.session
    Ends verbose destination (console.after made.2.world.host made.1.1) made.1.2
      ((do
        let (_, session) ← compileDocument place verbose
        let (result, _) ← perform session call
        hand (← succeeded verbose result)).run.run console) := by
  dsimp only
  rw [run_afterCompile, run_bind, run_compileDocument]
  generalize (Session.compile place.compiler).run place.session = compiled
  rcases compiled with ⟨⟨notes, answer⟩, session⟩
  rcases answer with (error | fault) | result
  · exact .reported error
  · exact .broken fault
  · dsimp only
    rw [run_bind, run_perform]
    exact ends_succeeded verbose destination _ content hand hands _

/-- A command that makes something ends with what the calls of its session give. -/
theorem ends_act (place : Workplace) (options : DocumentOptions) {action : Action}
    {product : Product} (produces : action.product? = some product) (console : Console) :
    let made := (make place product).run place.session
    Ends options.verbose (action.destination? options.document)
      (console.after made.2.world.host made.1.1) made.1.2
      ((act place options action).run.run console) := by
  cases action with
  | check => cases produces
  | svg page output reference =>
      cases produces
      exact ends_afterCompile place options.verbose output
        (Session.renderPage place.renderer page).run .text (writeText output)
        (ends_writeText options.verbose output) console
  | pdf settings output reference =>
      cases produces
      exact ends_afterCompile place options.verbose _
        (Session.exportPdf place.serializer settings).run .file _
        (fun content console => .written (.file content) _ rfl) console
  | html output reference =>
      cases produces
      have run : (make place .html).run place.session =
          let exported := (Session.exportHtml place.compiler place.serializer).run place.session
          (([], exported.1.2.map .text), exported.2) := rfl
      dsimp only
      rw [run, act, run_bind, run_perform]
      generalize (Session.exportHtml place.compiler place.serializer).run place.session = exported
      rcases exported with ⟨⟨notes, answer⟩, session⟩
      dsimp only
      rw [Console.after_nil]
      exact ends_succeeded options.verbose output answer .text (writeText output)
        (ends_writeText options.verbose output) _

end Typeset.CommandLine

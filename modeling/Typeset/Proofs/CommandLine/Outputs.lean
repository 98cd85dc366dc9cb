import Typeset.Proofs.CommandLine.Bindings
import Typeset.Proofs.CommandLine.Documents
import Typeset.Proofs.CommandLine.Products

/-!
# The outputs of a command

A command hands over what the calls of its session give only when none has failed. A failed
command reports its failure and does nothing to its files; otherwise the file that is named
has exactly what the session gave. A text that is printed instead is printed without the
sequences that would colour it.
-/

namespace Typeset.CommandLine

open LineMarkup (Page)

/-! ## Whole commands -/

section Commands

variable {environment : Environment} {host : Host} {arguments : List String}
  {logDirectory : Option HostPath} {options : DocumentOptions} {action : Action}
  {place : Workplace} {product : Product}

/-- A command was understood, and a workplace has been opened for its document. -/
structure Opens (environment : Environment) (host : Host) (arguments : List String)
    (logDirectory : Option HostPath) (options : DocumentOptions) (action : Action)
    (place : Workplace) : Prop where
  understood : Invocation.read arguments = .ok ⟨logDirectory, .document options action⟩
  usable : isUsable host.disk options.document = true
  opened : ((openWorkplace environment logDirectory options action).run.run
    ⟨host, "", "", none⟩).1 = .ok place

theorem run_execute (understood : Invocation.read arguments =
      .ok ⟨logDirectory, .document options action⟩) (console : Console) :
    (execute environment arguments).run.run console =
      if isUsable console.host.disk options.document then
        ((openWorkplace environment logDirectory options action >>=
          fun place => act place options action).run.run console)
      else (misused (Misuse.unusableDocument options.document).message : Part Unit).run.run
        console := by
  simp only [execute, understood, run_bind, run_get]
  split
  · rw [run_bind]
  · rfl

/-- Where a workplace was opened, the command has printed nothing, and goes on with it. -/
theorem Opens.exists_run
    (opens : Opens environment host arguments logDirectory options action place) :
    ∃ bindings level, readBindings options.inputs = .ok bindings ∧
      IsPlaceOf environment options action bindings
        (begun environment logDirectory action host) place ∧
      (execute environment arguments).run.run ⟨host, "", "", none⟩ =
        (act place options action).run.run ⟨place.session.world.host, "", "", some level⟩ := by
  rcases exists_of_run_openWorkplace (Prod.ext opens.opened rfl) with
    ⟨bindings, level, read, isPlace, last⟩
  refine ⟨bindings, level, read, isPlace, ?_⟩
  rw [run_execute opens.understood, if_pos opens.usable, run_bind,
    show (openWorkplace environment logDirectory options action).run.run ⟨host, "", "", none⟩ =
      (.ok place, _) from Prod.ext opens.opened last]

/-- The result of a command that has ended in a certain way. -/
def Result.of (verdict : Except Stop Unit) (console : Console) : Result where
  exit :=
    match verdict with
    | .ok () => 0
    | .error (.exit code) => code
    | .error (.escaped _) => 1
  fault :=
    match verdict with
    | .error (.escaped fault) => some fault
    | _ => none
  output := console.output
  errors := console.errors
  shown :=
    match console.shownFrom with
    | some level => console.host.journal.shownFrom level
    | none => []
  host := console.host

theorem run_eq_of (environment : Environment) (host : Host) (arguments : List String) :
    run environment host arguments =
      .of ((execute environment arguments).run.run ⟨host, "", "", none⟩).1
        ((execute environment arguments).run.run ⟨host, "", "", none⟩).2 := by
  rw [run]
  generalize (execute environment arguments).run.run ⟨host, "", "", none⟩ = done
  rcases done with ⟨(code | fault) | ⟨⟩, console⟩ <;> rfl

/-- A document command that ends with zero has opened its workplace. -/
theorem exists_opens_of_exit (understood : Invocation.read arguments =
      .ok ⟨logDirectory, .document options action⟩)
    (exit : (run environment host arguments).exit = 0) :
    ∃ place, Opens environment host arguments logDirectory options action place := by
  rw [run_eq_of, run_execute understood] at exit
  split at exit
  · next usable =>
      rw [run_bind] at exit
      generalize opened : (openWorkplace environment logDirectory options action).run.run
        ⟨host, "", "", none⟩ = done at exit
      rcases done with ⟨(code | fault) | place, between⟩
      · have loud := FailsLoudly.openWorkplace environment logDirectory options action
          ⟨host, "", "", none⟩
        rw [opened] at loud
        exact absurd (congrArg (fun code => Except.error (Stop.exit code)) exit) loud
      · cases exit
      · exact ⟨place, understood, usable, congrArg Prod.fst opened⟩
  · cases exit

/-! ## What is left of the machine -/

/-- Opening a session for a document only reports. -/
theorem onlyPrepares_opened {bindings : List (String × String)}
    (isPlace : IsPlaceOf environment options action bindings host place) :
    environment.packages.OnlyPrepares host place.session.world.host ∧
      place.session.world.packages = environment.packages := by
  rcases isPlace.session with ⟨created, content, text, ⟨origin, _, create⟩, _, _, same⟩
  have loading : created.world.OnlyPrepares (loaded created text bindings).world := by
    have marks := Session.onlyPrepares_setMarkup text created
    rw [loaded]
    split
    · exact marks
    · exact marks.trans (Session.onlyPrepares_setInputs bindings _)
  rcases world_of_create create with ⟨fonts, records, world⟩
  rw [world] at loading
  rw [same]
  exact ⟨.trans (.records records host) loading.machine, loading.packages⟩

/-- A key has the value that the last text of the options binds it to. -/
theorem input?_opened {bindings : List (String × String)}
    (read : readBindings options.inputs = .ok bindings)
    (isPlace : IsPlaceOf environment options action bindings host place) (key value : String) :
    place.session.world.library.input? key = some value ↔
      LastBinds options.inputs key value := by
  rcases isPlace.session with ⟨created, content, text, ⟨origin, _, create⟩, _, _, same⟩
  rcases world_of_create create with ⟨fonts, records, world⟩
  have inputs : place.session.world.inputs = World.bindAll bindings [] := by
    rw [same, loaded]
    split
    · next nothing =>
        rw [nothing]
        exact congrArg World.inputs world
    · rcases Session.run_setInputs bindings ((Session.setMarkup text).run created).2 with
        ⟨records, set⟩
      rw [set]
      rfl
  rw [World.library, inputs]
  exact input?_eq_some_iff read _

/-! ## All or nothing -/

/--
A command has failed with a report of an error, and the machine is as it was when the command
had begun, but for what calls for packages leave of it.
-/
structure FailsWith (storage : PackageStorage) (host : Host) (verbose : Bool)
    (warnings : List Diagnostic) (error : SessionError) (result : Result) : Prop where
  exit : result.exit = 1
  fault : result.fault = none
  output : result.output = ""
  errors : ∃ lines, Reports error verbose lines ∧
    result.errors = printedAll (warnings.map diagnosticLine ++ lines)
  machine : storage.OnlyPrepares host result.host
  /-- Where the registry gave no answer, the disk is what it was. -/
  untouched : result.host.responses = host.responses → result.host.disk = host.disk
  /-- Where nobody else worked on the disk, every entry stays, and only packages are new. -/
  kept : host.disk.Rooted → PackageStorage.Alone host →
    storage.AddsPackages host.disk result.host.disk

/-- Content has come to where it was to go. -/
inductive HandedOver (destination : Option HostPath) (result : Result) : Content → Prop
  | printed {text : String} (nowhere : destination = none) (output : result.output = printed text)
      (exactly : result.output = text ++ "\n" ↔ ¬HasSequence text.toList) :
      HandedOver destination result (.text text)
  | written {content : Content} {path : HostPath} (there : destination = some path)
      (read : result.host.disk.read path = .ok content.bytes) (silent : result.output = "") :
      HandedOver destination result content

theorem printedAll_append (lines more : List String) :
    printedAll (lines ++ more) = printedAll lines ++ printedAll more := by
  rw [printedAll, List.map_append, String.join_append]
  rfl

theorem failsLoudly_writeOutput (path : HostPath) (content : Bytes) :
    FailsLoudly (writeOutput path content) :=
  (FailsLoudly.onDisk _).bind fun _ => (FailsLoudly.onDisk _).bind fun _ =>
    .of_ok fun _ => ⟨(), rfl⟩

/-- What is written is there afterwards, and the output stays as it was. -/
theorem read_of_writeOutput {path : HostPath} {content : Bytes} {console last : Console}
    (ran : (writeOutput path content).run.run console = (.ok (), last)) :
    last.host.disk.read path = .ok content ∧ last.output = console.output := by
  rcases exists_of_run_bind ran with ⟨_, _, ensured, rest⟩
  rcases exists_of_onDisk ensured with ⟨ready, _, rfl⟩
  rcases exists_of_run_bind rest with ⟨_, _, writing, telling⟩
  rcases exists_of_writeFile writing with ⟨disk, written, rfl⟩
  cases telling
  exact ⟨Disk.read_of_write written, rfl⟩

/-- An opened command whose calls fail has failed with their report. -/
theorem failsWith_of_opens
    (opens : Opens environment host arguments logDirectory options action place)
    (produces : action.product? = some product) {warnings : List Diagnostic}
    {error : SessionError}
    (failed : ((make place product).run place.session).1 = (warnings, .error (.reported error))) :
    FailsWith environment.packages (begun environment logDirectory action host) options.verbose
      warnings error (run environment host arguments) := by
  rcases opens.exists_run with ⟨bindings, level, _, isPlace, executes⟩
  have ends := ends_act place options produces ⟨place.session.world.host, "", "", some level⟩
  have machine : environment.packages.OnlyPrepares (begun environment logDirectory action host)
      ((make place product).run place.session).2.world.host := by
    rcases onlyPrepares_opened isPlace with ⟨opening, packages⟩
    exact .trans opening (packages ▸ (onlyPrepares_make place product).machine)
  generalize (make place product).run place.session = made at failed ends machine
  rcases made with ⟨answer, session⟩
  cases failed
  dsimp only at ends machine
  rw [run_eq_of, executes]
  generalize (act place options action).run.run _ = ended at ends
  cases ends
  refine ⟨rfl, rfl, rfl, ⟨_, reports_failureLines error options.verbose, ?_⟩, machine,
    machine.disk_eq, fun rooted alone => (machine.addsPackages rooted alone).1⟩
  rw [printedAll_append, ← @String.empty_append (printedAll (warnings.map diagnosticLine))]
  rfl

/-- An opened command that ends with zero has handed over what its calls gave. -/
theorem handedOver_of_opens
    (opens : Opens environment host arguments logDirectory options action place)
    (produces : action.product? = some product)
    (exit : (run environment host arguments).exit = 0) :
    ∃ content, ((make place product).run place.session).1.2 = .ok content ∧
      HandedOver (action.destination? options.document) (run environment host arguments)
        content := by
  rcases opens.exists_run with ⟨bindings, level, _, _, executes⟩
  have ends := ends_act place options produces ⟨place.session.world.host, "", "", some level⟩
  rw [run_eq_of, executes] at exit ⊢
  generalize (make place product).run place.session = made at ends ⊢
  generalize ran : (act place options action).run.run _ = ended at ends exit ⊢
  rcases made with ⟨⟨warnings, answer⟩, session⟩
  dsimp only at ends ⊢
  cases ends with
  | reported error => cases exit
  | broken fault => cases exit
  | printed text nowhere =>
      refine ⟨_, rfl, .printed nowhere ?_ ?_⟩
      · exact String.empty_append
      · rw [← printed_eq_iff, ← @String.empty_append (printed text)]
        rfl
  | written content path there =>
      refine ⟨content, rfl, ?_⟩
      have loud := failsLoudly_writeOutput path content.bytes
        (Console.after ⟨place.session.world.host, "", "", some level⟩ session.world.host warnings)
      generalize wrote : (writeOutput path content.bytes).run.run _ = done at loud exit ⊢
      rcases done with ⟨(code | fault) | ⟨⟩, last⟩
      · exact absurd (congrArg (fun code => Except.error (Stop.exit code)) exit) loud
      · cases exit
      · rcases read_of_writeOutput wrote with ⟨read, silent⟩
        exact .written there read silent

/-- An opened command whose calls give a text that no file is named for prints it and succeeds. -/
theorem printed_of_opens
    (opens : Opens environment host arguments logDirectory options action place)
    (produces : action.product? = some product) {text : String}
    (made : ((make place product).run place.session).1.2 = .ok (.text text))
    (nowhere : action.destination? options.document = none) :
    (run environment host arguments).exit = 0 ∧
      (run environment host arguments).output = printed text := by
  rcases opens.exists_run with ⟨bindings, level, _, _, executes⟩
  have ends := ends_act place options produces ⟨place.session.world.host, "", "", some level⟩
  rw [run_eq_of, executes]
  dsimp only at ends
  rw [made, nowhere] at ends
  generalize (act place options action).run.run _ = ended at ends
  cases ends with
  | printed => exact ⟨rfl, String.empty_append⟩
  | written _ _ there => cases there

/--
A command that makes something works in a session that has the text of its document and the
last bindings of its options. When a call of the session fails, the command fails with its
report and leaves the disk alone, packages aside. When the command ends with zero, it has
opened its session, the calls have given a content, and the file that was named has exactly
this content; without a file the content is printed, as it is exactly if it has no sequence
that would colour it.
-/
theorem outputs_are_all_or_nothing (environment : Environment) (host : Host)
    (arguments : List String) :
    (∀ logDirectory options action place product,
      Opens environment host arguments logDirectory options action place →
      action.product? = some product →
      let start := begun environment logDirectory action host
      let made := ((make place product).run place.session).1
      let result := run environment host arguments
      (∃ bindings, readBindings options.inputs = .ok bindings ∧
        IsPlaceOf environment options action bindings start place) ∧
      (∀ key value, place.session.world.library.input? key = some value ↔
        LastBinds options.inputs key value) ∧
      (∀ error, made.2 = .error (.reported error) →
        FailsWith environment.packages start options.verbose made.1 error result) ∧
      (result.exit = 0 → ∃ content, made.2 = .ok content ∧
        HandedOver (action.destination? options.document) result content) ∧
      (∀ text, made.2 = .ok (.text text) → action.destination? options.document = none →
        result.exit = 0)) ∧
    ∀ logDirectory options action,
      Invocation.read arguments = .ok ⟨logDirectory, .document options action⟩ →
      (run environment host arguments).exit = 0 →
      ∃ place, Opens environment host arguments logDirectory options action place := by
  refine ⟨?_, fun _ _ _ understood exit => exists_opens_of_exit understood exit⟩
  intro logDirectory options action place product opens produces
  rcases opens.exists_run with ⟨bindings, level, read, isPlace, _⟩
  refine ⟨⟨bindings, read, isPlace⟩, input?_opened read isPlace, ?_,
    handedOver_of_opens opens produces,
    fun text made nowhere => (printed_of_opens opens produces made nowhere).1⟩
  intro error failed
  exact failsWith_of_opens opens produces (Prod.ext rfl failed)

end Commands

/-! ## A coloured text -/

namespace Sample

def colouredDocument : String :=
  "\x1b[31mred"

/-- A machine with the document. -/
def colouredHost : Host :=
  ⟨⟨[(["b.typ"], .file (Text.Utf8.encode colouredDocument.toList))]⟩, [], [], []⟩

def pageArguments : List String :=
  ["svg", "b.typ", "--compiler", "toy_engine:ToyCompiler", "--ignore-system-fonts",
    "--renderer", "toy_engine:ToyRenderer"]

def pageAction : Action :=
  .svg 0 none (some "toy_engine:ToyRenderer")

theorem stat_coloured : colouredHost.disk.stat (.parse "b.typ") =
    .ok (["b.typ"], .file (Text.Utf8.encode colouredDocument.toList)) := by
  have path : HostPath.parse "b.typ" = ⟨.relative, ["b.typ"]⟩ := by rfl
  rw [path]
  refine Disk.stat_eq_ok_iff.mpr ⟨?_, rfl⟩
  rw [Disk.locate_of_walkable ⟨by decide +kernel, by decide +kernel, rfl⟩]
  exact Disk.follow_of_arrives (.atFile ⟨by decide, by decide⟩ rfl)

/-- The session that is created for the document, before it has its text. -/
def colouredCreated : Session Page :=
  let root := (HostPath.parse "b.typ").parent
  let unread : World := .make root .empty environment.packages environment.clock colouredHost
  (Session.create colouredHost root (.search environment.fontReader [] none) environment.packages
    environment.clock).toOption.getD ⟨unread, none⟩

theorem creates_coloured : Creates environment options colouredHost colouredCreated :=
  ⟨.search environment.fontReader [] none, rfl, rfl⟩

/-- The workplace that is opened for the document. -/
def colouredPlace : Workplace where
  session := loaded colouredCreated colouredDocument []
  compiler := LineMarkup.compiler
  renderer := LineMarkup.renderer
  serializer := .unavailable (.invalidValue Role.serializer.missingMessage)

theorem opens_colouredPlace :
    Opens environment colouredHost pageArguments none options pageAction colouredPlace := by
  refine ⟨by rfl, ?_, ?_⟩
  · simp only [isUsable, Disk.isFile, Disk.holdsAt, options, stat_coloured]
    decide +kernel
  · have named : Role.compiler.load environment.registry environment.setting? options.compiler =
        .ok (.instanceOf LineMarkup.compilerName) := rfl
    have read : colouredHost.disk.read (.parse options.document) =
        .ok (Text.Utf8.encode colouredDocument.toList) := by
      simp only [Disk.read, options, stat_coloured]
      rfl
    have decoded : documentText (Text.Utf8.encode colouredDocument.toList) =
        .ok colouredDocument := by
      rfl
    exact run_openWorkplace_of_creates pageAction rfl named (fun _ => rfl) (fun _ => rfl)
      creates_coloured read decoded

end Sample

/-- The text that some calls have given. -/
def textOf? : Except SessionFailure Content → Option String
  | .ok (.text text) => some text
  | _ => none

theorem eq_of_textOf? {answer : Except SessionFailure Content} {text : String}
    (given : textOf? answer = some text) : answer = .ok (.text text) := by
  rcases answer with failure | (shown | content)
  · cases given
  · cases given
    rfl
  · cases given

/-- A page with a coloured text is printed without the sequence that colours it. -/
theorem coloured_page_loses_sequence :
    ∃ place text, Opens Sample.environment Sample.colouredHost Sample.pageArguments none
        Sample.options Sample.pageAction place ∧
      ((make place (.page 0)).run place.session).1.2 = .ok (.text text) ∧
      (run Sample.environment Sample.colouredHost Sample.pageArguments).exit = 0 ∧
      (run Sample.environment Sample.colouredHost Sample.pageArguments).output ≠ text ++ "\n" := by
  have made : ((make Sample.colouredPlace (.page 0)).run Sample.colouredPlace.session).1.2 =
      .ok (.text "<svg xmlns=\"http://www.w3.org/2000/svg\"><text>\x1b[31mred</text></svg>") := by
    apply eq_of_textOf?
    decide +kernel
  rcases printed_of_opens Sample.opens_colouredPlace rfl made rfl with ⟨exit, output⟩
  refine ⟨Sample.colouredPlace, _, Sample.opens_colouredPlace, made, exit, ?_⟩
  rw [output]
  decide +kernel

end Typeset.CommandLine

import Typeset.CommandLine.Command
import Typeset.Duration
import Typeset.LineMarkup.Registry
import Typeset.Text.Lines

/-!
# Running commands

A command opens a session for its document, compiles, and writes what was asked
for. It ends with an exit code: zero when all went well, one when a step of the
session failed and was reported, two when the command was used wrongly or the
session could not be opened. A fault that nobody expected escapes from it.

The output is written last, after every step that can fail, so a failed command
leaves the files as they were.
-/

namespace Typeset.CommandLine

/-- What a command finds when it starts. -/
structure Environment where
  registry : Registry
  setting? : String → Option String
  packages : PackageStorage
  clock : Clock
  fontReader : FaceReader
  /-- The directories of the system's fonts, if the system can tell them. -/
  systemFonts : Except Fault (List HostPath)
  /-- The time of the start, as it stands in the names of log directories. -/
  timestamp : String

/-- What a command has done so far. -/
structure Console where
  host : Host
  output : String
  errors : String
  /-- The level from which on the journal is shown, once that is known. -/
  shownFrom : Option LogLevel

/-- How a command ends before its end. -/
inductive Stop where
  | exit (code : Nat)
  | escaped (fault : Fault)

abbrev Part (α : Type) := ExceptT Stop (StateM Console) α

/-! ## Printing -/

/-- The length of a sequence of characters that only colours what follows it, behind its escape. -/
def colourLength? : List Char → Option Nat
  | '[' :: rest =>
      let parameters := rest.takeWhile fun char => char.isDigit || char == ';' || char == '?'
      match rest.drop parameters.length with
      | letter :: _ => if letter.isAlpha then some (parameters.length + 2) else none
      | [] => none
  | _ => none

/-- A text without sequences that only colour it; the first `skip` characters are left out. -/
def plainFrom (skip : Nat) : List Char → List Char
  | [] => []
  | char :: rest =>
      if skip ≠ 0 then plainFrom (skip - 1) rest
      else if char = '\x1b' then
        match colourLength? rest with
        | some length => plainFrom length rest
        | none => char :: plainFrom 0 rest
      else char :: plainFrom 0 rest

def printed (line : String) : String :=
  String.ofList (plainFrom 0 line.toList) ++ "\n"

def print (line : String) : Part Unit :=
  modify fun console => { console with output := console.output ++ printed line }

def printError (line : String) : Part Unit :=
  modify fun console => { console with errors := console.errors ++ printed line }

def usage : String :=
  "Usage: folio [--log-dir DIRECTORY | --log] COMMAND [ARGUMENTS]\n\n" ++
  "Commands:\n" ++
  "  compile DOCUMENT  compile and report page count and diagnostics\n" ++
  "  svg DOCUMENT      render one page (--page, --output, --renderer)\n" ++
  "  pdf DOCUMENT      export to PDF (--pages, --standard, --document-id, --output, --serializer)\n" ++
  "  html DOCUMENT     export to HTML (--output, --serializer)\n" ++
  "  fonts             list font families (--font-path, --ignore-system-fonts)\n\n" ++
  "Options for documents: --root, --font-path, --ignore-system-fonts, --input KEY=VALUE,\n" ++
  "  --compiler, --verbose\n"

/-- End a command that was used wrongly. -/
def misused {α : Type} (message : String) : Part α := do
  printError s!"{usage}\nError: {message}"
  throw (.exit 2)

/-! ## Opening a session -/

/-- A step on the disk that can be refused. -/
def onDisk (change : Disk → Disk × Option DiskFault) : Part Unit := do
  let console ← get
  let (disk, fault) := change console.host.disk
  set { console with host := { console.host with disk := disk } }
  match fault with
  | some fault => throw (.escaped fault.toFault)
  | none => return ()

/-- Write a file in a directory that exists. -/
def writeFile (path : HostPath) (content : Bytes) : Part Unit :=
  onDisk fun disk =>
    match disk.write path content with
    | .ok disk => (disk, none)
    | .error fault => (disk, some fault)

def logFile (directory : HostPath) (command timestamp : String) : HostPath :=
  directory.append [s!"{command}_{timestamp}", "session.log"]

/-- Decide what is shown of the journal, and make a log if there is to be one. -/
def startLogging (directory : Option HostPath) (command timestamp : String) (verbose : Bool) :
    Part Unit := do
  match directory with
  | none => pure ()
  | some directory =>
      let file := logFile directory command timestamp
      onDisk (·.ensureDirectories file.parent)
      writeFile file []
  let level : LogLevel := if verbose then .debug else .warning
  modify fun console => { console with shownFrom := some level }

/-- The binding that a text `key=value` gives; the key is not empty. -/
def readBinding (text : String) : Option (String × String) :=
  match Text.splitFirst? '=' text.toList with
  | some (key@(_ :: _), value) => some (String.ofList key, String.ofList value)
  | _ => none

/-- The bindings of all texts, or the first text that is none. -/
def readBindings : List String → Except String (List (String × String))
  | [] => .ok []
  | text :: texts =>
      match readBinding text with
      | none => .error text
      | some binding => (readBindings texts).map (binding :: ·)

/-- A result that the opening of a session needs; some faults end it with a message. -/
def needed {α : Type} (result : Except Fault α) : Part α :=
  match result with
  | .ok value => return value
  | .error (.invalidValue message) | .error (.missingModule message) => do
      printError s!"Error: {message}\n"
      throw (.exit 2)
  | .error fault => throw (.escaped fault)

/-- A collaborator that an option may name; without a name the setting counts, once it is needed. -/
def collaborator (environment : Environment) (role : Role) (reference : Option String) :
    Part (Except Fault NamedObject) := do
  match reference with
  | none | some "" => return role.load environment.registry environment.setting? none
  | some reference =>
      let object ← needed (role.load environment.registry environment.setting? (some reference))
      return .ok object

/-- The text of a document file: as it is decoded, with line feeds for all its line breaks. -/
def documentText (content : Bytes) : Except Fault String :=
  match Text.Utf8.decode? content with
  | some chars => .ok (String.ofList (Text.unifyBreaks chars))
  | none => .error .undecodable

/-- The session of a command, and what it compiles and writes with. -/
structure Workplace where
  session : Session LineMarkup.Page
  compiler : Compiler LineMarkup.Page Unit
  renderer : Renderer LineMarkup.Page
  serializer : Serializer LineMarkup.Page

/-- Do something in a session and keep what it did to the machine. -/
def perform {α : Type} (session : Session LineMarkup.Page)
    (action : StateM (Session LineMarkup.Page) α) : Part (α × Session LineMarkup.Page) := do
  let (answer, session) := action.run session
  modify fun console => { console with host := session.world.host }
  return (answer, session)

/-- Where the fonts of a document come from. -/
def fontOrigin (environment : Environment) (options : DocumentOptions) :
    Except Fault Session.FontOrigin := do
  let system ← if options.ignoreSystemFonts then pure none else some <$> environment.systemFonts
  return .search environment.fontReader options.fontPaths system

/-- Whether a path spells a file and not a directory: nothing follows its last component. -/
def spellsFile (path : String) : Bool :=
  match (Text.pieces (· == '/') path).getLast? with
  | none | some "" | some "." => false
  | some _ => true

/-- Whether the document of a command is a file. -/
def isUsable (disk : Disk) (document : String) : Bool :=
  spellsFile document &&
    match disk.isFile (.parse document) with
    | .ok answer => answer
    | .error _ => false

/-- The role and reference of the renderer that an action names. -/
def Action.renderer? : Action → Option String
  | svg _ _ renderer => renderer
  | _ => none

/-- The reference of the serializer that an action names. -/
def Action.serializer? : Action → Option String
  | pdf _ _ serializer | html _ serializer => serializer
  | _ => none

/-- Create the session of a command and load the document into it. -/
def openSession (environment : Environment) (options : DocumentOptions)
    (bindings : List (String × String)) : Part (Session LineMarkup.Page) := do
  let path := HostPath.parse options.document
  let root := options.root.getD path.parent
  let origin ← needed (fontOrigin environment options)
  let session ← needed (Session.create (← get).host root origin environment.packages
    environment.clock)
  let (_, session) ← perform session (pure ())
  match session.world.host.disk.read path with
  | .error fault => throw (.escaped fault.toFault)
  | .ok content =>
      match documentText content with
      | .error fault => throw (.escaped fault)
      | .ok text =>
          let (_, session) ← perform session (Session.setMarkup text)
          if bindings = [] then return session
          let (_, session) ← perform session (Session.setInputs bindings)
          return session

/-- Open the session of a command: log, inputs, collaborators, document. -/
def openWorkplace (environment : Environment) (logDirectory : Option HostPath)
    (options : DocumentOptions) (action : Action) : Part Workplace := do
  startLogging logDirectory action.name environment.timestamp options.verbose
  match readBindings options.inputs with
  | .error text => misused s!"Invalid value for --input: Expected key=value, got '{text}'"
  | .ok bindings =>
      let compiler ← needed
        (Role.compiler.load environment.registry environment.setting? options.compiler)
      let renderer ← collaborator environment .renderer action.renderer?
      let serializer ← collaborator environment .serializer action.serializer?
      let session ← openSession environment options bindings
      return {
        session := session
        compiler := LineMarkup.compilerOf compiler
        renderer := match renderer with
          | .ok object => LineMarkup.rendererOf object
          | .error fault => .unavailable fault
        serializer := match serializer with
          | .ok object => LineMarkup.serializerOf object
          | .error fault => .unavailable fault }

/-! ## Steps -/

/-- The number of diagnostics that are shown of a failed step. -/
def shownDiagnostics : Nat := 10

/--
The lines that report a failed step: all diagnostics, or the
first ones and how many more there are.
-/
def failureLines (error : SessionError) (verbose : Bool) : List String :=
  let shown :=
    if verbose then error.diagnostics else error.diagnostics.take shownDiagnostics
  let hidden := error.diagnostics.length - shown.length
  s!"✗ {error.message}" :: shown.map (fun diagnostic => s!"  {diagnostic.render}") ++
    if hidden = 0 then [] else [s!"  ... and {hidden} more"]

/-- Report a failed step and end the command. -/
def reportFailure {α : Type} (error : SessionError) (verbose : Bool) : Part α := do
  (failureLines error verbose).forM printError
  throw (.exit 1)

/-- The answer of a step; a failed one ends the command. -/
def succeeded {α : Type} (verbose : Bool) (result : Except SessionFailure α) : Part α :=
  match result with
  | .ok answer => return answer
  | .error (.reported error) => reportFailure error verbose
  | .error (.broken fault) => throw (.escaped fault)

/-- Compile the document and show its warnings. -/
def compileDocument (place : Workplace) (verbose : Bool) :
    Part (CompileResult × Session LineMarkup.Page) := do
  let ((_, result), session) ← perform place.session (Session.compile place.compiler)
  let result ← succeeded verbose result
  result.warnings.forM fun warning => printError s!"  {warning.render}"
  return (result, session)

/-- Write a result to a file, whose directory is made when it is missing. -/
def writeOutput (path : HostPath) (content : Bytes) : Part Unit := do
  onDisk (·.ensureDirectories path.parent)
  writeFile path content
  printError s!"  Output: {path.render}"

/-- Write a text to a file, or print it when no file is named. -/
def writeText (output : Option HostPath) (text : String) : Part Unit :=
  match output with
  | none => print text
  | some path => writeOutput path (Text.Utf8.encode text.toList)

def elapsedText : String :=
  ((Duration.real Session.stopwatch).render).toOption.getD ""

/-- Do what a command asks for with an open session. -/
def act (place : Workplace) (options : DocumentOptions) : Action → Part Unit
  | .check => do
      let (result, _) ← compileDocument place options.verbose
      print "✓ Compilation succeeded"
      print s!"  Pages: {result.pageCount}"
      print s!"  Warnings: {result.warnings.length}"
      print s!"  Time: {elapsedText}"
  | .svg page output _ => do
      let (_, session) ← compileDocument place options.verbose
      let (result, _) ← perform session (Session.renderPage place.renderer page).run
      writeText output (← succeeded options.verbose result)
  | .pdf pdfOptions output _ => do
      let (_, session) ← compileDocument place options.verbose
      let (result, _) ← perform session (Session.exportPdf place.serializer pdfOptions).run
      let content ← succeeded options.verbose result
      let path := HostPath.parse options.document
      writeOutput (output.getD (path.withExtension ".pdf")) content
  | .html output _ => do
      let ((_, result), _) ← perform place.session
        (Session.exportHtml place.compiler place.serializer)
      writeText output (← succeeded options.verbose result)

/-- List the families of the fonts in some directories. -/
def listFonts (environment : Environment) (paths : List HostPath) (ignoreSystemFonts : Bool) :
    Part Unit := do
  let system ← if ignoreSystemFonts then pure [] else needed environment.systemFonts
  match FontSearch.search environment.fontReader (← get).host.disk (paths ++ system) [] with
  | .error fault => throw (.escaped fault)
  | .ok fonts =>
      let families := fonts.book.families
      families.forM print
      printError s!"\n{families.length} families"

/-! ## Commands -/

def execute (environment : Environment) (arguments : List String) : Part Unit := do
  match Invocation.read arguments with
  | .error misuse => misused misuse.message
  | .ok ⟨_, .help⟩ => print usage
  | .ok ⟨_, .fonts paths ignoreSystemFonts⟩ => listFonts environment paths ignoreSystemFonts
  | .ok ⟨logDirectory, .document options action⟩ =>
      if isUsable (← get).host.disk options.document then
        let place ← openWorkplace environment logDirectory options action
        act place options action
      else misused (Misuse.unusableDocument options.document).message

/-- What a command leaves behind. -/
structure Result where
  exit : Nat
  /-- The fault that escaped from the command. -/
  fault : Option Fault
  output : String
  errors : String
  /-- What the console showed of the journal. -/
  shown : Journal
  host : Host

def run (environment : Environment) (host : Host) (arguments : List String) : Result :=
  let (verdict, console) := (execute environment arguments).run.run ⟨host, "", "", none⟩
  let (exit, fault) := match verdict with
    | .ok () => (0, none)
    | .error (.exit code) => (code, none)
    | .error (.escaped fault) => (1, some fault)
  let shown := match console.shownFrom with
    | some level => console.host.journal.shownFrom level
    | none => []
  ⟨exit, fault, console.output, console.errors, shown, console.host⟩

end Typeset.CommandLine

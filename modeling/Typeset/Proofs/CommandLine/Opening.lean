import Typeset.CommandLine.Run
import Typeset.Proofs.Session.Calls

/-!
# Opening a workplace

A command that works on a document makes its log, loads its collaborators, creates a session
and gives it the text of the document and the inputs. What it has then is what its options
ask for, and it has printed nothing. If this fails, the command ends with a code that is not
zero or with a fault.
-/

namespace Typeset.CommandLine

section Opening

variable {environment : Environment} {options : DocumentOptions}
  {bindings : List (String × String)} {console : Console} {opened : Session LineMarkup.Page}

/-! ## Parts of a command -/

theorem run_bind {α β : Type} (part : Part α) (next : α → Part β) (console : Console) :
    (part >>= next).run.run console =
      match part.run.run console with
      | (.ok value, between) => (next value).run.run between
      | (.error stop, between) => (.error stop, between) := by
  have split : (part >>= next).run.run console =
      (ExceptT.bindCont next (part.run.run console).1).run (part.run.run console).2 := rfl
  rw [split]
  generalize part.run.run console = done
  rcases done with ⟨answer, between⟩
  cases answer <;> rfl

theorem exists_of_run_bind {α β : Type} {part : Part α} {next : α → Part β}
    {console last : Console} {result : β}
    (ran : (part >>= next).run.run console = (.ok result, last)) :
    ∃ value between, part.run.run console = (.ok value, between) ∧
      (next value).run.run between = (.ok result, last) := by
  rw [run_bind] at ran
  generalize part.run.run console = done at ran ⊢
  rcases done with ⟨answer, between⟩
  cases answer with
  | error stop => cases ran
  | ok value => exact ⟨value, between, rfl, ran⟩

theorem run_perform {α : Type} (session : Session LineMarkup.Page)
    (action : StateM (Session LineMarkup.Page) α) (console : Console) :
    (perform session action).run.run console =
      (.ok (action.run session), { console with host := (action.run session).2.world.host }) :=
  rfl

theorem run_get (console : Console) :
    (get : Part Console).run.run console = (.ok console, console) :=
  rfl

theorem run_needed {α : Type} {value : α} {result : Except Fault α} (ok : result = .ok value)
    (console : Console) : (needed result).run.run console = (.ok value, console) := by
  rw [ok]
  rfl

theorem eq_ok_of_needed {α : Type} {value : α} {result : Except Fault α}
    {console between : Console} (ok : (needed result).run.run console = (.ok value, between)) :
    result = .ok value ∧ console = between := by
  cases result with
  | error fault => cases fault <;> cases ok
  | ok other =>
      cases ok
      exact ⟨rfl, rfl⟩

/-! ## Opening a session -/

/-- The session with the main text and the inputs that a command gives it. -/
def loaded (created : Session LineMarkup.Page) (text : String)
    (bindings : List (String × String)) : Session LineMarkup.Page :=
  let set := ((Session.setMarkup text).run created).2
  if bindings = [] then set else ((Session.setInputs bindings).run set).2

/-- A session is created for the document of a command. -/
def Creates (environment : Environment) (options : DocumentOptions) (host : Host)
    (created : Session LineMarkup.Page) : Prop :=
  ∃ origin, fontOrigin environment options = .ok origin ∧
    Session.create host (options.root.getD (HostPath.parse options.document).parent) origin
      environment.packages environment.clock = .ok created

/-- A new session has a new world, on its machine with some reports. -/
theorem world_of_create {host : Host} {root : HostPath} {origin : Session.FontOrigin}
    {packages : PackageStorage} {clock : Clock} {created : Session LineMarkup.Page}
    (create : Session.create host root origin packages clock = .ok created) :
    ∃ (fonts : Fonts) (records : Journal),
      created.world = .make root fonts packages clock (records.foldl Host.record host) := by
  simp only [Session.create] at create
  cases opened : Session.openFonts host.disk origin with
  | error fault =>
      rw [opened] at create
      cases create
  | ok found =>
      rw [opened] at create
      cases create
      refine ⟨found.1, found.2 ++ [Report.created root found.1.book.families.length], ?_⟩
      rw [List.foldl_append]
      rfl

/-- The document is read from the disk as it is once its session is created. -/
theorem run_openSession {created : Session LineMarkup.Page} {content : Bytes} {text : String}
    (creates : Creates environment options console.host created)
    (read : created.world.host.disk.read (.parse options.document) = .ok content)
    (decoded : documentText content = .ok text) (bindings : List (String × String)) :
    (openSession environment options bindings).run.run console =
      (.ok (loaded created text bindings),
        { console with host := (loaded created text bindings).world.host }) := by
  rcases creates with ⟨origin, found, create⟩
  have kept : ((pure () : StateM (Session LineMarkup.Page) Unit).run created) = ((), created) := rfl
  simp only [openSession, run_bind, run_needed found, run_get, run_needed create, run_perform, kept,
    read, decoded, loaded]
  split
  · rfl
  · simp only [run_bind, run_perform]
    rfl

theorem run_openSession_of_creates {created : Session LineMarkup.Page} {content : Bytes}
    {text : String} (creates : Creates environment options console.host created)
    (read : created.world.host.disk.read (.parse options.document) = .ok content)
    (decoded : documentText content = .ok text) (bindings : List (String × String)) :
    ((openSession environment options bindings).run.run console).1 =
      .ok (loaded created text bindings) :=
  congrArg Prod.fst (run_openSession creates read decoded bindings)

/-- A session that is opened was created and given the text of its document. -/
theorem exists_of_run_openSession {last : Console}
    (ran : (openSession environment options bindings).run.run console = (.ok opened, last)) :
    ∃ created content text, Creates environment options console.host created ∧
      created.world.host.disk.read (.parse options.document) = .ok content ∧
      documentText content = .ok text ∧ opened = loaded created text bindings ∧
      last = { console with host := opened.world.host } := by
  rcases exists_of_run_bind ran with ⟨origin, _, found, gotten⟩
  rcases eq_ok_of_needed found with ⟨isOrigin, rfl⟩
  rcases exists_of_run_bind gotten with ⟨asked, _, got, creating⟩
  cases got
  rcases exists_of_run_bind creating with ⟨created, _, create, keeping⟩
  rcases eq_ok_of_needed create with ⟨isCreated, rfl⟩
  have creates : Creates environment options console.host created := ⟨origin, isOrigin, isCreated⟩
  rcases exists_of_run_bind keeping with ⟨kept, _, performed, reading⟩
  cases performed
  cases read : created.world.host.disk.read (.parse options.document) with
  | error fault =>
      simp only [read] at reading
      cases reading
  | ok content =>
      cases decoded : documentText content with
      | error fault =>
          simp only [read, decoded] at reading
          cases reading
      | ok text =>
          cases ran.symm.trans (run_openSession creates read decoded bindings)
          exact ⟨created, content, text, creates, read, decoded, rfl, rfl⟩

theorem exists_of_openSession
    (ok : ((openSession environment options bindings).run.run console).1 = .ok opened) :
    ∃ created content text, Creates environment options console.host created ∧
      created.world.host.disk.read (.parse options.document) = .ok content ∧
      documentText content = .ok text ∧ opened = loaded created text bindings := by
  rcases exists_of_run_openSession (Prod.ext ok rfl) with
    ⟨created, content, text, creates, read, decoded, same, _⟩
  exact ⟨created, content, text, creates, read, decoded, same⟩

/-! ## Opening a workplace -/

/-- The machine with the log of a command, if the command keeps one. -/
def begun (environment : Environment) (logDirectory : Option HostPath) (action : Action)
    (host : Host) : Host :=
  match logDirectory with
  | none => host
  | some directory =>
      let file := logFile directory action.name environment.timestamp
      { host with disk := host.disk.plant file (.file []) }

theorem exists_of_onDisk {change : Disk → Disk × Option DiskFault} {console last : Console}
    (ran : (onDisk change).run.run console = (.ok (), last)) :
    ∃ disk, change console.host.disk = (disk, none) ∧
      last = { console with host := { console.host with disk := disk } } := by
  simp only [onDisk, run_bind, run_get] at ran
  generalize change console.host.disk = changed at ran ⊢
  rcases changed with ⟨disk, fault⟩
  cases fault with
  | some fault => cases ran
  | none =>
      cases ran
      exact ⟨disk, rfl, rfl⟩

theorem exists_of_writeFile {path : HostPath} {content : Bytes} {console last : Console}
    (ran : (writeFile path content).run.run console = (.ok (), last)) :
    ∃ disk, console.host.disk.write path content = .ok disk ∧
      last = { console with host := { console.host with disk := disk } } := by
  rcases exists_of_onDisk ran with ⟨disk, written, same⟩
  cases writing : console.host.disk.write path content with
  | error fault =>
      rw [writing] at written
      cases written
  | ok made =>
      rw [writing] at written
      cases written
      exact ⟨disk, rfl, same⟩

theorem eq_of_startLogging {logDirectory : Option HostPath} {action : Action} {verbose : Bool}
    {last : Console}
    (ran : (startLogging logDirectory action.name environment.timestamp verbose).run.run console =
      (.ok (), last)) :
    ∃ level, last = { console with
      host := begun environment logDirectory action console.host
      shownFrom := some level } := by
  cases logDirectory with
  | none =>
      cases ran
      exact ⟨_, rfl⟩
  | some directory =>
      simp only [startLogging] at ran
      rcases exists_of_run_bind ran with ⟨_, _, ensured, rest⟩
      rcases exists_of_onDisk ensured with ⟨ready, above, rfl⟩
      rcases exists_of_run_bind rest with ⟨_, _, writing, showing⟩
      rcases exists_of_writeFile writing with ⟨disk, written, rfl⟩
      cases showing
      refine ⟨if verbose then .debug else .warning, ?_⟩
      simp only [begun, Disk.plant, above]
      rw [show ready.write _ [] = _ from written]
      rfl

/-- What a command gets for a role: an empty reference is as good as none. -/
def givenFor (environment : Environment) (role : Role) (reference : Option String) :
    Except Fault NamedObject :=
  role.load environment.registry environment.setting? (reference.filter (· ≠ ""))

theorem eq_of_collaborator {role : Role} {reference : Option String} {last : Console}
    {got : Except Fault NamedObject}
    (ran : (collaborator environment role reference).run.run console = (.ok got, last)) :
    got = givenFor environment role reference ∧ last = console := by
  simp only [collaborator] at ran
  split at ran
  · cases ran
    exact ⟨rfl, rfl⟩
  · cases ran
    exact ⟨rfl, rfl⟩
  · next reference named =>
      rcases exists_of_run_bind ran with ⟨object, _, loading, given⟩
      rcases eq_ok_of_needed loading with ⟨loads, rfl⟩
      cases given
      refine ⟨?_, rfl⟩
      have kept : (some reference).filter (· ≠ "") = some reference := by
        simpa [Option.filter] using named
      rw [givenFor, kept, loads]

/-- The renderer that is used for what was loaded; without one, rendering breaks off. -/
def rendererFrom : Except Fault NamedObject → Renderer LineMarkup.Page
  | .ok object => LineMarkup.rendererOf object
  | .error fault => .unavailable fault

def serializerFrom : Except Fault NamedObject → Serializer LineMarkup.Page
  | .ok object => LineMarkup.serializerOf object
  | .error fault => .unavailable fault

/-- A workplace is what the options of a command ask for, on a machine. -/
structure IsPlaceOf (environment : Environment) (options : DocumentOptions) (action : Action)
    (bindings : List (String × String)) (host : Host) (place : Workplace) : Prop where
  session : ∃ created content text, Creates environment options host created ∧
    created.world.host.disk.read (.parse options.document) = .ok content ∧
    documentText content = .ok text ∧ place.session = loaded created text bindings
  compiler : ∃ object,
    Role.compiler.load environment.registry environment.setting? options.compiler = .ok object ∧
    place.compiler = LineMarkup.compilerOf object
  renderer : place.renderer = rendererFrom (givenFor environment .renderer action.renderer?)
  serializer :
    place.serializer = serializerFrom (givenFor environment .serializer action.serializer?)

/-- Opening a workplace makes the log and reads the document, and prints nothing. -/
theorem exists_of_run_openWorkplace {logDirectory : Option HostPath} {action : Action}
    {place : Workplace} {last : Console}
    (ran : (openWorkplace environment logDirectory options action).run.run console =
      (.ok place, last)) :
    ∃ bindings level, readBindings options.inputs = .ok bindings ∧
      IsPlaceOf environment options action bindings
        (begun environment logDirectory action console.host) place ∧
      last = { console with host := place.session.world.host, shownFrom := some level } := by
  rcases exists_of_run_bind ran with ⟨_, logged, started, reading⟩
  rcases eq_of_startLogging started with ⟨level, rfl⟩
  cases bound : readBindings options.inputs with
  | error text =>
      rw [bound] at reading
      cases reading
  | ok bindings =>
      rw [bound] at reading
      rcases exists_of_run_bind reading with ⟨compiler, _, loading, rendering⟩
      rcases eq_ok_of_needed loading with ⟨isCompiler, rfl⟩
      rcases exists_of_run_bind rendering with ⟨renderer, _, getting, serializing⟩
      rcases eq_of_collaborator getting with ⟨rfl, rfl⟩
      rcases exists_of_run_bind serializing with ⟨serializer, _, gotten, opening⟩
      rcases eq_of_collaborator gotten with ⟨rfl, rfl⟩
      rcases exists_of_run_bind opening with ⟨opened, _, opens, placed⟩
      rcases exists_of_run_openSession opens with
        ⟨created, content, text, creates, read, decoded, same, rfl⟩
      cases placed
      exact ⟨bindings, level, rfl,
        ⟨⟨created, content, text, creates, read, decoded, same⟩, ⟨compiler, isCompiler, rfl⟩, rfl,
          rfl⟩, rfl⟩

/--
Without a log, a workplace is opened when its collaborators are loaded and the document is read.
-/
theorem run_openWorkplace_of_creates (action : Action) {compiler : NamedObject}
    {renderer serializer : Except Fault NamedObject} {created : Session LineMarkup.Page}
    {content : Bytes} {text : String} (bound : readBindings options.inputs = .ok bindings)
    (compiles : Role.compiler.load environment.registry environment.setting? options.compiler =
      .ok compiler)
    (renders : ∀ console, (collaborator environment .renderer action.renderer?).run.run console =
      (.ok renderer, console))
    (serializes : ∀ console,
      (collaborator environment .serializer action.serializer?).run.run console =
        (.ok serializer, console))
    (creates : Creates environment options console.host created)
    (read : created.world.host.disk.read (.parse options.document) = .ok content)
    (decoded : documentText content = .ok text) :
    ((openWorkplace environment none options action).run.run console).1 = .ok {
      session := loaded created text bindings
      compiler := LineMarkup.compilerOf compiler
      renderer := rendererFrom renderer
      serializer := serializerFrom serializer } := by
  let logged := { console with
    shownFrom := some (if options.verbose then .debug else .warning) }
  have started : (startLogging none action.name environment.timestamp options.verbose).run.run
      console = (.ok (), logged) := rfl
  have opens := @run_openSession environment options logged created content text creates read
    decoded bindings
  simp only [openWorkplace, run_bind, started, bound, run_needed compiles, renders, serializes,
    opens]
  rfl

/-- A command that opens its workplace has opened a session for its document. -/
theorem exists_of_openWorkplace {logDirectory : Option HostPath} {action : Action}
    {place : Workplace}
    (ok : ((openWorkplace environment logDirectory options action).run.run console).1 =
      .ok place) :
    ∃ bindings before,
      ((openSession environment options bindings).run.run before).1 = .ok place.session := by
  rcases exists_of_run_openWorkplace (Prod.ext ok rfl) with ⟨bindings, level, _, isPlace, _⟩
  rcases isPlace.session with ⟨created, content, text, creates, read, decoded, same⟩
  let before := { console with host := begun environment logDirectory action console.host }
  refine ⟨bindings, before, ?_⟩
  rw [same]
  exact @run_openSession_of_creates environment options before created content text creates read
    decoded bindings

end Opening

/-! ## Failing to open one -/

/-- What ends a command early does not end it with zero. -/
def FailsLoudly {α : Type} (part : Part α) : Prop :=
  ∀ console, (part.run.run console).1 ≠ .error (.exit 0)

namespace FailsLoudly

variable {α β : Type}

theorem of_ok {part : Part α} (ok : ∀ console, ∃ value, (part.run.run console).1 = .ok value) :
    FailsLoudly part := by
  intro console stopped
  rcases ok console with ⟨value, same⟩
  cases same.symm.trans stopped

theorem bind {part : Part α} {next : α → Part β} (first : FailsLoudly part)
    (onward : ∀ value, FailsLoudly (next value)) : FailsLoudly (part >>= next) := by
  intro console stopped
  rw [run_bind] at stopped
  have loud := first console
  generalize part.run.run console = done at stopped loud
  rcases done with ⟨stop | value, between⟩
  · exact loud (congrArg Except.error (Except.error.inj stopped))
  · exact onward value between stopped

theorem pure (value : α) : FailsLoudly (Pure.pure value : Part α) :=
  .of_ok fun _ => ⟨value, rfl⟩

theorem escaped (fault : Fault) : FailsLoudly (throw (.escaped fault) : Part α) := by
  rintro console ⟨⟩

theorem misused (message : String) : FailsLoudly (misused message : Part α) := by
  rintro console ⟨⟩

theorem needed (result : Except Fault α) : FailsLoudly (needed result) := by
  rintro console stopped
  rcases result with fault | value
  · cases fault <;> cases stopped
  · cases stopped

theorem onDisk (change : Disk → Disk × Option DiskFault) : FailsLoudly (onDisk change) := by
  intro console stopped
  simp only [CommandLine.onDisk, run_bind, run_get] at stopped
  generalize change console.host.disk = changed at stopped
  rcases changed with ⟨disk, fault⟩
  cases fault <;> cases stopped

theorem startLogging (directory : Option HostPath) (command timestamp : String) (verbose : Bool) :
    FailsLoudly (startLogging directory command timestamp verbose) := by
  cases directory with
  | none => exact .of_ok fun _ => ⟨(), rfl⟩
  | some directory =>
      exact (onDisk _).bind fun _ => (onDisk _).bind fun _ => .of_ok fun _ => ⟨(), rfl⟩

theorem collaborator (environment : Environment) (role : Role) (reference : Option String) :
    FailsLoudly (collaborator environment role reference) := by
  simp only [CommandLine.collaborator]
  split
  · exact .pure _
  · exact .pure _
  · exact (needed _).bind fun _ => .pure _

theorem openSession (environment : Environment) (options : DocumentOptions)
    (bindings : List (String × String)) :
    FailsLoudly (openSession environment options bindings) := by
  refine (needed _).bind fun origin => ?_
  refine FailsLoudly.bind (.of_ok fun console => ⟨console, rfl⟩) fun console => ?_
  refine (needed _).bind fun session => ?_
  refine FailsLoudly.bind (.of_ok fun console => ⟨_, rfl⟩) fun done => ?_
  rcases done with ⟨_, session⟩
  dsimp only
  split
  · exact .escaped _
  · split
    · exact .escaped _
    · refine FailsLoudly.bind (.of_ok fun console => ⟨_, rfl⟩) fun done => ?_
      split
      · exact .pure _
      · exact FailsLoudly.bind (.of_ok fun console => ⟨_, rfl⟩) fun done => .pure _

theorem openWorkplace (environment : Environment) (logDirectory : Option HostPath)
    (options : DocumentOptions) (action : Action) :
    FailsLoudly (openWorkplace environment logDirectory options action) := by
  refine (startLogging _ _ _ _).bind fun _ => ?_
  split
  · exact .misused _
  · exact (needed _).bind fun _ => (collaborator _ _ _).bind fun _ =>
      (collaborator _ _ _).bind fun _ => (openSession _ _ _).bind fun _ => .pure _

end FailsLoudly

end Typeset.CommandLine

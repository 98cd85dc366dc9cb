import Typeset.Proofs.LineMarkup.Plain
import Typeset.Proofs.Session.Positions
import Typeset.Proofs.Session.States

/-!
# Compiling forgets the past

A session keeps a lot from one call to the next: cells that remember answers, sources
that are edited in place, sources of virtual files. No call makes any of it wrong, and
a compile starts a period in which nothing is current. So what a compile gives depends
on what is there by now, and not on how it came to be there.
-/

namespace Typeset

namespace World

/-- Where a world lies, which no call of a session changes. -/
structure SameHome (before after : World) : Prop where
  root : after.root = before.root
  packages : after.packages = before.packages
  clock : after.clock.SetAlike before.clock

theorem SameHome.trans {first second third : World} (early : first.SameHome second)
    (late : second.SameHome third) : first.SameHome third :=
  ⟨late.root.trans early.root, late.packages.trans early.packages, late.clock.trans early.clock⟩

theorem Keeps.sameHome {before after : World} (keeps : before.Keeps after) :
    before.SameHome after :=
  ⟨keeps.root, keeps.packages, keeps.clock⟩

/-- What a session was told, and what lies on disk, is the same in two worlds. -/
structure SameContent (left right : World) : Prop where
  markup : left.markup = right.markup
  inputs : ∀ key, left.library.input? key = right.library.input? key
  files : ∀ path, left.overlay.find? path = right.overlay.find? path
  disk : ∀ place, left.host.disk.entry? place = right.host.disk.entry? place

end World

namespace Session

variable {π ν : Type}

def hashedBy (session : Session π) : Call π ν → List (Except FileError Bytes)
  | .compile compiler => (consult compiler .paged toldOfPages).loads (session.started .paged)
  | .exportHtml compiler serializer =>
      (consult compiler .html (toldOfHtml serializer)).loads (session.started .html)
  | _ => []

/-- The readings whose fingerprints are taken in some calls, newest first. -/
def hashed (world : World) : List (Call π ν) → List (Except FileError Bytes)
  | [] => []
  | latest :: past => (after world past).hashedBy latest ++ hashed world past

theorem started_eq (target : Target) (session : Session π) :
    ∃ records, session.started target =
      { session.world with
        cache := session.world.cache.reset
        clock := session.world.clock.reset }.report records :=
  ⟨[_, _], rfl⟩

section Soundness

variable {session : Session π} {readings : List (Except FileError Bytes)}

theorem sound_started (sound : session.world.Sound readings) (target : Target) :
    (session.started target).Sound readings ∧ (session.started target).Current ∧
      session.world.SameHome (session.started target) := by
  rcases started_eq target session with ⟨records, same⟩
  simp only [same]
  exact ⟨sound.nextPeriod _ _, sound.current_nextPeriod _ _, rfl, rfl, ⟨rfl, rfl⟩⟩

theorem sound_consult (sound : session.world.Sound readings) (compiler : Compiler π ν)
    (target : Target) (told : CompileOutput π → List SourceDiagnostic) :
    ((consult compiler target told).run.run (session.started target)).2.Sound
        ((consult compiler target told).loads (session.started target) ++ readings) ∧
      session.world.SameHome
        ((consult compiler target told).run.run (session.started target)).2 := by
  rcases sound_started sound target with ⟨started, _, home⟩
  rcases Reading.sound_run started (consult compiler target told) with ⟨after, keeps⟩
  exact ⟨after, home.trans keeps.sameHome⟩

theorem world_concludePages (world : World)
    (answer : ν × Except Fault (CompileOutput π × List Diagnostic)) :
    ∃ records, (concludePages world answer).2.world = world.report records := by
  rcases answer with ⟨notes, verdict⟩
  cases verdict with
  | error fault => exact ⟨[], rfl⟩
  | ok answered =>
      rcases answered with ⟨⟨made, errors, warnings⟩, diagnostics⟩
      cases made <;> exact ⟨_, rfl⟩

/-- No call makes what a session keeps wrong, or moves it elsewhere. -/
theorem sound_call (sound : session.world.Sound readings) (call : Call π ν) :
    (session.call call).world.Sound (session.hashedBy call ++ readings) ∧
      session.world.SameHome (session.call call).world := by
  cases call with
  | setMarkup markup => exact ⟨sound.setMarkup markup, rfl, rfl, ⟨rfl, rfl⟩⟩
  | setVirtualFile path content =>
      exact ⟨sound.elsewhere _ _ _ _ _, rfl, rfl, ⟨rfl, rfl⟩⟩
  | appendVirtualFile path content =>
      exact ⟨sound.elsewhere _ _ _ _ _, rfl, rfl, ⟨rfl, rfl⟩⟩
  | clearVirtualFile path =>
      have dropped := sound.dropVirtualSource (.project path)
      exact ⟨dropped.elsewhere _ _ _ _ _, rfl, rfl, ⟨rfl, rfl⟩⟩
  | streamVirtualFile path values name context batchSize =>
      by_cases refused : batchSize < 1
      · simp only [Session.call, run_streamVirtualFile_of_refused path values name context refused]
        exact ⟨sound, rfl, rfl, ⟨rfl, rfl⟩⟩
      · rcases run_streamVirtualFile path values name context (Int.not_lt.mp refused) session with
          ⟨overlay, records, streamed⟩
        simp only [Session.call, streamed]
        exact ⟨sound.elsewhere _ _ _ _ _, rfl, rfl, ⟨rfl, rfl⟩⟩
  | setInput key value =>
      rcases run_setInput key value session with ⟨records, set⟩
      simp only [Session.call, set]
      exact ⟨sound.elsewhere _ _ _ _ _, rfl, rfl, ⟨rfl, rfl⟩⟩
  | setInputs bindings =>
      rcases run_setInputs bindings session with ⟨records, set⟩
      simp only [Session.call, set]
      exact ⟨sound.elsewhere _ _ _ _ _, rfl, rfl, ⟨rfl, rfl⟩⟩
  | compile compiler =>
      rcases sound_consult sound compiler .paged toldOfPages with ⟨after, home⟩
      rcases world_concludePages (session.consulted compiler).2 (session.consulted compiler).1 with
        ⟨records, concluded⟩
      simp only [Session.call, run_compile, concluded]
      exact ⟨after.elsewhere _ _ _ _ _, home.root, home.packages, home.clock⟩
  | renderPage renderer page =>
      rcases run_renderPage renderer page session with ⟨records, rendered⟩
      simp only [Session.call, rendered]
      exact ⟨sound.elsewhere _ _ _ _ _, rfl, rfl, ⟨rfl, rfl⟩⟩
  | exportPdf serializer options keywords =>
      rcases run_exportPdfWith serializer options keywords session with ⟨records, exported⟩
      simp only [Session.call, exported]
      exact ⟨sound.elsewhere _ _ _ _ _, rfl, rfl, ⟨rfl, rfl⟩⟩
  | exportHtml compiler serializer =>
      rcases run_exportHtml compiler serializer session with ⟨records, exported⟩
      rcases sound_consult sound compiler .html (toldOfHtml serializer) with ⟨after, home⟩
      simp only [Session.call, exported]
      exact ⟨after.elsewhere _ _ _ _ _, home.root, home.packages, home.clock⟩
  | meanwhile change =>
      exact ⟨sound.elsewhere _ _ _ _ _, rfl, rfl, ⟨rfl, rfl⟩⟩

theorem sound_after {world : World} (sound : world.Sound []) (calls : List (Call π ν)) :
    (after world calls).world.Sound (hashed world calls) ∧
      world.SameHome (after world calls).world := by
  induction calls with
  | nil => exact ⟨sound, rfl, rfl, ⟨rfl, rfl⟩⟩
  | cons latest past ih =>
      rcases ih with ⟨before, home⟩
      rcases sound_call before latest with ⟨kept, stays⟩
      exact ⟨kept, home.trans stays⟩

end Soundness

/-! ## Consulting -/

theorem plain_consult {compiler : Compiler π ν} {target : Target}
    (plain : (compiler target).Plain fun result => ∃ fault, result.2 = .error fault)
    (told : CompileOutput π → List SourceDiagnostic) :
    (consult compiler target told).Plain fun result => ∃ fault, result.2 = .error fault := by
  apply plain.andThen
  · rintro ⟨notes, verdict⟩ ⟨fault, rfl⟩
    exact ⟨(notes, .error fault), rfl, fault, rfl⟩
  · rintro ⟨notes, verdict⟩
    cases verdict with
    | error fault => trivial
    | ok output =>
        apply (SourceDiagnostic.plain_locateAll (told output)).andThen
        · rintro _ ⟨fault, rfl⟩
          exact ⟨(notes, .error fault), rfl, fault, rfl⟩
        · intro answer
          cases answer <;> trivial

theorem plain_markup_compiler (target : Target) :
    (LineMarkup.compiler target).Plain fun result => ∃ fault, result.2 = .error fault := by
  apply LineMarkup.plain_compileMain.andThen
  · rintro _ ⟨fault, rfl⟩
    exact ⟨((), .error fault), rfl, fault, rfl⟩
  · intro result
    trivial

/-- What a compile gives, and the document that it leaves, is settled by the answers alone. -/
theorem concludePages_congr (left right : World)
    (answer : ν × Except Fault (CompileOutput π × List Diagnostic)) :
    (concludePages left answer).1 = (concludePages right answer).1 ∧
      (concludePages left answer).2.document = (concludePages right answer).2.document := by
  rcases answer with ⟨notes, verdict⟩
  cases verdict with
  | error fault => exact ⟨rfl, rfl⟩
  | ok answered =>
      rcases answered with ⟨⟨made, errors, warnings⟩, diagnostics⟩
      cases made <;> exact ⟨rfl, rfl⟩

/-! ## Two sessions -/

/-- The registry gives no answer while a session compiles. -/
def CompilesLocally (session : Session π) (compiler : Compiler π ν) : Prop :=
  (session.call (.compile compiler)).world.host.responses = session.world.host.responses

/-- Where two sessions both lie, the instant that their clocks show, and what local time is. -/
structure Setting where
  root : HostPath
  installed : HostPath
  cache : HostPath
  instant : Instant
  zone : LocalZone

/-- What became of a session: what it was made with, and its calls, newest first. -/
structure Past (π ν : Type) where
  fonts : Fonts
  registry : String
  inTurn : Bool
  host : Host
  calls : List (Call π ν)

namespace Setting

def world (setting : Setting) (past : Past π ν) : World :=
  .make setting.root past.fonts ⟨setting.installed, setting.cache, past.registry, past.inTurn⟩
    (.ofFixed setting.zone setting.instant) past.host

def session (setting : Setting) (past : Past π ν) : Session π :=
  after (setting.world past) past.calls

/-- The readings whose fingerprints are taken in the calls of a session and one more compile. -/
def hashed (setting : Setting) (past : Past π ν) (compiler : Compiler π ν) :
    List (Except FileError Bytes) :=
  Session.hashed (setting.world past) (.compile compiler :: past.calls)

variable {setting : Setting} {past : Past π ν} {compiler : Compiler π ν}

theorem home (setting : Setting) (past : Past π ν) :
    (setting.world past).SameHome (setting.session past).world :=
  (sound_after (.make [] _ _ _ _ _) past.calls).2

theorem ready (locally : (setting.session past).CompilesLocally compiler)
    (free : CollisionFree (setting.hashed past compiler)) :
    Reading.Ready (consult compiler .paged toldOfPages)
      (Session.hashed (setting.world past) past.calls)
      ((setting.session past).started .paged) := by
  have sound : (setting.session past).world.Sound
      (Session.hashed (setting.world past) past.calls) :=
    (sound_after (.make [] _ _ _ _ _) past.calls).1
  rcases sound_started sound .paged with ⟨started, current, home⟩
  refine ⟨started, current, free, ?_, ?_⟩
  · rcases started_eq .paged (setting.session past) with ⟨records, begun⟩
    have before : ((setting.session past).started .paged).host.responses =
        (setting.session past).world.host.responses := by
      simp only [begun, World.responses_report]
    rcases world_concludePages ((setting.session past).consulted compiler).2
        ((setting.session past).consulted compiler).1 with ⟨later, concluded⟩
    simp only [CompilesLocally, call, run_compile, concluded, World.responses_report] at locally
    exact locally.trans before.symm
  · simp only [home.clock.fixed, (setting.home past).clock.fixed]
    exact ⟨_, rfl⟩

theorem agrees_started {left right : Past π ν}
    (same : (setting.session left).world.SameContent (setting.session right).world)
    (target : Target) :
    ((setting.session left).started target).Agrees ((setting.session right).started target) := by
  rcases started_eq target (setting.session left) with ⟨leftRecords, leftBegun⟩
  rcases started_eq target (setting.session right) with ⟨rightRecords, rightBegun⟩
  have leftHome := setting.home left
  have rightHome := setting.home right
  simp only [leftBegun, rightBegun]
  refine ⟨?_, same.markup, same.inputs, same.files, ?_, ?_, ?_, ?_⟩
  · exact leftHome.root.trans rightHome.root.symm
  · exact congrArg PackageStorage.installed leftHome.packages |>.trans
      (congrArg PackageStorage.installed rightHome.packages).symm
  · exact congrArg PackageStorage.cache leftHome.packages |>.trans
      (congrArg PackageStorage.cache rightHome.packages).symm
  · simp only [World.disk_report]
    exact same.disk
  · have alike := leftHome.clock.trans rightHome.clock.symm
    exact ⟨alike.fixed, alike.zone⟩

end Setting

/--
Two sessions in one place that were told the same, by whatever calls, and find the same
on disk, compile the markup alike: with the same number of pages and the same warnings,
or with the same failure, and afterwards every page is rendered alike.
-/
theorem compile_eq_of_sameContent (setting : Setting) (left right : Past LineMarkup.Page Unit)
    (same : (setting.session left).world.SameContent (setting.session right).world)
    (leftLocally : (setting.session left).CompilesLocally LineMarkup.compiler)
    (rightLocally : (setting.session right).CompilesLocally LineMarkup.compiler)
    (leftFree : CollisionFree (setting.hashed left LineMarkup.compiler))
    (rightFree : CollisionFree (setting.hashed right LineMarkup.compiler)) :
    ((compile LineMarkup.compiler).run (setting.session left)).1 =
        ((compile LineMarkup.compiler).run (setting.session right)).1 ∧
      ∀ renderer page,
        ((renderPage renderer page).run.run
            ((setting.session left).call (.compile LineMarkup.compiler))).1 =
          ((renderPage renderer page).run.run
            ((setting.session right).call (.compile LineMarkup.compiler))).1 := by
  have answered : ((setting.session left).consulted LineMarkup.compiler).1 =
      ((setting.session right).consulted LineMarkup.compiler).1 :=
    (plain_consult (plain_markup_compiler .paged) toldOfPages).runsAlike _ _ _ _
      (Setting.agrees_started same .paged) (Setting.ready leftLocally leftFree)
      (Setting.ready rightLocally rightFree)
  have alike := concludePages_congr ((setting.session left).consulted LineMarkup.compiler).2
    ((setting.session right).consulted LineMarkup.compiler).2
    ((setting.session left).consulted LineMarkup.compiler).1
  simp only [run_compile]
  refine ⟨alike.1.trans (congrArg (fun answer => (concludePages _ answer).1) answered), ?_⟩
  intro renderer page
  rw [renderPage_eq_rendered, renderPage_eq_rendered, call, call, run_compile, run_compile,
    alike.2, answered]

/-! ## An edited file -/

def Setting.sample : Setting where
  root := .parse "/project"
  installed := .parse "/packages"
  cache := .parse "/cache"
  instant := ⟨⟨⟨2024, 1, 1⟩, ⟨0, 0, 0, 0⟩⟩, some 0⟩
  zone := .universal

def Past.onEmptyDisk (calls : List (Call π ν)) : Past π ν :=
  ⟨.empty, "", false, ⟨.empty, [], [], []⟩, calls⟩

/-- The file is missing from a first compile, wrong in a second one, and then edited. -/
def Past.edited : Past LineMarkup.Page Unit :=
  .onEmptyDisk
    [.setVirtualFile "a.typ" (Text.Utf8.encode "#let x = 2".toList),
      .compile LineMarkup.compiler,
      .setVirtualFile "a.typ" (Text.Utf8.encode "#let x = 1".toList),
      .compile LineMarkup.compiler,
      .setMarkup "#import \"a.typ\": x\nvalue: #x"]

/-- The file is right from the start. -/
def Past.straight : Past LineMarkup.Page Unit :=
  .onEmptyDisk
    [.setMarkup "#import \"a.typ\": x\nvalue: #x",
      .setVirtualFile "a.typ" (Text.Utf8.encode "#let x = 2".toList)]

theorem sameContent_edited_straight :
    (Setting.sample.session .edited).world.SameContent
      (Setting.sample.session .straight).world := by
  have inputs : (Setting.sample.session .edited).world.inputs =
      (Setting.sample.session .straight).world.inputs := by
    decide +kernel
  have files : (Setting.sample.session .edited).world.overlay.files =
      (Setting.sample.session .straight).world.overlay.files := by
    decide +kernel
  have left : (Setting.sample.session .edited).world.host.disk.entries = [] :=
    List.isEmpty_iff.mp (by decide +kernel)
  have right : (Setting.sample.session .straight).world.host.disk.entries = [] :=
    List.isEmpty_iff.mp (by decide +kernel)
  refine ⟨by decide +kernel, ?_, ?_, ?_⟩
  · intro key
    simp only [World.library, inputs]
  · intro path
    simp only [Overlay.find?, files]
  · intro place
    simp only [Disk.entry?, left, right]

theorem compilesLocally_of_isEmpty {past : Past π ν} {compiler : Compiler π ν}
    (before : (Setting.sample.session past).world.host.responses.isEmpty)
    (after : ((Setting.sample.session past).call
      (.compile compiler)).world.host.responses.isEmpty) :
    (Setting.sample.session past).CompilesLocally compiler := by
  simp only [CompilesLocally, List.isEmpty_iff.mp before, List.isEmpty_iff.mp after]

/-- The last edit is what is compiled, as if the file had never been anything else. -/
theorem compile_eq_of_edited_file :
    (Setting.sample.session .edited).world.SameContent
        (Setting.sample.session .straight).world ∧
      ((compile LineMarkup.compiler).run (Setting.sample.session .edited)).1 =
        ((compile LineMarkup.compiler).run (Setting.sample.session .straight)).1 :=
  ⟨sameContent_edited_straight,
    (compile_eq_of_sameContent Setting.sample .edited .straight sameContent_edited_straight
      (compilesLocally_of_isEmpty (by decide +kernel) (by decide +kernel))
      (compilesLocally_of_isEmpty (by decide +kernel) (by decide +kernel))
      (by decide +kernel) (by decide +kernel)).1⟩

end Session

end Typeset

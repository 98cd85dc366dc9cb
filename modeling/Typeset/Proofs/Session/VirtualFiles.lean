import Typeset.Proofs.Reading.Amid
import Typeset.Proofs.Session.History

/-!
# Virtual files of a session

A session changes virtual files only through its world, which forgets the source of a
file together with the file. So the sources that the world keeps are at all times those
of files that are still there, whatever the session is called for.
-/

namespace Typeset

namespace World

/-- Both ways of reading a file look into the cache, which reads from disk. -/
def AsksCache (world : World) (id : FileId) : Prop :=
  (source id).run world = (cachedSource id).run (world.dropVirtualSource id) ∧
    (file id).run world = (cachedFile id).run world

/-- Both ways of reading a file give a content: its bytes, and its text if it has one. -/
def Answers (world : World) (id : FileId) (content : Bytes) : Prop :=
  ((file id).run world).1 = .value content ∧
    match Text.Utf8.decodeSource? content with
    | some text => ∃ source, ((World.source id).run world).1 = .value source ∧
        source.WellFormed ∧ source.id = id ∧ source.text = String.ofList text
    | none => ∃ error, ((World.source id).run world).1 = .failed error ∧
        error.kind = .invalidUtf8

end World

namespace Session

open World Overlay

variable {π ν : Type} {session : Session π}

/-! ## Calls -/

theorem shadowing_appendBatches (shadowing : session.world.Shadowing) (path : String)
    (size : Nat) (batch : List String) (withRest : Bool) (lines : List String) :
    ((appendBatches path size batch withRest lines).run session).2.world.Shadowing := by
  induction lines generalizing batch session with
  | nil =>
      simp only [appendBatches]
      split
      · exact @Shadowing.change _ (.append path _) shadowing rfl
      · exact shadowing
  | cons line lines ih =>
      simp only [appendBatches]
      split
      · have appended : ((appendVirtualFile path (Text.Utf8.encode
            (String.join (batch ++ [line])).toList)).run session).2.world.Shadowing :=
          @Shadowing.change _ (.append path _) shadowing rfl
        exact ih appended []
      · exact ih shadowing _

theorem shadowing_streamVirtualFile (shadowing : session.world.Shadowing) (path : String)
    (values : List Value) (name : String) (context : EncodingContext) (batchSize : Int) :
    ((streamVirtualFile path values name context batchSize).run.run
      session).2.world.Shadowing := by
  by_cases refused : batchSize < 1
  · rw [run_streamVirtualFile_of_refused path values name context refused]
    exact shadowing
  · rw [streamVirtualFile, if_neg refused]
    generalize Value.encodeLines context values = encoded
    rcases encoded with ⟨lines, fault⟩
    have opened : ((setVirtualFile path (Text.Utf8.encode
        (streamHeader name).toList)).run session).2.world.Shadowing :=
      @Shadowing.change _ (.set path _) shadowing rfl
    have filled := shadowing_appendBatches opened path batchSize.toNat [] fault.isNone lines
    cases fault with
    | some fault =>
        simp only [run_bind, run_perform]
        exact filled
    | none =>
        simp only [run_bind, run_perform, run_record]
        exact @Shadowing.change _ (.append path _) filled rfl

theorem shadowing_consult (shadowing : session.world.Shadowing) (compiler : Compiler π ν)
    (target : Target) (told : CompileOutput π → List SourceDiagnostic) :
    ((consult compiler target told).run.run (session.started target)).2.Shadowing := by
  rcases Reading.RunsAmid.of_run (consult compiler target told) (session.started target) with
    ⟨answered, run⟩
  have started : (session.started target).Shadowing := shadowing
  exact run.shadowing started

/-- No call leaves the source of a virtual file that is gone. -/
theorem shadowing_call (shadowing : session.world.Shadowing) (call : Call π ν) :
    (session.call call).world.Shadowing := by
  cases call with
  | setMarkup markup => exact shadowing
  | setVirtualFile path content => exact @Shadowing.change _ (.set path content) shadowing rfl
  | appendVirtualFile path content =>
      exact @Shadowing.change _ (.append path content) shadowing rfl
  | clearVirtualFile path => exact shadowing.clearVirtualFile path
  | streamVirtualFile path values name context batchSize =>
      exact shadowing_streamVirtualFile shadowing path values name context batchSize
  | setInput key value =>
      rcases run_setInput key value session with ⟨records, set⟩
      simp only [call, set]
      exact shadowing
  | setInputs bindings =>
      rcases run_setInputs bindings session with ⟨records, set⟩
      simp only [call, set]
      exact shadowing
  | compile compiler =>
      rcases world_concludePages (session.consulted compiler).2 (session.consulted compiler).1 with
        ⟨records, concluded⟩
      simp only [call, run_compile, concluded]
      exact shadowing_consult shadowing compiler .paged toldOfPages
  | renderPage renderer page =>
      rcases run_renderPage renderer page session with ⟨records, rendered⟩
      simp only [call, rendered]
      exact shadowing
  | exportPdf serializer options keywords =>
      rcases run_exportPdfWith serializer options keywords session with ⟨records, exported⟩
      simp only [call, exported]
      exact shadowing
  | exportHtml compiler serializer =>
      rcases run_exportHtml compiler serializer session with ⟨records, exported⟩
      simp only [call, exported]
      exact shadowing_consult shadowing compiler .html (toldOfHtml serializer)
  | meanwhile change => exact shadowing

theorem shadowing_after {world : World} (shadowing : world.Shadowing) (calls : List (Call π ν)) :
    (after world calls).world.Shadowing := by
  induction calls with
  | nil => exact shadowing
  | cons latest past ih => exact shadowing_call ih latest

/-! ## Precedence -/

/--
After any acts on a new world, a project file that was set or appended to since it was
last cleared is answered with the content set last and all that was appended since; any
other file but the main text is asked of the cache. The main text is the one set last,
and a path written in it finds the virtual file that was set at that path. Sources are
kept of virtual files only, unless a file is cleared in the overlay behind the back of
the world, which no call of a session does.
-/
theorem reads_of_history (root : HostPath) (fonts : Fonts) (packages : PackageStorage)
    (clock : Clock) (host : Host) :
    (∀ acts : List Act,
      let world := (World.make root fonts packages clock host).afterActs acts
      let changes := acts.filterMap Act.change?
      let markup := (acts.findSome? Act.markup?).getD ""
      (∀ path, if recent path changes = [] then world.AsksCache ⟨.project, path⟩
        else world.Answers ⟨.project, path⟩ (written (recent path changes))) ∧
      (∀ id : FileId, id.origin ≠ .project → id ≠ .main → world.AsksCache id) ∧
      (∃ source, ((World.source .main).run world).1 = .value source ∧ source.WellFormed ∧
        source.text = markup) ∧
      ((file .main).run world).1 = .value (Text.Utf8.encode markup.toList) ∧
      (∀ spelling content,
        (world.act (.changeOverlay (.set spelling content))).Answers
          (FileId.main.join spelling) content) ∧
      ((∀ act ∈ acts, ¬act.ClearsBehind) → world.Shadowing)) ∧
    ∀ calls : List (Call π ν),
      (after (World.make root fonts packages clock host) calls).world.Shadowing := by
  have fresh : (World.make root fonts packages clock host).Shadowing := by
    intro id entry member
    cases member
  refine ⟨?_, shadowing_after fresh⟩
  intro acts world changes markup
  rcases afterActs_told root fonts packages clock host acts with ⟨overlay, main, readings, sound⟩
  have answers {world : World} {readings : List (Except FileError Bytes)}
      (sound : world.Sound readings) {id : FileId} {content : Bytes}
      (shadowed : world.overlay.lookup id = some content) : world.Answers id content :=
    ⟨file_of_shadowed shadowed, source_of_shadowed sound shadowed⟩
  have told (path : VirtualPath) : world.overlay.lookup ⟨.project, path⟩ = told? path changes := by
    rw [lookup_project, ← find?_after path changes]
    exact congrArg (·.find? path) overlay
  rcases main_of_sound sound with ⟨source, file⟩
  rw [main] at source file
  refine ⟨?_, ?_, source, file, ?_, fresh.afterActs⟩
  · intro path
    have here := told path
    split
    · next nothing =>
        rw [told?, nothing] at here
        exact asks_cache_of_unshadowed (project_ne_main path) here
    · next something =>
        rcases List.exists_cons_of_ne_nil something with ⟨latest, past, recently⟩
        rw [told?_of_recent_eq_cons recently, ← recently] at here
        exact answers sound here
  · intro id elsewhere other
    exact asks_cache_of_unshadowed other (lookup_of_ne_project elsewhere _)
  · intro spelling content
    rcases act_moves sound (.changeOverlay (.set spelling content)) with ⟨_, _, more, kept⟩
    apply answers kept
    rw [join_main]
    exact (find?_set _ _ _ _).trans (if_pos rfl)

end Session

end Typeset

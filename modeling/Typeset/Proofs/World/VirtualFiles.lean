import Typeset.Proofs.Overlay
import Typeset.Proofs.World.AtHand

/-!
# Virtual files of a world

Both ways of reading a file, as a source and as bytes, look first for a virtual file.
Whatever was set, cleared, edited and read before, a project file is answered with the
content that the history of the overlay tells of, and when it tells of none the cache
is asked. Files of packages and texts in memory are never shadowed, and the main text
is that which was set last.
-/

namespace Typeset.World

open FileCache Overlay

variable {world : World} {readings : List (Except FileError Bytes)}

/-- What is done to a world, and what happens to the machine in between. -/
inductive Act where
  | changeOverlay (change : Change)
  | clearVirtualFile (path : String)
  | setMarkup (markup : String)
  | reset
  | source (id : FileId)
  | file (id : FileId)
  | meanwhile (change : Host → Host)

namespace Act

def change? : Act → Option Change
  | changeOverlay change => some change
  | clearVirtualFile path => some (.clear path)
  | _ => none

def markup? : Act → Option String
  | setMarkup markup => some markup
  | _ => none

/-- The overlay is told to forget a file, and the world is not. -/
def ClearsBehind : Act → Prop
  | changeOverlay change => change.clears = true
  | _ => False

end Act

def act (world : World) : Act → World
  | .changeOverlay change => { world with overlay := world.overlay.change change }
  | .clearVirtualFile path => ((clearVirtualFile path).run world).2
  | .setMarkup markup => ((setMarkup markup).run world).2
  | .reset => (reset.run world).2
  | .source id => ((source id).run world).2
  | .file id => ((file id).run world).2
  | .meanwhile change => { world with host := change world.host }

/-- The world after some acts, the newest first. -/
def afterActs (world : World) : List Act → World
  | [] => world
  | latest :: past => (world.afterActs past).act latest

/-! ## What acts leave behind -/

theorem act_ask (sound : world.Sound readings) (key : Key) :
    ((ask key).run world).2.overlay = world.overlay ∧
      ((ask key).run world).2.markup = world.markup ∧
      ∃ more, ((ask key).run world).2.Sound more := by
  refine ⟨(leaves_ask key world).overlay, ?_, _, sound_ask sound key⟩
  rcases ask_moves sound key with ⟨sources, cache, host, moves, _⟩
  rw [moves]

theorem act_moves (sound : world.Sound readings) (act : Act) :
    (world.act act).overlay = act.change?.elim world.overlay world.overlay.change ∧
      (world.act act).markup = act.markup?.getD world.markup ∧
      ∃ more, (world.act act).Sound more := by
  cases act with
  | changeOverlay change => exact ⟨rfl, rfl, _, sound.elsewhere _ _ _ _ _⟩
  | clearVirtualFile path =>
      exact ⟨rfl, rfl, _, (sound.dropVirtualSource (.project path)).elsewhere _ _ _ _ _⟩
  | setMarkup markup => exact ⟨rfl, rfl, _, sound.setMarkup markup⟩
  | reset => exact ⟨rfl, rfl, _, sound.nextPeriod _ _⟩
  | source id => exact act_ask sound ⟨id, .source⟩
  | file id => exact act_ask sound ⟨id, .bytes⟩
  | meanwhile change => exact ⟨rfl, rfl, _, sound.elsewhere _ _ _ _ _⟩

/-- A world holds the virtual files that its history tells of, and the last main text. -/
theorem afterActs_told (root : HostPath) (fonts : Fonts) (packages : PackageStorage)
    (clock : Clock) (host : Host) (acts : List Act) :
    let world := (World.make root fonts packages clock host).afterActs acts
    world.overlay = after (acts.filterMap Act.change?) ∧
      world.markup = (acts.findSome? Act.markup?).getD "" ∧
      ∃ readings, world.Sound readings := by
  induction acts with
  | nil => exact ⟨rfl, rfl, [], .make [] _ _ _ _ _⟩
  | cons latest past ih =>
      rcases ih with ⟨overlay, markup, readings, sound⟩
      rcases act_moves sound latest with ⟨changed, edited, more, kept⟩
      refine ⟨changed.trans ?_, edited.trans ?_, more, kept⟩
      · rw [overlay, List.filterMap_cons]
        cases latest.change? <;> rfl
      · rw [markup, List.findSome?_cons]
        cases latest.markup? <;> rfl

/-! ## Reading -/

theorem lookup_project (overlay : Overlay) (path : VirtualPath) :
    overlay.lookup ⟨.project, path⟩ = overlay.find? path := rfl

theorem lookup_of_ne_project {id : FileId} (elsewhere : id.origin ≠ .project)
    (overlay : Overlay) : overlay.lookup id = none := by
  rw [lookup]
  split
  · next isProject => exact absurd isProject elsewhere
  · rfl

theorem ne_main_of_lookup {overlay : Overlay} {id : FileId} {content : Bytes}
    (shadowed : overlay.lookup id = some content) : id ≠ .main := by
  rintro rfl
  cases shadowed

theorem project_ne_main (path : VirtualPath) : (⟨.project, path⟩ : FileId) ≠ .main := by
  intro same
  cases congrArg FileId.origin same

/-- A path that is written in the main text names the project file of that spelling. -/
theorem join_main (spelling : String) : FileId.main.join spelling = .project spelling := by
  have top : FileId.main.path.parent = VirtualPath.root := by decide +kernel
  simp only [FileId.join, FileId.project, top, VirtualPath.parse, ite_self]
  rfl

theorem file_of_shadowed {id : FileId} {content : Bytes}
    (shadowed : world.overlay.lookup id = some content) :
    ((file id).run world).1 = .value content := by
  rw [run_file, if_neg (ne_main_of_lookup shadowed), shadowed]

theorem answer_source (id : FileId) (content : Bytes) :
    Key.answer ⟨id, .source⟩ (.ok content) =
      match Text.Utf8.decodeSource? content with
      | some text => .ok (.ofText id (String.ofList text))
      | none => .error (FileSlot.invalidText (some id)) := by
  simp only [Key.answer, Bind.bind, Except.bind, FileSlot.readText]
  cases Text.Utf8.decodeSource? content <;> rfl

/--
The source of a virtual file has the text of its content, and only bytes that are no
text make it fail.
-/
theorem source_of_shadowed (sound : world.Sound readings) {id : FileId} {content : Bytes}
    (shadowed : world.overlay.lookup id = some content) :
    match Text.Utf8.decodeSource? content with
    | some text => ∃ source, ((World.source id).run world).1 = .value source ∧
        source.WellFormed ∧ source.id = id ∧ source.text = String.ofList text
    | none => ∃ error, ((World.source id).run world).1 = .failed error ∧
        error.kind = .invalidUtf8 := by
  rw [run_source, if_neg (ne_main_of_lookup shadowed), shadowed]
  rcases virtualSource_answers sound id content with ⟨answer, sources, run, answers, _⟩
  simp only [run]
  rw [Key.Answers, answer_source] at answers
  cases decoded : Text.Utf8.decodeSource? content with
  | some text =>
      rw [decoded] at answers
      cases answer with
      | error error => cases answers
      | ok source =>
          rcases Source.WellFormed.of_pristine_eq (Outcome.value.inj answers) with
            ⟨wellFormed, ids, texts⟩
          exact ⟨source, rfl, wellFormed, ids, texts⟩
  | none =>
      rw [decoded] at answers
      cases answer with
      | ok source => cases answers
      | error error =>
          have same := congrArg FileError.kind (Outcome.failed.inj answers)
          exact ⟨error, rfl, same⟩

/-- The cache is asked for a file that nothing shadows. -/
theorem asks_cache_of_unshadowed {id : FileId} (other : id ≠ .main)
    (unshadowed : world.overlay.lookup id = none) :
    (source id).run world = (cachedSource id).run (world.dropVirtualSource id) ∧
      (file id).run world = (cachedFile id).run world := by
  rw [run_source, run_file, if_neg other, if_neg other, unshadowed]
  exact ⟨rfl, rfl⟩

theorem main_of_sound (sound : world.Sound readings) :
    (∃ source, ((World.source .main).run world).1 = .value source ∧ source.WellFormed ∧
      source.text = world.markup) ∧
    ((file .main).run world).1 = .value (Text.Utf8.encode world.markup.toList) := by
  rw [run_source, run_file, if_pos rfl, if_pos rfl]
  rcases Source.WellFormed.of_pristine_eq sound.main with ⟨wellFormed, _, texts⟩
  exact ⟨⟨world.mainSource, rfl, wellFormed, texts⟩, rfl⟩

/-! ## Sources of virtual files -/

/-- Every source that is kept of a virtual file is the source of a file that is there. -/
def Shadowing (world : World) : Prop :=
  ∀ id entry, (id, entry) ∈ world.virtualSources → (world.overlay.lookup id).isSome

namespace Shadowing

theorem change {latest : Change} (shadowing : world.Shadowing) (keeps : latest.clears = false) :
    Shadowing { world with overlay := world.overlay.change latest } := by
  rintro ⟨origin, path⟩ entry member
  have present := shadowing _ entry member
  cases origin with
  | project => exact isSome_find?_change present keeps
  | package spec => cases present
  | memory => cases present

theorem clearVirtualFile (shadowing : world.Shadowing) (path : String) :
    ((World.clearVirtualFile path).run world).2.Shadowing := by
  rintro ⟨origin, other⟩ entry member
  rcases List.mem_filter.mp member with ⟨kept, different⟩
  have present := shadowing _ entry kept
  cases origin with
  | project =>
      have apart : (Change.clear path).path ≠ other := by
        rintro rfl
        exact absurd rfl (of_decide_eq_true different)
      have same := find?_change_of_ne apart world.overlay
      exact (congrArg Option.isSome same).trans present
  | package spec => cases present
  | memory => cases present

theorem dropVirtualSource (shadowing : world.Shadowing) (id : FileId) :
    (world.dropVirtualSource id).Shadowing := by
  intro other entry member
  exact shadowing other entry (List.mem_filter.mp member).1

theorem keeping (shadowing : world.Shadowing) {id : FileId}
    (shadowed : (world.overlay.lookup id).isSome) (content : Bytes) (source : Source) :
    (world.keeping id content source).Shadowing := by
  intro other entry member
  cases member with
  | head => exact shadowed
  | tail _ member => exact shadowing.dropVirtualSource id other entry member

theorem virtualSource (shadowing : world.Shadowing) {id : FileId} {content : Bytes}
    (shadowed : world.overlay.lookup id = some content) :
    ((World.virtualSource id content).run world).2.Shadowing := by
  by_cases same : ∃ source, world.virtualSource? id = some (content, source)
  · rcases same with ⟨source, known⟩
    rw [run_virtualSource_of_same known]
    exact shadowing
  · have changed (source : Source) : world.virtualSource? id ≠ some (content, source) :=
      fun known => same ⟨source, known⟩
    rw [run_virtualSource_of_changed changed]
    split
    · exact shadowing.keeping (Option.isSome_of_eq_some shadowed) _ _
    · exact shadowing

theorem cached (shadowing : world.Shadowing) (key : Key) :
    ((World.cached key).run world).2.Shadowing := by
  rcases cached_leaves key world with ⟨cell, host, moves⟩
  rw [moves]
  exact shadowing

/-- A question keeps no source of a file that is not virtual. -/
theorem ask (shadowing : world.Shadowing) (key : Key) :
    ((World.ask key).run world).2.Shadowing := by
  rcases key with ⟨id, kind⟩
  cases kind with
  | source =>
      rw [World.ask, run_source]
      split
      · exact shadowing
      · cases shadowed : world.overlay.lookup id with
        | some content => exact shadowing.virtualSource shadowed
        | none => exact (shadowing.dropVirtualSource id).cached ⟨id, .source⟩
  | bytes =>
      rw [World.ask, run_file]
      split
      · exact shadowing
      · cases world.overlay.lookup id with
        | some content => exact shadowing
        | none => exact shadowing.cached ⟨id, .bytes⟩

theorem act (shadowing : world.Shadowing) {latest : Act} (plain : ¬latest.ClearsBehind) :
    (world.act latest).Shadowing := by
  cases latest with
  | changeOverlay change => exact shadowing.change (Bool.eq_false_iff.mpr plain)
  | clearVirtualFile path => exact shadowing.clearVirtualFile path
  | setMarkup markup => exact shadowing
  | reset => exact shadowing
  | source id => exact shadowing.ask ⟨id, .source⟩
  | file id => exact shadowing.ask ⟨id, .bytes⟩
  | meanwhile change => exact shadowing

theorem afterActs (shadowing : world.Shadowing) {acts : List Act}
    (plain : ∀ act ∈ acts, ¬act.ClearsBehind) : (world.afterActs acts).Shadowing := by
  induction acts with
  | nil => exact shadowing
  | cons latest past ih =>
      have earlier := ih fun act member => plain act (List.mem_cons_of_mem _ member)
      exact earlier.act (plain latest List.mem_cons_self)

end Shadowing

end Typeset.World

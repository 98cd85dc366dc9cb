import Typeset.Proofs.Package.Machine
import Typeset.Proofs.Session.History

/-!
# What a session leaves of its machine

Whatever a compiler asks, the world prepares packages and writes into the journal, and does
nothing else to the machine. So does every call that compiles, renders or exports.
-/

namespace Typeset

open FileCache

namespace World

variable {first second last : World}

/-- A world has done nothing to its machine but prepare packages. -/
structure OnlyPrepares (first last : World) : Prop where
  packages : last.packages = first.packages
  machine : first.packages.OnlyPrepares first.host last.host

namespace OnlyPrepares

theorem of_same (packages : last.packages = first.packages) (host : last.host = first.host) :
    first.OnlyPrepares last :=
  ⟨packages, host ▸ .refl _⟩

theorem of_records (packages : last.packages = first.packages) {records : Journal}
    (host : last.host = records.foldl Host.record first.host) : first.OnlyPrepares last :=
  ⟨packages, host ▸ .records records first.host⟩

theorem trans (early : first.OnlyPrepares second) (late : second.OnlyPrepares last) :
    first.OnlyPrepares last :=
  ⟨late.packages.trans early.packages, .trans early.machine (early.packages ▸ late.machine)⟩

end OnlyPrepares

theorem onlyPrepares_report (world : World) (records : Journal) :
    world.OnlyPrepares (world.report records) :=
  .of_records rfl rfl

theorem onlyPrepares_read (id : FileId) (world : World) :
    world.OnlyPrepares ((read id).run world).2 := by
  rcases id with ⟨origin, path⟩
  cases origin with
  | package spec => exact ⟨rfl, .call world.host spec⟩
  | project => exact .of_same rfl rfl
  | memory => exact .of_same rfl rfl

theorem onlyPrepares_cached (key : Key) (world : World) :
    world.OnlyPrepares ((cached key).run world).2 := by
  rcases run_cached key world with ⟨records, run⟩
  rw [run]
  cases remembered : (world.cache.cell key).remembered? world.cache.generation with
  | some answer =>
      simp only [Cell.access_of_remembered remembered]
      exact .of_records rfl rfl
  | none =>
      simp only [Cell.access_of_not_remembered remembered]
      exact (onlyPrepares_read key.id world).trans (.of_records rfl rfl)

theorem onlyPrepares_virtualSource (id : FileId) (content : Bytes) (world : World) :
    world.OnlyPrepares ((virtualSource id content).run world).2 := by
  by_cases same : ∃ source, world.virtualSource? id = some (content, source)
  · rcases same with ⟨source, known⟩
    rw [run_virtualSource_of_same known]
    exact .of_same rfl rfl
  · rw [run_virtualSource_of_changed fun source known => same ⟨source, known⟩]
    split <;> exact .of_same rfl rfl

theorem onlyPrepares_ask (key : Key) (world : World) :
    world.OnlyPrepares ((ask key).run world).2 := by
  rcases key with ⟨id, kind⟩
  cases kind with
  | source =>
      simp only [ask, run_source]
      split
      · exact .of_same rfl rfl
      · cases world.overlay.lookup id with
        | some content => exact onlyPrepares_virtualSource id content world
        | none =>
            have forgets : world.OnlyPrepares (world.dropVirtualSource id) := .of_same rfl rfl
            exact forgets.trans (onlyPrepares_cached ⟨id, .source⟩ _)
  | bytes =>
      simp only [ask, run_file]
      split
      · exact .of_same rfl rfl
      · cases world.overlay.lookup id with
        | some content => exact .of_same rfl rfl
        | none => exact onlyPrepares_cached ⟨id, .bytes⟩ world

end World

/-- Whatever is asked, nothing is done to the machine but packages are prepared. -/
theorem Reading.onlyPrepares_run {α : Type} (reading : Reading α) (world : World) :
    world.OnlyPrepares (reading.run.run world).2 := by
  induction reading generalizing world with
  | done => exact .of_same rfl rfl
  | library next ih => exact ih world.library world
  | book next ih => exact ih world.book world
  | font index next ih =>
      have moved : world.OnlyPrepares ((World.font index).run world).2 := by
        rcases font_moves index world with ⟨fonts, records, moves⟩
        rw [moves]
        exact .of_records rfl rfl
      exact moved.trans (ih _ _)
  | today request next ih =>
      have moved : world.OnlyPrepares ((World.today request).run world).2 := by
        rcases today_moves request world with ⟨clock, moves, _⟩
        rw [moves]
        exact .of_same rfl rfl
      exact moved.trans (ih _ _)
  | source id next ih => exact (World.onlyPrepares_ask ⟨id, .source⟩ world).trans (ih _ _)
  | file id next ih => exact (World.onlyPrepares_ask ⟨id, .bytes⟩ world).trans (ih _ _)

namespace Session

variable {π ν : Type}

theorem onlyPrepares_setMarkup (markup : String) (session : Session π) :
    session.world.OnlyPrepares ((setMarkup markup).run session).2.world :=
  ⟨rfl, .reports _ _⟩

theorem onlyPrepares_setInputs (bindings : List (String × String)) (session : Session π) :
    session.world.OnlyPrepares ((setInputs bindings).run session).2.world := by
  have sets : session.world.OnlyPrepares ((World.setInputs bindings).run session.world).2 :=
    ⟨rfl, .reports _ _⟩
  rcases run_setInputs bindings session with ⟨records, run⟩
  rw [run]
  exact sets.trans (World.onlyPrepares_report _ records)

theorem onlyPrepares_started (target : Target) (session : Session π) :
    session.world.OnlyPrepares (session.started target) := by
  rcases started_eq target session with ⟨records, started⟩
  rw [started]
  exact .of_records rfl rfl

theorem onlyPrepares_compile (compiler : Compiler π ν) (session : Session π) :
    session.world.OnlyPrepares ((compile compiler).run session).2.world := by
  have asked := (onlyPrepares_started .paged session).trans
    ((consult compiler .paged toldOfPages).onlyPrepares_run (session.started .paged))
  rw [run_compile, consulted]
  generalize (consult compiler .paged toldOfPages).run.run (session.started .paged) = answered
    at asked
  rcases answered with ⟨⟨notes, verdict⟩, world⟩
  cases verdict with
  | error fault => exact asked
  | ok answer =>
      rcases answer with ⟨⟨document, errors, warnings⟩, diagnostics⟩
      cases document with
      | none => exact asked.trans (World.onlyPrepares_report world _)
      | some document => exact asked.trans (World.onlyPrepares_report world _)

theorem onlyPrepares_exportHtml (compiler : Compiler π ν) (serializer : Serializer π)
    (session : Session π) :
    session.world.OnlyPrepares ((exportHtml compiler serializer).run session).2.world := by
  rcases run_exportHtml compiler serializer session with ⟨records, run⟩
  rw [run]
  exact ((onlyPrepares_started .html session).trans
    (Reading.onlyPrepares_run _ _)).trans (World.onlyPrepares_report _ _)

theorem onlyPrepares_renderPage (renderer : Renderer π) (page : Int) (session : Session π) :
    session.world.OnlyPrepares ((renderPage renderer page).run.run session).2.world := by
  rcases run_renderPage renderer page session with ⟨records, run⟩
  rw [run]
  exact World.onlyPrepares_report _ _

theorem onlyPrepares_exportPdf (serializer : Serializer π) (options : PdfOptions)
    (session : Session π) :
    session.world.OnlyPrepares ((exportPdf serializer options).run.run session).2.world := by
  rcases run_exportPdf serializer options session with ⟨records, run⟩
  rw [run]
  exact World.onlyPrepares_report _ _

end Session

end Typeset

import Typeset.Proofs.CommandLine.Opening
import Typeset.Proofs.Text.Utf8

/-!
# The text of a document

A command reads its document past the world and sets it as the main text, with line
feeds for all its line breaks. The world reads the same file in the same way when it is
imported, line breaks aside, but it leaves out a leading byte-order mark. The command
keeps it, so the two texts agree exactly when there is none.
-/

namespace Typeset.CommandLine

open Text Text.Utf8

/-! ## Byte-order marks -/

/-- The character whose form is the byte-order mark. -/
def markCharacter : Char :=
  '\uFEFF'

theorem encode_markCharacter (chars : List Char) :
    encode (markCharacter :: chars) = byteOrderMark ++ encode chars :=
  rfl

/-- Bytes without a byte-order mark are decoded as they are, and others behind the mark. -/
theorem decodeSource?_cases (content : Bytes) :
    (¬byteOrderMark <+: content ∧ decodeSource? content = decode? content) ∨
      ∃ rest, content = byteOrderMark ++ rest ∧ decodeSource? content = decode? rest := by
  by_cases marked : byteOrderMark <+: content
  · rcases marked with ⟨rest, rfl⟩
    exact .inr ⟨rest, rfl, rfl⟩
  · refine .inl ⟨marked, ?_⟩
    simp only [decodeSource?]
    split
    · next rest => exact absurd ⟨rest, rfl⟩ marked
    · rfl

/-- The main text that a document file gives, when a byte-order mark in front of it stays. -/
def keptText (content : Bytes) (chars : List Char) : List Char :=
  if byteOrderMark <+: content then markCharacter :: unifyBreaks chars else unifyBreaks chars

theorem documentText_of_decodeSource? {content : Bytes} {chars : List Char}
    (decoded : decodeSource? content = some chars) :
    documentText content = .ok (String.ofList (keptText content chars)) := by
  rcases decodeSource?_cases content with ⟨unmarked, same⟩ | ⟨rest, rfl, same⟩
  · rw [same] at decoded
    simp only [documentText, decoded, keptText, if_neg unmarked]
  · rw [same, decode?_eq_some_iff] at decoded
    have kept : decode? (byteOrderMark ++ rest) = some (markCharacter :: chars) := by
      rw [decode?_eq_some_iff, decoded, encode_markCharacter]
    simp only [documentText, kept, keptText, if_pos (List.prefix_append _ rest)]
    rfl

theorem keptText_eq_iff (content : Bytes) (chars : List Char) :
    keptText content chars = unifyBreaks chars ↔ ¬byteOrderMark <+: content := by
  simp only [keptText]
  split
  · next marked =>
      simp only [marked, not_true_eq_false, iff_false]
      exact List.cons_ne_self _ _
  · next unmarked => simp only [unmarked, not_false_eq_true]

/-! ## The text of an opened session -/

/--
A session has the text of a document file: with line feeds for its line breaks it is what
an import of the file gives, exactly if no byte-order mark stands in front, which stays.
-/
def HasText (session : Session LineMarkup.Page) (content : Bytes) : Prop :=
  ∀ chars, decodeSource? content = some chars →
    session.world.mainSource.text = String.ofList (keptText content chars) ∧
    (session.world.mainSource.text = String.ofList (unifyBreaks chars) ↔
      ¬byteOrderMark <+: content) ∧
    ∀ id, id ≠ .main → ((World.read id).run session.world).1 = .value content →
      ∃ source, ((World.source id).run session.world).1 = .value source ∧
        source.text = String.ofList chars

/-- Nothing but the main text and the inputs of a world was set, and no file was asked for. -/
structure Fresh (world : World) : Prop where
  overlay : world.overlay = .empty
  slots : world.cache.slots = []

theorem source_of_fresh {world : World} (fresh : Fresh world) {id : FileId} (other : id ≠ .main)
    {content : Bytes} {chars : List Char} (decoded : decodeSource? content = some chars)
    (read : ((World.read id).run world).1 = .value content) :
    ((World.source id).run world).1 = .value (.ofText id (String.ofList chars)) := by
  have unshadowed : world.overlay.lookup id = none := by
    rw [fresh.overlay]
    rcases id with ⟨origin, path⟩
    cases origin <;> rfl
  have unread : (world.dropVirtualSource id).cache.cell ⟨id, .source⟩ = .empty := by
    have slots : (world.dropVirtualSource id).cache.slots = [] := fresh.slots
    simp only [FileCache.cell, FileCache.slot, slots]
    rfl
  have forgotten : ((world.dropVirtualSource id).cache.cell ⟨id, .source⟩).remembered?
      world.cache.generation = none :=
    congrArg (Cell.remembered? · _) unread
  have parsed : FileSlot.parse id content none = .value (.ofText id (String.ofList chars)) := by
    simp only [FileSlot.parse, FileSlot.readText, decoded]
  have same : ((World.read id).run (world.dropVirtualSource id)).1 = .value content := by
    rw [← read]
    rcases id with ⟨origin, path⟩
    cases origin <;> rfl
  rcases World.run_cached_of_not_remembered forgotten with ⟨host, run, _⟩
  simp only [World.run_source, if_neg other, unshadowed]
  change ((World.cached ⟨id, .source⟩).run (world.dropVirtualSource id)).1 = _
  rw [run]
  simp only [same, unread, Cell.revalidate]
  rw [Cell.takeIn_of_changed (.inl rfl)]
  exact parsed

theorem disk_of_create {host : Host} {root : HostPath} {origin : Session.FontOrigin}
    {packages : PackageStorage} {clock : Clock} {created : Session LineMarkup.Page}
    (create : Session.create host root origin packages clock = .ok created) :
    created.world.host.disk = host.disk := by
  rcases world_of_create create with ⟨fonts, records, world⟩
  rw [world]
  exact (World.disk_foldl_record records host).1

theorem fresh_of_create {host : Host} {root : HostPath} {origin : Session.FontOrigin}
    {packages : PackageStorage} {clock : Clock} {created : Session LineMarkup.Page}
    (create : Session.create host root origin packages clock = .ok created) :
    Fresh created.world := by
  rcases world_of_create create with ⟨fonts, records, world⟩
  rw [world]
  exact ⟨rfl, rfl⟩

/-- A session gets its main text and its inputs, and everything else stays. -/
theorem world_loaded (created : Session LineMarkup.Page) (text : String)
    (bindings : List (String × String)) :
    ∃ inputs host, host.disk = created.world.host.disk ∧
      (loaded created text bindings).world = { created.world with
        markup := text
        mainSource := (created.world.mainSource.replace text).1
        inputs := inputs
        cache := created.world.cache.reset
        clock := created.world.clock.reset
        host := host } := by
  simp only [loaded]
  split
  · exact ⟨created.world.inputs, ((Session.setMarkup text).run created).2.world.host, rfl, rfl⟩
  · rcases Session.run_setInputs bindings ((Session.setMarkup text).run created).2 with
      ⟨records, set⟩
    rw [set]
    refine ⟨_, _, ?_, rfl⟩
    exact World.disk_report ((World.setInputs bindings).run
      ((Session.setMarkup text).run created).2.world).2 records

/-- Whatever is decoded and set as the main text is the text of the document file. -/
theorem hasText_loaded {host : Host} {root : HostPath} {origin : Session.FontOrigin}
    {packages : PackageStorage} {clock : Clock} {created : Session LineMarkup.Page}
    (create : Session.create host root origin packages clock = .ok created) {content : Bytes}
    {text : String} (decoded : documentText content = .ok text)
    (bindings : List (String × String)) : HasText (loaded created text bindings) content := by
  intro chars source
  rcases world_loaded created text bindings with ⟨inputs, host, _, world⟩
  have kept : text = String.ofList (keptText content chars) :=
    Except.ok.inj (decoded.symm.trans (documentText_of_decodeSource? source))
  have main : (loaded created text bindings).world.mainSource.text =
      String.ofList (keptText content chars) := by
    rw [world, ← kept]
    exact Source.text_replace _ text
  have fresh : Fresh (loaded created text bindings).world := by
    have before := fresh_of_create create
    rw [world]
    exact ⟨before.overlay, before.slots⟩
  refine ⟨main, ?_, fun id other read => ⟨_, source_of_fresh fresh other source read, rfl⟩⟩
  rw [main, String.ofList_inj]
  exact keptText_eq_iff content chars

/--
The session of a command has the text of its document: what an import of the file gives,
with line feeds for its line breaks, exactly if the file does not start with a byte-order
mark. A document that an import can decode does not keep a session from being opened.
-/
theorem hasText_of_opened (environment : Environment) (logDirectory : Option HostPath)
    (options : DocumentOptions) (action : Action) (console : Console) :
    (∀ place, ((openWorkplace environment logDirectory options action).run.run console).1 =
      .ok place → ∃ content,
        place.session.world.host.disk.read (.parse options.document) = .ok content ∧
          HasText place.session content) ∧
    ∀ created content chars bindings, Creates environment options console.host created →
      console.host.disk.read (.parse options.document) = .ok content →
      decodeSource? content = some chars →
      ∃ opened, ((openSession environment options bindings).run.run console).1 = .ok opened ∧
        HasText opened content := by
  refine ⟨?_, ?_⟩
  · intro place ok
    rcases exists_of_openWorkplace ok with ⟨bindings, before, opens⟩
    rcases exists_of_openSession opens with
      ⟨created, content, text, ⟨origin, _, create⟩, read, decoded, same⟩
    rcases world_loaded created text bindings with ⟨inputs, host, disk, world⟩
    refine ⟨content, ?_, ?_⟩
    · rw [same, world, disk]
      exact read
    · rw [same]
      exact hasText_loaded create decoded bindings
  · intro created content chars bindings creates read decoded
    rcases creates with ⟨origin, found, create⟩
    have text := documentText_of_decodeSource? decoded
    rw [← disk_of_create create] at read
    exact ⟨_, run_openSession_of_creates ⟨origin, found, create⟩ read text bindings,
      hasText_loaded create text bindings⟩

/-! ## A marked document -/

def markedDocument : Bytes :=
  byteOrderMark ++ encode "#pagebreak()\nx".toList

namespace Sample

/-- A machine without fonts, on which the compiler of the markup can be named. -/
def environment : Environment where
  registry := LineMarkup.registry
  setting? := fun _ => none
  packages := ⟨.parse "/packages", .parse "/cache", PackageStorage.publicRegistry, false⟩
  clock := .ofFixed .universal ⟨⟨⟨2024, 1, 1⟩, ⟨0, 0, 0, 0⟩⟩, some 0⟩
  fontReader := ⟨fun _ => 0, fun _ _ => none, fun _ _ _ => rfl⟩
  systemFonts := .ok []
  timestamp := "20240101_000000"

def options : DocumentOptions :=
  ⟨"b.typ", none, [], true, [], some "toy_engine:ToyCompiler", false⟩

def console : Console :=
  ⟨⟨⟨[(["b.typ"], .file markedDocument)]⟩, [], [], []⟩, "", "", none⟩

/-- The session that is created for the document, before it has its text. -/
def created : Session LineMarkup.Page :=
  let root := (HostPath.parse "b.typ").parent
  let unread : World := .make root .empty environment.packages environment.clock console.host
  (Session.create console.host root (.search environment.fontReader [] none) environment.packages
    environment.clock).toOption.getD ⟨unread, none⟩

theorem creates : Creates environment options console.host created :=
  ⟨.search environment.fontReader [] none, rfl, rfl⟩

theorem read_document : console.host.disk.read (.parse "b.typ") = .ok markedDocument := by
  have components : (HostPath.parse "b.typ").components = ["b.typ"] := by decide +kernel
  have anchor : (HostPath.parse "b.typ").anchor = .relative := by decide +kernel
  have rendered : (HostPath.parse "b.typ").render = "b.typ" := by decide +kernel
  simp [console, Disk.read, Disk.stat, Disk.locate, Disk.follow, components, anchor, rendered]
  rfl

/-- The workplace that is opened for the document. -/
def place : Workplace where
  session := loaded created (String.ofList (keptText markedDocument "#pagebreak()\nx".toList)) []
  compiler := LineMarkup.compiler
  renderer := .unavailable (.invalidValue Role.renderer.missingMessage)
  serializer := .unavailable (.invalidValue Role.serializer.missingMessage)

theorem decoded : decodeSource? markedDocument = some "#pagebreak()\nx".toList := by
  decide +kernel

theorem opens_place :
    ((openWorkplace environment none options .check).run.run console).1 = .ok place := by
  have named : Role.compiler.load environment.registry environment.setting? options.compiler =
      .ok (.instanceOf LineMarkup.compilerName) := rfl
  exact run_openWorkplace_of_creates .check rfl named (fun _ => rfl) (fun _ => rfl) creates
    read_document (documentText_of_decodeSource? decoded)

end Sample

/--
The directive in the first line of a marked document is lost, though an import of the
document would begin with it.
-/
theorem marked_document_loses_directive :
    ∃ place, ((openWorkplace Sample.environment none Sample.options .check).run.run
        Sample.console).1 = .ok place ∧
      decodeSource? markedDocument = some "#pagebreak()\nx".toList ∧
      place.session.world.mainSource.text ≠
        String.ofList (unifyBreaks "#pagebreak()\nx".toList) ∧
      (place.session.call (.compile LineMarkup.compiler)).pageCount? = some 1 ∧
      (((Session.setMarkup "#pagebreak()\nx").run place.session).2.call
        (.compile LineMarkup.compiler)).pageCount? = some 2 := by
  refine ⟨Sample.place, Sample.opens_place, Sample.decoded, ?_, ?_, ?_⟩
  · decide +kernel
  · decide +kernel
  · decide +kernel

end Typeset.CommandLine

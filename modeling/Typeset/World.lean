import Typeset.Clock
import Typeset.FileCache
import Typeset.Font.Search
import Typeset.Overlay
import Typeset.Package

/-!
# The world

Everything that a compiler may ask for: the inputs, the font book and its faces,
the date, and the sources and bytes of files. The main text comes from memory, a
project file from the overlay when it is there, and any other file from the
cache, which reads below the project root or the directory of a package.

A virtual file that is read as a source keeps its source while its content stays
the same, and the source is edited when the content changes.
-/

namespace Typeset

/-- What a document sees of the session that compiles it. -/
structure Library where
  inputs : List (String × String)
  features : List String

def Library.enabledFeatures : List String :=
  ["html"]

def Library.input? (library : Library) (key : String) : Option String :=
  (library.inputs.find? (·.1 == key)).map (·.2)

/-- The provider of everything that a compiler may ask for. -/
structure World where
  root : HostPath
  markup : String
  mainSource : Source
  inputs : List (String × String)
  /-- The sources of virtual files, each with the content that it was made from. -/
  virtualSources : List (FileId × Bytes × Source)
  fonts : Fonts
  cache : FileCache
  overlay : Overlay
  packages : PackageStorage
  clock : Clock
  host : Host

namespace World

/-- A world in which nothing was asked or set yet. -/
def make (root : HostPath) (fonts : Fonts) (packages : PackageStorage) (clock : Clock)
    (host : Host) : World where
  root := root
  markup := ""
  mainSource := .ofText .main ""
  inputs := []
  virtualSources := []
  fonts := fonts
  cache := .empty
  overlay := .empty
  packages := packages
  clock := clock
  host := host

def record (record : LogRecord) : StateM World Unit :=
  modify fun world => { world with host := world.host.record record }

/-! ## What a compiler asks -/

def library (world : World) : Library :=
  ⟨world.inputs, Library.enabledFeatures⟩

def book (world : World) : FontBook :=
  world.fonts.book

def fontFamilies (world : World) : List String :=
  world.book.families

/-- The face at a place of the font book, loaded when it is first asked for. -/
def font (index : Int) : StateM World (Option Font) := do
  let world ← get
  match if 0 ≤ index then world.fonts.slots[index.toNat]? else none with
  | none => return none
  | some slot =>
      let (font, slot, records) := slot.get world.host.disk
      set { world with
        fonts := { world.fonts with slots := world.fonts.slots.set index.toNat slot }
        host := records.foldl Host.record world.host }
      return font

def today (request : DayRequest) : StateM World (Except Fault (Option Date)) := do
  let world ← get
  let (answer, clock) := world.clock.today request
  set { world with clock := clock }
  return answer

/-- The directory that the files of an origin lie below. -/
def rootOf (origin : FileOrigin) : StateM World (Outcome HostPath) := do
  let world ← get
  match origin with
  | .package spec =>
      let (outcome, _, host) := world.packages.prepare spec world.host
      set { world with host := host }
      return outcome
  | _ => return .value world.root

/-- Where a file lies on disk. -/
def systemPath (id : FileId) : StateM World (Outcome HostPath) := do
  let root ← rootOf id.origin
  return root.andThen fun root =>
    match id.resolve root with
    | some path => .value path
    | none => .failed (.ofMessage .accessDenied "failed to load file (access denied)")

def readDisk (disk : Disk) (path : HostPath) : Outcome Bytes :=
  match disk.read path with
  | .ok content => .value content
  | .error fault => fault.toOutcome path

/-- Read a file from disk, past overlay and cache. -/
def read (id : FileId) : StateM World (Outcome Bytes) := do
  let path ← systemPath id
  let world ← get
  return path.andThen (readDisk world.host.disk)

/-- How many characters of a fingerprint are reported. -/
def shownFingerprintLength : Nat := 8

def sourceRecords (id : FileId) (access : FileCache.Access Source) : Journal :=
  match access.event, access.outcome with
  | .unchanged fingerprint, _ =>
      [.world .trace s!"fingerprint unchanged ({fingerprint.take shownFingerprintLength})"]
  | .made (some _), .value _ => [.world .trace s!"reparsing {id.render}"]
  | .made none, .value _ => [.world .trace s!"parsing {id.render}"]
  | _, _ => []

def fileRecords (access : FileCache.Access Bytes) : Journal :=
  match access.event with
  | .unchanged fingerprint =>
      [.world .trace s!"fingerprint unchanged ({fingerprint.take shownFingerprintLength})"]
  | _ => []

def store (cache : FileCache) (records : Journal) : StateM World Unit :=
  modify fun world =>
    { world with cache := cache, host := records.foldl Host.record world.host }

def cachedSource (id : FileId) : StateM World (Outcome Source) := do
  let access ← (← get).cache.source id (read id)
  store access.cache (sourceRecords id access)
  return access.outcome

def cachedFile (id : FileId) : StateM World (Outcome Bytes) := do
  let access ← (← get).cache.file id (read id)
  store access.cache (fileRecords access)
  return access.outcome

/-- The content and source that a virtual file had when it was last read as a source. -/
def virtualSource? (world : World) (id : FileId) : Option (Bytes × Source) :=
  (world.virtualSources.find? (·.1 == id)).map (·.2)

def dropVirtualSource (world : World) (id : FileId) : World :=
  { world with virtualSources := world.virtualSources.filter (·.1 ≠ id) }

def virtualSource (id : FileId) (content : Bytes) : StateM World (Outcome Source) := do
  let world ← get
  let known := world.virtualSource? id
  let keep (source : Source) : StateM World (Outcome Source) := do
    let forgotten := world.dropVirtualSource id
    set { forgotten with virtualSources := (id, content, source) :: forgotten.virtualSources }
    return .value source
  match known with
  | some (oldContent, source) =>
      if oldContent = content then return .value source
      else
        match FileSlot.readText content (some id) with
        | .error error => return .failed error
        | .ok text => keep (source.replace text).1
  | none =>
      match FileSlot.readText content (some id) with
      | .error error => return .failed error
      | .ok text => keep (.ofText id text)

def source (id : FileId) : StateM World (Outcome Source) := do
  let world ← get
  if id = .main then return .value world.mainSource
  match world.overlay.lookup id with
  | some content => virtualSource id content
  | none =>
      set (world.dropVirtualSource id)
      cachedSource id

def file (id : FileId) : StateM World (Outcome Bytes) := do
  let world ← get
  if id = .main then return .value (Text.Utf8.encode world.markup.toList)
  match world.overlay.lookup id with
  | some content => return .value content
  | none => cachedFile id

/-! ## What a session changes -/

/-- Start a new period: every file is read again, and the time is taken again. -/
def reset : StateM World Unit := do
  modify fun world => { world with cache := world.cache.reset, clock := world.clock.reset }
  let cache := (← get).cache
  record (.world .debug s!"Cache generation {cache.generation} ({cache.size} cached files)")

/-- Replace the main text. -/
def setMarkup (markup : String) : StateM World Unit := do
  modify fun world =>
    { world with markup := markup, mainSource := (world.mainSource.replace markup).1 }
  reset

/-- Give a key a value; a key that is known keeps its place. -/
def bind (key value : String) : List (String × String) → List (String × String)
  | [] => [(key, value)]
  | entry :: entries =>
      if entry.1 = key then (key, value) :: entries else entry :: bind key value entries

/-- Put bindings in the place of the inputs. -/
def replaceInputs (inputs : List (String × String)) : StateM World Unit := do
  modify fun world => { world with inputs := inputs }
  record (.world .debug s!"Library rebuilt with {inputs.length} inputs")

def setInput (key value : String) : StateM World Unit := do
  replaceInputs (bind key value (← get).inputs)

/-- Replace all inputs; a later binding of a key wins. -/
def setInputs (bindings : List (String × String)) : StateM World Unit :=
  replaceInputs (bindings.foldl (fun inputs (key, value) => bind key value inputs) [])

def setVirtualFile (path : String) (content : Bytes) : StateM World Unit :=
  modify fun world => { world with overlay := world.overlay.set path content }

/-- Add to the end of a virtual file. -/
def appendVirtualFile (path : String) (content : Bytes) : StateM World Unit :=
  modify fun world => { world with overlay := world.overlay.append path content }

/-- Remove a virtual file and its source. -/
def clearVirtualFile (path : String) : StateM World Unit :=
  modify fun world =>
    let forgotten := world.dropVirtualSource (.project path)
    { forgotten with overlay := forgotten.overlay.clear path }

end World

end Typeset

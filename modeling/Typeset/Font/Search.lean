import Typeset.Disk
import Typeset.Font.Face
import Typeset.Journal
import Typeset.Text.Quoted

/-!
# Searching fonts

The font index of a world: the book and, place by place, what loads each face.
Directories are searched in order, and in each all files below it in the order
of their paths; links to directories are not entered. A file that is reached on
several ways counts at the first. Faces in memory come last. A path that leads to
nothing is passed over, but one that is too long to be looked up breaks off the
search.

A face on disk is loaded once, when it is first asked for, and the answer stays,
also when the file could not be read.
-/

namespace Typeset

inductive FontSlot where
  | onDisk (path : HostPath) (index : Nat) (info : FontInfo) (loaded : Option (Option Font))
  | inMemory (font : Font)

namespace FontSlot

/-- The names of the face that a slot loads. -/
def info : FontSlot → FontInfo
  | onDisk _ _ info _ => info
  | inMemory font => font.info

/-- The place of the face in its font file. -/
def index : FontSlot → Nat
  | onDisk _ index _ _ => index
  | inMemory font => font.index

/-- The path of the font file, when it is on disk. -/
def path? : FontSlot → Option HostPath
  | onDisk path _ _ _ => some path
  | inMemory _ => none

/-- The system's refusal of a path as it is reported. -/
def refusalText (fault : DiskFault) (path : HostPath) : String :=
  s!"[Errno {fault.code}] {fault.description}: {Text.quoted path.render}"

/-- The face of a slot, the slot afterwards, and what is reported. -/
def get (slot : FontSlot) (disk : Disk) : Option Font × FontSlot × Journal :=
  match slot with
  | inMemory font => (some font, slot, [])
  | onDisk _ _ _ (some answer) => (answer, slot, [])
  | onDisk path index info none =>
      match disk.read path with
      | .ok data =>
          let font := some ⟨data, index, info⟩
          (font, onDisk path index info (some font), [])
      | .error fault =>
          let report := s!"Failed to load font {path.render}#{index}: {refusalText fault path}"
          (none, onDisk path index info (some none), [.world .warning report])

end FontSlot

/-- A font index: the book of the faces, and what loads each, in the same order. -/
structure Fonts where
  book : FontBook
  slots : List FontSlot

namespace Fonts

def empty : Fonts :=
  ⟨⟨[]⟩, []⟩

/-- Enter the names of a face in the book, and what loads it behind the other slots. -/
def add (fonts : Fonts) (info : FontInfo) (slot : FontSlot) : Fonts :=
  ⟨⟨fonts.book.faces ++ [info]⟩, fonts.slots ++ [slot]⟩

/-- Enter faces in their order. -/
def addFaces (load : Nat → FontInfo → FontSlot) (fonts : Fonts) (faces : List (Nat × FontInfo)) :
    Fonts :=
  faces.foldl (fun fonts (index, info) => fonts.add info (load index info)) fonts

end Fonts

namespace FontSearch

/-- The extensions of font files, in lower case. -/
def extensions : List String :=
  [".ttf", ".otf", ".ttc", ".otc"]

/-- The extensions of font collections, in lower case. -/
def collectionExtensions : List String :=
  [".ttc", ".otc"]

/-- Whether the first of two lists of names comes first or is equal. -/
def isInOrder (left right : Place × DiskEntry) : Bool :=
  !right.1.lex left.1 fun first second => decide (first < second)

/-- The entries below a directory under the paths that lead there, in the order of the paths. -/
def entriesBelow (disk : Disk) (directory : HostPath) : List (HostPath × DiskEntry) :=
  match disk.locate directory ⟨true, false⟩ with
  | .error _ => []
  | .ok place =>
      (((disk.below place).filter (·.1 ≠ [])).mergeSort isInOrder).map fun entry =>
        (directory.append entry.1, entry.2)

/-- What is found for some items one after another, up to the first that is refused. -/
def gather {α β : Type} (find : α → Except DiskFault (List β)) : List α → Except DiskFault (List β)
  | [] => .ok []
  | item :: items => do
      let found ← find item
      return found ++ (← gather find items)

/-- The path of an entry, which is opened if it is a directory. -/
def openEntry (disk : Disk) (entry : HostPath × DiskEntry) : Except DiskFault (List HostPath) := do
  if entry.2.isDirectory then discard (disk.stat entry.1)
  return [entry.1]

def pathsBelow (disk : Disk) (directory : HostPath) : Except DiskFault (List HostPath) :=
  gather (openEntry disk) (entriesBelow disk directory)

/-- A font file: the path that it was met at, the place where it is, and its content. -/
structure FontFile where
  path : HostPath
  place : Place
  data : Bytes

/-- Whether a font file is asked for one face after another. -/
def FontFile.isCollection (file : FontFile) : Bool :=
  Text.lower file.path.extension ∈ collectionExtensions || FaceReader.isMarkedCollection file.data

/-- Whether a path has the extension of a font file. -/
def isFontName (path : HostPath) : Bool :=
  Text.lower path.extension ∈ extensions

/-- The font file that a path leads to, if its extension is the one of a font file. -/
def fontFile (disk : Disk) (path : HostPath) : Except DiskFault (List FontFile) :=
  if isFontName path then
    match disk.stat path with
    | .ok (place, .file data) => .ok [⟨path, place, data⟩]
    | .ok _ => .ok []
    | .error fault => if fault.meansAbsent then .ok [] else .error fault
  else .ok []

/-- The path, if it leads to a directory. -/
def fontDirectory (disk : Disk) (path : HostPath) : Except DiskFault (List HostPath) := do
  return if ← disk.isDirectory path then [path] else []

/-- The font files below a directory. -/
def filesBelow (disk : Disk) (directory : HostPath) : Except DiskFault (List FontFile) := do
  gather (fontFile disk) (← pathsBelow disk directory)

/-- The font files of a search, each as often as it is met. -/
def filesMet (disk : Disk) (paths : List HostPath) : Except DiskFault (List FontFile) := do
  gather (filesBelow disk) (← gather (fontDirectory disk) paths)

/-- Enter the faces of a font file. -/
def addFile (reader : FaceReader) (fonts : Fonts) (file : FontFile) : Fonts :=
  fonts.addFaces (fun index info => .onDisk file.path index info none)
    (reader.faces file.data file.isCollection)

/-- Enter the faces of a font in memory. -/
def addInMemory (reader : FaceReader) (fonts : Fonts) (data : Bytes) : Fonts :=
  fonts.addFaces (fun index info => .inMemory ⟨data, index, info⟩)
    (reader.faces data (FaceReader.isMarkedCollection data))

/-- Enter the faces of the font files at places that were not met yet. -/
def collect (reader : FaceReader) (met : List Place) (fonts : Fonts) : List FontFile → Fonts
  | [] => fonts
  | file :: files =>
      if file.place ∈ met then collect reader met fonts files
      else collect reader (file.place :: met) (addFile reader fonts file) files

/-- The font index of directories and fonts in memory. -/
def search (reader : FaceReader) (disk : Disk) (paths : List HostPath) (embedded : List Bytes) :
    Except Fault Fonts :=
  match filesMet disk paths with
  | .error fault => .error fault.toFault
  | .ok files =>
      .ok (embedded.foldl (addInMemory reader) (collect reader [] .empty files))

/-- What is reported of a finished search. -/
def report (fonts : Fonts) (withSystemFonts : Bool) : LogRecord :=
  let kind := if withSystemFonts then "system + custom" else "custom only"
  .world .info
    s!"Indexed {fonts.slots.length} fonts in {fonts.book.families.length} families ({kind})"

/-- The kinds of systems, which keep their fonts in different places. -/
inductive Platform where
  | darwin
  | windows
  | other
  deriving DecidableEq

/-- The home directory that a setting names; without a name it is the root. -/
def homeDirectory (setting : String) : HostPath :=
  match Text.dropSlashes setting.toList with
  | [] => .parse "/"
  | chars => .parse (String.ofList chars)

/-- What is said of a home that is named by a sign for the home. -/
def homelessMessage : String :=
  "Could not determine home directory."

/-- The home directory that a setting names, unless that is a sign for the home itself. -/
def findHome (setting : String) : Except Fault HostPath :=
  if setting.toList.head? = some '~' then .error (.breakdown homelessMessage)
  else .ok (homeDirectory setting)

/-- The directories in which a system keeps its fonts, by the settings of its environment. -/
def systemDirectories (platform : Platform) (setting? : String → Option String) :
    Except Fault (List HostPath) :=
  let home := findHome ((setting? "HOME").getD "")
  match platform with
  | .darwin => do
      return [.parse "/Library/Fonts", .parse "/Network/Library/Fonts",
        .parse "/System/Library/Fonts", (← home).append ["Library", "Fonts"]]
  | .windows =>
      let windows := HostPath.parse ((setting? "WINDIR").getD "C:\\Windows")
      let localFonts := match setting? "LOCALAPPDATA" with
        | none | some "" => []
        | some path => [(HostPath.parse path).append ["Microsoft", "Windows", "Fonts"]]
      .ok (windows.append ["Fonts"] :: localFonts)
  | .other => do
      let home ← home
      let data := match setting? "XDG_DATA_HOME" with
        | some path => HostPath.parse path
        | none => home.append [".local", "share"]
      return [.parse "/usr/share/fonts", .parse "/usr/local/share/fonts", data.append ["fonts"],
        home.append [".fonts"]]

end FontSearch

end Typeset

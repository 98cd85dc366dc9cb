import Typeset.Engine
import Typeset.Literal.OfValue
import Typeset.Session.Positions
import Typeset.Session.Reports
import Typeset.SessionError

/-!
# Sessions

A session owns a world and at most one compiled document. Compiling stores the
document, and a failed compile or a change of the main text or of a virtual file
drops it; rendering and PDF export read it and fail while there is none.

Adding to a virtual file and changing inputs keep the document, and so does HTML
export, which compiles on its own.
-/

namespace Typeset

/-- A world and the document that was compiled in it. -/
structure Session (π : Type) where
  world : World
  document : Option (Document π)

/-- Why a step of a session gives no answer. -/
inductive SessionFailure where
  /-- The step failed and reports why. -/
  | reported (error : SessionError)
  /-- The step was broken off. -/
  | broken (fault : Fault)

structure CompileResult where
  pageCount : Nat
  warnings : List Diagnostic

structure PdfOptions where
  pages : Option String
  standards : List StandardRequest
  documentId : Option String

/-- An option of a PDF export that is given by itself. -/
inductive PdfKeyword where
  | documentId (identifier : Option String)
  | pages (selector : Option String)
  | standards (standards : List StandardRequest)

namespace PdfOptions

/-- All pages, no standards, and an identifier of the serializer's choice. -/
def standard : PdfOptions :=
  ⟨none, [], none⟩

/-- The name under which an option is given. -/
def keywordName : PdfKeyword → String
  | .documentId _ => "document_id"
  | .pages _ => "pages"
  | .standards _ => "pdf_standards"

def setKeyword (options : PdfOptions) : PdfKeyword → PdfOptions
  | .documentId identifier => { options with documentId := identifier }
  | .pages selector => { options with pages := selector }
  | .standards standards => { options with standards := standards }

/-- What is said when options are given as a whole and one by one. -/
def conflictMessage (keywords : List PdfKeyword) : String :=
  let names := (keywords.map keywordName).mergeSort fun left right => decide (left ≤ right)
  let shown := ", ".intercalate (names.map Text.quoted)
  s!"export_pdf() takes options or keyword arguments, not both (got [{shown}])"

/-- The options that are meant, given as a whole or one by one, but not both. -/
def combine (options : Option PdfOptions) (keywords : List PdfKeyword) :
    Except Fault PdfOptions :=
  match options, keywords with
  | none, keywords => .ok (keywords.foldl setKeyword standard)
  | some options, [] => .ok options
  | some _, keywords => .error (.invalidKind (conflictMessage keywords))

/-- What a serializer is told, for a document of so many pages. -/
def serializeOptions (options : PdfOptions) (pageCount : Nat) :
    Except SessionError SerializeOptions :=
  match PdfStandard.validate options.standards with
  | .error message => .error (.simple .export message)
  | .ok standards =>
      match options.pages with
      | none => .ok ⟨options.documentId, standards, none⟩
      | some selector =>
          match PageSelector.parse selector pageCount with
          | .error error => .error (.simple .export error.message)
          | .ok ranges => .ok ⟨options.documentId, standards, some ranges⟩

end PdfOptions

namespace Session

variable {π ν : Type}

/-- A step of a session, which can fail. -/
abbrev Step (π α : Type) := ExceptT SessionFailure (StateM (Session π)) α

/-- A part of a step that cannot fail. -/
def perform {α : Type} (action : StateM (Session π) α) : Step π α :=
  ExceptT.lift action

def isCompiled (session : Session π) : Bool :=
  session.document.isSome

/-- The number of pages of the compiled document. -/
def pageCount? (session : Session π) : Option Nat :=
  session.document.map (·.pages.length)

def inWorld {α : Type} (action : StateM World α) : StateM (Session π) α := do
  let session ← get
  let (answer, world) := action.run session.world
  set { session with world := world }
  return answer

def record (records : Journal) : StateM (Session π) Unit :=
  inWorld (records.forM World.record)

def dropDocument : StateM (Session π) Unit :=
  modify fun session => { session with document := none }

/-! ## Changes -/

/-- Replace the main text. -/
def setMarkup (markup : String) : StateM (Session π) Unit := do
  inWorld (World.setMarkup markup)
  dropDocument

def setVirtualFile (path : String) (content : Bytes) : StateM (Session π) Unit := do
  inWorld (World.setVirtualFile path content)
  dropDocument

/-- Add to the end of a virtual file. -/
def appendVirtualFile (path : String) (content : Bytes) : StateM (Session π) Unit :=
  inWorld (World.appendVirtualFile path content)

def clearVirtualFile (path : String) : StateM (Session π) Unit := do
  inWorld (World.clearVirtualFile path)
  dropDocument

/-- Report that the stored document does not show the inputs. -/
def noteStaleInputs : StateM (Session π) Unit := do
  if (← get).isCompiled then record [Report.staleInputs]

def setInput (key value : String) : StateM (Session π) Unit := do
  inWorld (World.setInput key value)
  noteStaleInputs

def setInputs (bindings : List (String × String)) : StateM (Session π) Unit := do
  inWorld (World.setInputs bindings)
  noteStaleInputs

/-- Start a new period of the world. -/
def reset : StateM (Session π) Unit :=
  inWorld World.reset

/-- Append lines to a virtual file, so many at a time and the last ones only when told to. -/
def appendBatches (path : String) (size : Nat) (batch : List String) (withRest : Bool) :
    List String → StateM (Session π) Unit
  | [] =>
      if withRest ∧ batch ≠ [] then
        appendVirtualFile path (Text.Utf8.encode (String.join batch).toList)
      else return ()
  | line :: lines => do
      let batch := batch ++ [line]
      if size ≤ batch.length then
        appendVirtualFile path (Text.Utf8.encode (String.join batch).toList)
        appendBatches path size [] withRest lines
      else appendBatches path size batch withRest lines

/-- The line that opens a streamed file. -/
def streamHeader (name : String) : String :=
  s!"#let {name} = (\n"

/-- The line that closes a streamed file. -/
def streamFooter : String :=
  ")\n"

/--
Write values into a virtual file, one line each, as an array that is bound to a
name. At the first value without a literal the file keeps the batches that were
complete before it.
-/
def streamVirtualFile (path : String) (values : List Value) (name : String)
    (context : EncodingContext) (batchSize : Int) : Step π Unit := do
  if batchSize < 1 then
    throw (.broken (.invalidValue s!"batch_size must be positive, got {batchSize}"))
  perform (setVirtualFile path (Text.Utf8.encode (streamHeader name).toList))
  let (lines, fault) := Value.encodeLines context values
  perform (appendBatches path batchSize.toNat [] fault.isNone lines)
  match fault with
  | some fault => throw (.broken fault)
  | none =>
      perform (appendVirtualFile path (Text.Utf8.encode streamFooter.toList))
      perform (record [Report.streamed values.length path name])

/-! ## Compiling and output -/

/-- What the stopwatch shows after every step that is measured: a quarter of a second. -/
def stopwatch : Number.Binary64 :=
  .finite false (Number.twoTo 52) (-54)

/-- Diagnostics with positions from the world of the session. -/
def located (diagnostics : List SourceDiagnostic) : Step π (List Diagnostic) := do
  match ← perform (inWorld (Reading.run (SourceDiagnostic.locateAll diagnostics).run)) with
  | .ok diagnostics => return diagnostics
  | .error fault => throw (.broken fault)

def startCompile (target : Target) : StateM (Session π) Unit := do
  reset
  let world := (← get).world
  record [Report.compileStart target.name world.root world.cache.generation]

/-- Give the failure of a compile its diagnostics and report it. -/
def failCompile {α : Type} (output : CompileOutput π) : Step π α := do
  let diagnostics ← located (output.errors ++ output.warnings)
  perform (record (Report.compileResult false 0 diagnostics stopwatch false))
  throw (.reported (.ofDiagnostics .compile diagnostics none))

/-- Store the document of a compile, or fail with what the compiler has to say. -/
def finishCompile (verdict : Except Fault (CompileOutput π)) : Step π CompileResult := do
  match verdict with
  | .error fault => throw (.broken fault)
  | .ok output =>
      match output.document with
      | none => failCompile output
      | some document =>
          let warnings ← located output.warnings
          modify fun session => { session with document := some document }
          let pageCount := document.pages.length
          perform (record (Report.compileResult true pageCount warnings stopwatch false))
          return ⟨pageCount, warnings⟩

/-- Compile the main text and store the document; the notes of the compiler come with the answer. -/
def compile (compiler : Compiler π ν) :
    StateM (Session π) (ν × Except SessionFailure CompileResult) := do
  startCompile .paged
  dropDocument
  let (notes, verdict) ← inWorld (compiler .paged).run
  return (notes, ← (finishCompile verdict).run)

/-- What is said when there is no document. -/
def noDocument : String :=
  "No compiled document. Call compile() first."

/-- The compiled document, without which a step fails. -/
def requireDocument : Step π (Document π) := do
  match (← get).document with
  | some document => return document
  | none => throw (.reported (.simple .precondition noDocument))

/-- Render one page of the compiled document; pages are counted from zero. -/
def renderPage (renderer : Renderer π) (page : Int) : Step π String := do
  let document ← requireDocument
  match if 0 ≤ page then document.pages[page.toNat]? else none with
  | none =>
      throw (.reported (.simple .precondition
        s!"Page index {page} out of bounds (document has {document.pages.length} pages)"))
  | some content =>
      match renderer content with
      | .error fault => throw (.broken fault)
      | .ok output =>
          perform (record [Report.exported s!"page {page} as SVG" output.length stopwatch])
          return output

/-- Write the compiled document out as PDF. -/
def exportPdf (serializer : Serializer π) (options : PdfOptions) : Step π Bytes := do
  let document ← requireDocument
  match options.serializeOptions document.pages.length with
  | .error error => throw (.reported error)
  | .ok settings =>
      match serializer.pdf document settings with
      | .ok output =>
          perform (record [Report.exported "PDF" output.length stopwatch])
          return output
      | .error (.broken fault) => throw (.broken fault)
      | .error (.refused reasons) =>
          match SourceDiagnostic.detachAll reasons with
          | .error fault => throw (.broken fault)
          | .ok diagnostics =>
              throw (.reported (.ofDiagnostics .export diagnostics "PDF export failed"))

/-- Write out what an HTML compile gave, or fail with what the compiler has to say. -/
def finishHtml (serializer : Serializer π) (verdict : Except Fault (CompileOutput π)) :
    Step π String := do
  match verdict with
  | .error fault => throw (.broken fault)
  | .ok output =>
      match output.document with
      | none => failCompile output
      | some document =>
          match serializer.html document with
          | .ok html =>
              perform (record [Report.exported "HTML" html.utf8ByteSize stopwatch])
              return html
          | .error (.broken fault) => throw (.broken fault)
          | .error (.refused reasons) =>
              let diagnostics ← located reasons
              throw (.reported (.ofDiagnostics .compile diagnostics "HTML export failed"))

/-- Compile the main text as HTML and write it out; the compiled document stays. -/
def exportHtml (compiler : Compiler π ν) (serializer : Serializer π) :
    StateM (Session π) (ν × Except SessionFailure String) := do
  startCompile .html
  let (notes, verdict) ← inWorld (compiler .html).run
  return (notes, ← (finishHtml serializer verdict).run)

/-! ## Creation -/

/-- Where the fonts of a session come from. -/
inductive FontOrigin where
  | given (fonts : Fonts)
  /-- Directories to search, and those of the system when they are to be searched too. -/
  | search (reader : FaceReader) (paths : List HostPath) (system : Option (List HostPath))

/-- The fonts of a session and what is reported of finding them. -/
def openFonts (disk : Disk) : FontOrigin → Except Fault (Fonts × Journal)
  | .given fonts => .ok (fonts, [])
  | .search reader paths system => do
      let fonts ← FontSearch.search reader disk (paths ++ system.getD []) []
      return (fonts, [FontSearch.report fonts system.isSome])

def create (host : Host) (root : HostPath) (origin : FontOrigin) (packages : PackageStorage)
    (clock : Clock) : Except Fault (Session π) := do
  let (fonts, records) ← openFonts host.disk origin
  let host := records.foldl Host.record host
  let world := World.make root fonts packages clock host
  let familyCount := world.fontFamilies.length
  return ⟨{ world with host := host.record (Report.created root familyCount) }, none⟩

end Session

end Typeset

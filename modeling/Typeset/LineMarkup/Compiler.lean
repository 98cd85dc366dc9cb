import Typeset.Engine
import Typeset.LineMarkup.Line

/-!
# Compiling the markup

The compiler goes through the lines of the main text. It binds names, collects
lines of text on pages, and notes errors and warnings with the bytes that they
concern; a text without errors is a document. Only the definitions of included
files are read.

In a line of text calls are answered first, then dates are put in, and references
are replaced last, also in what the calls gave.
-/

namespace Typeset.LineMarkup

structure Page where
  lines : List String
  deriving DecidableEq

def Page.text (page : Page) : String :=
  "\n".intercalate page.lines

/-- What a compile has found so far. -/
structure Progress where
  finished : List Page
  current : List String
  errors : List SourceDiagnostic
  warnings : List SourceDiagnostic
  bindings : List (String × String)

namespace Progress

/-- Nothing but an empty first page. -/
def start : Progress :=
  ⟨[], [], [], [], []⟩

def pages (progress : Progress) : List Page :=
  progress.finished ++ [⟨progress.current⟩]

def breakPage (progress : Progress) : Progress :=
  { progress with finished := progress.pages, current := [] }

def addError (progress : Progress) (error : SourceDiagnostic) : Progress :=
  { progress with errors := progress.errors ++ [error] }

def addWarning (progress : Progress) (warning : SourceDiagnostic) : Progress :=
  { progress with warnings := progress.warnings ++ [warning] }

/-- Put a line of text on the current page. -/
def addLine (progress : Progress) (line : List Char) : Progress :=
  { progress with current := progress.current ++ [String.ofList line] }

def bind (progress : Progress) (name value : String) : Progress :=
  { progress with bindings := (name, value) :: progress.bindings }

def value? (progress : Progress) (name : String) : Option String :=
  (progress.bindings.find? (·.1 == name)).map (·.2)

end Progress

/-- A part of a compile, which asks the world and can be broken off. -/
abbrev Compiling (α : Type) := ExceptT Fault Reading α

/-- Ask the world as a part of a compile. -/
def ask {α : Type} (question : Reading α) : Compiling α :=
  ExceptT.lift question

/-- The bytes of the characters from one place of a line to another, in the main text. -/
def spanOf (line : List Char) (offset start stop : Nat) : SourceSpan :=
  .within .main (offset + Text.Utf8.length (line.take start))
    (offset + Text.Utf8.length (line.take stop))

/-- What is said where a value is missing. -/
def missingValue : String :=
  "expected expression"

/-! ## Definitions and inclusions -/

/-- Take in a line that defines a name. -/
def define (progress : Progress) (line : List Char) (offset : Nat) (definition : Definition) :
    Progress :=
  match Text.trimBlank definition.rest with
  | [] =>
      progress.addError
        (.error (spanOf line offset line.length line.length) missingValue
          ["add a value after \x60=\x60"])
  | value => progress.bind (String.ofList definition.name) (String.ofList value)

/--
The definitions of a file's lines, which start at a byte offset, and the text
before the first of them. The value of a definition reaches to the next one.
-/
def definitionsFrom (offset : Nat) : List (List Char) → List Char × List FileDefinition
  | [] => ([], [])
  | line :: lines =>
      let (following, found) := definitionsFrom (offset + Text.Utf8.length line) lines
      match definition? line with
      | none => (line ++ following, found)
      | some ⟨name, rest⟩ =>
          let stop := offset + (Text.Utf8.length line - Text.Utf8.length rest)
          ([], ⟨String.ofList name, stop, Text.trimBlank (rest ++ following)⟩ :: found)

/-- The definitions of a file; each stands at the start of a line. -/
def definitions (text : List Char) : List FileDefinition :=
  (definitionsFrom 0 (Text.splitFeeds text)).2

/-- The definitions that have a value, and the errors of those that have none. -/
def splitDefinitions (id : FileId) (found : List FileDefinition) :
    List (String × String) × List SourceDiagnostic :=
  ((found.filter (·.value ≠ [])).map fun definition =>
      (definition.name, String.ofList definition.value),
    (found.filter (·.value = [])).map fun definition =>
      .error (.within id definition.offset definition.offset) missingValue [])

/-- The file that an inclusion names, or what is said of a path that names none. -/
def inclusionTarget (path : String) : Except String FileId :=
  if path.toList.head? = some '@' then
    match PackageSpec.parse? path with
    | some spec => .ok (.inPackage spec "lib.typ")
    | none => .error (PackageSpec.malformedMessage path)
  else .ok (FileId.main.join path)

/-- The text of an included file, or what is said of one that cannot be read. -/
def inclusionText (path : String) : Compiling (Except String (FileId × String)) := do
  match inclusionTarget path with
  | .error reason => return .error reason
  | .ok id =>
      match ← ask (Reading.askSource id) with
      | .value source => return .ok (id, source.text)
      | .failed error => return .error error.text
      | .broken (.invalidValue reason) => return .error reason
      | .broken fault => throw fault

def includeName (progress : Progress) (line : List Char) (offset : Nat) (wanted : Inclusion) :
    Compiling Progress := do
  let path := String.ofList wanted.path
  let name := String.ofList wanted.name
  let start := inclusionStart.length
  let span := spanOf line offset start (start + wanted.path.length)
  match ← inclusionText path with
  | .error reason =>
      return progress.addError (.error span s!"cannot import {path}: {reason}" [])
  | .ok (id, text) =>
      let (bindings, errors) := splitDefinitions id (definitions text.toList)
      let progress := errors.foldl Progress.addError progress
      match bindings.reverse.find? (·.1 == name) with
      | some (_, value) => return progress.bind name value
      | none =>
          return progress.addError (.error span s!"{path} has no binding '{name}'" [])

/-! ## Lines of text -/

/-- Answer a call at a place of a line: the text it gives, and what was noted. -/
def answerCall (progress : Progress) (line : List Char) (offset place : Nat) (call : Call) :
    Compiling (List Char × Progress) := do
  let argument := String.ofList call.argument
  match call.kind with
  | .warn =>
      let span := spanOf line offset place (place + call.length)
      return ([], progress.addWarning (.warning span argument))
  | .input =>
      let library ← ask Reading.askLibrary
      return (((library.input? argument).getD "none").toList, progress)
  | .image =>
      match ← ask (Reading.askFile (FileId.main.join argument)) with
      | .value data => return (s!"[image {data.length} bytes]".toList, progress)
      | .failed error =>
          let start := place + call.kind.start.length
          let span := spanOf line offset start (start + call.argument.length)
          return ([], progress.addError (.error span error.text []))
      | .broken fault => throw fault

/-- Answer the calls among the pieces of a line, from left to right. -/
def answerCalls (progress : Progress) (line : List Char) (offset : Nat) :
    List Piece → Compiling (List Char × Progress)
  | [] => return ([], progress)
  | .char char :: pieces => do
      let (text, progress) ← answerCalls progress line offset pieces
      return (char :: text, progress)
  | .call place call :: pieces => do
      let (answer, progress) ← answerCall progress line offset place call
      let (text, progress) ← answerCalls progress line offset pieces
      return (answer ++ text, progress)

def todayCall : List Char :=
  "#today()".toList

/-- Put today's date in universal time into a line that asks for it. -/
def insertToday (line : List Char) : Compiling (List Char) := do
  if Text.occursIn todayCall line then
    match ← ask (Reading.askToday (.hoursAhead 0)) with
    | .error fault => throw fault
    | .ok date => return Text.replaceAll todayCall ((date.map Date.render).getD "none").toList line
  else return line

def addText (progress : Progress) (line : List Char) (offset : Nat) : Compiling Progress := do
  let (answered, progress) ← answerCalls progress line offset (pieces line)
  let dated ← insertToday answered
  return progress.addLine (substitute progress.value? dated)

/-! ## Compiling -/

/-- Take in a line, without its line break, that starts at a byte offset. -/
def takeLine (progress : Progress) (line : List Char) (offset : Nat) : Compiling Progress :=
  if Text.trimBlank line = "#pagebreak()".toList then return progress.breakPage
  else
    match inclusion? line with
    | some wanted => includeName progress line offset wanted
    | none =>
        match definition? line with
        | some definition => return define progress line offset definition
        | none =>
            match strayBracket? line with
            | some place =>
                let span := spanOf line offset place (place + 1)
                return progress.addError (.error span "unexpected closing bracket" [])
            | none => addText progress line offset

/-- Take in lines one after another, from a byte offset on. -/
def takeLines (progress : Progress) (offset : Nat) : List (List Char) → Compiling Progress
  | [] => return progress
  | line :: lines => do
      let progress ← takeLine progress (Text.trimBreak line) offset
      takeLines progress (offset + Text.Utf8.length line) lines

/-- What a compile gives when all lines are taken in. -/
def output (progress : Progress) : CompileOutput Page :=
  if progress.errors = [] then ⟨some ⟨progress.pages⟩, [], progress.warnings⟩
  else ⟨none, progress.errors, progress.warnings⟩

def mainText : Compiling String := do
  match ← ask (Reading.askSource .main) with
  | .value source => return source.text
  | .failed error => throw (.breakdown error.text)
  | .broken fault => throw fault

def compileMain : Compiling (CompileOutput Page) := do
  let text ← mainText
  return output (← takeLines .start 0 (Text.splitLines text.toList))

/-- The compiler of the line markup, which makes paged and other documents alike. -/
def compiler : Compiler Page Unit := fun _target => do
  return ((), ← compileMain.run)

end Typeset.LineMarkup

import Typeset.Diagnostic
import Typeset.PageSelector
import Typeset.PdfStandard
import Typeset.Reading

/-!
# Engines

What a session needs to turn documents into output: a compiler, which reads from
the world and gives a document or errors, a renderer of pages, and a serializer
of documents. The pages are of whatever type the engine has for them, and a
compiler may leave notes that the session hands on unread.
-/

namespace Typeset

/-- The kinds of documents that a compiler can make. -/
inductive Target where
  | paged
  | html
  deriving DecidableEq

/-- The word for a kind of documents. -/
def Target.name : Target → String
  | paged => "paged"
  | html => "html"

structure Document (π : Type) where
  pages : List π

/-- What a compiler gives: a document or none, and what it has to say. -/
structure CompileOutput (π : Type) where
  document : Option (Document π)
  errors : List SourceDiagnostic
  warnings : List SourceDiagnostic

/-- A compiler of documents with pages of one type, which leaves notes of another. -/
def Compiler (π ν : Type) : Type :=
  Target → Reading (ν × Except Fault (CompileOutput π))

/-- How a document is to be written out. -/
structure SerializeOptions where
  identifier : Option String
  standards : List PdfStandard
  pageRanges : Option (List PageRange)
  deriving DecidableEq

def Renderer (π : Type) : Type :=
  π → Except Fault String

/-- Why a serializer gives no output. -/
inductive SerializeFailure where
  /-- The document is refused for these reasons. -/
  | refused (reasons : List SourceDiagnostic)
  /-- The serializer broke down. -/
  | broken (fault : Fault)

/-- A serializer of documents, which may refuse one with diagnostics. -/
structure Serializer (π : Type) where
  pdf : Document π → SerializeOptions → Except SerializeFailure Bytes
  html : Document π → Except SerializeFailure String

/-- A serializer that breaks down on every document. -/
def Serializer.unavailable {π : Type} (fault : Fault) : Serializer π where
  pdf _document _options := .error (.broken fault)
  html _document := .error (.broken fault)

/-- A renderer that breaks down on every page. -/
def Renderer.unavailable {π : Type} (fault : Fault) : Renderer π :=
  fun _page => .error fault

/-- A compiler that breaks down before it asks anything. -/
def Compiler.unavailable {π : Type} (fault : Fault) : Compiler π Unit :=
  fun _target => .done ((), .error fault)

/-- The page numbers that options select of a document, in order. -/
def SerializeOptions.pageNumbers (options : SerializeOptions) (total : Nat) : List Nat :=
  match options.pageRanges with
  | none => (List.range total).map (· + 1)
  | some ranges => PageSelector.pages ranges

/-- The page with a number, counted from one; the number zero is that of the last page. -/
def Document.page? {π : Type} (document : Document π) : Nat → Option π
  | 0 => document.pages.getLast?
  | index + 1 => document.pages[index]?

/-- The pages with the given numbers; a number that no page has breaks off the selection. -/
def Document.select {π : Type} (document : Document π) (numbers : List Nat) :
    Except Fault (List (Nat × π)) :=
  numbers.mapM fun number =>
    match document.page? number with
    | some page => .ok (number, page)
    | none => .error (.noSuchPlace "list index out of range")

end Typeset

import Typeset.LineMarkup.Compiler

/-!
# Output of the markup

A page is drawn as one text element for each of its lines. A document is written
out as lines of text that stand for a PDF file, or as one paragraph for each of
its pages. A serializer can be made to refuse every document.
-/

namespace Typeset.LineMarkup

def Page.svg (page : Page) : String :=
  let body := String.join (page.lines.map fun line => s!"<text>{line}</text>")
  s!"<svg xmlns=\"http://www.w3.org/2000/svg\">{body}</svg>"

def renderer : Renderer Page :=
  fun page => .ok page.svg

/-- The lines that stand for a PDF file of some pages, each with its number. -/
def pdfLines (options : SerializeOptions) (selected : List (Nat × Page)) : List String :=
  let standards := match options.standards with
    | [] => "none"
    | standards => ",".intercalate (standards.map PdfStandard.value)
  let identifier := match options.identifier with
    | none | some "" => "auto"
    | some identifier => identifier
  ["%PDF-toy", s!"ident: {identifier}", s!"standards: {standards}"] ++
    selected.map fun (number, page) => s!"page {number}: {page.text}"

def pdf (document : Document Page) (options : SerializeOptions) : Except SerializeFailure Bytes :=
  match document.select (options.pageNumbers document.pages.length) with
  | .ok selected => .ok (Text.Utf8.encode ("\n".intercalate (pdfLines options selected)).toList)
  | .error fault => .error (.broken fault)

def html (document : Document Page) : String :=
  let body := String.join (document.pages.map fun page => s!"<p>{page.text}</p>")
  s!"<html><body>{body}</body></html>"

/-- The serializer of the line markup; it refuses every document when it has reasons to. -/
def serializer (refusal : List SourceDiagnostic) : Serializer Page where
  pdf document options :=
    match refusal with
    | [] => pdf document options
    | reasons => .error (.refused reasons)
  html document :=
    match refusal with
    | [] => .ok (html document)
    | reasons => .error (.refused reasons)

end Typeset.LineMarkup

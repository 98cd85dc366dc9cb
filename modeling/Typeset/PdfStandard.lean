import Typeset.Text.Blank

/-!
# PDF standards

The standards that an export can be asked to conform to. A standard is asked for
by its value, such as `a-2b`, or by its name in any case. A set of standards
keeps the order of first mention and holds at most one archival part, since a
document cannot conform to two of them.
-/

namespace Typeset

inductive PdfStandard where
  | pdf17
  | pdfA2b
  | pdfA3b
  deriving DecidableEq

/-- A standard that is asked for, directly or by a text that should name one. -/
inductive StandardRequest where
  | standard (standard : PdfStandard)
  | named (text : String)

namespace PdfStandard

def all : List PdfStandard :=
  [pdf17, pdfA2b, pdfA3b]

def value : PdfStandard → String
  | pdf17 => "1.7"
  | pdfA2b => "a-2b"
  | pdfA3b => "a-3b"

def name : PdfStandard → String
  | pdf17 => "PDF_1_7"
  | pdfA2b => "PDF_A_2B"
  | pdfA3b => "PDF_A_3B"

def isArchival : PdfStandard → Bool
  | pdf17 => false
  | pdfA2b | pdfA3b => true

/--
Whether a text is the value of a standard, or its name in any case. The names
have only ASCII letters, and no other letter has one of them as its capital.
-/
def isCalled (standard : PdfStandard) (text : String) : Bool :=
  text == standard.value || text.toList.map Char.toUpper == standard.name.toList

/-- The standard that a text asks for, blanks at its ends aside. -/
def parse? (text : String) : Option PdfStandard :=
  all.find? (·.isCalled (Text.strip text))

/-- What is said of a text that names no standard. -/
def unknownMessage (text : String) : String :=
  let choices := ", ".intercalate (all.map value)
  s!"Unknown PDF standard '{text}' (expected one of: {choices})"

/-- The standard that is asked for, or what is said of the request. -/
def resolve : StandardRequest → Except String PdfStandard
  | .standard standard => .ok standard
  | .named text =>
      match parse? text with
      | some standard => .ok standard
      | none => .error (unknownMessage text)

/-- Add the standards that are asked for to those found so far, each once. -/
def collect (found : List PdfStandard) : List StandardRequest → Except String (List PdfStandard)
  | [] => .ok found
  | request :: requests =>
      match resolve request with
      | .error message => .error s!"Invalid PDF standards: {message}"
      | .ok standard =>
          collect (if standard ∈ found then found else found ++ [standard]) requests

/-- The compatible set of standards that are asked for. -/
def validate (requests : List StandardRequest) : Except String (List PdfStandard) := do
  let standards ← collect [] requests
  let archival := (standards.filter isArchival).map value
  if archival.length ≤ 1 then return standards
  else
    let conflict := " and ".intercalate archival
    throw s!"Invalid PDF standards: cannot conform to {conflict} at the same time"

end PdfStandard

end Typeset

import Typeset.FileId
import Typeset.Outcome
import Typeset.Text.Quoted

/-!
# Diagnostics

A compiler reports where a problem lies by file and byte range. For display the
range is given a line and a column, counted from one, when they can be found;
what cannot be found stays open, so that "unknown" is never the first line.
-/

namespace Typeset

inductive Severity where
  | error
  | warning
  deriving DecidableEq

namespace Severity

def name : Severity → String
  | error => "error"
  | warning => "warning"

def parse? (word : String) : Option Severity :=
  [error, warning].find? (·.name == word)

/-- What is said of a word that names no severity. -/
def unknownMessage (word : String) : String :=
  s!"{Text.quoted word} is not a valid Severity"

/-- The severity that a word names, or the fault of a word that names none. -/
def read (word : String) : Except Fault Severity :=
  match parse? word with
  | some severity => .ok severity
  | none => .error (.invalidValue (unknownMessage word))

end Severity

/-- A place as a compiler reports it; each of its parts may be missing. -/
structure SourceSpan where
  id : Option FileId
  start : Option Int
  stop : Option Int
  deriving DecidableEq

namespace SourceSpan

def detached : SourceSpan :=
  ⟨none, none, none⟩

/-- A range of bytes in a file. -/
def within (id : FileId) (start stop : Nat) : SourceSpan :=
  ⟨some id, some start, some stop⟩

/-- The range of bytes, when both of its ends are known. -/
def range? (span : SourceSpan) : Option (Int × Int) :=
  match span.start, span.stop with
  | some start, some stop => some (start, stop)
  | _, _ => none

end SourceSpan

/-- A diagnostic as a compiler or serializer reports it. -/
structure SourceDiagnostic where
  severity : String
  message : String
  span : SourceSpan
  trace : List (SourceSpan × String)
  hints : List String

namespace SourceDiagnostic

def error (span : SourceSpan) (message : String) (hints : List String) : SourceDiagnostic :=
  ⟨Severity.error.name, message, span, [], hints⟩

def warning (span : SourceSpan) (message : String) : SourceDiagnostic :=
  ⟨Severity.warning.name, message, span, [], []⟩

/-- What a refused serialization prints as: its first three messages. -/
def refusal (diagnostics : List SourceDiagnostic) : String :=
  match "; ".intercalate ((diagnostics.take 3).map (·.message)) with
  | "" => "serialization failed"
  | messages => messages

end SourceDiagnostic

/-- A byte range for display, with the line and column of its start where they are known. -/
structure Span where
  start : Int
  stop : Int
  line : Option Int
  column : Option Int
  deriving DecidableEq

/-- The line and column of a span, when both are known. -/
def Span.position? (span : Span) : Option (Int × Int) :=
  match span.line, span.column with
  | some line, some column => some (line, column)
  | _, _ => none

/-- One step of the way that led to a problem. -/
structure TraceItem where
  span : Option Span
  message : String
  deriving DecidableEq

structure Diagnostic where
  severity : Severity
  message : String
  span : Option Span
  trace : List TraceItem
  hints : List String
  deriving DecidableEq

namespace Diagnostic

def ofMessage (message : String) : Diagnostic :=
  ⟨.error, message, none, [], []⟩

def isError (diagnostic : Diagnostic) : Bool :=
  diagnostic.severity == .error

def positionText (span : Option Span) : String :=
  match span.bind Span.position? with
  | some (line, column) => s!" (line {line}, column {column})"
  | none => ""

/-- Where a diagnostic points: its position, else its bytes, else nothing. -/
def location (span : Option Span) : String :=
  match span, span.bind Span.position? with
  | some span, none => s!" (bytes {span.start}..{span.stop})"
  | span, _ => positionText span

/-- The lines of a diagnostic: what and where it is, how it came about, and what may help. -/
def lines (diagnostic : Diagnostic) : List String :=
  s!"{diagnostic.severity.name}: {diagnostic.message}{location diagnostic.span}" ::
    (diagnostic.trace.map fun item => s!"  trace: {item.message}{positionText item.span}") ++
    diagnostic.hints.map fun hint => s!"  hint: {hint}"

def render (diagnostic : Diagnostic) : String :=
  "\n".intercalate diagnostic.lines

end Diagnostic

end Typeset

import Typeset.Diagnostic

/-!
# Errors of a session

A step of a session that fails says so in one line and carries the diagnostics
that led to it, in order. Its text shows the first few of them.
-/

namespace Typeset

inductive SessionErrorKind where
  | compile
  | precondition
  | export
  deriving DecidableEq

namespace SessionErrorKind

/-- The name that tells a kind of failure from the others. -/
def name : SessionErrorKind → String
  | .compile => "CompileError"
  | .precondition => "PreconditionError"
  | .export => "ExportError"

def ofName? (name : String) : Option SessionErrorKind :=
  [SessionErrorKind.compile, .precondition, .export].find? (·.name == name)

end SessionErrorKind

structure SessionError where
  kind : SessionErrorKind
  message : String
  diagnostics : List Diagnostic

namespace SessionError

def errorsOf (diagnostics : List Diagnostic) : List Diagnostic :=
  diagnostics.filter Diagnostic.isError

/-- The line that says how many errors a compile had. -/
def countMessage (diagnostics : List Diagnostic) : String :=
  s!"Compilation failed with {(errorsOf diagnostics).length} error(s)"

/-- A failed step with its diagnostics; without a line of its own it counts the errors. -/
def ofDiagnostics (kind : SessionErrorKind) (diagnostics : List Diagnostic)
    (message : Option String) : SessionError :=
  match message with
  | none | some "" => ⟨kind, countMessage diagnostics, diagnostics⟩
  | some message => ⟨kind, message, diagnostics⟩

/-- A failed step with one error that has no place. -/
def simple (kind : SessionErrorKind) (message : String) : SessionError :=
  ofDiagnostics kind [.ofMessage message] (some message)

/-- The number of diagnostics that the text of a failed step shows. -/
def shownDiagnostics : Nat := 5

/-- The lines of a failed step: what failed, the first diagnostics, and how many more there are. -/
def lines (error : SessionError) : List String :=
  let hidden := error.diagnostics.length - shownDiagnostics
  error.message :: (error.diagnostics.take shownDiagnostics).map Diagnostic.render ++
    if hidden = 0 then [] else [s!"... and {hidden} more diagnostics"]

def text (error : SessionError) : String :=
  "\n".intercalate error.lines

end SessionError

end Typeset

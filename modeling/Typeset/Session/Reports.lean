import Typeset.Diagnostic
import Typeset.HostPath
import Typeset.Journal
import Typeset.Number.Fixed

/-!
# Reports of a session

What a session writes to the journal about its compiles and exports. Of many
diagnostics the first few are written and the rest are counted.
-/

namespace Typeset.Report

/-- A duration with two places. -/
def seconds (elapsed : Number.Binary64) : String :=
  elapsed.renderFixed 2 ++ "s"

/-- A whole number with its digits in groups. -/
def grouped (value : Int) : String :=
  if value < 0 then "-" ++ Number.grouped value.natAbs else Number.grouped value.natAbs

def compileStart (target : String) (root : HostPath) (generation : Nat) : LogRecord :=
  .session .debug
    s!"Compiling {target} document (root: {root.render}, cache generation {generation})"

/-- Diagnostics of one kind, numbered from one, up to a limit, and how many more there are. -/
def listed (level : LogLevel) (kind plural : String) (limit : Nat)
    (diagnostics : List Diagnostic) : Journal :=
  let shown := (diagnostics.take limit).zipIdx 1
  let hidden := diagnostics.length - limit
  (shown.map fun (diagnostic, number) =>
    .session level s!"  {kind} {number}: {diagnostic.render}") ++
    if hidden = 0 then [] else [.session level s!"  ... and {hidden} more {plural}"]

/-- The end of a compile, with its errors if it failed and with its warnings. -/
def compileResult (succeeded : Bool) (pageCount : Int) (diagnostics : List Diagnostic)
    (elapsed : Number.Binary64) (verbose : Bool) : Journal :=
  let errors := diagnostics.filter Diagnostic.isError
  let warnings := diagnostics.filter fun diagnostic => !diagnostic.isError
  let outcome :=
    if succeeded then
      [LogRecord.session .success
        s!"Compiled {pageCount} pages: {warnings.length} warnings ({seconds elapsed})"]
    else
      .session .error s!"Compilation failed: {errors.length} errors ({seconds elapsed})" ::
        listed .error "Error" "errors" (if verbose then 10 else 5) errors
  outcome ++ listed .warning "Warning" "warnings" (if verbose then 10 else 3) warnings

/-- The end of a rendering or an export. -/
def exported (kind : String) (size : Int) (elapsed : Number.Binary64) : LogRecord :=
  .session .info s!"Exported {kind} ({grouped size} bytes, {seconds elapsed})"

def created (root : HostPath) (familyCount : Nat) : LogRecord :=
  .session .debug s!"Created context (root: {root.render}, {familyCount} font families)"

/-- The end of a stream of records. -/
def streamed (count : Nat) (path name : String) : LogRecord :=
  .session .debug s!"Streamed {count} records into {path} as '{name}'"

/-- A change of inputs that the stored document does not show. -/
def staleInputs : LogRecord :=
  .session .debug
    "Inputs changed; the stored document still reflects the previous inputs until compile()"

def dispatcherStarted (processorWorkers ioWorkers : Nat) : LogRecord :=
  .session .debug
    s!"Dispatcher started ({processorWorkers} CPU workers, {ioWorkers} I/O workers)"

end Typeset.Report

import Typeset.Diagnostic
import Typeset.Reading

/-!
# Positions of diagnostics

The spans of a compiler are given lines and columns from the sources that the
world hands out, which within one period are the sources that the compiler read.
A span in a file that cannot be read keeps its bytes and gets no position. The
detached form never asks the world.
-/

namespace Typeset

/-- A computation that asks the world and can be broken off. -/
abbrev Asking (α : Type) := ExceptT Fault Reading α

namespace SourceSpan

/-- The span without a position, when its range is known. -/
def detach (span : SourceSpan) : Option Span :=
  span.range?.map fun (start, stop) => ⟨start, stop, none, none⟩

/-- A range with the position of its start in a source. -/
def locateIn (source : Source) (start stop : Int) : Span where
  start := start
  stop := stop
  line := (source.lineOf? start).map fun line => (line : Int) + 1
  column := (source.columnOf? start).map fun column => (column : Int) + 1

/-- The span with the position that its file gives it. -/
def locate (span : SourceSpan) : Asking (Option Span) := do
  match span.range?, span.id with
  | some (start, stop), some id =>
      match ← (Reading.askSource id : Reading (Outcome Source)) with
      | .value source => return some (locateIn source start stop)
      | .failed _ => return span.detach
      | .broken fault => throw fault
  | _, _ => return span.detach

end SourceSpan

namespace SourceDiagnostic

/-- The steps of a trace with the positions that their files give them. -/
def locateTrace : List (SourceSpan × String) → Asking (List TraceItem)
  | [] => return []
  | (span, message) :: items => do
      let item : TraceItem := ⟨← span.locate, message⟩
      return item :: (← locateTrace items)

def locate (diagnostic : SourceDiagnostic) : Asking Diagnostic := do
  let severity ← (Severity.read diagnostic.severity : Except Fault Severity)
  let span ← diagnostic.span.locate
  let trace ← locateTrace diagnostic.trace
  return ⟨severity, diagnostic.message, span, trace, diagnostic.hints⟩

def locateAll : List SourceDiagnostic → Asking (List Diagnostic)
  | [] => return []
  | diagnostic :: diagnostics => do
      let located ← diagnostic.locate
      return located :: (← locateAll diagnostics)

/-- The diagnostic for display, without positions. -/
def detach (diagnostic : SourceDiagnostic) : Except Fault Diagnostic := do
  let severity ← Severity.read diagnostic.severity
  let trace := diagnostic.trace.map fun (span, message) => (⟨span.detach, message⟩ : TraceItem)
  return ⟨severity, diagnostic.message, diagnostic.span.detach, trace, diagnostic.hints⟩

/-- Diagnostics for display, without positions. -/
def detachAll : List SourceDiagnostic → Except Fault (List Diagnostic)
  | [] => return []
  | diagnostic :: diagnostics => do
      let detached ← diagnostic.detach
      return detached :: (← detachAll diagnostics)

end SourceDiagnostic

end Typeset

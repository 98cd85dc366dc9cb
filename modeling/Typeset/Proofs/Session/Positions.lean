import Typeset.Proofs.Reading.Plain
import Typeset.Session.Positions

/-!
# Positions are asked plainly

A position is found in the bytes and the line starts of a source, which a source that
was edited shares with a new one of the same text. A file that cannot be read leaves
a span without a position, for whatever reason it fails.
-/

namespace Typeset

open Reading

theorem SourceSpan.locateIn_congr {left right : Source} (same : left.pristine = right.pristine)
    (start stop : Int) : locateIn left start stop = locateIn right start stop := by
  have located : locateIn left.pristine start stop = locateIn right.pristine start stop := by
    simp only [same]
  exact located

theorem SourceSpan.plain_locate (span : SourceSpan) : PlainStep span.locate := by
  simp only [locate]
  split
  · next start stop id _ _ =>
      apply PlainStep.source
      · intro left right same
        dsimp only
        simp only [locateIn_congr same]
      · intro left right _
        rfl
      · intro answer
        cases answer <;> exact .pure _
      · intro fault
        exact .inl ⟨fault, rfl⟩
  · exact .pure _

namespace SourceDiagnostic

theorem plain_locateTrace (items : List (SourceSpan × String)) :
    PlainStep (locateTrace items) := by
  induction items with
  | nil => exact .pure _
  | cons item items ih =>
      apply item.1.plain_locate.bind
      intro position
      apply ih.bind
      intro positions
      exact .pure _

theorem plain_locate (diagnostic : SourceDiagnostic) : PlainStep diagnostic.locate := by
  simp only [locate]
  cases Severity.read diagnostic.severity with
  | error fault => exact .throw fault
  | ok severity =>
      apply diagnostic.span.plain_locate.bind
      intro position
      apply (plain_locateTrace diagnostic.trace).bind
      intro trace
      exact .pure _

theorem plain_locateAll (diagnostics : List SourceDiagnostic) :
    PlainStep (locateAll diagnostics) := by
  induction diagnostics with
  | nil => exact .pure _
  | cons diagnostic diagnostics ih =>
      apply diagnostic.plain_locate.bind
      intro located
      apply ih.bind
      intro rest
      exact .pure _

end SourceDiagnostic

end Typeset

import Typeset.Proofs.LineMarkup.Findings
import Typeset.Proofs.Session.Shown

/-!
# Diagnostics of the line markup point at the right text

A compile of the line markup, in whatever state the session is, shows diagnostics that
each have a range in the text of a file, with a line and a column. The bytes of the
range are the text that is wrong.
-/

namespace Typeset

namespace LineMarkup

open Text

/--
A diagnostic points into the text of a file that the world gives: what stands before its
range, what is in the range, and what is behind it make up the text, the line and column
are those of the start of the range, and what is in the range is what offends.
-/
def PointsAt (world : World) (diagnostic : Diagnostic) : Prop :=
  ∃ (id : FileId) (source : Source) (before middle after : List Char) (line column : Nat),
    world.source? id = some source ∧ (id = .main → source.text = world.markup) ∧
    source.text.toList = before ++ middle ++ after ∧
    diagnostic.span = some ⟨Utf8.length before, Utf8.length (before ++ middle),
      some (line + 1), some (column + 1)⟩ ∧
    source.lineOf? (Utf8.length before) = some line ∧
    source.columnOf? (Utf8.length before) = some column ∧
    (source.bytes.take (Utf8.length (before ++ middle))).drop (Utf8.length before) =
      Utf8.encode middle ∧
    Offends source.text.toList id before middle diagnostic.severity diagnostic.message

variable {world : World} {readings : List (Except FileError Bytes)}

theorem parse?_name (severity : Severity) : Severity.parse? severity.name = some severity := by
  cases severity <;> decide

/-- The start of a part of a text has a line and a column. -/
theorem exists_position {source : Source} {before rest : List Char}
    (wellFormed : source.WellFormed) (parts : source.text.toList = before ++ rest) :
    ∃ line column, source.lineOf? (Utf8.length before) = some line ∧
      source.columnOf? (Utf8.length before) = some column := by
  have boundary : Utf8.Boundary source.text.toList (Utf8.length before) :=
    ⟨before, rest, parts, rfl⟩
  have inside := boundary.le_length
  rw [← wellFormed.byteCount_eq] at inside
  have line : source.lineOf? (Utf8.length before) ≠ none := by
    rw [Ne, Source.lineOf?_eq_none_iff]
    omega
  have column : source.columnOf? (Utf8.length before) ≠ none := by
    rw [Ne, wellFormed.columnOf?_eq_none_iff]
    rintro (negative | beyond | inside)
    · omega
    · omega
    · exact inside boundary
  rcases Option.ne_none_iff_exists'.mp line with ⟨line, isLine⟩
  rcases Option.ne_none_iff_exists'.mp column with ⟨column, isColumn⟩
  exact ⟨line, column, isLine, isColumn⟩

theorem Pinpoints.pointsAt {told : SourceDiagnostic} {shown : Diagnostic}
    (sound : world.Sound readings) (pinpoints : Pinpoints world told)
    (same : told.shown? world.source? = some shown) (records : Journal) :
    PointsAt (world.report records) shown := by
  rcases pinpoints with ⟨id, source, before, middle, severity, atHand, named, span, offends⟩
  rcases offends.eq_append with ⟨after, parts⟩
  have wellFormed := (atHand.wellFormed sound).1
  have front : source.text.toList = before ++ (middle ++ after) := by
    rw [parts, List.append_assoc]
  rcases exists_position wellFormed front with ⟨line, column, isLine, isColumn⟩
  have given := atHand.answers.source?
  have still : (world.report records).AtHand id (.ok source) := by
    apply atHand.of_same <;> rfl
  simp only [SourceDiagnostic.shown?, named, parse?_name, Option.map_some,
    Option.some.injEq] at same
  subst same
  refine ⟨id, source, before, middle, after, line, column, still.answers.source?, ?_, parts, ?_,
    isLine, isColumn, ?_, offends⟩
  · rintro rfl
    have text : source.text = world.markup := atHand.text_main sound
    exact text
  · dsimp only
    rw [span]
    simp only [SourceSpan.placed, SourceSpan.within, SourceSpan.range?, Option.map_some,
      Option.bind_some, given, isLine, isColumn]
    rfl
  · rw [wellFormed.bytes_eq, parts, Utf8.encode_between]

end LineMarkup

namespace Session

open LineMarkup

/--
Whatever a session was called for, every diagnostic of a compile of the line markup
points at the text that is wrong, be it a warning of a compile that succeeds or one of
the diagnostics of a compile that fails.
-/
theorem compile_points_at (root : HostPath) (fonts : Fonts) (packages : PackageStorage)
    (clock : Clock) (host : Host) (calls : List (Call Page Unit)) :
    let session := after (World.make root fonts packages clock host) calls
    let compiled := (compile LineMarkup.compiler).run session
    (∀ result, compiled.1.2 = .ok result →
      ∀ diagnostic ∈ result.warnings, PointsAt compiled.2.world diagnostic) ∧
    ∀ error, compiled.1.2 = .error (.reported error) →
      ∀ diagnostic ∈ error.diagnostics, PointsAt compiled.2.world diagnostic := by
  intro session compiled
  have sound := (sound_after (.make [] root fonts packages clock host) calls).1
  have points {obtained : List (FileId × Outcome Source)} {output : CompileOutput Page}
      {told : List SourceDiagnostic} {shown : List Diagnostic} {world : World}
      (maps : session.MapsAmid LineMarkup.compiler .paged obtained output told shown world)
      (subset : told ⊆ output.errors ++ output.warnings) (ends : compiled.2.EndsIn world) :
      ∀ diagnostic ∈ shown, PointsAt compiled.2.world diagnostic := by
    intro diagnostic member
    rcases maps.sound sound with ⟨readings, final⟩
    have shownIn : some diagnostic ∈ told.map (SourceDiagnostic.shown? world.source?) := by
      rw [maps.shows.1]
      exact List.mem_map_of_mem member
    rcases List.mem_map.mp shownIn with ⟨source, isTold, same⟩
    have pinpoints := maps.puts_out (under_compiler .paged) source (subset isTold)
    rcases ends with ⟨records, ends⟩
    rw [ends]
    exact pinpoints.pointsAt final same records
  refine ⟨?_, ?_⟩
  · intro result succeeded
    rcases compile_shows succeeded with ⟨obtained, output, world, _, maps, ends⟩
    exact points maps (List.subset_append_right _ _) ends
  · intro error failed
    rcases compile_fails failed with ⟨obtained, output, world, _, maps, ends⟩
    exact points maps (List.Subset.refl _) ends

end Session

end Typeset

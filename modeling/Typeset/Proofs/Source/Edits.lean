import Typeset.Proofs.Source.LineStarts
import Typeset.Proofs.Source.Positions

/-!
# Sources that are edited

An edit takes the text apart at the ends of its range, which must not split a character,
and puts another text between the two parts that stay. A range that does not fit is
refused, and the source stays as it was. Whatever is edited or replaced, the line starts
that were kept and the ones that were looked for again are those of the new text.
-/

namespace Typeset.Source

open Text

/-- A call that changes a source. -/
inductive Change where
  | edit (start stop : Int) (replacement : String)
  | replace (text : String)

/-- The source that a change leaves, which is the same one when the change is refused. -/
def change (source : Source) : Change → Source
  | .edit start stop replacement => (source.edit start stop replacement).toOption.getD source
  | .replace text => (source.replace text).1

def afterChanges (source : Source) (changes : List Change) : Source :=
  changes.foldl change source

/-- A range of bytes lies in the text of a source, and splits no character. -/
structure Fits (source : Source) (start stop : Int) : Prop where
  ordered : 0 ≤ start ∧ start ≤ stop ∧ stop ≤ source.byteCount
  start_boundary : Utf8.Boundary source.text.toList start.toNat
  stop_boundary : Utf8.Boundary source.text.toList stop.toNat

/-- Why the bytes of a range cannot be edited. -/
inductive Refuses (source : Source) (start stop : Int) : EditError → Prop
  | outOfBounds (outside : ¬(0 ≤ start ∧ start ≤ stop ∧ stop ≤ source.byteCount)) :
      source.Refuses start stop (.outOfBounds start stop source.byteCount)
  | splitsCharacter (ordered : 0 ≤ start ∧ start ≤ stop ∧ stop ≤ source.byteCount)
      (splits : ¬(Utf8.Boundary source.text.toList start.toNat ∧
        Utf8.Boundary source.text.toList stop.toNat)) :
      source.Refuses start stop (.splitsCharacter start stop)

variable {source : Source} {start stop : Int} {replacement : String}

/-! ## One edit -/

/-- The text of a source falls into what stands before a range, within it and behind it. -/
theorem Fits.parts (fits : source.Fits start stop) :
    ∃ before between after, source.text.toList = before ++ between ++ after ∧
      start = Utf8.length before ∧ stop = Utf8.length (before ++ between) := by
  rcases fits.ordered with ⟨positive, order, _⟩
  rcases fits.start_boundary.split fits.stop_boundary (by omega) with
    ⟨before, between, after, split, first, second⟩
  exact ⟨before, between, after, split, by omega, by omega⟩

variable {before between after : List Char}

theorem WellFormed.fits_of_parts (wellFormed : source.WellFormed)
    (split : source.text.toList = before ++ between ++ after) :
    source.Fits (Utf8.length before) (Utf8.length (before ++ between)) := by
  have counted := wellFormed.byteCount_eq
  rw [split, Utf8.length_append, Utf8.length_append] at counted
  refine ⟨?_, ?_, ?_⟩
  · rw [Utf8.length_append]
    omega
  · rw [Int.toNat_natCast]
    exact ⟨before, between ++ after, by rw [split, List.append_assoc], rfl⟩
  · rw [Int.toNat_natCast]
    exact ⟨before ++ between, after, split, rfl⟩

/-- The bytes of a source before and behind a range are those of the text there. -/
theorem WellFormed.bytes_of_parts (wellFormed : source.WellFormed)
    (split : source.text.toList = before ++ between ++ after) :
    source.bytes.take (Utf8.length before) = Utf8.encode before ∧
      source.bytes.drop (Utf8.length (before ++ between)) = Utf8.encode after := by
  rw [wellFormed.bytes_eq, split]
  refine ⟨?_, Utf8.drop_encode_append _ _⟩
  rw [List.append_assoc, Utf8.take_encode_append]

theorem WellFormed.edit_of_parts (wellFormed : source.WellFormed)
    (split : source.text.toList = before ++ between ++ after) (replacement : String) :
    source.edit (Utf8.length before) (Utf8.length (before ++ between)) replacement =
      .ok (source.revise (Utf8.length before) (before ++ replacement.toList ++ after)) := by
  rcases wellFormed.bytes_of_parts split with ⟨head, tail⟩
  rw [edit, if_pos (wellFormed.fits_of_parts split).ordered]
  simp only [Int.toNat_natCast, head, tail, Utf8.decode?_encode]

theorem WellFormed.edit_of_not_fits (wellFormed : source.WellFormed)
    (misfits : ¬source.Fits start stop) (replacement : String) :
    ∃ error, source.Refuses start stop error ∧
      source.edit start stop replacement = .error error := by
  by_cases ordered : 0 ≤ start ∧ start ≤ stop ∧ stop ≤ source.byteCount
  · have splits : ¬(Utf8.Boundary source.text.toList start.toNat ∧
        Utf8.Boundary source.text.toList stop.toNat) :=
      fun unsplit => misfits ⟨ordered, unsplit.1, unsplit.2⟩
    refine ⟨_, .splitsCharacter ordered splits, ?_⟩
    have counted := wellFormed.byteCount_eq
    rw [edit, if_pos ordered]
    cases head : Utf8.decode? (source.bytes.take start.toNat) with
    | none => rfl
    | some front =>
        cases tail : Utf8.decode? (source.bytes.drop stop.toNat) with
        | none => rfl
        | some back =>
            rw [Utf8.decode?_eq_some_iff, wellFormed.bytes_eq] at head tail
            refine absurd ⟨?_, ?_⟩ splits
            · exact (Utf8.boundary_iff (by omega)).mpr ⟨front, head⟩
            · exact (Utf8.boundary_iff_drop (by omega)).mpr ⟨back, tail⟩
  · exact ⟨_, .outOfBounds ordered, by rw [edit, if_neg ordered]⟩

/-- An accepted edit puts its text between what stands before and behind a range that fits. -/
theorem WellFormed.parts_of_edit (wellFormed : source.WellFormed) {edited : Source}
    (accepted : source.edit start stop replacement = .ok edited) :
    ∃ before between after, source.text.toList = before ++ between ++ after ∧
      start = Utf8.length before ∧ stop = Utf8.length (before ++ between) ∧
      edited = source.revise (Utf8.length before) (before ++ replacement.toList ++ after) := by
  by_cases fits : source.Fits start stop
  · rcases fits.parts with ⟨before, between, after, split, rfl, rfl⟩
    have done := wellFormed.edit_of_parts split replacement
    exact ⟨before, between, after, split, rfl, rfl, Except.ok.inj (accepted.symm.trans done)⟩
  · rcases wellFormed.edit_of_not_fits fits replacement with ⟨error, _, refused⟩
    cases refused.symm.trans accepted

/-- The edits of a range that fits are accepted, and no other ones. -/
theorem WellFormed.edit_iff_fits (wellFormed : source.WellFormed) :
    (∃ edited, source.edit start stop replacement = .ok edited) ↔ source.Fits start stop := by
  constructor
  · rintro ⟨edited, accepted⟩
    rcases wellFormed.parts_of_edit accepted with ⟨before, between, after, split, rfl, rfl, _⟩
    exact wellFormed.fits_of_parts split
  · intro fits
    rcases fits.parts with ⟨before, between, after, split, rfl, rfl⟩
    exact ⟨_, wellFormed.edit_of_parts split replacement⟩

theorem WellFormed.refuses_of_edit (wellFormed : source.WellFormed) {error : EditError}
    (refused : source.edit start stop replacement = .error error) :
    source.Refuses start stop error := by
  have misfits : ¬source.Fits start stop := by
    rw [← wellFormed.edit_iff_fits, refused]
    rintro ⟨_, accepted⟩
    cases accepted
  rcases wellFormed.edit_of_not_fits misfits replacement with ⟨other, refuses, same⟩
  cases refused.symm.trans same
  exact refuses

theorem WellFormed.bytes_of_edit (wellFormed : source.WellFormed) {edited : Source}
    (accepted : source.edit start stop replacement = .ok edited) :
    edited.bytes = source.bytes.take start.toNat ++ Utf8.encode replacement.toList ++
      source.bytes.drop stop.toNat := by
  rcases wellFormed.parts_of_edit accepted with ⟨before, between, after, split, rfl, rfl, rfl⟩
  rcases wellFormed.bytes_of_parts split with ⟨head, tail⟩
  rw [Int.toNat_natCast, Int.toNat_natCast, head, tail, Source.revise, Utf8.encode_append,
    Utf8.encode_append]

theorem WellFormed.revision_of_edit (wellFormed : source.WellFormed) {edited : Source}
    (accepted : source.edit start stop replacement = .ok edited) :
    edited.revision = source.revision + 1 := by
  rcases wellFormed.parts_of_edit accepted with ⟨_, _, _, _, _, _, rfl⟩
  rfl

theorem WellFormed.edit (wellFormed : source.WellFormed) {edited : Source}
    (accepted : source.edit start stop replacement = .ok edited) : edited.WellFormed := by
  rcases wellFormed.parts_of_edit accepted with ⟨before, between, after, split, _, _, rfl⟩
  rw [List.append_assoc] at split
  exact wellFormed.revise split (List.append_assoc _ _ _)

/-! ## Many changes -/

theorem WellFormed.change (wellFormed : source.WellFormed) (change : Change) :
    (source.change change).WellFormed := by
  cases change with
  | edit start stop replacement =>
      simp only [Source.change]
      cases done : source.edit start stop replacement with
      | error error => exact wellFormed
      | ok edited => exact wellFormed.edit done
  | replace text => exact wellFormed.replace text

theorem WellFormed.afterChanges (wellFormed : source.WellFormed) (changes : List Change) :
    (source.afterChanges changes).WellFormed := by
  induction changes generalizing source with
  | nil => exact wellFormed
  | cons change changes ih => exact ih (wellFormed.change change)

theorem wellFormed_ofText (id : FileId) (text : String) : (ofText id text).WellFormed :=
  rfl

/--
However a source was edited and replaced, its bytes are those of its text, and its line
starts are those of a new source with this text: zero and the ends of all breaks, in
ascending order. An edit is accepted exactly when its range fits; then the other bytes
stay around the new ones and the revision grows by one. A refused edit changes nothing.
-/
theorem line_starts_after_changes (id : FileId) (text : String) (changes : List Change) :
    let source := (ofText id text).afterChanges changes
    source.bytes = Utf8.encode source.text.toList ∧
    source.lineStarts = (ofText source.id source.text).lineStarts ∧
    source.lineStarts.Pairwise (· < ·) ∧
    (∀ offset, offset ∈ source.lineStarts ↔
      offset = 0 ∨ LineIndex.EndsBreak source.bytes offset) ∧
    ∀ start stop replacement,
      ((∃ edited, source.edit start stop replacement = .ok edited) ↔ source.Fits start stop) ∧
      (∀ edited, source.edit start stop replacement = .ok edited →
        edited.bytes = source.bytes.take start.toNat ++ Utf8.encode replacement.toList ++
          source.bytes.drop stop.toNat ∧
        edited.revision = source.revision + 1 ∧
        source.change (.edit start stop replacement) = edited) ∧
      ∀ error, source.edit start stop replacement = .error error →
        source.Refuses start stop error ∧
        source.change (.edit start stop replacement) = source := by
  intro source
  have wellFormed : source.WellFormed := (wellFormed_ofText id text).afterChanges changes
  have starts := wellFormed.lineStarts_eq
  refine ⟨wellFormed.bytes_eq, starts.trans (congrArg LineIndex.build wellFormed.bytes_eq),
    ?_, ?_, ?_⟩
  · rw [starts]
    exact LineIndex.pairwise_build source.bytes
  · intro offset
    rw [starts]
    exact LineIndex.mem_build_iff
  · intro start stop replacement
    refine ⟨wellFormed.edit_iff_fits, ?_, ?_⟩
    · intro edited accepted
      refine ⟨wellFormed.bytes_of_edit accepted, wellFormed.revision_of_edit accepted, ?_⟩
      rw [change, accepted]
      rfl
    · intro error refused
      refine ⟨wellFormed.refuses_of_edit refused, ?_⟩
      rw [change, refused]
      rfl

end Typeset.Source

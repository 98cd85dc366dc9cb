import Typeset.FileCache
import Typeset.Proofs.Source.LineIndex
import Typeset.Proofs.Text.Utf8

/-!
# Well-formed sources

The bytes and the line starts of a source are those of its text. Replacing the
text keeps this although it scans only from the edited range on, so a source that
was edited any number of times differs from a new one in nothing but its revision.
-/

namespace Typeset.Source

open Text

/-- The source as if no edit had changed it. -/
def pristine (source : Source) : Source :=
  { source with revision := 0 }

theorem text_eq_of_pristine_eq {left right : Source} (same : left.pristine = right.pristine) :
    left.text = right.text := by
  have texts := congrArg Source.text same
  exact texts

/-- The bytes and the line starts of a source are those of its text. -/
def WellFormed (source : Source) : Prop :=
  source.pristine = ofText source.id source.text

theorem WellFormed.of_pristine_eq {source : Source} {id : FileId} {text : String}
    (equal : source.pristine = ofText id text) :
    source.WellFormed ∧ source.id = id ∧ source.text = text := by
  have ids := congrArg Source.id equal
  have texts := congrArg Source.text equal
  simp only [pristine, ofText] at ids texts
  refine ⟨?_, ids, texts⟩
  simp only [WellFormed, equal, ids, texts]

theorem WellFormed.bytes_eq {source : Source} (wellFormed : source.WellFormed) :
    source.bytes = Utf8.encode source.text.toList :=
  congrArg Source.bytes wellFormed

theorem WellFormed.lineStarts_eq {source : Source} (wellFormed : source.WellFormed) :
    source.lineStarts = LineIndex.build source.bytes := by
  have starts := congrArg Source.lineStarts wellFormed
  simp only [wellFormed.bytes_eq]
  exact starts

theorem take_commonPrefixLength (old new : List Char) :
    old.take (commonPrefixLength old new) = new.take (commonPrefixLength old new) := by
  fun_induction commonPrefixLength old new with
  | case1 char lefts rights ih => simp [ih]
  | case2 => rfl
  | case3 => rfl

@[simp]
theorem text_replace (source : Source) (text : String) : (source.replace text).1.text = text := by
  simp only [replace]
  split
  · next same => exact String.toList_inj.mp same
  · simp [revise]

@[simp]
theorem id_replace (source : Source) (text : String) : (source.replace text).1.id = source.id := by
  simp only [replace]
  split
  · rfl
  · rfl

/-- A source whose text was changed behind an offset only has the line starts of its text. -/
theorem WellFormed.revise {source : Source} (wellFormed : source.WellFormed)
    {common old new text : List Char} (was : source.text.toList = common ++ old)
    (gives : text = common ++ new) : (source.revise (Utf8.length common) text).WellFormed := by
  simp only [Source.revise, WellFormed, pristine, ofText, String.toList_ofList,
    wellFormed.lineStarts_eq]
  rw [LineIndex.update_build]
  rw [wellFormed.bytes_eq, was, gives, Utf8.take_encode_append, Utf8.take_encode_append]

theorem WellFormed.replace {source : Source} (wellFormed : source.WellFormed) (text : String) :
    (source.replace text).1.WellFormed := by
  simp only [Source.replace]
  split
  · exact wellFormed
  · -- both texts begin with what they share
    apply wellFormed.revise (List.take_append_drop _ _).symm
    simp only [sharedEnds]
    rw [take_commonPrefixLength]
    exact (List.take_append_drop _ _).symm

end Typeset.Source

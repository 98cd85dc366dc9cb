import Typeset.PageSelector
import Typeset.Proofs.Text.Split

/-!
# Pages that a selector names

A selector that is read has at least one range, and every range lies in the document. So
it names at least one page, and no page that the document does not have.
-/

namespace Typeset

/-- A range starts at a page of the document, and ends at the same page or a later one. -/
def PageRange.Within (total : Nat) (range : PageRange) : Prop :=
  1 ≤ range.first ∧ range.first ≤ range.last ∧ range.last ≤ total

/-- The numbers from the first page to the last. -/
def PageRange.numbers (range : PageRange) : List Nat :=
  List.range' range.first (range.last + 1 - range.first)

theorem PageRange.Within.mem_numbers {total : Nat} {range : PageRange} (within : range.Within total)
    {number : Nat} (member : number ∈ range.numbers) : 1 ≤ number ∧ number ≤ total := by
  simp only [Within] at within
  simp only [numbers, List.mem_range'_1] at member
  omega

theorem PageRange.Within.numbers_ne_nil {total : Nat} {range : PageRange}
    (within : range.Within total) : range.numbers ≠ [] := by
  simp only [Within] at within
  simp only [numbers, ne_eq, List.range'_eq_nil_iff]
  omega

namespace PageSelector

theorem within_of_readToken {total : Nat} {token : List Char} {range : PageRange}
    (read : readToken total token = .ok range) : range.Within total := by
  simp only [readToken] at read
  split at read
  · split at read
    · split at read
      · next inside =>
          cases read
          exact inside
      · cases read
    · cases read
  · split at read
    · split at read
      · next inside =>
          cases read
          exact ⟨inside.1, Nat.le_refl _, inside.2⟩
      · cases read
    · cases read

theorem readTokens_cons_eq_ok_iff {total : Nat} {token : List Char} {tokens : List (List Char)}
    {ranges : List PageRange} :
    readTokens total (token :: tokens) = .ok ranges ↔
      ∃ range rest, readToken total (Text.trimBlank token) = .ok range ∧
        readTokens total tokens = .ok rest ∧ ranges = range :: rest := by
  simp only [readTokens]
  cases readToken total (Text.trimBlank token) with
  | error error =>
      simp only [reduceCtorEq, false_and, exists_false, iff_false]
      rintro ⟨⟩
  | ok range =>
      cases readTokens total tokens with
      | error error =>
          simp only [reduceCtorEq, false_and, and_false, exists_false, iff_false]
          rintro ⟨⟩
      | ok rest =>
          constructor
          · rintro ⟨⟩
            exact ⟨range, rest, rfl, rfl, rfl⟩
          · rintro ⟨_, _, ⟨⟩, ⟨⟩, rfl⟩
            rfl

theorem within_of_readTokens {total : Nat} {tokens : List (List Char)} {ranges : List PageRange}
    (read : readTokens total tokens = .ok ranges) :
    ranges.length = tokens.length ∧ ∀ range ∈ ranges, range.Within total := by
  induction tokens generalizing ranges with
  | nil =>
      cases read
      exact ⟨rfl, by simp⟩
  | cons token tokens ih =>
      rcases readTokens_cons_eq_ok_iff.mp read with ⟨range, rest, first, later, rfl⟩
      rcases ih later with ⟨counted, within⟩
      refine ⟨congrArg Nat.succ counted, ?_⟩
      exact List.forall_mem_cons.mpr ⟨within_of_readToken first, within⟩

/-- A selector that is read names ranges, at least one, that lie in the document. -/
theorem within_of_parse {selector : String} {total : Nat} {ranges : List PageRange}
    (parsed : parse selector total = .ok ranges) :
    ranges ≠ [] ∧ ∀ range ∈ ranges, range.Within total := by
  rcases within_of_readTokens parsed with ⟨counted, within⟩
  refine ⟨?_, within⟩
  rintro rfl
  exact Text.splitAll_ne_nil _ _ (List.length_eq_zero_iff.mp counted.symm)

theorem ne_empty_of_eq_append {text head rest : String} (parts : text = head ++ rest)
    (some_head : head ≠ "") : text ≠ "" := by
  rw [parts]
  intro empty
  exact some_head (String.append_eq_empty_iff.mp empty).1

theorem Error.message_ne (error : Error) : error.message ≠ "" := by
  cases error <;> exact ne_empty_of_eq_append rfl (by decide)

theorem pages_eq (ranges : List PageRange) : pages ranges = ranges.flatMap PageRange.numbers := by
  have numbers : PageRange.numbers =
      fun range => (List.range (range.last + 1 - range.first)).map (range.first + ·) := by
    funext range
    exact List.range'_eq_map_range
  rw [numbers]
  rfl

end PageSelector

end Typeset

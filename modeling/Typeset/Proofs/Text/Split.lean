import Typeset.Text.Split

/-!
# Pieces between separators

The pieces of a text are what the library gives: they hold no separator, a text is cut into
pieces at every separator on its own, and joining the pieces puts the text together again.
A text is cut once at a separator that the part before it does not hold.
-/

namespace Typeset.Text

variable {isSeparator : Char → Bool} {separator : Char}

/-! ## All separators -/

theorem splitAll_eq_splitOnP (isSeparator : Char → Bool) (chars : List Char) :
    splitAll isSeparator chars = chars.splitOnP isSeparator := by
  induction chars with
  | nil => rfl
  | cons char rest ih =>
      rw [splitAll, List.splitOnP_cons_eq_if_modifyHead, ih]
      split
      · rfl
      · cases pieces : rest.splitOnP isSeparator with
        | nil => exact absurd pieces (List.splitOnP_ne_nil _ _)
        | cons piece pieces => rfl

theorem splitAll_ne_nil (isSeparator : Char → Bool) (chars : List Char) :
    splitAll isSeparator chars ≠ [] := by
  rw [splitAll_eq_splitOnP]
  exact List.splitOnP_ne_nil _ _

theorem splitAll_append_cons (before after : List Char) {char : Char}
    (separates : isSeparator char = true) :
    splitAll isSeparator (before ++ char :: after) =
      splitAll isSeparator before ++ splitAll isSeparator after := by
  simp only [splitAll_eq_splitOnP]
  exact List.splitOnP_append_cons before after separates

theorem splitAll_of_unseparated {chars : List Char}
    (unseparated : ∀ char ∈ chars, isSeparator char = false) :
    splitAll isSeparator chars = [chars] := by
  rw [splitAll_eq_splitOnP]
  exact List.splitOnP_eq_singleton unseparated

theorem unseparated_of_mem_splitAll {chars piece : List Char}
    (member : piece ∈ splitAll isSeparator chars) :
    ∀ char ∈ piece, isSeparator char = false := by
  induction chars generalizing piece with
  | nil =>
      cases List.mem_singleton.mp member
      simp
  | cons first rest ih =>
      rw [splitAll] at member
      split at member
      · rcases List.mem_cons.mp member with rfl | later
        · simp
        · exact ih later
      · next plain =>
          split at member
          · next nothing => exact absurd nothing (splitAll_ne_nil _ _)
          · next head pieces split =>
              rcases List.mem_cons.mp member with rfl | later
              · have inHead := ih (split ▸ List.mem_cons_self)
                exact List.forall_mem_cons.mpr ⟨by simpa using plain, inHead⟩
              · exact ih (split ▸ List.mem_cons_of_mem _ later)

/-- The pieces between single separators are the texts without one that make up the whole. -/
theorem splitAll_eq_iff {chars : List Char} {pieces : List (List Char)} :
    splitAll (· == separator) chars = pieces ↔
      pieces ≠ [] ∧ (∀ piece ∈ pieces, separator ∉ piece) ∧
        [separator].intercalate pieces = chars := by
  have library : splitAll (· == separator) chars = chars.splitOn separator := by
    rw [splitAll_eq_splitOnP, List.splitOn_eq_splitOnP]
  constructor
  · rintro rfl
    refine ⟨splitAll_ne_nil _ _, ?_, ?_⟩
    · intro piece member inside
      have outside := unseparated_of_mem_splitAll member separator inside
      simp at outside
    · rw [library]
      exact List.intercalate_splitOn separator
  · rintro ⟨some_piece, outside, rfl⟩
    rw [library]
    exact List.splitOn_intercalate separator outside some_piece

/-! ## Joined texts -/

theorem mem_intercalate_iff {wanted separator : Char} (different : wanted ≠ separator)
    (texts : List (List Char)) :
    wanted ∈ [separator].intercalate texts ↔ ∃ text ∈ texts, wanted ∈ text := by
  induction texts with
  | nil => simp
  | cons text texts ih =>
      cases texts with
      | nil => simp
      | cons next texts => simp [List.intercalate_cons_cons, different, ih]

/-! ## The first separator -/

theorem splitFirst?_eq_some_iff {chars before after : List Char} :
    splitFirst? separator chars = some (before, after) ↔
      chars = before ++ separator :: after ∧ separator ∉ before := by
  induction chars generalizing before with
  | nil => simp [splitFirst?]
  | cons char rest ih =>
      rw [splitFirst?]
      by_cases here : char = separator
      · subst here
        rw [if_pos rfl, Option.some.injEq, Prod.mk.injEq]
        constructor
        · rintro ⟨rfl, rfl⟩
          exact ⟨rfl, List.not_mem_nil⟩
        · rintro ⟨same, absent⟩
          cases before with
          | nil => exact ⟨rfl, (List.cons.inj same).2⟩
          | cons first front =>
              cases (List.cons.inj same).1
              exact absurd List.mem_cons_self absent
      · rw [if_neg here, Option.map_eq_some_iff]
        constructor
        · rintro ⟨⟨front, back⟩, found, pair⟩
          cases pair
          rcases ih.mp found with ⟨rfl, absent⟩
          refine ⟨rfl, fun member => ?_⟩
          exact (List.mem_cons.mp member).elim (fun same => here same.symm) absent
        · rintro ⟨same, absent⟩
          cases before with
          | nil => exact absurd (List.cons.inj same).1 here
          | cons first front =>
              rcases List.cons.inj same with ⟨rfl, rest⟩
              exact ⟨(front, after), ih.mpr ⟨rest, fun member => absent (.tail _ member)⟩, rfl⟩

theorem splitFirst?_eq_none_iff {chars : List Char} :
    splitFirst? separator chars = none ↔ separator ∉ chars := by
  constructor
  · intro nothing member
    rcases List.eq_append_cons_of_mem member with ⟨before, after, split, first⟩
    cases nothing.symm.trans (splitFirst?_eq_some_iff.mpr ⟨split, first⟩)
  · intro absent
    cases found : splitFirst? separator chars with
    | none => rfl
    | some parts =>
        rcases splitFirst?_eq_some_iff.mp found with ⟨split, _⟩
        exact absurd (by simp [split]) absent

/-- A text is cut at its first separator in one way. -/
theorem append_cons_inj_first {before before' after after' : List Char}
    (absent : separator ∉ before) (absent' : separator ∉ before') :
    before ++ separator :: after = before' ++ separator :: after' ↔
      before = before' ∧ after = after' := by
  constructor
  · intro same
    have cut : splitFirst? separator (before ++ separator :: after) = some (before, after) :=
      splitFirst?_eq_some_iff.mpr ⟨rfl, absent⟩
    rw [splitFirst?_eq_some_iff.mpr ⟨same, absent'⟩] at cut
    cases cut
    exact ⟨rfl, rfl⟩
  · rintro ⟨rfl, rfl⟩
    rfl

/-- A text is cut at its last separator in one way. -/
theorem append_cons_inj_last {before before' after after' : List Char}
    (absent : separator ∉ after) (absent' : separator ∉ after') :
    before ++ separator :: after = before' ++ separator :: after' ↔
      before = before' ∧ after = after' := by
  have backwards : after.reverse ++ separator :: before.reverse =
        after'.reverse ++ separator :: before'.reverse ↔
      after.reverse = after'.reverse ∧ before.reverse = before'.reverse :=
    append_cons_inj_first (mt List.mem_reverse.mp absent) (mt List.mem_reverse.mp absent')
  rw [List.reverse_inj, List.reverse_inj] at backwards
  rw [and_comm, ← backwards, ← List.reverse_inj]
  simp

end Typeset.Text

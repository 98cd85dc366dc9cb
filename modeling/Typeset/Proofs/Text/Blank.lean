import Typeset.Text.Blank
import Mathlib.Data.List.TakeWhile

/-!
# Texts with blanks at their ends

Trimming a text leaves the one part of it that has nothing but blanks around it and neither
starts nor ends with a blank.
-/

namespace Typeset.Text

/-- A text of blanks only. -/
def AllBlank (chars : List Char) : Prop :=
  ∀ char ∈ chars, isBlank char = true

/-- A text is another one with blanks around it, which has none at its own ends. -/
structure Trims (chars core : List Char) : Prop where
  around : ∃ before after, AllBlank before ∧ AllBlank after ∧ chars = before ++ core ++ after
  head_solid : ∀ char ∈ core.head?, isBlank char = false
  last_solid : ∀ char ∈ core.getLast?, isBlank char = false

variable {chars core before after : List Char}

/-- Classes whose ranges lie apart have no character in common. -/
theorem not_inRanges_of_apart {left right : List (Nat × Nat)} {code : Nat}
    (apart : ∀ range ∈ left, ∀ other ∈ right, range.2 < other.1 ∨ other.2 < range.1)
    (inLeft : inRanges left code = true) : inRanges right code = false := by
  simp only [inRanges, List.any_eq_true, List.any_eq_false, Bool.and_eq_true, decide_eq_true_eq]
    at inLeft ⊢
  rcases inLeft with ⟨range, member, above, below⟩
  rintro other among ⟨above', below'⟩
  have := apart range member other among
  omega

theorem AllBlank.append (first : AllBlank before) (second : AllBlank after) :
    AllBlank (before ++ after) :=
  List.forall_mem_append.mpr ⟨first, second⟩

theorem AllBlank.reverse (blank : AllBlank chars) : AllBlank chars.reverse :=
  fun char member => blank char (List.mem_reverse.mp member)

theorem allBlank_takeWhile (chars : List Char) : AllBlank (chars.takeWhile isBlank) :=
  fun _ => List.mem_takeWhile_imp

/-- Blanks are dropped, and nothing behind the first character that is none. -/
theorem dropWhile_of_solid (blank : AllBlank before)
    (solid : ∀ char ∈ core.head?, isBlank char = false) (rest : core ≠ [] ∨ after = []) :
    (before ++ core ++ after).dropWhile isBlank = core ++ after := by
  rw [List.append_assoc, List.dropWhile_append_of_pos blank]
  cases core with
  | nil =>
      rcases rest with some_core | rfl
      · exact absurd rfl some_core
      · rfl
  | cons char rest =>
      rw [List.cons_append, List.dropWhile_cons_of_neg]
      simp [solid char rfl]

theorem solid_of_head?_dropWhile (chars : List Char) {char : Char}
    (first : (chars.dropWhile isBlank).head? = some char) : isBlank char = false := by
  have head := List.head?_dropWhile_not isBlank chars
  rw [first] at head
  exact head

/-- What is trimmed at the end follows what is left. -/
theorem exists_append_trimBlank (chars : List Char) :
    ∃ after, AllBlank after ∧ chars.dropWhile isBlank = trimBlank chars ++ after := by
  refine ⟨_, (allBlank_takeWhile (chars.dropWhile isBlank).reverse).reverse, ?_⟩
  rw [trimBlank, dropEndWhile, ← List.reverse_append, List.takeWhile_append_dropWhile,
    List.reverse_reverse]

theorem trims_trimBlank (chars : List Char) : Trims chars (trimBlank chars) := by
  rcases exists_append_trimBlank chars with ⟨after, blank, split⟩
  refine ⟨⟨_, after, allBlank_takeWhile chars, blank, ?_⟩, ?_, ?_⟩
  · rw [List.append_assoc, ← split, List.takeWhile_append_dropWhile]
  · intro char first
    apply solid_of_head?_dropWhile chars
    rw [split, List.head?_append, Option.mem_def.mp first]
    rfl
  · intro char last
    apply solid_of_head?_dropWhile (chars.dropWhile isBlank).reverse
    rw [← List.getLast?_reverse]
    exact last

theorem trimBlank_eq_iff : trimBlank chars = core ↔ Trims chars core := by
  constructor
  · rintro rfl
    exact trims_trimBlank chars
  · rintro ⟨⟨before, after, blank, blank', rfl⟩, head, last⟩
    rw [trimBlank]
    cases core with
    | nil =>
        have nothing : (before ++ [] ++ after).dropWhile isBlank = [] :=
          List.dropWhile_eq_nil_iff.mpr (by simpa [AllBlank] using blank.append blank')
        rw [nothing]
        rfl
    | cons char rest =>
        have some_core : char :: rest ≠ [] := List.cons_ne_nil _ _
        rw [dropWhile_of_solid blank head (.inl some_core), dropEndWhile, List.reverse_append]
        rw [← List.head?_reverse] at last
        have back := dropWhile_of_solid blank'.reverse last (.inr rfl)
        rw [List.append_nil, List.append_nil] at back
        rw [back, List.reverse_reverse]

end Typeset.Text

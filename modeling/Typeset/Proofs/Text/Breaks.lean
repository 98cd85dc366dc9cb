import Mathlib.Data.List.Basic
import Mathlib.Data.List.Induction
import Mathlib.Data.List.TakeWhile
import Typeset.Proofs.Text.Lines

/-!
# Unified line breaks

A carriage return, alone or before a line feed, ends a line like a line feed does. So a
text has the same lines when its breaks are unified, each with its own break unified, and
what is left of a line without its break stays as it is. A text can be unified in two
parts unless it is cut between a carriage return and its line feed.
-/

namespace Typeset.Text

/-! ## Cuts -/

/-- No carriage return before a cut belongs to a line feed behind it. -/
def Unsplit (before after : List Char) : Prop :=
  before.getLast? = some '\r' → after.head? ≠ some '\n'

theorem unsplit_nil (after : List Char) : Unsplit [] after := by
  intro impossible
  cases impossible

theorem Unsplit.cons {char : Char} {before after : List Char} (unsplit : Unsplit before after)
    (single : before = [] → char = '\r' → after.head? ≠ some '\n') :
    Unsplit (char :: before) after := by
  intro last
  cases before with
  | nil =>
      simp only [List.getLast?_singleton, Option.some.injEq] at last
      exact single rfl last
  | cons next before =>
      rw [List.getLast?_cons_cons] at last
      exact unsplit last

theorem Unsplit.of_cons {char : Char} {before after : List Char}
    (unsplit : Unsplit (char :: before) after) : Unsplit before after := by
  intro last
  cases before with
  | nil => cases last
  | cons next before =>
      rw [← List.getLast?_cons_cons] at last
      exact unsplit last

/-- A carriage return that ends a line by itself is not followed by a line feed. -/
theorem head_ne_feed_of_single {char : Char} {rest : List Char}
    (single : ∀ after, char = '\r' → rest = '\n' :: after → False) (carriage : char = '\r') :
    rest.head? ≠ some '\n' := by
  intro feed
  rcases List.head?_eq_some_iff.mp feed with ⟨after, begins⟩
  exact single after carriage begins

theorem unsplit_of_head {before after : List Char} (plain : after.head? ≠ some '\n') :
    Unsplit before after :=
  fun _ => plain

/-- In a text that is cut between breaks, a break of one character stays one. -/
theorem Unsplit.single {char : Char} {rest after : List Char}
    (unsplit : Unsplit (char :: rest) after)
    (single : ∀ after, char = '\r' → rest = '\n' :: after → False) (carriage : char = '\r') :
    (rest ++ after).head? ≠ some '\n' := by
  subst carriage
  cases rest with
  | nil => exact unsplit rfl
  | cons next rest => exact @head_ne_feed_of_single _ (next :: rest) single rfl

theorem unsplit_of_not_mem {before after : List Char} (plain : '\r' ∉ before) :
    Unsplit before after := by
  intro last
  exact absurd (List.mem_of_getLast? last) plain

theorem Unbroken.head_ne_feed {chars : List Char} (unbroken : Unbroken chars) :
    chars.head? ≠ some '\n' := by
  intro first
  exact (unbroken '\n' (List.mem_of_head? first)).1 rfl

theorem Unsplit.of_append {before after rest : List Char}
    (unsplit : Unsplit before (after ++ rest)) : Unsplit before after := by
  cases after with
  | nil => exact unsplit_of_head (by decide)
  | cons char after => exact unsplit

/-- A cut that is moved on within a line, up to its break at most, splits no break. -/
theorem Unsplit.append_of_unbroken {before part rest : List Char}
    (unsplit : Unsplit before (part ++ rest)) (unbroken : Unbroken part) :
    Unsplit (before ++ part) rest := by
  intro last
  cases part with
  | nil =>
      rw [List.append_nil] at last
      exact unsplit last
  | cons char part =>
      rw [List.getLast?_append_cons] at last
      exact absurd rfl (unbroken '\r' (List.mem_of_getLast? last)).2

/-- A text that ends with a break, or has no character yet. -/
def AtLineStart (text : List Char) : Prop :=
  ∀ char, text.getLast? = some char → char = '\n' ∨ char = '\r'

theorem atLineStart_cons {char : Char} {text : List Char} :
    AtLineStart (char :: text) ↔ (text = [] → char = '\n' ∨ char = '\r') ∧ AtLineStart text := by
  cases text with
  | nil =>
      simp only [AtLineStart, List.getLast?_singleton, Option.some.injEq, forall_eq',
        List.getLast?_nil, reduceCtorEq, false_implies, implies_true, and_true, true_implies]
  | cons next text =>
      simp only [AtLineStart, List.getLast?_cons_cons, reduceCtorEq, false_implies, true_and]

/-- What stands before a place is whole lines and a part of a line without breaks. -/
theorem exists_line_start (text : List Char) :
    ∃ front part, text = front ++ part ∧ AtLineStart front ∧ Unbroken part := by
  induction text using List.reverseRecOn with
  | nil =>
      refine ⟨[], [], rfl, ?_, ?_⟩
      · rintro char ⟨⟩
      · rintro char ⟨⟩
  | append_singleton text char ih =>
      by_cases ends : char = '\n' ∨ char = '\r'
      · refine ⟨text ++ [char], [], (List.append_nil _).symm, ?_, ?_⟩
        · intro last same
          rw [List.getLast?_concat] at same
          cases same
          exact ends
        · rintro other ⟨⟩
      · rcases ih with ⟨front, part, rfl, start, unbroken⟩
        refine ⟨front, part ++ [char], List.append_assoc _ _ _, start, ?_⟩
        rw [unbroken_append]
        refine ⟨unbroken, ?_⟩
        intro other member
        cases List.mem_singleton.mp member
        exact not_or.mp ends

/-! ## Unifying -/

theorem unifyBreaks_cons {char : Char} {rest : List Char}
    (single : char = '\r' → rest.head? ≠ some '\n') :
    unifyBreaks (char :: rest) = (if char = '\r' then '\n' else char) :: unifyBreaks rest := by
  rw [unifyBreaks]
  rintro after rfl rfl
  exact single rfl rfl

theorem unifyBreaks_append {before after : List Char} (unsplit : Unsplit before after) :
    unifyBreaks (before ++ after) = unifyBreaks before ++ unifyBreaks after := by
  fun_induction unifyBreaks before with
  | case1 => rfl
  | case2 rest ih =>
      simp only [List.cons_append, unifyBreaks, ih unsplit.of_cons.of_cons]
  | case3 char rest single ih =>
      rw [List.cons_append, unifyBreaks_cons (unsplit.single single), ih unsplit.of_cons]
      rfl

theorem not_mem_return_unifyBreaks (text : List Char) : '\r' ∉ unifyBreaks text := by
  fun_induction unifyBreaks text with
  | case1 => exact List.not_mem_nil
  | case2 rest ih =>
      rw [List.mem_cons, not_or]
      exact ⟨by decide, ih⟩
  | case3 char rest _ ih =>
      rw [List.mem_cons, not_or]
      refine ⟨?_, ih⟩
      split
      · decide
      · next other => exact Ne.symm other

theorem unifyBreaks_of_not_mem {text : List Char} (plain : '\r' ∉ text) :
    unifyBreaks text = text := by
  induction text with
  | nil => rfl
  | cons char text ih =>
      rw [List.mem_cons, not_or] at plain
      rcases plain with ⟨other, later⟩
      rw [unifyBreaks_cons fun same => absurd same.symm other, if_neg (Ne.symm other), ih later]

theorem unifyBreaks_append_of_unbroken {before after : List Char} (unbroken : Unbroken after) :
    unifyBreaks (before ++ after) = unifyBreaks before ++ after := by
  rw [unifyBreaks_append (unsplit_of_head unbroken.head_ne_feed),
    unifyBreaks_of_not_mem (not_mem_return_of_unbroken unbroken)]

theorem unifyBreaks_eq_nil_iff {text : List Char} : unifyBreaks text = [] ↔ text = [] := by
  fun_cases unifyBreaks text <;> simp

/-- A text that ends with a break still does when its breaks are unified. -/
theorem AtLineStart.unifyBreaks {text : List Char} (start : AtLineStart text) :
    AtLineStart (unifyBreaks text) := by
  fun_induction Text.unifyBreaks text with
  | case1 => exact start
  | case2 rest ih =>
      rw [atLineStart_cons, atLineStart_cons] at start
      rw [atLineStart_cons]
      exact ⟨fun _ => .inl rfl, ih start.2.2⟩
  | case3 char rest single ih =>
      rw [atLineStart_cons] at start
      rw [atLineStart_cons]
      refine ⟨?_, ih start.2⟩
      intro last
      split
      · exact .inl rfl
      · exact start.1 (unifyBreaks_eq_nil_iff.mp last)

/-! ## Lines -/

theorem splitLines_cons_break {char : Char} {rest : List Char} (ends : isLineBreak char = true)
    (single : char = '\r' → rest.head? ≠ some '\n') :
    splitLines (char :: rest) = [char] :: splitLines rest := by
  rw [splitLines, if_pos ends]
  rintro after rfl rfl
  exact single rfl rfl

theorem splitLines_cons_plain {char : Char} {rest : List Char} (plain : ¬isLineBreak char = true) :
    splitLines (char :: rest) = consLine char (splitLines rest) := by
  rw [splitLines, if_neg plain]
  rintro after rfl _
  exact plain rfl

theorem ne_return_of_plain {char : Char} (plain : ¬isLineBreak char = true) : char ≠ '\r' := by
  rintro rfl
  exact plain rfl

theorem map_unifyBreaks_consLine {char : Char} (other : char ≠ '\r') (lines : List (List Char)) :
    (consLine char lines).map unifyBreaks = consLine char (lines.map unifyBreaks) := by
  have single (line : List Char) : unifyBreaks (char :: line) = char :: unifyBreaks line := by
    rw [unifyBreaks_cons fun same => absurd same other, if_neg other]
  cases lines with
  | nil => exact congrArg (fun line => [line]) (single [])
  | cons line lines => exact congrArg (fun line => line :: lines.map unifyBreaks) (single line)

/-- A text with unified breaks has the lines of the text, each with its break unified. -/
theorem splitLines_unifyBreaks (text : List Char) :
    splitLines (unifyBreaks text) = (splitLines text).map unifyBreaks := by
  fun_induction splitLines text with
  | case1 => rfl
  | case2 rest ih =>
      rw [unifyBreaks, splitLines_cons_break rfl fun same => absurd same (by decide), ih]
      rfl
  | case3 char rest single ends ih =>
      rw [unifyBreaks_cons (head_ne_feed_of_single single), splitLines_cons_break, ih,
        List.map_cons, unifyBreaks_cons fun _ => by decide]
      · rfl
      · split
        · rfl
        · exact ends
      · split
        · intro same
          cases same
        · next other => exact fun same => absurd same other
  | case4 char rest single plain ih =>
      have other := ne_return_of_plain plain
      rw [unifyBreaks_cons fun same => absurd same other, if_neg other,
        splitLines_cons_plain plain, ih, map_unifyBreaks_consLine other]

/-- No line ends between a carriage return and its line feed. -/
theorem unsplit_of_splitLines {text : List Char} {earlier later : List (List Char)}
    (lines : splitLines text = earlier ++ later) : Unsplit earlier.flatten later.flatten := by
  fun_induction splitLines text generalizing earlier with
  | case1 =>
      rcases List.append_eq_nil_iff.mp lines.symm with ⟨rfl, rfl⟩
      exact unsplit_nil _
  | case2 rest ih =>
      cases earlier with
      | nil => exact unsplit_nil _
      | cons line earlier =>
          rcases List.cons.inj lines with ⟨rfl, others⟩
          exact ((ih others).cons fun _ same => absurd same (by decide)).cons fun last =>
            absurd last (List.cons_ne_nil _ _)
  | case3 char rest single ends ih =>
      cases earlier with
      | nil => exact unsplit_nil _
      | cons line earlier =>
          rcases List.cons.inj lines with ⟨rfl, others⟩
          apply (ih others).cons
          rintro none_between rfl feed
          have whole := congrArg List.flatten others
          simp only [flatten_splitLines, List.append_eq, List.flatten_append, none_between,
            List.nil_append] at whole
          rcases List.head?_eq_some_iff.mp feed with ⟨after, starts⟩
          exact single after rfl (whole.trans starts)
  | case4 char rest single plain ih =>
      have other := ne_return_of_plain plain
      cases earlier with
      | nil => exact unsplit_nil _
      | cons line earlier =>
          cases following : splitLines rest with
          | nil =>
              rw [following] at lines
              rcases List.cons.inj lines with ⟨rfl, none_left⟩
              rcases List.append_eq_nil_iff.mp none_left.symm with ⟨rfl, rfl⟩
              exact unsplit_of_head (by decide)
          | cons next others =>
              rw [following] at lines
              rcases List.cons.inj lines with ⟨rfl, rfl⟩
              have kept := @ih (next :: earlier) following
              exact kept.cons fun _ same => absurd same other

/-- A break that ends a line, or nothing behind the last line. -/
def IsEnding (ending : List Char) : Prop :=
  ending = [] ∨ ending = ['\n'] ∨ ending = ['\r'] ∨ ending = ['\r', '\n']

/-- Carriage returns and line feeds stand in a line only as the break at its end. -/
theorem exists_of_mem_splitLines {text line : List Char} (member : line ∈ splitLines text) :
    ∃ part ending, line = part ++ ending ∧ Unbroken part ∧ IsEnding ending := by
  fun_induction splitLines text generalizing line with
  | case1 => cases member
  | case2 rest ih =>
      rcases List.mem_cons.mp member with rfl | later
      · exact ⟨[], _, rfl, unbroken_nil, .inr (.inr (.inr rfl))⟩
      · exact ih later
  | case3 char rest _ _ ih =>
      rcases List.mem_cons.mp member with rfl | later
      · by_cases feed : char = '\n'
        · exact ⟨[], [char], rfl, unbroken_nil, .inr (.inl (by rw [feed]))⟩
        · by_cases carriage : char = '\r'
          · exact ⟨[], [char], rfl, unbroken_nil, .inr (.inr (.inl (by rw [carriage])))⟩
          · exact ⟨[char], [], rfl, unbroken_cons.mpr ⟨⟨feed, carriage⟩, unbroken_nil⟩, .inl rfl⟩
      · exact ih later
  | case4 char rest _ plain ih =>
      have other : char ≠ '\n' ∧ char ≠ '\r' := by
        refine ⟨?_, ne_return_of_plain plain⟩
        rintro rfl
        exact plain rfl
      cases following : splitLines rest with
      | nil =>
          rw [following] at member
          cases List.mem_singleton.mp member
          exact ⟨[char], [], rfl, unbroken_cons.mpr ⟨other, unbroken_nil⟩, .inl rfl⟩
      | cons next others =>
          rw [following] at member ih
          rcases List.mem_cons.mp member with rfl | later
          · rcases ih List.mem_cons_self with ⟨part, ending, rfl, unbroken, ends⟩
            exact ⟨char :: part, ending, rfl, unbroken_cons.mpr ⟨other, unbroken⟩, ends⟩
          · exact ih (List.mem_cons_of_mem _ later)

theorem IsEnding.isBreak {ending : List Char} (ends : IsEnding ending) {char : Char}
    (member : char ∈ ending) : char = '\r' ∨ char = '\n' := by
  rcases ends with rfl | rfl | rfl | rfl
  · cases member
  · exact .inr (List.mem_singleton.mp member)
  · exact .inl (List.mem_singleton.mp member)
  · simpa only [List.mem_cons, List.not_mem_nil, or_false] using member

theorem trimBreak_append {part ending : List Char} (unbroken : Unbroken part)
    (ends : IsEnding ending) : trimBreak (part ++ ending) = part := by
  have breaks : ∀ char ∈ ending.reverse, (char == '\r' || char == '\n') = true := by
    intro char member
    simpa only [Bool.or_eq_true, beq_iff_eq] using ends.isBreak (List.mem_reverse.mp member)
  rw [trimBreak, List.reverse_append, List.dropWhile_append_of_pos breaks,
    List.dropWhile_eq_self_iff.mpr, List.reverse_reverse]
  intro nonempty isBreak
  rcases unbroken _ (List.mem_reverse.mp (List.getElem_mem nonempty)) with ⟨noFeed, noReturn⟩
  rcases Bool.or_eq_true_iff.mp isBreak with carriage | feed
  · exact noReturn (eq_of_beq carriage)
  · exact noFeed (eq_of_beq feed)

theorem IsEnding.unifyBreaks {ending : List Char} (ends : IsEnding ending) :
    IsEnding (unifyBreaks ending) := by
  rcases ends with rfl | rfl | rfl | rfl
  · exact .inl rfl
  · exact .inr (.inl rfl)
  · exact .inr (.inl rfl)
  · exact .inr (.inl rfl)

/-- Without its break a line of a text is not changed when the breaks are unified. -/
theorem trimBreak_unifyBreaks {text line : List Char} (member : line ∈ splitLines text) :
    Unbroken (trimBreak line) ∧ trimBreak (unifyBreaks line) = trimBreak line := by
  rcases exists_of_mem_splitLines member with ⟨part, ending, rfl, unbroken, ends⟩
  have unsplit : Unsplit part ending :=
    unsplit_of_not_mem (not_mem_return_of_unbroken unbroken)
  rw [unifyBreaks_append unsplit,
    unifyBreaks_of_not_mem (not_mem_return_of_unbroken unbroken),
    trimBreak_append unbroken ends, trimBreak_append unbroken ends.unifyBreaks]
  exact ⟨unbroken, rfl⟩

end Typeset.Text

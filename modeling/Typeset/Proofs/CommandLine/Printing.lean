import Typeset.CommandLine.Run
import Mathlib.Data.List.Infix
import Mathlib.Data.List.TakeWhile

/-!
# What a printed line shows

A line is printed with a line feed behind it, and without the sequences in it that would
colour what follows. Exactly the texts that have no such sequence are printed as they are.
-/

namespace Typeset.CommandLine

variable {chars rest : List Char}

/-- Characters that begin with the rest of a colouring sequence, behind its escape. -/
def Colours (chars : List Char) : Prop :=
  ∃ parameters letter after, chars = '[' :: (parameters ++ letter :: after) ∧
    (∀ char ∈ parameters, char.isDigit ∨ char = ';' ∨ char = '?') ∧ letter.isAlpha

/-- Somewhere in a text an escape and what follows it would only colour the text behind. -/
def HasSequence (chars : List Char) : Prop :=
  ∃ before after, chars = before ++ '\x1b' :: after ∧ Colours after

theorem colours_of_colourLength? {length : Nat} (found : colourLength? chars = some length) :
    Colours chars := by
  rcases chars with - | ⟨first, rest⟩
  · cases found
  · by_cases bracket : first = '['
    · subst bracket
      generalize split : rest.takeWhile
        (fun char => char.isDigit || char == ';' || char == '?') = parameters at found
      have front : parameters ++ rest.drop parameters.length = rest := by
        rw [← split]
        exact (List.prefix_append_drop (List.takeWhile_prefix _)).symm
      simp only [colourLength?, split] at found
      cases behind : rest.drop parameters.length with
      | nil =>
          rw [behind] at found
          cases found
      | cons letter after =>
          rw [behind] at front found
          refine ⟨parameters, letter, after, by rw [front], ?_, ?_⟩
          · intro char member
            rw [← split] at member
            have counts := List.mem_takeWhile_imp member
            simpa [or_assoc] using counts
          · by_contra noLetter
            simp [noLetter] at found
    · simp [colourLength?, bracket] at found

theorem not_isDigit_of_isAlpha {letter : Char} (isLetter : letter.isAlpha) : ¬letter.isDigit := by
  intro isDigit
  have digit : '0'.val ≤ letter.val ∧ letter.val ≤ '9'.val := by
    simpa [Char.isDigit] using isDigit
  rcases (Bool.or_eq_true _ _).mp isLetter with upper | lower
  · have range : 'A'.val ≤ letter.val ∧ letter.val ≤ 'Z'.val := of_decide_eq_true upper
    exact absurd (UInt32.le_trans range.1 digit.2) (by decide)
  · have first : 'a'.val ≤ letter.val := of_decide_eq_true ((Bool.and_eq_true _ _).mp lower).1
    exact absurd (UInt32.le_trans first digit.2) (by decide)

theorem exists_colourLength? (colours : Colours chars) :
    ∃ length, colourLength? chars = some length := by
  rcases colours with ⟨parameters, letter, after, rfl, counts, isLetter⟩
  have noParameter : (letter.isDigit || letter == ';' || letter == '?') = false := by
    by_contra parameter
    simp only [Bool.not_eq_false, Bool.or_eq_true, beq_iff_eq] at parameter
    rcases parameter with (isDigit | rfl) | rfl
    · exact not_isDigit_of_isAlpha isLetter isDigit
    · cases isLetter
    · cases isLetter
  have split : (parameters ++ letter :: after).takeWhile
      (fun char => char.isDigit || char == ';' || char == '?') = parameters := by
    rw [List.takeWhile_append_of_pos (by simpa [or_assoc] using counts),
      List.takeWhile_cons_of_neg (by simp [noParameter]), List.append_nil]
  refine ⟨parameters.length + 2, ?_⟩
  simp only [colourLength?, split, List.drop_left, isLetter, if_true]

theorem length_plainFrom_le (skip : Nat) (chars : List Char) :
    (plainFrom skip chars).length ≤ chars.length := by
  fun_induction plainFrom skip chars
  all_goals
    simp only [List.length_cons, List.length_nil] at *
    omega

/-- Something is left out of a text with a sequence. -/
theorem length_plainFrom_lt (before : List Char) {after : List Char} (colours : Colours after) :
    (plainFrom 0 (before ++ '\x1b' :: after)).length < (before ++ '\x1b' :: after).length := by
  have dropped {rest : List Char} {length : Nat} (found : colourLength? rest = some length) :
      (plainFrom 0 ('\x1b' :: rest)).length < ('\x1b' :: rest).length := by
    simp only [plainFrom, ne_eq, not_true_eq_false, if_false, if_true, found, List.length_cons]
    exact Nat.lt_succ_of_le (length_plainFrom_le _ _)
  induction before with
  | nil =>
      rcases exists_colourLength? colours with ⟨length, found⟩
      exact dropped found
  | cons char before ih =>
      rw [List.cons_append]
      by_cases escape : char = '\x1b'
      · subst escape
        cases found : colourLength? (before ++ '\x1b' :: after) with
        | some length => exact dropped found
        | none =>
            simp only [plainFrom, ne_eq, not_true_eq_false, if_false, if_true, found,
              List.length_cons]
            exact Nat.succ_lt_succ ih
      · simp only [plainFrom, ne_eq, not_true_eq_false, if_false, if_neg escape, List.length_cons]
        exact Nat.succ_lt_succ ih

theorem plainFrom_of_not_hasSequence (plain : ¬HasSequence chars) : plainFrom 0 chars = chars := by
  induction chars with
  | nil => rfl
  | cons char rest ih =>
      have later : plainFrom 0 rest = rest := by
        apply ih
        rintro ⟨before, after, rfl, colours⟩
        exact plain ⟨char :: before, after, rfl, colours⟩
      by_cases escape : char = '\x1b'
      · subst escape
        cases found : colourLength? rest with
        | some length => exact absurd ⟨[], rest, rfl, colours_of_colourLength? found⟩ plain
        | none => simp only [plainFrom, ne_eq, not_true_eq_false, if_false, if_true, found, later]
      · simp only [plainFrom, ne_eq, not_true_eq_false, if_false, if_neg escape, later]

/-- A text is printed as it is exactly if it has no sequence that would be left out. -/
theorem printed_eq_iff (text : String) :
    printed text = text ++ "\n" ↔ ¬HasSequence text.toList := by
  rw [printed, String.append_left_inj]
  constructor
  · rintro same ⟨before, after, split, colours⟩
    have shorter := length_plainFrom_lt before colours
    have kept : plainFrom 0 text.toList = text.toList := by
      rw [← String.toList_ofList (l := plainFrom 0 text.toList), same]
    rw [← split, kept] at shorter
    exact Nat.lt_irrefl _ shorter
  · intro plain
    rw [plainFrom_of_not_hasSequence plain, String.ofList_toList]

/-- The lines as they are printed, one after another. -/
def printedAll (lines : List String) : String :=
  String.join (lines.map printed)

end Typeset.CommandLine

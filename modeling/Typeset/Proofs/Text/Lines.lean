import Typeset.Text.Lines

/-!
# Lines put together again

The lines of a text are the text cut into pieces, each with its break; without its break
a line is a prefix of what it was.
-/

namespace Typeset.Text

/-- A text without carriage returns and line feeds. -/
def Unbroken (chars : List Char) : Prop :=
  ∀ char ∈ chars, char ≠ '\n' ∧ char ≠ '\r'

instance : DecidablePred Unbroken := fun chars =>
  chars.decidableBAll _

theorem unbroken_nil : Unbroken [] :=
  fun _ member => absurd member List.not_mem_nil

theorem unbroken_cons {char : Char} {chars : List Char} :
    Unbroken (char :: chars) ↔ (char ≠ '\n' ∧ char ≠ '\r') ∧ Unbroken chars :=
  List.forall_mem_cons

theorem unbroken_append {left right : List Char} :
    Unbroken (left ++ right) ↔ Unbroken left ∧ Unbroken right :=
  List.forall_mem_append

theorem flatten_consLine (char : Char) (lines : List (List Char)) :
    (consLine char lines).flatten = char :: lines.flatten := by
  cases lines <;> rfl

theorem flatten_splitLines (text : List Char) : (splitLines text).flatten = text := by
  fun_induction splitLines text with
  | case1 => rfl
  | case2 rest ih => simp only [List.flatten_cons, ih, List.cons_append, List.nil_append]
  | case3 char rest _ _ ih => simp only [List.flatten_cons, ih, List.cons_append, List.nil_append]
  | case4 char rest _ _ ih => simp only [flatten_consLine, ih]

theorem flatten_splitFeeds (text : List Char) : (splitFeeds text).flatten = text := by
  fun_induction splitFeeds text with
  | case1 => rfl
  | case2 rest ih => simp only [List.flatten_cons, ih, List.cons_append, List.nil_append]
  | case3 char rest _ ih => simp only [flatten_consLine, ih]

theorem not_mem_return_of_unbroken {chars : List Char} (unbroken : Unbroken chars) :
    '\r' ∉ chars :=
  fun member => (unbroken '\r' member).2 rfl

/-- Only carriage returns and line feeds are taken from the end of a line. -/
theorem exists_append_trimBreak (line : List Char) :
    ∃ breaks, line = trimBreak line ++ breaks ∧ ∀ char ∈ breaks, char = '\r' ∨ char = '\n' := by
  let isBreak (char : Char) : Bool := char == '\r' || char == '\n'
  refine ⟨(line.reverse.takeWhile isBreak).reverse, ?_, ?_⟩
  · have parts := congrArg List.reverse (@List.takeWhile_append_dropWhile _ isBreak line.reverse)
    rw [List.reverse_append, List.reverse_reverse] at parts
    exact parts.symm
  · intro char member
    have breaks := List.all_eq_true.mp List.all_takeWhile _ (List.mem_reverse.mp member)
    simpa [isBreak] using breaks

theorem after?_eq_some_iff {start chars rest : List Char} :
    after? start chars = some rest ↔ chars = start ++ rest := by
  fun_induction after? start chars with
  | case1 chars => simp
  | case2 head tail => simp
  | case3 char start chars ih => simp [ih]
  | case4 head start char chars different => simp [Ne.symm different]

theorem after?_append (start rest : List Char) : after? start (start ++ rest) = some rest :=
  after?_eq_some_iff.mpr rfl

theorem takeWhile_append_drop (holds : Char → Bool) (chars : List Char) :
    chars.takeWhile holds ++ chars.drop (chars.takeWhile holds).length = chars :=
  List.prefix_iff_eq_append.mp (List.takeWhile_prefix holds)

end Typeset.Text

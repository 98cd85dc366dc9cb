import Typeset.LineMarkup.Line
import Typeset.Proofs.Text.Lines

/-!
# What is recognized in a line

An inclusion, a definition, a stray bracket and a call stand in a line as they are
written: the line is what precedes them, their own text, and what follows.
-/

namespace Typeset.LineMarkup

open Text

theorem eq_append_of_takeName? {chars name rest : List Char}
    (taken : takeName? chars = some (name, rest)) : chars = name ++ rest := by
  simp only [takeName?] at taken
  split at taken
  · cases taken
  · cases taken
    exact (List.takeWhile_append_dropWhile).symm

theorem not_mem_takeWhile_quote (chars : List Char) :
    '"' ∉ chars.takeWhile fun char => decide (char ≠ '"') := by
  intro member
  have plain := List.all_eq_true.mp List.all_takeWhile _ member
  exact of_decide_eq_true plain rfl

/-- The text of a line that binds a name from a file. -/
theorem eq_append_of_inclusion? {line : List Char} {wanted : Inclusion}
    (found : inclusion? line = some wanted) :
    '"' ∉ wanted.path ∧
      ∃ rest, line = inclusionStart ++ wanted.path ++ ("\": ".toList ++ (wanted.name ++ rest)) := by
  simp only [inclusion?, Option.bind_eq_bind, Option.bind_eq_some_iff, after?_eq_some_iff] at found
  rcases found with ⟨rest, rfl, afterPath, quoted, ⟨name, last⟩, named, given⟩
  cases given
  refine ⟨not_mem_takeWhile_quote rest, last, ?_⟩
  have parts := takeWhile_append_drop (fun char => decide (char ≠ '"')) rest
  rw [quoted, eq_append_of_takeName? named] at parts
  simp only [List.append_assoc] at parts ⊢
  rw [parts]

/-- The text of a definition up to its value. -/
def definitionStart (name : List Char) : List Char :=
  "#let ".toList ++ name ++ " =".toList

theorem eq_append_of_definition? {line : List Char} {definition : Definition}
    (found : definition? line = some definition) :
    line = definitionStart definition.name ++ definition.rest := by
  simp only [definition?, Option.bind_eq_bind, Option.bind_eq_some_iff, after?_eq_some_iff] at found
  rcases found with ⟨afterStart, rfl, ⟨name, afterName⟩, named, rest, rfl, given⟩
  cases given
  rw [eq_append_of_takeName? named]
  unfold definitionStart
  simp only [List.append_assoc]

/-- A stray bracket is the first bracket of its line. -/
theorem eq_append_of_strayBracket? {line : List Char} {place : Nat}
    (found : strayBracket? line = some place) :
    ∃ head tail, line = head ++ ']' :: tail ∧ place = head.length ∧
      '[' ∉ head ∧ ']' ∉ head := by
  fun_induction strayBracket? line generalizing place with
  | case1 => cases found
  | case2 rest =>
      cases found
      exact ⟨[], rest, rfl, rfl, by simp, by simp⟩
  | case3 rest _ => cases found
  | case4 char rest notClosing notOpening ih =>
      rcases Option.map_eq_some_iff.mp found with ⟨later, inRest, rfl⟩
      rcases ih inRest with ⟨head, tail, rfl, rfl, noOpening, noClosing⟩
      refine ⟨char :: head, tail, rfl, rfl, ?_, ?_⟩
      · simp [noOpening, Ne.symm notOpening]
      · simp [noClosing, Ne.symm notClosing]

/-- The text of a call. -/
def Call.text (call : Call) : List Char :=
  call.kind.start ++ call.argument ++ "\")".toList

theorem Call.length_text (call : Call) : call.text.length = call.length := by
  simp only [Call.text, Call.length, List.length_append]
  rfl

theorem eq_append_of_call? {chars : List Char} {call : Call} (found : call? chars = some call) :
    '"' ∉ call.argument ∧ ∃ rest, chars = call.text ++ rest := by
  rcases List.exists_of_findSome?_eq_some found with ⟨kind, _, matched⟩
  simp only [callOf?, Option.bind_eq_bind, Option.bind_eq_some_iff, after?_eq_some_iff] at matched
  rcases matched with ⟨rest, rfl, tail, closed, given⟩
  cases given
  refine ⟨not_mem_takeWhile_quote rest, tail, ?_⟩
  have parts := takeWhile_append_drop (fun char => decide (char ≠ '"')) rest
  rw [closed] at parts
  simp only [Call.text, List.append_assoc]
  rw [parts]

/-- Every call among the pieces of a line stands at its place. -/
theorem exists_of_mem_piecesFrom {place skip : Nat} {chars : List Char} {start : Nat} {call : Call}
    (member : .call start call ∈ piecesFrom place skip chars) :
    '"' ∉ call.argument ∧
      ∃ head tail, chars = head ++ call.text ++ tail ∧ start = place + head.length := by
  fun_induction piecesFrom place skip chars with
  | case1 => cases member
  | case2 place skip char rest skips ih =>
      rcases ih member with ⟨unquoted, head, tail, rfl, rfl⟩
      refine ⟨unquoted, char :: head, tail, rfl, ?_⟩
      simp only [List.length_cons]
      omega
  | case3 place skip char rest reads found isCall ih =>
      rcases List.mem_cons.mp member with same | later
      · cases same
        rcases eq_append_of_call? isCall with ⟨unquoted, tail, whole⟩
        exact ⟨unquoted, [], tail, whole, rfl⟩
      · rcases ih later with ⟨unquoted, head, tail, rfl, rfl⟩
        refine ⟨unquoted, char :: head, tail, rfl, ?_⟩
        simp only [List.length_cons]
        omega
  | case4 place skip char rest reads noCall ih =>
      rcases List.mem_cons.mp member with same | later
      · cases same
      · rcases ih later with ⟨unquoted, head, tail, rfl, rfl⟩
        refine ⟨unquoted, char :: head, tail, rfl, ?_⟩
        simp only [List.length_cons]
        omega

theorem exists_of_mem_pieces {line : List Char} {start : Nat} {call : Call}
    (member : .call start call ∈ pieces line) :
    '"' ∉ call.argument ∧
      ∃ head tail, line = head ++ call.text ++ tail ∧ start = head.length := by
  rcases exists_of_mem_piecesFrom member with ⟨unquoted, head, tail, whole, rfl⟩
  exact ⟨unquoted, head, tail, whole, Nat.zero_add _⟩

end Typeset.LineMarkup

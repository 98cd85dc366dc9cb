import Typeset.LineMarkup.Compiler
import Typeset.Proofs.Reading.Plain

/-!
# The compiler asks plainly

The compiler of the line markup reads the text of sources, the size of files and the
text of errors, and gives up when a read breaks off; only a zero character in the path
of an inclusion is reported like an error.
-/

namespace Typeset

open Reading

namespace LineMarkup

theorem steady_inclusionTarget {path : String} {id : FileId}
    (named : inclusionTarget path = .ok id) : id.Steady := by
  simp only [inclusionTarget] at named
  split at named
  · cases parsed : PackageSpec.parse? path with
    | none =>
        simp only [parsed] at named
        cases named
    | some spec =>
        simp only [parsed] at named
        cases named
        intro other _ component member
        have only : (VirtualPath.parse "lib.typ").components = ["lib.typ"] := by
          decide
        have same := List.mem_singleton.mp (only ▸ member)
        simp only [same]
        decide
  · cases named
    intro spec impossible
    cases impossible

theorem plain_inclusionText (path : String) : PlainStep (inclusionText path) := by
  simp only [inclusionText]
  cases named : inclusionTarget path with
  | error reason => exact .pure _
  | ok id =>
      apply PlainStep.source
      · intro left right same
        dsimp only
        simp only [Source.text_eq_of_pristine_eq same]
      · intro left right same
        dsimp only
        simp only [FileError.text_eq_of_bare_eq same]
      · intro answer
        cases answer with
        | ok source => exact .pure _
        | error error => exact .pure _
      · intro fault
        cases fault with
        | invalidValue message =>
            exact .inr ⟨steady_inclusionTarget named, ⟨message, rfl⟩, .pure _⟩
        | _ => exact .inl ⟨_, rfl⟩

theorem plain_includeName (progress : Progress) (line : List Char) (offset : Nat)
    (wanted : Inclusion) : PlainStep (includeName progress line offset wanted) := by
  apply (plain_inclusionText _).bind
  intro text
  cases text with
  | error reason => exact .pure _
  | ok found =>
      dsimp only
      split <;> exact .pure _

theorem plain_answerCall (progress : Progress) (line : List Char) (offset place : Nat)
    (call : Call) : PlainStep (answerCall progress line offset place call) := by
  simp only [answerCall]
  cases call.kind with
  | warn => exact .pure _
  | input =>
      apply PlainStep.library
      · intro left right same
        simp only [same]
      · intro library
        exact .pure _
  | image =>
      apply PlainStep.file
      · intro left right same
        dsimp only
        simp only [FileError.text_eq_of_bare_eq same]
      · intro answer
        cases answer <;> exact .pure _
      · intro fault
        exact ⟨fault, rfl⟩

theorem plain_answerCalls (progress : Progress) (line : List Char) (offset : Nat)
    (pieces : List Piece) : PlainStep (answerCalls progress line offset pieces) := by
  induction pieces generalizing progress with
  | nil => exact .pure _
  | cons piece pieces ih =>
      cases piece with
      | char char =>
          apply (ih progress).bind
          intro answered
          exact .pure _
      | call place call =>
          apply (plain_answerCall progress line offset place call).bind
          intro answered
          apply (ih answered.2).bind
          intro rest
          exact .pure _

theorem plain_insertToday (line : List Char) : PlainStep (insertToday line) := by
  simp only [insertToday]
  split
  · apply PlainStep.today
    intro answer
    cases answer with
    | error fault => exact .throw fault
    | ok date => exact .pure _
  · exact .pure _

theorem plain_addText (progress : Progress) (line : List Char) (offset : Nat) :
    PlainStep (addText progress line offset) := by
  apply (plain_answerCalls progress line offset (pieces line)).bind
  intro answered
  apply (plain_insertToday answered.1).bind
  intro text
  exact .pure _

theorem plain_takeLine (progress : Progress) (line : List Char) (offset : Nat) :
    PlainStep (takeLine progress line offset) := by
  simp only [takeLine]
  split
  · exact .pure _
  · split
    · exact plain_includeName progress line offset _
    · split
      · exact .pure _
      · split
        · exact .pure _
        · exact plain_addText progress line offset

theorem plain_takeLines (progress : Progress) (offset : Nat) (lines : List (List Char)) :
    PlainStep (takeLines progress offset lines) := by
  induction lines generalizing progress offset with
  | nil => exact .pure _
  | cons line lines ih =>
      apply (plain_takeLine progress _ offset).bind
      intro progress
      apply ih

theorem plain_mainText : PlainStep mainText := by
  apply PlainStep.source
  · intro left right same
    dsimp only
    simp only [Source.text_eq_of_pristine_eq same]
  · intro left right same
    dsimp only
    simp only [FileError.text_eq_of_bare_eq same]
  · intro answer
    cases answer with
    | ok source => exact .pure _
    | error error => exact .throw _
  · intro fault
    exact .inl ⟨fault, rfl⟩

theorem plain_compileMain : PlainStep compileMain := by
  apply plain_mainText.bind
  intro text
  apply (plain_takeLines .start 0 _).bind
  intro progress
  exact .pure _

end LineMarkup

end Typeset

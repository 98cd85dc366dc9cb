import Typeset.LineMarkup.Compiler
import Typeset.Proofs.Reading.Periods

/-!
# Dates in the markup

The compiler of the line markup asks for no date but today's in universal time, once for
every line that has it.
-/

namespace Typeset.LineMarkup

open Reading

/-- Today's date in universal time is asked for. -/
def AsksToday (request : DayRequest) : Prop :=
  request = .hoursAhead 0

theorem asksToday_inclusionText (path : String) : AsksDaysStep AsksToday (inclusionText path) := by
  simp only [inclusionText]
  cases inclusionTarget path with
  | error reason => exact .pure _
  | ok id =>
      apply AsksDaysStep.source
      intro answer
      cases answer with
      | value source => exact .pure _
      | failed error => exact .pure _
      | broken fault => cases fault <;> first | exact .pure _ | exact .throw _

theorem asksToday_includeName (progress : Progress) (line : List Char) (offset : Nat)
    (wanted : Inclusion) : AsksDaysStep AsksToday (includeName progress line offset wanted) := by
  apply (asksToday_inclusionText _).bind
  intro text
  cases text with
  | error reason => exact .pure _
  | ok found =>
      dsimp only
      split <;> exact .pure _

theorem asksToday_answerCall (progress : Progress) (line : List Char) (offset place : Nat)
    (call : Call) : AsksDaysStep AsksToday (answerCall progress line offset place call) := by
  simp only [answerCall]
  cases call.kind with
  | warn => exact .pure _
  | input =>
      apply AsksDaysStep.library
      intro library
      exact .pure _
  | image =>
      apply AsksDaysStep.file
      intro answer
      cases answer with
      | value data => exact .pure _
      | failed error => exact .pure _
      | broken fault => exact .throw fault

theorem asksToday_answerCalls (progress : Progress) (line : List Char) (offset : Nat)
    (pieces : List Piece) : AsksDaysStep AsksToday (answerCalls progress line offset pieces) := by
  induction pieces generalizing progress with
  | nil => exact .pure _
  | cons piece pieces ih =>
      cases piece with
      | char char =>
          apply (ih progress).bind
          intro answered
          exact .pure _
      | call place call =>
          apply (asksToday_answerCall progress line offset place call).bind
          intro answered
          apply (ih answered.2).bind
          intro rest
          exact .pure _

theorem asksToday_insertToday (line : List Char) : AsksDaysStep AsksToday (insertToday line) := by
  simp only [insertToday]
  split
  · have asked : AsksToday (.hoursAhead 0) := rfl
    apply AsksDaysStep.today asked
    intro answer
    cases answer with
    | error fault => exact .throw fault
    | ok date => exact .pure _
  · exact .pure _

theorem asksToday_addText (progress : Progress) (line : List Char) (offset : Nat) :
    AsksDaysStep AsksToday (addText progress line offset) := by
  apply (asksToday_answerCalls progress line offset (pieces line)).bind
  intro answered
  apply (asksToday_insertToday answered.1).bind
  intro text
  exact .pure _

theorem asksToday_takeLine (progress : Progress) (line : List Char) (offset : Nat) :
    AsksDaysStep AsksToday (takeLine progress line offset) := by
  simp only [takeLine]
  split
  · exact .pure _
  · split
    · exact asksToday_includeName progress line offset _
    · split
      · exact .pure _
      · split
        · exact .pure _
        · exact asksToday_addText progress line offset

theorem asksToday_takeLines (progress : Progress) (offset : Nat) (lines : List (List Char)) :
    AsksDaysStep AsksToday (takeLines progress offset lines) := by
  induction lines generalizing progress offset with
  | nil => exact .pure _
  | cons line lines ih =>
      apply (asksToday_takeLine progress _ offset).bind
      intro progress
      apply ih

theorem asksToday_compiler (target : Target) : (compiler target).AsksDays AsksToday := by
  have main : AsksDaysStep AsksToday mainText := by
    apply AsksDaysStep.source
    intro answer
    cases answer with
    | value source => exact .pure _
    | failed error => exact .throw _
    | broken fault => exact .throw fault
  have all : AsksDaysStep AsksToday compileMain := by
    apply main.bind
    intro text
    apply (asksToday_takeLines .start 0 _).bind
    intro progress
    exact .pure _
  exact AsksDays.andThen all fun result => trivial

end Typeset.LineMarkup

import Mathlib.Data.List.Forall2
import Typeset.LineMarkup.Compiler
import Typeset.Proofs.Reading.Abreast
import Typeset.Proofs.Text.Breaks
import Typeset.Proofs.World.VirtualFiles

/-!
# Compiling a text with unified breaks

The compiler takes the lines of a text without their breaks, so it makes the same pages
of the text with its breaks unified. The bytes of what it notes in the main text are
others, but what stands before them in the one text is, with its breaks unified, what
stands before them in the other.
-/

namespace Typeset

open Text Reading

/-- A range of the main text and the same range of the text with unified breaks. -/
inductive SourceSpan.Moves (text : List Char) : SourceSpan → SourceSpan → Prop
  | inMain {before middle after : List Char} (parts : text = before ++ middle ++ after)
      (unsplit : Unsplit before (middle ++ after)) :
      Moves text (.within .main (Utf8.length before) (Utf8.length (before ++ middle)))
        (.within .main (Utf8.length (unifyBreaks before))
          (Utf8.length (unifyBreaks (before ++ middle))))
  | elsewhere {span : SourceSpan} (other : span.id ≠ some .main) : Moves text span span

/-- What is noted of a text, and of the text with unified breaks. -/
structure SourceDiagnostic.Moves (text : List Char) (first second : SourceDiagnostic) : Prop where
  severity : second.severity = first.severity
  message : second.message = first.message
  span : first.span.Moves text second.span
  untraced : first.trace = [] ∧ second.trace = []
  hints : second.hints = first.hints

namespace LineMarkup

open FileCache

variable {text : List Char} {first second : Source}

/-- What was found in a text, and in the text with unified breaks. -/
structure Progress.Moves (text : List Char) (left right : Progress) : Prop where
  finished : right.finished = left.finished
  current : right.current = left.current
  bindings : right.bindings = left.bindings
  errors : List.Forall₂ (SourceDiagnostic.Moves text) left.errors right.errors
  warnings : List.Forall₂ (SourceDiagnostic.Moves text) left.warnings right.warnings

namespace Progress.Moves

variable {left right : Progress}

theorem start : Moves text .start .start :=
  ⟨rfl, rfl, rfl, .nil, .nil⟩

theorem pages (moves : Moves text left right) : right.pages = left.pages := by
  rw [Progress.pages, Progress.pages, moves.finished, moves.current]

theorem breakPage (moves : Moves text left right) :
    Moves text left.breakPage right.breakPage :=
  ⟨moves.pages, rfl, moves.bindings, moves.errors, moves.warnings⟩

theorem addError (moves : Moves text left right) {error error' : SourceDiagnostic}
    (new : error.Moves text error') : Moves text (left.addError error) (right.addError error') :=
  ⟨moves.finished, moves.current, moves.bindings,
    List.rel_append moves.errors (.cons new .nil), moves.warnings⟩

theorem addErrors (moves : Moves text left right) {errors : List SourceDiagnostic}
    (new : ∀ error ∈ errors, error.Moves text error) :
    Moves text (errors.foldl Progress.addError left) (errors.foldl Progress.addError right) := by
  induction errors generalizing left right with
  | nil => exact moves
  | cons error errors ih =>
      rcases List.forall_mem_cons.mp new with ⟨here, later⟩
      exact ih (moves.addError here) later

theorem addWarning (moves : Moves text left right) {warning warning' : SourceDiagnostic}
    (new : warning.Moves text warning') :
    Moves text (left.addWarning warning) (right.addWarning warning') :=
  ⟨moves.finished, moves.current, moves.bindings, moves.errors,
    List.rel_append moves.warnings (.cons new .nil)⟩

theorem addLine (moves : Moves text left right) (line : List Char) :
    Moves text (left.addLine line) (right.addLine line) := by
  refine ⟨moves.finished, ?_, moves.bindings, moves.errors, moves.warnings⟩
  rw [Progress.addLine, Progress.addLine, moves.current]

theorem bind (moves : Moves text left right) (name value : String) :
    Moves text (left.bind name value) (right.bind name value) := by
  refine ⟨moves.finished, moves.current, ?_, moves.errors, moves.warnings⟩
  rw [Progress.bind, Progress.bind, moves.bindings]

theorem value? (moves : Moves text left right) : right.value? = left.value? := by
  funext name
  rw [Progress.value?, Progress.value?, moves.bindings]

end Progress.Moves

theorem moves_error {span span' : SourceSpan} (moves : span.Moves text span') (message : String)
    (hints : List String) :
    (SourceDiagnostic.error span message hints).Moves text (.error span' message hints) :=
  ⟨rfl, rfl, moves, ⟨rfl, rfl⟩, rfl⟩

/-! ## Places -/

/-- A line without its break, and where it starts in a text and in the text with unified breaks. -/
def StandsAt (text line : List Char) (offset other : Nat) : Prop :=
  ∃ earlier whole later, splitLines text = earlier ++ whole :: later ∧ line = trimBreak whole ∧
    offset = Utf8.length earlier.flatten ∧ other = Utf8.length (unifyBreaks earlier.flatten)

theorem StandsAt.unbroken {line : List Char} {offset other : Nat}
    (stands : StandsAt text line offset other) : Unbroken line := by
  rcases stands with ⟨earlier, whole, later, lines, rfl, _, _⟩
  have member : whole ∈ splitLines text := by
    rw [lines]
    exact List.mem_append_right _ List.mem_cons_self
  exact (trimBreak_unifyBreaks member).1

theorem exists_parts {start stop : Nat} (order : start ≤ stop) (line : List Char) :
    ∃ head middle tail, line = head ++ middle ++ tail ∧ line.take start = head ∧
      line.take stop = head ++ middle := by
  have inner := List.take_append_drop start (line.take stop)
  rw [List.take_take, Nat.min_eq_left order] at inner
  refine ⟨line.take start, (line.take stop).drop start, line.drop stop, ?_, rfl, inner.symm⟩
  rw [inner, List.take_append_drop]

theorem moves_spanOf {line : List Char} {offset other start stop : Nat}
    (stands : StandsAt text line offset other) (order : start ≤ stop) :
    (spanOf line offset start stop).Moves text (spanOf line other start stop) := by
  have unbroken := stands.unbroken
  rcases stands with ⟨earlier, whole, later, lines, isLine, rfl, rfl⟩
  rcases exists_append_trimBreak whole with ⟨breaks, ends, _⟩
  rcases exists_parts order line with ⟨head, middle, tail, parts, isHead, isMiddle⟩
  rw [parts, unbroken_append] at unbroken
  have unsplit := unsplit_of_splitLines lines
  have text_parts : text = earlier.flatten ++ (whole :: later).flatten := by
    rw [← List.flatten_append, ← lines, flatten_splitLines]
  have rest : (whole :: later).flatten =
      head ++ (middle ++ (tail ++ breaks ++ later.flatten)) := by
    rw [List.flatten_cons, ends, ← isLine, parts]
    simp only [List.append_assoc]
  rw [rest] at unsplit text_parts
  have moves := @SourceSpan.Moves.inMain text (earlier.flatten ++ head) middle
    (tail ++ breaks ++ later.flatten) (by simp only [text_parts, List.append_assoc])
    (unsplit.append_of_unbroken (unbroken_append.mp unbroken.1).1)
  rw [List.append_assoc, unifyBreaks_append_of_unbroken unbroken.1,
    unifyBreaks_append_of_unbroken (unbroken_append.mp unbroken.1).1] at moves
  rw [spanOf, spanOf, isHead, isMiddle]
  simp only [Utf8.length_append] at moves ⊢
  exact moves

/-! ## Inclusions -/

theorem ne_main_of_inclusionTarget {path : String} {id : FileId}
    (named : inclusionTarget path = .ok id) : id ≠ .main := by
  simp only [inclusionTarget] at named
  split at named
  · split at named
    · cases named
      intro same
      cases congrArg FileId.origin same
    · cases named
  · cases named
    rw [World.join_main]
    exact World.project_ne_main _

theorem abreast_inclusionText (path : String) :
    AbreastStep first second
      (fun found other => found = other ∧
        ∀ id content, found = .ok (id, content) → id ≠ FileId.main)
      (inclusionText path) (inclusionText path) := by
  simp only [inclusionText]
  cases named : inclusionTarget path with
  | error reason => exact .pure ⟨rfl, nofun⟩
  | ok id =>
      have elsewhere := ne_main_of_inclusionTarget named
      apply AbreastStep.source elsewhere
      intro answer
      cases answer with
      | value source =>
          apply AbreastStep.pure
          refine ⟨rfl, ?_⟩
          rintro _ _ ⟨⟩
          exact elsewhere
      | failed error => exact .pure ⟨rfl, nofun⟩
      | broken fault =>
          cases fault with
          | invalidValue reason => exact .pure ⟨rfl, nofun⟩
          | _ => exact .throw _

theorem moves_splitDefinitions {id : FileId} (elsewhere : id ≠ .main)
    (found : List FileDefinition) :
    ∀ error ∈ (splitDefinitions id found).2, error.Moves text error := by
  intro error member
  rcases List.mem_map.mp member with ⟨definition, _, rfl⟩
  apply moves_error
  apply SourceSpan.Moves.elsewhere
  intro same
  exact elsewhere (Option.some.inj same)

variable {left right : Progress} {line : List Char} {offset other : Nat}

theorem abreast_includeName (moves : Progress.Moves text left right)
    (stands : StandsAt text line offset other) (wanted : Inclusion) :
    AbreastStep first second (Progress.Moves text) (includeName left line offset wanted)
      (includeName right line other wanted) := by
  have path := moves_spanOf stands (Nat.le_add_right inclusionStart.length wanted.path.length)
  apply (abreast_inclusionText _).bind
  rintro found _ ⟨rfl, elsewhere⟩
  cases found with
  | error reason => exact .pure (moves.addError (moves_error path _ _))
  | ok included =>
      rcases included with ⟨id, content⟩
      have kept := moves.addErrors
        (moves_splitDefinitions (elsewhere id content rfl) (definitions content.toList))
      dsimp only
      split
      · exact .pure (kept.bind _ _)
      · exact .pure (kept.addError (moves_error path _ _))

/-! ## Lines -/

theorem moves_define (moves : Progress.Moves text left right)
    (stands : StandsAt text line offset other) (definition : Definition) :
    Progress.Moves text (define left line offset definition)
      (define right line other definition) := by
  simp only [define]
  split
  · exact moves.addError (moves_error (moves_spanOf stands (Nat.le_refl _)) _ _)
  · exact moves.bind _ _

/-- A call or all calls of a line give one text, and note the same in both. -/
def AnswersAlike (text : List Char) (answered answered' : List Char × Progress) : Prop :=
  answered.1 = answered'.1 ∧ Progress.Moves text answered.2 answered'.2

theorem abreast_answerCall (moves : Progress.Moves text left right)
    (stands : StandsAt text line offset other) (place : Nat) (call : Call) :
    AbreastStep first second (AnswersAlike text) (answerCall left line offset place call)
      (answerCall right line other place call) := by
  simp only [answerCall]
  cases call.kind with
  | warn =>
      have span := moves_spanOf stands (Nat.le_add_right place call.length)
      exact .pure ⟨rfl, moves.addWarning ⟨rfl, rfl, span, ⟨rfl, rfl⟩, rfl⟩⟩
  | input =>
      apply AbreastStep.library
      intro library
      exact .pure ⟨rfl, moves⟩
  | image =>
      have elsewhere : FileId.main.join (String.ofList call.argument) ≠ .main := by
        rw [World.join_main]
        exact World.project_ne_main _
      apply AbreastStep.file elsewhere
      intro answer
      cases answer with
      | value data => exact .pure ⟨rfl, moves⟩
      | failed error =>
          have span := moves_spanOf stands
            (Nat.le_add_right (place + CallKind.image.start.length) call.argument.length)
          exact .pure ⟨rfl, moves.addError (moves_error span _ _)⟩
      | broken fault => exact .throw fault

theorem abreast_answerCalls (moves : Progress.Moves text left right)
    (stands : StandsAt text line offset other) (found : List Piece) :
    AbreastStep first second (AnswersAlike text) (answerCalls left line offset found)
      (answerCalls right line other found) := by
  induction found generalizing left right with
  | nil => exact .pure ⟨rfl, moves⟩
  | cons piece found ih =>
      cases piece with
      | char char =>
          apply (ih moves).bind
          rintro ⟨answer, answered⟩ ⟨_, _⟩ ⟨rfl, kept⟩
          exact .pure ⟨rfl, kept⟩
      | call place call =>
          apply (abreast_answerCall moves stands place call).bind
          rintro ⟨answer, answered⟩ ⟨_, _⟩ ⟨rfl, kept⟩
          apply (ih kept).bind
          rintro ⟨rest, finished⟩ ⟨_, _⟩ ⟨rfl, all⟩
          exact .pure ⟨rfl, all⟩

theorem abreast_insertToday (line : List Char) :
    AbreastStep first second (fun dated other => dated = other) (insertToday line)
      (insertToday line) := by
  simp only [insertToday]
  split
  · apply AbreastStep.today
    intro answer
    cases answer with
    | error fault => exact .throw fault
    | ok date => exact .pure rfl
  · exact .pure rfl

theorem abreast_addText (moves : Progress.Moves text left right)
    (stands : StandsAt text line offset other) :
    AbreastStep first second (Progress.Moves text) (addText left line offset)
      (addText right line other) := by
  apply (abreast_answerCalls moves stands (pieces line)).bind
  rintro ⟨answer, answered⟩ ⟨_, _⟩ ⟨rfl, kept⟩
  apply (abreast_insertToday answer).bind
  rintro dated _ rfl
  apply AbreastStep.pure
  rw [kept.value?]
  exact kept.addLine _

theorem abreast_takeLine (moves : Progress.Moves text left right)
    (stands : StandsAt text line offset other) :
    AbreastStep first second (Progress.Moves text) (takeLine left line offset)
      (takeLine right line other) := by
  simp only [takeLine]
  split
  · exact .pure moves.breakPage
  · split
    · exact abreast_includeName moves stands _
    · split
      · exact .pure (moves_define moves stands _)
      · split
        · next place _ =>
            have span := moves_spanOf stands (Nat.le_succ place)
            exact .pure (moves.addError (moves_error span _ _))
        · exact abreast_addText moves stands

/-- The lines of a text and those of the text with unified breaks are taken in abreast. -/
theorem abreast_takeLines (moves : Progress.Moves text left right)
    {earlier lines : List (List Char)} (cut : splitLines text = earlier ++ lines)
    (place : offset = Utf8.length earlier.flatten)
    (otherPlace : other = Utf8.length (unifyBreaks earlier.flatten)) :
    AbreastStep first second (Progress.Moves text) (takeLines left offset lines)
      (takeLines right other (lines.map unifyBreaks)) := by
  -- the lines that were taken grow at the end, as do their bytes with unified breaks
  induction lines generalizing left right offset other earlier with
  | nil => exact .pure moves
  | cons line lines ih =>
      have member : line ∈ splitLines text := by
        rw [cut]
        exact List.mem_append_right _ List.mem_cons_self
      have unsplit : Unsplit earlier.flatten line := by
        have whole := unsplit_of_splitLines cut
        rw [List.flatten_cons] at whole
        exact whole.of_append
      have grown : (earlier ++ [line]).flatten = earlier.flatten ++ line := by
        rw [List.flatten_append, List.flatten_singleton]
      rw [List.map_cons, takeLines, takeLines, (trimBreak_unifyBreaks member).2]
      apply (abreast_takeLine moves ⟨earlier, line, lines, cut, rfl, place, otherPlace⟩).bind
      intro progress progress' kept
      apply @ih progress progress' _ _ kept (earlier ++ [line])
      · rw [cut, List.append_assoc]
        rfl
      · rw [place, grown, Utf8.length_append]
      · rw [otherPlace, grown, unifyBreaks_append unsplit, Utf8.length_append]

/-! ## Compiling -/

/-- What a compile gives of a text, and of the text with unified breaks. -/
structure OutputMoves (text : List Char) (output output' : CompileOutput Page) : Prop where
  document : output'.document = output.document
  errors : List.Forall₂ (SourceDiagnostic.Moves text) output.errors output'.errors
  warnings : List.Forall₂ (SourceDiagnostic.Moves text) output.warnings output'.warnings

theorem moves_output (moves : Progress.Moves text left right) :
    OutputMoves text (output left) (output right) := by
  have errors := moves.errors
  cases found : left.errors with
  | nil =>
      rw [found, List.forall₂_nil_left_iff] at errors
      rw [output, output, if_pos found, if_pos errors, moves.pages]
      exact ⟨rfl, .nil, moves.warnings⟩
  | cons error others =>
      rw [found] at errors
      rcases List.forall₂_cons_left_iff.mp errors with ⟨error', others', _, _, found'⟩
      have some_errors : left.errors ≠ [] := by
        rw [found]
        exact List.cons_ne_nil _ _
      have some_errors' : right.errors ≠ [] := by
        rw [found']
        exact List.cons_ne_nil _ _
      rw [output, output, if_neg some_errors, if_neg some_errors']
      exact ⟨rfl, moves.errors, moves.warnings⟩

/-- Given a text and the text with unified breaks, a compile makes the same pages of them. -/
theorem abreast_compiler (texts : second.text.toList = unifyBreaks first.text.toList)
    (target : Target) :
    Abreast first second
      (fun result result' => EndAlike (OutputMoves first.text.toList) result.2 result'.2)
      (compiler target) (compiler target) := by
  have main : AbreastStep first second
      (fun content content' => content = first.text ∧ content' = second.text) mainText mainText :=
    .mainText (.pure ⟨rfl, rfl⟩)
  have all : AbreastStep first second (OutputMoves first.text.toList) compileMain compileMain := by
    apply main.bind
    rintro _ _ ⟨rfl, rfl⟩
    rw [texts, splitLines_unifyBreaks]
    apply (abreast_takeLines .start (List.nil_append _).symm rfl rfl).bind
    intro progress progress' moves
    exact .pure (moves_output moves)
  apply Abreast.andThen all
  intro result result' alike
  exact .done alike

end LineMarkup

end Typeset

import Typeset.Proofs.LineMarkup.Breaks
import Typeset.Proofs.Session.History
import Typeset.Proofs.Source.Breaks

/-!
# A compile does not depend on how lines are broken

In one session, a text and the text with unified breaks are compiled to the same document,
or the compiles fail alike. What is shown of the one says the same as what is shown of the
other, at the same lines and columns; only the bytes of the main text are others.
-/

namespace Typeset

open Text Reading

/-- A range that is shown of a text, and of the text with unified breaks. -/
structure Span.Moves (text : List Char) (first second : Span) : Prop where
  line : second.line = first.line
  column : second.column = first.column
  bytes : (second.start = first.start ∧ second.stop = first.stop) ∨
    first.position?.isSome ∧ ∃ before middle after, text = before ++ middle ++ after ∧
      first.start = Utf8.length before ∧ first.stop = Utf8.length (before ++ middle) ∧
      second.start = Utf8.length (unifyBreaks before) ∧
      second.stop = Utf8.length (unifyBreaks (before ++ middle))

/-- A diagnostic that is shown of a text, and of the text with unified breaks. -/
structure Diagnostic.Moves (text : List Char) (first second : Diagnostic) : Prop where
  severity : second.severity = first.severity
  message : second.message = first.message
  span : Option.Rel (Span.Moves text) first.span second.span
  trace : second.trace = first.trace
  hints : second.hints = first.hints

/-- The failure of a compile of a text, and of the text with unified breaks. -/
structure SessionError.Moves (text : List Char) (first second : SessionError) : Prop where
  kind : second.kind = first.kind
  message : second.message = first.message
  diagnostics : List.Forall₂ (Diagnostic.Moves text) first.diagnostics second.diagnostics
  shown : second.text = first.text

variable {text : List Char} {first second : Source}

/-! ## What is shown -/

theorem Span.Moves.refl (text : List Char) (span : Span) : Moves text span span :=
  ⟨rfl, rfl, .inl ⟨rfl, rfl⟩⟩

theorem Span.Moves.location {shown shown' : Option Span}
    (moves : Option.Rel (Span.Moves text) shown shown') :
    Diagnostic.location shown' = Diagnostic.location shown := by
  cases moves with
  | none => rfl
  | @some first second moves =>
      rcases first with ⟨start, stop, line, column⟩
      rcases second with ⟨start', stop', line', column'⟩
      rcases moves with ⟨rfl, rfl, ⟨rfl, rfl⟩ | ⟨known, _⟩⟩
      · rfl
      · -- a range that has a position is shown by it, whatever its bytes are
        rcases Option.isSome_iff_exists.mp known with ⟨⟨line, column⟩, found⟩
        have found' : Span.position? ⟨start', stop', line', column'⟩ = some (line, column) := found
        simp only [Diagnostic.location, Diagnostic.positionText, Option.bind_some, found, found']

theorem Diagnostic.Moves.render {first second : Diagnostic} (moves : Moves text first second) :
    second.render = first.render := by
  rw [Diagnostic.render, Diagnostic.render, lines, lines, Span.Moves.location moves.span,
    moves.severity, moves.message, moves.trace, moves.hints]

theorem render_of_moves {diagnostics diagnostics' : List Diagnostic}
    (moves : List.Forall₂ (Diagnostic.Moves text) diagnostics diagnostics') :
    diagnostics'.map Diagnostic.render = diagnostics.map Diagnostic.render := by
  induction moves with
  | nil => rfl
  | cons moves _ ih => rw [List.map_cons, List.map_cons, moves.render, ih]

theorem errorsOf_of_moves {diagnostics diagnostics' : List Diagnostic}
    (moves : List.Forall₂ (Diagnostic.Moves text) diagnostics diagnostics') :
    (SessionError.errorsOf diagnostics').length = (SessionError.errorsOf diagnostics).length := by
  induction moves with
  | nil => rfl
  | @cons first second _ _ moves _ ih =>
      have same : second.isError = first.isError := by
        rw [Diagnostic.isError, Diagnostic.isError, moves.severity]
      simp only [SessionError.errorsOf, List.filter_cons, same] at ih ⊢
      split
      · rw [List.length_cons, List.length_cons, ih]
      · exact ih

/-- Compiles that fail of diagnostics that belong together fail alike. -/
theorem moves_ofDiagnostics {diagnostics diagnostics' : List Diagnostic}
    (moves : List.Forall₂ (Diagnostic.Moves text) diagnostics diagnostics') :
    (SessionError.ofDiagnostics .compile diagnostics none).Moves text
      (.ofDiagnostics .compile diagnostics' none) := by
  have message :
      SessionError.countMessage diagnostics' = SessionError.countMessage diagnostics := by
    unfold SessionError.countMessage
    rw [errorsOf_of_moves moves]
  refine ⟨rfl, message, moves, ?_⟩
  have lengths := moves.length_eq
  have lines : (SessionError.ofDiagnostics .compile diagnostics' none).lines =
      (SessionError.ofDiagnostics .compile diagnostics none).lines := by
    simp only [SessionError.lines, SessionError.ofDiagnostics, message, List.map_take,
      render_of_moves moves, lengths]
  rw [SessionError.text, SessionError.text, lines]

/-! ## Positions -/

namespace SourceSpan

theorem moves_locateIn (wellFormed : first.WellFormed) (alsoWellFormed : second.WellFormed)
    (texts : second.text.toList = unifyBreaks first.text.toList) {before middle after : List Char}
    (parts : first.text.toList = before ++ middle ++ after)
    (unsplit : Unsplit before (middle ++ after)) :
    Span.Moves first.text.toList
      (locateIn first (Utf8.length before) (Utf8.length (before ++ middle)))
      (locateIn second (Utf8.length (unifyBreaks before))
        (Utf8.length (unifyBreaks (before ++ middle)))) := by
  have whole := parts
  rw [List.append_assoc] at whole
  rcases wellFormed.position_unifyBreaks alsoWellFormed texts whole unsplit with
    ⟨line, column, isLine, isColumn, alsoLine, alsoColumn⟩
  simp only [locateIn, isLine, isColumn, alsoLine, alsoColumn]
  exact ⟨rfl, rfl, .inr ⟨rfl, before, middle, after, parts, rfl, rfl, rfl, rfl⟩⟩

theorem abreast_locate (wellFormed : first.WellFormed) (alsoWellFormed : second.WellFormed)
    (texts : second.text.toList = unifyBreaks first.text.toList) {span span' : SourceSpan}
    (moves : span.Moves first.text.toList span') :
    AbreastStep first second (Option.Rel (Span.Moves first.text.toList)) span.locate
      span'.locate := by
  cases moves with
  | inMain parts unsplit =>
      apply AbreastStep.mainText
      exact .pure (.some (moves_locateIn wellFormed alsoWellFormed texts parts unsplit))
  | elsewhere other =>
      have same (shown : Option Span) : Option.Rel (Span.Moves first.text.toList) shown shown := by
        cases shown with
        | none => exact .none
        | some shown => exact .some (.refl _ shown)
      rw [locate]
      cases span.range? with
      | none => exact .pure (same _)
      | some range =>
          cases identified : span.id with
          | none => exact .pure (same _)
          | some id =>
              have elsewhere : id ≠ .main := by
                rintro rfl
                exact other identified
              apply AbreastStep.source elsewhere
              intro answer
              cases answer with
              | value source => exact .pure (same _)
              | failed error => exact .pure (same _)
              | broken fault => exact .throw fault

end SourceSpan

namespace SourceDiagnostic

variable (wellFormed : first.WellFormed) (alsoWellFormed : second.WellFormed)
  (texts : second.text.toList = unifyBreaks first.text.toList)

include wellFormed alsoWellFormed texts

theorem abreast_locate {told told' : SourceDiagnostic}
    (moves : told.Moves first.text.toList told') :
    AbreastStep first second (Diagnostic.Moves first.text.toList) told.locate told'.locate := by
  rw [locate, locate, moves.severity, moves.message, moves.hints, moves.untraced.1,
    moves.untraced.2]
  cases Severity.read told.severity with
  | error fault => exact .throw fault
  | ok severity =>
      apply (SourceSpan.abreast_locate wellFormed alsoWellFormed texts moves.span).bind
      intro position position' same
      exact .pure ⟨rfl, rfl, same, rfl, rfl⟩

theorem abreast_locateAll {told told' : List SourceDiagnostic}
    (moves : List.Forall₂ (Moves first.text.toList) told told') :
    AbreastStep first second (List.Forall₂ (Diagnostic.Moves first.text.toList)) (locateAll told)
      (locateAll told') := by
  induction moves with
  | nil => exact .pure .nil
  | cons moves _ ih =>
      apply (abreast_locate wellFormed alsoWellFormed texts moves).bind
      intro shown shown' same
      apply ih.bind
      intro others others' rest
      exact .pure (.cons same rest)

end SourceDiagnostic

namespace Session

open LineMarkup

/-- What a compile answers of a text, and of the text with unified breaks. -/
inductive AnswerMoves (text : List Char) :
    Except SessionFailure CompileResult → Except SessionFailure CompileResult → Prop
  | compiled {first second : CompileResult} (pageCount : second.pageCount = first.pageCount)
      (warnings : List.Forall₂ (Diagnostic.Moves text) first.warnings second.warnings) :
      AnswerMoves text (.ok first) (.ok second)
  | failed {first second : SessionError} (moves : first.Moves text second) :
      AnswerMoves text (.error (.reported first)) (.error (.reported second))
  | brokenOff (fault : Fault) :
      AnswerMoves text (.error (.broken fault)) (.error (.broken fault))

/-- What the questions of a compile tell of a text, and of the text with unified breaks. -/
def ConsultsAlike (text : List Char)
    (answer answer' : Unit × Except Fault (CompileOutput Page × List Diagnostic)) : Prop :=
  EndAlike (fun found found' => found'.1.document = found.1.document ∧
    List.Forall₂ (Diagnostic.Moves text) found.2 found'.2) answer.2 answer'.2

theorem moves_toldOfPages {output output' : CompileOutput Page}
    (moves : OutputMoves text output output') :
    List.Forall₂ (SourceDiagnostic.Moves text) (toldOfPages output) (toldOfPages output') := by
  rw [toldOfPages, toldOfPages, moves.document]
  cases output.document with
  | none => exact List.rel_append moves.errors moves.warnings
  | some document => exact moves.warnings

theorem abreast_consult (wellFormed : first.WellFormed) (alsoWellFormed : second.WellFormed)
    (texts : second.text.toList = unifyBreaks first.text.toList) :
    Abreast first second (ConsultsAlike first.text.toList)
      (consult compiler .paged toldOfPages) (consult compiler .paged toldOfPages) := by
  apply (abreast_compiler texts .paged).andThen
  rintro ⟨notes, verdict⟩ ⟨_, verdict'⟩ alike
  cases alike with
  | error fault => exact .done (.error fault)
  | ok moves =>
      apply Abreast.andThen (SourceDiagnostic.abreast_locateAll wellFormed alsoWellFormed texts
        (moves_toldOfPages moves))
      intro located located' alike
      cases alike with
      | error fault => exact .done (.error fault)
      | ok shown => exact .done (.ok ⟨moves.document, shown⟩)

theorem moves_concludePages
    {answer answer' : Unit × Except Fault (CompileOutput Page × List Diagnostic)}
    (alike : ConsultsAlike text answer answer') (world world' : World) :
    (concludePages world' answer').2.document = (concludePages world answer).2.document ∧
      AnswerMoves text (concludePages world answer).1.2 (concludePages world' answer').1.2 := by
  rcases answer with ⟨notes, verdict⟩
  rcases answer' with ⟨notes', verdict'⟩
  cases alike with
  | error fault => exact ⟨rfl, .brokenOff fault⟩
  | @ok found found' moves =>
      rcases found with ⟨⟨_, errors, warnings⟩, shown⟩
      rcases found' with ⟨⟨made, errors', warnings'⟩, shown'⟩
      rcases moves with ⟨rfl, moves⟩
      cases made with
      | none => exact ⟨rfl, .failed (moves_ofDiagnostics moves)⟩
      | some document => exact ⟨rfl, .compiled rfl moves⟩

/-- A compile of a text that was made the main text of a session. -/
def compileOf (session : Session Page) (markup : String) :
    (Unit × Except SessionFailure CompileResult) × Session Page :=
  (compile LineMarkup.compiler).run (session.call (.setMarkup (ν := Unit) markup))

theorem mainSource_started (session : Session Page) (markup : String) :
    ((session.call (.setMarkup (ν := Unit) markup)).started .paged).mainSource =
      (session.world.mainSource.replace markup).1 :=
  rfl

theorem started_replacing (session : Session Page) (markup unified : String) :
    (session.call (.setMarkup (ν := Unit) unified)).started .paged =
      ((session.call (.setMarkup (ν := Unit) markup)).started .paged).replacing unified
        (session.world.mainSource.replace unified).1
        ((session.call (.setMarkup (ν := Unit) markup)).started .paged).clock :=
  rfl

theorem compileOf_unified {session : Session Page} {readings : List (Except FileError Bytes)}
    (sound : session.world.Sound readings) {markup unified : String}
    (texts : unified.toList = unifyBreaks markup.toList) :
    (session.compileOf unified).2.document = (session.compileOf markup).2.document ∧
      AnswerMoves markup.toList (session.compileOf markup).1.2 (session.compileOf unified).1.2 := by
  have wellFormed := (Source.WellFormed.of_pristine_eq sound.main).1
  have sources : (session.world.mainSource.replace unified).1.text.toList =
      unifyBreaks (session.world.mainSource.replace markup).1.text.toList := by
    rw [Source.text_replace, Source.text_replace, texts]
  have abreast := abreast_consult (wellFormed.replace markup) (wellFormed.replace unified) sources
  rw [Source.text_replace] at abreast
  have alike := abreast.run (mainSource_started session markup) unified
  rw [← started_replacing] at alike
  rw [compileOf, compileOf, run_compile, run_compile, consulted, consulted]
  exact moves_concludePages alike _ _

/-! ## The main result -/

/--
Every place of a text that splits no break has a line and a column, and the place that
belongs to it in the text with unified breaks has the same. Whatever a session was called
for, a compile of the text and one of the text with unified breaks leave the same document
and answer alike: with the same warnings, with failures that read the same, or with one
fault. Of what is shown, only the bytes in the main text differ.
-/
theorem same_positions_of_unified_breaks (root : HostPath) (fonts : Fonts)
    (packages : PackageStorage) (clock : Clock) (host : Host) (calls : List (Call Page Unit))
    (markup : String) :
    let unified := String.ofList (unifyBreaks markup.toList)
    let session := after (World.make root fonts packages clock host) calls
    (∀ (id : FileId) (before after : List Char), markup.toList = before ++ after →
      Unsplit before after →
      unified.toList = unifyBreaks before ++ unifyBreaks after ∧
      ∃ line column,
        (Source.ofText id markup).lineOf? (Utf8.length before) = some line ∧
        (Source.ofText id markup).columnOf? (Utf8.length before) = some column ∧
        (Source.ofText id unified).lineOf? (Utf8.length (unifyBreaks before)) = some line ∧
        (Source.ofText id unified).columnOf? (Utf8.length (unifyBreaks before)) = some column) ∧
    (session.compileOf unified).2.document = (session.compileOf markup).2.document ∧
    AnswerMoves markup.toList (session.compileOf markup).1.2 (session.compileOf unified).1.2 := by
  intro unified session
  have texts : unified.toList = unifyBreaks markup.toList := String.toList_ofList
  refine ⟨?_, ?_⟩
  · intro id before after parts unsplit
    have wellFormed (text : String) : (Source.ofText id text).WellFormed := rfl
    refine ⟨?_, (wellFormed markup).position_unifyBreaks (wellFormed unified) texts parts unsplit⟩
    rw [texts, parts, unifyBreaks_append unsplit]
  · have sound : session.world.Sound (hashed (World.make root fonts packages clock host) calls) :=
      (sound_after (.make [] root fonts packages clock host) calls).1
    exact compileOf_unified sound texts

end Session

end Typeset

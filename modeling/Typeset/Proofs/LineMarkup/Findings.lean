import Typeset.LineMarkup.Compiler
import Typeset.Proofs.LineMarkup.Line
import Typeset.Proofs.Reading.Amid
import Typeset.Proofs.Text.Utf8

/-!
# What the compiler finds

Every error and every warning of a compile names the bytes of the text that it is
about: a stray bracket, a whole warning call, a path between its quotes, or the empty
place behind a definition without a value, be it in the main text or in a file that it
includes. Lines are cut at breaks of every kind, and the bytes before a line are those
of all lines before it, so the place in the line atHand the place in the text.
-/

namespace Typeset.LineMarkup

open Reading Text

/-- What is wrong with a part of a line, given what stands before and behind it. -/
inductive Flags : List Char → List Char → List Char → Severity → String → Prop
  | bracket {head tail : List Char} (unopened : '[' ∉ head) (first : ']' ∉ head) :
      Flags head [']'] tail .error "unexpected closing bracket"
  | warning {head argument tail : List Char} (unquoted : '"' ∉ argument) :
      Flags head ("#warn(\"".toList ++ argument ++ "\")".toList) tail .warning
        (String.ofList argument)
  | image {head path tail : List Char} {error : FileError} (unquoted : '"' ∉ path) :
      Flags (head ++ "#image(\"".toList) path ("\")".toList ++ tail) .error error.text
  | unreadable {path name tail : List Char} {reason : String} (unquoted : '"' ∉ path) :
      Flags "#import \"".toList path ("\": ".toList ++ (name ++ tail)) .error
        s!"cannot import {String.ofList path}: {reason}"
  | unbound {path name tail : List Char} (unquoted : '"' ∉ path) :
      Flags "#import \"".toList path ("\": ".toList ++ (name ++ tail)) .error
        s!"{String.ofList path} has no binding '{String.ofList name}'"
  | valueless {name blanks : List Char} (blank : trimBlank blanks = []) :
      Flags (definitionStart name ++ blanks) [] [] .error "expected expression"

/--
What is wrong with a part of a file, behind a given text. In the main text it is a part
of a line without its break; in an included file it is the place behind a definition
that has no value up to the next one.
-/
inductive Offends (text : List Char) : FileId → List Char → List Char → Severity → String → Prop
  | inMain {earlier later : List (List Char)} {line head middle tail : List Char}
      {severity : Severity} {message : String}
      (lines : splitLines text = earlier ++ line :: later)
      (parts : trimBreak line = head ++ middle ++ tail)
      (flags : Flags head middle tail severity message) :
      Offends text .main (earlier.flatten ++ head) middle severity message
  | inFile {path : String} {id : FileId} {earlier later : List (List Char)}
      {line name rest : List Char} (included : inclusionTarget path = .ok id)
      (lines : splitFeeds text = earlier ++ line :: later)
      (parts : line = definitionStart name ++ rest)
      (blank : trimBlank (rest ++
        (later.takeWhile fun line => (definition? line).isNone).flatten) = []) :
      Offends text id (earlier.flatten ++ definitionStart name) [] .error
        "expected expression"

/-- What offends is a part of the text. -/
theorem Offends.eq_append {text before middle : List Char} {id : FileId} {severity : Severity}
    {message : String} (offends : Offends text id before middle severity message) :
    ∃ after, text = before ++ middle ++ after := by
  cases offends with
  | @inMain earlier later line head _ tail _ _ lines parts _ =>
      rcases exists_append_trimBreak line with ⟨breaks, whole, _⟩
      refine ⟨tail ++ breaks ++ later.flatten, ?_⟩
      rw [← flatten_splitLines text, lines, List.flatten_append, List.flatten_cons, whole, parts]
      simp only [List.append_assoc]
  | @inFile _ _ earlier later line name rest _ lines parts _ =>
      refine ⟨rest ++ later.flatten, ?_⟩
      rw [← flatten_splitFeeds text, lines, List.flatten_append, List.flatten_cons, parts]
      simp only [List.append_assoc, List.nil_append]

/-- A diagnostic names the bytes of what it is about. -/
def Pinpoints (world : World) (diagnostic : SourceDiagnostic) : Prop :=
  ∃ id source before middle severity, world.AtHand id (.ok source) ∧
    diagnostic.severity = severity.name ∧
    diagnostic.span = .within id (Utf8.length before) (Utf8.length (before ++ middle)) ∧
    Offends source.text.toList id before middle severity diagnostic.message

variable {world : World}

/-- A line of the main text, without its break, and the bytes before it. -/
def IsLineAt (world : World) (line : List Char) (offset : Nat) : Prop :=
  ∃ source earlier whole later, world.AtHand .main (.ok source) ∧
    splitLines source.text.toList = earlier ++ whole :: later ∧
    line = trimBreak whole ∧ offset = Utf8.length earlier.flatten

/-! ## The main text -/

theorem pinpoints_of_flags {line head middle tail : List Char} {offset start stop : Nat}
    {severity : Severity} {message : String} (isLine : IsLineAt world line offset)
    (parts : line = head ++ middle ++ tail) (begins : start = head.length)
    (ends : stop = (head ++ middle).length) (flags : Flags head middle tail severity message)
    (trace : List (SourceSpan × String)) (hints : List String) :
    Pinpoints world ⟨severity.name, message, spanOf line offset start stop, trace, hints⟩ := by
  rcases isLine with ⟨source, earlier, whole, later, atHand, lines, rfl, rfl⟩
  refine ⟨.main, source, earlier.flatten ++ head, middle, severity, atHand, rfl, ?_,
    .inMain lines parts flags⟩
  subst begins ends
  rw [spanOf, parts, List.take_left, List.append_assoc head, List.take_left]
  simp only [Utf8.length_append, List.append_assoc]

/-! ## Progress -/

/-- All errors and warnings that were found so far meet a condition. -/
def Progress.All (met : SourceDiagnostic → Prop) (progress : Progress) : Prop :=
  (∀ error ∈ progress.errors, met error) ∧ ∀ warning ∈ progress.warnings, met warning

namespace Progress.All

variable {met : SourceDiagnostic → Prop} {progress : Progress}

theorem start : Progress.start.All met :=
  ⟨by simp [Progress.start], by simp [Progress.start]⟩

theorem addError (all : progress.All met) {error : SourceDiagnostic} (new : met error) :
    (progress.addError error).All met := by
  refine ⟨?_, all.2⟩
  intro other member
  rcases List.mem_append.mp member with old | last
  · exact all.1 other old
  · rw [List.mem_singleton.mp last]
    exact new

theorem addWarning (all : progress.All met) {warning : SourceDiagnostic} (new : met warning) :
    (progress.addWarning warning).All met := by
  refine ⟨all.1, ?_⟩
  intro other member
  rcases List.mem_append.mp member with old | last
  · exact all.2 other old
  · rw [List.mem_singleton.mp last]
    exact new

theorem addErrors (all : progress.All met) {errors : List SourceDiagnostic}
    (new : ∀ error ∈ errors, met error) : (errors.foldl Progress.addError progress).All met := by
  induction errors generalizing progress with
  | nil => exact all
  | cons error errors ih =>
      apply ih
      · exact all.addError (new error List.mem_cons_self)
      · intro other member
        exact new other (List.mem_cons_of_mem _ member)

end Progress.All

/-! ## Included files -/

theorem fst_definitionsFrom (offset : Nat) (lines : List (List Char)) :
    (definitionsFrom offset lines).1 =
      (lines.takeWhile fun line => (definition? line).isNone).flatten := by
  induction lines generalizing offset with
  | nil => rfl
  | cons line lines ih =>
      cases found : definition? line with
      | none => simp [definitionsFrom, found, ih]
      | some definition => simp [definitionsFrom, found]

/-- A definition of a file stands behind the lines before it. -/
theorem exists_of_mem_definitionsFrom {offset : Nat} {lines : List (List Char)}
    {definition : FileDefinition} (member : definition ∈ (definitionsFrom offset lines).2) :
    ∃ earlier line later name rest, lines = earlier ++ line :: later ∧
      line = definitionStart name ++ rest ∧
      definition.offset =
        offset + Utf8.length (earlier.flatten ++ definitionStart name) ∧
      definition.value = trimBlank (rest ++
        (later.takeWhile fun line => (definition? line).isNone).flatten) := by
  induction lines generalizing offset with
  | nil => cases member
  | cons line lines ih =>
      have here (isLater : definition ∈
          (definitionsFrom (offset + Utf8.length line) lines).2) :
          ∃ earlier line' later name rest, line :: lines = earlier ++ line' :: later ∧
            line' = definitionStart name ++ rest ∧
            definition.offset =
              offset + Utf8.length (earlier.flatten ++ definitionStart name) ∧
            definition.value = trimBlank (rest ++
              (later.takeWhile fun line => (definition? line).isNone).flatten) := by
        rcases ih isLater with ⟨earlier, line', later, name, rest, rfl, parts, place, value⟩
        refine ⟨line :: earlier, line', later, name, rest, rfl, parts, ?_, value⟩
        rw [place, List.flatten_cons, List.append_assoc line, Utf8.length_append line,
          Nat.add_assoc]
      cases found : definition? line with
      | none =>
          simp only [definitionsFrom, found] at member
          exact here member
      | some first =>
          simp only [definitionsFrom, found] at member
          rcases List.mem_cons.mp member with rfl | isLater
          · have parts := eq_append_of_definition? found
            refine ⟨[], line, lines, first.name, first.rest, rfl, parts, ?_, ?_⟩
            · dsimp only
              rw [parts, Utf8.length_append _ first.rest, Nat.add_sub_cancel]
              rfl
            · rw [fst_definitionsFrom]
          · exact here isLater

theorem pinpoints_of_mem_splitDefinitions {path : String} {id : FileId} {source : Source}
    (included : inclusionTarget path = .ok id) (atHand : world.AtHand id (.ok source))
    {error : SourceDiagnostic}
    (member : error ∈ (splitDefinitions id (definitions source.text.toList)).2) :
    Pinpoints world error := by
  rcases List.mem_map.mp member with ⟨definition, kept, rfl⟩
  rcases List.mem_filter.mp kept with ⟨found, valueless⟩
  rcases exists_of_mem_definitionsFrom found with
    ⟨earlier, line, later, name, rest, lines, parts, place, value⟩
  refine ⟨id, source, _, [], .error, atHand, rfl, ?_, .inFile included lines parts ?_⟩
  · rw [List.append_nil, ← Nat.zero_add (Utf8.length _), ← place]
    rfl
  · rw [← value]
    exact of_decide_eq_true valueless

theorem under_inclusionText (path : String) :
    UnderStep world.Answering (fun found => ∀ id text, found = .ok (id, text) →
      inclusionTarget path = .ok id ∧
        ∃ source, world.AtHand id (.ok source) ∧ text = source.text) (inclusionText path) := by
  simp only [inclusionText]
  cases named : inclusionTarget path with
  | error reason =>
      apply UnderStep.pure
      rintro id text ⟨⟩
  | ok id =>
      apply UnderStep.source
      intro answer answering
      cases answer with
      | value source =>
          apply UnderStep.pure
          rintro _ _ ⟨⟩
          exact ⟨rfl, source, answering (.ok source) rfl, rfl⟩
      | failed error =>
          apply UnderStep.pure
          rintro _ _ ⟨⟩
      | broken fault =>
          cases fault with
          | invalidValue reason =>
              apply UnderStep.pure
              rintro _ _ ⟨⟩
          | _ => exact .throw _

theorem under_includeName {progress : Progress} {line : List Char} {offset : Nat}
    {wanted : Inclusion} (all : progress.All (Pinpoints world))
    (isLine : IsLineAt world line offset) (found : inclusion? line = some wanted) :
    UnderStep world.Answering (Progress.All (Pinpoints world))
      (includeName progress line offset wanted) := by
  rcases eq_append_of_inclusion? found with ⟨unquoted, rest, parts⟩
  have path {message : String} (flags : Flags inclusionStart wanted.path
      ("\": ".toList ++ (wanted.name ++ rest)) .error message) :
      Pinpoints world (.error (spanOf line offset inclusionStart.length
        (inclusionStart.length + wanted.path.length)) message []) :=
    pinpoints_of_flags isLine parts rfl (by rw [List.length_append]) flags _ _
  apply UnderStep.bind
  apply (under_inclusionText _).mono
  intro text read
  cases text with
  | error reason =>
      apply UnderStep.pure
      exact all.addError (path (.unreadable unquoted))
  | ok included =>
      rcases included with ⟨id, text⟩
      rcases read id text rfl with ⟨named, source, atHand, rfl⟩
      have kept := all.addErrors fun error => pinpoints_of_mem_splitDefinitions named atHand
      dsimp only
      split
      · exact .pure kept
      · apply UnderStep.pure
        exact kept.addError (path (.unbound unquoted))

/-! ## Lines -/

theorem under_define {progress : Progress} {line : List Char} {offset : Nat}
    {definition : Definition} (all : progress.All (Pinpoints world))
    (isLine : IsLineAt world line offset) (found : definition? line = some definition) :
    (define progress line offset definition).All (Pinpoints world) := by
  have whole := eq_append_of_definition? found
  have parts : line = definitionStart definition.name ++ definition.rest ++ [] ++ [] := by
    rw [List.append_nil, List.append_nil, whole]
  simp only [define]
  split
  · next blank =>
      apply all.addError
      apply pinpoints_of_flags isLine parts _ _ (.valueless blank)
      · rw [← whole]
      · rw [← whole, List.append_nil]
  · exact all

theorem under_answerCall {progress : Progress} {line : List Char} {offset place : Nat}
    {call : Call} (all : progress.All (Pinpoints world)) (isLine : IsLineAt world line offset)
    (member : .call place call ∈ pieces line) :
    UnderStep world.Answering (fun answered => answered.2.All (Pinpoints world))
      (answerCall progress line offset place call) := by
  rcases exists_of_mem_pieces member with ⟨unquoted, head, tail, parts, rfl⟩
  rcases call with ⟨kind, argument⟩
  cases kind with
  | warn =>
      apply UnderStep.pure
      apply all.addWarning
      apply pinpoints_of_flags isLine parts rfl _ (.warning unquoted)
      rw [List.length_append, Call.length_text]
  | input =>
      apply UnderStep.library
      intro library
      exact .pure all
  | image =>
      apply UnderStep.file
      intro answer
      cases answer with
      | value data => exact .pure all
      | failed error =>
          have whole : line = head ++ CallKind.image.start ++ argument ++
              ("\")".toList ++ tail) := by
            rw [parts]
            simp only [Call.text, List.append_assoc]
          apply UnderStep.pure
          apply all.addError
          apply pinpoints_of_flags isLine whole _ _ (.image unquoted)
          · rw [List.length_append]
          · rw [List.length_append, List.length_append]
      | broken fault => exact .throw fault

theorem under_answerCalls {progress : Progress} {line : List Char} {offset : Nat}
    {found : List Piece} (all : progress.All (Pinpoints world))
    (isLine : IsLineAt world line offset) (subset : found ⊆ pieces line) :
    UnderStep world.Answering (fun answered => answered.2.All (Pinpoints world))
      (answerCalls progress line offset found) := by
  induction found generalizing progress with
  | nil => exact .pure all
  | cons piece found ih =>
      -- only the pieces of the whole line say where a call stands
      have later : found ⊆ pieces line := fun _ member => subset (List.mem_cons_of_mem _ member)
      cases piece with
      | char char =>
          apply UnderStep.bind
          apply (ih all later).mono
          intro answered kept
          exact .pure kept
      | call place call =>
          apply UnderStep.bind
          apply (under_answerCall all isLine (subset List.mem_cons_self)).mono
          intro answered kept
          apply UnderStep.bind
          apply (ih kept later).mono
          intro rest all
          exact .pure all

theorem under_addText {progress : Progress} {line : List Char} {offset : Nat}
    (all : progress.All (Pinpoints world)) (isLine : IsLineAt world line offset) :
    UnderStep world.Answering (Progress.All (Pinpoints world)) (addText progress line offset) := by
  apply UnderStep.bind
  apply (under_answerCalls all isLine (List.Subset.refl _)).mono
  intro answered kept
  apply UnderStep.bind
  apply (UnderStep.trivial _).mono
  intro dated _
  exact .pure kept

theorem under_takeLine {progress : Progress} {line : List Char} {offset : Nat}
    (all : progress.All (Pinpoints world)) (isLine : IsLineAt world line offset) :
    UnderStep world.Answering (Progress.All (Pinpoints world)) (takeLine progress line offset) := by
  simp only [takeLine]
  split
  · exact .pure all
  · split
    · next found => exact under_includeName all isLine found
    · split
      · next found => exact .pure (under_define all isLine found)
      · split
        · next found =>
            rcases eq_append_of_strayBracket? found with
              ⟨head, tail, parts, rfl, unopened, first⟩
            have whole : line = head ++ [']'] ++ tail := by
              rw [parts, List.append_assoc]
              rfl
            apply UnderStep.pure
            apply all.addError
            apply pinpoints_of_flags isLine whole rfl _ (.bracket unopened first)
            rw [List.length_append]
            rfl
        · exact under_addText all isLine

theorem under_takeLines {source : Source} (atHand : world.AtHand .main (.ok source))
    {progress : Progress} {offset : Nat} {earlier lines : List (List Char)}
    (all : progress.All (Pinpoints world))
    (cut : splitLines source.text.toList = earlier ++ lines)
    (place : offset = Utf8.length earlier.flatten) :
    UnderStep world.Answering (Progress.All (Pinpoints world))
      (takeLines progress offset lines) := by
  -- the lines that were taken grow at the end, so the place of the next one stays their length
  induction lines generalizing progress offset earlier with
  | nil => exact .pure all
  | cons line lines ih =>
      have isLine : IsLineAt world (trimBreak line) offset :=
        ⟨source, earlier, line, lines, atHand, cut, rfl, place⟩
      apply UnderStep.bind
      apply (under_takeLine all isLine).mono
      intro progress kept
      apply @ih progress _ (earlier ++ [line]) kept
      · rw [cut, List.append_assoc]
        rfl
      · rw [place, List.flatten_append, Utf8.length_append]
        simp

/-! ## Compiling -/

theorem under_compileMain :
    UnderStep world.Answering (fun output : CompileOutput Page =>
      ∀ diagnostic ∈ output.errors ++ output.warnings, Pinpoints world diagnostic)
      compileMain := by
  have main : UnderStep world.Answering (fun text => ∃ source, world.AtHand .main (.ok source) ∧
      text = source.text) mainText := by
    apply UnderStep.source
    intro answer answering
    cases answer with
    | value source => exact .pure ⟨source, answering (.ok source) rfl, rfl⟩
    | failed error => exact .throw _
    | broken fault => exact .throw fault
  apply UnderStep.bind
  apply main.mono
  rintro _ ⟨source, atHand, rfl⟩
  apply UnderStep.bind
  apply (under_takeLines atHand .start (List.nil_append _).symm rfl).mono
  intro progress all
  apply UnderStep.pure
  intro diagnostic member
  simp only [output] at member
  split at member
  · exact all.2 diagnostic member
  · rcases List.mem_append.mp member with error | warning
    · exact all.1 diagnostic error
    · exact all.2 diagnostic warning

/-- Whatever a compile has to say names the bytes that it is about. -/
theorem under_compiler (target : Target) :
    (compiler target).Under world.Answering fun result =>
      ∀ output, result.2 = .ok output →
        ∀ diagnostic ∈ output.errors ++ output.warnings, Pinpoints world diagnostic := by
  apply Under.andThen
  apply Under.mono under_compileMain
  intro result holds output same
  exact holds output same

end Typeset.LineMarkup

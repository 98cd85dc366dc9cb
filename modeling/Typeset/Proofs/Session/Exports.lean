import Typeset.LineMarkup.Output
import Typeset.Proofs.PageSelector
import Typeset.Proofs.PdfStandard
import Typeset.Proofs.Reading.Amid
import Typeset.Proofs.Session.History

/-!
# PDF export

An export settles the standards first and the pages after them, and writes the document
only when both are settled. The pages that it writes are those whose numbers were asked
for. Every number that a selector names is that of a page, and a document has at least
one page, so no number is passed over and something is always written.
-/

namespace Typeset

variable {π ν : Type}

/-- The numbers of the pages that are asked for, in order and with repetitions. -/
inductive Selects (total : Nat) : Option String → List Nat → Prop
  | all : Selects total none (List.range' 1 total)
  | ranges {selector : String} {ranges : List PageRange}
      (parsed : PageSelector.parse selector total = .ok ranges) :
      Selects total (some selector) (ranges.flatMap PageRange.numbers)

/-- What is wrong with the options of an export, the standards before the pages. -/
inductive PdfOptions.Refuses (options : PdfOptions) (total : Nat) : String → Prop
  | standards {message : String} (problem : PdfStandard.Problem options.standards message) :
      options.Refuses total message
  | pages {requested : List PdfStandard} {selector : String} {error : PageSelector.Error}
      (asked : List.Forall₂ PdfStandard.Asks options.standards requested)
      (compatible : PdfStandard.Compatible requested) (chosen : options.pages = some selector)
      (unread : PageSelector.parse selector total = .error error) :
      options.Refuses total error.message

/-! ## Pages by their numbers -/

theorem Selects.within {total : Nat} {selector : Option String} {numbers : List Nat}
    (selects : Selects total selector numbers) (pages : 1 ≤ total) :
    numbers ≠ [] ∧ ∀ number ∈ numbers, 1 ≤ number ∧ number ≤ total := by
  cases selects with
  | all =>
      refine ⟨?_, ?_⟩
      · simp only [ne_eq, List.range'_eq_nil_iff]
        omega
      · intro number member
        rw [List.mem_range'_1] at member
        omega
  | @ranges selector ranges parsed =>
      rcases PageSelector.within_of_parse parsed with ⟨some_range, within⟩
      refine ⟨?_, ?_⟩
      · rcases List.exists_cons_of_ne_nil some_range with ⟨range, rest, rfl⟩
        have first := (within range List.mem_cons_self).numbers_ne_nil
        simp only [List.flatMap_cons, ne_eq, List.append_eq_nil_iff, first, false_and,
          not_false_eq_true]
      · intro number member
        rcases List.mem_flatMap.mp member with ⟨range, isRange, inside⟩
        exact (within range isRange).mem_numbers inside

/-- The pages of some numbers are all there when the numbers are those of pages. -/
theorem Document.select_of_within (document : Document π) {numbers : List Nat}
    (within : ∀ number ∈ numbers, 1 ≤ number ∧ number ≤ document.pages.length) :
    ∃ selected, document.select numbers = .ok selected ∧ selected.map Prod.fst = numbers ∧
      ∀ entry ∈ selected, 1 ≤ entry.1 ∧ document.pages[entry.1 - 1]? = some entry.2 := by
  induction numbers with
  | nil => exact ⟨[], rfl, rfl, by simp⟩
  | cons number numbers ih =>
      rcases List.forall_mem_cons.mp within with ⟨⟨positive, bounded⟩, rest⟩
      rcases ih rest with ⟨selected, given, named, held⟩
      rcases Nat.exists_eq_add_of_le' positive with ⟨index, rfl⟩
      have found := List.getElem?_eq_getElem bounded
      refine ⟨(index + 1, document.pages[index]) :: selected, ?_, congrArg _ named, ?_⟩
      · rw [select] at given
        rw [select, List.mapM_cons, given, page?, found]
        rfl
      · exact List.forall_mem_cons.mpr ⟨⟨positive, found⟩, held⟩

/-! ## What a serializer is told -/

namespace PdfOptions

variable {options : PdfOptions} {total : Nat} {message : String}

theorem Refuses.message_ne (refuses : options.Refuses total message) : message ≠ "" := by
  cases refuses with
  | standards problem => exact problem.message_ne
  | pages asked compatible chosen unread => exact PageSelector.Error.message_ne _

/-- What is said of the options fails an export, with a diagnostic that has no place. -/
theorem Refuses.simple_eq (refuses : options.Refuses total message) :
    SessionError.simple .export message = ⟨.export, message, [.ofMessage message]⟩ := by
  simp only [SessionError.simple, SessionError.ofDiagnostics]
  split
  · next impossible => cases impossible
  · next empty => exact absurd (Option.some.inj empty) refuses.message_ne
  · next same =>
      cases same
      rfl

/-- When the options are settled, a serializer is told the standards and the pages. -/
theorem serializeOptions_of_settled {requested : List PdfStandard} {numbers : List Nat}
    (asked : List.Forall₂ PdfStandard.Asks options.standards requested)
    (compatible : PdfStandard.Compatible requested)
    (selects : Selects total options.pages numbers) :
    ∃ ranges : Option (List PageRange), options.serializeOptions total =
        .ok ⟨options.documentId, requested.eraseDups, ranges⟩ ∧
      SerializeOptions.pageNumbers ⟨options.documentId, requested.eraseDups, ranges⟩ total =
        numbers := by
  have validated := PdfStandard.validate_eq_ok_iff.mpr ⟨requested, asked, compatible, rfl⟩
  generalize chosen : options.pages = selector at selects
  cases selects with
  | all =>
      refine ⟨none, ?_, ?_⟩
      · simp only [serializeOptions, validated, chosen]
      · simp only [SerializeOptions.pageNumbers, List.range'_eq_map_range, Nat.add_comm]
  | @ranges selector ranges parsed =>
      refine ⟨some ranges, ?_, PageSelector.pages_eq ranges⟩
      simp only [serializeOptions, validated, chosen, parsed]

/-- The options are settled, or what is wrong with them is said in one diagnostic. -/
theorem settled_or_refuses (options : PdfOptions) (total : Nat) :
    (∃ requested numbers, List.Forall₂ PdfStandard.Asks options.standards requested ∧
      PdfStandard.Compatible requested ∧ Selects total options.pages numbers) ∨
    ∃ message, options.Refuses total message ∧
      options.serializeOptions total = .error (.simple .export message) := by
  cases validated : PdfStandard.validate options.standards with
  | error message =>
      refine .inr ⟨message, .standards (PdfStandard.problem_of_validate validated), ?_⟩
      simp only [serializeOptions, validated]
  | ok standards =>
      rcases PdfStandard.validate_eq_ok_iff.mp validated with ⟨requested, asked, compatible, _⟩
      cases chosen : options.pages with
      | none => exact .inl ⟨requested, _, asked, compatible, .all⟩
      | some selector =>
          cases parsed : PageSelector.parse selector total with
          | ok ranges => exact .inl ⟨requested, _, asked, compatible, .ranges parsed⟩
          | error error =>
              refine .inr ⟨error.message, .pages asked compatible chosen parsed, ?_⟩
              simp only [serializeOptions, validated, chosen, parsed]

end PdfOptions

/-! ## Compiled documents -/

namespace LineMarkup

/-- The file that stands for a PDF file of some pages, each with its number. -/
def pdfOf (identifier : Option String) (standards : List PdfStandard)
    (selected : List (Nat × Page)) : Bytes :=
  let conformance := if standards = [] then "none" else ",".intercalate (standards.map (·.value))
  let identity := match identifier with
    | none | some "" => "auto"
    | some identifier => identifier
  Text.Utf8.encode ("\n".intercalate
    (["%PDF-toy", s!"ident: {identity}", s!"standards: {conformance}"] ++
      selected.map fun (number, page) => s!"page {number}: {page.text}")).toList

theorem pdf_of_select {document : Document Page} {settings : SerializeOptions}
    {selected : List (Nat × Page)}
    (given : document.select (settings.pageNumbers document.pages.length) = .ok selected) :
    pdf document settings = .ok (pdfOf settings.identifier settings.standards selected) := by
  rw [pdf, given]
  rcases settings with ⟨identifier, standards, ranges⟩
  cases standards <;> rfl

/-- A text without a single page break has one page, so there is always one. -/
theorem pages_ne_nil_of_gives {session : Session Page} {document : Document Page}
    (given : session.Gives compiler document) : document.pages ≠ [] := by
  have some_page : Reading.UnderStep (fun _ _ => True)
      (fun output : CompileOutput Page => ∀ document, output.document = some document →
        document.pages ≠ []) compileMain := by
    apply Reading.UnderStep.bind
    apply (Reading.UnderStep.trivial mainText).mono
    intro text _
    apply Reading.UnderStep.bind
    apply (Reading.UnderStep.trivial _).mono
    intro progress _
    apply Reading.UnderStep.pure
    intro document made
    simp only [output] at made
    split at made
    · cases made
      simp [Progress.pages]
    · cases made
  have under : (compiler .paged).Under (fun _ _ => True) fun result =>
      ∀ output, result.2 = .ok output → ∀ document, output.document = some document →
        document.pages ≠ [] := by
    apply Reading.Under.andThen
    apply Reading.Under.mono some_page
    intro result holds
    exact holds
  rcases given with ⟨output, verdict, made⟩
  rcases Reading.RunsAmid.of_run (compiler .paged) (session.started .paged) with ⟨answered, run⟩
  exact under.of_runsAmid run (fun _ _ _ => trivial) output verdict document made

end LineMarkup

/-! ## Exporting -/

namespace Session

/-- The answer of PDF export, which depends on the document alone. -/
def exported (document? : Option (Document π)) (serializer : Serializer π)
    (options : PdfOptions) : Except SessionFailure Bytes :=
  match document? with
  | none => .error (.reported (.simple .precondition noDocument))
  | some document =>
      match options.serializeOptions document.pages.length with
      | .error error => .error (.reported error)
      | .ok settings =>
          match serializer.pdf document settings with
          | .ok output => .ok output
          | .error (.broken fault) => .error (.broken fault)
          | .error (.refused reasons) =>
              match SourceDiagnostic.detachAll reasons with
              | .error fault => .error (.broken fault)
              | .ok diagnostics =>
                  .error (.reported (.ofDiagnostics .export diagnostics "PDF export failed"))

theorem exportPdf_eq_exported (serializer : Serializer π) (options : PdfOptions)
    (session : Session π) :
    ((exportPdf serializer options).run.run session).1 =
      exported session.document serializer options := by
  rcases session with ⟨world, document?⟩
  simp only [exportPdf, exported, run_bind]
  cases document? with
  | none => rfl
  | some document =>
      have required : (requireDocument : Step π (Document π)).run.run ⟨world, some document⟩ =
          (.ok document, ⟨world, some document⟩) := rfl
      simp only [required]
      cases options.serializeOptions document.pages.length with
      | error error => rfl
      | ok settings =>
          dsimp only
          cases serializer.pdf document settings with
          | ok output =>
              simp only [run_bind, run_perform_record]
              rfl
          | error failure =>
              cases failure with
              | broken fault => rfl
              | refused reasons =>
                  dsimp only
                  cases SourceDiagnostic.detachAll reasons <;> rfl

/-- Settled options give a file of the pages that they select. -/
theorem exported_of_settled {document : Document LineMarkup.Page} {options : PdfOptions}
    {requested : List PdfStandard} {numbers : List Nat} (pages : 1 ≤ document.pages.length)
    (asked : List.Forall₂ PdfStandard.Asks options.standards requested)
    (compatible : PdfStandard.Compatible requested)
    (selects : Selects document.pages.length options.pages numbers) :
    ∃ selected, exported document (LineMarkup.serializer []) options =
        .ok (LineMarkup.pdfOf options.documentId requested.eraseDups selected) ∧
      selected.map Prod.fst = numbers ∧ selected ≠ [] ∧
      ∀ entry ∈ selected, 1 ≤ entry.1 ∧ document.pages[entry.1 - 1]? = some entry.2 := by
  rcases PdfOptions.serializeOptions_of_settled asked compatible selects with
    ⟨ranges, settled, numbered⟩
  rcases selects.within pages with ⟨some_number, within⟩
  rcases document.select_of_within within with ⟨selected, given, named, held⟩
  rw [← numbered] at given
  refine ⟨selected, ?_, named, ?_, held⟩
  · simp only [exported, settled, LineMarkup.serializer, LineMarkup.pdf_of_select given]
  · rintro rfl
    exact some_number named.symm

/--
An export of a compiled document succeeds exactly when every standard that is asked for
is known, no two archival parts are, and the pages can be read. The file has the pages
that were selected, at least one and each of the document, and the standards without
repetitions. Otherwise one diagnostic without a place says what is wrong, the standards
first. The session stays as it is but for what it reports, so that the same export has
the same answer again.
-/
theorem exportPdf_of_compiled {earlier session : Session LineMarkup.Page}
    {document : Document LineMarkup.Page} (given : earlier.Gives LineMarkup.compiler document)
    (stored : session.document = some document) (options : PdfOptions) :
    let total := document.pages.length
    let run := (exportPdf (LineMarkup.serializer []) options).run.run
    ((∃ output, (run session).1 = .ok output) ↔
      (∃ requested, List.Forall₂ PdfStandard.Asks options.standards requested ∧
        PdfStandard.Compatible requested) ∧ ∃ numbers, Selects total options.pages numbers) ∧
    (∀ output, (run session).1 = .ok output → ∃ requested selected,
      List.Forall₂ PdfStandard.Asks options.standards requested ∧
      Selects total options.pages (selected.map Prod.fst) ∧ selected ≠ [] ∧
      (∀ entry ∈ selected, 1 ≤ entry.1 ∧ document.pages[entry.1 - 1]? = some entry.2) ∧
      output = LineMarkup.pdfOf options.documentId requested.eraseDups selected) ∧
    (∀ failure, (run session).1 = .error failure → ∃ message, options.Refuses total message ∧
      failure = .reported ⟨.export, message, [.ofMessage message]⟩) ∧
    (∃ records, (run session).2 = { session with world := session.world.report records }) ∧
    (run (run session).2).1 = (run session).1 := by
  dsimp only
  have unchanged := run_exportPdf (LineMarkup.serializer []) options session
  have answered : ((exportPdf (LineMarkup.serializer []) options).run.run session).1 =
      exported document (LineMarkup.serializer []) options := by
    rw [exportPdf_eq_exported, stored]
  have again : ((exportPdf (LineMarkup.serializer []) options).run.run
      ((exportPdf (LineMarkup.serializer []) options).run.run session).2).1 =
        exported document (LineMarkup.serializer []) options := by
    rcases unchanged with ⟨records, same⟩
    rw [exportPdf_eq_exported, same, stored]
  have pages : 1 ≤ document.pages.length :=
    List.length_pos_iff.mpr (LineMarkup.pages_ne_nil_of_gives given)
  rw [answered, again]
  rcases options.settled_or_refuses document.pages.length with
    ⟨requested, numbers, asked, compatible, selects⟩ | ⟨message, refuses, refused⟩
  · rcases exported_of_settled pages asked compatible selects with
      ⟨selected, settled, rfl, some_page, held⟩
    rw [settled]
    refine ⟨⟨fun _ => ⟨⟨requested, asked, compatible⟩, _, selects⟩, fun _ => ⟨_, rfl⟩⟩,
      ?_, ?_, unchanged, rfl⟩
    · rintro _ ⟨⟩
      exact ⟨requested, selected, asked, selects, some_page, held, rfl⟩
    · rintro failure ⟨⟩
  · have failed : exported document (LineMarkup.serializer []) options =
        .error (.reported (.simple .export message)) := by
      simp only [exported, refused]
    have succeeds_only : ∀ output,
        exported document (LineMarkup.serializer []) options ≠ .ok output := by
      intro output succeeded
      cases failed.symm.trans succeeded
    refine ⟨⟨?_, ?_⟩, ?_, ?_, unchanged, rfl⟩
    · rintro ⟨output, succeeded⟩
      exact absurd succeeded (succeeds_only output)
    · rintro ⟨⟨requested, asked, compatible⟩, numbers, selects⟩
      rcases exported_of_settled pages asked compatible selects with ⟨selected, settled, _⟩
      exact ⟨_, settled⟩
    · intro output succeeded
      exact absurd succeeded (succeeds_only output)
    · rintro failure same
      cases failed.symm.trans same
      exact ⟨message, refuses, congrArg _ refuses.simple_eq⟩

/-- A session in which two pages are set and not compiled yet. -/
def twoPages : Session LineMarkup.Page :=
  let past : Past LineMarkup.Page Unit := .onEmptyDisk [.setMarkup "one\n#pagebreak()\ntwo"]
  Setting.sample.session past

/-- The second page is written around the first one, and again behind both. -/
theorem exportPdf_of_two_pages :
    ∃ output, ((exportPdf (LineMarkup.serializer []) ⟨some "2,1-2", [.named "a-2b"], none⟩).run.run
      (twoPages.call (.compile LineMarkup.compiler))).1 = .ok output := by
  rcases compile_cases twoPages LineMarkup.compiler with
    ⟨_, document, given, stored⟩ | ⟨_, empty⟩
  · have counted :
        (twoPages.call (.compile LineMarkup.compiler)).pageCount? = some 2 := by
      decide +kernel
    have total : document.pages.length = 2 := by
      simp only [pageCount?, stored, Option.map_some, Option.some.injEq] at counted
      exact counted
    have parsed : PageSelector.parse "2,1-2" document.pages.length =
        .ok [⟨2, 2⟩, ⟨1, 2⟩] := by
      rw [total]
      rfl
    apply (exportPdf_of_compiled given stored _).1.mpr
    refine ⟨⟨[.pdfA2b], .cons (.byText (by decide +kernel)) .nil, ?_⟩, _, .ranges parsed⟩
    intro left isLeft right isRight _ _
    rw [List.mem_singleton.mp isLeft, List.mem_singleton.mp isRight]
  · have compiled : (twoPages.call (.compile LineMarkup.compiler)).isCompiled := by
      decide +kernel
    simp only [isCompiled, empty] at compiled
    cases compiled

end Session

end Typeset

import Typeset.Proofs.Session.Calls

/-!
# States of a session

A session is compiled or empty. It is compiled by a compile that succeeds, and made
empty by the calls that invalidate the document, whether they succeed or not: every
compile is one of them, so at most the document of the last compile is ever stored.
All other calls keep the document.
-/

namespace Typeset

/-- A renderer that breaks down on no page. -/
def Renderer.ofDrawing {π : Type} (draw : π → String) : Renderer π :=
  fun content => .ok (draw content)

namespace Session

variable {π ν : Type}

namespace Call

/-- Whether a call gives up the stored document. -/
def Invalidates : Call π ν → Prop
  | .setMarkup _ | .setVirtualFile _ _ | .clearVirtualFile _ | .compile _ => True
  | .streamVirtualFile _ _ _ _ batchSize => 1 ≤ batchSize
  | .appendVirtualFile _ _ | .setInput _ _ | .setInputs _ | .renderPage _ _ | .exportPdf _ _ _
  | .exportHtml _ _ | .meanwhile _ => False

end Call

def Succeeds (session : Session π) (compiler : Compiler π ν) : Prop :=
  ∃ result, ((compile compiler).run session).1.2 = .ok result

/-- The compiler of a compile in a session gives a document. -/
def Gives (session : Session π) (compiler : Compiler π ν) (document : Document π) : Prop :=
  ∃ output, ((compiler .paged).run.run (session.started .paged)).1.2 = .ok output ∧
    output.document = some document

/--
Some calls end with a successful compile, which comes after the given calls, and
with calls that do not give up its document.
-/
def EndsCompiled (world : World) (calls : List (Call π ν)) (compiler : Compiler π ν)
    (before : List (Call π ν)) : Prop :=
  ∃ since, calls = since ++ .compile compiler :: before ∧
    (after world before).Succeeds compiler ∧ ∀ call ∈ since, ¬call.Invalidates

/-! ## What a call does to the document -/

theorem consult_ok {compiler : Compiler π ν} {target : Target}
    {told : CompileOutput π → List SourceDiagnostic} {world : World} {output : CompileOutput π}
    {diagnostics : List Diagnostic}
    (answered : ((consult compiler target told).run.run world).1.2 = .ok (output, diagnostics)) :
    ((compiler target).run.run world).1.2 = .ok output := by
  simp only [consult, Reading.run_andThen] at answered
  generalize (compiler target).run.run world = asked at answered ⊢
  rcases asked with ⟨⟨notes, verdict⟩, world⟩
  cases verdict with
  | error fault => cases answered
  | ok made =>
      simp only [Reading.run_andThen] at answered
      generalize (SourceDiagnostic.locateAll (told made)).run.run.run world = asked at answered
      rcases asked with ⟨answer, world⟩
      cases answer with
      | error fault => cases answered
      | ok located =>
          cases answered
          rfl

/-- A compile stores the document that its compiler gives, or fails and stores none. -/
theorem compile_cases (session : Session π) (compiler : Compiler π ν) :
    (session.Succeeds compiler ∧ ∃ document, session.Gives compiler document ∧
      (session.call (.compile compiler)).document = some document) ∨
    (¬session.Succeeds compiler ∧ (session.call (.compile compiler)).document = none) := by
  have given := @consult_ok _ _ compiler .paged toldOfPages (session.started .paged)
  simp only [call, Succeeds, run_compile, consulted]
  generalize (consult compiler .paged toldOfPages).run.run (session.started .paged) = asked at given
  rcases asked with ⟨⟨notes, verdict⟩, world⟩
  cases verdict with
  | error fault =>
      refine .inr ⟨?_, rfl⟩
      rintro ⟨result, impossible⟩
      cases impossible
  | ok answer =>
      rcases answer with ⟨⟨made, errors, warnings⟩, diagnostics⟩
      cases made with
      | none =>
          refine .inr ⟨?_, rfl⟩
          rintro ⟨result, impossible⟩
          cases impossible
      | some document => exact .inl ⟨⟨_, rfl⟩, document, ⟨_, given rfl, rfl⟩, rfl⟩

theorem document_of_invalidates {call : Call π ν} (invalidates : call.Invalidates)
    (other : ∀ compiler, call ≠ .compile compiler) (session : Session π) :
    (session.call call).document = none := by
  cases call with
  | setMarkup markup => rfl
  | setVirtualFile path content => rfl
  | clearVirtualFile path => rfl
  | compile compiler => exact absurd rfl (other compiler)
  | streamVirtualFile path values name context batchSize =>
      rcases run_streamVirtualFile path values name context invalidates session with
        ⟨overlay, records, streamed⟩
      simp only [call, streamed]
  | appendVirtualFile path content => exact invalidates.elim
  | setInput key value => exact invalidates.elim
  | setInputs bindings => exact invalidates.elim
  | renderPage renderer page => exact invalidates.elim
  | exportPdf serializer options keywords => exact invalidates.elim
  | exportHtml compiler serializer => exact invalidates.elim
  | meanwhile change => exact invalidates.elim

theorem document_of_not_invalidates {call : Call π ν} (keeps : ¬call.Invalidates)
    (session : Session π) : (session.call call).document = session.document := by
  cases call with
  | setMarkup markup => exact absurd trivial keeps
  | setVirtualFile path content => exact absurd trivial keeps
  | clearVirtualFile path => exact absurd trivial keeps
  | compile compiler => exact absurd trivial keeps
  | streamVirtualFile path values name context batchSize =>
      have refused := Int.not_le.mp keeps
      simp only [call, run_streamVirtualFile_of_refused path values name context refused]
  | appendVirtualFile path content => rfl
  | setInput key value =>
      rcases run_setInput key value session with ⟨records, set⟩
      simp only [call, set]
  | setInputs bindings =>
      rcases run_setInputs bindings session with ⟨records, set⟩
      simp only [call, set]
  | renderPage renderer page =>
      rcases run_renderPage renderer page session with ⟨records, rendered⟩
      simp only [call, rendered]
  | exportPdf serializer options keywords =>
      rcases run_exportPdfWith serializer options keywords session with ⟨records, exported⟩
      simp only [call, exported]
  | exportHtml compiler serializer =>
      rcases run_exportHtml compiler serializer session with ⟨records, exported⟩
      simp only [call, exported]
  | meanwhile change => rfl

/-! ## Histories -/

theorem endsCompiled_of_compile {world : World} {past : List (Call π ν)}
    {compiler : Compiler π ν} (succeeds : (after world past).Succeeds compiler) :
    EndsCompiled world (.compile compiler :: past) compiler past := by
  refine ⟨[], rfl, succeeds, ?_⟩
  intro call member
  cases member

theorem EndsCompiled.cons {world : World} {calls before : List (Call π ν)}
    {compiler : Compiler π ν} (ends : EndsCompiled world calls compiler before) {call : Call π ν}
    (keeps : ¬call.Invalidates) : EndsCompiled world (call :: calls) compiler before := by
  rcases ends with ⟨since, split, succeeds, quiet⟩
  refine ⟨call :: since, by rw [split]; rfl, succeeds, ?_⟩
  intro other member
  cases member with
  | head => exact keeps
  | tail _ member => exact quiet other member

theorem EndsCompiled.cases {world : World} {calls before : List (Call π ν)}
    {compiler : Compiler π ν} {call : Call π ν}
    (ends : EndsCompiled world (call :: calls) compiler before) :
    (call = .compile compiler ∧ calls = before ∧ (after world before).Succeeds compiler) ∨
      (¬call.Invalidates ∧ EndsCompiled world calls compiler before) := by
  rcases ends with ⟨since, split, succeeds, quiet⟩
  cases since with
  | nil =>
      cases split
      exact .inl ⟨rfl, rfl, succeeds⟩
  | cons latest since =>
      cases split
      refine .inr ⟨quiet _ List.mem_cons_self, since, rfl, succeeds, ?_⟩
      intro other member
      exact quiet other (List.mem_cons_of_mem _ member)

/-- The stored document is that of the compile with which the calls end. -/
theorem document_of_endsCompiled {world : World} {calls before : List (Call π ν)}
    {compiler : Compiler π ν} (ends : EndsCompiled world calls compiler before) :
    ∃ document, (after world before).Gives compiler document ∧
      (after world calls).document = some document := by
  induction calls with
  | nil =>
      rcases ends with ⟨since, split, _⟩
      cases since <;> cases split
  | cons latest past ih =>
      rcases ends.cases with ⟨rfl, rfl, succeeds⟩ | ⟨keeps, ends⟩
      · rcases compile_cases (after world past) compiler with ⟨_, stored⟩ | ⟨fails, _⟩
        · exact stored
        · exact absurd succeeds fails
      · rcases ih ends with ⟨document, gives, stored⟩
        exact ⟨document, gives, (document_of_not_invalidates keeps _).trans stored⟩

theorem endsCompiled_of_isCompiled {world : World} {calls : List (Call π ν)}
    (compiled : (after world calls).isCompiled) :
    ∃ compiler before, EndsCompiled world calls compiler before := by
  induction calls with
  | nil => cases compiled
  | cons latest past ih =>
      by_cases invalidates : latest.Invalidates
      · by_cases compiles : ∃ compiler, latest = .compile compiler
        · rcases compiles with ⟨compiler, rfl⟩
          rcases compile_cases (after world past) compiler with ⟨succeeds, _⟩ | ⟨_, empty⟩
          · exact ⟨compiler, past, endsCompiled_of_compile succeeds⟩
          · simp only [isCompiled, after, empty] at compiled
            cases compiled
        · have empty := document_of_invalidates invalidates
            (fun compiler same => compiles ⟨compiler, same⟩) (after world past)
          simp only [isCompiled, after, empty] at compiled
          cases compiled
      · simp only [isCompiled, after, document_of_not_invalidates invalidates] at compiled
        rcases ih compiled with ⟨compiler, before, ends⟩
        exact ⟨compiler, before, ends.cons invalidates⟩

theorem isCompiled_after_iff (world : World) (calls : List (Call π ν)) :
    (after world calls).isCompiled ↔
      ∃ compiler before, EndsCompiled world calls compiler before := by
  constructor
  · exact endsCompiled_of_isCompiled
  · rintro ⟨compiler, before, ends⟩
    rcases document_of_endsCompiled ends with ⟨document, _, stored⟩
    simp only [isCompiled, stored]
    rfl

/-! ## Rendering and exporting -/

/-- A step failed because there is nothing to work on. -/
def LacksPrecondition {α : Type} (answer : Except SessionFailure α) : Prop :=
  ∃ error, answer = .error (.reported error) ∧ error.kind = .precondition

theorem renderPage_eq_rendered (renderer : Renderer π) (page : Int) (session : Session π) :
    ((renderPage renderer page).run.run session).1 = rendered session.document renderer page := by
  rcases run_renderPage renderer page session with ⟨records, run⟩
  simp only [run]

theorem renderPage_of_page (draw : π → String) {page : Int} {session : Session π} {count : Nat}
    (counted : session.pageCount? = some count) (nonnegative : 0 ≤ page) (small : page < count) :
    ∃ output, ((renderPage (.ofDrawing draw) page).run.run session).1 = .ok output := by
  simp only [renderPage_eq_rendered]
  rcases Option.map_eq_some_iff.mp counted with ⟨document, stored, rfl⟩
  have bound : page.toNat < document.pages.length := by omega
  simp only [stored, rendered, if_pos nonnegative, List.getElem?_eq_getElem bound]
  exact ⟨_, rfl⟩

theorem renderPage_of_no_page (draw : π → String) {page : Int} {session : Session π}
    (missing : ¬∃ count, session.pageCount? = some count ∧ 0 ≤ page ∧ page < count) :
    LacksPrecondition ((renderPage (.ofDrawing draw) page).run.run session).1 := by
  simp only [renderPage_eq_rendered]
  cases stored : session.document with
  | none => exact ⟨_, rfl, rfl⟩
  | some document =>
      have counted : session.pageCount? = some document.pages.length := by
        simp only [pageCount?, stored]
        rfl
      have absent : (if 0 ≤ page then document.pages[page.toNat]? else none) = none := by
        split
        · next nonnegative =>
            apply List.getElem?_eq_none
            apply Nat.le_of_not_lt
            intro small
            exact missing ⟨_, counted, nonnegative, by omega⟩
        · rfl
      simp only [rendered, absent]
      exact ⟨_, rfl, rfl⟩

theorem exportPdf_of_empty {session : Session π} (empty : ¬session.isCompiled)
    (serializer : Serializer π) (options : PdfOptions) :
    LacksPrecondition ((exportPdf serializer options).run.run session).1 := by
  rcases session with ⟨world, document?⟩
  cases document? with
  | none => exact ⟨_, rfl, rfl⟩
  | some document => exact absurd rfl empty

/--
A session is compiled exactly when its calls end with a successful compile whose
document no later call gives up, and then it stores the document that the compiler
gave. A call that does not invalidate keeps the document, the number of pages and
every rendered page. A renderer that does not break down draws exactly the pages of
the compiled document; other pages, and PDF export when nothing is compiled, lack
their precondition.
-/
theorem compiled_until_invalidated (world : World) (calls : List (Call π ν)) :
    ((after world calls).isCompiled ↔
      ∃ compiler before, EndsCompiled world calls compiler before) ∧
    (∀ compiler before, EndsCompiled world calls compiler before →
      ∃ document, (after world before).Gives compiler document ∧
        (after world calls).document = some document) ∧
    (∀ latest : Call π ν, ¬latest.Invalidates →
      (after world (latest :: calls)).document = (after world calls).document ∧
      (after world (latest :: calls)).pageCount? = (after world calls).pageCount? ∧
      ∀ renderer page, ((renderPage renderer page).run.run (after world (latest :: calls))).1 =
        ((renderPage renderer page).run.run (after world calls)).1) ∧
    (∀ (draw : π → String) (page : Int),
      let answer :=
        ((renderPage (.ofDrawing draw) page).run.run (after world calls)).1
      let hasPage := ∃ count, (after world calls).pageCount? = some count ∧ 0 ≤ page ∧ page < count
      ((∃ output, answer = .ok output) ↔ hasPage) ∧ (¬hasPage → LacksPrecondition answer)) ∧
    (¬(after world calls).isCompiled → ∀ (serializer : Serializer π) (options : PdfOptions),
      LacksPrecondition ((exportPdf serializer options).run.run (after world calls)).1) := by
  refine ⟨isCompiled_after_iff world calls, fun _ _ => document_of_endsCompiled, ?_, ?_,
    exportPdf_of_empty⟩
  · intro latest keeps
    have same := document_of_not_invalidates keeps (after world calls)
    refine ⟨same, congrArg (Option.map _) same, ?_⟩
    intro renderer page
    simp only [renderPage_eq_rendered, after, same]
  · intro draw page
    refine ⟨⟨?_, ?_⟩, renderPage_of_no_page draw⟩
    · rintro ⟨output, gives⟩
      apply Classical.byContradiction
      intro missing
      rcases renderPage_of_no_page draw missing with ⟨error, lacks, _⟩
      cases gives.symm.trans lacks
    · rintro ⟨count, counted, nonnegative, small⟩
      exact renderPage_of_page draw counted nonnegative small

end Session

end Typeset

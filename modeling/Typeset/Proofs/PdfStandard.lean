import Mathlib.Data.List.Forall2
import Mathlib.Data.List.Induction
import Typeset.PdfStandard

/-!
# Compatible sets of standards

The standards that are asked for are taken in one after another, each where it is first
mentioned. So the set is the list of what the requests ask for, without repetitions, and
there is one unless some request asks for nothing or two archival parts are asked for.
-/

namespace Typeset.PdfStandard

/-- A request asks for a standard: the standard itself, or a text that it is called. -/
inductive Asks : StandardRequest → PdfStandard → Prop
  | directly (standard : PdfStandard) : Asks (.standard standard) standard
  | byText {text : String} {standard : PdfStandard}
      (called : standard.isCalled (Text.strip text)) : Asks (.named text) standard

/-- No two archival parts are among some standards. -/
def Compatible (requested : List PdfStandard) : Prop :=
  ∀ left ∈ requested, ∀ right ∈ requested, left.isArchival → right.isArchival → left = right

/-- Why some requests have no compatible set of standards, and what is said of it. -/
inductive Problem : List StandardRequest → String → Prop
  | unknown {earlier later : List StandardRequest} {text : String}
      (known : ∀ request ∈ earlier, ∃ standard, Asks request standard)
      (unknown : ∀ standard, ¬Asks (.named text) standard) :
      Problem (earlier ++ .named text :: later) s!"Invalid PDF standards: {unknownMessage text}"
  | conflict {requests : List StandardRequest} {requested : List PdfStandard}
      {first second : PdfStandard} (asked : List.Forall₂ Asks requests requested)
      (archival : requested.eraseDups.filter isArchival = [first, second]) :
      Problem requests
        s!"Invalid PDF standards: cannot conform to {first.value} and {second.value} at the same time"

/-! ## One request -/

theorem eq_of_isCalled {left right : PdfStandard} {text : String} (isLeft : left.isCalled text)
    (isRight : right.isCalled text) : left = right := by
  have values : ∀ one other : PdfStandard, other.isCalled one.value → one = other := by
    intro one other
    cases one <;> cases other <;> decide +kernel
  have names : ∀ one other : PdfStandard, one.name.toList = other.name.toList → one = other := by
    intro one other
    cases one <;> cases other <;> decide +kernel
  simp only [isCalled, Bool.or_eq_true, beq_iff_eq] at isLeft
  rcases isLeft with rfl | isLeft
  · exact values left right isRight
  · have known := isRight
    simp only [isCalled, Bool.or_eq_true, beq_iff_eq] at isRight
    rcases isRight with rfl | isRight
    · symm
      apply values
      simp only [isCalled, Bool.or_eq_true, beq_iff_eq]
      exact .inr isLeft
    · exact names left right (isLeft.symm.trans isRight)

theorem parse?_eq_some_iff {text : String} {standard : PdfStandard} :
    parse? text = some standard ↔ standard.isCalled (Text.strip text) := by
  constructor
  · intro found
    have called := List.find?_some found
    exact called
  · intro called
    have inAll : standard ∈ all := by
      cases standard <;> decide
    cases found : parse? text with
    | none => exact absurd called (List.find?_eq_none.mp found standard inAll)
    | some other =>
        have otherCalled := List.find?_some found
        rw [eq_of_isCalled called otherCalled]

theorem resolve_eq_ok_iff {request : StandardRequest} {standard : PdfStandard} :
    resolve request = .ok standard ↔ Asks request standard := by
  cases request with
  | standard given =>
      simp only [resolve, Except.ok.injEq]
      constructor
      · rintro rfl
        exact .directly given
      · rintro ⟨⟩
        rfl
  | named text =>
      have asks : Asks (.named text) standard ↔ parse? text = some standard := by
        rw [parse?_eq_some_iff]
        constructor
        · rintro ⟨⟩
          assumption
        · exact .byText
      rw [asks]
      simp only [resolve]
      cases parse? text <;> simp

theorem resolve_eq_error_iff {request : StandardRequest} {message : String} :
    resolve request = .error message ↔
      ∃ text, request = .named text ∧ (∀ standard, ¬Asks request standard) ∧
        message = unknownMessage text := by
  constructor
  · intro refused
    have unknown (standard : PdfStandard) : ¬Asks request standard := by
      rw [← resolve_eq_ok_iff, refused]
      rintro ⟨⟩
    cases request with
    | standard given => cases refused
    | named text =>
        refine ⟨text, rfl, unknown, ?_⟩
        simp only [resolve] at refused
        split at refused
        · cases refused
        · exact (Except.error.inj refused).symm
  · rintro ⟨text, rfl, unknown, rfl⟩
    cases found : parse? text with
    | none => simp only [resolve, found]
    | some standard => exact absurd (.byText (parse?_eq_some_iff.mp found)) (unknown standard)

/-! ## All requests -/

theorem eraseDups_concat (earlier : List PdfStandard) (standard : PdfStandard) :
    (earlier ++ [standard]).eraseDups =
      if standard ∈ earlier.eraseDups then earlier.eraseDups
      else earlier.eraseDups ++ [standard] := by
  rw [List.eraseDups_append, List.cons_removeAll]
  by_cases met : standard ∈ earlier
  · simp [met, List.removeAll]
  · simp [met, List.removeAll, List.eraseDups_cons]

/-- What was found so far is what was asked for so far, without repetitions. -/
theorem collect_of_asks {requests : List StandardRequest} {requested : List PdfStandard}
    (asked : List.Forall₂ Asks requests requested) (earlier : List PdfStandard) :
    collect earlier.eraseDups requests = .ok (earlier ++ requested).eraseDups := by
  induction asked generalizing earlier with
  | nil => simp only [collect, List.append_nil]
  | @cons request standard requests requested asks _ ih =>
      have later := ih (earlier ++ [standard])
      rw [eraseDups_concat, List.append_assoc, List.singleton_append] at later
      simp only [collect, resolve_eq_ok_iff.mpr asks, later]

theorem collect_of_unknown {earlier later : List StandardRequest} {text : String}
    (known : ∀ request ∈ earlier, ∃ standard, Asks request standard)
    (unknown : ∀ standard, ¬Asks (.named text) standard) (found : List PdfStandard) :
    collect found (earlier ++ .named text :: later) =
      .error s!"Invalid PDF standards: {unknownMessage text}" := by
  induction earlier generalizing found with
  | nil =>
      have refused := resolve_eq_error_iff.mpr ⟨text, rfl, unknown, rfl⟩
      simp only [List.nil_append, collect, refused]
  | cons request earlier ih =>
      rcases List.forall_mem_cons.mp known with ⟨⟨standard, asks⟩, rest⟩
      simp only [List.cons_append, collect, resolve_eq_ok_iff.mpr asks]
      apply ih rest

/-- Every request asks for something, or there is a first one that does not. -/
theorem asked_or_unknown (requests : List StandardRequest) :
    (∃ requested, List.Forall₂ Asks requests requested) ∨
      ∃ earlier text later, requests = earlier ++ .named text :: later ∧
        (∀ request ∈ earlier, ∃ standard, Asks request standard) ∧
        ∀ standard, ¬Asks (.named text) standard := by
  induction requests with
  | nil => exact .inl ⟨[], .nil⟩
  | cons request requests ih =>
      cases resolved : resolve request with
      | error message =>
          rcases resolve_eq_error_iff.mp resolved with ⟨text, rfl, unknown, _⟩
          exact .inr ⟨[], text, requests, rfl, by simp, unknown⟩
      | ok standard =>
          have asks := resolve_eq_ok_iff.mp resolved
          rcases ih with ⟨requested, asked⟩ | ⟨earlier, text, later, rfl, known, unknown⟩
          · exact .inl ⟨standard :: requested, .cons asks asked⟩
          · refine .inr ⟨request :: earlier, text, later, rfl, ?_, unknown⟩
            exact List.forall_mem_cons.mpr ⟨⟨standard, asks⟩, known⟩

theorem nodup_eraseDups (requested : List PdfStandard) : requested.eraseDups.Nodup := by
  induction requested using List.reverseRecOn with
  | nil => simp
  | append_singleton earlier standard ih =>
      rw [eraseDups_concat]
      split
      · exact ih
      · next missing =>
          rw [List.nodup_append]
          refine ⟨ih, by simp, ?_⟩
          rintro other member _ once rfl
          rw [List.mem_singleton.mp once] at member
          exact missing member

/-- There are two archival parts, so a set of standards has both or at most one of them. -/
theorem archival_cases (requested : List PdfStandard) :
    (Compatible requested ∧ (requested.eraseDups.filter isArchival).length ≤ 1) ∨
      (¬Compatible requested ∧
        ∃ first second, requested.eraseDups.filter isArchival = [first, second]) := by
  have noRepeats := (nodup_eraseDups requested).filter isArchival
  have inside : ∀ standard, standard ∈ requested.eraseDups.filter isArchival ↔
      standard ∈ requested ∧ standard.isArchival := by
    simp [List.mem_filter, List.mem_eraseDups]
  generalize requested.eraseDups.filter isArchival = parts at noRepeats inside ⊢
  rcases parts with _ | ⟨first, _ | ⟨second, _ | ⟨third, rest⟩⟩⟩
  · refine .inl ⟨?_, by simp⟩
    intro left isLeft _ _ archival
    exact absurd ((inside left).mpr ⟨isLeft, archival⟩) List.not_mem_nil
  · refine .inl ⟨?_, by simp⟩
    intro left isLeft right isRight leftArchival rightArchival
    have isFirst := List.mem_singleton.mp ((inside left).mpr ⟨isLeft, leftArchival⟩)
    have alsoFirst := List.mem_singleton.mp ((inside right).mpr ⟨isRight, rightArchival⟩)
    rw [isFirst, alsoFirst]
  · refine .inr ⟨?_, first, second, rfl⟩
    intro compatible
    have isFirst := (inside first).mp (by simp)
    have isSecond := (inside second).mp (by simp)
    have same := compatible first isFirst.1 second isSecond.1 isFirst.2 isSecond.2
    simp [same] at noRepeats
  · have isFirst := ((inside first).mp (by simp)).2
    have isSecond := ((inside second).mp (by simp)).2
    have isThird := ((inside third).mp (by simp)).2
    cases first <;> cases second <;> cases third <;>
      simp_all [isArchival]

theorem validate_of_collect {requests : List StandardRequest} {standards : List PdfStandard}
    (collected : collect [] requests = .ok standards) :
    validate requests =
      if (standards.filter isArchival).length ≤ 1 then .ok standards
      else
        let conflict := " and ".intercalate ((standards.filter isArchival).map value)
        .error s!"Invalid PDF standards: cannot conform to {conflict} at the same time" := by
  have bind : validate requests = (Except.ok standards >>= fun standards =>
      let archival := (standards.filter isArchival).map value
      if archival.length ≤ 1 then pure standards
      else
        let conflict := " and ".intercalate archival
        throw s!"Invalid PDF standards: cannot conform to {conflict} at the same time") := by
    rw [← collected]
    rfl
  rw [bind, ← List.length_map value]
  rfl

theorem validate_of_unknown {earlier later : List StandardRequest} {text : String}
    (known : ∀ request ∈ earlier, ∃ standard, Asks request standard)
    (unknown : ∀ standard, ¬Asks (.named text) standard) :
    validate (earlier ++ .named text :: later) =
      .error s!"Invalid PDF standards: {unknownMessage text}" := by
  rw [validate, collect_of_unknown known unknown]
  rfl

theorem validate_of_asks {requests : List StandardRequest} {requested : List PdfStandard}
    (asked : List.Forall₂ Asks requests requested) :
    (Compatible requested ∧ validate requests = .ok requested.eraseDups) ∨
      (¬Compatible requested ∧
        ∃ message, Problem requests message ∧ validate requests = .error message) := by
  have collected : collect [] requests = .ok requested.eraseDups := collect_of_asks asked []
  have validated := validate_of_collect collected
  rcases archival_cases requested with ⟨compatible, few⟩ | ⟨incompatible, first, second, both⟩
  · rw [if_pos few] at validated
    exact .inl ⟨compatible, validated⟩
  · refine .inr ⟨incompatible, _, .conflict asked both, ?_⟩
    rw [validated, both, if_neg (by simp)]
    have joined : " and ".intercalate ([first, second].map value) =
        first.value ++ (" and " ++ second.value) :=
      String.append_assoc
    simp only [joined, String.append_assoc, toString]

/-- A set of standards is what is asked for without repetitions, if that is compatible. -/
theorem validate_eq_ok_iff {requests : List StandardRequest} {standards : List PdfStandard} :
    validate requests = .ok standards ↔
      ∃ requested, List.Forall₂ Asks requests requested ∧ Compatible requested ∧
        standards = requested.eraseDups := by
  constructor
  · intro validated
    rcases asked_or_unknown requests with
      ⟨requested, asked⟩ | ⟨earlier, text, later, rfl, known, unknown⟩
    · rcases validate_of_asks asked with ⟨compatible, valid⟩ | ⟨_, message, _, invalid⟩
      · exact ⟨requested, asked, compatible, Except.ok.inj (validated.symm.trans valid)⟩
      · cases validated.symm.trans invalid
    · cases validated.symm.trans (validate_of_unknown known unknown)
  · rintro ⟨requested, asked, compatible, rfl⟩
    rcases validate_of_asks asked with ⟨_, valid⟩ | ⟨incompatible, _⟩
    · exact valid
    · exact absurd compatible incompatible

/-- What is said of requests without a compatible set is what is wrong with them. -/
theorem problem_of_validate {requests : List StandardRequest} {message : String}
    (refused : validate requests = .error message) : Problem requests message := by
  rcases asked_or_unknown requests with
    ⟨requested, asked⟩ | ⟨earlier, text, later, rfl, known, unknown⟩
  · rcases validate_of_asks asked with ⟨_, valid⟩ | ⟨_, other, problem, invalid⟩
    · cases refused.symm.trans valid
    · cases refused.symm.trans invalid
      exact problem
  · cases refused.symm.trans (validate_of_unknown known unknown)
    exact .unknown known unknown

theorem Problem.message_ne {requests : List StandardRequest} {message : String}
    (problem : Problem requests message) : message ≠ "" := by
  cases problem <;>
    simp only [toString, ne_eq, String.append_eq_empty_iff, String.reduceEq, false_and,
      not_false_eq_true]

end Typeset.PdfStandard

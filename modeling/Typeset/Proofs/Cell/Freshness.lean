import Typeset.Proofs.Cell.Access

/-!
# Freshness of answers

A cell is called again and again, each time for some generation and with a reading
that may succeed, fail or break off. Every answer that a call gives is the answer
to the newest reading that ran to completion. It should also be a reading of the
generation that the call is for, counted from the call by which the cell switched
to the generation, and it is, with one exception: a call whose reading breaks off
switches a cell that holds an answer without anything being read, and the later
calls of the generation are given the answer of an earlier one.

Histories list calls, and what the calls did, with the newest first.
-/

namespace Typeset.Cell

variable {α : Type}

/-- A call of a cell: its generation, how a reading would end, and how answers are made. -/
structure Call (α : Type) where
  generation : Int
  reading : Outcome Bytes
  make : Bytes → Option α → Outcome α

/-- What a call did: the readings that it executed, and its outcome. -/
structure Visit (α : Type) where
  call : Call α
  readings : List (Outcome Bytes)
  outcome : Outcome α

namespace Visit

def answer? (visit : Visit α) : Option (Except FileError α) :=
  visit.outcome.settled?

def completed? (visit : Visit α) : Option (Except FileError Bytes) :=
  visit.readings.findSome? Outcome.settled?

end Visit

def visit (cell : Cell α) (call : Call α) : Visit α × Cell α :=
  let (access, readings) := (cell.access call.generation (noting call.reading) call.make).run []
  (⟨call, readings, access.outcome⟩, access.cell)

def after : List (Call α) → Cell α
  | [] => empty
  | call :: past => ((after past).visit call).2

def visits : List (Call α) → List (Visit α)
  | [] => []
  | call :: past => ((after past).visit call).1 :: visits past

/-- The newest visit in which a reading ran to completion. -/
def newestLoad? (visits : List (Visit α)) : Option (Visit α) :=
  visits.find? (·.completed?.isSome)

/-- The newest visit and those before it since the cell switched to its generation. -/
def sinceSwitch : List (Visit α) → List (Visit α)
  | [] => []
  | visit :: past =>
      visit :: past.takeWhile (·.call.generation == visit.call.generation)

/--
Some visit made an answer of a reading with the given fingerprint, and the
answer is this outcome.
-/
def WasMade (visits : List (Visit α)) (reading : Except FileError Bytes)
    (outcome : Outcome α) : Prop :=
  ∃ maker ∈ visits, ∃ source previous, maker.completed? = some source ∧
    Typeset.fingerprint source = Typeset.fingerprint reading ∧
    answerTo maker.call.make previous source = outcome

/-- An outcome is the answer to the newest completed reading of the given visits. -/
def AnswersNewest (outcome : Outcome α) (recent visits : List (Visit α)) : Prop :=
  ∃ load reading, newestLoad? recent = some load ∧ load.completed? = some reading ∧
    load.outcome = outcome ∧ WasMade visits reading outcome

/-- The newest visit gave no answer, or that to the newest reading since the switch. -/
def UpToDate : List (Visit α) → Prop
  | [] => True
  | visit :: past =>
      visit.answer?.isSome →
        AnswersNewest visit.outcome (sinceSwitch (visit :: past)) (visit :: past)

/--
The call that switched the cell to its generation broke off in its reading, and
the cell held an answer by then.
-/
def SwitchedInVain : List (Call α) → Prop
  | [] => False
  | call :: past =>
      if (after past).generation = some call.generation then SwitchedInVain past
      else call.reading.settled? = none ∧ (after past).isFilled

/-! ## What a visit does -/

theorem visit_of_remembered {cell : Cell α} {call : Call α} {answer : Except FileError α}
    (remembered : cell.remembered? call.generation = some answer) :
    cell.visit call = (⟨call, [], .ofExcept answer⟩, cell) := by
  simp only [visit, access_of_remembered remembered]

theorem visit_of_not_remembered {cell : Cell α} {call : Call α}
    (forgotten : cell.remembered? call.generation = none) :
    cell.visit call =
      (⟨call, [call.reading], (cell.revalidate call.generation call.reading call.make).outcome⟩,
        (cell.revalidate call.generation call.reading call.make).cell) := by
  simp only [visit, access_of_not_remembered forgotten]
  rfl

theorem call_visit (cell : Cell α) (call : Call α) : (cell.visit call).1.call = call := rfl

theorem generation_visit (cell : Cell α) (call : Call α) :
    (cell.visit call).2.generation = some call.generation := by
  cases remembered : cell.remembered? call.generation with
  | none => simp [visit_of_not_remembered remembered]
  | some answer =>
      simp only [visit_of_remembered remembered]
      exact (remembered?_eq_some_iff.mp remembered).1

theorem generation_after_cons (call : Call α) (past : List (Call α)) :
    (after (call :: past)).generation = some call.generation :=
  generation_visit _ _

theorem sinceSwitch_of_same {call : Call α} {past : List (Call α)}
    (same : (after past).generation = some call.generation) :
    sinceSwitch (visits (call :: past)) =
      ((after past).visit call).1 :: sinceSwitch (visits past) := by
  cases past with
  | nil => simp [after, empty] at same
  | cons earlier past =>
      simp only [generation_after_cons, Option.some.injEq] at same
      simp [visits, sinceSwitch, call_visit, same]

theorem sinceSwitch_of_switch {call : Call α} {past : List (Call α)}
    (switch : (after past).generation ≠ some call.generation) :
    sinceSwitch (visits (call :: past)) = [((after past).visit call).1] := by
  cases past with
  | nil => rfl
  | cons earlier past =>
      simp only [generation_after_cons, ne_eq, Option.some.injEq] at switch
      simp [visits, sinceSwitch, call_visit, switch]

/-! ## Histories -/

theorem newestLoad?_cons_of_completed {visit : Visit α} {reading : Except FileError Bytes}
    (completed : visit.completed? = some reading) (past : List (Visit α)) :
    newestLoad? (visit :: past) = some visit := by
  simp [newestLoad?, completed]

theorem newestLoad?_cons_of_not_completed {visit : Visit α} (open_ : visit.completed? = none)
    (past : List (Visit α)) : newestLoad? (visit :: past) = newestLoad? past := by
  simp [newestLoad?, open_]

theorem WasMade.cons {visits : List (Visit α)} {reading : Except FileError Bytes}
    {outcome : Outcome α} (made : WasMade visits reading outcome) (visit : Visit α) :
    WasMade (visit :: visits) reading outcome := by
  rcases made with ⟨maker, member, rest⟩
  exact ⟨maker, List.mem_cons_of_mem visit member, rest⟩

theorem WasMade.congr {visits : List (Visit α)} {left right : Except FileError Bytes}
    {outcome : Outcome α} (made : WasMade visits left outcome)
    (same : Typeset.fingerprint left = Typeset.fingerprint right) :
    WasMade visits right outcome := by
  rcases made with ⟨maker, member, source, previous, completed, fingerprints, answers⟩
  exact ⟨maker, member, source, previous, completed, fingerprints.trans same, answers⟩

theorem not_isFilled_of_same {cell : Cell α} {generation : Int}
    (forgotten : cell.remembered? generation = none) (same : cell.generation = some generation) :
    ¬cell.isFilled := by
  simpa [remembered?, same, isFilled] using forgotten

/-- What the answer of a cell, if it holds one, has to do with the visits so far. -/
structure Tracks (past : List (Call α)) : Prop where
  answered : ∀ answer, (after past).answer = some answer →
    ∃ load reading, newestLoad? (visits past) = some load ∧ load.completed? = some reading ∧
      (after past).fingerprint = some (Typeset.fingerprint reading) ∧
      load.outcome = .ofExcept answer ∧ WasMade (visits past) reading (.ofExcept answer)
  fresh : (after past).isFilled → ¬SwitchedInVain past →
    newestLoad? (sinceSwitch (visits past)) = newestLoad? (visits past)
  stale : SwitchedInVain past →
    (after past).isFilled ∧ newestLoad? (sinceSwitch (visits past)) = none

theorem tracks_nil : Tracks ([] : List (Call α)) where
  answered _ held := by cases held
  fresh _ _ := rfl
  stale vain := vain.elim

theorem Tracks.answered_cons {past : List (Call α)} (tracks : Tracks past) {call : Call α}
    (open_ : ((after past).visit call).1.completed? = none) {answer : Except FileError α}
    (held : (after past).answer = some answer) :
    ∃ load reading, newestLoad? (visits (call :: past)) = some load ∧
      load.completed? = some reading ∧
      (after past).fingerprint = some (Typeset.fingerprint reading) ∧
      load.outcome = .ofExcept answer ∧
      WasMade (visits (call :: past)) reading (.ofExcept answer) := by
  rcases tracks.answered answer held with
    ⟨load, reading, found, completed, fingerprint, outcome, made⟩
  refine ⟨load, reading, ?_, completed, fingerprint, outcome, made.cons _⟩
  simp only [visits, newestLoad?_cons_of_not_completed open_]
  exact found

theorem Tracks.cons_of_remembered {past : List (Call α)} (tracks : Tracks past) {call : Call α}
    {answer : Except FileError α}
    (remembered : (after past).remembered? call.generation = some answer) :
    Tracks (call :: past) := by
  have does := visit_of_remembered remembered
  have same := (remembered?_eq_some_iff.mp remembered).1
  have cell : after (call :: past) = after past := by rw [after, does]
  have newest : newestLoad? (visits (call :: past)) = newestLoad? (visits past) := by
    rw [visits, does, newestLoad?_cons_of_not_completed rfl]
  have recent : newestLoad? (sinceSwitch (visits (call :: past))) =
      newestLoad? (sinceSwitch (visits past)) := by
    rw [sinceSwitch_of_same same, does, newestLoad?_cons_of_not_completed rfl]
  have vain : SwitchedInVain (call :: past) ↔ SwitchedInVain past := by
    simp only [SwitchedInVain, if_pos same]
  refine ⟨?_, ?_, ?_⟩
  · intro answer held
    simp only [cell] at held ⊢
    exact tracks.answered_cons (by rw [does]; rfl) held
  · simp only [cell, vain, recent, newest]
    exact tracks.fresh
  · simp only [cell, vain, recent]
    exact tracks.stale

/-- A reading that breaks off leaves the answer, and a switch in vain if it is a switch. -/
theorem Tracks.cons_of_broken {past : List (Call α)} (tracks : Tracks past) {call : Call α}
    {fault : Fault} (forgotten : (after past).remembered? call.generation = none)
    (broken : call.reading = .broken fault) : Tracks (call :: past) := by
  have does := visit_of_not_remembered forgotten
  simp only [broken, revalidate_broken] at does
  have cell : after (call :: past) = { after past with generation := some call.generation } := by
    simp only [after, does]
  have filled_iff : (after (call :: past)).isFilled = (after past).isFilled := by
    simp only [cell]
    rfl
  have switches : (after past).isFilled →
      (after past).generation ≠ some call.generation := fun filled same =>
    not_isFilled_of_same forgotten same filled
  refine ⟨?_, ?_, ?_⟩
  · intro answer held
    simp only [cell] at held ⊢
    exact tracks.answered_cons (by rw [does]; rfl) held
  · intro filled useful
    simp only [filled_iff] at filled
    simp only [SwitchedInVain, if_neg (switches filled), broken] at useful
    exact absurd ⟨rfl, filled⟩ useful
  · intro vain
    simp only [filled_iff]
    have filled : (after past).isFilled := by
      simp only [SwitchedInVain] at vain
      split at vain
      · exact (tracks.stale vain).1
      · exact vain.2
    simp only [sinceSwitch_of_switch (switches filled), does]
    exact ⟨filled, newestLoad?_cons_of_not_completed rfl []⟩

theorem completed?_visit {cell : Cell α} {call : Call α} {reading : Except FileError Bytes}
    (forgotten : cell.remembered? call.generation = none)
    (completes : call.reading = .ofExcept reading) :
    (cell.visit call).1.completed? = some reading := by
  simp only [visit_of_not_remembered forgotten, completes]
  simp [Visit.completed?]

theorem Tracks.cons_of_completed {past : List (Call α)} (tracks : Tracks past) {call : Call α}
    {reading : Except FileError Bytes}
    (forgotten : (after past).remembered? call.generation = none)
    (completes : call.reading = .ofExcept reading) : Tracks (call :: past) := by
  have does := visit_of_not_remembered forgotten
  simp only [completes, revalidate_ofExcept] at does
  have completed := completed?_visit forgotten completes
  refine ⟨?_, ?_, ?_⟩
  · intro answer held
    refine ⟨_, reading, newestLoad?_cons_of_completed completed _, completed, ?_⟩
    simp only [after] at held ⊢
    rcases takeIn_cases { after past with generation := some call.generation } reading call.make
      with ⟨old, known, same, takes⟩ | ⟨_, takes⟩
    · simp only [takes] at does
      simp only [does] at held ⊢
      cases known.symm.trans held
      rcases tracks.answered answer known with ⟨_, source, _, _, fingerprint, _, made⟩
      have fingerprints := Option.some.inj (fingerprint.symm.trans same)
      exact ⟨same, rfl, (made.congr fingerprints).cons _⟩
    · simp only [takes] at does
      rw [does] at held completed ⊢
      have outcome := Outcome.settled?_eq_some_iff.mp held
      refine ⟨rfl, outcome, _, List.mem_cons_self, reading, (after past).value?, ?_, rfl, ?_⟩
      · simp only [does]
        exact completed
      · simp only [does]
        exact outcome
  · intro _ _
    rw [visits, newestLoad?_cons_of_completed completed, sinceSwitch,
      newestLoad?_cons_of_completed completed]
  · intro vain
    simp only [SwitchedInVain] at vain
    split at vain
    · next same => exact absurd (tracks.stale vain).1 (not_isFilled_of_same forgotten same)
    · simp only [completes, Outcome.settled?_ofExcept] at vain
      cases vain.1

theorem tracks (past : List (Call α)) : Tracks past := by
  induction past with
  | nil => exact tracks_nil
  | cons call past ih =>
      cases remembered : (after past).remembered? call.generation with
      | some answer => exact ih.cons_of_remembered remembered
      | none =>
          rcases call.reading.broken_or_ofExcept with ⟨fault, broken⟩ | ⟨reading, completes⟩
          · exact ih.cons_of_broken remembered broken
          · exact ih.cons_of_completed remembered completes

/-! ## The newest visit -/

theorem answer_visit {cell : Cell α} {call : Call α} {answer : Except FileError α}
    (gives : (cell.visit call).1.answer? = some answer) :
    (cell.visit call).2.answer = some answer := by
  cases remembered : cell.remembered? call.generation with
  | some old =>
      simp only [visit_of_remembered remembered] at gives ⊢
      simp only [Visit.answer?, Outcome.settled?_ofExcept] at gives
      rw [← gives]
      exact (remembered?_eq_some_iff.mp remembered).2
  | none =>
      simp only [visit_of_not_remembered remembered, Visit.answer?] at gives
      simp only [visit_of_not_remembered remembered]
      rcases call.reading.broken_or_ofExcept with ⟨fault, broken⟩ | ⟨reading, completes⟩
      · simp only [broken] at gives
        cases gives
      · simp only [completes, revalidate_ofExcept] at gives ⊢
        rcases takeIn_cases { cell with generation := some call.generation } reading call.make
          with ⟨old, known, _, takes⟩ | ⟨_, takes⟩
        · simp only [takes] at gives ⊢
          simp only [Outcome.settled?_ofExcept] at gives
          exact known.trans gives
        · simp only [takes] at gives ⊢
          exact gives

theorem answersNewest_visits {call : Call α} {past : List (Call α)}
    (answered : ((after past).visit call).1.answer?.isSome) :
    AnswersNewest ((after past).visit call).1.outcome (visits (call :: past))
      (visits (call :: past)) := by
  rcases Option.isSome_iff_exists.mp answered with ⟨answer, gives⟩
  rcases (tracks (call :: past)).answered answer (answer_visit gives) with
    ⟨load, reading, found, completed, _, outcome, made⟩
  simp only [Outcome.settled?_eq_some_iff.mp gives]
  exact ⟨load, reading, found, completed, outcome, made⟩

theorem not_answered_of_broken {cell : Cell α} {call : Call α}
    (switch : cell.generation ≠ some call.generation) (broken : call.reading.settled? = none) :
    (cell.visit call).1.answer? = none := by
  have forgotten : cell.remembered? call.generation = none := by
    simp [remembered?, switch]
  simp only [visit_of_not_remembered forgotten, Visit.answer?]
  rcases call.reading.broken_or_ofExcept with ⟨fault, shape⟩ | ⟨reading, shape⟩
  · simp only [shape]
    rfl
  · simp only [shape, Outcome.settled?_ofExcept] at broken
    cases broken

theorem upToDate_visits_iff (past : List (Call α)) (call : Call α) :
    UpToDate (visits (call :: past)) ↔
      ¬((after past).generation = some call.generation ∧ SwitchedInVain past) := by
  constructor
  · rintro upToDate ⟨same, vain⟩
    have vain' : SwitchedInVain (call :: past) := by
      simp only [SwitchedInVain, if_pos same]
      exact vain
    rcases Option.isSome_iff_exists.mp ((tracks past).stale vain).1 with ⟨answer, known⟩
    have remembered := remembered?_eq_some_iff.mpr ⟨same, known⟩
    have answered : ((after past).visit call).1.answer?.isSome := by
      simp only [visit_of_remembered remembered, Visit.answer?, Outcome.settled?_ofExcept]
      rfl
    rcases upToDate answered with ⟨load, _, found, _⟩
    have nothing := ((tracks (call :: past)).stale vain').2
    simp only [visits] at nothing
    simp only [nothing] at found
    cases found
  · intro useful answered
    have filled : (after (call :: past)).isFilled := by
      rcases Option.isSome_iff_exists.mp answered with ⟨answer, gives⟩
      exact Option.isSome_iff_exists.mpr ⟨answer, answer_visit gives⟩
    have useful' : ¬SwitchedInVain (call :: past) := by
      simp only [SwitchedInVain]
      split
      · next same => exact fun vain => useful ⟨same, vain⟩
      · next switch =>
          rintro ⟨broken, _⟩
          simp only [not_answered_of_broken switch broken] at answered
          cases answered
    rcases answersNewest_visits answered with ⟨load, reading, found, rest⟩
    refine ⟨load, reading, ?_, rest⟩
    rw [← found]
    exact (tracks (call :: past)).fresh filled useful'

/--
Every answer of a cell is that to the newest completed reading, and it is one of
the generation of the call, since the switch to it, exactly unless that switch was
an earlier call, broke off in its reading, and found an answer in the cell.
-/
theorem answers_newest_and_upToDate_iff (past : List (Call α)) (call : Call α) :
    (((after past).visit call).1.answer?.isSome →
      AnswersNewest ((after past).visit call).1.outcome (visits (call :: past))
        (visits (call :: past))) ∧
    (UpToDate (visits (call :: past)) ↔
      ¬((after past).generation = some call.generation ∧ SwitchedInVain past)) :=
  ⟨answersNewest_visits, upToDate_visits_iff past call⟩

/--
A text is read in the first generation, the reading of the second breaks off, and
the next call of the second is given the text of the first without reading.
-/
theorem stale_answer_after_interruption :
    let fault := Fault.breakdown "disk unplugged"
    let past : List (Call Bytes) :=
      [⟨2, .broken fault, fun bytes _ => .value bytes⟩,
       ⟨1, .value [97], fun bytes _ => .value bytes⟩]
    let call : Call Bytes := ⟨2, .value [98], fun bytes _ => .value bytes⟩
    ((after past).visit call).1.readings = [] ∧
      ((after past).visit call).1.outcome = .value [97] ∧
      ¬UpToDate (visits (call :: past)) := by
  refine ⟨rfl, rfl, ?_⟩
  simp only [upToDate_visits_iff, Classical.not_not, SwitchedInVain]
  refine ⟨rfl, ?_⟩
  rw [if_neg (by decide)]
  exact ⟨rfl, rfl⟩

end Typeset.Cell

import Typeset.FileCache
import Typeset.Proofs.Cell.Freshness

/-!
# Sources as objects

A source that was handed out is shared with those who hold it, and an edit reaches them all. So
that it can be told which source an answer is, sources are kept in a store here and named by their
places: the source cell of a slot remembers a place, a new source takes the next free place, and an
edit leaves a source in its place. A slot that remembers sources themselves gives what stands at
the places.

Histories list calls with the newest first.
-/

namespace Typeset.FileSlot

open Text

/-- A call for the source of a file: its generation, and how a reading would end. -/
structure Call where
  generation : Int
  reading : Except FileError Bytes

/-- The source cell of a slot, with every source that was ever handed out. -/
structure Held where
  cell : Cell Nat
  store : List Source

/-- What a call gives, the readings that it executed, and what it leaves behind. -/
structure Visit where
  outcome : Outcome Nat
  readings : List (Outcome Bytes)
  held : Held

/-- The text that a reading holds, if it was completed and can be decoded. -/
def text? : Except FileError Bytes → Option String
  | .ok bytes => (Utf8.decodeSource? bytes).map String.ofList
  | .error _ => none

/-- The source of new bytes: the previous one in its place, or a new one in the next place. -/
def parseAt (id : FileId) (store : List Source) (bytes : Bytes) (previous : Option Nat) :
    Outcome Nat × List Source :=
  match parse id bytes (previous.bind (store[·]?)), previous with
  | .value source, some place => (.value place, store.set place source)
  | .value source, none => (.value store.length, store ++ [source])
  | .failed error, _ => (.failed error, store)
  | .broken fault, _ => (.broken fault, store)

/-- What becomes of a reading that is new to the cell. -/
def answerAt (id : FileId) (store : List Source) (previous : Option Nat) :
    Except FileError Bytes → Outcome Nat × List Source
  | .ok bytes => parseAt id store bytes previous
  | .error error => (.failed error, store)

/-- What an access of the source cell leaves in the store. -/
def storeAfter (id : FileId) (store : List Source) (reading : Except FileError Bytes) :
    Cell.Event Nat → List Source
  | .made previous => (answerAt id store previous reading).2
  | _ => store

/-- A call of the source cell that remembers places. -/
def Held.visit (held : Held) (id : FileId) (call : Call) : Visit :=
  let make bytes previous := (parseAt id held.store bytes previous).1
  let (access, readings) :=
    (held.cell.access call.generation (noting (.ofExcept call.reading)) make).run []
  ⟨access.outcome, readings, ⟨access.cell, storeAfter id held.store call.reading access.event⟩⟩

def after (id : FileId) : List Call → Held
  | [] => ⟨.empty, []⟩
  | call :: past => ((after id past).visit id call).held

/-- A call of the source cell that remembers sources. -/
def Call.byValue (id : FileId) (call : Call) : Cell.Call Source :=
  ⟨call.generation, .ofExcept call.reading, parse id⟩

/-- An answer that names a place, and the same answer with the source that stands there. -/
inductive Shows (store : List Source) : Except FileError Nat → Except FileError Source → Prop
  | source {place : Nat} {source : Source} (there : store[place]? = some source) :
      Shows store (.ok place) (.ok source)
  | error (error : FileError) : Shows store (.error error) (.error error)

/-- A cell remembers the sources at the places that another cell remembers. -/
structure Held.Mirrors (held : Held) (cell : Cell Source) : Prop where
  generation : cell.generation = held.cell.generation
  fingerprint : cell.fingerprint = held.cell.fingerprint
  answer : Option.Rel (Shows held.store) held.cell.answer cell.answer

/-- A call by value executes the same readings, and gives the source at the place that is given. -/
structure Visit.Mirrors (visit : Visit) (byValue : Cell.Visit Source × Cell Source) : Prop where
  held : visit.held.Mirrors byValue.2
  readings : byValue.1.readings = visit.readings
  gives : ∃ answer shown, visit.outcome = .ofExcept answer ∧ byValue.1.outcome = .ofExcept shown ∧
    Shows visit.held.store answer shown

variable {id : FileId} {held : Held} {call : Call} {store : List Source}
  {reading : Except FileError Bytes}

/-! ## What a call does -/

theorem visit_of_remembered {answer : Except FileError Nat}
    (remembered : held.cell.remembered? call.generation = some answer) :
    held.visit id call = ⟨.ofExcept answer, [], held⟩ := by
  simp only [Held.visit, Cell.access_of_remembered remembered]
  rfl

theorem visit_of_not_remembered (forgotten : held.cell.remembered? call.generation = none) :
    held.visit id call =
      let access := held.cell.revalidate call.generation (.ofExcept call.reading)
        fun bytes previous => (parseAt id held.store bytes previous).1
      ⟨access.outcome, [.ofExcept call.reading],
        ⟨access.cell, storeAfter id held.store call.reading access.event⟩⟩ := by
  simp only [Held.visit, Cell.access_of_not_remembered forgotten]
  rfl

/-- A reading with the fingerprint of the one before changes nothing but the generation. -/
theorem visit_of_unchanged {answer : Except FileError Nat}
    (forgotten : held.cell.remembered? call.generation = none)
    (filled : held.cell.answer = some answer)
    (same : held.cell.fingerprint = some (fingerprint call.reading)) :
    held.visit id call =
      ⟨.ofExcept answer, [.ofExcept call.reading],
        ⟨{ held.cell with generation := some call.generation }, held.store⟩⟩ := by
  rw [visit_of_not_remembered forgotten, Cell.revalidate_of_unchanged filled same]
  rfl

/-- The answer to any other reading is new, and takes the place of the one before. -/
theorem visit_of_changed {answer : Except FileError Nat}
    (forgotten : held.cell.remembered? call.generation = none)
    (changed : held.cell.answer = none ∨ held.cell.fingerprint ≠ some (fingerprint call.reading))
    (made : answerAt id held.store held.cell.value? call.reading = (.ofExcept answer, store)) :
    held.visit id call =
      ⟨.ofExcept answer, [.ofExcept call.reading],
        ⟨⟨some answer, some (fingerprint call.reading), some call.generation⟩, store⟩⟩ := by
  have outcome : Cell.answerTo (fun bytes previous => (parseAt id held.store bytes previous).1)
      held.cell.value? call.reading = (answerAt id held.store held.cell.value? call.reading).1 := by
    cases call.reading <;> rfl
  have left : storeAfter id held.store call.reading
      (Cell.changedEvent held.cell.value? call.reading) =
        (answerAt id held.store held.cell.value? call.reading).2 := by
    cases call.reading <;> rfl
  rw [visit_of_not_remembered forgotten, Cell.revalidate_of_changed changed]
  simp only [outcome, left, made, Outcome.settled?_ofExcept]

/-! ## What is made of a reading -/

theorem answerAt_of_no_text (nothing : text? reading = none) (id : FileId)
    (store : List Source) :
    ∃ error, (∀ previous, answerAt id store previous reading = (.failed error, store)) ∧
      ∀ previous, Cell.answerTo (parse id) previous reading = .failed error := by
  cases reading with
  | error error => exact ⟨error, fun _ => rfl, fun _ => rfl⟩
  | ok bytes =>
      have undecodable : Utf8.decodeSource? bytes = none := by
        simpa [text?] using nothing
      have refused : readText bytes (some id) = .error (invalidText (some id)) := by
        simp only [readText, undecodable]
      refine ⟨invalidText (some id), fun previous => ?_, fun previous => ?_⟩
      · simp only [answerAt, parseAt, parse, refused]
      · simp only [Cell.answerTo, parse, refused]

theorem exists_bytes_of_text {text : String} (holds : text? reading = some text) (id : FileId) :
    ∃ bytes, reading = .ok bytes ∧ readText bytes (some id) = .ok text := by
  cases reading with
  | error error => cases holds
  | ok bytes =>
      rcases Option.map_eq_some_iff.mp holds with ⟨chars, decoded, rfl⟩
      exact ⟨bytes, rfl, by simp only [readText, decoded]⟩

theorem answerAt_of_text {text : String} (holds : text? reading = some text) (id : FileId)
    (store : List Source) :
    answerAt id store none reading = (.value store.length, store ++ [.ofText id text]) ∧
      Cell.answerTo (parse id) none reading = .value (.ofText id text) := by
  rcases exists_bytes_of_text holds id with ⟨bytes, rfl, decoded⟩
  constructor
  · simp only [answerAt, parseAt, parse, decoded, Option.bind_none]
  · simp only [Cell.answerTo, parse, decoded]

theorem answerAt_of_edit {text : String} (holds : text? reading = some text) (id : FileId)
    {place : Nat} {source : Source} (there : store[place]? = some source) :
    answerAt id store (some place) reading =
        (.value place, store.set place (source.replace text).1) ∧
      Cell.answerTo (parse id) (some source) reading = .value (source.replace text).1 := by
  rcases exists_bytes_of_text holds id with ⟨bytes, rfl, decoded⟩
  constructor
  · simp only [answerAt, parseAt, parse, decoded, Option.bind_some, there]
  · simp only [Cell.answerTo, parse, decoded]

/-! ## Places and sources -/

namespace Held.Mirrors

variable {cell : Cell Source}

theorem answers (mirrors : held.Mirrors cell) :
    (held.cell.answer = none ∧ cell.answer = none) ∨
      ∃ answer shown, held.cell.answer = some answer ∧ cell.answer = some shown ∧
        Shows held.store answer shown := by
  have answers := mirrors.answer
  generalize held.cell.answer = answer, cell.answer = shown at answers
  cases answers with
  | none => exact .inl ⟨rfl, rfl⟩
  | some shows => exact .inr ⟨_, _, rfl, rfl, shows⟩

theorem remembered? (mirrors : held.Mirrors cell) (generation : Int) :
    (held.cell.remembered? generation = none ∧ cell.remembered? generation = none) ∨
      ∃ answer shown, held.cell.remembered? generation = some answer ∧
        cell.remembered? generation = some shown ∧ Shows held.store answer shown := by
  simp only [Cell.remembered?, mirrors.generation]
  split
  · exact mirrors.answers
  · exact .inl ⟨rfl, rfl⟩

theorem value? (mirrors : held.Mirrors cell) :
    (held.cell.value? = none ∧ cell.value? = none) ∨
      ∃ place source, held.cell.value? = some place ∧ cell.value? = some source ∧
        held.store[place]? = some source := by
  simp only [Cell.value?]
  rcases mirrors.answers with ⟨empty, alsoEmpty⟩ | ⟨answer, shown, filled, alsoFilled, shows⟩
  · rw [empty, alsoEmpty]
    exact .inl ⟨rfl, rfl⟩
  · rw [filled, alsoFilled]
    cases shows with
    | error error => exact .inl ⟨rfl, rfl⟩
    | source there => exact .inr ⟨_, _, rfl, rfl, there⟩

/-- A new answer names the place of the source that is made of the reading by value. -/
theorem answerAt (mirrors : held.Mirrors cell) (id : FileId) (reading : Except FileError Bytes) :
    ∃ answer shown store,
      FileSlot.answerAt id held.store held.cell.value? reading = (.ofExcept answer, store) ∧
      Cell.answerTo (parse id) cell.value? reading = .ofExcept shown ∧
      Shows store answer shown := by
  cases holds : text? reading with
  | none =>
      rcases answerAt_of_no_text holds id held.store with ⟨error, refused, alike⟩
      exact ⟨.error error, .error error, held.store, refused _, alike _, .error error⟩
  | some text =>
      rcases mirrors.value? with ⟨new, alsoNew⟩ | ⟨place, source, old, alsoOld, there⟩
      · rcases answerAt_of_text holds id held.store with ⟨created, alike⟩
        rw [new, alsoNew]
        exact ⟨.ok _, .ok _, _, created, alike, .source List.getElem?_concat_length⟩
      · rcases answerAt_of_edit holds id there with ⟨edited, alike⟩
        rw [old, alsoOld]
        have inside : place < held.store.length := (List.getElem?_eq_some_iff.mp there).1
        exact ⟨.ok _, .ok _, _, edited, alike, .source (List.getElem?_set_self inside)⟩

theorem visit_of_changed (mirrors : held.Mirrors cell) (id : FileId)
    (forgotten : held.cell.remembered? call.generation = none)
    (alsoForgotten : cell.remembered? call.generation = none)
    (changed : held.cell.answer = none ∨
      held.cell.fingerprint ≠ some (Typeset.fingerprint call.reading))
    (alsoChanged : cell.answer = none ∨
      cell.fingerprint ≠ some (Typeset.fingerprint call.reading)) :
    (held.visit id call).Mirrors (cell.visit (call.byValue id)) := by
  rcases mirrors.answerAt id call.reading with ⟨answer, shown, store, made, alike, shows⟩
  have byValue : cell.visit (call.byValue id) =
      (⟨call.byValue id, [.ofExcept call.reading], .ofExcept shown⟩,
        ⟨some shown, some (Typeset.fingerprint call.reading), some call.generation⟩) := by
    rw [Cell.visit_of_not_remembered alsoForgotten]
    simp only [Call.byValue]
    rw [Cell.revalidate_of_changed alsoChanged, alike, Outcome.settled?_ofExcept]
  rw [FileSlot.visit_of_changed forgotten changed made, byValue]
  exact ⟨⟨rfl, rfl, .some shows⟩, rfl, answer, shown, rfl, rfl, shows⟩

theorem visit (mirrors : held.Mirrors cell) (id : FileId) (call : Call) :
    (held.visit id call).Mirrors (cell.visit (call.byValue id)) := by
  rcases mirrors.remembered? call.generation with
    ⟨forgotten, alsoForgotten⟩ | ⟨answer, shown, remembered, alsoRemembered, shows⟩
  · rcases mirrors.answers with ⟨empty, alsoEmpty⟩ | ⟨answer, shown, filled, alsoFilled, shows⟩
    · exact mirrors.visit_of_changed id forgotten alsoForgotten (.inl empty) (.inl alsoEmpty)
    · by_cases same : held.cell.fingerprint = some (Typeset.fingerprint call.reading)
      · have alsoSame := mirrors.fingerprint.trans same
        have byValue : cell.visit (call.byValue id) =
            (⟨call.byValue id, [.ofExcept call.reading], .ofExcept shown⟩,
              { cell with generation := some call.generation }) := by
          rw [Cell.visit_of_not_remembered alsoForgotten]
          simp only [Call.byValue]
          rw [Cell.revalidate_of_unchanged alsoFilled alsoSame]
        rw [visit_of_unchanged forgotten filled same, byValue]
        exact ⟨⟨rfl, mirrors.fingerprint, mirrors.answer⟩, rfl, answer, shown, rfl, rfl, shows⟩
      · have alsoDifferent : cell.fingerprint ≠ some (Typeset.fingerprint call.reading) := by
          rw [mirrors.fingerprint]
          exact same
        exact mirrors.visit_of_changed id forgotten alsoForgotten (.inr same) (.inr alsoDifferent)
  · rw [visit_of_remembered remembered, Cell.visit_of_remembered alsoRemembered]
    exact ⟨mirrors, rfl, answer, shown, rfl, rfl, shows⟩

end Held.Mirrors

namespace Visit.Mirrors

variable {visit : Visit} {byValue : Cell.Visit Source × Cell Source}

theorem failed (mirrors : visit.Mirrors byValue) {error : FileError}
    (gives : visit.outcome = .failed error) : byValue.1.outcome = .failed error := by
  rcases mirrors.gives with ⟨answer, shown, outcome, alike, shows⟩
  rw [gives] at outcome
  cases shows with
  | source there => cases outcome
  | error error =>
      cases outcome
      exact alike

theorem value (mirrors : visit.Mirrors byValue) {place : Nat}
    (gives : visit.outcome = .value place) :
    ∃ source, byValue.1.outcome = .value source ∧ visit.held.store[place]? = some source := by
  rcases mirrors.gives with ⟨answer, shown, outcome, alike, shows⟩
  rw [gives] at outcome
  cases shows with
  | source there =>
      cases outcome
      exact ⟨_, alike, there⟩
  | error error => cases outcome

end Visit.Mirrors

theorem mirrors_after (id : FileId) (past : List Call) :
    (after id past).Mirrors (Cell.after (past.map (·.byValue id))) := by
  induction past with
  | nil => exact ⟨rfl, rfl, .none⟩
  | cons call past ih => exact (ih.visit id call).held

end Typeset.FileSlot

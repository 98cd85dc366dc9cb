import Typeset.Cell

/-!
# What an access does

An access is answered from the cell, or takes in a reading. A reading that broke
off only marks the generation. A completed one is answered as before when the
cell holds an answer and its fingerprint is the old one, and otherwise puts what
is made of it into the cell.
-/

namespace Typeset

namespace Outcome

variable {α : Type}

/-- The answer that an outcome is, unless it was broken off. -/
def settled? : Outcome α → Option (Except FileError α)
  | .value result => some (.ok result)
  | .failed error => some (.error error)
  | .broken _ => none

@[simp]
theorem settled?_ofExcept (answer : Except FileError α) :
    (ofExcept answer).settled? = some answer := by
  cases answer <;> rfl

theorem settled?_eq_some_iff {outcome : Outcome α} {answer : Except FileError α} :
    outcome.settled? = some answer ↔ outcome = ofExcept answer := by
  constructor
  · intro settled
    cases outcome with
    | value result =>
        cases settled
        rfl
    | failed error =>
        cases settled
        rfl
    | broken fault => cases settled
  · rintro rfl
    exact settled?_ofExcept answer

/-- An outcome was broken off or is an answer. -/
theorem broken_or_ofExcept (outcome : Outcome α) :
    (∃ fault, outcome = broken fault) ∨ ∃ answer, outcome = ofExcept answer := by
  cases outcome with
  | value result => exact .inr ⟨.ok result, rfl⟩
  | failed error => exact .inr ⟨.error error, rfl⟩
  | broken fault => exact .inl ⟨fault, rfl⟩

end Outcome

/-- A reading that leaves a note when it is executed. -/
def noting (reading : Outcome Bytes) : StateM (List (Outcome Bytes)) (Outcome Bytes) := do
  modify (· ++ [reading])
  return reading

namespace Cell

variable {α σ : Type}

/-- What is made of a completed reading, given a previous value. -/
def answerTo (make : Bytes → Option α → Outcome α) (previous : Option α) :
    Except FileError Bytes → Outcome α
  | .ok bytes => make bytes previous
  | .error error => .failed error

/-- How the making of a new answer is told. -/
def changedEvent (previous : Option α) : Except FileError Bytes → Event α
  | .ok _ => .made previous
  | .error _ => .refused

theorem access_of_remembered {cell : Cell α} {generation : Int} {answer : Except FileError α}
    (remembered : cell.remembered? generation = some answer) (read : StateM σ (Outcome Bytes))
    (make : Bytes → Option α → Outcome α) (state : σ) :
    (cell.access generation read make).run state =
      (⟨.ofExcept answer, cell, .remembered⟩, state) := by
  simp only [access, remembered]
  rfl

theorem access_of_not_remembered {cell : Cell α} {generation : Int}
    (forgotten : cell.remembered? generation = none) (read : StateM σ (Outcome Bytes))
    (make : Bytes → Option α → Outcome α) (state : σ) :
    (cell.access generation read make).run state =
      (cell.revalidate generation (read.run state).1 make, (read.run state).2) := by
  simp only [access, forgotten]
  rfl

theorem remembered?_eq_some_iff {cell : Cell α} {generation : Int} {answer : Except FileError α} :
    cell.remembered? generation = some answer ↔
      cell.generation = some generation ∧ cell.answer = some answer := by
  simp only [remembered?]
  split <;> simp_all

theorem value?_eq_some_iff {cell : Cell α} {value : α} :
    cell.value? = some value ↔ cell.answer = some (.ok value) := by
  simp only [value?]
  split
  · next held => simp [held]
  · next other =>
      constructor
      · rintro ⟨⟩
      · exact fun held => absurd held (other value)

theorem settle_eq (cell : Cell α) (event : Event α) (outcome : Outcome α) :
    cell.settle event outcome = ⟨outcome, { cell with answer := outcome.settled? }, event⟩ := by
  cases outcome <;> rfl

theorem takeIn_of_unchanged {cell : Cell α} {answer : Except FileError α}
    {reading : Except FileError Bytes} (filled : cell.answer = some answer)
    (same : cell.fingerprint = some (Typeset.fingerprint reading))
    (make : Bytes → Option α → Outcome α) :
    cell.takeIn reading make =
      ⟨.ofExcept answer, cell, .unchanged (Typeset.fingerprint reading)⟩ := by
  simp [takeIn, filled, same]

theorem takeIn_of_changed {cell : Cell α} {reading : Except FileError Bytes}
    (changed : cell.answer = none ∨ cell.fingerprint ≠ some (Typeset.fingerprint reading))
    (make : Bytes → Option α → Outcome α) :
    cell.takeIn reading make =
      ⟨answerTo make cell.value? reading,
        { cell with
          answer := (answerTo make cell.value? reading).settled?
          fingerprint := some (Typeset.fingerprint reading) },
        changedEvent cell.value? reading⟩ := by
  simp only [takeIn]
  split
  · next filled same => simp_all
  · cases reading <;> simp [answerTo, changedEvent, value?, settle_eq]

/-- A completed reading is answered as before, or a new answer is put into the cell. -/
theorem takeIn_cases (cell : Cell α) (reading : Except FileError Bytes)
    (make : Bytes → Option α → Outcome α) :
    (∃ answer, cell.answer = some answer ∧
      cell.fingerprint = some (Typeset.fingerprint reading) ∧
      cell.takeIn reading make =
        ⟨.ofExcept answer, cell, .unchanged (Typeset.fingerprint reading)⟩) ∨
    ((cell.answer = none ∨ cell.fingerprint ≠ some (Typeset.fingerprint reading)) ∧
      cell.takeIn reading make =
        ⟨answerTo make cell.value? reading,
          { cell with
            answer := (answerTo make cell.value? reading).settled?
            fingerprint := some (Typeset.fingerprint reading) },
          changedEvent cell.value? reading⟩) := by
  cases filled : cell.answer with
  | none => exact .inr ⟨.inl rfl, takeIn_of_changed (.inl filled) make⟩
  | some answer =>
      by_cases same : cell.fingerprint = some (Typeset.fingerprint reading)
      · exact .inl ⟨answer, rfl, same, takeIn_of_unchanged filled same make⟩
      · exact .inr ⟨.inr same, takeIn_of_changed (.inr same) make⟩

/-- A new answer is made of bytes, and only when they are new to the cell. -/
theorem made_takeIn_iff (cell : Cell α) (reading : Except FileError Bytes)
    (make : Bytes → Option α → Outcome α) :
    (∃ previous, (cell.takeIn reading make).event = .made previous) ↔
      (∃ content, reading = .ok content) ∧
        (cell.answer = none ∨ cell.fingerprint ≠ some (Typeset.fingerprint reading)) := by
  rcases cell.takeIn_cases reading make with ⟨answer, held, same, does⟩ | ⟨changed, does⟩
  · simp [does, held, same]
  · cases reading with
    | ok content => simp [does, changed, changedEvent]
    | error error => simp [does, changedEvent]

@[simp]
theorem revalidate_broken (cell : Cell α) (generation : Int) (fault : Fault)
    (make : Bytes → Option α → Outcome α) :
    cell.revalidate generation (.broken fault) make =
      ⟨.broken fault, { cell with generation := some generation }, .interrupted⟩ := rfl

@[simp]
theorem revalidate_ofExcept (cell : Cell α) (generation : Int) (reading : Except FileError Bytes)
    (make : Bytes → Option α → Outcome α) :
    cell.revalidate generation (.ofExcept reading) make =
      { cell with generation := some generation }.takeIn reading make := by
  cases reading <;> rfl

theorem revalidate_of_unchanged {cell : Cell α} {answer : Except FileError α}
    {reading : Except FileError Bytes} (filled : cell.answer = some answer)
    (same : cell.fingerprint = some (Typeset.fingerprint reading)) (generation : Int)
    (make : Bytes → Option α → Outcome α) :
    cell.revalidate generation (.ofExcept reading) make =
      ⟨.ofExcept answer, { cell with generation := some generation },
        .unchanged (Typeset.fingerprint reading)⟩ := by
  rw [revalidate_ofExcept]
  refine takeIn_of_unchanged ?_ ?_ make
  · exact filled
  · exact same

theorem revalidate_of_changed {cell : Cell α} {reading : Except FileError Bytes}
    (changed : cell.answer = none ∨ cell.fingerprint ≠ some (Typeset.fingerprint reading))
    (generation : Int) (make : Bytes → Option α → Outcome α) :
    cell.revalidate generation (.ofExcept reading) make =
      ⟨answerTo make cell.value? reading,
        { answer := (answerTo make cell.value? reading).settled?
          fingerprint := some (Typeset.fingerprint reading)
          generation := some generation },
        changedEvent cell.value? reading⟩ := by
  rw [revalidate_ofExcept]
  refine takeIn_of_changed ?_ make
  exact changed

@[simp]
theorem generation_takeIn (cell : Cell α) (reading : Except FileError Bytes)
    (make : Bytes → Option α → Outcome α) :
    (cell.takeIn reading make).cell.generation = cell.generation := by
  rcases cell.takeIn_cases reading make with ⟨_, _, _, does⟩ | ⟨_, does⟩ <;> rw [does]

/-- However its reading ends, an access that reads marks the generation. -/
@[simp]
theorem generation_revalidate (cell : Cell α) (generation : Int) (reading : Outcome Bytes)
    (make : Bytes → Option α → Outcome α) :
    (cell.revalidate generation reading make).cell.generation = some generation := by
  rcases reading.broken_or_ofExcept with ⟨fault, rfl⟩ | ⟨completed, rfl⟩ <;> simp

/-- An access that reads and gives an answer leaves it in the cell for its generation. -/
theorem remembered?_revalidate {cell : Cell α} {generation : Int} {reading : Outcome Bytes}
    {make : Bytes → Option α → Outcome α} {answer : Except FileError α}
    (gives : (cell.revalidate generation reading make).outcome = .ofExcept answer) :
    (cell.revalidate generation reading make).cell.remembered? generation = some answer := by
  refine remembered?_eq_some_iff.mpr ⟨generation_revalidate cell generation reading make, ?_⟩
  rcases reading.broken_or_ofExcept with ⟨fault, rfl⟩ | ⟨completed, rfl⟩
  · cases answer <;> cases gives
  · simp only [revalidate_ofExcept] at gives ⊢
    rcases takeIn_cases { cell with generation := some generation } completed make with
      ⟨held, filled, _, does⟩ | ⟨_, does⟩
    · simp only [does] at gives ⊢
      cases held <;> cases answer <;> cases gives <;> exact filled
    · simp only [does] at gives ⊢
      simp only [gives, Outcome.settled?_ofExcept]

end Cell

end Typeset

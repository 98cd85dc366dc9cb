import Typeset.Fingerprint

/-!
# Cells

A cell remembers what became of one file: the last answer, the fingerprint of
the reading that it came from, and the generation of its last access. The first
access of a generation reads the file again and makes a new answer only when
the fingerprint has changed, from the new bytes and the previous value; later
accesses of the generation read nothing.

A reading that breaks off leaves the answer and the fingerprint as they were and
only marks the generation. An answer that breaks off while it is made leaves the
cell without one, so that the next access reads again.
-/

namespace Typeset

/-- The remembered answer of one file. -/
structure Cell (α : Type) where
  answer : Option (Except FileError α)
  fingerprint : Option String
  generation : Option Int

namespace Cell

variable {α : Type}

def empty : Cell α :=
  ⟨none, none, none⟩

def isFilled (cell : Cell α) : Bool :=
  cell.answer.isSome

/-- The value of the last answer, if it was one. -/
def value? (cell : Cell α) : Option α :=
  match cell.answer with
  | some (.ok value) => some value
  | _ => none

/-- How an access came by its outcome. -/
inductive Event (α : Type) where
  /-- The answer of this generation was at hand. -/
  | remembered
  /-- The reading broke off. -/
  | interrupted
  /-- The reading had the fingerprint of the one before. -/
  | unchanged (fingerprint : String)
  /-- The reading failed in a new way. -/
  | refused
  /-- An answer was made from new bytes and the previous value. -/
  | made (previous : Option α)

/-- What an access gives and leaves behind. -/
structure Access (α : Type) where
  outcome : Outcome α
  cell : Cell α
  event : Event α

/-- Put an answer into a cell that has taken in the fingerprint of its reading. -/
def settle (cell : Cell α) (event : Event α) : Outcome α → Access α
  | .value value => ⟨.value value, { cell with answer := some (.ok value) }, event⟩
  | .failed error => ⟨.failed error, { cell with answer := some (.error error) }, event⟩
  | .broken fault => ⟨.broken fault, { cell with answer := none }, event⟩

/-- Take in a finished reading, making an answer only if its fingerprint is new. -/
def takeIn (cell : Cell α) (reading : Except FileError Bytes)
    (make : Bytes → Option α → Outcome α) : Access α :=
  let current := Typeset.fingerprint reading
  match cell.answer, decide (cell.fingerprint = some current) with
  | some answer, true => ⟨.ofExcept answer, cell, .unchanged current⟩
  | _, _ =>
      let marked := { cell with fingerprint := some current }
      match reading with
      | .ok bytes => marked.settle (.made cell.value?) (make bytes cell.value?)
      | .error error => marked.settle .refused (.failed error)

/-- The answer of a generation that is at hand. -/
def remembered? (cell : Cell α) (generation : Int) : Option (Except FileError α) :=
  if cell.generation = some generation then cell.answer else none

/-- The access of a generation for which a reading was needed, given how the reading ended. -/
def revalidate (cell : Cell α) (generation : Int) (reading : Outcome Bytes)
    (make : Bytes → Option α → Outcome α) : Access α :=
  let entered := { cell with generation := some generation }
  match reading with
  | .value bytes => entered.takeIn (.ok bytes) make
  | .failed error => entered.takeIn (.error error) make
  | .broken fault => ⟨.broken fault, entered, .interrupted⟩

/-- Ask a cell for its answer in a generation; the file is read only when none is at hand. -/
def access {σ : Type} (cell : Cell α) (generation : Int) (read : StateM σ (Outcome Bytes))
    (make : Bytes → Option α → Outcome α) : StateM σ (Access α) := do
  match cell.remembered? generation with
  | some answer => return ⟨.ofExcept answer, cell, .remembered⟩
  | none => return cell.revalidate generation (← read) make

end Cell

end Typeset

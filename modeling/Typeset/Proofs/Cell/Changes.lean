import Typeset.Proofs.Cell.Access
import Typeset.Proofs.Fingerprint

/-!
# What a cell takes for a change

A cell compares fingerprints, and means readings. Where the hash has no collision it keeps
its answer exactly if the new reading is the same for every reader as the one that the
answer came from.
-/

namespace Typeset

variable {left right : Except FileError Bytes}

namespace Cell

variable {α : Type} {cell : Cell α} {answer : Except FileError α}

/-- A cell that was filled from a reading keeps its answer for the same reading. -/
theorem revalidate_of_sameReading (filled : cell.answer = some answer)
    (taken : cell.fingerprint = some (Typeset.fingerprint left)) (same : SameReading left right)
    (generation : Int) (make : Bytes → Option α → Outcome α) :
    cell.revalidate generation (.ofExcept right) make =
      ⟨.ofExcept answer, { cell with generation := some generation },
        .unchanged (Typeset.fingerprint right)⟩ := by
  refine revalidate_of_unchanged filled ?_ generation make
  rw [taken, Typeset.fingerprint, fingerprintInput_eq_iff.mpr same]
  rfl

/-- A cell that was filled from a reading takes in any other. -/
theorem revalidate_of_otherReading (free : CollisionFree [left, right])
    (taken : cell.fingerprint = some (Typeset.fingerprint left)) (other : ¬SameReading left right)
    (generation : Int) (make : Bytes → Option α → Outcome α) :
    cell.revalidate generation (.ofExcept right) make =
      ⟨answerTo make cell.value? right,
        { answer := (answerTo make cell.value? right).settled?
          fingerprint := some (Typeset.fingerprint right)
          generation := some generation },
        changedEvent cell.value? right⟩ := by
  refine revalidate_of_changed (.inr ?_) generation make
  rw [taken]
  intro equal
  exact other ((free.fingerprint_eq_iff (by simp) (by simp)).mp (Option.some.inj equal))

end Cell

/--
The fingerprints of two readings agree exactly if both are the same bytes or both are errors
that are the same, if the hash tells them apart when what is hashed for them differs; so no
content is taken for an error. Being the same is an equivalence of errors, and it is what a
cell goes by: filled from one reading, it keeps its answer for the same reading and makes
nothing, and takes in every other.
-/
theorem fingerprints_identify_readings (free : CollisionFree [left, right]) :
    (fingerprint left = fingerprint right ↔ SameReading left right) ∧
    (∀ content error, left = .ok content → right = .error error →
      fingerprint left ≠ fingerprint right) ∧
    (Equivalence fun error error' : FileError => error.same error' = true) ∧
    (∀ error error' : FileError, error.same error' = true ↔
      error.kind = error'.kind ∧ error.text = error'.text) ∧
    ∀ {α : Type} (cell : Cell α) (answer : Except FileError α) (generation : Int)
      (make : Bytes → Option α → Outcome α), cell.answer = some answer →
      cell.fingerprint = some (fingerprint left) →
      (SameReading left right → cell.revalidate generation (.ofExcept right) make =
        ⟨.ofExcept answer, { cell with generation := some generation },
          .unchanged (fingerprint right)⟩) ∧
      (¬SameReading left right → cell.revalidate generation (.ofExcept right) make =
        ⟨Cell.answerTo make cell.value? right,
          { answer := (Cell.answerTo make cell.value? right).settled?
            fingerprint := some (fingerprint right)
            generation := some generation },
          Cell.changedEvent cell.value? right⟩) := by
  have identify : fingerprint left = fingerprint right ↔ SameReading left right :=
    free.fingerprint_eq_iff (by simp) (by simp)
  refine ⟨identify, ?_, FileError.same_equivalence, ?_, ?_⟩
  · rintro content error rfl rfl equal
    cases identify.mp equal
  · intro error error'
    simp [FileError.same]
  · intro α cell answer generation make filled taken
    exact ⟨fun same => Cell.revalidate_of_sameReading filled taken same generation make,
      fun other => Cell.revalidate_of_otherReading free taken other generation make⟩

/--
An error that names its place is not told from one whose message names it, and the bytes that
are hashed for an error are told from the error when they are the content of a file.
-/
theorem fingerprints_identify_quoted_error :
    fingerprint (.error ⟨.notFound, "no file", some (.ofComponents ["a:b"])⟩) =
        fingerprint (.error (.ofMessage .notFound "no file (path: a:b)")) ∧
      fingerprint (.ok (fingerprintInput (.error (.ofMessage .notFound "no file (path: a:b)")))) ≠
        fingerprint (.error (.ofMessage .notFound "no file (path: a:b)")) := by
  constructor
  · refine (fingerprints_identify_readings ?_).1.mpr (.error ?_)
    · decide +kernel
    · decide
  · refine (fingerprints_identify_readings ?_).2.1 _ _ rfl rfl
    decide +kernel

end Typeset

import Typeset.Fingerprint
import Typeset.Proofs.Text.Utf8

/-!
# What a fingerprint tells

The bytes that are hashed for a reading determine it up to what readers can tell
of an error, which is its kind and its text. Where the hash has no collision, a
fingerprint that did not change therefore means a reading that did not change.
No hash of sixteen bytes is without collisions on all messages, so this is said
of the readings of one run.
-/

namespace Typeset

open Text

/-- The kind and the text of an error, by which alone readers tell it from others. -/
def FileError.bare (error : FileError) : FileError :=
  .ofMessage error.kind error.text

theorem FileError.bare_eq_iff {left right : FileError} :
    left.bare = right.bare ↔ left.same right = true := by
  simp [FileError.bare, FileError.ofMessage, FileError.same]

theorem FileError.text_eq_of_bare_eq {left right : FileError} (same : left.bare = right.bare) :
    left.text = right.text :=
  congrArg FileError.message same

/-- No name of a kind holds a colon, so the first colon ends the name. -/
theorem kind_text_eq_of_framed {left right : FileErrorKind} {leftText rightText : List Char}
    (equal : left.name.toList ++ ':' :: leftText = right.name.toList ++ ':' :: rightText) :
    left = right ∧ leftText = rightText := by
  cases left <;> cases right <;> simp [FileErrorKind.name] at equal ⊢ <;> exact equal

theorem bare_eq_of_fingerprintInput {left right : FileError}
    (equal : fingerprintInput (.error left) = fingerprintInput (.error right)) :
    left.bare = right.bare := by
  have texts := Utf8.encode_injective equal
  simp only [String.toList_append, toString, List.append_assoc] at texts
  have framed := List.append_cancel_left texts
  rcases kind_text_eq_of_framed framed with ⟨kinds, texts⟩
  simp only [FileError.bare, kinds, String.toList_inj.mp texts]

theorem fingerprintInput_ok_ne_error (content : Bytes) (error : FileError) :
    fingerprintInput (.ok content) ≠ fingerprintInput (.error error) := by
  intro equal
  have heads := congrArg List.head? equal
  simp [fingerprintInput, Utf8.encode, Utf8.encodeChar, Utf8.byte, toString] at heads

/-- What is hashed for a reading determines it up to what readers can tell. -/
theorem mapError_bare_eq_of_fingerprintInput {left right : Except FileError Bytes}
    (equal : fingerprintInput left = fingerprintInput right) :
    left.mapError FileError.bare = right.mapError FileError.bare := by
  cases left with
  | ok content =>
      cases right with
      | ok content' =>
          have contents := List.append_cancel_left equal
          simp only [contents]
      | error error => exact absurd equal (fingerprintInput_ok_ne_error content error)
  | error error =>
      cases right with
      | ok content => exact absurd equal.symm (fingerprintInput_ok_ne_error content error)
      | error error' => exact congrArg Except.error (bare_eq_of_fingerprintInput equal)

/-- Readings that no reader tells apart: the same bytes, or errors that are the same. -/
inductive SameReading : Except FileError Bytes → Except FileError Bytes → Prop
  | content (content : Bytes) : SameReading (.ok content) (.ok content)
  | error {left right : FileError} (same : left.same right = true) :
      SameReading (.error left) (.error right)

theorem sameReading_iff {left right : Except FileError Bytes} :
    SameReading left right ↔ left.mapError FileError.bare = right.mapError FileError.bare := by
  constructor
  · rintro (_ | same)
    · rfl
    · exact congrArg Except.error (FileError.bare_eq_iff.mpr same)
  · intro equal
    cases left with
    | ok content =>
        cases right with
        | ok content' =>
            cases equal
            exact .content content
        | error error => cases equal
    | error error =>
        cases right with
        | ok content => cases equal
        | error error' => exact .error (FileError.bare_eq_iff.mp (Except.error.inj equal))

/-- What is hashed for an error is read off its kind and its text. -/
theorem fingerprintInput_mapError_bare (reading : Except FileError Bytes) :
    fingerprintInput (reading.mapError FileError.bare) = fingerprintInput reading := by
  cases reading <;> rfl

/-- What is hashed tells readings apart exactly as readers do. -/
theorem fingerprintInput_eq_iff {left right : Except FileError Bytes} :
    fingerprintInput left = fingerprintInput right ↔ SameReading left right := by
  rw [sameReading_iff]
  constructor
  · exact mapError_bare_eq_of_fingerprintInput
  · intro same
    rw [← fingerprintInput_mapError_bare left, same, fingerprintInput_mapError_bare]

/-- Being the same for every reader is to have one kind and one text. -/
theorem FileError.same_equivalence :
    Equivalence fun left right : FileError => left.same right = true where
  refl _ := bare_eq_iff.mp rfl
  symm same := bare_eq_iff.mp (bare_eq_iff.mpr same).symm
  trans first second := bare_eq_iff.mp ((bare_eq_iff.mpr first).trans (bare_eq_iff.mpr second))

theorem digit_injective {left right : Nat} (leftSmall : left < 16) (rightSmall : right < 16)
    (equal : hexText.digit left = hexText.digit right) : left = right := by
  have table : ∀ i < 16, ∀ j < 16, hexText.digit i = hexText.digit j → i = j := by decide
  exact table left leftSmall right rightSmall equal

theorem hexText_injective {left right : Bytes} (equal : hexText left = hexText right) :
    left = right := by
  simp only [hexText, String.ofList_inj] at equal
  induction left generalizing right with
  | nil =>
      cases right with
      | nil => rfl
      | cons byte rest => simp at equal
  | cons byte rest ih =>
      cases right with
      | nil => simp at equal
      | cons byte' rest' =>
          simp only [List.flatMap_cons, List.cons_append, List.nil_append,
            List.cons.injEq] at equal
          rcases equal with ⟨high, low, rests⟩
          have highs := digit_injective (by have := byte.toNat_lt; omega)
            (by have := byte'.toNat_lt; omega) high
          have lows := digit_injective (by omega) (by omega) low
          have bytes : byte = byte' := UInt8.toNat_inj.mp (by omega)
          simp only [bytes, ih rests]

/-- Among some readings the hash tells apart all inputs that differ. -/
def CollisionFree (readings : List (Except FileError Bytes)) : Prop :=
  ∀ left ∈ readings, ∀ right ∈ readings,
    Blake2b.hash 16 (fingerprintInput left) = Blake2b.hash 16 (fingerprintInput right) →
      fingerprintInput left = fingerprintInput right

instance (readings : List (Except FileError Bytes)) : Decidable (CollisionFree readings) :=
  inferInstanceAs (Decidable (∀ left ∈ readings, ∀ right ∈ readings, _ → _))

namespace CollisionFree

variable {readings more : List (Except FileError Bytes)}

theorem mono (free : CollisionFree more) (subset : readings ⊆ more) : CollisionFree readings :=
  fun left leftMem right rightMem => free left (subset leftMem) right (subset rightMem)

/-- Readings of one fingerprint cannot be told apart. -/
theorem mapError_bare_eq (free : CollisionFree readings) {left right : Except FileError Bytes}
    (leftMem : left ∈ readings) (rightMem : right ∈ readings)
    (equal : fingerprint left = fingerprint right) :
    left.mapError FileError.bare = right.mapError FileError.bare :=
  mapError_bare_eq_of_fingerprintInput
    (free left leftMem right rightMem (hexText_injective equal))

theorem fingerprint_eq_iff (free : CollisionFree readings) {left right : Except FileError Bytes}
    (leftMem : left ∈ readings) (rightMem : right ∈ readings) :
    fingerprint left = fingerprint right ↔ SameReading left right := by
  rw [← fingerprintInput_eq_iff]
  constructor
  · exact fun equal => free left leftMem right rightMem (hexText_injective equal)
  · exact fun equal => congrArg (fun input => hexText (Blake2b.hash 16 input)) equal

end CollisionFree

end Typeset

import Typeset.Number.Decimal
import Typeset.Number.Shortest
import Typeset.Proofs.Number.Digits

/-!
# Characters of numbers

The text of a double or of a decimal has only letters, digits, points and signs.
-/

namespace Typeset.Number

/-- Whether a character can stand in the text of a number. -/
def isOfNumber (char : Char) : Bool :=
  char.isAlphanum || char == '.' || char == '+' || char == '-'

/-- A text that has only characters of numbers. -/
def Plain (chars : List Char) : Prop :=
  ∀ char ∈ chars, isOfNumber char

instance : DecidablePred Plain := fun chars =>
  chars.decidableBAll _

theorem plain_nil : Plain [] :=
  fun _ member => absurd member List.not_mem_nil

theorem plain_cons {char : Char} {chars : List Char} :
    Plain (char :: chars) ↔ isOfNumber char ∧ Plain chars :=
  List.forall_mem_cons

theorem plain_append {left right : List Char} : Plain (left ++ right) ↔ Plain left ∧ Plain right :=
  List.forall_mem_append

theorem Plain.mono {part whole : List Char} (plain : Plain whole) (within : part ⊆ whole) :
    Plain part :=
  fun char member => plain char (within member)

theorem Plain.ite {condition : Prop} [Decidable condition] {left right : List Char}
    (first : Plain left) (second : Plain right) : Plain (if condition then left else right) := by
  split
  · exact first
  · exact second

theorem plain_replicate_zero (count : Nat) : Plain (List.replicate count '0') := by
  intro char member
  rw [List.eq_of_mem_replicate member]
  rfl

theorem plain_digits (value : Nat) : Plain (digits value) := by
  intro char member
  simp [isOfNumber, Char.isAlphanum, isDigit_of_mem_digits member]

theorem plain_padDigits {chars : List Char} (plain : Plain chars) (width : Nat) :
    Plain (padDigits width chars) :=
  plain_append.mpr ⟨plain_replicate_zero _, plain⟩

/-! ## Doubles -/

theorem plain_significand (mantissa : Nat) (exponent : Int) :
    Plain (Shortest.significand mantissa exponent).digits := by
  -- the zeros at the end of the digits are dropped
  apply (plain_digits _).mono
  intro char member
  exact List.mem_reverse.mp ((List.dropWhile_sublist _).mem (List.mem_reverse.mp member))

section Texts

variable {number : Significand} (plain : Plain number.digits)
include plain

theorem plain_exponentText : Plain (exponentText number) := by
  have sign : isOfNumber (if number.point - 1 < 0 then '-' else '+') := by
    split <;> rfl
  have exponent : Plain (padDigits 2 (digits (number.point - 1).natAbs)) :=
    plain_padDigits (plain_digits _) 2
  refine plain_append.mpr ⟨?_, plain_cons.mpr ⟨rfl, plain_cons.mpr ⟨sign, exponent⟩⟩⟩
  split
  · next first second rest shown =>
      rw [shown] at plain
      rcases plain_cons.mp plain with ⟨digit, rest⟩
      exact plain_cons.mpr ⟨digit, plain_cons.mpr ⟨rfl, rest⟩⟩
  · exact plain

theorem plain_positionalText : Plain (positionalText number) := by
  have before : Plain (number.digits.take number.point.toNat) :=
    plain.mono (List.take_subset _ _)
  have behind : Plain (number.digits.drop number.point.toNat) :=
    plain.mono (List.drop_subset _ _)
  unfold positionalText
  apply Plain.ite
  · exact plain_cons.mpr ⟨rfl, plain_cons.mpr ⟨rfl, plain_append.mpr
      ⟨plain_replicate_zero _, plain⟩⟩⟩
  · apply Plain.ite
    · exact plain_append.mpr ⟨plain_append.mpr ⟨plain, plain_replicate_zero _⟩, by decide⟩
    · exact plain_append.mpr ⟨before, plain_cons.mpr ⟨rfl, behind⟩⟩

end Texts

theorem plain_signed {chars : List Char} (plain : Plain chars) (negative : Bool) :
    Plain (if negative then '-' :: chars else chars) :=
  (plain_cons.mpr ⟨rfl, plain⟩).ite plain

theorem plain_render_finite (negative : Bool) (mantissa : Nat) (exponent : Int) :
    Plain (Binary64.finite negative mantissa exponent).render.toList := by
  have number := plain_significand mantissa exponent
  rw [Binary64.render, String.toList_ofList]
  apply plain_signed
  apply Plain.ite
  · decide
  · exact (plain_positionalText number).ite (plain_exponentText number)

/-! ## Decimals -/

namespace Decimal

theorem plain_withScale {mantissa : List Char} (plain : Plain mantissa) (scale : Int) :
    Plain (unsignedText.withScale mantissa scale) := by
  have sign : isOfNumber (if scale < 0 then '-' else '+') := by
    split <;> rfl
  exact plain_append.mpr ⟨plain, plain_cons.mpr ⟨rfl, plain_cons.mpr ⟨sign, plain_digits _⟩⟩⟩

theorem plain_unsignedText (coefficient : Nat) (exponent : Int) :
    Plain (unsignedText coefficient exponent) := by
  have all := plain_digits coefficient
  unfold unsignedText
  extract_lets shown before point mantissa scale
  have plain : Plain mantissa := by
    apply Plain.ite
    · exact plain_cons.mpr ⟨rfl, plain_cons.mpr ⟨rfl, plain_append.mpr
        ⟨plain_replicate_zero _, all⟩⟩⟩
    · apply Plain.ite
      · exact plain_append.mpr ⟨all, plain_replicate_zero _⟩
      · exact plain_append.mpr ⟨all.mono (List.take_subset _ _),
          plain_cons.mpr ⟨rfl, all.mono (List.drop_subset _ _)⟩⟩
  exact plain.ite (plain_withScale plain scale)

theorem plain_render (decimal : Decimal) : Plain decimal.render.toList := by
  cases decimal with
  | finite negative coefficient exponent =>
      rw [render, render.signed, String.toList_ofList]
      exact plain_signed (plain_unsignedText coefficient exponent) negative
  | infinite negative =>
      rw [render, render.signed, String.toList_ofList]
      exact plain_signed (by decide) negative
  | notANumber negative signals payload =>
      have word : Plain (if signals then "sNaN".toList else "NaN".toList) :=
        Plain.ite (by decide) (by decide)
      have number : Plain (if payload = 0 then [] else digits payload) :=
        plain_nil.ite (plain_digits payload)
      rw [render, render.signed, String.toList_ofList]
      exact plain_signed (plain_append.mpr ⟨word, number⟩) negative

end Decimal

end Typeset.Number

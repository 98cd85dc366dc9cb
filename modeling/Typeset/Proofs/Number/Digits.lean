import Typeset.Number.Digits

/-!
# Digits of numbers

The digits of a number are decimal digits, at least one of them, and spell the number.
-/

namespace Typeset.Number

theorem isDigit_of_mem_digits {value : Nat} {char : Char} (member : char ∈ digits value) :
    char.isDigit :=
  Nat.isDigit_of_mem_toDigits (by decide) (by decide) member

theorem digits_ne_nil (value : Nat) : digits value ≠ [] :=
  Nat.toDigits_ne_nil

theorem ofDigitChars_digits (value : Nat) : Nat.ofDigitChars 10 (digits value) 0 = value :=
  Nat.ofDigitChars_ten_toDigits

theorem digits_injective : Function.Injective digits := by
  intro left right same
  rw [← ofDigitChars_digits left, same, ofDigitChars_digits]

theorem toList_toString_ofNat (size : Nat) : (toString (Int.ofNat size)).toList = digits size := by
  change (Nat.repr size).toList = Nat.toDigits 10 size
  rw [Nat.repr_eq_ofList_toDigits, String.toList_ofList]

theorem toList_toString_negSucc (size : Nat) :
    (toString (Int.negSucc size)).toList = '-' :: digits (size + 1) := by
  change ("-" ++ Nat.repr (size + 1)).toList = '-' :: Nat.toDigits 10 (size + 1)
  rw [Nat.repr_eq_ofList_toDigits, String.toList_append, String.toList_ofList]
  simp

theorem isDigit_or_minus_of_mem_toString {value : Int} {char : Char}
    (member : char ∈ (toString value).toList) : char.isDigit ∨ char = '-' := by
  cases value with
  | ofNat size =>
      rw [toList_toString_ofNat] at member
      exact .inl (isDigit_of_mem_digits member)
  | negSucc size =>
      rw [toList_toString_negSucc] at member
      rcases List.mem_cons.mp member with sign | later
      · exact .inr sign
      · exact .inl (isDigit_of_mem_digits later)

theorem digits_ne_minus (size size' : Nat) : digits size ≠ '-' :: digits size' := by
  intro same
  have sign : '-' ∈ digits size := by
    rw [same]
    exact List.mem_cons_self
  exact absurd (isDigit_of_mem_digits sign) (by decide)

theorem toString_int_injective : Function.Injective (toString : Int → String) := by
  intro left right same
  have shown := congrArg String.toList same
  cases left with
  | ofNat size =>
      cases right with
      | ofNat size' =>
          rw [toList_toString_ofNat, toList_toString_ofNat] at shown
          rw [digits_injective shown]
      | negSucc size' =>
          rw [toList_toString_ofNat, toList_toString_negSucc] at shown
          exact absurd shown (digits_ne_minus size (size' + 1))
  | negSucc size =>
      cases right with
      | ofNat size' =>
          rw [toList_toString_negSucc, toList_toString_ofNat] at shown
          exact absurd shown.symm (digits_ne_minus size' (size + 1))
      | negSucc size' =>
          rw [toList_toString_negSucc, toList_toString_negSucc] at shown
          rw [Nat.succ.inj (digits_injective (List.cons.inj shown).2)]

end Typeset.Number

import Typeset.Proofs.Literal.OfValue

/-!
# Encoded values stand on one line

No literal that a value gets has a carriage return or a line feed in its text: within
quotes both are escaped, and nothing outside quotes breaks a line.
-/

namespace Typeset

namespace Literal

open Text

theorem unbroken_of_plain {chars : List Char} (plain : Number.Plain chars) : Unbroken chars :=
  fun char member => ⟨ne_of_isOfNumber (plain char member) rfl,
    ne_of_isOfNumber (plain char member) rfl⟩

theorem unbroken_intText (value : Int) : Unbroken (intText value) := by
  cases value with
  | ofNat size =>
      rw [intText, Number.toList_toString_ofNat]
      exact unbroken_of_plain (Number.plain_digits size)
  | negSucc size =>
      rw [intText, Number.toList_toString_negSucc]
      exact unbroken_cons.mpr ⟨by decide, unbroken_of_plain (Number.plain_digits (size + 1))⟩

theorem unbroken_commaSeparated {texts : List (List Char)} (each : ∀ text ∈ texts, Unbroken text) :
    Unbroken (commaSeparated texts) := by
  fun_induction commaSeparated texts with
  | case1 => decide
  | case2 item => exact each item List.mem_cons_self
  | case3 item items _ ih =>
      rcases List.forall_mem_cons.mp each with ⟨first, later⟩
      exact unbroken_append.mpr ⟨first, unbroken_cons.mpr ⟨by decide,
        unbroken_cons.mpr ⟨by decide, ih later⟩⟩⟩

theorem unbroken_parentheses {inner : List Char} (unbroken : Unbroken inner) (closing : List Char)
    (closes : Unbroken closing) : Unbroken ('(' :: inner ++ closing) :=
  unbroken_append.mpr ⟨unbroken_cons.mpr ⟨by decide, unbroken⟩, closes⟩

theorem unbroken_arrayText {texts : List (List Char)} (each : ∀ text ∈ texts, Unbroken text) :
    Unbroken (arrayText texts) := by
  fun_cases arrayText texts with
  | case1 => decide
  | case2 item => exact unbroken_parentheses (each item List.mem_cons_self) _ (by decide)
  | case3 texts _ _ => exact unbroken_parentheses (unbroken_commaSeparated each) _ (by decide)

theorem unbroken_dictionaryText {texts : List (List Char)}
    (each : ∀ text ∈ texts, Unbroken text) : Unbroken (dictionaryText texts) := by
  fun_cases dictionaryText texts with
  | case1 => decide
  | case2 texts _ => exact unbroken_parentheses (unbroken_commaSeparated each) _ (by decide)

theorem unbroken_call {name : String} (unbroken : Unbroken name.toList) {argument : List Char}
    (inside : Unbroken argument) : Unbroken (call name argument) := by
  rw [call, List.append_assoc]
  exact unbroken_append.mpr ⟨unbroken, unbroken_parentheses inside _ (by decide)⟩

theorem unbroken_part {name : String} (unbroken : Unbroken name.toList) (value : Int) :
    Unbroken (part name value) :=
  unbroken_append.mpr ⟨unbroken, unbroken_cons.mpr ⟨by decide, unbroken_cons.mpr ⟨by decide,
    unbroken_intText value⟩⟩⟩

theorem unbroken_dateParts (year month day : Int) :
    ∀ text ∈ dateParts year month day, Unbroken text := by
  simp only [dateParts, List.forall_mem_cons]
  exact ⟨unbroken_part (by decide) year, unbroken_part (by decide) month,
    unbroken_part (by decide) day, fun _ member => absurd member List.not_mem_nil⟩

theorem unbroken_timeParts (hour minute second : Int) :
    ∀ text ∈ timeParts hour minute second, Unbroken text := by
  simp only [timeParts, List.forall_mem_cons]
  exact ⟨unbroken_part (by decide) hour, unbroken_part (by decide) minute,
    unbroken_part (by decide) second, fun _ member => absurd member List.not_mem_nil⟩

theorem Readable.unbroken {literal : Literal} (readable : literal.Readable) :
    Unbroken literal.chars := by
  induction readable with
  | nothing => decide
  | bool value => cases value <;> decide
  | int value => exact unbroken_call (by decide) (unbroken_intText value)
  | floatNaN => decide
  | floatInfinity negative => cases negative <;> decide
  | float plain => exact unbroken_call (by decide) (unbroken_of_plain plain)
  | @decimal text plain =>
      have quoted := Escaped.unbroken_inQuotes text
      rw [inQuotes_of_plain plain] at quoted
      exact unbroken_call (by decide) quoted
  | bytes content =>
      apply unbroken_call (by decide)
      apply unbroken_arrayText
      intro text member
      rcases List.mem_map.mp member with ⟨byte, _, rfl⟩
      exact unbroken_of_plain (Number.plain_digits byte.toNat)
  | text value => exact Escaped.unbroken_inQuotes value
  | array each ih =>
      rw [chars_array]
      apply unbroken_arrayText
      intro text member
      rcases List.mem_map.mp member with ⟨item, inItems, rfl⟩
      exact ih item inItems
  | dictionary each ih =>
      rw [chars_dictionary]
      apply unbroken_dictionaryText
      intro text member
      rcases List.mem_map.mp member with ⟨entry, inEntries, rfl⟩
      exact unbroken_append.mpr ⟨Escaped.unbroken_inQuotes entry.1, unbroken_cons.mpr ⟨by decide,
        unbroken_cons.mpr ⟨by decide, ih entry inEntries⟩⟩⟩
  | date year month day =>
      exact unbroken_call (by decide) (unbroken_commaSeparated (unbroken_dateParts year month day))
  | time hour minute second =>
      exact unbroken_call (by decide)
        (unbroken_commaSeparated (unbroken_timeParts hour minute second))
  | moment year month day hour minute second =>
      apply unbroken_call (by decide)
      exact unbroken_commaSeparated (List.forall_mem_append.mpr
        ⟨unbroken_dateParts year month day, unbroken_timeParts hour minute second⟩)

end Literal

end Typeset

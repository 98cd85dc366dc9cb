import Mathlib.Data.List.Perm.Basic
import Typeset.Proofs.Value.Order

/-!
# Sets listed in another order

A value can be given again with the elements of the sets in it in other orders. Neither the
equality nor the order of values tells the two from each other.
-/

namespace Typeset

namespace Value

/--
A value is another one except for the orders in which the sets in it list their elements. The keys
of mappings are the same, since their texts show such orders.
-/
inductive Relisted : Value → Value → Prop
  | itself (value : Value) : Relisted value value
  | array (frozen : Bool) {items others : List Value} (each : List.Forall₂ Relisted items others) :
      Relisted (.array frozen items) (.array frozen others)
  | set (frozen frozen' : Bool) {items middle others : List Value}
      (each : List.Forall₂ Relisted items middle) (order : middle.Perm others) :
      Relisted (.set frozen items) (.set frozen' others)
  | mapping {entries others : List (Value × Value)} (keys : entries.map (·.1) = others.map (·.1))
      (each : List.Forall₂ Relisted (entries.map (·.2)) (others.map (·.2))) :
      Relisted (.mapping entries) (.mapping others)
  | member (type name : String) {value other : Value} (inside : Relisted value other) :
      Relisted (.member type name value) (.member type name other)
  | record (type : String) {fields others : List (String × Value)}
      (names : fields.map (·.1) = others.map (·.1))
      (each : List.Forall₂ Relisted (fields.map (·.2)) (others.map (·.2))) :
      Relisted (.record type fields) (.record type others)

variable {left right left' right' : Value}

/-- The elements of a set that is listed again, up to their order. -/
def Regrouped (items others : List Value) : Prop :=
  ∃ middle, List.Forall₂ Relisted items middle ∧ middle.Perm others

theorem Regrouped.length_eq {items others : List Value} (regrouped : Regrouped items others) :
    items.length = others.length := by
  rcases regrouped with ⟨middle, each, order⟩
  exact each.length_eq.trans order.length_eq

end Value

end Typeset

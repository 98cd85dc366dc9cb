import Mathlib.Algebra.Order.Field.Basic
import Mathlib.Data.Nat.Cast.Order.Field
import Mathlib.Data.Rat.Cast.Order
import Mathlib.Order.Compare
import Mathlib.Order.WithBot
import Mathlib.Tactic.FieldSimp
import Mathlib.Tactic.Linarith
import Typeset.Number.Quantity

/-!
# Exact comparison

Quantities are compared as the rational numbers that they stand for, with an infinity at
either end. The places of the first digits settle a comparison only if they are so far apart
that the powers of ten between them do; all others are settled by a product over the cross.
-/

namespace Typeset.Number

theorem lt_pow_digitCount (value : Nat) : value < 10 ^ digitCount value :=
  (Nat.length_toDigits_le_iff (by decide) Nat.length_toDigits_pos).mp (Nat.le_refl _)

theorem pow_le_of_lt_digitCount {value places : Nat} (positive : 0 < places)
    (within : places < digitCount value) : 10 ^ places ≤ value := by
  apply Nat.le_of_not_lt
  intro small
  have short := (Nat.length_toDigits_le_iff (by decide) positive).mpr small
  exact absurd within (Nat.not_lt.mpr short)

theorem pow_le_digitCount {value : Nat} (positive : 0 < value) :
    10 ^ (digitCount value - 1) ≤ value := by
  by_cases one : digitCount value - 1 = 0
  · rw [one]
    exact positive
  · exact pow_le_of_lt_digitCount (by omega) (by omega)

/-- A fraction that is at least one has the first digit where its whole part has it. -/
theorem bounds_of_le {numerator denominator : Nat} (positive : 0 < denominator)
    (great : denominator ≤ numerator) :
    (10 : Rat) ^ ((digitCount (numerator / denominator) : Int) - 1) ≤ numerator / denominator ∧
      (numerator / denominator : Rat) ≤ 10 ^ (digitCount (numerator / denominator) : Int) := by
  have whole : 0 < numerator / denominator := Nat.div_pos great positive
  have place : 0 < digitCount (numerator / denominator) := Nat.length_toDigits_pos
  constructor
  · have least : ((10 ^ (digitCount (numerator / denominator) - 1) : Nat) : Rat) ≤
        (numerator / denominator : Nat) := Nat.cast_le.mpr (pow_le_digitCount whole)
    have power : (10 : Rat) ^ ((digitCount (numerator / denominator) : Int) - 1) =
        ((10 ^ (digitCount (numerator / denominator) - 1) : Nat) : Rat) := by
      rw [← Nat.cast_pred place, zpow_natCast, Nat.cast_pow, Nat.cast_ofNat]
    rw [power]
    exact least.trans Nat.cast_div_le
  · have next : numerator ≤ 10 ^ digitCount (numerator / denominator) * denominator := by
      have above := lt_pow_digitCount (numerator / denominator)
      exact Nat.le_of_lt ((Nat.div_lt_iff_lt_mul positive).mp above)
    rw [zpow_natCast, div_le_iff₀ (Nat.cast_pos.mpr positive)]
    exact_mod_cast next

/-- The places of a fraction enclose it between powers of ten. -/
theorem magnitude_bounds {numerator denominator : Nat} (nonzero : 0 < numerator)
    (positive : 0 < denominator) :
    (10 : Rat) ^ (magnitude numerator denominator - 1) ≤ numerator / denominator ∧
      (numerator / denominator : Rat) ≤ 10 ^ magnitude numerator denominator := by
  unfold magnitude
  split
  · next great => exact bounds_of_le positive great
  · next small =>
      rcases bounds_of_le nonzero (Nat.le_of_not_le small) with ⟨least, most⟩
      have flip : (numerator / denominator : Rat) = (denominator / numerator : Rat)⁻¹ :=
        (inv_div _ _).symm
      have ratio : (0 : Rat) < denominator / numerator :=
        div_pos (Nat.cast_pos.mpr positive) (Nat.cast_pos.mpr nonzero)
      rw [flip]
      constructor
      · rw [sub_sub_cancel_left, zpow_neg]
        exact inv_anti₀ ratio most
      · rw [← neg_sub, zpow_neg]
        exact inv_anti₀ (zpow_pos (by decide) _) least

namespace Quantity

/-- What a fraction with a power of ten amounts to. -/
def size (numerator denominator : Nat) (tens : Int) : Rat :=
  numerator / denominator * 10 ^ tens

theorem size_pos {numerator denominator : Nat} (nonzero : 0 < numerator)
    (positive : 0 < denominator) (tens : Int) : 0 < size numerator denominator tens :=
  mul_pos (div_pos (Nat.cast_pos.mpr nonzero) (Nat.cast_pos.mpr positive))
    (zpow_pos (by decide) tens)

theorem size_bounds {numerator denominator : Nat} (nonzero : 0 < numerator)
    (positive : 0 < denominator) (tens : Int) :
    (10 : Rat) ^ (magnitude numerator denominator + tens - 1) ≤ size numerator denominator tens ∧
      size numerator denominator tens ≤ 10 ^ (magnitude numerator denominator + tens) := by
  rcases magnitude_bounds nonzero positive with ⟨least, most⟩
  have ten : (10 : Rat) ≠ 0 := by decide
  have scale : (0 : Rat) ≤ 10 ^ tens := (zpow_pos (by decide) tens).le
  constructor
  · rw [add_sub_right_comm, zpow_add₀ ten]
    exact mul_le_mul_of_nonneg_right least scale
  · rw [zpow_add₀ ten]
    exact mul_le_mul_of_nonneg_right most scale

/-- A fraction is below another one if its first digit stands two places further back. -/
theorem size_lt_of_places {numerator denominator numerator' denominator' : Nat}
    {tens tens' : Int} (nonzero : 0 < numerator) (positive : 0 < denominator)
    (nonzero' : 0 < numerator') (positive' : 0 < denominator')
    (apart : magnitude numerator denominator + tens + 1 <
      magnitude numerator' denominator' + tens') :
    size numerator denominator tens < size numerator' denominator' tens' := by
  calc size numerator denominator tens
      ≤ 10 ^ (magnitude numerator denominator + tens) := (size_bounds nonzero positive tens).2
    _ < 10 ^ (magnitude numerator' denominator' + tens' - 1) :=
        zpow_lt_zpow_right₀ (by decide) (by omega)
    _ ≤ size numerator' denominator' tens' := (size_bounds nonzero' positive' tens').1

theorem compare_map {α β : Type} [LinearOrder α] [LinearOrder β] {map : α → β}
    (mono : StrictMono map) (left right : α) :
    compare (map left) (map right) = compare left right := by
  rw [← cmp_eq_compare, ← cmp_eq_compare, mono.cmp_map_eq]

/-- The part of a cross product that one of two fractions has. -/
theorem size_mul_common (numerator : Nat) {denominator : Nat} (positive : 0 < denominator)
    (denominator' : Nat) (tens tens' : Int) :
    size numerator denominator tens * (denominator * denominator' * 10 ^ (-min tens tens')) =
      ((numerator * denominator' * tenTo (tens - tens').toNat : Nat) : Rat) := by
  have apart : ((tens - tens').toNat : Int) = tens + -min tens tens' := by omega
  have power : (10 : Rat) ^ tens * 10 ^ (-min tens tens') = 10 ^ (tens - tens').toNat := by
    rw [← zpow_add₀ (by decide), ← apart, zpow_natCast]
  have below : (denominator : Rat) ≠ 0 := Nat.cast_ne_zero.mpr (Nat.ne_of_gt positive)
  rw [size, tenTo, Nat.pow_eq]
  push_cast
  rw [← power]
  field_simp

theorem compareSizes_eq {numerator denominator numerator' denominator' : Nat}
    (nonzero : 0 < numerator) (positive : 0 < denominator) (nonzero' : 0 < numerator')
    (positive' : 0 < denominator') (tens tens' : Int) :
    compareSizes numerator denominator tens numerator' denominator' tens' =
      compare (size numerator denominator tens) (size numerator' denominator' tens') := by
  simp only [compareSizes]
  split
  · next before =>
      exact (compare_lt_iff_lt.mpr
        (size_lt_of_places nonzero positive nonzero' positive' before)).symm
  · split
    · next after =>
        exact (compare_gt_iff_gt.mpr
          (size_lt_of_places nonzero' positive' nonzero positive after)).symm
    · have scale : (0 : Rat) < denominator * denominator' * 10 ^ (-min tens tens') :=
        mul_pos (mul_pos (Nat.cast_pos.mpr positive) (Nat.cast_pos.mpr positive'))
          (zpow_pos (by decide) _)
      have scaled := size_mul_common numerator positive denominator' tens tens'
      have scaled' := size_mul_common numerator' positive' denominator tens' tens
      rw [min_comm, mul_comm (denominator' : Rat)] at scaled'
      -- times one positive scale, the two are the products over the cross
      rw [← compare_map (strictMono_mul_right_of_pos scale), scaled, scaled',
        compare_map Nat.strictMono_cast]

/-! ## Quantities as numbers -/

/-- What a finite quantity stands for. -/
def signed (negative : Bool) (size : Rat) : Rat :=
  if negative then -size else size

/-- What a quantity stands for, unless it is undefined: a rational number or an end of them all. -/
def number? : Quantity → Option (WithBot (WithTop Rat))
  | .undefined => none
  | .infinite true => some ⊥
  | .infinite false => some ⊤
  | .finite negative numerator denominator tens =>
      some ((signed negative (size numerator denominator tens) : WithTop Rat) :
        WithBot (WithTop Rat))

/-- A quantity that is no division by zero. -/
def Proper : Quantity → Prop
  | .finite _ _ denominator _ => 0 < denominator
  | _ => True

theorem proper_ofInt (value : Int) : (ofInt value).Proper :=
  Nat.one_pos

theorem proper_ofBinary64 (value : Binary64) : (ofBinary64 value).Proper := by
  cases value with
  | notANumber => trivial
  | infinite negative => trivial
  | finite negative mantissa exponent => exact Nat.pow_pos (by decide)

theorem proper_ofDecimal (value : Decimal) : (ofDecimal value).Proper := by
  cases value with
  | finite negative coefficient exponent => exact Nat.one_pos
  | infinite negative => trivial
  | notANumber negative signals payload => trivial

theorem size_zero (denominator : Nat) (tens : Int) : size 0 denominator tens = 0 := by
  rw [size, Nat.cast_zero, zero_div, zero_mul]

theorem compare_neg (left right : Rat) : compare (-left) (-right) = compare right left := by
  rcases lt_trichotomy right left with below | rfl | above
  · rw [compare_lt_iff_lt.mpr below, compare_lt_iff_lt.mpr (neg_lt_neg below)]
  · rw [compare_eq_iff_eq.mpr rfl, compare_eq_iff_eq.mpr rfl]
  · rw [compare_gt_iff_gt.mpr above, compare_gt_iff_gt.mpr (neg_lt_neg above)]

/-- Two finite quantities are compared as signed numbers. -/
theorem compare?_finite {negative negative' : Bool}
    {numerator denominator numerator' denominator' : Nat} {tens tens' : Int}
    (positive : 0 < denominator) (positive' : 0 < denominator') :
    (finite negative numerator denominator tens).compare?
        (finite negative' numerator' denominator' tens') =
      some (compare (signed negative (size numerator denominator tens))
        (signed negative' (size numerator' denominator' tens'))) := by
  rcases Nat.eq_zero_or_pos numerator with rfl | nonzero
  · rcases Nat.eq_zero_or_pos numerator' with rfl | nonzero'
    · cases negative <;> cases negative' <;> simp [compare?, size_zero, signed]
    · have great := size_pos nonzero' positive' tens'
      cases negative <;> cases negative' <;>
        simp [compare?, size_zero, signed, nonzero'.ne', compare_lt_iff_lt.mpr great,
          compare_gt_iff_gt.mpr (neg_lt_zero.mpr great)]
  · have great := size_pos nonzero positive tens
    rcases Nat.eq_zero_or_pos numerator' with rfl | nonzero'
    · cases negative <;> cases negative' <;>
        simp [compare?, size_zero, signed, nonzero.ne', compare_gt_iff_gt.mpr great,
          compare_lt_iff_lt.mpr (neg_lt_zero.mpr great)]
    · have great' := size_pos nonzero' positive' tens'
      have sizes := compareSizes_eq nonzero positive nonzero' positive' tens tens'
      have sizes' := compareSizes_eq nonzero' positive' nonzero positive tens' tens
      cases negative <;> cases negative' <;>
        simp only [compare?, nonzero.ne', nonzero'.ne', decide_false, signed, if_true,
          Bool.false_eq_true, if_false, sizes, sizes', compare_neg]
      · rw [compare_gt_iff_gt.mpr ((neg_lt_zero.mpr great').trans great)]
      · rw [compare_lt_iff_lt.mpr ((neg_lt_zero.mpr great).trans great')]

theorem compare?_eq {left right : Quantity} (proper : left.Proper) (proper' : right.Proper) :
    left.compare? right = do
      let number ← left.number?
      let number' ← right.number?
      return compare number number' := by
  cases left with
  | undefined => rfl
  | infinite negative =>
      cases right with
      | undefined => cases negative <;> rfl
      | infinite negative' => cases negative <;> cases negative' <;> decide
      | finite negative' numerator' denominator' tens' =>
          cases negative
          · exact congrArg some (compare_gt_iff_gt.mpr (WithBot.coe_lt_coe.mpr
              (WithTop.coe_lt_top _))).symm
          · exact congrArg some (compare_lt_iff_lt.mpr (WithBot.bot_lt_coe _)).symm
  | finite negative numerator denominator tens =>
      cases right with
      | undefined => rfl
      | infinite negative' =>
          cases negative'
          · exact congrArg some (compare_lt_iff_lt.mpr (WithBot.coe_lt_coe.mpr
              (WithTop.coe_lt_top _))).symm
          · exact congrArg some (compare_gt_iff_gt.mpr (WithBot.bot_lt_coe _)).symm
      | finite negative' numerator' denominator' tens' =>
          have mono : StrictMono fun number : Rat =>
              ((number : WithTop Rat) : WithBot (WithTop Rat)) :=
            WithBot.coe_strictMono.comp WithTop.coe_strictMono
          rw [compare?_finite proper proper']
          exact congrArg some (compare_map mono _ _).symm

variable {left right : Quantity}

theorem same_iff (proper : left.Proper) (proper' : right.Proper) :
    left.same right = true ↔
      ∃ number, left.number? = some number ∧ right.number? = some number := by
  rw [same, beq_iff_eq, compare?_eq proper proper']
  cases left.number? with
  | none => simp
  | some number =>
      cases right.number? with
      | none => simp
      | some number' => simpa [eq_comm] using compare_eq_iff_eq

theorem isBelow_iff (proper : left.Proper) (proper' : right.Proper) :
    left.isBelow right = true ↔
      ∃ number number', left.number? = some number ∧ right.number? = some number' ∧
        number < number' := by
  rw [isBelow, beq_iff_eq, compare?_eq proper proper']
  cases left.number? with
  | none => simp
  | some number =>
      cases right.number? with
      | none => simp
      | some number' => simpa using compare_lt_iff_lt

end Quantity

end Typeset.Number

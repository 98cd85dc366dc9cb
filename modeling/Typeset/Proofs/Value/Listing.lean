import Mathlib.Data.List.Pairwise
import Typeset.Proofs.Sorting.Groups
import Typeset.Proofs.Value.Kinds
import Typeset.Proofs.Value.Relisting

/-!
# Sets in ascending order

If of every two elements of a set exactly one is before the other, then the elements have one
ascending order, in which the set is listed however it holds them.
-/

namespace Typeset

namespace Value

variable {left right : Value} {items others : List Value}

theorem told_or_eq (told : items.Pairwise Told) (member : left ∈ items) (member' : right ∈ items) :
    left = right ∨ Before left right ∨ Before right left := by
  by_cases equal : left = right
  · exact .inl equal
  · exact .inr (told.forall member member' equal).before_or

/-! ## Ascending order -/

/-- Whether a value may stand in front of another one. -/
def notAfter (left right : Value) : Bool :=
  !((isBefore right left).toOption.getD false)

theorem notAfter_iff : notAfter left right = true ↔ ¬ Before right left := by
  unfold notAfter Before
  cases isBefore right left with
  | error reason => simp [Except.toOption]
  | ok first => cases first <;> simp [Except.toOption]

/-- A sorted list stands in order if the comparison is an order among its elements. -/
theorem pairwise_mergeSort_of_mem {α : Type} {le : α → α → Bool} {items : List α}
    (trans : ∀ first ∈ items, ∀ second ∈ items, ∀ third ∈ items, le first second = true →
      le second third = true → le first third = true)
    (total : ∀ first ∈ items, ∀ second ∈ items, (le first second || le second first) = true) :
    (items.mergeSort le).Pairwise fun first second => le first second = true := by
  have sorted : (items.attach.mergeSort fun first second => le first.val second.val).Pairwise
      fun first second => le first.val second.val = true := by
    apply List.pairwise_mergeSort
    · intro first second third
      exact trans first first.2 second second.2 third third.2
    · intro first second
      exact total first first.2 second second.2
  have mapped := List.map_mergeSort (f := Subtype.val) (l := items.attach) (s := le)
    (fun first _ second _ => rfl)
  rw [List.attach_map_subtype_val] at mapped
  rw [← mapped]
  exact List.pairwise_map.mpr sorted

theorem notAfter_total (left right : Value) :
    (notAfter left right || notAfter right left) = true := by
  rw [Bool.or_eq_true, notAfter_iff, notAfter_iff, ← not_and_or]
  rintro ⟨after, before⟩
  exact before_irrefl left (before.trans after)

theorem notAfter_trans (told : items.Pairwise Told) :
    ∀ first ∈ items, ∀ second ∈ items, ∀ third ∈ items, notAfter first second = true →
      notAfter second third = true → notAfter first third = true := by
  intro first member second member' third member'' front behind
  rw [notAfter_iff] at front behind ⊢
  rcases told_or_eq told member member' with rfl | before | after
  · exact behind
  · rcases told_or_eq told member' member'' with rfl | before' | after'
    · exact front
    · intro around
      exact before_irrefl first ((before.trans before').trans around)
    · exact absurd after' behind
  · exact absurd after front

theorem pairwise_mergeSort (told : items.Pairwise Told) :
    (items.mergeSort notAfter).Pairwise fun first second => notAfter first second = true :=
  pairwise_mergeSort_of_mem (notAfter_trans told) fun first _ second _ =>
    notAfter_total first second

theorem isBeforeAt_eq_true {place place' : Nat}
    (before : isBeforeAt items place place' = .ok true) :
    ∃ item other, items[place]? = some item ∧ items[place']? = some other ∧ Before item other := by
  unfold isBeforeAt at before
  split at before
  · next item other found found' => exact ⟨item, other, found, found', before⟩
  · cases before

theorem passesOn_isBeforeAt (items : List Value) : Sorting.PassesOn (isBeforeAt items) := by
  intro first second third before before'
  rcases isBeforeAt_eq_true before with ⟨item, other, found, among, below⟩
  rcases isBeforeAt_eq_true before' with ⟨_, last, again, found', below'⟩
  cases among.symm.trans again
  simp only [isBeforeAt, found, found']
  exact below.trans below'

/-- The elements at all places of a list, in turn. -/
theorem filterMap_range {α : Type} (items : List α) :
    (List.range items.length).filterMap (items[·]?) = items := by
  induction items with
  | nil => rfl
  | cons item items ih =>
      rw [List.length_cons, List.range_succ_eq_map, List.filterMap_cons_some
        (List.getElem?_cons_zero), List.filterMap_map]
      exact congrArg (item :: ·) ih

theorem perm_of_listedPlaces {places : List Nat} (listed : listedPlaces items = .ok places) :
    places.Perm (List.range items.length) :=
  Sorting.perm_of_sort (passesOn_isBeforeAt items) listed

end Value

end Typeset

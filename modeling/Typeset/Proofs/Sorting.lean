import Mathlib.Data.List.Flatten
import Mathlib.Data.List.Perm.Subperm
import Mathlib.Data.List.Pairwise
import Typeset.Sorting

/-!
# What sorting may ask and what it arranges

Sorting asks about two elements of a list at a time. Where the answers about all of them fit
together, what it makes of some ascending parts are ascending parts of the same elements. Where a
question fails, it is one about two elements of the list.
-/

namespace Typeset

namespace Sorting

variable {ε α β γ : Type}

/-! ## Failing and succeeding -/

/-- An action either fails with a reason of one kind or succeeds with a result of another. -/
def Meets (failure : ε → Prop) (success : β → Prop) : Except ε β → Prop
  | .error reason => failure reason
  | .ok result => success result

namespace Meets

variable {failure failure' : ε → Prop} {success success' : β → Prop} {action : Except ε β}

theorem bind {next : β → Except ε γ} {success' : γ → Prop} (first : Meets failure success action)
    (later : ∀ result, success result → Meets failure success' (next result)) :
    Meets failure success' (action >>= next) := by
  cases action with
  | error reason => exact first
  | ok result => exact later result first

theorem imp (meets : Meets failure success action)
    (fails : ∀ reason, failure reason → failure' reason)
    (succeeds : ∀ result, success result → success' result) : Meets failure' success' action := by
  cases action with
  | error reason => exact fails reason meets
  | ok result => exact succeeds result meets

theorem of_success (meets : Meets failure success action)
    (succeeds : ∀ result, success result → success' result) : Meets failure success' action :=
  meets.imp (fun _ failed => failed) succeeds

end Meets

/-! ## Questions -/

variable {lt : α → α → Except ε Bool} {items others : List α} {first second third : α}

variable (lt) in
/-- A reason for which a question about two elements of a list fails. -/
def Asked (items : List α) (reason : ε) : Prop :=
  ∃ first second, [first, second].Subperm items ∧ lt first second = .error reason

theorem Asked.mono {reason : ε} (asked : Asked lt items reason) (within : items.Subperm others) :
    Asked lt others reason := by
  rcases asked with ⟨first, second, inside, failed⟩
  exact ⟨first, second, inside.trans within, failed⟩

theorem Meets.within {success : β → Prop} {action : Except ε β}
    (meets : Meets (Asked lt items) success action) (within : items.Subperm others) :
    Meets (Asked lt others) success action :=
  meets.imp (fun _ asked => asked.mono within) fun _ succeeded => succeeded

variable (lt) in
/-- An element is before another one, and that one is not before it. -/
def Below (first second : α) : Prop :=
  lt first second = .ok true ∧ lt second first = .ok false

variable (lt) in
/-- Exactly one of two elements is before the other. -/
def Told (first second : α) : Prop :=
  Below lt first second ∨ Below lt second first

theorem Told.mono (told : items.Pairwise (Told lt)) (within : others.Subperm items) :
    others.Pairwise (Told lt) := by
  rcases within with ⟨middle, order, sublist⟩
  exact (order.pairwise_iff Or.symm).mp (told.sublist sublist)

variable (lt) in
/-- To be before is passed on from element to element. -/
def PassesOn : Prop :=
  ∀ first second third, lt first second = .ok true → lt second third = .ok true →
    lt first third = .ok true

theorem Below.trans (passesOn : PassesOn lt) (told : Told lt first third)
    (below : Below lt first second) (below' : Below lt second third) : Below lt first third := by
  rcases told with inOrder | turned
  · exact inOrder
  · have around := passesOn first second third below.1 below'.1
    rw [turned.2] at around
    cases around

theorem meets_question (first second : α) :
    Meets (Asked lt [first, second]) (fun before =>
      (Below lt first second → before = true) ∧ (Below lt second first → before = false))
      (lt first second) := by
  cases answer : lt first second with
  | error reason => exact ⟨first, second, List.Subperm.refl _, answer⟩
  | ok before =>
      constructor
      · intro below
        rw [below.1] at answer
        cases answer
        rfl
      · intro below
        rw [below.2] at answer
        cases answer
        rfl

/-! ## Arranging -/

variable (lt) in
/-- The elements of a list are below all that follow them. -/
def Ascends (items : List α) : Prop :=
  items.Pairwise (Below lt)

variable (lt) in
/--
Some parts of a list are made of the elements of other parts. If of every two elements exactly one
is before the other and the given parts ascend, then so do the parts that are made of them.
-/
structure Arranged (parts parts' : List (List α)) : Prop where
  perm : parts'.flatten.Perm parts.flatten
  ascends : parts.flatten.Pairwise (Told lt) → (∀ part ∈ parts, Ascends lt part) →
    ∀ part ∈ parts', Ascends lt part

namespace Arranged

variable {parts parts' parts'' others others' : List (List α)}

theorem refl (parts : List (List α)) : Arranged lt parts parts :=
  ⟨List.Perm.refl _, fun _ ascends => ascends⟩

theorem of_perm (order : parts.Perm parts') : Arranged lt parts parts' where
  perm := order.symm.flatten
  ascends := by
    intro _ ascends part member
    exact ascends part (order.mem_iff.mpr member)

theorem trans (first : Arranged lt parts parts') (second : Arranged lt parts' parts'') :
    Arranged lt parts parts'' where
  perm := second.perm.trans first.perm
  ascends := by
    intro told ascends
    apply second.ascends
    · exact Told.mono told first.perm.subperm
    · exact first.ascends told ascends

/-- Parts that are arranged apart from each other are arranged side by side. -/
theorem append (first : Arranged lt parts parts') (second : Arranged lt others others') :
    Arranged lt (parts ++ others) (parts' ++ others') where
  perm := by
    rw [List.flatten_append, List.flatten_append]
    exact first.perm.append second.perm
  ascends := by
    intro told ascends part member
    rw [List.flatten_append] at told
    rcases List.mem_append.mp member with inside | inside
    · apply first.ascends (told.sublist (List.sublist_append_left _ _)) _ part inside
      intro part member
      exact ascends part (List.mem_append_left _ member)
    · apply second.ascends (told.sublist (List.sublist_append_right _ _)) _ part inside
      intro part member
      exact ascends part (List.mem_append_right _ member)

end Arranged

/-- Every element of a list as a part of its own. -/
def singles (items : List α) : List (List α) :=
  items.map fun item => [item]

@[simp] theorem flatten_singles (items : List α) : (singles items).flatten = items := by
  induction items with
  | nil => rfl
  | cons item items ih =>
      rw [singles, List.map_cons, List.flatten_cons]
      exact congrArg (item :: ·) ih

theorem singles_append (items others : List α) :
    singles (items ++ others) = singles items ++ singles others :=
  List.map_append

end Sorting

end Typeset

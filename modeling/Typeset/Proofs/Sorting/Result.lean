import Typeset.Proofs.Sorting.Merging
import Typeset.Proofs.Sorting.Runs

/-!
# What comes of sorting

The runs that wait to be merged and the elements that are left make up the list at every turn.
So a sorted list has the elements of the list, in ascending order if the answers fit together, and
sorting fails only where a question about two of its elements does.
-/

namespace Typeset

namespace Sorting

variable {ε α : Type} {lt : α → α → Except ε Bool} {items : List α}

/-- The elements of some runs, each run as a part. -/
def itemsOf (runs : List (Run α)) : List (List α) :=
  runs.map (·.items)

/-- Merging two parts leaves the others as they are. -/
theorem meets_mergeParts (passesOn : PassesOn lt) (patience : Nat) {parts rest : List (List α)}
    {front back : List α} (order : parts.Perm ([front, back] ++ rest)) :
    Meets (Asked lt parts.flatten) (fun answer => Arranged lt parts ([answer.1] ++ rest))
      (mergeRuns lt patience front back) := by
  have turned : Arranged lt parts ([front, back] ++ rest) := .of_perm order
  have pair : (front ++ back).Subperm parts.flatten := by
    apply List.Subperm.trans _ turned.perm.subperm
    simp only [List.flatten_append, List.flatten_cons, List.flatten_nil, List.append_nil]
    exact (List.sublist_append_left _ _).subperm
  apply ((meets_mergeRuns passesOn patience front back).within pair).of_success
  intro answer merged
  exact turned.trans (merged.append (Arranged.refl rest))

theorem meets_collapse (passesOn : PassesOn lt) (level patience : Nat) (last : Run α)
    (runs : List (Run α)) :
    Meets (Asked lt (itemsOf (last :: runs)).flatten) (fun answer =>
      Arranged lt (itemsOf (last :: runs)) (itemsOf (answer.1 :: answer.2.1)))
      (collapse lt level patience last runs) := by
  induction runs generalizing last patience with
  | nil => exact Arranged.refl _
  | cons before runs ih =>
      rw [collapse]
      split
      · apply Meets.bind (meets_mergeParts passesOn patience (List.Perm.swap _ _ (itemsOf runs)))
        rintro ⟨items, patience⟩ arranged
        have later := ih patience ⟨items, before.level⟩
        exact (later.within arranged.perm.subperm).of_success fun _ => arranged.trans
      · exact Arranged.refl _

theorem meets_mergeAll (passesOn : PassesOn lt) (patience : Nat) (last : Run α)
    (runs : List (Run α)) :
    Meets (Asked lt (itemsOf (last :: runs)).flatten)
      (fun sorted => Arranged lt (itemsOf (last :: runs)) [sorted])
      (mergeAll lt patience last runs) := by
  induction patience, last, runs using mergeAll.induct with
  | case1 patience last =>
      rw [mergeAll]
      exact Arranged.refl _
  | case2 patience last before =>
      rw [mergeAll]
      apply Meets.bind (meets_mergeParts passesOn patience (List.Perm.swap _ _ []))
      exact fun _ arranged => arranged
  | case3 patience last before other runs shorter ih =>
      rw [mergeAll, if_pos shorter]
      have order : (itemsOf (last :: before :: other :: runs)).Perm
          ([other.items, before.items] ++ itemsOf (last :: runs)) :=
        (List.reverse_perm [last.items, before.items, other.items]).symm.append_right (itemsOf runs)
      apply Meets.bind (meets_mergeParts passesOn patience order)
      rintro ⟨items, patience⟩ arranged
      have turned := arranged.trans (.of_perm (List.Perm.swap last.items items (itemsOf runs)))
      exact ((ih items patience).within turned.perm.subperm).of_success fun _ => turned.trans
  | case4 patience last before other runs longer ih =>
      rw [mergeAll, if_neg longer]
      apply Meets.bind (meets_mergeParts passesOn patience
        (List.Perm.swap _ _ (itemsOf (other :: runs))))
      rintro ⟨items, patience⟩ arranged
      exact ((ih items patience).within arranged.perm.subperm).of_success fun _ => arranged.trans

theorem meets_gather (passesOn : PassesOn lt) (size patience : Nat) (last : Run α)
    (runs : List (Run α)) (items : List α) :
    Meets (Asked lt (itemsOf (last :: runs) ++ singles items).flatten)
      (fun sorted => Arranged lt (itemsOf (last :: runs) ++ singles items) [sorted])
      (gather lt size patience last runs items) := by
  induction patience, last, runs, items using gather.induct size with
  | case1 patience last runs =>
      have none : itemsOf (last :: runs) ++ singles [] = itemsOf (last :: runs) :=
        List.append_nil _
      rw [gather, none]
      exact meets_mergeAll passesOn patience last runs
  | case2 patience last runs item items ih =>
      rw [gather]
      have behind : (item :: items).Subperm
          (itemsOf (last :: runs) ++ singles (item :: items)).flatten := by
        rw [List.flatten_append, flatten_singles]
        exact (List.sublist_append_right _ _).subperm
      apply Meets.bind ((meets_nextRun passesOn _ (item :: items)).within behind)
      intro run isRun
      have front : (itemsOf (last :: runs)).flatten.Subperm
          (itemsOf (last :: runs) ++ singles (item :: items)).flatten := by
        rw [List.flatten_append]
        exact (List.sublist_append_left _ _).subperm
      apply Meets.bind ((meets_collapse passesOn _ patience last runs).within front)
      rintro ⟨last', runs', patience'⟩ collapsed
      have rest : (item :: items).drop run.length = items.drop (run.length - 1) := by
        obtain ⟨first, run, rfl⟩ := List.exists_cons_of_ne_nil (isRun.least (List.cons_ne_nil _ _))
        rfl
      have taken : singles ((item :: items).take run.length) ++
          singles (items.drop (run.length - 1)) = singles (item :: items) := by
        rw [← rest, ← singles_append, List.take_append_drop]
      have found := isRun.arranged.append (Arranged.refl (singles (items.drop (run.length - 1))))
      rw [taken] at found
      -- the new run becomes the last one
      have turned : Arranged lt (itemsOf (last' :: runs') ++
          ([run] ++ singles (items.drop (run.length - 1))))
          ([run] ++ (itemsOf (last' :: runs') ++ singles (items.drop (run.length - 1)))) :=
        .of_perm (List.perm_append_comm_assoc _ _ _)
      have arranged := (collapsed.append found).trans turned
      apply ((ih run last' runs' patience').within arranged.perm.subperm).of_success
      exact fun _ => arranged.trans

/-- Sorting arranges the elements of a list, or fails as a question about two of them does. -/
theorem meets_sort (passesOn : PassesOn lt) (items : List α) :
    Meets (Asked lt items) (fun sorted => Arranged lt (singles items) [sorted])
      (sort lt items) := by
  rw [sort]
  apply Meets.bind (meets_nextRun passesOn _ items)
  intro run isRun
  have split : singles (items.take run.length) ++ singles (items.drop run.length) =
      singles items := by
    rw [← singles_append, List.take_append_drop]
  have arranged := isRun.arranged.append (Arranged.refl (singles (items.drop run.length)))
  rw [split] at arranged
  have gathered := meets_gather passesOn items.length leastWins ⟨run, 0⟩ []
    (items.drop run.length)
  have within := arranged.perm.subperm
  rw [flatten_singles] at within
  exact (gathered.within within).of_success fun _ => arranged.trans

theorem perm_of_sort (passesOn : PassesOn lt) {sorted : List α}
    (given : sort lt items = .ok sorted) : sorted.Perm items := by
  have meets := meets_sort passesOn items
  rw [given] at meets
  simpa using meets.perm

end Sorting

end Typeset

import Typeset.Proofs.Sorting.Result

/-!
# Elements without order

If the elements of a list fall into two groups and every question about elements of both fails,
then sorting does not get around such a question: each run is of one group, and to merge two runs
it is asked about an element of each.
-/

namespace Typeset

namespace Sorting

variable {ε α β γ : Type} {lt : α → α → Except ε Bool} {group : α → Bool} {items run : List α}

/-- What the first of two actions shows if it succeeds is shown if both do. -/
theorem Meets.first {action : Except ε β} {shown : Prop} (next : β → Except ε γ)
    (meets : Meets (fun _ => True) (fun _ => shown) action) :
    Meets (fun _ => True) (fun _ => shown) (action >>= next) := by
  apply meets.bind
  intro result holds
  cases next result with
  | error reason => trivial
  | ok last => exact holds

theorem Meets.and {action : Except ε β} {failure : ε → Prop} {success success' : β → Prop}
    (meets : Meets failure success action) (meets' : Meets (fun _ => True) success' action) :
    Meets (fun _ => True) (fun result => success result ∧ success' result) action := by
  cases action with
  | error reason => trivial
  | ok result => exact ⟨meets, meets'⟩

variable (lt group) in
/-- Every question about elements of two groups fails. -/
def Separates : Prop :=
  ∀ first second, group first ≠ group second → ∃ reason, lt first second = .error reason

variable (group) in
/-- All elements of a list are of one group. -/
def OneGroup (items : List α) : Prop :=
  ∀ first ∈ items, ∀ second ∈ items, group first = group second

theorem OneGroup.subset {others : List α} (one : OneGroup group items) (within : others ⊆ items) :
    OneGroup group others := by
  intro first member second member'
  exact one first (within member) second (within member')

variable (group) in
/-- A run of one group that has elements. -/
structure Tidy (run : List α) : Prop where
  some : run ≠ []
  one : OneGroup group run

theorem Tidy.of_perm {others : List α} (tidy : Tidy group items) (order : others.Perm items) :
    Tidy group others where
  some := by
    intro none
    rw [none] at order
    exact tidy.some order.symm.eq_nil
  one := tidy.one.subset order.subset

theorem Tidy.append {others : List α} {first second : α} (tidy : Tidy group items)
    (tidy' : Tidy group others) (member : first ∈ items) (member' : second ∈ others)
    (same : group first = group second) : Tidy group (items ++ others) where
  some := List.append_ne_nil_of_left_ne_nil tidy.some others
  one := by
    have shown : ∀ item ∈ items ++ others, group item = group first := by
      intro item inside
      rcases List.mem_append.mp inside with inside | inside
      · exact tidy.one item inside first member
      · exact (tidy'.one item inside second member').trans same.symm
    intro item inside other inside'
    exact (shown item inside).trans (shown other inside').symm

theorem tidy_singleton (item : α) : Tidy group [item] where
  some := List.cons_ne_nil _ _
  one := by
    intro first member second member'
    rw [List.mem_singleton.mp member, List.mem_singleton.mp member']

theorem Tidy.cons {first second : α} {rest : List α} (tidy : Tidy group (second :: rest))
    (same : group first = group second) : Tidy group (first :: second :: rest) :=
  (tidy_singleton first).append tidy List.mem_cons_self List.mem_cons_self same

/-! ## Runs -/

theorem Separates.question (separates : Separates lt group) (first second : α) :
    Meets (fun _ => True) (fun _ => group first = group second) (lt first second) := by
  cases answer : lt first second with
  | error reason => trivial
  | ok before =>
      by_contra different
      rcases separates first second different with ⟨reason, failed⟩
      cases answer.symm.trans failed

theorem meets_follow_tidy {goesOn : α → α → Except ε Bool}
    (asks : ∀ before item, Meets (fun _ => True) (fun _ => group item = group before)
      (goesOn before item)) (before : α) (items : List α) :
    Meets (fun _ => True) (fun run => Tidy group (before :: run))
      (follow goesOn before items) := by
  induction items generalizing before with
  | nil => exact tidy_singleton before
  | cons item items ih =>
      apply (asks before item).bind
      intro onward same
      cases onward with
      | true =>
          apply (ih item).bind
          intro run tidy
          exact tidy.cons same.symm
      | false => exact tidy_singleton before

section

variable (separates : Separates lt group)

include separates

theorem Separates.firstRun (some : items ≠ []) :
    Meets (fun _ => True) (Tidy group) (firstRun lt items) := by
  cases items with
  | nil => exact absurd rfl some
  | cons first items =>
      cases items with
      | nil => exact tidy_singleton first
      | cons second items =>
          rw [Sorting.firstRun]
          apply (separates.question second first).bind
          intro descends same
          cases descends with
          | true =>
              have asks (before item : α) := separates.question item before
              apply (meets_follow_tidy asks second items).bind
              intro rest tidy
              exact (tidy.cons same.symm).of_perm (List.reverse_perm _)
          | false =>
              have asks (before item : α) :=
                (separates.question item before).first fun turned => return !turned
              apply (meets_follow_tidy asks second items).bind
              intro rest tidy
              exact tidy.cons same.symm

/-- A key is compared with an element of the run that it is compared with. -/
theorem Separates.testAt {place : Nat} (inside : place < run.length) (key : α) :
    Meets (fun _ => True) (fun _ => ∃ other ∈ run, group key = group other)
      (testAt run (isAfter lt key) place) := by
  rw [Sorting.testAt, List.getElem?_eq_getElem inside]
  apply (separates.question key _).of_success
  intro _ same
  exact ⟨_, List.getElem_mem inside, same⟩

theorem Separates.insert (tidy : Tidy group run) (item : α) :
    Meets (fun _ => True) (Tidy group) (insert lt run item) := by
  have some := List.length_pos_of_ne_nil tidy.some
  have asked : Meets (fun _ => True) (fun _ => ∃ other ∈ run, group item = group other)
      (bisect (Sorting.testAt run (isAfter lt item)) 0 run.length) := by
    rw [bisect, if_pos some]
    exact (separates.testAt (by omega) item).first _
  apply asked.bind
  rintro place ⟨other, member, same⟩
  have whole := (tidy_singleton item).append tidy List.mem_cons_self member same
  apply whole.of_perm
  apply List.perm_middle.trans
  rw [List.take_append_drop]
  exact List.Perm.refl _

theorem Separates.insertAll (tidy : Tidy group run) (items : List α) :
    Meets (fun _ => True) (Tidy group) (items.foldlM (Sorting.insert lt) run) := by
  induction items generalizing run with
  | nil => exact tidy
  | cons item items ih =>
      rw [List.foldlM_cons]
      exact (separates.insert tidy item).bind fun _ => ih

theorem Separates.nextRun (least : Nat) (some : items ≠ []) :
    Meets (fun _ => True) (Tidy group) (nextRun lt least items) :=
  (separates.firstRun some).bind fun _ tidy => separates.insertAll tidy _

/-! ## Merging -/

theorem Separates.mergeRuns (passesOn : PassesOn lt) (patience : Nat) {front back : List α}
    (tidy : Tidy group front) (tidy' : Tidy group back) :
    Meets (fun _ => True) (fun answer => Tidy group answer.1)
      (mergeRuns lt patience front back) := by
  have whole : Meets (fun _ => True) (fun _ => Tidy group (front ++ back))
      (Sorting.mergeRuns lt patience front back) := by
    cases back with
    | nil => exact absurd rfl tidy'.some
    | cons first back =>
        rw [Sorting.mergeRuns, gallop]
        have some := List.length_pos_of_ne_nil tidy.some
        have asked : Meets (fun _ => True) (fun _ => Tidy group (front ++ first :: back))
            (Sorting.testAt front (isAfter lt first) 0) := by
          apply (separates.testAt some first).of_success
          rintro _ ⟨other, member, same⟩
          exact tidy.append tidy' member List.mem_cons_self same.symm
        exact (asked.first _).first _
  apply ((meets_mergeRuns passesOn patience front back).and whole).of_success
  rintro answer ⟨arranged, tidy⟩
  apply tidy.of_perm
  simpa using arranged.perm

theorem Separates.collapse (passesOn : PassesOn lt) (level patience : Nat) {last : Run α}
    {runs : List (Run α)} (tidy : ∀ part ∈ itemsOf (last :: runs), Tidy group part) :
    Meets (fun _ => True)
      (fun answer => ∀ part ∈ itemsOf (answer.1 :: answer.2.1), Tidy group part)
      (collapse lt level patience last runs) := by
  induction runs generalizing last patience with
  | nil => exact tidy
  | cons before runs ih =>
      rw [Sorting.collapse]
      split
      · rcases List.forall_mem_cons.mp tidy with ⟨tidyLast, rest⟩
        rcases List.forall_mem_cons.mp rest with ⟨tidyBefore, rest⟩
        apply (separates.mergeRuns passesOn patience tidyBefore tidyLast).bind
        rintro ⟨items, patience⟩ merged
        exact @ih patience ⟨items, before.level⟩ (List.forall_mem_cons.mpr ⟨merged, rest⟩)
      · exact tidy

theorem Separates.mergeAll (passesOn : PassesOn lt) (patience : Nat) {last : Run α}
    {runs : List (Run α)} (tidy : ∀ part ∈ itemsOf (last :: runs), Tidy group part) :
    Meets (fun _ => True) (Tidy group) (mergeAll lt patience last runs) := by
  induction patience, last, runs using mergeAll.induct with
  | case1 patience last =>
      rw [Sorting.mergeAll]
      exact tidy last.items List.mem_cons_self
  | case2 patience last before =>
      rw [Sorting.mergeAll]
      rcases List.forall_mem_cons.mp tidy with ⟨tidyLast, rest⟩
      apply (separates.mergeRuns passesOn patience (rest _ List.mem_cons_self) tidyLast).bind
      exact fun _ merged => merged
  | case3 patience last before other runs shorter ih =>
      rw [Sorting.mergeAll, if_pos shorter]
      rcases List.forall_mem_cons.mp tidy with ⟨tidyLast, rest⟩
      rcases List.forall_mem_cons.mp rest with ⟨tidyBefore, rest⟩
      rcases List.forall_mem_cons.mp rest with ⟨tidyOther, rest⟩
      apply (separates.mergeRuns passesOn patience tidyOther tidyBefore).bind
      rintro ⟨items, patience⟩ merged
      apply ih
      exact List.forall_mem_cons.mpr ⟨tidyLast, List.forall_mem_cons.mpr ⟨merged, rest⟩⟩
  | case4 patience last before other runs longer ih =>
      rw [Sorting.mergeAll, if_neg longer]
      rcases List.forall_mem_cons.mp tidy with ⟨tidyLast, rest⟩
      rcases List.forall_mem_cons.mp rest with ⟨tidyBefore, rest⟩
      apply (separates.mergeRuns passesOn patience tidyBefore tidyLast).bind
      rintro ⟨items, patience⟩ merged
      apply ih
      exact List.forall_mem_cons.mpr ⟨merged, rest⟩

theorem Separates.gather (passesOn : PassesOn lt) (size patience : Nat) {last : Run α}
    {runs : List (Run α)} (items : List α)
    (tidy : ∀ part ∈ itemsOf (last :: runs), Tidy group part) :
    Meets (fun _ => True) (Tidy group) (gather lt size patience last runs items) := by
  induction patience, last, runs, items using gather.induct size with
  | case1 patience last runs =>
      rw [Sorting.gather]
      exact separates.mergeAll passesOn patience tidy
  | case2 patience last runs item items ih =>
      rw [Sorting.gather]
      apply (separates.nextRun _ (List.cons_ne_nil item items)).bind
      intro run found
      apply (separates.collapse passesOn _ patience tidy).bind
      rintro ⟨last', runs', patience'⟩ collapsed
      exact ih run last' runs' patience' (List.forall_mem_cons.mpr ⟨found, collapsed⟩)

end

end Sorting

end Typeset

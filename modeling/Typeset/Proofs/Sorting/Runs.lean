import Typeset.Proofs.Sorting.Search

/-!
# Runs

A run is made of the elements at the start of what is left of a list. Where the answers fit
together it ascends: a start that descends is turned around, and what fills a short run up is
inserted where it belongs.
-/

namespace Typeset

namespace Sorting

variable {ε α : Type} {lt : α → α → Except ε Bool} {items run : List α} {direction : Direction}

/-! ## Finding a run -/

/-- A run goes on in the direction of its elements in front of them. -/
theorem pairwise_ahead_cons (direction : Direction) (passesOn : PassesOn lt) {before item : α}
    (told : (before :: item :: run).Pairwise (Told lt))
    (ahead : Told lt before item → direction.Ahead lt before item)
    (inOrder : (item :: run).Pairwise (Told lt) → (item :: run).Pairwise (direction.Ahead lt)) :
    (before :: item :: run).Pairwise (direction.Ahead lt) := by
  rcases List.pairwise_cons.mp told with ⟨first, later⟩
  apply List.pairwise_cons.mpr
  refine ⟨?_, inOrder later⟩
  exact direction.ahead_of_first passesOn first (ahead (first item List.mem_cons_self))
    (inOrder later)

/-- A question whether a list goes on in a direction. -/
def Tells (lt goesOn : α → α → Except ε Bool) (direction : Direction) : Prop :=
  ∀ before item, Meets (Asked lt [before, item]) (fun onward => onward = true →
    Told lt before item → direction.Ahead lt before item) (goesOn before item)

/-- The elements that go on in a direction are the next ones, each ahead of those behind it. -/
theorem meets_follow (passesOn : PassesOn lt) {goesOn : α → α → Except ε Bool}
    (tells : Tells lt goesOn direction) (before : α) (items : List α) :
    Meets (Asked lt (before :: items)) (fun run => run <+: items ∧
      ((before :: run).Pairwise (Told lt) → (before :: run).Pairwise (direction.Ahead lt)))
      (follow goesOn before items) := by
  induction items generalizing before with
  | nil => exact ⟨List.prefix_rfl, fun _ => List.pairwise_singleton _ _⟩
  | cons item items ih =>
      rw [follow]
      apply Meets.bind ((tells before item).within
        (List.sublist_append_left [before, item] items).subperm)
      intro onward ahead
      cases onward with
      | true =>
          apply Meets.bind ((ih item).within (List.sublist_cons_self _ _).subperm)
          rintro run ⟨start, inOrder⟩
          refine ⟨(List.prefix_cons_inj item).mpr start, ?_⟩
          intro told
          exact pairwise_ahead_cons direction passesOn told (ahead rfl) inOrder
      | false => exact ⟨List.nil_prefix, fun _ => List.pairwise_singleton _ _⟩

theorem tells_descent : Tells lt (fun before item => lt item before) .backward := by
  intro before item
  apply ((meets_question item before).within (List.Perm.swap _ _ _).subperm).of_success
  rintro onward ⟨_, turned⟩ passed (below | below)
  · cases passed.symm.trans (turned below)
  · exact below

theorem tells_ascent : Tells lt (isNotBefore lt) .forward := by
  intro before item
  apply (probes_isNotBefore before item).of_success
  rintro onward ⟨_, turned⟩ passed (below | below)
  · exact below
  · cases passed.symm.trans (turned below)

variable (lt) in
/-- A run is made of the elements at the start of a list, of at least one if there is one. -/
structure IsRunOf (items run : List α) : Prop where
  arranged : Arranged lt (singles (items.take run.length)) [run]
  least : items ≠ [] → run ≠ []

theorem IsRunOf.perm (isRun : IsRunOf lt items run) : run.Perm (items.take run.length) := by
  simpa using isRun.arranged.perm

theorem IsRunOf.of_arranged {start : List α} (arranged : Arranged lt (singles start) [run])
    (isPrefix : start <+: items) (least : items ≠ [] → run ≠ []) : IsRunOf lt items run where
  arranged := by
    have order : run.Perm start := by simpa using arranged.perm
    rw [order.length_eq, ← List.prefix_iff_eq_take.mp isPrefix]
    exact arranged
  least := least

theorem arranged_start {start : List α} (order : run.Perm start)
    (ascends : start.Pairwise (Told lt) → Ascends lt run) : Arranged lt (singles start) [run] where
  perm := by
    simpa using order
  ascends := by
    intro told _ part member
    rw [flatten_singles] at told
    rw [List.mem_singleton.mp member]
    exact ascends told

theorem meets_firstRun (passesOn : PassesOn lt) (items : List α) :
    Meets (Asked lt items) (IsRunOf lt items) (firstRun lt items) := by
  cases items with
  | nil =>
      apply IsRunOf.of_arranged (arranged_start (List.Perm.refl []) _) List.prefix_rfl nofun
      exact fun _ => List.Pairwise.nil
  | cons first items =>
      cases items with
      | nil =>
          apply IsRunOf.of_arranged (arranged_start (List.Perm.refl [first]) _) List.prefix_rfl
          · exact fun given => given
          · exact fun _ => List.pairwise_singleton _ _
      | cons second items =>
          rw [firstRun]
          have pair : [second, first].Subperm (first :: second :: items) :=
            (List.Perm.swap _ _ _).subperm.trans
              (List.sublist_append_left [first, second] items).subperm
          have further : (second :: items).Subperm (first :: second :: items) :=
            (List.sublist_cons_self _ _).subperm
          apply Meets.bind ((meets_question second first).within pair)
          rintro descends ⟨ascent, descent⟩
          -- the first two elements set the direction in which the others go on
          cases descends with
          | true =>
              apply Meets.bind ((meets_follow passesOn tells_descent second items).within further)
              rintro rest ⟨start, inOrder⟩
              have further := (List.prefix_cons_inj second).mpr start
              have whole := (List.prefix_cons_inj first).mpr further
              have order := List.reverse_perm (first :: second :: rest)
              apply IsRunOf.of_arranged (arranged_start order _) whole
              · intro _ none
                exact List.cons_ne_nil _ _ (List.reverse_eq_nil_iff.mp none)
              · intro told
                apply List.pairwise_reverse.mpr
                apply pairwise_ahead_cons .backward passesOn told _ inOrder
                rintro (below | below)
                · cases descent below
                · exact below
          | false =>
              apply Meets.bind ((meets_follow passesOn tells_ascent second items).within further)
              rintro rest ⟨start, inOrder⟩
              have further := (List.prefix_cons_inj second).mpr start
              have whole := (List.prefix_cons_inj first).mpr further
              have order := List.Perm.refl (first :: second :: rest)
              apply IsRunOf.of_arranged (arranged_start order _) whole
              · exact fun _ => List.cons_ne_nil _ _
              · intro told
                apply pairwise_ahead_cons .forward passesOn told _ inOrder
                rintro (below | below)
                · exact below
                · cases ascent below

/-! ## Filling a run up -/

theorem Divides.ascends_insert {item : α} {place : Nat} (ascends : Ascends lt run)
    (divides : Divides (Below lt) run item place) :
    Ascends lt (run.take place ++ item :: run.drop place) := by
  have apart : ∀ front ∈ run.take place, ∀ back ∈ run.drop place, Below lt front back := by
    have whole : Ascends lt (run.take place ++ run.drop place) := by
      rwa [List.take_append_drop]
    exact (List.pairwise_append.mp whole).2.2
  apply List.pairwise_append.mpr
  refine ⟨ascends.sublist (List.take_sublist _ _), ?_, ?_⟩
  · apply List.pairwise_cons.mpr
    exact ⟨divides.back, ascends.sublist (List.drop_sublist _ _)⟩
  · intro front member back member'
    rcases List.mem_cons.mp member' with rfl | behind
    · exact divides.front front member
    · exact apart front member back behind

theorem meets_insert (passesOn : PassesOn lt) (run : List α) (item : α) :
    Meets (Asked lt (run ++ [item])) (fun run' => Arranged lt [run, [item]] [run'])
      (insert lt run item) := by
  have order : (item :: run).Perm (run ++ [item]) := (List.perm_append_singleton item run).symm
  have search := probes_isAfter.meets_search passesOn
    fun given edge most (hasEdge : ∀ limit, HasEdge (Asked lt (item :: run)) given edge _ limit) =>
      meets_bisect (hasEdge run.length) (Nat.le_refl _) fun _ => ⟨Nat.zero_le _, most⟩
  apply Meets.bind (search.within order.subperm)
  intro place divides
  constructor
  · simp only [List.flatten_cons, List.flatten_nil, List.append_nil]
    apply List.perm_middle.trans
    rw [List.take_append_drop]
    exact order
  · intro told ascends part member
    simp only [List.flatten_cons, List.flatten_nil, List.append_nil] at told
    rw [List.mem_singleton.mp member]
    have inside : Ascends lt run := ascends run List.mem_cons_self
    exact (divides (Told.mono told order.subperm) inside).ascends_insert inside

theorem meets_insertAll (passesOn : PassesOn lt) (run items : List α) :
    Meets (Asked lt (run ++ items)) (fun run' => Arranged lt (run :: singles items) [run'])
      (items.foldlM (insert lt) run) := by
  induction items generalizing run with
  | nil => exact Arranged.refl [run]
  | cons item items ih =>
      rw [List.foldlM_cons]
      have pair : (run ++ [item]).Subperm (run ++ item :: items) := by
        rw [List.append_cons run item items]
        exact (List.sublist_append_left _ _).subperm
      apply Meets.bind ((meets_insert passesOn run item).within pair)
      intro run' inserted
      have order : (run' ++ items).Perm (run ++ item :: items) := by
        have filled := inserted.perm.append_right items
        simpa using filled
      apply ((ih run').within order.subperm).of_success
      intro run'' arranged
      exact (inserted.append (Arranged.refl (singles items))).trans arranged

theorem meets_nextRun (passesOn : PassesOn lt) (least : Nat) (items : List α) :
    Meets (Asked lt items) (IsRunOf lt items) (nextRun lt least items) := by
  apply Meets.bind (meets_firstRun passesOn items)
  intro run isRun
  have taken : items.take run.length ++ (items.drop run.length).take (least - run.length) =
      items.take (run.length + (least - run.length)) :=
    List.take_add.symm
  have within : (run ++ (items.drop run.length).take (least - run.length)).Subperm items := by
    apply (isRun.perm.append_right _).subperm.trans
    rw [taken]
    exact (List.take_sublist _ items).subperm
  apply ((meets_insertAll passesOn run _).within within).of_success
  intro run' filled
  have arranged := (isRun.arranged.append (Arranged.refl (singles _))).trans filled
  rw [← singles_append, taken] at arranged
  apply IsRunOf.of_arranged arranged (List.take_prefix _ _)
  rintro some rfl
  have none := filled.perm.symm.eq_nil
  rw [List.flatten_cons] at none
  exact isRun.least some (List.append_eq_nil_iff.mp none).1

end Sorting

end Typeset

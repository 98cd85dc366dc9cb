import Typeset.Proofs.Sorting

/-!
# Looking for a place

A test that fails in front of one place and passes from there on has that place as its edge. Both
halving and galloping lead to the edge. In an ascending run the test whether an element belongs
behind a key has one, and it divides the run into what is below the key and what is above it.
-/

namespace Typeset

namespace Sorting

variable {ε α : Type} {failure : ε → Prop} {given : Prop} {edge : Nat}

/-! ## Edges -/

/-- What is asked for at every place, of a test that has an edge under some condition. -/
def HasEdge (failure : ε → Prop) (given : Prop) (edge : Nat) (test : Nat → Except ε Bool)
    (limit : Nat) : Prop :=
  ∀ place < limit, Meets failure (fun passes => given → passes = decide (edge ≤ place)) (test place)

theorem meets_bisect {test : Nat → Except ε Bool} {low high limit : Nat}
    (hasEdge : HasEdge failure given edge test limit) (within : high ≤ limit)
    (bounds : given → low ≤ edge ∧ edge ≤ high) :
    Meets failure (fun place => given → place = edge) (bisect test low high) := by
  induction low, high using bisect.induct with
  | case1 low high less middle ih ih' =>
      rw [bisect, if_pos less]
      apply Meets.bind (hasEdge middle (by omega))
      intro passes asked
      cases passes with
      | true =>
          apply ih (by omega)
          intro holds
          have behind := of_decide_eq_true (asked holds).symm
          exact ⟨(bounds holds).1, behind⟩
      | false =>
          apply ih' within
          intro holds
          have front := of_decide_eq_false (asked holds).symm
          exact ⟨by omega, (bounds holds).2⟩
  | case2 low high least =>
      rw [bisect, if_neg least]
      intro holds
      have between := bounds holds
      omega

theorem meets_widen {test : Nat → Except ε Bool} {limit last step : Nat}
    (hasEdge : HasEdge failure given edge test limit)
    (bounds : given → last < edge ∧ edge ≤ limit) :
    Meets failure (fun found => given → found.1 < edge ∧ edge ≤ found.2)
      (widen test limit last step) := by
  induction last, step using widen.induct limit with
  | case1 last step less ih =>
      rw [widen, if_pos less]
      apply Meets.bind (hasEdge step less)
      intro passes asked
      cases passes with
      | true =>
          intro holds
          exact ⟨(bounds holds).1, of_decide_eq_true (asked holds).symm⟩
      | false =>
          apply ih
          intro holds
          have front := of_decide_eq_false (asked holds).symm
          exact ⟨by omega, (bounds holds).2⟩
  | case2 last step most =>
      rw [widen, if_neg most]
      exact bounds

/-- Galloping leads to the edge from every hint. -/
theorem meets_gallop {test : Nat → Except ε Bool} {size : Nat} (hint : Nat)
    (hasEdge : ∀ limit, HasEdge failure given edge test limit) (within : given → edge ≤ size) :
    Meets failure (fun place => given → place = edge) (gallop test size hint) := by
  rw [gallop]
  apply Meets.bind (hasEdge (hint + 1) hint (by omega))
  intro passes asked
  cases passes with
  | true =>
      have turned : HasEdge failure given (hint + 1 - edge)
          (fun step => do return !(← test (hint - step))) (hint + 1) := by
        intro step less
        apply Meets.bind (hasEdge (hint + 1) (hint - step) (by omega))
        intro passes asked holds
        rw [asked holds, ← decide_not]
        apply decide_eq_decide.mpr
        omega
      apply Meets.bind (meets_widen turned _)
      · intro found between
        apply meets_bisect (hasEdge _) (Nat.le_refl _)
        intro holds
        have bounds := between holds
        have behind := of_decide_eq_true (asked holds).symm
        omega
      · intro holds
        have behind := of_decide_eq_true (asked holds).symm
        omega
  | false =>
      have shifted : HasEdge failure given (edge - hint) (fun step => test (hint + step))
          (size - hint) := by
        intro step less
        apply (hasEdge (hint + step + 1) (hint + step) (by omega)).of_success
        intro passes asked holds
        rw [asked holds]
        apply decide_eq_decide.mpr
        omega
      apply Meets.bind (meets_widen shifted _)
      · intro found between
        apply meets_bisect (hasEdge _) (Nat.le_refl _)
        intro holds
        have bounds := between holds
        omega
      · intro holds
        have front := of_decide_eq_false (asked holds).symm
        have most := within holds
        omega

/-! ## Dividing a run by a key -/

/-- The elements of a run up to a place are ahead of a key, which is ahead of all others. -/
structure Divides (ahead : α → α → Prop) (run : List α) (key : α) (place : Nat) : Prop where
  front : ∀ item ∈ run.take place, ahead item key
  back : ∀ item ∈ run.drop place, ahead key item

theorem Divides.reverse {ahead : α → α → Prop} {run : List α} {key : α} {place : Nat}
    (divides : Divides ahead run.reverse key place) :
    Divides (fun item item' => ahead item' item) run key (run.length - place) where
  front := by
    intro item member
    apply divides.back
    rw [List.drop_reverse]
    exact List.mem_reverse.mpr member
  back := by
    intro item member
    apply divides.front
    rw [List.take_reverse]
    exact List.mem_reverse.mpr member

variable {lt : α → α → Except ε Bool} {run : List α} {key : α}

theorem exists_divides (passesOn : PassesOn lt) (told : (key :: run).Pairwise (Told lt))
    (ascends : Ascends lt run) : ∃ place ≤ run.length, Divides (Below lt) run key place := by
  induction run with
  | nil => exact ⟨0, Nat.le_refl 0, nofun, nofun⟩
  | cons item run ih =>
      rcases List.pairwise_cons.mp told with ⟨keyTold, _⟩
      rcases List.pairwise_cons.mp ascends with ⟨lowest, ascends⟩
      rcases keyTold item List.mem_cons_self with above | below
      · refine ⟨0, Nat.zero_le _, nofun, ?_⟩
        intro other member
        rcases List.mem_cons.mp member with rfl | later
        · exact above
        · exact above.trans passesOn (keyTold other member) (lowest other later)
      · have inside : (key :: run).Sublist (key :: item :: run) :=
          (List.sublist_cons_self item run).cons_cons key
        rcases ih (told.sublist inside) ascends with ⟨place, most, divides⟩
        refine ⟨place + 1, Nat.succ_le_succ most, ?_, divides.back⟩
        intro other member
        rcases List.mem_cons.mp member with rfl | later
        · exact below
        · exact divides.front other later

/-! ## Tests of elements -/

variable (lt) in
/-- A test that the elements above a key pass and those below it fail. -/
def Probes (test : α → α → Except ε Bool) : Prop :=
  ∀ key item, Meets (Asked lt [key, item]) (fun passes =>
    (Below lt key item → passes = true) ∧ (Below lt item key → passes = false)) (test key item)

theorem probes_isAfter : Probes lt (isAfter lt) :=
  meets_question

theorem probes_isNotBefore : Probes lt (isNotBefore lt) := by
  intro key item
  apply Meets.bind ((meets_question item key).within (List.Perm.swap _ _ _).subperm)
  rintro before ⟨turned, inOrder⟩
  constructor
  · intro below
    rw [inOrder below]
    rfl
  · intro below
    rw [turned below]
    rfl

variable {test : α → α → Except ε Bool}

theorem Probes.hasEdge (probes : Probes lt test) (edge : Nat) (most : edge ≤ run.length)
    (limit : Nat) : HasEdge (Asked lt (key :: run)) (Divides (Below lt) run key edge) edge
      (testAt run (test key)) limit := by
  intro place _
  unfold testAt
  split
  · next item found =>
      have member := List.mem_of_getElem? found
      apply ((probes key item).within _).of_success
      · rintro passes ⟨above, below⟩ divides
        by_cases behind : edge ≤ place
        · rw [decide_eq_true behind]
          apply above (divides.back item _)
          apply List.mem_of_getElem? (i := place - edge)
          rw [List.getElem?_drop, Nat.add_sub_cancel' behind, found]
        · rw [decide_eq_false behind]
          apply below (divides.front item _)
          apply List.mem_of_getElem? (i := place)
          rw [List.getElem?_take_of_lt (by omega), found]
      · exact (List.subperm_cons key).mpr (List.singleton_subperm_iff.mpr member)
  · next none =>
      intro _
      have outside := List.getElem?_eq_none_iff.mp none
      exact (decide_eq_true (by omega)).symm

/-- A search that finds the edge of every test finds the place of a key in an ascending run. -/
theorem Probes.meets_search (probes : Probes lt test) (passesOn : PassesOn lt)
    {search : Except ε Nat}
    (finds : ∀ given edge, edge ≤ run.length →
      (∀ limit, HasEdge (Asked lt (key :: run)) given edge (testAt run (test key)) limit) →
      Meets (Asked lt (key :: run)) (fun place => given → place = edge) search) :
    Meets (Asked lt (key :: run)) (fun place => (key :: run).Pairwise (Told lt) →
      Ascends lt run → Divides (Below lt) run key place) search := by
  by_cases given : (key :: run).Pairwise (Told lt) ∧ Ascends lt run
  · rcases exists_divides passesOn given.1 given.2 with ⟨edge, most, divides⟩
    apply (finds _ edge most (probes.hasEdge edge most)).of_success
    intro place found _ _
    rw [found divides]
    exact divides
  · apply (finds _ 0 (Nat.zero_le _) (probes.hasEdge 0 (Nat.zero_le _))).of_success
    intro place _ told ascends
    exact absurd ⟨told, ascends⟩ given

theorem Probes.meets_gallop (probes : Probes lt test) (passesOn : PassesOn lt) (hint : Nat) :
    Meets (Asked lt (key :: run)) (fun place => (key :: run).Pairwise (Told lt) →
      Ascends lt run → Divides (Below lt) run key place)
      (gallop (testAt run (test key)) run.length hint) :=
  probes.meets_search passesOn fun _ _ most hasEdge =>
    Sorting.meets_gallop hint hasEdge fun _ => most

/-! ## Both directions -/

namespace Direction

variable {direction : Direction}

/-- Whether an element is merged before another in a direction. -/
def Ahead (lt : α → α → Except ε Bool) : Direction → α → α → Prop
  | forward, first, second => Below lt first second
  | backward, first, second => Below lt second first

theorem Ahead.trans {first second third : α} (passesOn : PassesOn lt) (told : Told lt first third)
    (ahead : direction.Ahead lt first second) (ahead' : direction.Ahead lt second third) :
    direction.Ahead lt first third := by
  cases direction with
  | forward => exact Below.trans passesOn told ahead ahead'
  | backward => exact Below.trans passesOn told.symm ahead' ahead

/-- What is ahead of the first element of a run in order is ahead of all of it. -/
theorem ahead_of_first (direction : Direction) (passesOn : PassesOn lt) {item : α}
    (told : ∀ other ∈ key :: run, Told lt item other) (ahead : direction.Ahead lt item key)
    (inOrder : (key :: run).Pairwise (direction.Ahead lt)) :
    ∀ other ∈ key :: run, direction.Ahead lt item other := by
  intro other member
  rcases List.mem_cons.mp member with rfl | later
  · exact ahead
  · exact ahead.trans passesOn (told other member) (List.rel_of_pairwise_cons inOrder later)

theorem meets_longFirst (long short : α) :
    Meets (Asked lt [long, short]) (fun first => Told lt long short →
      if first then direction.Ahead lt long short else direction.Ahead lt short long)
      (direction.longFirst lt long short) := by
  cases direction with
  | forward =>
      apply (meets_question long short).of_success
      rintro first ⟨inOrder, turned⟩ (below | below)
      · rw [inOrder below]
        exact below
      · rw [turned below]
        exact below
  | backward =>
      apply ((meets_question short long).within (List.Perm.swap _ _ _).subperm).of_success
      rintro first ⟨inOrder, turned⟩ (below | below)
      · rw [turned below]
        exact below
      · rw [inOrder below]
        exact below

theorem meets_backward (probes : Probes lt test) (passesOn : PassesOn lt) (hint : Nat) :
    Meets (Asked lt (key :: run)) (fun count => (key :: run).Pairwise (Told lt) →
      run.Pairwise (backward.Ahead lt) → Divides (backward.Ahead lt) run key count)
      (do return run.length - (← gallop (testAt run.reverse (test key)) run.length hint)) := by
  have order : (key :: run.reverse).Perm (key :: run) := (List.reverse_perm run).cons key
  have size : run.reverse.length = run.length := List.length_reverse
  rw [← size]
  apply Meets.bind ((probes.meets_gallop passesOn hint).within order.subperm)
  intro place divides told ascends
  rw [size]
  apply Divides.reverse
  apply divides (Told.mono told order.subperm)
  exact List.pairwise_reverse.mpr ascends

theorem meets_shortCount (passesOn : PassesOn lt) (direction : Direction) :
    Meets (Asked lt (key :: run)) (fun count => (key :: run).Pairwise (Told lt) →
      run.Pairwise (direction.Ahead lt) → Divides (direction.Ahead lt) run key count)
      (direction.shortCount lt run key) := by
  cases direction with
  | forward => exact probes_isAfter.meets_gallop passesOn 0
  | backward => exact meets_backward probes_isNotBefore passesOn (run.length - 1)

theorem meets_longCount (passesOn : PassesOn lt) (direction : Direction) :
    Meets (Asked lt (key :: run)) (fun count => (key :: run).Pairwise (Told lt) →
      run.Pairwise (direction.Ahead lt) → Divides (direction.Ahead lt) run key count)
      (direction.longCount lt run key) := by
  cases direction with
  | forward => exact probes_isNotBefore.meets_gallop passesOn 0
  | backward => exact meets_backward probes_isAfter passesOn (run.length - 1)

end Direction

end Sorting

end Typeset

import Typeset.Proofs.Sorting.Search

/-!
# Merging two runs

Each step of a merge moves elements that are ahead of everything that is left. So what is merged
stays in order, and the steps go on until what is left is known to be in order, too.
-/

namespace Typeset

namespace Sorting

variable {ε α : Type} {lt : α → α → Except ε Bool} {direction : Direction}

namespace Merging

variable {merging merging' merging'' : Merging α}

/-- What is left of both runs. -/
def left (merging : Merging α) : List α :=
  merging.short ++ merging.long

/-- The elements of both runs, those that are merged first. -/
def elements (merging : Merging α) : List α :=
  merging.merged ++ merging.left

variable (lt direction) in
/-- What is merged is in order and ahead of what is left, and the shorter run ends the whole. -/
structure InOrder (merging : Merging α) : Prop where
  merged : merging.merged.Pairwise (direction.Ahead lt)
  short : merging.short.Pairwise (direction.Ahead lt)
  long : merging.long.Pairwise (direction.Ahead lt)
  front : ∀ item ∈ merging.merged, ∀ other ∈ merging.left, direction.Ahead lt item other
  last : ∀ item ∈ merging.long, ∀ last ∈ merging.short.getLast?, direction.Ahead lt item last

theorem told_across (told : merging.elements.Pairwise (Told lt)) :
    ∀ item ∈ merging.short, ∀ other ∈ merging.long, Told lt item other :=
  (List.pairwise_append.mp (List.pairwise_append.mp told).2.1).2.2

theorem finished_iff : merging.finished ↔ merging.short.length < 2 ∨ merging.long = [] := by
  simp only [finished, Bool.or_eq_true, decide_eq_true_eq, List.isEmpty_iff]

/-- A finished merge in order gives a list in order. -/
theorem InOrder.result (inOrder : merging.InOrder lt direction) (finished : merging.finished) :
    merging.result.Pairwise (direction.Ahead lt) := by
  have apart : ∀ item ∈ merging.long, ∀ other ∈ merging.short, direction.Ahead lt item other := by
    intro item member other member'
    rcases finished_iff.mp finished with few | none
    · -- the only element that is left of the shorter run is its last one
      apply inOrder.last item member
      rcases List.length_eq_one_iff.mp (by have := List.length_pos_of_mem member'; omega :
        merging.short.length = 1) with ⟨last, single⟩
      rw [single] at member' ⊢
      rw [List.mem_singleton.mp member']
      rfl
    · rw [none] at member
      cases member
  rw [Merging.result, List.append_assoc]
  apply List.pairwise_append.mpr
  refine ⟨inOrder.merged, List.pairwise_append.mpr ⟨inOrder.long, inOrder.short, apart⟩, ?_⟩
  intro item member other member'
  exact inOrder.front item member other (List.perm_append_comm.subset member')

theorem result_perm (merging : Merging α) : merging.result.Perm merging.elements := by
  rw [Merging.result, elements, left, List.append_assoc]
  exact List.perm_append_comm.append_left _

/-! ## Moving elements -/

/-- A merge goes on with the same elements, of which no more are left. -/
structure Moves (merging merging' : Merging α) : Prop where
  perm : merging'.elements.Perm merging.elements
  left : merging'.left.Subperm merging.left

theorem Moves.trans (first : Moves merging merging') (second : Moves merging' merging'') :
    Moves merging merging'' :=
  ⟨second.perm.trans first.perm, second.left.trans first.left⟩

theorem moves_takeShort (count : Nat) (merging : Merging α) :
    Moves merging (merging.takeShort count) where
  perm := by
    simp only [elements, left, takeShort]
    rw [List.append_assoc, ← List.append_assoc (merging.short.take count), List.take_append_drop]
  left := ((List.drop_sublist _ _).append_right _).subperm

theorem moves_takeLong (count : Nat) (merging : Merging α) :
    Moves merging (merging.takeLong count) where
  perm := by
    simp only [elements, left, takeLong]
    rw [List.append_assoc]
    apply List.Perm.append_left
    apply (List.perm_append_comm_assoc _ _ _).trans
    rw [List.take_append_drop]
  left := ((List.drop_sublist _ _).append_left _).subperm

/-- What is ahead of all of the longer run can be merged from the shorter one. -/
theorem InOrder.takeShort {count : Nat} (inOrder : merging.InOrder lt direction)
    (ahead : ∀ item ∈ merging.short.take count, ∀ other ∈ merging.long,
      direction.Ahead lt item other) : (merging.takeShort count).InOrder lt direction := by
  have whole : (merging.short.take count ++ merging.short.drop count).Pairwise
      (direction.Ahead lt) := by
    rw [List.take_append_drop]
    exact inOrder.short
  rcases List.pairwise_append.mp whole with ⟨taken, dropped, apart⟩
  constructor
  · apply List.pairwise_append.mpr
    refine ⟨inOrder.merged, taken, ?_⟩
    intro item member other member'
    exact inOrder.front item member other (List.mem_append_left _ (List.mem_of_mem_take member'))
  · exact dropped
  · exact inOrder.long
  · intro item member other member'
    rcases List.mem_append.mp member with merged | short
    · exact inOrder.front item merged other ((moves_takeShort count merging).left.subset member')
    · rcases List.mem_append.mp member' with short' | long
      · exact apart item short other short'
      · exact ahead item short other long
  · intro item member last found
    apply inOrder.last item member
    simp only [Merging.takeShort, List.getLast?_drop] at found
    split at found
    · cases found
    · exact found

/-- What is ahead of all of the shorter run can be merged from the longer one. -/
theorem InOrder.takeLong {count : Nat} (inOrder : merging.InOrder lt direction)
    (ahead : ∀ item ∈ merging.long.take count, ∀ other ∈ merging.short,
      direction.Ahead lt item other) : (merging.takeLong count).InOrder lt direction := by
  have whole : (merging.long.take count ++ merging.long.drop count).Pairwise
      (direction.Ahead lt) := by
    rw [List.take_append_drop]
    exact inOrder.long
  rcases List.pairwise_append.mp whole with ⟨taken, dropped, apart⟩
  constructor
  · apply List.pairwise_append.mpr
    refine ⟨inOrder.merged, taken, ?_⟩
    intro item member other member'
    exact inOrder.front item member other (List.mem_append_right _ (List.mem_of_mem_take member'))
  · exact inOrder.short
  · exact dropped
  · intro item member other member'
    rcases List.mem_append.mp member with merged | long
    · exact inOrder.front item merged other ((moves_takeLong count merging).left.subset member')
    · rcases List.mem_append.mp member' with short | long'
      · exact ahead item long other short
      · exact apart item long other long'
  · intro item member
    exact inOrder.last item (List.mem_of_mem_drop member)

/-! ## Steps -/

variable (lt direction) in
/-- A merge moves elements and keeps them in order. -/
structure Continues (merging merging' : Merging α) : Prop extends Moves merging merging' where
  inOrder : merging.elements.Pairwise (Told lt) → merging.InOrder lt direction →
    merging'.InOrder lt direction

namespace Continues

theorem refl (merging : Merging α) : Continues lt direction merging merging where
  perm := List.Perm.refl _
  left := List.Subperm.refl _
  inOrder := fun _ inOrder => inOrder

theorem trans (first : Continues lt direction merging merging')
    (second : Continues lt direction merging' merging'') :
    Continues lt direction merging merging'' where
  toMoves := first.toMoves.trans second.toMoves
  inOrder := by
    intro told inOrder
    apply second.inOrder (Told.mono told first.perm.subperm)
    exact first.inOrder told inOrder

end Continues

variable (lt direction) in
/-- A merge continues with fewer elements that are left, or is finished. -/
structure Advances (merging merging' : Merging α) : Prop extends
    Continues lt direction merging merging' where
  fewer : merging'.finished ∨ merging'.left.length < merging.left.length

namespace Advances

theorem of_moves (moves : Moves merging merging')
    (inOrder : merging.elements.Pairwise (Told lt) → merging.InOrder lt direction →
      merging'.InOrder lt direction)
    (fewer : merging'.finished ∨ merging'.left.length < merging.left.length) :
    Advances lt direction merging merging' :=
  ⟨⟨moves, inOrder⟩, fewer⟩

theorem trans (first : Advances lt direction merging merging')
    (second : Advances lt direction merging' merging'') :
    Advances lt direction merging merging'' where
  toContinues := first.toContinues.trans second.toContinues
  fewer := by
    apply second.fewer.imp_right
    intro fewer
    exact Nat.lt_of_lt_of_le fewer first.left.length_le

/-- How wins are counted and how long a merge is patient moves no element. -/
theorem recount (advances : Advances lt direction merging merging')
    (shortWins longWins : Nat) (leaping : Bool) (patience : Nat) :
    Advances lt direction merging
      ⟨merging'.merged, merging'.short, merging'.long, shortWins, longWins, leaping, patience⟩ where
  perm := advances.perm
  left := advances.left
  inOrder := by
    intro told inOrder
    have kept := advances.inOrder told inOrder
    exact ⟨kept.merged, kept.short, kept.long, kept.front, kept.last⟩
  fewer := advances.fewer

theorem of_recount {patience : Nat}
    (advances : Advances lt direction { merging with patience } merging') :
    Advances lt direction merging merging' where
  perm := advances.perm
  left := advances.left
  inOrder := by
    intro told inOrder
    apply advances.inOrder told
    exact ⟨inOrder.merged, inOrder.short, inOrder.long, inOrder.front, inOrder.last⟩
  fewer := advances.fewer

end Advances

theorem exists_of_unfinished (unfinished : ¬ merging.finished) :
    ∃ first short, merging.short = first :: short ∧ ∃ key long, merging.long = key :: long := by
  rw [finished_iff] at unfinished
  rcases not_or.mp unfinished with ⟨several, some⟩
  cases short : merging.short with
  | nil =>
      rw [short] at several
      exact absurd Nat.zero_lt_two several
  | cons first short => exact ⟨first, _, rfl, List.exists_cons_of_ne_nil some⟩

theorem shorter_subperm {key : α} {long : List α} (longer : merging.long = key :: long) :
    (key :: merging.short).Subperm merging.left := by
  rw [left, longer]
  apply List.Subperm.trans _ List.perm_middle.symm.subperm
  exact (List.subperm_cons key).mpr (List.sublist_append_left _ _).subperm

theorem longer_subperm {key : α} {short : List α} (shorter : merging.short = key :: short) :
    (key :: merging.long).Subperm merging.left := by
  rw [left, shorter]
  exact (List.subperm_cons key).mpr (List.sublist_append_right _ _).subperm

/-- What is ahead of the first of the longer run can be merged from the shorter one. -/
theorem InOrder.takeShort_of_first (passesOn : PassesOn lt) {key : α} {long : List α} {count : Nat}
    (told : merging.elements.Pairwise (Told lt)) (inOrder : merging.InOrder lt direction)
    (longer : merging.long = key :: long)
    (ahead : ∀ item ∈ merging.short.take count, direction.Ahead lt item key) :
    (merging.takeShort count).InOrder lt direction := by
  have across := told_across told
  have behind := inOrder.long
  apply inOrder.takeShort
  intro item member
  rw [longer] at across behind ⊢
  have toldItem := across item (List.mem_of_mem_take member)
  exact direction.ahead_of_first passesOn toldItem (ahead item member) behind

/-- What is ahead of the first of the shorter run can be merged from the longer one. -/
theorem InOrder.takeLong_of_first (passesOn : PassesOn lt) {key : α} {short : List α} {count : Nat}
    (told : merging.elements.Pairwise (Told lt)) (inOrder : merging.InOrder lt direction)
    (shorter : merging.short = key :: short)
    (ahead : ∀ item ∈ merging.long.take count, direction.Ahead lt item key) :
    (merging.takeLong count).InOrder lt direction := by
  have across := told_across told
  have behind := inOrder.short
  apply inOrder.takeLong
  intro item member
  rw [shorter] at across behind ⊢
  have toldItem : ∀ other ∈ key :: short, Told lt item other := by
    intro other member'
    exact (across other member' item (List.mem_of_mem_take member)).symm
  exact direction.ahead_of_first passesOn toldItem (ahead item member) behind

theorem meets_compareFirst (passesOn : PassesOn lt) (unfinished : ¬ merging.finished) :
    Meets (Asked lt merging.left) (Advances lt direction merging)
      (merging.compareFirst lt direction) := by
  rcases exists_of_unfinished unfinished with ⟨first, short, shorter, key, long, longer⟩
  have pair : [key, first].Subperm merging.left := by
    apply List.Subperm.trans _ (shorter_subperm longer)
    rw [shorter]
    exact (List.sublist_append_left [key, first] short).subperm
  have told (given : merging.elements.Pairwise (Told lt)) : Told lt key first := by
    apply Or.symm
    apply told_across given
    · rw [shorter]
      exact List.mem_cons_self
    · rw [longer]
      exact List.mem_cons_self
  simp only [compareFirst, shorter, longer]
  apply Meets.bind ((Direction.meets_longFirst key first).within pair)
  intro ahead inOrder
  cases ahead with
  | true =>
      apply Advances.recount (.of_moves (moves_takeLong 1 merging) ?_ ?_)
      · intro given kept
        apply kept.takeLong_of_first passesOn given shorter
        rw [longer]
        intro item member
        rw [List.mem_singleton.mp member]
        exact inOrder (told given)
      · right
        simp [left, takeLong, longer]
  | false =>
      apply Advances.recount (.of_moves (moves_takeShort 1 merging) ?_ ?_)
      · intro given kept
        apply kept.takeShort_of_first passesOn given longer
        rw [shorter]
        intro item member
        rw [List.mem_singleton.mp member]
        exact inOrder (told given)
      · right
        simp [left, takeShort, shorter]

theorem meets_leapShort (passesOn : PassesOn lt) (unfinished : ¬ merging.finished) :
    Meets (Asked lt merging.left) (Advances lt direction merging)
      (merging.leapShort lt direction) := by
  rcases exists_of_unfinished unfinished with ⟨_, _, _, key, long, longer⟩
  simp only [leapShort, longer]
  apply Meets.bind ((Direction.meets_shortCount passesOn direction).within (shorter_subperm longer))
  intro count divides
  have divided (given : merging.elements.Pairwise (Told lt)) (kept : merging.InOrder lt direction) :
      Divides (direction.Ahead lt) merging.short key count := by
    apply divides (Told.mono given _) kept.short
    exact (shorter_subperm longer).trans (List.sublist_append_right _ _).subperm
  have leapt (given : merging.elements.Pairwise (Told lt)) (kept : merging.InOrder lt direction) :
      (merging.takeShort count).InOrder lt direction :=
    kept.takeShort_of_first passesOn given longer (divided given kept).front
  split
  · next finished =>
      have advances := Advances.of_moves (moves_takeShort count merging) leapt (.inl finished)
      exact advances.recount _ _ _ _
  · next several =>
      have moves := (moves_takeShort count merging).trans (moves_takeLong 1 _)
      apply Advances.recount (.of_moves moves ?_ ?_)
      · intro given kept
        apply (leapt given kept).takeLong
        intro item member
        simp only [takeShort, longer, List.take_succ_cons, List.take_zero] at member
        rw [List.mem_singleton.mp member]
        exact (divided given kept).back
      · right
        simp only [left, takeShort, takeLong, longer, List.length_append, List.length_drop,
          List.length_cons]
        omega

theorem meets_leapLong (passesOn : PassesOn lt) (unfinished : ¬ merging.finished) :
    Meets (Asked lt merging.left) (Advances lt direction merging)
      (merging.leapLong lt direction) := by
  rcases exists_of_unfinished unfinished with ⟨key, short, shorter, _, _, _⟩
  simp only [leapLong, shorter]
  apply Meets.bind ((Direction.meets_longCount passesOn direction).within (longer_subperm shorter))
  intro count divides
  have divided (given : merging.elements.Pairwise (Told lt)) (kept : merging.InOrder lt direction) :
      Divides (direction.Ahead lt) merging.long key count := by
    apply divides (Told.mono given _) kept.long
    exact (longer_subperm shorter).trans (List.sublist_append_right _ _).subperm
  have leapt (given : merging.elements.Pairwise (Told lt)) (kept : merging.InOrder lt direction) :
      (merging.takeLong count).InOrder lt direction :=
    kept.takeLong_of_first passesOn given shorter (divided given kept).front
  split
  · next finished =>
      have advances := Advances.of_moves (moves_takeLong count merging) leapt (.inl finished)
      exact advances.recount _ _ _ _
  · next several =>
      have moves := (moves_takeLong count merging).trans (moves_takeShort 1 _)
      apply Advances.recount (.of_moves moves ?_ ?_)
      · intro given kept
        apply (leapt given kept).takeShort
        intro item member
        simp only [takeLong, shorter, List.take_succ_cons, List.take_zero] at member
        rw [List.mem_singleton.mp member]
        exact (divided given kept).back
      · right
        simp only [left, takeShort, takeLong, shorter, List.length_append, List.length_drop,
          List.length_cons]
        omega

theorem meets_leapBoth (merging : Merging α) (passesOn : PassesOn lt)
    (unfinished : ¬ merging.finished) :
    Meets (Asked lt merging.left) (Advances lt direction merging)
      (merging.leapBoth lt direction) := by
  unfold leapBoth
  split
  · apply Meets.bind (meets_leapShort passesOn unfinished)
    intro leapt advances
    split
    · exact advances
    · next several =>
        apply ((meets_leapLong passesOn several).within advances.left).of_success
        exact fun _ => advances.trans
  · apply Meets.bind (meets_leapLong passesOn unfinished)
    intro leapt advances
    split
    · exact advances
    · next several =>
        apply ((meets_leapShort passesOn several).within advances.left).of_success
        exact fun _ => advances.trans

theorem meets_leap (merging : Merging α) (passesOn : PassesOn lt)
    (unfinished : ¬ merging.finished) :
    Meets (Asked lt merging.left) (Advances lt direction merging)
      (merging.leap lt direction) := by
  apply Meets.bind (meets_leapBoth { merging with patience := max 1 (merging.patience - 1) }
    passesOn unfinished)
  intro leapt advances
  have counted := advances.of_recount
  split
  · exact counted
  · split
    · exact counted.recount _ _ _ _
    · exact counted.recount _ _ _ _

/-- Each step of a merge moves an element, unless the merge is finished. -/
theorem meets_step (passesOn : PassesOn lt) (unfinished : ¬ merging.finished) :
    Meets (Asked lt merging.left) (Advances lt direction merging)
      (merging.step lt direction) := by
  rw [step, if_neg unfinished]
  split
  · exact meets_leap merging passesOn unfinished
  · split
    · apply (meets_leap { merging with patience := merging.patience + 1 } passesOn
        unfinished).of_success
      exact fun _ advances => advances.of_recount
    · exact meets_compareFirst passesOn unfinished

theorem steps_of_finished (finished : merging.finished) (count : Nat) :
    merging.steps lt direction count = .ok merging := by
  induction count with
  | zero => rfl
  | succ count ih =>
      rw [steps, step, if_pos finished]
      exact ih

/-- As many steps as there are elements left finish a merge. -/
theorem meets_steps (passesOn : PassesOn lt) {count : Nat} (enough : merging.left.length ≤ count) :
    Meets (Asked lt merging.left)
      (fun merging' => Continues lt direction merging merging' ∧ merging'.finished)
      (merging.steps lt direction count) := by
  induction count generalizing merging with
  | zero =>
      have none := List.eq_nil_of_length_eq_zero (Nat.le_zero.mp enough)
      refine ⟨Continues.refl merging, finished_iff.mpr (.inr ?_)⟩
      exact (List.append_eq_nil_iff.mp none).2
  | succ count ih =>
      by_cases finished : merging.finished
      · rw [steps_of_finished finished]
        exact ⟨Continues.refl merging, finished⟩
      · rw [steps]
        apply Meets.bind (meets_step passesOn finished)
        intro merging' advances
        have later : Meets (Asked lt merging'.left)
            (fun merging'' => Continues lt direction merging' merging'' ∧ merging''.finished)
            (merging'.steps lt direction count) := by
          rcases advances.fewer with done | fewer
          · rw [steps_of_finished done]
            exact ⟨Continues.refl merging', done⟩
          · exact ih (by omega)
        apply (later.within advances.left).of_success
        rintro merging'' ⟨continues, done⟩
        exact ⟨advances.toContinues.trans continues, done⟩

end Merging

/-! ## Whole merges -/

/-- Two runs in order, of which the longer one begins first and the shorter one ends last. -/
structure Interlocks (ahead : α → α → Prop) (short long : List α) : Prop where
  shortInOrder : short.Pairwise ahead
  longInOrder : long.Pairwise ahead
  first : ∀ first ∈ long.head?, ∀ item ∈ short, ahead first item
  last : ∀ item ∈ long, ∀ last ∈ short.getLast?, ahead item last

theorem Interlocks.reverse {ahead : α → α → Prop} {short long : List α}
    (interlocks : Interlocks ahead short long) :
    Interlocks (fun item item' => ahead item' item) long.reverse short.reverse where
  shortInOrder := List.pairwise_reverse.mpr interlocks.longInOrder
  longInOrder := List.pairwise_reverse.mpr interlocks.shortInOrder
  first := by
    intro first found item member
    rw [List.head?_reverse] at found
    exact interlocks.last item (List.mem_reverse.mp member) first found
  last := by
    intro item member last found
    rw [List.getLast?_reverse] at found
    exact interlocks.first last found item (List.mem_reverse.mp member)

theorem Interlocks.inOrder {short long : List α} {patience : Nat}
    (interlocks : Interlocks (direction.Ahead lt) short long) :
    (Merging.takeLong 1 ⟨[], short, long, 0, 0, false, patience⟩).InOrder lt direction := by
  have start : Merging.InOrder lt direction ⟨[], short, long, 0, 0, false, patience⟩ :=
    ⟨List.Pairwise.nil, interlocks.shortInOrder, interlocks.longInOrder, nofun, interlocks.last⟩
  apply start.takeLong
  intro item member
  apply interlocks.first
  cases long with
  | nil => cases member
  | cons first long =>
      rw [List.mem_singleton.mp member]
      rfl

theorem meets_mergeFrom (direction : Direction) (passesOn : PassesOn lt) (patience : Nat)
    (short long : List α) :
    Meets (Asked lt (short ++ long)) (fun answer => answer.1.Perm (short ++ long) ∧
      ((short ++ long).Pairwise (Told lt) → Interlocks (direction.Ahead lt) short long →
        answer.1.Pairwise (direction.Ahead lt)))
      (mergeFrom lt direction patience short long) := by
  have moves := Merging.moves_takeLong 1 (⟨[], short, long, 0, 0, false, patience⟩ : Merging α)
  have enough := Nat.le_trans moves.left.length_le (Nat.le_of_eq List.length_append)
  apply Meets.bind ((Merging.meets_steps passesOn enough).within moves.left)
  rintro merging ⟨continues, finished⟩
  refine ⟨(merging.result_perm.trans continues.perm).trans moves.perm, ?_⟩
  intro told interlocks
  exact (continues.inOrder (Told.mono told moves.perm.subperm) interlocks.inOrder).result finished

theorem meets_mergeMiddle (passesOn : PassesOn lt) (patience : Nat) (front back : List α) :
    Meets (Asked lt (front ++ back)) (fun answer => answer.1.Perm (front ++ back) ∧
      ((front ++ back).Pairwise (Told lt) → Interlocks (Below lt) front back →
        Ascends lt answer.1))
      (mergeMiddle lt patience front back) := by
  unfold mergeMiddle
  split
  · next none =>
      rw [List.isEmpty_iff.mp none, List.append_nil]
      exact ⟨List.Perm.refl _, fun _ interlocks => interlocks.shortInOrder⟩
  · split
    · exact meets_mergeFrom .forward passesOn patience front back
    · have order : (back.reverse ++ front.reverse).Perm (front ++ back) := by
        rw [← List.reverse_append]
        exact List.reverse_perm _
      apply Meets.bind ((meets_mergeFrom .backward passesOn patience back.reverse
        front.reverse).within order.subperm)
      rintro ⟨merged, patience⟩ ⟨perm, ascends⟩
      refine ⟨((List.reverse_perm _).trans perm).trans order, ?_⟩
      intro told interlocks
      apply List.pairwise_reverse.mpr
      exact ascends (Told.mono told order.subperm) interlocks.reverse

theorem arranged_pair {front back merged : List α} (perm : merged.Perm (front ++ back))
    (ascends : (front ++ back).Pairwise (Told lt) → Ascends lt front → Ascends lt back →
      Ascends lt merged) : Arranged lt [front, back] [merged] where
  perm := by
    simpa using perm
  ascends := by
    intro told inOrder part member
    rw [List.mem_singleton.mp member]
    apply ascends
    · simpa using told
    · exact inOrder front List.mem_cons_self
    · exact inOrder back (List.mem_cons_of_mem _ List.mem_cons_self)

section

variable {front back merged : List α} {first last : α} {stays ends : Nat}

/-- The first run from where the second one begins, and that up to where the first one ends. -/
theorem Interlocks.of_divides (inFront : Ascends lt front) (inBack : Ascends lt (first :: back))
    (divides : Divides (Below lt) front first stays)
    (found : (front.drop stays).getLast? = some last)
    (divides' : Divides (Below lt) (first :: back) last ends) :
    Interlocks (Below lt) (front.drop stays) ((first :: back).take ends) where
  shortInOrder := inFront.sublist (List.drop_sublist _ _)
  longInOrder := inBack.sublist (List.take_sublist _ _)
  first := by
    intro start isStart item member
    cases ends with
    | zero => cases isStart
    | succ ends =>
        cases isStart
        exact divides.back item member
  last := by
    intro item member last' found'
    rw [found] at found'
    cases found'
    exact divides'.front item member

/-- What stays in the first run is below all of the second one. -/
theorem Divides.below_back (passesOn : PassesOn lt)
    (told : (front ++ first :: back).Pairwise (Told lt)) (inBack : Ascends lt (first :: back))
    (divides : Divides (Below lt) front first stays) :
    ∀ item ∈ front.take stays, ∀ other ∈ first :: back, Below lt item other := by
  intro item member
  apply Direction.forward.ahead_of_first passesOn _ (divides.front item member) inBack
  exact (List.pairwise_append.mp told).2.2 item (List.mem_of_mem_take member)

/-- All of the first run is below what stays in the second one. -/
theorem Divides.below_rest (passesOn : PassesOn lt)
    (told : (front ++ first :: back).Pairwise (Told lt)) (inFront : Ascends lt front)
    (found : (front.drop stays).getLast? = some last)
    (divides : Divides (Below lt) (first :: back) last ends) :
    ∀ item ∈ front.drop stays, ∀ other ∈ (first :: back).drop ends, Below lt item other := by
  intro item member other member'
  have inside : Ascends lt (front.drop stays) := inFront.sublist (List.drop_sublist _ _)
  rcases List.getLast?_eq_some_iff.mp found with ⟨others, split⟩
  have across := (List.pairwise_append.mp told).2.2 item (List.mem_of_mem_drop member) other
    (List.mem_of_mem_drop member')
  have behind := divides.back other member'
  rw [split] at inside member
  rcases List.mem_append.mp member with earlier | final
  · have below := (List.pairwise_append.mp inside).2.2 item earlier last List.mem_cons_self
    exact below.trans passesOn across behind
  · rw [List.mem_singleton.mp final]
    exact behind

/-- What stays in front, the merged middle and what stays behind are in order. -/
theorem ascends_around (passesOn : PassesOn lt)
    (told : (front ++ first :: back).Pairwise (Told lt))
    (inFront : Ascends lt front) (inBack : Ascends lt (first :: back))
    (divides : Divides (Below lt) front first stays)
    (found : (front.drop stays).getLast? = some last)
    (divides' : Divides (Below lt) (first :: back) last ends)
    (perm : merged.Perm (front.drop stays ++ (first :: back).take ends))
    (ascends : Ascends lt merged) :
    Ascends lt (front.take stays ++ merged ++ (first :: back).drop ends) := by
  have wholeFront : Ascends lt (front.take stays ++ front.drop stays) := by
    rwa [List.take_append_drop]
  have wholeBack : Ascends lt ((first :: back).take ends ++ (first :: back).drop ends) := by
    rwa [List.take_append_drop]
  rcases List.pairwise_append.mp wholeFront with ⟨stayed, _, frontApart⟩
  rcases List.pairwise_append.mp wholeBack with ⟨_, rest, backApart⟩
  have below := divides.below_back passesOn told inBack
  rw [List.append_assoc]
  apply List.pairwise_append.mpr
  refine ⟨stayed, List.pairwise_append.mpr ⟨ascends, rest, ?_⟩, ?_⟩
  · intro item member other member'
    rcases List.mem_append.mp (perm.subset member) with inside | inside
    · exact divides'.below_rest passesOn told inFront found item inside other member'
    · exact backApart item inside other member'
  · intro item member other member'
    rcases List.mem_append.mp member' with middle | behind
    · rcases List.mem_append.mp (perm.subset middle) with inside | inside
      · exact frontApart item member other inside
      · exact below item member other (List.mem_of_mem_take inside)
    · exact below item member other (List.mem_of_mem_drop behind)

theorem perm_around (perm : merged.Perm (front.drop stays ++ back.take ends)) :
    (front.take stays ++ merged ++ back.drop ends).Perm (front ++ back) := by
  have around := (perm.append_left (front.take stays)).append_right (back.drop ends)
  apply around.trans
  rw [← List.append_assoc, List.take_append_drop, List.append_assoc, List.take_append_drop]

end

theorem meets_mergeRuns (passesOn : PassesOn lt) (patience : Nat) (front back : List α) :
    Meets (Asked lt (front ++ back)) (fun answer => Arranged lt [front, back] [answer.1])
      (mergeRuns lt patience front back) := by
  cases back with
  | nil =>
      apply arranged_pair _ fun _ ascends _ => ascends
      rw [List.append_nil]
  | cons first back =>
      have key : (first :: front).Subperm (front ++ first :: back) := by
        apply List.Subperm.trans _ List.perm_middle.symm.subperm
        exact (List.subperm_cons first).mpr (List.sublist_append_left _ _).subperm
      rw [mergeRuns]
      apply Meets.bind ((probes_isAfter.meets_gallop passesOn 0).within key)
      intro stays divides
      cases found : (front.drop stays).getLast? with
      | none =>
          apply arranged_pair (List.Perm.refl _)
          intro told inFront inBack
          have below := (divides (Told.mono told key) inFront).below_back passesOn told inBack
          have all : front.take stays = front := by
            apply List.take_of_length_le
            exact List.drop_eq_nil_iff.mp (List.getLast?_eq_none_iff.mp found)
          rw [all] at below
          exact List.pairwise_append.mpr ⟨inFront, inBack, below⟩
      | some last =>
          have key' : (last :: first :: back).Subperm (front ++ first :: back) := by
            have member := List.mem_of_mem_drop (List.mem_of_getLast? found)
            rcases List.append_of_mem member with ⟨before, after, split⟩
            rw [split, List.append_assoc, List.cons_append]
            apply List.Subperm.trans _ List.perm_middle.symm.subperm
            apply (List.subperm_cons last).mpr
            rw [← List.append_assoc]
            exact (List.sublist_append_right _ _).subperm
          apply Meets.bind ((probes_isNotBefore.meets_gallop passesOn back.length).within key')
          intro ends divides'
          have middle : (front.drop stays ++ (first :: back).take ends).Subperm
              (front ++ first :: back) :=
            ((List.drop_sublist _ _).append (List.take_sublist _ _)).subperm
          apply Meets.bind ((meets_mergeMiddle passesOn patience _ _).within middle)
          rintro ⟨merged, patience⟩ ⟨perm, ascends⟩
          apply arranged_pair (perm_around perm)
          intro told inFront inBack
          have divides := divides (Told.mono told key) inFront
          have divides' := divides' (Told.mono told key') inBack
          apply ascends_around passesOn told inFront inBack divides found divides' perm
          apply ascends (Told.mono told middle)
          exact Interlocks.of_divides inFront inBack divides found divides'

end Sorting

end Typeset

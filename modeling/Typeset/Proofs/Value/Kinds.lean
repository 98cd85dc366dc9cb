import Typeset.Proofs.Value.Order

/-!
# Values of one kind

Of two different numbers, texts, sequences of bytes or instants one is before the other, and so it
is with arrays whose elements are of one kind place by place.
-/

namespace Typeset

namespace Value

/-- Exactly one of two values is before the other one. -/
def Told (left right : Value) : Prop :=
  ∃ first, isBefore left right = .ok first ∧ isBefore right left = .ok (!first)

variable {left right : Value}

theorem Told.symm (told : Told left right) : Told right left := by
  rcases told with ⟨first, before, after⟩
  refine ⟨!first, after, ?_⟩
  rw [Bool.not_not]
  exact before

instance : Std.Symm Told :=
  ⟨fun _ _ => Told.symm⟩

theorem Told.before_or (told : Told left right) : Before left right ∨ Before right left := by
  rcases told with ⟨first, before, after⟩
  cases first with
  | false => exact .inr after
  | true => exact .inl before

/-- Two values are equal, or exactly one of them is before the other. -/
inductive Settled (left right : Value) : Prop
  | equal (first : same left right = true) (second : same right left = true)
  | told (first : same left right = false) (second : same right left = false)
      (told : Told left right)

theorem Settled.symm (settled : Settled left right) : Settled right left := by
  cases settled with
  | equal first second => exact .equal second first
  | told first second told => exact .told second first told.symm

/-! ## Values without parts -/

theorem settled_of_below {rank rank' : Rank} (placed : left.rank? = some rank)
    (placed' : right.rank? = some rank') (below : rank.Below rank') : Settled left right := by
  have before := before_of_below placed placed' below
  apply Settled.told
  · exact (consistent left).differs before
  · apply Bool.eq_false_iff.mpr
    intro equal
    rw [rank?_eq_of_same equal, placed] at placed'
    cases placed'
    exact rank.below_irrefl below
  · refine ⟨true, before, ?_⟩
    rw [isBefore_of_rank? placed']
    exact (isBeforeScalar_of_below placed placed' below).2

theorem settled_of_ranks {rank rank' : Rank} (placed : left.rank? = some rank)
    (placed' : right.rank? = some rank')
    (near : rank.Below rank' ∨ rank = rank' ∨ rank'.Below rank) : Settled left right := by
  rcases near with below | rfl | above
  · exact settled_of_below placed placed' below
  · apply Settled.equal
    · rw [same_of_rank? placed]
      exact sameScalar_of_rank? placed placed'
    · rw [same_of_rank? placed']
      exact sameScalar_of_rank? placed' placed
  · exact (settled_of_below placed' placed above).symm

/-- A number that is one, so neither of the two kinds of what is no number. -/
def isNumber (value : Value) : Bool :=
  (value.quantity?.bind (·.number?)).isSome

theorem rank?_of_isNumber {value : Value} (number : value.isNumber) :
    ∃ number, value.rank? = some (.number number) := by
  rcases Option.isSome_iff_exists.mp number with ⟨number, given⟩
  rcases Option.bind_eq_some_iff.mp given with ⟨quantity, shown, amounts⟩
  refine ⟨number, ?_⟩
  rw [rank?_of_quantity? shown, amounts, Option.map_some]

theorem settled_of_numbers (first : left.isNumber) (second : right.isNumber) :
    Settled left right := by
  rcases rank?_of_isNumber first with ⟨number, placed⟩
  rcases rank?_of_isNumber second with ⟨number', placed'⟩
  apply settled_of_ranks placed placed'
  rcases lt_trichotomy number number' with less | equal | more
  · exact .inl (.number less)
  · exact .inr (.inl (congrArg _ equal))
  · exact .inr (.inr (.number more))

theorem settled_of_texts (first : left.text?.isSome) (second : right.text?.isSome) :
    Settled left right := by
  rcases Option.isSome_iff_exists.mp first with ⟨string, shown⟩
  rcases Option.isSome_iff_exists.mp second with ⟨string', shown'⟩
  apply settled_of_ranks (rank?_of_text? shown) (rank?_of_text? shown')
  by_cases less : string < string'
  · exact .inl (.text less)
  · by_cases more : string' < string
    · exact .inr (.inr (.text more))
    · have equal := String.le_antisymm (String.not_lt.mp more) (String.not_lt.mp less)
      exact .inr (.inl (congrArg _ equal))

theorem settled_of_bytes (content content' : Bytes) :
    Settled (.bytes content) (.bytes content') := by
  have placed (content : Bytes) : (bytes content).rank? = some (.bytes content) := rfl
  apply settled_of_ranks (placed content) (placed content')
  by_cases less : content < content'
  · exact .inl (.bytes less)
  · by_cases more : content' < content
    · exact .inr (.inr (.bytes more))
    · have equal := List.le_antisymm (List.not_lt.mp more) (List.not_lt.mp less)
      exact .inr (.inl (congrArg _ equal))

theorem settled_of_instants (moment moment' : Moment) (offset offset' : Int) :
    Settled (.instant ⟨moment, some offset⟩) (.instant ⟨moment', some offset'⟩) := by
  have placed (moment : Moment) (offset : Int) :
      (instant ⟨moment, some offset⟩).rank? =
      some (.knownInstant (moment.microseconds - offset)) := rfl
  apply settled_of_ranks (placed moment offset) (placed moment' offset')
  rcases lt_trichotomy (moment.microseconds - offset) (moment'.microseconds - offset') with
    less | equal | more
  · exact .inl (.knownInstant less)
  · exact .inr (.inl (congrArg _ equal))
  · exact .inr (.inr (.knownInstant more))

/-! ## Arrays -/

/-- Two lists that are settled place by place are equal, or exactly one is before the other. -/
theorem settled_lists {items others : List Value}
    (each : ∀ (place : Nat) (item other : Value), items[place]? = some item →
      others[place]? = some other → Settled item other) :
    (sameAll items others = true ∧ sameAll others items = true) ∨
      (sameAll items others = false ∧ sameAll others items = false ∧ ∃ first,
        isBeforeAll items others = .ok first ∧ isBeforeAll others items = .ok (!first)) := by
  induction items generalizing others with
  | nil =>
      cases others with
      | nil => simp [sameAll]
      | cons other others => simp [sameAll, isBeforeAll]
  | cons item items ih =>
      cases others with
      | nil => simp [sameAll, isBeforeAll]
      | cons other others =>
          have rest := ih fun place item other shown shown' =>
            each (place + 1) item other shown shown'
          -- the first places decide unless they hold equal elements
          cases each 0 item other rfl rfl with
          | equal first second => simpa [sameAll, isBeforeAll, first, second] using rest
          | told first second told =>
              rcases told with ⟨before, given, given'⟩
              refine .inr ⟨?_, ?_, before, ?_, ?_⟩
              · simp [sameAll, first]
              · simp [sameAll, second]
              · simp [isBeforeAll, first, given]
              · simp [isBeforeAll, second, given']

/--
Two numbers, two texts, two sequences of bytes, two instants on known clocks, or two arrays whose
elements are so place by place.
-/
inductive Kindred : Value → Value → Prop
  | numbers {left right : Value} (first : left.isNumber) (second : right.isNumber) :
      Kindred left right
  | texts {left right : Value} (first : left.text?.isSome) (second : right.text?.isSome) :
      Kindred left right
  | bytes (content content' : Bytes) : Kindred (.bytes content) (.bytes content')
  | instants (moment moment' : Moment) (offset offset' : Int) :
      Kindred (.instant ⟨moment, some offset⟩) (.instant ⟨moment', some offset'⟩)
  | arrays (frozen : Bool) {items others : List Value}
      (each : ∀ (place : Nat) (item other : Value), items[place]? = some item →
        others[place]? = some other → Kindred item other) :
      Kindred (.array frozen items) (.array frozen others)

/-- Of two different values of one kind exactly one is before the other. -/
theorem Kindred.settled (kindred : Kindred left right) : Settled left right := by
  induction kindred with
  | numbers first second => exact settled_of_numbers first second
  | texts first second => exact settled_of_texts first second
  | bytes content content' => exact settled_of_bytes content content'
  | instants moment moment' offset offset' =>
      exact settled_of_instants moment moment' offset offset'
  | arrays frozen each ih =>
      rcases settled_lists ih with ⟨first, second⟩ | ⟨first, second, told⟩
      · exact .equal (by simpa [same] using first) (by simpa [same] using second)
      · refine .told (by simpa [same] using first) (by simpa [same] using second) ?_
        simpa [Told, isBefore] using told

end Value

end Typeset

import Mathlib.Data.List.Forall2
import Typeset.Proofs.Value.Scalars

/-!
# The order of values

To be before another value is transitive, whatever the two are: arrays are compared at the first
difference of their elements and sets by inclusion. Equal values stand at one place of the order.
-/

namespace Typeset

namespace Value

/-! ## Parts -/

/-- The values that a value is made of, apart from the keys of a mapping. -/
def parts : Value → List Value
  | .array _ items | .set _ items => items
  | .mapping entries => entries.map (·.2)
  | .member _ _ value => [value]
  | .record _ fields => fields.map (·.2)
  | _ => []

theorem sizeOf_lt_of_mem_parts {value part : Value} (member : part ∈ value.parts) :
    sizeOf part < sizeOf value := by
  cases value with
  | array frozen items =>
      have less := List.sizeOf_lt_of_mem (show part ∈ items from member)
      rw [array.sizeOf_spec]
      omega
  | set frozen items =>
      have less := List.sizeOf_lt_of_mem (show part ∈ items from member)
      rw [set.sizeOf_spec]
      omega
  | mapping entries =>
      rcases List.mem_map.mp (show part ∈ entries.map (·.2) from member) with
        ⟨⟨key, item⟩, among, rfl⟩
      have less := List.sizeOf_lt_of_mem among
      simp only [mapping.sizeOf_spec, Prod.mk.sizeOf_spec] at less ⊢
      omega
  | member type name value =>
      rw [List.mem_singleton.mp (show part ∈ [value] from member), Value.member.sizeOf_spec]
      omega
  | record type fields =>
      rcases List.mem_map.mp (show part ∈ fields.map (·.2) from member) with
        ⟨⟨name, item⟩, among, rfl⟩
      have less := List.sizeOf_lt_of_mem among
      simp only [record.sizeOf_spec, Prod.mk.sizeOf_spec] at less ⊢
      omega
  | _ => cases member

/-- What holds of a value if it holds of its parts holds of every value. -/
@[elab_as_elim]
theorem induction_on_parts {motive : Value → Prop} (value : Value)
    (step : ∀ value : Value, (∀ part ∈ value.parts, motive part) → motive value) :
    motive value :=
  step value fun part _ => induction_on_parts part step
termination_by sizeOf value
decreasing_by
  apply sizeOf_lt_of_mem_parts
  assumption

/-! ## Equality -/

variable {left middle right : Value}

theorem sameAll_iff {items others : List Value} :
    sameAll items others = true ↔
      List.Forall₂ (fun item other => same item other = true) items others := by
  induction items generalizing others with
  | nil => cases others <;> simp [sameAll]
  | cons item items ih =>
      cases others with
      | nil => simp [sameAll]
      | cons other others => simp [sameAll, ih]

theorem allIn_iff {items others : List Value} :
    allIn items others = true ↔ ∀ item ∈ items, ∃ other ∈ others, same item other = true := by
  induction items with
  | nil => simp [allIn]
  | cons item items ih => simp [allIn, ih]

theorem sameFields_iff {fields others : List (String × Value)} :
    sameFields fields others = true ↔
      fields.map (·.1) = others.map (·.1) ∧
        List.Forall₂ (fun item other => same item other = true) (fields.map (·.2))
          (others.map (·.2)) := by
  induction fields generalizing others with
  | nil => cases others <;> simp [sameFields]
  | cons field fields ih =>
      rcases field with ⟨name, item⟩
      cases others with
      | nil => simp [sameFields]
      | cons other others =>
          rcases other with ⟨name', item'⟩
          simp only [sameFields, Bool.and_eq_true, beq_iff_eq, ih, List.map_cons, List.cons.injEq,
            List.forall₂_cons]
          exact and_and_and_comm

theorem same_array_iff {frozen : Bool} {items : List Value} :
    same (.array frozen items) right = true ↔
      ∃ others, right = .array frozen others ∧
        List.Forall₂ (fun item other => same item other = true) items others := by
  cases right with
  | array frozen' others =>
      simp only [same, Bool.and_eq_true, beq_iff_eq, sameAll_iff]
      constructor
      · rintro ⟨rfl, each⟩
        exact ⟨others, rfl, each⟩
      · rintro ⟨_, equal, each⟩
        cases equal
        exact ⟨rfl, each⟩
  | _ => simp [same]

theorem same_set_iff {frozen : Bool} {items : List Value} :
    same (.set frozen items) right = true ↔
      ∃ frozen' others, right = .set frozen' others ∧ items.length = others.length ∧
        ∀ item ∈ items, ∃ other ∈ others, same item other = true := by
  cases right <;> simp [same, allIn_iff]

theorem same_record_iff {type : String} {fields : List (String × Value)} :
    same (.record type fields) right = true ↔
      ∃ others, right = .record type others ∧ fields.map (·.1) = others.map (·.1) ∧
        List.Forall₂ (fun item other => same item other = true) (fields.map (·.2))
          (others.map (·.2)) := by
  cases right with
  | record type' others =>
      simp only [same, Bool.and_eq_true, beq_iff_eq, sameFields_iff]
      constructor
      · rintro ⟨rfl, each⟩
        exact ⟨others, rfl, each⟩
      · rintro ⟨_, equal, each⟩
        cases equal
        exact ⟨rfl, each⟩
  | _ => simp [same]

theorem same_of_rank? {rank : Rank} (placed : left.rank? = some rank) :
    same left right = sameScalar left right := by
  cases left with
  | array frozen items => cases placed
  | set frozen items => cases placed
  | record type fields => cases placed
  | _ => simp only [same]

/-- Equal values are compared by the same. -/
theorem rank?_eq_of_same (equal : same left right = true) : left.rank? = right.rank? := by
  cases left with
  | array frozen items =>
      rcases same_array_iff.mp equal with ⟨others, rfl, _⟩
      rfl
  | set frozen items =>
      rcases same_set_iff.mp equal with ⟨frozen', others, rfl, _⟩
      rfl
  | record type fields =>
      rcases same_record_iff.mp equal with ⟨others, rfl, _⟩
      rfl
  | _ =>
      simp only [same] at equal
      rcases sameScalar_iff.mp equal with ⟨rank, placed, placed'⟩
      exact placed.trans placed'.symm

theorem forall₂_trans {α : Type} {relation : α → α → Prop} {first second third : List α}
    (trans : ∀ item ∈ first, ∀ {item' item''}, relation item item' → relation item' item'' →
      relation item item'')
    (each : List.Forall₂ relation first second) (each' : List.Forall₂ relation second third) :
    List.Forall₂ relation first third := by
  induction each generalizing third with
  | nil => exact each'
  | cons related _ ih =>
      cases each' with
      | cons related' each' =>
          apply List.Forall₂.cons
          · exact trans _ List.mem_cons_self related related'
          · apply ih _ each'
            intro item member
            exact trans item (List.mem_cons_of_mem _ member)

theorem same_trans (first : same left middle = true) (second : same middle right = true) :
    same left right = true := by
  induction left using induction_on_parts generalizing middle right with
  | step left ih =>
      cases left with
      | array frozen items =>
          rcases same_array_iff.mp first with ⟨others, rfl, each⟩
          rcases same_array_iff.mp second with ⟨thirds, rfl, each'⟩
          exact same_array_iff.mpr ⟨thirds, rfl, forall₂_trans ih each each'⟩
      | set frozen items =>
          rcases same_set_iff.mp first with ⟨_, others, rfl, lengths, each⟩
          rcases same_set_iff.mp second with ⟨_, thirds, rfl, lengths', each'⟩
          refine same_set_iff.mpr ⟨_, thirds, rfl, lengths.trans lengths', ?_⟩
          intro item member
          rcases each item member with ⟨other, among, equal⟩
          rcases each' other among with ⟨third, among', equal'⟩
          exact ⟨third, among', ih item member equal equal'⟩
      | record type fields =>
          rcases same_record_iff.mp first with ⟨others, rfl, names, each⟩
          rcases same_record_iff.mp second with ⟨thirds, rfl, names', each'⟩
          exact same_record_iff.mpr
            ⟨thirds, rfl, names.trans names', forall₂_trans ih each each'⟩
      | _ =>
          simp only [same] at first ⊢
          rcases sameScalar_iff.mp first with ⟨rank, placed, placed'⟩
          rw [same_of_rank? placed'] at second
          rcases sameScalar_iff.mp second with ⟨rank', shown, shown'⟩
          refine sameScalar_iff.mpr ⟨rank, placed, ?_⟩
          rw [shown', ← shown, placed']

/-! ## Order -/

/-- A value is known to be before another one. -/
def Before (left right : Value) : Prop :=
  isBefore left right = .ok true

/-- A list is before another one: it ends first, or an element is before the other's. -/
inductive BeforeAll : List Value → List Value → Prop
  | ends (item : Value) (items : List Value) : BeforeAll [] (item :: items)
  | here {item item' : Value} (before : Before item item') (different : same item item' = false)
      (items items' : List Value) : BeforeAll (item :: items) (item' :: items')
  | later {item item' : Value} {items items' : List Value} (equal : same item item' = true)
      (rest : BeforeAll items items') : BeforeAll (item :: items) (item' :: items')

theorem isBeforeAll_iff {items others : List Value} :
    isBeforeAll items others = .ok true ↔ BeforeAll items others := by
  induction items generalizing others with
  | nil =>
      cases others with
      | nil => exact ⟨nofun, nofun⟩
      | cons other others => exact ⟨fun _ => .ends other others, fun _ => by simp [isBeforeAll]⟩
  | cons item items ih =>
      cases others with
      | nil =>
          simp only [isBeforeAll]
          exact ⟨nofun, nofun⟩
      | cons other others =>
          simp only [isBeforeAll]
          split
          · next equal =>
              rw [ih]
              constructor
              · exact .later equal
              · rintro (_ | ⟨_, different, _, _⟩ | ⟨_, rest⟩)
                · rw [equal] at different
                  cases different
                · exact rest
          · next different =>
              constructor
              · intro before
                exact .here before (Bool.eq_false_iff.mpr different) items others
              · rintro (_ | ⟨before, _, _, _⟩ | ⟨equal, _⟩)
                · exact before
                · exact absurd equal different

theorem before_array_iff {frozen : Bool} {items : List Value} :
    Before (.array frozen items) right ↔
      ∃ others, right = .array frozen others ∧ BeforeAll items others := by
  unfold Before
  cases right with
  | array frozen' others =>
      simp only [isBefore]
      split
      · next equal =>
          rw [isBeforeAll_iff, equal]
          constructor
          · intro before
            exact ⟨others, rfl, before⟩
          · rintro ⟨_, same, before⟩
            cases same
            exact before
      · next different =>
          constructor
          · nofun
          · rintro ⟨_, equal, _⟩
            cases equal
            exact absurd rfl different
  | _ => simp [isBefore]

theorem before_set_iff {frozen : Bool} {items : List Value} :
    Before (.set frozen items) right ↔
      ∃ frozen' others, right = .set frozen' others ∧ items.length < others.length ∧
        ∀ item ∈ items, ∃ other ∈ others, same item other = true := by
  unfold Before
  cases right <;> simp [isBefore, allIn_iff]

theorem isBefore_of_rank? {rank : Rank} (placed : left.rank? = some rank) :
    isBefore left right = isBeforeScalar left right := by
  cases left with
  | array frozen items => cases placed
  | set frozen items => cases placed
  | _ => simp only [isBefore]

theorem before_of_below {rank rank' : Rank} (placed : left.rank? = some rank)
    (placed' : right.rank? = some rank') (below : rank.Below rank') : Before left right := by
  rw [Before, isBefore_of_rank? placed]
  exact (isBeforeScalar_of_below placed placed' below).1

/-- Apart from arrays and sets, only values without parts are before others. -/
theorem before_cases (before : Before left right) :
    (∃ frozen items, left = .array frozen items) ∨ (∃ frozen items, left = .set frozen items) ∨
      ∃ rank rank', left.rank? = some rank ∧ right.rank? = some rank' ∧ rank.Below rank' := by
  unfold Before at before
  cases left with
  | array frozen items => exact .inl ⟨frozen, items, rfl⟩
  | set frozen items => exact .inr (.inl ⟨frozen, items, rfl⟩)
  | _ =>
      simp only [isBefore] at before
      exact .inr (.inr (below_of_isBeforeScalar before))

theorem below_of_before {rank : Rank} (placed : left.rank? = some rank)
    (before : Before left right) : ∃ rank', right.rank? = some rank' ∧ rank.Below rank' := by
  rcases before_cases before with ⟨_, _, rfl⟩ | ⟨_, _, rfl⟩ | ⟨_, rank', shown, placed', below⟩
  · cases placed
  · cases placed
  · cases placed.symm.trans shown
    exact ⟨rank', placed', below⟩

/-- How what is before or after a value agrees with what is equal to it. -/
structure Consistent (value : Value) : Prop where
  differs : ∀ {right}, Before value right → same value right = false
  before_of_same : ∀ {middle right}, same value middle = true → Before middle right →
    Before value right
  before_same : ∀ {middle right}, Before value middle → same middle right = true →
    Before value right
  trans : ∀ {middle right}, Before value middle → Before middle right → Before value right

section

variable {items others thirds : List Value}

theorem BeforeAll.differs (each : ∀ item ∈ items, item.Consistent)
    (before : BeforeAll items others) :
    ¬ List.Forall₂ (fun item other => same item other = true) items others := by
  intro equal
  induction before with
  | ends => cases equal
  | here before different =>
      cases equal with
      | cons first _ =>
          rw [first] at different
          cases different
  | later _ _ ih =>
      cases equal with
      | cons _ rest =>
          apply ih _ rest
          intro item member
          exact each item (List.mem_cons_of_mem _ member)

theorem BeforeAll.of_same (each : ∀ item ∈ items, item.Consistent)
    (equal : List.Forall₂ (fun item other => same item other = true) items others)
    (before : BeforeAll others thirds) : BeforeAll items thirds := by
  induction before generalizing items with
  | ends item rest =>
      cases equal
      exact .ends item rest
  | here before _ _ rest =>
      cases equal with
      | cons first _ =>
          have consistent := each _ List.mem_cons_self
          have less := consistent.before_of_same first before
          exact .here less (consistent.differs less) _ rest
  | later same _ ih =>
      cases equal with
      | cons first equal =>
          apply BeforeAll.later (same_trans first same)
          apply ih _ equal
          intro item member
          exact each item (List.mem_cons_of_mem _ member)

theorem BeforeAll.trans_same (each : ∀ item ∈ items, item.Consistent)
    (before : BeforeAll items others)
    (equal : List.Forall₂ (fun item other => same item other = true) others thirds) :
    BeforeAll items thirds := by
  induction before generalizing thirds with
  | ends =>
      cases equal
      exact .ends _ _
  | here before =>
      cases equal with
      | cons first _ =>
          have consistent := each _ List.mem_cons_self
          have less := consistent.before_same before first
          exact .here less (consistent.differs less) _ _
  | later same _ ih =>
      cases equal with
      | cons first equal =>
          apply BeforeAll.later (same_trans same first)
          apply ih _ equal
          intro item member
          exact each item (List.mem_cons_of_mem _ member)

theorem BeforeAll.trans (each : ∀ item ∈ items, item.Consistent) (before : BeforeAll items others)
    (after : BeforeAll others thirds) : BeforeAll items thirds := by
  induction before generalizing thirds with
  | ends =>
      cases after with
      | here => exact .ends _ _
      | later => exact .ends _ _
  | here before =>
      have consistent := each _ List.mem_cons_self
      cases after with
      | here after =>
          have less := consistent.trans before after
          exact .here less (consistent.differs less) _ _
      | later equal =>
          have less := consistent.before_same before equal
          exact .here less (consistent.differs less) _ _
  | later same _ ih =>
      have consistent := each _ List.mem_cons_self
      cases after with
      | here after =>
          have less := consistent.before_of_same same after
          exact .here less (consistent.differs less) _ _
      | later equal after =>
          apply BeforeAll.later (same_trans same equal)
          apply ih _ after
          intro item member
          exact each item (List.mem_cons_of_mem _ member)

end

theorem consistent_array (frozen : Bool) {items : List Value}
    (each : ∀ item ∈ items, item.Consistent) : (array frozen items).Consistent := by
  constructor
  · intro right before
    rcases before_array_iff.mp before with ⟨others, rfl, less⟩
    apply Bool.eq_false_iff.mpr
    intro equal
    rcases same_array_iff.mp equal with ⟨_, same, each'⟩
    cases same
    exact less.differs each each'
  · intro middle right equal before
    rcases same_array_iff.mp equal with ⟨others, rfl, each'⟩
    rcases before_array_iff.mp before with ⟨thirds, rfl, less⟩
    exact before_array_iff.mpr ⟨thirds, rfl, .of_same each each' less⟩
  · intro middle right before equal
    rcases before_array_iff.mp before with ⟨others, rfl, less⟩
    rcases same_array_iff.mp equal with ⟨thirds, rfl, each'⟩
    exact before_array_iff.mpr ⟨thirds, rfl, less.trans_same each each'⟩
  · intro middle right before after
    rcases before_array_iff.mp before with ⟨others, rfl, less⟩
    rcases before_array_iff.mp after with ⟨thirds, rfl, less'⟩
    exact before_array_iff.mpr ⟨thirds, rfl, less.trans each less'⟩

/-- What is in one list up to equality is in another one, if what is in that one is. -/
theorem among_trans {items others thirds : List Value}
    (first : ∀ item ∈ items, ∃ other ∈ others, same item other = true)
    (second : ∀ other ∈ others, ∃ third ∈ thirds, same other third = true) :
    ∀ item ∈ items, ∃ third ∈ thirds, same item third = true := by
  intro item member
  rcases first item member with ⟨other, among, equal⟩
  rcases second other among with ⟨third, among', equal'⟩
  exact ⟨third, among', same_trans equal equal'⟩

theorem consistent_set (frozen : Bool) (items : List Value) : (set frozen items).Consistent := by
  constructor
  · intro right before
    rcases before_set_iff.mp before with ⟨_, others, rfl, fewer, _⟩
    apply Bool.eq_false_iff.mpr
    intro equal
    rcases same_set_iff.mp equal with ⟨_, _, same, lengths, _⟩
    cases same
    omega
  · intro middle right equal before
    rcases same_set_iff.mp equal with ⟨_, others, rfl, lengths, among⟩
    rcases before_set_iff.mp before with ⟨_, thirds, rfl, fewer, among'⟩
    exact before_set_iff.mpr ⟨_, thirds, rfl, by omega, among_trans among among'⟩
  · intro middle right before equal
    rcases before_set_iff.mp before with ⟨_, others, rfl, fewer, among⟩
    rcases same_set_iff.mp equal with ⟨_, thirds, rfl, lengths, among'⟩
    exact before_set_iff.mpr ⟨_, thirds, rfl, by omega, among_trans among among'⟩
  · intro middle right before after
    rcases before_set_iff.mp before with ⟨_, others, rfl, fewer, among⟩
    rcases before_set_iff.mp after with ⟨_, thirds, rfl, fewer', among'⟩
    exact before_set_iff.mpr ⟨_, thirds, rfl, by omega, among_trans among among'⟩

theorem consistent_of_rank? {value : Value} {rank : Rank} (placed : value.rank? = some rank) :
    value.Consistent := by
  constructor
  · intro right before
    rcases below_of_before placed before with ⟨rank', placed', below⟩
    apply Bool.eq_false_iff.mpr
    intro equal
    rw [rank?_eq_of_same equal, placed'] at placed
    cases placed
    exact rank.below_irrefl below
  · intro middle right equal before
    have placed' := (rank?_eq_of_same equal).symm.trans placed
    rcases below_of_before placed' before with ⟨rank', shown, below⟩
    exact before_of_below placed shown below
  · intro middle right before equal
    rcases below_of_before placed before with ⟨rank', placed', below⟩
    exact before_of_below placed ((rank?_eq_of_same equal).symm.trans placed') below
  · intro middle right before after
    rcases below_of_before placed before with ⟨rank', placed', below⟩
    rcases below_of_before placed' after with ⟨rank'', placed'', below'⟩
    exact before_of_below placed placed'' (below.trans below')

/-- A value that is before no other one, as those that are equal to it. -/
theorem consistent_of_last {value : Value} (last : ∀ right, ¬ Before value right)
    (equally : ∀ middle right, same value middle = true → ¬ Before middle right) :
    value.Consistent where
  differs before := absurd before (last _)
  before_of_same equal before := absurd before (equally _ _ equal)
  before_same before _ := absurd before (last _)
  trans before _ := absurd before (last _)

theorem consistent_record (type : String) (fields : List (String × Value)) :
    (record type fields).Consistent := by
  have last (others : List (String × Value)) (right : Value) :
      ¬ Before (record type others) right := by
    intro before
    rcases before_cases before with ⟨_, _, equal⟩ | ⟨_, _, equal⟩ | ⟨_, _, placed, _⟩
    · cases equal
    · cases equal
    · cases placed
  apply consistent_of_last
  · exact last fields
  · intro middle right equal
    rcases same_record_iff.mp equal with ⟨others, rfl, _⟩
    exact last others right

/-- The order of values agrees with their equality, and is transitive. -/
theorem consistent (value : Value) : value.Consistent := by
  -- only arrays need their parts: a set is before another one by equality and size alone
  induction value using induction_on_parts with
  | step value ih =>
      cases placed : value.rank? with
      | some rank => exact consistent_of_rank? placed
      | none =>
          cases value with
          | array frozen items => exact consistent_array frozen ih
          | set frozen items => exact consistent_set frozen items
          | record type fields => exact consistent_record type fields
          | _ =>
              apply consistent_of_last
              · intro right before
                rcases before_cases before with ⟨_, _, equal⟩ | ⟨_, _, equal⟩ | ⟨_, _, shown, _⟩
                · cases equal
                · cases equal
                · cases placed.symm.trans shown
              · intro middle right equal
                simp only [same] at equal
                rcases sameScalar_iff.mp equal with ⟨_, shown, _⟩
                cases placed.symm.trans shown

theorem Before.trans (first : Before left middle) (second : Before middle right) :
    Before left right :=
  (consistent left).trans first second

theorem not_beforeAll_self {items : List Value} (each : ∀ item ∈ items, ¬ Before item item) :
    ¬ BeforeAll items items := by
  induction items with
  | nil => nofun
  | cons item items ih =>
      intro before
      cases before with
      | here before => exact each item List.mem_cons_self before
      | later _ rest =>
          apply ih _ rest
          intro other member
          exact each other (List.mem_cons_of_mem _ member)

theorem before_irrefl (value : Value) : ¬ Before value value := by
  induction value using induction_on_parts with
  | step value ih =>
      intro before
      rcases before_cases before with
        ⟨frozen, items, rfl⟩ | ⟨frozen, items, rfl⟩ | ⟨rank, _, placed, placed', below⟩
      · rcases before_array_iff.mp before with ⟨_, same, less⟩
        cases same
        exact not_beforeAll_self ih less
      · rcases before_set_iff.mp before with ⟨_, _, same, fewer, _⟩
        cases same
        exact Nat.lt_irrefl _ fewer
      · cases placed.symm.trans placed'
        exact rank.below_irrefl below

end Value

end Typeset

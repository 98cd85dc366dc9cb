import Typeset.Proofs.Number.Quantity
import Typeset.Value

/-!
# Values without parts

Values without parts are compared by what they stand for, each kind for itself: numbers of all
types by quantity, texts and bytes at their first difference, days and times by their succession,
and instants in universal time unless their clocks are left open. Two of them are equal if they
stand for the same.
-/

namespace Typeset

namespace Value

/-- What a value without parts is compared by. -/
inductive Rank where
  | nothing
  | number (number : WithBot (WithTop Rat))
  | text (string : String)
  | bytes (content : Bytes)
  | member (type name : String)
  | date (day : Date)
  | time (clock : TimeOfDay)
  /-- An instant on a clock that is left open. -/
  | openInstant (moment : Moment)
  /-- An instant in universal time. -/
  | knownInstant (count : Int)

/-- One of two of a kind is before the other; members of enumerations have no order. -/
inductive Rank.Below : Rank → Rank → Prop
  | number {left right : WithBot (WithTop Rat)} (less : left < right) :
      Below (.number left) (.number right)
  | text {left right : String} (less : left < right) : Below (.text left) (.text right)
  | bytes {left right : Bytes} (less : left < right) : Below (.bytes left) (.bytes right)
  | date {left right : Date} (less : left.dayNumber < right.dayNumber) :
      Below (.date left) (.date right)
  | time {left right : TimeOfDay} (less : left.microseconds < right.microseconds) :
      Below (.time left) (.time right)
  | openInstant {left right : Moment} (less : left.microseconds < right.microseconds) :
      Below (.openInstant left) (.openInstant right)
  | knownInstant {left right : Int} (less : left < right) :
      Below (.knownInstant left) (.knownInstant right)

theorem Rank.below_irrefl (rank : Rank) : ¬ rank.Below rank := by
  intro below
  cases below with
  | text less => exact String.lt_irrefl _ less
  | bytes less => exact List.lt_irrefl _ less
  | _ less => exact lt_irrefl _ less

theorem Rank.Below.trans {first second third : Rank} (before : first.Below second)
    (after : second.Below third) : first.Below third := by
  cases before with
  | number less => cases after with | number less' => exact .number (lt_trans less less')
  | text less => cases after with | text less' => exact .text (String.lt_trans less less')
  | bytes less => cases after with | bytes less' => exact .bytes (List.lt_trans less less')
  | date less => cases after with | date less' => exact .date (lt_trans less less')
  | time less => cases after with | time less' => exact .time (lt_trans less less')
  | openInstant less =>
      cases after with | openInstant less' => exact .openInstant (lt_trans less less')
  | knownInstant less =>
      cases after with | knownInstant less' => exact .knownInstant (lt_trans less less')

/-- What a value is compared by that is neither a number nor a text. -/
def otherRank? : Value → Option Rank
  | .nothing => some .nothing
  | .bytes content => some (.bytes content)
  | .member type name _ => some (.member type name)
  | .date day => some (.date day)
  | .time clock => some (.time clock)
  | .instant ⟨moment, none⟩ => some (.openInstant moment)
  | .instant ⟨moment, some offset⟩ => some (.knownInstant (moment.microseconds - offset))
  | _ => none

/-- What a value is compared by: nothing for what is no number, and for values with parts. -/
def rank? (value : Value) : Option Rank :=
  match value.quantity?, value.text? with
  | some quantity, _ => quantity.number?.map .number
  | none, some string => some (.text string)
  | none, none => value.otherRank?

variable {left right : Value}

theorem proper_of_quantity? {value : Value} {quantity : Number.Quantity}
    (given : value.quantity? = some quantity) : quantity.Proper := by
  cases value with
  | bool flag =>
      cases given
      exact Number.Quantity.proper_ofInt _
  | int number =>
      cases given
      exact Number.Quantity.proper_ofInt number
  | float number =>
      cases given
      exact Number.Quantity.proper_ofBinary64 number
  | decimal number =>
      cases given
      exact Number.Quantity.proper_ofDecimal number
  | _ => cases given

theorem quantity?_of_text? {value : Value} {string : String} (given : value.text? = some string) :
    value.quantity? = none := by
  cases value with
  | text _ => rfl
  | standard _ => rfl
  | _ => cases given

theorem rank?_of_quantity? {value : Value} {quantity : Number.Quantity}
    (given : value.quantity? = some quantity) : value.rank? = quantity.number?.map .number := by
  rw [rank?, given]

theorem rank?_of_text? {value : Value} {string : String} (given : value.text? = some string) :
    value.rank? = some (.text string) := by
  rw [rank?, quantity?_of_text? given, given]

theorem otherRank?_ne {value : Value} {rank : Rank} (placed : value.otherRank? = some rank) :
    (∀ number, rank ≠ .number number) ∧ ∀ string, rank ≠ .text string := by
  unfold otherRank? at placed
  split at placed <;> cases placed <;> exact ⟨nofun, nofun⟩

theorem rank?_cases {value : Value} {rank : Rank} (placed : value.rank? = some rank) :
    (∃ quantity number, value.quantity? = some quantity ∧ quantity.number? = some number ∧
      rank = .number number) ∨
    (∃ string, value.text? = some string ∧ rank = .text string) ∨
    value.otherRank? = some rank := by
  unfold rank? at placed
  split at placed
  · next quantity shown =>
      rcases Option.map_eq_some_iff.mp placed with ⟨number, amounts, same⟩
      exact .inl ⟨quantity, number, shown, amounts, same.symm⟩
  · next string _ shown =>
      cases placed
      exact .inr (.inl ⟨string, shown, rfl⟩)
  · exact .inr (.inr placed)

/-- What is compared as a number is one. -/
theorem quantity?_of_rank? {value : Value} {number : WithBot (WithTop Rat)}
    (placed : value.rank? = some (.number number)) :
    ∃ quantity, value.quantity? = some quantity ∧ quantity.number? = some number := by
  rcases rank?_cases placed with ⟨quantity, _, shown, amounts, equal⟩ | ⟨_, _, equal⟩ | other
  · cases equal
    exact ⟨quantity, shown, amounts⟩
  · cases equal
  · exact absurd rfl ((otherRank?_ne other).1 number)

/-- What is compared as a text is one. -/
theorem text?_of_rank? {value : Value} {string : String}
    (placed : value.rank? = some (.text string)) : value.text? = some string := by
  rcases rank?_cases placed with ⟨_, _, _, _, equal⟩ | ⟨_, shown, equal⟩ | other
  · cases equal
  · cases equal
    exact shown
  · exact absurd rfl ((otherRank?_ne other).2 string)

theorem otherRank?_of_rank? {value : Value} {rank : Rank} (placed : value.rank? = some rank)
    (noNumber : ∀ number, rank ≠ .number number) (noText : ∀ string, rank ≠ .text string) :
    value.otherRank? = some rank := by
  rcases rank?_cases placed with ⟨_, number, _, _, equal⟩ | ⟨string, _, equal⟩ | other
  · exact absurd equal (noNumber number)
  · exact absurd equal (noText string)
  · exact other

theorem isUndefined_of_number? {value : Value} {quantity : Number.Quantity}
    {number : WithBot (WithTop Rat)} (shown : value.quantity? = some quantity)
    (amounts : quantity.number? = some number) : value.isUndefined = false := by
  cases value with
  | decimal decimal =>
      cases decimal with
      | notANumber negative signals payload =>
          cases shown
          cases amounts
      | _ => rfl
  | _ => rfl

theorem isBeforeBytes_iff {left right : Bytes} :
    isBeforeBytes left right = true ↔ left < right := by
  induction left generalizing right with
  | nil => cases right <;> simp [isBeforeBytes]
  | cons byte left ih =>
      cases right with
      | nil => simp [isBeforeBytes]
      | cons byte' right =>
          rw [isBeforeBytes, List.cons_lt_cons_iff]
          split
          · next same => simp [same, ih]
          · next different => simp [different]

theorem rank?_of_sameScalar (equal : sameScalar left right = true) :
    ∃ rank, left.rank? = some rank ∧ right.rank? = some rank := by
  unfold sameScalar at equal
  split at equal
  · next quantity quantity' first second =>
      rcases (Number.Quantity.same_iff (proper_of_quantity? first)
        (proper_of_quantity? second)).mp equal with ⟨number, shown, shown'⟩
      rw [rank?_of_quantity? first, rank?_of_quantity? second, shown, shown']
      exact ⟨_, rfl, rfl⟩
  · next string string' first second _ =>
      rw [rank?_of_text? first, rank?_of_text? second, beq_iff_eq.mp equal]
      exact ⟨_, rfl, rfl⟩
  · split at equal
    · exact ⟨_, rfl, rfl⟩
    · rw [beq_iff_eq.mp equal]
      exact ⟨_, rfl, rfl⟩
    · rw [Bool.and_eq_true, beq_iff_eq, beq_iff_eq] at equal
      rw [equal.1, equal.2]
      exact ⟨_, rfl, rfl⟩
    · rw [beq_iff_eq.mp equal]
      exact ⟨_, rfl, rfl⟩
    · rw [beq_iff_eq.mp equal]
      exact ⟨_, rfl, rfl⟩
    · next moment moment' _ _ =>
        rcases moment with ⟨moment, _ | offset⟩ <;> rcases moment' with ⟨moment', _ | offset'⟩
        · rw [show moment = moment' from beq_iff_eq.mp equal]
          exact ⟨_, rfl, rfl⟩
        · cases equal
        · cases equal
        · exact ⟨_, rfl, congrArg (some ∘ Rank.knownInstant) (beq_iff_eq.mp equal).symm⟩
    · cases equal

theorem sameScalar_of_rank? {rank : Rank} (first : left.rank? = some rank)
    (second : right.rank? = some rank) : sameScalar left right = true := by
  cases rank with
  | number number =>
      rcases quantity?_of_rank? first with ⟨quantity, shown, amounts⟩
      rcases quantity?_of_rank? second with ⟨quantity', shown', amounts'⟩
      have equal := (Number.Quantity.same_iff (proper_of_quantity? shown)
        (proper_of_quantity? shown')).mpr ⟨number, amounts, amounts'⟩
      simp [sameScalar, shown, shown', equal]
  | text string =>
      simp [sameScalar, text?_of_rank? first, text?_of_rank? second,
        quantity?_of_text? (text?_of_rank? first)]
  | knownInstant count =>
      have other := otherRank?_of_rank? first nofun nofun
      have other' := otherRank?_of_rank? second nofun nofun
      unfold otherRank? at other other'
      -- the counts may be one although the moments and the offsets are not
      split at other <;>
        simp only [Option.some.injEq, Rank.knownInstant.injEq, reduceCtorEq] at other
      split at other' <;>
        simp only [Option.some.injEq, Rank.knownInstant.injEq, reduceCtorEq] at other'
      simp [sameScalar, quantity?, text?, sameInstant, other, other']
  | _ =>
      have other := otherRank?_of_rank? first nofun nofun
      have other' := otherRank?_of_rank? second nofun nofun
      unfold otherRank? at other other'
      split at other <;> cases other
      split at other' <;> cases other'
      simp [sameScalar, quantity?, text?, sameInstant]

/-- Two values without parts are equal exactly if they are compared by the same. -/
theorem sameScalar_iff :
    sameScalar left right = true ↔ ∃ rank, left.rank? = some rank ∧ right.rank? = some rank :=
  ⟨rank?_of_sameScalar, fun ⟨_, first, second⟩ => sameScalar_of_rank? first second⟩

/-- What is before another value without parts is so by what the two are compared by. -/
theorem below_of_isBeforeScalar (before : isBeforeScalar left right = .ok true) :
    ∃ rank rank', left.rank? = some rank ∧ right.rank? = some rank' ∧ rank.Below rank' := by
  unfold isBeforeScalar at before
  split at before
  · next quantity quantity' first second =>
      split at before
      · cases before
      · rcases (Number.Quantity.isBelow_iff (proper_of_quantity? first)
          (proper_of_quantity? second)).mp (Except.ok.inj before) with
          ⟨number, number', shown, shown', less⟩
        rw [rank?_of_quantity? first, rank?_of_quantity? second, shown, shown']
        exact ⟨_, _, rfl, rfl, .number less⟩
  · next string string' first second _ =>
      rw [rank?_of_text? first, rank?_of_text? second]
      exact ⟨_, _, rfl, rfl, .text (of_decide_eq_true (Except.ok.inj before))⟩
  · split at before
    · exact ⟨_, _, rfl, rfl, .bytes (isBeforeBytes_iff.mp (Except.ok.inj before))⟩
    · exact ⟨_, _, rfl, rfl, .date (of_decide_eq_true (Except.ok.inj before))⟩
    · exact ⟨_, _, rfl, rfl, .time (of_decide_eq_true (Except.ok.inj before))⟩
    · next moment moment' _ _ =>
        rcases moment with ⟨moment, _ | offset⟩ <;> rcases moment' with ⟨moment', _ | offset'⟩
        · exact ⟨_, _, rfl, rfl, .openInstant (of_decide_eq_true (Except.ok.inj before))⟩
        · cases before
        · cases before
        · exact ⟨_, _, rfl, rfl, .knownInstant (of_decide_eq_true (Except.ok.inj before))⟩
    · cases before

theorem isBeforeScalar_of_below {rank rank' : Rank} (first : left.rank? = some rank)
    (second : right.rank? = some rank') (below : rank.Below rank') :
    isBeforeScalar left right = .ok true ∧ isBeforeScalar right left = .ok false := by
  cases below with
  | number less =>
      rcases quantity?_of_rank? first with ⟨quantity, shown, amounts⟩
      rcases quantity?_of_rank? second with ⟨quantity', shown', amounts'⟩
      have ordered := (Number.Quantity.isBelow_iff (proper_of_quantity? shown)
        (proper_of_quantity? shown')).mpr ⟨_, _, amounts, amounts', less⟩
      have unordered : quantity'.isBelow quantity = false := by
        apply Bool.eq_false_iff.mpr
        intro above
        rcases (Number.Quantity.isBelow_iff (proper_of_quantity? shown')
          (proper_of_quantity? shown)).mp above with ⟨_, _, same, same', more⟩
        cases same.symm.trans amounts'
        cases same'.symm.trans amounts
        exact lt_asymm less more
      simp [isBeforeScalar, shown, shown', isUndefined_of_number? shown amounts,
        isUndefined_of_number? shown' amounts', ordered, unordered]
  | text less =>
      have shown := text?_of_rank? first
      have shown' := text?_of_rank? second
      simp only [isBeforeScalar, shown, shown', quantity?_of_text? shown, quantity?_of_text? shown']
      exact ⟨congrArg Except.ok (decide_eq_true less),
        congrArg Except.ok (decide_eq_false (String.lt_asymm less))⟩
  | bytes less =>
      have other := otherRank?_of_rank? first nofun nofun
      have other' := otherRank?_of_rank? second nofun nofun
      unfold otherRank? at other other'
      split at other <;> cases other
      split at other' <;> cases other'
      have behind := Bool.eq_false_iff.mpr fun more =>
        List.lt_asymm less (isBeforeBytes_iff.mp more)
      simp [isBeforeScalar, quantity?, text?, isBeforeBytes_iff.mpr less, behind]
  | _ less =>
      have other := otherRank?_of_rank? first nofun nofun
      have other' := otherRank?_of_rank? second nofun nofun
      unfold otherRank? at other other'
      split at other <;> cases other
      split at other' <;> cases other'
      simp [isBeforeScalar, quantity?, text?, isBeforeDate, isBeforeInstant, less, less.le]

end Value

end Typeset

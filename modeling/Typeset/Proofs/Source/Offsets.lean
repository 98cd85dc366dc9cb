import Typeset.Proofs.Source.Edits

/-!
# Offsets and positions

The line of an offset is the number of breaks that end there or before, and its column the
number of characters between the start of this line and the offset. A later offset is on a
later line, or behind more characters of the same one, so no two offsets have the same
position, and positions are in the order of the offsets.
-/

namespace Typeset

open Text

namespace LineIndex

variable {bytes : Bytes}

theorem breaksUpTo_mono {early late : Nat} (order : early ≤ late) :
    breaksUpTo bytes early ≤ breaksUpTo bytes late := by
  have fewer : (List.range (early + 1)).Sublist (List.range (late + 1)) :=
    List.range_sublist.mpr (by omega)
  exact fewer.countP_le

theorem length_takeWhile_of_getElem? {starts : List Nat} (ascending : starts.Pairwise (· < ·))
    {line start : Nat} (found : starts[line]? = some start) :
    (starts.takeWhile (· ≤ start)).length = line + 1 := by
  induction ascending generalizing line with
  | nil => cases found
  | @cons first starts later _ ih =>
      cases line with
      | zero =>
          cases found
          cases starts with
          | nil => simp
          | cons next rest =>
              have behind : ¬next ≤ start := by
                have := later next List.mem_cons_self
                omega
              simp [behind]
      | succ line =>
          have inside := later start (List.mem_of_getElem? found)
          have kept : first ≤ start := by omega
          simp [kept, ih found]

/-- Before and at the start of a line, as many breaks end as lines stand before it. -/
theorem breaksUpTo_of_getElem? {line start : Nat} (found : (build bytes)[line]? = some start) :
    breaksUpTo bytes start = line := by
  have counted := length_takeWhile_of_getElem? (pairwise_build bytes) found
  rw [build, List.takeWhile_cons_of_pos (by simp), List.length_cons,
    length_takeWhile_scan] at counted
  omega

end LineIndex

namespace Source

variable {source : Source} {offset : Int}

/-- The line and the column of an offset, when both are known. -/
def position? (source : Source) (offset : Int) : Option (Nat × Nat) := do
  return (← source.lineOf? offset, ← source.columnOf? offset)

/-- An offset lies so many characters behind the start of a line. -/
def LiesAt (source : Source) (offset : Int) (line column : Nat) : Prop :=
  ∃ before after, source.text.toList = before ++ after ∧
    source.startOf? line = some (Utf8.length before) ∧ column ≤ after.length ∧
    offset = Utf8.length before + Utf8.length (after.take column)

theorem WellFormed.lineOf?_eq (wellFormed : source.WellFormed) :
    source.lineOf? offset =
      if 0 ≤ offset ∧ offset ≤ source.byteCount then
        some (LineIndex.breaksUpTo source.bytes offset.toNat)
      else none := by
  rw [lineOf?, wellFormed.lineStarts_eq, LineIndex.build, List.takeWhile_cons_of_pos (by simp),
    List.length_cons, LineIndex.length_takeWhile_scan, Nat.add_sub_cancel]

theorem WellFormed.lineOf?_eq_some_iff (wellFormed : source.WellFormed) {line : Nat} :
    source.lineOf? offset = some line ↔
      (0 ≤ offset ∧ offset ≤ source.byteCount) ∧
        LineIndex.breaksUpTo source.bytes offset.toNat = line := by
  rw [wellFormed.lineOf?_eq, Option.ite_none_right_eq_some, Option.some.injEq]

theorem startOf?_natCast (source : Source) (line : Nat) :
    source.startOf? line = source.lineStarts[line]? := by
  simp [startOf?]

/-- Every line that is the line of an offset starts somewhere. -/
theorem WellFormed.startOf?_of_lineOf? (wellFormed : source.WellFormed) {line : Nat}
    (known : source.lineOf? offset = some line) :
    source.startOf? line = some (source.lineStarts.getD line 0) := by
  have starts : source.lineStarts = 0 :: LineIndex.scan 0 source.bytes := wellFormed.lineStarts_eq
  have enough : line < source.lineStarts.length := by
    rw [← (wellFormed.lineOf?_eq_some_iff.mp known).2, ← LineIndex.length_takeWhile_scan, starts,
      List.length_cons, Nat.lt_succ_iff]
    exact (List.takeWhile_sublist _).length_le
  rw [startOf?_natCast, List.getD_eq_getElem?_getD, List.getElem?_eq_getElem enough,
    Option.getD_some]

/-- The column of an offset counts the characters behind the start of its line. -/
theorem WellFormed.liesAt_of_columnOf? (wellFormed : source.WellFormed) {column : Nat}
    (known : source.columnOf? offset = some column) :
    ∃ line, source.lineOf? offset = some line ∧ source.LiesAt offset line column := by
  cases onLine : source.lineOf? offset with
  | none =>
      simp only [columnOf?, onLine, Option.bind_eq_bind, Option.bind_none] at known
      cases known
  | some line =>
      rcases wellFormed.start_of_lineOf? onLine with ⟨order, start⟩
      rcases (wellFormed.lineOf?_eq_some_iff.mp onLine).1 with ⟨positive, inside⟩
      rw [wellFormed.byteCount_eq] at inside
      have begins := wellFormed.startOf?_of_lineOf? onLine
      simp only [columnOf?, onLine, Option.bind_eq_bind, Option.bind_some,
        Option.bind_eq_some_iff, wellFormed.bytes_eq] at known
      rcases known with ⟨between, read, counted⟩
      cases counted
      have boundary := (Utf8.decode?_eq_some_iff_boundary start order (by omega)).mp ⟨between, read⟩
      rcases start.split boundary order with ⟨before, within, after, split, first, second⟩
      have same : within = between := by
        rw [split, first, second, Utf8.encode_between, Utf8.decode?_encode] at read
        exact Option.some.inj read
      rw [first] at begins
      refine ⟨line, rfl, before, within ++ after, ?_, begins, ?_, ?_⟩
      · rw [split, List.append_assoc]
      · rw [← same, List.length_append]
        omega
      · rw [← same, List.take_left]
        rw [Utf8.length_append] at second
        omega

/-- On one line a later offset is behind more characters. -/
theorem LiesAt.lt_of_lt {early late : Int} {line left right : Nat}
    (first : source.LiesAt early line left) (second : source.LiesAt late line right)
    (order : early < late) : left < right := by
  rcases first with ⟨before, after, split, begins, _, stands⟩
  rcases second with ⟨front, back, parts, starts, _, falls⟩
  have lengths := Option.some.inj (begins.symm.trans starts)
  rcases Utf8.append_inj (split.symm.trans parts) lengths with ⟨rfl, rfl⟩
  apply Nat.lt_of_not_le
  intro fewer
  have := Utf8.length_take_mono after fewer
  omega

theorem position?_eq_some_iff {position : Nat × Nat} :
    source.position? offset = some position ↔
      source.lineOf? offset = some position.1 ∧ source.columnOf? offset = some position.2 := by
  rcases position with ⟨line, column⟩
  simp only [position?, Option.bind_eq_bind, Option.bind_eq_some_iff, Option.pure_def,
    Option.some.injEq, Prod.mk.injEq]
  constructor
  · rintro ⟨_, onLine, _, inColumn, rfl, rfl⟩
    exact ⟨onLine, inColumn⟩
  · rintro ⟨onLine, inColumn⟩
    exact ⟨_, onLine, _, inColumn, rfl, rfl⟩

/-- A position stands on an earlier line than another one, or before it on the same line. -/
def Precedes (first second : Nat × Nat) : Prop :=
  first.1 < second.1 ∨ first.1 = second.1 ∧ first.2 < second.2

theorem WellFormed.precedes_of_lt (wellFormed : source.WellFormed) {early late : Int}
    {first second : Nat × Nat} (earlyAt : source.position? early = some first)
    (lateAt : source.position? late = some second) (order : early < late) :
    Precedes first second := by
  rcases position?_eq_some_iff.mp earlyAt with ⟨onFirst, inFirst⟩
  rcases position?_eq_some_iff.mp lateAt with ⟨onSecond, inSecond⟩
  rcases wellFormed.liesAt_of_columnOf? inFirst with ⟨line, same, lies⟩
  cases onFirst.symm.trans same
  rcases wellFormed.liesAt_of_columnOf? inSecond with ⟨line, same, follows⟩
  cases onSecond.symm.trans same
  have breaksBefore := (wellFormed.lineOf?_eq_some_iff.mp onFirst).2
  have breaksAfter := (wellFormed.lineOf?_eq_some_iff.mp onSecond).2
  have more : LineIndex.breaksUpTo source.bytes early.toNat ≤
      LineIndex.breaksUpTo source.bytes late.toNat := LineIndex.breaksUpTo_mono (by omega)
  rcases Nat.lt_or_eq_of_le more with above | level
  · exact .inl (by omega)
  · rw [breaksBefore, breaksAfter] at level
    rw [← level] at follows
    exact .inr ⟨level, lies.lt_of_lt follows order⟩

/-- The order of positions is that of the offsets. -/
theorem WellFormed.lt_iff_precedes (wellFormed : source.WellFormed) {early late : Int}
    {first second : Nat × Nat} (earlyAt : source.position? early = some first)
    (lateAt : source.position? late = some second) :
    (early < late ↔ Precedes first second) ∧ (early = late ↔ first = second) := by
  have forward := wellFormed.precedes_of_lt earlyAt lateAt
  have backward := wellFormed.precedes_of_lt lateAt earlyAt
  have level : early = late → first = second := by
    rintro rfl
    exact Option.some.inj (earlyAt.symm.trans lateAt)
  rcases first with ⟨line, column⟩
  rcases second with ⟨otherLine, otherColumn⟩
  simp only [Precedes, Prod.mk.injEq] at forward backward level ⊢
  omega

theorem WellFormed.exists_columnOf?_iff (wellFormed : source.WellFormed) :
    (∃ column, source.columnOf? offset = some column) ↔
      (0 ≤ offset ∧ offset ≤ source.byteCount) ∧
        Utf8.Boundary source.text.toList offset.toNat := by
  rw [← Option.isSome_iff_exists, Option.isSome_iff_ne_none, ne_eq,
    wellFormed.columnOf?_eq_none_iff]
  simp only [not_or, not_lt, not_not, and_assoc]

/-- A line starts in its first column. -/
theorem WellFormed.position?_of_startOf? (wellFormed : source.WellFormed) {line : Int}
    {start : Nat} (begins : source.startOf? line = some start) :
    source.position? start = some (line.toNat, 0) := by
  simp only [startOf?, Option.ite_none_right_eq_some, wellFormed.lineStarts_eq] at begins
  rcases begins with ⟨positive, found⟩
  have boundary := List.mem_of_getElem? found
  rw [wellFormed.bytes_eq] at boundary
  have inside := (LineIndex.boundary_of_mem_build boundary).le_length
  rw [← wellFormed.byteCount_eq] at inside
  have onLine : source.lineOf? start = some line.toNat := by
    rw [wellFormed.lineOf?_eq_some_iff, Int.toNat_natCast]
    exact ⟨by omega, LineIndex.breaksUpTo_of_getElem? found⟩
  rw [position?_eq_some_iff]
  refine ⟨onLine, ?_⟩
  have starts : source.lineStarts.getD line.toNat 0 = start := by
    rw [List.getD_eq_getElem?_getD, wellFormed.lineStarts_eq, found, Option.getD_some]
  simp only [columnOf?, onLine, Option.bind_eq_bind, Option.bind_some, starts, Int.toNat_natCast,
    List.drop_take_self]
  rfl

/--
An offset has a line within the text, which is the number of breaks that end there or
before, and a column where it splits no character. Then it lies as many characters behind
the start of its line as its column says. Different offsets have different positions, in
the same order. Every line starts at a position of its own, in the first column.
-/
theorem offsets_correspond_to_positions (id : FileId) (text : String) (changes : List Change) :
    let source := (ofText id text).afterChanges changes
    (∀ offset,
      ((∃ line, source.lineOf? offset = some line) ↔ 0 ≤ offset ∧ offset ≤ source.byteCount) ∧
      (∀ line, source.lineOf? offset = some line →
        line = LineIndex.breaksUpTo source.bytes offset.toNat) ∧
      ((∃ column, source.columnOf? offset = some column) ↔
        (0 ≤ offset ∧ offset ≤ source.byteCount) ∧
          Utf8.Boundary source.text.toList offset.toNat) ∧
      ∀ column, source.columnOf? offset = some column →
        ∃ line, source.lineOf? offset = some line ∧ source.LiesAt offset line column) ∧
    (∀ early late first second, source.position? early = some first →
      source.position? late = some second →
      (early < late ↔ Precedes first second) ∧ (early = late ↔ first = second)) ∧
    ∀ line,
      ((∃ start, source.startOf? line = some start) ↔
        0 ≤ line ∧ line < source.lineStarts.length) ∧
      ∀ start, source.startOf? line = some start →
        source.position? start = some (line.toNat, 0) := by
  intro source
  have wellFormed : source.WellFormed := (wellFormed_ofText id text).afterChanges changes
  refine ⟨?_, fun _ _ _ _ earlyAt lateAt => wellFormed.lt_iff_precedes earlyAt lateAt, ?_⟩
  · intro offset
    refine ⟨?_, ?_, wellFormed.exists_columnOf?_iff, fun _ => wellFormed.liesAt_of_columnOf?⟩
    · simp only [wellFormed.lineOf?_eq_some_iff, exists_and_left, exists_eq', and_true]
    · intro line onLine
      exact (wellFormed.lineOf?_eq_some_iff.mp onLine).2.symm
  · intro line
    refine ⟨?_, fun _ => wellFormed.position?_of_startOf?⟩
    simp only [startOf?, Option.ite_none_right_eq_some, exists_and_left, ← Option.isSome_iff_exists]
    rw [isSome_getElem?]
    omega

end Source

end Typeset

import Typeset.Proofs.Source.WellFormed

/-!
# Positions in a source

A line starts behind a byte that is a character of its own, so no line start splits a
character. The line of an offset is therefore known within the text, and its column
where moreover the offset splits no character.
-/

namespace Typeset

open Text

namespace LineIndex

/-- Every line but the first starts behind a carriage return or a line feed. -/
theorem exists_break_of_mem_scan {offset : Nat} {bytes : Bytes} {start : Nat}
    (member : start ∈ scan offset bytes) :
    ∃ left ender right, bytes = left ++ ender :: right ∧ (ender = 13 ∨ ender = 10) ∧
      start = offset + (left.length + 1) := by
  fun_induction scan offset bytes with
  | case1 => cases member
  | case2 offset rest ih =>
      rcases List.mem_cons.mp member with rfl | later
      · exact ⟨[13], 10, rest, rfl, .inr rfl, rfl⟩
      · rcases ih later with ⟨left, ender, right, rfl, ends, rfl⟩
        refine ⟨13 :: 10 :: left, ender, right, rfl, ends, ?_⟩
        simp only [List.length_cons]
        omega
  | case3 offset byte rest _ ends ih =>
      rcases List.mem_cons.mp member with rfl | later
      · exact ⟨[], byte, rest, rfl, ends, rfl⟩
      · rcases ih later with ⟨left, ender, right, rfl, ends', rfl⟩
        refine ⟨byte :: left, ender, right, rfl, ends', ?_⟩
        simp only [List.length_cons]
        omega
  | case4 offset byte rest _ _ ih =>
      rcases ih member with ⟨left, ender, right, rfl, ends, rfl⟩
      refine ⟨byte :: left, ender, right, rfl, ends, ?_⟩
      simp only [List.length_cons]
      omega

/-- No line start splits a character. -/
theorem boundary_of_mem_build {chars : List Char} {start : Nat}
    (member : start ∈ build (Utf8.encode chars)) : Utf8.Boundary chars start := by
  rcases List.mem_cons.mp member with rfl | later
  · exact ⟨[], chars, rfl, rfl⟩
  · rcases exists_break_of_mem_scan later with ⟨left, ender, right, split, ends, rfl⟩
    rw [Nat.zero_add]
    apply Utf8.boundary_of_small split
    rcases ends with rfl | rfl <;> decide

end LineIndex

namespace Source

variable {source : Source} {offset : Int}

theorem lineOf?_eq_none_iff :
    source.lineOf? offset = none ↔ offset < 0 ∨ source.byteCount < offset := by
  simp only [lineOf?]
  split
  · next inside =>
      simp only [reduceCtorEq, false_iff]
      omega
  · next outside =>
      simp only [true_iff]
      omega

theorem WellFormed.byteCount_eq (wellFormed : source.WellFormed) :
    source.byteCount = Utf8.length source.text.toList := by
  simp only [byteCount, wellFormed.bytes_eq, Utf8.length]

/-- The line of an offset starts at the offset or before it, and at a boundary. -/
theorem WellFormed.start_of_lineOf? (wellFormed : source.WellFormed) {line : Nat}
    (known : source.lineOf? offset = some line) :
    source.lineStarts.getD line 0 ≤ offset.toNat ∧
      Utf8.Boundary source.text.toList (source.lineStarts.getD line 0) := by
  simp only [lineOf?] at known
  split at known
  · cases known
    have starts : source.lineStarts = 0 :: LineIndex.scan 0 source.bytes := wellFormed.lineStarts_eq
    let kept := source.lineStarts.takeWhile fun start => decide (start ≤ offset.toNat)
    have nonempty : kept ≠ [] := by
      simp [kept, starts]
    have front : kept <+: source.lineStarts := List.takeWhile_prefix _
    have found : source.lineStarts[kept.length - 1]? = some (kept.getLast nonempty) := by
      have positive := List.length_pos_iff.mpr nonempty
      rw [List.getLast_eq_getElem]
      exact List.prefix_iff_getElem?.mp front _ (by omega)
    have member : kept.getLast nonempty ∈ kept := List.getLast_mem nonempty
    rw [List.getD_eq_getElem?_getD, found, Option.getD_some]
    have small := List.all_eq_true.mp List.all_takeWhile _ member
    refine ⟨of_decide_eq_true small, ?_⟩
    apply LineIndex.boundary_of_mem_build
    rw [← wellFormed.bytes_eq, ← wellFormed.lineStarts_eq]
    exact front.subset member
  · cases known

/-- A column is unknown outside of the text and inside a character, and nowhere else. -/
theorem WellFormed.columnOf?_eq_none_iff (wellFormed : source.WellFormed) :
    source.columnOf? offset = none ↔
      offset < 0 ∨ source.byteCount < offset ∨
        ¬Utf8.Boundary source.text.toList offset.toNat := by
  cases known : source.lineOf? offset with
  | none =>
      have outside := lineOf?_eq_none_iff.mp known
      simp only [columnOf?, known]
      simp only [Option.bind_eq_bind, Option.bind_none, true_iff]
      rcases outside with negative | beyond
      · exact .inl negative
      · exact .inr (.inl beyond)
  | some line =>
      have inside : ¬(offset < 0 ∨ source.byteCount < offset) := by
        rw [← lineOf?_eq_none_iff, known]
        exact Option.some_ne_none line
      rcases wellFormed.start_of_lineOf? known with ⟨order, start⟩
      have within : offset.toNat ≤ Utf8.length source.text.toList := by
        rw [← wellFormed.byteCount_eq]
        omega
      have read := Utf8.decode?_eq_some_iff_boundary start order within
      rw [← wellFormed.bytes_eq] at read
      have column : source.columnOf? offset = (Utf8.decode? ((source.bytes.take offset.toNat).drop
          (source.lineStarts.getD line 0))).map List.length := by
        simp only [columnOf?, known, Option.map_eq_bind]
        rfl
      rw [← or_assoc, or_iff_right inside, ← read, column, Option.map_eq_none_iff, not_exists]
      exact Option.eq_none_iff_forall_ne_some

end Source

end Typeset

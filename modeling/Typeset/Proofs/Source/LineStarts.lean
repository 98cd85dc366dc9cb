import Mathlib.Data.List.Sort
import Typeset.Proofs.Source.LineIndex

/-!
# What starts a line

A break ends behind a line feed, and behind a carriage return that no line feed follows.
The lines of some bytes start at zero and where a break ends, in ascending order. So the
number of starts up to an offset is one more than the number of breaks that end there or
before.
-/

namespace Typeset.LineIndex

/-- A line break of some bytes ends at an offset. -/
def EndsBreak (bytes : Bytes) : Nat → Prop
  | 0 => False
  | before + 1 =>
      bytes[before]? = some 10 ∨ bytes[before]? = some 13 ∧ bytes[before + 1]? ≠ some 10

instance (bytes : Bytes) : DecidablePred (EndsBreak bytes)
  | 0 => instDecidableFalse
  | before + 1 => inferInstanceAs <| Decidable
      (bytes[before]? = some 10 ∨ bytes[before]? = some 13 ∧ bytes[before + 1]? ≠ some 10)

/-- The number of line breaks that end at an offset or before it. -/
def breaksUpTo (bytes : Bytes) (offset : Nat) : Nat :=
  (List.range (offset + 1)).countP (EndsBreak bytes)

theorem endsBreak_cons_add_two {byte : UInt8} {bytes : Bytes} {before : Nat} :
    EndsBreak (byte :: bytes) (before + 2) ↔ EndsBreak bytes (before + 1) := by
  simp only [EndsBreak, List.getElem?_cons_succ]

theorem endsBreak_cons_one {byte : UInt8} {bytes : Bytes} :
    EndsBreak (byte :: bytes) 1 ↔ byte = 10 ∨ byte = 13 ∧ bytes.head? ≠ some 10 := by
  simp only [EndsBreak, List.getElem?_cons_zero, Option.some.injEq, Nat.zero_add,
    List.getElem?_cons_succ, List.head?_eq_getElem?]

theorem exists_endsBreak_cons {byte : UInt8} {bytes : Bytes} {offset start : Nat} :
    (∃ count, EndsBreak (byte :: bytes) count ∧ start = offset + count) ↔
      ((byte = 10 ∨ byte = 13 ∧ bytes.head? ≠ some 10) ∧ start = offset + 1) ∨
        ∃ count, EndsBreak bytes count ∧ start = offset + 1 + count := by
  constructor
  · rintro ⟨count, ends, rfl⟩
    rcases count with _ | _ | before
    · exact ends.elim
    · exact .inl ⟨endsBreak_cons_one.mp ends, rfl⟩
    · exact .inr ⟨before + 1, endsBreak_cons_add_two.mp ends, by omega⟩
  · rintro (⟨ends, rfl⟩ | ⟨count, ends, rfl⟩)
    · exact ⟨1, endsBreak_cons_one.mpr ends, rfl⟩
    · rcases count with _ | before
      · exact ends.elim
      · exact ⟨before + 2, endsBreak_cons_add_two.mpr ends, by omega⟩

/-- The scan finds every break at its end, and nothing else. -/
theorem mem_scan_iff {offset : Nat} {bytes : Bytes} {start : Nat} :
    start ∈ scan offset bytes ↔ ∃ count, EndsBreak bytes count ∧ start = offset + count := by
  fun_induction scan offset bytes with
  | case1 offset =>
      have none_ends (count : Nat) : ¬EndsBreak [] count := by
        cases count <;> simp [EndsBreak]
      simp only [List.not_mem_nil, none_ends, false_and, exists_false]
  | case2 offset rest ih =>
      rw [exists_endsBreak_cons, exists_endsBreak_cons, List.mem_cons, ih]
      simp
  | case3 offset byte rest single ends ih =>
      have alone : byte = 13 → rest.head? ≠ some 10 := by
        intro carriage feed
        rcases List.head?_eq_some_iff.mp feed with ⟨after, begins⟩
        exact single after carriage begins
      have ended : byte = 10 ∨ byte = 13 ∧ rest.head? ≠ some 10 := by
        rcases ends with carriage | feed
        · exact .inr ⟨carriage, alone carriage⟩
        · exact .inl feed
      rw [exists_endsBreak_cons, List.mem_cons, ih, and_iff_right ended]
  | case4 offset byte rest single plain ih =>
      have unended : ¬(byte = 10 ∨ byte = 13 ∧ rest.head? ≠ some 10) := by
        rintro (feed | ⟨carriage, _⟩)
        · exact plain (.inr feed)
        · exact plain (.inl carriage)
      rw [exists_endsBreak_cons, ih]
      simp only [unended, false_and, false_or]

theorem mem_build_iff {bytes : Bytes} {start : Nat} :
    start ∈ build bytes ↔ start = 0 ∨ EndsBreak bytes start := by
  simp [build, mem_scan_iff]

theorem pairwise_scan (offset : Nat) (bytes : Bytes) : (scan offset bytes).Pairwise (· < ·) := by
  fun_induction scan offset bytes with
  | case1 => exact .nil
  | case2 offset rest ih => exact .cons (fun _ member => lt_of_mem_scan member) ih
  | case3 offset byte rest _ _ ih => exact .cons (fun _ member => lt_of_mem_scan member) ih
  | case4 offset byte rest _ _ ih => exact ih

theorem pairwise_build (bytes : Bytes) : (build bytes).Pairwise (· < ·) :=
  .cons (fun _ member => lt_of_mem_scan member) (pairwise_scan 0 bytes)

/-- Of ascending offsets, those up to a limit are the first ones. -/
theorem takeWhile_eq_filter {starts : List Nat} (ascending : starts.Pairwise (· < ·))
    (limit : Nat) : starts.takeWhile (· ≤ limit) = starts.filter (· ≤ limit) := by
  induction ascending with
  | nil => rfl
  | @cons start starts later _ ih =>
      by_cases inside : start ≤ limit
      · simp [inside, ih]
      · have beyond : starts.filter (· ≤ limit) = [] := by
          rw [List.filter_eq_nil_iff]
          intro other member small
          have := later other member
          have := of_decide_eq_true small
          omega
        simp [inside, beyond]

theorem length_takeWhile_scan (bytes : Bytes) (limit : Nat) :
    ((scan 0 bytes).takeWhile (· ≤ limit)).length = breaksUpTo bytes limit := by
  rw [takeWhile_eq_filter (pairwise_scan 0 bytes), breaksUpTo, List.countP_eq_length_filter]
  have ascending : ((scan 0 bytes).filter (· ≤ limit)).Pairwise (· < ·) :=
    (pairwise_scan 0 bytes).filter _
  have counted : ((List.range (limit + 1)).filter (EndsBreak bytes)).Pairwise (· < ·) :=
    List.pairwise_lt_range.filter _
  apply congrArg
  apply ascending.eq_of_mem_iff counted
  intro start
  have within : start < limit + 1 ↔ start ≤ limit := by
    omega
  simp [mem_scan_iff, within, and_comm]

end Typeset.LineIndex

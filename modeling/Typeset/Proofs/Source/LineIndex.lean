import Typeset.Source

/-!
# Taking up the scan of lines

A scan of line starts can be taken up at any line start, and the starts below a
limit depend only on the bytes up to it: a carriage return that is the last of
these bytes may belong to either kind of break, but its line starts at the limit
or behind it. The starts that are kept before an edit and the scan that is taken
up at the last of them are therefore the line starts of the edited bytes.
-/

namespace Typeset.LineIndex

theorem lt_of_mem_scan {offset : Nat} {bytes : Bytes} {start : Nat}
    (member : start ∈ scan offset bytes) : offset < start := by
  fun_induction scan offset bytes with
  | case1 => simp at member
  | case2 offset rest ih =>
      rcases List.mem_cons.mp member with rfl | later
      · omega
      · have := ih later
        omega
  | case3 offset byte rest _ _ ih =>
      rcases List.mem_cons.mp member with rfl | later
      · omega
      · have := ih later
        omega
  | case4 offset byte rest _ _ ih =>
      have := ih member
      omega

theorem scan_cons_break {offset : Nat} {byte : UInt8} {rest : Bytes} (ends : byte = 13 ∨ byte = 10)
    (single : ∀ after, byte = 13 → rest = 10 :: after → False) :
    scan offset (byte :: rest) = (offset + 1) :: scan (offset + 1) rest := by
  simp only [scan.eq_3 _ _ _ single, if_pos ends]

theorem scan_cons_plain {offset : Nat} {byte : UInt8} {rest : Bytes}
    (plain : ¬(byte = 13 ∨ byte = 10)) :
    scan offset (byte :: rest) = scan (offset + 1) rest := by
  have single : ∀ after, byte = 13 → rest = 10 :: after → False := fun _ carriage _ =>
    plain (.inl carriage)
  simp only [scan.eq_3 _ _ _ single, if_neg plain]

/-- No line but the first starts before the first byte has ended. -/
theorem takeWhile_scan_eq_nil {offset limit : Nat} (bytes : Bytes) (small : limit ≤ offset + 1) :
    (scan offset bytes).takeWhile (· < limit) = [] := by
  cases starts : scan offset bytes with
  | nil => rfl
  | cons start _ =>
      have member : start ∈ scan offset bytes := by simp [starts]
      have := lt_of_mem_scan member
      have beyond : ¬start < limit := by omega
      simp [beyond]

theorem exists_cons_of_take_eq {byte : UInt8} {rest right : Bytes} {count : Nat}
    (agree : (byte :: rest).take (count + 1) = right.take (count + 1)) :
    ∃ after, right = byte :: after ∧ rest.take count = after.take count := by
  rcases right with _ | ⟨first, after⟩
  · simp at agree
  · simp only [List.take_succ_cons, List.cons.injEq] at agree
    rcases agree with ⟨rfl, later⟩
    exact ⟨after, rfl, later⟩

theorem takeWhile_cons_eq_nil {start limit : Nat} {starts : List Nat} (beyond : limit ≤ start) :
    (start :: starts).takeWhile (· < limit) = [] := by
  have : ¬start < limit := by omega
  simp [this]

/-- The line starts below a limit depend only on the bytes up to the limit. -/
theorem takeWhile_scan_congr (offset : Nat) {count : Nat} {left right : Bytes}
    (agree : left.take count = right.take count) :
    (scan offset left).takeWhile (· < offset + count) =
      (scan offset right).takeWhile (· < offset + count) := by
  fun_induction scan offset left generalizing right count with
  | case1 offset =>
      cases count with
      | zero => rw [takeWhile_scan_eq_nil right (by omega)]; rfl
      | succ count =>
          have empty : right = [] := by simpa using agree.symm
          simp only [empty, scan]
  | case2 offset rest ih =>
      rcases count with _ | _ | count
      · rw [takeWhile_scan_eq_nil right (by omega), takeWhile_cons_eq_nil (by omega)]
      · rw [takeWhile_scan_eq_nil right (by omega), takeWhile_cons_eq_nil (by omega)]
      · rcases exists_cons_of_take_eq agree with ⟨_, rfl, feed⟩
        rcases exists_cons_of_take_eq feed with ⟨after, rfl, later⟩
        have tails := ih later
        rw [show offset + 2 + count = offset + (count + 1 + 1) by omega] at tails
        simp only [scan, List.takeWhile_cons, tails]
  | case3 offset byte rest single ends ih =>
      rcases count with _ | count
      · rw [takeWhile_scan_eq_nil right (by omega), takeWhile_cons_eq_nil (by omega)]
      · rcases exists_cons_of_take_eq agree with ⟨after, rfl, later⟩
        rcases count with _ | count
        · rw [takeWhile_scan_eq_nil _ (by omega), takeWhile_cons_eq_nil (by omega)]
        · -- the byte behind a carriage return is still within the limit, so it is the same
          have alone : ∀ following, byte = 13 → after = 10 :: following → False := by
            rintro following carriage rfl
            rcases rest with _ | ⟨second, following'⟩
            · simp at later
            · simp only [List.take_succ_cons, List.cons.injEq] at later
              exact single following' carriage (by rw [later.1])
          have tails := ih later
          rw [show offset + 1 + (count + 1) = offset + (count + 1 + 1) by omega] at tails
          simp only [scan_cons_break ends alone, List.takeWhile_cons, tails]
  | case4 offset byte rest single plain ih =>
      rcases count with _ | count
      · rw [takeWhile_scan_eq_nil right (by omega), takeWhile_scan_eq_nil rest (by omega)]
      · rcases exists_cons_of_take_eq agree with ⟨after, rfl, later⟩
        have tails := ih later
        rw [show offset + 1 + count = offset + (count + 1) by omega] at tails
        simp only [scan_cons_plain plain, tails]

theorem le_getLast?_takeWhile_scan (offset limit : Nat) (bytes : Bytes) :
    offset ≤ ((scan offset bytes).takeWhile (· < limit)).getLast?.getD offset := by
  cases last : ((scan offset bytes).takeWhile (· < limit)).getLast? with
  | none => simp
  | some start =>
      have kept := List.mem_of_getLast? last
      have := lt_of_mem_scan ((List.takeWhile_sublist _).subset kept)
      simp only [Option.getD_some]
      omega

/-- The scan can be taken up again at the last line start below any limit. -/
theorem scan_eq_append (offset limit : Nat) (bytes : Bytes) :
    scan offset bytes =
      (scan offset bytes).takeWhile (· < limit) ++
        scan (((scan offset bytes).takeWhile (· < limit)).getLast?.getD offset)
          (bytes.drop
            (((scan offset bytes).takeWhile (· < limit)).getLast?.getD offset - offset)) := by
  fun_induction scan offset bytes with
  | case1 offset => simp [scan]
  | case2 offset rest ih =>
      by_cases below : offset + 2 < limit
      · have resume := le_getLast?_takeWhile_scan (offset + 2) limit rest
        rw [List.takeWhile_cons_of_pos (by simpa using below), List.getLast?_cons,
          Option.getD_some, List.cons_append]
        generalize
          ((scan (offset + 2) rest).takeWhile (· < limit)).getLast?.getD (offset + 2) = last at *
        rw [show last - offset = last - (offset + 2) + 2 by omega, List.drop_succ_cons,
          List.drop_succ_cons, ← ih]
      · rw [takeWhile_cons_eq_nil (by omega)]
        simp [scan]
  | case3 offset byte rest single ends ih =>
      by_cases below : offset + 1 < limit
      · have resume := le_getLast?_takeWhile_scan (offset + 1) limit rest
        rw [List.takeWhile_cons_of_pos (by simpa using below), List.getLast?_cons,
          Option.getD_some, List.cons_append]
        generalize
          ((scan (offset + 1) rest).takeWhile (· < limit)).getLast?.getD (offset + 1) = last at *
        rw [show last - offset = last - (offset + 1) + 1 by omega, List.drop_succ_cons, ← ih]
      · rw [takeWhile_cons_eq_nil (by omega)]
        simp [scan_cons_break ends single]
  | case4 offset byte rest single plain ih =>
      have resume := le_getLast?_takeWhile_scan (offset + 1) limit rest
      cases last : ((scan (offset + 1) rest).takeWhile (· < limit)).getLast? with
      | none =>
          have none_kept := List.getLast?_eq_none_iff.mp last
          simp [none_kept, scan_cons_plain plain]
      | some start =>
          simp only [last] at ih resume
          simp only [Option.getD_some] at ih resume ⊢
          rw [show start - offset = start - (offset + 1) + 1 by omega, List.drop_succ_cons, ← ih]

/-- Taking up the scan at an edit gives the line starts of the edited bytes. -/
theorem update_build {old new : Bytes} {offset : Nat}
    (agree : old.take offset = new.take offset) :
    update (build old) offset new = build new := by
  have kept : before (build old) offset = before (build new) offset := by
    unfold before build
    split
    · rfl
    · have starts := takeWhile_scan_congr 0 agree
      simp only [Nat.zero_add] at starts
      simp only [List.takeWhile_cons, starts]
  simp only [update, kept]
  unfold before build
  split
  · simp
  · rename_i later
    rw [List.takeWhile_cons_of_pos (by simpa using Nat.pos_of_ne_zero later), List.getLast?_cons,
      Option.getD_some, List.cons_append]
    congr 1
    exact (scan_eq_append 0 offset new).symm

end Typeset.LineIndex

import Typeset.Proofs.Source.Positions
import Typeset.Proofs.Text.Breaks

/-!
# Positions do not depend on how lines are broken

The starts of lines are found in bytes, but a carriage return or a line feed is always a
character of its own there. So the line of a place that does not split a break is the
number of breaks before it, the column is the number of characters behind the last of
them, and neither changes when the breaks are unified.
-/

namespace Typeset

open Text

namespace LineIndex

theorem eq_of_encodeChar_eq {left right : Char}
    (same : Utf8.encodeChar left = Utf8.encodeChar right) : left = right := by
  have read := Utf8.decodeChar?_encodeChar left []
  rw [same, Utf8.decodeChar?_encodeChar] at read
  exact (Prod.mk.inj (Option.some.inj read)).1.symm

/-- The bytes of a carriage return and of a line feed are bytes of no other character. -/
theorem eq_of_mem_encodeChar {char : Char} {octet : UInt8} (member : octet ∈ Utf8.encodeChar char) :
    (octet = 13 → char = '\r') ∧ (octet = 10 → char = '\n') := by
  refine ⟨?_, ?_⟩
  · rintro rfl
    exact eq_of_encodeChar_eq (Utf8.encodeChar_eq_singleton member (by decide))
  · rintro rfl
    exact eq_of_encodeChar_eq (Utf8.encodeChar_eq_singleton member (by decide))

/-- The bytes of a text begin with a line feed only if the text does. -/
theorem head?_of_encode {text : List Char} {after : Bytes}
    (begins : Utf8.encode text = 10 :: after) : text.head? = some '\n' := by
  cases text with
  | nil => cases begins
  | cons char text =>
      rw [Utf8.encode_cons] at begins
      rcases List.exists_cons_of_ne_nil (Utf8.encodeChar_ne_nil char) with ⟨first, others, shape⟩
      rw [shape, List.cons_append, List.cons.injEq] at begins
      have member : first ∈ Utf8.encodeChar char := by
        rw [shape]
        exact List.mem_cons_self
      rw [List.head?_cons, (eq_of_mem_encodeChar member).2 begins.1]

theorem length_of_break {char : Char} (ends : char = '\n' ∨ char = '\r') :
    Utf8.length [char] = 1 := by
  rcases ends with rfl | rfl <;> rfl

theorem scan_append_plain {front : Bytes} (plain : ∀ byte ∈ front, ¬(byte = 13 ∨ byte = 10))
    (offset : Nat) (rest : Bytes) :
    scan offset (front ++ rest) = scan (offset + front.length) rest := by
  induction front generalizing offset with
  | nil => rfl
  | cons byte front ih =>
      rcases List.forall_mem_cons.mp plain with ⟨here, later⟩
      rw [List.cons_append, scan_cons_plain here, ih later, List.length_cons, Nat.add_assoc,
        Nat.add_comm 1]

theorem scan_encode_pair (offset : Nat) (rest : List Char) :
    scan offset (Utf8.encode ('\r' :: '\n' :: rest)) =
      (offset + 2) :: scan (offset + 2) (Utf8.encode rest) :=
  rfl

theorem scan_encode_break {char : Char} {rest : List Char} (ends : char = '\n' ∨ char = '\r')
    (single : char = '\r' → rest.head? ≠ some '\n') (offset : Nat) :
    scan offset (Utf8.encode (char :: rest)) =
      (offset + 1) :: scan (offset + 1) (Utf8.encode rest) := by
  rcases ends with rfl | rfl
  · rfl
  · apply scan_cons_break (.inl rfl)
    intro after _ begins
    exact single rfl (head?_of_encode begins)

theorem scan_encode_plain {char : Char} (plain : ¬(char = '\n' ∨ char = '\r'))
    (rest : List Char) (offset : Nat) :
    scan offset (Utf8.encode (char :: rest)) =
      scan (offset + Utf8.length [char]) (Utf8.encode rest) := by
  have alone : Utf8.length [char] = (Utf8.encodeChar char).length := by
    rw [Utf8.length, Utf8.encode, List.flatMap_singleton]
  rw [Utf8.encode_cons, alone]
  apply scan_append_plain
  intro octet member ends
  rcases eq_of_mem_encodeChar member with ⟨carriage, feed⟩
  rcases ends with isReturn | isFeed
  · exact plain (.inr (carriage isReturn))
  · exact plain (.inl (feed isFeed))

/-- Two parts of a text are scanned one after the other, unless they split a break. -/
theorem scan_encode_append {before after : List Char} (unsplit : Unsplit before after)
    (offset : Nat) :
    scan offset (Utf8.encode (before ++ after)) =
      scan offset (Utf8.encode before) ++
        scan (offset + Utf8.length before) (Utf8.encode after) := by
  fun_induction unifyBreaks before generalizing offset with
  | case1 => rfl
  | case2 rest ih =>
      rw [List.cons_append, List.cons_append, scan_encode_pair, scan_encode_pair,
        ih unsplit.of_cons.of_cons, Utf8.length_cons, Utf8.length_cons '\n', ← Nat.add_assoc,
        ← Nat.add_assoc]
      rfl
  | case3 char rest single ih =>
      rw [List.cons_append, Utf8.length_cons, ← Nat.add_assoc]
      by_cases ends : char = '\n' ∨ char = '\r'
      · rw [scan_encode_break ends (unsplit.single single),
          scan_encode_break ends (head_ne_feed_of_single single), ih unsplit.of_cons,
          length_of_break ends]
        rfl
      · rw [scan_encode_plain ends, scan_encode_plain ends, ih unsplit.of_cons]

theorem scan_of_unbroken {text : List Char} (unbroken : Unbroken text) (offset : Nat) :
    scan offset (Utf8.encode text) = [] := by
  induction text generalizing offset with
  | nil => rfl
  | cons char text ih =>
      rcases unbroken_cons.mp unbroken with ⟨⟨noFeed, noReturn⟩, later⟩
      rw [scan_encode_plain (not_or.mpr ⟨noFeed, noReturn⟩), ih later]

/-- A text has as many breaks as before when they are unified. -/
theorem length_scan_unifyBreaks (text : List Char) (offset other : Nat) :
    (scan offset (Utf8.encode (unifyBreaks text))).length =
      (scan other (Utf8.encode text)).length := by
  have feed : '\n' = '\r' → False := by decide
  fun_induction unifyBreaks text generalizing offset other with
  | case1 => rfl
  | case2 rest ih =>
      rw [scan_encode_break (.inl rfl) fun same => (feed same).elim, scan_encode_pair,
        List.length_cons, List.length_cons, ih]
  | case3 char rest single ih =>
      by_cases ends : char = '\n' ∨ char = '\r'
      · have unified : (if char = '\r' then '\n' else char) = '\n' := by
          rcases ends with rfl | rfl <;> rfl
        rw [unified, scan_encode_break (.inl rfl) fun same => (feed same).elim,
          scan_encode_break ends (head_ne_feed_of_single single), List.length_cons,
          List.length_cons, ih]
      · rw [if_neg (not_or.mp ends).2, scan_encode_plain ends, scan_encode_plain ends, ih]

/-- The last start that is found in a text that ends with a break is its end. -/
theorem exists_scan_eq_concat {front : List Char} {ender : Char}
    (isBreak : ender = '\n' ∨ ender = '\r') :
    ∃ starts, scan 0 (Utf8.encode (front ++ [ender])) =
      starts ++ [Utf8.length (front ++ [ender])] := by
  by_cases unsplit : Unsplit front [ender]
  · refine ⟨scan 0 (Utf8.encode front), ?_⟩
    rw [scan_encode_append unsplit, scan_encode_break isBreak fun _ => by decide, Nat.zero_add,
      Utf8.length_append, length_of_break isBreak]
    rfl
  · -- the break has two characters, so the text is taken apart before both
    rcases Classical.not_imp.mp unsplit with ⟨carriage, feed⟩
    cases Classical.not_not.mp feed
    rcases List.getLast?_eq_some_iff.mp carriage with ⟨before, rfl⟩
    have cut : Unsplit before ['\r', '\n'] := unsplit_of_head (by decide)
    refine ⟨scan 0 (Utf8.encode before), ?_⟩
    rw [List.append_assoc, List.singleton_append, scan_encode_append cut, scan_encode_pair,
      Nat.zero_add, Utf8.length_append]
    rfl

/-- The last line starts behind the last break. -/
theorem getLast?_build {front : List Char} (start : AtLineStart front) :
    (build (Utf8.encode front)).getLast? = some (Utf8.length front) := by
  cases front using List.reverseRecOn with
  | nil => rfl
  | append_singleton front ender =>
      rcases exists_scan_eq_concat (start ender List.getLast?_concat) with ⟨starts, same⟩
      rw [build, same, ← List.cons_append, List.getLast?_concat]

theorem le_of_mem_build {front : List Char} {start : Nat}
    (member : start ∈ build (Utf8.encode front)) : start ≤ Utf8.length front :=
  (boundary_of_mem_build member).le_length

end LineIndex

namespace Source

variable {source : Source} {front part after : List Char}

/-- The lines up to a place start behind the breaks before it, and all others behind the place. -/
theorem WellFormed.lineStarts_append (wellFormed : source.WellFormed)
    (parts : source.text.toList = front ++ part ++ after) (unbroken : Unbroken part)
    (unsplit : Unsplit (front ++ part) after) :
    source.lineStarts = LineIndex.build (Utf8.encode front) ++
      LineIndex.scan (Utf8.length (front ++ part)) (Utf8.encode after) := by
  have cut : Unsplit front part := unsplit_of_head unbroken.head_ne_feed
  rw [wellFormed.lineStarts_eq, wellFormed.bytes_eq, parts, LineIndex.build, LineIndex.build,
    LineIndex.scan_encode_append unsplit, LineIndex.scan_encode_append cut,
    LineIndex.scan_of_unbroken unbroken, List.append_nil, Nat.zero_add, List.cons_append]

/--
The line of a place is the number of breaks before it, and its column the number of
characters behind the last of them.
-/
theorem WellFormed.position (wellFormed : source.WellFormed)
    (parts : source.text.toList = front ++ part ++ after) (start : AtLineStart front)
    (unbroken : Unbroken part) (unsplit : Unsplit (front ++ part) after) :
    source.lineOf? (Utf8.length (front ++ part)) =
        some (LineIndex.scan 0 (Utf8.encode front)).length ∧
      source.columnOf? (Utf8.length (front ++ part)) = some part.length := by
  have starts := wellFormed.lineStarts_append parts unbroken unsplit
  have inside : Utf8.length (front ++ part) ≤ source.byteCount := by
    rw [wellFormed.byteCount_eq, parts, Utf8.length_append (front ++ part)]
    omega
  have line : source.lineOf? (Utf8.length (front ++ part)) =
      some (LineIndex.scan 0 (Utf8.encode front)).length := by
    have early : ∀ start ∈ LineIndex.build (Utf8.encode front),
        decide (start ≤ Utf8.length (front ++ part)) = true := by
      intro start member
      have := LineIndex.le_of_mem_build member
      rw [Utf8.length_append, decide_eq_true_iff]
      omega
    have late := LineIndex.takeWhile_scan_eq_nil (Utf8.encode after)
      (Nat.le_refl (Utf8.length (front ++ part) + 1))
    simp only [Nat.lt_add_one_iff] at late
    rw [lineOf?, if_pos (by omega), Int.toNat_natCast, starts,
      List.takeWhile_append_of_pos early, late, List.append_nil]
    rfl
  refine ⟨line, ?_⟩
  have begins : source.lineStarts.getD (LineIndex.scan 0 (Utf8.encode front)).length 0 =
      Utf8.length front := by
    have last := LineIndex.getLast?_build start
    rw [List.getLast?_eq_getElem?] at last
    rw [starts, List.getD_eq_getElem?_getD, List.getElem?_append_left (Nat.lt_succ_self _)]
    exact congrArg (Option.getD · 0) last
  simp only [columnOf?, line, begins, Int.toNat_natCast, Option.bind_eq_bind, Option.bind_some]
  rw [wellFormed.bytes_eq, parts, Utf8.encode_between, Utf8.decode?_encode]
  rfl

/-- A place that splits no break has a line and a column, which unifying the breaks keeps. -/
theorem WellFormed.position_unifyBreaks {unified : Source} (wellFormed : source.WellFormed)
    (alsoWellFormed : unified.WellFormed)
    (texts : unified.text.toList = unifyBreaks source.text.toList) {before : List Char}
    (parts : source.text.toList = before ++ after) (unsplit : Unsplit before after) :
    ∃ line column,
      source.lineOf? (Utf8.length before) = some line ∧
      source.columnOf? (Utf8.length before) = some column ∧
      unified.lineOf? (Utf8.length (unifyBreaks before)) = some line ∧
      unified.columnOf? (Utf8.length (unifyBreaks before)) = some column := by
  rcases exists_line_start before with ⟨front, part, rfl, start, unbroken⟩
  rcases wellFormed.position parts start unbroken unsplit with ⟨line, column⟩
  have united : unifyBreaks (front ++ part) = unifyBreaks front ++ part :=
    unifyBreaks_append_of_unbroken unbroken
  have alsoUnsplit : Unsplit (unifyBreaks (front ++ part)) (unifyBreaks after) :=
    unsplit_of_not_mem (not_mem_return_unifyBreaks _)
  rw [parts, unifyBreaks_append unsplit, united] at texts
  rw [united] at alsoUnsplit ⊢
  rcases alsoWellFormed.position texts start.unifyBreaks unbroken alsoUnsplit with
    ⟨alsoLine, alsoColumn⟩
  rw [LineIndex.length_scan_unifyBreaks front 0 0] at alsoLine
  exact ⟨_, _, line, column, alsoLine, alsoColumn⟩

end Source

end Typeset

import Typeset.Proofs.Source.Edits

/-!
# The range in which two texts differ

A source that gets another text edits one range only: what the texts share at their start
and at their end stays. The shared start is the longest one, and so is the shared end
beside it, unless the two use up one of the texts. No shorter range can be edited
instead: what any edit keeps is a shared start and a shared end, and together they are no
longer than either text.
-/

namespace Typeset.Source

open Text

/-- A list is the longest one that two lists begin with. -/
structure LongestPrefix (common left right : List Char) : Prop where
  of_left : common <+: left
  of_right : common <+: right
  longest : ∀ other, other <+: left → other <+: right → other <+: common

theorem longestPrefix_take (old new : List Char) :
    LongestPrefix (old.take (commonPrefixLength old new)) old new := by
  refine ⟨List.take_prefix _ _, ?_, ?_⟩
  · rw [take_commonPrefixLength]
    exact List.take_prefix _ _
  · fun_induction commonPrefixLength old new with
    | case1 char lefts rights ih =>
        rintro (_ | ⟨first, other⟩) front back
        · exact List.nil_prefix
        · rw [List.cons_prefix_cons] at front back
          rw [List.take_succ_cons, List.cons_prefix_cons]
          exact ⟨front.1, ih other front.2 back.2⟩
    | case2 left lefts right rights differ =>
        rintro (_ | ⟨first, other⟩) front back
        · exact List.nil_prefix
        · rw [List.cons_prefix_cons] at front back
          exact absurd (front.1.symm.trans back.1) differ
    | case3 old new short =>
        intro other front back
        rcases old with _ | ⟨left, lefts⟩
        · exact front
        · rcases new with _ | ⟨right, rights⟩
          · exact back
          · exact absurd rfl (short left lefts right rights rfl)

theorem commonPrefixLength_le (old new : List Char) :
    commonPrefixLength old new ≤ old.length ∧ commonPrefixLength old new ≤ new.length := by
  fun_induction commonPrefixLength old new with
  | case1 char lefts rights ih =>
      simp only [List.length_cons]
      omega
  | case2 => omega
  | case3 => omega

/-- Two texts that differ between a shared start and a shared end, of which none can be longer. -/
structure Differ (old new common between other rest : List Char) : Prop where
  old_eq : old = common ++ between ++ rest
  new_eq : new = common ++ other ++ rest
  start : LongestPrefix common old new
  stop : LongestPrefix rest.reverse old.reverse new.reverse ∨ between = [] ∨ other = []

/-- The ends of two texts agree as far as the texts do when they are read backwards. -/
theorem drop_eq_of_le {old new : List Char} {count : Nat}
    (shared : count ≤ commonPrefixLength old.reverse new.reverse) :
    old.drop (old.length - count) = new.drop (new.length - count) := by
  have agree := congrArg (List.take count) (take_commonPrefixLength old.reverse new.reverse)
  rw [List.take_take, List.take_take, Nat.min_eq_left shared, List.take_reverse,
    List.take_reverse] at agree
  exact List.reverse_inj.mp agree

/-- What stands between a start and an end of given lengths. -/
theorem exists_between {text : List Char} {head tail : Nat} (apart : head + tail ≤ text.length) :
    ∃ between, text = text.take head ++ between ++ text.drop (text.length - tail) ∧
      between.length = text.length - tail - head := by
  refine ⟨(text.drop head).take (text.length - tail - head), ?_, ?_⟩
  · have behind : text.drop (text.length - tail) =
        (text.drop head).drop (text.length - tail - head) := by
      rw [List.drop_drop, show head + (text.length - tail - head) = text.length - tail by omega]
    rw [behind, List.append_assoc, List.take_append_drop, List.take_append_drop]
  · rw [List.length_take, List.length_drop]
    omega

theorem exists_sharedEnds (old new : List Char) :
    ∃ common between other rest, Differ old new common between other rest ∧
      sharedEnds old new = (common.length, rest.length) := by
  rcases commonPrefixLength_le old new with ⟨inOld, inNew⟩
  let head := commonPrefixLength old new
  let far := commonPrefixLength old.reverse new.reverse
  let tail := min far (min old.length new.length - head)
  have inside : head + tail ≤ old.length ∧ head + tail ≤ new.length := by omega
  rcases exists_between inside.1 with ⟨between, oldParts, betweenLength⟩
  rcases exists_between inside.2 with ⟨other, newParts, otherLength⟩
  have ends : old.drop (old.length - tail) = new.drop (new.length - tail) :=
    drop_eq_of_le (Nat.min_le_left _ _)
  rw [← take_commonPrefixLength, ← ends] at newParts
  refine ⟨_, between, other, _, ⟨oldParts, newParts, longestPrefix_take old new, ?_⟩, ?_⟩
  · -- the shared end stops where the texts differ, or where one of them is used up
    by_cases reached : far ≤ min old.length new.length - head
    · left
      have all : tail = far := Nat.min_eq_left reached
      rw [all, ← List.take_reverse]
      exact longestPrefix_take old.reverse new.reverse
    · right
      rw [← List.length_eq_zero_iff, ← List.length_eq_zero_iff]
      omega
  · have shown : sharedEnds old new = (head, tail) := rfl
    rw [shown, List.length_take, List.length_drop]
    congr 1 <;> omega

namespace Differ

variable {old new common between other rest : List Char}

/-- What any edit keeps of a text is no longer than the shared start and the shared end. -/
theorem length_le (differ : Differ old new common between other rest)
    {before cut after replacement : List Char} (was : old = before ++ cut ++ after)
    (gives : new = before ++ replacement ++ after) : Utf8.length between ≤ Utf8.length cut := by
  have front : before <+: common := by
    apply differ.start.longest
    · exact ⟨cut ++ after, by rw [was, List.append_assoc]⟩
    · exact ⟨replacement ++ after, by rw [gives, List.append_assoc]⟩
  have oldLength := congrArg Utf8.length (differ.old_eq.symm.trans was)
  have newLength := congrArg Utf8.length (differ.new_eq.symm.trans gives)
  simp only [Utf8.length_append] at oldLength newLength
  rcases differ.stop with longest | rfl | rfl
  · have back : after <:+ rest := by
      rw [← List.reverse_prefix]
      apply longest.longest
      · exact ⟨cut.reverse ++ before.reverse, by simp [was]⟩
      · exact ⟨replacement.reverse ++ before.reverse, by simp [gives]⟩
    rcases front with ⟨_, rfl⟩
    rcases back with ⟨_, rfl⟩
    simp only [Utf8.length_append] at oldLength
    omega
  · exact Nat.zero_le _
  · have nothing : Utf8.length [] = 0 := rfl
    omega

end Differ

variable {source : Source}

/-- A source that gets another text is edited where the two texts differ. -/
theorem WellFormed.replace_eq (wellFormed : source.WellFormed) {text : String}
    (another : source.text ≠ text) :
    ∃ common between other rest, Differ source.text.toList text.toList common between other rest ∧
      source.replace text = (source.revise (Utf8.length common) text.toList,
        some (Utf8.length common, Utf8.length (common ++ between))) := by
  have distinct : source.text.toList ≠ text.toList :=
    fun same => another (String.toList_inj.mp same)
  rcases exists_sharedEnds source.text.toList text.toList with
    ⟨common, between, other, rest, differ, ends⟩
  refine ⟨common, between, other, rest, differ, ?_⟩
  have front : source.text.toList.take common.length = common := by
    rw [differ.old_eq, List.append_assoc, List.take_left]
  have back : source.text.toList.drop (source.text.toList.length - rest.length) = rest := by
    rw [differ.old_eq, List.length_append, Nat.add_sub_cancel, List.drop_left]
  have stop : source.byteCount - Utf8.length rest = Utf8.length (common ++ between) := by
    rw [wellFormed.byteCount_eq, differ.old_eq, Utf8.length_append, Nat.add_sub_cancel]
  simp only [Source.replace, if_neg distinct, ends, front, back, stop]

/-- What a source keeps around a range that is edited, as its old and its new text show it. -/
structure KeepsAround (source replaced : Source) (start stop : Nat) : Prop where
  ordered : start ≤ stop ∧ stop ≤ source.byteCount
  /-- Neither end splits a character of the old text. -/
  old_boundaries : Utf8.Boundary source.text.toList start ∧ Utf8.Boundary source.text.toList stop
  /-- In the new text the same holds, with the second end counted from behind. -/
  new_boundaries : Utf8.Boundary replaced.text.toList start ∧
    Utf8.Boundary replaced.text.toList (replaced.byteCount - (source.byteCount - stop))
  front : source.bytes.take start <+: replaced.bytes
  back : source.bytes.drop stop <:+ replaced.bytes
  apart : start + (source.byteCount - stop) ≤ replaced.byteCount

theorem WellFormed.keepsAround {replaced : Source} (wellFormed : source.WellFormed)
    (alsoWellFormed : replaced.WellFormed) {common between other rest : List Char}
    (was : source.text.toList = common ++ between ++ rest)
    (gives : replaced.text.toList = common ++ other ++ rest) :
    source.KeepsAround replaced (Utf8.length common) (Utf8.length (common ++ between)) := by
  have counted := wellFormed.byteCount_eq
  have countedAfter := alsoWellFormed.byteCount_eq
  rw [was, Utf8.length_append] at counted
  rw [gives, Utf8.length_append] at countedAfter
  rcases wellFormed.bytes_of_parts was with ⟨head, tail⟩
  refine ⟨⟨?_, ?_⟩, ⟨?_, ?_⟩, ⟨?_, ?_⟩, ?_, ?_, ?_⟩
  · rw [Utf8.length_append]
    omega
  · omega
  · exact ⟨common, between ++ rest, by rw [was, List.append_assoc], rfl⟩
  · exact ⟨common ++ between, rest, was, rfl⟩
  · exact ⟨common, other ++ rest, by rw [gives, List.append_assoc], rfl⟩
  · exact ⟨common ++ other, rest, gives, by omega⟩
  · rw [head, alsoWellFormed.bytes_eq, gives, List.append_assoc, Utf8.encode_append]
    exact List.prefix_append _ _
  · rw [tail, alsoWellFormed.bytes_eq, gives, Utf8.encode_append]
    exact List.suffix_append _ _
  · rw [Utf8.length_append] at countedAfter
    omega

/--
A source that gets its own text stays as it is. Another text comes about by an edit of one
range, which begins behind the longest common start of the two texts; what stands around
it stays, and the revision grows by one. No edit of a shorter range gives the same text.
-/
theorem replace_edits_least_range (id : FileId) (first : String) (changes : List Change)
    (text : String) :
    let source := (ofText id first).afterChanges changes
    (source.text = text → source.replace text = (source, none)) ∧
    (source.text ≠ text → ∃ (replaced : Source) (start stop : Nat),
      source.replace text = (replaced, some (start, stop)) ∧
      replaced.text = text ∧ replaced.revision = source.revision + 1 ∧
      source.KeepsAround replaced start stop ∧
      (∃ replacement, source.edit start stop replacement = .ok replaced) ∧
      (∃ common, LongestPrefix common source.text.toList text.toList ∧
        start = Utf8.length common) ∧
      ∀ left right replacement edited, source.edit left right replacement = .ok edited →
        edited.text = text → (stop : Int) - start ≤ right - left) := by
  intro source
  have wellFormed : source.WellFormed := (wellFormed_ofText id first).afterChanges changes
  refine ⟨?_, ?_⟩
  · rintro rfl
    simp only [Source.replace, if_pos]
  · intro another
    rcases wellFormed.replace_eq another with ⟨common, between, other, rest, differ, done⟩
    have alsoWellFormed := wellFormed.replace text
    have gives := text_replace source text
    rw [done] at alsoWellFormed gives
    refine ⟨_, _, _, done, gives, rfl, ?_, ?_, ⟨common, differ.start, rfl⟩, ?_⟩
    · apply wellFormed.keepsAround alsoWellFormed differ.old_eq
      rw [gives]
      exact differ.new_eq
    · refine ⟨String.ofList other, ?_⟩
      rw [wellFormed.edit_of_parts differ.old_eq, String.toList_ofList, ← differ.new_eq]
    · intro left right replacement edited accepted same
      rcases wellFormed.parts_of_edit accepted with ⟨before, cut, after, split, rfl, rfl, rfl⟩
      have texts : text.toList = before ++ replacement.toList ++ after := by
        rw [← same]
        exact String.toList_ofList
      have least := differ.length_le split texts
      rw [Utf8.length_append, Utf8.length_append]
      omega

end Typeset.Source

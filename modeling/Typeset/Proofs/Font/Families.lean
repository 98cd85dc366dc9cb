import Mathlib.Data.List.Nodup
import Typeset.Font.Book

/-!
# The families of a font book

While a book goes through its faces, it keeps one spelling of each family that it meets: that of the
family's first face. In the order of their lower-case names these are the families of the book. As
every face goes by one lower-case name, the places that are selected for the families divide the
places of the book among them.
-/

namespace Typeset.FontBook

variable {front faces : List FontInfo} {face last : FontInfo}
  {found : List (String × String)} {families : List String} {select : String → List Nat}

/-! ## First faces -/

/-- A face that no face of the same family stands before. -/
def IsFirst (faces : List FontInfo) (face : FontInfo) : Prop :=
  ∃ before after, faces = before ++ face :: after ∧
    ∀ earlier ∈ before, Text.lower earlier.family ≠ Text.lower face.family

theorem IsFirst.mem (leads : IsFirst faces face) : face ∈ faces := by
  rcases leads with ⟨before, after, rfl, -⟩
  exact List.mem_append_right _ List.mem_cons_self

theorem isFirst_iff_find? : IsFirst faces face ↔
    faces.find? (Text.lower ·.family == Text.lower face.family) = some face := by
  simp [IsFirst, List.find?_eq_some_iff_append]

theorem exists_isFirst (member : face ∈ faces) :
    ∃ first, IsFirst faces first ∧ Text.lower first.family = Text.lower face.family := by
  cases search : faces.find? (Text.lower ·.family == Text.lower face.family) with
  | none =>
      have differs := List.find?_eq_none.mp search face member
      exact absurd (beq_self_eq_true _) differs
  | some first =>
      have matched := List.find?_some search
      have same : Text.lower first.family = Text.lower face.family := eq_of_beq matched
      refine ⟨first, isFirst_iff_find?.mpr ?_, same⟩
      rw [same]
      exact search

theorem isFirst_concat_iff : IsFirst (front ++ [last]) face ↔ IsFirst front face ∨
    (∀ earlier ∈ front, Text.lower earlier.family ≠ Text.lower last.family) ∧ last = face := by
  rw [isFirst_iff_find?, isFirst_iff_find?, List.find?_append, Option.or_eq_some_iff]
  apply or_congr_right
  rw [List.find?_singleton, List.find?_eq_none]
  constructor
  · rintro ⟨absent, found⟩
    split at found
    · cases found
      exact ⟨fun earlier member same => absent earlier member (beq_iff_eq.mpr same), rfl⟩
    · cases found
  · rintro ⟨absent, rfl⟩
    exact ⟨fun earlier member same => absent earlier member (eq_of_beq same),
      if_pos (beq_self_eq_true _)⟩

/-! ## Spellings -/

/-- The spellings that are kept of some faces, each under its lower-case name. -/
structure AreSpellings (found : List (String × String)) (faces : List FontInfo) : Prop where
  once : (found.map (·.1)).Nodup
  complete : ∀ name spelling, (name, spelling) ∈ found ↔
    ∃ face, IsFirst faces face ∧ Text.lower face.family = name ∧ face.family = spelling

namespace AreSpellings

theorem nil : AreSpellings [] [] where
  once := List.nodup_nil
  complete name spelling := by simp [IsFirst]

theorem name_eq {name spelling : String} (kept : AreSpellings found faces)
    (member : (name, spelling) ∈ found) : Text.lower spelling = name := by
  rcases (kept.complete name spelling).mp member with ⟨face, -, rfl, rfl⟩
  rfl

theorem any_iff (kept : AreSpellings found front) :
    found.any (·.1 == Text.lower face.family) = true ↔
      ∃ earlier ∈ front, Text.lower earlier.family = Text.lower face.family := by
  rw [List.any_eq_true]
  constructor
  · rintro ⟨⟨name, spelling⟩, member, same⟩
    rcases (kept.complete name spelling).mp member with ⟨first, leads, rfl, rfl⟩
    exact ⟨first, leads.mem, eq_of_beq same⟩
  · rintro ⟨earlier, member, same⟩
    rcases exists_isFirst member with ⟨first, leads, named⟩
    refine ⟨_, (kept.complete _ _).mpr ⟨first, leads, rfl, rfl⟩, ?_⟩
    exact beq_iff_eq.mpr (named.trans same)

/-- A further face of a known family changes nothing. -/
theorem again (kept : AreSpellings found front)
    (known : found.any (·.1 == Text.lower face.family) = true) :
    AreSpellings found (front ++ [face]) where
  once := kept.once
  complete name spelling := by
    rcases kept.any_iff.mp known with ⟨earlier, member, same⟩
    have notNew : ¬∀ earlier ∈ front, Text.lower earlier.family ≠ Text.lower face.family :=
      fun new => new earlier member same
    simp only [kept.complete, isFirst_concat_iff, notNew, false_and, or_false]

/-- The first face of a family adds its spelling. -/
theorem anew (kept : AreSpellings found front)
    (unknown : ¬found.any (·.1 == Text.lower face.family) = true) :
    AreSpellings (found ++ [(Text.lower face.family, face.family)]) (front ++ [face]) where
  once := by
    rw [List.map_append, List.map_singleton, List.nodup_append]
    refine ⟨kept.once, List.nodup_singleton _, ?_⟩
    rintro name listed _ single rfl
    rw [List.mem_singleton] at single
    rcases List.mem_map.mp listed with ⟨entry, member, same⟩
    exact unknown (List.any_eq_true.mpr ⟨entry, member, beq_iff_eq.mpr (same.trans single)⟩)
  complete name spelling := by
    have new : ∀ earlier ∈ front, Text.lower earlier.family ≠ Text.lower face.family :=
      fun earlier member same => unknown (kept.any_iff.mpr ⟨earlier, member, same⟩)
    rw [List.mem_append, kept.complete, List.mem_singleton, Prod.mk.injEq]
    constructor
    · rintro (⟨first, leads, named⟩ | ⟨rfl, rfl⟩)
      · exact ⟨first, isFirst_concat_iff.mpr (.inl leads), named⟩
      · exact ⟨face, isFirst_concat_iff.mpr (.inr ⟨new, rfl⟩), rfl, rfl⟩
    · rintro ⟨first, leads, rfl, rfl⟩
      rcases isFirst_concat_iff.mp leads with earlier | ⟨-, rfl⟩
      · exact .inl ⟨first, earlier, rfl, rfl⟩
      · exact .inr ⟨rfl, rfl⟩

/-- What is kept of the faces in front stays right while the book goes through further faces. -/
theorem through (kept : AreSpellings found front) (faces : List FontInfo) :
    AreSpellings (spellings found faces) (front ++ faces) := by
  -- every step moves one face to the front, with what is kept then
  induction faces generalizing found front with
  | nil =>
      rw [List.append_nil]
      exact kept
  | cons face faces ih =>
      rw [List.append_cons, spellings]
      apply ih
      split
      · next known => exact kept.again known
      · next unknown => exact kept.anew unknown

/-- The spellings in the order of their lower-case names, of which no two are alike. -/
theorem pairwise_mergeSort (kept : AreSpellings found faces) :
    (found.mergeSort fun left right => decide (left.1 ≤ right.1)).Pairwise
      fun earlier later => earlier.1 < later.1 := by
  have inOrder : (found.mergeSort fun left right => decide (left.1 ≤ right.1)).Pairwise
      fun earlier later => decide (earlier.1 ≤ later.1) = true := by
    apply List.pairwise_mergeSort
    · intro first second third
      simp only [decide_eq_true_eq]
      exact String.le_trans
    · intro left right
      simp only [Bool.or_eq_true, decide_eq_true_eq]
      exact String.le_total left.1 right.1
  have once : ((found.mergeSort fun left right => decide (left.1 ≤ right.1)).map (·.1)).Nodup :=
    ((List.mergeSort_perm _ _).map _).nodup_iff.mpr kept.once
  apply inOrder.imp₂ _ (List.pairwise_map.mp once)
  intro earlier later upTo apart
  apply String.not_le.mp
  intro reversed
  exact apart (String.le_antisymm (of_decide_eq_true upTo) reversed)

end AreSpellings

theorem areSpellings_spellings (faces : List FontInfo) : AreSpellings (spellings [] faces) faces :=
  AreSpellings.nil.through faces

/-! ## Families -/

/-- A listing of the families of some faces in the order of their lower-case names. -/
structure ListsFamilies (faces : List FontInfo) (families : List String) : Prop where
  ascending : families.Pairwise fun earlier later => Text.lower earlier < Text.lower later
  complete : ∀ family, family ∈ families ↔ ∃ face, IsFirst faces face ∧ face.family = family

theorem listsFamilies_families (book : FontBook) : ListsFamilies book.faces book.families where
  ascending := by
    have kept := areSpellings_spellings book.faces
    apply List.pairwise_map.mpr
    apply kept.pairwise_mergeSort.imp_of_mem
    intro earlier later early late ascends
    rwa [kept.name_eq (List.mem_mergeSort.mp early), kept.name_eq (List.mem_mergeSort.mp late)]
  complete family := by
    simp [families, (areSpellings_spellings book.faces).complete]

/-! ## Places -/

/-- A choice of the places at which the faces of each family stand. -/
structure SelectsPlaces (faces : List FontInfo) (select : String → List Nat) : Prop where
  ascending : ∀ family, (select family).Pairwise (· < ·)
  complete : ∀ family place, place ∈ select family ↔
    ∃ face, faces[place]? = some face ∧ Text.lower face.family = Text.lower family

theorem selectFrom_eq (wanted : String) (start : Nat) (faces : List FontInfo) :
    selectFrom wanted start faces =
      ((faces.zipIdx start).filter (Text.lower ·.1.family = wanted)).map (·.2) := by
  induction faces generalizing start with
  | nil => rfl
  | cons face faces ih =>
      rw [selectFrom, List.zipIdx_cons, List.filter_cons]
      split
      · next same => simp [same, ih]
      · next differs => simp [differs, ih]

theorem selectsPlaces_selectFamily (book : FontBook) :
    SelectsPlaces book.faces book.selectFamily where
  ascending family := by
    have counted : (book.faces.zipIdx.map (·.2)).Pairwise (· < ·) := by
      rw [List.zipIdx_map_snd]
      exact List.pairwise_lt_range'
    rw [selectFamily, selectFrom_eq]
    exact counted.sublist (List.filter_sublist.map _)
  complete family place := by
    simp [selectFamily, selectFrom_eq, List.mk_mem_zipIdx_iff_getElem?]

/-! ## The division of a book -/

/-- Every one of so many places belongs to one family, and every family has a place. -/
structure Divides (families : List String) (select : String → List Nat) (count : Nat) :
    Prop where
  nonempty : ∀ family ∈ families, select family ≠ []
  disjoint : families.Pairwise fun family other => (select family).Disjoint (select other)
  covers : ∀ place, (∃ family ∈ families, place ∈ select family) ↔ place < count

/-- However the families are listed and their places chosen, they divide the faces. -/
theorem divides_of_lists (lists : ListsFamilies faces families)
    (selects : SelectsPlaces faces select) : Divides families select faces.length where
  nonempty family listed := by
    rcases (lists.complete family).mp listed with ⟨face, leads, rfl⟩
    rcases List.mem_iff_getElem?.mp leads.mem with ⟨place, there⟩
    exact List.ne_nil_of_mem ((selects.complete _ place).mpr ⟨face, there, rfl⟩)
  disjoint := by
    apply lists.ascending.imp
    intro family other ascends place selected selected'
    rcases (selects.complete _ _).mp selected with ⟨face, there, named⟩
    rcases (selects.complete _ _).mp selected' with ⟨face', there', named'⟩
    -- a face at a common place would give both families one lower-case name
    cases there.symm.trans there'
    exact String.ne_of_lt ascends (named.symm.trans named')
  covers place := by
    constructor
    · rintro ⟨family, -, selected⟩
      rcases (selects.complete _ _).mp selected with ⟨face, there, -⟩
      exact (List.getElem?_eq_some_iff.mp there).1
    · intro below
      rcases exists_isFirst (List.getElem_mem below) with ⟨first, leads, named⟩
      refine ⟨first.family, (lists.complete _).mpr ⟨first, leads, rfl⟩, ?_⟩
      exact (selects.complete _ _).mpr ⟨_, List.getElem?_eq_getElem below, named.symm⟩

/--
The families of a book ascend by their lower-case names, each in the spelling of its first face. The
places that are selected for a name are those of the faces with that lower-case name. So every face
is found under one family, and no family is without a face.
-/
theorem families_divide_faces (book : FontBook) :
    ListsFamilies book.faces book.families ∧ SelectsPlaces book.faces book.selectFamily ∧
      Divides book.families book.selectFamily book.faces.length := by
  have lists := listsFamilies_families book
  have selects := selectsPlaces_selectFamily book
  exact ⟨lists, selects, divides_of_lists lists selects⟩

end Typeset.FontBook

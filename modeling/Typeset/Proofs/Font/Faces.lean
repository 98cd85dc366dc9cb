import Mathlib.Data.Set.Finite.Lattice
import Typeset.Font.Face

/-!
# The faces of a font file

A collection is asked for one face after another, so a face is found exactly if it and all faces
before it open, and it is listed if it has a family. Any way to open faces that opens finitely
many of each font file can be used to read them.
-/

namespace Typeset.FaceReader

variable {reader : FaceReader} {data : Bytes} {first count place : Nat} {info : FontInfo}

/-- A face that is found in a font file, under the names that stand for it. -/
structure HasFace (reader : FaceReader) (data : Bytes) (place : Nat) (info : FontInfo) : Prop where
  opens : ∀ earlier ≤ place, (reader.open? data earlier).isSome = true
  named : (reader.open? data place).bind named? = some info

theorem mem_facesFrom_iff : (place, info) ∈ reader.facesFrom data first count ↔
    first ≤ place ∧ place < first + count ∧
      (∀ earlier, first ≤ earlier → earlier ≤ place → (reader.open? data earlier).isSome = true) ∧
      (reader.open? data place).bind named? = some info := by
  induction count generalizing first with
  | zero =>
      simp only [facesFrom, List.not_mem_nil, false_iff]
      rintro ⟨from_first, below, -⟩
      omega
  | succ count ih =>
      rw [facesFrom]
      split
      · next closed =>
          simp only [List.not_mem_nil, false_iff]
          rintro ⟨from_first, -, opens, -⟩
          have opened := opens first le_rfl from_first
          rw [closed] at opened
          cases opened
      · next names opened =>
          simp only [List.mem_append, Option.mem_toList, Option.map_eq_some_iff, Prod.mk.injEq, ih]
          constructor
          · rintro (⟨face, named, rfl, rfl⟩ | ⟨later, below, opens, named⟩)
            · refine ⟨le_rfl, by omega, ?_, ?_⟩
              · intro earlier from_first upTo
                rw [le_antisymm upTo from_first, opened]
                rfl
              · rw [opened]
                exact named
            · refine ⟨by omega, by omega, ?_, named⟩
              intro earlier from_first upTo
              rcases eq_or_lt_of_le from_first with rfl | after
              · rw [opened]
                rfl
              · exact opens earlier after upTo
          · rintro ⟨from_first, below, opens, named⟩
            rcases eq_or_lt_of_le from_first with rfl | after
            · rw [opened] at named
              exact .inl ⟨info, named, rfl, rfl⟩
            · refine .inr ⟨after, by omega, ?_, named⟩
              intro earlier from_second upTo
              exact opens earlier (by omega) upTo

theorem pairwise_facesFrom (reader : FaceReader) (data : Bytes) (first count : Nat) :
    (reader.facesFrom data first count).Pairwise fun left right => left.1 < right.1 := by
  induction count generalizing first with
  | zero => exact List.Pairwise.nil
  | succ count ih =>
      rw [facesFrom]
      split
      · exact List.Pairwise.nil
      · next names opened =>
          apply List.pairwise_append.mpr
          refine ⟨?_, ih (first + 1), ?_⟩
          · cases named? names with
            | none => exact List.Pairwise.nil
            | some face => exact List.pairwise_singleton _ _
          · rintro ⟨left, _⟩ early ⟨right, _⟩ late
            rw [Option.mem_toList, Option.map_eq_some_iff] at early
            rcases early with ⟨_, -, same⟩
            cases same
            exact (mem_facesFrom_iff.mp late).1

/-- A collection lists all faces that are found in it, and another font file its first face. -/
theorem mem_faces_iff {isCollection : Bool} : (place, info) ∈ reader.faces data isCollection ↔
    (isCollection = true ∨ place = 0) ∧ reader.HasFace data place info := by
  rw [faces, mem_facesFrom_iff]
  constructor
  · rintro ⟨-, below, opens, named⟩
    refine ⟨?_, fun earlier => opens earlier (Nat.zero_le _), named⟩
    cases isCollection with
    | true => exact .inl rfl
    | false =>
        simp only [Bool.false_eq_true, if_false] at below
        exact .inr (by omega)
  · rintro ⟨asked, opens, named⟩
    refine ⟨Nat.zero_le _, ?_, fun earlier _ => opens earlier, named⟩
    rcases asked with rfl | rfl
    · have open_below : place < reader.limit data := by
        by_contra beyond
        have opened := opens place le_rfl
        rw [reader.open?_eq_none data place (Nat.not_lt.mp beyond)] at opened
        cases opened
      simp only [if_true]
      omega
    · split <;> omega

theorem pairwise_faces (reader : FaceReader) (data : Bytes) (isCollection : Bool) :
    (reader.faces data isCollection).Pairwise fun left right => left.1 < right.1 :=
  pairwise_facesFrom reader data 0 _

/-- Whatever opens finitely many faces of each font file is a face reader. -/
theorem exists_reader (opens : Bytes → Nat → Option FaceNames)
    (finite : ∀ data, {place | (opens data place).isSome = true}.Finite) :
    ∃ reader : FaceReader, reader.open? = opens := by
  choose bound below using fun data => (finite data).bddAbove
  refine ⟨⟨fun data => bound data + 1, opens, ?_⟩, rfl⟩
  intro data place beyond
  by_contra opened
  have upTo : place ≤ bound data := below data (Option.isSome_iff_ne_none.mpr opened)
  omega

end Typeset.FaceReader

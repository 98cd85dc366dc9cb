import Typeset.Proofs.Disk.Walks
import Typeset.Proofs.Text.Utf8

/-!
# Lengths of paths

A path is as long as its components and the slashes between them. So what is walked along
as a part of a longer path can be walked along itself, and in the place of a path any other
that is no longer.
-/

namespace Typeset

open Text

namespace HostPath

/-- The number of bytes of components with a slash before each. -/
def spelled : List String → Nat
  | [] => 0
  | first :: rest => 1 + Utf8.length first.toList + spelled rest

@[simp]
theorem spelled_nil : spelled [] = 0 := rfl

@[simp]
theorem spelled_cons (first : String) (rest : List String) :
    spelled (first :: rest) = 1 + Utf8.length first.toList + spelled rest := rfl

@[simp]
theorem spelled_append (front back : List String) :
    spelled (front ++ back) = spelled front + spelled back := by
  induction front with
  | nil => simp
  | cons first rest ih =>
      rw [List.cons_append, spelled_cons, spelled_cons, ih, Nat.add_assoc _ (spelled rest)]

theorem length_intercalate (first : String) (rest : List String) :
    Utf8.length (['/'].intercalate ((first :: rest).map String.toList)) =
      Utf8.length first.toList + spelled rest := by
  induction rest generalizing first with
  | nil => simp
  | cons next rest ih =>
      rw [List.map_cons, List.map_cons, List.intercalate_cons_cons, ← List.map_cons,
        Utf8.length_append, Utf8.length_append, ih next, spelled_cons]
      have slash : Utf8.length ['/'] = 1 := rfl
      omega

theorem length_render (anchor : Anchor) (first : String) (rest : List String) :
    Utf8.length (render ⟨anchor, first :: rest⟩).toList =
      Utf8.length anchor.render.toList + Utf8.length first.toList + spelled rest := by
  have text : (render ⟨anchor, first :: rest⟩).toList =
      anchor.render.toList ++ ['/'].intercalate ((first :: rest).map String.toList) := by
    simp [render, String.toList_intercalate]
  rw [text, Utf8.length_append, length_intercalate, Nat.add_assoc]

/-- The number of bytes of a relative path, but for the one of a path without components. -/
theorem length_relative (components : List String) :
    Utf8.length (render ⟨.relative, components⟩).toList =
      if components = [] then 1 else spelled components - 1 := by
  cases components with
  | nil => rfl
  | cons first rest =>
      rw [length_render, spelled_cons, if_neg (List.cons_ne_nil _ _)]
      have bare : Utf8.length Anchor.relative.render.toList = 0 := rfl
      omega

/-- A relative path is walkable when its components are clean and not too long together. -/
theorem walkable_iff {path : HostPath} :
    path.Walkable ↔ path.anchor = .relative ∧ spelled path.components ≤ Disk.maxPathLength + 1 ∧
      ∀ component ∈ path.components, '\x00' ∉ component.toList := by
  rcases path with ⟨anchor, components⟩
  have clean : ¬HasZero ⟨anchor, components⟩ ↔
      ∀ component ∈ components, '\x00' ∉ component.toList := by
    simp [hasZero_iff]
  constructor
  · rintro ⟨noZero, short, rfl⟩
    refine ⟨rfl, ?_, clean.mp noZero⟩
    rw [length_relative] at short
    split at short
    · next top => simp [top]
    · dsimp only
      omega
  · rintro ⟨rfl, short, noZero⟩
    refine ⟨clean.mpr noZero, ?_, rfl⟩
    rw [length_relative]
    split
    · decide
    · dsimp only at short
      omega

theorem Walkable.of_append {path : HostPath} {names more : List String}
    (walkable : (path.append (names ++ more)).Walkable) : (path.append names).Walkable := by
  rw [walkable_iff] at walkable ⊢
  rcases walkable with ⟨relative, short, clean⟩
  simp only [append, ← List.append_assoc, spelled_append] at relative short clean ⊢
  exact ⟨relative, by omega, fun name member => clean name (List.mem_append_left _ member)⟩

end HostPath

end Typeset
